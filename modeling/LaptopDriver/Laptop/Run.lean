import LaptopDriver.Laptop.Basic
import LaptopDriver.Laptop.Reading
import LaptopDriver.Program.Execution

/-!
# Operations on the driver and runs of them

Everything that the rest of the system can have the driver do is an `Operation`, and its answer is
an `Outcome`. Whether a driver is loaded is part of the question, so `Operation.perform` takes and
returns an `Option Laptop`: while no driver is loaded nothing but loading is possible, and loading
is refused while one is. A refused operation asks nothing of the hardware.

A run is a list of steps. Between two operations the hardware may change by itself: a level moves,
an event arrives, a battery is taken out. So a `Step` is a change of the hardware's state followed by
an operation, and a run records for every step how it ended, which driver was loaded after it, and
the state of the hardware and the trace of requests that it left.

How an operation is executed is a parameter: the driver's requests can be answered one by one, or
be carried out by the instructions of the processor.
-/

namespace LaptopDriver

open Display Hotkey Thermal

/-! ### Operations -/

/-- Something that the driver can be asked to do. -/
inductive Operation where
  /-- Load the driver. -/
  | load (settings : Settings)
  /-- Unload the driver. -/
  | unload
  /-- Handle the interrupt with a given number. -/
  | interrupt (number : Nat)
  /-- Report the position of the lid; the status is zero while it is closed. -/
  | reportLid (status : Int)
  /-- Put the devices to sleep. -/
  | suspend
  /-- Wake the devices up. -/
  | resume
  /-- Ask for a brightness. -/
  | setBrightness (request : BrightnessRequest)
  /-- Change the mode of the fan to the one that has a given number. -/
  | setFanMode (number : Nat)
  /-- Ask for a level of the fan. -/
  | setFanLevel (level : Nat)
  /-- Take a reading. -/
  | read (reading : Reading)
  deriving DecidableEq, Repr

/-- How an operation ended. -/
inductive Outcome where
  /-- There is no driver that could do it. -/
  | notLoaded
  /-- A driver is loaded already. -/
  | alreadyLoaded
  /-- It is done, and there is nothing to say about it. -/
  | done
  /-- The driver could not be loaded or woken up. -/
  | startFailed (error : StartError)
  /-- The number stands for no fan mode. -/
  | fanModeRefused (refusal : InvalidFanMode)
  /-- The interrupt core is told so much. -/
  | verdict (verdict : Verdict)
  /-- Something was read. -/
  | value (value : Value)
  deriving DecidableEq, Repr

namespace Laptop

/-- Change the mode of the fan to the one that has a given number. -/
def setFanMode (number : Nat) : Routine Outcome :=
  match FanMode.ofNumber number with
  | .error refusal => do
    Routine.log (.fanModeRefused refusal)
    pure (.fanModeRefused refusal)
  | .ok mode => do
    Fan.setMode mode
    pure .done

/-- Carry out an operation on a loaded driver. -/
def perform (laptop : Laptop) : Operation → Routine (Outcome × Option Laptop)
  | .load _ => pure (.alreadyLoaded, some laptop)
  | .unload => do
    unload
    pure (.done, none)
  | .interrupt number => do
    let (verdict, history) ← Hotkey.interrupt number laptop.history
    pure (.verdict verdict, some { laptop with history })
  | .reportLid status => do
    Input.reportLid status
    pure (.value (.number status), some laptop)
  | .suspend => do
    suspend
    pure (.done, some laptop)
  | .resume => do
    match ← resume laptop.settings.settleTime with
    | .error error => pure (.startFailed error, some laptop)
    | .ok () => pure (.done, some laptop)
  | .setBrightness request => do
    let backlight ← laptop.backlight.update request
    pure (.done, some { laptop with backlight })
  | .setFanMode number => do
    let outcome ← setFanMode number
    pure (outcome, some laptop)
  | .setFanLevel level => do
    Fan.setLevel level
    pure (.done, some laptop)
  | .read reading => do
    let value ← reading.take
    pure (.value value, some laptop)

end Laptop

namespace Operation

/-- Carry out an operation while no driver is loaded. -/
def performUnloaded : Operation → Routine (Outcome × Option Laptop)
  | load settings => do
    match ← Laptop.load settings with
    | .error error => pure (.startFailed error, none)
    | .ok laptop => pure (.done, some laptop)
  | _ => pure (.notLoaded, none)

/-- Carry out an operation. -/
def perform (operation : Operation) : Option Laptop → Routine (Outcome × Option Laptop)
  | none => operation.performUnloaded
  | some laptop => laptop.perform operation

end Operation

/-! ### Runs -/

/-- A change of the hardware by itself, and an operation after it. -/
structure Step (σ : Type) where
  /-- What happens to the hardware before the operation. -/
  change : σ → σ
  operation : Operation

/-- What is known after a step. -/
structure Stage {Op : Type} (Answer : Op → Type) (σ : Type) where
  /-- How the operation ended. -/
  outcome : Outcome
  /-- The driver that is loaded now. -/
  laptop : Option Laptop
  /-- The state of the hardware now. -/
  hardware : σ
  /-- The requests of the step, with their answers. -/
  trace : List (Exchange Answer)

variable {Op : Type} {Answer : Op → Type} {σ : Type}

/-- A way to execute routines on hardware with states in `σ`. -/
abbrev Executor (Answer : Op → Type) (σ : Type) : Type 1 :=
  {α : Type} → Routine α → σ → Execution Answer σ α

/-- Execute one step. -/
def Step.execute (executor : Executor Answer σ) (step : Step σ) (laptop : Option Laptop)
    (hardware : σ) : Stage Answer σ :=
  let execution := executor (step.operation.perform laptop) (step.change hardware)
  { outcome := execution.value.1
    laptop := execution.value.2
    hardware := execution.state
    trace := execution.trace }

/-- Execute a list of steps, each from where the last one left off. -/
def run (executor : Executor Answer σ) :
    List (Step σ) → Option Laptop → σ → List (Stage Answer σ)
  | [], _, _ => []
  | step :: steps, laptop, hardware =>
    let stage := step.execute executor laptop hardware
    stage :: run executor steps stage.laptop stage.hardware

end LaptopDriver
