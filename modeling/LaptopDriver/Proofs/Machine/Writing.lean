import LaptopDriver.Proofs.Machine.Register
import LaptopDriver.Proofs.Transition

/-!
# Which registers an operation writes

Every operation has a short list of registers of the controller that it may write
(`Operation.writable`), and it writes no other one, on whatever hardware it runs. Like the topics of
a routine this is a fact about the tree of its requests, `Routine.WritesTo`, and is put together along
the construction of the routine; a routine that is not about writing at all is covered by its topics
(`Within.writesTo`).

So a register has few owners. What it holds after a run is what they wrote to it last, unless the
machine changed it by itself (`register_hardwareAfter`).
-/

namespace LaptopDriver

open Controller Display Hotkey Thermal

/-- The request writes to no register of the controller but those. -/
@[simp]
def Request.WritesTo (registers : List Register) : Request Chipset.Request → Prop
  | .controller (.write register _) => register ∈ registers
  | _ => True

namespace Routine

variable {α β : Type} {registers : List Register}

/-- The routine writes to no register of the controller but those. -/
def WritesTo (registers : List Register) (routine : Routine α) : Prop :=
  routine.Asks (Request.WritesTo registers)

/-! ### Along the construction of a routine -/

theorem writesTo_done (value : α) : WritesTo registers (.done value) :=
  trivial

theorem WritesTo.bind {routine : Routine α} {next : α → Routine β} (h : WritesTo registers routine)
    (hnext : ∀ value, WritesTo registers (next value)) : WritesTo registers (routine >>= next) :=
  Program.Asks.bind h hnext

theorem WritesTo.mono {wider : List Register} {routine : Routine α} (h : WritesTo registers routine)
    (hsub : registers ⊆ wider) : WritesTo wider routine := by
  refine Program.Asks.mono h fun request hwrites ↦ ?_
  cases request with
  | controller request =>
    cases request with
    | write register value => exact hsub hwrites
    | _ => trivial
  | _ => trivial

theorem writesTo_write {register : Register} (h : register ∈ registers) (value : UInt8) :
    WritesTo registers (Routine.write register value) :=
  ⟨h, fun _ ↦ trivial⟩

/-- A routine that is not about writing writes to no register. -/
theorem Within.writesTo {topics : List Topic} {routine : Routine α} (h : Within topics routine)
    (hwriting : Topic.writing ∉ topics) : WritesTo registers routine := by
  refine Program.Asks.mono h fun request hmem ↦ ?_
  cases request with
  | controller request =>
    cases request with
    | write register value => exact absurd hmem hwriting
    | _ => trivial
  | _ => trivial

/-- A register that a routine does not write to is not written in its trace. -/
theorem WritesTo.written_eq_nil {σ : Type}
    (respond : Responder (Request.Answer Chipset.Request.Answer) σ) {routine : Routine α}
    (h : WritesTo registers routine) {register : Register} (hregister : register ∉ registers)
    (state : σ) : Trace.written register (routine.execute respond state).trace = [] := by
  refine List.filterMap_eq_nil_iff.2 fun exchange hmem ↦ ?_
  have hwrites := Program.Asks.mem_trace respond h state exchange hmem
  unfold Trace.written?
  split
  · next other value _ =>
    have hne : other ≠ register := by
      rintro rfl
      exact hregister hwrites
    exact if_neg hne
  · rfl

end Routine

open Routine

/-! ### Devices -/

theorem Thermal.Fan.writesTo_setMode (mode : FanMode) :
    WritesTo [.fanManual, .fanLevel] (Fan.setMode mode) := by
  cases mode with
  | fullSpeed =>
    exact (writesTo_write (by simp) 1).bind fun _ ↦ writesTo_write (by simp) maxFanLevel
  | manual => exact writesTo_write (by simp) 1
  | automatic => exact writesTo_write (by simp) 0

theorem Thermal.Fan.writesTo_setLevel (request : Nat) :
    WritesTo [.fanControl, .fanLevel] (Fan.setLevel request) := by
  refine ((within_read .fanManual).writesTo (by simp)).bind fun manual ↦ ?_
  by_cases hmanual : manual = 1
  · simp only [if_pos hmanual]
    split
    · exact (writesTo_write (by simp) 1).bind fun _ ↦ writesTo_write (by simp) _
    · exact writesTo_write (by simp) _
  · simp only [if_neg hmanual]
    exact (within_log _).writesTo (by simp)

theorem Display.Backlight.writesTo_update (backlight : Backlight) (request : BrightnessRequest) :
    WritesTo [.displayBrightness] (backlight.update request) := by
  rw [Backlight.update]
  split
  · exact writesTo_done _
  · refine (Backlight.within_currentLevel.writesTo (by simp)).bind fun current ↦ ?_
    by_cases hcurrent : current = backlight.remembered
    · simp only [if_pos hcurrent]
      exact (writesTo_write (by simp) _).bind fun _ ↦ writesTo_done _
    · simp only [if_neg hcurrent]
      exact ((within_log _).writesTo (by simp)).bind fun _ ↦ writesTo_done _

theorem Display.Backlight.writesTo_adopt : WritesTo [.displayBrightness] Backlight.adopt :=
  (Backlight.within_currentLevel.writesTo (by simp)).bind fun _ ↦ Backlight.writesTo_update _ _

/-! ### Events -/

namespace Hotkey

/-- Only the policy of the camera writes. -/
theorem Policy.writesTo_apply (policy : Policy) (value : Int) (history : History) :
    WritesTo [.cameraControl] (policy.apply value history) := by
  have hwithin := policy.within_apply value history
  cases policy with
  | disableCamera =>
    refine ((within_read .cameraControl).writesTo (by simp)).bind fun control ↦ ?_
    exact (writesTo_write (by simp) _).bind fun _ ↦ writesTo_done _
  | _ => exact hwithin.writesTo (by simp [Policy.topics])

theorem Event.writesTo_evaluate (event : Event) (history : History) :
    WritesTo [.cameraControl] (event.evaluate history) := by
  refine (event.within_value.writesTo (by simp)).bind fun value ↦ ?_
  cases event.policy? with
  | some policy => exact policy.writesTo_apply value history
  | none => exact writesTo_done _

theorem writesTo_respond (event : Event) (history : History) :
    WritesTo [.cameraControl] (respond event history) := by
  rw [respond_eq]
  refine (event.writesTo_evaluate history).bind fun evaluation ↦ ?_
  refine ((within_log _).writesTo (by simp)).bind fun _ ↦ ?_
  exact ((event.within_report _ _).writesTo (by simp)).bind fun _ ↦ writesTo_done _

theorem writesTo_serve (code : UInt8) (history : History) :
    WritesTo [.cameraControl] (serve code history) := by
  rw [serve]
  split
  · split
    · exact (writesTo_respond _ _).bind fun _ ↦ writesTo_done _
    · exact ((within_log _).writesTo (by simp)).bind fun _ ↦ writesTo_done _
  · exact ((within_log _).writesTo (by simp)).bind fun _ ↦ writesTo_done _

theorem writesTo_interrupt (number : Nat) (history : History) :
    WritesTo [.cameraControl] (interrupt number history) := by
  rw [interrupt]
  split
  · refine WritesTo.bind ⟨trivial, fun _ ↦ trivial⟩ fun answer ↦ ?_
    cases answer with
    | error fault => exact ((within_log _).writesTo (by simp)).bind fun _ ↦ writesTo_done _
    | ok => exact WritesTo.bind ⟨trivial, fun _ ↦ trivial⟩ fun code ↦ writesTo_serve code history
  · exact writesTo_done _

end Hotkey

/-! ### The driver -/

namespace Laptop

theorem writesTo_switchDevices (on : Bool) :
    WritesTo [.usb0Flag, .usb1Flag, .usb2Flag, .wlan] (switchDevices on) := by
  refine ((within_switchPanel on).writesTo (by simp)).bind fun _ ↦ ?_
  refine ((Output.within_switch _ _).writesTo (by simp)).bind fun _ ↦ ?_
  refine WritesTo.bind ?_ fun _ ↦ writesTo_write (by simp) _
  refine (writesTo_write (by simp) _).bind fun _ ↦ ?_
  exact (writesTo_write (by simp) _).bind fun _ ↦ writesTo_write (by simp) _

theorem writesTo_load (settings : Settings) :
    WritesTo [.displayBrightness, .fanManual, .wlan] (load settings) := by
  have hwireless : WritesTo [.displayBrightness, .fanManual, .wlan]
      (if settings.wirelessOnLoad then switchWireless true else pure () : Routine Unit) := by
    split
    · exact writesTo_write (by simp) _
    · exact writesTo_done ()
  rw [load_eq, prepare_eq]
  refine WritesTo.bind ?_ fun backlight ↦ (within_start settings backlight).writesTo (by simp)
  refine ((within_log _).writesTo (by simp)).bind fun _ ↦ ?_
  refine (Backlight.writesTo_adopt.mono (by simp)).bind fun backlight ↦ ?_
  refine WritesTo.bind ?_ fun _ ↦ writesTo_done _
  exact (writesTo_write (by simp) 0).bind fun _ ↦ hwireless

theorem writesTo_resume (settleTime : Nat) :
    WritesTo [.usb0Flag, .usb1Flag, .usb2Flag, .wlan] (resume settleTime) := by
  refine (writesTo_switchDevices true).bind fun _ ↦ ?_
  refine ((InterruptLine.within_rearm settleTime).writesTo (by simp)).bind fun answer ↦ ?_
  cases answer with
  | error fault => exact ((within_log _).writesTo (by simp)).bind fun _ ↦ writesTo_done _
  | ok => exact writesTo_done _

theorem writesTo_setFanMode (number : Nat) :
    WritesTo [.fanManual, .fanLevel] (setFanMode number) := by
  rw [setFanMode]
  split
  · exact ((within_log _).writesTo (by simp)).bind fun _ ↦ writesTo_done _
  · exact (Fan.writesTo_setMode _).bind fun _ ↦ writesTo_done _

end Laptop

namespace Operation

/-- The registers of the controller that an operation may write. -/
def writable : Operation → List Register
  | load _ => [.displayBrightness, .fanManual, .wlan]
  | interrupt _ => [.cameraControl]
  | suspend => [.usb0Flag, .usb1Flag, .usb2Flag, .wlan]
  | resume => [.usb0Flag, .usb1Flag, .usb2Flag, .wlan]
  | setBrightness _ => [.displayBrightness]
  | setFanMode _ => [.fanManual, .fanLevel]
  | setFanLevel _ => [.fanControl, .fanLevel]
  | unload | reportLid _ | read _ => []

/-- Whatever is loaded, an operation writes to no register but those that it may write. -/
theorem writesTo_perform (operation : Operation) (laptop : Option Laptop) :
    WritesTo operation.writable (operation.perform laptop) := by
  cases laptop with
  | none =>
    cases operation with
    | load settings =>
      refine (Laptop.writesTo_load settings).bind fun answer ↦ ?_
      cases answer <;> exact writesTo_done _
    | _ => exact writesTo_done _
  | some laptop =>
    cases operation with
    | load settings => exact writesTo_done _
    | unload => exact (Laptop.within_unload.writesTo (by simp)).bind fun _ ↦ writesTo_done _
    | interrupt number => exact (writesTo_interrupt number _).bind fun _ ↦ writesTo_done _
    | reportLid status =>
      exact ((Input.within_reportLid status).writesTo (by simp)).bind fun _ ↦ writesTo_done _
    | suspend => exact (Laptop.writesTo_switchDevices false).bind fun _ ↦ writesTo_done _
    | resume =>
      refine (Laptop.writesTo_resume _).bind fun answer ↦ ?_
      cases answer <;> exact writesTo_done _
    | setBrightness request =>
      exact (laptop.backlight.writesTo_update request).bind fun _ ↦ writesTo_done _
    | setFanMode number => exact (Laptop.writesTo_setFanMode number).bind fun _ ↦ writesTo_done _
    | setFanLevel level => exact (Fan.writesTo_setLevel level).bind fun _ ↦ writesTo_done _
    | read reading => exact (reading.within_take.writesTo (by simp)).bind fun _ ↦ writesTo_done _

end Operation

/-! ### Runs -/

/-- Nothing but the driver changes the register. -/
def Step.LeavesRegister (register : Register) (step : Step Machine) : Prop :=
  ∀ machine, (step.change machine).registers register = machine.registers register

namespace Transition

/-- The values that a transition writes to a register. -/
def written (register : Register) (transition : OnMachine) : List UInt8 :=
  Trace.written register transition.stage.trace

theorem written_eq_nil {register : Register} {step : Step Machine}
    (h : register ∉ step.operation.writable) (laptop : Option Laptop) (machine : Machine) :
    (step.transition Machine.executor laptop machine).written register = [] :=
  (step.operation.writesTo_perform laptop).written_eq_nil Machine.respond h _

end Transition

/-- A step leaves a register with what it wrote to it last, or with what it held. -/
theorem Step.register_transition {register : Register} {step : Step Machine}
    (h : step.LeavesRegister register) (laptop : Option Laptop) (machine : Machine) :
    let transition := step.transition Machine.executor laptop machine
    transition.stage.hardware.registers register =
      (transition.written register).getLast?.getD (machine.registers register) := by
  rw [← h machine]
  exact Machine.register_execute register (step.operation.perform laptop) (step.change machine)

/-- After a run, a register holds what was written to it last, or what it held at the start. -/
theorem register_hardwareAfter {register : Register} {steps : List (Step Machine)}
    (hsteps : ∀ step ∈ steps, step.LeavesRegister register) (laptop : Option Laptop)
    (machine : Machine) :
    let history := transitions Machine.executor steps laptop machine
    (hardwareAfter machine history).registers register =
      (history.flatMap (Transition.written register)).getLast?.getD
        (machine.registers register) := by
  induction steps generalizing laptop machine with
  | nil => rfl
  | cons step steps ih =>
    obtain ⟨hstep, hrest⟩ := List.forall_mem_cons.1 hsteps
    have hfirst := step.register_transition hstep laptop machine
    intro history
    rw [show history = _ from transitions_cons _ _ _ _ _, List.flatMap_cons,
      List.getLast?_append]
    show (hardwareAfter _ (transitions _ steps _ _)).registers register = _
    rw [ih hrest, hfirst, Option.getD_or]

end LaptopDriver
