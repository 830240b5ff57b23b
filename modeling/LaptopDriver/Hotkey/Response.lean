import LaptopDriver.Hotkey.History
import LaptopDriver.Hotkey.Keymap

/-!
# Responding to an event

An event is first **evaluated** to a status: the value of its register, or what its policy makes of
that value. The status then **selects** an entry of the keymap, and the entry is reported. For the
events of the level keys the status is the new level, and its direction decides between the two
entries.

The controller tells of an event by an interrupt. Its line stays masked while an interrupt is
handled, so interrupts never overlap; and the controller drops its next event unless it is served
within a few milliseconds. Nothing on this path waits or tries again.

A query that fails, or an event number that is noise, is a glitch on the line and not an error: the
interrupt is left to other handlers. The end marker of the event numbers is acceptable, so its
interrupt counts as handled although nothing is done about it.
-/

namespace LaptopDriver.Hotkey

open Controller Display

/-- The status of an event, with what is remembered from then on. -/
structure Evaluation where
  status : Int
  history : History

/-- The bit of the camera's control register that switches the camera off. -/
def cameraOffBit : UInt8 := 0x02

/-- Go on in the rotation of the video outputs. That takes a monitor; without one, nothing
happens and the status is zero. -/
def rotateOutputs (history : History) : Routine Evaluation := do
  let detected ← Routine.read .crtDetect
  if detected = 1 then
    let mode := VideoMode.next history.videoMode
    mode.outputs.switch
    pure ⟨mode.position, { history with videoMode := some mode }⟩
  else
    pure ⟨0, history⟩

/-- Act on an event whose register has the value `value`. -/
def Policy.apply (policy : Policy) (value : Int) (history : History) : Routine Evaluation :=
  match policy with
  | .rotateOutputs => Hotkey.rotateOutputs history
  | .followMonitor => do
    Outputs.switch ⟨true, decide (value ≠ 0)⟩
    pure ⟨value, history⟩
  | .disableCamera => do
    let control ← Routine.read .cameraControl
    Routine.write .cameraControl (control ||| cameraOffBit)
    pure ⟨value, history⟩
  | .noteOverCurrent port => do
    Routine.log (.overCurrent port)
    pure ⟨value, history⟩
  | .switchPanel => do
    if ← Routine.olderThan .switchesPanelOnKey then
      Output.lcd.switch (decide (value ≠ 0))
    pure ⟨value, history⟩
  | .announceSupplies => do
    if ← Routine.suppliesRegistered then
      Routine.announce .mains
      Routine.announce .battery
    pure ⟨value, history⟩

/-- The value that goes with an event; zero where it has no register. -/
def Event.value (event : Event) : Routine Int :=
  match event.register? with
  | some register => do
    let byte ← Routine.read register
    pure byte.toNat
  | none => pure 0

/-- Read an event's register and act on it. -/
def Event.evaluate (event : Event) (history : History) : Routine Evaluation := do
  let value ← event.value
  match event.policy? with
  | some policy => policy.apply value history
  | none => pure ⟨value, history⟩

/-- The axis that an event moves. -/
def Event.axis? : Event → Option Axis
  | brightness => some .brightness
  | volume => some .volume
  | _ => none

/-- The entry of the keymap that an event with a status is reported as. -/
def Event.keyEntry? (event : Event) (status : Int) (history : History) : Option KeyEntry := do
  let index ← event.keymapIndex?
  match event.axis?.map (history.direction · status) with
  | some .decrease => keymap[index + 1]?
  | _ => keymap[index]?

/-- What is remembered after an event was evaluated to a status. -/
def Event.remembered (event : Event) (status : Int) (history : History) : History :=
  match event.axis? with
  | some axis => history.remember axis status
  | none => history

/-- Evaluate an event and report it. -/
def respond (event : Event) (history : History) : Routine History := do
  let evaluation ← event.evaluate history
  Routine.log (.dispatched event evaluation.status)
  match event.keyEntry? evaluation.status evaluation.history with
  | some entry => entry.report evaluation.status
  | none => pure ()
  pure (event.remembered evaluation.status evaluation.history)

/-! ### Interrupts -/

/-- What the interrupt core is told about an interrupt. -/
inductive Verdict where
  /-- The interrupt was not for this handler. -/
  | ignored
  /-- The interrupt was served. -/
  | handled
  deriving DecidableEq, Repr

/-- The number of the controller's interrupt. -/
def interruptNumber : Nat := 10

/-- Serve an event number that was latched. -/
def serve (code : UInt8) (history : History) : Routine (Verdict × History) := do
  if Event.InRange code then
    match Event.ofCode? code with
    | some event =>
      let history ← respond event history
      pure (.handled, history)
    | none =>
      Routine.log (.unbound code)
      pure (.handled, history)
  else
    Routine.log (.outOfRange code)
    pure (.ignored, history)

/-- Handle the interrupt with a given number. -/
def interrupt (number : Nat) (history : History) : Routine (Verdict × History) := do
  if number = interruptNumber then
    match ← Routine.query with
    | .error _ =>
      Routine.log .queryFailed
      pure (.ignored, history)
    | .ok () =>
      let code ← Routine.latched
      serve code history
  else
    pure (.ignored, history)

end LaptopDriver.Hotkey
