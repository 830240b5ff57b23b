import LaptopDriver.Laptop.Run

/-!
# Routines in phases

Responding to an event, routing the interrupt line, loading the driver and waking it up are each one
long routine. What is proved about them is proved phase by phase, so this module names the phases and
shows that the routines are the phases in a row:

* an event is evaluated, noted down, and reported (`Hotkey.respond_eq`);
* the line is routed in the model-specific registers first, and its pin is set up after that
  (`InterruptLine.route_eq`);
* the driver prepares the devices and then starts, which is where loading can fail
  (`Laptop.load_eq`); it prepares them by taking over the brightness and then setting the others
  (`Laptop.prepare_eq`);
* it wakes up by switching the devices on and arming the line, which is where waking up can fail
  (`Laptop.perform_resume_eq`).
-/

namespace LaptopDriver

open Display Hotkey

namespace Hotkey

/-- Report an event that was evaluated to a status, if the keymap has an entry for it. -/
def Event.report (event : Event) (status : Int) (history : History) : Routine Unit :=
  match event.keyEntry? status history with
  | some entry => entry.report status
  | none => pure ()

/-- An event is evaluated, noted down and reported, in this order. -/
theorem respond_eq (event : Event) (history : History) :
    respond event history = (do
      let evaluation ← event.evaluate history
      Routine.log (.dispatched event evaluation.status)
      event.report evaluation.status evaluation.history
      pure (event.remembered evaluation.status evaluation.history)) := by
  unfold respond Event.report
  congr 1
  funext evaluation
  congr 1
  funext _
  cases event.keyEntry? evaluation.status evaluation.history with
  | some entry => rfl
  | none => rfl

end Hotkey

namespace InterruptLine

/-- The part of routing that changes the model-specific registers. -/
def routeRegisters : Routine Unit :=
  Routine.withoutInterrupts do
    Routine.modifyMsr primaryRouting (·.clearLow virtualLine)
    Routine.modifyMsr busRouting (·.clearLow virtualLine)
    Routine.modifyMsr groupSelect (·.setLow interruptGroup)

/-- The part of routing that sets up the pin, given the address of the pins' control ports. -/
def setUpPin (base : Chipset.Port) : Routine Unit := do
  Routine.writePortWide (base ||| inputEnable) pin
  Routine.writePortWide (base ||| inputInvert) pin
  Routine.writePortWide (base ||| eventEnable) pin
  Routine.log (.lineRouted base)

/-- Routing is changing the registers and then setting up the pin. -/
theorem route_eq (base : Chipset.Port) :
    route base = (do
      routeRegisters
      setUpPin base) :=
  rfl

end InterruptLine

namespace Laptop

/-- The part of loading that comes before the interrupt line: take over the brightness, hand the fan
back, and switch the radio on if that is asked for. -/
def prepare (settings : Settings) : Routine Backlight := do
  Routine.log .loading
  let backlight ← Backlight.adopt
  Thermal.Fan.setMode .automatic
  if settings.wirelessOnLoad then
    switchWireless true
  pure backlight

/-- The part of preparing that sets devices: the fan is handed back, and the radio is switched on if
that is asked for. -/
def setDevices (settings : Settings) : Routine Unit := do
  Thermal.Fan.setMode .automatic
  if settings.wirelessOnLoad then
    switchWireless true

/-- Preparing is taking over the brightness and then setting the other devices. -/
theorem prepare_eq (settings : Settings) :
    prepare settings = (do
      Routine.log .loading
      let backlight ← Backlight.adopt
      setDevices settings
      pure backlight) := by
  unfold prepare setDevices
  simp only [Program.bind_assoc]
  congr 1
  funext _
  congr 1
  funext backlight
  congr 1
  funext _
  split <;> rfl

/-- The part of loading that can fail: arm the interrupt line, and report the lid if that
worked. -/
def start (settings : Settings) (backlight : Backlight) : Routine (Except StartError Laptop) := do
  match ← InterruptLine.arm settings.settleTime with
  | .error fault =>
    Routine.log (.loadFailed fault)
    pure (.error (.noController fault))
  | .ok () =>
    Input.reportLid 1
    pure (.ok { settings, backlight })

/-- Loading is preparing and then starting. -/
theorem load_eq (settings : Settings) :
    load settings = (do
      let backlight ← prepare settings
      start settings backlight) := by
  unfold load prepare start
  simp only [Program.bind_assoc]
  congr 1
  funext _
  congr 1
  funext backlight
  congr 1
  funext _
  split
  · rw [Program.bind_assoc]
    rfl
  · rfl

/-- The end of waking up, by how arming the interrupt line ended. -/
def conclude (laptop : Laptop) :
    Except Controller.Fault Unit → Routine (Outcome × Option Laptop)
  | .error fault => do
    Routine.log (.resumeFailed fault)
    pure (.startFailed (.noController fault), some laptop)
  | .ok () => pure (.done, some laptop)

/-- A loaded driver that wakes up switches the devices on, arms the interrupt line, and concludes
from how that ended. -/
theorem perform_resume_eq (laptop : Laptop) :
    laptop.perform .resume = (do
      switchDevices true
      let answer ← InterruptLine.rearm laptop.settings.settleTime
      laptop.conclude answer) := by
  simp only [perform, resume, Program.bind_assoc]
  congr 1
  funext _
  congr 1
  funext answer
  cases answer <;> rfl

end Laptop

end LaptopDriver
