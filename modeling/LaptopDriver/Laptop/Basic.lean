import LaptopDriver.Display.Backlight
import LaptopDriver.Hotkey.Response
import LaptopDriver.InterruptLine
import LaptopDriver.Thermal.Fan

/-!
# The life of the driver

A loaded driver is a `Laptop`: the settings it was loaded with, what the handling of events
remembers, and the backlight. It is loaded, put to sleep and woken up.

Loading and waking up arm the interrupt line, and they fail when the controller does not answer the
query that this takes. A driver that fails to load does not exist; one that fails to wake up stays
loaded, with its interrupt line as it was.
-/

namespace LaptopDriver

open Controller Display Hotkey

/-- The choices that are made when the driver is loaded. -/
structure Settings where
  /-- Whether loading switches the wireless radio on. -/
  wirelessOnLoad : Bool := true
  /-- How long the controller may settle before the interrupt line is routed, in
  milliseconds. -/
  settleTime : Nat := InterruptLine.defaultSettleTime
  deriving DecidableEq, Repr

/-- Why the driver could not be loaded or woken up. -/
inductive StartError where
  /-- The controller did not answer the query. -/
  | noController (cause : Fault)
  deriving DecidableEq, Repr

/-- The wording of a failure to load or to wake up. -/
def StartError.message : StartError → String
  | .noController cause => "cannot arm SCI: " ++ cause.message

/-- A loaded driver. -/
structure Laptop where
  settings : Settings
  history : History := { }
  backlight : Backlight
  deriving DecidableEq, Repr

namespace Laptop

/-! ### Switching devices -/

/-- The value that switches a device of the controller on or off. -/
def switchValue (on : Bool) : UInt8 :=
  if on then 1 else 0

/-- Switch the wireless radio. -/
def switchWireless (on : Bool) : Routine Unit :=
  Routine.write .wlan (switchValue on)

/-- Switch the USB ports. -/
def switchUsbPorts (on : Bool) : Routine Unit := do
  Routine.write .usb0Flag (switchValue on)
  Routine.write .usb1Flag (switchValue on)
  Routine.write .usb2Flag (switchValue on)

/-- Switch the panel for a sleep, where the firmware leaves that to the driver. -/
def switchPanel (on : Bool) : Routine Unit := do
  if ← Routine.olderThan .switchesPanelOnSuspend then
    Output.lcd.switch on

/-- Switch everything that is off during a sleep. -/
def switchDevices (on : Bool) : Routine Unit := do
  switchPanel on
  Output.crt.switch on
  switchUsbPorts on
  switchWireless on

/-! ### Loading, sleeping and waking up -/

/-- Load the driver. The lid counts as open until the controller says otherwise. -/
def load (settings : Settings) : Routine (Except StartError Laptop) := do
  Routine.log .loading
  let backlight ← Backlight.adopt
  Thermal.Fan.setMode .automatic
  if settings.wirelessOnLoad then
    switchWireless true
  match ← InterruptLine.arm settings.settleTime with
  | .error fault =>
    Routine.log (.loadFailed fault)
    pure (.error (.noController fault))
  | .ok () =>
    Input.reportLid 1
    pure (.ok { settings, backlight })

/-- Unload the driver. -/
def unload : Routine Unit :=
  Routine.log .unloading

/-- Put the devices to sleep. -/
def suspend : Routine Unit :=
  switchDevices false

/-- Wake the devices up and arm the interrupt line again; `settleTime` is in milliseconds. -/
def resume (settleTime : Nat) : Routine (Except StartError Unit) := do
  switchDevices true
  match ← InterruptLine.rearm settleTime with
  | .error fault =>
    Routine.log (.resumeFailed fault)
    pure (.error (.noController fault))
  | .ok () => pure (.ok ())

end Laptop

end LaptopDriver
