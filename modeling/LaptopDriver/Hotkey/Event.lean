import LaptopDriver.Controller.Register

/-!
# Events of the embedded controller

The controller numbers its events without gaps, from `Event.firstCode` on. The interrupt handler
accepts a number up to and including `Event.lastCode`. That last number is the firmware's end
marker: it lies one past the last event and names none (`ofCode?_lastCode`).

An event may have a register whose value goes with it, and a policy that acts on that value.
Events that have neither are merely reported.
-/

namespace LaptopDriver.Hotkey

/-- A USB port whose over-current the controller watches. -/
inductive UsbPort where
  | port0
  | port2
  deriving DecidableEq, Repr

/-- The number by which a port is called in the log. -/
def UsbPort.number : UsbPort → Nat
  | .port0 => 0
  | .port2 => 2

/-- What the controller can have to tell. -/
inductive Event where
  /-- The lid was opened or closed. -/
  | lid
  /-- The key that cycles through the video outputs. -/
  | videoSwitch
  /-- The sleep key. -/
  | sleep
  /-- The machine is too hot. -/
  | overheated
  /-- An external monitor was attached or removed. -/
  | monitor
  /-- The camera key. -/
  | camera
  /-- A USB port draws too much current. -/
  | usbOverCurrent (port : UsbPort)
  /-- The key that switches the panel on and off. -/
  | panelToggle
  /-- The mute key. -/
  | mute
  /-- One of the two brightness keys. -/
  | brightness
  /-- Mains power came or went, or the battery changed. -/
  | powerSource
  /-- One of the two volume keys. -/
  | volume
  /-- The key of the wireless radio. -/
  | wireless
  deriving DecidableEq, Repr

namespace Event

/-- The number by which the controller reports an event. -/
def code : Event → UInt8
  | lid => 0x23
  | videoSwitch => 0x24
  | sleep => 0x25
  | overheated => 0x26
  | monitor => 0x27
  | camera => 0x28
  | usbOverCurrent .port2 => 0x29
  | usbOverCurrent .port0 => 0x2A
  | panelToggle => 0x2B
  | mute => 0x2C
  | brightness => 0x2D
  | powerSource => 0x2E
  | volume => 0x2F
  | wireless => 0x30

/-- All events, in the order of their numbers. -/
def all : List Event :=
  [lid, videoSwitch, sleep, overheated, monitor, camera, usbOverCurrent .port2,
    usbOverCurrent .port0, panelToggle, mute, brightness, powerSource, volume, wireless]

/-- The first number the interrupt handler accepts. -/
def firstCode : UInt8 := 0x23

/-- The last number the interrupt handler accepts; it is the firmware's end marker. -/
def lastCode : UInt8 := 0x31

/-- Whether the interrupt handler accepts a number. Anything else is noise that the controller
makes while its firmware changes state. -/
def InRange (code : UInt8) : Prop :=
  firstCode ≤ code ∧ code ≤ lastCode

instance (code : UInt8) : Decidable (InRange code) :=
  inferInstanceAs (Decidable (_ ∧ _))

/-- The event that has a given number. -/
def ofCode? (code : UInt8) : Option Event :=
  all.find? fun event ↦ event.code = code

/-- No event is missing, so what is decidable of an event is decided for all of them by a look at
the list. -/
theorem mem_all (event : Event) : event ∈ all := by
  rcases event with _ | _ | _ | _ | _ | _ | (_ | _) | _ | _ | _ | _ | _ | _ <;> decide

@[simp]
theorem ofCode?_code (event : Event) : ofCode? event.code = some event := by
  have hall : ∀ event ∈ all, ofCode? event.code = some event := by decide
  exact hall event event.mem_all

/-- Decoding inverts numbering, and decodes nothing else. -/
theorem ofCode?_eq_some_iff {code : UInt8} {event : Event} :
    ofCode? code = some event ↔ event.code = code := by
  constructor
  · intro h
    simpa using List.find?_some h
  · rintro rfl
    exact ofCode?_code event

@[simp]
theorem ofCode?_lastCode : ofCode? lastCode = none :=
  rfl

end Event

/-! ### What is done about an event -/

/-- A way to act on an event. -/
inductive Policy where
  /-- Go on in the rotation of the video outputs. -/
  | rotateOutputs
  /-- Switch the monitor's output along with the monitor. -/
  | followMonitor
  /-- Switch the camera off. -/
  | disableCamera
  /-- Note down that a port draws too much current. -/
  | noteOverCurrent (port : UsbPort)
  /-- Switch the panel, where the firmware leaves that to the driver. -/
  | switchPanel
  /-- Announce that the power supplies may have changed. -/
  | announceSupplies
  deriving DecidableEq, Repr

namespace Event

/-- The register whose value goes with an event. -/
def register? : Event → Option Controller.Register
  | lid => some .lidDetect
  | monitor => some .crtDetect
  | camera => some .cameraStatus
  | usbOverCurrent .port0 => some .usb0Flag
  | usbOverCurrent .port2 => some .usb2Flag
  | panelToggle => some .displayLcd
  | mute => some .audioMute
  | brightness => some .displayBrightness
  | volume => some .audioVolume
  | videoSwitch | sleep | overheated | powerSource | wireless => none

/-- The policy that acts on an event. -/
def policy? : Event → Option Policy
  | videoSwitch => some .rotateOutputs
  | monitor => some .followMonitor
  | camera => some .disableCamera
  | usbOverCurrent port => some (.noteOverCurrent port)
  | panelToggle => some .switchPanel
  | powerSource => some .announceSupplies
  | lid | sleep | overheated | mute | brightness | volume | wireless => none

end Event

end LaptopDriver.Hotkey
