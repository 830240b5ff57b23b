import LaptopDriver.Controller.Request
import LaptopDriver.Hotkey.Event
import LaptopDriver.Thermal.FanMode

/-!
# The log of the driver

A log record says what happened. How severe that is and how it is worded follow from the record,
in `Record.level` and `Record.text`, so that a statement about the log can speak of what happened
and leave the wording aside.

Addresses and event numbers are worded as the digits of a hexadecimal number in lower case, after
`0x` and filled up with zeros from the left (`Text.hex`). A width is a least width: a longer number
is written in full.
-/

namespace LaptopDriver

/-! ### Hexadecimal numbers -/

namespace Text

/-- The hexadecimal digits of `n`, at least `width` of them. -/
def hexDigits (width n : Nat) : List Char :=
  (Nat.toDigits 16 n).leftpad width '0'

/-- `n` as a hexadecimal number with at least `width` digits. -/
def hex (width n : Nat) : String :=
  String.ofList ('0' :: 'x' :: hexDigits width n)

end Text

/-! ### Records -/

namespace Log

open Controller Hotkey Thermal

/-- How severe a record is. -/
inductive Level where
  | error
  | warn
  | info
  | debug
  | trace
  deriving DecidableEq, Repr

/-- Something that the driver notes down. -/
inductive Record where
  /-- The driver is being loaded. -/
  | loading
  /-- The driver is being unloaded. -/
  | unloading
  /-- The driver could not be loaded. -/
  | loadFailed (cause : Fault)
  /-- The driver could not be resumed. -/
  | resumeFailed (cause : Fault)
  /-- The interrupt line was routed, with the general-purpose pins at an address. -/
  | lineRouted (base : UInt16)
  /-- An interrupt was ignored since the event query failed. -/
  | queryFailed
  /-- An interrupt was ignored since the event number is noise. -/
  | outOfRange (code : UInt8)
  /-- The event number is acceptable, but names no event. -/
  | unbound (code : UInt8)
  /-- An event was evaluated to a status. -/
  | dispatched (event : Event) (status : Int)
  /-- A USB port draws too much current. -/
  | overCurrent (port : UsbPort)
  /-- The controller has moved the brightness away from the level that was set last. -/
  | brightnessContested (remembered current : UInt8)
  /-- A fan level was ignored since the fan is not driven by hand. -/
  | fanLevelIgnored
  /-- A number that stands for no fan mode was refused. -/
  | fanModeRefused (refusal : InvalidFanMode)
  deriving DecidableEq, Repr

namespace Record

/-- How severe the record is. -/
def level : Record → Level
  | loading | unloading => .info
  | loadFailed _ | resumeFailed _ | overCurrent _ => .error
  | fanLevelIgnored | fanModeRefused _ => .warn
  | lineRouted _ | dispatched _ _ | brightnessContested _ _ => .debug
  | queryFailed | outOfRange _ | unbound _ => .trace

/-- How the record is worded. -/
def text : Record → String
  | loading => "Load YeeLoong Laptop Platform Specific Driver."
  | unloading => "Unload YeeLoong Platform Specific Driver."
  | loadFailed cause => "Fail to register yeeloong hotkey driver: " ++ cause.message
  | resumeFailed cause => "resume: " ++ cause.message
  | lineRouted base => "sci: GPIO27 armed, gpio base " ++ Text.hex 4 base.toNat
  | queryFailed => "sci: query failed, ignoring interrupt"
  | outOfRange code => "sci: event " ++ Text.hex 2 code.toNat ++ " out of range"
  | unbound code => "sci: event " ++ Text.hex 2 code.toNat ++ " has no binding"
  | dispatched event status =>
    "sci: event: " ++ Text.hex 2 event.code.toNat ++ " status: " ++ toString status
  | overCurrent port => "USB" ++ toString port.number ++ " Over Current occurred"
  | brightnessContested remembered current =>
    "backlight: EC is adjusting (" ++ toString remembered.toNat ++ " -> " ++
      toString current.toNat ++ "), not writing"
  | fanLevelIgnored => "hwmon: pwm write ignored, fan is not in manual mode"
  | fanModeRefused refusal => "hwmon: " ++ refusal.message

end Record

end Log

end LaptopDriver
