import LaptopDriver.Chipset.Request
import LaptopDriver.Controller.Request
import LaptopDriver.Log.Record

/-!
# The vocabulary of the driver

Everything that the driver does to the world around it is one of the requests below. The chipset
can be addressed in more than one vocabulary, as the driver's own requests or as the instructions
of the processor that carry them out; the rest of the vocabulary is the same for both.

* Key presses and switch positions reach user space through an input device. Nothing that is
  reported takes effect before the next `sync`.
* The power-supply layer knows two supplies, the mains adapter and the battery. Once they are
  registered the driver announces that their properties may have changed.
-/

namespace LaptopDriver

/-! ### Reports to the input layer -/

namespace Input

/-- A key that a hotkey stands for. -/
inductive Key where
  | mute
  | volumeDown
  | volumeUp
  | sleep
  | camera
  | brightnessDown
  | brightnessUp
  | videoSwitch
  | wireless
  | panelToggle
  deriving DecidableEq, Repr

namespace Key

/-- The number of a key in the input layer. -/
def code : Key → UInt16
  | mute => 113
  | volumeDown => 114
  | volumeUp => 115
  | sleep => 142
  | camera => 212
  | brightnessDown => 224
  | brightnessUp => 225
  | videoSwitch => 227
  | wireless => 238
  | panelToggle => 431

/-- All keys, in the order of their numbers. -/
def all : List Key :=
  [mute, volumeDown, volumeUp, sleep, camera, brightnessDown, brightnessUp, videoSwitch,
    wireless, panelToggle]

/-- The key that has a given number. This is the side of user space, which is told the number and
not the key. -/
def ofCode? (code : UInt16) : Option Key :=
  all.find? fun key ↦ key.code = code

/-- User space reads every key back, so no two keys have one number. -/
@[simp]
theorem ofCode?_code (key : Key) : ofCode? key.code = some key := by
  cases key <;> rfl

end Key

/-- A switch with two positions. -/
inductive Switch where
  /-- On while the lid is closed. -/
  | lid
  deriving DecidableEq, Repr

/-- The number of a switch in the input layer. -/
def Switch.code : Switch → UInt16
  | .lid => 0

/-- One call of the input layer. -/
inductive Report where
  /-- A key goes down or up. -/
  | key (key : Key) (pressed : Bool)
  /-- A switch takes a position. -/
  | switch (switch : Switch) (on : Bool)
  /-- What was reported so far takes effect. -/
  | sync
  deriving DecidableEq, Repr

end Input

/-! ### Requests to the power-supply layer -/

namespace Supply

/-- A source of power. -/
inductive Source where
  | mains
  | battery
  deriving DecidableEq, Repr

/-- One request to the power-supply layer. -/
inductive Request where
  /-- Whether both supplies are registered. -/
  | registered
  /-- Announce that the properties of a supply may have changed. -/
  | changed (source : Source)
  deriving DecidableEq, Repr

/-- The type in which a request to the power-supply layer is answered. -/
@[reducible]
def Request.Answer : Request → Type
  | .registered => Bool
  | .changed _ => Unit

end Supply

/-! ### All requests -/

/-- One request of the driver. Its chipset is addressed in the vocabulary `C`. -/
inductive Request (C : Type) where
  /-- A request to the embedded controller. -/
  | controller (request : Controller.Request)
  /-- A request to the chipset. -/
  | chipset (request : C)
  /-- A report to the input layer. -/
  | input (report : Input.Report)
  /-- A request to the power-supply layer. -/
  | supply (request : Supply.Request)
  /-- A record for the log. -/
  | log (record : Log.Record)
  deriving DecidableEq, Repr

/-- The type in which a request is answered, given the answers of the chipset. -/
@[reducible]
def Request.Answer {C : Type} (chipsetAnswer : C → Type) : Request C → Type
  | .controller request => request.Answer
  | .chipset request => chipsetAnswer request
  | .input _ => Unit
  | .supply request => request.Answer
  | .log _ => Unit

end LaptopDriver
