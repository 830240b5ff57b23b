import LaptopDriver.Controller.Register

/-!
# What may be asked of the embedded controller

Besides reading and writing registers, the driver can query the controller for the next event. A
query makes the controller latch an event number, or it fails with a `Fault`; the latched number
is then read without a query of its own.

Which firmware a laptop runs decides whether the driver or the firmware itself switches the panel.
The controller names its firmware by a text such as `EC_VER=PQ1D26`, and older firmware has the
smaller text. Two texts are compared by their first 64 bytes in UTF-8, with the ASCII letters in
lower case; a proper initial segment comes first. The cut may fall inside a character, since
bytes are all that is compared.
-/

namespace LaptopDriver.Controller

/-! ### Versions of the firmware -/

/-- The name by which the controller identifies its firmware. -/
structure FirmwareVersion where
  text : String
  deriving DecidableEq, Repr

namespace FirmwareVersion

/-- The number of bytes of a version that take part in a comparison. -/
def comparedBytes : Nat := 64

/-- A byte with ASCII capitals replaced by the small letters. -/
def foldCase (byte : UInt8) : UInt8 :=
  if 0x41 ≤ byte ∧ byte ≤ 0x5A then byte + 0x20 else byte

/-- The bytes by which a version is ordered. -/
def key (v : FirmwareVersion) : List UInt8 :=
  (v.text.toUTF8.data.toList.take comparedBytes).map foldCase

/-- One version is older than another when its key comes first in lexicographic order. -/
instance : LT FirmwareVersion where
  lt a b := a.key < b.key

theorem lt_iff_key_lt {a b : FirmwareVersion} : a < b ↔ a.key < b.key :=
  Iff.rfl

instance (a b : FirmwareVersion) : Decidable (a < b) :=
  inferInstanceAs (Decidable (a.key < b.key))

/-- The version that stands for a controller which names none. -/
def unnamed : FirmwareVersion := ⟨""⟩

/-- The first firmware that switches the panel itself when the display key is pressed. -/
def switchesPanelOnKey : FirmwareVersion := ⟨"EC_VER=PQ1D26"⟩

/-- The first firmware that switches the panel itself across a suspend. -/
def switchesPanelOnSuspend : FirmwareVersion := ⟨"EC_VER=PQ1D27"⟩

end FirmwareVersion

/-! ### Faults -/

/-- Why an event query failed. -/
inductive Fault where
  /-- The controller gave no answer in time. -/
  | noResponse
  /-- The controller was still occupied with an earlier command. -/
  | busy
  deriving DecidableEq, Repr

/-- The wording of a fault in messages and in the log. -/
def Fault.message : Fault → String
  | .noResponse => "embedded controller did not respond"
  | .busy => "embedded controller busy"

/-! ### Requests -/

/-- One request to the embedded controller. -/
inductive Request where
  /-- Read a register. -/
  | read (register : Register)
  /-- Write a register. -/
  | write (register : Register) (value : UInt8)
  /-- Have the controller latch the number of its next event. -/
  | query
  /-- The event number that is latched. -/
  | latched
  /-- The version of the firmware, if the controller names one. -/
  | firmware
  deriving DecidableEq, Repr

/-- The type in which a request to the controller is answered. -/
@[reducible]
def Request.Answer : Request → Type
  | .read _ => UInt8
  | .write _ _ => Unit
  | .query => Except Fault Unit
  | .latched => UInt8
  | .firmware => Option FirmwareVersion

end LaptopDriver.Controller
