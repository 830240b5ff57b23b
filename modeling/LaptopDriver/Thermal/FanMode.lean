/-!
# Fan modes

A fan either follows the embedded controller or a level that the driver sets. The highest level has
a mode of its own. Modes are chosen from outside by number; other numbers are refused. The mode in
which a fan is follows from two registers, so the highest level by hand shows as its own mode even
if it was reached by setting the level.
-/

namespace LaptopDriver.Thermal

/-- Who sets the speed of the fan, and how. -/
inductive FanMode where
  /-- Driven by hand at the highest level. -/
  | fullSpeed
  /-- Driven by hand. -/
  | manual
  /-- Driven by the embedded controller. -/
  | automatic
  deriving DecidableEq, Repr

/-- A number that stands for no fan mode. -/
structure InvalidFanMode where
  number : Nat
  deriving DecidableEq, Repr

/-- The wording with which a number is refused. -/
def InvalidFanMode.message (e : InvalidFanMode) : String :=
  "invalid fan mode " ++ toString e.number

namespace FanMode

/-- The number of a mode. -/
def number : FanMode → Nat
  | fullSpeed => 0
  | manual => 1
  | automatic => 2

/-- The mode that has a given number. -/
def ofNumber : Nat → Except InvalidFanMode FanMode
  | 0 => .ok fullSpeed
  | 1 => .ok manual
  | 2 => .ok automatic
  | n => .error ⟨n⟩

@[simp]
theorem ofNumber_number (mode : FanMode) : ofNumber mode.number = .ok mode := by
  cases mode <;> rfl

end FanMode

/-! ### The mode that registers show -/

/-- The highest level of the fan. -/
def maxFanLevel : UInt8 := 3

/-- The mode in which the fan is when it is driven by hand or not, at a level. -/
def FanMode.ofRegisters (manual level : UInt8) : FanMode :=
  if manual = 1 then
    if level = maxFanLevel then .fullSpeed else .manual
  else .automatic

end LaptopDriver.Thermal
