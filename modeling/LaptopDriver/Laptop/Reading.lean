import LaptopDriver.Display.Backlight
import LaptopDriver.Supply.Battery
import LaptopDriver.Thermal.Fan

/-!
# Readings

What can be read from a laptop without changing anything: each `Reading` names one quantity, and
`Reading.take` is the routine that reads it.
-/

namespace LaptopDriver

open Display Supply Thermal

/-- A quantity that can be read. -/
inductive Reading where
  /-- The brightness level. -/
  | brightness
  /-- A property of the mains adapter. -/
  | mainsProperty (property : MainsProperty)
  /-- A property of the battery. -/
  | batteryProperty (property : BatteryProperty)
  /-- Whether the adapter delivers power. -/
  | mainsOnline
  /-- Whether a battery is present. -/
  | batteryPresent
  /-- The current out of the battery. -/
  | batteryCurrent
  /-- The voltage of the battery. -/
  | batteryVoltage
  /-- The temperature of the battery. -/
  | batteryTemperature
  /-- Whether the battery is overheated. -/
  | batteryAlarm
  /-- The mode of the fan. -/
  | fanMode
  /-- The level of the fan. -/
  | fanLevel
  /-- The speed of the fan. -/
  | fanSpeed
  /-- The temperature of the processor. -/
  | processorTemperature
  /-- The highest temperature of the processor. -/
  | processorLimit
  deriving DecidableEq, Repr

/-- What was read. -/
inductive Value where
  | number (value : Int)
  | flag (value : Bool)
  | fanMode (value : FanMode)
  | property (value : PropertyValue)
  deriving DecidableEq, Repr

namespace Value

/-- The number that an unsigned byte stands for. -/
def ofByte (byte : UInt8) : Value :=
  .number byte.toNat

/-- The number that a signed 32-bit word stands for. -/
def ofSigned (word : Int32) : Value :=
  .number word.toInt

end Value

/-- Take a reading. -/
def Reading.take : Reading → Routine Value
  | brightness => .ofByte <$> Backlight.currentLevel
  | mainsProperty property => .property <$> property.get
  | batteryProperty property => .property <$> property.get
  | mainsOnline => .flag <$> Supply.mainsOnline
  | batteryPresent => .flag <$> Supply.batteryPresent
  | batteryCurrent => .ofSigned <$> Supply.batteryCurrent
  | batteryVoltage => .ofSigned <$> Supply.batteryVoltage
  | batteryTemperature => .ofSigned <$> Supply.batteryTemperature
  | batteryAlarm => .flag <$> Thermal.batteryAlarm
  | fanMode => .fanMode <$> Fan.mode
  | fanLevel => .ofByte <$> Fan.level
  | fanSpeed => (fun speed ↦ .number speed) <$> Fan.speed
  | processorTemperature => .ofSigned <$> Thermal.processorTemperature
  | processorLimit => pure (.ofSigned Thermal.processorLimit)

end LaptopDriver
