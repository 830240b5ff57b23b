import LaptopDriver.Routine

/-!
# The fan and the temperatures

Two registers of the embedded controller decide about the fan: who drives it, and at which level. A
third one sets it going. All temperatures are given in thousandths of a degree Celsius.
-/

namespace LaptopDriver.Thermal

open Controller

/-! ### The fan -/

namespace Fan

/-- The mode of the fan. -/
def mode : Routine FanMode := do
  let level ← Routine.read .fanLevel
  let manual ← Routine.read .fanManual
  pure (.ofRegisters manual level)

/-- Change the mode of the fan. -/
def setMode : FanMode → Routine Unit
  | .fullSpeed => do
    Routine.write .fanManual 1
    Routine.write .fanLevel maxFanLevel
  | .manual => Routine.write .fanManual 1
  | .automatic => Routine.write .fanManual 0

/-- The level of the fan. -/
def level : Routine UInt8 :=
  Routine.read .fanLevel

/-- Set the level of a fan that is driven by hand, at most to the highest one. A level other than
zero has an effect only on a running fan, so the fan is set going first. -/
def setLevel (request : Nat) : Routine Unit := do
  let manual ← Routine.read .fanManual
  if manual = 1 then
    let level : UInt8 := .ofNat (min request maxFanLevel.toNat)
    if 0 < level then
      Routine.write .fanControl 1
    Routine.write .fanLevel level
  else
    Routine.log .fanLevelIgnored

/-- The speed that belongs to a period of the tachometer, in revolutions per minute. A period of
zero means that the fan stands still. -/
def speedOfPeriod (period : UInt16) : Nat :=
  if period = 0 then 0 else 480000 / period.toNat

/-- The speed of the fan in revolutions per minute. The period has twelve bits. -/
def speed : Routine Nat := do
  let reading ← Routine.readPair .fanSpeed
  pure (speedOfPeriod (reading &&& 0x0FFF))

end Fan

/-! ### Temperatures -/

/-- The temperature of the processor. -/
def processorTemperature : Routine Int32 := do
  let reading ← Routine.read .temperature
  pure (reading.toInt8.toInt32 * 1000)

/-- The highest temperature at which the processor may run. -/
def processorLimit : Int32 := 60 * 1000

/-- The bit of the charging circuit's alarms that raises the alarm of the battery's temperature. -/
def batteryAlarmBit : UInt8 := 0x04

/-- Whether the charging circuit says that the battery is overheated. -/
def batteryAlarm : Routine Bool := do
  let alarms ← Routine.read .batteryChargeStatus
  pure (decide (alarms &&& batteryAlarmBit ≠ 0))

end LaptopDriver.Thermal
