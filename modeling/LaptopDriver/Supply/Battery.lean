import LaptopDriver.Routine

/-!
# Reading the mains adapter and the battery

A `MainsProperty` or a `BatteryProperty` is what can be asked, and a `PropertyValue` is the answer.
Numbers are in the units of the power-supply layer: microvolts, microamperes, microampere-hours,
seconds, per cent, thousandths of a degree Celsius.

The embedded controller keeps status bits in single registers and quantities in register pairs. The
pure functions of this module say what bits and quantities mean; the routines read them.

The controller goes on showing the last quantities of a battery that was taken out. So a quantity
that changes while the machine runs is read only after the status says that a battery is present,
and is zero otherwise.
-/

namespace LaptopDriver.Supply

open Controller

/-! ### Properties and their values -/

/-- Whether the battery is being charged. -/
inductive ChargeState where
  | charging
  | discharging
  | notCharging
  deriving DecidableEq, Repr

/-- How well the battery is. -/
inductive Health where
  | unknown
  | good
  | dead
  | overheat
  deriving DecidableEq, Repr

/-- How full the battery is, in words. -/
inductive CapacityLevel where
  | unknown
  | critical
  | low
  | normal
  | high
  | full
  deriving DecidableEq, Repr

/-- A property of the mains adapter. -/
inductive MainsProperty where
  /-- Whether the adapter delivers power. -/
  | online
  deriving DecidableEq, Repr

/-- A property of the battery. -/
inductive BatteryProperty where
  | status
  | present
  | voltageMaxDesign
  | chargeFullDesign
  | chargeFull
  | chargeNow
  | currentNow
  | voltageNow
  | health
  | timeToEmptyNow
  | capacity
  | capacityLevel
  | temperature
  | manufacturer
  deriving DecidableEq, Repr

/-- The value of a property. -/
inductive PropertyValue where
  | number (value : Int32)
  | chargeState (value : ChargeState)
  | health (value : Health)
  | capacityLevel (value : CapacityLevel)
  | text (value : String)
  deriving DecidableEq, Repr

/-- A yes or no as the number one or zero. -/
def PropertyValue.ofBool (value : Bool) : PropertyValue :=
  .number (if value then 1 else 0)

/-! ### Status bits -/

/-- The bit of the power register that is set while the adapter delivers power. -/
def adapterBit : UInt8 := 0x01

/-- The bits of the battery's status register. -/
structure BatteryStatus where
  bits : UInt8
  deriving DecidableEq, Repr

namespace BatteryStatus

def presentBit : UInt8 := 0x01

def fullBit : UInt8 := 0x02

def destroyedBit : UInt8 := 0x04

def lowBit : UInt8 := 0x20

/-- A battery is inserted. -/
def present (status : BatteryStatus) : Bool :=
  status.bits &&& presentBit ≠ 0

/-- The battery is fully charged. -/
def full (status : BatteryStatus) : Bool :=
  status.bits &&& fullBit ≠ 0

/-- The battery is beyond use. -/
def destroyed (status : BatteryStatus) : Bool :=
  status.bits &&& destroyedBit ≠ 0

/-- The battery is nearly empty. -/
def low (status : BatteryStatus) : Bool :=
  status.bits &&& lowBit ≠ 0

end BatteryStatus

/-- The bit of the charge register that is set while the battery is being discharged. -/
def dischargeBit : UInt8 := 0x40

/-- The bit of the charge register that is set while the battery is being charged. -/
def chargeBit : UInt8 := 0x80

/-- The bit of the charging circuit's alarms that says that the battery is too hot. -/
def overheatBit : UInt8 := 0x04

/-- The charge state that the charge register stands for; discharging goes first. -/
def ChargeState.ofRegister (bits : UInt8) : ChargeState :=
  if bits &&& dischargeBit ≠ 0 then .discharging
  else if bits &&& chargeBit ≠ 0 then .charging
  else .notCharging

/-- The health of a battery that is present; heat goes before wear. -/
def Health.ofRegisters (status : BatteryStatus) (alarms : UInt8) : Health :=
  if alarms &&& overheatBit ≠ 0 then .overheat
  else if status.destroyed || status.low then .dead
  else .good

/-- The level that a percentage amounts to. -/
def CapacityLevel.ofPercentage (percentage : Int32) : CapacityLevel :=
  if 95 ≤ percentage then .high
  else if percentage ≤ 5 then .critical
  else .normal

/-- The maker that the vendor register stands for. -/
def makerName (vendor : UInt8) : String :=
  if vendor = 1 then "SANYO" else "SIMPLO"

/-! ### Quantities -/

/-- A 16-bit quantity as a signed 32-bit number. -/
def widen (quantity : UInt16) : Int32 :=
  quantity.toUInt32.toInt32

/-- The current out of the battery, given the current into it in two's complement. -/
def outwardCurrent (inward : UInt16) : Int32 :=
  -inward.toInt16.toInt32

/-- The charge of a battery in microampere-hours, from its percentage and its full charge in mAh.
Neither reading can be relied on to be small, so the product is formed in 64 bits and stops at the
largest 32-bit number. -/
def remainingCharge (percentage full : UInt16) : Int32 :=
  let charge := (widen percentage).toInt64 * (widen full).toInt64 * 10
  if charge ≤ Int32.maxValue.toInt64 then charge.toInt32 else .maxValue

/-- The seconds that a charge lasts, estimated from its percentage. -/
def timeToEmpty (percentage : Int32) : Int32 :=
  (percentage - 3) * 54 + 142

/-! ### Reading single registers -/

/-- Whether the adapter delivers power. -/
def mainsOnline : Routine Bool := do
  let bits ← Routine.read .batteryPower
  pure (decide (bits &&& adapterBit ≠ 0))

/-- The status of the battery. -/
def batteryStatus : Routine BatteryStatus := do
  let bits ← Routine.read .batteryStatus
  pure ⟨bits⟩

/-- Whether a battery is present. -/
def batteryPresent : Routine Bool := do
  let status ← batteryStatus
  pure status.present

/-- A 16-bit quantity of the battery, as a number. -/
def quantity (pair : RegisterPair) : Routine Int32 := do
  let reading ← Routine.readPair pair
  pure (widen reading)

/-- The current out of the battery, in mA. -/
def batteryCurrent : Routine Int32 := do
  let reading ← Routine.readPair .current
  pure (outwardCurrent reading)

/-- The voltage of the battery, in mV. -/
def batteryVoltage : Routine Int32 :=
  quantity .voltage

/-- The temperature of the battery, in thousandths of a degree Celsius. -/
def batteryTemperature : Routine Int32 := do
  let degrees ← quantity .batteryTemperature
  pure (degrees * 1000)

/-! ### Properties -/

/-- A quantity that is zero while no battery is present. -/
def whilePresent (reading : Routine Int32) : Routine Int32 := do
  if ← batteryPresent then reading else pure 0

/-- How well the battery is. -/
def health : Routine Health := do
  if ← batteryPresent then
    let status ← batteryStatus
    let alarms ← Routine.read .batteryChargeStatus
    pure (.ofRegisters status alarms)
  else
    pure .unknown

/-- How full the battery is, in words. The percentage counts only where the status bits leave the
question open. -/
def capacityLevel : Routine CapacityLevel := do
  if ← batteryPresent then
    let status ← batteryStatus
    if status.destroyed then pure .unknown
    else if status.low then pure .low
    else if status.full then pure .full
    else
      let percentage ← quantity .relativeCapacity
      pure (.ofPercentage percentage)
  else
    pure .unknown

/-- The charge of the battery, in microampere-hours. -/
def chargeNow : Routine Int32 := do
  let percentage ← Routine.readPair .relativeCapacity
  let full ← Routine.readPair .fullChargeCapacity
  pure (remainingCharge percentage full)

/-- A quantity in thousandths of the unit in which it is read. -/
def thousandfold (reading : Routine Int32) : Routine Int32 := do
  let value ← reading
  pure (value * 1000)

/-- The value of a property of the mains adapter. -/
def MainsProperty.get : MainsProperty → Routine PropertyValue
  | .online => do
    let online ← mainsOnline
    pure (.ofBool online)

/-- The value of a property of the battery. -/
def BatteryProperty.get : BatteryProperty → Routine PropertyValue
  | .status => do
    let bits ← Routine.read .batteryCharge
    pure (.chargeState (.ofRegister bits))
  | .present => PropertyValue.ofBool <$> batteryPresent
  | .voltageMaxDesign => .number <$> thousandfold (quantity .designVoltage)
  | .chargeFullDesign => .number <$> thousandfold (quantity .designCapacity)
  | .chargeFull => .number <$> thousandfold (quantity .fullChargeCapacity)
  | .chargeNow => .number <$> Supply.chargeNow
  | .currentNow => .number <$> whilePresent (thousandfold batteryCurrent)
  | .voltageNow => .number <$> whilePresent (thousandfold batteryVoltage)
  | .health => .health <$> Supply.health
  | .timeToEmptyNow => .number <$> whilePresent (timeToEmpty <$> quantity .relativeCapacity)
  | .capacity => .number <$> whilePresent (quantity .relativeCapacity)
  | .capacityLevel => .capacityLevel <$> Supply.capacityLevel
  | .temperature => .number <$> whilePresent batteryTemperature
  | .manufacturer => do
    let vendor ← Routine.read .batteryVendor
    pure (.text (makerName vendor))

end LaptopDriver.Supply
