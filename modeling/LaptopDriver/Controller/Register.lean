/-!
# Registers of the embedded controller

The embedded controller of the laptop keeps its sensors, switches and status bits in one-byte
registers that are selected by a 16-bit address. Quantities of sixteen bits occupy two of them, a
`RegisterPair`.
-/

namespace LaptopDriver.Controller

/-- A one-byte register of the embedded controller. -/
structure Register where
  /-- The index by which the controller selects the register. -/
  address : UInt16
  deriving DecidableEq, Repr

/-- A 16-bit quantity kept as two bytes, the more significant one in `high`. -/
structure RegisterPair where
  high : Register
  low : Register
  deriving DecidableEq, Repr

/-- The 16-bit number whose bytes are `high` and `low`. -/
def joinBytes (high low : UInt8) : UInt16 :=
  (high.toUInt16 <<< 8) ||| low.toUInt16

namespace Register

/-! ### Lid, display and camera -/

/-- Whether the lid is open. -/
def lidDetect : Register := ⟨0xF4BD⟩

/-- Whether an external monitor is attached. -/
def crtDetect : Register := ⟨0xF4AD⟩

/-- Whether the panel is lit. -/
def displayLcd : Register := ⟨0xF79F⟩

/-- The brightness level of the panel. -/
def displayBrightness : Register := ⟨0xF4F5⟩

/-- The state of the camera, reported with its hotkey. -/
def cameraStatus : Register := ⟨0xF46A⟩

/-- The control bits of the camera. -/
def cameraControl : Register := ⟨0xF7B7⟩

/-! ### Sound, ports and radio -/

/-- Whether the sound is muted. -/
def audioMute : Register := ⟨0xF4E7⟩

/-- The sound volume level. -/
def audioVolume : Register := ⟨0xF46C⟩

/-- The power switch of USB port 0; it reads the over-current flag. -/
def usb0Flag : Register := ⟨0xF461⟩

/-- The power switch of USB port 1. -/
def usb1Flag : Register := ⟨0xF462⟩

/-- The power switch of USB port 2; it reads the over-current flag. -/
def usb2Flag : Register := ⟨0xF463⟩

/-- The power switch of the wireless radio. -/
def wlan : Register := ⟨0xF4FA⟩

/-! ### Battery and mains -/

/-- Where the power comes from. -/
def batteryPower : Register := ⟨0xF440⟩

/-- Whether a battery is present and what condition it is in. -/
def batteryStatus : Register := ⟨0xF4B0⟩

/-- Whether the battery is being charged or discharged. -/
def batteryCharge : Register := ⟨0xF4A2⟩

/-- The alarms of the charging circuit. -/
def batteryChargeStatus : Register := ⟨0xF4B1⟩

/-- The maker of the battery. -/
def batteryVendor : Register := ⟨0xF4C4⟩

/-- The upper byte of the design capacity. -/
def designCapacityHigh : Register := ⟨0xF77D⟩

/-- The lower byte of the design capacity. -/
def designCapacityLow : Register := ⟨0xF77C⟩

/-- The upper byte of the capacity when full. -/
def fullChargeCapacityHigh : Register := ⟨0xF780⟩

/-- The lower byte of the capacity when full. -/
def fullChargeCapacityLow : Register := ⟨0xF77F⟩

/-- The upper byte of the design voltage. -/
def designVoltageHigh : Register := ⟨0xF782⟩

/-- The lower byte of the design voltage. -/
def designVoltageLow : Register := ⟨0xF781⟩

/-- The upper byte of the battery's current. -/
def currentHigh : Register := ⟨0xF784⟩

/-- The lower byte of the battery's current. -/
def currentLow : Register := ⟨0xF783⟩

/-- The upper byte of the battery's voltage. -/
def voltageHigh : Register := ⟨0xF786⟩

/-- The lower byte of the battery's voltage. -/
def voltageLow : Register := ⟨0xF785⟩

/-- The upper byte of the battery's temperature. -/
def batteryTemperatureHigh : Register := ⟨0xF788⟩

/-- The lower byte of the battery's temperature. -/
def batteryTemperatureLow : Register := ⟨0xF787⟩

/-- The upper byte of the relative capacity. -/
def relativeCapacityHigh : Register := ⟨0xF492⟩

/-- The lower byte of the relative capacity. -/
def relativeCapacityLow : Register := ⟨0xF491⟩

/-! ### Fan and processor temperature -/

/-- The switch that sets the fan going. -/
def fanControl : Register := ⟨0xF4D2⟩

/-- Who chooses the fan's speed: 1 stands for the driver, anything else for the controller. -/
def fanManual : Register := ⟨0xF459⟩

/-- The speed level of the fan. -/
def fanLevel : Register := ⟨0xF4CC⟩

/-- The upper byte of the fan's period. -/
def fanSpeedHigh : Register := ⟨0xFE22⟩

/-- The lower byte of the fan's period. -/
def fanSpeedLow : Register := ⟨0xFE23⟩

/-- The temperature of the processor in degrees Celsius, as a signed byte. -/
def temperature : Register := ⟨0xF458⟩

end Register

namespace RegisterPair

/-- The charge that a new battery holds, in mAh. -/
def designCapacity : RegisterPair := ⟨.designCapacityHigh, .designCapacityLow⟩

/-- The charge that the battery holds when full, in mAh. -/
def fullChargeCapacity : RegisterPair := ⟨.fullChargeCapacityHigh, .fullChargeCapacityLow⟩

/-- The nominal voltage of the battery, in mV. -/
def designVoltage : RegisterPair := ⟨.designVoltageHigh, .designVoltageLow⟩

/-- The current into the battery in mA, in two's complement. -/
def current : RegisterPair := ⟨.currentHigh, .currentLow⟩

/-- The voltage of the battery, in mV. -/
def voltage : RegisterPair := ⟨.voltageHigh, .voltageLow⟩

/-- The temperature of the battery, in degrees Celsius. -/
def batteryTemperature : RegisterPair := ⟨.batteryTemperatureHigh, .batteryTemperatureLow⟩

/-- The charge of the battery as a percentage of a full charge. -/
def relativeCapacity : RegisterPair := ⟨.relativeCapacityHigh, .relativeCapacityLow⟩

/-- The period of the fan's tachometer. -/
def fanSpeed : RegisterPair := ⟨.fanSpeedHigh, .fanSpeedLow⟩

end RegisterPair

end LaptopDriver.Controller
