import LaptopDriver.Proofs.Reading.Contents
import LaptopDriver.Proofs.Supply.Arithmetic

/-!
# The numbers of the battery

Ten properties of the battery are numbers, and three sensors show its current, its voltage and its
temperature. Each of these is described twice by what the registers hold: by the computation in
signed words that the driver makes (`BatteryProperty.expression?`, `Sensor.expression`), and by a
formula over the integers (`BatteryProperty.formula?`, `Sensor.formula`).

The driver comes to the word that the computation comes to (`BatteryProperty.number?_get`,
`Sensor.yields_read`). Readings have sixteen bits, so no operation of a computation leaves the range
of its word (`BatteryProperty.fits`, `Sensor.fits`), and the number that is meant by the computation
is that of the formula (`BatteryProperty.map_exact_expression?`, `Sensor.exact_expression`). So the
formulas are what the driver reports (`figures_exact`).

The charge is a percentage of the full charge, as long as what the registers show is a percentage
(`chargeFormula_of_percentage`), and it never falls where that or the full charge rises
(`chargeFormula_mono`).
-/

namespace LaptopDriver.Supply

open Controller Routine

/-! ### Readings as numbers -/

theorem toInt_widen (quantity : UInt16) : (widen quantity).toInt = quantity.toNat := by
  have hlt := quantity.toNat_lt
  show quantity.toUInt32.toInt32.toBitVec.toInt = _
  rw [UInt32.toBitVec_toInt32, BitVec.toInt_eq_toNat_of_lt, UInt32.toNat_toBitVec,
    UInt16.toNat_toUInt32]
  rw [UInt32.toNat_toBitVec, UInt16.toNat_toUInt32]
  omega

/-- What a number of sixteen bits stands for in two's complement. -/
def twosComplement (number : Int) : Int :=
  if number < 2 ^ 15 then number else number - 2 ^ 16

theorem toInt_toInt16 (quantity : UInt16) :
    quantity.toInt16.toInt32.toInt = twosComplement quantity.toNat := by
  have hlt := quantity.toNat_lt
  rw [Int16.toInt_toInt32]
  show quantity.toInt16.toBitVec.toInt = _
  rw [UInt16.toBitVec_toInt16, BitVec.toInt_eq_toNat_cond, UInt16.toNat_toBitVec, twosComplement]
  split <;> split <;> omega

theorem twosComplement_bounds {number : Int} (hlower : 0 ≤ number) (hupper : number < 2 ^ 16) :
    -2 ^ 15 ≤ twosComplement number ∧ twosComplement number < 2 ^ 15 := by
  rw [twosComplement]
  split <;> omega

/-! ### What the driver computes, and what is meant -/

/-- The number of a property's value, if it is one. -/
def PropertyValue.number? : PropertyValue → Option Int32
  | number value => some value
  | _ => none

theorem PropertyValue.eq_number_of_number? {value : PropertyValue} {word : Int32}
    (h : value.number? = some word) : value = .number word := by
  cases value with
  | number => exact congrArg _ (Option.some.inj h)
  | chargeState | health | capacityLevel | text => cases h

/-- A quantity of the battery that is shown as it is, whether a battery is present or not. -/
inductive Sensor where
  /-- The current out of the battery, in mA. -/
  | current
  /-- The voltage, in mV. -/
  | voltage
  /-- The temperature, in thousandths of a degree Celsius. -/
  | temperature

/-- Read a sensor. -/
def Sensor.read : Sensor → Routine Int32
  | current => batteryCurrent
  | voltage => batteryVoltage
  | temperature => batteryTemperature

section Contents

variable (registers : Memory Register UInt8)

/-- The status register says that a battery is present. -/
def showsPresent : Bool :=
  BatteryStatus.present ⟨registers .batteryStatus⟩

/-- The number that a pair of registers holds. -/
def reading (pair : RegisterPair) : Expression .single :=
  .word (widen (pair.contents registers))

/-- A number, or zero while no battery is present. -/
def ifPresent (expression : Expression .single) : Expression .single :=
  if showsPresent registers then expression else .word 0

/-- The computation that stands behind a sensor. -/
def Sensor.expression : Sensor → Expression .single
  | current => .negate (.word (RegisterPair.current.contents registers).toInt16.toInt32)
  | voltage => reading registers .voltage
  | temperature => (reading registers .batteryTemperature).thousandfold

/-- The number that a sensor is meant to show. -/
def Sensor.formula : Sensor → Int
  | current => -twosComplement (RegisterPair.current.number registers)
  | voltage => RegisterPair.voltage.number registers
  | temperature => 1000 * RegisterPair.batteryTemperature.number registers

/-- The computation of the charge: a percentage of the full charge, in microampere-hours. -/
def chargeExpression : Expression .single :=
  .saturate (.operate .mul
    (.operate .mul (.widen (reading registers .relativeCapacity))
      (.widen (reading registers .fullChargeCapacity)))
    (.word (10 : Int64)))

/-- The computation of the seconds that the charge lasts. -/
def timeToEmptyExpression : Expression .single :=
  .operate .add
    (.operate .mul (.operate .sub (reading registers .relativeCapacity) (.word 3)) (.word 54))
    (.word 142)

/-- The computation that stands behind a property of the battery, if it is a number. -/
def BatteryProperty.expression? : BatteryProperty → Option (Expression .single)
  | present => some (.word (if showsPresent registers then 1 else 0))
  | voltageMaxDesign => some (reading registers .designVoltage).thousandfold
  | chargeFullDesign => some (reading registers .designCapacity).thousandfold
  | chargeFull => some (reading registers .fullChargeCapacity).thousandfold
  | chargeNow => some (chargeExpression registers)
  | currentNow => some (ifPresent registers (Sensor.current.expression registers).thousandfold)
  | voltageNow => some (ifPresent registers (Sensor.voltage.expression registers).thousandfold)
  | timeToEmptyNow => some (ifPresent registers (timeToEmptyExpression registers))
  | capacity => some (ifPresent registers (reading registers .relativeCapacity))
  | temperature => some (ifPresent registers (Sensor.temperature.expression registers))
  | status | health | capacityLevel | manufacturer => none

/-- The charge that is meant: it stops at the largest word. -/
def chargeFormula : Int :=
  min (10 * RegisterPair.relativeCapacity.number registers *
    RegisterPair.fullChargeCapacity.number registers) (2 ^ 31 - 1)

/-- The number that a property of the battery is meant to have, if it is a number. -/
def BatteryProperty.formula? : BatteryProperty → Option Int
  | present => some (if showsPresent registers then 1 else 0)
  | voltageMaxDesign => some (1000 * RegisterPair.designVoltage.number registers)
  | chargeFullDesign => some (1000 * RegisterPair.designCapacity.number registers)
  | chargeFull => some (1000 * RegisterPair.fullChargeCapacity.number registers)
  | chargeNow => some (chargeFormula registers)
  | currentNow => some <|
    if showsPresent registers then 1000 * Sensor.current.formula registers else 0
  | voltageNow => some <|
    if showsPresent registers then 1000 * Sensor.voltage.formula registers else 0
  | timeToEmptyNow => some <|
    if showsPresent registers then
      54 * (RegisterPair.relativeCapacity.number registers - 3) + 142
    else 0
  | capacity => some <|
    if showsPresent registers then RegisterPair.relativeCapacity.number registers else 0
  | temperature => some (if showsPresent registers then Sensor.temperature.formula registers else 0)
  | status | health | capacityLevel | manufacturer => none

/-! ### Computations are exact -/

theorem exact_reading (pair : RegisterPair) :
    (reading registers pair).exact = pair.number registers :=
  (toInt_widen _).trans (pair.toNat_contents registers)

theorem fits_thousandfold_reading (pair : RegisterPair) :
    (reading registers pair).thousandfold.Fits := by
  have hlower := pair.number_nonneg registers
  have hupper := pair.number_lt registers
  rw [← exact_reading] at hlower hupper
  exact Expression.Fits.thousandfold trivial (by omega) hupper

theorem fits_ifPresent {expression : Expression .single} (h : expression.Fits) :
    (ifPresent registers expression).Fits := by
  rw [ifPresent]
  split
  · exact h
  · trivial

theorem exact_ifPresent (expression : Expression .single) :
    (ifPresent registers expression).exact =
      if showsPresent registers then expression.exact else 0 := by
  rw [ifPresent]
  split <;> rfl

theorem Sensor.exact_expression (sensor : Sensor) :
    (sensor.expression registers).exact = sensor.formula registers := by
  cases sensor with
  | current =>
    show -(RegisterPair.current.contents registers).toInt16.toInt32.toInt = _
    rw [toInt_toInt16, RegisterPair.toNat_contents]
    rfl
  | voltage => exact exact_reading registers _
  | temperature =>
    show (reading registers _).thousandfold.exact = _
    rw [Expression.exact_thousandfold, exact_reading]
    rfl

theorem Sensor.current_bounds :
    -2 ^ 15 < Sensor.current.formula registers ∧ Sensor.current.formula registers ≤ 2 ^ 15 := by
  have hbounds := twosComplement_bounds (RegisterPair.current.number_nonneg registers)
    (RegisterPair.current.number_lt registers)
  rw [Sensor.formula]
  omega

theorem Sensor.fits (sensor : Sensor) : (sensor.expression registers).Fits := by
  cases sensor with
  | current =>
    have hbounds := Sensor.current_bounds registers
    rw [← Sensor.exact_expression] at hbounds
    have hholds : WordSize.single.Holds (Sensor.current.expression registers).exact :=
      WordSize.holds_single (by omega) (by omega)
    exact ⟨trivial, hholds⟩
  | voltage => trivial
  | temperature => exact fits_thousandfold_reading registers _

/-- The product of two readings has 32 bits. -/
theorem number_mul_bounds (first second : RegisterPair) :
    0 ≤ first.number registers * second.number registers ∧
      first.number registers * second.number registers < 2 ^ 32 := by
  have hfirst := first.number_lt registers
  have hsecond := second.number_lt registers
  have hle := Int.mul_le_mul (Int.le_sub_one_of_lt hfirst) (Int.le_sub_one_of_lt hsecond)
    (second.number_nonneg registers) (by decide)
  exact ⟨Int.mul_nonneg (first.number_nonneg registers) (second.number_nonneg registers),
    Int.lt_of_le_of_lt hle (by decide)⟩

theorem exact_chargeExpression :
    (chargeExpression registers).exact = chargeFormula registers := by
  show min ((reading registers _).exact * (reading registers _).exact * 10) _ = _
  rw [exact_reading, exact_reading, Int.mul_comm _ 10, ← Int.mul_assoc, chargeFormula]

theorem fits_chargeExpression : (chargeExpression registers).Fits := by
  have hbounds := number_mul_bounds registers .relativeCapacity .fullChargeCapacity
  rw [← exact_reading, ← exact_reading] at hbounds
  have hproduct : WordSize.double.Holds ((reading registers .relativeCapacity).exact *
      (reading registers .fullChargeCapacity).exact) :=
    WordSize.holds_double (by omega) (by omega)
  have hscaled : WordSize.double.Holds ((reading registers .relativeCapacity).exact *
      (reading registers .fullChargeCapacity).exact * 10) :=
    WordSize.holds_double (by omega) (by omega)
  refine ⟨⟨⟨trivial, trivial, hproduct⟩, trivial, hscaled⟩, ?_⟩
  show -2 ^ 31 ≤ (reading registers .relativeCapacity).exact *
    (reading registers .fullChargeCapacity).exact * 10
  omega

theorem exact_timeToEmptyExpression :
    (timeToEmptyExpression registers).exact =
      54 * (RegisterPair.relativeCapacity.number registers - 3) + 142 := by
  show ((reading registers _).exact - 3) * 54 + 142 = _
  rw [exact_reading, Int.mul_comm _ 54]

theorem fits_timeToEmptyExpression : (timeToEmptyExpression registers).Fits := by
  have hlower := RegisterPair.relativeCapacity.number_nonneg registers
  have hupper := RegisterPair.relativeCapacity.number_lt registers
  rw [← exact_reading] at hlower hupper
  let percentage := (reading registers .relativeCapacity).exact
  have hless : WordSize.single.Holds (percentage - 3) :=
    WordSize.holds_single (by omega) (by omega)
  have hscaled : WordSize.single.Holds ((percentage - 3) * 54) :=
    WordSize.holds_single (by omega) (by omega)
  have hmore : WordSize.single.Holds ((percentage - 3) * 54 + 142) :=
    WordSize.holds_single (by omega) (by omega)
  exact ⟨⟨⟨trivial, trivial, hless⟩, trivial, hscaled⟩, trivial, hmore⟩

/-- No operation of a computation leaves the range of its word. -/
theorem BatteryProperty.fits (property : BatteryProperty) :
    ∀ expression ∈ property.expression? registers, expression.Fits := by
  have of_fits {expression : Expression .single} (h : expression.Fits) :
      ∀ other ∈ some expression, other.Fits := by
    rintro _ ⟨⟩
    exact h
  cases property with
  | present => exact of_fits trivial
  | voltageMaxDesign | chargeFullDesign | chargeFull =>
    exact of_fits (fits_thousandfold_reading registers _)
  | chargeNow => exact of_fits (fits_chargeExpression registers)
  | currentNow =>
    have hbounds := Sensor.current_bounds registers
    rw [← Sensor.exact_expression] at hbounds
    have hfits := (Sensor.current.fits registers).thousandfold (by omega) (by omega)
    exact of_fits (fits_ifPresent registers hfits)
  | voltageNow => exact of_fits (fits_ifPresent registers (fits_thousandfold_reading registers _))
  | timeToEmptyNow =>
    exact of_fits (fits_ifPresent registers (fits_timeToEmptyExpression registers))
  | capacity => exact of_fits (fits_ifPresent registers trivial)
  | temperature =>
    exact of_fits (fits_ifPresent registers (Sensor.temperature.fits registers))
  | status | health | capacityLevel | manufacturer => nofun

/-- What is meant by the computation of a property is its formula. -/
theorem BatteryProperty.map_exact_expression? (property : BatteryProperty) :
    (property.expression? registers).map Expression.exact = property.formula? registers := by
  cases property with
  | present =>
    show some (Int32.toInt (if showsPresent registers then 1 else 0)) = some _
    cases showsPresent registers <;> rfl
  | voltageMaxDesign | chargeFullDesign | chargeFull =>
    show some (reading registers _).thousandfold.exact = some _
    rw [Expression.exact_thousandfold, exact_reading]
  | chargeNow => exact congrArg some (exact_chargeExpression registers)
  | currentNow | voltageNow =>
    show some (ifPresent registers (Expression.thousandfold _)).exact = some _
    rw [exact_ifPresent, Expression.exact_thousandfold, Sensor.exact_expression]
  | timeToEmptyNow =>
    show some (ifPresent registers _).exact = some _
    rw [exact_ifPresent, exact_timeToEmptyExpression]
  | capacity =>
    show some (ifPresent registers _).exact = some _
    rw [exact_ifPresent, exact_reading]
  | temperature =>
    show some (ifPresent registers _).exact = some _
    rw [exact_ifPresent, Sensor.exact_expression]
  | status | health | capacityLevel | manufacturer => rfl

end Contents

/-! ### What the driver reads -/

section Reading

variable {σ : Type} {respond : Responder (LaptopDriver.Request.Answer Chipset.Request.Answer) σ}
  {state : σ} {registers : Memory Register UInt8} (h : ShowsContents respond state registers)

include h

theorem yields_batteryPresent : Yields respond state batteryPresent (showsPresent registers) :=
  ((h.yields_read .batteryStatus).bind (.done _)).bind (.done _)

theorem yields_quantity (pair : RegisterPair) :
    Yields respond state (quantity pair) (reading registers pair).eval :=
  (h.yields_readPair pair).bind (.done _)

omit h in
theorem yields_thousandfold {routine : Routine Int32} {expression : Expression .single}
    (hyields : Yields respond state routine expression.eval) :
    Yields respond state (thousandfold routine) expression.thousandfold.eval :=
  hyields.bind (.done _)

theorem yields_whilePresent {routine : Routine Int32} {expression : Expression .single}
    (hyields : Yields respond state routine expression.eval) :
    Yields respond state (whilePresent routine) (ifPresent registers expression).eval := by
  refine (yields_batteryPresent h).bind ?_
  rw [ifPresent]
  split
  · exact hyields
  · exact .done _

theorem Sensor.yields_read (sensor : Sensor) :
    Yields respond state sensor.read (sensor.expression registers).eval := by
  cases sensor with
  | current => exact (h.yields_readPair .current).bind (.done _)
  | voltage => exact yields_quantity h .voltage
  | temperature => exact yields_thousandfold (yields_quantity h .batteryTemperature)

theorem yields_chargeNow :
    Yields respond state chargeNow (chargeExpression registers).eval :=
  (h.yields_readPair .relativeCapacity).bind
    ((h.yields_readPair .fullChargeCapacity).bind (.done _))

/-- The number that the driver reports as a property is the word that its computation comes to, and
a property without a computation is not a number. -/
theorem BatteryProperty.number?_get (property : BatteryProperty) :
    (property.get.execute respond state).value.number? =
      (property.expression? registers).map Expression.eval := by
  have of_yields {routine : Routine Int32} {expression : Expression .single}
      (hyields : Yields respond state routine expression.eval) :
      ((PropertyValue.number <$> routine).execute respond state).value.number? =
        some expression.eval :=
    congrArg PropertyValue.number? (hyields.map .number).value_eq
  cases property with
  | present =>
    have hpresent := (yields_batteryPresent h).map PropertyValue.ofBool
    exact congrArg PropertyValue.number? hpresent.value_eq
  | voltageMaxDesign | chargeFullDesign | chargeFull =>
    exact of_yields (yields_thousandfold (yields_quantity h _))
  | chargeNow => exact of_yields (yields_chargeNow h)
  | currentNow =>
    exact of_yields (yields_whilePresent h (yields_thousandfold (Sensor.current.yields_read h)))
  | voltageNow =>
    exact of_yields (yields_whilePresent h (yields_thousandfold (Sensor.voltage.yields_read h)))
  | timeToEmptyNow =>
    exact of_yields (yields_whilePresent h ((yields_quantity h .relativeCapacity).map timeToEmpty))
  | capacity => exact of_yields (yields_whilePresent h (yields_quantity h _))
  | temperature => exact of_yields (yields_whilePresent h (Sensor.temperature.yields_read h))
  | status | manufacturer =>
    rw [BatteryProperty.get, Program.execute_bind]
    rfl
  | health | capacityLevel =>
    rw [BatteryProperty.get, Program.execute_map]
    rfl

/-- The number that the driver reports as a property is the one that is meant. -/
theorem BatteryProperty.map_toInt_number?_get (property : BatteryProperty) :
    (property.get.execute respond state).value.number?.map Int32.toInt =
      property.formula? registers := by
  rw [property.number?_get h, ← property.map_exact_expression?, Option.map_map]
  exact Option.map_congr fun expression hmem ↦
    Expression.toInt_eval (property.fits registers expression hmem)

/-- A property that is meant to be a number is reported as that number. -/
theorem BatteryProperty.exists_number (property : BatteryProperty) {number : Int}
    (hformula : property.formula? registers = some number) :
    ∃ value : Int32, (property.get.execute respond state).value = .number value ∧
      value.toInt = number := by
  have hnumber := property.map_toInt_number?_get h
  rw [hformula] at hnumber
  obtain ⟨value, hvalue, htoInt⟩ := Option.map_eq_some_iff.1 hnumber
  exact ⟨value, PropertyValue.eq_number_of_number? hvalue, htoInt⟩

end Reading

/-! ### The charge -/

section Charge

variable {registers : Memory Register UInt8}

/-- A percentage of a full charge is a part of it, and small enough for a word. -/
theorem chargeFormula_of_percentage
    (h : RegisterPair.relativeCapacity.number registers ≤ 100) :
    let full := 1000 * RegisterPair.fullChargeCapacity.number registers
    chargeFormula registers < 2 ^ 31 - 1 ∧ chargeFormula registers ≤ full ∧
      100 * chargeFormula registers = RegisterPair.relativeCapacity.number registers * full := by
  intro full
  have hlower := RegisterPair.fullChargeCapacity.number_nonneg registers
  have hupper := RegisterPair.fullChargeCapacity.number_lt registers
  have hproduct := Int.mul_le_mul_of_nonneg_right h hlower
  rw [chargeFormula, Int.mul_assoc, Int.mul_left_comm _ 1000]
  omega

/-- More per cent of more charge are more. -/
theorem chargeFormula_mono {contents : Memory Register UInt8}
    (hpercentage : RegisterPair.relativeCapacity.number registers ≤
      RegisterPair.relativeCapacity.number contents)
    (hfull : RegisterPair.fullChargeCapacity.number registers ≤
      RegisterPair.fullChargeCapacity.number contents) :
    chargeFormula registers ≤ chargeFormula contents := by
  have hproduct := Int.mul_le_mul hpercentage hfull
    (RegisterPair.fullChargeCapacity.number_nonneg registers)
    (RegisterPair.relativeCapacity.number_nonneg contents)
  rw [chargeFormula, chargeFormula, Int.mul_assoc, Int.mul_assoc]
  omega

end Charge

/-! ### The arithmetic is exact -/

/-- What the driver reports about the battery as a number is computed without an overflow on the
way, and is what the integer formula says: each property that is a number, and each sensor. The
other properties are no numbers. So the charge, as long as its percentage is at most 100, does not
stop at the largest word, is at most the full charge, and is that percentage of it; and it is no
less where the percentage and the full charge are no less. -/
theorem figures_exact {σ : Type}
    {respond : Responder (LaptopDriver.Request.Answer Chipset.Request.Answer) σ} {state : σ}
    {registers : Memory Register UInt8} (h : ShowsContents respond state registers) :
    (∀ property : BatteryProperty,
      let number? := (property.get.execute respond state).value.number?
      number? = (property.expression? registers).map Expression.eval ∧
      (∀ expression ∈ property.expression? registers, expression.Fits) ∧
      number?.map Int32.toInt = property.formula? registers) ∧
    (∀ sensor : Sensor,
      let number := (sensor.read.execute respond state).value
      number = (sensor.expression registers).eval ∧
      (sensor.expression registers).Fits ∧
      number.toInt = sensor.formula registers) ∧
    ∃ charge full : Int32,
      (BatteryProperty.chargeNow.get.execute respond state).value = .number charge ∧
      (BatteryProperty.chargeFull.get.execute respond state).value = .number full ∧
      (RegisterPair.relativeCapacity.number registers ≤ 100 →
        charge < Int32.maxValue ∧ charge ≤ full ∧
        100 * charge.toInt = RegisterPair.relativeCapacity.number registers * full.toInt) ∧
      ∀ (other : σ) (contents : Memory Register UInt8), ShowsContents respond other contents →
        RegisterPair.relativeCapacity.number registers ≤
          RegisterPair.relativeCapacity.number contents →
        RegisterPair.fullChargeCapacity.number registers ≤
          RegisterPair.fullChargeCapacity.number contents →
        ∃ more : Int32,
          (BatteryProperty.chargeNow.get.execute respond other).value = .number more ∧
          charge ≤ more := by
  refine ⟨fun property ↦ ?_, fun sensor ↦ ?_, ?_⟩
  · exact ⟨property.number?_get h, property.fits registers, property.map_toInt_number?_get h⟩
  · have hword := (sensor.yields_read h).value_eq
    refine ⟨hword, sensor.fits registers, ?_⟩
    rw [hword, ← sensor.exact_expression]
    exact Expression.toInt_eval (sensor.fits registers)
  · obtain ⟨charge, hcharge, htoInt⟩ :=
      BatteryProperty.chargeNow.exists_number h rfl
    obtain ⟨full, hfull, hfullToInt⟩ :=
      BatteryProperty.chargeFull.exists_number h rfl
    refine ⟨charge, full, hcharge, hfull, fun hpercentage ↦ ?_, ?_⟩
    · rw [Int32.lt_iff_toInt_lt, Int32.le_iff_toInt_le, htoInt, hfullToInt]
      exact chargeFormula_of_percentage hpercentage
    · intro other contents hother hpercentage hfull
      obtain ⟨more, hmore, hmoreToInt⟩ :=
        BatteryProperty.chargeNow.exists_number hother rfl
      refine ⟨more, hmore, ?_⟩
      rw [Int32.le_iff_toInt_le, htoInt, hmoreToInt]
      exact chargeFormula_mono hpercentage hfull

/-- A battery at 40 per cent of 4400 mAh, with the one reading of the current that has no negative
in sixteen bits; and one that is charged further. -/
theorem figures_exact_least_current :
    let registers : Memory Register UInt8 := Memory.writeAll (fun _ ↦ 0)
      [(.batteryStatus, 1), (.currentHigh, 0x80), (.relativeCapacityLow, 40),
        (.fullChargeCapacityHigh, 0x11), (.fullChargeCapacityLow, 0x30)]
    let contents := registers.write .relativeCapacityLow 41
    let machine : Machine := { registers }
    let charged : Machine := { registers := contents }
    ShowsContents Machine.respond machine registers ∧
      ShowsContents Machine.respond charged contents ∧
      (batteryCurrent.execute Machine.respond machine).value.toInt = 32768 ∧
      ((BatteryProperty.currentNow.get.execute Machine.respond machine).value.number?.map
        Int32.toInt) = some 32768000 ∧
      ∃ charge full more : Int32,
        (BatteryProperty.chargeNow.get.execute Machine.respond machine).value = .number charge ∧
        (BatteryProperty.chargeFull.get.execute Machine.respond machine).value = .number full ∧
        (BatteryProperty.chargeNow.get.execute Machine.respond charged).value = .number more ∧
        charge < Int32.maxValue ∧ charge ≤ full ∧ 100 * charge.toInt = 40 * full.toInt ∧
        charge ≤ more := by
  intro registers contents machine charged
  have hmachine : ShowsContents Machine.respond machine registers :=
    Machine.Faithful.showsContents fun _ ↦ rfl
  have hcharged : ShowsContents Machine.respond charged contents :=
    Machine.Faithful.showsContents fun _ ↦ rfl
  obtain ⟨hproperties, hsensors, charge, full, hcharge, hfull, hpercentage, hmono⟩ :=
    figures_exact hmachine
  obtain ⟨more, hmore, hle⟩ := hmono charged contents hcharged (by decide) (by decide)
  obtain ⟨hless, hpart, hexact⟩ := hpercentage (by decide)
  refine ⟨hmachine, hcharged, ?_, ?_, charge, full, more, hcharge, hfull, hmore, hless, hpart,
    hexact, hle⟩
  · exact (hsensors .current).2.2.trans (by decide)
  · exact (hproperties .currentNow).2.2.trans (by decide)

end LaptopDriver.Supply
