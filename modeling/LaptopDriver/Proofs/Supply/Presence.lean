import LaptopDriver.Proofs.Supply.Figures
import LaptopDriver.Proofs.Supply.Verdict

/-!
# A battery that is taken out, or empty

What the driver reports at two ends of the range. The controller goes on showing what it last read
from a battery that was taken out, and the driver hides that: a property that changes while the
machine runs reads as empty (`BatteryProperty.value_eq_empty`). The charge alone is not hidden
(`readsEmpty_iff`).

Most numbers that are reported of a battery are magnitudes, which cannot be negative. They are not,
but for the time that the charge lasts: it is estimated by a line that crosses zero above zero per
cent (`magnitude_nonneg_iff`).
-/

namespace LaptopDriver.Supply

open Controller

/-! ### Without a battery -/

/-- What a property that changes while the machine runs reads as without a battery. -/
def BatteryProperty.empty? : BatteryProperty → Option PropertyValue
  | present | chargeNow | currentNow | voltageNow | timeToEmptyNow | capacity | temperature =>
    some (.number 0)
  | health => some (.health .unknown)
  | capacityLevel => some (.capacityLevel .unknown)
  | status | voltageMaxDesign | chargeFullDesign | chargeFull | manufacturer => none

section Absent

variable {σ : Type} (respond : Responder (LaptopDriver.Request.Answer Chipset.Request.Answer) σ)
  (state : σ)

/-- Every property that changes while the machine runs reads as empty. -/
def ReadsEmpty : Prop :=
  ∀ property : BatteryProperty, ∀ value ∈ property.empty?,
    (property.get.execute respond state).value = value

variable {respond state} {registers : Memory Register UInt8}
  (h : ShowsContents respond state registers)

include h

theorem BatteryProperty.value_eq_zero {property : BatteryProperty}
    (hformula : property.formula? registers = some 0) :
    (property.get.execute respond state).value = .number 0 := by
  obtain ⟨value, hvalue, htoInt⟩ := property.exists_number h hformula
  rw [hvalue, Int32.toInt_inj.1 (htoInt.trans Int32.toInt_zero.symm)]

/-- No verdict is passed without a battery. -/
theorem Verdict.value_of_absent (verdict : Verdict) (habsent : showsPresent registers = false) :
    (verdict.property.get.execute respond state).value = verdict.unknown := by
  rw [verdict.get_property]
  refine ((yields_batteryPresent h).bind ?_).value_eq
  rw [habsent]
  exact .done _

/-- All properties but the charge are hidden without a battery. -/
theorem BatteryProperty.value_eq_empty (habsent : showsPresent registers = false)
    {property : BatteryProperty} (hne : property ≠ .chargeNow) {value : PropertyValue}
    (hempty : value ∈ property.empty?) :
    (property.get.execute respond state).value = value := by
  cases property with
  | present | currentNow | voltageNow | timeToEmptyNow | capacity | temperature =>
    obtain rfl := Option.some.inj hempty
    refine BatteryProperty.value_eq_zero h ?_
    rw [BatteryProperty.formula?, habsent]
    rfl
  | chargeNow => exact absurd rfl hne
  | health =>
    obtain rfl := Option.some.inj hempty
    exact Verdict.health.value_of_absent h habsent
  | capacityLevel =>
    obtain rfl := Option.some.inj hempty
    exact Verdict.capacityLevel.value_of_absent h habsent
  | status | voltageMaxDesign | chargeFullDesign | chargeFull | manufacturer => cases hempty

end Absent

/-- Without a battery, all properties that change while the machine runs read as empty, but for the
charge: it is computed from whatever percentage and full charge the registers show. So all of them
read as empty exactly if one of the two happens to be zero. -/
theorem readsEmpty_iff {σ : Type}
    {respond : Responder (LaptopDriver.Request.Answer Chipset.Request.Answer) σ} {state : σ}
    {registers : Memory Register UInt8} (h : ShowsContents respond state registers)
    (habsent : showsPresent registers = false) :
    let percentage := RegisterPair.relativeCapacity.number registers
    let full := RegisterPair.fullChargeCapacity.number registers
    (∀ property : BatteryProperty, property ≠ .chargeNow → ∀ value ∈ property.empty?,
      (property.get.execute respond state).value = value) ∧
    (∃ charge : Int32,
      (BatteryProperty.chargeNow.get.execute respond state).value = .number charge ∧
      charge.toInt = min (10 * percentage * full) (2 ^ 31 - 1)) ∧
    (ReadsEmpty respond state ↔ percentage = 0 ∨ full = 0) := by
  intro percentage full
  have hothers (property : BatteryProperty) (hne : property ≠ .chargeNow) :
      ∀ value ∈ property.empty?, (property.get.execute respond state).value = value :=
    fun _ hempty ↦ BatteryProperty.value_eq_empty h habsent hne hempty
  have hformula : BatteryProperty.chargeNow.formula? registers =
      some (min (10 * percentage * full) (2 ^ 31 - 1)) := rfl
  obtain ⟨charge, hvalue, htoInt⟩ := BatteryProperty.chargeNow.exists_number h hformula
  refine ⟨hothers, ⟨charge, hvalue, htoInt⟩, fun hempty ↦ ?_, fun hzero property ↦ ?_⟩
  · have hzero : charge = 0 :=
      PropertyValue.number.inj (hvalue.symm.trans (hempty .chargeNow _ rfl))
    have hproduct : percentage * full = 0 := by
      rw [hzero, Int32.toInt_zero, Int.mul_assoc] at htoInt
      omega
    exact Int.mul_eq_zero.1 hproduct
  · by_cases hne : property = .chargeNow
    · subst hne
      rintro _ ⟨⟩
      have hproduct : percentage * full = 0 := Int.mul_eq_zero.2 hzero
      refine BatteryProperty.value_eq_zero h ?_
      rw [hformula, Int.mul_assoc, hproduct]
      rfl
    · exact hothers property hne

/-- A battery was taken out that showed 40 per cent of a full charge that it had lost. -/
theorem readsEmpty_iff_worn_out :
    let registers : Memory Register UInt8 := Memory.writeAll (fun _ ↦ 0)
      [(.relativeCapacityLow, 40), (.voltageHigh, 0x2A), (.currentHigh, 0x80)]
    let machine : Machine := { registers }
    ShowsContents Machine.respond machine registers ∧ showsPresent registers = false ∧
      ReadsEmpty Machine.respond machine := by
  intro registers machine
  have hcontents : ShowsContents Machine.respond machine registers :=
    Machine.Faithful.showsContents fun _ ↦ rfl
  have habsent : showsPresent registers = false := by decide
  exact ⟨hcontents, habsent, (readsEmpty_iff hcontents habsent).2.2.2 (.inr (by decide))⟩

/-- A battery was taken out that showed 50 per cent of 4000 mAh, and 2000000 microampere-hours are
still reported. -/
theorem not_readsEmpty_of_stale_charge :
    ¬∀ machine : Machine, machine.Faithful → showsPresent machine.registers = false →
      ReadsEmpty Machine.respond machine := by
  intro h
  let machine : Machine :=
    { registers := Memory.writeAll (fun _ ↦ 0)
        [(.relativeCapacityLow, 50), (.fullChargeCapacityHigh, 0x0F),
          (.fullChargeCapacityLow, 0xA0)] }
  have hempty := h machine (fun _ ↦ rfl) (by decide) .chargeNow _ rfl
  have hvalue : (BatteryProperty.chargeNow.get.execute Machine.respond machine).value =
      .number 2000000 := by decide
  exact absurd (hvalue.symm.trans hempty) (by decide)

/-! ### Magnitudes -/

/-- The physical magnitudes among the properties. -/
def magnitudes : List BatteryProperty :=
  [.present, .voltageMaxDesign, .chargeFullDesign, .chargeFull, .chargeNow, .voltageNow,
    .timeToEmptyNow, .capacity, .temperature]

section Magnitude

variable (registers : Memory Register UInt8)

/-- A battery that is present shows a percentage of zero. -/
def ShowsExhausted : Prop :=
  showsPresent registers = true ∧ RegisterPair.relativeCapacity.number registers = 0

variable {registers}

theorem formula_nonneg {property : BatteryProperty} (hmem : property ∈ magnitudes)
    (hne : property ≠ .timeToEmptyNow) : ∃ number ∈ property.formula? registers, 0 ≤ number := by
  have hpair (pair : RegisterPair) := pair.number_nonneg registers
  have hthousandfold (pair : RegisterPair) : 0 ≤ 1000 * pair.number registers :=
    Int.mul_nonneg (by decide) (hpair pair)
  cases property with
  | present =>
    refine ⟨_, rfl, ?_⟩
    split <;> decide
  | voltageMaxDesign | chargeFullDesign | chargeFull => exact ⟨_, rfl, hthousandfold _⟩
  | chargeNow =>
    have hcharge := Int.mul_nonneg (Int.mul_nonneg (by decide : (0 : Int) ≤ 10)
      (hpair .relativeCapacity)) (hpair .fullChargeCapacity)
    exact ⟨_, rfl, Int.le_min.2 ⟨hcharge, by decide⟩⟩
  | voltageNow | temperature =>
    refine ⟨_, rfl, ?_⟩
    split
    · exact hthousandfold _
    · decide
  | capacity =>
    refine ⟨_, rfl, ?_⟩
    split
    · exact hpair _
    · decide
  | timeToEmptyNow => exact absurd rfl hne
  | status | currentNow | health | capacityLevel | manufacturer => exact absurd hmem (by decide)

theorem timeToEmpty_nonneg_iff :
    ∃ number ∈ BatteryProperty.timeToEmptyNow.formula? registers,
      (0 ≤ number ↔ ¬ShowsExhausted registers) ∧ (ShowsExhausted registers → number = -20) := by
  have hnonneg := RegisterPair.relativeCapacity.number_nonneg registers
  refine ⟨_, rfl, ?_⟩
  rw [ShowsExhausted]
  by_cases hpresent : showsPresent registers = true
  · rw [if_pos hpresent, and_iff_right hpresent]
    omega
  · rw [if_neg hpresent]
    exact ⟨iff_of_true (Int.le_refl 0) fun h ↦ hpresent h.1, fun h ↦ absurd h.1 hpresent⟩

end Magnitude

/-- The magnitudes that are reported of a battery are never negative, whatever the registers hold,
but for one: the time that the charge lasts is -20 seconds while a battery shows zero per cent. -/
theorem magnitude_nonneg_iff {σ : Type}
    {respond : Responder (LaptopDriver.Request.Answer Chipset.Request.Answer) σ} {state : σ}
    {registers : Memory Register UInt8} (h : ShowsContents respond state registers)
    {property : BatteryProperty} (hmem : property ∈ magnitudes) :
    let outlier := property = .timeToEmptyNow ∧ ShowsExhausted registers
    ∃ value : Int32, (property.get.execute respond state).value = .number value ∧
      (0 ≤ value ↔ ¬outlier) ∧ (outlier → value = -20) := by
  intro outlier
  obtain ⟨number, hformula, hsign, hoff⟩ : ∃ number ∈ property.formula? registers,
      (0 ≤ number ↔ ¬outlier) ∧ (outlier → number = -20) := by
    by_cases hproperty : property = .timeToEmptyNow
    · subst hproperty
      simpa [outlier] using timeToEmpty_nonneg_iff
    · obtain ⟨number, hformula, hnonneg⟩ := formula_nonneg hmem hproperty
      have hnot : ¬outlier := fun h ↦ hproperty h.1
      exact ⟨number, hformula, iff_of_true hnonneg hnot, fun h ↦ absurd h hnot⟩
  obtain ⟨value, hvalue, htoInt⟩ := property.exists_number h hformula
  refine ⟨value, hvalue, ?_, fun houtlier ↦ Int32.toInt_inj.1 (htoInt.trans (hoff houtlier))⟩
  rw [← hsign, ← htoInt]
  exact Int32.le_iff_toInt_le

/-- The last per cent of a battery. -/
theorem magnitude_nonneg_iff_one_per_cent :
    let registers : Memory Register UInt8 := Memory.writeAll (fun _ ↦ 0)
      [(.batteryStatus, 1), (.relativeCapacityLow, 1)]
    let machine : Machine := { registers }
    ShowsContents Machine.respond machine registers ∧ .timeToEmptyNow ∈ magnitudes ∧
      ∃ value : Int32,
        (BatteryProperty.timeToEmptyNow.get.execute Machine.respond machine).value = .number value ∧
          0 ≤ value := by
  intro registers machine
  have hcontents : ShowsContents Machine.respond machine registers :=
    Machine.Faithful.showsContents fun _ ↦ rfl
  have hmem : BatteryProperty.timeToEmptyNow ∈ magnitudes := by decide
  obtain ⟨value, hvalue, hsign, -⟩ := magnitude_nonneg_iff hcontents hmem
  exact ⟨hcontents, hmem, value, hvalue, hsign.2 fun h ↦ absurd h.2.2 (by decide)⟩

/-- The battery is present, and everything else shows zero. -/
theorem not_magnitude_nonneg_of_exhausted :
    ¬∀ machine : Machine, machine.Faithful → ∀ property ∈ magnitudes,
      ∃ value : Int32, (property.get.execute Machine.respond machine).value = .number value ∧
        0 ≤ value := by
  intro h
  let machine : Machine := { registers := Memory.write (fun _ ↦ 0) .batteryStatus 1 }
  obtain ⟨value, hvalue, hnonneg⟩ := h machine (fun _ ↦ rfl) .timeToEmptyNow (by decide)
  have hnegative : (BatteryProperty.timeToEmptyNow.get.execute Machine.respond machine).value =
      .number (-20) := by decide
  obtain rfl := PropertyValue.number.inj (hnegative.symm.trans hvalue)
  exact absurd hnonneg (by decide)

end LaptopDriver.Supply
