import LaptopDriver.Proofs.Supply.Figures
import LaptopDriver.Proofs.Supply.Verdict

/-!
# The condition of the battery, seen from two sides

The power supply says in words how well the battery is and how full it is, and the temperature
sensors raise an alarm if it is too hot. All of this is read off the same few registers, but each in
a place of its own: the words weigh the same flags in different orders, and the bit for heat is
named once by either side.

While the registers hold still, what is said is a function of what they hold (`Verdict.shown`,
`alarmShown`), and the functions agree (`views_agree`). What the agreement rests on is that both sides
mean the same bit (`batteryAlarmBit_eq`), and that the flags on which nothing or little is said of
the charge are those of a dead battery (`CapacityLevel.ofFlags_eq_unknown_iff`,
`CapacityLevel.ofFlags_eq_low_iff`, `Health.ofRegisters_eq_dead_iff`).
-/

namespace LaptopDriver.Supply

open Controller Routine

/-! ### Words for flags -/

/-- How full a battery is that is present, in words. The flags go before the percentage. -/
def CapacityLevel.ofFlags (flags : BatteryStatus) (percentage : Int32) : CapacityLevel :=
  if flags.destroyed then .unknown
  else if flags.low then .low
  else if flags.full then .full
  else .ofPercentage percentage

namespace CapacityLevel

variable {flags : BatteryStatus} {percentage : Int32}

theorem ofPercentage_ne_low (percentage : Int32) : ofPercentage percentage ≠ .low := by
  rw [ofPercentage]
  split
  · decide
  · split <;> decide

/-- How full a battery is stays unsaid exactly if it is beyond use. -/
theorem ofFlags_eq_unknown_iff : ofFlags flags percentage = .unknown ↔ flags.destroyed = true := by
  have hpercentage := ofPercentage_ne_unknown percentage
  rw [ofFlags]
  cases flags.destroyed <;> cases flags.low <;> cases flags.full <;> simp [hpercentage]

/-- Only the flag says that a battery is low, and only of one that can be used. -/
theorem ofFlags_eq_low_iff :
    ofFlags flags percentage = .low ↔ flags.destroyed = false ∧ flags.low = true := by
  have hpercentage := ofPercentage_ne_low percentage
  rw [ofFlags]
  cases flags.destroyed <;> cases flags.low <;> cases flags.full <;> simp [hpercentage]

end CapacityLevel

namespace Health

variable {flags : BatteryStatus} {alarms : UInt8}

theorem ofRegisters_eq_overheat_iff :
    ofRegisters flags alarms = .overheat ↔ alarms &&& overheatBit ≠ 0 := by
  rw [ofRegisters]
  by_cases hhot : alarms &&& overheatBit ≠ 0
  · simp [hhot]
  · rw [if_neg hhot]
    cases flags.destroyed <;> cases flags.low <;> simp [hhot]

/-- A battery that is cool is dead exactly if it is beyond use or low. -/
theorem ofRegisters_eq_dead_iff :
    ofRegisters flags alarms = .dead ↔
      ¬alarms &&& overheatBit ≠ 0 ∧ (flags.destroyed = true ∨ flags.low = true) := by
  rw [ofRegisters]
  by_cases hhot : alarms &&& overheatBit ≠ 0
  · simp [hhot]
  · rw [if_neg hhot]
    cases flags.destroyed <;> cases flags.low <;> simp [hhot]

end Health

/-- Both sides mean the same bit. -/
theorem batteryAlarmBit_eq : Thermal.batteryAlarmBit = overheatBit :=
  rfl

/-! ### What is said of the registers -/

section Contents

variable (registers : Memory Register UInt8)

/-- How well the battery is, by what the registers hold. -/
def healthShown : Health :=
  if showsPresent registers then
    .ofRegisters ⟨registers .batteryStatus⟩ (registers .batteryChargeStatus)
  else .unknown

/-- How full the battery is, in words, by what the registers hold. -/
def levelShown : CapacityLevel :=
  if showsPresent registers then
    .ofFlags ⟨registers .batteryStatus⟩ (widen (RegisterPair.relativeCapacity.contents registers))
  else .unknown

/-- Whether the alarm for the temperature of the battery is raised, by what the registers hold. -/
def alarmShown : Bool :=
  decide (registers .batteryChargeStatus &&& Thermal.batteryAlarmBit ≠ 0)

/-- The verdict that is passed on what the registers hold. -/
def Verdict.shown : Verdict → PropertyValue
  | health => .health (healthShown registers)
  | capacityLevel => .capacityLevel (levelShown registers)

end Contents

section Reading

variable {σ : Type} {respond : Responder (LaptopDriver.Request.Answer Chipset.Request.Answer) σ}
  {state : σ} {registers : Memory Register UInt8} (h : ShowsContents respond state registers)

include h

/-- While the registers hold still, the second reading of the status shows what the first one
did. -/
theorem Verdict.yields_property (verdict : Verdict) {value : PropertyValue}
    (hjudge : (if showsPresent registers then verdict.judge ⟨registers .batteryStatus⟩
      else .done verdict.unknown).Yields respond state value) :
    verdict.property.get.Yields respond state value := by
  rw [verdict.get_property]
  refine (yields_batteryPresent h).bind ?_
  cases hpresent : showsPresent registers with
  | true =>
    rw [if_pos hpresent] at hjudge
    exact ((h.yields_read .batteryStatus).bind (.done _)).bind hjudge
  | false =>
    rw [if_neg (ne_true_of_eq_false hpresent)] at hjudge
    exact hjudge

theorem Verdict.yields_shown (verdict : Verdict) :
    verdict.property.get.Yields respond state (verdict.shown registers) := by
  refine verdict.yields_property h ?_
  cases verdict with
  | health =>
    rw [shown, healthShown]
    split
    · exact (h.yields_read .batteryChargeStatus).bind (.done _)
    · exact .done _
  | capacityLevel =>
    rw [shown, levelShown]
    split
    · refine Yields.map ?_ PropertyValue.capacityLevel
      rw [CapacityLevel.ofFlags]
      cases BatteryStatus.destroyed _ <;> cases BatteryStatus.low _ <;>
        cases BatteryStatus.full _ <;>
        first | exact .done _ | exact (yields_quantity h .relativeCapacity).bind (.done _)
    · exact .done _

theorem yields_alarmShown : Thermal.batteryAlarm.Yields respond state (alarmShown registers) :=
  (h.yields_read .batteryChargeStatus).bind (.done _)

end Reading

/-! ### Agreement -/

/-- What is said of a battery with these flags agrees. -/
structure Agree (flags : BatteryStatus) (health : Health) (level : CapacityLevel) (alarm : Bool) :
    Prop where
  /-- A battery that is present is called overheated exactly while the alarm is raised. -/
  overheat : flags.present = true → (health = .overheat ↔ alarm = true)
  /-- It is not known how well a battery is exactly if there is none. -/
  health_unknown : health = .unknown ↔ flags.present = false
  /-- It is not known how full a battery is exactly if there is none or it is beyond use. -/
  level_unknown : level = .unknown ↔ flags.present = false ∨ flags.destroyed = true
  /-- A battery that is present is not well if it is low or if it is not known how full it is. -/
  unwell : level = .low ∨ level = .unknown ∧ flags.present = true →
    health = .dead ∨ health = .overheat
  /-- A battery is called dead for no other reason than that. -/
  dead : health = .dead → level = .low ∨ level = .unknown

/-- Nothing is said of a battery that is not there, whether the alarm is raised or not. -/
theorem agree_of_absent {flags : BatteryStatus} (habsent : flags.present = false) (alarm : Bool) :
    Agree flags .unknown .unknown alarm where
  overheat hpresent := absurd hpresent (ne_true_of_eq_false habsent)
  health_unknown := iff_of_true rfl habsent
  level_unknown := iff_of_true rfl (.inl habsent)
  unwell h := by
    rcases h with hlow | ⟨-, hpresent⟩
    · cases hlow
    · exact absurd hpresent (ne_true_of_eq_false habsent)
  dead := nofun

/-- What is said of a battery that is there agrees on all flags, alarms and percentages. -/
theorem agree_of_present {flags : BatteryStatus} (hpresent : flags.present = true)
    (alarms : UInt8) (percentage : Int32) :
    Agree flags (.ofRegisters flags alarms) (.ofFlags flags percentage)
      (decide (alarms &&& Thermal.batteryAlarmBit ≠ 0)) where
  overheat _ := by
    rw [batteryAlarmBit_eq, decide_eq_true_iff]
    exact Health.ofRegisters_eq_overheat_iff
  health_unknown := by
    refine iff_of_false (Health.ofRegisters_ne_unknown flags alarms) ?_
    exact ne_false_of_eq_true hpresent
  level_unknown := by
    rw [CapacityLevel.ofFlags_eq_unknown_iff, hpresent]
    simp
  unwell h := by
    have hflags : flags.destroyed = true ∨ flags.low = true := by
      rcases h with hlow | ⟨hunknown, -⟩
      · exact .inr (CapacityLevel.ofFlags_eq_low_iff.1 hlow).2
      · exact .inl (CapacityLevel.ofFlags_eq_unknown_iff.1 hunknown)
    -- Heat goes before wear, so the flags decide only while the battery is cool.
    by_cases hhot : alarms &&& overheatBit ≠ 0
    · exact .inr (Health.ofRegisters_eq_overheat_iff.2 hhot)
    · exact .inl (Health.ofRegisters_eq_dead_iff.2 ⟨hhot, hflags⟩)
  dead h := by
    obtain ⟨-, hflags⟩ := Health.ofRegisters_eq_dead_iff.1 h
    cases hdestroyed : flags.destroyed with
    | true => exact .inr (CapacityLevel.ofFlags_eq_unknown_iff.2 hdestroyed)
    | false =>
      have hlow : flags.low = true := hflags.resolve_left (ne_true_of_eq_false hdestroyed)
      exact .inl (CapacityLevel.ofFlags_eq_low_iff.2 ⟨hdestroyed, hlow⟩)

theorem agree_shown (registers : Memory Register UInt8) :
    Agree ⟨registers .batteryStatus⟩ (healthShown registers) (levelShown registers)
      (alarmShown registers) := by
  rw [healthShown, levelShown]
  cases hpresent : showsPresent registers with
  | true => exact agree_of_present hpresent _ _
  | false => exact agree_of_absent hpresent _

/-- While the registers of the controller hold still, whatever they hold, both sides of the driver
say how the battery is without changing anything, and what they say agrees. -/
theorem views_agree {σ : Type}
    {respond : Responder (LaptopDriver.Request.Answer Chipset.Request.Answer) σ} {state : σ}
    {registers : Memory Register UInt8} (h : ShowsContents respond state registers) :
    ∃ (health : Health) (level : CapacityLevel) (alarm : Bool),
      (Reading.batteryProperty .health).take.Yields respond state (.property (.health health)) ∧
      (Reading.batteryProperty .capacityLevel).take.Yields respond state
        (.property (.capacityLevel level)) ∧
      Reading.batteryAlarm.take.Yields respond state (.flag alarm) ∧
      Agree ⟨registers .batteryStatus⟩ health level alarm := by
  have hhealth := (Verdict.health.yields_shown h).map Value.property
  have hlevel := (Verdict.capacityLevel.yields_shown h).map Value.property
  have halarm := (yields_alarmShown h).map Value.flag
  exact ⟨_, _, _, hhealth, hlevel, halarm, agree_shown registers⟩

/-- A battery that is beyond use, low and full at once, and too hot. -/
theorem views_agree_destroyed_hot :
    let registers : Memory Register UInt8 := Memory.writeAll (fun _ ↦ 0)
      [(.batteryStatus, 0x27), (.batteryChargeStatus, 0xF4), (.relativeCapacityLow, 97)]
    let machine : Machine := { registers }
    ShowsContents Machine.respond machine registers ∧
      ∃ (health : Health) (level : CapacityLevel) (alarm : Bool),
        ((Reading.batteryProperty .health).take.execute Machine.respond machine).value =
          .property (.health health) ∧
        ((Reading.batteryProperty .capacityLevel).take.execute Machine.respond machine).value =
          .property (.capacityLevel level) ∧
        (Reading.batteryAlarm.take.execute Machine.respond machine).value = .flag alarm ∧
        health = .overheat ∧ level = .unknown ∧ alarm = true := by
  intro registers machine
  have hcontents : ShowsContents Machine.respond machine registers :=
    Machine.Faithful.showsContents fun _ ↦ rfl
  obtain ⟨health, level, alarm, hhealth, hlevel, halarm, hagree⟩ := views_agree hcontents
  have hraised : alarm = true :=
    Value.flag.inj (halarm.value_eq.symm.trans (by decide))
  refine ⟨hcontents, health, level, alarm, hhealth.value_eq, hlevel.value_eq, halarm.value_eq,
    ?_, hagree.level_unknown.2 (.inr (by decide)), hraised⟩
  exact (hagree.overheat (by decide)).2 hraised

end LaptopDriver.Supply
