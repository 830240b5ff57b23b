import LaptopDriver.Proofs.Hotkey.Report

/-!
# Verdicts on the battery

The driver says in a word how well the battery is, and in a word how full it is. Both verdicts are
come to in the same way (`Verdict.get_property`): the status register is read once to see whether a
battery is present, and only then is it read again for the flags on which the verdict is passed
(`Verdict.assess`). So there are two readings, and the battery may be taken out between them. The
flags are then those of an empty bay, and still a verdict is passed on them.

* `Verdict.execute_assess` says what is read, and `Verdict.Course` is what can have been shown.
* `Verdict.value_judge_eq_unknown_iff` says on which flags no verdict is passed.
* `Verdict.stands_iff` says exactly when a verdict stands, against every controller.
-/

namespace LaptopDriver.Supply

open Controller

/-! ### Passing a verdict -/

theorem Health.ofRegisters_ne_unknown (flags : BatteryStatus) (alarms : UInt8) :
    Health.ofRegisters flags alarms ≠ .unknown := by
  rw [Health.ofRegisters]
  split
  · decide
  · split <;> decide

theorem CapacityLevel.ofPercentage_ne_unknown (percentage : Int32) :
    CapacityLevel.ofPercentage percentage ≠ .unknown := by
  rw [CapacityLevel.ofPercentage]
  split
  · decide
  · split <;> decide

/-- A property of the battery on which a verdict is passed. -/
inductive Verdict where
  /-- How well the battery is. -/
  | health
  /-- How full the battery is, in words. -/
  | capacityLevel

namespace Verdict

/-- The property of the battery. -/
def property : Verdict → BatteryProperty
  | health => .health
  | capacityLevel => .capacityLevel

/-- The value that stands for no verdict. -/
def unknown : Verdict → PropertyValue
  | health => .health .unknown
  | capacityLevel => .capacityLevel .unknown

/-- Of a battery that is beyond use it is not said how full it is. -/
def refuses : Verdict → BatteryStatus → Bool
  | health, _ => false
  | capacityLevel, flags => flags.destroyed

/-- Pass a verdict on the flags of the status register. -/
def judge : Verdict → BatteryStatus → Routine PropertyValue
  | health, flags => do
    let alarms ← Routine.read .batteryChargeStatus
    pure (.health (.ofRegisters flags alarms))
  | capacityLevel, flags => PropertyValue.capacityLevel <$> do
    if flags.destroyed then pure .unknown
    else if flags.low then pure .low
    else if flags.full then pure .full
    else
      let percentage ← quantity .relativeCapacity
      pure (.ofPercentage percentage)

/-- Look whether a battery is present, and if one is, read its flags and pass a verdict on them. -/
def assess (verdict : Verdict) : Routine PropertyValue := do
  if ← batteryPresent then
    let flags ← batteryStatus
    verdict.judge flags
  else
    pure verdict.unknown

/-- What is done with the outcome can be done with the outcome of either case. -/
theorem map_ifPresent {α β : Type} (f : α → β) (routine : Routine α) (otherwise : α) :
    (f <$> do if ← batteryPresent then routine else pure otherwise) =
      (do if ← batteryPresent then f <$> routine else pure (f otherwise)) := by
  rw [map_bind]
  congr 1
  funext present
  cases present <;> rfl

/-- Both properties are assessed. -/
theorem get_property (verdict : Verdict) : verdict.property.get = verdict.assess := by
  cases verdict with
  | health => exact map_ifPresent PropertyValue.health _ _
  | capacityLevel => exact map_ifPresent PropertyValue.capacityLevel _ _

end Verdict

/-! ### What is read -/

/-- The flags that the status register showed in a trace, one reading after the other. -/
def statuses (trace : Trace) : List BatteryStatus :=
  (Trace.shown .batteryStatus trace).map BatteryStatus.mk

/-- The flags of the last reading in a trace. -/
def flags? (trace : Trace) : Option BatteryStatus :=
  (statuses trace).getLast?

theorem statuses_append (trace rest : Trace) :
    statuses (trace ++ rest) = statuses trace ++ statuses rest := by
  rw [statuses, Trace.shown, List.filterMap_append, List.map_append]
  rfl

section Execution

variable {σ : Type} (respond : Responder (LaptopDriver.Request.Answer Chipset.Request.Answer) σ)

namespace Verdict

/-- The status is read once if no battery is present, and twice otherwise; the verdict is passed on
the second reading. -/
theorem execute_assess (verdict : Verdict) (state : σ) :
    let first := batteryStatus.execute respond state
    let second := batteryStatus.execute respond first.state
    let judged := (verdict.judge second.value).execute respond second.state
    verdict.assess.execute respond state =
      if first.value.present then
        { judged with trace := first.trace ++ (second.trace ++ judged.trace) }
      else
        ⟨verdict.unknown, first.state, first.trace⟩ := by
  intro first second judged
  have hpresent : batteryPresent.execute respond state =
      ⟨first.value.present, first.state, first.trace⟩ := rfl
  rw [assess, Program.execute_bind, hpresent]
  dsimp only
  split
  · rw [Program.execute_bind]
  · exact congrArg _ (List.append_nil _)

/-- A verdict is passed on all flags but those on which it is refused. -/
theorem value_judge_eq_unknown_iff (verdict : Verdict) (flags : BatteryStatus) (state : σ) :
    ((verdict.judge flags).execute respond state).value = verdict.unknown ↔
      verdict.refuses flags = true := by
  cases verdict with
  | health =>
    exact ⟨fun h ↦ absurd (PropertyValue.health.inj h) (Health.ofRegisters_ne_unknown flags _),
      nofun⟩
  | capacityLevel =>
    rw [judge, Program.execute_map]
    show _ ↔ flags.destroyed = true
    cases flags.destroyed with
    | true => exact ⟨fun _ ↦ rfl, fun _ ↦ rfl⟩
    | false =>
      refine ⟨fun h ↦ absurd (PropertyValue.capacityLevel.inj h) ?_, nofun⟩
      cases flags.low with
      | true => nofun
      | false =>
        cases flags.full with
        | true => nofun
        | false => exact CapacityLevel.ofPercentage_ne_unknown _

/-- Passing a verdict does not read the status again. -/
theorem statuses_judge (verdict : Verdict) (flags : BatteryStatus) (state : σ) :
    statuses ((verdict.judge flags).execute respond state).trace = [] := by
  cases verdict with
  | health => rfl
  | capacityLevel =>
    rw [judge, Program.execute_map]
    cases flags.destroyed <;> cases flags.low <;> cases flags.full <;> rfl

end Verdict

end Execution

/-! ### When a verdict stands -/

namespace Verdict

section Course

variable {σ : Type} (verdict : Verdict)
  (respond : Responder (LaptopDriver.Request.Answer Chipset.Request.Answer) σ) (state : σ)

/-- What happened when the driver was asked for a verdict. -/
inductive Course
    (judged : Execution (LaptopDriver.Request.Answer Chipset.Request.Answer) σ PropertyValue) :
    Prop where
  /-- One reading showed that no battery is present, and no verdict was passed. -/
  | unpassed (first : BatteryStatus) (statuses_eq : statuses judged.trace = [first])
    (absent : first.present = false) (value_eq : judged.value = verdict.unknown)
  /-- A first reading showed a battery, and the verdict was passed on the flags of a second one. -/
  | passed (first second : BatteryStatus) (between : σ)
    (statuses_eq : statuses judged.trace = [first, second]) (present : first.present = true)
    (value_eq : judged.value = ((verdict.judge second).execute respond between).value)

/-- A verdict stands: if one is passed, the flags that it is passed on are those of a battery that
is present, and it is not refused on them. -/
def Stands : Prop :=
  let judged := verdict.property.get.execute respond state
  judged.value ≠ verdict.unknown →
    ∃ flags ∈ flags? judged.trace, flags.present = true ∧ verdict.refuses flags = false

theorem course : verdict.Course respond (verdict.property.get.execute respond state) := by
  let first := batteryStatus.execute respond state
  let second := batteryStatus.execute respond first.state
  have hassess : verdict.assess.execute respond state = _ := verdict.execute_assess respond state
  rw [get_property]
  by_cases hpresent : first.value.present = true
  · rw [if_pos hpresent] at hassess
    refine .passed first.value second.value second.state ?_ hpresent (congrArg (·.value) hassess)
    rw [hassess, statuses_append, statuses_append, statuses_judge]
    rfl
  · rw [if_neg hpresent] at hassess
    exact .unpassed first.value (congrArg (statuses ·.trace) hassess)
      (eq_false_of_ne_true hpresent) (congrArg (·.value) hassess)

end Course

/-- However the status register moves, a verdict is passed on the flags of a second reading, after a
first one showed a battery. So a verdict stands exactly if the second reading shows a battery as
well, or the verdict is refused on its flags. -/
theorem stands_iff {σ : Type} (verdict : Verdict)
    (respond : Responder (LaptopDriver.Request.Answer Chipset.Request.Answer) σ) (state : σ) :
    let judged := verdict.property.get.execute respond state
    verdict.Course respond judged ∧
    (verdict.Stands respond state ↔
      ∀ first second, statuses judged.trace = [first, second] →
        second.present = true ∨ verdict.refuses second = true) := by
  intro judged
  have hcourse := verdict.course respond state
  refine ⟨hcourse, ?_⟩
  rcases hcourse with ⟨_, hstatuses, -, hunknown⟩ | ⟨first, second, _, hstatuses, -, hvalue⟩
  · refine ⟨fun _ first second htwice ↦ ?_, fun _ hpassed ↦ absurd hunknown hpassed⟩
    cases hstatuses.symm.trans htwice
  · have hrefused : judged.value = verdict.unknown ↔ verdict.refuses second = true := by
      rw [hvalue, value_judge_eq_unknown_iff]
    have hflags : flags? judged.trace = some second := by
      rw [flags?, hstatuses]
      rfl
    constructor
    · intro hstands _ _ htwice
      cases hstatuses.symm.trans htwice
      by_cases hunknown : judged.value = verdict.unknown
      · exact .inr (hrefused.1 hunknown)
      · obtain ⟨flags, hmem, hpresent, -⟩ := hstands hunknown
        obtain rfl := Option.some.inj (hflags.symm.trans hmem)
        exact .inl hpresent
    · intro hor hpassed
      have hnot : ¬verdict.refuses second = true := fun h ↦ hpassed (hrefused.2 h)
      exact ⟨second, hflags, (hor first second hstatuses).resolve_right hnot,
        eq_false_of_ne_true hnot⟩

/-- A battery is taken out after the first reading. Its percentage reads as zero then, and it is
said to be critical. -/
theorem not_stands_of_removal :
    ¬∀ (verdict : Verdict) (machine : Machine), verdict.Stands Machine.respond machine := by
  intro h
  let machine : Machine := { script := Memory.write (fun _ ↦ []) .batteryStatus [1, 0] }
  have hflags : flags? (BatteryProperty.capacityLevel.get.execute Machine.respond machine).trace =
      some ⟨0⟩ := by decide
  obtain ⟨flags, hmem, hpresent, -⟩ := h .capacityLevel machine (by decide)
  obtain rfl := Option.some.inj (hflags.symm.trans hmem)
  exact absurd hpresent (by decide)

end Verdict

end LaptopDriver.Supply
