import LaptopDriver.Proofs.Machine.Writing

/-!
# Whether a fan that is given a level runs

A level has an effect only on a running fan, so whoever sets one other than zero has to see to it
that the fan is switched on. To ask for a level does: the fan is switched on in the same step
(`written_setLevel`). To choose full speed sets the highest level and leaves the switch alone.

So what counts in a run is which step gives the fan a level for the first time. If it asks for a
level, the fan runs from then on, and if it chooses full speed the fan stays off unless it was on
already (`runsWhenCommanded_iff`).
-/

namespace LaptopDriver

open Controller Thermal

/-! ### Asking for a level -/

namespace Thermal.Fan

variable {σ : Type} (respond : Responder (Request.Answer Chipset.Request.Answer) σ)

/-- Bring a fan that is driven by hand to a level. -/
def drive (level : UInt8) : Routine Unit := do
  if 0 < level then
    Routine.write .fanControl 1
  Routine.write .fanLevel level

theorem setLevel_eq (request : Nat) :
    setLevel request = Routine.read .fanManual >>= fun manual ↦
      if manual = 1 then drive (.ofNat (min request maxFanLevel.toNat))
      else Routine.log .fanLevelIgnored :=
  rfl

theorem written_drive (level : UInt8) (state : σ) :
    let trace := ((drive level).execute respond state).trace
    Trace.written .fanControl trace = (if 0 < level then [1] else []) ∧
      Trace.written .fanLevel trace = [level] := by
  by_cases hlevel : 0 < level
  · simp only [drive, if_pos hlevel]
    exact ⟨rfl, rfl⟩
  · simp only [drive, if_neg hlevel]
    exact ⟨rfl, rfl⟩

/-- To ask for a level switches the fan on exactly if a level other than zero is set. -/
theorem written_setLevel (request : Nat) (state : σ) :
    let trace := ((setLevel request).execute respond state).trace
    Trace.written .fanControl trace =
      if ∃ level ∈ Trace.written .fanLevel trace, level ≠ 0 then [1] else [] := by
  let level : UInt8 := .ofNat (min request maxFanLevel.toNat)
  let read := (Routine.read .fanManual).execute respond state
  rw [setLevel_eq, Program.execute_bind]
  by_cases hmanual : read.value = 1
  · obtain ⟨hcontrol, hlevel⟩ := written_drive respond level read.state
    have hpos : (∃ written ∈ [level], written ≠ 0) ↔ 0 < level := by
      simp only [List.mem_singleton, exists_eq_left, UInt8.pos_iff_ne_zero]
    let driven := (drive level).execute respond read.state
    rw [if_pos hmanual]
    show Trace.written .fanControl driven.trace =
      if ∃ written ∈ Trace.written .fanLevel driven.trace, written ≠ 0 then [1] else []
    simp only [driven, hcontrol, hlevel, hpos]
  · rw [if_neg hmanual]
    rfl

end Thermal.Fan

/-! ### Steps -/

/-- Nothing switches the fan on but to ask for a level. -/
theorem Operation.fanControl_mem_writable_iff {operation : Operation} :
    Register.fanControl ∈ operation.writable ↔ ∃ level, operation = .setFanLevel level := by
  cases operation <;> simp +decide [writable]

/-- To ask for a level and to choose a mode are the only ways to give the fan a level. -/
theorem Operation.fanLevel_mem_writable_iff {operation : Operation} :
    Register.fanLevel ∈ operation.writable ↔
      (∃ level, operation = .setFanLevel level) ∨ ∃ number, operation = .setFanMode number := by
  cases operation <;> simp +decide [writable]

/-- The fan is switched on. -/
def Machine.FanRuns (machine : Machine) : Prop :=
  machine.registers .fanControl = 1

namespace Transition

/-- The step gives the fan a level other than zero. -/
def CommandsFan (transition : OnMachine) : Prop :=
  ∃ level ∈ transition.written .fanLevel, level ≠ 0

instance : DecidablePred CommandsFan := fun transition ↦
  inferInstanceAs (Decidable (∃ level ∈ transition.written .fanLevel, level ≠ 0))

/-- The step asks for a level of the fan. -/
def AsksLevel (transition : OnMachine) : Prop :=
  ∃ level, transition.step.operation = .setFanLevel level

/-- The step chooses a mode of the fan. -/
def ChoosesMode (transition : OnMachine) : Prop :=
  ∃ number, transition.step.operation = .setFanMode number

end Transition

namespace Step

variable (step : Step Machine) (laptop : Option Laptop) (machine : Machine)

theorem operation_of_commandsFan
    (h : (step.transition Machine.executor laptop machine).CommandsFan) :
    (step.transition Machine.executor laptop machine).AsksLevel ∨
      (step.transition Machine.executor laptop machine).ChoosesMode := by
  obtain ⟨level, hmem, -⟩ := h
  have hwritable : Register.fanLevel ∈ step.operation.writable := by
    refine Decidable.of_not_not fun hnot ↦ ?_
    rw [Transition.written_eq_nil hnot] at hmem
    cases hmem
  exact Operation.fanLevel_mem_writable_iff.1 hwritable

/-- A step that asks for a level switches the fan on exactly if it gives the fan a level. -/
theorem written_fanControl {step : Step Machine}
    (h : (step.transition Machine.executor laptop machine).AsksLevel) :
    let transition := step.transition Machine.executor laptop machine
    transition.written .fanControl = if transition.CommandsFan then [1] else [] := by
  obtain ⟨level, hoperation⟩ : ∃ level, step.operation = .setFanLevel level := h
  obtain ⟨change, _⟩ := step
  subst hoperation
  cases laptop with
  | none => rfl
  | some laptop =>
    have hwritten := Fan.written_setLevel Machine.respond level (change machine)
    have htrace : ((laptop.perform (.setFanLevel level)).execute Machine.respond
        (change machine)).trace =
        ((Fan.setLevel level).execute Machine.respond (change machine)).trace := by
      rw [Laptop.perform, Program.execute_bind]
      exact List.append_nil _
    rw [← htrace] at hwritten
    exact hwritten

/-- After a step the fan runs if it ran before, or if the step asked for a level and gave the fan
one. -/
theorem fanRuns_transition (h : step.LeavesRegister .fanControl) :
    let transition := step.transition Machine.executor laptop machine
    transition.stage.hardware.FanRuns ↔
      machine.FanRuns ∨ transition.AsksLevel ∧ transition.CommandsFan := by
  intro transition
  have hregister := step.register_transition h laptop machine
  rw [Machine.FanRuns, hregister]
  by_cases hasks : transition.AsksLevel
  · rw [written_fanControl laptop machine hasks]
    by_cases hcommands : transition.CommandsFan
    · rw [if_pos hcommands]
      exact iff_of_true rfl (.inr ⟨hasks, hcommands⟩)
    · rw [if_neg hcommands]
      exact (or_iff_left fun hboth ↦ hcommands hboth.2).symm
  · -- Whatever does not ask for a level leaves the switch alone.
    have hwritable : Register.fanControl ∉ step.operation.writable :=
      mt Operation.fanControl_mem_writable_iff.1 hasks
    rw [Transition.written_eq_nil hwritable]
    exact (or_iff_left fun hboth ↦ hasks hboth.1).symm

end Step

/-! ### Runs -/

/-- After a run the fan runs if it ran before, or if some step asked for a level and gave the fan
one. -/
theorem fanRuns_hardwareAfter {steps : List (Step Machine)}
    (hsteps : ∀ step ∈ steps, step.LeavesRegister .fanControl) (laptop : Option Laptop)
    (machine : Machine) :
    let history := transitions Machine.executor steps laptop machine
    (hardwareAfter machine history).FanRuns ↔
      machine.FanRuns ∨ ∃ transition ∈ history, transition.AsksLevel ∧ transition.CommandsFan := by
  induction steps generalizing laptop machine with
  | nil => simp [transitions, hardwareAfter]
  | cons step steps ih =>
    obtain ⟨hstep, hrest⟩ := List.forall_mem_cons.1 hsteps
    intro history
    simp only [show history = _ from transitions_cons _ _ _ _ _, List.mem_cons,
      exists_eq_or_imp, ← or_assoc]
    exact (ih hrest _ _).trans (or_congr_left (step.fanRuns_transition laptop machine hstep))

/-- Whenever the fan has been given a level other than zero, it runs. -/
def RunsWhenCommanded (machine : Machine) (history : List Transition.OnMachine) : Prop :=
  ∀ n, (∃ transition ∈ history.take n, transition.CommandsFan) →
    (hardwareAfter machine (history.take n)).FanRuns

/-- Every initial part of a list that has a member with one property has one with two properties,
exactly if the first member of the list with the one property has both. -/
theorem exists_mem_take_iff {α : Type} {P Q : α → Prop} [DecidablePred P] (history : List α) :
    (∀ n, (∃ x ∈ history.take n, P x) → ∃ x ∈ history.take n, Q x ∧ P x) ↔
      ∀ x ∈ history.find? (P ·), Q x := by
  constructor
  · -- The initial part that ends with the first member with the property has no other such member.
    intro h x hfind
    obtain ⟨hx, before, after, hhistory, hbefore⟩ := List.find?_eq_some_iff_append.1 hfind
    have htake : history.take (before.length + 1) = before ++ [x] := by
      rw [hhistory]
      exact List.take_length_add_append 1
    have hlast : x ∈ history.take (before.length + 1) :=
      htake ▸ List.mem_append_right _ (List.mem_singleton_self x)
    obtain ⟨y, hmem, hQ, hP⟩ := h _ ⟨x, hlast, of_decide_eq_true hx⟩
    rcases List.mem_append.1 (htake ▸ hmem) with hearlier | hsame
    · exact absurd hP (by simpa using hbefore y hearlier)
    · exact List.mem_singleton.1 hsame ▸ hQ
  · rintro h n ⟨x, hmem, hP⟩
    have hsome : ((history.take n).find? (P ·)).isSome :=
      List.find?_isSome.2 ⟨x, hmem, decide_eq_true hP⟩
    obtain ⟨first, hfirst⟩ := Option.isSome_iff_exists.1 hsome
    have hfind : history.find? (P ·) = some first :=
      (List.take_prefix n history).find?_eq_some hfirst
    have hfirstP := List.find?_some hfirst
    exact ⟨first, List.mem_of_find?_eq_some hfirst, h first hfind, of_decide_eq_true hfirstP⟩

/-- If nothing but the driver switches the fan on or off, it runs from the first step on that asked
for a level and gave the fan one. So it runs whenever it has been given a level exactly if it ran
before the run, or the first step to give it a level did so by asking for a level. A step that gives
the fan a level either asks for one or chooses a mode. -/
theorem runsWhenCommanded_iff {steps : List (Step Machine)}
    (hsteps : ∀ step ∈ steps, step.LeavesRegister .fanControl) (laptop : Option Laptop)
    (machine : Machine) :
    let history := transitions Machine.executor steps laptop machine
    (∀ n, (hardwareAfter machine (history.take n)).FanRuns ↔
      machine.FanRuns ∨
        ∃ transition ∈ history.take n, transition.AsksLevel ∧ transition.CommandsFan) ∧
    (∀ transition ∈ history, transition.CommandsFan →
      transition.AsksLevel ∨ transition.ChoosesMode) ∧
    (RunsWhenCommanded machine history ↔
      machine.FanRuns ∨
        ∀ first ∈ history.find? (·.CommandsFan), first.AsksLevel) := by
  intro history
  have hruns (n : Nat) : (hardwareAfter machine (history.take n)).FanRuns ↔
      machine.FanRuns ∨
        ∃ transition ∈ history.take n, transition.AsksLevel ∧ transition.CommandsFan := by
    rw [show history.take n = _ from take_transitions _ n steps laptop machine]
    exact fanRuns_hardwareAfter (fun step hmem ↦ hsteps step (List.mem_of_mem_take hmem)) _ _
  refine ⟨hruns, forall_transitions _
    (fun step _ laptop hardware ↦ step.operation_of_commandsFan laptop hardware) _ _, ?_⟩
  by_cases hstart : machine.FanRuns
  · refine iff_of_true (fun n _ ↦ (hruns n).2 (.inl hstart)) (.inl hstart)
  · rw [or_iff_right hstart, ← exists_mem_take_iff]
    refine forall_congr' fun n ↦ imp_congr_right fun _ ↦ ?_
    rw [hruns n, or_iff_right hstart]

/-- A level is asked for before full speed is chosen, and the fan runs at full speed. -/
theorem runsWhenCommanded_iff_level_first :
    let steps : List (Step Machine) :=
      [⟨id, .load { }⟩, ⟨id, .setFanMode 1⟩, ⟨id, .setFanLevel 1⟩, ⟨id, .setFanMode 0⟩]
    let history := transitions Machine.executor steps none { }
    (∀ step ∈ steps, step.LeavesRegister .fanControl) ∧ RunsWhenCommanded { } history := by
  intro steps history
  have hsteps : ∀ step ∈ steps, step.LeavesRegister .fanControl := by
    simp only [steps, List.forall_mem_cons]
    exact ⟨fun _ ↦ rfl, fun _ ↦ rfl, fun _ ↦ rfl, fun _ ↦ rfl, List.forall_mem_nil _⟩
  refine ⟨hsteps, (runsWhenCommanded_iff hsteps none { }).2.2.2 (.inr fun first hfirst ↦ ?_)⟩
  have hthird : (history.find? (·.CommandsFan)).map (·.step.operation) = some (.setFanLevel 1) := by
    decide +kernel
  rw [show history.find? (·.CommandsFan) = some first from hfirst] at hthird
  exact ⟨1, Option.some.inj hthird⟩

/-- Full speed is chosen while the fan is off, and it stays off. -/
theorem not_runsWhenCommanded_fullSpeed :
    ¬∀ (steps : List (Step Machine)) (laptop : Option Laptop) (machine : Machine),
      (∀ step ∈ steps, ∀ register ∈ [Register.fanManual, .fanLevel, .fanControl],
        step.LeavesRegister register) →
      RunsWhenCommanded machine (transitions Machine.executor steps laptop machine) := by
  intro h
  let steps : List (Step Machine) := [⟨id, .load { }⟩, ⟨id, .setFanMode 0⟩]
  have hsteps : ∀ step ∈ steps, ∀ register ∈ [Register.fanManual, .fanLevel, .fanControl],
      step.LeavesRegister register := by
    simp only [steps, List.forall_mem_cons]
    exact ⟨⟨fun _ ↦ rfl, fun _ ↦ rfl, fun _ ↦ rfl, List.forall_mem_nil _⟩,
      ⟨fun _ ↦ rfl, fun _ ↦ rfl, fun _ ↦ rfl, List.forall_mem_nil _⟩, List.forall_mem_nil _⟩
  have hruns := h steps none { } hsteps 2 (by decide +kernel)
  rw [Machine.FanRuns] at hruns
  exact absurd hruns (by decide +kernel)

end LaptopDriver
