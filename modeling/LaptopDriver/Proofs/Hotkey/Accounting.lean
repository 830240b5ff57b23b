import LaptopDriver.Machine.Change
import LaptopDriver.Proofs.Hotkey.Consumption

/-!
# Every event is accounted for

The table of purposes tells for every step of a run whether it queries the controller, and what for.
The main statement is that nothing else happens to events in any run, from any machine and whatever
the machine does between the steps: each step makes the listed query or none, and the events that
are dispatched are, in order, those of the numbers that were latched by successful queries of
serving steps.

Where nothing but arrivals happens to the queue between the steps, and no query finds it empty, the
run is a walk along the **entries**: those that were pending at first, and behind them the arrivals.
The queries take the entries from the front, one each. What becomes of an entry is decided by
the purpose of its query (`QueryPurpose.event?`), so an entry is dispatched at most once, and a
flushed one never.
-/

namespace LaptopDriver

open Controller Hotkey

variable {σ : Type} {Op : Type} {Answer : Op → Type}

/-- The purpose for which a transition queries the controller, if it does. -/
def Transition.purpose? (transition : Transition Answer σ) : Option QueryPurpose :=
  transition.step.operation.queryPurpose? transition.laptop

/-- The event that is dispatched for an entry of the queue that is taken out for a purpose. -/
def QueryPurpose.event? : QueryPurpose → Except Fault UInt8 → Option Event
  | .serve, .ok code => Event.ofCode? code
  | _, _ => none

/-- A query that finds an entry takes it out of the queue, and answers and latches what it
says. -/
theorem Machine.query_cons {machine : Machine} {entry : Except Fault UInt8}
    {rest : List (Except Fault UInt8)} (h : machine.pending = entry :: rest) :
    machine.query.1 = (entry.map fun _ ↦ ()) ∧ machine.query.2.pending = rest ∧
      machine.nextCode? = entry.toOption := by
  unfold nextCode? query
  rw [h]
  cases entry <;> exact ⟨rfl, rfl, rfl⟩

/-- Nothing happens to the queue before the step but that events arrive. -/
def Step.OnlyQueues (step : Step Machine) : Prop :=
  ∀ machine, machine.pending <+: (step.change machine).pending

theorem Machine.Change.onlyQueues (change : Machine.Change) (operation : Operation) :
    Step.OnlyQueues ⟨change.apply, operation⟩ :=
  fun _ ↦ List.prefix_append _ _

namespace Transition

/-- The event number that a transition serves. -/
def servedCode? (transition : OnMachine) : Option UInt8 :=
  match transition.purpose? with
  | some .serve => transition.started.nextCode?
  | _ => none

theorem servedCode?_eq_some_iff {transition : OnMachine} {code : UInt8} :
    transition.servedCode? = some code ↔
      transition.purpose? = some .serve ∧ transition.started.nextCode? = some code := by
  rw [servedCode?]
  rcases transition.purpose? with _ | (_ | _) <;> simp

/-- The entries that arrive in the queue before the operation. -/
def arrivals (transition : OnMachine) : List (Except Fault UInt8) :=
  transition.started.pending.drop transition.hardware.pending.length

/-- The entry that a transition takes out of the queue, with what it is taken out for. -/
def consumption? (transition : OnMachine) : Option (QueryPurpose × Except Fault UInt8) := do
  let purpose ← transition.purpose?
  let entry ← transition.started.pending.head?
  pure (purpose, entry)

/-- What a transition does to events is what the purpose of its query says. -/
structure Accounted (transition : OnMachine) : Prop where
  queries : Trace.queries transition.stage.trace =
    transition.started.answers transition.purpose?
  dispatched : Trace.dispatched transition.stage.trace =
    transition.started.events transition.purpose?
  eventSource : transition.stage.hardware.eventSource =
    (transition.started.afterQuery transition.purpose?).eventSource

theorem events_purpose? (transition : OnMachine) :
    transition.started.events transition.purpose? =
      (transition.servedCode?.bind Event.ofCode?).toList := by
  rw [servedCode?]
  rcases transition.purpose? with _ | (_ | _) <;> rfl

theorem Accounted.length_queries {transition : OnMachine} (h : transition.Accounted) :
    (Trace.queries transition.stage.trace).length =
      if transition.purpose?.isSome then 1 else 0 := by
  rw [h.queries]
  cases transition.purpose? <;> rfl

theorem started_pending (transition : OnMachine) (h : transition.step.OnlyQueues) :
    transition.started.pending = transition.hardware.pending ++ transition.arrivals := by
  obtain ⟨arrived, harrived⟩ := h transition.hardware
  have hstarted : transition.started.pending = transition.hardware.pending ++ arrived :=
    harrived.symm
  rw [arrivals, hstarted, List.drop_left]

/-- A transition whose query does not find the queue empty takes the first entry out of it, and the
purpose of the query decides what becomes of the entry. -/
theorem Accounted.consumes {transition : OnMachine} (h : transition.Accounted)
    (hfound : transition.purpose?.isSome → transition.started.pending ≠ []) :
    transition.started.pending =
        (transition.consumption?.map Prod.snd).toList ++ transition.stage.hardware.pending ∧
      transition.purpose? = transition.consumption?.map Prod.fst ∧
      Trace.queries transition.stage.trace =
        (transition.consumption?.map fun taken ↦ taken.2.map fun _ ↦ ()).toList ∧
      Trace.dispatched transition.stage.trace =
        (transition.consumption?.bind fun taken ↦ taken.1.event? taken.2).toList := by
  have hpending : transition.stage.hardware.pending =
      (transition.started.afterQuery transition.purpose?).pending :=
    (Prod.mk.inj h.eventSource).1
  rw [h.queries, h.dispatched, hpending, consumption?]
  cases hpurpose : transition.purpose? with
  | none => exact ⟨rfl, rfl, rfl, rfl⟩
  | some purpose =>
    cases hstarted : transition.started.pending with
    | nil =>
      -- A query that finds the queue empty answers without an entry; it is ruled out here.
      exact absurd hstarted (hfound (by rw [hpurpose]; rfl))
    | cons entry rest =>
      obtain ⟨hanswer, hrest, hcode⟩ := Machine.query_cons hstarted
      refine ⟨congrArg (entry :: ·) hrest.symm, rfl, congrArg (fun answer ↦ [answer]) hanswer, ?_⟩
      cases purpose with
      | flush => rfl
      | serve =>
        rw [Machine.events, hcode]
        cases entry <;> rfl

end Transition

/-- Every step is accounted for, whatever is loaded and wherever the machine stands. -/
theorem Step.accounted (step : Step Machine) (laptop : Option Laptop) (machine : Machine) :
    (step.transition Machine.executor laptop machine).Accounted := by
  have h := step.operation.consumes_perform laptop
  exact ⟨h.queries _, h.dispatched _, h.eventSource _⟩

/-! ### Runs -/

namespace Transition

/-- The events of transitions that are accounted for are those of the numbers they serve. -/
theorem flatMap_dispatched {history : List OnMachine}
    (h : ∀ transition ∈ history, transition.Accounted) :
    history.flatMap (Trace.dispatched ·.stage.trace) =
      (history.filterMap servedCode?).filterMap Event.ofCode? := by
  induction history with
  | nil => rfl
  | cons transition history ih =>
    obtain ⟨htransition, hrest⟩ := List.forall_mem_cons.1 h
    rw [List.flatMap_cons, ih hrest, htransition.dispatched, events_purpose?, List.filterMap_cons]
    cases hcode : transition.servedCode? with
    | none => rfl
    | some code =>
      rw [List.filterMap_cons]
      cases hevent : Event.ofCode? code <;> simp [hevent]

end Transition

/-- Where events arrive but are not lost between the steps, and every query finds one, the entries
are taken out from the front, one by each query. -/
theorem entries_eq_consumed {steps : List (Step Machine)} (hsteps : ∀ step ∈ steps, step.OnlyQueues)
    (laptop : Option Laptop) (machine : Machine)
    (hfound : ∀ transition ∈ transitions Machine.executor steps laptop machine,
      transition.purpose?.isSome → transition.started.pending ≠ []) :
    let history := transitions Machine.executor steps laptop machine
    let consumed := history.filterMap Transition.consumption?
    machine.pending ++ history.flatMap Transition.arrivals =
        consumed.map Prod.snd ++ (hardwareAfter machine history).pending ∧
      history.filterMap Transition.purpose? = consumed.map Prod.fst ∧
      history.flatMap (Trace.queries ·.stage.trace) =
        consumed.map (fun taken ↦ taken.2.map fun _ ↦ ()) ∧
      history.flatMap (Trace.dispatched ·.stage.trace) =
        consumed.filterMap fun taken ↦ taken.1.event? taken.2 := by
  induction steps generalizing laptop machine with
  | nil => simp [transitions, hardwareAfter]
  | cons step steps ih =>
    obtain ⟨hstep, hsteps⟩ := List.forall_mem_cons.1 hsteps
    obtain ⟨hfirst, hrest⟩ := List.forall_mem_cons.1 hfound
    obtain ⟨hentries, hpurposes, hqueries, hdispatched⟩ := ih hsteps _ _ hrest
    obtain ⟨hpending, hpurpose, hquery, hevent⟩ := (step.accounted laptop machine).consumes hfirst
    have hstarted := (step.transition Machine.executor laptop machine).started_pending hstep
    have harrived : machine.pending ++ (step.transition Machine.executor laptop machine).arrivals =
        (step.transition Machine.executor laptop machine).started.pending := hstarted.symm
    -- The first step takes from the queue what the law of a step says, and leaves the queue from
    -- which the rest of the run takes: the two splittings of the entries meet there.
    rw [transitions]
    simp only [List.flatMap_cons, List.filterMap_cons, hquery, hevent, hqueries, hdispatched,
      hpurpose]
    rw [← List.append_assoc, harrived, hpending, List.append_assoc, hentries, hpurposes]
    cases hconsumed : (step.transition Machine.executor laptop machine).consumption? with
    | none => exact ⟨rfl, rfl, rfl, rfl⟩
    | some taken =>
      refine ⟨rfl, rfl, rfl, ?_⟩
      cases htaken : taken.1.event? taken.2 <;> simp [htaken]

/-- A run queries the controller where the table of purposes says so and nowhere else, and
dispatches the events that its interrupts latched, in order. Where every query finds an entry, the
entries are taken out one by one, first come first served, and each is dispatched as what the
purpose of its query makes of it. -/
theorem events_accounted (steps : List (Step Machine)) (laptop : Option Laptop)
    (machine : Machine) :
    let history := transitions Machine.executor steps laptop machine
    let consumed := history.filterMap Transition.consumption?
    (∀ transition ∈ history, (Trace.queries transition.stage.trace).length =
      if transition.purpose?.isSome then 1 else 0) ∧
    history.flatMap (Trace.dispatched ·.stage.trace) =
      (history.filterMap Transition.servedCode?).filterMap Event.ofCode? ∧
    ((∀ step ∈ steps, step.OnlyQueues) →
      (∀ transition ∈ history, transition.purpose?.isSome → transition.started.pending ≠ []) →
      machine.pending ++ history.flatMap Transition.arrivals =
          consumed.map Prod.snd ++ (hardwareAfter machine history).pending ∧
        history.filterMap Transition.purpose? = consumed.map Prod.fst ∧
        history.flatMap (Trace.queries ·.stage.trace) =
          consumed.map (fun taken ↦ taken.2.map fun _ ↦ ()) ∧
        history.flatMap (Trace.dispatched ·.stage.trace) =
          consumed.filterMap fun taken ↦ taken.1.event? taken.2) := by
  have haccounted := forall_transitions Machine.executor
    (fun step (_ : step ∈ steps) ↦ step.accounted) laptop machine
  refine ⟨fun transition hmem ↦ (haccounted transition hmem).length_queries, ?_, ?_⟩
  · exact Transition.flatMap_dispatched haccounted
  · intro hsteps hfound
    exact entries_eq_consumed hsteps laptop machine hfound

/-- Of the three entries that wait while the driver is loaded the first is flushed, the second is
the mute key, and the third is a fault; the lid, which is reported again and again, is not reached.
-/
theorem events_accounted_load_interrupts :
    let step (operation : Operation) : Step Machine :=
      ⟨Machine.Change.apply { pending := [.ok 0x23] }, operation⟩
    let machine : Machine := { pending := [.ok 0x25, .ok 0x2C, .error .busy] }
    let steps := [step (.load { }), step (.interrupt 10), step (.interrupt 9), step (.interrupt 10)]
    let history := transitions Machine.executor steps none machine
    history.filterMap Transition.purpose? = [.flush, .serve, .serve] ∧
      history.flatMap (Trace.dispatched ·.stage.trace) = [.mute] := by
  intro step machine steps history
  have hsteps : ∀ step ∈ steps, step.OnlyQueues := by
    simp only [steps, List.forall_mem_cons]
    exact ⟨Machine.Change.onlyQueues _ _, Machine.Change.onlyQueues _ _,
      Machine.Change.onlyQueues _ _, Machine.Change.onlyQueues _ _, by simp⟩
  have hfound : ∀ transition ∈ history,
      transition.purpose?.isSome → transition.started.pending ≠ [] := by decide +kernel
  obtain ⟨-, -, hconsumed⟩ := events_accounted steps none machine
  obtain ⟨-, hpurposes, -, hdispatched⟩ := hconsumed hsteps hfound
  exact ⟨hpurposes.trans (by decide +kernel), hdispatched.trans (by decide +kernel)⟩

end LaptopDriver
