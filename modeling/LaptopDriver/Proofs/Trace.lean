import LaptopDriver.Proofs.Topic.Routines

/-!
# Events in a trace

Two views of a trace are about events. `Trace.queries` is how the event queries were answered, in
order, and `Trace.dispatched` is the events that were dispatched, in order. Both are read off the
requests, so they hold of every execution, against every responder. A routine that is not about
the queue leaves no query in its trace, and one that is not about dispatching leaves no
dispatched event (`queries_eq_nil`, `dispatched_eq_nil`); responding to an event dispatches that
event and nothing else (`dispatched_respond`).
-/

namespace LaptopDriver

open Controller Hotkey

/-- Requests of the driver with their answers, oldest first. -/
abbrev Trace : Type :=
  List (Exchange (Request.Answer Chipset.Request.Answer))

namespace Trace

/-- The answer to an event query. -/
def queryAnswer? : Exchange (Request.Answer Chipset.Request.Answer) → Option (Except Fault Unit)
  | ⟨.controller .query, answer⟩ => some answer
  | _ => none

/-- The event that was dispatched with an exchange. -/
def event? : Exchange (Request.Answer Chipset.Request.Answer) → Option Event
  | ⟨.log (.dispatched event _), _⟩ => some event
  | _ => none

/-- The answers to the event queries of a trace. -/
def queries (trace : Trace) : List (Except Fault Unit) :=
  trace.filterMap queryAnswer?

/-- The events that were dispatched in a trace. -/
def dispatched (trace : Trace) : List Event :=
  trace.filterMap event?

@[simp]
theorem queries_append (first second : Trace) :
    queries (first ++ second) = queries first ++ queries second :=
  List.filterMap_append

@[simp]
theorem dispatched_append (first second : Trace) :
    dispatched (first ++ second) = dispatched first ++ dispatched second :=
  List.filterMap_append

/-- An exchange that holds the answer to a query is about the queue. -/
theorem topic_of_queryAnswer? {exchange : Exchange (Request.Answer Chipset.Request.Answer)}
    {answer : Except Fault Unit} (h : queryAnswer? exchange = some answer) :
    exchange.op.topic = .queue := by
  unfold queryAnswer? at h
  split at h
  · rfl
  · cases h

/-- An exchange that dispatches an event is about dispatching. -/
theorem topic_of_event? {exchange : Exchange (Request.Answer Chipset.Request.Answer)}
    {event : Event} (h : event? exchange = some event) : exchange.op.topic = .dispatch := by
  unfold event? at h
  split at h
  · rfl
  · cases h

/-- What shows in exchanges on one topic only does not show in a trace that is off it. -/
theorem filterMap_eq_nil_of_topic {V : Type} {trace : Trace} {topic : Topic}
    {view : Exchange (Request.Answer Chipset.Request.Answer) → Option V}
    (hview : ∀ {exchange value}, view exchange = some value → exchange.op.topic = topic)
    (h : ∀ exchange ∈ trace, exchange.op.topic ≠ topic) : trace.filterMap view = [] := by
  refine List.filterMap_eq_nil_iff.2 fun exchange hmem ↦ ?_
  exact Option.eq_none_iff_forall_ne_some.2 fun value hvalue ↦ h exchange hmem (hview hvalue)

/-! ### Places in a trace -/

theorem mem_of_eq_append_cons {trace before after : Trace}
    {exchange : Exchange (Request.Answer Chipset.Request.Answer)}
    (h : trace = before ++ exchange :: after) : exchange ∈ trace :=
  h ▸ List.mem_append_cons_self

/-- A place in two traces in a row is a place in one of them. -/
theorem append_eq_append_cons {first second before after : Trace}
    {exchange : Exchange (Request.Answer Chipset.Request.Answer)}
    (h : first ++ second = before ++ exchange :: after) :
    (∃ rest, first = before ++ exchange :: rest ∧ after = rest ++ second) ∨
      ∃ rest, before = first ++ rest ∧ second = rest ++ exchange :: after := by
  rcases List.append_eq_append_iff.1 h with ⟨rest, hbefore, hsecond⟩ | ⟨rest, hfirst, hafter⟩
  · exact .inr ⟨rest, hbefore, hsecond⟩
  · rcases List.cons_eq_append_iff.1 hafter with ⟨rfl, hsecond⟩ | ⟨rest, rfl, hrest⟩
    · exact .inr ⟨[], by simpa using hfirst.symm, hsecond⟩
    · exact .inl ⟨rest, hfirst, hrest⟩

/-- A place in two traces in a row is in the second if the first does not have the exchange. -/
theorem eq_append_cons_of_notMem_left {first second before after : Trace}
    {exchange : Exchange (Request.Answer Chipset.Request.Answer)}
    (h : first ++ second = before ++ exchange :: after) (hfirst : exchange ∉ first) :
    ∃ rest, before = first ++ rest ∧ second = rest ++ exchange :: after := by
  refine (append_eq_append_cons h).resolve_left ?_
  rintro ⟨rest, hplace, -⟩
  exact hfirst (mem_of_eq_append_cons hplace)

/-- A place in two traces in a row is in the first if the second does not have the exchange. -/
theorem eq_append_cons_of_notMem_right {first second before after : Trace}
    {exchange : Exchange (Request.Answer Chipset.Request.Answer)}
    (h : first ++ second = before ++ exchange :: after) (hsecond : exchange ∉ second) :
    ∃ rest, first = before ++ exchange :: rest ∧ after = rest ++ second := by
  refine (append_eq_append_cons h).resolve_right ?_
  rintro ⟨rest, -, hplace⟩
  exact hsecond (mem_of_eq_append_cons hplace)

end Trace

/-! ### Routines off a topic -/

namespace Routine.Within

open Trace

variable {α σ : Type} {topics : List Topic} {routine : Routine α}
  (respond : Responder (Request.Answer Chipset.Request.Answer) σ)

/-- What shows in exchanges on one topic only does not show in the trace of a routine off it. -/
theorem filterMap_eq_nil {V : Type}
    {view : Exchange (Request.Answer Chipset.Request.Answer) → Option V} {topic : Topic}
    (h : Within topics routine) (htopic : topic ∉ topics)
    (hview : ∀ {exchange value}, view exchange = some value → exchange.op.topic = topic)
    (state : σ) : (routine.execute respond state).trace.filterMap view = [] :=
  Trace.filterMap_eq_nil_of_topic hview fun exchange hmem heq ↦
    htopic (heq ▸ h.topic_mem respond state exchange hmem)

/-- What shows in exchanges on one topic only shows before a continuation that is off it. -/
theorem filterMap_bind {β V : Type} {next : α → Routine β}
    {view : Exchange (Request.Answer Chipset.Request.Answer) → Option V} {topic : Topic}
    (hnext : ∀ value, Within topics (next value)) (htopic : topic ∉ topics)
    (hview : ∀ {exchange value}, view exchange = some value → exchange.op.topic = topic)
    (routine : Routine α) (state : σ) :
    ((routine >>= next).execute respond state).trace.filterMap view =
      (routine.execute respond state).trace.filterMap view := by
  rw [Program.execute_bind, List.filterMap_append,
    (hnext _).filterMap_eq_nil respond htopic hview, List.append_nil]

/-- A routine that is not about the queue makes no event query. -/
theorem queries_eq_nil (h : Within topics routine) (hqueue : Topic.queue ∉ topics) (state : σ) :
    queries (routine.execute respond state).trace = [] :=
  h.filterMap_eq_nil respond hqueue topic_of_queryAnswer? state

/-- A routine that is not about dispatching dispatches no event. -/
theorem dispatched_eq_nil (h : Within topics routine) (hdispatch : Topic.dispatch ∉ topics)
    (state : σ) : dispatched (routine.execute respond state).trace = [] :=
  h.filterMap_eq_nil respond hdispatch topic_of_event? state

end Routine.Within

/-! ### Responding to an event -/

namespace Hotkey

variable {σ : Type} (respond : Responder (Request.Answer Chipset.Request.Answer) σ)

/-- Responding to an event dispatches that event, once. -/
theorem dispatched_respond (event : Event) (history : History) (state : σ) :
    Trace.dispatched ((Hotkey.respond event history).execute respond state).trace = [event] := by
  have hwithin := (event.within_evaluate history).mono event.topics_subset
  have hevaluate := hwithin.dispatched_eq_nil respond (by simp) state
  have hreport := fun status history state ↦
    (event.within_report status history).dispatched_eq_nil respond (by simp) state
  rw [respond_eq]
  -- The record stands between two phases that dispatch nothing.
  simp only [Program.execute_bind, Trace.dispatched_append, hevaluate, hreport]
  rfl

/-- What is remembered after an event depends on its evaluation only. -/
theorem value_respond (event : Event) (history : History) (state : σ) :
    let evaluation := ((event.evaluate history).execute respond state).value
    ((Hotkey.respond event history).execute respond state).value =
      event.remembered evaluation.status evaluation.history := by
  rw [respond_eq]
  simp only [Program.execute_bind]
  rfl

end Hotkey

end LaptopDriver
