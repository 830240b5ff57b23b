import LaptopDriver.Proofs.Hotkey.Serve
import LaptopDriver.Proofs.Machine.Frame
import LaptopDriver.Proofs.Transition

/-!
# What an operation consumes from the queue of events

The driver queries the controller for two purposes: to **flush**, when the interrupt line is armed,
and to **serve** an interrupt. Which operation queries for which purpose is the table
`Operation.queryPurpose?`, and `consumes_perform` says that this table is the whole truth: an
operation makes the one query that the table lists or none, dispatches the event of the number that
a serving query latched, and leaves the queue and the latch as that query left them.

A routine that is not about the queue and dispatches nothing is `Consumes none`, whatever else it
does, so it can stand before and after a query without changing what is consumed
(`Consumes.bind_quiet`, `Consumes.quiet_bind`).
-/

namespace LaptopDriver

open Controller Hotkey

/-- What an event query is made for. -/
inductive QueryPurpose where
  /-- To take one event out of the controller, unseen. -/
  | flush
  /-- To serve an interrupt. -/
  | serve
  deriving DecidableEq, Repr

/-- The purpose for which an operation queries the controller, if it does. -/
def Operation.queryPurpose? (operation : Operation) : Option Laptop → Option QueryPurpose
  | none =>
    match operation with
    | load _ => some .flush
    | _ => none
  | some _ =>
    match operation with
    | resume => some .flush
    | interrupt number => if number = interruptNumber then some .serve else none
    | _ => none

namespace Operation

variable {operation : Operation} {laptop : Option Laptop}

/-- Only a loaded driver serves, and it serves the interrupts of the controller. -/
theorem queryPurpose?_eq_serve_iff :
    operation.queryPurpose? laptop = some .serve ↔
      operation = .interrupt interruptNumber ∧ ∃ loaded, laptop = some loaded := by
  constructor
  · intro h
    cases laptop with
    | none => cases operation <;> cases h
    | some loaded =>
      cases operation with
      | interrupt number =>
        rw [queryPurpose?] at h
        split at h
        case isTrue hnumber => exact ⟨by rw [hnumber], loaded, rfl⟩
        case isFalse => cases h
      | _ => cases h
  · rintro ⟨rfl, loaded, rfl⟩
    rfl

/-- A driver flushes when it is loaded and when it wakes up. -/
theorem queryPurpose?_eq_flush_iff :
    operation.queryPurpose? laptop = some .flush ↔
      (∃ settings, operation = .load settings ∧ laptop = none) ∨
        operation = .resume ∧ ∃ loaded, laptop = some loaded := by
  constructor
  · intro h
    cases laptop with
    | none =>
      cases operation with
      | load settings => exact .inl ⟨settings, rfl, rfl⟩
      | _ => cases h
    | some loaded =>
      cases operation with
      | resume => exact .inr ⟨rfl, loaded, rfl⟩
      | interrupt number =>
        rw [queryPurpose?] at h
        split at h <;> cases h
      | _ => cases h
  · rintro (⟨settings, rfl, rfl⟩ | ⟨rfl, loaded, rfl⟩) <;> rfl

end Operation

namespace Machine

/-- The event number that is latched after the next query, if that succeeds. -/
def nextCode? (machine : Machine) : Option UInt8 :=
  match machine.query.1 with
  | .ok () => some machine.query.2.latch
  | .error _ => none

theorem nextCode?_eq_some_iff {machine : Machine} {code : UInt8} :
    machine.nextCode? = some code ↔ machine.query.1 = .ok () ∧ machine.query.2.latch = code := by
  rw [nextCode?]
  cases machine.query.1 with
  | ok => simp
  | error fault => simp

/-- How the query for a purpose is answered. -/
def answers (machine : Machine) : Option QueryPurpose → List (Except Fault Unit)
  | none => []
  | some _ => [machine.query.1]

/-- The events that are dispatched after the query for a purpose. -/
def events (machine : Machine) : Option QueryPurpose → List Event
  | some .serve => (machine.nextCode?.bind Event.ofCode?).toList
  | _ => []

/-- The machine after the query for a purpose. -/
def afterQuery (machine : Machine) : Option QueryPurpose → Machine
  | none => machine
  | some _ => machine.query.2

theorem nextCode?_congr {first second : Machine} (h : first.eventSource = second.eventSource) :
    first.nextCode? = second.nextCode? := by
  obtain ⟨hanswer, hsource⟩ := query_congr h
  have hlatch : first.query.2.latch = second.query.2.latch := (Prod.mk.inj hsource).2
  rw [nextCode?, nextCode?, hanswer, hlatch]

/-- The query for a purpose depends on the queue and the latch only. -/
theorem afterQuery_congr {first second : Machine} (h : first.eventSource = second.eventSource)
    (purpose : Option QueryPurpose) :
    first.answers purpose = second.answers purpose ∧
      first.events purpose = second.events purpose ∧
      (first.afterQuery purpose).eventSource = (second.afterQuery purpose).eventSource := by
  obtain ⟨hanswer, hsource⟩ := query_congr h
  cases purpose with
  | none => exact ⟨rfl, rfl, h⟩
  | some purpose =>
    refine ⟨congrArg (fun answer ↦ [answer]) hanswer, ?_, hsource⟩
    cases purpose with
    | flush => rfl
    | serve => rw [events, events, nextCode?_congr h]

end Machine

namespace Routine

variable {α β : Type}

/-- Wherever it runs, the routine makes the query for `purpose` and no other, dispatches what that
query leads to, and leaves the queue and the latch as that query left them. -/
structure Consumes (purpose : Option QueryPurpose) (routine : Routine α) : Prop where
  queries : ∀ machine, Trace.queries (routine.execute Machine.respond machine).trace =
    machine.answers purpose
  dispatched : ∀ machine, Trace.dispatched (routine.execute Machine.respond machine).trace =
    machine.events purpose
  eventSource : ∀ machine, (routine.execute Machine.respond machine).state.eventSource =
    (machine.afterQuery purpose).eventSource

/-- A routine that is neither about the queue nor about dispatching consumes nothing. -/
theorem Within.consumes {topics : List Topic} {routine : Routine α} (h : Within topics routine)
    (hoff : Topic.queue ∉ topics ∧ Topic.dispatch ∉ topics) : Consumes none routine where
  queries machine := h.queries_eq_nil Machine.respond hoff.1 machine
  dispatched machine := h.dispatched_eq_nil Machine.respond hoff.2 machine
  eventSource machine := h.eventSource_eq hoff.1 machine

theorem consumes_done (value : α) : Consumes none (.done value : Routine α) :=
  ⟨fun _ ↦ rfl, fun _ ↦ rfl, fun _ ↦ rfl⟩

theorem consumes_query : Consumes (some .flush) Routine.query :=
  ⟨fun _ ↦ rfl, fun _ ↦ rfl, fun _ ↦ rfl⟩

variable {purpose : Option QueryPurpose} {routine : Routine α} {next : α → Routine β}

/-- What comes after the query consumes nothing. -/
theorem Consumes.bind_quiet (h : Consumes purpose routine)
    (hnext : ∀ value, Consumes none (next value)) : Consumes purpose (routine >>= next) where
  queries machine := by
    rw [Program.execute_bind, Trace.queries_append, h.queries, (hnext _).queries]
    exact List.append_nil _
  dispatched machine := by
    rw [Program.execute_bind, Trace.dispatched_append, h.dispatched, (hnext _).dispatched]
    exact List.append_nil _
  eventSource machine := by
    rw [Program.execute_bind, (hnext _).eventSource]
    exact h.eventSource machine

/-- What comes before the query consumes nothing. -/
theorem Consumes.quiet_bind (h : Consumes none routine)
    (hnext : ∀ value, Consumes purpose (next value)) : Consumes purpose (routine >>= next) where
  queries machine := by
    obtain ⟨hanswers, -, -⟩ := Machine.afterQuery_congr (h.eventSource machine) purpose
    rw [Program.execute_bind, Trace.queries_append, h.queries, (hnext _).queries]
    exact hanswers
  dispatched machine := by
    obtain ⟨-, hevents, -⟩ := Machine.afterQuery_congr (h.eventSource machine) purpose
    rw [Program.execute_bind, Trace.dispatched_append, h.dispatched, (hnext _).dispatched]
    exact hevents
  eventSource machine := by
    obtain ⟨-, -, hsource⟩ := Machine.afterQuery_congr (h.eventSource machine) purpose
    rw [Program.execute_bind, (hnext _).eventSource]
    exact hsource

end Routine

/-! ### Arming the interrupt line -/

namespace InterruptLine

open Routine

theorem consumes_arm (settleTime : Nat) : Consumes (some .flush) (arm settleTime) := by
  refine (within_lookUpBase.consumes (by simp)).quiet_bind fun base ↦ ?_
  refine consumes_query.bind_quiet fun answer ↦ ?_
  cases answer with
  | error fault => exact consumes_done _
  | ok =>
    refine Consumes.bind_quiet ((within_delay _).consumes (by simp)) fun _ ↦ ?_
    exact ((within_route base).consumes (by simp)).bind_quiet fun _ ↦ consumes_done _

theorem consumes_rearm (settleTime : Nat) : Consumes (some .flush) (rearm settleTime) := by
  refine consumes_query.bind_quiet fun answer ↦ ?_
  cases answer with
  | error fault => exact consumes_done _
  | ok =>
    have hdelay := (within_delay 1).times settleTime
    refine (hdelay.consumes (by simp)).bind_quiet fun _ ↦ ?_
    exact (within_routeAtBase.consumes (by simp)).bind_quiet fun _ ↦ consumes_done _

end InterruptLine

/-! ### Interrupts -/

namespace Hotkey

open Routine

/-- An interrupt of the controller serves one event. -/
theorem consumes_interrupt (history : History) :
    Consumes (some .serve) (interrupt interruptNumber history) where
  -- A query that fails ends the handling. One that succeeds hands the latched number to `serve`,
  -- which is not about the queue any more.
  queries machine := by
    cases h : machine.query.1 with
    | error fault =>
      rw [execute_interrupt_error h]
      exact congrArg (fun answer ↦ [answer]) h.symm
    | ok =>
      rw [execute_interrupt_ok h]
      have hserve := (within_serve machine.query.2.latch history).queries_eq_nil Machine.respond
        (by simp) machine.query.2
      show Except.ok () :: Trace.queries _ = [machine.query.1]
      rw [h]
      exact congrArg (Except.ok () :: ·) hserve
  dispatched machine := by
    unfold Machine.events Machine.nextCode?
    cases h : machine.query.1 with
    | error fault =>
      rw [execute_interrupt_error h]
      rfl
    | ok =>
      rw [execute_interrupt_ok h]
      exact dispatched_serve Machine.respond machine.query.2.latch history machine.query.2
  eventSource machine := by
    cases h : machine.query.1 with
    | error fault =>
      rw [execute_interrupt_error h]
      rfl
    | ok =>
      rw [execute_interrupt_ok h]
      exact (within_serve machine.query.2.latch history).eventSource_eq (by simp) machine.query.2

/-- What is remembered after an interrupt that serves an event. -/
theorem value_interrupt {event : Event} {machine : Machine}
    (h : machine.nextCode? = some event.code) (history : History) :
    ((interrupt interruptNumber history).execute Machine.respond machine).value.2 =
      ((respond event history).execute Machine.respond machine.query.2).value := by
  obtain ⟨hanswer, hlatch⟩ := Machine.nextCode?_eq_some_iff.1 h
  rw [execute_interrupt_ok hanswer]
  show ((serve machine.query.2.latch history).execute Machine.respond machine.query.2).value.2 = _
  rw [hlatch, serve_code, Program.execute_bind]
  rfl

end Hotkey

/-! ### Operations -/

open Routine

namespace Laptop

/-- An interrupt changes what a loaded driver remembers, and nothing else about it. -/
theorem value_perform_interrupt (laptop : Laptop) (number : Nat) (machine : Machine) :
    let value := ((interrupt number laptop.history).execute Machine.respond machine).value
    ((laptop.perform (.interrupt number)).execute Machine.respond machine).value =
      (.verdict value.1, some { laptop with history := value.2 }) := by
  rw [perform, Program.execute_bind]
  rfl

theorem consumes_load (settings : Settings) : Consumes (some .flush) (load settings) := by
  rw [load_eq]
  refine ((within_prepare settings).consumes (by simp)).quiet_bind fun backlight ↦ ?_
  refine (InterruptLine.consumes_arm _).bind_quiet fun answer ↦ ?_
  cases answer with
  | error fault =>
    have hlog : Within [.note] (Routine.log (.loadFailed fault)) := by simp [Program.send]
    exact (hlog.consumes (by simp)).bind_quiet fun _ ↦ consumes_done _
  | ok =>
    exact ((Input.within_reportLid 1).consumes (by simp)).bind_quiet fun _ ↦ consumes_done _

theorem consumes_resume (settleTime : Nat) : Consumes (some .flush) (resume settleTime) := by
  refine ((within_switchDevices true).consumes (by simp)).quiet_bind fun _ ↦ ?_
  refine (InterruptLine.consumes_rearm _).bind_quiet fun answer ↦ ?_
  cases answer with
  | error fault =>
    have hlog : Within [.note] (Routine.log (.resumeFailed fault)) := by simp [Program.send]
    exact (hlog.consumes (by simp)).bind_quiet fun _ ↦ consumes_done _
  | ok => exact consumes_done _

end Laptop

namespace Operation

/-- The table of purposes is the whole truth about the queries of an operation. -/
theorem consumes_perform (operation : Operation) (laptop : Option Laptop) :
    Consumes (operation.queryPurpose? laptop) (operation.perform laptop) := by
  have hwithin := operation.within_perform laptop
  cases laptop with
  | none =>
    cases operation with
    | load settings =>
      exact (Laptop.consumes_load settings).bind_quiet fun answer ↦ by
        cases answer <;> exact consumes_done _
    | _ => exact consumes_done _
  | some laptop =>
    cases operation with
    | load settings => exact consumes_done _
    | interrupt number =>
      by_cases hnumber : number = interruptNumber
      · subst hnumber
        exact (consumes_interrupt _).bind_quiet fun _ ↦ consumes_done _
      · rw [queryPurpose?, if_neg hnumber, perform, Laptop.perform, interrupt_of_ne hnumber]
        exact consumes_done _
    | resume =>
      exact (Laptop.consumes_resume _).bind_quiet fun answer ↦ by
        cases answer <;> exact consumes_done _
    -- Every other operation is off the queue.
    | _ => exact hwithin.consumes (by simp)

end Operation

end LaptopDriver
