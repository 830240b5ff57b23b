import LaptopDriver.Program.Basic

/-!
# Running a program against a responder

A `Responder` answers requests and may remember what it was asked, in a state `σ`. Executing a
program against it gives the program's value, the responder's last state, and the **trace**: every
request that was asked, paired with its answer, in order.

`execute` keeps the trace in an accumulator, since a busy delay can be many thousands of requests
long. Nothing else should unfold it: `execute_ask` and `execute_bind` say what it computes, one
request at a time and by concatenation of traces.
-/

namespace LaptopDriver

/-- An environment that answers requests while keeping a state of its own. -/
abbrev Responder {Op : Type} (Answer : Op → Type) (σ : Type) : Type :=
  (op : Op) → σ → Answer op × σ

/-- One request together with the answer it got. -/
structure Exchange {Op : Type} (Answer : Op → Type) where
  /-- What was asked. -/
  op : Op
  /-- What was answered. -/
  answer : Answer op

/-- What running a program leaves behind. -/
structure Execution {Op : Type} (Answer : Op → Type) (σ α : Type) where
  /-- The value of the program. -/
  value : α
  /-- The state of the responder after the last answer. -/
  state : σ
  /-- Everything that was asked, oldest first. -/
  trace : List (Exchange Answer)

namespace Program

variable {Op : Type} {Answer : Op → Type} {σ α β : Type}

/-- Run a program whose past requests, newest first, are `past`. -/
def executeAfter (respond : Responder Answer σ) :
    Program Answer α → σ → List (Exchange Answer) → Execution Answer σ α
  | .done value, state, past => ⟨value, state, past.reverse⟩
  | .ask op next, state, past =>
    let reply := respond op state
    (next reply.1).executeAfter respond reply.2 (⟨op, reply.1⟩ :: past)

/-- Run a program against a responder that starts in `state`. -/
def execute (respond : Responder Answer σ) (p : Program Answer α) (state : σ) :
    Execution Answer σ α :=
  p.executeAfter respond state []

variable (respond : Responder Answer σ)

/-- The accumulator only ever ends up in front of the trace. -/
theorem executeAfter_eq (p : Program Answer α) (state : σ) (past : List (Exchange Answer)) :
    p.executeAfter respond state past =
      { p.execute respond state with
        trace := past.reverse ++ (p.execute respond state).trace } := by
  induction p generalizing state past with
  | done => simp [execute, executeAfter]
  | ask op next ih =>
    simp only [execute, executeAfter]
    rw [ih, ih _ _ [_]]
    simp

@[simp]
theorem execute_done (value : α) (state : σ) :
    (done value : Program Answer α).execute respond state = ⟨value, state, []⟩ :=
  rfl

/-- A request is answered first, and its exchange heads the trace. -/
@[simp]
theorem execute_ask (op : Op) (next : Answer op → Program Answer α) (state : σ) :
    (ask op next).execute respond state =
      { (next (respond op state).1).execute respond (respond op state).2 with
        trace := ⟨op, (respond op state).1⟩ ::
          ((next (respond op state).1).execute respond (respond op state).2).trace } := by
  simp only [execute, executeAfter]
  rw [executeAfter_eq]
  rfl

@[simp]
theorem execute_send (op : Op) (state : σ) :
    (send op : Program Answer (Answer op)).execute respond state =
      ⟨(respond op state).1, (respond op state).2, [⟨op, (respond op state).1⟩]⟩ :=
  rfl

/-- Two programs in a row leave their traces one after the other, and the second one starts from
the state that the first one left. -/
theorem execute_bind (p : Program Answer α) (f : α → Program Answer β) (state : σ) :
    (p >>= f).execute respond state =
      { (f (p.execute respond state).value).execute respond (p.execute respond state).state with
        trace := (p.execute respond state).trace ++
          ((f (p.execute respond state).value).execute respond
            (p.execute respond state).state).trace } := by
  induction p generalizing state with
  | done => simp
  | ask op next ih => simp only [ask_bind, execute_ask, ih, List.cons_append]

/-- The value of a program can be changed without asking anything. -/
theorem execute_map (f : α → β) (p : Program Answer α) (state : σ) :
    (f <$> p).execute respond state =
      { p.execute respond state with value := f (p.execute respond state).value } := by
  rw [map_eq_pure_bind, execute_bind, pure_eq_done, execute_done, List.append_nil]

/-- A program that leaves the responder as it was leaves the same trace each time it is repeated. -/
theorem execute_times {p : Program Answer Unit} {state : σ} {trace : List (Exchange Answer)}
    (h : p.execute respond state = ⟨(), state, trace⟩) (n : Nat) :
    (times n p).execute respond state = ⟨(), state, (List.replicate n trace).flatten⟩ := by
  induction n with
  | zero => rfl
  | succ n ih =>
    rw [times_succ, execute_bind, h, ih]
    rfl

end Program

end LaptopDriver
