import LaptopDriver.Proofs.Program.Asks

/-!
# The moments of an execution

A trace says what was asked and answered, but not what the responder was like when it was asked. A
`Moment` says that as well: it is one exchange, together with the state of the responder just before
it and with the exchanges that led there. `Program.moments` lists the moments of an execution, one
for each exchange of its trace (`map_exchange_moments`).

`Program.Obeys law` says that `law` holds at every moment of an execution. It is proved along the
sequencing of the program: one request at a time (`obeys_ask`), a program and then what follows it
from the state in which it ended (`Obeys.bind`), or from what the program can come to ask at all
(`Asks.obeys`).
-/

namespace LaptopDriver

/-- An exchange, with what went before it. -/
structure Moment {Op : Type} (Answer : Op → Type) (σ : Type) where
  /-- The exchanges before, the last one first. -/
  past : List (Exchange Answer)
  /-- The state of the responder when it was asked. -/
  state : σ
  exchange : Exchange Answer

namespace Program

variable {Op : Type} {Answer : Op → Type} {σ α β : Type}

/-- The moments of an execution that starts in a state, after the exchanges in `past`. -/
def moments (respond : Responder Answer σ) :
    Program Answer α → List (Exchange Answer) → σ → List (Moment Answer σ)
  | .done _, _, _ => []
  | .ask op next, past, state =>
    let reply := respond op state
    let exchange : Exchange Answer := ⟨op, reply.1⟩
    ⟨past, state, exchange⟩ :: (next reply.1).moments respond (exchange :: past) reply.2

variable (respond : Responder Answer σ)

/-- There is a moment for every exchange of the trace, in order. -/
theorem map_exchange_moments (p : Program Answer α) (past : List (Exchange Answer)) (state : σ) :
    (p.moments respond past state).map (·.exchange) = (p.execute respond state).trace := by
  induction p generalizing past state with
  | done => rfl
  | ask op next ih =>
    rw [execute_ask, moments, List.map_cons, ih]

/-- The moments of two programs in a row: the second one goes on from where the first one ended. -/
theorem moments_bind (p : Program Answer α) (f : α → Program Answer β)
    (past : List (Exchange Answer)) (state : σ) :
    let execution := p.execute respond state
    (p >>= f).moments respond past state =
      p.moments respond past state ++
        (f execution.value).moments respond (execution.trace.reverse ++ past) execution.state := by
  induction p generalizing past state with
  | done => rfl
  | ask op next ih =>
    intro execution
    rw [ask_bind, moments, moments, ih, List.cons_append]
    simp [execution]

/-! ### Laws that hold at every moment -/

variable {respond} {law : Moment Answer σ → Prop} {past : List (Exchange Answer)} {state : σ}

/-- The law holds at every moment of the execution. -/
def Obeys (respond : Responder Answer σ) (law : Moment Answer σ → Prop) (p : Program Answer α)
    (past : List (Exchange Answer)) (state : σ) : Prop :=
  ∀ moment ∈ p.moments respond past state, law moment

@[simp]
theorem obeys_done (value : α) : (done value : Program Answer α).Obeys respond law past state :=
  List.forall_mem_nil _

theorem obeys_ask {op : Op} {next : Answer op → Program Answer α} :
    (ask op next).Obeys respond law past state ↔
      law ⟨past, state, ⟨op, (respond op state).1⟩⟩ ∧
        (next (respond op state).1).Obeys respond law (⟨op, (respond op state).1⟩ :: past)
          (respond op state).2 :=
  List.forall_mem_cons

theorem obeys_send {op : Op} :
    (send op : Program Answer (Answer op)).Obeys respond law past state ↔
      law ⟨past, state, ⟨op, (respond op state).1⟩⟩ :=
  obeys_ask.trans (and_iff_left (obeys_done _))

/-- A program and what follows it obey a law together if each of them does from where it starts. -/
theorem Obeys.bind {p : Program Answer α} {f : α → Program Answer β}
    (hp : p.Obeys respond law past state)
    (hf : (f (p.execute respond state).value).Obeys respond law
      ((p.execute respond state).trace.reverse ++ past) (p.execute respond state).state) :
    (p >>= f).Obeys respond law past state := by
  intro moment hmem
  rw [moments_bind, List.mem_append] at hmem
  exact hmem.elim (hp moment) (hf moment)

/-- What a program can come to ask at all obeys a law that does not mind when it is asked. -/
theorem Asks.obeys {allowed : Op → Prop} {p : Program Answer α} (hp : p.Asks allowed)
    (h : ∀ moment : Moment Answer σ, allowed moment.exchange.op → law moment)
    (past : List (Exchange Answer)) (state : σ) : p.Obeys respond law past state := by
  induction p generalizing past state with
  | done => exact obeys_done _
  | ask op next ih => exact obeys_ask.2 ⟨h _ hp.1, ih _ (hp.2 _) _ _⟩

end Program

end LaptopDriver
