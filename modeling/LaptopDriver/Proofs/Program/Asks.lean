import LaptopDriver.Program.Execution

/-!
# What a program can come to ask

A program is a tree that branches on answers, so what it can come to ask is a property of the tree
and not of one run. `Asks allowed p` says that no branch of `p` asks a request outside `allowed`.
It is proved along the sequencing of the program (`Asks.bind`, `Asks.times`), and it is used
through three consequences that hold against every responder:

* `Asks.mem_trace`: no execution of `p` has another request in its trace;
* `Asks.keeps`: what none of the allowed requests changes about the responder is the same after
  `p` as before;
* `Asks.stays`: a state that none of the allowed requests leads away from is not left.
-/

namespace LaptopDriver.Program

variable {Op : Type} {Answer : Op → Type} {α β σ : Type} {allowed : Op → Prop}

/-- Every request on every branch of the program is `allowed`. -/
def Asks (allowed : Op → Prop) : Program Answer α → Prop
  | .done _ => True
  | .ask op next => allowed op ∧ ∀ answer, (next answer).Asks allowed

/-! ### Along the construction of a program -/

theorem Asks.bind {p : Program Answer α} {f : α → Program Answer β} (hp : p.Asks allowed)
    (hf : ∀ value, (f value).Asks allowed) : (p >>= f).Asks allowed := by
  induction p with
  | done value => exact hf value
  | ask op next ih => exact ⟨hp.1, fun answer ↦ ih answer (hp.2 answer)⟩

/-- The value of a program can be changed without asking anything. -/
theorem Asks.map {p : Program Answer α} (f : α → β) (hp : p.Asks allowed) :
    (f <$> p).Asks allowed := by
  rw [map_eq_pure_bind]
  exact hp.bind fun _ ↦ trivial

theorem Asks.times {p : Program Answer Unit} (hp : p.Asks allowed) (n : Nat) :
    (times n p).Asks allowed := by
  induction n with
  | zero => trivial
  | succ n ih => exact hp.bind fun _ ↦ ih

/-- A program that asks little asks no more than that. -/
theorem Asks.mono {wider : Op → Prop} {p : Program Answer α} (hp : p.Asks allowed)
    (h : ∀ op, allowed op → wider op) : p.Asks wider := by
  induction p with
  | done => trivial
  | ask op next ih => exact ⟨h op hp.1, fun answer ↦ ih answer (hp.2 answer)⟩

/-! ### Against a responder -/

variable (respond : Responder Answer σ)

/-- The trace holds allowed requests only. -/
theorem Asks.mem_trace {p : Program Answer α} (hp : p.Asks allowed) (state : σ) :
    ∀ exchange ∈ (p.execute respond state).trace, allowed exchange.op := by
  induction p generalizing state with
  | done => simp
  | ask op next ih =>
    intro exchange hmem
    rw [execute_ask, List.mem_cons] at hmem
    rcases hmem with rfl | hmem
    · exact hp.1
    · exact ih _ (hp.2 _) _ exchange hmem

/-- What no allowed request changes about the responder, the program does not change either. -/
theorem Asks.keeps {V : Type} (view : σ → V) {p : Program Answer α} (hp : p.Asks allowed)
    (hview : ∀ op state, allowed op → view (respond op state).2 = view state) (state : σ) :
    view (p.execute respond state).state = view state := by
  induction p generalizing state with
  | done => rfl
  | ask op next ih =>
    rw [execute_ask]
    exact (ih _ (hp.2 _) _).trans (hview op state hp.1)

/-- Where no allowed request moves the responder, the program does not move it either. -/
theorem Asks.stays {p : Program Answer α} (hp : p.Asks allowed) {state : σ}
    (hstate : ∀ op, allowed op → (respond op state).2 = state) :
    (p.execute respond state).state = state := by
  induction p with
  | done => rfl
  | ask op next ih =>
    rw [execute_ask, hstate op hp.1]
    exact ih _ (hp.2 _)

end LaptopDriver.Program
