/-!
# Programs as trees of requests

A driver computes little; what matters about it is what it asks of the hardware, in which order,
and how an answer changes what it asks next. A `Program` is that and nothing more: it is either
`done` with a value, or it `ask`s one request and goes on with whatever the answer turns out to be.

The requests are the elements of a type `Op`, and `Answer op` is the type in which `op` is
answered. Nothing here says how a request is answered: that is the business of a responder
(`LaptopDriver.Program.Execution`). So a statement about a `Program` speaks of every machine it
could run on.

* `Program.send` asks one request and returns its answer.
* `Program.between` brackets a program by two others.
* `Program.times` repeats a program.
* `Program.lower` replaces every request by a program over another vocabulary; it is a monad
  morphism (`lower_bind`).
-/

namespace LaptopDriver

/-- A computation that can do nothing but ask requests and look at their answers. -/
inductive Program {Op : Type} (Answer : Op → Type) (α : Type) : Type where
  /-- The computation has finished with `value`. -/
  | done (value : α)
  /-- The computation asks `op` and goes on according to the answer. -/
  | ask (op : Op) (next : Answer op → Program Answer α)

namespace Program

variable {Op Op' : Type} {Answer : Op → Type} {Answer' : Op' → Type} {α β γ : Type}

/-! ### Sequencing -/

/-- Run `p`, then the program that its value selects. -/
protected def bind : Program Answer α → (α → Program Answer β) → Program Answer β
  | .done value, f => f value
  | .ask op next, f => .ask op fun answer ↦ (next answer).bind f

instance : Monad (Program Answer) where
  pure := .done
  bind := Program.bind

@[simp]
theorem pure_eq_done (value : α) : (pure value : Program Answer α) = .done value :=
  rfl

@[simp]
theorem done_bind (value : α) (f : α → Program Answer β) : (done value >>= f) = f value :=
  rfl

@[simp]
theorem ask_bind (op : Op) (next : Answer op → Program Answer α) (f : α → Program Answer β) :
    (ask op next >>= f) = ask op fun answer ↦ next answer >>= f :=
  rfl

theorem bind_done (p : Program Answer α) : (p >>= done) = p := by
  induction p with
  | done => rfl
  | ask op next ih =>
    rw [ask_bind]
    exact congrArg _ (funext ih)

theorem bind_assoc (p : Program Answer α) (f : α → Program Answer β) (g : β → Program Answer γ) :
    (p >>= f >>= g) = p >>= fun x ↦ f x >>= g := by
  induction p with
  | done => rfl
  | ask op next ih =>
    simp only [ask_bind]
    exact congrArg _ (funext ih)

instance : LawfulMonad (Program Answer) :=
  LawfulMonad.mk' (Program Answer) bind_done (fun _ _ ↦ rfl) bind_assoc

/-! ### Building blocks -/

/-- Ask `op` and return its answer. -/
def send (op : Op) : Program Answer (Answer op) :=
  .ask op .done

@[simp]
theorem send_bind (op : Op) (f : Answer op → Program Answer α) : (send op >>= f) = ask op f :=
  rfl

/-- Run `before`, `body` and `after` in turn and return what `body` returned. -/
def between (before after : Program Answer Unit) (body : Program Answer α) :
    Program Answer α := do
  before
  let value ← body
  after
  pure value

/-- Run `p` `n` times. -/
def times : Nat → Program Answer Unit → Program Answer Unit
  | 0, _ => pure ()
  | n + 1, p => do
    p
    times n p

@[simp]
theorem times_zero (p : Program Answer Unit) : times 0 p = done () :=
  rfl

theorem times_succ (n : Nat) (p : Program Answer Unit) :
    times (n + 1) p = p >>= fun _ ↦ times n p :=
  rfl

/-- Repetitions add up. -/
theorem times_add (m n : Nat) (p : Program Answer Unit) :
    times (m + n) p = times m p >>= fun _ ↦ times n p := by
  induction m with
  | zero => rw [Nat.zero_add]; rfl
  | succ m ih => rw [Nat.succ_add, times_succ, ih, times_succ, bind_assoc]

/-- Repeating a repetition multiplies. -/
theorem times_times (m n : Nat) (p : Program Answer Unit) :
    times m (times n p) = times (m * n) p := by
  induction m with
  | zero => rw [Nat.zero_mul]; rfl
  | succ m ih => rw [times_succ, ih, ← times_add, Nat.succ_mul, Nat.add_comm]

/-! ### Change of vocabulary -/

/-- Replace each request by the program that carries it out in another vocabulary. -/
def lower (carry : (op : Op) → Program Answer' (Answer op)) :
    Program Answer α → Program Answer' α
  | .done value => .done value
  | .ask op next => carry op >>= fun answer ↦ (next answer).lower carry

section Lower

variable (carry : (op : Op) → Program Answer' (Answer op))

@[simp]
theorem lower_done (value : α) : (done value : Program Answer α).lower carry = done value :=
  rfl

@[simp]
theorem lower_ask (op : Op) (next : Answer op → Program Answer α) :
    (ask op next).lower carry = carry op >>= fun answer ↦ (next answer).lower carry :=
  rfl

@[simp]
theorem lower_send (op : Op) : (send op).lower carry = carry op :=
  bind_done _

/-- Lowering respects sequencing: lowering a composite is composing what was lowered. -/
theorem lower_bind (p : Program Answer α) (f : α → Program Answer β) :
    (p >>= f).lower carry = p.lower carry >>= fun value ↦ (f value).lower carry := by
  induction p with
  | done => rfl
  | ask op next ih => simp only [ask_bind, lower_ask, ih, bind_assoc]

end Lower

end Program

end LaptopDriver
