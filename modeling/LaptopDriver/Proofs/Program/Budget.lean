import Mathlib.Data.Multiset.AddSub
import Mathlib.Data.Multiset.Count
import Mathlib.Data.Multiset.Replicate
import LaptopDriver.Program.Execution

/-!
# What a program can come to spend

A handler that must be done within a few milliseconds has to be bounded on every branch, whatever
it is answered. So like what a program can ask (`Program.Asks`), what it can spend is a property of
the tree of its requests. Every request is of a `kind`, a budget is a multiset of kinds, and a
program `Spends` no more than its budget when on every branch each request is paid for by an
element of the budget of its own.

The budgets of programs in a row add up (`Spends.bind`), and a program that stays within a small
budget stays within any larger one (`Spends.mono`). What follows about executions holds against
every responder: the requests of the trace are within the budget (`Spends.trace_le`), so no kind of
request is made more often than the budget has it (`Spends.countP_le`).
-/

namespace LaptopDriver.Program

variable {Op K : Type} [DecidableEq K] {Answer : Op → Type} {α β σ : Type}
  {kind : Op → K} {budget more : Multiset K}

/-- On every branch of the program, the kinds of its requests are paid for by `budget`, one by
one. -/
def Spends (kind : Op → K) : Program Answer α → Multiset K → Prop
  | .done _, _ => True
  | .ask op next, budget =>
    kind op ∈ budget ∧ ∀ answer, (next answer).Spends kind (budget.erase (kind op))

/-! ### Along the construction of a program -/

theorem spends_done (value : α) : (done value : Program Answer α).Spends kind budget :=
  trivial

/-- A request is paid for, and the rest of the program by what is left. -/
theorem spends_ask {k : K} {op : Op} {next : Answer op → Program Answer α} (hkind : kind op = k)
    (hnext : ∀ answer, (next answer).Spends kind budget) :
    (ask op next).Spends kind (k ::ₘ budget) := by
  subst hkind
  refine ⟨Multiset.mem_cons_self _ _, fun answer ↦ ?_⟩
  rw [Multiset.erase_cons_head]
  exact hnext answer

theorem spends_send {k : K} {op : Op} (hkind : kind op = k) :
    (send op : Program Answer _).Spends kind {k} :=
  spends_ask hkind spends_done

/-- A request is paid for out of a budget that is all of its kind. -/
theorem spends_ask_replicate {n : Nat} {k : K} {op : Op} {next : Answer op → Program Answer α}
    (hkind : kind op = k) (hnext : ∀ answer, (next answer).Spends kind (.replicate n k)) :
    (ask op next).Spends kind (.replicate (n + 1) k) := by
  rw [Multiset.replicate_succ]
  exact spends_ask hkind hnext

/-- A larger budget pays for as much. -/
theorem Spends.mono {p : Program Answer α} (h : p.Spends kind budget) (hle : budget ≤ more) :
    p.Spends kind more := by
  induction p generalizing budget more with
  | done => trivial
  | ask op next ih =>
    refine ⟨Multiset.mem_of_le hle h.1, fun answer ↦ ?_⟩
    exact ih answer (h.2 answer) (Multiset.erase_le_erase _ hle)

/-- The budgets of two programs in a row add up. -/
theorem Spends.bind {p : Program Answer α} {f : α → Program Answer β} (h : p.Spends kind budget)
    (hnext : ∀ value, (f value).Spends kind more) : (p >>= f).Spends kind (budget + more) := by
  induction p generalizing budget with
  | done value => exact (hnext value).mono (Multiset.le_add_left _ _)
  | ask op next ih =>
    refine ⟨Multiset.mem_add.2 (.inl h.1), fun answer ↦ ?_⟩
    rw [Multiset.erase_add_left_pos more h.1]
    exact ih answer (h.2 answer)

/-- A continuation that asks nothing is free. -/
theorem Spends.bind_done {p : Program Answer α} (h : p.Spends kind budget) (f : α → β) :
    (p >>= fun value ↦ done (f value)).Spends kind budget := by
  rw [← Multiset.add_zero budget]
  exact h.bind fun value ↦ spends_done (f value)

/-! ### Against a responder -/

variable (respond : Responder Answer σ)

/-- The kinds of the requests in a trace are within the budget. -/
theorem Spends.trace_le {p : Program Answer α} (h : p.Spends kind budget) (state : σ) :
    ((p.execute respond state).trace.map fun exchange ↦ kind exchange.op : Multiset K) ≤ budget := by
  induction p generalizing budget state with
  | done => exact Multiset.zero_le _
  | ask op next ih =>
    rw [execute_ask, List.map_cons, ← Multiset.cons_coe, ← Multiset.cons_erase h.1]
    exact Multiset.cons_le_cons _ (ih _ (h.2 _) _)

/-- No kind of request is made more often than the budget has it. -/
theorem Spends.countP_le {p : Program Answer α} (h : p.Spends kind budget) (k : K) (state : σ) :
    (p.execute respond state).trace.countP (fun exchange ↦ kind exchange.op = k) ≤
      budget.count k := by
  have hcount := Multiset.count_le_of_le k (h.trace_le respond state)
  rw [Multiset.coe_count, List.count_eq_countP, List.countP_map] at hcount
  refine le_trans (le_of_eq (List.countP_congr fun exchange _ ↦ ?_)) hcount
  simp

end LaptopDriver.Program
