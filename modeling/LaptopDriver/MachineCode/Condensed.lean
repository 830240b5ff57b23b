import LaptopDriver.MachineCode.Basic
import LaptopDriver.Program.Execution

/-!
# Condensed traces

A busy delay leaves thousands of equal exchanges in the trace of machine code. `condense` replaces
each run of adjacent waits by its length and keeps every other exchange. Nothing is lost by that: the
trace can be read off its condensed form (`expand_condense`).
-/

namespace LaptopDriver.MachineCode

open Chipset

/-- An entry of a condensed trace. -/
inductive Entry where
  /-- A run of waits. -/
  | waits (count : Nat)
  /-- An exchange that is no wait. -/
  | exchange (exchange : Exchange (Request.Answer Instruction.Answer))

/-- Put an exchange in front of a condensed trace. -/
def Entry.cons (exchange : Exchange (Request.Answer Instruction.Answer)) (rest : List Entry) :
    List Entry :=
  if exchange.op = .chipset .wait then
    match rest with
    | .waits count :: rest => .waits (count + 1) :: rest
    | rest => .waits 1 :: rest
  else
    .exchange exchange :: rest

/-- Replace the runs of waits in a trace by their lengths. -/
def condense (trace : List (Exchange (Request.Answer Instruction.Answer))) : List Entry :=
  trace.foldr Entry.cons []

/-! ### Nothing is lost -/

/-- The exchanges that an entry stands for. -/
def Entry.expand : Entry → List (Exchange (Request.Answer Instruction.Answer))
  | .waits count => .replicate count ⟨.chipset .wait, ()⟩
  | .exchange other => [other]

theorem Entry.expand_cons (exchange : Exchange (Request.Answer Instruction.Answer))
    (rest : List Entry) :
    (Entry.cons exchange rest).flatMap expand = exchange :: rest.flatMap expand := by
  obtain ⟨op, answer⟩ := exchange
  unfold Entry.cons
  by_cases hwait : op = .chipset .wait
  · subst hwait
    rw [if_pos rfl]
    -- The wait joins the run that comes next, if there is one.
    split <;> rfl
  · rw [if_neg hwait]
    rfl

/-- A condensed trace stands for the trace that it was made from. -/
theorem expand_condense (trace : List (Exchange (Request.Answer Instruction.Answer))) :
    (condense trace).flatMap Entry.expand = trace := by
  induction trace with
  | nil => rfl
  | cons exchange trace ih =>
    show (Entry.cons exchange (condense trace)).flatMap Entry.expand = _
    rw [Entry.expand_cons, ih]

end LaptopDriver.MachineCode
