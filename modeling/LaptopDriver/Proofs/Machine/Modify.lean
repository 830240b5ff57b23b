import LaptopDriver.Machine.Basic
import Mathlib.Data.List.Forall2

/-!
# Reading a cell and writing it back

Most of what the driver does to memory is to replace a cell by a function of what it held, at a few
addresses one after the other. `Memory.modifyAll` is that, for a list of addresses with a function
each. What becomes of one cell depends on that cell alone (`modifyAll_apply`), so whether one round
of replacements makes up for an earlier one can be decided entry by entry (`modifyAll_absorb`).
-/

namespace LaptopDriver.Memory

variable {Address Cell : Type} [DecidableEq Address]

/-- Replace the cell at an address by a function of what it held. -/
def modify (memory : Memory Address Cell) (address : Address) (change : Cell → Cell) :
    Memory Address Cell :=
  memory.write address (change (memory address))

/-- Replace cells one after the other, each by a function of what it held. -/
def modifyAll (memory : Memory Address Cell) (changes : List (Address × (Cell → Cell))) :
    Memory Address Cell :=
  changes.foldl (fun memory entry ↦ memory.modify entry.1 entry.2) memory

/-- What a list of changes does to the cell at an address. -/
def changeAt (changes : List (Address × (Cell → Cell))) (address : Address) (cell : Cell) : Cell :=
  changes.foldl (fun cell entry ↦ if entry.1 = address then entry.2 cell else cell) cell

theorem modify_apply (memory : Memory Address Cell) (address other : Address)
    (change : Cell → Cell) :
    memory.modify address change other =
      if address = other then change (memory other) else memory other := by
  by_cases h : address = other
  · subst h
    rw [if_pos rfl]
    exact write_same _ _ _
  · rw [if_neg h]
    exact write_of_ne _ _ (Ne.symm h)

/-- What becomes of a cell depends on that cell alone. -/
theorem modifyAll_apply (memory : Memory Address Cell)
    (changes : List (Address × (Cell → Cell))) (address : Address) :
    memory.modifyAll changes address = changeAt changes address (memory address) := by
  induction changes generalizing memory with
  | nil => rfl
  | cons entry changes ih =>
    show (memory.modify entry.1 entry.2).modifyAll changes address = _
    rw [ih, modify_apply]
    rfl

theorem changeAt_cons (entry : Address × (Cell → Cell)) (changes : List (Address × (Cell → Cell)))
    (address : Address) (cell : Cell) :
    changeAt (entry :: changes) address cell =
      changeAt changes address (if entry.1 = address then entry.2 cell else cell) :=
  rfl

/-- Changes at other addresses leave a cell as it is. -/
theorem changeAt_of_notMem {changes : List (Address × (Cell → Cell))} {address : Address}
    (h : address ∉ changes.map Prod.fst) (cell : Cell) : changeAt changes address cell = cell := by
  induction changes with
  | nil => rfl
  | cons entry changes ih =>
    rw [List.map_cons, List.mem_cons, not_or] at h
    rw [changeAt_cons, if_neg (Ne.symm h.1)]
    exact ih h.2

/-- The later of two changes at one address makes up for the earlier one. -/
def Absorbs (earlier later : Address × (Cell → Cell)) : Prop :=
  earlier.1 = later.1 ∧ ∀ cell, later.2 (earlier.2 cell) = later.2 cell

omit [DecidableEq Address] in
theorem map_fst_eq {earlier later : List (Address × (Cell → Cell))}
    (h : List.Forall₂ Absorbs earlier later) : earlier.map Prod.fst = later.map Prod.fst := by
  induction h with
  | nil => rfl
  | cons habsorbs _ ih => rw [List.map_cons, List.map_cons, habsorbs.1, ih]

theorem changeAt_absorb {earlier later : List (Address × (Cell → Cell))}
    (h : List.Forall₂ Absorbs earlier later) (hnodup : (later.map Prod.fst).Nodup)
    (address : Address) (cell : Cell) :
    changeAt later address (changeAt earlier address cell) = changeAt later address cell := by
  induction h generalizing cell with
  | nil => rfl
  | @cons first second earlier later habsorbs hrest ih =>
    obtain ⟨hfresh, hnodup⟩ := List.nodup_cons.1 hnodup
    rw [changeAt_cons, changeAt_cons, changeAt_cons, habsorbs.1]
    by_cases haddress : second.1 = address
    · -- Neither of the rests has this address again, so only the two changes count.
      have hrestFresh : address ∉ earlier.map Prod.fst := by
        rw [map_fst_eq hrest, ← haddress]
        exact hfresh
      rw [if_pos haddress, if_pos haddress, if_pos haddress, changeAt_of_notMem hrestFresh,
        habsorbs.2]
    · rw [if_neg haddress, if_neg haddress, if_neg haddress]
      exact ih hnodup cell

/-- A round of changes makes up for an earlier one at the same addresses, if each change makes up
for the one that it repeats. -/
theorem modifyAll_absorb (memory : Memory Address Cell)
    {earlier later : List (Address × (Cell → Cell))}
    (h : List.Forall₂ Absorbs earlier later) (hnodup : (later.map Prod.fst).Nodup) :
    (memory.modifyAll earlier).modifyAll later = memory.modifyAll later := by
  funext address
  rw [modifyAll_apply, modifyAll_apply, modifyAll_apply, changeAt_absorb h hnodup]

end LaptopDriver.Memory
