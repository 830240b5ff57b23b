import LaptopDriver.InterruptLine
import LaptopDriver.Proofs.Trace

/-!
# Critical sections in a trace

The model-specific registers that route interrupts are shared with other code, so they may only be
changed while interrupts are kept off. `Trace.Disciplined` says that of a trace: interrupts are
kept off and let through again in turns, no model-specific register is written while they get
through, and whenever they are kept off, three registers are read and written back, one after the
other and with nothing in between, before they get through again.

A trace without critical sections is disciplined (`disciplined_of_outside`), so is a critical section
by itself (`disciplined_section`), and so are two disciplined traces in a row
(`Disciplined.append`).
-/

namespace LaptopDriver

open Chipset InterruptLine

/-! ### Requests -/

/-- Whether interrupts get through after a request that decides on it. -/
def Request.interrupts? : Request Chipset.Request → Option Bool
  | .chipset .maskInterrupts => some false
  | .chipset .unmaskInterrupts => some true
  | _ => none

/-- The request writes to a model-specific register. -/
def Request.IsMsrWrite : Request Chipset.Request → Prop
  | .chipset (.writeMsr _ _) => True
  | _ => False

/-- The request may be made outside of critical sections: it neither keeps interrupts off nor lets
them through, and writes to no model-specific register. -/
def Request.IsOutside (request : Request Chipset.Request) : Prop :=
  request.interrupts? = none ∧ ¬request.IsMsrWrite

/-- A request that is not about the routing of interrupts may be made outside. -/
theorem Request.isOutside_of_topic {request : Request Chipset.Request}
    (h : request.topic ≠ .routing) : request.IsOutside := by
  rcases request with _ | request | _ | _ | _
  case chipset => cases request <;> first | exact ⟨rfl, id⟩ | exact absurd rfl h
  all_goals exact ⟨rfl, id⟩

namespace Trace

/-! ### The discipline -/

/-- Whether interrupts get through after each exchange of a trace that decides on it. -/
def interrupts (trace : Trace) : List Bool :=
  trace.filterMap (·.op.interrupts?)

theorem interrupts_cons (exchange : Exchange (Request.Answer Chipset.Request.Answer))
    (trace : Trace) :
    interrupts (exchange :: trace) = exchange.op.interrupts?.toList ++ interrupts trace := by
  rw [interrupts, List.filterMap_cons]
  cases exchange.op.interrupts? <;> rfl

@[simp]
theorem interrupts_append (first second : Trace) :
    interrupts (first ++ second) = interrupts first ++ interrupts second :=
  List.filterMap_append

/-- A model-specific register is read and written back, with nothing in between. -/
def modification (number : MsrNumber) (read written : MsrContents) : Trace :=
  [⟨.chipset (.readMsr number), read⟩, ⟨.chipset (.writeMsr number written), ()⟩]

/-- What happens in a critical section, by what the three registers show. -/
def sectionBody (primary bus group : MsrContents) : Trace :=
  modification 0x80000024 primary (primary.clearLow virtualLine) ++
    modification 0x80000025 bus (bus.clearLow virtualLine) ++
    modification 0x80000023 group (group.setLow interruptGroup)

/-- A trace keeps to the discipline of critical sections, and has so many of them. -/
structure Disciplined (sections : Nat) (trace : Trace) : Prop where
  /-- Interrupts are kept off and let through again in turns, once for each section. -/
  alternates : trace.interrupts = (List.replicate sections [false, true]).flatten
  /-- Interrupts were kept off last when a model-specific register is written. -/
  masked : ∀ {before exchange after}, trace = before ++ exchange :: after →
    exchange.op.IsMsrWrite → (interrupts before).getLast? = some false
  /-- Once interrupts are kept off, three registers are modified and interrupts get through
  again. -/
  body : ∀ {before exchange after}, trace = before ++ exchange :: after →
    exchange.op.interrupts? = some false → ∃ primary bus group unmasking rest,
      after = sectionBody primary bus group ++ unmasking :: rest ∧
        unmasking.op.interrupts? = some true

/-! ### Outside of critical sections -/

/-- A trace without critical sections is disciplined. -/
theorem disciplined_of_outside {trace : Trace}
    (h : ∀ exchange ∈ trace, exchange.op.IsOutside) : Disciplined 0 trace where
  alternates := List.filterMap_eq_nil_iff.2 fun exchange hmem ↦ (h exchange hmem).1
  masked := by
    intro before exchange after hsplit hwrite
    exact absurd hwrite (h exchange (mem_of_eq_append_cons hsplit)).2
  body := by
    intro before exchange after hsplit hmasking
    rw [(h exchange (mem_of_eq_append_cons hsplit)).1] at hmasking
    cases hmasking

/-! ### Critical sections -/

/-- A critical section: interrupts are kept off, three registers are modified, and interrupts get
through again. -/
def criticalSection (primary bus group : MsrContents) : Trace :=
  ⟨.chipset .maskInterrupts, ()⟩ ::
    (sectionBody primary bus group ++ [⟨.chipset .unmaskInterrupts, ()⟩])

theorem interrupts?_of_mem_sectionBody {primary bus group : MsrContents}
    {exchange : Exchange (Request.Answer Chipset.Request.Answer)}
    (h : exchange ∈ sectionBody primary bus group) : exchange.op.interrupts? = none := by
  have hnone : interrupts (sectionBody primary bus group) = [] := rfl
  exact List.filterMap_eq_nil_iff.1 hnone exchange h

theorem disciplined_section (primary bus group : MsrContents) :
    Disciplined 1 (criticalSection primary bus group) where
  alternates := rfl
  masked := by
    intro before exchange after hsplit hwrite
    rcases List.cons_eq_append_iff.1 hsplit with ⟨rfl, hhead⟩ | ⟨before, rfl, htail⟩
    · obtain ⟨rfl, -⟩ := List.cons.inj hhead
      exact hwrite.elim
    rcases append_eq_append_cons htail with ⟨rest, hbody, -⟩ | ⟨rest, -, hunmasking⟩
    · -- Up to the write there is only the first part of the body, which leaves interrupts off.
      have hnone : interrupts before = [] := by
        refine List.filterMap_eq_nil_iff.2 fun exchange hmem ↦ ?_
        exact interrupts?_of_mem_sectionBody (hbody ▸ List.mem_append_left _ hmem)
      show (false :: interrupts before).getLast? = some false
      rw [hnone]
      rfl
    · obtain rfl := List.mem_singleton.1 (mem_of_eq_append_cons hunmasking)
      exact hwrite.elim
  body := by
    intro before exchange after hsplit hmasking
    rcases List.cons_eq_append_iff.1 hsplit with ⟨rfl, hhead⟩ | ⟨before, rfl, htail⟩
    · obtain ⟨-, rfl⟩ := List.cons.inj hhead
      exact ⟨primary, bus, group, _, [], rfl, rfl⟩
    · rcases List.mem_append.1 (mem_of_eq_append_cons htail) with hbody | hunmasking
      · rw [interrupts?_of_mem_sectionBody hbody] at hmasking
        cases hmasking
      · obtain rfl := List.mem_singleton.1 hunmasking
        cases hmasking

/-! ### One trace after the other -/

/-- Two disciplined traces in a row are disciplined. -/
theorem Disciplined.append {m n : Nat} {first second : Trace} (hfirst : Disciplined m first)
    (hsecond : Disciplined n second) : Disciplined (m + n) (first ++ second) where
  alternates := by
    rw [interrupts_append, hfirst.alternates, hsecond.alternates,
      ← List.replicate_append_replicate, List.flatten_append]
  masked := by
    intro before exchange after hsplit hwrite
    rcases append_eq_append_cons hsplit with ⟨rest, hplace, -⟩ | ⟨rest, rfl, hplace⟩
    · exact hfirst.masked hplace hwrite
    · rw [interrupts_append, List.getLast?_append, hsecond.masked hplace hwrite]
      rfl
  body := by
    intro before exchange after hsplit hmasking
    rcases append_eq_append_cons hsplit with ⟨rest, hplace, rfl⟩ | ⟨rest, -, hplace⟩
    · obtain ⟨primary, bus, group, unmasking, rest, rfl, hunmasking⟩ := hfirst.body hplace hmasking
      exact ⟨primary, bus, group, unmasking, rest ++ second, by simp, hunmasking⟩
    · exact hsecond.body hplace hmasking

end Trace

end LaptopDriver
