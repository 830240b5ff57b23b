import LaptopDriver.Proofs.Loading.Footprint
import LaptopDriver.Proofs.Machine.Permit
import LaptopDriver.Proofs.MachineCode.Execution
import LaptopDriver.Proofs.Sleep.Held

/-!
# The interrupt group that the line is routed to

Three model-specific registers decide where the interrupt line goes. Two of them have a bit for it,
and the third has the number of an interrupt group in its four lowest bits. `SelectsGroup` is what
routing is for: both bits are clear, the number is that of the group, and every other bit of the
three registers is kept.

Routing does not do that. It sets the bits of the group's number, 1 and 3, but it clears none
(`Reroutes`), and so the number ends up as the one from before with these bits set. It is the
group's number exactly if bits 0 and 2 were clear (`selectsGroup_iff`).

The registers are described as words of 64 bits. The driver changes the low half of one by a mask,
which sets or clears the same bits of the word (`clearsBits_word`, `setsBits_word`). However the
line comes to be routed, by itself, at load or after a sleep, the registers end up the same
(`RoutesLine.modifyAll_eq`), since nothing else that the driver does then is about them.
-/

namespace LaptopDriver

open Chipset Controller InterruptLine Machine.Held

/-! ### Bits of a word -/

namespace Chipset.MsrContents

/-- The number that has the 64 bits of a register. -/
def word (contents : MsrContents) : Nat :=
  contents.toUInt64.toNat

/-- Half a register has 32 bits. -/
theorem testBit_half (half : UInt32) {i : Nat} (hi : ¬i < 32) : half.toNat.testBit i = false := by
  have hpow : 2 ^ 32 ≤ 2 ^ i := Nat.pow_le_pow_right (by decide) (Nat.le_of_not_lt hi)
  exact Nat.testBit_lt_two_pow (Nat.lt_of_lt_of_le half.toNat_lt hpow)

theorem testBit_word (contents : MsrContents) (i : Nat) :
    contents.word.testBit i =
      if i < 32 then contents.low.toNat.testBit i else contents.high.toNat.testBit (i - 32) := by
  rw [word, toNat_toUInt64, Nat.shiftLeft_add_eq_or_of_lt contents.low.toNat_lt, Nat.testBit_or,
    Nat.testBit_shiftLeft]
  by_cases hi : i < 32
  · rw [if_pos hi, decide_eq_false (Nat.not_le.2 hi), Bool.false_and, Bool.false_or]
  · rw [if_neg hi, decide_eq_true (Nat.le_of_not_lt hi), Bool.true_and, testBit_half _ hi,
      Bool.or_false]

variable {places : List Nat} {mask : UInt32}

/-- A mask for the low half has no place in the high half. -/
theorem notMem_of_hasBits (h : HasBits places mask.toNat) {i : Nat} (hi : ¬i < 32) : i ∉ places :=
  of_decide_eq_false ((h i).symm.trans (testBit_half mask hi))

theorem clearsBits_word (h : HasBits places mask.toNat) (contents : MsrContents) :
    ClearsBits places contents.word (contents.clearLow mask).word := by
  intro i
  rw [testBit_word, testBit_word]
  by_cases hi : i < 32
  · rw [if_pos hi, if_pos hi]
    exact clearsBits_and_not h contents.low i
  · rw [if_neg hi, if_neg hi, decide_eq_true (notMem_of_hasBits h hi), Bool.and_true]
    rfl

theorem setsBits_word (h : HasBits places mask.toNat) (contents : MsrContents) :
    SetsBits places contents.word (contents.setLow mask).word := by
  intro i
  rw [testBit_word, testBit_word]
  by_cases hi : i < 32
  · rw [if_pos hi, if_pos hi]
    exact setsBits_or h contents.low.toNat i
  · rw [if_neg hi, if_neg hi, decide_eq_false (notMem_of_hasBits h hi), Bool.or_false]
    rfl

end Chipset.MsrContents

/-- Setting bits is joining them bit by bit. -/
theorem SetsBits.eq_or {places : List Nat} {before after mask : Nat}
    (h : SetsBits places before after) (hmask : HasBits places mask) : after = before ||| mask :=
  Nat.eq_of_testBit_eq fun i ↦ by rw [h i, Nat.testBit_or, hmask i]

/-! ### What routing does to the registers -/

namespace InterruptLine

/-- The line is taken out of the primary routing and off the bus, the group's number is set in the
third register, and every other bit of the three registers is kept. -/
structure SelectsGroup (before after : Memory MsrNumber MsrContents) : Prop where
  primary : ClearsBits [10] (before primaryRouting).word (after primaryRouting).word
  bus : ClearsBits [10] (before busRouting).word (after busRouting).word
  selected : (after groupSelect).word &&& 0xF = 10
  kept : ∀ i, 4 ≤ i → (after groupSelect).word.testBit i = (before groupSelect).word.testBit i

/-- The line is taken out of the primary routing and off the bus, the bits of the group's number are
set in the third register, and nothing else changes. -/
structure Reroutes (before after : Memory MsrNumber MsrContents) : Prop where
  primary : ClearsBits [10] (before primaryRouting).word (after primaryRouting).word
  bus : ClearsBits [10] (before busRouting).word (after busRouting).word
  group : SetsBits [1, 3] (before groupSelect).word (after groupSelect).word
  others : ∀ number ∉ [primaryRouting, busRouting, groupSelect], after number = before number

theorem reroutes_modifyAll (msrs : Memory MsrNumber MsrContents) :
    Reroutes msrs (msrs.modifyAll routingChanges) where
  primary := MsrContents.clearsBits_word hasBits_virtualLine _
  bus := MsrContents.clearsBits_word hasBits_virtualLine _
  group := MsrContents.setsBits_word hasBits_interruptGroup _
  others number hnumber := by
    rw [Memory.modifyAll_apply]
    exact Memory.changeAt_of_notMem hnumber _

theorem Reroutes.field {before after : Memory MsrNumber MsrContents} (h : Reroutes before after) :
    (after groupSelect).word &&& 0xF = ((before groupSelect).word &&& 0xF) ||| 10 := by
  rw [h.group.eq_or hasBits_interruptGroup, Nat.and_or_distrib_right]
  rfl

/-- The bits that are set make up the group's number if no other bit of the field is set. -/
theorem Reroutes.selects_iff {before after : Memory MsrNumber MsrContents}
    (h : Reroutes before after) :
    SelectsGroup before after ↔
      (before groupSelect).word.testBit 0 = false ∧
        (before groupSelect).word.testBit 2 = false := by
  have hinside (i : Nat) (hi : Nat.testBit 0xF i = true) :
      (before groupSelect).word.testBit i = ((before groupSelect).word &&& 0xF).testBit i := by
    rw [Nat.testBit_and, hi, Bool.and_true]
  have hfield : ∀ field < 16,
      (field ||| 10 = 10 ↔ field.testBit 0 = false ∧ field.testBit 2 = false) := by
    decide
  rw [hinside 0 rfl, hinside 2 rfl, ← hfield _ (Nat.lt_succ_of_le Nat.and_le_right), ← h.field]
  refine ⟨SelectsGroup.selected, fun hfield ↦ ⟨h.primary, h.bus, hfield, fun i hi ↦ ?_⟩⟩
  have hother : i ∉ [1, 3] := by
    simp only [List.mem_cons, List.not_mem_nil, or_false]
    omega
  rw [h.group i, decide_eq_false hother, Bool.or_false]

/-! ### Ways to route the line -/

/-- The line is routed, and this is what the model-specific registers held before and hold after
that: it is routed by itself, or armed, or the driver is loaded or woken up, and that succeeds. -/
inductive RoutesLine : Memory MsrNumber MsrContents → Memory MsrNumber MsrContents → Prop where
  | route (base : Port) (machine : Machine) :
    RoutesLine machine.msrs ((route base).execute Machine.respond machine).state.msrs
  | arm (settleTime : Nat) (machine : Machine)
    (h : ((arm settleTime).execute Machine.respond machine).value = .ok ()) :
    RoutesLine machine.msrs ((arm settleTime).execute Machine.respond machine).state.msrs
  | load (settings : Settings) (machine : Machine) (laptop : Laptop)
    (h : ((Laptop.load settings).execute Machine.respond machine).value = .ok laptop) :
    RoutesLine machine.msrs ((Laptop.load settings).execute Machine.respond machine).state.msrs
  | resume (laptop : Laptop) (machine : Machine)
    (h : ((laptop.perform .resume).execute Machine.respond machine).value.1 = .done) :
    RoutesLine machine.msrs ((laptop.perform .resume).execute Machine.respond machine).state.msrs

/-- Arming the line routes it on the registers that the machine had. -/
theorem msrs_arm {settleTime : Nat} {machine : Machine}
    (h : ((arm settleTime).execute Machine.respond machine).value = .ok ()) :
    ((arm settleTime).execute Machine.respond machine).state.msrs =
      machine.msrs.modifyAll routingChanges := by
  have hquery : machine.query.1 = .ok () := (value_arm settleTime machine).symm.trans h
  rw [execute_arm_ok settleTime hquery]
  show machine.query.2.msrs.modifyAll routingChanges = _
  rw [Machine.msrs_query]

theorem eq_ok_of_wakingOutcome {answer : Except Fault Unit}
    (h : Laptop.wakingOutcome answer = .done) : answer = .ok () := by
  cases answer with
  | error fault => cases h
  | ok => rfl

/-- However the line is routed, the registers end up the same. -/
theorem RoutesLine.modifyAll_eq {before after : Memory MsrNumber MsrContents}
    (h : RoutesLine before after) : after = before.modifyAll routingChanges := by
  cases h with
  | route => rfl
  | arm settleTime machine h => exact msrs_arm h
  | load settings machine laptop h =>
    let prepared := (Laptop.prepare settings).execute Machine.respond machine
    have hmsrs : prepared.state.msrs = machine.msrs :=
      (Laptop.within_prepare settings).msrs_eq (by simp) machine
    rw [Laptop.execute_load settings machine] at h ⊢
    have hquery : prepared.state.query.1 = .ok () :=
      (Laptop.query_prepare settings machine).trans (Laptop.eq_ok_of_started h)
    have harmed := (value_arm settings.settleTime prepared.state).trans hquery
    show ((InterruptLine.arm _).execute Machine.respond prepared.state).state.msrs = _
    rw [msrs_arm harmed, hmsrs]
  | resume laptop machine h =>
    let switched := (Laptop.switchDevices true).execute Machine.respond machine
    let rearmed := (rearm laptop.settings.settleTime).execute Machine.respond switched.state
    have hmsrs : switched.state.msrs = machine.msrs :=
      (Laptop.within_switchDevices true).msrs_eq (by simp) machine
    rw [laptop.execute_resume machine] at h ⊢
    have hrearmed : rearmed.value = .ok () := eq_ok_of_wakingOutcome h
    -- Arming after a sleep leaves what arming at load would leave.
    obtain ⟨⟨hvalue, hstate⟩, -⟩ := rearm_eq_arm laptop.settings.settleTime switched.state
    show rearmed.state.msrs = _
    rw [hstate, msrs_arm (hvalue.symm.trans hrearmed), hmsrs]

/-- However the line is routed, whatever the registers held: it is taken out of the primary routing
and off the bus, the bits 1 and 3 of the interrupt group are set, and no other bit of a
model-specific register changes. So the group's field ends up as what it was with the number 10
joined to it bit by bit, and group 10 is selected exactly if bits 0 and 2 were clear. -/
theorem selectsGroup_iff {before after : Memory MsrNumber MsrContents}
    (h : RoutesLine before after) :
    Reroutes before after ∧
    (after groupSelect).word &&& 0xF = ((before groupSelect).word &&& 0xF) ||| 10 ∧
    (SelectsGroup before after ↔
      (before groupSelect).word.testBit 0 = false ∧
        (before groupSelect).word.testBit 2 = false) := by
  have hreroutes : Reroutes before after := h.modifyAll_eq ▸ reroutes_modifyAll before
  exact ⟨hreroutes, hreroutes.field, hreroutes.selects_iff⟩

/-- A driver is loaded while the registers are in use: the bus has all lines, and the third register
selects group 2 for this line and other groups for others. -/
theorem selectsGroup_iff_load :
    let msrs : Memory MsrNumber MsrContents := Memory.writeAll (fun _ ↦ ⟨0, 0⟩)
      [(busRouting, ⟨7, 0xFFFFFFFF⟩), (groupSelect, ⟨0x80000001, 0xFFFFFFF2⟩)]
    let machine : Machine := { pending := [.ok 0x2C], msrs }
    let loaded := (Laptop.load { }).execute Machine.respond machine
    RoutesLine msrs loaded.state.msrs ∧ SelectsGroup msrs loaded.state.msrs ∧
      (loaded.state.msrs groupSelect).word &&& 0xF = 10 := by
  intro msrs machine loaded
  have hroutes : RoutesLine msrs loaded.state.msrs := .load { } machine ⟨{ }, { }, ⟨0⟩⟩ rfl
  obtain ⟨-, hfield, hselects⟩ := selectsGroup_iff hroutes
  exact ⟨hroutes, hselects.2 (by decide), hfield.trans (by decide)⟩

/-- A driver is loaded while the third register selects group 5, and that makes it group 15. -/
theorem not_selectsGroup_of_group_five :
    ¬∀ before after : Memory MsrNumber MsrContents,
      RoutesLine before after → SelectsGroup before after := by
  intro h
  let machine : Machine :=
    { pending := [.ok 0], msrs := Memory.write (fun _ ↦ ⟨0, 0⟩) groupSelect ⟨0, 5⟩ }
  have hselects := h _ _ (.load { } machine ⟨{ }, { }, ⟨0⟩⟩ rfl)
  exact absurd hselects.selected (by decide)

end InterruptLine

end LaptopDriver
