import LaptopDriver.Proofs.MachineCode.Linking

/-!
# The word of a model-specific register

The processor carries a model-specific register as one word of 64 bits, and the driver changes the
low one of its two halves. A change of the halves is a change of the word, and this module says which:
clearing a mask in the low half is the conjunction of the word with the complement of the mask, and
setting it is the disjunction with the mask, where the mask is taken as a word itself
(`toUInt64_clearLow`, `toUInt64_setLow`). Both follow from a word being its halves in a row
(`toBitVec_toUInt64`), so that the operations on words are those on the halves, side by side.

Machine code `ReplacesWord` when all that it executes is to read the word of a register and to write
a function of it. The main statement, `halves_carry_word`, puts the two together: the linked code for
the driver's changes of halves replaces the word by exactly those changes of it, and the upper half
of the register is never altered (`ChangesWord`).
-/

namespace LaptopDriver

open Chipset

/-! ### Words and halves -/

namespace Chipset.MsrContents

/-- A word is its halves in a row. -/
theorem toBitVec_toUInt64 (contents : MsrContents) :
    contents.toUInt64.toBitVec = contents.high.toBitVec ++ contents.low.toBitVec := by
  refine BitVec.eq_of_toNat_eq ?_
  rw [UInt64.toNat_toBitVec, toNat_toUInt64, BitVec.toNat_append,
    Nat.shiftLeft_add_eq_or_of_lt contents.low.toNat_lt]
  rfl

/-- The upper half of a word. -/
theorem toUInt64_shiftRight (contents : MsrContents) :
    contents.toUInt64 >>> 32 = contents.high.toUInt64 := by
  have hlow := contents.low.toNat_lt
  rw [← UInt64.toNat_inj, UInt64.toNat_shiftRight, toNat_toUInt64, Nat.shiftLeft_eq]
  show _ >>> 32 = contents.high.toNat
  rw [Nat.shiftRight_eq_div_pow]
  omega

/-- The word made of the halves of a word is that word. -/
theorem toUInt64_ofUInt64 (word : UInt64) : (ofUInt64 word).toUInt64 = word := by
  have hword := word.toNat_lt
  have hhigh : (ofUInt64 word).high.toNat = word.toNat / 2 ^ 32 := by
    show (word >>> 32).toUInt32.toNat = _
    rw [UInt64.toNat_toUInt32, UInt64.toNat_shiftRight]
    show (word.toNat >>> 32) % 2 ^ 32 = _
    rw [Nat.shiftRight_eq_div_pow]
    omega
  have hlow : (ofUInt64 word).low.toNat = word.toNat % 2 ^ 32 := UInt64.toNat_toUInt32 word
  rw [← UInt64.toNat_inj, toNat_toUInt64, hhigh, hlow, Nat.shiftLeft_eq]
  omega

/-- A mask for the low half, taken as a word, has nothing in its high half. -/
theorem toUInt64_mask (bits : UInt32) : (MsrContents.mk 0 bits).toUInt64 = bits.toUInt64 := by
  simp [toUInt64]

theorem toUInt64_clearLow (contents : MsrContents) (bits : UInt32) :
    (contents.clearLow bits).toUInt64 = contents.toUInt64 &&& ~~~bits.toUInt64 := by
  have hkept : contents.high.toBitVec &&& ~~~(0 : UInt32).toBitVec = contents.high.toBitVec :=
    BitVec.and_allOnes
  rw [← UInt64.toBitVec_inj, ← toUInt64_mask, UInt64.toBitVec_and, UInt64.toBitVec_not,
    toBitVec_toUInt64, toBitVec_toUInt64, toBitVec_toUInt64, BitVec.not_append, BitVec.and_append,
    hkept]
  rfl

theorem toUInt64_setLow (contents : MsrContents) (bits : UInt32) :
    (contents.setLow bits).toUInt64 = contents.toUInt64 ||| bits.toUInt64 := by
  have hkept : contents.high.toBitVec ||| (0 : UInt32).toBitVec = contents.high.toBitVec :=
    BitVec.or_zero
  rw [← UInt64.toBitVec_inj, ← toUInt64_mask, UInt64.toBitVec_or, toBitVec_toUInt64,
    toBitVec_toUInt64, toBitVec_toUInt64, BitVec.or_append, hkept]
  rfl

end Chipset.MsrContents

/-! ### Replacing a word -/

/-- Whatever the hardware answers, the code reads the word of a model-specific register, writes the
change of that word, and executes nothing else. -/
def MachineCode.ReplacesWord {α : Type} (number : MsrNumber) (change : UInt64 → UInt64)
    (code : MachineCode α) (value : α) : Prop :=
  ∀ (σ : Type) (respond : Responder (Request.Answer Instruction.Answer) σ) (state : σ),
    let read := respond (.chipset (.readMsr number)) state
    let written := respond (.chipset (.writeMsr number (change read.1))) read.2
    code.execute respond state =
      ⟨value, written.2, [⟨.chipset (.readMsr number), read.1⟩,
        ⟨.chipset (.writeMsr number (change read.1)), ()⟩]⟩

/-- A change of the halves, linked with a library, is two instructions. -/
theorem Routine.link_modifyMsr {library : ProcessorLibrary} (hlibrary : library.Documented)
    (number : MsrNumber) (change : MsrContents → MsrContents) (interrupts : InterruptState) :
    (modifyMsr number change).link library interrupts =
      .ask (.chipset (.readMsr number)) fun word ↦
        .ask (.chipset (.writeMsr number (change (.ofUInt64 word)).toUInt64)) fun _ ↦
          .done ((), interrupts) := by
  have hread : (Request.chipset (.readMsr number)).link library interrupts =
      (·, interrupts) <$> Request.compile (.chipset (.readMsr number)) :=
    Request.link_eq hlibrary trivial
  have hwrite (contents : MsrContents) :
      (Request.chipset (.writeMsr number contents)).link library interrupts =
        (·, interrupts) <$> Request.compile (.chipset (.writeMsr number contents)) :=
    Request.link_eq hlibrary trivial
  show (Request.link library (.chipset (.readMsr number)) interrupts >>= fun contents ↦
    Request.link library (.chipset (.writeMsr number (change contents.1))) contents.2 >>=
      fun reply ↦ .done (reply.1, reply.2)) = _
  rw [hread]
  refine congrArg (Program.ask _) (funext fun word ↦ ?_)
  exact congrArg (· >>= fun reply ↦ .done (reply.1, reply.2)) (hwrite _)

/-- On a machine the changed word is stored, and nothing else changes. -/
theorem MachineCode.ReplacesWord.state_eq {α : Type} {number : MsrNumber}
    {change : UInt64 → UInt64} {code : MachineCode α} {value : α}
    (h : ReplacesWord number change code value) (machine : Machine) :
    (code.execute Machine.respondToInstruction machine).state =
      machine.writeMsr number (.ofUInt64 (change (machine.msrs number).toUInt64)) :=
  congrArg Execution.state (h Machine Machine.respondToInstruction machine)

/-! ### Changes of the low half -/

/-- Changing the halves of a register, in code that is linked with the library, is changing its
word, and it leaves the upper half alone. -/
structure ChangesWord (library : ProcessorLibrary) (change : MsrContents → MsrContents)
    (changeWord : UInt64 → UInt64) : Prop where
  /-- The code reads the word and writes the changed one, on whatever hardware. -/
  replaces : ∀ (number : MsrNumber) (interrupts : InterruptState),
    ((Routine.modifyMsr number change).link library interrupts).ReplacesWord number changeWord
      ((), interrupts)
  /-- The upper half of the changed word is that of the word. -/
  upper : ∀ word, changeWord word >>> 32 = word >>> 32
  /-- On a machine the changed word is stored, and no other register changes. -/
  stored : ∀ (number : MsrNumber) (interrupts : InterruptState) (machine : Machine),
    let code := (Routine.modifyMsr number change).link library interrupts
    let after := (code.execute Machine.respondToInstruction machine).state
    (after.msrs number).toUInt64 = changeWord (machine.msrs number).toUInt64 ∧
      ∀ other, other ≠ number → after.msrs other = machine.msrs other

section Library

variable {library : ProcessorLibrary} (hlibrary : library.Documented)

include hlibrary

/-- What makes a change of halves one of words: it is so for the halves, and the high one is
kept. -/
theorem changesWord_of_toUInt64 {change : MsrContents → MsrContents} {changeWord : UInt64 → UInt64}
    (hword : ∀ contents, (change contents).toUInt64 = changeWord contents.toUInt64)
    (hhigh : ∀ contents, (change contents).high = contents.high) :
    ChangesWord library change changeWord := by
  have hsplit (word : UInt64) : (change (.ofUInt64 word)).toUInt64 = changeWord word := by
    rw [hword, MsrContents.toUInt64_ofUInt64]
  have hreplaces (number : MsrNumber) (interrupts : InterruptState) :
      ((Routine.modifyMsr number change).link library interrupts).ReplacesWord number changeWord
        ((), interrupts) := by
    obtain rfl : (fun word ↦ (change (.ofUInt64 word)).toUInt64) = changeWord := funext hsplit
    intro σ respond state
    rw [Routine.link_modifyMsr hlibrary]
    rfl
  refine ⟨hreplaces, fun word ↦ ?_, fun number interrupts machine ↦ ?_⟩
  · rw [← hsplit, MsrContents.toUInt64_shiftRight, hhigh, ← MsrContents.toUInt64_shiftRight,
      MsrContents.toUInt64_ofUInt64]
  · intro code after
    have hafter : after = _ := (hreplaces number interrupts).state_eq machine
    rw [hafter]
    refine ⟨?_, fun other hother ↦ Memory.write_of_ne _ _ hother⟩
    show (machine.msrs.write number _ number).toUInt64 = _
    rw [Memory.write_same, MsrContents.toUInt64_ofUInt64]

end Library

/-- The halves of a model-specific register carry its whole word. Splitting a word and joining halves
are inverse to each other. Through a library that does what it documents, clearing a mask in the low
half of any register stores the conjunction of its word with the complement of the mask, and setting
a mask stores the disjunction with it; the upper half is not altered by either. -/
theorem halves_carry_word {library : ProcessorLibrary} (hlibrary : library.Documented) :
    (∀ word, (MsrContents.ofUInt64 word).toUInt64 = word) ∧
    (∀ contents : MsrContents, .ofUInt64 contents.toUInt64 = contents) ∧
    ∀ bits : UInt32,
      ChangesWord library (·.clearLow bits) (· &&& ~~~bits.toUInt64) ∧
      ChangesWord library (·.setLow bits) (· ||| bits.toUInt64) := by
  refine ⟨MsrContents.toUInt64_ofUInt64, MsrContents.ofUInt64_toUInt64, fun bits ↦ ⟨?_, ?_⟩⟩
  · exact changesWord_of_toUInt64 hlibrary (·.toUInt64_clearLow bits) fun _ ↦ rfl
  · exact changesWord_of_toUInt64 hlibrary (·.toUInt64_setLow bits) fun _ ↦ rfl

/-- A register whose bits are set in both halves: a mask that has its highest bit set is cleared and
set in it, and is not extended into the upper half. -/
theorem halves_carry_word_highest_bit :
    let machine : Machine := { msrs := fun _ ↦ ⟨0xDEADBEEF, 0x8000FF00⟩ }
    let after (change : MsrContents → MsrContents) : UInt64 :=
      (((Routine.modifyMsr 0x80000024 change).link .direct .inside).execute
        Machine.respondToInstruction machine).state.msrs 0x80000024 |>.toUInt64
    ProcessorLibrary.direct.Documented ∧
      after (·.clearLow 0x80000400) = 0xDEADBEEF0000FB00 ∧
      after (·.setLow 0x8000000A) = 0xDEADBEEF8000FF0A := by
  intro machine after
  obtain ⟨-, -, hchanges⟩ := halves_carry_word ProcessorLibrary.documented_direct
  have hcleared := ((hchanges 0x80000400).1.stored 0x80000024 .inside machine).1
  have hset := ((hchanges 0x8000000A).2.stored 0x80000024 .inside machine).1
  exact ⟨ProcessorLibrary.documented_direct, hcleared.trans (by decide), hset.trans (by decide)⟩

end LaptopDriver
