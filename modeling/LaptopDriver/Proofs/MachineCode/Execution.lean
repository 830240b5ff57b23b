import LaptopDriver.Machine.Basic
import LaptopDriver.MachineCode.Basic

/-!
# Executing machine code

The machine code of a routine does to a machine what the routine asks of it, and its trace is that of
the routine with every exchange about the chipset replaced by the instructions for it
(`Routine.execute_compile`). `Exchange.instructions` says which these are: a delay is a thousand
writes of zero to the diagnostic port for each millisecond, and any other request is one instruction.

The processor carries a model-specific register as one word and the driver sees it as two halves.
Nothing is lost on the way between the two (`ofUInt64_toUInt64`).
-/

namespace LaptopDriver

open Chipset

/-! ### One word and two halves -/

namespace Chipset.MsrContents

theorem toNat_toUInt64 (contents : MsrContents) :
    contents.toUInt64.toNat = contents.high.toNat <<< 32 + contents.low.toNat := by
  have hhigh := contents.high.toNat_lt
  have hshift : contents.high.toNat <<< 32 < 2 ^ 64 := by
    rw [Nat.shiftLeft_eq]
    omega
  rw [toUInt64, UInt64.toNat_or, UInt64.toNat_shiftLeft]
  show contents.high.toNat <<< 32 % 2 ^ 64 ||| contents.low.toNat = _
  rw [Nat.mod_eq_of_lt hshift, Nat.shiftLeft_add_eq_or_of_lt contents.low.toNat_lt]

/-- The halves of the word made of two halves are these. -/
theorem ofUInt64_toUInt64 (contents : MsrContents) : ofUInt64 contents.toUInt64 = contents := by
  have hlow := contents.low.toNat_lt
  have hword := contents.toNat_toUInt64
  rw [Nat.shiftLeft_eq] at hword
  have hupper : (contents.toUInt64 >>> 32).toUInt32 = contents.high := by
    have hhigh := contents.high.toNat_lt
    rw [← UInt32.toNat_inj, UInt64.toNat_toUInt32, UInt64.toNat_shiftRight, hword]
    show (_ >>> 32) % 2 ^ 32 = _
    rw [Nat.shiftRight_eq_div_pow]
    omega
  have hlower : contents.toUInt64.toUInt32 = contents.low := by
    rw [← UInt32.toNat_inj, UInt64.toNat_toUInt32, hword]
    omega
  rw [ofUInt64, hupper, hlower]

end Chipset.MsrContents

/-! ### Lowering a program -/

namespace Program

variable {Op Op' : Type} {Answer : Op → Type} {Answer' : Op' → Type} {σ α : Type}
  {carry : (op : Op) → Program Answer' (Answer op)} {respond : Responder Answer σ}
  {respond' : Responder Answer' σ} {image : Exchange Answer → List (Exchange Answer')}

/-- If each request is carried out faithfully, so is a program: it comes to the same value and the
same state, and every exchange leaves its image in the trace. -/
theorem execute_lower
    (h : ∀ op state, (carry op).execute respond' state =
      ⟨(respond op state).1, (respond op state).2, image ⟨op, (respond op state).1⟩⟩)
    (p : Program Answer α) (state : σ) :
    let execution := p.execute respond state
    (p.lower carry).execute respond' state =
      ⟨execution.value, execution.state, execution.trace.flatMap image⟩ := by
  induction p generalizing state with
  | done => rfl
  | ask op next ih =>
    rw [lower_ask, execute_bind, h, ih, execute_ask]
    rfl

end Program

/-! ### The instructions for a request -/

/-- The instructions that an exchange with the chipset stands for. -/
def Chipset.instructions : (request : Chipset.Request) → request.Answer →
    List (Exchange Instruction.Answer)
  | .readPort port, byte => [⟨.inByte port, byte⟩]
  | .writePort port byte, _ => [⟨.outByte port byte, ()⟩]
  | .writePortWide port value, _ => [⟨.outWide port value, ()⟩]
  | .readMsr number, contents => [⟨.readMsr number, contents.toUInt64⟩]
  | .writeMsr number contents, _ => [⟨.writeMsr number contents.toUInt64, ()⟩]
  | .delay milliseconds, _ => List.replicate (1000 * milliseconds) ⟨.outByte 0x80 0, ()⟩
  | .maskInterrupts, _ => [⟨.disableInterrupts, ()⟩]
  | .unmaskInterrupts, _ => [⟨.enableInterrupts, ()⟩]

/-- An exchange of instructions among those of the driver. -/
def Exchange.ofInstruction (exchange : Exchange Instruction.Answer) :
    Exchange (Request.Answer Instruction.Answer) :=
  ⟨.chipset exchange.op, exchange.answer⟩

/-- What an exchange of the driver becomes when the chipset is addressed by instructions. -/
def Exchange.instructions : Exchange (Request.Answer Chipset.Request.Answer) →
    List (Exchange (Request.Answer Instruction.Answer))
  | ⟨.chipset request, answer⟩ => (Chipset.instructions request answer).map .ofInstruction
  | ⟨.controller request, answer⟩ => [⟨.controller request, answer⟩]
  | ⟨.input report, answer⟩ => [⟨.input report, answer⟩]
  | ⟨.supply request, answer⟩ => [⟨.supply request, answer⟩]
  | ⟨.log record, answer⟩ => [⟨.log record, answer⟩]

/-- An exchange that is not with the chipset, in any vocabulary of the chipset. -/
def Exchange.beyondChipset? {C : Type} {A : C → Type} : Exchange (Request.Answer A) →
    Option (Exchange (Request.Answer fun request : Empty ↦ request.elim))
  | ⟨.chipset _, _⟩ => none
  | ⟨.controller request, answer⟩ => some ⟨.controller request, answer⟩
  | ⟨.input report, answer⟩ => some ⟨.input report, answer⟩
  | ⟨.supply request, answer⟩ => some ⟨.supply request, answer⟩
  | ⟨.log record, answer⟩ => some ⟨.log record, answer⟩

/-- The instructions for an exchange with the chipset are exchanges with the chipset, and every other
exchange stays what it is. -/
theorem Exchange.filterMap_instructions
    (exchange : Exchange (Request.Answer Chipset.Request.Answer)) :
    exchange.instructions.filterMap beyondChipset? = exchange.beyondChipset?.toList := by
  obtain ⟨request, answer⟩ := exchange
  cases request with
  | chipset request =>
    rw [instructions, List.filterMap_map]
    exact List.filterMap_eq_nil_iff.2 fun _ _ ↦ rfl
  | _ => rfl

/-- Beyond the chipset, addressing it by instructions changes nothing in a trace. -/
theorem filterMap_flatMap_instructions
    (trace : List (Exchange (Request.Answer Chipset.Request.Answer))) :
    (trace.flatMap Exchange.instructions).filterMap Exchange.beyondChipset? =
      trace.filterMap Exchange.beyondChipset? := by
  induction trace with
  | nil => rfl
  | cons exchange trace ih =>
    rw [List.flatMap_cons, List.filterMap_append, exchange.filterMap_instructions, ih,
      List.filterMap_cons]
    cases exchange.beyondChipset? <;> rfl

namespace Chipset

/-- Pausing again and again is one long pause. -/
theorem times_pause (count waits : Nat) : Program.times count (pause waits) = pause (count * waits) :=
  Program.times_times count waits _

theorem execute_pause (waits : Nat) (machine : Machine) :
    (pause waits).execute Machine.executeInstruction machine =
      ⟨(), machine, List.replicate waits ⟨.outByte 0x80 0, ()⟩⟩ := by
  have hwait : (Program.send Instruction.wait).execute Machine.executeInstruction machine =
      ⟨(), machine, [⟨.outByte 0x80 0, ()⟩]⟩ :=
    rfl
  rw [pause, Program.execute_times _ hwait, List.flatten_replicate_singleton]

/-- Carrying out a request answers it and does to the machine what the request does. -/
theorem execute_carryOut (request : Chipset.Request) (machine : Machine) :
    request.carryOut.execute Machine.executeInstruction machine =
      let reply := Machine.respondChipset request machine
      ⟨reply.1, reply.2, instructions request reply.1⟩ := by
  cases request with
  | delay milliseconds =>
    rw [Request.carryOut, times_pause, execute_pause, Nat.mul_comm]
    rfl
  | readMsr number =>
    rw [Request.carryOut, Program.execute_map, Program.execute_send]
    show Execution.mk (MsrContents.ofUInt64 (machine.msrs number).toUInt64) _ _ = _
    rw [MsrContents.ofUInt64_toUInt64]
    rfl
  | writeMsr number contents =>
    rw [Request.carryOut, Program.execute_send]
    show Execution.mk () (machine.writeMsr number (.ofUInt64 contents.toUInt64)) _ = _
    rw [MsrContents.ofUInt64_toUInt64]
    rfl
  | _ => rfl

end Chipset

namespace MachineCode

variable {α : Type}

theorem ofInstructions_map {β : Type} (f : α → β) (p : Program Instruction.Answer α) :
    ofInstructions (f <$> p) = f <$> ofInstructions p := by
  rw [ofInstructions, map_eq_pure_bind, Program.lower_bind, map_eq_pure_bind]
  rfl

theorem execute_ofInstructions (p : Program Instruction.Answer α) (machine : Machine) :
    let execution := p.execute Machine.executeInstruction machine
    (ofInstructions p).execute Machine.respondToInstruction machine =
      ⟨execution.value, execution.state, execution.trace.map .ofInstruction⟩ := by
  intro execution
  rw [List.map_eq_flatMap]
  exact Program.execute_lower (fun _ _ ↦ rfl) p machine

end MachineCode

/-- The machine code for a request answers it and does to the machine what the request does. -/
theorem Request.execute_compile (request : Request Chipset.Request) (machine : Machine) :
    request.compile.execute Machine.respondToInstruction machine =
      let reply := Machine.respond request machine
      ⟨reply.1, reply.2, Exchange.instructions ⟨request, reply.1⟩⟩ := by
  cases request with
  | chipset request =>
    rw [compile, MachineCode.execute_ofInstructions, execute_carryOut]
    rfl
  | _ => rfl

/-- The machine code of a routine comes to the same value and the same machine as the routine, and
its trace is that of the routine with instructions for the exchanges with the chipset. -/
theorem Routine.execute_compile {α : Type} (routine : Routine α) (machine : Machine) :
    let execution := routine.execute Machine.respond machine
    routine.compile.execute Machine.respondToInstruction machine =
      ⟨execution.value, execution.state, execution.trace.flatMap Exchange.instructions⟩ :=
  Program.execute_lower Request.execute_compile routine machine

end LaptopDriver
