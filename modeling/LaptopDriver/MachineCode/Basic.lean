import LaptopDriver.Routine

/-!
# Routines as machine code

The processor has an instruction for every request to the chipset except the delay. A delay is
spent on writes of zero to a diagnostic port that nothing listens to: each of them takes about a
microsecond.

`Chipset.Request.carryOut` is the program of instructions for a request. Apart from a delay it is a
single instruction; a model-specific register, which the driver sees as two halves, is read and
written as one word of 64 bits.

Machine code is a program in the vocabulary of the driver in which the chipset is addressed by the
instructions of the processor. `Routine.compile` replaces every chipset request of a routine by the
instructions that carry it out and leaves all else as it is.
-/

namespace LaptopDriver

/-! ### Carrying out chipset requests -/

namespace Chipset

/-- An instruction of the processor. -/
inductive Instruction where
  /-- Read a byte from a port. -/
  | inByte (port : Port)
  /-- Write a byte to a port. -/
  | outByte (port : Port) (value : UInt8)
  /-- Write 32 bits to a port. -/
  | outWide (port : Port) (value : UInt32)
  /-- Read a model-specific register. -/
  | readMsr (number : MsrNumber)
  /-- Write a model-specific register. -/
  | writeMsr (number : MsrNumber) (value : UInt64)
  /-- Keep interrupts off. -/
  | disableInterrupts
  /-- Let interrupts through. -/
  | enableInterrupts
  deriving DecidableEq, Repr

/-- The type of what an instruction leaves in the processor's registers. -/
@[reducible]
def Instruction.Answer : Instruction → Type
  | .inByte _ => UInt8
  | .outByte _ _ => Unit
  | .outWide _ _ => Unit
  | .readMsr _ => UInt64
  | .writeMsr _ _ => Unit
  | .disableInterrupts => Unit
  | .enableInterrupts => Unit

/-- The diagnostic port that nothing listens to. -/
def diagnosticPort : Port := 0x80

/-- The instruction that takes about a microsecond. -/
def Instruction.wait : Instruction :=
  .outByte diagnosticPort 0

/-- The number of waits in a millisecond. -/
def waitsPerMillisecond : Nat := 1000

/-- Spend a number of waits. -/
def pause (waits : Nat) : Program Instruction.Answer Unit :=
  .times waits (.send Instruction.wait)

/-- The instructions that carry out a request. -/
def Request.carryOut : (request : Request) → Program Instruction.Answer request.Answer
  | .readPort port => .send (Instruction.inByte port)
  | .writePort port value => .send (Instruction.outByte port value)
  | .writePortWide port value => .send (Instruction.outWide port value)
  | .readMsr number => MsrContents.ofUInt64 <$> .send (Instruction.readMsr number)
  | .writeMsr number value => .send (Instruction.writeMsr number value.toUInt64)
  | .delay milliseconds => .times milliseconds (pause waitsPerMillisecond)
  | .maskInterrupts => .send Instruction.disableInterrupts
  | .unmaskInterrupts => .send Instruction.enableInterrupts

end Chipset

/-! ### Machine code -/

/-- A program over the requests of the driver, with the chipset addressed by instructions. -/
abbrev MachineCode (α : Type) : Type :=
  Program (Request.Answer Chipset.Instruction.Answer) α

namespace MachineCode

variable {α : Type}

/-- Instructions as machine code. -/
def ofInstructions (p : Program Chipset.Instruction.Answer α) : MachineCode α :=
  p.lower fun instruction ↦ .send (Request.chipset instruction)

/-- Spend a number of waits. -/
def pause (waits : Nat) : MachineCode Unit :=
  ofInstructions (Chipset.pause waits)

/-- Run `body` with interrupts off. -/
def withoutInterrupts (body : MachineCode α) : MachineCode α :=
  .between (ofInstructions (.send Chipset.Instruction.disableInterrupts))
    (ofInstructions (.send Chipset.Instruction.enableInterrupts)) body

end MachineCode

/-- The machine code that carries out a request. -/
def Request.compile : (request : Request Chipset.Request) →
    MachineCode (request.Answer Chipset.Request.Answer)
  | .controller request => .send (Request.controller request)
  | .chipset request => .ofInstructions request.carryOut
  | .input report => .send (Request.input report)
  | .supply request => .send (Request.supply request)
  | .log record => .send (Request.log record)

/-- The machine code of a routine. -/
def Routine.compile {α : Type} (routine : Routine α) : MachineCode α :=
  Program.lower Request.compile routine

end LaptopDriver
