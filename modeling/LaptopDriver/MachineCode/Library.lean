import LaptopDriver.Laptop.Run
import LaptopDriver.Machine.Basic
import LaptopDriver.MachineCode.Basic

/-!
# Machine code over a processor library

Not every instruction is issued by the driver itself. Model-specific registers are accessed, and
interrupts are kept off, by a library that the driver is linked with. A `ProcessorLibrary` is what
the library executes, and nothing is assumed of it but what it documents
(`ProcessorLibrary.Documented`).

The library keeps interrupts off around a section only if they got through before it, so what it
executes depends on the `InterruptState` in which the section is entered. `Routine.link` carries that
state along a routine.
-/

namespace LaptopDriver

open Chipset

/-- What a library executes on behalf of the driver. -/
structure ProcessorLibrary where
  /-- Read a model-specific register. -/
  readMsr (number : MsrNumber) : Program Instruction.Answer UInt64
  /-- Write a model-specific register. -/
  writeMsr (number : MsrNumber) (word : UInt64) : Program Instruction.Answer Unit
  /-- Enter a section without interrupts; `enabled` tells whether they got through before it. -/
  enterSection (enabled : Bool) : Program Instruction.Answer Unit
  /-- Leave a section without interrupts; `enabled` tells whether they got through before it. -/
  leaveSection (enabled : Bool) : Program Instruction.Answer Unit

/-- What the library documents: a register is read and written by the instruction for it, and where
interrupts got through before a section, they are disabled on entering and enabled on leaving
it. -/
structure ProcessorLibrary.Documented (library : ProcessorLibrary) : Prop where
  readMsr : ∀ number, library.readMsr number = .send (Instruction.readMsr number)
  writeMsr : ∀ number word, library.writeMsr number word = .send (Instruction.writeMsr number word)
  enterSection : library.enterSection true = .send Instruction.disableInterrupts
  leaveSection : library.leaveSection true = .send Instruction.enableInterrupts

/-- The library that executes what it documents, and nothing for a section inside of another. -/
def ProcessorLibrary.direct : ProcessorLibrary where
  readMsr number := .send (Instruction.readMsr number)
  writeMsr number word := .send (Instruction.writeMsr number word)
  enterSection enabled := if enabled then .send Instruction.disableInterrupts else pure ()
  leaveSection enabled := if enabled then .send Instruction.enableInterrupts else pure ()

theorem ProcessorLibrary.documented_direct : direct.Documented :=
  ⟨fun _ ↦ rfl, fun _ _ ↦ rfl, rfl, rfl⟩

/-- Whether interrupts get through, and what that depends on. -/
structure InterruptState where
  /-- Whether interrupts get through now. -/
  enabled : Bool := true
  /-- For every section that is not left yet, the innermost first, whether interrupts got through
  before it. -/
  entered : List Bool := []
  deriving DecidableEq, Repr

namespace ProcessorLibrary

variable (library : ProcessorLibrary)

/-- The instructions that carry out a request in a state of the interrupts, and the state after
it. -/
def carryOut : (request : Chipset.Request) → InterruptState →
    Program Instruction.Answer (request.Answer × InterruptState)
  | .readMsr number, state =>
    (fun word ↦ (MsrContents.ofUInt64 word, state)) <$> library.readMsr number
  | .writeMsr number contents, state =>
    (fun _ ↦ ((), state)) <$> library.writeMsr number contents.toUInt64
  | .maskInterrupts, state =>
    (fun _ ↦ ((), ⟨false, state.enabled :: state.entered⟩)) <$> library.enterSection state.enabled
  | .unmaskInterrupts, state =>
    let before := state.entered.headD state.enabled
    (fun _ ↦ ((), ⟨before, state.entered.tail⟩)) <$> library.leaveSection before
  | .readPort port, state => (·, state) <$> Request.carryOut (.readPort port)
  | .writePort port value, state => (·, state) <$> Request.carryOut (.writePort port value)
  | .writePortWide port value, state => (·, state) <$> Request.carryOut (.writePortWide port value)
  | .delay milliseconds, state => (·, state) <$> Request.carryOut (.delay milliseconds)

end ProcessorLibrary

/-- The machine code that carries out a request, linked with a library. -/
def Request.link (library : ProcessorLibrary) : (request : Request Chipset.Request) →
    InterruptState → MachineCode (request.Answer Chipset.Request.Answer × InterruptState)
  | .controller request, state => (·, state) <$> Request.compile (.controller request)
  | .chipset request, state => .ofInstructions (library.carryOut request state)
  | .input report, state => (·, state) <$> Request.compile (.input report)
  | .supply request, state => (·, state) <$> Request.compile (.supply request)
  | .log record, state => (·, state) <$> Request.compile (.log record)

/-- The machine code of a routine, linked with a library. Its value is that of the routine and the
state of the interrupts after it. -/
def Routine.link {α : Type} (library : ProcessorLibrary) :
    Routine α → InterruptState → MachineCode (α × InterruptState)
  | .done value, state => .done (value, state)
  | .ask request next, state =>
    request.link library state >>= fun reply ↦ Routine.link library (next reply.1) reply.2

/-! ### Execution -/

/-- The executor of a machine that runs code linked with a library. The state of the interrupts
belongs to the hardware. -/
def ProcessorLibrary.executor (library : ProcessorLibrary) :
    Executor (Request.Answer Instruction.Answer) (Machine × InterruptState) :=
  fun routine hardware ↦
    let execution :=
      (routine.link library hardware.2).execute Machine.respondToInstruction hardware.1
    ⟨execution.value.1, (execution.state, execution.value.2), execution.trace⟩

/-- A step on a machine of which the state of the interrupts is known; it does not change by
itself. -/
def Step.withInterrupts (step : Step Machine) : Step (Machine × InterruptState) :=
  ⟨Prod.map step.change id, step.operation⟩

end LaptopDriver
