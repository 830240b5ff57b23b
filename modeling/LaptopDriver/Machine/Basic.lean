import LaptopDriver.MachineCode.Basic
import LaptopDriver.Program.Execution

/-!
# A machine to run on

A `Machine` is a laptop as far as the driver can tell: registers, sequencer and model-specific
registers that keep what is written to them, a queue of events, and a latch. Only the embedded
controller has a will of its own. A register can be given a script of values that it shows one after
the other, whatever is written to it in the meantime; and the events that wait in the queue include
queries that fail.

What keeps what is written to it is a `Memory`, a function from addresses to cells.

* `Machine.respond` answers the driver's own requests, and `Machine.respondToInstruction` answers
  the instructions of the processor. Both share all that lies outside the chipset.
* A `Machine.Change` is something that happens to a machine while the driver is not looking.
-/

namespace LaptopDriver

open Controller Chipset

/-! ### Memory -/

/-- A cell for every address. -/
abbrev Memory (Address Cell : Type) : Type :=
  Address → Cell

namespace Memory

variable {Address Cell : Type} [DecidableEq Address]

/-- Memory with another cell at an address. -/
def write (memory : Memory Address Cell) (address : Address) (cell : Cell) :
    Memory Address Cell :=
  fun other ↦ if other = address then cell else memory other

@[simp]
theorem write_same (memory : Memory Address Cell) (address : Address) (cell : Cell) :
    memory.write address cell address = cell :=
  if_pos rfl

theorem write_of_ne (memory : Memory Address Cell) {address other : Address} (cell : Cell)
    (h : other ≠ address) : memory.write address cell other = memory other :=
  if_neg h

/-- Memory after a list of writes; of two writes to one address the later one counts. -/
def writeAll (memory : Memory Address Cell) (writes : List (Address × Cell)) :
    Memory Address Cell :=
  writes.foldl (fun memory entry ↦ memory.write entry.1 entry.2) memory

theorem writeAll_of_notMem (memory : Memory Address Cell) {writes : List (Address × Cell)}
    {address : Address} (h : address ∉ writes.map Prod.fst) :
    memory.writeAll writes address = memory address := by
  induction writes generalizing memory with
  | nil => rfl
  | cons entry writes ih =>
    rw [List.map_cons, List.mem_cons, not_or] at h
    show (memory.write entry.1 entry.2).writeAll writes address = _
    rw [ih _ h.2, write_of_ne _ _ h.1]

end Memory

/-! ### Machines -/

/-- The state of a machine. -/
structure Machine where
  /-- The registers of the controller. -/
  registers : Memory Register UInt8 := fun _ ↦ 0
  /-- The values that the next reads of a register show instead of what the register holds. -/
  script : Memory Register (List UInt8) := fun _ ↦ []
  /-- What the next event queries come to: an event number or a fault. -/
  pending : List (Except Fault UInt8) := []
  /-- The latched event number. -/
  latch : UInt8 := 0
  /-- The version of the firmware. -/
  version : Option FirmwareVersion := none
  /-- Whether the power supplies are registered. -/
  registered : Bool := true
  /-- The sequencer register that is selected. -/
  selected : UInt8 := 0
  /-- The registers of the sequencer. -/
  sequencer : Memory UInt8 UInt8 := fun _ ↦ 0
  /-- The model-specific registers. -/
  msrs : Memory MsrNumber MsrContents := fun _ ↦ ⟨0, 0⟩

namespace Machine

/-! ### The embedded controller and the supplies -/

/-- Read a register: the next value of its script, if there is one. -/
def readRegister (machine : Machine) (register : Register) : UInt8 × Machine :=
  match machine.script register with
  | [] => (machine.registers register, machine)
  | value :: rest => (value, { machine with script := machine.script.write register rest })

/-- Query for the next event. An event is latched; a fault, and an empty queue, leave the latch as
it is. -/
def query (machine : Machine) : Except Fault Unit × Machine :=
  match machine.pending with
  | [] => (.ok (), machine)
  | .ok code :: rest => (.ok (), { machine with pending := rest, latch := code })
  | .error fault :: rest => (.error fault, { machine with pending := rest })

/-- Answer a request to the controller. -/
def respondController : Responder Controller.Request.Answer Machine
  | .read register, machine => machine.readRegister register
  | .write register value, machine =>
    ((), { machine with registers := machine.registers.write register value })
  | .query, machine => machine.query
  | .latched, machine => (machine.latch, machine)
  | .firmware, machine => (machine.version, machine)

/-- Answer a request to the power-supply layer. -/
def respondSupply : Responder Supply.Request.Answer Machine
  | .registered, machine => (machine.registered, machine)
  | .changed _, machine => ((), machine)

/-! ### The chipset -/

/-- Read a byte from a port. Ports other than the sequencer's data port read zero. -/
def readPort (machine : Machine) (port : Port) : UInt8 :=
  if port = sequencerData then machine.sequencer machine.selected else 0

/-- Write a byte to a port. Ports other than the sequencer's ignore it. -/
def writePort (machine : Machine) (port : Port) (value : UInt8) : Machine :=
  if port = sequencerIndex then { machine with selected := value }
  else if port = sequencerData then
    { machine with sequencer := machine.sequencer.write machine.selected value }
  else machine

/-- Write a model-specific register. -/
def writeMsr (machine : Machine) (number : MsrNumber) (contents : MsrContents) : Machine :=
  { machine with msrs := machine.msrs.write number contents }

/-- Answer a request to the chipset. -/
def respondChipset : Responder Chipset.Request.Answer Machine
  | .readPort port, machine => (machine.readPort port, machine)
  | .writePort port value, machine => ((), machine.writePort port value)
  | .writePortWide _ _, machine => ((), machine)
  | .readMsr number, machine => (machine.msrs number, machine)
  | .writeMsr number contents, machine => ((), machine.writeMsr number contents)
  | .delay _, machine => ((), machine)
  | .maskInterrupts, machine => ((), machine)
  | .unmaskInterrupts, machine => ((), machine)

/-- Execute an instruction. -/
def executeInstruction : Responder Instruction.Answer Machine
  | .inByte port, machine => (machine.readPort port, machine)
  | .outByte port value, machine => ((), machine.writePort port value)
  | .outWide _ _, machine => ((), machine)
  | .readMsr number, machine => ((machine.msrs number).toUInt64, machine)
  | .writeMsr number word, machine => ((), machine.writeMsr number (.ofUInt64 word))
  | .disableInterrupts, machine => ((), machine)
  | .enableInterrupts, machine => ((), machine)

/-! ### The whole machine -/

/-- Answer the driver's requests, given the answers to those for the chipset. -/
def respondAround {C : Type} {A : C → Type} (chipset : Responder A Machine) :
    Responder (Request.Answer A) Machine
  | .controller request, machine => respondController request machine
  | .chipset request, machine => chipset request machine
  | .input _, machine => ((), machine)
  | .supply request, machine => respondSupply request machine
  | .log _, machine => ((), machine)

/-- Answer the driver's requests. -/
def respond : Responder (Request.Answer Chipset.Request.Answer) Machine :=
  respondAround respondChipset

/-- Answer the driver's requests where the chipset is addressed by instructions. -/
def respondToInstruction : Responder (Request.Answer Instruction.Answer) Machine :=
  respondAround executeInstruction

end Machine

end LaptopDriver
