/-!
# What may be asked of the chipset

The driver reaches the chipset through input/output ports and model-specific registers. It can
also wait, and it can mask interrupts while it changes a register that other code shares.
None of these requests can fail.

A model-specific register (MSR) of the processor holds 64 bits. The instructions that access it
carry them in two 32-bit halves, and so does the driver: all of its changes concern the low half.
`MsrContents.ofUInt64` and `MsrContents.toUInt64` are the two directions between both views.
-/

namespace LaptopDriver.Chipset

/-! ### The contents of a model-specific register -/

/-- The 64 bits of a model-specific register, in two halves. -/
structure MsrContents where
  /-- Bits 32 to 63. -/
  high : UInt32
  /-- Bits 0 to 31. -/
  low : UInt32
  deriving DecidableEq, Repr

namespace MsrContents

/-- Split a 64-bit word into its halves. -/
def ofUInt64 (word : UInt64) : MsrContents :=
  ⟨(word >>> 32).toUInt32, word.toUInt32⟩

/-- The 64-bit word that has the two given halves. -/
def toUInt64 (contents : MsrContents) : UInt64 :=
  (contents.high.toUInt64 <<< 32) ||| contents.low.toUInt64

/-- Clear in the low half every bit that is set in `bits`. -/
def clearLow (contents : MsrContents) (bits : UInt32) : MsrContents :=
  { contents with low := contents.low &&& ~~~bits }

/-- Set in the low half every bit that is set in `bits`. -/
def setLow (contents : MsrContents) (bits : UInt32) : MsrContents :=
  { contents with low := contents.low ||| bits }

end MsrContents

/-! ### Addresses -/

/-- The number of an input/output port. -/
abbrev Port : Type := UInt16

/-- The number of a model-specific register. -/
abbrev MsrNumber : Type := UInt32

/-! ### The graphics sequencer

The registers of the graphics sequencer share one pair of ports. -/

/-- The port that selects a sequencer register. -/
def sequencerIndex : Port := 0x3C4

/-- The port that reads and writes the selected sequencer register. -/
def sequencerData : Port := 0x3C5

/-! ### Requests -/

/-- One request to the chipset. -/
inductive Request where
  /-- Read a byte from a port. -/
  | readPort (port : Port)
  /-- Write a byte to a port. -/
  | writePort (port : Port) (value : UInt8)
  /-- Write 32 bits to a port. -/
  | writePortWide (port : Port) (value : UInt32)
  /-- Read a model-specific register. -/
  | readMsr (number : MsrNumber)
  /-- Write a model-specific register. -/
  | writeMsr (number : MsrNumber) (value : MsrContents)
  /-- Wait for a number of milliseconds. -/
  | delay (milliseconds : Nat)
  /-- Keep interrupts off from here on. -/
  | maskInterrupts
  /-- Let interrupts through again. -/
  | unmaskInterrupts
  deriving DecidableEq, Repr

/-- The type in which a request to the chipset is answered. -/
@[reducible]
def Request.Answer : Request → Type
  | .readPort _ => UInt8
  | .writePort _ _ => Unit
  | .writePortWide _ _ => Unit
  | .readMsr _ => MsrContents
  | .writeMsr _ _ => Unit
  | .delay _ => Unit
  | .maskInterrupts => Unit
  | .unmaskInterrupts => Unit

end LaptopDriver.Chipset
