import LaptopDriver.Program.Basic
import LaptopDriver.Request

/-!
# Routines

A routine is a program in the vocabulary of the driver. This module names the requests as routines
of their own, so that a driver function reads as the sequence of what it asks.
-/

namespace LaptopDriver

open Controller

/-- A program over the requests of the driver. -/
abbrev Routine (α : Type) : Type :=
  Program (Request.Answer Chipset.Request.Answer) α

namespace Routine

/-! ### The embedded controller -/

/-- Make a request to the embedded controller. -/
def askController (request : Controller.Request) : Routine request.Answer :=
  .send (Request.controller request)

/-- Read a register of the embedded controller. -/
def read (register : Register) : Routine UInt8 :=
  askController (.read register)

/-- Read a pair of registers, the more significant byte first. -/
def readPair (pair : RegisterPair) : Routine UInt16 := do
  let high ← read pair.high
  let low ← read pair.low
  pure (joinBytes high low)

/-- Write a register of the embedded controller. -/
def write (register : Register) (value : UInt8) : Routine Unit :=
  askController (.write register value)

/-- Have the embedded controller latch its next event. -/
def query : Routine (Except Fault Unit) :=
  askController .query

/-- The number of the latched event. -/
def latched : Routine UInt8 :=
  askController .latched

/-- Whether the firmware is older than `version`. A controller that names no version counts as
having an empty one. -/
def olderThan (version : FirmwareVersion) : Routine Bool := do
  let running : Option FirmwareVersion ← askController .firmware
  pure (decide (running.getD .unnamed < version))

/-! ### The chipset -/

/-- Make a request to the chipset. -/
def askChipset (request : Chipset.Request) : Routine request.Answer :=
  .send (Request.chipset request)

/-- Read a byte from a port. -/
def readPort (port : Chipset.Port) : Routine UInt8 :=
  askChipset (.readPort port)

/-- Write a byte to a port. -/
def writePort (port : Chipset.Port) (value : UInt8) : Routine Unit :=
  askChipset (.writePort port value)

/-- Write 32 bits to a port. -/
def writePortWide (port : Chipset.Port) (value : UInt32) : Routine Unit :=
  askChipset (.writePortWide port value)

/-- Read a model-specific register. -/
def readMsr (number : Chipset.MsrNumber) : Routine Chipset.MsrContents :=
  askChipset (.readMsr number)

/-- Write a model-specific register. -/
def writeMsr (number : Chipset.MsrNumber) (value : Chipset.MsrContents) : Routine Unit :=
  askChipset (.writeMsr number value)

/-- Replace the contents of a model-specific register by a function of them. -/
def modifyMsr (number : Chipset.MsrNumber) (change : Chipset.MsrContents → Chipset.MsrContents) :
    Routine Unit := do
  let contents ← readMsr number
  writeMsr number (change contents)

/-- Wait for a number of milliseconds. -/
def delay (milliseconds : Nat) : Routine Unit :=
  askChipset (.delay milliseconds)

/-- Run `body` with interrupts off. -/
def withoutInterrupts {α : Type} (body : Routine α) : Routine α :=
  .between (askChipset .maskInterrupts) (askChipset .unmaskInterrupts) body

/-! ### Input, supplies and log -/

/-- Make a request to the power-supply layer. -/
def askSupplies (request : Supply.Request) : Routine request.Answer :=
  .send (Request.supply request)

/-- Make a report to the input layer. -/
def report (report : Input.Report) : Routine Unit :=
  .send (Request.input report)

/-- Whether the power supplies are registered. -/
def suppliesRegistered : Routine Bool :=
  askSupplies .registered

/-- Announce that a supply may have changed. -/
def announce (source : Supply.Source) : Routine Unit :=
  askSupplies (.changed source)

/-- Note something down in the log. -/
def log (record : Log.Record) : Routine Unit :=
  .send (Request.log record)

end Routine

end LaptopDriver
