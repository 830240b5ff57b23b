import LaptopDriver.Machine.Basic

/-!
# Changes of a machine by itself

Between two operations of the driver a machine may change: the user turns a wheel, an event is
queued, a battery is taken out. A `Machine.Change` lists what happens, and `Machine.Change.apply`
lets it happen. Scripts and queued events join those that are left from before; everything else is
replaced.
-/

namespace LaptopDriver.Machine

open Controller Chipset

/-- Something that happens to a machine while the driver is not looking. -/
structure Change where
  registers : List (Register × UInt8) := []
  script : List (Register × List UInt8) := []
  pending : List (Except Fault UInt8) := []
  latch : Option UInt8 := none
  /-- The new version of the firmware, if it changes; there may be none afterwards. -/
  version : Option (Option FirmwareVersion) := none
  registered : Option Bool := none
  sequencer : List (UInt8 × UInt8) := []
  msrs : List (MsrNumber × MsrContents) := []

/-- Put values behind those that are left in the script of a register. -/
def extendScript (script : Memory Register (List UInt8)) (register : Register)
    (values : List UInt8) : Memory Register (List UInt8) :=
  script.write register (script register ++ values)

/-- The machine after a change. -/
def Change.apply (change : Change) (machine : Machine) : Machine :=
  { machine with
    registers := machine.registers.writeAll change.registers
    script := change.script.foldl (fun script entry ↦ extendScript script entry.1 entry.2)
      machine.script
    pending := machine.pending ++ change.pending
    latch := change.latch.getD machine.latch
    version := change.version.getD machine.version
    registered := change.registered.getD machine.registered
    sequencer := machine.sequencer.writeAll change.sequencer
    msrs := machine.msrs.writeAll change.msrs }

/-- The registers that a change does not list stay as they are. -/
theorem Change.registers_apply_of_notMem {change : Change} {register : Register}
    (h : register ∉ change.registers.map Prod.fst) (machine : Machine) :
    (change.apply machine).registers register = machine.registers register :=
  machine.registers.writeAll_of_notMem h

end LaptopDriver.Machine
