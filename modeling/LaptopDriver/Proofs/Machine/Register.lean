import LaptopDriver.Proofs.Machine.Frame
import LaptopDriver.Proofs.Trace

/-!
# Registers of a machine over an execution

A register whose script has run out shows what it holds, and it goes on doing so: only a change
of the machine by itself gives a register a new script (`script_execute`). What a
register holds after a routine can be read off the trace: it is what was written to it last
(`register_execute`).
-/

namespace LaptopDriver

open Controller

/-- A number that is cut to a limit does not exceed it as a byte. -/
theorem ofNat_min_le (limit : UInt8) (number : Nat) :
    UInt8.ofNat (min number limit.toNat) ≤ limit := by
  rw [UInt8.le_iff_toNat_le, UInt8.toNat_ofNat']
  exact Nat.le_trans (Nat.mod_le _ _) (Nat.min_le_right _ _)

namespace Trace

/-- The value that an exchange writes to a register. -/
def written? (register : Register) :
    Exchange (Request.Answer Chipset.Request.Answer) → Option UInt8
  | ⟨.controller (.write other value), _⟩ => if other = register then some value else none
  | _ => none

/-- The values that a trace writes to a register. -/
abbrev written (register : Register) (trace : Trace) : List UInt8 :=
  trace.filterMap (written? register)

theorem topic_of_written? (register : Register) {value : UInt8}
    {exchange : Exchange (Request.Answer Chipset.Request.Answer)}
    (h : written? register exchange = some value) : exchange.op.topic = .writing := by
  unfold written? at h
  split at h
  · rfl
  · cases h

/-- What writing to a register writes to one. -/
theorem written_write (register other : Register) (value : UInt8) :
    written register [⟨.controller (.write other value), ()⟩] =
      if register = other then [value] else [] := by
  show (if other = register then some value else none).toList = _
  by_cases h : register = other
  · rw [if_pos h, if_pos h.symm]
    rfl
  · rw [if_neg h, if_neg (Ne.symm h)]
    rfl

end Trace

namespace Machine

variable {α : Type} {machine : Machine} {register : Register}

/-- A register without a script shows what it holds. -/
theorem readRegister_of_script (h : machine.script register = []) :
    machine.readRegister register = (machine.registers register, machine) := by
  rw [readRegister, h]

/-! ### Scripts -/

theorem script_readRegister (h : machine.script register = []) (other : Register) :
    (machine.readRegister other).2.script register = [] := by
  rw [readRegister]
  split
  · exact h
  · next value rest hscript =>
    have hne : register ≠ other := by
      rintro rfl
      rw [h] at hscript
      cases hscript
    exact (Memory.write_of_ne _ _ hne).trans h

theorem script_query (machine : Machine) : machine.query.2.script = machine.script := by
  rw [query]
  split <;> rfl

theorem script_writePort (machine : Machine) (port : Chipset.Port) (value : UInt8) :
    (machine.writePort port value).script = machine.script := by
  rw [writePort]
  split
  · rfl
  · split <;> rfl

/-- No request gives a register a script. -/
theorem script_respond (h : machine.script register = []) (request : Request Chipset.Request) :
    (respond request machine).2.script register = [] := by
  cases request with
  | controller request =>
    cases request with
    | read other => exact script_readRegister h other
    | query => exact (congrFun (script_query machine) register).trans h
    | _ => exact h
  | chipset request =>
    cases request with
    | writePort port value =>
      exact (congrFun (script_writePort machine port value) register).trans h
    | _ => exact h
  | supply request => cases request <;> exact h
  | _ => exact h

/-- No routine gives a register a script. -/
theorem script_execute (routine : Routine α) (h : machine.script register = []) :
    (routine.execute respond machine).state.script register = [] := by
  induction routine generalizing machine with
  | done => exact h
  | ask request next ih =>
    rw [Program.execute_ask]
    exact ih _ (script_respond h request)

/-! ### Contents -/

theorem registers_readRegister (machine : Machine) (register : Register) :
    (machine.readRegister register).2.registers = machine.registers := by
  rw [readRegister]
  split <;> rfl

theorem registers_query (machine : Machine) : machine.query.2.registers = machine.registers := by
  rw [query]
  split <;> rfl

theorem registers_writePort (machine : Machine) (port : Chipset.Port) (value : UInt8) :
    (machine.writePort port value).registers = machine.registers := by
  rw [writePort]
  split
  · rfl
  · split <;> rfl

/-- A request changes what a register holds by writing to it only. -/
theorem register_respond (register : Register) (request : Request Chipset.Request)
    (machine : Machine) :
    (respond request machine).2.registers register =
      (Trace.written? register ⟨request, (respond request machine).1⟩).getD
        (machine.registers register) := by
  cases request with
  | controller request =>
    cases request with
    | read other => exact congrFun (registers_readRegister machine other) register
    | write other value =>
      show machine.registers.write other value register = (if _ then _ else none).getD _
      by_cases h : other = register
      · rw [if_pos h, h]
        exact Memory.write_same _ _ _
      · rw [if_neg h]
        exact Memory.write_of_ne _ _ (Ne.symm h)
    | query => exact congrFun (registers_query machine) register
    | _ => rfl
  | chipset request =>
    cases request with
    | writePort port value => exact congrFun (registers_writePort machine port value) register
    | _ => rfl
  | supply request => cases request <;> rfl
  | _ => rfl

/-- After a routine, a register holds what the routine wrote to it last, or what it held before. -/
theorem register_execute (register : Register) (routine : Routine α) (machine : Machine) :
    (routine.execute respond machine).state.registers register =
      (Trace.written register (routine.execute respond machine).trace).getLast?.getD
        (machine.registers register) := by
  induction routine generalizing machine with
  | done => rfl
  | ask request next ih =>
    have hfirst := register_respond register request machine
    rw [Program.execute_ask, ih, hfirst, Trace.written, Trace.written, List.filterMap_cons]
    cases Trace.written? register ⟨request, (respond request machine).1⟩ with
    | none => rfl
    | some value => simp [List.getLast?_cons]

end Machine

end LaptopDriver
