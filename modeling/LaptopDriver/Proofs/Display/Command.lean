import LaptopDriver.Display.Output
import LaptopDriver.Machine.Basic
import Mathlib.Data.List.Induction

/-!
# Commands to the video outputs

A `Command` switches one output on or off, and what it does to the registers of the sequencer is a
function of them, `Command.apply`. A list of commands is therefore a fold, and what an output shows
after the fold is what this module is about:

* the monitor shows what it was last commanded, or what it showed before if it never was
  (`lit_crt_applyAll`);
* the panel is lit if it ever was: a command to switch it on lights it, and none puts it out
  (`lit_lcd_applyAll`).
-/

namespace LaptopDriver.Display

/-- Switch an output on or off. -/
structure Command where
  output : Output
  on : Bool
  deriving DecidableEq, Repr

/-- The commands that bring the two outputs to a state, the panel first. -/
def Outputs.commands (outputs : Outputs) : List Command :=
  [⟨.lcd, outputs.lcd⟩, ⟨.crt, outputs.crt⟩]

/-- Whether the sequencer has an output on: bit 0 of the panel's register lights the panel, and bit
7 of the monitor's register powers its converter down. -/
def Output.lit (output : Output) (sequencer : Memory UInt8 UInt8) : Bool :=
  match output with
  | lcd => decide (sequencer lcd.register &&& 0x01 ≠ 0)
  | crt => decide (sequencer crt.register &&& 0x80 = 0)

namespace Command

/-- The sequencer after a command. -/
def apply (sequencer : Memory UInt8 UInt8) (command : Command) : Memory UInt8 UInt8 :=
  sequencer.write command.output.register
    (command.output.switched command.on (sequencer command.output.register))

/-- The sequencer after a list of commands. -/
def applyAll (sequencer : Memory UInt8 UInt8) (commands : List Command) : Memory UInt8 UInt8 :=
  commands.foldl apply sequencer

/-- Whether an output was last commanded on or off; there is no answer if it was not commanded. -/
def last? (output : Output) (commands : List Command) : Option Bool :=
  commands.foldl (fun last command ↦ if command.output = output then some command.on else last) none

@[simp]
theorem applyAll_nil (sequencer : Memory UInt8 UInt8) : applyAll sequencer [] = sequencer :=
  rfl

theorem applyAll_append (sequencer : Memory UInt8 UInt8) (first second : List Command) :
    applyAll sequencer (first ++ second) = applyAll (applyAll sequencer first) second :=
  List.foldl_append

theorem applyAll_concat (sequencer : Memory UInt8 UInt8) (commands : List Command)
    (command : Command) :
    applyAll sequencer (commands ++ [command]) = apply (applyAll sequencer commands) command :=
  applyAll_append sequencer commands [command]

theorem last?_concat (output : Output) (commands : List Command) (command : Command) :
    last? output (commands ++ [command]) =
      if command.output = output then some command.on else last? output commands :=
  List.foldl_append

/-! ### One command -/

theorem register_ne {first second : Output} (h : first ≠ second) :
    first.register ≠ second.register := by
  cases first <;> cases second <;> first | exact absurd rfl h | decide

theorem apply_register (sequencer : Memory UInt8 UInt8) (command : Command) :
    apply sequencer command command.output.register =
      command.output.switched command.on (sequencer command.output.register) :=
  Memory.write_same _ _ _

/-- A command to one output leaves the register of the other one alone. -/
theorem apply_register_of_ne (sequencer : Memory UInt8 UInt8) {command : Command}
    {output : Output} (h : output ≠ command.output) :
    apply sequencer command output.register = sequencer output.register :=
  Memory.write_of_ne _ _ (register_ne h)

theorem lit_apply_of_ne (sequencer : Memory UInt8 UInt8) {command : Command} {output : Output}
    (h : output ≠ command.output) :
    output.lit (apply sequencer command) = output.lit sequencer := by
  cases output with
  | lcd => rw [Output.lit, Output.lit, apply_register_of_ne sequencer h]
  | crt => rw [Output.lit, Output.lit, apply_register_of_ne sequencer h]

theorem masked_or (contents bits mask : UInt8) :
    (contents ||| bits) &&& mask = (contents &&& mask) ||| (bits &&& mask) :=
  UInt8.toBitVec_inj.1 BitVec.and_or_distrib_right

/-- A masked byte is zero after bits were set in it if it was before and none of the bits is under
the mask. -/
theorem masked_or_eq_zero_iff (contents bits mask : UInt8) :
    (contents ||| bits) &&& mask = 0 ↔ contents &&& mask = 0 ∧ bits &&& mask = 0 := by
  rw [masked_or]
  exact UInt8.or_eq_zero_iff

/-- The monitor follows its commands. -/
theorem lit_crt_apply (sequencer : Memory UInt8 UInt8) (on : Bool) :
    Output.crt.lit (apply sequencer ⟨.crt, on⟩) = on := by
  rw [Output.lit, apply_register sequencer ⟨.crt, on⟩]
  generalize sequencer Output.crt.register = contents
  cases on with
  | true =>
    have hbit : (contents &&& ~~~0x80) &&& 0x80 = 0 := by
      rw [UInt8.and_assoc]
      exact UInt8.and_zero
    exact decide_eq_true hbit
  | false =>
    refine decide_eq_false fun hbit ↦ ?_
    obtain ⟨-, hzero⟩ := (masked_or_eq_zero_iff contents 0x80 0x80).1 hbit
    exact absurd hzero (by decide)

/-- The panel follows a command to light up, and ignores one to go out. -/
theorem lit_lcd_apply (sequencer : Memory UInt8 UInt8) (on : Bool) :
    Output.lcd.lit (apply sequencer ⟨.lcd, on⟩) = (Output.lcd.lit sequencer || on) := by
  rw [Output.lit, Output.lit, apply_register sequencer ⟨.lcd, on⟩]
  generalize sequencer Output.lcd.register = contents
  cases on with
  | true =>
    rw [Bool.or_true]
    refine decide_eq_true fun hbit ↦ ?_
    obtain ⟨-, hzero⟩ := (masked_or_eq_zero_iff contents 0x03 0x01).1 hbit
    exact absurd hzero (by decide)
  | false =>
    -- The bit that is set lies next to the one that lights the panel.
    rw [Bool.or_false]
    refine decide_eq_decide.2 (not_congr ?_)
    exact (masked_or_eq_zero_iff contents 0x02 0x01).trans (and_iff_left (by decide))

/-! ### Lists of commands -/

/-- The monitor shows what it was last commanded. -/
theorem lit_crt_applyAll (sequencer : Memory UInt8 UInt8) (commands : List Command) :
    Output.crt.lit (applyAll sequencer commands) =
      (last? .crt commands).getD (Output.crt.lit sequencer) := by
  induction commands using List.reverseRecOn with
  | nil => rfl
  | append_singleton commands command ih =>
    rw [applyAll_concat, last?_concat]
    obtain ⟨output, on⟩ := command
    cases output with
    | crt => exact lit_crt_apply _ on
    | lcd =>
      have hne : Output.crt ≠ Output.lcd := by decide
      rw [lit_apply_of_ne _ hne, ih]
      rfl

/-- The panel is lit if it was lit before or was ever commanded on. -/
theorem lit_lcd_applyAll (sequencer : Memory UInt8 UInt8) (commands : List Command) :
    Output.lcd.lit (applyAll sequencer commands) =
      (Output.lcd.lit sequencer || decide (⟨.lcd, true⟩ ∈ commands)) := by
  induction commands using List.reverseRecOn with
  | nil => simp
  | append_singleton commands command ih =>
    rw [applyAll_concat]
    obtain ⟨output, on⟩ := command
    cases output with
    | crt =>
      have hne : Output.lcd ≠ Output.crt := by decide
      rw [lit_apply_of_ne _ hne, ih]
      simp
    | lcd =>
      rw [lit_lcd_apply, ih, Bool.or_assoc]
      cases on <;> simp

/-- A last command is one of the commands. -/
theorem mem_of_last? {output : Output} {commands : List Command} {on : Bool}
    (h : last? output commands = some on) : ⟨output, on⟩ ∈ commands := by
  induction commands using List.reverseRecOn with
  | nil => cases h
  | append_singleton commands command ih =>
    rw [last?_concat] at h
    split at h
    case isTrue houtput =>
      obtain rfl := Option.some.inj h
      subst houtput
      exact List.mem_concat_self
    case isFalse => exact List.mem_append_left _ (ih h)

end Command

end LaptopDriver.Display
