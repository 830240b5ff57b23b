import LaptopDriver.Proofs.Display.Switching

/-!
# Commands to one output do not meddle with the other

The two outputs share a pair of ports: which register of the sequencer the data port reaches depends
on the one that was selected last. A command selects its register anew before it reads and before it
writes, so a list of commands (`Command.carryOut`) is the fold of what they do to the registers,
whatever was selected before (`switches_carryOut`).

Read at the register of one output, that fold is a fold over the commands to this output alone
(`applyAll_register`). So only the order among the commands to one output matters, and not how they
are interleaved with those to the other one. In the two registers only the bits that switch an output
change (`Output.spared` are the others), and no other register does.
-/

namespace LaptopDriver.Display

open Routine

/-- The bits of an output's register that are not about switching it: bits 2 to 7 of the panel's and
bits 0 to 6 of the monitor's. -/
def Output.spared : Output → UInt8
  | lcd => 0xFC
  | crt => 0x7F

theorem Output.switched_and_spared (output : Output) (on : Bool) (contents : UInt8) :
    output.switched on contents &&& output.spared = contents &&& output.spared := by
  have hset (bits mask : UInt8) (h : bits &&& mask = 0) :
      (contents ||| bits) &&& mask = contents &&& mask := by
    rw [Command.masked_or, h, UInt8.or_zero]
  cases output with
  | lcd =>
    cases on with
    | true => exact hset 0x03 0xFC (by decide)
    | false => exact hset 0x02 0xFC (by decide)
  | crt =>
    cases on with
    | true => exact (UInt8.and_assoc _ _ _).trans (congrArg (contents &&& ·) (by decide))
    | false => exact hset 0x80 0x7F (by decide)

namespace Command

/-- Carry out commands one after the other. -/
def carryOut : List Command → Routine Unit
  | [] => pure ()
  | command :: commands => do
    command.output.switch command.on
    carryOut commands

/-- The commands to one output. -/
def only (output : Output) (commands : List Command) : List Command :=
  commands.filter (·.output = output)

/-- Whatever is selected at the start, a list of commands does to the sequencer what its commands do
one after the other. -/
theorem switches_carryOut (commands : List Command) (machine : Machine) :
    Switches commands (carryOut commands) machine := by
  induction commands generalizing machine with
  | nil => rfl
  | cons command commands ih =>
    exact (command.output.switches_switch command.on machine).bind (ih _)

/-! ### The commands to one output -/

theorem only_concat_same (commands : List Command) (command : Command) :
    only command.output (commands ++ [command]) = only command.output commands ++ [command] := by
  simp [only]

theorem only_concat_of_ne (commands : List Command) {command : Command} {output : Output}
    (h : output ≠ command.output) : only output (commands ++ [command]) = only output commands := by
  simp [only, h.symm]

/-- The last command to an output is the last one of those to it. -/
theorem last?_eq_getLast?_only (output : Output) (commands : List Command) :
    last? output commands = (only output commands).getLast?.map (·.on) := by
  induction commands using List.reverseRecOn with
  | nil => rfl
  | append_singleton commands command ih =>
    rw [last?_concat]
    by_cases h : output = command.output
    · subst h
      rw [if_pos rfl, only_concat_same, List.getLast?_concat]
      rfl
    · rw [if_neg (Ne.symm h), only_concat_of_ne commands h, ih]

variable (sequencer : Memory UInt8 UInt8)

/-- What becomes of the register of an output depends on the commands to it alone. -/
theorem applyAll_register (commands : List Command) (output : Output) :
    applyAll sequencer commands output.register =
      (only output commands).foldl (fun contents command ↦ output.switched command.on contents)
        (sequencer output.register) := by
  induction commands using List.reverseRecOn with
  | nil => rfl
  | append_singleton commands command ih =>
    rw [applyAll_concat]
    by_cases h : output = command.output
    · subst h
      rw [apply_register, ih, only_concat_same, List.foldl_append]
      rfl
    · rw [apply_register_of_ne _ h, ih, only_concat_of_ne commands h]

/-- No register but those of the outputs changes. -/
theorem applyAll_of_ne (commands : List Command) {register : UInt8}
    (h : ∀ output : Output, register ≠ output.register) :
    applyAll sequencer commands register = sequencer register := by
  induction commands using List.reverseRecOn with
  | nil => rfl
  | append_singleton commands command ih =>
    rw [applyAll_concat, apply, Memory.write_of_ne _ _ (h command.output), ih]

/-- Two lists of commands that agree on each output by itself do the same. -/
theorem applyAll_congr {first second : List Command}
    (h : ∀ output, only output first = only output second) :
    applyAll sequencer first = applyAll sequencer second := by
  funext register
  by_cases hregister : ∃ output : Output, register = output.register
  · obtain ⟨output, rfl⟩ := hregister
    rw [applyAll_register, applyAll_register, h]
  · have hother := not_exists.1 hregister
    rw [applyAll_of_ne sequencer first hother, applyAll_of_ne sequencer second hother]

/-- The spared bits of an output's register are as they were. -/
theorem applyAll_and_spared (commands : List Command) (output : Output) :
    applyAll sequencer commands output.register &&& output.spared =
      sequencer output.register &&& output.spared := by
  rw [applyAll_register]
  generalize sequencer output.register = contents
  induction only output commands generalizing contents with
  | nil => rfl
  | cons command commands ih => exact (ih _).trans (output.switched_and_spared command.on contents)

/-- What a list of commands leaves in the sequencer depends on the commands to each output by itself
and on what the sequencer held, and on nothing else: neither on how the two kinds of commands are
interleaved nor on the register that was selected. The spared bits of both registers are as they
were; bit 7 of the monitor's register is clear exactly if the last command to it, should there be
one, was to switch it on; and no other register has changed. -/
theorem sequencer_carryOut (commands : List Command) (machine : Machine) :
    let ended := ((carryOut commands).execute Machine.respond machine).state.sequencer
    (∀ (others : List Command) (other : Machine),
      (∀ output, only output others = only output commands) →
      other.sequencer = machine.sequencer →
      ((carryOut others).execute Machine.respond other).state.sequencer = ended) ∧
    (∀ output : Output, ended output.register &&& output.spared =
      machine.sequencer output.register &&& output.spared) ∧
    (∀ last ∈ (only .crt commands).getLast?,
      (ended Output.crt.register &&& 0x80 = 0 ↔ last.on = true)) ∧
    ∀ register, (∀ output : Output, register ≠ output.register) →
      ended register = machine.sequencer register := by
  intro ended
  have hended : ended = applyAll machine.sequencer commands := switches_carryOut commands machine
  refine ⟨fun others other hsame hsequencer ↦ ?_, fun output ↦ ?_, fun last hlast ↦ ?_,
    fun register hother ↦ ?_⟩
  · calc ((carryOut others).execute Machine.respond other).state.sequencer
        = applyAll other.sequencer others := switches_carryOut others other
      _ = applyAll machine.sequencer commands := by
          rw [hsequencer, applyAll_congr machine.sequencer hsame]
      _ = ended := hended.symm
  · rw [hended, applyAll_and_spared]
  · have hlit : Output.crt.lit ended = last.on := by
      rw [hended, lit_crt_applyAll, last?_eq_getLast?_only, hlast]
      rfl
    rw [← hlit, Output.lit, decide_eq_true_iff]
  · rw [hended, applyAll_of_ne machine.sequencer commands hother]

/-- The panel is switched on before two commands to the monitor, or between the two while another
register is selected. -/
theorem sequencer_carryOut_interleaved :
    let commands : List Command := [⟨.lcd, true⟩, ⟨.crt, false⟩, ⟨.crt, true⟩]
    let others : List Command := [⟨.crt, false⟩, ⟨.lcd, true⟩, ⟨.crt, true⟩]
    let machine : Machine := { sequencer := Memory.write (fun _ ↦ 0) 0x21 0x85 }
    let other : Machine := { machine with selected := 0x21 }
    let ended := ((carryOut commands).execute Machine.respond machine).state.sequencer
    (∀ output, only output others = only output commands) ∧
      ((carryOut others).execute Machine.respond other).state.sequencer = ended ∧
      ended 0x21 &&& 0x80 = 0 := by
  intro commands others machine other ended
  have hsame (output : Output) : only output others = only output commands := by
    cases output <;> rfl
  obtain ⟨hinterleaved, -, hlast, -⟩ := sequencer_carryOut commands machine
  have hclear : ended 0x21 &&& 0x80 = 0 := (hlast ⟨.crt, true⟩ rfl).2 rfl
  exact ⟨hsame, hinterleaved others other hsame rfl, hclear⟩

end Command

end LaptopDriver.Display
