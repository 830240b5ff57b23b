import LaptopDriver.Proofs.Display.Switching
import LaptopDriver.Proofs.Hotkey.Accounting

/-!
# What the outputs show after a run

A command to an output is meant to be followed. Over a whole run, from any contents of the
sequencer, the monitor's output does so: it shows what it was last commanded. The panel does not.
Switching it off sets a bit next to the one that lights it and clears neither, so a panel that was
ever lit stays lit. The main statement gives the exact condition under which the panel shows its
last command, and with it the condition under which the outputs agree with the mode that an accepted
press of the rotation key leaves remembered.
-/

namespace LaptopDriver

open Controller Display Hotkey

/-- Nothing but the driver writes to the sequencer. -/
def Step.KeepsSequencer (step : Step Machine) : Prop :=
  ∀ machine, (step.change machine).sequencer = machine.sequencer

namespace Transition

/-- The commands that a transition gives to the video outputs. -/
def commands (transition : OnMachine) : List Command :=
  transition.step.operation.commands transition.laptop transition.started

/-- The transition serves the rotation key, and a monitor is attached. -/
def AcceptedPress (transition : OnMachine) : Prop :=
  transition.servedCode? = some Event.videoSwitch.code ∧
    transition.started.query.2.shown .crtDetect = 1

/-- The mode that is remembered after a transition. -/
def mode? (transition : OnMachine) : Option VideoMode :=
  transition.stage.laptop.bind (·.history.videoMode)

end Transition

/-- After a run, an output shows what it was last commanded. -/
def ShowsLastCommand (output : Output) (steps : List (Step Machine)) (laptop : Option Laptop)
    (machine : Machine) : Prop :=
  let history := transitions Machine.executor steps laptop machine
  ∀ on, Command.last? output (history.flatMap Transition.commands) = some on →
    output.lit (hardwareAfter machine history).sequencer = on

/-! ### The sequencer after a run -/

/-- A step leaves the sequencer as its commands do. -/
theorem Step.sequencer_transition {step : Step Machine} (h : step.KeepsSequencer)
    (laptop : Option Laptop) (machine : Machine) :
    (step.transition Machine.executor laptop machine).stage.hardware.sequencer =
      Command.applyAll machine.sequencer
        (step.transition Machine.executor laptop machine).commands := by
  rw [← h machine]
  exact step.operation.switches_perform laptop (step.change machine)

/-- A run leaves the sequencer as its commands do, one after the other. -/
theorem sequencer_hardwareAfter {steps : List (Step Machine)}
    (hsteps : ∀ step ∈ steps, step.KeepsSequencer) (laptop : Option Laptop) (machine : Machine) :
    let history := transitions Machine.executor steps laptop machine
    (hardwareAfter machine history).sequencer =
      Command.applyAll machine.sequencer (history.flatMap Transition.commands) := by
  induction steps generalizing laptop machine with
  | nil => rfl
  | cons step steps ih =>
    obtain ⟨hstep, hsteps⟩ := List.forall_mem_cons.1 hsteps
    intro history
    rw [show history = _ from transitions_cons _ _ _ _ _, List.flatMap_cons,
      Command.applyAll_append, ← step.sequencer_transition hstep]
    exact ih hsteps _ _

/-! ### Accepted presses -/

/-- While a monitor is attached, the rotation goes on by one mode, which is remembered. -/
theorem value_rotateOutputs (history : History) {machine : Machine}
    (h : machine.shown .crtDetect = 1) :
    ((rotateOutputs history).execute Machine.respond machine).value.history =
      { history with videoMode := some (VideoMode.next history.videoMode) } := by
  rw [rotateOutputs, Program.execute_bind, execute_read, if_pos h]
  rfl

theorem value_respond_videoSwitch (history : History) {machine : Machine}
    (h : machine.shown .crtDetect = 1) :
    ((respond .videoSwitch history).execute Machine.respond machine).value =
      { history with videoMode := some (VideoMode.next history.videoMode) } := by
  rw [value_respond]
  exact value_rotateOutputs history h

/-- An accepted press moves on to a mode, remembers it and commands its outputs. -/
theorem Step.mode_of_acceptedPress (step : Step Machine) (laptop : Option Laptop)
    (machine : Machine)
    (h : (step.transition Machine.executor laptop machine).AcceptedPress) :
    let press := step.transition Machine.executor laptop machine
    ∃ mode, press.mode? = some mode ∧ press.commands = mode.outputs.commands := by
  obtain ⟨hserved, hdetected⟩ := h
  obtain ⟨hpurpose, hcode⟩ := Transition.servedCode?_eq_some_iff.1 hserved
  obtain ⟨hoperation, loaded, rfl⟩ := Operation.queryPurpose?_eq_serve_iff.1 hpurpose
  obtain ⟨change, operation⟩ := step
  obtain rfl : operation = .interrupt interruptNumber := hoperation
  replace hcode : (change machine).nextCode? = some Event.videoSwitch.code := hcode
  replace hdetected : (change machine).query.2.shown .crtDetect = 1 := hdetected
  refine ⟨VideoMode.next loaded.history.videoMode, ?_, ?_⟩
  · have hvalue := loaded.value_perform_interrupt interruptNumber (change machine)
    have hhistory := value_interrupt hcode loaded.history
    rw [value_respond_videoSwitch loaded.history hdetected] at hhistory
    have hlaptop : (Step.transition Machine.executor ⟨change, .interrupt interruptNumber⟩
        (some loaded) machine).stage.laptop = some _ := congrArg Prod.snd hvalue
    rw [Transition.mode?, hlaptop, Option.bind_some, hhistory]
  · show loaded.commands (.interrupt interruptNumber) (change machine) = _
    rw [Laptop.commands, if_pos rfl, hcode, Option.bind_some, Event.ofCode?_code]
    exact if_pos hdetected

/-! ### The outputs -/

/-- The panel was unlit before the commands, and none of them lights it. -/
def NeverLit (machine : Machine) (commands : List Command) : Prop :=
  Output.lcd.lit machine.sequencer = false ∧ ⟨.lcd, true⟩ ∉ commands

/-- A panel that was last commanded on shows it; one that was last commanded off shows it if it was
never lit. -/
theorem lit_lcd_eq_iff {machine : Machine} {commands : List Command} {on : Bool}
    (hlast : Command.last? .lcd commands = some on) :
    Output.lcd.lit (Command.applyAll machine.sequencer commands) = on ↔
      (on = false → NeverLit machine commands) := by
  rw [Command.lit_lcd_applyAll]
  have hmem := Command.mem_of_last? hlast
  cases on with
  | true => simp [hmem]
  | false => simp [NeverLit]

theorem last?_append_outputs (commands : List Command) (outputs : Outputs) :
    Command.last? .lcd (commands ++ outputs.commands) = some outputs.lcd ∧
      Command.last? .crt (commands ++ outputs.commands) = some outputs.crt := by
  unfold Command.last?
  rw [List.foldl_append, List.foldl_append]
  exact ⟨rfl, rfl⟩

/-- After any run the monitor's output shows its last command. The panel does so exactly if it was
commanded on, or was never lit; and under the same condition the outputs are those of the mode that
an accepted press at the end of the run leaves remembered. -/
theorem showsLastCommand_iff (steps : List (Step Machine))
    (hsteps : ∀ step ∈ steps, step.KeepsSequencer) (laptop : Option Laptop) (machine : Machine) :
    let history := transitions Machine.executor steps laptop machine
    let commands := history.flatMap Transition.commands
    let sequencer := (hardwareAfter machine history).sequencer
    ShowsLastCommand .crt steps laptop machine ∧
    (ShowsLastCommand .lcd steps laptop machine ↔
      (Command.last? .lcd commands = some false → NeverLit machine commands)) ∧
    (∀ press ∈ history.getLast?, press.AcceptedPress →
      ∃ mode, press.mode? = some mode ∧ press.commands = mode.outputs.commands ∧
        (Outputs.mk (Output.lcd.lit sequencer) (Output.crt.lit sequencer) = mode.outputs ↔
          (mode.outputs.lcd = false → NeverLit machine commands))) := by
  intro history commands sequencer
  have hsequencer : sequencer = Command.applyAll machine.sequencer commands :=
    sequencer_hardwareAfter hsteps laptop machine
  have hcrt : ∀ on, Command.last? .crt commands = some on → Output.crt.lit sequencer = on := by
    intro on hlast
    rw [hsequencer, Command.lit_crt_applyAll, hlast]
    rfl
  have hlcd : ∀ on, Command.last? .lcd commands = some on →
      (Output.lcd.lit sequencer = on ↔ (on = false → NeverLit machine commands)) := by
    intro on hlast
    rw [hsequencer]
    exact lit_lcd_eq_iff hlast
  refine ⟨hcrt, ⟨fun h hlast ↦ ?_, fun h on hlast ↦ ?_⟩, fun press hpress haccepted ↦ ?_⟩
  · exact (hlcd false hlast).1 (h false hlast) rfl
  · refine (hlcd on hlast).2 fun hoff ↦ h ?_
    rw [hlast, hoff]
  · -- The commands of the press are the last ones of the run, so each output was last commanded to
    -- what the mode says about it.
    obtain ⟨before, hhistory⟩ := List.getLast?_eq_some_iff.1 hpress
    have hmode := forall_transitions (P := fun transition ↦ transition.AcceptedPress →
      ∃ mode, transition.mode? = some mode ∧ transition.commands = mode.outputs.commands)
      Machine.executor (fun step (_ : step ∈ steps) ↦ step.mode_of_acceptedPress) laptop machine
    obtain ⟨mode, hremembered, houtputs⟩ := hmode press (List.mem_of_getLast? hpress) haccepted
    have hcommands : commands = before.flatMap Transition.commands ++ mode.outputs.commands := by
      rw [show commands = history.flatMap Transition.commands from rfl, hhistory,
        List.flatMap_append, List.flatMap_singleton, houtputs]
    obtain ⟨hlastlcd, hlastcrt⟩ :=
      last?_append_outputs (before.flatMap Transition.commands) mode.outputs
    rw [← hcommands] at hlastlcd hlastcrt
    refine ⟨mode, hremembered, houtputs, ?_⟩
    rw [← hlcd _ hlastlcd, hcrt _ hlastcrt]
    constructor
    · intro h
      exact congrArg Outputs.lcd h
    · intro h
      rw [h]

/-- A freshly loaded driver on a machine whose panel is unlit, with a monitor attached: the first
press of the rotation key brings both outputs up, as it should. -/
theorem showsLastCommand_iff_first_press :
    let machine : Machine :=
      { registers := Memory.write (fun _ ↦ 0) .crtDetect 1, pending := [.ok 0x00, .ok 0x24] }
    let steps : List (Step Machine) := [⟨id, .load { }⟩, ⟨id, .interrupt 10⟩]
    let history := transitions Machine.executor steps none machine
    let sequencer := (hardwareAfter machine history).sequencer
    ShowsLastCommand .crt steps none machine ∧ ShowsLastCommand .lcd steps none machine ∧
      ∃ press ∈ history.getLast?, press.AcceptedPress ∧ press.mode? = some .bothOn ∧
        Outputs.mk (Output.lcd.lit sequencer) (Output.crt.lit sequencer) = ⟨true, true⟩ := by
  intro machine steps history sequencer
  have hsteps : ∀ step ∈ steps, step.KeepsSequencer := by
    simp only [steps, List.forall_mem_cons]
    exact ⟨fun _ ↦ rfl, fun _ ↦ rfl, by simp⟩
  obtain ⟨hcrt, hlcd, hpress⟩ := showsLastCommand_iff steps hsteps none machine
  let loaded := Step.execute Machine.executor ⟨id, .load { }⟩ none machine
  let press := Step.transition Machine.executor ⟨id, .interrupt 10⟩ loaded.laptop loaded.hardware
  have hlast : press ∈ history.getLast? := rfl
  have haccepted : press.AcceptedPress := ⟨by decide +kernel, by decide +kernel⟩
  obtain ⟨mode, hmode, -, houtputs⟩ := hpress press hlast haccepted
  have hbothOn : press.mode? = some .bothOn := by decide +kernel
  obtain rfl : mode = .bothOn := Option.some.inj (hmode.symm.trans hbothOn)
  refine ⟨hcrt, hlcd.2 fun hoff ↦ absurd hoff (by decide +kernel), press, hlast, haccepted, hbothOn,
    houtputs.2 fun hoff ↦ ?_⟩
  cases hoff

/-- A run of two presses of the rotation key with a monitor attached: the second press leads to the
monitor alone, but the panel stays lit. -/
theorem not_showsLastCommand_lcd :
    ¬∀ (output : Output) (steps : List (Step Machine)) (laptop : Option Laptop)
      (machine : Machine), (∀ step ∈ steps, step.KeepsSequencer) →
      ShowsLastCommand output steps laptop machine := by
  intro h
  let machine : Machine :=
    { registers := Memory.write (fun _ ↦ 0) .crtDetect 1
      pending := [.ok 0x00, .ok 0x24, .ok 0x24] }
  let steps : List (Step Machine) :=
    [⟨id, .load { }⟩, ⟨id, .interrupt 10⟩, ⟨id, .interrupt 10⟩]
  have hsteps : ∀ step ∈ steps, step.KeepsSequencer := by
    simp only [steps, List.forall_mem_cons]
    exact ⟨fun _ ↦ rfl, fun _ ↦ rfl, fun _ ↦ rfl, by simp⟩
  have hlit := h .lcd steps none machine hsteps false (by decide +kernel)
  exact absurd hlit (by decide +kernel)

end LaptopDriver
