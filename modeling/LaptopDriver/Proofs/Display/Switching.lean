import LaptopDriver.Proofs.Display.Command
import LaptopDriver.Proofs.Hotkey.Consumption

/-!
# When the video outputs are commanded

Five occasions command the video outputs: the key that cycles through them while a monitor is
attached, a monitor that comes or goes, the panel key on firmware that leaves the panel to the
driver, a sleep, and waking up from it. What each commands is a function of the driver and of the
machine (`Laptop.commands`), and `Operation.switches_perform` says that this function is the whole
truth: an operation leaves the sequencer as these commands do, one after the other, and as nothing
else does.
-/

namespace LaptopDriver

open Controller Display Hotkey

namespace Machine

/-- What a register shows when it is read next. -/
def shown (machine : Machine) (register : Register) : UInt8 :=
  (machine.readRegister register).1

/-- Whether the firmware of the machine is older than a version. -/
def olderThan (machine : Machine) (version : FirmwareVersion) : Bool :=
  decide (machine.version.getD .unnamed < version)

end Machine

/-- The commands that go with an event. -/
def Hotkey.Event.commands (event : Event) (history : History) (machine : Machine) : List Command :=
  match event with
  | videoSwitch =>
    if machine.shown .crtDetect = 1 then (VideoMode.next history.videoMode).outputs.commands else []
  | monitor => Outputs.commands ⟨true, decide (machine.shown .crtDetect ≠ 0)⟩
  | panelToggle =>
    if machine.olderThan .switchesPanelOnKey then
      [⟨.lcd, decide (machine.shown .displayLcd ≠ 0)⟩]
    else []
  | _ => []

/-- The commands of serving a number that names an event or none. -/
def Hotkey.servingCommands (event? : Option Event) (history : History) (machine : Machine) :
    List Command :=
  match event? with
  | some event => event.commands history machine
  | none => []

/-- The commands of a sleep, and of waking up from it. -/
def Machine.sleepCommands (machine : Machine) (on : Bool) : List Command :=
  (if machine.olderThan .switchesPanelOnSuspend then [⟨.lcd, on⟩] else []) ++ [⟨.crt, on⟩]

/-- The commands of an operation on a loaded driver. -/
def Laptop.commands (laptop : Laptop) (operation : Operation) (machine : Machine) : List Command :=
  match operation with
  | .interrupt number =>
    if number = interruptNumber then
      servingCommands (machine.nextCode?.bind Event.ofCode?) laptop.history machine.query.2
    else []
  | .suspend => machine.sleepCommands false
  | .resume => machine.sleepCommands true
  | _ => []

/-- The commands of an operation. -/
def Operation.commands (operation : Operation) (laptop : Option Laptop) (machine : Machine) :
    List Command :=
  match laptop with
  | some laptop => laptop.commands operation machine
  | none => []

namespace Routine

variable {α β : Type}

/-- Run on `machine`, the routine leaves the sequencer as the commands do. -/
def Switches (commands : List Command) (routine : Routine α) (machine : Machine) : Prop :=
  (routine.execute Machine.respond machine).state.sequencer =
    Command.applyAll machine.sequencer commands

theorem Within.switches {topics : List Topic} {routine : Routine α} (h : Within topics routine)
    (machine : Machine) (hport : Topic.port ∉ topics) : Switches [] routine machine :=
  h.sequencer_eq hport machine

theorem Switches.bind {first second : List Command} {routine : Routine α} {next : α → Routine β}
    {machine : Machine} (h : Switches first routine machine)
    (hnext : Switches second (next (routine.execute Machine.respond machine).value)
      (routine.execute Machine.respond machine).state) :
    Switches (first ++ second) (routine >>= next) machine := by
  rw [Switches, Program.execute_bind, Command.applyAll_append, ← h]
  exact hnext

/-- What comes after the commands switches nothing. -/
theorem Switches.bind_quiet {commands : List Command} {routine : Routine α} {next : α → Routine β}
    {machine : Machine} (h : Switches commands routine machine)
    (hnext : ∀ value machine, Switches [] (next value) machine) :
    Switches commands (routine >>= next) machine := by
  rw [← List.append_nil commands]
  exact h.bind (hnext _ _)

/-- What comes before the commands switches nothing. -/
theorem Switches.quiet_bind {commands : List Command} {routine : Routine α} {next : α → Routine β}
    {machine : Machine} (h : Switches [] routine machine)
    (hnext : Switches commands (next (routine.execute Machine.respond machine).value)
      (routine.execute Machine.respond machine).state) :
    Switches commands (routine >>= next) machine :=
  h.bind hnext

end Routine

open Routine

/-! ### Outputs -/

namespace Display

theorem Output.switches_switch (output : Output) (on : Bool) (machine : Machine) :
    Switches [⟨output, on⟩] (output.switch on) machine :=
  rfl

theorem Outputs.switches_switch (outputs : Outputs) (machine : Machine) :
    Switches outputs.commands outputs.switch machine :=
  (Output.switches_switch .lcd outputs.lcd machine).bind (Output.switches_switch _ _ _)

end Display

/-! ### Events -/

namespace Hotkey

/-- Reading a register answers what it shows. -/
theorem execute_read (register : Register) (machine : Machine) :
    ((Routine.read register).execute Machine.respond machine).value = machine.shown register :=
  rfl

theorem execute_olderThan (version : FirmwareVersion) (machine : Machine) :
    ((Routine.olderThan version).execute Machine.respond machine).value =
      machine.olderThan version :=
  rfl

theorem switches_rotateOutputs (history : History) (machine : Machine) :
    Switches (Event.videoSwitch.commands history machine) (rotateOutputs history) machine := by
  refine ((within_read .crtDetect).switches machine (by simp)).quiet_bind ?_
  rw [execute_read, Event.commands]
  by_cases hdetected : machine.shown .crtDetect = 1
  · rw [if_pos hdetected, if_pos hdetected]
    exact (Outputs.switches_switch _ _).bind_quiet fun _ _ ↦ rfl
  · rw [if_neg hdetected, if_neg hdetected]
    rfl

theorem decide_toNat_ne_zero (byte : UInt8) :
    decide ((byte.toNat : Int) ≠ 0) = decide (byte ≠ 0) := by
  refine decide_eq_decide.2 (not_congr ?_)
  rw [Int.natCast_eq_zero, ← UInt8.toNat_inj]
  rfl

/-- The value that goes with an event is zero exactly if its register shows zero. -/
theorem decide_value_ne_zero (event : Event) {register : Register}
    (h : event.register? = some register) (machine : Machine) :
    decide ((event.value.execute Machine.respond machine).value ≠ 0) =
      decide (machine.shown register ≠ 0) := by
  rw [Event.value, h]
  exact decide_toNat_ne_zero _

theorem switches_evaluate_monitor (history : History) (machine : Machine) :
    Switches (Event.monitor.commands history machine) (Event.monitor.evaluate history) machine := by
  refine Switches.quiet_bind (Event.monitor.within_value.switches machine (by simp)) ?_
  rw [Event.commands, ← decide_value_ne_zero .monitor rfl]
  exact (Outputs.switches_switch _ _).bind_quiet fun _ _ ↦ rfl

/-- Reading the panel's register does not change the firmware. -/
theorem olderThan_value_panelToggle (version : FirmwareVersion) (machine : Machine) :
    (Event.panelToggle.value.execute Machine.respond machine).state.olderThan version =
      machine.olderThan version := by
  have hstate : (Event.panelToggle.value.execute Machine.respond machine).state =
      (machine.readRegister .displayLcd).2 := rfl
  rw [hstate, Machine.readRegister]
  split <;> rfl

theorem switches_evaluate_panelToggle (history : History) (machine : Machine) :
    Switches (Event.panelToggle.commands history machine) (Event.panelToggle.evaluate history)
      machine := by
  refine Switches.quiet_bind (Event.panelToggle.within_value.switches machine (by simp)) ?_
  rw [Event.commands, ← decide_value_ne_zero .panelToggle rfl,
    ← olderThan_value_panelToggle]
  refine ((within_olderThan _).switches _ (by simp)).quiet_bind ?_
  rw [execute_olderThan]
  split
  · exact (Output.switches_switch _ _ _).bind_quiet fun _ _ ↦ rfl
  · rfl

/-- An event leaves the sequencer as its commands do. -/
theorem switches_evaluate (event : Event) (history : History) (machine : Machine) :
    Switches (event.commands history machine) (event.evaluate history) machine := by
  have hwithin := event.within_evaluate history
  cases event with
  | videoSwitch => exact switches_rotateOutputs history machine
  | monitor => exact switches_evaluate_monitor history machine
  | panelToggle => exact switches_evaluate_panelToggle history machine
  | usbOverCurrent port => exact hwithin.switches machine (by cases port <;> decide)
  | _ => exact hwithin.switches machine (by decide)

theorem switches_respond (event : Event) (history : History) (machine : Machine) :
    Switches (event.commands history machine) (respond event history) machine := by
  rw [respond_eq]
  refine (switches_evaluate event history machine).bind_quiet fun evaluation machine ↦ ?_
  refine ((within_log _).switches machine (by simp)).bind_quiet fun _ machine ↦ ?_
  exact ((event.within_report _ _).switches machine (by simp)).bind_quiet fun _ _ ↦ rfl

/-- Serving a number leaves the sequencer as the commands of its event do. -/
theorem switches_serve (code : UInt8) (history : History) (machine : Machine) :
    Switches (servingCommands (Event.ofCode? code) history machine) (serve code history)
      machine := by
  by_cases hrange : Event.InRange code
  · rcases Event.inRange_iff.1 hrange with rfl | ⟨event, rfl⟩
    · rfl
    · rw [serve_code, Event.ofCode?_code]
      exact (switches_respond event history machine).bind_quiet fun _ _ ↦ rfl
  · rw [serve_of_not_inRange hrange, Event.ofCode?_eq_none_of_not_inRange hrange]
    rfl

theorem switches_interrupt (history : History) (machine : Machine) :
    Switches
      (servingCommands (machine.nextCode?.bind Event.ofCode?) history machine.query.2)
      (interrupt interruptNumber history) machine := by
  rw [Machine.nextCode?]
  cases h : machine.query.1 with
  | error fault =>
    rw [Switches, execute_interrupt_error h]
    exact Machine.sequencer_query machine
  | ok =>
    have hserve := switches_serve machine.query.2.latch history machine.query.2
    rw [Switches, Machine.sequencer_query] at hserve
    rw [Switches, execute_interrupt_ok h]
    exact hserve

end Hotkey

/-! ### Operations -/

namespace Laptop

theorem switches_switchDevices (on : Bool) (machine : Machine) :
    Switches (machine.sleepCommands on) (switchDevices on) machine := by
  have hpanel : Switches
      (if machine.olderThan .switchesPanelOnSuspend then [⟨.lcd, on⟩] else []) (switchPanel on)
      machine := by
    refine ((within_olderThan _).switches machine (by simp)).quiet_bind ?_
    rw [execute_olderThan]
    split
    · exact Output.switches_switch _ _ _
    · rfl
  refine hpanel.bind ?_
  refine (Output.switches_switch _ _ _).bind_quiet fun _ machine ↦ ?_
  refine ((within_switchUsbPorts on).switches machine (by simp)).bind_quiet fun _ machine ↦ ?_
  exact (within_switchWireless on).switches machine (by simp)

end Laptop

/-- An operation leaves the sequencer as its commands do. -/
theorem Operation.switches_perform (operation : Operation) (laptop : Option Laptop)
    (machine : Machine) :
    Switches (operation.commands laptop machine) (operation.perform laptop) machine := by
  have hwithin := operation.within_perform laptop
  cases laptop with
  | none =>
    cases operation with
    | load settings => exact hwithin.switches machine (by simp)
    | _ => rfl
  | some laptop =>
    cases operation with
    | interrupt number =>
      by_cases hnumber : number = interruptNumber
      · subst hnumber
        exact (Hotkey.switches_interrupt laptop.history machine).bind_quiet fun _ _ ↦ rfl
      · rw [commands, Laptop.commands, if_neg hnumber, perform, Laptop.perform,
          interrupt_of_ne hnumber]
        rfl
    | suspend => exact (Laptop.switches_switchDevices false machine).bind_quiet fun _ _ ↦ rfl
    | resume =>
      refine Switches.bind_quiet ?_ fun answer machine ↦ by cases answer <;> rfl
      refine (Laptop.switches_switchDevices true machine).bind_quiet fun _ machine ↦ ?_
      have hrearm := (InterruptLine.within_rearm laptop.settings.settleTime).switches
      refine (hrearm _ (by simp)).bind_quiet fun answer machine ↦ ?_
      cases answer <;> rfl
    -- Every other operation is off the ports.
    | _ => exact hwithin.switches machine (by simp)

end LaptopDriver
