import LaptopDriver.Proofs.Display.Switching
import LaptopDriver.Proofs.InterruptLine.Agreement
import LaptopDriver.Proofs.Machine.Modify

/-!
# What a machine holds over a sleep

A sleep, and waking up from it, change what a machine holds: the registers of the controller, those
of the sequencer and which of them is selected, and the model-specific registers. `Machine.Held` is
that part of a machine, together with the version of the firmware, which decides whether the panel is
switched as well. What switching the devices and routing the interrupt line do to it are functions of
it alone (`held_switchDevices`, `held_rearm`).

Switching the devices on makes up for whatever they were switched to before (`switched_switched`),
and routing the line twice is routing it once (`routed_routed`). So a machine that wakes up holds the
same no matter which sleeps and wakings came before (`woken_switched`, `woken_woken`).
-/

namespace LaptopDriver

open Controller Chipset Display InterruptLine

/-! ### Bits that are set or cleared again -/

namespace Display.Output

/-- Switching an output on makes up for switching it before. -/
theorem switched_switched (output : Output) (on : Bool) (contents : UInt8) :
    output.switched true (output.switched on contents) = output.switched true contents := by
  cases output with
  | lcd => cases on <;> exact UInt8.or_assoc contents _ _
  | crt =>
    cases on with
    | true => exact UInt8.and_assoc contents _ _
    | false => exact (Command.masked_or contents 0x80 (~~~0x80)).trans UInt8.or_zero

end Display.Output

namespace Chipset.MsrContents

theorem clearLow_clearLow (contents : MsrContents) (bits : UInt32) :
    (contents.clearLow bits).clearLow bits = contents.clearLow bits := by
  rw [clearLow, clearLow, UInt32.and_assoc, UInt32.and_self]

theorem setLow_setLow (contents : MsrContents) (bits : UInt32) :
    (contents.setLow bits).setLow bits = contents.setLow bits := by
  rw [setLow, setLow, UInt32.or_assoc, UInt32.or_self]

end Chipset.MsrContents

/-- A loaded driver that is put to sleep switches the devices off, and that is all. -/
theorem Laptop.execute_suspend (laptop : Laptop) (machine : Machine) :
    let switched := (switchDevices false).execute Machine.respond machine
    (laptop.perform .suspend).execute Machine.respond machine =
      ⟨(.done, some laptop), switched.state, switched.trace⟩ := by
  rw [perform, suspend, Program.execute_bind, Program.pure_eq_done, Program.execute_done,
    List.append_nil]

namespace Machine

/-- What a machine holds over a sleep. -/
structure Held where
  /-- The registers of the controller. -/
  registers : Memory Register UInt8
  /-- The sequencer register that is selected. -/
  selected : UInt8
  /-- The registers of the sequencer. -/
  sequencer : Memory UInt8 UInt8
  /-- The model-specific registers. -/
  msrs : Memory MsrNumber MsrContents
  /-- The version of the firmware. -/
  version : Option FirmwareVersion

def held (machine : Machine) : Held :=
  { registers := machine.registers
    selected := machine.selected
    sequencer := machine.sequencer
    msrs := machine.msrs
    version := machine.version }

namespace Held

/-- The outputs that are switched for a sleep. -/
def outputs (held : Held) : List Output :=
  if held.version.getD .unnamed < .switchesPanelOnSuspend then [.lcd, .crt] else [.crt]

/-- What switching the devices writes to the registers of the controller. -/
def deviceChanges (on : Bool) : List (Register × (UInt8 → UInt8)) :=
  [.usb0Flag, .usb1Flag, .usb2Flag, .wlan].map fun register ↦
    (register, fun _ ↦ Laptop.switchValue on)

/-- What switching outputs does to the registers of the sequencer. -/
def outputChanges (outputs : List Output) (on : Bool) : List (UInt8 × (UInt8 → UInt8)) :=
  outputs.map fun output ↦ (output.register, output.switched on)

/-- What routing the line does to the model-specific registers. -/
def routingChanges : List (MsrNumber × (MsrContents → MsrContents)) :=
  [(primaryRouting, (·.clearLow virtualLine)), (busRouting, (·.clearLow virtualLine)),
    (groupSelect, (·.setLow interruptGroup))]

/-- Switching the devices on repeats the changes of switching them before. -/
theorem absorbs_deviceChanges (on : Bool) :
    List.Forall₂ Memory.Absorbs (deviceChanges on) (deviceChanges true) :=
  List.forall₂_map_left_iff.2 <| List.forall₂_map_right_iff.2 <| List.forall₂_same.2
    fun _ _ ↦ ⟨rfl, fun _ ↦ rfl⟩

theorem absorbs_outputChanges (outputs : List Output) (on : Bool) :
    List.Forall₂ Memory.Absorbs (outputChanges outputs on) (outputChanges outputs true) :=
  List.forall₂_map_left_iff.2 <| List.forall₂_map_right_iff.2 <| List.forall₂_same.2
    fun output _ ↦ ⟨rfl, output.switched_switched on⟩

theorem nodup_outputs (held : Held) :
    ((outputChanges held.outputs true).map Prod.fst).Nodup := by
  unfold outputs
  split <;> decide

theorem absorbs_routingChanges : List.Forall₂ Memory.Absorbs routingChanges routingChanges :=
  .cons ⟨rfl, fun contents ↦ contents.clearLow_clearLow virtualLine⟩ <|
    .cons ⟨rfl, fun contents ↦ contents.clearLow_clearLow virtualLine⟩ <|
      .cons ⟨rfl, fun contents ↦ contents.setLow_setLow interruptGroup⟩ .nil

/-- What is held after an output was switched. -/
def switchOutput (on : Bool) (held : Held) (output : Output) : Held :=
  { held with
    selected := output.register
    sequencer := held.sequencer.modify output.register (output.switched on) }

/-- What is held after the devices were switched. -/
def switched (on : Bool) (held : Held) : Held :=
  { held with
    registers := held.registers.modifyAll (deviceChanges on)
    selected := Output.crt.register
    sequencer := held.sequencer.modifyAll (outputChanges held.outputs on) }

/-- What is held after the interrupt line was routed. -/
def routed (held : Held) : Held :=
  { held with msrs := held.msrs.modifyAll routingChanges }

/-- What is held after waking up. -/
def woken (held : Held) : Held :=
  (held.switched true).routed

end Held

theorem held_switch (output : Output) (on : Bool) (machine : Machine) :
    ((output.switch on).execute respond machine).state.held =
      machine.held.switchOutput on output :=
  rfl

/-- The registers of the controller that switch devices are written whatever they held. -/
theorem held_writes (on : Bool) (machine : Machine) :
    ((do Laptop.switchUsbPorts on; Laptop.switchWireless on : Routine Unit).execute
      respond machine).state.held =
      { machine.held with registers := machine.held.registers.modifyAll (Held.deviceChanges on) } :=
  rfl

theorem held_switchPanel (on : Bool) (machine : Machine) :
    ((Laptop.switchPanel on).execute respond machine).state.held =
      if machine.olderThan .switchesPanelOnSuspend then machine.held.switchOutput on .lcd
      else machine.held := by
  rw [Laptop.switchPanel, Program.execute_bind, Hotkey.execute_olderThan]
  split <;> rfl

/-- Switching the devices changes what is held, as a function of what is held. -/
theorem held_switchDevices (on : Bool) (machine : Machine) :
    ((Laptop.switchDevices on).execute respond machine).state.held =
      machine.held.switched on := by
  rw [Laptop.switchDevices, Program.execute_bind]
  show (Program.execute respond _ _).state.held = _
  rw [Program.execute_bind]
  show (Program.execute respond _ _).state.held = _
  rw [held_writes, held_switch, held_switchPanel, Held.switched, Held.outputs]
  by_cases holder : machine.held.version.getD .unnamed < .switchesPanelOnSuspend
  · have hpanel : machine.olderThan .switchesPanelOnSuspend = true := decide_eq_true holder
    rw [if_pos hpanel, if_pos holder]
    rfl
  · have hpanel : ¬machine.olderThan .switchesPanelOnSuspend = true :=
      fun h ↦ holder (of_decide_eq_true h)
    rw [if_neg hpanel, if_neg holder]
    rfl

theorem held_query (machine : Machine) : machine.query.2.held = machine.held := by
  rw [query]
  split <;> rfl

/-- Arming the line after a sleep routes it, unless the flush fails. -/
theorem held_rearm (settleTime : Nat) (machine : Machine) :
    let rearmed := (rearm settleTime).execute respond machine
    rearmed.state.held = if rearmed.value.isOk then machine.held.routed else machine.held := by
  cases h : machine.query.1 with
  | error fault =>
    rw [execute_rearm_error settleTime h]
    exact held_query machine
  | ok =>
    rw [execute_rearm_ok settleTime h]
    show machine.query.2.held.routed = machine.held.routed
    rw [held_query]

/-! ### One sleep after another -/

namespace Held

/-- Switching the devices on makes up for switching them before. -/
theorem switched_switched (on : Bool) (held : Held) :
    (held.switched on).switched true = held.switched true := by
  have hdevices := Memory.modifyAll_absorb held.registers (absorbs_deviceChanges on) (by decide)
  have houtputs := Memory.modifyAll_absorb held.sequencer (absorbs_outputChanges held.outputs on)
    held.nodup_outputs
  -- What was switched before did not change which outputs are switched.
  have hsame : (held.switched on).outputs = held.outputs := rfl
  rw [switched, hsame]
  exact congrArg₂ (fun registers sequencer ↦
    { held with registers, selected := Output.crt.register, sequencer }) hdevices houtputs

/-- Routing the line twice is routing it once. -/
theorem routed_routed (held : Held) : held.routed.routed = held.routed :=
  congrArg (fun msrs ↦ { held with msrs })
    (Memory.modifyAll_absorb held.msrs absorbs_routingChanges (by decide))

/-- Routing the line and switching the devices are about different things. -/
theorem switched_routed (on : Bool) (held : Held) :
    held.routed.switched on = (held.switched on).routed :=
  rfl

/-- Waking up makes up for a switching of the devices before it. -/
theorem woken_switched (on : Bool) (held : Held) : (held.switched on).woken = held.woken := by
  rw [woken, switched_switched, woken]

/-- Waking up twice is waking up once. -/
theorem woken_woken (held : Held) : held.woken.woken = held.woken := by
  calc held.woken.woken = ((held.switched true).routed.switched true).routed := rfl
    _ = ((held.switched true).switched true).routed.routed := by rw [switched_routed]
    _ = held.woken := by rw [routed_routed, switched_switched, woken]

end Held

end Machine

end LaptopDriver
