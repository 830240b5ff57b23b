import LaptopDriver.Proofs.Machine.Writing
import LaptopDriver.Proofs.Reading.Contents

/-!
# The fan mode that shows after one was chosen

To choose a mode is to set one register or two (`FanMode.choice`), but the mode is read off both. So
what shows afterwards depends on the level that the fan was left at: a fan that is driven by hand at
the highest level shows the mode of that level, also if it was only asked to be driven by hand
(`FanMode.shownOver`). Every other mode shows as it was chosen.

The level that a fan is left at is the one that was written last, so a run of any operations says
which mode shows after it (`fanMode_readBack`).
-/

namespace LaptopDriver

open Controller Thermal

/-! ### Fans that show what they are set to -/

/-- The two registers off which the mode of the fan is read show what they hold. -/
structure Machine.ShowsFan (machine : Machine) : Prop where
  manual : machine.script .fanManual = []
  level : machine.script .fanLevel = []

/-- No routine keeps the fan from showing what it is set to. -/
theorem Machine.ShowsFan.execute {α : Type} {machine : Machine} (h : machine.ShowsFan)
    (routine : Routine α) : (routine.execute Machine.respond machine).state.ShowsFan :=
  ⟨Machine.script_execute routine h.manual, Machine.script_execute routine h.level⟩

/-- A fan that shows what it is set to still does when the operation of the step starts. -/
def Step.KeepsFanShown (step : Step Machine) : Prop :=
  ∀ machine : Machine, machine.ShowsFan → (step.change machine).ShowsFan

/-- A fan that shows what it is set to goes on doing so over a run. -/
theorem Machine.ShowsFan.hardwareAfter {steps : List (Step Machine)}
    (hsteps : ∀ step ∈ steps, step.KeepsFanShown) (laptop : Option Laptop) {machine : Machine}
    (h : machine.ShowsFan) :
    (hardwareAfter machine (transitions Machine.executor steps laptop machine)).ShowsFan := by
  induction steps generalizing laptop machine with
  | nil => exact h
  | cons step steps ih =>
    obtain ⟨hstep, hrest⟩ := List.forall_mem_cons.1 hsteps
    exact ih hrest _ ((hstep machine h).execute _)

/-! ### Choosing a mode and reading it -/

namespace Thermal

namespace FanMode

/-- The registers that are set to choose a mode. -/
def choice : FanMode → List (Register × UInt8)
  | fullSpeed => [(.fanManual, 1), (.fanLevel, maxFanLevel)]
  | manual => [(.fanManual, 1)]
  | automatic => [(.fanManual, 0)]

/-- The mode that shows after one was chosen for a fan that was left at a level. -/
def shownOver (mode : FanMode) (level : UInt8) : FanMode :=
  if mode = manual ∧ level = maxFanLevel then fullSpeed else mode

theorem ofRegisters_choice (mode : FanMode) (registers : Memory Register UInt8) :
    let chosen := registers.writeAll mode.choice
    ofRegisters (chosen .fanManual) (chosen .fanLevel) = mode.shownOver (registers .fanLevel) := by
  cases mode with
  | fullSpeed => rfl
  | manual =>
    show (if registers .fanLevel = maxFanLevel then fullSpeed else manual) = ite _ _ _
    simp only [true_and]
  | automatic => rfl

end FanMode

namespace Fan

theorem state_setMode (mode : FanMode) (machine : Machine) :
    ((setMode mode).execute Machine.respond machine).state =
      { machine with registers := machine.registers.writeAll mode.choice } := by
  cases mode <;> rfl

theorem yields_mode {machine : Machine} (h : machine.ShowsFan) :
    mode.Yields Machine.respond machine
      (.ofRegisters (machine.registers .fanManual) (machine.registers .fanLevel)) :=
  (Machine.yields_read h.level).bind ((Machine.yields_read h.manual).bind (.done _))

end Fan

end Thermal

/-- To read the mode back is to choose a mode and to read the mode, one right after the other. -/
def Thermal.FanMode.readBack (mode : FanMode) : List (Step Machine) :=
  [⟨id, .setFanMode mode.number⟩, ⟨id, .read .fanMode⟩]

namespace Laptop

variable (laptop : Laptop)

theorem perform_setFanMode (mode : FanMode) :
    laptop.perform (.setFanMode mode.number) =
      Fan.setMode mode >>= fun _ ↦ .done (.done, some laptop) := by
  cases mode <;> rfl

theorem yields_perform_fanMode {machine : Machine} (h : machine.ShowsFan) :
    (laptop.perform (.read .fanMode)).Yields Machine.respond machine
      (.value (.fanMode (.ofRegisters (machine.registers .fanManual)
        (machine.registers .fanLevel))), some laptop) :=
  ((Fan.yields_mode h).map Value.fanMode).bind (.done _)

/-- A mode that is chosen and read back is done, and shows over the level that the fan had. -/
theorem outcomes_readBack (mode : FanMode) {machine : Machine} (h : machine.ShowsFan) :
    (run Machine.executor mode.readBack (some laptop) machine).map (·.outcome) =
      [.done, .value (.fanMode (mode.shownOver (machine.registers .fanLevel)))] := by
  -- The reading starts from the machine that the choice leaves, which still shows its registers.
  let chosen := (laptop.perform (.setFanMode mode.number)).execute Machine.respond machine
  have hvalue : chosen.value = (.done, some laptop) := by
    simp only [chosen, perform_setFanMode, Program.execute_bind]
    rfl
  have hregisters : chosen.state.registers = machine.registers.writeAll mode.choice := by
    simp only [chosen, perform_setFanMode, Program.execute_bind, Fan.state_setMode]
    rfl
  have hread := laptop.yields_perform_fanMode (h.execute _ : chosen.state.ShowsFan)
  rw [hregisters, FanMode.ofRegisters_choice] at hread
  show [chosen.value.1, ((Operation.perform (.read .fanMode) chosen.value.2).execute
    Machine.respond chosen.state).value.1] = _
  rw [hvalue]
  show [_, ((laptop.perform (.read .fanMode)).execute Machine.respond chosen.state).value.1] = _
  rw [hread.value_eq]

end Laptop

/-! ### After a run -/

/-- After a run of any operations, the mode that is read back is the one that was chosen, unless the
fan was asked to be driven by hand while it was left at the highest level, which is a mode of its
own. If nothing but the driver moves the level, it is the one that was written last in the run, or
the one from before the run. -/
theorem fanMode_readBack {steps : List (Step Machine)}
    (hsteps : ∀ step ∈ steps, step.KeepsFanShown) (laptop : Option Laptop) {machine : Machine}
    (hmachine : machine.ShowsFan) (mode : FanMode) :
    let history := transitions Machine.executor steps laptop machine
    let left := hardwareAfter machine history
    (∀ loaded ∈ laptopAfter laptop history,
      (run Machine.executor mode.readBack (some loaded) left).map (·.outcome) =
        [.done, .value (.fanMode (mode.shownOver (left.registers .fanLevel)))]) ∧
    ((∀ step ∈ steps, step.LeavesRegister .fanLevel) →
      left.registers .fanLevel =
        (history.flatMap (Transition.written .fanLevel)).getLast?.getD
          (machine.registers .fanLevel)) := by
  intro history left
  have hleft : left.ShowsFan := hmachine.hardwareAfter hsteps laptop
  exact ⟨fun loaded _ ↦ loaded.outcomes_readBack mode hleft,
    fun hleaves ↦ register_hardwareAfter hleaves laptop machine⟩

/-- The fan is set to full speed and then turned down, so that to be driven by hand shows again. -/
theorem fanMode_readBack_turned_down :
    let steps : List (Step Machine) :=
      [⟨id, .load { }⟩, ⟨id, .setFanMode 0⟩, ⟨id, .setFanLevel 2⟩]
    let history := transitions Machine.executor steps none { }
    let left := hardwareAfter { } history
    (∀ step ∈ steps, step.KeepsFanShown ∧ step.LeavesRegister .fanLevel) ∧
      Machine.ShowsFan { } ∧ left.registers .fanLevel = 2 ∧
      ∃ loaded ∈ laptopAfter none history,
        (run Machine.executor FanMode.manual.readBack (some loaded) left).map (·.outcome) =
          [.done, .value (.fanMode .manual)] := by
  intro steps history left
  have hsteps : ∀ step ∈ steps, step.KeepsFanShown ∧ step.LeavesRegister .fanLevel := by
    simp only [steps, List.forall_mem_cons]
    exact ⟨⟨fun _ h ↦ h, fun _ ↦ rfl⟩, ⟨fun _ h ↦ h, fun _ ↦ rfl⟩, ⟨fun _ h ↦ h, fun _ ↦ rfl⟩,
      List.forall_mem_nil _⟩
  have hmachine : Machine.ShowsFan { } := ⟨rfl, rfl⟩
  obtain ⟨hshown, hlast⟩ :=
    fanMode_readBack (fun step hmem ↦ (hsteps step hmem).1) none hmachine .manual
  have hlevel : left.registers .fanLevel = 2 :=
    (hlast fun step hmem ↦ (hsteps step hmem).2).trans (by decide +kernel)
  let loaded : Laptop := { settings := { }, backlight := { } }
  have hloaded : loaded ∈ laptopAfter none history := by decide +kernel
  refine ⟨hsteps, hmachine, hlevel, loaded, hloaded, (hshown loaded hloaded).trans ?_⟩
  show [_, Outcome.value (.fanMode (FanMode.shownOver .manual (left.registers .fanLevel)))] = _
  rw [hlevel]
  rfl

/-- After full speed the fan is asked to be driven by hand, and full speed shows again. -/
theorem not_fanMode_readBack_after_fullSpeed :
    ¬∀ (steps : List (Step Machine)) (laptop : Option Laptop) (machine : Machine) (mode : FanMode),
      let history := transitions Machine.executor steps laptop machine
      let left := hardwareAfter machine history
      (∀ step ∈ steps, step.KeepsFanShown ∧ step.LeavesRegister .fanLevel) → machine.ShowsFan →
      ∀ loaded ∈ laptopAfter laptop history,
        (run Machine.executor mode.readBack (some loaded) left).map (·.outcome) =
          [.done, .value (.fanMode mode)] := by
  intro h
  let steps : List (Step Machine) := [⟨id, .load { }⟩, ⟨id, .setFanMode 0⟩]
  have hsteps : ∀ step ∈ steps, step.KeepsFanShown ∧ step.LeavesRegister .fanLevel := by
    simp only [steps, List.forall_mem_cons]
    exact ⟨⟨fun _ h ↦ h, fun _ ↦ rfl⟩, ⟨fun _ h ↦ h, fun _ ↦ rfl⟩, List.forall_mem_nil _⟩
  have hshown := h steps none { } .manual hsteps ⟨rfl, rfl⟩ { settings := { }, backlight := { } }
    (by decide +kernel)
  exact absurd hshown (by decide +kernel)

end LaptopDriver
