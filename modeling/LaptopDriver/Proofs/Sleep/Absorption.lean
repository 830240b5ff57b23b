import LaptopDriver.Proofs.Hotkey.Report
import LaptopDriver.Proofs.Sleep.Held
import LaptopDriver.Proofs.Transition

/-!
# Waking up makes up for every sleep before it

A driver may be put to sleep and woken up any number of times, and waking up may fail midway, with
the devices switched on and the interrupt line not routed. However that went, a machine whose driver
has woken up in the end holds what it would hold had the driver woken up once to begin with, and the
driver remembers what it remembered to begin with (`wake_absorbs`).

The invariant of a run is not what the machine holds, which each step changes, but what it would hold
after waking up: no step changes that (`woken_transition`).
-/

namespace LaptopDriver

open InterruptLine

/-- A step that puts the driver to sleep or wakes it up. Before the operation the machine may change
only in what it does not hold over a sleep, such as the events that wait. -/
structure Step.IsSleeping (step : Step Machine) : Prop where
  operation : step.operation = .suspend ∨ step.operation = .resume
  held : ∀ machine, (step.change machine).held = machine.held

/-- The driver woke up. -/
structure Transition.Wakes (transition : Transition.OnMachine) : Prop where
  operation : transition.step.operation = .resume
  outcome : transition.stage.outcome = .done

/-! ### One step -/

namespace Step.IsSleeping

variable {step : Step Machine} (h : step.IsSleeping) (laptop : Laptop) (machine : Machine)

include h

/-- Putting the driver to sleep switches the devices off. Waking it up switches them on, and routes
the line as well unless it fails. The driver stays as it was. -/
theorem transition_cases :
    let transition := step.transition Machine.executor (some laptop) machine
    transition.stage.laptop = some laptop ∧
      (step.operation = .suspend ∧
          transition.stage.hardware.held = machine.held.switched false ∨
        step.operation = .resume ∧ transition.stage.outcome ≠ .done ∧
          transition.stage.hardware.held = machine.held.switched true ∨
        step.operation = .resume ∧ transition.stage.outcome = .done ∧
          transition.stage.hardware.held = machine.held.woken) := by
  obtain ⟨change, operation⟩ := step
  have hchange : (change machine).held = machine.held := h.held machine
  rcases h.operation with rfl | rfl
  · let performed := (laptop.perform .suspend).execute Machine.respond (change machine)
    have hperformed : performed = _ := laptop.execute_suspend (change machine)
    have hheld := Machine.held_switchDevices false (change machine)
    rw [hchange] at hheld
    show performed.value.2 = some laptop ∧
      (_ ∧ performed.state.held = machine.held.switched false ∨ _)
    rw [hperformed]
    exact ⟨rfl, .inl ⟨rfl, hheld⟩⟩
  · let performed := (laptop.perform .resume).execute Machine.respond (change machine)
    let switched := (Laptop.switchDevices true).execute Machine.respond (change machine)
    let rearmed := (rearm laptop.settings.settleTime).execute Machine.respond switched.state
    have hperformed : performed = ⟨(Laptop.wakingOutcome rearmed.value, some laptop),
      rearmed.state, _⟩ := laptop.execute_resume (change machine)
    have hheld : rearmed.state.held = _ := Machine.held_rearm _ switched.state
    rw [Machine.held_switchDevices, hchange] at hheld
    show performed.value.2 = some laptop ∧
      (_ ∨ _ ∧ performed.value.1 ≠ .done ∧ performed.state.held = machine.held.switched true ∨
        _ ∧ performed.value.1 = .done ∧ performed.state.held = machine.held.woken)
    rw [hperformed]
    refine ⟨rfl, .inr ?_⟩
    cases hvalue : rearmed.value with
    | error fault =>
      rw [hvalue] at hheld
      exact .inl ⟨rfl, nofun, hheld⟩
    | ok =>
      rw [hvalue] at hheld
      exact .inr ⟨rfl, rfl, hheld⟩

/-- What a machine would hold after waking up is not changed by a sleep, by waking up, or by failing
to. -/
theorem woken_transition :
    let transition := step.transition Machine.executor (some laptop) machine
    transition.stage.hardware.held.woken = machine.held.woken := by
  intro transition
  obtain ⟨-, ⟨-, hheld⟩ | ⟨-, -, hheld⟩ | ⟨-, -, hheld⟩⟩ := h.transition_cases laptop machine
  · rw [hheld, Machine.Held.woken_switched]
  · rw [hheld, Machine.Held.woken_switched]
  · rw [hheld, Machine.Held.woken_woken]

/-- Once the driver woke up, the machine holds what it would hold after waking up. -/
theorem held_of_wakes (hwakes : (step.transition Machine.executor (some laptop) machine).Wakes) :
    (step.transition Machine.executor (some laptop) machine).stage.hardware.held =
      machine.held.woken := by
  obtain ⟨-, ⟨hsuspend, -⟩ | ⟨-, hfailed, -⟩ | ⟨-, -, hheld⟩⟩ := h.transition_cases laptop machine
  · cases hsuspend.symm.trans hwakes.operation
  · exact absurd hwakes.outcome hfailed
  · exact hheld

/-- Nothing is reported to the input layer or announced to the power-supply layer. -/
theorem silent (laptop : Option Laptop) :
    let trace := (step.transition Machine.executor laptop machine).stage.trace
    Trace.reports trace = [] ∧ Trace.announcements trace = [] := by
  have hwithin := step.operation.within_perform laptop
  have hquiet : Topic.input ∉ step.operation.topics ∧ Topic.supply ∉ step.operation.topics := by
    rcases h.operation with heq | heq <;> rw [heq] <;> decide
  exact ⟨hwithin.filterMap_eq_nil Machine.respond hquiet.1 Trace.topic_of_report? _,
    hwithin.filterMap_eq_nil Machine.respond hquiet.2 Trace.topic_of_announcement? _⟩

end Step.IsSleeping

/-! ### Runs -/

section Run

variable {steps : List (Step Machine)} (hsteps : ∀ step ∈ steps, step.IsSleeping)
  (laptop : Laptop) (machine : Machine)

include hsteps

/-- Over a run the driver stays as it was, and so does what the machine would hold after waking
up. -/
theorem woken_transitions :
    let history := transitions Machine.executor steps (some laptop) machine
    laptopAfter (some laptop) history = some laptop ∧
      (hardwareAfter machine history).held.woken = machine.held.woken := by
  induction steps using List.reverseRecOn with
  | nil => exact ⟨rfl, rfl⟩
  | append_singleton steps step ih =>
    obtain ⟨hlaptop, hwoken⟩ := ih fun step hmem ↦ hsteps step (List.mem_append_left _ hmem)
    have hstep := hsteps step List.mem_concat_self
    intro history
    have hhistory : history = _ := transitions_concat Machine.executor steps step (some laptop) machine
    rw [hhistory, laptopAfter_concat, hardwareAfter_concat, hlaptop]
    exact ⟨(hstep.transition_cases laptop _).1, (hstep.woken_transition laptop _).trans hwoken⟩

/-- If the driver woke up in the end, the machine holds what it would have held after waking up. -/
theorem held_transitions {last : Transition.OnMachine}
    (hlast : (transitions Machine.executor steps (some laptop) machine).getLast? = some last)
    (hwakes : last.Wakes) :
    (hardwareAfter machine (transitions Machine.executor steps (some laptop) machine)).held =
      machine.held.woken := by
  rcases List.eq_nil_or_concat steps with rfl | ⟨earlier, step, rfl⟩
  · cases hlast
  · rw [List.concat_eq_append] at hlast hsteps ⊢
    obtain ⟨hlaptop, hwoken⟩ := woken_transitions
      (fun step hmem ↦ hsteps step (List.mem_append_left _ hmem)) laptop machine
    rw [transitions_concat, hlaptop, List.getLast?_concat] at hlast
    obtain rfl := Option.some.inj hlast
    rw [transitions_concat, hardwareAfter_concat, hlaptop]
    rw [(hsteps step List.mem_concat_self).held_of_wakes laptop _ hwakes, hwoken]

end Run

/-- However a driver was put to sleep and woken up, once it has woken up in the end the machine holds
the same registers of the controller and of the sequencer, with the same one selected, and the same
model-specific registers as if the driver had woken up once to begin with; the driver remembers what
it remembered, and nothing is reported or announced on the way. -/
theorem wake_absorbs (laptop : Laptop) (machine : Machine) {steps : List (Step Machine)}
    {once : Step Machine} {last : Transition.OnMachine}
    (hsteps : ∀ step ∈ once :: steps, step.IsSleeping)
    (hlast : (transitions Machine.executor steps (some laptop) machine).getLast? = some last)
    (hwakes : last.Wakes)
    (honce : (once.transition Machine.executor (some laptop) machine).Wakes) :
    let history := transitions Machine.executor steps (some laptop) machine
    let single := once.transition Machine.executor (some laptop) machine
    (hardwareAfter machine history).held = single.stage.hardware.held ∧
    (laptopAfter (some laptop) history = some laptop ∧ single.stage.laptop = some laptop) ∧
    ∀ transition ∈ history,
      Trace.reports transition.stage.trace = [] ∧
        Trace.announcements transition.stage.trace = [] := by
  obtain ⟨hsingle, hsteps⟩ := List.forall_mem_cons.1 hsteps
  intro history single
  have hheld : single.stage.hardware.held = machine.held.woken :=
    hsingle.held_of_wakes laptop machine honce
  refine ⟨?_, ⟨(woken_transitions hsteps laptop machine).1,
    (hsingle.transition_cases laptop machine).1⟩, ?_⟩
  · rw [hheld]
    exact held_transitions hsteps laptop machine hlast hwakes
  · exact forall_transitions _ (fun step hmem laptop machine ↦
      (hsteps step hmem).silent machine laptop) _ _

/-- The first attempt to wake up fails, with the monitor's converter powered down by an earlier
sleep; the second one succeeds. -/
theorem wake_absorbs_failed_attempt :
    let machine : Machine :=
      { pending := [.error .noResponse]
        sequencer := fun _ ↦ 0x80
        msrs := fun _ ↦ ⟨0, 0x400⟩ }
    let laptop : Laptop := { settings := { settleTime := 2 }, backlight := { } }
    let steps : List (Step Machine) :=
      [⟨id, .suspend⟩, ⟨id, .resume⟩, ⟨id, .suspend⟩, ⟨id, .resume⟩]
    let once : Step Machine := ⟨fun machine ↦ { machine with pending := [] }, .resume⟩
    let history := transitions Machine.executor steps (some laptop) machine
    let single := once.transition Machine.executor (some laptop) machine
    history.map (·.stage.outcome) =
        [.done, .startFailed (.noController .noResponse), .done, .done] ∧
      (hardwareAfter machine history).held = single.stage.hardware.held := by
  intro machine laptop steps once history single
  have hsteps : ∀ step ∈ once :: steps, step.IsSleeping := by
    simp only [steps, List.forall_mem_cons]
    exact ⟨⟨.inr rfl, fun _ ↦ rfl⟩, ⟨.inl rfl, fun _ ↦ rfl⟩, ⟨.inr rfl, fun _ ↦ rfl⟩,
      ⟨.inl rfl, fun _ ↦ rfl⟩, ⟨.inr rfl, fun _ ↦ rfl⟩, List.forall_mem_nil _⟩
  obtain ⟨last, hlast, hwakes⟩ : ∃ last, history.getLast? = some last ∧ last.Wakes :=
    ⟨_, rfl, rfl, by decide +kernel⟩
  have honce : single.Wakes := ⟨rfl, by decide +kernel⟩
  exact ⟨by decide +kernel, (wake_absorbs laptop machine hsteps hlast hwakes honce).1⟩

end LaptopDriver
