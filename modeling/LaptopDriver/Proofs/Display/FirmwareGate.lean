import LaptopDriver.Proofs.Controller.FirmwareOrder
import LaptopDriver.Proofs.Display.Rotation

/-!
# What the driver leaves to the firmware

Newer firmware switches the panel itself, first when the panel key is pressed and later on across a
sleep as well. The driver then keeps its hands off: the panel key does not reach the sequencer, and
a sleep leaves the register of the panel alone.

`Trace.accesses` reads a trace as a list of accesses to the registers of the sequencer. Which
register a port reaches depends on the one that was selected before, so the register that is selected
at the start is a parameter, and what is stated here holds whichever it is. `Transition.GatedBy` says
what the firmware decides about a transition. Every step goes by it (`Step.gatedBy`), and so does a
run in which the firmware stays the same.
-/

namespace LaptopDriver

open Controller Chipset Display Hotkey Trace

/-! ### Thresholds -/

namespace Controller.FirmwareVersion

/-- The firmware took over the panel key before it took over the sleep. -/
theorem switchesPanelOnKey_lt : switchesPanelOnKey < switchesPanelOnSuspend := by
  decide

end Controller.FirmwareVersion

/-! ### Accesses to the sequencer -/

namespace Display

/-- An access to a register of the sequencer. -/
inductive Access where
  | read (register : UInt8)
  | write (register : UInt8)
  deriving DecidableEq, Repr

/-- The register that is accessed. -/
def Access.register : Access → UInt8
  | read register => register
  | write register => register

/-- The accesses of a command. -/
def Command.accesses (command : Command) : List Access :=
  [.read command.output.register, .write command.output.register]

end Display

namespace Request

/-- The request goes over one of the two ports of the sequencer. -/
def IsSequencer : Request Chipset.Request → Prop
  | .chipset (.readPort port) => port = sequencerIndex ∨ port = sequencerData
  | .chipset (.writePort port _) => port = sequencerIndex ∨ port = sequencerData
  | _ => False

/-- The register of the sequencer that a request selects. -/
def selects? : Request Chipset.Request → Option UInt8
  | .chipset (.writePort port value) => if port = sequencerIndex then some value else none
  | _ => none

/-- The access that a request makes while a register of the sequencer is selected. -/
def access? (selected : UInt8) : Request Chipset.Request → Option Access
  | .chipset (.readPort port) => if port = sequencerData then some (.read selected) else none
  | .chipset (.writePort port _) => if port = sequencerData then some (.write selected) else none
  | _ => none

/-- A request that is not about the ports is not about the sequencer either. -/
theorem of_topic_ne {request : Request Chipset.Request} (h : request.topic ≠ .port)
    (selected : UInt8) :
    ¬request.IsSequencer ∧ request.selects? = none ∧ request.access? selected = none := by
  rcases request with _ | request | _ | _ | _
  case chipset =>
    cases request with
    | readPort | writePort => exact absurd rfl h
    | _ => exact ⟨id, rfl, rfl⟩
  all_goals exact ⟨id, rfl, rfl⟩

end Request

namespace Trace

/-- The accesses of a trace to the registers of the sequencer, while `selected` is selected at its
start. -/
def accesses (selected : UInt8) : Trace → List Access
  | [] => []
  | exchange :: rest =>
    (exchange.op.access? selected).toList ++ accesses (exchange.op.selects?.getD selected) rest

/-- The trace has an exchange with the sequencer. -/
def ReachesSequencer (trace : Trace) : Prop :=
  ∃ exchange ∈ trace, exchange.op.IsSequencer

/-- The sequencer is accessed over the ports only. -/
theorem accesses_ports (selected : UInt8) (trace : Trace) :
    accesses selected (ports trace) = accesses selected trace := by
  induction trace generalizing selected with
  | nil => rfl
  | cons exchange trace ih =>
    by_cases htopic : exchange.op.topic = .port
    · have hport : port? exchange = some exchange := if_pos htopic
      rw [ports, List.filterMap_cons_some hport, accesses, accesses]
      exact congrArg (_ ++ ·) (ih _)
    · have hport : port? exchange = none := if_neg htopic
      obtain ⟨-, hselects, haccess⟩ := Request.of_topic_ne htopic selected
      rw [ports, List.filterMap_cons_none hport, accesses, hselects, haccess]
      exact ih selected

/-- What a command exchanges with the sequencer is its two accesses to the register of its output,
whichever register was selected before. -/
theorem accesses_exchanges (command : Command) (contents selected : UInt8) (rest : Trace) :
    accesses selected (command.exchanges contents ++ rest) =
      command.accesses ++ accesses command.output.register rest :=
  rfl

/-- The commands that a trace carries make its accesses to the sequencer. -/
theorem Carries.accesses_eq {commands : List Command} {trace : Trace} (h : Carries commands trace)
    (selected : UInt8) : accesses selected trace = commands.flatMap Command.accesses := by
  obtain ⟨shown, rfl, hports⟩ := h
  rw [← accesses_ports, hports]
  clear hports
  induction shown generalizing selected with
  | nil => rfl
  | cons entry shown ih =>
    rw [List.flatMap_cons, accesses_exchanges, ih]
    rfl

/-- The register of an output is accessed exactly by the commands to the output. -/
theorem Carries.exists_access_iff {commands : List Command} {trace : Trace}
    (h : Carries commands trace) (selected : UInt8) (output : Output) :
    (∃ access ∈ accesses selected trace, access.register = output.register) ↔
      ∃ command ∈ commands, command.output = output := by
  rw [h.accesses_eq]
  constructor
  · rintro ⟨access, hmem, hregister⟩
    obtain ⟨command, hcommand, haccess⟩ := List.mem_flatMap.1 hmem
    have hsame : access.register = command.output.register := by
      rcases List.mem_pair.1 haccess with rfl | rfl <;> rfl
    exact ⟨command, hcommand, not_imp_not.1 Command.register_ne (hsame.symm.trans hregister)⟩
  · rintro ⟨command, hcommand, rfl⟩
    exact ⟨.write command.output.register,
      List.mem_flatMap.2 ⟨command, hcommand, List.mem_pair.2 (.inr rfl)⟩, rfl⟩

theorem reachesSequencer_ports {trace : Trace} :
    ReachesSequencer (ports trace) ↔ ReachesSequencer trace := by
  constructor
  · rintro ⟨exchange, hmem, hsequencer⟩
    exact ⟨exchange, (mem_ports.1 hmem).1, hsequencer⟩
  · rintro ⟨exchange, hmem, hsequencer⟩
    have htopic : exchange.op.topic = .port :=
      not_imp_not.1 (fun hne ↦ (Request.of_topic_ne hne 0).1) hsequencer
    exact ⟨exchange, mem_ports.2 ⟨hmem, htopic⟩, hsequencer⟩

/-- A trace reaches the sequencer exactly if it carries a command. -/
theorem Carries.reachesSequencer_iff {commands : List Command} {trace : Trace}
    (h : Carries commands trace) : ReachesSequencer trace ↔ commands ≠ [] := by
  obtain ⟨shown, rfl, hports⟩ := h
  rw [← reachesSequencer_ports, hports]
  cases shown with
  | nil => exact iff_of_false (by rintro ⟨_, ⟨⟩, _⟩) (fun hne ↦ hne rfl)
  | cons entry shown =>
    refine iff_of_true ?_ (List.cons_ne_nil _ _)
    -- The first exchange of the first command selects the register of its output.
    exact ⟨_, List.mem_append_left _ List.mem_cons_self, .inl rfl⟩

end Trace

/-! ### What the firmware decides -/

namespace Trace

variable {threshold : FirmwareVersion} {version : Option FirmwareVersion} {trace : Trace}

/-- What the controller names as its firmware is old enough only if the firmware of the run is. -/
theorem lt_of_namesOlder (hversion : ∀ named ∈ versions trace, named = version)
    (h : NamesOlder threshold trace) : version.getD .unnamed < threshold := by
  obtain ⟨named, hmem, holder⟩ := h
  rwa [hversion named hmem] at holder

/-- Where the controller was asked for its firmware, the firmware of the run decides. -/
theorem namesOlder_iff_lt (hversion : ∀ named ∈ versions trace, named = version)
    (hasked : ∃ named, versions trace = [named]) :
    NamesOlder threshold trace ↔ version.getD .unnamed < threshold := by
  obtain ⟨named, hnamed⟩ := hasked
  obtain rfl := hversion named (by simp [hnamed])
  exact namesOlder_iff hnamed

end Trace

namespace Transition

variable {σ : Type} {respond : Responder (Request.Answer Chipset.Request.Answer) σ}

/-- The transition goes by what its firmware leaves to the driver. -/
structure GatedBy (version : FirmwareVersion)
    (transition : Transition (Request.Answer Chipset.Request.Answer) σ) : Prop where
  /-- The panel key reaches the sequencer exactly on firmware that does not switch the panel when it
  is pressed. -/
  panelKey : .panelToggle ∈ dispatched transition.stage.trace →
    (ReachesSequencer transition.stage.trace ↔ version < .switchesPanelOnKey)
  /-- A loaded driver that goes to sleep or wakes up accesses the register of the panel exactly on
  firmware that does not switch the panel across a sleep. -/
  sleep : transition.laptop.isSome → transition.step.operation.power?.isSome → ∀ selected,
    ((∃ access ∈ accesses selected transition.stage.trace,
      access.register = Output.lcd.register) ↔ version < .switchesPanelOnSuspend)
  /-- On firmware that switches the panel across a sleep, only two events write the register of the
  panel: the key that cycles through the outputs, while a monitor is attached, and a monitor that
  comes or goes. -/
  written : ¬version < .switchesPanelOnSuspend → ∀ selected,
    .write Output.lcd.register ∈ accesses selected transition.stage.trace →
      dispatched transition.stage.trace = [.monitor] ∨
        (dispatched transition.stage.trace = [.videoSwitch] ∧
          shown .crtDetect transition.stage.trace = [1])

/-- The panel key is gated by its threshold. -/
theorem Course.reachesSequencer_iff
    {transition : Transition (Request.Answer Chipset.Request.Answer) σ}
    (h : transition.Course respond) {version : Option FirmwareVersion}
    (hversion : ∀ named ∈ versions transition.stage.trace, named = version)
    (hkey : .panelToggle ∈ dispatched transition.stage.trace) :
    ReachesSequencer transition.stage.trace ↔ version.getD .unnamed < .switchesPanelOnKey := by
  obtain ⟨laptop, served, history, -, -, -, hserves⟩ := h.serves_of_mem hkey
  rw [hserves.carries.reachesSequencer_iff,
    ← namesOlder_iff_lt hversion hserves.versions_panelToggle, Event.commandsShown]
  simp

end Transition

open Transition

variable {σ : Type} (respond : Responder (Request.Answer Chipset.Request.Answer) σ)

/-- A sleep and waking up from it are gated by their threshold. -/
theorem Laptop.exists_access_iff {operation : Operation} {on : Bool}
    (h : operation.power? = some on) (laptop : Laptop) (state : σ)
    {version : Option FirmwareVersion} :
    let trace := ((laptop.perform operation).execute respond state).trace
    (∀ named ∈ versions trace, named = version) → ∀ selected,
      ((∃ access ∈ accesses selected trace, access.register = Output.lcd.register) ↔
        version.getD .unnamed < .switchesPanelOnSuspend) := by
  intro trace hversion selected
  obtain ⟨hasked, hcarries⟩ :
      (∃ named, versions trace = [named]) ∧ Carries (sleepCommands on trace) trace :=
    carries_perform_of_power? respond h laptop state
  rw [hcarries.exists_access_iff, ← namesOlder_iff_lt hversion hasked, sleepCommands]
  simp

/-- An event commands the panel in three cases. -/
theorem Hotkey.Event.lcd_mem_commandsShown {event : Event} {history : History} {trace : Trace}
    {on : Bool} (h : ⟨.lcd, on⟩ ∈ event.commandsShown history trace) :
    event = .monitor ∨ (event = .videoSwitch ∧ shown .crtDetect trace = [1]) ∨
      NamesOlder .switchesPanelOnKey trace := by
  cases event with
  | monitor => exact .inl rfl
  | videoSwitch =>
    rw [Event.commandsShown] at h
    split at h
    case isTrue hone => exact .inr (.inl ⟨rfl, hone⟩)
    case isFalse => cases h
  | panelToggle =>
    rw [Event.commandsShown] at h
    split at h
    case isTrue holder => exact .inr (.inr holder)
    case isFalse => cases h
  | _ => cases h

/-- On firmware that switches the panel across a sleep, a command to the panel belongs to one of two
events. -/
theorem Transition.of_lcd_mem_commandsShown
    {transition : Transition (Request.Answer Chipset.Request.Answer) σ}
    {version : Option FirmwareVersion}
    (hversion : ∀ named ∈ versions transition.stage.trace, named = version)
    (hnewer : ¬version.getD .unnamed < .switchesPanelOnSuspend) {on : Bool}
    (h : ⟨.lcd, on⟩ ∈ transition.commandsShown) :
    .monitor ∈ dispatched transition.stage.trace ∨
      (.videoSwitch ∈ dispatched transition.stage.trace ∧
        shown .crtDetect transition.stage.trace = [1]) := by
  have hnamed {threshold : FirmwareVersion} (holder : NamesOlder threshold transition.stage.trace) :
      version.getD .unnamed < threshold := lt_of_namesOlder hversion holder
  cases hlaptop : transition.laptop with
  | none =>
    rw [commandsShown, hlaptop] at h
    cases h
  | some laptop =>
    cases hpower : transition.step.operation.power? with
    | some switched =>
      rw [commandsShown_of_power? hlaptop hpower, sleepCommands,
        if_neg fun holder ↦ hnewer (hnamed holder)] at h
      simp at h
    | none =>
      rw [commandsShown_of_power?_eq_none hlaptop hpower] at h
      obtain ⟨event, hdispatched, hcommand⟩ := List.mem_flatMap.1 h
      rcases Event.lcd_mem_commandsShown hcommand with rfl | ⟨rfl, hone⟩ | holder
      · exact .inl hdispatched
      · exact .inr ⟨hdispatched, hone⟩
      · exact absurd (FirmwareVersion.lt_trans (hnamed holder)
          FirmwareVersion.switchesPanelOnKey_lt) hnewer

/-- Where no transition names a firmware other than the one of the run, a step goes by it. -/
theorem Step.gatedBy {version : Option FirmwareVersion} (step : Step σ) (laptop : Option Laptop)
    (hardware : σ) :
    let transition := step.transition (executorOf respond) laptop hardware
    (∀ named ∈ versions transition.stage.trace, named = version) →
      transition.GatedBy (version.getD .unnamed) := by
  intro transition hversion
  have hcourse : transition.Course respond := step.course respond laptop hardware
  have hcarries : Carries transition.commandsShown transition.stage.trace :=
    step.carries respond laptop hardware
  refine ⟨hcourse.reachesSequencer_iff hversion, fun hloaded hpower ↦ ?_, ?_⟩
  · obtain ⟨loaded, rfl⟩ : ∃ loaded, laptop = some loaded := Option.isSome_iff_exists.1 hloaded
    obtain ⟨on, hon⟩ := Option.isSome_iff_exists.1 hpower
    exact loaded.exists_access_iff respond hon (step.change hardware) hversion
  · intro hnewer selected hwrite
    obtain ⟨⟨_, on⟩, hcommand, rfl⟩ :=
      (hcarries.exists_access_iff selected .lcd).1 ⟨_, hwrite, rfl⟩
    have hevent := of_lcd_mem_commandsShown hversion hnewer hcommand
    exact hevent.imp hcourse.dispatched_eq_singleton (And.imp_left hcourse.dispatched_eq_singleton)

/-- In a run with one and the same firmware every step goes by what it leaves to the driver. A
firmware that leaves the panel key to the driver leaves it the sleep as well. -/
theorem gatedBy_run (steps : List (Step σ)) (laptop : Option Laptop) (hardware : σ)
    (version : Option FirmwareVersion) :
    let history := transitions (executorOf respond) steps laptop hardware
    (∀ transition ∈ history, ∀ named ∈ versions transition.stage.trace, named = version) →
    (∀ transition ∈ history, transition.GatedBy (version.getD .unnamed)) ∧
      ∀ other : FirmwareVersion, other < .switchesPanelOnKey → other < .switchesPanelOnSuspend := by
  intro history hversion
  have hsteps : ∀ transition ∈ history,
      (∀ named ∈ versions transition.stage.trace, named = version) →
        transition.GatedBy (version.getD .unnamed) :=
    forall_transitions _ (fun step _ ↦ step.gatedBy respond) laptop hardware
  refine ⟨fun transition hmem ↦ hsteps transition hmem (hversion transition hmem), ?_⟩
  exact fun other hkey ↦ FirmwareVersion.lt_trans hkey FirmwareVersion.switchesPanelOnKey_lt

/-- On the firmware between the two thresholds the panel key is left alone and a sleep is not. -/
theorem gatedBy_run_between_thresholds :
    let machine : Machine :=
      { version := some .switchesPanelOnKey, pending := [.ok 0x00, .ok 0x2B] }
    let history := transitions (executorOf Machine.respond)
      [⟨id, .load { }⟩, ⟨id, .interrupt 10⟩, ⟨id, .suspend⟩] none machine
    history.map (fun transition ↦ dispatched transition.stage.trace) = [[], [.panelToggle], []] ∧
      (∀ transition ∈ history, .panelToggle ∈ dispatched transition.stage.trace →
        ¬ReachesSequencer transition.stage.trace) ∧
      ∀ transition ∈ history, transition.step.operation = .suspend →
        ∃ access ∈ accesses 0 transition.stage.trace, access.register = 0x31 := by
  intro machine history
  obtain ⟨hgated, -⟩ := gatedBy_run Machine.respond
    [⟨id, .load { }⟩, ⟨id, .interrupt 10⟩, ⟨id, .suspend⟩] none machine
    (some .switchesPanelOnKey) (by decide +kernel)
  refine ⟨by decide +kernel, fun transition hmem hkey hreaches ↦ ?_, fun transition hmem hsleep ↦ ?_⟩
  · exact absurd (((hgated transition hmem).panelKey hkey).1 hreaches) (by decide)
  · have hloaded : ∀ transition ∈ history, transition.step.operation = .suspend →
        transition.laptop.isSome := by decide +kernel
    have hpower : transition.step.operation.power?.isSome := by
      rw [hsleep]
      rfl
    exact ((hgated transition hmem).sleep (hloaded transition hmem hsleep) hpower 0).2 (by decide)

end LaptopDriver
