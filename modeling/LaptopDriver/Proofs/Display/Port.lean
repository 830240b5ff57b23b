import LaptopDriver.Proofs.Display.Switching
import LaptopDriver.Proofs.Hotkey.Notification

/-!
# What goes over the ports of the sequencer

The sequencer is reached over a pair of byte-wide ports, and a command to an output is four
exchanges over them (`Command.exchanges`). A trace `Carries` a list of commands when their exchanges
are all that goes over the ports in it, one command after the other.

Which commands a step gives can be read off its trace: off the event that was dispatched, off what
its registers showed, and off how the controller named its firmware (`Transition.commandsShown`).
`Step.carries` says that this is the whole truth, wherever the step starts and however the hardware
answers.
-/

namespace LaptopDriver

open Chipset Controller Display Hotkey

namespace Trace

/-! ### Views -/

/-- The exchange, if it goes over a byte-wide port. -/
def port? (exchange : Exchange (Request.Answer Chipset.Request.Answer)) :
    Option (Exchange (Request.Answer Chipset.Request.Answer)) :=
  if exchange.op.topic = .port then some exchange else none

/-- How the controller names its firmware in an exchange. -/
def version? : Exchange (Request.Answer Chipset.Request.Answer) → Option (Option FirmwareVersion)
  | ⟨.controller .firmware, answer⟩ => some answer
  | _ => none

/-- The exchanges of a trace that go over byte-wide ports. -/
abbrev ports (trace : Trace) : Trace :=
  trace.filterMap port?

/-- How the controller named its firmware in a trace. -/
abbrev versions (trace : Trace) : List (Option FirmwareVersion) :=
  trace.filterMap version?

theorem topic_of_port? {exchange shown : Exchange (Request.Answer Chipset.Request.Answer)}
    (h : port? exchange = some shown) : exchange.op.topic = .port := by
  rw [port?] at h
  split at h
  · assumption
  · cases h

theorem topic_of_version? {exchange : Exchange (Request.Answer Chipset.Request.Answer)}
    {version : Option FirmwareVersion} (h : version? exchange = some version) :
    exchange.op.topic = .firmware := by
  unfold version? at h
  split at h
  · rfl
  · cases h

theorem mem_ports {trace : Trace} {exchange : Exchange (Request.Answer Chipset.Request.Answer)} :
    exchange ∈ ports trace ↔ exchange ∈ trace ∧ exchange.op.topic = .port := by
  rw [ports, List.mem_filterMap]
  constructor
  · rintro ⟨other, hmem, hport⟩
    have htopic := topic_of_port? hport
    obtain rfl := Option.some.inj ((if_pos htopic).symm.trans hport)
    exact ⟨hmem, htopic⟩
  · rintro ⟨hmem, htopic⟩
    exact ⟨exchange, hmem, if_pos htopic⟩

/-- A register that is read once, and before anything else, shows one value. -/
theorem shown_read_cons (register : Register) (value : UInt8) {rest : Trace}
    (h : shown register rest = []) :
    shown register (⟨.controller (.read register), value⟩ :: rest) = [value] := by
  have hvalue : shown? register ⟨.controller (.read register), value⟩ = some value := if_pos rfl
  exact (List.filterMap_cons_some hvalue).trans (congrArg (value :: ·) h)

/-- A firmware that is asked for once, and before anything else, is named once. -/
theorem versions_firmware_cons (named : Option FirmwareVersion) {rest : Trace}
    (h : versions rest = []) :
    versions (⟨.controller .firmware, named⟩ :: rest) = [named] :=
  congrArg (named :: ·) h

/-- The controller names a firmware in the trace that is older than `threshold`. -/
def NamesOlder (threshold : FirmwareVersion) (trace : Trace) : Prop :=
  ∃ named ∈ versions trace, named.getD .unnamed < threshold

instance (threshold : FirmwareVersion) (trace : Trace) : Decidable (NamesOlder threshold trace) :=
  inferInstanceAs (Decidable (∃ named ∈ versions trace, named.getD .unnamed < threshold))

theorem namesOlder_congr {threshold : FirmwareVersion} {first second : Trace}
    (h : versions first = versions second) :
    NamesOlder threshold first ↔ NamesOlder threshold second := by
  rw [NamesOlder, NamesOlder, h]

theorem namesOlder_iff {threshold : FirmwareVersion} {trace : Trace}
    {named : Option FirmwareVersion} (h : versions trace = [named]) :
    NamesOlder threshold trace ↔ named.getD .unnamed < threshold := by
  rw [NamesOlder, h]
  simp

end Trace

/-! ### Commands -/

/-- What a command exchanges with the sequencer while the register of its output shows `contents`:
the register is selected and read, and selected again and written. -/
def Display.Command.exchanges (command : Command) (contents : UInt8) : Trace :=
  [⟨.chipset (.writePort sequencerIndex command.output.register), ()⟩,
    ⟨.chipset (.readPort sequencerData), contents⟩,
    ⟨.chipset (.writePort sequencerIndex command.output.register), ()⟩,
    ⟨.chipset (.writePort sequencerData (command.output.switched command.on contents)), ()⟩]

namespace Trace

/-- The commands, one after the other, are all that goes over the ports in the trace. -/
def Carries (commands : List Command) (trace : Trace) : Prop :=
  ∃ shown : List (Command × UInt8), shown.map Prod.fst = commands ∧
    ports trace = shown.flatMap fun entry ↦ entry.1.exchanges entry.2

theorem carries_nil_iff {trace : Trace} : Carries [] trace ↔ ports trace = [] := by
  constructor
  · rintro ⟨shown, hshown, hports⟩
    rw [List.map_eq_nil_iff.1 hshown] at hports
    exact hports
  · exact fun h ↦ ⟨[], rfl, h⟩

theorem Carries.append {first second : List Command} {earlier later : Trace}
    (hfirst : Carries first earlier) (hsecond : Carries second later) :
    Carries (first ++ second) (earlier ++ later) := by
  obtain ⟨shown, rfl, hports⟩ := hfirst
  obtain ⟨shown', rfl, hports'⟩ := hsecond
  refine ⟨shown ++ shown', List.map_append, ?_⟩
  rw [List.flatMap_append, ← hports, ← hports']
  exact List.filterMap_append

/-- What a trace carries is seen at its ports. -/
theorem Carries.of_ports {commands : List Command} {first second : Trace}
    (h : Carries commands first) (hports : ports second = ports first) : Carries commands second :=
  h.imp fun _ hshown ↦ ⟨hshown.1, hports.trans hshown.2⟩

end Trace

open Trace Routine

section Routine

variable {α β σ : Type} (respond : Responder (Request.Answer Chipset.Request.Answer) σ)

/-- A routine that is not about the ports carries nothing. -/
theorem Routine.Within.carries {topics : List Topic} {routine : Routine α}
    (h : Within topics routine) (hport : Topic.port ∉ topics) (state : σ) :
    Carries [] (routine.execute respond state).trace :=
  carries_nil_iff.2 (h.filterMap_eq_nil respond hport topic_of_port? state)

variable {respond} {routine : Routine α} {next : α → Routine β} {state : σ}

theorem Trace.Carries.bind {first second : List Command}
    (h : Carries first (routine.execute respond state).trace)
    (hnext : Carries second ((next (routine.execute respond state).value).execute respond
      (routine.execute respond state).state).trace) :
    Carries (first ++ second) ((routine >>= next).execute respond state).trace := by
  rw [Program.execute_bind]
  exact h.append hnext

/-- What comes after the commands carries nothing. -/
theorem Trace.Carries.bind_quiet {commands : List Command}
    (h : Carries commands (routine.execute respond state).trace)
    (hnext : ∀ value state, Carries [] ((next value).execute respond state).trace) :
    Carries commands ((routine >>= next).execute respond state).trace := by
  rw [← List.append_nil commands]
  exact h.bind (hnext _ _)

end Routine

section Response

variable {σ : Type} (respond : Responder (Request.Answer Chipset.Request.Answer) σ)

/-! ### Outputs -/

theorem Display.Output.carries_switch (output : Output) (on : Bool) (state : σ) :
    Carries [⟨output, on⟩] ((output.switch on).execute respond state).trace :=
  ⟨[(⟨output, on⟩, _)], rfl, rfl⟩

theorem Display.Outputs.carries_switch (outputs : Outputs) (state : σ) :
    Carries outputs.commands (outputs.switch.execute respond state).trace :=
  (Output.carries_switch respond .lcd outputs.lcd state).bind (Output.carries_switch respond _ _ _)

/-- Switch the panel on firmware that is older than a version. -/
def Display.switchPanelBefore (version : FirmwareVersion) (on : Bool) : Routine Unit := do
  if ← Routine.olderThan version then
    Output.lcd.switch on

theorem Display.within_switchPanelBefore (version : FirmwareVersion) (on : Bool) :
    Within [.firmware, .port] (switchPanelBefore version on) := by
  refine ((within_olderThan version).mono (by simp)).bind fun older ↦ ?_
  split
  · exact (Output.within_switch _ _).mono (by simp)
  · trivial

/-- The firmware is asked for once, and the panel is commanded exactly if it is old enough. -/
theorem Display.carries_switchPanelBefore (version : FirmwareVersion) (on : Bool) (state : σ) :
    let trace := ((switchPanelBefore version on).execute respond state).trace
    (∃ named, versions trace = [named]) ∧
      Carries (if NamesOlder version trace then [⟨.lcd, on⟩] else []) trace := by
  intro trace
  let named := respond (.controller .firmware) state
  let rest : Routine Unit :=
    if decide (named.1.getD .unnamed < version) then Output.lcd.switch on else pure ()
  have htrace : trace = ⟨.controller .firmware, named.1⟩ :: (rest.execute respond named.2).trace := by
    have hexecution := Program.execute_bind respond (Routine.olderThan version)
      (fun older ↦ if older then Output.lcd.switch on else pure ()) state
    exact congrArg (·.trace) hexecution
  have hrest : Within [.port] rest := by
    unfold rest
    split
    · exact Output.within_switch _ _
    · trivial
  have hversions : versions trace = [named.1] := by
    rw [htrace]
    exact versions_firmware_cons _
      (hrest.filterMap_eq_nil respond (by simp) topic_of_version? named.2)
  refine ⟨⟨_, hversions⟩, ?_⟩
  have hports : ports trace = ports (rest.execute respond named.2).trace := by
    rw [htrace]
    rfl
  refine Carries.of_ports ?_ hports
  by_cases holder : named.1.getD .unnamed < version
  · rw [if_pos ((namesOlder_iff hversions).2 holder)]
    have hswitch : rest = Output.lcd.switch on := if_pos (decide_eq_true holder)
    rw [hswitch]
    exact Output.carries_switch respond .lcd on named.2
  · rw [if_neg (mt (namesOlder_iff hversions).1 holder)]
    have hskip : rest = pure () := if_neg (by simpa using holder)
    rw [hskip]
    exact carries_nil_iff.2 rfl

/-! ### Events -/

namespace Hotkey

/-- The commands of an event, by what the trace of responding to it shows. -/
def Event.commandsShown (event : Event) (history : History) (trace : Trace) : List Command :=
  match event with
  | videoSwitch =>
    if shown .crtDetect trace = [1] then (VideoMode.next history.videoMode).outputs.commands else []
  | monitor => Outputs.commands ⟨true, decide (shown .crtDetect trace ≠ [0])⟩
  | panelToggle =>
    if NamesOlder .switchesPanelOnKey trace then
      [⟨.lcd, decide (shown .displayLcd trace ≠ [0])⟩]
    else []
  | _ => []

/-- The commands of an event depend on nothing but what the registers showed and how the controller
named its firmware. -/
theorem Event.commandsShown_congr (event : Event) (history : History) {first second : Trace}
    (hshown : ∀ register, shown register first = shown register second)
    (hversions : versions first = versions second) :
    event.commandsShown history first = event.commandsShown history second := by
  unfold Event.commandsShown
  cases event with
  | videoSwitch => simp only [hshown]
  | monitor => simp only [hshown]
  | panelToggle => simp only [hshown, namesOlder_congr hversions]
  | _ => rfl

/-- Going on in the rotation takes a look at whether a monitor is attached, and decides on it. -/
theorem execute_rotateOutputs (history : History) (state : σ) :
    let reply := respond (.controller (.read .crtDetect)) state
    let mode := VideoMode.next history.videoMode
    let switched := mode.outputs.switch.execute respond reply.2
    (rotateOutputs history).execute respond state =
      if reply.1 = 1 then
        { value := ⟨mode.position, { history with videoMode := some mode }⟩
          state := switched.state
          trace := ⟨.controller (.read .crtDetect), reply.1⟩ :: switched.trace }
      else ⟨⟨0, history⟩, reply.2, [⟨.controller (.read .crtDetect), reply.1⟩]⟩ := by
  intro reply mode switched
  rw [rotateOutputs, Program.execute_bind]
  have hread : (Routine.read .crtDetect).execute respond state =
      ⟨reply.1, reply.2, [⟨.controller (.read .crtDetect), reply.1⟩]⟩ := rfl
  rw [hread]
  by_cases hdetected : reply.1 = 1
  · simp only [if_pos hdetected]
    rw [Program.execute_bind, Program.pure_eq_done, Program.execute_done, List.append_nil]
    rfl
  · simp only [if_neg hdetected]
    rfl

/-- An event with a register and a policy reads the one and then acts by the other. -/
theorem Event.execute_evaluate_policy (event : Event) {register : Register} {policy : Policy}
    (hregister : event.register? = some register) (hpolicy : event.policy? = some policy)
    (history : History) (state : σ) :
    let reply := respond (.controller (.read register)) state
    let applied := (policy.apply reply.1.toNat history).execute respond reply.2
    (event.evaluate history).execute respond state =
      { applied with trace := ⟨.controller (.read register), reply.1⟩ :: applied.trace } := by
  unfold Event.evaluate Event.value
  rw [hregister, hpolicy]
  exact Program.execute_ask respond _ _ state

/-- The one look at whether a monitor is attached is what the rotation shows. -/
theorem shown_rotateOutputs (history : History) (state : σ) :
    shown .crtDetect ((rotateOutputs history).execute respond state).trace =
      [(respond (.controller (.read .crtDetect)) state).1] := by
  rw [execute_rotateOutputs]
  generalize respond (.controller (.read .crtDetect)) state = reply
  split
  · have hswitch := Outputs.within_switch (VideoMode.next history.videoMode).outputs
    have hnone := hswitch.filterMap_eq_nil respond (by simp) (topic_of_shown? .crtDetect) reply.2
    exact shown_read_cons _ _ hnone
  · exact shown_read_cons _ _ rfl

theorem carries_evaluate_videoSwitch (history : History) (state : σ) :
    let trace := ((Event.videoSwitch.evaluate history).execute respond state).trace
    Carries (Event.videoSwitch.commandsShown history trace) trace := by
  intro trace
  have htrace : trace = ((rotateOutputs history).execute respond state).trace := rfl
  have hshown := shown_rotateOutputs respond history state
  rw [Event.commandsShown, htrace, hshown, execute_rotateOutputs]
  generalize respond (.controller (.read .crtDetect)) state = reply
  by_cases hdetected : reply.1 = 1
  · rw [if_pos hdetected, hdetected, if_pos rfl]
    exact Outputs.carries_switch respond _ reply.2
  · rw [if_neg hdetected, if_neg (by simpa using hdetected)]
    exact carries_nil_iff.2 rfl

theorem decide_shown_ne (byte : UInt8) :
    decide ((byte.toNat : Int) ≠ 0) = decide ([byte] ≠ [0]) := by
  rw [decide_toNat_ne_zero]
  simp

theorem carries_evaluate_monitor (history : History) (state : σ) :
    let trace := ((Event.monitor.evaluate history).execute respond state).trace
    Carries (Event.monitor.commandsShown history trace) trace := by
  intro trace
  have htrace : trace = _ := congrArg (·.trace)
    (Event.monitor.execute_evaluate_policy respond rfl rfl history state)
  rw [htrace, Event.commandsShown]
  generalize respond (.controller (.read .crtDetect)) state = reply
  have hwithin := Policy.within_apply .followMonitor reply.1.toNat history
  have hnone := hwithin.filterMap_eq_nil respond (by decide) (topic_of_shown? .crtDetect) reply.2
  rw [shown_read_cons _ _ hnone, ← decide_shown_ne]
  exact (Outputs.carries_switch respond _ reply.2).bind_quiet fun _ _ ↦ carries_nil_iff.2 rfl

/-- The policy of the panel key is to switch the panel on old enough firmware. -/
theorem Policy.apply_switchPanel (value : Int) (history : History) :
    Policy.switchPanel.apply value history = (do
      switchPanelBefore .switchesPanelOnKey (decide (value ≠ 0))
      pure ⟨value, history⟩) := by
  rw [Policy.apply, switchPanelBefore, Program.bind_assoc]
  congr 1
  funext older
  cases older <;> rfl

theorem carries_evaluate_panelToggle (history : History) (state : σ) :
    let trace := ((Event.panelToggle.evaluate history).execute respond state).trace
    (∃ named, versions trace = [named]) ∧
      Carries (Event.panelToggle.commandsShown history trace) trace := by
  intro trace
  let reply := respond (.controller (.read .displayLcd)) state
  let on := decide ((reply.1.toNat : Int) ≠ 0)
  let switched := (switchPanelBefore .switchesPanelOnKey on).execute respond reply.2
  have htrace : trace = ⟨.controller (.read .displayLcd), reply.1⟩ :: switched.trace := by
    have hexecution := Event.panelToggle.execute_evaluate_policy respond rfl rfl history state
    simp only [Policy.apply_switchPanel, Program.execute_bind, Program.pure_eq_done,
      Program.execute_done, List.append_nil] at hexecution
    exact congrArg (·.trace) hexecution
  obtain ⟨⟨named, hnamed⟩, hcarries⟩ :=
    carries_switchPanelBefore respond .switchesPanelOnKey on reply.2
  have hversions : versions trace = versions switched.trace := by
    rw [htrace]
    rfl
  have hports : ports trace = ports switched.trace := by
    rw [htrace]
    rfl
  have hnone := (within_switchPanelBefore .switchesPanelOnKey on).filterMap_eq_nil respond
    (by simp) (topic_of_shown? .displayLcd) reply.2
  have hshown : shown .displayLcd trace = [reply.1] := by
    rw [htrace]
    exact shown_read_cons _ _ hnone
  refine ⟨⟨named, hversions.trans hnamed⟩, Carries.of_ports ?_ hports⟩
  simp only [Event.commandsShown, hshown, namesOlder_congr hversions, ← decide_shown_ne]
  exact hcarries

/-- What an event commands can be read off the trace of evaluating it. -/
theorem Event.carries_evaluate (event : Event) (history : History) (state : σ) :
    let trace := ((event.evaluate history).execute respond state).trace
    Carries (event.commandsShown history trace) trace := by
  cases event with
  | videoSwitch => exact carries_evaluate_videoSwitch respond history state
  | monitor => exact carries_evaluate_monitor respond history state
  | panelToggle => exact (carries_evaluate_panelToggle respond history state).2
  -- The other events are not about the ports.
  | _ =>
    exact (Event.within_evaluate _ history).carries respond
      (by simp [Event.topics, Event.policy?, Policy.topics]) state

/-- What an event commands can be read off the trace of responding to it. -/
theorem carries_respond (event : Event) (history : History) (state : σ) :
    let trace := ((Hotkey.respond event history).execute respond state).trace
    Carries (event.commandsShown history trace) trace := by
  intro trace
  have hshown (register : Register) := filterMap_respond respond (topic_of_shown? register)
    (by decide) event history state
  have hversions := filterMap_respond respond topic_of_version? (by decide) event history state
  have hports := filterMap_respond respond topic_of_port? (by decide) event history state
  rw [event.commandsShown_congr history hshown hversions]
  exact (event.carries_evaluate respond history state).of_ports hports

variable {respond}

/-- What an event commands can be read off the trace that serves it. -/
theorem Serves.carries {event : Event} {history remembered : History} {served : σ} {trace : Trace}
    (h : Serves respond event history served trace remembered) :
    Carries (event.commandsShown history trace) trace := by
  have hshown (register : Register) := Transition.filterMap_of_serves (shown? register)
    (topic_of_shown? register) (by decide) h
  have hversions := Transition.filterMap_of_serves version? topic_of_version? (by decide) h
  have hports := Transition.filterMap_of_serves port? topic_of_port? (by decide) h
  rw [event.commandsShown_congr history hshown hversions]
  exact (carries_respond respond event history served).of_ports hports

/-- The firmware is asked for once when the panel key is served. -/
theorem Serves.versions_panelToggle {history remembered : History} {served : σ} {trace : Trace}
    (h : Serves respond .panelToggle history served trace remembered) :
    ∃ named, versions trace = [named] := by
  have hversions := Transition.filterMap_of_serves version? topic_of_version? (by decide) h
  have hrespond := filterMap_respond respond topic_of_version? (by decide) .panelToggle history
    served
  obtain ⟨⟨named, hnamed⟩, -⟩ := carries_evaluate_panelToggle respond history served
  exact ⟨named, (hversions.trans hrespond).trans hnamed⟩

end Hotkey

/-! ### Sleeping and waking up -/

/-- The commands of a sleep, or of waking up from it, by how the controller named its firmware. -/
def Trace.sleepCommands (on : Bool) (trace : Trace) : List Command :=
  (if NamesOlder .switchesPanelOnSuspend trace then [⟨.lcd, on⟩] else []) ++ [⟨.crt, on⟩]

theorem Trace.sleepCommands_congr (on : Bool) {first second : Trace}
    (h : versions first = versions second) : sleepCommands on first = sleepCommands on second := by
  simp only [sleepCommands, namesOlder_congr h]

/-- Which way an operation switches the devices, if it puts them to sleep or wakes them up. -/
def Operation.power? : Operation → Option Bool
  | suspend => some false
  | resume => some true
  | _ => none

namespace Laptop

/-- Switching the devices comes first in a sleep and in waking up, and what comes after it is about
the interrupt line only. -/
theorem perform_of_power? {operation : Operation} {on : Bool} (h : operation.power? = some on)
    (laptop : Laptop) : ∃ next : Unit → Routine (Outcome × Option Laptop),
      laptop.perform operation = (switchDevices on >>= next) ∧
        ∀ value, Within [.queue, .routing, .note] (next value) := by
  cases operation with
  | suspend =>
    cases h
    exact ⟨fun _ ↦ pure (.done, some laptop), rfl, fun _ ↦ trivial⟩
  | resume =>
    cases h
    refine ⟨_, laptop.perform_resume_eq, fun _ ↦ ?_⟩
    refine (InterruptLine.within_rearm _).bind fun answer ↦ ?_
    cases answer <;> simp [conclude, Program.send]
  | _ => cases h

/-- The firmware is asked for once when the devices are switched, and their commands go by it. -/
theorem carries_switchDevices (on : Bool) (state : σ) :
    let trace := ((switchDevices on).execute respond state).trace
    (∃ named, versions trace = [named]) ∧ Carries (sleepCommands on trace) trace := by
  intro trace
  let rest : Routine Unit := do
    Output.crt.switch on
    switchUsbPorts on
    switchWireless on
  have hquiet : Within [.writing] (switchUsbPorts on >>= fun _ ↦ switchWireless on) :=
    (within_switchUsbPorts on).bind fun _ ↦ within_switchWireless on
  have hcrt (state : σ) : Carries [⟨.crt, on⟩] (rest.execute respond state).trace :=
    (Output.carries_switch respond .crt on state).bind_quiet fun _ state ↦
      hquiet.carries respond (by simp) state
  have hrest : Within [.port, .writing] rest :=
    ((Output.within_switch .crt on).mono (by simp)).bind fun _ ↦ hquiet.mono (by simp)
  have hversions : versions trace = versions ((switchPanel on).execute respond state).trace :=
    Within.filterMap_bind respond (fun _ ↦ hrest) (by simp) topic_of_version? (switchPanel on) state
  obtain ⟨⟨named, hnamed⟩, hpanel⟩ :=
    carries_switchPanelBefore respond .switchesPanelOnSuspend on state
  refine ⟨⟨named, hversions.trans hnamed⟩, ?_⟩
  rw [sleepCommands_congr on hversions]
  exact hpanel.bind (hcrt _)

/-- A loaded driver asks for the firmware once when it goes to sleep or wakes up, and its commands
go by it. -/
theorem carries_perform_of_power? {operation : Operation} {on : Bool}
    (h : operation.power? = some on) (laptop : Laptop) (state : σ) :
    let trace := ((laptop.perform operation).execute respond state).trace
    (∃ named, versions trace = [named]) ∧ Carries (sleepCommands on trace) trace := by
  intro trace
  obtain ⟨next, hperform, hnext⟩ := laptop.perform_of_power? h
  have htrace : trace = ((switchDevices on >>= next).execute respond state).trace := by
    rw [← hperform]
  have hversions : versions trace = versions ((switchDevices on).execute respond state).trace := by
    rw [htrace]
    exact Within.filterMap_bind respond hnext (by simp) topic_of_version? (switchDevices on) state
  obtain ⟨⟨named, hnamed⟩, hcarries⟩ := carries_switchDevices respond on state
  refine ⟨⟨named, hversions.trans hnamed⟩, ?_⟩
  rw [sleepCommands_congr on hversions, htrace]
  exact hcarries.bind_quiet fun value ↦ (hnext value).carries respond (by simp)

end Laptop

/-! ### Steps -/

/-- The commands of a transition, by what its trace shows. -/
def Transition.commandsShown
    (transition : Transition (Request.Answer Chipset.Request.Answer) σ) : List Command :=
  match transition.laptop, transition.step.operation.power? with
  | none, _ => []
  | some _, some on => sleepCommands on transition.stage.trace
  | some laptop, none =>
    (dispatched transition.stage.trace).flatMap
      (·.commandsShown laptop.history transition.stage.trace)

theorem Transition.commandsShown_of_power?
    {transition : Transition (Request.Answer Chipset.Request.Answer) σ} {laptop : Laptop} {on : Bool}
    (hlaptop : transition.laptop = some laptop)
    (hpower : transition.step.operation.power? = some on) :
    transition.commandsShown = sleepCommands on transition.stage.trace := by
  rw [commandsShown, hlaptop, hpower]

theorem Transition.commandsShown_of_power?_eq_none
    {transition : Transition (Request.Answer Chipset.Request.Answer) σ} {laptop : Laptop}
    (hlaptop : transition.laptop = some laptop)
    (hpower : transition.step.operation.power? = none) :
    transition.commandsShown = (dispatched transition.stage.trace).flatMap
      (·.commandsShown laptop.history transition.stage.trace) := by
  rw [commandsShown, hlaptop, hpower]

/-- An interrupt carries the commands of the event that it dispatches, if it dispatches one. -/
theorem Laptop.carries_perform_interrupt (laptop : Laptop) (number : Nat) (state : σ) :
    let trace := ((laptop.perform (.interrupt number)).execute respond state).trace
    Carries ((dispatched trace).flatMap (·.commandsShown laptop.history trace)) trace := by
  intro trace
  have htrace : trace = _ :=
    congrArg (·.trace) (laptop.execute_perform_interrupt respond number state)
  rcases interrupt_cases respond number laptop.history state with
    ⟨haside, -⟩ | ⟨event, served, hserves⟩
  · rw [← htrace] at haside
    obtain ⟨-, -, -, hdispatched⟩ := of_isQuiet fun exchange hmem ↦ (haside exchange hmem).isQuiet
    rw [hdispatched]
    refine carries_nil_iff.2 (filterMap_eq_nil_of_topic topic_of_port? fun exchange hmem heq ↦ ?_)
    rcases haside exchange hmem with h | h <;>
    · rw [h] at heq
      cases heq
  · rw [← htrace] at hserves
    rw [Transition.dispatched_of_serves hserves, List.flatMap_singleton]
    exact hserves.carries

/-- Wherever a step starts, its commands are all that goes over the ports in it. -/
theorem Step.carries (step : Step σ) (laptop : Option Laptop) (hardware : σ) :
    let transition := step.transition (executorOf respond) laptop hardware
    Carries transition.commandsShown transition.stage.trace := by
  obtain ⟨change, operation⟩ := step
  intro transition
  have hwithin := operation.within_perform laptop
  cases laptop with
  | none =>
    cases operation with
    | load settings => exact hwithin.carries respond (by simp) (change hardware)
    | _ => exact carries_nil_iff.2 rfl
  | some laptop =>
    cases hpower : operation.power? with
    | some on =>
      rw [Transition.commandsShown_of_power? rfl hpower]
      exact (Laptop.carries_perform_of_power? respond hpower laptop _).2
    | none =>
      rw [Transition.commandsShown_of_power?_eq_none rfl hpower]
      cases operation with
      | interrupt number => exact laptop.carries_perform_interrupt respond number _
      | suspend | resume => cases hpower
      | _ =>
        have hdispatched : dispatched transition.stage.trace = [] :=
          hwithin.dispatched_eq_nil respond (by simp) (change hardware)
        rw [hdispatched]
        exact hwithin.carries respond (by simp) (change hardware)

end Response

end LaptopDriver
