import LaptopDriver.Proofs.Hotkey.Course
import LaptopDriver.Proofs.Input.ReportUnit

/-!
# What an event is reported as

Four more views of a trace are about what the driver tells others and what it saw before:
`Trace.reports` and `Trace.announcements` are what the input layer and the power-supply layer are
told, `Trace.registrations` is what the latter answers, and `Trace.shown` is what a register showed.
Responding to an event is described through them, against every responder:

* it is reported as the unit of one of its own entries of the keymap (`keyEntry?_mem`,
  `reports_respond`), which for a level is the key of the direction in which the level moved
  (`respond_axis`);
* only a change of the power source is announced, and only while the supplies are registered
  (`announcements_respond`).
-/

namespace LaptopDriver

open Controller Hotkey Input

namespace Trace

/-! ### Views -/

/-- The report that an exchange makes to the input layer. -/
def report? : Exchange (Request.Answer Chipset.Request.Answer) → Option Report
  | ⟨.input report, _⟩ => some report
  | _ => none

/-- The source of power that an exchange announces. -/
def announcement? : Exchange (Request.Answer Chipset.Request.Answer) → Option Supply.Source
  | ⟨.supply (.changed source), _⟩ => some source
  | _ => none

/-- The answer to the question whether the supplies are registered. -/
def registration? : Exchange (Request.Answer Chipset.Request.Answer) → Option Bool
  | ⟨.supply .registered, answer⟩ => some answer
  | _ => none

/-- The value that a register showed in an exchange. -/
def shown? (register : Register) :
    Exchange (Request.Answer Chipset.Request.Answer) → Option UInt8
  | ⟨.controller (.read other), value⟩ => if other = register then some value else none
  | _ => none

/-- The reports of a trace to the input layer. -/
abbrev reports (trace : Trace) : List Report :=
  trace.filterMap report?

/-- The sources of power that a trace announces to the power-supply layer. -/
abbrev announcements (trace : Trace) : List Supply.Source :=
  trace.filterMap announcement?

/-- The answers of the power-supply layer in a trace. -/
abbrev registrations (trace : Trace) : List Bool :=
  trace.filterMap registration?

/-- The values that a register showed in a trace. -/
abbrev shown (register : Register) (trace : Trace) : List UInt8 :=
  trace.filterMap (shown? register)

section Topic

variable {exchange : Exchange (Request.Answer Chipset.Request.Answer)}

theorem topic_of_report? {report : Report} (h : report? exchange = some report) :
    exchange.op.topic = .input := by
  unfold report? at h
  split at h
  · rfl
  · cases h

theorem topic_of_announcement? {source : Supply.Source}
    (h : announcement? exchange = some source) : exchange.op.topic = .supply := by
  unfold announcement? at h
  split at h
  · rfl
  · cases h

theorem topic_of_registration? {answer : Bool} (h : registration? exchange = some answer) :
    exchange.op.topic = .supply := by
  unfold registration? at h
  split at h
  · rfl
  · cases h

theorem topic_of_shown? (register : Register) {value : UInt8}
    (h : shown? register exchange = some value) : exchange.op.topic = .reading := by
  unfold shown? at h
  split at h
  · rfl
  · cases h

end Topic

/-- A quiet trace reports, announces and dispatches nothing, and does not ask about the
supplies. -/
theorem of_isQuiet {trace : Trace} (h : ∀ exchange ∈ trace, IsQuiet exchange) :
    reports trace = [] ∧ announcements trace = [] ∧ registrations trace = [] ∧
      dispatched trace = [] := by
  have hoff (topic : Topic) (hloud : topic ∈ [Topic.input, .supply, .dispatch]) :
      ∀ exchange ∈ trace, exchange.op.topic ≠ topic :=
    fun exchange hmem heq ↦ h exchange hmem (heq ▸ hloud)
  exact ⟨filterMap_eq_nil_of_topic topic_of_report? (hoff .input (by decide)),
    filterMap_eq_nil_of_topic topic_of_announcement? (hoff .supply (by decide)),
    filterMap_eq_nil_of_topic topic_of_registration? (hoff .supply (by decide)),
    filterMap_eq_nil_of_topic topic_of_event? (hoff .dispatch (by decide))⟩

end Trace

namespace Hotkey

/-! ### Entries of the keymap -/

/-- The unit as which an entry of the keymap is reported, for an event that was evaluated to
`status`. -/
def KeyEntry.unit (entry : KeyEntry) (status : Int) : ReportUnit :=
  match entry.action with
  | .tap key => .tap key
  | .turn .lid => .lid (decide (status = 0))

/-- The keymap has an entry for the event. -/
def Event.Mapped (event : Event) : Prop :=
  ∃ entry ∈ keymap, entry.event = event

instance (event : Event) : Decidable event.Mapped :=
  inferInstanceAs (Decidable (∃ entry ∈ keymap, entry.event = event))

namespace Axis

/-- The event that reports a new level on an axis. -/
def event : Axis → Event
  | brightness => .brightness
  | volume => .volume

/-- The register that holds the level on an axis. -/
def register : Axis → Register
  | brightness => .displayBrightness
  | volume => .audioVolume

/-- The key that a move on an axis is reported as. -/
def key : Axis → Direction → Key
  | brightness, .increase => .brightnessUp
  | brightness, .decrease => .brightnessDown
  | volume, .increase => .volumeUp
  | volume, .decrease => .volumeDown

theorem event_axis? (axis : Axis) : axis.event.axis? = some axis := by
  cases axis <;> rfl

theorem register?_event (axis : Axis) : axis.event.register? = some axis.register := by
  cases axis <;> rfl

theorem policy?_event (axis : Axis) : axis.event.policy? = none := by
  cases axis <;> rfl

end Axis

theorem Event.eq_event_of_axis? {event : Event} {axis : Axis} (h : event.axis? = some axis) :
    event = axis.event := by
  cases axis <;> cases event <;> first | rfl | cases h

/-- A level is reported as the key of the direction in which it moved. -/
theorem keyEntry?_event (axis : Axis) (status : Int) (history : History) :
    axis.event.keyEntry? status history =
      some ⟨axis.event, .tap (axis.key (history.direction axis status))⟩ := by
  have hdirection : axis.event.axis?.map (history.direction · status) =
      some (history.direction axis status) := by
    rw [axis.event_axis?]
    rfl
  unfold Event.keyEntry?
  rw [hdirection]
  cases history.direction axis status <;> cases axis <;> rfl

/-- An event that moves no axis is reported as its first entry. -/
theorem keyEntry?_of_axis? {event : Event} (h : event.axis? = none) (status : Int)
    (history : History) :
    event.keyEntry? status history = keymap.find? fun entry ↦ entry.event = event := by
  unfold Event.keyEntry?
  rw [h]
  exact List.find?_eq_bind_findIdx?_getElem?.symm

/-- An event is reported as one of its own entries. -/
theorem keyEntry?_mem {event : Event} {status : Int} {history : History} {entry : KeyEntry}
    (h : event.keyEntry? status history = some entry) :
    entry ∈ keymap ∧ entry.event = event := by
  cases haxis : event.axis? with
  | some axis =>
    obtain rfl := Event.eq_event_of_axis? haxis
    rw [keyEntry?_event] at h
    obtain rfl := Option.some.inj h
    refine ⟨?_, rfl⟩
    cases axis <;> cases history.direction _ status <;> decide
  | none =>
    rw [keyEntry?_of_axis? haxis] at h
    exact ⟨List.mem_of_find?_eq_some h, by simpa using List.find?_some h⟩

/-- Where the keymap has an entry for an event, the event is reported. -/
theorem isSome_keyEntry?_iff {event : Event} {status : Int} {history : History} :
    (event.keyEntry? status history).isSome ↔ event.Mapped := by
  constructor
  · intro h
    obtain ⟨entry, hentry⟩ := Option.isSome_iff_exists.1 h
    exact ⟨entry, keyEntry?_mem hentry⟩
  · intro h
    cases haxis : event.axis? with
    | some axis =>
      obtain rfl := Event.eq_event_of_axis? haxis
      rw [keyEntry?_event]
      rfl
    | none =>
      rw [keyEntry?_of_axis? haxis, List.find?_isSome]
      simpa [Event.Mapped] using h

/-! ### Reports -/

variable {σ : Type} (respond : Responder (Request.Answer Chipset.Request.Answer) σ)

theorem KeyEntry.reports_report (entry : KeyEntry) (status : Int) (state : σ) :
    Trace.reports ((entry.report status).execute respond state).trace =
      (entry.unit status).reports := by
  obtain ⟨event, action⟩ := entry
  cases action with
  | tap key => rfl
  | turn switch =>
    cases switch
    rfl

theorem Event.reports_report (event : Event) (status : Int) (history : History) (state : σ) :
    Trace.reports ((event.report status history).execute respond state).trace =
      ((event.keyEntry? status history).map (·.unit status)).toList.flatMap ReportUnit.reports := by
  unfold Event.report
  cases event.keyEntry? status history with
  | none => rfl
  | some entry => simp [KeyEntry.reports_report]

/-- Evaluating an event reports nothing. -/
theorem reports_evaluate (event : Event) (history : History) (state : σ) :
    Trace.reports ((event.evaluate history).execute respond state).trace = [] := by
  have hwithin := (event.within_evaluate history).mono event.topics_subset
  exact hwithin.filterMap_eq_nil respond (by simp) Trace.topic_of_report? state

/-- An event is reported as the unit of the entry that it selects, if it selects one. -/
theorem reports_respond (event : Event) (history : History) (state : σ) :
    let evaluation := ((event.evaluate history).execute respond state).value
    Trace.reports ((Hotkey.respond event history).execute respond state).trace =
      ((event.keyEntry? evaluation.status evaluation.history).map
        (·.unit evaluation.status)).toList.flatMap ReportUnit.reports := by
  intro evaluation
  rw [respond_eq]
  simp only [Program.execute_bind, Trace.reports, List.filterMap_append]
  have hevaluate := reports_evaluate respond event history state
  have hreport := event.reports_report respond evaluation.status evaluation.history
  simp only [Trace.reports] at hevaluate hreport
  rw [hevaluate, hreport]
  simp [Trace.report?]

/-! ### What is seen on the way -/

/-- An event with a register and without a policy is evaluated to what its register shows. -/
theorem execute_evaluate {event : Event} {register : Register}
    (hregister : event.register? = some register) (hpolicy : event.policy? = none)
    (history : History) (state : σ) :
    let reply := respond (.controller (.read register)) state
    (event.evaluate history).execute respond state =
      ⟨⟨reply.1.toNat, history⟩, reply.2, [⟨.controller (.read register), reply.1⟩]⟩ := by
  unfold Event.evaluate Event.value
  rw [hregister, hpolicy]
  rfl

/-- A view that shows neither the record of an event nor its report shows the evaluation only. -/
theorem filterMap_respond {V : Type} {topic : Topic}
    {view : Exchange (Request.Answer Chipset.Request.Answer) → Option V}
    (hview : ∀ {exchange value}, view exchange = some value → exchange.op.topic = topic)
    (htopic : topic ∉ [.dispatch, .input]) (event : Event) (history : History) (state : σ) :
    ((Hotkey.respond event history).execute respond state).trace.filterMap view =
      ((event.evaluate history).execute respond state).trace.filterMap view := by
  have hreport := fun status history state ↦
    (event.within_report status history).filterMap_eq_nil respond
      (fun hmem ↦ htopic (List.mem_cons_of_mem _ hmem)) hview state
  have hlog (status : Int) (state : σ) :
      ((Routine.log (.dispatched event status)).execute respond state).trace.filterMap view =
        [] := by
    refine Trace.filterMap_eq_nil_of_topic hview fun exchange hmem heq ↦ htopic ?_
    rw [List.mem_singleton.1 hmem] at heq
    exact heq ▸ List.mem_cons_self
  rw [respond_eq]
  simp only [Program.execute_bind, List.filterMap_append, hreport, hlog]
  exact List.append_nil _

/-- Acting by a policy does not touch the levels that are remembered. -/
theorem Policy.last_apply (axis : Axis) (policy : Policy) (value : Int) (history : History)
    (state : σ) :
    ((policy.apply value history).execute respond state).value.history.last axis =
      history.last axis := by
  cases policy with
  | rotateOutputs =>
    rw [Policy.apply, Hotkey.rotateOutputs, Program.execute_bind]
    dsimp only
    split
    · rw [Program.execute_bind]
      cases axis <;> rfl
    · rfl
  | switchPanel | announceSupplies =>
    rw [Policy.apply, Program.execute_bind]
    dsimp only
    split <;> rfl
  | _ => rfl

/-- Evaluating an event does not touch the levels that are remembered. -/
theorem last_evaluate (axis : Axis) (event : Event) (history : History) (state : σ) :
    ((event.evaluate history).execute respond state).value.history.last axis =
      history.last axis := by
  unfold Event.evaluate
  rw [Program.execute_bind]
  cases event.policy? with
  | some policy => exact policy.last_apply respond axis _ history _
  | none => rfl

/-- Only the event of an axis changes the level that is remembered on it. -/
theorem last_respond_of_ne {axis : Axis} {event : Event} (h : event ≠ axis.event)
    (history : History) (state : σ) :
    ((Hotkey.respond event history).execute respond state).value.last axis = history.last axis := by
  rw [value_respond, ← last_evaluate respond axis event history state, Event.remembered]
  cases haxis : event.axis? with
  | none => rfl
  | some other =>
    refine History.last_remember_of_ne _ _ fun heq ↦ h ?_
    rw [heq]
    exact Event.eq_event_of_axis? haxis

/-- A new level is read once, is reported as the key of its direction, and is remembered. -/
theorem respond_axis (axis : Axis) (history : History) (state : σ) :
    let level := (respond (.controller (.read axis.register)) state).1
    let response := (Hotkey.respond axis.event history).execute respond state
    Trace.shown axis.register response.trace = [level] ∧
      Trace.reports response.trace =
        (ReportUnit.tap (axis.key (history.direction axis level.toNat))).reports ∧
      response.value = history.remember axis level.toNat := by
  intro level response
  have hevaluate : (axis.event.evaluate history).execute respond state = _ :=
    execute_evaluate respond axis.register?_event axis.policy?_event history state
  have hshown := filterMap_respond respond (Trace.topic_of_shown? axis.register)
    (by decide) axis.event history state
  have hreports := reports_respond respond axis.event history state
  have hvalue := value_respond respond axis.event history state
  simp only [hevaluate, keyEntry?_event] at hshown hreports hvalue
  refine ⟨hshown.trans ?_, hreports.trans ?_, hvalue.trans ?_⟩
  · simp [Trace.shown?, level]
  · simp [KeyEntry.unit, level]
  · rw [Event.remembered, axis.event_axis?]

/-- The register of the lid is read once, and the lid is reported as closed exactly if it showed
zero. -/
theorem respond_lid (history : History) (state : σ) :
    let value := (respond (.controller (.read .lidDetect)) state).1
    let response := (Hotkey.respond .lid history).execute respond state
    Trace.shown .lidDetect response.trace = [value] ∧
      Trace.reports response.trace =
        (ReportUnit.lid (decide (value = 0))).reports := by
  intro value response
  have hevaluate : (Event.lid.evaluate history).execute respond state = _ :=
    execute_evaluate respond rfl rfl history state
  have hshown := filterMap_respond respond (Trace.topic_of_shown? .lidDetect)
    (by decide) .lid history state
  have hreports := reports_respond respond .lid history state
  have hzero : ((value.toNat : Int) = 0) = (value = 0) := by simp [← UInt8.toNat_inj]
  simp only [hevaluate] at hshown hreports
  refine ⟨hshown, hreports.trans ?_⟩
  simp only [KeyEntry.unit, ← hzero]
  rfl

/-! ### Announcements -/

/-- The supplies are asked about once, and are announced exactly if they are registered. -/
theorem respond_powerSource (history : History) (state : σ) :
    let response := (Hotkey.respond .powerSource history).execute respond state
    ∃ registered, Trace.registrations response.trace = [registered] ∧
      Trace.announcements response.trace = if registered then [.mains, .battery] else [] := by
  intro response
  have hregistrations := filterMap_respond respond Trace.topic_of_registration? (by decide)
    .powerSource history state
  have hannouncements := filterMap_respond respond Trace.topic_of_announcement? (by decide)
    .powerSource history state
  have hevaluate : (Event.powerSource.evaluate history).execute respond state =
      (Policy.announceSupplies.apply 0 history).execute respond state := rfl
  rw [Trace.registrations, Trace.announcements, hregistrations, hannouncements, hevaluate,
    Policy.apply, Program.execute_bind, Routine.suppliesRegistered, Routine.askSupplies,
    Program.execute_send]
  obtain ⟨registered, state⟩ := respond (.supply .registered) state
  refine ⟨registered, ?_⟩
  cases registered <;> exact ⟨rfl, rfl⟩

/-- An event other than a change of the power source is not about the supplies. -/
theorem Event.supply_not_mem_topics {event : Event} (h : event ≠ .powerSource) :
    Topic.supply ∉ event.topics := by
  have hall : ∀ event ∈ Event.all, event ≠ .powerSource → Topic.supply ∉ event.topics := by decide
  exact hall event event.mem_all h

/-- Only a change of the power source is announced, and only if the supplies are registered. -/
theorem announcements_respond (event : Event) (history : History) (state : σ) :
    let response := (Hotkey.respond event history).execute respond state
    Trace.announcements response.trace =
      if event = .powerSource ∧ true ∈ Trace.registrations response.trace then [.mains, .battery]
      else [] := by
  intro response
  by_cases hevent : event = .powerSource
  · subst hevent
    obtain ⟨registered, hregistrations, hannouncements⟩ :=
      respond_powerSource respond history state
    rw [hregistrations, hannouncements]
    simp
  · rw [if_neg fun h ↦ hevent h.1, Trace.announcements,
      filterMap_respond respond Trace.topic_of_announcement? (by decide) event history state]
    exact (event.within_evaluate history).filterMap_eq_nil respond
      (Event.supply_not_mem_topics hevent) Trace.topic_of_announcement? state

end Hotkey

end LaptopDriver
