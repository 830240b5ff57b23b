import LaptopDriver.Proofs.Hotkey.Report
import Mathlib.Data.List.Forall2

/-!
# What a run tells the input layer and the power-supply layer

An `Occasion` is something that the input layer has to be told of: an event for which the keymap
has an entry, or the lid by itself, after loading and on request. The reports of a run are one
complete unit for each of its occasions, in order and with nothing in between, and the unit is one
that belongs to the occasion (`Occasion.ReportedAs`): a key of one of the event's own entries, or
the position of the lid, which is what the single reading of its register says. So user space never
sees a key that stays down, or a report that waits for its sync, once an operation is over.

The power-supply layer is told of a change of the power source exactly if the supplies are
registered, and of nothing else.

Both are proved for one step from the four courses that it can take (`Transition.Course.reported`,
`Transition.Course.announced`), and put together along the run in `notifications`.
-/

namespace LaptopDriver

open Controller Hotkey Input

/-! ### Occasions -/

/-- Something that the input layer is to be told of. -/
inductive Occasion where
  /-- An event was dispatched. The register of the event was read as often as `shown` is long, and
  showed its elements one after the other. -/
  | event (event : Event) (shown : List UInt8)
  /-- The lid is reported apart from any event; `status` is zero while it is closed. -/
  | lid (status : Int)
  deriving DecidableEq, Repr

/-- The unit is a way to report the occasion. -/
inductive Occasion.ReportedAs : Occasion → ReportUnit → Prop where
  /-- A key stands for an event if the keymap has an entry that says so. -/
  | tap {event : Event} {key : Key} (shown : List UInt8) (h : ⟨event, .tap key⟩ ∈ keymap) :
    ReportedAs (.event event shown) (.tap key)
  /-- The position of the lid stands for an event if the keymap has an entry that says so and the
  register of the event was read once; the lid is closed exactly if that reading was zero. -/
  | turn {event : Event} (value : UInt8) (h : ⟨event, .turn .lid⟩ ∈ keymap) :
    ReportedAs (.event event [value]) (.lid (decide (value = 0)))
  /-- The lid by itself is closed exactly if its status is zero. -/
  | lid (status : Int) : ReportedAs (.lid status) (.lid (decide (status = 0)))

/-- The values that the register of an event showed in a trace, if it has one. -/
def Trace.shownFor (event : Event) (trace : Trace) : List UInt8 :=
  match event.register? with
  | some register => Trace.shown register trace
  | none => []

namespace Transition

variable {σ : Type}

/-- The occasions of a transition: the events that were dispatched and have an entry in the keymap,
and the lid by itself. -/
def occasions (transition : Transition (Request.Answer Chipset.Request.Answer) σ) :
    List Occasion :=
  ((Trace.dispatched transition.stage.trace).filter fun event ↦ event.Mapped).map
      (fun event ↦ .event event (Trace.shownFor event transition.stage.trace)) ++
    transition.lidStatus?.toList.map .lid

/-- What a dispatched event has the power-supply layer be told in a transition: a change of the
power source, while the supplies are registered, that both of them may have changed. -/
def announcedFor (transition : Transition (Request.Answer Chipset.Request.Answer) σ)
    (event : Event) : List Supply.Source :=
  if event = .powerSource ∧ true ∈ Trace.registrations transition.stage.trace then
    [.mains, .battery]
  else []

end Transition

/-! ### Responding to one event -/

namespace Hotkey

variable {σ : Type} (respond : Responder (Request.Answer Chipset.Request.Answer) σ)

/-- An event that the keymap has no entry for is not reported. -/
theorem reports_respond_of_not_mapped {event : Event} (h : ¬event.Mapped) (history : History)
    (state : σ) :
    Trace.reports ((Hotkey.respond event history).execute respond state).trace = [] := by
  have hentry (status : Int) (history : History) : event.keyEntry? status history = none :=
    Option.not_isSome_iff_eq_none.1 (mt isSome_keyEntry?_iff.1 h)
  rw [reports_respond, hentry]
  rfl

/-- Only the lid is reported as the position of a switch. -/
theorem Event.eq_lid_of_turn {entry : KeyEntry} (hmem : entry ∈ keymap)
    (h : entry.action = .turn .lid) : entry.event = .lid := by
  have hall : ∀ entry ∈ keymap, entry.action = .turn .lid → entry.event = .lid := by decide
  exact hall entry hmem h

/-- An event that the keymap has an entry for is reported as one unit, which belongs to it. -/
theorem reportedAs_respond {event : Event} (h : event.Mapped) (history : History) (state : σ) :
    let response := (Hotkey.respond event history).execute respond state
    ∃ unit, Occasion.ReportedAs (.event event (Trace.shownFor event response.trace)) unit ∧
      Trace.reports response.trace = unit.reports := by
  intro response
  by_cases hlid : event = .lid
  · subst hlid
    obtain ⟨hshown, hreports⟩ := respond_lid respond history state
    refine ⟨_, ?_, hreports⟩
    have hshownFor : Trace.shownFor .lid response.trace = _ := hshown
    rw [hshownFor]
    exact .turn _ (by decide)
  · have hreports := reports_respond respond event history state
    generalize ((event.evaluate history).execute respond state).value = evaluation at hreports
    obtain ⟨entry, hentry⟩ :
        ∃ entry, event.keyEntry? evaluation.status evaluation.history = some entry :=
      Option.isSome_iff_exists.1 (isSome_keyEntry?_iff.2 h)
    simp only [hentry] at hreports
    obtain ⟨hmem, hevent⟩ := keyEntry?_mem hentry
    obtain ⟨_, action⟩ := entry
    obtain rfl : _ = event := hevent
    cases action with
    | tap key => exact ⟨.tap key, .tap _ hmem, by simpa [KeyEntry.unit] using hreports⟩
    | turn switch =>
      cases switch
      exact absurd (Event.eq_lid_of_turn hmem rfl) hlid

/-- The supplies are asked about once for a change of the power source, and for no other event. -/
theorem length_registrations_respond (event : Event) (history : History) (state : σ) :
    (Trace.registrations ((Hotkey.respond event history).execute respond state).trace).length =
      [event].count .powerSource := by
  by_cases hevent : event = .powerSource
  · subst hevent
    obtain ⟨registered, hregistrations, -⟩ := respond_powerSource respond history state
    rw [hregistrations]
    rfl
  · rw [Trace.registrations,
      filterMap_respond respond Trace.topic_of_registration? (by decide) event history state,
      (event.within_evaluate history).filterMap_eq_nil respond
        (Event.supply_not_mem_topics hevent) Trace.topic_of_registration? state]
    simp [hevent]

end Hotkey

/-! ### One step -/

namespace Transition

variable {σ : Type} {respond : Responder (Request.Answer Chipset.Request.Answer) σ}
  {transition : Transition (Request.Answer Chipset.Request.Answer) σ}

/-- A trace that serves an event shows what the response shows, in every view that shows neither
the query nor the latch. -/
theorem filterMap_of_serves {V : Type} {topic : Topic}
    (view : Exchange (Request.Answer Chipset.Request.Answer) → Option V)
    (hview : ∀ {exchange value}, view exchange = some value → exchange.op.topic = topic)
    (htopic : topic ≠ .queue) {event : Event} {history remembered : History} {served : σ}
    {trace : Trace} (h : Serves respond event history served trace remembered) :
    trace.filterMap view =
      ((Hotkey.respond event history).execute respond served).trace.filterMap view := by
  have hhead : ∀ exchange ∈ ([⟨.controller .query, .ok ()⟩,
      ⟨.controller .latched, event.code⟩] : Trace), exchange.op.topic ≠ topic := by
    simp [htopic.symm]
  rw [h.1]
  exact (List.filterMap_append (l := [_, _])).trans
    (congrArg (· ++ _) (Trace.filterMap_eq_nil_of_topic hview hhead))

/-- The dispatched event of a trace that serves one. -/
theorem dispatched_of_serves {event : Event} {history remembered : History} {served : σ}
    {trace : Trace} (h : Serves respond event history served trace remembered) :
    Trace.dispatched trace = [event] := by
  rw [← dispatched_respond respond event history served]
  exact filterMap_of_serves Trace.event? Trace.topic_of_event? (by decide) h

/-- The register of the event shows in a trace that serves it what it shows in the response. -/
theorem shownFor_of_serves {event : Event} {history remembered : History} {served : σ}
    {trace : Trace} (h : Serves respond event history served trace remembered) :
    Trace.shownFor event trace =
      Trace.shownFor event ((Hotkey.respond event history).execute respond served).trace := by
  unfold Trace.shownFor
  cases event.register? with
  | none => rfl
  | some register => exact filterMap_of_serves _ (Trace.topic_of_shown? register) (by decide) h

/-- Only serving an event dispatches it. -/
theorem Course.serves_of_mem (h : transition.Course respond) {event : Event}
    (hmem : event ∈ Trace.dispatched transition.stage.trace) :
    ∃ laptop served history, transition.laptop = some laptop ∧
      transition.stage.laptop = some { laptop with history } ∧ transition.loads = false ∧
      Serves respond event laptop.history served transition.stage.trace history := by
  cases h with
  | serves laptop other served history before after serves lid loads =>
    rw [dispatched_of_serves serves] at hmem
    obtain rfl := List.mem_singleton.1 hmem
    exact ⟨laptop, served, history, before, after, loads, serves⟩
  | loads laptop quiet before after history trace isQuiet lid loads =>
    obtain ⟨-, -, -, hdispatched⟩ := Trace.of_isQuiet isQuiet
    rw [trace, Trace.dispatched_append, hdispatched] at hmem
    cases hmem
  | reportsLid status after trace lid loads =>
    rw [trace] at hmem
    cases hmem
  | passes after isQuiet lid loads =>
    obtain ⟨-, -, -, hdispatched⟩ := Trace.of_isQuiet isQuiet
    rw [hdispatched] at hmem
    cases hmem

/-- A step that dispatches an event dispatches no other one. -/
theorem Course.dispatched_eq_singleton (h : transition.Course respond) {event : Event}
    (hmem : event ∈ Trace.dispatched transition.stage.trace) :
    Trace.dispatched transition.stage.trace = [event] := by
  obtain ⟨laptop, served, history, -, -, -, hserves⟩ := h.serves_of_mem hmem
  exact dispatched_of_serves hserves

/-- A step reports one unit for each of its occasions. -/
theorem Course.reported (h : transition.Course respond) :
    ∃ units, List.Forall₂ Occasion.ReportedAs transition.occasions units ∧
      Trace.reports transition.stage.trace = units.flatMap ReportUnit.reports := by
  unfold occasions
  cases h with
  | serves laptop event served history before after serves lid loads =>
    have hreports := filterMap_of_serves Trace.report? Trace.topic_of_report? (by decide) serves
    rw [lid, dispatched_of_serves serves]
    by_cases hmapped : event.Mapped
    · obtain ⟨unit, hreported, hunit⟩ := reportedAs_respond respond hmapped laptop.history served
      refine ⟨[unit], ?_, hreports.trans (hunit.trans (by simp))⟩
      simpa [hmapped, shownFor_of_serves serves] using hreported
    · refine ⟨[], by simp [hmapped], hreports.trans ?_⟩
      exact reports_respond_of_not_mapped respond hmapped laptop.history served
  | loads laptop quiet before after history trace isQuiet lid loads =>
    obtain ⟨hquiet, -, -, hdispatched⟩ := Trace.of_isQuiet isQuiet
    have hreports : Trace.reports (quiet ++ lidTrace 1) = Trace.reports (lidTrace 1) :=
      List.filterMap_append.trans (congrArg (· ++ _) hquiet)
    rw [lid, trace, Trace.dispatched_append, hdispatched, hreports]
    exact ⟨[_], .cons (.lid 1) .nil, rfl⟩
  | reportsLid status after trace lid loads =>
    rw [lid, trace]
    exact ⟨[_], .cons (.lid status) .nil, rfl⟩
  | passes after isQuiet lid loads =>
    obtain ⟨hreports, -, -, hdispatched⟩ := Trace.of_isQuiet isQuiet
    rw [lid, hdispatched, hreports]
    exact ⟨[], .nil, rfl⟩

/-- A step announces what the events that it dispatches call for, and it asks whether the supplies
are registered once for each change of the power source. -/
theorem Course.announced (h : transition.Course respond) :
    let trace := transition.stage.trace
    Trace.announcements trace = (Trace.dispatched trace).flatMap transition.announcedFor ∧
      (Trace.registrations trace).length = (Trace.dispatched trace).count .powerSource := by
  intro trace
  cases h with
  | serves laptop event served history before after serves lid loads =>
    have hannouncements :=
      filterMap_of_serves Trace.announcement? Trace.topic_of_announcement? (by decide) serves
    have hregistrations : Trace.registrations trace = _ :=
      filterMap_of_serves Trace.registration? Trace.topic_of_registration? (by decide) serves
    have hresponse := announcements_respond respond event laptop.history served
    rw [dispatched_of_serves serves]
    refine ⟨hannouncements.trans (hresponse.trans ?_), ?_⟩
    · rw [List.flatMap_singleton, announcedFor]
      exact if_congr (by rw [hregistrations]) rfl rfl
    · rw [hregistrations]
      exact length_registrations_respond respond event laptop.history served
  | loads laptop quiet before after history trace' isQuiet lid loads =>
    obtain ⟨-, hannouncements, hregistrations, hdispatched⟩ := Trace.of_isQuiet isQuiet
    have htrace : trace = _ := trace'
    simp only [htrace, Trace.dispatched_append, Trace.announcements, Trace.registrations,
      List.filterMap_append, hannouncements, hregistrations, hdispatched]
    exact ⟨rfl, rfl⟩
  | reportsLid status after trace' lid loads =>
    have htrace : trace = _ := trace'
    rw [htrace]
    exact ⟨rfl, rfl⟩
  | passes after isQuiet lid loads =>
    obtain ⟨-, hannouncements, hregistrations, hdispatched⟩ := Trace.of_isQuiet isQuiet
    rw [hannouncements, hregistrations, hdispatched]
    exact ⟨rfl, rfl⟩

end Transition

/-! ### A whole run -/

section Run

variable {σ : Type} (respond : Responder (Request.Answer Chipset.Request.Answer) σ)

/-- Where each transition reports one unit for each of its occasions, so does the whole list. -/
theorem reported_flatMap {history : List (Transition (Request.Answer Chipset.Request.Answer) σ)}
    (h : ∀ transition ∈ history, transition.Course respond) :
    ∃ units, List.Forall₂ Occasion.ReportedAs (history.flatMap Transition.occasions) units ∧
      history.flatMap (fun transition ↦ Trace.reports transition.stage.trace) =
        units.flatMap ReportUnit.reports := by
  induction history with
  | nil => exact ⟨[], .nil, rfl⟩
  | cons transition history ih =>
    obtain ⟨hfirst, hrest⟩ := List.forall_mem_cons.1 h
    obtain ⟨first, hoccasions, hreports⟩ := hfirst.reported
    obtain ⟨rest, hoccasions', hreports'⟩ := ih hrest
    refine ⟨first ++ rest, ?_, ?_⟩
    · exact List.rel_append hoccasions hoccasions'
    · rw [List.flatMap_cons, hreports, hreports', List.flatMap_append]

/-- What the input layer and the power-supply layer are told in a run, wherever it starts and
however the hardware answers: the input layer is told of every occasion by one unit and of nothing
else, so its device is at rest after every operation; the power-supply layer is told of its two
supplies for every change of the power source while they are registered, which it is asked each
time, and of nothing else. The events that the input layer is not told of are named. -/
theorem notifications (steps : List (Step σ)) (laptop : Option Laptop) (hardware : σ) :
    let history := transitions (executorOf respond) steps laptop hardware
    (∃ units, List.Forall₂ Occasion.ReportedAs (history.flatMap Transition.occasions) units ∧
      history.flatMap (fun transition ↦ Trace.reports transition.stage.trace) =
        units.flatMap ReportUnit.reports) ∧
    (∀ before, before <+: history →
      Device.atRest.acceptAll
          (before.flatMap fun transition ↦ Trace.reports transition.stage.trace) =
        Device.atRest) ∧
    (history.flatMap (fun transition ↦ Trace.announcements transition.stage.trace) =
      history.flatMap fun transition ↦
        (Trace.dispatched transition.stage.trace).flatMap transition.announcedFor) ∧
    (∀ transition ∈ history, (Trace.registrations transition.stage.trace).length =
      (Trace.dispatched transition.stage.trace).count .powerSource) ∧
    ∀ event : Event, event.Mapped ↔
      event ∉ [.overheated, .monitor, .usbOverCurrent .port0, .usbOverCurrent .port2,
        .powerSource] := by
  intro history
  have hcourse : ∀ transition ∈ history, transition.Course respond :=
    forall_transitions _ (fun step _ ↦ step.course respond) laptop hardware
  have hmapped : ∀ event ∈ Event.all, (event.Mapped ↔
      event ∉ [.overheated, .monitor, .usbOverCurrent .port0, .usbOverCurrent .port2,
        .powerSource]) := by
    decide
  refine ⟨reported_flatMap respond hcourse, fun before hbefore ↦ ?_, ?_, ?_, fun event ↦ ?_⟩
  · obtain ⟨units, -, hreports⟩ :=
      reported_flatMap respond fun transition hmem ↦ hcourse transition (hbefore.subset hmem)
    rw [hreports]
    exact Device.acceptAll_flatMap_reports units
  · exact List.flatMap_congr fun transition hmem ↦ (hcourse transition hmem).announced.1
  · exact fun transition hmem ↦ (hcourse transition hmem).announced.2
  · exact hmapped event event.mem_all

end Run

end LaptopDriver
