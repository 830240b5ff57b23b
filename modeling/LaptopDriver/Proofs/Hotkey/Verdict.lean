import LaptopDriver.Machine.Basic
import LaptopDriver.Proofs.Hotkey.Serve

/-!
# The verdict on an interrupt

An interrupt is claimed exactly when it is the controller's, the event query succeeds and the
latched number is acceptable. The main statement is about every responder, so it covers a
controller that answers in any way, and about everything that the handler was remembering before. An
interrupt that is not claimed leaves no trace on the machine but for the query itself, and neither
does the end marker. Every other accepted number is dispatched as the one event that has it.
-/

namespace LaptopDriver.Hotkey

variable {σ : Type} (respond : Responder (Request.Answer Chipset.Request.Answer) σ)

/-- The exchange looks at the queue of events or notes something down, and dispatches nothing. -/
def IsAside (exchange : Exchange (Request.Answer Chipset.Request.Answer)) : Prop :=
  exchange.op.topic = .queue ∨ exchange.op.topic = .note

/-! ### Serving a number -/

/-- The number of an event is responded to, and that is all. -/
theorem execute_serve_code (event : Event) (history : History) (state : σ) :
    (serve event.code history).execute respond state =
      { (Hotkey.respond event history).execute respond state with
        value := (.handled, ((Hotkey.respond event history).execute respond state).value) } := by
  rw [serve_code, Program.execute_bind]
  simp

theorem serve_handled_iff (code : UInt8) (history : History) (state : σ) :
    ((serve code history).execute respond state).value.1 = .handled ↔ Event.InRange code := by
  by_cases hrange : Event.InRange code
  · refine iff_of_true ?_ hrange
    rcases Event.inRange_iff.1 hrange with rfl | ⟨event, rfl⟩
    · rw [serve_lastCode]
      rfl
    · rw [execute_serve_code]
  · refine iff_of_false ?_ hrange
    rw [serve_of_not_inRange hrange]
    exact Verdict.noConfusion

/-- Noise and the end marker are noted down, and change nothing. -/
theorem serve_aside {code : UInt8} (h : ¬Event.InRange code ∨ code = Event.lastCode)
    (history : History) (state : σ) :
    let execution := (serve code history).execute respond state
    (∀ exchange ∈ execution.trace, IsAside exchange) ∧ execution.value.2 = history := by
  obtain ⟨record, verdict, hrecord, hserve⟩ : ∃ record verdict,
      (Request.log record : Request Chipset.Request).topic = .note ∧
        serve code history = (do Routine.log record; pure (verdict, history)) := by
    rcases h with hrange | rfl
    · exact ⟨_, _, rfl, serve_of_not_inRange hrange history⟩
    · exact ⟨_, _, rfl, serve_lastCode history⟩
  rw [hserve]
  refine ⟨fun exchange hmem ↦ .inr ?_, rfl⟩
  rw [List.mem_singleton.1 hmem]
  exact hrecord

/-! ### The verdict -/

/-- The verdict on an interrupt, what is left alone by one that is rejected or carries the end
marker, and what is dispatched by any other. -/
theorem interrupt_verdict (number : Nat) (history : History) (state : σ) :
    let execution := (interrupt number history).execute respond state
    let queried := respond (.controller .query) state
    let latched := respond (.controller .latched) queried.2
    (execution.value.1 = .handled ↔
      number = interruptNumber ∧ queried.1 = .ok () ∧ Event.InRange latched.1) ∧
    (number ≠ interruptNumber → execution.trace = [] ∧ execution.state = state) ∧
    (execution.value.1 = .ignored ∨ latched.1 = Event.lastCode →
      (∀ exchange ∈ execution.trace, IsAside exchange) ∧ execution.value.2 = history) ∧
    (number = interruptNumber → queried.1 = .ok () → Event.InRange latched.1 →
      latched.1 ≠ Event.lastCode →
      ∃ event : Event, event.code = latched.1 ∧
        Trace.dispatched execution.trace = [event] ∧
        execution.trace = ⟨.controller .query, .ok ()⟩ :: ⟨.controller .latched, latched.1⟩ ::
          ((Hotkey.respond event history).execute respond latched.2).trace ∧
        execution.value =
          (.handled, ((Hotkey.respond event history).execute respond latched.2).value)) := by
  intro execution queried latched
  by_cases hnumber : number = interruptNumber
  · subst hnumber
    cases hqueried : queried.1 with
    | error fault =>
      -- The handler gives up before it looks at the latch.
      have hexecution : execution = _ := execute_interrupt_error hqueried history
      rw [hexecution]
      simp [IsAside]
    | ok =>
      -- From here on everything is decided by the number, in the three ways of serving one.
      have hexecution : execution = _ := execute_interrupt_ok hqueried history
      rw [hexecution]
      have hhandled := serve_handled_iff respond latched.1 history latched.2
      refine ⟨by simpa using hhandled, fun hne ↦ absurd rfl hne, fun h ↦ ?_, ?_⟩
      · have hcode : ¬Event.InRange latched.1 ∨ latched.1 = Event.lastCode := by
          refine h.imp_left fun hignored hrange ↦ ?_
          rw [hhandled.2 hrange] at hignored
          cases hignored
        obtain ⟨haside, hhistory⟩ := serve_aside respond hcode history latched.2
        refine ⟨?_, hhistory⟩
        rw [List.forall_mem_cons, List.forall_mem_cons]
        exact ⟨.inl rfl, .inl rfl, haside⟩
      · intro _ _ hrange hlast
        obtain ⟨event, hcode⟩ := Event.exists_code_eq hrange hlast
        have hserve := execute_serve_code respond event history latched.2
        rw [hcode] at hserve
        have hdispatched := dispatched_serve respond latched.1 history latched.2
        rw [← hcode, Event.ofCode?_code, hcode] at hdispatched
        exact ⟨event, hcode, hdispatched, by rw [hserve], by rw [hserve]⟩
  · have hexecution : execution = ⟨(.ignored, history), state, []⟩ := by
      show (interrupt number history).execute respond state = _
      rw [interrupt_of_ne hnumber]
      rfl
    rw [hexecution]
    simp [hnumber]

/-- A foreign interrupt, the end marker, and the key of the wireless radio, on machines that are
about to show them. -/
theorem interrupt_verdict_foreign_marker_wireless :
    ((interrupt 9 { }).execute Machine.respond { pending := [.ok 0x30] }).trace = [] ∧
    (let marker := (interrupt 10 { }).execute Machine.respond { pending := [.ok 0x31] };
      (∀ exchange ∈ marker.trace, IsAside exchange) ∧ marker.value.2 = { }) ∧
    (let key := (interrupt 10 { }).execute Machine.respond { pending := [.ok 0x30] };
      ∃ event : Event, event.code = 0x30 ∧ Trace.dispatched key.trace = [event]) := by
  obtain ⟨-, hforeign, -⟩ := interrupt_verdict Machine.respond 9 { } { pending := [.ok 0x30] }
  obtain ⟨-, -, hmarker, -⟩ := interrupt_verdict Machine.respond 10 { } { pending := [.ok 0x31] }
  obtain ⟨-, -, -, hkey⟩ := interrupt_verdict Machine.respond 10 { } { pending := [.ok 0x30] }
  obtain ⟨event, hcode, hdispatched, -⟩ := hkey rfl rfl (by decide) (by decide)
  exact ⟨(hforeign (by decide)).1, hmarker (.inr rfl), event, hcode, hdispatched⟩

end LaptopDriver.Hotkey
