import LaptopDriver.Proofs.Trace

/-!
# Serving an event number

The numbers that the interrupt handler accepts are those of the events and the end marker, without
a gap (`Event.inRange_iff`). So there are three ways of serving a number, and this module says what
each of them leaves in a trace:

* the number of an event is responded to (`serve_code`);
* the end marker is noted down, and counts as handled (`serve_lastCode`);
* any other number is noted down, and is left to other handlers (`serve_of_not_inRange`).

The interrupt handler is then put together from them: it serves the number that is latched after a
query that succeeds (`execute_interrupt_ok`), and gives up on one that fails
(`execute_interrupt_error`).
-/

namespace LaptopDriver.Hotkey

open Controller

/-! ### The numbers of the events -/

namespace Event

theorem inRange_code (event : Event) : InRange event.code := by
  have hall : ∀ event ∈ all, InRange event.code := by decide
  exact hall event event.mem_all

/-- The accepted numbers below the end marker are those of the events, without a gap. -/
theorem exists_code_eq {code : UInt8} (h : InRange code) (hlast : code ≠ lastCode) :
    ∃ event : Event, event.code = code := by
  have hdecodes : ∀ n < 0x31, 0x23 ≤ n → (ofCode? (UInt8.ofNat n)).isSome := by decide
  have hle : code.toNat ≤ 0x31 := UInt8.le_iff_toNat_le.1 h.2
  have hne : code.toNat ≠ 0x31 := fun heq ↦ hlast (UInt8.toNat_inj.1 heq)
  have hge : 0x23 ≤ code.toNat := UInt8.le_iff_toNat_le.1 h.1
  obtain ⟨event, hevent⟩ := Option.isSome_iff_exists.1 (hdecodes code.toNat (by omega) hge)
  rw [UInt8.ofNat_toNat] at hevent
  exact ⟨event, ofCode?_eq_some_iff.1 hevent⟩

/-- An accepted number is the number of an event or the end marker. -/
theorem inRange_iff {code : UInt8} :
    InRange code ↔ code = lastCode ∨ ∃ event : Event, event.code = code := by
  constructor
  · intro h
    by_cases hlast : code = lastCode
    · exact .inl hlast
    · exact .inr (exists_code_eq h hlast)
  · rintro (rfl | ⟨event, rfl⟩)
    · decide
    · exact inRange_code event

theorem ofCode?_eq_none_of_not_inRange {code : UInt8} (h : ¬InRange code) :
    ofCode? code = none := by
  refine Option.eq_none_iff_forall_ne_some.2 fun event hevent ↦ h ?_
  rw [← ofCode?_eq_some_iff.1 hevent]
  exact inRange_code event

end Event

/-! ### The three ways of serving a number -/

theorem serve_code (event : Event) (history : History) :
    serve event.code history = (do
      let history ← respond event history
      pure (.handled, history)) := by
  rw [serve]
  rw [if_pos event.inRange_code, Event.ofCode?_code]

theorem serve_lastCode (history : History) :
    serve Event.lastCode history = (do
      Routine.log (.unbound Event.lastCode)
      pure (.handled, history)) :=
  rfl

theorem serve_of_not_inRange {code : UInt8} (h : ¬Event.InRange code) (history : History) :
    serve code history = (do
      Routine.log (.outOfRange code)
      pure (.ignored, history)) :=
  if_neg h

variable {σ : Type} (respond : Responder (Request.Answer Chipset.Request.Answer) σ)

/-- Serving a number dispatches the event that has it, if there is one. -/
theorem dispatched_serve (code : UInt8) (history : History) (state : σ) :
    Trace.dispatched ((serve code history).execute respond state).trace =
      (Event.ofCode? code).toList := by
  by_cases hrange : Event.InRange code
  · rcases Event.inRange_iff.1 hrange with rfl | ⟨event, rfl⟩
    · rw [serve_lastCode]
      rfl
    · rw [serve_code, Program.execute_bind, Trace.dispatched_append, dispatched_respond,
        Event.ofCode?_code]
      rfl
  · rw [serve_of_not_inRange hrange, Event.ofCode?_eq_none_of_not_inRange hrange]
    rfl

/-! ### Handling an interrupt -/

theorem interrupt_of_ne {number : Nat} (h : number ≠ interruptNumber) (history : History) :
    interrupt number history = pure (.ignored, history) :=
  if_neg h

variable {respond}

/-- A query that fails is noted down, and that is all. -/
theorem execute_interrupt_error {state : σ} {fault : Fault}
    (h : (respond (.controller .query) state).1 = .error fault) (history : History) :
    let queried := (respond (.controller .query) state).2
    (interrupt interruptNumber history).execute respond state =
      { value := (.ignored, history)
        state := (respond (.log .queryFailed) queried).2
        trace := [⟨.controller .query, .error fault⟩, ⟨.log .queryFailed, ()⟩] } := by
  rw [interrupt]
  rw [if_pos rfl]
  simp [Program.send, h]

/-- After a query that succeeds the latched number is served. -/
theorem execute_interrupt_ok {state : σ} (h : (respond (.controller .query) state).1 = .ok ())
    (history : History) :
    let latched := respond (.controller .latched) (respond (.controller .query) state).2
    (interrupt interruptNumber history).execute respond state =
      { (serve latched.1 history).execute respond latched.2 with
        trace := ⟨.controller .query, .ok ()⟩ :: ⟨.controller .latched, latched.1⟩ ::
          ((serve latched.1 history).execute respond latched.2).trace } := by
  rw [interrupt]
  rw [if_pos rfl]
  simp [Program.send, h]

end LaptopDriver.Hotkey
