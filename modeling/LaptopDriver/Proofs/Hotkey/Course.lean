import LaptopDriver.Proofs.Hotkey.Verdict
import LaptopDriver.Proofs.Transition

/-!
# The course of a step

As far as the input layer, the power-supply layer and the memory between events are concerned, a
step of a run can take four courses: it serves one event, it loads the driver, it reports the lid on
request, or it passes by. `Transition.Course` lists them, with everything that each of them does,
and `Step.course` says that there is no other: whatever is loaded, whatever the operation, and
however the hardware answers. What a run does to input and memory is proved from this list, and
needs no further look into the operations.
-/

namespace LaptopDriver

open Controller Hotkey

variable {σ : Type} (respond : Responder (Request.Answer Chipset.Request.Answer) σ)

/-! ### Exchanges that pass by -/

/-- The exchange reports nothing, announces nothing and dispatches nothing. -/
def IsQuiet (exchange : Exchange (Request.Answer Chipset.Request.Answer)) : Prop :=
  exchange.op.topic ∉ [.input, .supply, .dispatch]

theorem Hotkey.IsAside.isQuiet {exchange : Exchange (Request.Answer Chipset.Request.Answer)}
    (h : IsAside exchange) : IsQuiet exchange := by
  rw [IsQuiet]
  rcases h with h | h <;>
  · rw [h]
    decide

theorem Routine.Within.isQuiet {α : Type} {topics : List Topic} {routine : Routine α}
    (h : Within topics routine) (hoff : ∀ topic ∈ topics, topic ∉ [Topic.input, .supply, .dispatch])
    (state : σ) : ∀ exchange ∈ (routine.execute respond state).trace, IsQuiet exchange :=
  fun exchange hmem ↦ hoff _ (h.topic_mem respond state exchange hmem)

/-! ### Interrupts -/

namespace Hotkey

/-- The trace begins with the query and the look at the latch for an event, and goes on with the
response to the event; what is remembered is what the response remembers. -/
def Serves (event : Event) (history : History) (served : σ) (trace : Trace)
    (remembered : History) : Prop :=
  let response := (Hotkey.respond event history).execute respond served
  trace = ⟨.controller .query, .ok ()⟩ :: ⟨.controller .latched, event.code⟩ :: response.trace ∧
    remembered = response.value

/-- Handling an interrupt is an aside that teaches nothing, or it serves one event. -/
theorem interrupt_cases (number : Nat) (history : History) (state : σ) :
    let execution := (interrupt number history).execute respond state
    ((∀ exchange ∈ execution.trace, IsAside exchange) ∧ execution.value.2 = history) ∨
      ∃ event served, Serves respond event history served execution.trace execution.value.2 := by
  intro execution
  by_cases hnumber : number = interruptNumber
  · subst hnumber
    cases hqueried : (respond (.controller .query) state).1 with
    | error fault =>
      have hexecution : execution = _ := execute_interrupt_error hqueried history
      rw [hexecution]
      refine .inl ⟨?_, rfl⟩
      simp [IsAside]
    | ok =>
      have hexecution : execution = _ := execute_interrupt_ok hqueried history
      rw [hexecution]
      generalize respond (.controller .latched) (respond (.controller .query) state).2 = latched
      obtain ⟨code, served⟩ := latched
      by_cases hevent : Event.InRange code ∧ code ≠ Event.lastCode
      · obtain ⟨event, rfl⟩ := Event.exists_code_eq hevent.1 hevent.2
        refine .inr ⟨event, served, ?_⟩
        rw [execute_serve_code]
        exact ⟨rfl, rfl⟩
      · have hcode : ¬Event.InRange code ∨ code = Event.lastCode := by
          simpa [Decidable.or_iff_not_imp_left] using hevent
        obtain ⟨haside, hhistory⟩ := serve_aside respond hcode history served
        refine .inl ⟨?_, hhistory⟩
        rw [List.forall_mem_cons, List.forall_mem_cons]
        exact ⟨.inl rfl, .inl rfl, haside⟩
  · have hexecution : execution = ⟨(.ignored, history), state, []⟩ := by
      show (interrupt number history).execute respond state = _
      rw [interrupt_of_ne hnumber]
      rfl
    rw [hexecution]
    exact .inl ⟨by simp, rfl⟩

end Hotkey

/-- The answer of a loaded driver to an interrupt is the verdict, and it remembers what the handler
does. -/
theorem Laptop.execute_perform_interrupt (laptop : Laptop) (number : Nat) (state : σ) :
    let handling := (interrupt number laptop.history).execute respond state
    (laptop.perform (.interrupt number)).execute respond state =
      { handling with
        value :=
          (.verdict handling.value.1, some { laptop with history := handling.value.2 }) } := by
  intro handling
  have hexecution := Program.execute_bind respond (interrupt number laptop.history)
    (fun value ↦ .done (Outcome.verdict value.1, some { laptop with history := value.2 })) state
  rw [Program.execute_done, List.append_nil] at hexecution
  exact hexecution

/-- Only an interrupt changes what a loaded driver remembers. -/
theorem Laptop.history_perform (laptop : Laptop) {operation : Operation}
    (h : ∀ number, operation ≠ .interrupt number) (state : σ) {after : Laptop}
    (hafter : ((laptop.perform operation).execute respond state).value.2 = some after) :
    after.history = laptop.history := by
  cases operation with
  | interrupt number => exact absurd rfl (h number)
  | unload => cases hafter
  | load settings =>
    cases hafter
    rfl
  | resume =>
    rw [perform, Program.execute_bind] at hafter
    revert hafter
    cases ((resume laptop.settings.settleTime).execute respond state).value <;>
    · rintro ⟨⟩
      rfl
  | _ =>
    rw [perform, Program.execute_bind] at hafter
    cases hafter
    rfl

/-! ### Loading -/

/-- The exchanges that report the lid by itself. -/
def lidTrace (status : Int) : Trace :=
  [⟨.input (.switch .lid (decide (status = 0))), ()⟩, ⟨.input .sync, ()⟩]

/-- Loading fails quietly, or it leaves a fresh driver and reports an open lid in the end. -/
theorem Laptop.load_cases (settings : Settings) (state : σ) :
    let execution := (Laptop.load settings).execute respond state
    ∃ quiet : Trace, (∀ exchange ∈ quiet, IsQuiet exchange) ∧
      ((∃ error, execution.value = .error error ∧ execution.trace = quiet) ∨
        ∃ backlight, execution.value = .ok { settings, backlight } ∧
          execution.trace = quiet ++ lidTrace 1) := by
  intro execution
  have hload : execution = _ := congrArg (Program.execute respond · state) (load_eq settings)
  have hprepared := (within_prepare settings).isQuiet respond (by decide) state
  rw [hload, Program.execute_bind]
  generalize (prepare settings).execute respond state = prepared at hprepared ⊢
  have harmed :=
    (InterruptLine.within_arm settings.settleTime).isQuiet respond (by decide) prepared.state
  rw [start, Program.execute_bind]
  generalize (InterruptLine.arm settings.settleTime).execute respond prepared.state = armed
    at harmed ⊢
  -- Up to here nothing is reported. The answer of the flush decides about the rest.
  have hquiet : ∀ exchange ∈ prepared.trace ++ armed.trace, IsQuiet exchange :=
    List.forall_mem_append.2 ⟨hprepared, harmed⟩
  obtain ⟨answer, state, trace⟩ := armed
  cases answer with
  | error fault =>
    refine ⟨prepared.trace ++ trace ++ [⟨.log (.loadFailed fault), ()⟩], ?_, .inl ⟨_, rfl, ?_⟩⟩
    · exact List.forall_mem_append.2 ⟨hquiet, by simp [IsQuiet]⟩
    · rw [List.append_assoc]
      rfl
  | ok =>
    refine ⟨prepared.trace ++ trace, hquiet, .inr ⟨prepared.value, rfl, ?_⟩⟩
    rw [List.append_assoc]
    rfl

/-- The operation that loads takes the course of the routine that does. -/
theorem Operation.load_cases (settings : Settings) (state : σ) :
    let execution := ((Operation.load settings).perform none).execute respond state
    ∃ quiet : Trace, (∀ exchange ∈ quiet, IsQuiet exchange) ∧
      ((∃ error, execution.value = (.startFailed error, none) ∧ execution.trace = quiet) ∨
        ∃ backlight, execution.value = (.done, some { settings, backlight }) ∧
          execution.trace = quiet ++ lidTrace 1) := by
  intro execution
  obtain ⟨quiet, hquiet, hcases⟩ := Laptop.load_cases respond settings state
  have hexecution : execution = _ := Program.execute_bind respond (Laptop.load settings) _ state
  rw [hexecution]
  refine ⟨quiet, hquiet, ?_⟩
  rcases hcases with ⟨error, hvalue, htrace⟩ | ⟨backlight, hvalue, htrace⟩
  · rw [hvalue, htrace]
    exact .inl ⟨error, rfl, List.append_nil _⟩
  · rw [hvalue, htrace]
    exact .inr ⟨backlight, rfl, List.append_nil _⟩

/-! ### Steps -/

namespace Transition

/-- The status with which the lid is reported by itself, apart from any event: a driver that was
just loaded takes it to be open, and a loaded driver reports it on request. -/
def lidStatus? (transition : Transition (Request.Answer Chipset.Request.Answer) σ) : Option Int :=
  match transition.step.operation, transition.stage.outcome with
  | .load _, .done => some 1
  | .reportLid status, .value _ => some status
  | _, _ => none

/-- Whether a transition loads the driver. -/
def loads (transition : Transition (Request.Answer Chipset.Request.Answer) σ) : Bool :=
  match transition.step.operation, transition.stage.outcome with
  | .load _, .done => true
  | _, _ => false

/-- A load that fails does not report the lid. -/
theorem of_load_failed {transition : Transition (Request.Answer Chipset.Request.Answer) σ}
    {settings : Settings} {error : StartError}
    (hoperation : transition.step.operation = .load settings)
    (houtcome : transition.stage.outcome = .startFailed error) :
    transition.lidStatus? = none ∧ transition.loads = false := by
  rw [lidStatus?, loads, hoperation, houtcome]
  exact ⟨rfl, rfl⟩

/-- A load that succeeds reports the lid as open. -/
theorem of_load_done {transition : Transition (Request.Answer Chipset.Request.Answer) σ}
    {settings : Settings} (hoperation : transition.step.operation = .load settings)
    (houtcome : transition.stage.outcome = .done) :
    transition.lidStatus? = some 1 ∧ transition.loads = true := by
  rw [lidStatus?, loads, hoperation, houtcome]
  exact ⟨rfl, rfl⟩

/-- The course of a transition, as far as input, announcements and memory go. -/
inductive Course (transition : Transition (Request.Answer Chipset.Request.Answer) σ) : Prop where
  /-- A loaded driver serves an event. -/
  | serves (laptop : Laptop) (event : Event) (served : σ) (history : History)
      (before : transition.laptop = some laptop)
      (after : transition.stage.laptop = some { laptop with history })
      (serves : Serves respond event laptop.history served transition.stage.trace history)
      (lid : transition.lidStatus? = none) (loads : transition.loads = false)
  /-- The driver is loaded. It remembers nothing yet, and reports the lid as open. -/
  | loads (laptop : Laptop) (quiet : Trace)
      (before : transition.laptop = none)
      (after : transition.stage.laptop = some laptop) (history : laptop.history = { })
      (trace : transition.stage.trace = quiet ++ lidTrace 1)
      (isQuiet : ∀ exchange ∈ quiet, IsQuiet exchange)
      (lid : transition.lidStatus? = some 1) (loads : transition.loads = true)
  /-- A loaded driver reports the lid. -/
  | reportsLid (status : Int)
      (after : transition.stage.laptop = transition.laptop)
      (trace : transition.stage.trace = lidTrace status)
      (lid : transition.lidStatus? = some status) (loads : transition.loads = false)
  /-- Nothing is reported, announced or dispatched, and nothing is learnt. -/
  | passes
      (after : ∀ laptop, transition.stage.laptop = some laptop →
        ∃ before, transition.laptop = some before ∧ laptop.history = before.history)
      (isQuiet : ∀ exchange ∈ transition.stage.trace, IsQuiet exchange)
      (lid : transition.lidStatus? = none) (loads : transition.loads = false)

end Transition

open Transition

/-- Loading while no driver is loaded takes one of two courses. -/
theorem Step.course_load (change : σ → σ) (settings : Settings) (hardware : σ) :
    let transition :=
      Step.transition (executorOf respond) ⟨change, .load settings⟩ none hardware
    transition.Course respond := by
  intro transition
  obtain ⟨quiet, hquiet, ⟨error, hvalue, htrace⟩ | ⟨backlight, hvalue, htrace⟩⟩ :=
    Operation.load_cases respond settings (change hardware)
  · have hlaptop : transition.stage.laptop = none := congrArg Prod.snd hvalue
    have hstage : transition.stage.trace = quiet := htrace
    have houtcome : transition.stage.outcome = .startFailed error := congrArg Prod.fst hvalue
    obtain ⟨hlid, hloads⟩ := of_load_failed rfl houtcome
    refine .passes (fun after h ↦ ?_) (hstage ▸ hquiet) hlid hloads
    rw [hlaptop] at h
    cases h
  · have hlaptop : transition.stage.laptop = some { settings, backlight } :=
      congrArg Prod.snd hvalue
    have houtcome : transition.stage.outcome = .done := congrArg Prod.fst hvalue
    obtain ⟨hlid, hloads⟩ := of_load_done rfl houtcome
    exact .loads _ quiet rfl hlaptop rfl htrace hquiet hlid hloads

/-- An interrupt of a loaded driver takes one of two courses. -/
theorem Step.course_interrupt (change : σ → σ) (number : Nat) (laptop : Laptop) (hardware : σ) :
    let transition :=
      Step.transition (executorOf respond) ⟨change, .interrupt number⟩ (some laptop) hardware
    transition.Course respond := by
  intro transition
  have hexecution := laptop.execute_perform_interrupt respond number (change hardware)
  have htrace : transition.stage.trace = _ := congrArg Execution.trace hexecution
  have hlaptop : transition.stage.laptop = some _ := congrArg (·.value.2) hexecution
  rcases interrupt_cases respond number laptop.history (change hardware) with
    ⟨haside, hhistory⟩ | ⟨event, served, hserves⟩
  · refine .passes (fun after h ↦ ⟨laptop, rfl, ?_⟩) ?_ rfl rfl
    · rw [hlaptop] at h
      obtain rfl := Option.some.inj h
      exact hhistory
    · rw [htrace]
      exact fun exchange hmem ↦ (haside exchange hmem).isQuiet
  · refine .serves laptop event served _ rfl hlaptop ?_ rfl rfl
    rwa [htrace]

/-- Every step, from wherever it starts, takes one of the four courses. -/
theorem Step.course (step : Step σ) (laptop : Option Laptop) (hardware : σ) :
    let transition := step.transition (executorOf respond) laptop hardware
    transition.Course respond := by
  obtain ⟨change, operation⟩ := step
  have hwithin := operation.within_perform laptop
  cases laptop with
  | none =>
    cases operation with
    | load settings => exact Step.course_load respond change settings hardware
    -- Nothing else is possible while no driver is loaded.
    | _ => exact .passes (by rintro _ ⟨⟩) (by rintro _ ⟨⟩) rfl rfl
  | some laptop =>
    intro transition
    have hafter (hne : ∀ number, operation ≠ .interrupt number) (after : Laptop)
        (h : transition.stage.laptop = some after) :
        ∃ before, some laptop = some before ∧ after.history = before.history :=
      ⟨laptop, rfl, laptop.history_perform respond hne (change hardware) h⟩
    cases operation with
    | interrupt number => exact Step.course_interrupt respond change number laptop hardware
    | reportLid status => exact .reportsLid status rfl rfl rfl rfl
    | load settings => exact .passes (hafter (by simp)) (by rintro _ ⟨⟩) rfl rfl
    | _ => exact .passes (hafter (by simp)) (hwithin.isQuiet respond (by simp) _) rfl rfl

end LaptopDriver
