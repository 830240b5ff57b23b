import LaptopDriver.Proofs.Machine.Envelope

/-!
# Calls that do not interfere

Most of what the rest of the system calls the driver for is to read something. Such a call goes to
the same controller as everything else the driver does, and it is made at any time: between two
operations, or after the hardware has changed and before the operation that is due to the change.

`Interleaves` says how a run comes about from another one by inserting calls. Where the calls are
accessors (`Operation.IsAccessor`) and reading a register changes nothing (`ReadsPurely`), the run
with the calls does with each step of the other run what that run does with it, to the last
request, and ends where that run ends (`run_of_interleaves`). An accessor leaves both the
hardware and the driver as it found them (`execute_perform_accessor`), so the proof is an induction
on how the calls were inserted, in which every call drops out.
-/

namespace LaptopDriver

open Controller Routine Thermal

variable {σ : Type} (respond : Responder (Request.Answer Chipset.Request.Answer) σ)

/-! ### Accessors -/

/-- Where the hardware is in `state`, reading a register has no side effect. -/
structure ReadsPurely (state : σ) : Prop where
  /-- Reading a register leaves the hardware in its state. -/
  read : ∀ register, (respond (.controller (.read register)) state).2 = state
  /-- A record goes to the log, and the hardware does not see it. -/
  log : ∀ record, (respond (.log record) state).2 = state

/-- The operation is an accessor while the hardware is in `state`: it takes a reading, or it is to
change the fan and is refused. A fan mode is refused for its number, and a level of the fan while
the fan is not driven by hand. -/
def Operation.IsAccessor (state : σ) : Operation → Prop
  | read _ => True
  | setFanMode number => (FanMode.ofNumber number).toOption = none
  | setFanLevel _ => (respond (.controller (.read .fanManual)) state).1 ≠ 1
  | _ => False

instance (state : σ) : (operation : Operation) → Decidable (operation.IsAccessor respond state)
  | .read _ => inferInstanceAs (Decidable True)
  | .setFanMode number => inferInstanceAs (Decidable ((FanMode.ofNumber number).toOption = none))
  | .setFanLevel _ => inferInstanceAs (Decidable (_ ≠ _))
  | .load _ | .unload | .interrupt _ | .reportLid _ | .suspend | .resume | .setBrightness _ =>
    inferInstanceAs (Decidable False)

variable {respond} {state : σ}

/-- A request to read a register or to note something down leaves the hardware as it is. -/
theorem ReadsPurely.state_eq (h : ReadsPurely respond state) {request : Request Chipset.Request}
    (htopic : request.topic ∈ [.reading, .note]) : (respond request state).2 = state := by
  cases request with
  | controller request =>
    cases request with
    | read register => exact h.read register
    | _ => simp at htopic
  | chipset request => cases request <;> simp at htopic
  | supply request => simp at htopic
  | input request => simp at htopic
  | log record => exact h.log record

/-- A routine that does nothing else leaves the hardware as it is. -/
theorem Routine.Within.state_eq {α : Type} {topics : List Topic} {routine : Routine α}
    (h : Within topics routine) (hpure : ReadsPurely respond state)
    (htopics : topics ⊆ [.reading, .note]) : (routine.execute respond state).state = state :=
  Program.Asks.stays respond h fun _ hmem ↦ hpure.state_eq (htopics hmem)

/-- To set the level of a fan that is not driven by hand leaves the hardware as it is. -/
theorem Thermal.Fan.state_setLevel (hpure : ReadsPurely respond state)
    (hmanual : (respond (.controller (.read .fanManual)) state).1 ≠ 1) (level : Nat) :
    ((Fan.setLevel level).execute respond state).state = state := by
  have hread : ((Routine.read .fanManual).execute respond state).state = state :=
    (within_read .fanManual).state_eq hpure (by simp)
  have hshown : ((Routine.read .fanManual).execute respond state).value ≠ 1 := hmanual
  rw [Fan.setLevel, Program.execute_bind]
  dsimp only
  rw [hread, if_neg hshown]
  exact hpure.log .fanLevelIgnored

/-- To set a fan mode that does not exist leaves the hardware as it is. -/
theorem Laptop.state_setFanMode (hpure : ReadsPurely respond state) {number : Nat}
    (hrefused : (FanMode.ofNumber number).toOption = none) :
    ((setFanMode number).execute respond state).state = state := by
  rw [setFanMode]
  cases hmode : FanMode.ofNumber number with
  | error refusal =>
    have hlog : Within [.note] (do
        Routine.log (.fanModeRefused refusal)
        pure (Outcome.fanModeRefused refusal)) := by simp
    exact hlog.state_eq hpure (by simp)
  | ok mode =>
    rw [hmode] at hrefused
    cases hrefused

/-- A loaded driver that does no more than answer is left as it is. -/
theorem Laptop.execute_answer {α : Type} {routine : Routine α} (answer : α → Outcome)
    (laptop : Laptop) (hstate : (routine.execute respond state).state = state) :
    let execution := (routine >>= fun value ↦
      (pure (answer value, some laptop) : Routine (Outcome × Option Laptop))).execute respond state
    execution.value.2 = some laptop ∧ execution.state = state := by
  intro execution
  have hexecution : execution = _ := Program.execute_bind respond routine _ state
  rw [hexecution]
  exact ⟨rfl, hstate⟩

/-- An accessor leaves the hardware and the driver as they are. -/
theorem Operation.execute_perform_accessor {operation : Operation}
    (h : operation.IsAccessor respond state) (hpure : ReadsPurely respond state)
    (laptop : Option Laptop) :
    let execution := (operation.perform laptop).execute respond state
    execution.value.2 = laptop ∧ execution.state = state := by
  cases laptop with
  | none =>
    cases operation with
    | read | setFanMode | setFanLevel => exact ⟨rfl, rfl⟩
    | _ => exact h.elim
  | some laptop =>
    cases operation with
    | read reading =>
      exact laptop.execute_answer .value (reading.within_take.state_eq hpure (by simp))
    | setFanMode number => exact laptop.execute_answer id (Laptop.state_setFanMode hpure h)
    | setFanLevel level =>
      exact laptop.execute_answer (fun _ ↦ .done) (Fan.state_setLevel hpure h level)
    | _ => exact h.elim

/-! ### Machines that read purely -/

/-- On a machine that keeps what is written to it, reading a register changes nothing. -/
theorem Machine.Faithful.readsPurely {machine : Machine} (h : machine.Faithful) :
    ReadsPurely Machine.respond machine where
  read register := congrArg (·.2) (Machine.readRegister_of_script (h register))
  log _ := rfl

/-- From a machine that keeps what is written to it, every operation of a run starts on one. -/
theorem started_faithful {steps : List (Step Machine)} (hsteps : ∀ step ∈ steps, step.KeepsFaith)
    (laptop : Option Laptop) {machine : Machine} (hmachine : machine.Faithful) :
    ∀ transition ∈ transitions Machine.executor steps laptop machine,
      transition.started.Faithful := by
  induction steps generalizing laptop machine with
  | nil => exact List.forall_mem_nil _
  | cons step steps ih =>
    obtain ⟨hstep, hrest⟩ := List.forall_mem_cons.1 hsteps
    have hstarted : (step.change machine).Faithful := hstep machine hmachine
    rw [transitions_cons]
    exact List.forall_mem_cons.2 ⟨hstarted, ih hrest _ (hstarted.execute _)⟩

/-! ### Inserted calls -/

/-- A step of a run into which calls were inserted. -/
structure Entry (σ : Type) where
  step : Step σ
  /-- Whether the step is an inserted call. -/
  inserted : Bool

/-- The entries are the steps of a run, in order, with calls inserted. -/
inductive Interleaves : List (Step σ) → List (Entry σ) → Prop where
  /-- There is nothing to insert calls into. -/
  | nil : Interleaves [] []
  /-- A step of the run is next. -/
  | step {steps : List (Step σ)} {entries : List (Entry σ)} (step : Step σ)
      (h : Interleaves steps entries) : Interleaves (step :: steps) (⟨step, false⟩ :: entries)
  /-- A call is inserted before the next step. -/
  | call {steps : List (Step σ)} {entries : List (Entry σ)} (call : Operation)
      (h : Interleaves steps entries) : Interleaves steps (⟨⟨id, call⟩, true⟩ :: entries)
  /-- A call is inserted into the next step, after its change of the hardware and before its
  operation. -/
  | amid {steps : List (Step σ)} {entries : List (Entry σ)} (change : σ → σ)
      (operation call : Operation) (h : Interleaves (⟨id, operation⟩ :: steps) entries) :
      Interleaves (⟨change, operation⟩ :: steps) (⟨⟨change, call⟩, true⟩ :: entries)

variable (respond)

/-- The call is an accessor, and it is made where reading a register changes nothing. -/
def Transition.Unobtrusive
    (transition : Transition (Request.Answer Chipset.Request.Answer) σ) : Prop :=
  ReadsPurely respond transition.started ∧
    transition.step.operation.IsAccessor respond transition.started

/-- What is known after the steps that were not inserted. -/
def keptStages (entries : List (Entry σ))
    (history : List (Transition (Request.Answer Chipset.Request.Answer) σ)) :
    List (Stage (Request.Answer Chipset.Request.Answer) σ) :=
  ((entries.zip history).filter fun entry ↦ !entry.1.inserted).map (·.2.stage)

/-- A call that is unobtrusive leads to where its step's change of the hardware leads. -/
theorem Step.stage_of_unobtrusive {step : Step σ} {laptop : Option Laptop} {hardware : σ}
    (h : (step.transition (executorOf respond) laptop hardware).Unobtrusive respond) :
    let stage := (step.transition (executorOf respond) laptop hardware).stage
    stage.laptop = laptop ∧ stage.hardware = step.change hardware :=
  Operation.execute_perform_accessor h.2 h.1 laptop

/-- The inserted calls of a run are all unobtrusive. -/
def CallsUnobtrusive (entries : List (Entry σ))
    (history : List (Transition (Request.Answer Chipset.Request.Answer) σ)) : Prop :=
  ∀ entry ∈ entries.zip history, entry.1.inserted = true → entry.2.Unobtrusive respond

/-- An unobtrusive call drops out: what is kept of the run, and where it ends, is the same without
the call, from where the call's change of the hardware leads. -/
theorem drop_call {step : Step σ} {entries : List (Entry σ)} {laptop : Option Laptop} {hardware : σ} :
    let history := transitions (executorOf respond) (step :: entries.map (·.step)) laptop hardware
    let rest := transitions (executorOf respond) (entries.map (·.step)) laptop (step.change hardware)
    CallsUnobtrusive respond (⟨step, true⟩ :: entries) history →
    CallsUnobtrusive respond entries rest ∧
      keptStages (⟨step, true⟩ :: entries) history = keptStages entries rest ∧
      hardwareAfter hardware history = hardwareAfter (step.change hardware) rest ∧
      laptopAfter laptop history = laptopAfter laptop rest := by
  intro history rest hcalls
  obtain ⟨hcall, hrest⟩ := List.forall_mem_cons.1 hcalls
  obtain ⟨hlaptop, hhardware⟩ := step.stage_of_unobtrusive respond (hcall rfl)
  let call := step.transition (executorOf respond) laptop hardware
  have hhistory : history = call :: rest := by
    unfold history rest
    rw [transitions_cons, hlaptop, hhardware]
  rw [hlaptop, hhardware] at hrest
  refine ⟨hrest, ?_, ?_, ?_⟩
  · rw [hhistory]
    rfl
  · rw [hhistory]
    exact congrArg (hardwareAfter · rest) hhardware
  · rw [hhistory]
    exact congrArg (laptopAfter · rest) hlaptop

/-- Inserting unobtrusive calls into a run changes nothing about it: every step of the run ends the
same way, with the same driver, hardware and trace after it, and so does the run. -/
theorem run_of_interleaves {steps : List (Step σ)} {entries : List (Entry σ)}
    (hinterleaves : Interleaves steps entries) (laptop : Option Laptop) (hardware : σ) :
    let history := transitions (executorOf respond) (entries.map (·.step)) laptop hardware
    let original := transitions (executorOf respond) steps laptop hardware
    CallsUnobtrusive respond entries history →
    keptStages entries history = original.map (·.stage) ∧
      hardwareAfter hardware history = hardwareAfter hardware original ∧
      laptopAfter laptop history = laptopAfter laptop original := by
  induction hinterleaves generalizing laptop hardware with
  | nil => exact fun _ ↦ ⟨rfl, rfl, rfl⟩
  | step step h ih =>
    intro history original hcalls
    obtain ⟨-, hcalls⟩ := List.forall_mem_cons.1 hcalls
    obtain ⟨hkept, hhardware, hlaptop⟩ := ih _ _ hcalls
    exact ⟨congrArg (_ :: ·) hkept, hhardware, hlaptop⟩
  | call call h ih =>
    intro history original hcalls
    obtain ⟨hrest, hkept, hhardware, hlaptop⟩ := drop_call respond hcalls
    obtain ⟨hkept', hhardware', hlaptop'⟩ := ih laptop hardware hrest
    exact ⟨hkept.trans hkept', hhardware.trans hhardware', hlaptop.trans hlaptop'⟩
  | amid change operation call h ih =>
    -- The change of the hardware was the call's, so it is behind the operation when its turn comes.
    intro history original hcalls
    obtain ⟨hrest, hkept, hhardware, hlaptop⟩ := drop_call respond hcalls
    obtain ⟨hkept', hhardware', hlaptop'⟩ := ih laptop (change hardware) hrest
    exact ⟨hkept.trans hkept', hhardware.trans hhardware', hlaptop.trans hlaptop'⟩

/-- Calls around a brightness key: a fan mode that does not exist, a reading of the level after the
firmware has moved it and before the interrupt for the key, and a level for a fan that is not driven
by hand. -/
theorem run_of_interleaves_brightness_key :
    let press (machine : Machine) : Machine :=
      { machine with
        registers := machine.registers.write .displayBrightness 5
        pending := [.ok 0x2D] }
    let steps : List (Step Machine) := [⟨id, .load { }⟩, ⟨press, .interrupt 10⟩]
    let entries : List (Entry Machine) :=
      [⟨⟨id, .load { }⟩, false⟩, ⟨⟨id, .setFanMode 7⟩, true⟩, ⟨⟨press, .read .brightness⟩, true⟩,
        ⟨⟨id, .setFanLevel 3⟩, true⟩, ⟨⟨id, .interrupt 10⟩, false⟩]
    let history := transitions (executorOf Machine.respond) (entries.map (·.step)) none { }
    let original := transitions (executorOf Machine.respond) steps none { }
    Interleaves steps entries ∧ CallsUnobtrusive Machine.respond entries history ∧
      keptStages entries history = original.map (·.stage) ∧
      hardwareAfter { } history = hardwareAfter { } original ∧
      laptopAfter none history = laptopAfter none original := by
  intro press steps entries history original
  have hinterleaves : Interleaves steps entries :=
    .step _ (.call _ (.amid _ _ _ (.call _ (.step _ .nil))))
  have hsteps : ∀ step ∈ entries.map (·.step), step.KeepsFaith := by
    simp only [entries, List.map_cons, List.map_nil, List.forall_mem_cons]
    refine ⟨?_, ?_, ?_, ?_, ?_, List.forall_mem_nil _⟩ <;> exact fun _ h ↦ h
  have haccessors : ∀ entry ∈ entries.zip history, entry.1.inserted = true →
      entry.2.step.operation.IsAccessor Machine.respond entry.2.started := by
    decide +kernel
  have hcalls : CallsUnobtrusive Machine.respond entries history := by
    intro entry hmem hinserted
    have hstarted := started_faithful hsteps none (fun _ ↦ rfl) _ (List.of_mem_zip hmem).2
    exact ⟨hstarted.readsPurely, haccessors entry hmem hinserted⟩
  exact ⟨hinterleaves, hcalls, run_of_interleaves Machine.respond hinterleaves none { } hcalls⟩

end LaptopDriver
