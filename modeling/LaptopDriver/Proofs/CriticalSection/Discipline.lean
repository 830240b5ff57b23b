import LaptopDriver.Proofs.CriticalSection.Trace
import LaptopDriver.Proofs.Transition

/-!
# The discipline of critical sections

Every run of operations keeps to the discipline of critical sections, on whatever hardware it runs
and however that answers. There is one section for every operation that arms the interrupt line and
none for any other, failed attempts included (`disciplined_run`).

`Routine.Sections before after` is what is proved of every routine: executed anywhere, after
`before` sections, it keeps to the discipline and brings their number to `after`, which may depend
on its value. It composes along the sequencing of the routine (`Sections.bind`), and a routine that
is not about the routing of interrupts has no section because of what it is about
(`Within.sections`). That leaves the interrupt line, and only routing the line opens a section.
-/

namespace LaptopDriver

open Chipset InterruptLine Routine

namespace Routine

variable {α β : Type}

/-- Executed anywhere after `before` critical sections, the routine keeps to their discipline and
brings their number to `after`. -/
structure Sections (before : Nat) (after : α → Nat) (routine : Routine α) : Prop where
  disciplined : ∀ {σ : Type} (respond : Responder (Request.Answer Chipset.Request.Answer) σ)
    (state : σ), ∃ sections, Trace.Disciplined sections (routine.execute respond state).trace ∧
      before + sections = after (routine.execute respond state).value

/-! ### Along the construction of a routine -/

theorem sections_done {before : Nat} {after : α → Nat} {value : α} (h : before = after value) :
    Sections before after (.done value) :=
  ⟨fun _ _ ↦ ⟨0, Trace.disciplined_of_outside (List.forall_mem_nil _), h⟩⟩

/-- A routine that opens no section and writes no model-specific register leaves the number of
sections as it is. -/
theorem sections_of_asks {routine : Routine α} (before : Nat)
    (h : routine.Asks Request.IsOutside) : Sections before (fun _ ↦ before) routine :=
  ⟨fun respond state ↦ ⟨0, Trace.disciplined_of_outside (h.mem_trace respond state), rfl⟩⟩

theorem Within.sections {topics : List Topic} {routine : Routine α} (h : Within topics routine)
    (hrouting : Topic.routing ∉ topics) (before : Nat) :
    Sections before (fun _ ↦ before) routine :=
  sections_of_asks before (Program.Asks.mono h fun _ hmem ↦
    Request.isOutside_of_topic fun htopic ↦ hrouting (htopic ▸ hmem))

/-- Sections add up along a routine. -/
theorem Sections.bind {routine : Routine α} {next : α → Routine β} {before : Nat}
    {between : α → Nat} {after : β → Nat} (h : Sections before between routine)
    (hnext : ∀ value, Sections (between value) after (next value)) :
    Sections before after (routine >>= next) := by
  refine ⟨fun respond state ↦ ?_⟩
  obtain ⟨first, hfirst, hbetween⟩ := h.disciplined respond state
  let middle := routine.execute respond state
  obtain ⟨second, hsecond, hafter⟩ := (hnext middle.value).disciplined respond middle.state
  rw [Program.execute_bind]
  exact ⟨first + second, hfirst.append hsecond, by rw [← Nat.add_assoc, hbetween, hafter]⟩

/-- The sections of a routine that is executed by itself. -/
theorem Sections.disciplined_execute {σ : Type} {routine : Routine α} {after : α → Nat}
    (h : Sections 0 after routine)
    (respond : Responder (Request.Answer Chipset.Request.Answer) σ) (state : σ) :
    let execution := routine.execute respond state
    Trace.Disciplined (after execution.value) execution.trace := by
  intro execution
  obtain ⟨sections, hdisciplined, hsections⟩ := h.disciplined respond state
  rw [← hsections, Nat.zero_add]
  exact hdisciplined

end Routine

/-! ### The interrupt line -/

namespace InterruptLine

theorem sections_lookUpBase (before : Nat) : Sections before (fun _ ↦ before) lookUpBase :=
  sections_of_asks before ⟨⟨rfl, id⟩, fun _ ↦ trivial⟩

/-- Waiting in one go or bit by bit opens no section. -/
theorem asks_delay (milliseconds : Nat) :
    Program.Asks Request.IsOutside (Routine.delay milliseconds) :=
  ⟨⟨rfl, id⟩, fun _ ↦ trivial⟩

theorem sections_flush (before : Nat) : Sections before (fun _ ↦ before) flush :=
  sections_of_asks before ⟨⟨rfl, id⟩, fun _ ↦ trivial⟩

/-- Changing the registers is one critical section. -/
theorem sections_routeRegisters (before : Nat) :
    Sections before (fun _ ↦ before + 1) routeRegisters :=
  ⟨fun _ _ ↦ ⟨1, Trace.disciplined_section _ _ _, rfl⟩⟩

theorem sections_setUpPin (base : Port) (before : Nat) :
    Sections before (fun _ ↦ before) (setUpPin base) := by
  refine sections_of_asks before ?_
  exact ⟨⟨rfl, id⟩, fun _ ↦ ⟨⟨rfl, id⟩, fun _ ↦ ⟨⟨rfl, id⟩, fun _ ↦ ⟨⟨rfl, id⟩, fun _ ↦ trivial⟩⟩⟩⟩

theorem sections_route (base : Port) (before : Nat) :
    Sections before (fun _ ↦ before + 1) (route base) := by
  rw [route_eq]
  exact (sections_routeRegisters before).bind fun _ ↦ sections_setUpPin base _

theorem sections_routeAtBase (before : Nat) :
    Sections before (fun _ ↦ before + 1) routeAtBase :=
  (sections_lookUpBase before).bind fun base ↦ sections_route base before

/-- Arming opens a section if the controller answers the flush. -/
theorem sections_arm (settleTime : Nat) :
    Sections 0 (fun answer ↦ answer.isOk.toNat) (arm settleTime) := by
  refine (sections_lookUpBase 0).bind fun base ↦ ?_
  refine (sections_flush 0).bind fun answer ↦ ?_
  cases answer with
  | error fault => exact sections_done rfl
  | ok =>
    refine (sections_of_asks 0 (asks_delay settleTime)).bind fun _ ↦ ?_
    exact (sections_route base 0).bind fun _ ↦ sections_done rfl

theorem sections_rearm (settleTime : Nat) :
    Sections 0 (fun answer ↦ answer.isOk.toNat) (rearm settleTime) := by
  refine (sections_flush 0).bind fun answer ↦ ?_
  cases answer with
  | error fault => exact sections_done rfl
  | ok =>
    refine (sections_of_asks 0 ((asks_delay 1).times settleTime)).bind fun _ ↦ ?_
    exact (sections_routeAtBase 0).bind fun _ ↦ sections_done rfl

end InterruptLine

/-! ### Operations -/

/-- Whether an operation that ended so has armed the interrupt line. -/
def Operation.arms : Operation → Outcome → Bool
  | load _, .done => true
  | resume, .done => true
  | _, _ => false

/-- Whether a transition arms the interrupt line. -/
def Transition.arms {Op : Type} {Answer : Op → Type} {σ : Type}
    (transition : Transition Answer σ) : Bool :=
  transition.step.operation.arms transition.stage.outcome

namespace Laptop

theorem sections_load (settings : Settings) :
    Sections 0 (fun answer ↦ answer.isOk.toNat) (load settings) := by
  rw [load_eq]
  refine ((within_prepare settings).sections (by simp) 0).bind fun backlight ↦ ?_
  refine (sections_arm _).bind fun answer ↦ ?_
  cases answer with
  | error fault => exact ((within_log _).sections (by simp) 0).bind fun _ ↦ sections_done rfl
  | ok => exact ((Input.within_reportLid 1).sections (by simp) 1).bind fun _ ↦ sections_done rfl

theorem sections_resume (settleTime : Nat) :
    Sections 0 (fun answer ↦ answer.isOk.toNat) (resume settleTime) := by
  refine ((within_switchDevices true).sections (by simp) 0).bind fun _ ↦ ?_
  refine (sections_rearm settleTime).bind fun answer ↦ ?_
  cases answer with
  | error fault => exact ((within_log _).sections (by simp) 0).bind fun _ ↦ sections_done rfl
  | ok => exact sections_done rfl

end Laptop

/-- An operation has one critical section if it arms the interrupt line, and none otherwise. -/
theorem Operation.sections_perform (operation : Operation) (laptop : Option Laptop) :
    Sections 0 (fun value ↦ (operation.arms value.1).toNat) (operation.perform laptop) := by
  have hwithin := operation.within_perform laptop
  cases laptop with
  | none =>
    cases operation with
    | load settings =>
      exact (Laptop.sections_load settings).bind fun answer ↦ by
        cases answer <;> exact sections_done rfl
    | _ => exact sections_done rfl
  | some laptop =>
    cases operation with
    | load settings => exact sections_done rfl
    | resume =>
      exact (Laptop.sections_resume _).bind fun answer ↦ by
        cases answer <;> exact sections_done rfl
    -- Every other operation is off the routing of interrupts.
    | _ => exact hwithin.sections (by simp) 0

/-! ### Runs -/

section Run

variable {σ : Type} (respond : Responder (Request.Answer Chipset.Request.Answer) σ)

/-- Disciplined steps in a row have the sections of those that arm the interrupt line. -/
theorem Trace.disciplined_flatMap
    {history : List (Transition (Request.Answer Chipset.Request.Answer) σ)}
    (h : ∀ transition ∈ history,
      Trace.Disciplined transition.arms.toNat transition.stage.trace) :
    Trace.Disciplined (history.countP (·.arms)) (history.flatMap (·.stage.trace)) := by
  induction history with
  | nil => exact Trace.disciplined_of_outside (List.forall_mem_nil _)
  | cons transition history ih =>
    obtain ⟨hfirst, hrest⟩ := List.forall_mem_cons.1 h
    have hcount : (transition :: history).countP (·.arms) =
        transition.arms.toNat + history.countP (·.arms) := by
      rw [List.countP_cons, Nat.add_comm]
      cases transition.arms <;> rfl
    rw [hcount, List.flatMap_cons]
    exact hfirst.append (ih hrest)

/-- Every run keeps to the discipline of critical sections, step by step and as a whole: a load or a
resume that succeeds has one section, and nothing else has any. Of what the hotkeys do by themselves,
arming the interrupt line has one if it succeeds, routing it has one, and flushing an event, handling
an interrupt and reporting the lid have none. -/
theorem disciplined_run (steps : List (Step σ)) (laptop : Option Laptop) (state : σ) :
    let history := transitions (executorOf respond) steps laptop state
    (∀ transition ∈ history,
      Trace.Disciplined transition.arms.toNat transition.stage.trace) ∧
    Trace.Disciplined (history.countP (·.arms)) (history.flatMap (·.stage.trace)) ∧
    (∀ settleTime,
      let armed := (arm settleTime).execute respond state
      Trace.Disciplined armed.value.isOk.toNat armed.trace) ∧
    Trace.Disciplined 1 (routeAtBase.execute respond state).trace ∧
    Trace.Disciplined 0 (flush.execute respond state).trace ∧
    (∀ number remembered,
      Trace.Disciplined 0 ((Hotkey.interrupt number remembered).execute respond state).trace) ∧
    ∀ status, Trace.Disciplined 0 ((Input.reportLid status).execute respond state).trace := by
  intro history
  have hsteps : ∀ transition ∈ history,
      Trace.Disciplined transition.arms.toNat transition.stage.trace :=
    forall_transitions _ (fun step _ laptop hardware ↦
      (step.operation.sections_perform laptop).disciplined_execute respond (step.change hardware))
      laptop state
  refine ⟨hsteps, Trace.disciplined_flatMap hsteps, fun settleTime ↦ ?_, ?_, ?_,
    fun number remembered ↦ ?_, fun status ↦ ?_⟩
  · exact (sections_arm settleTime).disciplined_execute respond state
  · exact (sections_routeAtBase 0).disciplined_execute respond state
  · exact (sections_flush 0).disciplined_execute respond state
  · have hinterrupt := (Hotkey.within_interrupt number remembered).sections (by simp) 0
    exact hinterrupt.disciplined_execute respond state
  · have hreport := (Input.within_reportLid status).sections (by simp) 0
    exact hreport.disciplined_execute respond state

end Run

end LaptopDriver
