import LaptopDriver.MachineCode.Library
import LaptopDriver.Proofs.CriticalSection.Discipline
import LaptopDriver.Proofs.MachineCode.Execution

/-!
# Machine code linked with a library

Whatever library the driver is linked with, as long as that does what it documents, the linked
machine code does what the driver asks for (`linked_faithful`): it comes to the same values and the
same machine, and it executes the instructions for the driver's requests and no others.

This needs that critical sections are not nested: inside of one, the library would execute nothing
for another. `InterruptState.Unnested` is the invariant. It holds of every operation, by the
discipline of critical sections, and while it holds, linked code for a request is the code for that
request with the state of the interrupts carried along (`Request.link_eq`).
-/

namespace LaptopDriver

open Chipset

/-! ### The state of the interrupts -/

namespace InterruptState

/-- Interrupts get through, and no section is entered. -/
def outside : InterruptState := ⟨true, []⟩

/-- One section is entered, from outside. -/
def inside : InterruptState := ⟨false, [true]⟩

/-- The state after a request, by what the request decides about interrupts. -/
def after (state : InterruptState) : Option Bool → InterruptState
  | none => state
  | some false => ⟨false, state.enabled :: state.entered⟩
  | some true => ⟨state.entered.headD state.enabled, state.entered.tail⟩

/-- The library documents what it executes in this state for a request that decides so about
interrupts. -/
def Allows (state : InterruptState) : Option Bool → Prop
  | none => True
  | some false => state.enabled = true
  | some true => state.entered.headD state.enabled = true

/-- What is decided about interrupts from this state on leaves the section that is entered, if one
is, and then enters and leaves sections one after the other. -/
structure Unnested (state : InterruptState) (decisions : List Bool) : Prop where
  state_eq : state = outside ∨ state = inside
  alternates : ∃ sections, decisions =
    state.entered ++ (List.replicate sections [false, true]).flatten

theorem Unnested.eq_outside {state : InterruptState} (h : Unnested state []) :
    state = outside := by
  obtain ⟨rfl | rfl, sections, halternates⟩ := h
  · rfl
  · cases halternates

/-- What is decided next is documented, and what comes after it is unnested again. -/
theorem Unnested.step {state : InterruptState} {decision : Option Bool} {rest : List Bool}
    (h : Unnested state (decision.toList ++ rest)) :
    state.Allows decision ∧ Unnested (state.after decision) rest := by
  obtain ⟨hstate, sections, halternates⟩ := h
  cases decision with
  | none => exact ⟨trivial, hstate, sections, halternates⟩
  | some enabled =>
    rcases hstate with rfl | rfl
    · -- From outside a section can only be entered, so there is one left to come.
      cases sections with
      | zero => cases halternates
      | succ sections =>
        obtain ⟨rfl, rfl⟩ := List.cons.inj halternates
        exact ⟨rfl, .inr rfl, sections, rfl⟩
    · obtain ⟨rfl, rfl⟩ := List.cons.inj halternates
      exact ⟨rfl, .inl rfl, sections, rfl⟩

end InterruptState

/-- The critical sections of an operation are not nested. -/
theorem Operation.unnested (operation : Operation) (laptop : Option Laptop) (machine : Machine) :
    InterruptState.outside.Unnested
      (Trace.interrupts ((operation.perform laptop).execute Machine.respond machine).trace) :=
  ⟨.inl rfl, _, ((operation.sections_perform laptop).disciplined_execute _ machine).alternates⟩

/-! ### Linked requests -/

section Link

variable {library : ProcessorLibrary} (hlibrary : library.Documented)

include hlibrary

theorem ProcessorLibrary.carryOut_eq {state : InterruptState} {request : Chipset.Request}
    (h : state.Allows (Request.chipset request).interrupts?) :
    library.carryOut request state =
      (·, state.after (Request.chipset request).interrupts?) <$> request.carryOut := by
  cases request with
  | readMsr number =>
    rw [carryOut, hlibrary.readMsr]
    rfl
  | writeMsr number contents =>
    rw [carryOut, hlibrary.writeMsr]
    rfl
  | maskInterrupts =>
    have henabled : state.enabled = true := h
    show _ = (·, InterruptState.mk false (state.enabled :: state.entered)) <$> _
    rw [carryOut, henabled, hlibrary.enterSection]
    rfl
  | unmaskInterrupts =>
    have hbefore : state.entered.headD state.enabled = true := h
    show _ = (·, InterruptState.mk (state.entered.headD state.enabled) state.entered.tail) <$> _
    rw [carryOut, hbefore, hlibrary.leaveSection]
    rfl
  | _ => rfl

/-- Where the library documents what it executes, linking only carries the state along. -/
theorem Request.link_eq {state : InterruptState} {request : Request Chipset.Request}
    (h : state.Allows request.interrupts?) :
    request.link library state = (·, state.after request.interrupts?) <$> request.compile := by
  cases request with
  | chipset request =>
    rw [link, ProcessorLibrary.carryOut_eq hlibrary h, MachineCode.ofInstructions_map]
    rfl
  | _ => rfl

/-- While sections are not nested, a linked routine comes to the value and the machine that it would
come to by itself, by the instructions for its requests, and leaves no section entered. -/
theorem Routine.execute_link {α : Type} (routine : Routine α) {state : InterruptState}
    (machine : Machine)
    (h : state.Unnested (Trace.interrupts (routine.execute Machine.respond machine).trace)) :
    let execution := routine.execute Machine.respond machine
    (routine.link library state).execute Machine.respondToInstruction machine =
      ⟨(execution.value, .outside), execution.state,
        execution.trace.flatMap Exchange.instructions⟩ := by
  induction routine generalizing state machine with
  | done value =>
    obtain rfl := h.eq_outside
    rfl
  | ask request next ih =>
    rw [Program.execute_ask] at h ⊢
    rw [Trace.interrupts_cons] at h
    obtain ⟨hallows, hrest⟩ := h.step
    rw [link, Program.execute_bind, request.link_eq hlibrary hallows, Program.execute_map,
      request.execute_compile, ih _ _ hrest]
    rfl

end Link

/-! ### Runs -/

/-- What is known after a step, when the chipset is addressed by instructions and interrupts get
through again. -/
def Stage.instructions (stage : Stage (Request.Answer Chipset.Request.Answer) Machine) :
    Stage (Request.Answer Instruction.Answer) (Machine × InterruptState) :=
  { outcome := stage.outcome
    laptop := stage.laptop
    hardware := (stage.hardware, .outside)
    trace := stage.trace.flatMap Exchange.instructions }

section Run

variable {library : ProcessorLibrary} (hlibrary : library.Documented)

include hlibrary

theorem Step.execute_linked (step : Step Machine) (laptop : Option Laptop) (machine : Machine) :
    step.withInterrupts.execute library.executor laptop (machine, .outside) =
      (step.execute Machine.executor laptop machine).instructions := by
  have hlink := (step.operation.perform laptop).execute_link hlibrary (step.change machine)
    (step.operation.unnested laptop _)
  exact congrArg (fun execution ↦
    (⟨execution.value.1.1, execution.value.1.2, (execution.state, execution.value.2),
      execution.trace⟩ : Stage (Request.Answer Instruction.Answer) (Machine × InterruptState))) hlink

theorem run_linked (steps : List (Step Machine)) (laptop : Option Laptop) (machine : Machine) :
    run library.executor (steps.map Step.withInterrupts) laptop (machine, .outside) =
      (run Machine.executor steps laptop machine).map Stage.instructions := by
  induction steps generalizing laptop machine with
  | nil => rfl
  | cons step steps ih =>
    rw [List.map_cons, run, step.execute_linked hlibrary]
    exact congrArg (_ :: ·) (ih _ _)

end Run

/-- Code that is linked with a library, which does what it documents, does what the driver asks for.

A routine without nested sections comes to the value and the machine that it comes to by itself, with
interrupts let through again. It executes a thousand writes of zero to the diagnostic port for each
millisecond of a delay, and the one instruction for every other request to the chipset; all that is
beyond the chipset stays the same. Machine code without a library does so as well. And what holds of
a routine by itself holds of every step of every run. -/
theorem linked_faithful {library : ProcessorLibrary} (hlibrary : library.Documented) :
    (∀ {α : Type} (routine : Routine α) (machine : Machine) (sections : Nat),
      let recorded := routine.execute Machine.respond machine
      let linked := (routine.link library .outside).execute Machine.respondToInstruction machine
      Trace.interrupts recorded.trace = (List.replicate sections [false, true]).flatten →
        linked = ⟨(recorded.value, .outside), recorded.state,
          recorded.trace.flatMap Exchange.instructions⟩ ∧
        linked.trace.filterMap Exchange.beyondChipset? =
          recorded.trace.filterMap Exchange.beyondChipset?) ∧
    (∀ {α : Type} (routine : Routine α) (machine : Machine),
      let recorded := routine.execute Machine.respond machine
      routine.compile.execute Machine.respondToInstruction machine =
        ⟨recorded.value, recorded.state, recorded.trace.flatMap Exchange.instructions⟩) ∧
    ∀ (steps : List (Step Machine)) (laptop : Option Laptop) (machine : Machine),
      let recorded := run Machine.executor steps laptop machine
      let linked :=
        run library.executor (steps.map Step.withInterrupts) laptop (machine, .outside)
      linked = recorded.map Stage.instructions ∧
        linked.map (·.trace.filterMap Exchange.beyondChipset?) =
          recorded.map (·.trace.filterMap Exchange.beyondChipset?) := by
  refine ⟨fun routine machine sections ↦ ?_, fun routine ↦ routine.execute_compile,
    fun steps laptop machine ↦ ?_⟩
  · intro recorded linked halternates
    have hlinked : linked = _ :=
      routine.execute_link hlibrary machine ⟨.inl rfl, sections, halternates⟩
    refine ⟨hlinked, ?_⟩
    rw [hlinked]
    exact filterMap_flatMap_instructions recorded.trace
  · intro recorded linked
    have hlinked : linked = recorded.map Stage.instructions :=
      run_linked hlibrary steps laptop machine
    refine ⟨hlinked, ?_⟩
    rw [hlinked, List.map_map]
    exact List.map_congr_left fun stage _ ↦ filterMap_flatMap_instructions stage.trace

/-- A driver is loaded, put to sleep and woken up with a delay of two milliseconds each time, which
is four thousand writes to the diagnostic port in all; interrupts get through after every step. -/
theorem linked_faithful_load_sleep :
    let steps : List (Step Machine) :=
      [⟨id, .load { settleTime := 2 }⟩, ⟨id, .suspend⟩, ⟨id, .resume⟩]
    let machine : Machine := { msrs := fun _ ↦ ⟨7, 0x6100⟩ }
    let linked := run ProcessorLibrary.direct.executor (steps.map Step.withInterrupts) none
      (machine, .outside)
    ProcessorLibrary.direct.Documented ∧
      linked.map (fun stage ↦ (stage.outcome, stage.hardware.2)) =
        [(.done, .outside), (.done, .outside), (.done, .outside)] ∧
      linked.map (·.trace.countP (·.op = .chipset (.outByte 0x80 0))) = [2000, 0, 2000] := by
  intro steps machine linked
  obtain ⟨-, -, hruns⟩ := linked_faithful ProcessorLibrary.documented_direct
  have hlinked : linked = _ := (hruns steps none machine).1
  refine ⟨ProcessorLibrary.documented_direct, ?_, ?_⟩
  · rw [hlinked]
    decide +kernel
  · rw [hlinked]
    decide +kernel

end LaptopDriver
