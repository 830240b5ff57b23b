import LaptopDriver.Laptop.Run
import LaptopDriver.Machine.Basic

/-!
# The transitions of a run

A stage of a run says where a step led to, but not where it started. A `Transition` says both, so
that what a step does can be stated of a transition by itself, and what a run does of the list of
its transitions. `map_stage_transitions` ties the transitions of a run to its stages, and
`forall_transitions` carries a law of single steps over to a run.
-/

namespace LaptopDriver

variable {Op : Type} {Answer : Op → Type} {σ : Type}

/-- A step together with what it started from and what it led to. -/
structure Transition (Answer : Op → Type) (σ : Type) where
  /-- The driver that was loaded before the step. -/
  laptop : Option Laptop
  /-- The state of the hardware before the step. -/
  hardware : σ
  step : Step σ
  /-- What is known after the step. -/
  stage : Stage Answer σ

/-- The state of the hardware when the operation starts. -/
def Transition.started (transition : Transition Answer σ) : σ :=
  transition.step.change transition.hardware

/-- A transition of a machine that is addressed by the requests of the driver. -/
abbrev Transition.OnMachine : Type :=
  Transition (Request.Answer Chipset.Request.Answer) Machine

/-- The transition that a step makes. -/
def Step.transition (executor : Executor Answer σ) (step : Step σ) (laptop : Option Laptop)
    (hardware : σ) : Transition Answer σ :=
  ⟨laptop, hardware, step, step.execute executor laptop hardware⟩

/-- The transitions of a run. -/
def transitions (executor : Executor Answer σ) :
    List (Step σ) → Option Laptop → σ → List (Transition Answer σ)
  | [], _, _ => []
  | step :: steps, laptop, hardware =>
    let transition := step.transition executor laptop hardware
    transition :: transitions executor steps transition.stage.laptop transition.stage.hardware

/-- The state of the hardware after a list of transitions that started in `hardware`. -/
def hardwareAfter (hardware : σ) (history : List (Transition Answer σ)) : σ :=
  history.foldl (fun _ transition ↦ transition.stage.hardware) hardware

/-- The driver that is loaded after a list of transitions that started with `laptop`. -/
def laptopAfter (laptop : Option Laptop) (history : List (Transition Answer σ)) : Option Laptop :=
  history.foldl (fun _ transition ↦ transition.stage.laptop) laptop

/-- The executor of hardware that answers the requests of the driver. -/
def executorOf (respond : Responder (Request.Answer Chipset.Request.Answer) σ) :
    Executor (Request.Answer Chipset.Request.Answer) σ :=
  fun routine state ↦ routine.execute respond state

/-- The executor of a machine that answers the requests of the driver. -/
def Machine.executor : Executor (Request.Answer Chipset.Request.Answer) Machine :=
  fun routine machine ↦ routine.execute Machine.respond machine

/-! ### A run and its transitions -/

variable (executor : Executor Answer σ)

theorem transitions_cons (step : Step σ) (steps : List (Step σ)) (laptop : Option Laptop)
    (hardware : σ) :
    transitions executor (step :: steps) laptop hardware =
      step.transition executor laptop hardware ::
        transitions executor steps (step.transition executor laptop hardware).stage.laptop
          (step.transition executor laptop hardware).stage.hardware :=
  rfl

/-- One more step adds the transition that it makes from where the others led to. -/
theorem transitions_concat (steps : List (Step σ)) (step : Step σ) (laptop : Option Laptop)
    (hardware : σ) :
    let history := transitions executor steps laptop hardware
    transitions executor (steps ++ [step]) laptop hardware =
      history ++ [step.transition executor (laptopAfter laptop history)
        (hardwareAfter hardware history)] := by
  induction steps generalizing laptop hardware with
  | nil => rfl
  | cons first steps ih => exact congrArg (_ :: ·) (ih _ _)

@[simp]
theorem laptopAfter_concat (laptop : Option Laptop) (history : List (Transition Answer σ))
    (transition : Transition Answer σ) :
    laptopAfter laptop (history ++ [transition]) = transition.stage.laptop :=
  List.foldl_append

@[simp]
theorem hardwareAfter_concat (hardware : σ) (history : List (Transition Answer σ))
    (transition : Transition Answer σ) :
    hardwareAfter hardware (history ++ [transition]) = transition.stage.hardware :=
  List.foldl_append

@[simp]
theorem length_transitions (steps : List (Step σ)) (laptop : Option Laptop) (hardware : σ) :
    (transitions executor steps laptop hardware).length = steps.length := by
  induction steps generalizing laptop hardware with
  | nil => rfl
  | cons step steps ih => exact congrArg (· + 1) (ih _ _)

/-- The first transitions of a run are those of its first steps. -/
theorem take_transitions (n : Nat) (steps : List (Step σ)) (laptop : Option Laptop) (hardware : σ) :
    (transitions executor steps laptop hardware).take n =
      transitions executor (steps.take n) laptop hardware := by
  induction steps generalizing n laptop hardware with
  | nil => rw [transitions, List.take_nil, List.take_nil, transitions]
  | cons step steps ih =>
    cases n with
    | zero => rfl
    | succ n => exact congrArg (_ :: ·) (ih _ _ _)

/-- The transitions of a run lead to its stages. -/
theorem map_stage_transitions (steps : List (Step σ)) (laptop : Option Laptop) (hardware : σ) :
    (transitions executor steps laptop hardware).map (·.stage) =
      run executor steps laptop hardware := by
  induction steps generalizing laptop hardware with
  | nil => rfl
  | cons step steps ih => exact congrArg (_ :: ·) (ih _ _)

/-- What holds of every step, wherever it starts, holds of every transition of a run. -/
theorem forall_transitions {P : Transition Answer σ → Prop} {steps : List (Step σ)}
    (h : ∀ step ∈ steps, ∀ laptop hardware, P (step.transition executor laptop hardware))
    (laptop : Option Laptop) (hardware : σ) :
    ∀ transition ∈ transitions executor steps laptop hardware, P transition := by
  induction steps generalizing laptop hardware with
  | nil => simp [transitions]
  | cons step steps ih =>
    refine List.forall_mem_cons.2 ⟨h step List.mem_cons_self _ _, ?_⟩
    exact ih (fun step hmem ↦ h step (List.mem_cons_of_mem _ hmem)) _ _

end LaptopDriver
