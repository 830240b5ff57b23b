import LaptopDriver.Proofs.Program.Asks
import LaptopDriver.Routine

/-!
# What a routine is about

Every request of the driver has a `Topic`: which part of the machine it looks at or changes, or that
it only notes something down. A routine is `Within` a list of topics when it asks about nothing
else, against every responder. That one fact about a routine is what statements about traces
and about the state of a machine draw on: a routine that is not about a part of the machine leaves
no exchange about it and does not change it.

Dispatching an event is noted down in a record of its own kind, so it is a topic apart from the
other records of the log.
-/

namespace LaptopDriver

/-- A part of the machine that a request can be about. -/
inductive Topic where
  /-- Reading a register of the controller. -/
  | reading
  /-- Writing a register of the controller. -/
  | writing
  /-- The controller's queue of events, and its latch. -/
  | queue
  /-- The version of the firmware. -/
  | firmware
  /-- Byte-wide ports, through which the sequencer is reached. -/
  | port
  /-- The chipset as far as it routes interrupts: model-specific registers, pin control ports,
  delays and the masking of interrupts. -/
  | routing
  /-- The input layer. -/
  | input
  /-- The power-supply layer. -/
  | supply
  /-- The record that an event was dispatched. -/
  | dispatch
  /-- Any other record. -/
  | note
  deriving DecidableEq, Repr

/-- The topic of a request. -/
@[simp]
def Request.topic : Request Chipset.Request → Topic
  | .controller (.read _) => .reading
  | .controller (.write _ _) => .writing
  | .controller .query => .queue
  | .controller .latched => .queue
  | .controller .firmware => .firmware
  | .chipset (.readPort _) => .port
  | .chipset (.writePort _ _) => .port
  | .chipset _ => .routing
  | .input _ => .input
  | .supply _ => .supply
  | .log (.dispatched _ _) => .dispatch
  | .log _ => .note

namespace Routine

variable {α β σ : Type} {topics : List Topic}

/-- The routine asks about nothing but `topics`. -/
def Within (topics : List Topic) (routine : Routine α) : Prop :=
  routine.Asks fun request ↦ request.topic ∈ topics

/-! ### Along the construction of a routine -/

@[simp]
theorem within_done (value : α) : Within topics (.done value) :=
  trivial

@[simp]
theorem within_ask (request : Request Chipset.Request)
    (next : request.Answer Chipset.Request.Answer → Routine α) :
    Within topics (.ask request next) ↔
      request.topic ∈ topics ∧ ∀ answer, Within topics (next answer) :=
  Iff.rfl

@[simp]
theorem within_ite {p : Prop} [Decidable p] {first second : Routine α} :
    Within topics (if p then first else second) ↔
      (p → Within topics first) ∧ (¬p → Within topics second) := by
  split <;> simp_all

theorem Within.bind {routine : Routine α} {next : α → Routine β} (h : Within topics routine)
    (hnext : ∀ value, Within topics (next value)) : Within topics (routine >>= next) :=
  Program.Asks.bind h hnext

theorem Within.map {routine : Routine α} (f : α → β) (h : Within topics routine) :
    Within topics (f <$> routine) :=
  Program.Asks.map f h

theorem Within.times {routine : Routine Unit} (h : Within topics routine) (n : Nat) :
    Within topics (Program.times n routine) :=
  Program.Asks.times h n

theorem Within.mono {wider : List Topic} {routine : Routine α} (h : Within topics routine)
    (hsub : topics ⊆ wider) : Within wider routine :=
  Program.Asks.mono h fun _ hmem ↦ hsub hmem

/-! ### Against a responder -/

variable (respond : Responder (Request.Answer Chipset.Request.Answer) σ)

/-- Every exchange of an execution is on one of the topics. -/
theorem Within.topic_mem {routine : Routine α} (h : Within topics routine) (state : σ) :
    ∀ exchange ∈ (routine.execute respond state).trace, exchange.op.topic ∈ topics :=
  Program.Asks.mem_trace respond h state

/-- A view of the responder that no request on one of the topics changes is the same after the
routine as before. -/
theorem Within.keeps {V : Type} (view : σ → V) {routine : Routine α} (h : Within topics routine)
    (hview : ∀ request state, request.topic ∈ topics →
      view (respond request state).2 = view state) (state : σ) :
    view (routine.execute respond state).state = view state :=
  Program.Asks.keeps respond view h hview state

/-! ### Requests as routines

A request by name is a single `send`. For `simp` it is no more than that; where the type of its
answer stands in the way of a lemma about `send`, `Program.send` can be opened as well. -/

attribute [simp] askController read write query latched askChipset readPort writePort
  writePortWide readMsr writeMsr delay askSupplies report suppliesRegistered announce log

end Routine

end LaptopDriver
