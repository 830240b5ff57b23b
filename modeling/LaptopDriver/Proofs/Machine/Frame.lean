import LaptopDriver.Machine.Basic
import LaptopDriver.Proofs.Topic.Basic

/-!
# What a routine leaves alone about a machine

A request changes only the part of a machine that it is about. So a routine that is not about the
queue of events leaves the queue and the latch as they are, one that is not about byte-wide ports
leaves the sequencer as it is, and one that is not about the routing of interrupts leaves the
model-specific registers as they are.
-/

namespace LaptopDriver

namespace Machine

/-- The part of a machine that events come from: the queue and the latch. -/
def eventSource (machine : Machine) : List (Except Controller.Fault UInt8) × UInt8 :=
  (machine.pending, machine.latch)

/-- What a query answers, and what it does to the queue and the latch, depends on nothing else of
the machine. -/
theorem query_congr {first second : Machine} (h : first.eventSource = second.eventSource) :
    first.query.1 = second.query.1 ∧
      first.query.2.eventSource = second.query.2.eventSource := by
  obtain ⟨hpending, hlatch⟩ := Prod.mk.inj h
  unfold query
  rw [hpending]
  cases second.pending with
  | nil => exact ⟨rfl, h⟩
  | cons entry rest =>
    cases entry with
    | ok code => exact ⟨rfl, rfl⟩
    | error fault => exact ⟨rfl, congrArg (rest, ·) hlatch⟩

theorem eventSource_readRegister (machine : Machine) (register : Controller.Register) :
    (machine.readRegister register).2.eventSource = machine.eventSource := by
  rw [readRegister]
  split <;> rfl

theorem eventSource_writePort (machine : Machine) (port : Chipset.Port) (value : UInt8) :
    (machine.writePort port value).eventSource = machine.eventSource := by
  rw [writePort]
  split
  · rfl
  · split <;> rfl

/-- Only a request about the queue changes the queue or the latch. -/
theorem eventSource_respond {request : Request Chipset.Request} (h : request.topic ≠ .queue)
    (machine : Machine) : (respond request machine).2.eventSource = machine.eventSource := by
  cases request with
  | controller request =>
    cases request with
    | read register => exact eventSource_readRegister machine register
    | query => exact absurd rfl h
    | _ => rfl
  | chipset request =>
    cases request with
    | writePort port value => exact eventSource_writePort machine port value
    | _ => rfl
  | supply request => cases request <;> rfl
  | _ => rfl

/-- Reading a register changes at most what its script shows next. -/
theorem sequencer_readRegister (machine : Machine) (register : Controller.Register) :
    (machine.readRegister register).2.sequencer = machine.sequencer := by
  rw [readRegister]
  split <;> rfl

theorem sequencer_query (machine : Machine) :
    machine.query.2.sequencer = machine.sequencer := by
  rw [query]
  split <;> rfl

/-- Only a request about byte-wide ports changes the sequencer. -/
theorem sequencer_respond {request : Request Chipset.Request} (h : request.topic ≠ .port)
    (machine : Machine) : (respond request machine).2.sequencer = machine.sequencer := by
  cases request with
  | controller request =>
    cases request with
    | read register => exact sequencer_readRegister machine register
    | query => exact sequencer_query machine
    | _ => rfl
  | chipset request =>
    cases request with
    | writePort port value => exact absurd rfl h
    | _ => rfl
  | supply request => cases request <;> rfl
  | _ => rfl

theorem msrs_readRegister (machine : Machine) (register : Controller.Register) :
    (machine.readRegister register).2.msrs = machine.msrs := by
  rw [readRegister]
  split <;> rfl

theorem msrs_query (machine : Machine) : machine.query.2.msrs = machine.msrs := by
  rw [query]
  split <;> rfl

theorem msrs_writePort (machine : Machine) (port : Chipset.Port) (value : UInt8) :
    (machine.writePort port value).msrs = machine.msrs := by
  rw [writePort]
  split
  · rfl
  · split <;> rfl

/-- Only a request about the routing of interrupts changes a model-specific register. -/
theorem msrs_respond {request : Request Chipset.Request} (h : request.topic ≠ .routing)
    (machine : Machine) : (respond request machine).2.msrs = machine.msrs := by
  cases request with
  | controller request =>
    cases request with
    | read register => exact msrs_readRegister machine register
    | query => exact msrs_query machine
    | _ => rfl
  | chipset request =>
    cases request with
    | writePort port value => exact msrs_writePort machine port value
    | writeMsr number contents => exact absurd rfl h
    | _ => rfl
  | supply request => cases request <;> rfl
  | _ => rfl

end Machine

/-! ### Routines off a topic -/

namespace Routine.Within

variable {α : Type} {topics : List Topic} {routine : Routine α}

/-- A routine that is not about the queue leaves the queue and the latch as they are. -/
theorem eventSource_eq (h : Within topics routine) (hqueue : Topic.queue ∉ topics)
    (machine : Machine) :
    (routine.execute Machine.respond machine).state.eventSource = machine.eventSource := by
  refine h.keeps Machine.respond Machine.eventSource (fun request machine hmem ↦ ?_) machine
  exact Machine.eventSource_respond (fun htopic ↦ hqueue (htopic ▸ hmem)) machine

/-- A routine that is not about byte-wide ports leaves the sequencer as it is. -/
theorem sequencer_eq (h : Within topics routine) (hport : Topic.port ∉ topics)
    (machine : Machine) :
    (routine.execute Machine.respond machine).state.sequencer = machine.sequencer := by
  refine h.keeps Machine.respond Machine.sequencer (fun request machine hmem ↦ ?_) machine
  exact Machine.sequencer_respond (fun htopic ↦ hport (htopic ▸ hmem)) machine

/-- A routine that is not about the routing of interrupts leaves the model-specific registers as
they are. -/
theorem msrs_eq (h : Within topics routine) (hrouting : Topic.routing ∉ topics)
    (machine : Machine) :
    (routine.execute Machine.respond machine).state.msrs = machine.msrs := by
  refine h.keeps Machine.respond Machine.msrs (fun request machine hmem ↦ ?_) machine
  exact Machine.msrs_respond (fun htopic ↦ hrouting (htopic ▸ hmem)) machine

end Routine.Within

end LaptopDriver
