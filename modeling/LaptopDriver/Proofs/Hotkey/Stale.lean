import LaptopDriver.Proofs.Hotkey.Accounting

/-!
# Entries that wait while the interrupt line is armed

Loading and waking up flush the controller, so that nothing that waited while nobody was
listening is replayed as a hotkey. A flush takes one entry out of the queue. The entries behind it
stay, and so does the number that the flush latched, which an interrupt that finds the queue
empty serves again.

The main statement gives the exact condition under which nothing stale is dispatched: no entry
behind the flushed one is the number of an event, and neither is the latched number, unless an entry
that stays is going to replace it. Sufficiency is an invariant of runs, `Fresh`: what waits and what
is latched has arrived since the flush or names no event. Necessity takes interrupts before which
nothing arrives, until the queue is empty and the latch is served.
-/

namespace LaptopDriver

open Controller Hotkey

/-- An interrupt of the controller, before which nothing happens to events but that some arrive. -/
structure Step.Delivers (step : Step Machine) : Prop where
  operation : step.operation = .interrupt interruptNumber
  onlyQueues : step.OnlyQueues
  latch : ∀ machine, (step.change machine).latch = machine.latch

/-- After the step `start`, every event that is ever dispatched for an interrupt is that of an entry
that has arrived after `start`. -/
def NothingStale (start : Step Machine) (laptop : Option Laptop) (machine : Machine) : Prop :=
  let stage := start.execute Machine.executor laptop machine
  ∀ steps : List (Step Machine), (∀ step ∈ steps, step.Delivers) →
    let later := transitions Machine.executor steps stage.laptop stage.hardware
    ∀ event ∈ later.flatMap (Trace.dispatched ·.stage.trace),
      ∃ code, .ok code ∈ later.flatMap Transition.arrivals ∧ Event.ofCode? code = some event

/-! ### What has arrived since the flush -/

/-- The events that a machine can still dispatch have `arrived`. -/
structure Machine.Fresh (arrived : List (Except Fault UInt8)) (machine : Machine) : Prop where
  /-- An entry that waits names no event or has arrived. -/
  pending : ∀ code, .ok code ∈ machine.pending → Event.ofCode? code = none ∨ .ok code ∈ arrived
  /-- So does the latched number, unless an entry is going to replace it. -/
  latch : (Event.ofCode? machine.latch = none ∨ .ok machine.latch ∈ arrived) ∨
    ∃ code, .ok code ∈ machine.pending

namespace Machine.Fresh

variable {arrived : List (Except Fault UInt8)} {machine : Machine}

theorem congr {other : Machine} (h : machine.Fresh arrived)
    (hsource : other.eventSource = machine.eventSource) : other.Fresh arrived := by
  obtain ⟨hpending, hlatch⟩ := Prod.mk.inj hsource
  exact ⟨hpending ▸ h.pending, hpending ▸ hlatch ▸ h.latch⟩

/-- Whatever arrives, the machine stays fresh. -/
theorem arrive {other : Machine} {arrivals : List (Except Fault UInt8)}
    (h : machine.Fresh arrived) (hpending : other.pending = machine.pending ++ arrivals)
    (hlatch : other.latch = machine.latch) : other.Fresh (arrived ++ arrivals) where
  pending code hmem := by
    rw [hpending, List.mem_append] at hmem
    rw [List.mem_append]
    rcases hmem with hold | hnew
    · exact (h.pending code hold).imp_right .inl
    · exact .inr (.inr hnew)
  latch := by
    rw [hlatch, hpending]
    rcases h.latch with (hnone | hmem) | ⟨code, hmem⟩
    · exact .inl (.inl hnone)
    · exact .inl (.inr (List.mem_append_left _ hmem))
    · exact .inr ⟨code, List.mem_append_left _ hmem⟩

/-- A query keeps the machine fresh: what it latches has been waiting. -/
theorem query (h : machine.Fresh arrived) : machine.query.2.Fresh arrived := by
  obtain ⟨hpending, hlatch⟩ := h
  rw [Machine.query]
  cases hqueue : machine.pending with
  | nil => exact ⟨hpending, hlatch⟩
  | cons entry rest =>
    rw [hqueue] at hpending hlatch
    have hrest : ∀ code, .ok code ∈ rest → Event.ofCode? code = none ∨ .ok code ∈ arrived :=
      fun code hmem ↦ hpending code (List.mem_cons_of_mem _ hmem)
    cases entry with
    | ok code => exact ⟨hrest, .inl (hpending code List.mem_cons_self)⟩
    | error fault =>
      -- A fault leaves the latch, and an entry that replaces it is still to come.
      exact ⟨hrest, by simpa using hlatch⟩

/-- The number that the next query serves names no event or has arrived. -/
theorem nextCode? (h : machine.Fresh arrived) {code : UInt8}
    (hcode : machine.nextCode? = some code) :
    Event.ofCode? code = none ∨ .ok code ∈ arrived := by
  cases hqueue : machine.pending with
  | nil =>
    have hlatch : machine.latch = code := by
      simpa [Machine.nextCode?, Machine.query, hqueue] using hcode
    have hsome := h.latch
    rw [hqueue, hlatch] at hsome
    simpa using hsome
  | cons entry rest =>
    rw [(Machine.query_cons hqueue).2.2] at hcode
    cases entry with
    | error fault => cases hcode
    | ok served =>
      obtain rfl : served = code := Option.some.inj hcode
      exact h.pending _ (hqueue ▸ List.mem_cons_self)

end Machine.Fresh

/-- A step keeps the machine fresh, and dispatches only what has arrived. -/
theorem Transition.Accounted.fresh {transition : Transition.OnMachine}
    (h : transition.Accounted) (hstep : transition.step.Delivers)
    {arrived : List (Except Fault UInt8)} (hfresh : transition.hardware.Fresh arrived) :
    transition.stage.hardware.Fresh (arrived ++ transition.arrivals) ∧
      ∀ event ∈ Trace.dispatched transition.stage.trace,
        ∃ code, .ok code ∈ arrived ++ transition.arrivals ∧ Event.ofCode? code = some event := by
  have hstarted : transition.started.Fresh (arrived ++ transition.arrivals) :=
    hfresh.arrive (transition.started_pending hstep.onlyQueues) (hstep.latch _)
  constructor
  · refine Machine.Fresh.congr ?_ h.eventSource
    cases transition.purpose? with
    | none => exact hstarted
    | some purpose => exact hstarted.query
  · intro event hmem
    rw [h.dispatched, Transition.events_purpose?, Option.mem_toList] at hmem
    obtain ⟨code, hserved, hevent⟩ := Option.bind_eq_some_iff.1 hmem
    obtain ⟨-, hcode⟩ := Transition.servedCode?_eq_some_iff.1 hserved
    rcases hstarted.nextCode? hcode with hnone | harrived
    · rw [hnone] at hevent
      cases hevent
    · exact ⟨code, harrived, hevent⟩

/-- A run from a fresh machine dispatches only what has arrived. -/
theorem Machine.Fresh.run {steps : List (Step Machine)} (hsteps : ∀ step ∈ steps, step.Delivers)
    {arrived : List (Except Fault UInt8)} (laptop : Option Laptop) {machine : Machine}
    (h : machine.Fresh arrived) :
    let later := transitions Machine.executor steps laptop machine
    ∀ event ∈ later.flatMap (Trace.dispatched ·.stage.trace),
      ∃ code, .ok code ∈ arrived ++ later.flatMap Transition.arrivals ∧
        Event.ofCode? code = some event := by
  induction steps generalizing arrived laptop machine with
  | nil => simp [transitions]
  | cons step steps ih =>
    obtain ⟨hstep, hsteps⟩ := List.forall_mem_cons.1 hsteps
    obtain ⟨hnext, hfirst⟩ := (step.accounted laptop machine).fresh hstep h
    rw [transitions]
    intro later event hmem
    rw [show later = _ from rfl, List.flatMap_cons, ← List.append_assoc]
    rcases List.mem_append.1 hmem with hmem | hmem
    · obtain ⟨code, harrived, hevent⟩ := hfirst event hmem
      exact ⟨code, List.mem_append_left _ harrived, hevent⟩
    · exact ih hsteps _ hnext event hmem

/-! ### Interrupts before which nothing arrives -/

namespace Step

/-- An interrupt of the controller, before which nothing happens at all. -/
def idle : Step Machine :=
  ⟨id, .interrupt interruptNumber⟩

theorem idle_delivers : idle.Delivers :=
  ⟨rfl, fun _ ↦ List.prefix_rfl, fun _ ↦ rfl⟩

theorem arrivals_replicate_idle (n : Nat) (laptop : Option Laptop) (machine : Machine) :
    (transitions Machine.executor (List.replicate n idle) laptop machine).flatMap
      Transition.arrivals = [] := by
  refine List.flatMap_eq_nil_iff.2 (forall_transitions _ (fun step hmem laptop machine ↦ ?_) _ _)
  obtain rfl := List.eq_of_mem_replicate hmem
  exact List.drop_length

end Step

/-- An idle interrupt serves what the next query latches, and the driver stays loaded. -/
theorem idle_transition (laptop : Laptop) (machine : Machine) :
    let transition := Step.idle.transition Machine.executor (some laptop) machine
    Trace.dispatched transition.stage.trace = (machine.nextCode?.bind Event.ofCode?).toList ∧
      transition.stage.hardware.eventSource = machine.query.2.eventSource ∧
      ∃ laptop, transition.stage.laptop = some laptop := by
  have haccounted := Step.idle.accounted (some laptop) machine
  refine ⟨haccounted.dispatched, haccounted.eventSource, ?_⟩
  exact ⟨_, congrArg Prod.snd (laptop.value_perform_interrupt interruptNumber machine)⟩

/-- Idle interrupts never dispatch anything. -/
def Silent (laptop : Laptop) (machine : Machine) : Prop :=
  ∀ n, (transitions Machine.executor (List.replicate n Step.idle) (some laptop) machine).flatMap
    (Trace.dispatched ·.stage.trace) = []

/-- The first of them does not, and after it they still do not. -/
theorem Silent.step {laptop : Laptop} {machine : Machine} (h : Silent laptop machine) :
    machine.nextCode?.bind Event.ofCode? = none ∧
      ∃ next after, after.eventSource = machine.query.2.eventSource ∧ Silent next after := by
  obtain ⟨hdispatched, hsource, next, hnext⟩ := idle_transition laptop machine
  have hsplit := fun n ↦ h (n + 1)
  simp only [List.replicate_succ, transitions, List.flatMap_cons, List.append_eq_nil_iff,
    hdispatched, hnext, Option.toList_eq_nil_iff] at hsplit
  exact ⟨(hsplit 0).1, next, _, hsource, fun n ↦ (hsplit n).2⟩

/-- A machine that keeps silent holds nothing that could be dispatched. -/
theorem Silent.fresh {laptop : Laptop} {machine : Machine} (h : Silent laptop machine) :
    machine.Fresh [] := by
  generalize hpending : machine.pending = pending
  induction pending generalizing laptop machine with
  | nil =>
    -- The queue is empty, so the first interrupt already serves the latched number.
    have hlatch := h.step.1
    simp only [Machine.nextCode?, Machine.query, hpending] at hlatch
    exact ⟨by simp [hpending], .inl (.inl hlatch)⟩
  | cons entry rest ih =>
    -- After the first interrupt the rest of the queue waits, so the rest is fresh by induction. The
    -- entry that was taken out dispatched nothing.
    obtain ⟨hnone, next, after, hsource, hafter⟩ := h.step
    obtain ⟨-, hrest, hcode⟩ := Machine.query_cons hpending
    obtain ⟨hwaiting, hlatch⟩ := ih hafter ((Prod.mk.inj hsource).1.trans hrest)
    rw [(Prod.mk.inj hsource).1, hrest] at hwaiting hlatch
    rw [hcode] at hnone
    cases entry with
    | ok code =>
      have hmem : .ok code ∈ machine.pending := hpending ▸ List.mem_cons_self
      refine ⟨fun other hother ↦ .inl ?_, .inr ⟨code, hmem⟩⟩
      rw [hpending] at hother
      rcases List.mem_cons.1 hother with heq | hother
      · cases heq
        exact hnone
      · simpa using hwaiting other hother
    | error fault =>
      have hkept : after.latch = machine.latch := by
        have heq := (Prod.mk.inj hsource).2
        simpa [Machine.query, hpending] using heq
      rw [hkept] at hlatch
      constructor
      · intro other hother
        rw [hpending] at hother
        exact hwaiting other (by simpa using hother)
      · rw [hpending]
        rcases hlatch with hlatch | ⟨code, hmem⟩
        · exact .inl hlatch
        · exact .inr ⟨code, List.mem_cons_of_mem _ hmem⟩

/-! ### After the interrupt line was armed -/

/-- An operation that succeeds in arming the line leaves a driver loaded. -/
theorem Operation.loaded_of_flush {operation : Operation} {laptop : Option Laptop}
    (hflush : operation.queryPurpose? laptop = some .flush) (machine : Machine)
    (hdone : ((operation.perform laptop).execute Machine.respond machine).value.1 = .done) :
    ∃ next, ((operation.perform laptop).execute Machine.respond machine).value.2 = some next := by
  rcases queryPurpose?_eq_flush_iff.1 hflush with ⟨settings, rfl, rfl⟩ | ⟨rfl, loaded, rfl⟩
  · rw [perform, performUnloaded, Program.execute_bind] at hdone ⊢
    cases hload : ((Laptop.load settings).execute Machine.respond machine).value with
    | error error =>
      rw [hload] at hdone
      cases hdone
    | ok laptop => exact ⟨laptop, rfl⟩
  · rw [perform, Laptop.perform, Program.execute_bind]
    refine ⟨loaded, ?_⟩
    cases ((Laptop.resume loaded.settings.settleTime).execute Machine.respond machine).value <;>
      rfl

/-- Nothing stale is dispatched after the line was armed exactly if no entry behind the flushed one
names an event, and neither does the number that is latched then, unless an entry is going to
replace it. -/
theorem nothingStale_iff (start : Step Machine) (laptop : Option Laptop) (machine : Machine)
    (hflush : start.operation.queryPurpose? laptop = some .flush)
    (hdone : (start.execute Machine.executor laptop machine).outcome = .done) :
    let flushed := (start.change machine).query.2
    NothingStale start laptop machine ↔
      (∀ code, .ok code ∈ flushed.pending → Event.ofCode? code = none) ∧
        (Event.ofCode? flushed.latch = none ∨ ∃ code, .ok code ∈ flushed.pending) := by
  intro flushed
  have hpurpose : (start.transition Machine.executor laptop machine).purpose? = some .flush :=
    hflush
  have hsource : (start.execute Machine.executor laptop machine).hardware.eventSource =
      flushed.eventSource := by
    have haccounted := (start.accounted laptop machine).eventSource
    rw [hpurpose] at haccounted
    exact haccounted
  have hfresh : (start.execute Machine.executor laptop machine).hardware.Fresh [] ↔
      flushed.Fresh [] := ⟨fun h ↦ h.congr hsource.symm, fun h ↦ h.congr hsource⟩
  have hflushed : flushed.Fresh [] ↔
      (∀ code, .ok code ∈ flushed.pending → Event.ofCode? code = none) ∧
        (Event.ofCode? flushed.latch = none ∨ ∃ code, .ok code ∈ flushed.pending) :=
    ⟨fun h ↦ ⟨by simpa using h.pending, by simpa using h.latch⟩,
      fun h ↦ ⟨by simpa using h.1, by simpa using h.2⟩⟩
  rw [← hflushed, ← hfresh]
  constructor
  · -- Without arrivals nothing may be dispatched at all, so idle interrupts keep silent.
    intro h
    obtain ⟨next, hnext⟩ := Operation.loaded_of_flush hflush (start.change machine) hdone
    have hlaptop : (start.execute Machine.executor laptop machine).laptop = some next := hnext
    have hsilent : Silent next (start.execute Machine.executor laptop machine).hardware := by
      intro n
      refine List.eq_nil_iff_forall_not_mem.2 fun event hmem ↦ ?_
      rw [← hlaptop] at hmem
      obtain ⟨code, harrived, -⟩ := h (List.replicate n Step.idle) (by simp [Step.idle_delivers])
        event hmem
      rw [Step.arrivals_replicate_idle] at harrived
      cases harrived
    exact hsilent.fresh
  · intro h steps hsteps
    exact h.run hsteps _

/-- Where only noise waits, nothing stale is dispatched; a single key that waits is flushed, and is
then replayed out of the latch. -/
theorem nothingStale_iff_noise_key :
    NothingStale ⟨id, .load { }⟩ none { pending := [.ok 0x31, .ok 0x00] } ∧
      ¬NothingStale ⟨id, .load { }⟩ none { pending := [.ok 0x25] } := by
  constructor
  · refine (nothingStale_iff _ none _ rfl (by decide +kernel)).2 ⟨fun code hmem ↦ ?_, ?_⟩
    · obtain rfl : code = 0x00 := by simpa [Machine.query] using hmem
      rfl
    · exact .inl rfl
  · intro h
    obtain ⟨-, hlatch | ⟨code, hmem⟩⟩ := (nothingStale_iff _ none _ rfl (by decide +kernel)).1 h
    · cases hlatch
    · cases hmem

/-- With two keys waiting, loading flushes one, and the first interrupt replays the other. -/
theorem not_nothingStale_load :
    ¬∀ (start : Step Machine) (laptop : Option Laptop) (machine : Machine),
      start.operation.queryPurpose? laptop = some .flush →
      (start.execute Machine.executor laptop machine).outcome = .done →
      NothingStale start laptop machine := by
  intro h
  let machine : Machine := { pending := [.ok 0x25, .ok 0x2C] }
  obtain ⟨code, harrived, -⟩ := h ⟨id, .load { }⟩ none machine rfl (by decide +kernel)
    (List.replicate 1 Step.idle) (by simp [Step.idle_delivers]) .mute (by decide +kernel)
  rw [Step.arrivals_replicate_idle] at harrived
  cases harrived

end LaptopDriver
