import LaptopDriver.Proofs.Hotkey.Course
import LaptopDriver.Proofs.InterruptLine.Agreement

/-!
# What a failed arming leaves behind

The interrupt line is armed when the driver is loaded and when it wakes up, and each time the one
step that can fail is the query that flushes an event. `Trace.Flushes` says what becomes of a trace
in which the line is armed: there is one query in it; and if that failed, all that was asked of the
chipset is what came before the query, nothing is reported and nothing is announced. So a failure
never leaves the line half routed.

Both ways of arming flush first and do the rest only if that worked (`flushThen`). The law is proved
of that shape, against every responder, and carried along what comes before and after it
(`Flushes.append_left`, `Flushes.append_right`) to loading and waking up.
-/

namespace LaptopDriver

open Controller Chipset InterruptLine

/-! ### The law of a trace -/

/-- The request, if it is about the chipset as far as it routes interrupts: model-specific
registers, pin control ports, delays and the masking of interrupts. -/
def Request.lineRequest? : Request Chipset.Request → Option Chipset.Request
  | .chipset (.readPort _) => none
  | .chipset (.writePort _ _) => none
  | .chipset request => some request
  | _ => none

namespace Trace

/-- The requests of a trace that are about the routing of interrupts. -/
def lineRequests (trace : Trace) : List Chipset.Request :=
  trace.filterMap (·.op.lineRequest?)

/-- The trace makes one event query, which is answered `answer`. If it fails, `requests` are all
that is asked about the routing of interrupts, and the trace is quiet. -/
structure Flushes (requests : List Chipset.Request) (answer : Except Fault Unit) (trace : Trace) :
    Prop where
  queried : queries trace = [answer]
  failed : ∀ fault, answer = .error fault →
    lineRequests trace = requests ∧ ∀ exchange ∈ trace, IsQuiet exchange

/-- The exchange is about none of what a failed arming leaves alone, and makes no query. -/
def IsApart (exchange : Exchange (Request.Answer Chipset.Request.Answer)) : Prop :=
  exchange.op.topic ∉ [.queue, .routing, .input, .supply, .dispatch]

theorem topic_of_lineRequest? {exchange : Exchange (Request.Answer Chipset.Request.Answer)}
    {request : Chipset.Request} (h : exchange.op.lineRequest? = some request) :
    exchange.op.topic = .routing := by
  obtain ⟨op, answer⟩ := exchange
  cases op with
  | chipset request => cases request <;> first | rfl | cases h
  | _ => cases h

theorem IsApart.isQuiet {exchange : Exchange (Request.Answer Chipset.Request.Answer)}
    (h : IsApart exchange) : IsQuiet exchange :=
  fun hloud ↦ h (List.mem_cons_of_mem _ (List.mem_cons_of_mem _ hloud))

/-- A trace that is apart makes no query, and asks nothing about the routing of interrupts. -/
theorem of_isApart {trace : Trace} (h : ∀ exchange ∈ trace, IsApart exchange) :
    queries trace = [] ∧ lineRequests trace = [] := by
  have hoff (topic : Topic) (hmem : topic ∈ [Topic.queue, .routing]) :
      ∀ exchange ∈ trace, exchange.op.topic ≠ topic := fun exchange hexchange heq ↦
    h exchange hexchange (heq ▸ List.mem_append_left [Topic.input, .supply, .dispatch] hmem)
  exact ⟨filterMap_eq_nil_of_topic topic_of_queryAnswer? (hoff .queue (by decide)),
    filterMap_eq_nil_of_topic topic_of_lineRequest? (hoff .routing (by decide))⟩

theorem lineRequests_append (first second : Trace) :
    lineRequests (first ++ second) = lineRequests first ++ lineRequests second :=
  List.filterMap_append

section Flushes

variable {requests : List Chipset.Request} {answer : Except Fault Unit} {first second : Trace}

/-- What comes before the arming does nothing that the law speaks of. -/
theorem Flushes.append_left (hapart : ∀ exchange ∈ first, IsApart exchange)
    (h : Flushes requests answer second) : Flushes requests answer (first ++ second) := by
  obtain ⟨hqueries, hrequests⟩ := of_isApart hapart
  refine ⟨?_, fun fault hfault ↦ ?_⟩
  · rw [queries_append, hqueries, h.queried]
    rfl
  · obtain ⟨hfailed, hquiet⟩ := h.failed fault hfault
    rw [lineRequests_append, hrequests, hfailed]
    refine ⟨rfl, List.forall_mem_append.2 ⟨fun exchange hmem ↦ ?_, hquiet⟩⟩
    exact (hapart exchange hmem).isQuiet

/-- What comes after the arming makes no query, and if the arming failed it does nothing else
either that the law speaks of. -/
theorem Flushes.append_right (h : Flushes requests answer first) (hqueries : queries second = [])
    (hapart : ∀ fault, answer = .error fault → ∀ exchange ∈ second, IsApart exchange) :
    Flushes requests answer (first ++ second) := by
  refine ⟨?_, fun fault hfault ↦ ?_⟩
  · rw [queries_append, hqueries, h.queried]
    rfl
  · obtain ⟨hfailed, hquiet⟩ := h.failed fault hfault
    obtain ⟨-, hrequests⟩ := of_isApart (hapart fault hfault)
    rw [lineRequests_append, hrequests, hfailed, List.append_nil]
    refine ⟨rfl, List.forall_mem_append.2 ⟨hquiet, fun exchange hmem ↦ ?_⟩⟩
    exact (hapart fault hfault exchange hmem).isQuiet

/-- Looking the address up before the arming is one more request. -/
theorem Flushes.lookedUp (h : Flushes requests answer second) (contents : MsrContents) :
    Flushes (.readMsr baseAddress :: requests) answer (lookedUp contents :: second) := by
  refine ⟨h.queried, fun fault hfault ↦ ?_⟩
  obtain ⟨hfailed, hquiet⟩ := h.failed fault hfault
  refine ⟨congrArg (Chipset.Request.readMsr baseAddress :: ·) hfailed, ?_⟩
  exact List.forall_mem_cons.2 ⟨by simp [IsQuiet, InterruptLine.lookedUp], hquiet⟩

end Flushes

end Trace

open Trace Routine

/-! ### Arming -/

namespace InterruptLine

/-- What is left to do after a flush, by how it was answered. -/
def afterFlush (body : Routine Unit) : Except Fault Unit → Routine (Except Fault Unit)
  | .error fault => pure (.error fault)
  | .ok () => do
    body
    pure (.ok ())

/-- Flush an event, and go on if that worked. -/
def flushThen (body : Routine Unit) : Routine (Except Fault Unit) := do
  let answer ← flush
  afterFlush body answer

/-- At load, the address is looked up, and the rest waits for the flush. -/
theorem arm_eq (settleTime : Nat) :
    arm settleTime = (do
      let base ← lookUpBase
      flushThen (Routine.delay settleTime >>= fun _ ↦ route base)) :=
  rfl

/-- After a sleep, everything waits for the flush. -/
theorem rearm_eq (settleTime : Nat) :
    rearm settleTime =
      flushThen (Program.times settleTime (Routine.delay 1) >>= fun _ ↦ routeAtBase) := by
  rw [rearm, flushThen]
  congr 1
  funext answer
  cases answer with
  | error fault => rfl
  | ok => exact (Program.bind_assoc _ _ _).symm

section Flushes

variable {σ : Type} (respond : Responder (Request.Answer Chipset.Request.Answer) σ)

/-- Whatever waits for the flush, arming ends as the query does, and a query that fails is all there
is to it. -/
theorem flushes_flushThen {body : Routine Unit} (hbody : Within [.routing, .note] body)
    (state : σ) :
    let ended := (flushThen body).execute respond state
    Flushes [] ended.value ended.trace := by
  intro ended
  let queried := respond (.controller .query) state
  let rest := (afterFlush body queried.1).execute respond queried.2
  have hended : ended = { rest with trace := [flushed queried.1] ++ rest.trace } :=
    Program.execute_bind respond flush (afterFlush body) state
  have hvalue : rest.value = queried.1 := by
    unfold rest
    cases queried.1 with
    | error fault => rfl
    | ok =>
      rw [afterFlush, Program.execute_bind]
      rfl
  have hrest : Within [.routing, .note] (afterFlush body queried.1) := by
    cases queried.1 with
    | error fault => trivial
    | ok => exact hbody.bind fun _ ↦ trivial
  have hflushed : Flushes [] queried.1 [flushed queried.1] :=
    ⟨rfl, fun _ _ ↦ ⟨rfl, by simp [flushed, IsQuiet]⟩⟩
  rw [hended]
  show Flushes [] rest.value ([flushed queried.1] ++ rest.trace)
  rw [hvalue]
  refine hflushed.append_right (hrest.queries_eq_nil respond (by simp) queried.2) ?_
  intro fault hfault
  have hnothing : rest.trace = [] := by
    unfold rest
    rw [hfault]
    rfl
  simp [hnothing]

theorem flushes_rearm (settleTime : Nat) (state : σ) :
    let rearmed := (rearm settleTime).execute respond state
    Flushes [] rearmed.value rearmed.trace := by
  have hbody : Within [.routing, .note]
      (Program.times settleTime (Routine.delay 1) >>= fun _ ↦ routeAtBase) :=
    (((within_delay 1).mono (by simp)).times settleTime).bind fun _ ↦ within_routeAtBase
  rw [rearm_eq]
  exact flushes_flushThen respond hbody state

theorem flushes_arm (settleTime : Nat) (state : σ) :
    let armed := (arm settleTime).execute respond state
    Flushes [.readMsr baseAddress] armed.value armed.trace := by
  have hbody (base : Port) : Within [.routing, .note]
      (Routine.delay settleTime >>= fun _ ↦ route base) :=
    ((within_delay settleTime).mono (by simp)).bind fun _ ↦ within_route base
  rw [arm_eq, Program.execute_bind]
  exact (flushes_flushThen respond (hbody _) _).lookedUp _

end Flushes

end InterruptLine

/-! ### Around the arming -/

section Around

variable {σ α β : Type} (respond : Responder (Request.Answer Chipset.Request.Answer) σ)

/-- What a routine asks is apart from the arming if its topics are. -/
theorem Routine.Within.isApart {topics : List Topic} {routine : Routine α}
    (h : Within topics routine)
    (hoff : ∀ topic ∈ topics, topic ∉ [Topic.queue, .routing, .input, .supply, .dispatch])
    (state : σ) : ∀ exchange ∈ (routine.execute respond state).trace, IsApart exchange :=
  fun exchange hmem ↦ hoff _ (h.topic_mem respond state exchange hmem)

variable {respond} {requests : List Chipset.Request} {state : σ}

theorem Trace.Flushes.apart_bind {routine : Routine α} {next : α → Routine β}
    {answer : Except Fault Unit}
    (hapart : ∀ exchange ∈ (routine.execute respond state).trace, IsApart exchange)
    (h : Flushes requests answer ((next (routine.execute respond state).value).execute respond
      (routine.execute respond state).state).trace) :
    Flushes requests answer ((routine >>= next).execute respond state).trace := by
  rw [Program.execute_bind]
  exact h.append_left hapart

/-- A routine that concludes from how the arming ended reports something only if that worked, and
otherwise only notes something down. -/
theorem Trace.Flushes.bind {arming : Routine (Except Fault Unit)}
    {conclude : Except Fault Unit → Routine β}
    (h : Flushes requests (arming.execute respond state).value (arming.execute respond state).trace)
    (hok : Within [.input] (conclude (.ok ())))
    (herror : ∀ fault, Within [.note] (conclude (.error fault))) :
    Flushes requests (arming.execute respond state).value
      ((arming >>= conclude).execute respond state).trace := by
  rw [Program.execute_bind]
  generalize arming.execute respond state = armed at h ⊢
  obtain ⟨answer, state, trace⟩ := armed
  cases answer with
  | error fault =>
    have hafter := (herror fault).isApart respond (by decide) state
    exact h.append_right (of_isApart hafter).1 fun _ _ ↦ hafter
  | ok =>
    refine h.append_right (hok.queries_eq_nil respond (by simp) state) ?_
    rintro fault ⟨⟩

end Around

/-! ### Loading and waking up -/

variable {σ : Type} (respond : Responder (Request.Answer Chipset.Request.Answer) σ)

namespace Laptop

/-- How loading ends, by how arming the line ended. -/
def started (settings : Settings) (backlight : Display.Backlight) :
    Except Fault Unit → Except StartError Laptop
  | .ok () => .ok { settings, backlight }
  | .error fault => .error (.noController fault)

/-- The part of loading that can fail does so as arming the line does. -/
theorem flushes_start (settings : Settings) (backlight : Display.Backlight) (state : σ) :
    let ended := (start settings backlight).execute respond state
    ∃ answer, Flushes [.readMsr baseAddress] answer ended.trace ∧
      ended.value = started settings backlight answer := by
  intro ended
  have hfails (fault : Fault) : Within [.note] (do
      Routine.log (.loadFailed fault)
      pure (.error (.noController fault) : Except StartError Laptop)) := by simp
  have hreports : Within [.input] (do
      Input.reportLid 1
      pure (.ok { settings, backlight } : Except StartError Laptop)) :=
    (Input.within_reportLid 1).bind fun _ ↦ trivial
  refine ⟨_, (flushes_arm respond settings.settleTime state).bind hreports hfails, ?_⟩
  unfold ended start
  rw [Program.execute_bind]
  generalize (InterruptLine.arm settings.settleTime).execute respond state = armed
  obtain ⟨answer, state, trace⟩ := armed
  cases answer <;> rfl

/-- Loading does so as well. -/
theorem flushes_load (settings : Settings) (state : σ) :
    let loaded := (load settings).execute respond state
    ∃ answer backlight, Flushes [.readMsr baseAddress] answer loaded.trace ∧
      loaded.value = started settings backlight answer := by
  intro loaded
  let prepared := (prepare settings).execute respond state
  obtain ⟨answer, hflushes, hvalue⟩ :=
    flushes_start respond settings prepared.value prepared.state
  have hprepared := (within_prepare settings).isApart respond (by decide) state
  have hloaded : loaded = (prepare settings >>= start settings).execute respond state :=
    congrArg (Program.execute respond · state) (load_eq settings)
  rw [hloaded]
  refine ⟨answer, prepared.value, .apart_bind hprepared hflushes, ?_⟩
  rw [Program.execute_bind]
  exact hvalue

end Laptop

/-- The operation that loads the driver ends as arming the line does, and a driver is loaded after
it exactly if that worked. -/
theorem Operation.flushes_load (settings : Settings) (state : σ) :
    let loaded := ((Operation.load settings).perform none).execute respond state
    ∃ answer, Flushes [.readMsr baseAddress] answer loaded.trace ∧
      loaded.value.1 = Laptop.wakingOutcome answer ∧
      (loaded.value.2.isSome ↔ answer = .ok ()) := by
  intro loaded
  obtain ⟨answer, backlight, hflushes, hvalue⟩ := Laptop.flushes_load respond settings state
  have hloaded : loaded = _ := Program.execute_bind respond (Laptop.load settings) _ state
  refine ⟨answer, ?_⟩
  rw [hloaded, hvalue]
  -- Nothing is asked once loading has ended.
  cases answer with
  | error fault =>
    exact ⟨hflushes.append_right rfl fun _ _ ↦ List.forall_mem_nil _, rfl, by simp [Laptop.started]⟩
  | ok =>
    exact ⟨hflushes.append_right rfl fun _ _ ↦ List.forall_mem_nil _, rfl, by simp [Laptop.started]⟩

namespace Laptop

/-- Waking up ends as arming the line does, and leaves the driver as it was. -/
theorem flushes_perform_resume (laptop : Laptop) (state : σ) :
    let woken := (laptop.perform .resume).execute respond state
    ∃ answer, Flushes [] answer woken.trace ∧
      woken.value = (wakingOutcome answer, some laptop) := by
  intro woken
  let switched := (switchDevices true).execute respond state
  have hswitched := (within_switchDevices true).isApart respond (by decide) state
  have hrearm := flushes_rearm respond laptop.settings.settleTime switched.state
  have hwoken : woken = _ :=
    congrArg (Program.execute respond · state) laptop.perform_resume_eq
  rw [hwoken]
  refine ⟨_, .apart_bind hswitched (hrearm.bind (by simp [conclude]) (by simp [conclude])), ?_⟩
  rw [Program.execute_bind, Program.execute_bind]
  cases ((InterruptLine.rearm laptop.settings.settleTime).execute respond switched.state).value <;>
    rfl

end Laptop

/-- Wherever the line is armed, however long it is to settle and however the hardware answers, one
query is made, and arming, loading and waking up end as it does, with its fault and no other. If it
failed, nothing was asked about the routing of interrupts but the base address, which waking up does
not look up either, and nothing was reported or announced; a driver that was to be loaded does not
exist, and one that was to wake up stays loaded with all that it remembers. -/
theorem failed_arming_routes_nothing :
    (∀ settleTime state,
      let armed := (arm settleTime).execute respond state
      Flushes [.readMsr baseAddress] armed.value armed.trace) ∧
    (∀ settings state,
      let loaded := ((Operation.load settings).perform none).execute respond state
      ∃ answer, Flushes [.readMsr baseAddress] answer loaded.trace ∧
        loaded.value.1 = Laptop.wakingOutcome answer ∧
        (loaded.value.2.isSome ↔ answer = .ok ())) ∧
    ∀ (laptop : Laptop) state,
      let woken := (laptop.perform .resume).execute respond state
      ∃ answer, Flushes [] answer woken.trace ∧
        woken.value = (Laptop.wakingOutcome answer, some laptop) :=
  ⟨flushes_arm respond, Operation.flushes_load respond, Laptop.flushes_perform_resume respond⟩

/-- A driver that is to be loaded on a machine whose controller is busy looks the base address up,
and leaves the interrupt line at that. -/
example :
    let machine : Machine := { pending := [.error .busy] }
    let loaded := ((Operation.load { }).perform none).execute Machine.respond machine
    loaded.value = (.startFailed (.noController .busy), none) ∧
      lineRequests loaded.trace = [.readMsr baseAddress] := by
  decide +kernel

end LaptopDriver
