import LaptopDriver.Proofs.Machine.Frame
import LaptopDriver.Proofs.Trace

/-!
# Arming the interrupt line at load and after a sleep

There are two ways to arm the interrupt line. `arm` looks the address of the control ports up first
and waits in one go; `rearm` waits one millisecond at a time and looks the address up last. From the
same machine they come to the same (`rearm_agrees_with_arm`): a query changes no model-specific
register and neither does waiting, so both find the same address, and then both route the line with
the same requests (`execute_arm_ok`, `execute_rearm_ok`).

Both keep off the routing until the controller has settled. `Trace.SettlesFirst` says that of a
trace, and a trace settles first as soon as it routes nothing before some place and waits for nothing
after it (`settlesFirst_append`).
-/

namespace LaptopDriver

open Controller Chipset InterruptLine

/-! ### Writes and delays in a trace -/

/-- The chipset request, if it changes how interrupts are routed: a write to a model-specific
register or to a control port. -/
def Request.routingWrite? : Request Chipset.Request → Option Chipset.Request
  | .chipset (.writeMsr number contents) => some (.writeMsr number contents)
  | .chipset (.writePortWide port value) => some (.writePortWide port value)
  | _ => none

/-- How long a request waits, if it is a delay. -/
def Request.delay? : Request Chipset.Request → Option Nat
  | .chipset (.delay milliseconds) => some milliseconds
  | _ => none

namespace Trace

/-- The requests of a trace that change how interrupts are routed. -/
def routingWrites (trace : Trace) : List Chipset.Request :=
  trace.filterMap (·.op.routingWrite?)

/-- How long a trace waits altogether, in milliseconds. -/
def waited : Trace → Nat
  | [] => 0
  | exchange :: trace => exchange.op.delay?.getD 0 + waited trace

@[simp]
theorem routingWrites_append (first second : Trace) :
    routingWrites (first ++ second) = routingWrites first ++ routingWrites second :=
  List.filterMap_append

@[simp]
theorem waited_append (first second : Trace) :
    waited (first ++ second) = waited first + waited second := by
  induction first with
  | nil => exact (Nat.zero_add _).symm
  | cons exchange first ih => rw [List.cons_append, waited, waited, ih, Nat.add_assoc]

/-- A trace without delays waits for nothing. -/
theorem waited_eq_zero {trace : Trace} (h : ∀ exchange ∈ trace, exchange.op.delay? = none) :
    waited trace = 0 := by
  induction trace with
  | nil => rfl
  | cons exchange trace ih =>
    obtain ⟨hfirst, hrest⟩ := List.forall_mem_cons.1 h
    rw [waited, hfirst, ih hrest]
    rfl

/-- Interrupts are routed only after the one event query of the trace was answered and after all of
`settleTime` was waited for. -/
def SettlesFirst (settleTime : Nat) (trace : Trace) : Prop :=
  ∀ before exchange after, trace = before ++ exchange :: after →
    exchange.op.routingWrite? ≠ none → queries before = [.ok ()] ∧ waited before = settleTime

/-- A trace that routes nothing settles first. -/
theorem settlesFirst_of_routingWrites_eq_nil {trace : Trace} (settleTime : Nat)
    (h : routingWrites trace = []) : SettlesFirst settleTime trace := by
  intro before exchange after hsplit hwrite
  exact absurd (List.filterMap_eq_nil_iff.1 h exchange (mem_of_eq_append_cons hsplit)) hwrite

/-- A trace settles first if it routes nothing up to some place, and neither queries nor waits from
there on. -/
theorem settlesFirst_append {settleTime : Nat} {first second : Trace}
    (hwrites : routingWrites first = []) (hqueries : queries first = [.ok ()])
    (hwaited : waited first = settleTime)
    (hsecond : ∀ exchange ∈ second, queryAnswer? exchange = none ∧ exchange.op.delay? = none) :
    SettlesFirst settleTime (first ++ second) := by
  intro before exchange after hsplit hwrite
  rcases append_eq_append_cons hsplit with ⟨rest, hplace, -⟩ | ⟨rest, rfl, hplace⟩
  · have hmem := mem_of_eq_append_cons hplace
    exact absurd (List.filterMap_eq_nil_iff.1 hwrites exchange hmem) hwrite
  · have hrest : ∀ exchange ∈ rest,
        queryAnswer? exchange = none ∧ exchange.op.delay? = none := fun exchange hmem ↦
      hsecond exchange (hplace ▸ List.mem_append_left _ hmem)
    have hquiet : queries rest = [] :=
      List.filterMap_eq_nil_iff.2 fun exchange hmem ↦ (hrest exchange hmem).1
    have hswift : waited rest = 0 := waited_eq_zero fun exchange hmem ↦ (hrest exchange hmem).2
    rw [queries_append, waited_append, hqueries, hwaited, hquiet, hswift]
    exact ⟨rfl, rfl⟩

end Trace

namespace InterruptLine

/-! ### What arming leaves behind -/

/-- The address of the control ports is looked up. -/
def lookedUp (contents : MsrContents) : Exchange (Request.Answer Chipset.Request.Answer) :=
  ⟨.chipset (.readMsr baseAddress), contents⟩

/-- The controller is queried to flush an event. -/
def flushed (answer : Except Fault Unit) : Exchange (Request.Answer Chipset.Request.Answer) :=
  ⟨.controller .query, answer⟩

/-- So many milliseconds are waited for. -/
def delayed (milliseconds : Nat) : Exchange (Request.Answer Chipset.Request.Answer) :=
  ⟨.chipset (.delay milliseconds), ()⟩

/-- Routing the line at the address that the machine names, once the query was made. -/
def routing (machine : Machine) :
    Execution (Request.Answer Chipset.Request.Answer) Machine Unit :=
  (route (portBase (machine.msrs baseAddress))).execute Machine.respond machine.query.2

/-- What comes before the routing after a sleep: the query, the delay bit by bit, and the lookup. -/
def settling (settleTime : Nat) (contents : MsrContents) : Trace :=
  [flushed (.ok ())] ++ List.replicate settleTime (delayed 1) ++ [lookedUp contents]

section Settling

variable (settleTime : Nat) (contents : MsrContents)

theorem routingWrites_settling : Trace.routingWrites (settling settleTime contents) = [] := by
  have hdelays : Trace.routingWrites (List.replicate settleTime (delayed 1)) = [] :=
    List.filterMap_replicate_of_none rfl
  rw [settling, Trace.routingWrites_append, Trace.routingWrites_append, hdelays]
  rfl

theorem queries_settling : Trace.queries (settling settleTime contents) = [.ok ()] := by
  have hdelays : Trace.queries (List.replicate settleTime (delayed 1)) = [] :=
    List.filterMap_replicate_of_none rfl
  rw [settling, Trace.queries_append, Trace.queries_append, hdelays]
  rfl

theorem waited_settling : Trace.waited (settling settleTime contents) = settleTime := by
  have hdelays : Trace.waited (List.replicate settleTime (delayed 1)) = settleTime := by
    induction settleTime with
    | zero => rfl
    | succ settleTime ih =>
      rw [List.replicate_succ, Trace.waited, ih]
      exact Nat.add_comm 1 settleTime
  rw [settling, Trace.waited_append, Trace.waited_append, hdelays]
  exact Nat.zero_add settleTime

end Settling

/-- Routing the line neither queries nor waits. -/
theorem calm_routing (machine : Machine) :
    ∀ exchange ∈ (routing machine).trace,
      Trace.queryAnswer? exchange = none ∧ exchange.op.delay? = none := by
  have hqueries : Trace.queries (routing machine).trace = [] := rfl
  have hdelays : (routing machine).trace.filterMap (·.op.delay?) = [] := rfl
  exact fun exchange hmem ↦ ⟨List.filterMap_eq_nil_iff.1 hqueries exchange hmem,
    List.filterMap_eq_nil_iff.1 hdelays exchange hmem⟩

/-- If all that comes before the routing is a query and the whole delay, the trace settles first and
waits no longer than that. -/
theorem settles_before_routing {before : Trace} {settleTime : Nat}
    (hwrites : Trace.routingWrites before = []) (hqueries : Trace.queries before = [.ok ()])
    (hwaited : Trace.waited before = settleTime) (machine : Machine) :
    let trace := before ++ (routing machine).trace
    Trace.SettlesFirst settleTime trace ∧ Trace.waited trace = settleTime := by
  have hrouting : Trace.waited (routing machine).trace = 0 :=
    Trace.waited_eq_zero fun exchange hmem ↦ (calm_routing machine exchange hmem).2
  refine ⟨Trace.settlesFirst_append hwrites hqueries hwaited (calm_routing machine), ?_⟩
  rw [Trace.waited_append, hrouting, hwaited, Nat.add_zero]

section Execution

variable {α : Type} {machine : Machine} (settleTime : Nat)

/-- The answer to the flush decides how a routine goes on, from where the query led to. -/
theorem execute_flush_bind {answer : Except Fault Unit} (h : machine.query.1 = answer)
    (next : Except Fault Unit → Routine α) :
    (flush >>= next).execute Machine.respond machine =
      { (next answer).execute Machine.respond machine.query.2 with
        trace := flushed answer ::
          ((next answer).execute Machine.respond machine.query.2).trace } := by
  subst h
  exact Program.execute_bind Machine.respond flush next machine

/-- The address of the control ports is found in the base address register. -/
theorem execute_lookUpBase_bind (next : Port → Routine α) (machine : Machine) :
    let base := portBase (machine.msrs baseAddress)
    (lookUpBase >>= next).execute Machine.respond machine =
      { (next base).execute Machine.respond machine with
        trace := lookedUp (machine.msrs baseAddress) ::
          ((next base).execute Machine.respond machine).trace } :=
  Program.execute_bind Machine.respond lookUpBase next machine

/-- Waiting bit by bit leaves the machine as it is. -/
theorem execute_delays (machine : Machine) :
    (Program.times settleTime (Routine.delay 1)).execute Machine.respond machine =
      ⟨(), machine, List.replicate settleTime (delayed 1)⟩ := by
  have hdelay : (Routine.delay 1).execute Machine.respond machine = ⟨(), machine, [delayed 1]⟩ :=
    rfl
  rw [Program.execute_times Machine.respond hdelay, List.flatten_replicate_singleton]

theorem execute_arm_ok (h : machine.query.1 = .ok ()) :
    (arm settleTime).execute Machine.respond machine =
      ⟨.ok (), (routing machine).state,
        [lookedUp (machine.msrs baseAddress), flushed (.ok ()), delayed settleTime] ++
          (routing machine).trace⟩ := by
  rw [arm, execute_lookUpBase_bind, execute_flush_bind h]
  rfl

theorem execute_arm_error {fault : Fault} (h : machine.query.1 = .error fault) :
    (arm settleTime).execute Machine.respond machine =
      ⟨.error fault, machine.query.2,
        [lookedUp (machine.msrs baseAddress), flushed (.error fault)]⟩ := by
  rw [arm, execute_lookUpBase_bind, execute_flush_bind h]
  rfl

theorem execute_rearm_ok (h : machine.query.1 = .ok ()) :
    (rearm settleTime).execute Machine.respond machine =
      ⟨.ok (), (routing machine).state,
        settling settleTime (machine.msrs baseAddress) ++ (routing machine).trace⟩ := by
  -- The query left the base address alone, so looking it up last finds the same.
  have hroute : routeAtBase.execute Machine.respond machine.query.2 =
      ⟨(), (routing machine).state,
        lookedUp (machine.msrs baseAddress) :: (routing machine).trace⟩ := by
    rw [routeAtBase, execute_lookUpBase_bind, Machine.msrs_query]
    rfl
  rw [rearm, execute_flush_bind h]
  simp only [Program.execute_bind, execute_delays, hroute]
  simp [settling]

theorem execute_rearm_error {fault : Fault} (h : machine.query.1 = .error fault) :
    (rearm settleTime).execute Machine.respond machine =
      ⟨.error fault, machine.query.2, [flushed (.error fault)]⟩ := by
  rw [rearm, execute_flush_bind h]
  rfl

theorem settlesFirst_arm (machine : Machine) :
    let armed := (arm settleTime).execute Machine.respond machine
    Trace.SettlesFirst settleTime armed.trace ∧
      Trace.waited armed.trace = if armed.value.isOk then settleTime else 0 := by
  cases h : machine.query.1 with
  | error fault =>
    rw [execute_arm_error settleTime h]
    exact ⟨Trace.settlesFirst_of_routingWrites_eq_nil settleTime rfl, rfl⟩
  | ok =>
    have hwaited : Trace.waited
        [lookedUp (machine.msrs baseAddress), flushed (.ok ()), delayed settleTime] =
          settleTime := by
      show 0 + (0 + (settleTime + 0)) = settleTime
      omega
    rw [execute_arm_ok settleTime h]
    exact settles_before_routing rfl rfl hwaited machine

theorem settlesFirst_rearm (machine : Machine) :
    let rearmed := (rearm settleTime).execute Machine.respond machine
    Trace.SettlesFirst settleTime rearmed.trace ∧
      Trace.waited rearmed.trace = if rearmed.value.isOk then settleTime else 0 := by
  cases h : machine.query.1 with
  | error fault =>
    rw [execute_rearm_error settleTime h]
    exact ⟨Trace.settlesFirst_of_routingWrites_eq_nil settleTime rfl, rfl⟩
  | ok =>
    rw [execute_rearm_ok settleTime h]
    exact settles_before_routing (routingWrites_settling _ _) (queries_settling _ _)
      (waited_settling _ _) machine

/-- Both ways of arming end the same way, on the same machine, and by the same writes. -/
theorem rearm_eq_arm (machine : Machine) :
    let armed := (arm settleTime).execute Machine.respond machine
    let rearmed := (rearm settleTime).execute Machine.respond machine
    (rearmed.value = armed.value ∧ rearmed.state = armed.state) ∧
      Trace.routingWrites rearmed.trace = Trace.routingWrites armed.trace := by
  cases h : machine.query.1 with
  | error fault =>
    rw [execute_arm_error settleTime h, execute_rearm_error settleTime h]
    exact ⟨⟨rfl, rfl⟩, rfl⟩
  | ok =>
    rw [execute_arm_ok settleTime h, execute_rearm_ok settleTime h]
    refine ⟨⟨rfl, rfl⟩, ?_⟩
    rw [Trace.routingWrites_append, routingWrites_settling]
    rfl

/-- Both ways of arming make the same requests but for where the base address is looked up and how
the delay is cut. -/
theorem trace_arm_rearm (machine : Machine) :
    let armed := (arm settleTime).execute Machine.respond machine
    let rearmed := (rearm settleTime).execute Machine.respond machine
    let lookup := lookedUp (machine.msrs baseAddress)
    ∃ routing,
      armed.trace = lookup :: flushed armed.value ::
        (if armed.value.isOk then delayed settleTime :: routing else []) ∧
      rearmed.trace = flushed rearmed.value ::
        (if rearmed.value.isOk then
          List.replicate settleTime (delayed 1) ++ lookup :: routing
        else []) := by
  cases h : machine.query.1 with
  | error fault =>
    rw [execute_arm_error settleTime h, execute_rearm_error settleTime h]
    exact ⟨[], rfl, rfl⟩
  | ok =>
    rw [execute_arm_ok settleTime h, execute_rearm_ok settleTime h]
    exact ⟨(routing machine).trace, rfl,
      congrArg (flushed (.ok ()) :: ·) (List.append_assoc _ [_] _)⟩

end Execution

end InterruptLine

/-! ### Waking up -/

namespace Laptop

/-- How waking up ends, by how arming the line ended. -/
def wakingOutcome : Except Fault Unit → Outcome
  | .ok () => .done
  | .error fault => .startFailed (.noController fault)

/-- What is noted down about waking up, by how arming the line ended. -/
def wakingNotes : Except Fault Unit → Trace
  | .ok () => []
  | .error fault => [⟨.log (.resumeFailed fault), ()⟩]

/-- A loaded driver that wakes up switches the devices on and then arms the line. -/
theorem execute_resume (laptop : Laptop) (machine : Machine) :
    let switched := (switchDevices true).execute Machine.respond machine
    let rearmed := (rearm laptop.settings.settleTime).execute Machine.respond switched.state
    (laptop.perform .resume).execute Machine.respond machine =
      ⟨(wakingOutcome rearmed.value, some laptop), rearmed.state,
        switched.trace ++ rearmed.trace ++ wakingNotes rearmed.value⟩ := by
  intro switched rearmed
  have hconclude (answer : Except Fault Unit) :
      (laptop.conclude answer).execute Machine.respond rearmed.state =
        ⟨(wakingOutcome answer, some laptop), rearmed.state, wakingNotes answer⟩ := by
    cases answer <;> rfl
  rw [perform_resume_eq, Program.execute_bind, Program.execute_bind, hconclude, List.append_assoc]

end Laptop

/-- From the same machine, arming the line at load and arming it after a sleep end the same way and
lead to the same machine, by the same writes and after the same delay; both query and wait before
they route anything. They differ in where the base address is looked up and in how the delay is cut
into requests. A loaded driver that wakes up arms the line in the second way, from where switching
the devices on led to. -/
theorem rearm_agrees_with_arm (settleTime : Nat) (machine : Machine) :
    let armed := (arm settleTime).execute Machine.respond machine
    let rearmed := (rearm settleTime).execute Machine.respond machine
    let total := if armed.value.isOk then settleTime else 0
    let lookup := lookedUp (machine.msrs baseAddress)
    ((rearmed.value = armed.value ∧ rearmed.state = armed.state) ∧
      Trace.routingWrites rearmed.trace = Trace.routingWrites armed.trace) ∧
    (Trace.waited armed.trace = total ∧ Trace.waited rearmed.trace = total) ∧
    (Trace.SettlesFirst settleTime armed.trace ∧ Trace.SettlesFirst settleTime rearmed.trace) ∧
    (∃ routing,
      armed.trace = lookup :: flushed armed.value ::
        (if armed.value.isOk then delayed settleTime :: routing else []) ∧
      rearmed.trace = flushed rearmed.value ::
        (if rearmed.value.isOk then
          List.replicate settleTime (delayed 1) ++ lookup :: routing
        else [])) ∧
    ∀ (laptop : Laptop) (start : Machine),
      let switched := (Laptop.switchDevices true).execute Machine.respond start
      let rearmed := (rearm laptop.settings.settleTime).execute Machine.respond switched.state
      (laptop.perform .resume).execute Machine.respond start =
        ⟨(Laptop.wakingOutcome rearmed.value, some laptop), rearmed.state,
          switched.trace ++ rearmed.trace ++ Laptop.wakingNotes rearmed.value⟩ := by
  intro armed rearmed total lookup
  obtain ⟨hsettles, hwaited⟩ := settlesFirst_arm settleTime machine
  obtain ⟨hresettles, hrewaited⟩ := settlesFirst_rearm settleTime machine
  obtain ⟨⟨hvalue, hstate⟩, hwrites⟩ := rearm_eq_arm settleTime machine
  rw [hvalue] at hrewaited
  exact ⟨⟨⟨hvalue, hstate⟩, hwrites⟩, ⟨hwaited, hrewaited⟩, ⟨hsettles, hresettles⟩,
    trace_arm_rearm settleTime machine, Laptop.execute_resume⟩

end LaptopDriver
