import LaptopDriver.Proofs.Display.Brightness
import LaptopDriver.Proofs.Hotkey.Report
import LaptopDriver.Proofs.InterruptLine.Failure

/-!
# What loading the driver leaves behind

Loading prepares the devices and then starts. Preparing takes over the brightness, which writes
nothing whatever the level is, and sets the devices: two registers at most, with values that do not
depend on the machine (`execute_prepare`). Starting arms the interrupt line, reports the lid, and
writes to no register of the controller (`execute_start`). Preparing does not touch the queue, so
the flush that decides how loading ends is the query that the machine would have answered all along
(`execute_load`).

`load_footprint` puts this together: what becomes of every register of the controller and of the
sequencer, when loading succeeds, and what a driver that is loaded starts with.
-/

namespace LaptopDriver

open Controller Chipset Display InterruptLine Trace

/-! ### Arming the line -/

theorem Trace.topic_of_routingWrite?
    {exchange : Exchange (Request.Answer Chipset.Request.Answer)} {request : Chipset.Request}
    (h : exchange.op.routingWrite? = some request) : exchange.op.topic = .routing := by
  obtain ⟨op, answer⟩ := exchange
  cases op with
  | chipset request => cases request <;> first | rfl | cases h
  | _ => cases h

namespace InterruptLine

/-- The writes that route the line, given the address of the pins' control ports and what the
model-specific registers hold. -/
def lineRouting (base : Port) (msrs : Memory MsrNumber MsrContents) : List Chipset.Request :=
  [.writeMsr primaryRouting ((msrs primaryRouting).clearLow virtualLine),
    .writeMsr busRouting ((msrs busRouting).clearLow virtualLine),
    .writeMsr groupSelect ((msrs groupSelect).setLow interruptGroup),
    .writePortWide (base ||| inputEnable) pin,
    .writePortWide (base ||| inputInvert) pin,
    .writePortWide (base ||| eventEnable) pin]

theorem routingWrites_route (base : Port) (machine : Machine) :
    routingWrites ((route base).execute Machine.respond machine).trace =
      lineRouting base machine.msrs :=
  rfl

/-- Arming the line ends as the query does. -/
theorem value_arm (settleTime : Nat) (machine : Machine) :
    ((arm settleTime).execute Machine.respond machine).value = machine.query.1 := by
  cases h : machine.query.1 with
  | error fault => rw [execute_arm_error settleTime h]
  | ok => rw [execute_arm_ok settleTime h]

/-- Unless the query fails, arming the line routes it. -/
theorem routingWrites_arm {machine : Machine} (settleTime : Nat) (h : machine.query.1 = .ok ()) :
    routingWrites ((arm settleTime).execute Machine.respond machine).trace =
      lineRouting (portBase (machine.msrs baseAddress)) machine.msrs := by
  have hrouting : routingWrites (routing machine).trace =
      lineRouting (portBase (machine.msrs baseAddress)) machine.query.2.msrs :=
    routingWrites_route _ _
  rw [execute_arm_ok settleTime h, routingWrites_append, hrouting, Machine.msrs_query]
  rfl

end InterruptLine

namespace Laptop

/-! ### Preparing the devices -/

/-- What loading writes to a register of the controller: the fan is handed back, and the radio is
switched on if that is asked for. -/
def loadWrites (settings : Settings) (register : Register) : List UInt8 :=
  if register = .fanManual then [0]
  else if register = .wlan ∧ settings.wirelessOnLoad then [1]
  else []

section Machine

variable (settings : Settings) {machine : Machine}

theorem written_setDevices (machine : Machine) (register : Register) :
    written register ((setDevices settings).execute Machine.respond machine).trace =
      loadWrites settings register := by
  let radio : Routine Unit := if settings.wirelessOnLoad then switchWireless true else pure ()
  have hradio (machine : Machine) :
      written register (radio.execute Machine.respond machine).trace =
        if register = .wlan ∧ settings.wirelessOnLoad then [1] else [] := by
    unfold radio
    by_cases hwireless : settings.wirelessOnLoad = true
    · have hiff : (register = .wlan ∧ settings.wirelessOnLoad) ↔ register = .wlan :=
        and_iff_left hwireless
      rw [if_pos hwireless, if_congr hiff rfl rfl]
      exact written_write register .wlan 1
    · rw [if_neg hwireless, if_neg fun hboth ↦ hwireless hboth.2]
      rfl
  rw [setDevices, Program.execute_bind, written, List.filterMap_append]
  show written register [⟨.controller (.write .fanManual 0), ()⟩] ++
    written register (radio.execute Machine.respond _).trace = _
  rw [written_write, hradio, loadWrites]
  by_cases hfan : register = .fanManual
  · have hother : register ≠ .wlan := hfan ▸ by decide
    rw [if_pos hfan, if_pos hfan, if_neg fun hboth ↦ hother hboth.1, List.append_nil]
  · rw [if_neg hfan, if_neg hfan, List.nil_append]

/-- Preparing takes over the level of the controller without writing it, and sets the devices. -/
theorem execute_prepare {boot : UInt8} (h : machine.Shows boot) :
    let prepared := (prepare settings).execute Machine.respond machine
    prepared.value = ⟨min boot 8⟩ ∧
      ∀ register, written register prepared.trace = loadWrites settings register := by
  intro prepared
  let adopted := Backlight.adopt.execute Machine.respond machine
  let set := (setDevices settings).execute Machine.respond adopted.state
  have hprepared : prepared =
      ⟨adopted.value, set.state, ⟨.log .loading, ()⟩ :: (adopted.trace ++ (set.trace ++ []))⟩ := by
    unfold prepared
    rw [prepare_eq, Program.execute_bind, Program.execute_bind, Program.execute_bind]
    rfl
  obtain ⟨hvalue, -, hnothing⟩ := Backlight.execute_adopt h
  rw [hprepared]
  refine ⟨hvalue, fun register ↦ ?_⟩
  calc written register (⟨.log .loading, ()⟩ :: (adopted.trace ++ (set.trace ++ [])))
      = written register adopted.trace ++ written register set.trace := by
        rw [List.append_nil]
        exact List.filterMap_append
    _ = written register set.trace := congrArg (· ++ written register set.trace) (hnothing register)
    _ = _ := written_setDevices settings adopted.state register

/-! ### Starting -/

/-- What follows on arming the line, by how that ended: the lid is reported, or the failure is noted
down. -/
def startingNotes : Except Fault Unit → Trace
  | .ok () => lidTrace 1
  | .error fault => [⟨.log (.loadFailed fault), ()⟩]

theorem eq_ok_of_started {settings : Settings} {backlight : Backlight} {laptop : Laptop}
    {answer : Except Fault Unit} (h : started settings backlight answer = .ok laptop) :
    answer = .ok () := by
  cases answer with
  | error fault => cases h
  | ok => rfl

theorem execute_start (backlight : Backlight) (machine : Machine) :
    let armed := (arm settings.settleTime).execute Machine.respond machine
    (start settings backlight).execute Machine.respond machine =
      ⟨started settings backlight armed.value, armed.state,
        armed.trace ++ startingNotes armed.value⟩ := by
  intro armed
  unfold armed
  rw [start, Program.execute_bind]
  generalize (arm settings.settleTime).execute Machine.respond machine = armed
  rcases armed with ⟨_ | _, state, trace⟩ <;> rfl

/-- Preparing is not about the queue, so it does not matter to the query. -/
theorem query_prepare (machine : Machine) :
    ((prepare settings).execute Machine.respond machine).state.query.1 = machine.query.1 :=
  (Machine.query_congr ((within_prepare settings).eventSource_eq (by simp) machine)).1

/-- Loading prepares, arms the line on the machine that this leaves, and ends as the query on the
machine from before would have ended. -/
theorem execute_load (machine : Machine) :
    let prepared := (prepare settings).execute Machine.respond machine
    let armed := (arm settings.settleTime).execute Machine.respond prepared.state
    (load settings).execute Machine.respond machine =
      ⟨started settings prepared.value machine.query.1, armed.state,
        prepared.trace ++ armed.trace ++ startingNotes machine.query.1⟩ := by
  intro prepared armed
  have hvalue : armed.value = machine.query.1 :=
    (value_arm settings.settleTime prepared.state).trans (query_prepare settings machine)
  rw [load_eq, Program.execute_bind, execute_start, ← hvalue, List.append_assoc]

/-- Starting writes to no register of the controller, so what loading writes is what it writes to
prepare. -/
theorem written_load {boot : UInt8} (h : machine.Shows boot) (register : Register) :
    written register ((load settings).execute Machine.respond machine).trace =
      loadWrites settings register := by
  have hstart : written register ((prepare settings >>= start settings).execute
      Machine.respond machine).trace = written register _ :=
    Routine.Within.filterMap_bind _ (within_start settings) (by simp) (topic_of_written? register)
      _ _
  rw [load_eq, hstart]
  exact (execute_prepare settings h).2 register

/-- What loading does up to the end of the arming: it makes the one query, reports nothing, and
routes the line unless the query failed. -/
theorem before_startingNotes (machine : Machine) :
    let prepared := (prepare settings).execute Machine.respond machine
    let armed := (arm settings.settleTime).execute Machine.respond prepared.state
    let before := prepared.trace ++ armed.trace
    queries before = [machine.query.1] ∧ reports before = [] ∧
      (machine.query.1 = .ok () → routingWrites before =
        lineRouting (portBase (machine.msrs baseAddress)) machine.msrs) := by
  intro prepared armed before
  have hprepare := within_prepare settings
  have harm := within_arm settings.settleTime
  have hquery := query_prepare settings machine
  refine ⟨?_, ?_, fun hok ↦ ?_⟩
  · have hqueries : queries armed.trace = [armed.value] :=
      (flushes_arm Machine.respond settings.settleTime prepared.state).queried
    rw [queries_append, hqueries, value_arm, hquery,
      hprepare.queries_eq_nil Machine.respond (by simp), List.nil_append]
  · have hprepared := hprepare.filterMap_eq_nil Machine.respond (by simp) topic_of_report? machine
    have harmed :=
      harm.filterMap_eq_nil Machine.respond (by simp) topic_of_report? prepared.state
    rw [reports, List.filterMap_append, hprepared, harmed, List.nil_append]
  · have hprepared : routingWrites prepared.trace = [] :=
      hprepare.filterMap_eq_nil Machine.respond (by simp) topic_of_routingWrite? machine
    have hmsrs : prepared.state.msrs = machine.msrs := hprepare.msrs_eq (by simp) machine
    rw [routingWrites_append, hprepared, routingWrites_arm _ (hquery.trans hok), hmsrs,
      List.nil_append]

end Machine

end Laptop

open Laptop

/-- Loading on a machine whose brightness register shows what it holds, whatever that and the rest of
the machine is. One query is made, and a driver is loaded exactly if it succeeds. In either case the
fan is handed back, the radio is switched on if that is asked for, and nothing else is written to the
controller; no port of the sequencer is used. A driver that is loaded has no history yet and
remembers the level that it found, at most the highest one; all that it reports is that the lid is
open, and it does so last, when the line has been routed. -/
theorem load_footprint (settings : Settings) {machine : Machine} {boot : UInt8}
    (h : machine.Shows boot) :
    let loaded := (load settings).execute Machine.respond machine
    queries loaded.trace = [machine.query.1] ∧
    ((∃ laptop, loaded.value = .ok laptop) ↔ machine.query.1 = .ok ()) ∧
    (∀ register,
      written register loaded.trace = loadWrites settings register ∧
      loaded.state.registers register =
        if register = .fanManual then 0
        else if register = .wlan ∧ settings.wirelessOnLoad then 1
        else machine.registers register) ∧
    loaded.state.sequencer = machine.sequencer ∧
    (∀ exchange ∈ loaded.trace, exchange.op.topic ≠ .port) ∧
    ∀ laptop, loaded.value = .ok laptop →
      laptop = { settings, backlight := ⟨min boot 8⟩
                 history := { lastBrightness := -1, lastVolume := -1, videoMode := none } } ∧
      ∃ before,
        loaded.trace = before ++ [⟨.input (.switch .lid false), ()⟩, ⟨.input .sync, ()⟩] ∧
        reports before = [] ∧
        routingWrites before =
          lineRouting (portBase (machine.msrs baseAddress)) machine.msrs := by
  intro loaded
  let prepared := (prepare settings).execute Machine.respond machine
  let armed := (arm settings.settleTime).execute Machine.respond prepared.state
  have hwritten := written_load settings h
  obtain ⟨hqueries, hreports, hrouting⟩ := before_startingNotes settings machine
  have hloaded : loaded =
      ⟨started settings ⟨min boot 8⟩ machine.query.1, armed.state,
        prepared.trace ++ armed.trace ++ startingNotes machine.query.1⟩ := by
    rw [← (execute_prepare settings h).1]
    exact execute_load settings machine
  refine ⟨?_, ?_, fun register ↦ ⟨hwritten register, ?_⟩, ?_, ?_, ?_⟩
  · have hnotes : queries (startingNotes machine.query.1) = [] := by
      cases machine.query.1 <;> rfl
    rw [hloaded, queries_append, hqueries, hnotes, List.append_nil]
  · rw [hloaded]
    refine ⟨fun ⟨_, hlaptop⟩ ↦ eq_ok_of_started hlaptop, fun hquery ↦ ?_⟩
    exact ⟨_, congrArg (started settings _) hquery⟩
  · rw [Machine.register_execute, hwritten register, loadWrites]
    split
    · rfl
    · split <;> rfl
  · exact (within_load settings).sequencer_eq (by simp) machine
  · intro exchange hmem hport
    have htopic := (within_load settings).topic_mem Machine.respond machine exchange hmem
    rw [hport] at htopic
    exact absurd htopic (by decide)
  · intro laptop hlaptop
    rw [hloaded] at hlaptop ⊢
    have hquery : machine.query.1 = .ok () := eq_ok_of_started hlaptop
    rw [hquery] at hlaptop ⊢
    obtain rfl := Except.ok.inj hlaptop
    exact ⟨rfl, _, rfl, hreports, hrouting hquery⟩

/-- The controller holds a level far out of range, and one event waits. The driver is loaded and
remembers the highest level, but the controller keeps the level that it has. -/
theorem load_footprint_out_of_range :
    let machine : Machine :=
      { registers := Memory.write (fun _ ↦ 0) .displayBrightness 200, pending := [.ok 0x2C] }
    machine.Shows 200 ∧
      ∃ laptop, ((load { }).execute Machine.respond machine).value = .ok laptop ∧
        laptop.backlight.remembered = 8 ∧
        ((load { }).execute Machine.respond machine).state.registers .displayBrightness = 200 ∧
        written .displayBrightness ((load { }).execute Machine.respond machine).trace = [] := by
  intro machine
  have hshows : machine.Shows 200 := ⟨rfl, rfl⟩
  obtain ⟨-, hok, hregisters, -, -, hloaded⟩ := load_footprint { } hshows
  obtain ⟨laptop, hvalue⟩ := hok.2 rfl
  obtain ⟨hwritten, hheld⟩ := hregisters .displayBrightness
  have hbacklight := congrArg Laptop.backlight (hloaded laptop hvalue).1
  exact ⟨hshows, laptop, hvalue, (congrArg Backlight.remembered hbacklight).trans (by decide),
    hheld.trans (by decide), hwritten.trans (by decide)⟩

end LaptopDriver
