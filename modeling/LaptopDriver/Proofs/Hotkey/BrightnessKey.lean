import LaptopDriver.Machine.Change
import LaptopDriver.Proofs.Hotkey.Level
import LaptopDriver.Proofs.Machine.Register

/-!
# What a brightness key says and what it did

Two parties move the brightness: the controller, when the user presses one of its keys, and the
driver, when the system asks for a brightness. The driver reports a key by comparing the new level
with the one that it saw at the key before. What it wrote itself in between does not count, so the
key that is reported and the key that was pressed are not always the same.

`BrightnessMove` is one move of either party, in a run of a loaded driver in which nothing else
happens. After a run, a key that moves the brightness from what the register holds to `level` is
reported truthfully (`TellsTruth`) if it is reported as the key that raises the brightness where it
was raised, and as the one that lowers it where it was lowered. The main statement says which key is
reported, exactly when it is the true one, and that it is the true one whenever the driver has not
written the register since the key before (`tellsTruth_iff`). A run in which it has, and a key that
lowers the brightness is reported as the one that raises it, is `not_tellsTruth_after_request`.
-/

namespace LaptopDriver

open Controller Display Hotkey Input

/-! ### Runs that move the brightness -/

/-- A move of the brightness. -/
inductive BrightnessMove where
  /-- The system asks the driver for a brightness. -/
  | request (request : BrightnessRequest)
  /-- The user presses a brightness key: the controller moves its register to `level`, and then
  interrupts with the event of the key. -/
  | key (level : UInt8)
  deriving DecidableEq, Repr

/-- The step of a run that a move is. -/
def BrightnessMove.step : BrightnessMove → Step Machine
  | request asked => ⟨id, .setBrightness asked⟩
  | key level =>
    ⟨Machine.Change.apply
        { registers := [(.displayBrightness, level)], pending := [.ok Event.brightness.code] },
      .interrupt interruptNumber⟩

/-- The transitions of a loaded driver on a list of moves. -/
def brightnessRun (laptop : Laptop) (machine : Machine) (moves : List BrightnessMove) :
    List Transition.OnMachine :=
  transitions Machine.executor (moves.map BrightnessMove.step) (some laptop) machine

/-- What the brightness register holds after a list of moves. -/
def heldAfter (laptop : Laptop) (machine : Machine) (moves : List BrightnessMove) : UInt8 :=
  (hardwareAfter machine (brightnessRun laptop machine moves)).registers .displayBrightness

/-- The levels that the driver wrote to the brightness register after the transition at `index`. -/
def writtenSince (index : Nat) (history : List Transition.OnMachine) : List UInt8 :=
  (history.drop (index + 1)).flatMap fun transition ↦
    Trace.written .displayBrightness transition.stage.trace

/-- What is reported if a key moves the brightness to `level` after a list of moves. -/
def reportsAfter (laptop : Laptop) (machine : Machine) (moves : List BrightnessMove)
    (level : UInt8) : List Report :=
  let history := brightnessRun laptop machine moves
  let press := (BrightnessMove.key level).step.transition Machine.executor
    (laptopAfter (some laptop) history) (hardwareAfter machine history)
  Trace.reports press.stage.trace

/-- The reports name the key that moves the brightness from `held` to `level`. -/
structure TellsTruth (held level : UInt8) (reports : List Report) : Prop where
  raised : held < level → reports = (ReportUnit.tap .brightnessUp).reports
  lowered : level < held → reports = (ReportUnit.tap .brightnessDown).reports

/-- No event waits, and the brightness register shows what it holds. -/
structure Machine.Steady (machine : Machine) : Prop where
  pending : machine.pending = []
  script : machine.script .displayBrightness = []

/-! ### One move -/

/-- Responding to a new level does not write. -/
theorem Hotkey.within_respond_axis (axis : Axis) (history : History) :
    Routine.Within [.reading, .dispatch, .note, .input] (Hotkey.respond axis.event history) := by
  have htopics : axis.event.topics = [.reading] := by
    cases axis <;> rfl
  have hevaluate := axis.event.within_evaluate history
  rw [htopics] at hevaluate
  rw [respond_eq]
  refine (hevaluate.mono (by simp)).bind fun evaluation ↦ ?_
  refine ((Routine.within_log _).mono (by simp)).bind fun _ ↦ ?_
  exact ((axis.event.within_report _ _).mono (by simp)).bind fun _ ↦ trivial

/-- An event that waits first in the queue is taken out of it and responded to. -/
theorem Laptop.execute_perform_pending (laptop : Laptop) {machine : Machine} {event : Event}
    {rest : List (Except Fault UInt8)} (h : machine.pending = .ok event.code :: rest) :
    let served : Machine := { machine with pending := rest, latch := event.code }
    let response := (Hotkey.respond event laptop.history).execute Machine.respond served
    (laptop.perform (.interrupt interruptNumber)).execute Machine.respond machine =
      { value := (.verdict .handled, some { laptop with history := response.value })
        state := response.state
        trace := ⟨.controller .query, .ok ()⟩ :: ⟨.controller .latched, event.code⟩ ::
          response.trace } := by
  intro served response
  have hquery : Machine.respond (.controller .query) machine = (.ok (), served) := by
    show machine.query = _
    rw [Machine.query, h]
  have hlatched : Machine.respond (.controller .latched) served = (event.code, served) := rfl
  have hinterrupt := execute_interrupt_ok (congrArg Prod.fst hquery) laptop.history
  simp only [hquery, hlatched, execute_serve_code] at hinterrupt
  rw [laptop.execute_perform_interrupt, hinterrupt]

/-- A brightness that the register shows and goes on showing is reported by its direction from the
level that is remembered, and is remembered instead of it. -/
theorem respond_brightness (history : History) {machine : Machine}
    (h : machine.script .displayBrightness = []) :
    let level := machine.registers .displayBrightness
    let response := (Hotkey.respond .brightness history).execute Machine.respond machine
    response.value.last .brightness = level.toNat ∧
      response.state.pending = machine.pending ∧
      response.state.script .displayBrightness = [] ∧
      response.state.registers .displayBrightness = level ∧
      Trace.reports response.trace =
        (ReportUnit.tap
          (Axis.brightness.key (history.direction .brightness level.toNat))).reports := by
  intro level response
  have hread : (Machine.respond (.controller (.read .displayBrightness)) machine).1 = level :=
    congrArg Prod.fst (Machine.readRegister_of_script h)
  obtain ⟨-, hreports, hvalue⟩ := respond_axis Machine.respond .brightness history machine
  rw [show Axis.brightness.register = .displayBrightness from rfl, hread] at hreports hvalue
  have hwithin := within_respond_axis .brightness history
  have hsource := hwithin.eventSource_eq (by simp) machine
  have hwritten : Trace.written .displayBrightness response.trace = [] :=
    hwithin.filterMap_eq_nil Machine.respond (by simp)
      (Trace.topic_of_written? .displayBrightness) machine
  refine ⟨?_, congrArg Prod.fst hsource, Machine.script_execute _ h, ?_, hreports⟩
  · exact (congrArg (·.last .brightness) hvalue).trans (History.last_remember _ _ _)
  · rw [Machine.register_execute, hwritten]
    rfl

/-- A key moves the register, is reported by its direction from the level that is remembered, and
is remembered instead of it. -/
theorem transition_key (laptop : Laptop) {machine : Machine} (h : machine.Steady)
    (level : UInt8) :
    let transition :=
      (BrightnessMove.key level).step.transition Machine.executor (some laptop) machine
    (∃ after, transition.stage.laptop = some after ∧
      after.history.last .brightness = level.toNat) ∧
    transition.stage.hardware.Steady ∧
    transition.stage.hardware.registers .displayBrightness = level ∧
    Trace.reports transition.stage.trace =
      (ReportUnit.tap
        (Axis.brightness.key (laptop.history.direction .brightness level.toNat))).reports := by
  intro transition
  have hpending : transition.started.pending = [.ok Event.brightness.code] := by
    show machine.pending ++ [.ok Event.brightness.code] = _
    rw [h.pending]
    rfl
  have hexecution := laptop.execute_perform_pending hpending
  -- The machine as it is once the event was taken out of the queue.
  let served : Machine :=
    { transition.started with pending := [], latch := Event.brightness.code }
  have hheld : served.registers .displayBrightness = level := by
    show machine.registers.write .displayBrightness level .displayBrightness = level
    exact Memory.write_same _ _ _
  have hresponse := @respond_brightness laptop.history served h.script
  rw [hheld] at hresponse
  obtain ⟨hlast, hwaiting, hscript, hregister, hreports⟩ := hresponse
  have hhardware : transition.stage.hardware = _ := congrArg (·.state) hexecution
  have htrace : transition.stage.trace = _ := congrArg (·.trace) hexecution
  rw [hhardware, htrace]
  exact ⟨⟨_, congrArg (·.value.2) hexecution, hlast⟩, ⟨hwaiting, hscript⟩, hregister, hreports⟩

/-- A request teaches the driver nothing about the keys, and leaves the register with what it writes
last. -/
theorem transition_request (laptop : Laptop) {machine : Machine} (h : machine.Steady)
    (request : BrightnessRequest) :
    let transition :=
      (BrightnessMove.request request).step.transition Machine.executor (some laptop) machine
    (∃ after, transition.stage.laptop = some after ∧ after.history = laptop.history) ∧
    transition.stage.hardware.Steady ∧
    transition.stage.hardware.registers .displayBrightness =
      (Trace.written .displayBrightness transition.stage.trace).getLast?.getD
        (machine.registers .displayBrightness) := by
  intro transition
  have hexecution := Program.execute_bind Machine.respond (laptop.backlight.update request)
    (fun backlight ↦ .done (Outcome.done, some { laptop with backlight })) machine
  have hlaptop : transition.stage.laptop = some _ := congrArg (·.value.2) hexecution
  have hwithin := Operation.within_perform (.setBrightness request) (some laptop)
  have hsource := hwithin.eventSource_eq (by simp) machine
  have hpending : transition.stage.hardware.pending = machine.pending := congrArg Prod.fst hsource
  refine ⟨⟨_, hlaptop, rfl⟩, ⟨hpending.trans h.pending, ?_⟩, ?_⟩
  · exact Machine.script_execute _ h.script
  · exact Machine.register_execute .displayBrightness _ machine

/-! ### Runs of moves -/

section Run

variable (laptop : Laptop) {machine : Machine}

/-- One more move adds the transition that it makes. -/
theorem brightnessRun_concat (machine : Machine) (moves : List BrightnessMove)
    (move : BrightnessMove) :
    let history := brightnessRun laptop machine moves
    brightnessRun laptop machine (moves ++ [move]) =
      history ++ [move.step.transition Machine.executor (laptopAfter (some laptop) history)
        (hardwareAfter machine history)] := by
  intro history
  rw [brightnessRun, List.map_append, List.map_singleton]
  exact transitions_concat _ _ _ _ _

/-- The driver stays loaded, and the machine steady. -/
theorem steady_brightnessRun (h : machine.Steady) (moves : List BrightnessMove) :
    let history := brightnessRun laptop machine moves
    (∃ after, laptopAfter (some laptop) history = some after) ∧
      (hardwareAfter machine history).Steady := by
  induction moves using List.reverseRecOn with
  | nil => exact ⟨⟨laptop, rfl⟩, h⟩
  | append_singleton moves move ih =>
    obtain ⟨⟨after, hafter⟩, hsteady⟩ := ih
    intro history
    have hhistory : history = _ := brightnessRun_concat laptop machine moves move
    rw [hhistory, hafter, laptopAfter_concat, hardwareAfter_concat]
    cases move with
    | request request =>
      obtain ⟨⟨after, hafter, -⟩, hsteady, -⟩ := transition_request after hsteady request
      exact ⟨⟨after, hafter⟩, hsteady⟩
    | key level =>
      obtain ⟨⟨after, hafter, -⟩, hsteady, -⟩ := transition_key after hsteady level
      exact ⟨⟨after, hafter⟩, hsteady⟩

/-- After a key, the driver goes on remembering its level; the register holds what the driver wrote
last since then, or else that level. -/
theorem brightnessRun_key_requests (h : machine.Steady) (earlier : List BrightnessMove)
    (last : UInt8) (requests : List BrightnessRequest) :
    let history := brightnessRun laptop machine (earlier ++ .key last :: requests.map .request)
    (∃ after, laptopAfter (some laptop) history = some after ∧
      after.history.last .brightness = last.toNat) ∧
    (hardwareAfter machine history).Steady ∧
    (hardwareAfter machine history).registers .displayBrightness =
      (writtenSince earlier.length history).getLast?.getD last := by
  induction requests using List.reverseRecOn with
  | nil =>
    obtain ⟨⟨before, hbefore⟩, hsteady⟩ := steady_brightnessRun laptop h earlier
    intro history
    have hhistory : history = _ := brightnessRun_concat laptop machine earlier (.key last)
    rw [hhistory, hbefore, laptopAfter_concat, hardwareAfter_concat]
    obtain ⟨hafter, hsteady, hregister, -⟩ := transition_key before hsteady last
    refine ⟨hafter, hsteady, ?_⟩
    rw [hregister, writtenSince, List.drop_eq_nil_of_le]
    · rfl
    · simp [brightnessRun]
  | append_singleton requests request ih =>
    obtain ⟨⟨before, hbefore, hlast⟩, hsteady, hheld⟩ := ih
    intro history
    have hmoves :
        earlier ++ BrightnessMove.key last ::
            List.map BrightnessMove.request (requests ++ [request]) =
          (earlier ++ BrightnessMove.key last :: List.map BrightnessMove.request requests) ++
            [BrightnessMove.request request] := by
      rw [List.map_append, List.map_singleton, List.append_assoc, List.cons_append]
    have hhistory : history = _ :=
      (congrArg (brightnessRun laptop machine) hmoves).trans
        (brightnessRun_concat laptop machine _ (.request request))
    rw [hhistory, hbefore, laptopAfter_concat, hardwareAfter_concat]
    obtain ⟨⟨after, hafter, hhistory⟩, hsteady', hregister⟩ :=
      transition_request before hsteady request
    refine ⟨⟨after, hafter, by rw [hhistory, hlast]⟩, hsteady', ?_⟩
    rw [hregister, hheld, writtenSince, writtenSince,
      List.drop_append_of_le_length (by simp [brightnessRun]), List.flatMap_append,
      List.flatMap_singleton, List.getLast?_append, Option.getD_or]

end Run

/-! ### The truth about a key -/

/-- A level is reported as moved down exactly if it is zero or below the one before. -/
theorem Hotkey.Direction.toward_some (last level : UInt8) :
    toward (some last) level = if level = 0 ∨ level < last then .decrease else .increase := by
  simp [toward]

/-- A key that is reported by its direction from `last` tells the truth about a move from `held`
exactly if the move from `last` has the same direction, where there is a move at all. -/
theorem tellsTruth_tap_iff (last held level : UInt8) :
    TellsTruth held level
        (ReportUnit.tap (Axis.brightness.key (.toward (some last) level))).reports ↔
      (held < level → last ≤ level) ∧ (level < held → level = 0 ∨ level < last) := by
  have hzero (h : held < level) : level ≠ 0 := by
    rintro rfl
    exact absurd h (UInt8.not_lt.2 (UInt8.zero_le))
  rw [Direction.toward_some]
  by_cases hdown : level = 0 ∨ level < last
  · -- The key that lowers the brightness is reported, so the brightness must not have been raised.
    rw [if_pos hdown]
    have hnot (hraised : held < level) : ¬last ≤ level := by
      rcases hdown with h | h
      · exact absurd h (hzero hraised)
      · exact UInt8.not_le.2 h
    constructor
    · intro h
      refine ⟨fun hraised ↦ ?_, fun _ ↦ hdown⟩
      exact absurd (h.raised hraised) (by decide)
    · intro h
      exact ⟨fun hraised ↦ absurd (h.1 hraised) (hnot hraised), fun _ ↦ rfl⟩
  · rw [if_neg hdown]
    obtain ⟨-, hle⟩ := not_or.1 hdown
    constructor
    · intro h
      refine ⟨fun _ ↦ UInt8.not_lt.1 hle, fun hlowered ↦ ?_⟩
      exact absurd (h.lowered hlowered) (by decide)
    · intro h
      exact ⟨fun _ ↦ rfl, fun hlowered ↦ absurd (h.2 hlowered) hdown⟩

/-- What a key is reported as after at least one other: the direction from the level `last` of the
key before. The register may hold another level by then, the last one that the driver wrote since
that key. So the report is the truth about the register exactly if the register moved in that
direction, and it always is if the driver did not write. -/
theorem tellsTruth_iff (laptop : Laptop) (machine : Machine) (h : machine.Steady)
    (earlier : List BrightnessMove) (last : UInt8) (requests : List BrightnessRequest)
    (level : UInt8) :
    let moves := earlier ++ .key last :: requests.map .request
    let held := heldAfter laptop machine moves
    let written := writtenSince earlier.length (brightnessRun laptop machine moves)
    let reports := reportsAfter laptop machine moves level
    reports = (ReportUnit.tap
      (if level = 0 ∨ level < last then .brightnessDown else .brightnessUp)).reports ∧
    (TellsTruth held level reports ↔
      (held < level → last ≤ level) ∧ (level < held → level = 0 ∨ level < last)) ∧
    held = written.getLast?.getD last ∧
    (written = [] → TellsTruth held level reports) := by
  intro moves held written reports
  obtain ⟨⟨after, hafter, hlast⟩, hsteady, hheld⟩ :=
    brightnessRun_key_requests laptop h earlier last requests
  have hreports : reports =
      (ReportUnit.tap (Axis.brightness.key (.toward (some last) level))).reports := by
    obtain ⟨-, -, -, hreported⟩ := transition_key after hsteady level
    have hdirection : after.history.direction .brightness level.toNat =
        .toward (some last) level := by
      rw [History.direction, hlast]
      exact ofSamples_rememberedLevel [last] level
    rw [hdirection] at hreported
    show reportsAfter laptop machine moves level = _
    rw [reportsAfter, hafter]
    exact hreported
  have htruth : TellsTruth held level reports ↔ _ :=
    hreports ▸ tellsTruth_tap_iff last held level
  refine ⟨hreports.trans ?_, htruth, hheld, fun hwritten ↦ ?_⟩
  · rw [Direction.toward_some]
    split <;> rfl
  · have hsame : held = last := hheld.trans (congrArg (·.getLast?.getD last) hwritten)
    refine htruth.2 ⟨fun hraised ↦ ?_, fun hlowered ↦ .inr ?_⟩
    · exact hsame ▸ UInt8.le_of_lt hraised
    · exact hsame ▸ hlowered

/-- A driver that was loaded at level 4, a key up to 5, a request for what the panel shows anyhow,
and a key back down to 4. -/
theorem tellsTruth_iff_up_down :
    let laptop : Laptop := { settings := { }, backlight := ⟨4⟩ }
    let machine : Machine := { registers := Memory.write (fun _ ↦ 0) .displayBrightness 4 }
    let moves : List BrightnessMove := [.key 5, .request { brightness := 4 }]
    machine.Steady ∧ heldAfter laptop machine moves = 5 ∧
      reportsAfter laptop machine moves 4 = (ReportUnit.tap .brightnessDown).reports ∧
      TellsTruth 5 4 (reportsAfter laptop machine moves 4) := by
  intro laptop machine moves
  have hsteady : machine.Steady := ⟨rfl, rfl⟩
  obtain ⟨hreports, -, hheld, htruth⟩ :=
    tellsTruth_iff laptop machine hsteady [] 5 [{ brightness := 4 }] 4
  have hwritten : writtenSince 0 (brightnessRun laptop machine moves) = [] := by
    decide +kernel
  have hfive : heldAfter laptop machine moves = 5 :=
    hheld.trans (congrArg (·.getLast?.getD 5) hwritten)
  exact ⟨hsteady, hfive, hreports, hfive ▸ htruth hwritten⟩

/-- A driver that is loaded at level 4, a key up and a key back down to 4, a request that the driver
follows with a write of 8, and a key down to 7: that last key is reported as one up. -/
theorem not_tellsTruth_after_request :
    ¬∀ (settings : Settings) (machine : Machine) (laptop : Laptop),
      let loaded := Step.execute Machine.executor ⟨id, .load settings⟩ none machine
      loaded.laptop = some laptop → loaded.hardware.Steady →
      ∀ (earlier : List BrightnessMove) (last : UInt8) (requests : List BrightnessRequest)
        (level : UInt8),
        let moves := earlier ++ .key last :: requests.map .request
        TellsTruth (heldAfter laptop loaded.hardware moves) level
          (reportsAfter laptop loaded.hardware moves level) := by
  intro h
  let machine : Machine :=
    { registers := Memory.write (fun _ ↦ 0) .displayBrightness 4, pending := [.ok 0x00] }
  let laptop : Laptop := { settings := { }, backlight := ⟨4⟩ }
  let loaded := Step.execute Machine.executor ⟨id, .load { }⟩ none machine
  have hloaded : loaded.laptop = some laptop := by decide +kernel
  have hsteady : loaded.hardware.Steady := ⟨by decide +kernel, by decide +kernel⟩
  have htruth := h { } machine laptop hloaded hsteady [.key 5] 4 [{ brightness := 8 }] 7
  have hheld : heldAfter laptop loaded.hardware
      [.key 5, .key 4, .request { brightness := 8 }] = 8 := by
    decide +kernel
  have hlowered := htruth.lowered (hheld ▸ (by decide : (7 : UInt8) < 8))
  exact absurd hlowered (by decide +kernel)

end LaptopDriver
