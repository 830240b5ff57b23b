import LaptopDriver.Machine.Change
import LaptopDriver.Proofs.Machine.Register
import Mathlib.Data.List.Induction

/-!
# What becomes of a request for a brightness

Two parties hold a level: the controller in its register, and the driver in its memory of the level
that was asked for last. A request moves the register only while the two agree, and it is remembered
in either case. So what a request comes to is a function of the two levels (`levelAfter`,
`execute_update`).

Requests are made one after the other, and between two of them the machine may change by itself: a
`BrightnessCall` is such a change followed by a request. Two statements are about runs of calls.

* While the controller leaves its level alone, the register ends at the level of the last request if
  the level that it held was remembered, or was asked for on the way; otherwise not one write is made
  (`level_after_requests`).
* If the controller leaves its level alone between two calls that ask for different levels, the
  second one is followed exactly if the first one left the register at its own level, or if the
  register holds the second level anyhow (`follows_iff`).

So a controller that has settled need not follow a request: it does not if the request before was
turned down and left the driver remembering a level that the register does not hold
(`not_follows_after_contest`).
-/

namespace LaptopDriver

open Controller Display

/-- The brightness register holds a level, and shows it when it is read. -/
structure Machine.Shows (machine : Machine) (level : UInt8) : Prop where
  held : machine.registers .displayBrightness = level
  script : machine.script .displayBrightness = []

theorem Machine.Shows.respond_read {machine : Machine} {level : UInt8} (h : machine.Shows level) :
    Machine.respond (.controller (.read .displayBrightness)) machine = (level, machine) :=
  h.held ▸ Machine.readRegister_of_script h.script

/-- A write moves the level. -/
theorem Machine.Shows.write {machine : Machine} {level : UInt8} (h : machine.Shows level)
    (moved : UInt8) :
    ((Routine.write .displayBrightness moved).execute Machine.respond machine).state.Shows moved := by
  refine ⟨?_, h.script⟩
  show machine.registers.write .displayBrightness moved .displayBrightness = moved
  exact Memory.write_same _ _ _

/-! ### One request -/

namespace Display

/-- The level of a request for what a register holds: out of range it counts as the highest one. -/
theorem BrightnessRequest.level_ofByte (byte : UInt8) :
    BrightnessRequest.level { brightness := byte.toNat } = min byte 8 := by
  show UInt8.ofNat (min byte.toNat 8) = if byte ≤ 8 then byte else 8
  by_cases h : byte ≤ 8
  · have hle : byte.toNat ≤ 8 := UInt8.le_iff_toNat_le.1 h
    rw [if_pos h, Nat.min_eq_left hle, UInt8.ofNat_toNat]
  · have hle : 8 ≤ byte.toNat := UInt8.le_iff_toNat_le.1 (UInt8.le_of_lt (UInt8.not_le.1 h))
    rw [if_neg h, Nat.min_eq_right hle]
    rfl

theorem BrightnessRequest.level_le (request : BrightnessRequest) : request.level ≤ 8 :=
  ofNat_min_le 8 _

namespace Backlight

variable (backlight : Backlight) (request : BrightnessRequest)

/-- The level that the controller holds after a request, by the level that it held. -/
def levelAfter (held : UInt8) : UInt8 :=
  if held = backlight.remembered then request.level else held

/-- The levels that the driver writes for a request, by the level that the controller holds. -/
def writes (held : UInt8) : List UInt8 :=
  if held = backlight.remembered ∧ request.level ≠ held then [request.level] else []

/-- The invariant of a run of requests, one request on. A level that is among those remembered or
asked for so far has been moved to the last of them, and any other one is where it was. -/
theorem levelAfter_ite {levels : List UInt8} (hlast : backlight.remembered ∈ levels)
    (held : UInt8) :
    backlight.levelAfter request (if held ∈ levels then backlight.remembered else held) =
      if held ∈ levels ++ [request.level] then request.level else held := by
  by_cases hmem : held ∈ levels
  · rw [if_pos hmem, levelAfter, if_pos rfl, if_pos (List.mem_append_left _ hmem)]
  · have hne : held ≠ backlight.remembered := fun heq ↦ hmem (heq ▸ hlast)
    rw [if_neg hmem, levelAfter, if_neg hne]
    split
    · next hnew =>
      rw [List.mem_append, List.mem_singleton] at hnew
      exact hnew.resolve_left hmem
    · rfl

/-- The controller ends up at the level of a request if it agrees with what is remembered, or holds
that level anyhow. -/
theorem levelAfter_eq_level_iff (held : UInt8) :
    backlight.levelAfter request held = request.level ↔
      held = backlight.remembered ∨ held = request.level := by
  rw [levelAfter]
  split
  · next heq => exact iff_of_true rfl (.inl heq)
  · next hne => exact (or_iff_right hne).symm

theorem eq_level_of_mem_writes {held level : UInt8} (h : level ∈ backlight.writes request held) :
    held = backlight.remembered ∧ level = request.level := by
  rw [writes] at h
  split at h
  · next hboth => exact ⟨hboth.1, List.mem_singleton.1 h⟩
  · cases h

/-- A request is remembered, whatever becomes of it. -/
theorem value_update {σ : Type}
    (respond : Responder (Request.Answer Chipset.Request.Answer) σ) (state : σ) :
    ((backlight.update request).execute respond state).value = ⟨request.level⟩ := by
  rw [update]
  by_cases hsame : backlight.remembered = request.level
  · rw [if_pos hsame, ← hsame]
    rfl
  · simp only [if_neg hsame, Program.execute_bind]
    split <;> rfl

section OnMachine

variable {machine : Machine} {held : UInt8} (h : machine.Shows held)

include h

/-- A routine that starts by looking at the level goes on with the one that is held. -/
theorem execute_currentLevel_bind {α : Type} (next : UInt8 → Routine α) :
    (currentLevel >>= next).execute Machine.respond machine =
      { (next held).execute Machine.respond machine with
        trace := ⟨.controller (.read .displayBrightness), held⟩ ::
          ((next held).execute Machine.respond machine).trace } := by
  have hread : currentLevel.execute Machine.respond machine =
      ⟨held, machine, [⟨.controller (.read .displayBrightness), held⟩]⟩ := by
    rw [currentLevel, Routine.read, Routine.askController, Program.execute_send, h.respond_read]
  rw [Program.execute_bind, hread]
  rfl

/-- A request for another level than the one that is remembered is written if the controller holds
the one that is remembered, and noted down otherwise. -/
theorem execute_update_of_ne (hne : backlight.remembered ≠ request.level) :
    let body : Routine Unit :=
      if held = backlight.remembered then Routine.write .displayBrightness request.level
      else Routine.log (.brightnessContested backlight.remembered held)
    let done := body.execute Machine.respond machine
    (backlight.update request).execute Machine.respond machine =
      ⟨⟨request.level⟩, done.state,
        ⟨.controller (.read .displayBrightness), held⟩ :: done.trace⟩ := by
  intro body done
  rw [update]
  simp only [if_neg hne]
  rw [execute_currentLevel_bind h]
  unfold done body
  split <;> rfl

/-- What a request comes to on a machine that shows its level. -/
theorem execute_update :
    let ended := (backlight.update request).execute Machine.respond machine
    ended.state.Shows (backlight.levelAfter request held) ∧
      ∀ register, Trace.written register ended.trace =
        if register = .displayBrightness then backlight.writes request held else [] := by
  intro ended
  by_cases hsame : backlight.remembered = request.level
  · -- Nothing is asked, and if the two levels agree the request is for the level that is held.
    have hended : ended = ⟨backlight, machine, []⟩ :=
      congrArg (Program.execute Machine.respond · machine) (if_pos hsame)
    have hafter : backlight.levelAfter request held = held := by
      rw [levelAfter, ← hsame]
      exact ite_eq_right_iff.2 Eq.symm
    have hwrites : backlight.writes request held = [] :=
      if_neg fun hboth ↦ hboth.2 (hsame.symm.trans hboth.1.symm)
    rw [hended, hafter, hwrites]
    exact ⟨h, fun register ↦ (ite_self _).symm⟩
  · have hended : ended = _ := backlight.execute_update_of_ne request h hsame
    rw [hended, levelAfter, writes]
    by_cases hheld : held = backlight.remembered
    · have hmoves : request.level ≠ held := fun heq ↦ hsame (hheld.symm.trans heq.symm)
      simp only [if_pos hheld, if_pos (And.intro hheld hmoves)]
      exact ⟨h.write request.level, fun register ↦
        Trace.written_write register .displayBrightness request.level⟩
    · simp only [if_neg hheld, if_neg fun hboth ↦ hheld (And.left hboth)]
      exact ⟨h, fun register ↦ (ite_self _).symm⟩

/-- Taking over the level of the controller writes nothing; a level out of range is remembered as
the highest one. -/
theorem execute_adopt :
    let adopted := adopt.execute Machine.respond machine
    adopted.value = ⟨min held 8⟩ ∧ adopted.state = machine ∧
      ∀ register, Trace.written register adopted.trace = [] := by
  intro adopted
  let request : BrightnessRequest := { brightness := held.toNat }
  let updated := (update { } request).execute Machine.respond machine
  have hlevel : request.level = min held 8 := BrightnessRequest.level_ofByte held
  have hadopted : adopted = { updated with
      trace := ⟨.controller (.read .displayBrightness), held⟩ :: updated.trace } :=
    execute_currentLevel_bind h _
  by_cases hzero : 0 = request.level
  · have hupdated : updated = ⟨{ }, machine, []⟩ :=
      congrArg (Program.execute Machine.respond · machine) (if_pos hzero)
    rw [hadopted, hupdated, ← hlevel, ← hzero]
    exact ⟨rfl, rfl, fun _ ↦ rfl⟩
  · -- The level is not zero, but zero is what a new driver remembers.
    have hcontested : held ≠ 0 := by
      rintro rfl
      exact hzero rfl
    have hupdated : updated = _ := execute_update_of_ne { } request h hzero
    rw [hadopted, hupdated, ← hlevel, if_neg hcontested]
    exact ⟨rfl, rfl, fun _ ↦ rfl⟩

end OnMachine

end Backlight

end Display

/-! ### One call after another -/

/-- A backlight and the machine that it is on, with all that was asked so far. -/
abbrev BacklightSession : Type :=
  Execution (Request.Answer Chipset.Request.Answer) Machine Backlight

/-- The session that starts on a machine by taking over its level. -/
def Machine.adopted (machine : Machine) : BacklightSession :=
  Backlight.adopt.execute Machine.respond machine

/-- A call on the backlight: what happens to the machine by itself before it, and a request. -/
structure BrightnessCall where
  change : Machine → Machine
  request : BrightnessRequest

namespace BrightnessCall

/-- The level may have moved before the call, but the register shows the one that it holds. -/
def KeepsShowing (call : BrightnessCall) : Prop :=
  ∀ machine : Machine, machine.script .displayBrightness = [] →
    (call.change machine).script .displayBrightness = []

/-- The level has not moved before the call. -/
def LeavesLevel (call : BrightnessCall) : Prop :=
  ∀ (machine : Machine) (level : UInt8), machine.Shows level → (call.change machine).Shows level

/-- What the call by itself comes to after a session. -/
def execute (call : BrightnessCall) (session : BacklightSession) : BacklightSession :=
  (session.value.update call.request).execute Machine.respond (call.change session.state)

/-- The session with a call more. -/
def extend (session : BacklightSession) (call : BrightnessCall) : BacklightSession :=
  { call.execute session with trace := session.trace ++ (call.execute session).trace }

/-- The session with a list of calls more. -/
def extendAll (session : BacklightSession) (calls : List BrightnessCall) : BacklightSession :=
  calls.foldl extend session

/-- The level of the last call; before the first one, the level that is remembered. -/
def lastLevel (remembered : UInt8) (calls : List BrightnessCall) : UInt8 :=
  (calls.getLast?.map (·.request.level)).getD remembered

theorem extendAll_concat (session : BacklightSession) (calls : List BrightnessCall)
    (call : BrightnessCall) :
    extendAll session (calls ++ [call]) = extend (extendAll session calls) call :=
  List.foldl_append

theorem lastLevel_concat (remembered : UInt8) (calls : List BrightnessCall)
    (call : BrightnessCall) : lastLevel remembered (calls ++ [call]) = call.request.level := by
  rw [lastLevel, List.getLast?_concat]
  rfl

theorem lastLevel_mem (remembered : UInt8) (calls : List BrightnessCall) :
    lastLevel remembered calls ∈ remembered :: calls.map (·.request.level) := by
  induction calls using List.reverseRecOn with
  | nil => exact List.mem_singleton.2 rfl
  | append_singleton calls call =>
    rw [lastLevel_concat, List.map_append]
    exact List.mem_cons_of_mem _ List.mem_concat_self

/-- The driver remembers the level of the last call. -/
theorem value_extendAll (session : BacklightSession) (calls : List BrightnessCall) :
    (extendAll session calls).value.remembered = lastLevel session.value.remembered calls := by
  induction calls using List.reverseRecOn with
  | nil => rfl
  | append_singleton calls call =>
    rw [extendAll_concat, lastLevel_concat]
    exact congrArg Backlight.remembered (Backlight.value_update _ _ _ _)

/-- What a call by itself comes to, if the register shows a level when it is made. -/
theorem execute_of_shows {call : BrightnessCall} {session : BacklightSession} {held : UInt8}
    (h : (call.change session.state).Shows held) :
    let ended := call.execute session
    ended.state.Shows (session.value.levelAfter call.request held) ∧
      ∀ register, Trace.written register ended.trace =
        if register = .displayBrightness then session.value.writes call.request held else [] :=
  session.value.execute_update call.request h

/-- The controller ends up at the level of a call if it agreed with the driver when the call was made,
or held that level anyhow. -/
theorem held_execute_iff {call : BrightnessCall} {session : BacklightSession} {held : UInt8}
    (h : (call.change session.state).Shows held) :
    (call.execute session).state.registers .displayBrightness = call.request.level ↔
      held = session.value.remembered ∨ held = call.request.level := by
  rw [(execute_of_shows h).1.held]
  exact session.value.levelAfter_eq_level_iff call.request held

/-- The register goes on showing what it holds. -/
theorem script_extendAll {session : BacklightSession}
    (h : session.state.script .displayBrightness = []) {calls : List BrightnessCall}
    (hcalls : ∀ call ∈ calls, call.KeepsShowing) :
    (extendAll session calls).state.script .displayBrightness = [] := by
  induction calls using List.reverseRecOn with
  | nil => exact h
  | append_singleton calls call ih =>
    have hbefore := ih fun call hmem ↦ hcalls call (List.mem_append_left _ hmem)
    rw [extendAll_concat]
    exact Machine.script_execute _ (hcalls call List.mem_concat_self _ hbefore)

theorem written_extend (register : Register) (session : BacklightSession)
    (call : BrightnessCall) :
    Trace.written register (extend session call).trace =
      Trace.written register session.trace ++
        Trace.written register (call.execute session).trace :=
  List.filterMap_append

/-- After calls before which the level did not move, the register holds the last level if the one
that it held was remembered or asked for. -/
theorem shows_extendAll (backlight : Backlight) {machine : Machine} {held : UInt8}
    (h : machine.Shows held) {calls : List BrightnessCall}
    (hcalls : ∀ call ∈ calls, call.LeavesLevel) :
    (extendAll ⟨backlight, machine, []⟩ calls).state.Shows
      (if held ∈ backlight.remembered :: calls.map (·.request.level) then
        lastLevel backlight.remembered calls
      else held) := by
  induction calls using List.reverseRecOn with
  | nil =>
    have hheld : (if held ∈ [backlight.remembered] then backlight.remembered else held) = held :=
      ite_eq_right_iff.2 fun hmem ↦ (List.mem_singleton.1 hmem).symm
    show machine.Shows (if held ∈ [backlight.remembered] then backlight.remembered else held)
    rw [hheld]
    exact h
  | append_singleton calls call ih =>
    let before := extendAll ⟨backlight, machine, []⟩ calls
    have hbefore := ih fun call hmem ↦ hcalls call (List.mem_append_left _ hmem)
    have hremembered : before.value.remembered = lastLevel backlight.remembered calls :=
      value_extendAll _ calls
    have hmem : before.value.remembered ∈
        backlight.remembered :: calls.map (·.request.level) :=
      hremembered ▸ lastLevel_mem _ calls
    rw [← hremembered] at hbefore
    have hafter := (execute_of_shows (hcalls call List.mem_concat_self _ _ hbefore)).1
    rw [Backlight.levelAfter_ite _ _ hmem] at hafter
    rw [extendAll_concat, lastLevel_concat, List.map_append, ← List.cons_append]
    exact hafter

/-- What was written over calls before which the level did not move: levels that were asked for, and
only if the level that was held is among those that were remembered or asked for. -/
theorem written_extendAll (backlight : Backlight) {machine : Machine} {held : UInt8}
    (h : machine.Shows held) {calls : List BrightnessCall}
    (hcalls : ∀ call ∈ calls, call.LeavesLevel) {register : Register} {level : UInt8}
    (hwritten : level ∈
      Trace.written register (extendAll ⟨backlight, machine, []⟩ calls).trace) :
    register = .displayBrightness ∧ level ∈ calls.map (·.request.level) ∧
      held ∈ backlight.remembered :: calls.map (·.request.level) := by
  induction calls using List.reverseRecOn with
  | nil => cases hwritten
  | append_singleton calls call ih =>
    have hearlier : ∀ call ∈ calls, call.LeavesLevel :=
      fun call hmem ↦ hcalls call (List.mem_append_left _ hmem)
    rw [extendAll_concat, written_extend, List.mem_append] at hwritten
    rw [List.map_append, ← List.cons_append]
    rcases hwritten with hwritten | hwritten
    · obtain ⟨hregister, hlevel, hheld⟩ := ih hearlier hwritten
      exact ⟨hregister, List.mem_append_left _ hlevel, List.mem_append_left _ hheld⟩
    · let before := extendAll ⟨backlight, machine, []⟩ calls
      have hremembered : before.value.remembered = lastLevel backlight.remembered calls :=
        value_extendAll _ calls
      have hbefore := hcalls call List.mem_concat_self _ _ (shows_extendAll backlight h hearlier)
      rw [(execute_of_shows hbefore).2 register] at hwritten
      split at hwritten
      · next hregister =>
        obtain ⟨hagrees, hlevel⟩ := before.value.eq_level_of_mem_writes call.request hwritten
        refine ⟨hregister, List.mem_append_right _ (List.mem_singleton.2 hlevel), ?_⟩
        refine List.mem_append_left _ ?_
        -- What is written agrees with the last level, so that was held if no other one was.
        split at hagrees
        · assumption
        · rw [hagrees, hremembered]
          exact lastLevel_mem _ calls
      · cases hwritten

end BrightnessCall

open BrightnessCall

/-- Over calls before which the controller leaves its level alone, whatever else happens to the
machine: the driver ends up remembering the level of the last call. If the level that the register
held was the one that was remembered or that of any of the calls, the register ends up at the level
of the last call as well; otherwise it is left as it was and not one register is written. What is
written is a level of one of the calls, within the range of the brightness. -/
theorem level_after_requests (backlight : Backlight) {machine : Machine} {held : UInt8}
    (h : machine.Shows held) (earlier : List BrightnessCall) (last : BrightnessCall)
    (hcalls : ∀ call ∈ earlier ++ [last], call.LeavesLevel) :
    let session := extendAll ⟨backlight, machine, []⟩ (earlier ++ [last])
    let levels := (earlier ++ [last]).map (·.request.level)
    session.value.remembered = last.request.level ∧
    session.state.registers .displayBrightness =
      (if held ∈ backlight.remembered :: levels then last.request.level else held) ∧
    (held ∉ backlight.remembered :: levels →
      ∀ register, Trace.written register session.trace = []) ∧
    ∀ register, ∀ level ∈ Trace.written register session.trace,
      register = .displayBrightness ∧ level ∈ levels ∧ level ≤ 8 := by
  intro session levels
  have hremembered : session.value.remembered = lastLevel backlight.remembered _ :=
    value_extendAll _ (earlier ++ [last])
  have hshows : session.state.Shows _ := shows_extendAll backlight h hcalls
  rw [lastLevel_concat] at hremembered hshows
  refine ⟨hremembered, hshows.held, fun hfresh register ↦ ?_, fun register level hwritten ↦ ?_⟩
  · refine List.eq_nil_iff_forall_not_mem.2 fun level hwritten ↦ hfresh ?_
    exact (written_extendAll backlight h hcalls hwritten).2.2
  · obtain ⟨hregister, hlevel, -⟩ := written_extendAll backlight h hcalls hwritten
    obtain ⟨call, -, rfl⟩ := List.mem_map.1 hlevel
    exact ⟨hregister, hlevel, call.request.level_le⟩

/-- The level was at 6 and 4 was remembered. A request for 2 is turned down; one for 6 asks for what
the controller holds, so the next one is followed, as far as the range goes. -/
theorem level_after_requests_caught_up :
    let machine : Machine := { registers := Memory.write (fun _ ↦ 0) .displayBrightness 6 }
    let earlier : List BrightnessCall :=
      [⟨id, { brightness := 2 }⟩,
        ⟨Machine.Change.apply { registers := [(.lidDetect, 1)] }, { brightness := 6 }⟩]
    let last : BrightnessCall := ⟨id, { brightness := 20 }⟩
    machine.Shows 6 ∧ (∀ call ∈ earlier ++ [last], call.LeavesLevel) ∧
      (extendAll ⟨⟨4⟩, machine, []⟩ (earlier ++ [last])).value.remembered = 8 ∧
      (extendAll ⟨⟨4⟩, machine, []⟩ (earlier ++ [last])).state.registers .displayBrightness = 8 := by
  intro machine earlier last
  have hshows : machine.Shows 6 := ⟨rfl, rfl⟩
  have hcalls : ∀ call ∈ earlier ++ [last], call.LeavesLevel := by
    simp only [earlier, last, List.cons_append, List.nil_append, List.forall_mem_cons]
    refine ⟨fun _ _ h ↦ h, fun machine _ h ↦ ⟨?_, h.script⟩, fun _ _ h ↦ h, List.forall_mem_nil _⟩
    exact (Machine.Change.registers_apply_of_notMem (by decide) machine).trans h.held
  obtain ⟨hremembered, hheld, -⟩ := level_after_requests ⟨4⟩ hshows earlier last hcalls
  exact ⟨hshows, hcalls, hremembered.trans (by decide), hheld.trans (by decide)⟩

/-- Two calls in a row, the first of which may be the taking over of the level: if the controller
leaves its level alone between them, and they ask for different levels, the second one is followed
exactly if the first one left the register at its own level, or if the register holds the second
level anyhow. The second one is written in the first case and in no other. A call that is not the
first of all leaves the register at its own level exactly if the register held, when it was made,
the level of the call before or its own. -/
theorem follows_iff {machine : Machine} {boot : UInt8} (h : machine.Shows boot)
    {calls : List BrightnessCall} (hcalls : ∀ call ∈ calls, call.KeepsShowing)
    (next : BrightnessCall) :
    let first := extendAll machine.adopted calls
    let held := first.state.registers .displayBrightness
    let wanted := lastLevel (min boot 8) calls
    let second := next.execute first
    (next.change first.state).Shows held → next.request.level ≠ wanted →
      (second.state.registers .displayBrightness = next.request.level ↔
        held = wanted ∨ held = next.request.level) ∧
      (∀ register, Trace.written register second.trace =
        if register = .displayBrightness ∧ held = wanted then [next.request.level] else []) ∧
      ∀ earlier call, calls = earlier ++ [call] →
        let before := (extendAll machine.adopted earlier).state
        let moved := (call.change before).registers .displayBrightness
        (held = wanted ↔ moved = lastLevel (min boot 8) earlier ∨ moved = wanted) := by
  intro first held wanted second hquiet hne
  obtain ⟨hvalue, hstate, -⟩ := Backlight.execute_adopt h
  have hremembered (calls : List BrightnessCall) :
      (extendAll machine.adopted calls).value.remembered = lastLevel (min boot 8) calls := by
    rw [value_extendAll, Machine.adopted, hvalue]
  refine ⟨?_, fun register ↦ ?_, ?_⟩
  · rw [held_execute_iff hquiet, hremembered]
  · -- The two levels differ, so a call that agrees with the driver does write.
    have hwrites : (held = wanted ∧ next.request.level ≠ held) ↔ held = wanted :=
      and_iff_left_of_imp fun heq ↦ heq ▸ hne
    rw [(execute_of_shows hquiet).2 register, Backlight.writes, hremembered]
    exact (if_congr Iff.rfl (if_congr hwrites rfl rfl) rfl).trans (ite_and _ _ _ _).symm
  · rintro earlier call rfl before moved
    have hscript : machine.adopted.state.script .displayBrightness = [] := by
      rw [Machine.adopted, hstate]
      exact h.script
    have hbefore := script_extendAll hscript fun call hmem ↦
      hcalls call (List.mem_append_left _ hmem)
    have hmoved : (call.change before).Shows moved :=
      ⟨rfl, hcalls call List.mem_concat_self _ hbefore⟩
    have hwanted : wanted = call.request.level := lastLevel_concat _ _ _
    have hheld : held = (call.execute (extendAll machine.adopted earlier)).state.registers _ :=
      congrArg (·.state.registers .displayBrightness) (extendAll_concat _ earlier call)
    rw [hheld, hwanted, held_execute_iff hmoved, hremembered]

/-- The driver took over level 4, and the user has moved it to 6. A request for 2 is turned down; one
for 6 brings the driver and the controller together, and so one for 5 is followed. -/
theorem follows_iff_after_agreement :
    let machine : Machine := { registers := Memory.write (fun _ ↦ 0) .displayBrightness 4 }
    let moved := Machine.Change.apply { registers := [(.displayBrightness, 6)] }
    let calls : List BrightnessCall :=
      [⟨moved, { brightness := 2 }⟩, ⟨id, { brightness := 6 }⟩]
    let next : BrightnessCall := ⟨id, { brightness := 5 }⟩
    machine.Shows 4 ∧ (∀ call ∈ calls, call.KeepsShowing) ∧
      (next.change (extendAll machine.adopted calls).state).Shows 6 ∧
      next.request.level ≠ lastLevel (min 4 8) calls ∧
      (next.execute (extendAll machine.adopted calls)).state.registers .displayBrightness = 5 := by
  intro machine moved calls next
  have hshows : machine.Shows 4 := ⟨rfl, rfl⟩
  have hcalls : ∀ call ∈ calls, call.KeepsShowing := by
    simp only [calls, List.forall_mem_cons]
    exact ⟨fun _ h ↦ h, fun _ h ↦ h, List.forall_mem_nil _⟩
  have hheld : (extendAll machine.adopted calls).state.registers .displayBrightness = 6 := by
    decide +kernel
  have hquiet : (next.change (extendAll machine.adopted calls).state).Shows 6 :=
    ⟨by decide +kernel, by decide +kernel⟩
  have hwanted : lastLevel (min 4 8) calls = 6 := by decide
  have hne : next.request.level ≠ lastLevel (min 4 8) calls := by decide
  obtain ⟨hfollows, -⟩ := follows_iff hshows hcalls next (by rw [hheld]; exact hquiet) hne
  have hfollowed := hfollows.2 (.inl (hheld.trans hwanted.symm))
  exact ⟨hshows, hcalls, hquiet, hne, hfollowed.trans (by decide)⟩

/-- The driver took over level 4, and the user has moved it to 6. A request for 2 is turned down but
remembered, and so the next one, for 5, is turned down as well, although the controller has left its
level alone since. -/
theorem not_follows_after_contest :
    ¬∀ (machine : Machine) (boot : UInt8) (calls : List BrightnessCall) (next : BrightnessCall),
      let first := extendAll machine.adopted calls
      let held := first.state.registers .displayBrightness
      machine.Shows boot → (∀ call ∈ calls, call.KeepsShowing) →
      (next.change first.state).Shows held →
      next.request.level ≠ lastLevel (min boot 8) calls →
      (next.execute first).state.registers .displayBrightness = next.request.level := by
  intro h
  let machine : Machine := { registers := Memory.write (fun _ ↦ 0) .displayBrightness 4 }
  let moved := Machine.Change.apply { registers := [(.displayBrightness, 6)] }
  let calls : List BrightnessCall := [⟨moved, { brightness := 2 }⟩]
  have hcalls : ∀ call ∈ calls, call.KeepsShowing :=
    List.forall_mem_singleton.2 fun _ h ↦ h
  have hfollowed := h machine 4 calls ⟨id, { brightness := 5 }⟩ ⟨rfl, rfl⟩ hcalls
    ⟨rfl, by decide +kernel⟩ (by decide)
  exact absurd hfollowed (by decide +kernel)

end LaptopDriver
