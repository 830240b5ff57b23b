import LaptopDriver.Proofs.Hotkey.Notification
import Mathlib.Data.List.DropRight
import Mathlib.Data.List.Induction

/-!
# Levels and the keys they are reported as

The controller reports a level, and the driver reports the direction in which it moved. What that
direction should be can be said without any memory: a list of levels moves, at each place, down if
the level there is zero or below the one before it, and up otherwise (`Direction.ofLevels`). The
driver sees the levels one at a time and remembers only the last of them, while all sorts of other
operations and events come in between.

`Transition.FollowsLevels` says that a list of transitions has kept up with the levels of an axis
since the driver was loaded: the keys of the axis that were reported are the directions of the
levels, and the level that is remembered is the last of them. Each step preserves it
(`FollowsLevels.concat`), because a step either serves the event of the axis, which reads one level,
reports its direction and remembers it, or leaves both the keys and the memory of the axis alone
(`Course.axis_cases`).
-/

namespace LaptopDriver

open Controller Hotkey Input

/-! ### Directions of a list of levels -/

/-- The direction of a move to `level` from the level before, if there is one. -/
def Hotkey.Direction.toward (before : Option UInt8) (level : UInt8) : Direction :=
  if level = 0 ∨ before.any (level < ·) then .decrease else .increase

/-- The directions in which a list of levels moves: at each place, down if the level is zero or
below the one before it, and up otherwise. -/
def Hotkey.Direction.ofLevels (levels : List UInt8) : List Direction :=
  levels.mapIdx fun i level ↦ .toward (if i = 0 then none else levels[i - 1]?) level

/-- One more level moves in its direction from the last one. -/
theorem Hotkey.Direction.ofLevels_concat (levels : List UInt8) (level : UInt8) :
    ofLevels (levels ++ [level]) = ofLevels levels ++ [toward levels.getLast? level] := by
  unfold ofLevels
  rw [List.mapIdx_concat]
  congr 1
  · -- The levels that were there have the same ones before them.
    refine List.ext_getElem (by simp) fun i hi _ ↦ ?_
    have hlt : i - 1 < levels.length := by
      rw [List.length_mapIdx] at hi
      omega
    rw [List.getElem_mapIdx, List.getElem_mapIdx, List.getElem?_append_left hlt]
  · cases levels with
    | nil => rfl
    | cons first levels =>
      have hlt : (first :: levels).length - 1 < (first :: levels).length := by simp
      rw [if_neg (by simp), List.getElem?_append_left hlt, List.getLast?_eq_getElem?]

/-- The level that is remembered on an axis that has seen `levels`: the last of them, or a number
below all levels. -/
def Hotkey.rememberedLevel (levels : List UInt8) : Int :=
  levels.getLast?.elim (-1) fun level ↦ level.toNat

/-- Comparing with what is remembered is comparing with the last level. -/
theorem Hotkey.ofSamples_rememberedLevel (levels : List UInt8) (level : UInt8) :
    Direction.ofSamples (rememberedLevel levels) level.toNat =
      .toward levels.getLast? level := by
  have hzero : level.toNat = 0 ↔ level = 0 := by
    rw [← UInt8.toNat_inj]
    rfl
  unfold Direction.ofSamples Direction.toward rememberedLevel
  cases levels.getLast? with
  | none =>
    have hnot : ¬(level.toNat : Int) < -1 := by omega
    simp [hzero, hnot]
  | some before => simp [hzero, UInt8.lt_iff_toNat_lt]

/-! ### Keys of an axis -/

/-- The key is one of the two that move an axis. -/
def Hotkey.Axis.Moves (axis : Axis) (key : Key) : Prop :=
  ∃ direction, key = axis.key direction

instance (axis : Axis) (key : Key) : Decidable (axis.Moves key) :=
  decidable_of_iff (key = axis.key .increase ∨ key = axis.key .decrease) <| by
    constructor
    · rintro (h | h)
      · exact ⟨.increase, h⟩
      · exact ⟨.decrease, h⟩
    · rintro ⟨direction, h⟩
      cases direction
      · exact .inl h
      · exact .inr h

/-- The key of an axis that a report presses. -/
def Hotkey.Axis.pressed? (axis : Axis) : Report → Option Key
  | .key key true => if axis.Moves key then some key else none
  | _ => none

/-- The keys of an axis that were pressed in a trace. -/
def Trace.pressed (axis : Axis) (trace : Trace) : List Key :=
  (Trace.reports trace).filterMap axis.pressed?

theorem Hotkey.Axis.pressed?_reports_tap (axis : Axis) (key : Key) :
    (ReportUnit.tap key).reports.filterMap axis.pressed? =
      if axis.Moves key then [key] else [] := by
  by_cases h : axis.Moves key <;> simp [ReportUnit.reports, pressed?, h]

theorem Hotkey.Axis.pressed?_reports_lid (axis : Axis) (closed : Bool) :
    (ReportUnit.lid closed).reports.filterMap axis.pressed? = [] :=
  rfl

/-- The keys of an axis belong to the event of the axis. -/
theorem Hotkey.Axis.event_eq_of_moves {axis : Axis} {entry : KeyEntry} {key : Key}
    (hmem : entry ∈ keymap) (haction : entry.action = .tap key) (hmoves : axis.Moves key) :
    entry.event = axis.event := by
  obtain ⟨direction, rfl⟩ := hmoves
  have hall : ∀ entry ∈ keymap,
      entry.action = .tap (axis.key direction) → entry.event = axis.event := by
    cases axis <;> cases direction <;> decide
  exact hall entry hmem haction

section Response

variable {σ : Type} (respond : Responder (Request.Answer Chipset.Request.Answer) σ)

/-- Only the event of an axis presses its keys. -/
theorem Hotkey.pressed_respond_of_ne {axis : Axis} {event : Event} (h : event ≠ axis.event)
    (history : History) (state : σ) :
    Trace.pressed axis ((Hotkey.respond event history).execute respond state).trace = [] := by
  by_cases hmapped : event.Mapped
  · obtain ⟨unit, hreported, hreports⟩ := reportedAs_respond respond hmapped history state
    rw [Trace.pressed, hreports]
    generalize Trace.shownFor event _ = shown at hreported
    cases hreported with
    | tap _ hmem =>
      have hmoves : ¬axis.Moves _ := fun hmoves ↦ h (Axis.event_eq_of_moves hmem rfl hmoves)
      rw [Axis.pressed?_reports_tap, if_neg hmoves]
    | turn => exact axis.pressed?_reports_lid _
  · rw [Trace.pressed, reports_respond_of_not_mapped respond hmapped]
    rfl

end Response

/-! ### One step -/

namespace Transition

variable {σ : Type} {respond : Responder (Request.Answer Chipset.Request.Answer) σ}

/-- The levels that the event of an axis read in a transition. -/
def levels (axis : Axis) (transition : Transition (Request.Answer Chipset.Request.Answer) σ) :
    List UInt8 :=
  if axis.event ∈ Trace.dispatched transition.stage.trace then
    Trace.shown axis.register transition.stage.trace
  else []

/-- The keys of an axis that were pressed in a transition. -/
def pressed (axis : Axis) (transition : Transition (Request.Answer Chipset.Request.Answer) σ) :
    List Key :=
  Trace.pressed axis transition.stage.trace

/-- What a step does to an axis: it reads a level, reports its direction from what was remembered
and remembers it instead; or it leaves the axis alone; or it loads a driver that remembers
nothing. -/
theorem Course.axis_cases {transition : Transition (Request.Answer Chipset.Request.Answer) σ}
    (h : transition.Course respond) (axis : Axis) :
    (∃ before level, transition.laptop = some before ∧ transition.loads = false ∧
      transition.levels axis = [level] ∧
      transition.pressed axis = [axis.key (before.history.direction axis level.toNat)] ∧
      ∀ after, transition.stage.laptop = some after →
        after.history.last axis = level.toNat) ∨
    (transition.loads = false ∧ transition.levels axis = [] ∧ transition.pressed axis = [] ∧
      ∀ after, transition.stage.laptop = some after → ∃ before,
        transition.laptop = some before ∧ after.history.last axis = before.history.last axis) ∨
    (transition.loads = true ∧
      ∀ after, transition.stage.laptop = some after → after.history.last axis = -1) := by
  cases h with
  | serves laptop event served history before after serves lid loads =>
    have hdispatched := dispatched_of_serves serves
    have hreports := filterMap_of_serves Trace.report? Trace.topic_of_report? (by decide) serves
    have hpressed : transition.pressed axis = _ := congrArg (·.filterMap axis.pressed?) hreports
    by_cases hevent : event = axis.event
    · subst hevent
      have hshown := filterMap_of_serves (Trace.shown? axis.register)
        (Trace.topic_of_shown? axis.register) (by decide) serves
      obtain ⟨hlevel, hkey, hvalue⟩ := respond_axis respond axis laptop.history served
      let level := (respond (.controller (.read axis.register)) served).1
      refine .inl ⟨laptop, level, before, loads, ?_, ?_, ?_⟩
      · rw [levels, hdispatched, if_pos (List.mem_singleton.2 rfl)]
        exact hshown.trans hlevel
      · rw [hpressed]
        simp only [Trace.reports] at hkey
        rw [hkey, Axis.pressed?_reports_tap, if_pos ⟨_, rfl⟩]
      · intro loaded hloaded
        rw [after] at hloaded
        obtain rfl := Option.some.inj hloaded
        show history.last axis = _
        rw [serves.2, hvalue, History.last_remember]
    · refine .inr (.inl ⟨loads, ?_, ?_, ?_⟩)
      · rw [levels, hdispatched, if_neg fun hmem ↦ hevent (List.mem_singleton.1 hmem).symm]
      · exact hpressed.trans (pressed_respond_of_ne respond hevent laptop.history served)
      · intro loaded hloaded
        rw [after] at hloaded
        obtain rfl := Option.some.inj hloaded
        refine ⟨laptop, before, ?_⟩
        show history.last axis = _
        rw [serves.2]
        exact last_respond_of_ne respond hevent laptop.history served
  | loads laptop quiet before after history trace isQuiet lid loads =>
    refine .inr (.inr ⟨loads, fun loaded hloaded ↦ ?_⟩)
    rw [after] at hloaded
    obtain rfl := Option.some.inj hloaded
    rw [history]
    cases axis <;> rfl
  | reportsLid status after trace lid loads =>
    refine .inr (.inl ⟨loads, ?_, ?_, fun loaded hloaded ↦ ⟨loaded, after ▸ hloaded, rfl⟩⟩)
    · rw [levels, trace]
      rfl
    · rw [pressed, trace]
      rfl
  | passes after isQuiet lid loads =>
    obtain ⟨hreports, -, -, hdispatched⟩ := Trace.of_isQuiet isQuiet
    refine .inr (.inl ⟨loads, ?_, ?_, fun loaded hloaded ↦ ?_⟩)
    · rw [levels, hdispatched, if_neg List.not_mem_nil]
    · rw [pressed, Trace.pressed, hreports]
      rfl
    · obtain ⟨before, hbefore, heq⟩ := after loaded hloaded
      exact ⟨before, hbefore, by rw [heq]⟩

/-! ### A whole run -/

/-- The transitions since the driver was loaded last. -/
def sinceLoad (history : List (Transition (Request.Answer Chipset.Request.Answer) σ)) :
    List (Transition (Request.Answer Chipset.Request.Answer) σ) :=
  history.rtakeWhile fun transition ↦ !transition.loads

theorem sinceLoad_concat_of_loads
    {transition : Transition (Request.Answer Chipset.Request.Answer) σ}
    (h : transition.loads = true)
    (history : List (Transition (Request.Answer Chipset.Request.Answer) σ)) :
    sinceLoad (history ++ [transition]) = [] :=
  List.rtakeWhile_concat_neg _ _ _ (by simp [h])

theorem sinceLoad_concat {transition : Transition (Request.Answer Chipset.Request.Answer) σ}
    (h : transition.loads = false)
    (history : List (Transition (Request.Answer Chipset.Request.Answer) σ)) :
    sinceLoad (history ++ [transition]) = sinceLoad history ++ [transition] :=
  List.rtakeWhile_concat_pos _ _ _ (by simp [h])

/-- Since it was loaded, the driver has kept up with the levels of an axis: the keys of the axis
that were pressed are the directions of the levels, and a driver that is loaded remembers the last
level. -/
structure FollowsLevels (axis : Axis)
    (history : List (Transition (Request.Answer Chipset.Request.Answer) σ))
    (laptop : Option Laptop) : Prop where
  keys : (sinceLoad history).flatMap (pressed axis) =
    (Direction.ofLevels ((sinceLoad history).flatMap (levels axis))).map axis.key
  remembered : ∀ loaded, laptop = some loaded →
    loaded.history.last axis = rememberedLevel ((sinceLoad history).flatMap (levels axis))

/-- Every step keeps up with the levels. -/
theorem FollowsLevels.concat {axis : Axis}
    {history : List (Transition (Request.Answer Chipset.Request.Answer) σ)}
    {transition : Transition (Request.Answer Chipset.Request.Answer) σ}
    (h : FollowsLevels axis history transition.laptop) (hcourse : transition.Course respond) :
    FollowsLevels axis (history ++ [transition]) transition.stage.laptop := by
  obtain ⟨hkeys, hremembered⟩ := h
  rcases hcourse.axis_cases axis with ⟨before, level, hbefore, hloads, hlevels, hpressed, hafter⟩ |
    ⟨hloads, hlevels, hpressed, hafter⟩ | ⟨hloads, hafter⟩
  · have hseen : (sinceLoad (history ++ [transition])).flatMap (levels axis) =
        (sinceLoad history).flatMap (levels axis) ++ [level] := by
      rw [sinceLoad_concat hloads, List.flatMap_append, List.flatMap_singleton, hlevels]
    constructor
    · rw [hseen, sinceLoad_concat hloads, List.flatMap_append, List.flatMap_singleton, hpressed,
        hkeys, History.direction, hremembered before hbefore, ofSamples_rememberedLevel,
        Direction.ofLevels_concat, List.map_append, List.map_singleton]
    · intro loaded hloaded
      rw [hafter loaded hloaded, hseen, rememberedLevel, List.getLast?_concat]
      rfl
  · have hsame : (sinceLoad (history ++ [transition])).flatMap (levels axis) =
        (sinceLoad history).flatMap (levels axis) := by
      rw [sinceLoad_concat hloads, List.flatMap_append, List.flatMap_singleton, hlevels,
        List.append_nil]
    constructor
    · rw [hsame, sinceLoad_concat hloads, List.flatMap_append, List.flatMap_singleton, hpressed,
        List.append_nil, hkeys]
    · intro loaded hloaded
      obtain ⟨before, hbefore, hlast⟩ := hafter loaded hloaded
      rw [hlast, hsame, hremembered before hbefore]
  · constructor
    · rw [sinceLoad_concat_of_loads hloads]
      rfl
    · rw [sinceLoad_concat_of_loads hloads]
      exact hafter

end Transition

open Transition

/-- A run keeps up with the levels of both axes, whatever else happens in it and however the
hardware answers. -/
theorem followsLevels {σ : Type} (respond : Responder (Request.Answer Chipset.Request.Answer) σ)
    (axis : Axis) (steps : List (Step σ)) (hardware : σ) :
    let history := transitions (executorOf respond) steps none hardware
    FollowsLevels axis history (laptopAfter none history) := by
  induction steps using List.reverseRecOn with
  | nil => exact ⟨rfl, by rintro _ ⟨⟩⟩
  | append_singleton steps step ih =>
    intro history
    have hhistory : history = _ := transitions_concat (executorOf respond) steps step none hardware
    rw [hhistory, laptopAfter_concat]
    exact FollowsLevels.concat ih (step.course respond _ _)

end LaptopDriver
