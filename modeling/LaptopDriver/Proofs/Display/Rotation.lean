import LaptopDriver.Proofs.Display.Port
import LaptopDriver.Proofs.Hotkey.Level

/-!
# Presses and the rotation

The key that cycles through the video outputs goes on by one mode each time it is pressed while a
monitor is attached. Where that leads can be said without any memory: after so many accepted presses
the rotation is at a place that depends on their number only (`VideoMode.placeAfter`). The driver
remembers a mode and nothing else, while presses that are not accepted, other events and all sorts
of operations come in between.

`Transition.FollowsPresses` says that a list of transitions has kept up with the presses since the
driver was loaded: the mode that is remembered is at the place that their number gives, every
accepted press has commanded the outputs of its mode over the ports and nothing else, and everything
else has left the rotation where it was. Each step preserves it (`FollowsPresses.concat`), because a
step either goes on in the rotation (`Course.of_rotates`), keeps to the mode (`Course.keepsMode`) or
loads the driver (`Course.videoMode_of_loads`).
-/

namespace LaptopDriver

open Controller Display Hotkey Trace

/-! ### Places in the rotation -/

namespace Display.VideoMode

/-- The place in the rotation after a number of accepted presses; there is none before the first of
them. -/
def placeAfter (presses : Nat) : Option Int :=
  if presses = 0 then none else some ((presses - 1) % 4 + 1 : Nat)

/-- No two modes are at the same place. -/
theorem position_injective : Function.Injective position := by
  intro first second h
  cases first <;> cases second <;> first | rfl | cases h

/-- One more press leads to the place after one more press. -/
theorem position_next {mode : Option VideoMode} {presses : Nat}
    (h : mode.map position = placeAfter presses) :
    some (next mode).position = placeAfter (presses + 1) := by
  unfold placeAfter at h ⊢
  rw [if_neg (by omega)]
  split at h
  case isTrue hnone =>
    obtain rfl := Option.map_eq_none_iff.1 h
    rw [hnone]
    rfl
  case isFalse hpressed =>
    obtain ⟨mode, rfl, hplace⟩ := Option.map_eq_some_iff.1 h
    congr 1
    cases mode <;> simp only [next, position] at hplace ⊢ <;> omega

end Display.VideoMode

/-! ### Responding to one event -/

namespace Hotkey

variable {σ : Type} (respond : Responder (Request.Answer Chipset.Request.Answer) σ)

/-- No policy but the rotation teaches the driver anything. -/
theorem Policy.history_apply_of_ne {policy : Policy} (h : policy ≠ .rotateOutputs) (value : Int)
    (history : History) (state : σ) :
    ((policy.apply value history).execute respond state).value.history = history := by
  cases policy with
  | rotateOutputs => exact absurd rfl h
  | switchPanel | announceSupplies =>
    rw [Policy.apply, Program.execute_bind]
    dsimp only
    split <;> rfl
  | _ => rfl

theorem Event.eq_videoSwitch_of_policy? {event : Event}
    (h : event.policy? = some .rotateOutputs) : event = .videoSwitch := by
  cases event <;> first | rfl | cases h

/-- Only the key that cycles through the outputs moves the rotation. -/
theorem videoMode_respond_of_ne {event : Event} (h : event ≠ .videoSwitch) (history : History)
    (state : σ) :
    ((Hotkey.respond event history).execute respond state).value.videoMode = history.videoMode := by
  have hevaluate : ((event.evaluate history).execute respond state).value.history = history := by
    unfold Event.evaluate
    rw [Program.execute_bind]
    cases hpolicy : event.policy? with
    | none => rfl
    | some policy =>
      refine policy.history_apply_of_ne respond (fun hrotate ↦ h ?_) _ history _
      exact Event.eq_videoSwitch_of_policy? (hrotate ▸ hpolicy)
  rw [value_respond, hevaluate, Event.remembered]
  split
  · exact History.videoMode_remember _ _ _
  · rfl

variable {respond}

/-- Serving the key that cycles through the outputs looks once whether a monitor is attached. If so,
the next mode is remembered and its outputs are commanded; if not, nothing is. -/
theorem Serves.videoSwitch {history remembered : History} {served : σ} {trace : Trace}
    (h : Serves respond .videoSwitch history served trace remembered) :
    ∃ detected, shown .crtDetect trace = [detected] ∧
      if detected = 1 then
        remembered = { history with videoMode := some (VideoMode.next history.videoMode) } ∧
          Carries (VideoMode.next history.videoMode).outputs.commands trace
      else remembered = history ∧ ports trace = [] := by
  have hshown := Transition.filterMap_of_serves (shown? .crtDetect) (topic_of_shown? .crtDetect)
    (by decide) h
  have hrespond := filterMap_respond respond (topic_of_shown? .crtDetect) (by decide) .videoSwitch
    history served
  have hseen : shown .crtDetect trace = _ :=
    (hshown.trans hrespond).trans (shown_rotateOutputs respond history served)
  have hvalue := h.2.trans (value_respond respond .videoSwitch history served)
  have hevaluate : (Event.videoSwitch.evaluate history).execute respond served = _ :=
    execute_rotateOutputs respond history served
  have hcarries := h.carries
  rw [Event.commandsShown, hseen] at hcarries
  refine ⟨_, hseen, ?_⟩
  rw [hevaluate] at hvalue
  split
  case isTrue hone =>
    rw [if_pos hone] at hvalue
    rw [hone, if_pos rfl] at hcarries
    exact ⟨hvalue, hcarries⟩
  case isFalse hother =>
    rw [if_neg hother] at hvalue
    rw [if_neg (by simpa using hother)] at hcarries
    exact ⟨hvalue, carries_nil_iff.1 hcarries⟩

end Hotkey

/-! ### One step -/

namespace Transition

variable {σ : Type} {respond : Responder (Request.Answer Chipset.Request.Answer) σ}
  {transition : Transition (Request.Answer Chipset.Request.Answer) σ}

/-- Whether a transition goes on in the rotation: the key that cycles through the outputs was
dispatched, and the register of the monitor showed one. -/
def rotates (transition : Transition (Request.Answer Chipset.Request.Answer) σ) : Bool :=
  decide (.videoSwitch ∈ dispatched transition.stage.trace ∧
    shown .crtDetect transition.stage.trace = [1])

/-- A driver that is loaded after the transition was loaded before it, with the same mode. -/
def KeepsMode (transition : Transition (Request.Answer Chipset.Request.Answer) σ) : Prop :=
  ∀ after, transition.stage.laptop = some after → ∃ before,
    transition.laptop = some before ∧ after.history.videoMode = before.history.videoMode

theorem keepsMode_of_eq {before after : Laptop} (hbefore : transition.laptop = some before)
    (hafter : transition.stage.laptop = some after)
    (h : after.history.videoMode = before.history.videoMode) : transition.KeepsMode := by
  intro loaded hloaded
  obtain rfl := Option.some.inj (hafter.symm.trans hloaded)
  exact ⟨before, hbefore, h⟩

/-- Dispatching the key that cycles through the outputs looks once whether a monitor is attached. If
so, the mode goes on by one and its outputs are commanded; if not, the mode and the ports are left
alone. -/
theorem Course.press_cases (h : transition.Course respond)
    (hpress : .videoSwitch ∈ dispatched transition.stage.trace) :
    transition.loads = false ∧
    ∃ detected, shown .crtDetect transition.stage.trace = [detected] ∧
      if detected = 1 then
        ∃ before after, transition.laptop = some before ∧ transition.stage.laptop = some after ∧
          after.history.videoMode = some (VideoMode.next before.history.videoMode) ∧
          Carries (VideoMode.next before.history.videoMode).outputs.commands transition.stage.trace
      else ports transition.stage.trace = [] ∧ transition.KeepsMode := by
  obtain ⟨laptop, served, history, hbefore, hafter, hloads, hserves⟩ := h.serves_of_mem hpress
  obtain ⟨detected, hshown, hserved⟩ := hserves.videoSwitch
  refine ⟨hloads, detected, hshown, ?_⟩
  split at hserved
  case isTrue hone =>
    obtain ⟨rfl, hcarries⟩ := hserved
    rw [if_pos hone]
    exact ⟨laptop, _, hbefore, hafter, rfl, hcarries⟩
  case isFalse hother =>
    obtain ⟨rfl, hports⟩ := hserved
    rw [if_neg hother]
    exact ⟨hports, keepsMode_of_eq hbefore hafter rfl⟩

/-- A step that does not dispatch the key that cycles through the outputs keeps to the mode, unless
it loads the driver, which then has none. -/
theorem Course.mode_cases (h : transition.Course respond)
    (hpress : .videoSwitch ∉ dispatched transition.stage.trace) :
    if transition.loads then
      ∀ after, transition.stage.laptop = some after → after.history.videoMode = none
    else transition.KeepsMode := by
  cases h with
  | serves laptop event served history before after serves lid loads =>
    rw [loads]
    have hevent : event ≠ .videoSwitch := by
      rintro rfl
      exact hpress (by simp [dispatched_of_serves serves])
    refine keepsMode_of_eq before after ?_
    rw [← videoMode_respond_of_ne respond hevent laptop.history served, ← serves.2]
  | loads laptop quiet before after history trace isQuiet lid loads =>
    rw [loads]
    intro loaded hloaded
    obtain rfl := Option.some.inj (after.symm.trans hloaded)
    rw [history]
  | reportsLid status after trace lid loads =>
    rw [loads]
    exact fun loaded hloaded ↦ ⟨loaded, after ▸ hloaded, rfl⟩
  | passes after isQuiet lid loads =>
    rw [loads]
    intro loaded hloaded
    obtain ⟨before, hbefore, heq⟩ := after loaded hloaded
    exact ⟨before, hbefore, congrArg (·.videoMode) heq⟩

/-- An accepted press goes on to the next mode and commands its outputs. -/
theorem Course.of_rotates (h : transition.Course respond) (hrotates : transition.rotates = true) :
    transition.loads = false ∧
    ∃ before after, transition.laptop = some before ∧ transition.stage.laptop = some after ∧
      after.history.videoMode = some (VideoMode.next before.history.videoMode) ∧
      Carries (VideoMode.next before.history.videoMode).outputs.commands
        transition.stage.trace := by
  obtain ⟨hpress, hone⟩ := of_decide_eq_true hrotates
  obtain ⟨hloads, detected, hshown, hcases⟩ := h.press_cases hpress
  obtain rfl : detected = 1 := List.singleton_inj.1 (hshown.symm.trans hone)
  exact ⟨hloads, by simpa using hcases⟩

/-- A step that is neither an accepted press nor loads the driver keeps to the mode. -/
theorem Course.keepsMode (h : transition.Course respond) (hrotates : transition.rotates = false)
    (hloads : transition.loads = false) : transition.KeepsMode := by
  by_cases hpress : .videoSwitch ∈ dispatched transition.stage.trace
  · obtain ⟨-, detected, hshown, hcases⟩ := h.press_cases hpress
    have hother : detected ≠ 1 := by
      rintro rfl
      exact of_decide_eq_false hrotates ⟨hpress, hshown⟩
    rw [if_neg hother] at hcases
    exact hcases.2
  · simpa [hloads] using h.mode_cases hpress

/-- A driver that was just loaded has no mode. -/
theorem Course.videoMode_of_loads (h : transition.Course respond)
    (hloads : transition.loads = true) {after : Laptop}
    (hafter : transition.stage.laptop = some after) : after.history.videoMode = none := by
  have hpress : .videoSwitch ∉ dispatched transition.stage.trace := fun hpress ↦ by
    simpa [hloads] using (h.press_cases hpress).1
  have hmode := h.mode_cases hpress
  rw [if_pos hloads] at hmode
  exact hmode after hafter

/-! ### A whole run -/

/-- The number of accepted presses since the driver was loaded. -/
def presses (history : List (Transition (Request.Answer Chipset.Request.Answer) σ)) : Nat :=
  (sinceLoad history).countP rotates

theorem presses_concat_of_loads (h : transition.loads = true)
    (history : List (Transition (Request.Answer Chipset.Request.Answer) σ)) :
    presses (history ++ [transition]) = 0 := by
  rw [presses, sinceLoad_concat_of_loads h]
  rfl

theorem presses_concat (h : transition.loads = false)
    (history : List (Transition (Request.Answer Chipset.Request.Answer) σ)) :
    presses (history ++ [transition]) =
      presses history + if transition.rotates then 1 else 0 := by
  rw [presses, sinceLoad_concat h, List.countP_append, List.countP_singleton]
  rfl

/-- Since it was loaded, the driver has kept up with the presses of the key that cycles through the
outputs. -/
structure FollowsPresses
    (history : List (Transition (Request.Answer Chipset.Request.Answer) σ))
    (laptop : Option Laptop) : Prop where
  /-- The mode that is remembered is at the place that the number of accepted presses gives. -/
  remembered : ∀ loaded, laptop = some loaded →
    loaded.history.videoMode.map VideoMode.position = VideoMode.placeAfter (presses history)
  /-- An accepted press commands the outputs of the mode that it leads to, and nothing else goes
  over the ports. -/
  commanded : ∀ before press, before ++ [press] <+: history → press.rotates = true →
    ∃ loaded mode, press.stage.laptop = some loaded ∧ loaded.history.videoMode = some mode ∧
      some mode.position = VideoMode.placeAfter (presses (before ++ [press])) ∧
      Carries mode.outputs.commands press.stage.trace
  /-- A press looks once whether a monitor is attached, and without one it leaves the ports and the
  rotation alone. -/
  refused : ∀ press ∈ history, .videoSwitch ∈ dispatched press.stage.trace →
    ∃ detected, shown .crtDetect press.stage.trace = [detected] ∧
      (detected ≠ 1 → ports press.stage.trace = [] ∧ press.KeepsMode)
  /-- Nothing but an accepted press and loading the driver moves the rotation. -/
  unmoved : ∀ transition ∈ history, transition.rotates = false → transition.loads = false →
    transition.KeepsMode

/-- An accepted press leads to the place that the number of accepted presses gives. -/
theorem FollowsPresses.commanded_concat
    {history : List (Transition (Request.Answer Chipset.Request.Answer) σ)}
    (h : FollowsPresses history transition.laptop) (hcourse : transition.Course respond)
    (hrotates : transition.rotates = true) :
    ∃ loaded mode, transition.stage.laptop = some loaded ∧ loaded.history.videoMode = some mode ∧
      some mode.position = VideoMode.placeAfter (presses (history ++ [transition])) ∧
      Carries mode.outputs.commands transition.stage.trace := by
  obtain ⟨hloads, before, after, hbefore, hafter, hmode, hcarries⟩ := hcourse.of_rotates hrotates
  refine ⟨after, _, hafter, hmode, ?_, hcarries⟩
  rw [presses_concat hloads, if_pos hrotates]
  exact VideoMode.position_next (h.remembered before hbefore)

/-- Every step keeps up with the presses. -/
theorem FollowsPresses.concat
    {history : List (Transition (Request.Answer Chipset.Request.Answer) σ)}
    (h : FollowsPresses history transition.laptop) (hcourse : transition.Course respond) :
    FollowsPresses (history ++ [transition]) transition.stage.laptop where
  remembered loaded hloaded := by
    cases hloads : transition.loads with
    | true =>
      rw [presses_concat_of_loads hloads, hcourse.videoMode_of_loads hloads hloaded]
      rfl
    | false =>
      cases hrotates : transition.rotates with
      | true =>
        obtain ⟨after, mode, hafter, hmode, hplace, -⟩ := h.commanded_concat hcourse hrotates
        obtain rfl := Option.some.inj (hafter.symm.trans hloaded)
        rw [hmode, ← hplace]
        rfl
      | false =>
        obtain ⟨before, hbefore, hmode⟩ := hcourse.keepsMode hrotates hloads loaded hloaded
        rw [presses_concat hloads, hrotates, hmode]
        exact h.remembered before hbefore
  commanded before press hprefix hrotates := by
    rcases List.prefix_concat_iff.1 hprefix with heq | hprefix
    · obtain ⟨rfl, hlast⟩ := List.append_inj' heq rfl
      obtain rfl := List.singleton_inj.1 hlast
      exact h.commanded_concat hcourse hrotates
    · exact h.commanded before press hprefix hrotates
  refused := by
    refine List.forall_mem_append.2 ⟨h.refused, List.forall_mem_singleton.2 fun hpress ↦ ?_⟩
    obtain ⟨-, detected, hshown, hcases⟩ := hcourse.press_cases hpress
    exact ⟨detected, hshown, fun hother ↦ by simpa [hother] using hcases⟩
  unmoved := List.forall_mem_append.2 ⟨h.unmoved, List.forall_mem_singleton.2 hcourse.keepsMode⟩

end Transition

open Transition

/-- A run keeps up with the presses of the key that cycles through the outputs, whatever else
happens in it and however the hardware answers; and the place of a mode says which one it is. -/
theorem followsPresses {σ : Type} (respond : Responder (Request.Answer Chipset.Request.Answer) σ)
    (steps : List (Step σ)) (hardware : σ) :
    let history := transitions (executorOf respond) steps none hardware
    FollowsPresses history (laptopAfter none history) ∧
      Function.Injective VideoMode.position := by
  refine ⟨?_, VideoMode.position_injective⟩
  induction steps using List.reverseRecOn with
  | nil =>
    exact ⟨by rintro _ ⟨⟩, fun before press hprefix ↦ by simp [transitions] at hprefix,
      by rintro _ ⟨⟩, by rintro _ ⟨⟩⟩
  | append_singleton steps step ih =>
    rw [transitions_concat, laptopAfter_concat]
    exact ih.concat (step.course respond _ _)

/-- Two presses with a monitor, one without it in between, and a sleep after that. -/
example :
    let machine : Machine :=
      { script := Memory.write (fun _ ↦ []) .crtDetect [1, 0, 1]
        pending := [.ok 0x00, .ok 0x24, .ok 0x24, .ok 0x24] }
    let press : Step Machine := ⟨id, .interrupt 10⟩
    let history := transitions (executorOf Machine.respond)
      [⟨id, .load { }⟩, press, press, ⟨id, .suspend⟩, press] none machine
    presses history = 2 ∧
      (laptopAfter none history).map (·.history.videoMode) = some (some .crtOnly) := by
  decide +kernel

end LaptopDriver
