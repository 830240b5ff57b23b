import LaptopDriver.Display.Output

/-!
# What is remembered between events

The controller reports the brightness and the volume as levels, but the keys of a keymap go up and
down. So the last level on each axis is remembered, and a new one is compared with it. The rotation
of the video outputs is remembered as well.
-/

namespace LaptopDriver.Hotkey

open Display

/-- A quantity that a pair of hotkeys moves. -/
inductive Axis where
  | brightness
  | volume
  deriving DecidableEq, Repr

/-- Which way a pair of hotkeys moved its quantity. -/
inductive Direction where
  | increase
  | decrease
  deriving DecidableEq, Repr

/-- The direction of a move to the level `sample`. Zero always counts as a decrease, since the
controller goes on reporting it while the key is held at the bottom of the range. -/
def Direction.ofSamples (last sample : Int) : Direction :=
  if sample = 0 ∨ sample < last then .decrease else .increase

/-- What the handling of events carries from one event to the next. -/
structure History where
  /-- The last brightness level; before the first one, a number below all levels. -/
  lastBrightness : Int := -1
  /-- The last volume level; before the first one, a number below all levels. -/
  lastVolume : Int := -1
  /-- The mode of the video outputs, once the rotation has started. -/
  videoMode : Option VideoMode := none
  deriving DecidableEq, Repr

namespace History

/-- The last level on an axis. -/
def last (history : History) : Axis → Int
  | .brightness => history.lastBrightness
  | .volume => history.lastVolume

/-- Remember a level on an axis. -/
def remember (history : History) (axis : Axis) (sample : Int) : History :=
  match axis with
  | .brightness => { history with lastBrightness := sample }
  | .volume => { history with lastVolume := sample }

/-- The direction in which a level on an axis moves from the last one. -/
def direction (history : History) (axis : Axis) (sample : Int) : Direction :=
  .ofSamples (history.last axis) sample

@[simp]
theorem last_remember (history : History) (axis : Axis) (sample : Int) :
    (history.remember axis sample).last axis = sample := by
  cases axis <;> rfl

/-- The two axes are remembered apart. -/
theorem last_remember_of_ne (history : History) {axis other : Axis} (sample : Int)
    (h : other ≠ axis) : (history.remember axis sample).last other = history.last other := by
  cases axis <;> cases other <;> simp_all [remember, last]

@[simp]
theorem videoMode_remember (history : History) (axis : Axis) (sample : Int) :
    (history.remember axis sample).videoMode = history.videoMode := by
  cases axis <;> rfl

end History

end LaptopDriver.Hotkey
