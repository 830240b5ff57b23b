import LaptopDriver.Routine

/-!
# The brightness of the panel

The embedded controller owns the brightness level and moves it by itself when its brightness keys
are pressed. The driver therefore remembers the level that it set last and writes a new one only
while the controller still holds that one; otherwise the user is at the keys, and a write would
fight against them. Either way the driver remembers the new level from then on.
-/

namespace LaptopDriver.Display

open Controller

/-- The brightness that is asked for, and whether the panel is lit at all. -/
structure BrightnessRequest where
  /-- The level that is asked for. -/
  brightness : Nat
  /-- Whether the backlight has power. -/
  powered : Bool := true
  /-- Whether the picture is shown. -/
  unblanked : Bool := true
  deriving DecidableEq, Repr

/-- The highest brightness level. -/
def maxBrightness : Nat := 8

/-- The level that a request amounts to: the brightness asked for while the panel is lit, zero
otherwise, and never more than the highest level. -/
def BrightnessRequest.level (request : BrightnessRequest) : UInt8 :=
  .ofNat (min (if request.powered && request.unblanked then request.brightness else 0)
    maxBrightness)

/-- The backlight, as the driver remembers it. -/
structure Backlight where
  /-- The level that was set last. -/
  remembered : UInt8 := 0
  deriving DecidableEq, Repr

namespace Backlight

/-- The level that the controller holds. -/
def currentLevel : Routine UInt8 :=
  Routine.read .displayBrightness

/-- Bring the panel to the level that is asked for, unless the controller has moved it. -/
def update (backlight : Backlight) (request : BrightnessRequest) : Routine Backlight := do
  let level := request.level
  if backlight.remembered = level then
    pure backlight
  else
    let current ← currentLevel
    if current = backlight.remembered then
      Routine.write .displayBrightness level
    else
      Routine.log (.brightnessContested backlight.remembered current)
    pure ⟨level⟩

/-- A backlight that takes over the level the controller started with. -/
def adopt : Routine Backlight := do
  let current ← currentLevel
  update { } { brightness := current.toNat }

end Backlight

end LaptopDriver.Display
