import LaptopDriver.Routine

/-!
# The keymap

The driver reports input in two kinds of units: a key that is pressed and released at once, and the
position of the lid. Each unit ends with a `sync`, so nothing is left over when it is done.

The keymap lists which event is reported as which key, or as the lid switch. An event is looked up
by its first entry. The two keys of a level, brightness or volume, share one event: the key that
raises the level comes first, and the one that lowers it follows right after.
-/

namespace LaptopDriver

/-! ### Units of input -/

namespace Input

/-- Press a key and release it again. -/
def tap (key : Key) : Routine Unit := do
  Routine.report (.key key true)
  Routine.report .sync
  Routine.report (.key key false)
  Routine.report .sync

/-- Report the position of the lid. The controller's status is zero while the lid is closed. -/
def reportLid (status : Int) : Routine Unit := do
  Routine.report (.switch .lid (decide (status = 0)))
  Routine.report .sync

end Input

/-! ### Entries -/

namespace Hotkey

open Input

/-- What an entry of the keymap reports. -/
inductive KeyAction where
  /-- A key is pressed and released. -/
  | tap (key : Key)
  /-- A switch takes the position that the event's status stands for. -/
  | turn (switch : Switch)
  deriving DecidableEq, Repr

/-- An entry of the keymap. -/
structure KeyEntry where
  event : Event
  action : KeyAction
  deriving DecidableEq, Repr

/-- The entries of the keymap, in order. -/
def keymap : List KeyEntry :=
  [⟨.lid, .turn .lid⟩,
    ⟨.camera, .tap .camera⟩,
    ⟨.sleep, .tap .sleep⟩,
    ⟨.panelToggle, .tap .panelToggle⟩,
    ⟨.videoSwitch, .tap .videoSwitch⟩,
    ⟨.mute, .tap .mute⟩,
    ⟨.wireless, .tap .wireless⟩,
    ⟨.brightness, .tap .brightnessUp⟩,
    ⟨.brightness, .tap .brightnessDown⟩,
    ⟨.volume, .tap .volumeUp⟩,
    ⟨.volume, .tap .volumeDown⟩]

/-- The place of the first entry for an event, if it has one. -/
def Event.keymapIndex? (event : Event) : Option Nat :=
  keymap.findIdx? fun entry ↦ entry.event = event

/-- Report an entry for an event that was evaluated to `status`. -/
def KeyEntry.report (entry : KeyEntry) (status : Int) : Routine Unit :=
  match entry.action with
  | .tap key => tap key
  | .turn .lid => reportLid status

end Hotkey

end LaptopDriver
