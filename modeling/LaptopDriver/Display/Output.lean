import LaptopDriver.Routine

/-!
# The two video outputs

The panel and the connector for an external monitor are switched by one register each of the
graphics sequencer. The pair of ports through which the sequencer is reached is shared, so an output
is switched by selecting its register both before it is read and before it is written back.

What switching does to the register is the pure function `Output.switched`. The panel's register
only ever gains bits: bit 0 lights the panel when it is set, and bit 1 is set in either case. Bit 7
of the monitor's register powers the converter down.

A hotkey goes round four combinations of the two outputs, each of them a `VideoMode`. Before it is
first pressed there is no mode, and the rotation starts at its first one.
-/

namespace LaptopDriver.Display

/-! ### Switching -/

/-- A video output of the laptop. -/
inductive Output where
  /-- The built-in panel. -/
  | lcd
  /-- The connector for an external monitor. -/
  | crt
  deriving DecidableEq, Repr

namespace Output

/-- The sequencer register that controls an output. -/
def register : Output → UInt8
  | lcd => 0x31
  | crt => 0x21

/-- The contents of an output's sequencer register after it was switched. -/
def switched (output : Output) (on : Bool) (contents : UInt8) : UInt8 :=
  match output, on with
  | lcd, true => contents ||| 0x03
  | lcd, false => contents ||| 0x02
  | crt, true => contents &&& ~~~0x80
  | crt, false => contents ||| 0x80

/-- Switch one output on or off. -/
def switch (output : Output) (on : Bool) : Routine Unit := do
  Routine.writePort Chipset.sequencerIndex output.register
  let contents ← Routine.readPort Chipset.sequencerData
  Routine.writePort Chipset.sequencerIndex output.register
  Routine.writePort Chipset.sequencerData (output.switched on contents)

end Output

/-- Which of the two outputs are on. -/
structure Outputs where
  lcd : Bool
  crt : Bool
  deriving DecidableEq, Repr

/-- Switch both outputs, the panel first. -/
def Outputs.switch (outputs : Outputs) : Routine Unit := do
  Output.lcd.switch outputs.lcd
  Output.crt.switch outputs.crt

/-! ### The rotation through the video modes -/

/-- A combination of outputs in the rotation. -/
inductive VideoMode where
  | bothOn
  | crtOnly
  | bothOff
  | lcdOnly
  deriving DecidableEq, Repr

namespace VideoMode

/-- The mode that a press of the key leads to. -/
def next : Option VideoMode → VideoMode
  | none => bothOn
  | some bothOn => crtOnly
  | some crtOnly => bothOff
  | some bothOff => lcdOnly
  | some lcdOnly => bothOn

/-- The place of a mode in the rotation, counted from one. -/
def position : VideoMode → Int
  | bothOn => 1
  | crtOnly => 2
  | bothOff => 3
  | lcdOnly => 4

/-- The outputs that are on in a mode. -/
def outputs : VideoMode → Outputs
  | bothOn => ⟨true, true⟩
  | crtOnly => ⟨false, true⟩
  | bothOff => ⟨false, false⟩
  | lcdOnly => ⟨true, false⟩

end VideoMode

end LaptopDriver.Display
