import LaptopDriver.InterruptLine
import LaptopDriver.Machine.Basic
import LaptopDriver.Proofs.Program.Moment
import LaptopDriver.Proofs.Trace

/-!
# The writes that may be made on a machine

Some registers of the machine can do damage when they are written carelessly: the fan can be
stopped, another device can be reached through a wrong port, an interrupt can be rerouted. This
module says which writes are permitted, and it says so without looking at the driver:
`Machine.Permits` lists them by what the machine holds at the time and by what was exchanged just
before. A change of single bits is described bit by bit (`SetsBits`, `ClearsBits`), and a port by
the number that it is.

The lemmas are about the bits and ports that the driver computes: it sets and clears single bits by
masks (`setsBits_or`, `clearsBits_and_not`), and joins the address of the pins' control ports with
an offset, which is a sum without a carry (`toNat_portBase_or`).
-/

namespace LaptopDriver

open Chipset Controller InterruptLine

/-! ### Single bits -/

/-- The bits at some places are set, and no other bit changes. -/
def SetsBits (places : List Nat) (before after : Nat) : Prop :=
  ∀ i, after.testBit i = (before.testBit i || decide (i ∈ places))

/-- The bits at some places are cleared, and no other bit changes. -/
def ClearsBits (places : List Nat) (before after : Nat) : Prop :=
  ∀ i, after.testBit i = (before.testBit i && decide (i ∉ places))

/-- The bits of a number are those at some places. -/
def HasBits (places : List Nat) (number : Nat) : Prop :=
  ∀ i, number.testBit i = decide (i ∈ places)

theorem hasBits_shiftLeft (place : Nat) : HasBits [place] (1 <<< place) := by
  intro i
  rw [Nat.one_shiftLeft, Nat.testBit_two_pow, decide_eq_decide, List.mem_singleton]
  exact eq_comm

theorem HasBits.or {first second : List Nat} {m n : Nat} (hm : HasBits first m)
    (hn : HasBits second n) : HasBits (first ++ second) (m ||| n) := by
  intro i
  rw [Nat.testBit_or, hm i, hn i]
  simp

theorem setsBits_or {places : List Nat} {mask : Nat} (h : HasBits places mask) (before : Nat) :
    SetsBits places before (before ||| mask) := by
  intro i
  rw [Nat.testBit_or, h i]

theorem clearsBits_and_not {places : List Nat} {mask : UInt32} (h : HasBits places mask.toNat)
    (before : UInt32) : ClearsBits places before.toNat (before &&& ~~~mask).toNat := by
  intro i
  have hmask : mask.toBitVec.getLsbD i = decide (i ∈ places) :=
    (BitVec.testBit_toNat _).symm.trans (h i)
  rw [← UInt32.toNat_toBitVec, ← UInt32.toNat_toBitVec, BitVec.testBit_toNat,
    BitVec.testBit_toNat, UInt32.toBitVec_and, UInt32.toBitVec_not, BitVec.getLsbD_and,
    BitVec.getLsbD_not, hmask]
  by_cases hi : i < 32
  · simp [hi]
  · simp [BitVec.getLsbD_of_ge before.toBitVec i (Nat.le_of_not_lt hi)]

theorem InterruptLine.hasBits_virtualLine : HasBits [10] virtualLine.toNat :=
  hasBits_shiftLeft 10

theorem InterruptLine.hasBits_interruptGroup : HasBits [1, 3] interruptGroup.toNat :=
  (hasBits_shiftLeft 1).or (hasBits_shiftLeft 3)

/-! ### The control ports of the pins -/

/-- The address of the control ports is a multiple of 256, so an offset below that is added
without a carry. -/
theorem toNat_portBase_or (contents : MsrContents) {offset : Port} (h : offset.toNat < 256) :
    (portBase contents ||| offset).toNat =
      (contents.low.toNat &&& 0xFF00) + offset.toNat := by
  have hle : contents.low.toNat &&& 0xFF00 ≤ 0xFF00 := Nat.and_le_right
  have hbase : (portBase contents).toNat = contents.low.toNat &&& 0xFF00 := by
    rw [portBase, UInt32.toNat_toUInt16, UInt32.toNat_and]
    exact Nat.mod_eq_of_lt (Nat.lt_of_le_of_lt hle (by decide))
  have hmultiple : (contents.low.toNat &&& 0xFF00) % 2 ^ 8 = 0 := by
    rw [Nat.and_mod_two_pow]
    exact Nat.and_zero _
  obtain ⟨page, hpage⟩ := Nat.dvd_of_mod_eq_zero hmultiple
  rw [UInt16.toNat_or, hbase, hpage, Nat.two_pow_add_eq_or_of_lt h]

/-! ### Permitted writes -/

/-- The request writes to a register of the controller, to a port, or to a model-specific
register. -/
def Request.IsWrite : Request Chipset.Request → Prop
  | .controller (.write _ _) => True
  | .chipset (.writePort _ _) => True
  | .chipset (.writePortWide _ _) => True
  | .chipset (.writeMsr _ _) => True
  | _ => False

theorem Request.topic_of_isWrite {request : Request Chipset.Request} (h : request.IsWrite) :
    request.topic ∈ [Topic.writing, .port, .routing] := by
  unfold Request.IsWrite at h
  split at h
  · simp
  · simp
  · simp
  · simp
  · exact h.elim

/-- The exchanges up to some moment, the last one first. -/
abbrev Past : Type :=
  List (Exchange (Request.Answer Chipset.Request.Answer))

/-- The requests that are permitted on a machine after the exchanges in `past`. -/
inductive Machine.Permits (machine : Machine) (past : Past) : Request Chipset.Request → Prop where
  /-- A request that writes nothing. -/
  | noWrite {request : Request Chipset.Request} (h : ¬request.IsWrite) :
    Permits machine past request
  /-- A device is switched on or off. -/
  | device {register : Register} {value : UInt8}
    (hregister : register ∈ [.wlan, .usb0Flag, .usb1Flag, .usb2Flag])
    (hvalue : value = 0 ∨ value = 1) :
    Permits machine past (.controller (.write register value))
  /-- The brightness is moved within its range. -/
  | brightness {value : UInt8} (hvalue : value ≤ 8) :
    Permits machine past (.controller (.write .displayBrightness value))
  /-- The fan is taken over or handed back. -/
  | fanManual {value : UInt8} (hvalue : value = 0 ∨ value = 1) :
    Permits machine past (.controller (.write .fanManual value))
  /-- The fan is set going. -/
  | fanControl : Permits machine past (.controller (.write .fanControl 1))
  /-- The level of the fan is set within its range, while the fan is driven by hand. -/
  | fanLevel {value : UInt8} (hvalue : value ≤ 3) (hmanual : machine.registers .fanManual = 1) :
    Permits machine past (.controller (.write .fanLevel value))
  /-- The camera is switched off, and its other control bits are kept. -/
  | camera {value : UInt8}
    (hbits : SetsBits [1] (machine.registers .cameraControl).toNat value.toNat) :
    Permits machine past (.controller (.write .cameraControl value))
  /-- A register of the sequencer is selected: that of the panel or that of the monitor. -/
  | sequencerIndex {value : UInt8} (hvalue : value = 0x31 ∨ value = 0x21) :
    Permits machine past (.chipset (.writePort 0x3C4 value))
  /-- A register of the sequencer is written, while one of the two is selected. -/
  | sequencerData {value : UInt8} (hselected : machine.selected = 0x31 ∨ machine.selected = 0x21) :
    Permits machine past (.chipset (.writePort 0x3C5 value))
  /-- The controller's pin, number 11, is set in a control port: one of three offsets above the
  address that the base address register holds in bits 8 to 15. -/
  | pinControl {port : Port} {offset : Nat} (hoffset : offset ∈ [0xA0, 0xA4, 0xB8])
    (hport : port.toNat =
      ((machine.msrs baseAddress).low.toNat &&& 0xFF00) + offset) :
    Permits machine past (.chipset (.writePortWide port ((1 : UInt32) <<< 11)))
  /-- The routing of a virtual line is cleared in one of two model-specific registers, which was
  read just before and is otherwise kept. -/
  | routing {number : MsrNumber} {read contents : MsrContents}
    (hnumber : number = 0x80000024 ∨ number = 0x80000025) (hheld : machine.msrs number = read)
    (hread : past.head? = some ⟨.chipset (.readMsr number), read⟩)
    (hhigh : contents.high = read.high)
    (hlow : ClearsBits [10] read.low.toNat contents.low.toNat) :
    Permits machine past (.chipset (.writeMsr number contents))
  /-- The interrupt group is selected in a model-specific register, which was read just before and
  is otherwise kept. -/
  | group {read contents : MsrContents} (hheld : machine.msrs 0x80000023 = read)
    (hread : past.head? = some ⟨.chipset (.readMsr 0x80000023), read⟩)
    (hhigh : contents.high = read.high)
    (hlow : SetsBits [1, 3] read.low.toNat contents.low.toNat) :
    Permits machine past (.chipset (.writeMsr 0x80000023 contents))

/-- What is permitted at a moment on a machine. -/
def Moment.Permitted (moment : Moment (Request.Answer Chipset.Request.Answer) Machine) : Prop :=
  moment.state.Permits moment.past moment.exchange.op

end LaptopDriver
