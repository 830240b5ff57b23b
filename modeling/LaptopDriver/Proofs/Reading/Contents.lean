import LaptopDriver.Proofs.Machine.Envelope
import Mathlib.Algebra.Group.Int.Defs

/-!
# Readings as functions of what the registers hold

While nothing else happens, a controller shows what its registers hold, as often as it is asked
(`ShowsContents`). A routine that only reads is then as good as a function of these contents: it
`Yields` the value of that function, and the hardware is left as it is. What a routine yields is put
together along its construction, one register at a time.

A pair of registers holds a number of sixteen bits, the more significant byte in the first one
(`RegisterPair.number`).
-/

namespace LaptopDriver

open Controller

/-! ### Pairs of registers -/

namespace Controller.RegisterPair

/-- The word that a pair of registers holds. -/
def contents (pair : RegisterPair) (registers : Memory Register UInt8) : UInt16 :=
  joinBytes (registers pair.high) (registers pair.low)

/-- The number that a pair of registers holds. -/
def number (pair : RegisterPair) (registers : Memory Register UInt8) : Int :=
  256 * (registers pair.high).toNat + (registers pair.low).toNat

variable (pair : RegisterPair) (registers : Memory Register UInt8)

theorem number_nonneg : 0 ≤ pair.number registers := by
  rw [number]
  omega

theorem number_lt : pair.number registers < 2 ^ 16 := by
  have hhigh := (registers pair.high).toNat_lt
  have hlow := (registers pair.low).toNat_lt
  rw [number]
  omega

/-- The bytes of a pair do not overlap, so the word is the sum of both at their places. -/
theorem toNat_contents : ((pair.contents registers).toNat : Int) = pair.number registers := by
  have hhigh := (registers pair.high).toNat_lt
  have hlow := (registers pair.low).toNat_lt
  have hshift :
      ((registers pair.high).toUInt16 <<< 8).toNat = (registers pair.high).toNat <<< 8 := by
    rw [UInt16.toNat_shiftLeft, UInt8.toNat_toUInt16]
    show (_ <<< 8) % 2 ^ 16 = _
    rw [Nat.shiftLeft_eq]
    omega
  rw [contents, joinBytes, UInt16.toNat_or, hshift, UInt8.toNat_toUInt16,
    ← Nat.shiftLeft_add_eq_or_of_lt hlow, Nat.shiftLeft_eq, number]
  omega

end Controller.RegisterPair

variable {α β σ : Type} {respond : Responder (Request.Answer Chipset.Request.Answer) σ} {state : σ}

/-! ### What a routine yields -/

/-- Started in a state, the routine comes to a value and leaves the hardware in that state. -/
structure Routine.Yields (respond : Responder (Request.Answer Chipset.Request.Answer) σ) (state : σ)
    (routine : Routine α) (value : α) : Prop where
  value_eq : (routine.execute respond state).value = value
  state_eq : (routine.execute respond state).state = state

namespace Routine.Yields

theorem done (value : α) : Yields respond state (.done value) value :=
  ⟨rfl, rfl⟩

theorem bind {routine : Routine α} {next : α → Routine β} {value : α} {result : β}
    (h : Yields respond state routine value) (hnext : Yields respond state (next value) result) :
    Yields respond state (routine >>= next) result := by
  refine ⟨?_, ?_⟩
  · rw [Program.execute_bind, h.value_eq, h.state_eq]
    exact hnext.value_eq
  · rw [Program.execute_bind, h.value_eq, h.state_eq]
    exact hnext.state_eq

theorem map {routine : Routine α} {value : α} (h : Yields respond state routine value)
    (f : α → β) : Yields respond state (f <$> routine) (f value) := by
  refine ⟨?_, ?_⟩
  · rw [Program.execute_map, h.value_eq]
  · rw [Program.execute_map, h.state_eq]

end Routine.Yields

/-! ### Registers -/

/-- To read a register without a script yields what it holds. -/
theorem Machine.yields_read {machine : Machine} {register : Register}
    (h : machine.script register = []) :
    (Routine.read register).Yields Machine.respond machine (machine.registers register) :=
  ⟨congrArg Prod.fst (Machine.readRegister_of_script h),
    congrArg Prod.snd (Machine.readRegister_of_script h)⟩

/-- In this state, every register shows what it holds, and reading one changes nothing. -/
def ShowsContents (respond : Responder (Request.Answer Chipset.Request.Answer) σ) (state : σ)
    (registers : Memory Register UInt8) : Prop :=
  ∀ register, respond (.controller (.read register)) state = (registers register, state)

/-- A machine that keeps what is written to it shows what its registers hold. -/
theorem Machine.Faithful.showsContents {machine : Machine} (h : machine.Faithful) :
    ShowsContents Machine.respond machine machine.registers :=
  fun register ↦ Machine.readRegister_of_script (h register)

namespace ShowsContents

variable {registers : Memory Register UInt8} (h : ShowsContents respond state registers)

include h

theorem yields_read (register : Register) :
    (Routine.read register).Yields respond state (registers register) :=
  ⟨congrArg Prod.fst (h register), congrArg Prod.snd (h register)⟩

theorem yields_readPair (pair : RegisterPair) :
    (Routine.readPair pair).Yields respond state (pair.contents registers) :=
  (h.yields_read pair.high).bind ((h.yields_read pair.low).bind (.done _))

end ShowsContents

end LaptopDriver
