import LaptopDriver.Supply.Battery
import Mathlib.Algebra.Group.Int.Defs
import Mathlib.Algebra.Group.Nat.Defs

/-!
# Arithmetic in signed words

The driver computes the numbers of the battery in signed words of 32 bits, and one of them in words
of 64 bits on the way. A word that is too narrow for a result wraps around, and nothing shows that
it did.

An `Expression` is such a computation as a tree, so that each of its operations can be spoken of. It
can be carried out in words (`Expression.eval`) or on integers (`Expression.exact`), and it `Fits`
if no operation in it leaves the range of its word. Then no word has wrapped around, and the result
is the exact one (`toInt_eval`).
-/

namespace LaptopDriver

/-! ### Words -/

/-- The size of a signed word. -/
inductive WordSize where
  /-- Words of 32 bits. -/
  | single
  /-- Words of 64 bits. -/
  | double

/-- An operation on two numbers. -/
inductive Operator where
  | add
  | sub
  | mul

/-- Carry out an operation. -/
def Operator.apply {α : Type} [Add α] [Sub α] [Mul α] : Operator → α → α → α
  | add, left, right => left + right
  | sub, left, right => left - right
  | mul, left, right => left * right

namespace WordSize

/-- The words of a size. -/
@[reducible]
def Word : WordSize → Type
  | single => Int32
  | double => Int64

/-- The number that a word stands for. -/
def toInt : (size : WordSize) → size.Word → Int
  | single, word => Int32.toInt word
  | double, word => Int64.toInt word

/-- Carry out an operation in words. -/
def apply : (size : WordSize) → Operator → size.Word → size.Word → size.Word
  | single, operator, left, right => operator.apply (α := Int32) left right
  | double, operator, left, right => operator.apply (α := Int64) left right

/-- The number of bits of a word, less the one for the sign. -/
def magnitudeBits : WordSize → Nat
  | single => 31
  | double => 63

/-- The number is in the range of a word. -/
def Holds (size : WordSize) (number : Int) : Prop :=
  -2 ^ size.magnitudeBits ≤ number ∧ number < 2 ^ size.magnitudeBits

theorem holds_single {number : Int} (hlower : -2 ^ 31 ≤ number) (hupper : number < 2 ^ 31) :
    single.Holds number :=
  ⟨hlower, hupper⟩

theorem holds_double {number : Int} (hlower : -2 ^ 63 ≤ number) (hupper : number < 2 ^ 63) :
    double.Holds number :=
  ⟨hlower, hupper⟩

/-- A number in the range of a word is its own remainder there. -/
theorem Holds.bmod_eq {size : WordSize} {number : Int} (h : size.Holds number) :
    number.bmod (2 ^ (size.magnitudeBits + 1)) = number := by
  obtain ⟨hlower, hupper⟩ := h
  cases size with
  | single =>
    simp only [magnitudeBits] at hlower hupper ⊢
    exact Int.bmod_eq_of_le (by omega) (by omega)
  | double =>
    simp only [magnitudeBits] at hlower hupper ⊢
    exact Int.bmod_eq_of_le (by omega) (by omega)

/-- An operation whose result is in the range of a word is exact. -/
theorem toInt_apply {size : WordSize} (operator : Operator) (left right : size.Word)
    (h : size.Holds (operator.apply (size.toInt left) (size.toInt right))) :
    size.toInt (size.apply operator left right) =
      operator.apply (size.toInt left) (size.toInt right) := by
  refine Eq.trans ?_ h.bmod_eq
  cases size with
  | single =>
    cases operator with
    | add => exact Int32.toInt_add left right
    | sub => exact Int32.toInt_sub left right
    | mul => exact Int32.toInt_mul left right
  | double =>
    cases operator with
    | add => exact Int64.toInt_add left right
    | sub => exact Int64.toInt_sub left right
    | mul => exact Int64.toInt_mul left right

end WordSize

/-! ### Expressions -/

/-- A computation in signed words. -/
inductive Expression : WordSize → Type where
  /-- A word that is given. -/
  | word {size : WordSize} (value : size.Word) : Expression size
  /-- The negative of a number. -/
  | negate (operand : Expression .single) : Expression .single
  /-- An operation on two words. -/
  | operate {size : WordSize} (operator : Operator) (left right : Expression size) :
    Expression size
  /-- The same number in a wider word. -/
  | widen (operand : Expression .single) : Expression .double
  /-- The number in a narrower word, or the largest such word if it is larger than that. -/
  | saturate (operand : Expression .double) : Expression .single

namespace Expression

/-- The word that comes out. -/
def eval : {size : WordSize} → Expression size → size.Word
  | _, word value => value
  | _, negate operand => (-operand.eval : Int32)
  | size, operate operator left right => size.apply operator left.eval right.eval
  | _, widen operand => Int32.toInt64 operand.eval
  | _, saturate operand =>
    if (operand.eval : Int64) ≤ Int32.maxValue.toInt64 then Int64.toInt32 operand.eval
    else Int32.maxValue

/-- The number that is meant. -/
def exact : {size : WordSize} → Expression size → Int
  | size, word value => size.toInt value
  | _, negate operand => -operand.exact
  | _, operate operator left right => operator.apply left.exact right.exact
  | _, widen operand => operand.exact
  | _, saturate operand => min operand.exact (2 ^ 31 - 1)

/-- The result of every operation is in the range of its word. A number that is cut to a narrower
word may be too large for it, but not too small. -/
def Fits : {size : WordSize} → Expression size → Prop
  | _, word _ => True
  | _, negate operand => operand.Fits ∧ WordSize.single.Holds (-operand.exact)
  | size, operate operator left right =>
    left.Fits ∧ right.Fits ∧ size.Holds (operator.apply left.exact right.exact)
  | _, widen operand => operand.Fits
  | _, saturate operand => operand.Fits ∧ -2 ^ 31 ≤ operand.exact

theorem toInt_saturate {number : Int64} (h : -2 ^ 31 ≤ number.toInt) :
    (if number ≤ Int32.maxValue.toInt64 then number.toInt32 else Int32.maxValue).toInt =
      min number.toInt (2 ^ 31 - 1) := by
  have hmax : Int32.maxValue.toInt64.toInt = 2 ^ 31 - 1 := rfl
  split
  · next hle =>
    rw [Int64.le_iff_toInt_le, hmax] at hle
    have hholds := WordSize.holds_single h (Int.lt_of_le_sub_one hle)
    rw [Int64.toInt_toInt32, Int.min_eq_left hle]
    exact hholds.bmod_eq
  · next hlt =>
    rw [Int64.le_iff_toInt_le, hmax] at hlt
    exact (Int.min_eq_right (Int.le_of_not_le hlt)).symm

/-- Where every operation stays in the range of its word, the word that comes out stands for the
number that is meant. -/
theorem toInt_eval {size : WordSize} {expression : Expression size} (h : expression.Fits) :
    size.toInt expression.eval = expression.exact := by
  induction expression with
  | word value => rfl
  | negate operand ih =>
    obtain ⟨hoperand, hholds⟩ := h
    rw [← ih hoperand] at hholds
    show (-operand.eval : Int32).toInt = -operand.exact
    rw [← ih hoperand, Int32.toInt_neg]
    exact hholds.bmod_eq
  | operate operator left right ihleft ihright =>
    obtain ⟨hleft, hright, hholds⟩ := h
    rw [← ihleft hleft, ← ihright hright] at hholds
    rw [exact, ← ihleft hleft, ← ihright hright]
    exact WordSize.toInt_apply operator left.eval right.eval hholds
  | widen operand ih => exact (Int32.toInt_toInt64 operand.eval).trans (ih h)
  | saturate operand ih =>
    obtain ⟨hoperand, hlower⟩ := h
    rw [← ih hoperand] at hlower
    rw [exact, ← ih hoperand]
    exact toInt_saturate hlower

/-- A thousand times a number. -/
def thousandfold (operand : Expression .single) : Expression .single :=
  .operate .mul operand (.word 1000)

theorem exact_thousandfold (operand : Expression .single) :
    operand.thousandfold.exact = 1000 * operand.exact :=
  Int.mul_comm _ _

/-- A number of seventeen bits with its sign can be multiplied by a thousand. -/
theorem Fits.thousandfold {operand : Expression .single} (h : operand.Fits)
    (hlower : -2 ^ 16 ≤ operand.exact) (hupper : operand.exact < 2 ^ 16) :
    operand.thousandfold.Fits := by
  have hholds : WordSize.single.Holds (operand.exact * 1000) :=
    WordSize.holds_single (by omega) (by omega)
  exact ⟨h, trivial, hholds⟩

end Expression

end LaptopDriver
