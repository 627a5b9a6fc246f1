import Selene.JsonParse
import Selene.JsonTextSize
import Selene.JsValue
import Mathlib.Algebra.Order.Field.Rat
import Mathlib.Data.Nat.Prime.Basic
import Mathlib.Tactic.Positivity
import Mathlib.Tactic.NormNum

/-!
# Doubles and their numerals

The finite numbers of the language are the rationals that fit a double.  How
one of them is written is left to a `NumberFormat`: the language promises a
JSON numeral that is read back as the same number, and leaves the choice among
such numerals open.

`exactNumerals` is one format: the exact decimal value, without an exponent
for whole numbers.
-/

namespace Js

/-- The finite values of an IEEE double. -/
def IsDouble (value : ℚ) : Prop :=
  ∃ (significand : Int) (exponent : Nat),
    significand.natAbs < 2 ^ 53 ∧
      ((exponent ≤ 971 ∧ value = significand * 2 ^ exponent) ∨
        (exponent ≤ 1074 ∧ value * 2 ^ exponent = significand))

/-- A finite double. -/
abbrev Double := { value : ℚ // IsDouble value }

theorem isDouble_zero : IsDouble 0 :=
  ⟨0, 0, by decide, .inl ⟨by decide, by norm_num⟩⟩

theorem isDouble_natCast
    {value : Nat}
    (bound : value < 2 ^ 53) :
    IsDouble value :=
  ⟨value, 0, by simpa using bound, .inl ⟨by decide, by norm_num⟩⟩

/-- The finite value of a number, the same for both zeros. -/
def JsNumber.finiteValue? : JsNumber → Option ℚ
  | .finite value => some value
  | .negativeZero => some 0
  | .infinite _ => none
  | .nan => none

/-- Numbers as the language has them: finite ones are doubles. -/
def JsNumber.IsRepresentable (number : JsNumber) : Prop :=
  ∀ value ∈ number.finiteValue?, IsDouble value

/-- A number of the language. -/
abbrev OwnNumber := { number : JsNumber // number.IsRepresentable }

/-- A whole number that counts something; 2^53 is the last one counted. -/
abbrev Count := { value : Nat // value ≤ 2 ^ 53 }

namespace Count

/-- The count of nothing. -/
def zero : Count :=
  ⟨0, by decide⟩

/-- The first count. -/
def one : Count :=
  ⟨1, by decide⟩

/-- `count + 1`; at 2^53 the sum is rounded back. -/
def next (count : Count) : Count :=
  if room : count.val < 2 ^ 53 then ⟨count.val + 1, room⟩ else count

/-- The count as a number. -/
def toNumber (count : Count) : JsNumber :=
  .ofNat count.val

theorem representable (count : Count) : count.toNumber.IsRepresentable := by
  intro value isValue
  cases Option.some.inj isValue
  rcases Nat.lt_or_ge count.val (2 ^ 53) with below | last
  · exact isDouble_natCast below
  · have isLast : count.val = 2 ^ 53 := le_antisymm count.property last
    rw [isLast]
    exact ⟨1, 53, by decide, .inl ⟨by decide, by norm_num⟩⟩

/-- The count as a number of the language. -/
def toOwnNumber (count : Count) : OwnNumber :=
  ⟨count.toNumber, count.representable⟩

end Count

/-- How finite numbers are written as JSON and how numerals are read. -/
structure NumberFormat where
  toText : ℚ → JsString
  read : JsString → JsNumber
  numeral : ∀ {value}, IsDouble value → isJsonNumeral (toText value) = true
  read_toText : ∀ {value}, IsDouble value → read (toText value) = .finite value

namespace NumberFormat

/-- `JSON.stringify` of a finite number; both zeros are written alike. -/
def jsonText (format : NumberFormat) (number : JsNumber) : Option JsString :=
  number.finiteValue?.map format.toText

/-- The numerals of doubles as the numbers of documents. -/
def doubles (format : NumberFormat) : NumberText Double where
  render number := format.toText number.val
  nonempty number := (numeric_of_isJsonNumeral (format.numeral number.property)).1
  numeric number :=
    (numeric_of_isJsonNumeral (format.numeral number.property)).2
  injective := by
    intro first second same
    have read :
        JsNumber.finite first.val = JsNumber.finite second.val := by
      rw [← format.read_toText first.property,
        ← format.read_toText second.property]
      exact congrArg format.read same
    exact Subtype.ext (JsNumber.finite.inj read)

end NumberFormat

/-! ## Exact numerals -/

theorem decimalDigits_shape (value : Nat) :
    ∃ first rest, decimalDigits value = first :: rest ∧
      isDecimalDigit first = true ∧
      (∀ unit ∈ rest, isDecimalDigit unit = true) ∧
      (first = 0x30 → value = 0) := by
  induction value using Nat.strong_induction_on with
  | _ value inductionHypothesis =>
  have digit :
      ∀ small < 10,
        scalarUnits (Nat.digitChar small) =
            [Fin.ofNat 65536 (0x30 + small)] ∧
          isDecimalDigit (Fin.ofNat 65536 (0x30 + small)) = true ∧
          (Fin.ofNat 65536 (0x30 + small) = (0x30 : CodeUnit) →
            small = 0) := by
    decide
  unfold decimalDigits
  rw [Nat.toDigits_eq_if (by decide)]
  split
  · rename_i small
    obtain ⟨shape, isDigit, zero⟩ := digit value small
    exact ⟨_, [], by simp [shape], isDigit, by simp, zero⟩
  · rename_i large
    obtain ⟨first, rest, shape, isDigit, restDigits, zero⟩ :=
      inductionHypothesis (value / 10) (by omega)
    obtain ⟨lastShape, lastDigit, _⟩ :=
      digit (value % 10) (Nat.mod_lt value (by decide))
    unfold decimalDigits at shape
    refine ⟨first, rest ++ [Fin.ofNat 65536 (0x30 + value % 10)], ?_,
      isDigit, ?_, ?_⟩
    · simp [List.flatMap_append, shape, lastShape]
    · intro other member
      rcases List.mem_append.mp member with earlier | last
      · exact restDigits other earlier
      · rw [List.mem_singleton.mp last]
        exact lastDigit
    · intro isZero
      have small := zero isZero
      omega

/-- The number of binary places of a double. -/
def binaryPlaces (value : ℚ) : Nat :=
  Nat.log2 value.den

/-- The exact decimal value of a rational with a power of two below. -/
def exactNumeral (value : ℚ) : JsString :=
  (if value.num < 0 then [0x2D] else []) ++
    (decimalDigits (value.num.natAbs * 5 ^ binaryPlaces value) ++
      if binaryPlaces value = 0 then []
      else 0x65 :: 0x2D :: decimalDigits (binaryPlaces value))

theorem isJsonNumeral_exactNumeral (value : ℚ) :
    isJsonNumeral (exactNumeral value) = true := by
  have exponentPart :
      isFraction (if binaryPlaces value = 0 then []
        else 0x65 :: 0x2D :: decimalDigits (binaryPlaces value)) = true := by
    split
    · rfl
    · obtain ⟨first, rest, shape, isDigit, restDigits, _⟩ :=
        decimalDigits_shape (binaryPlaces value)
      have allDropped : rest.dropWhile isDecimalDigit = [] :=
        List.dropWhile_eq_nil_iff.mpr restDigits
      simp [shape, isFraction, isExponent, dropDigits, isDigit, allDropped]
  have stops :
      (if binaryPlaces value = 0 then []
        else 0x65 :: 0x2D :: decimalDigits
          (binaryPlaces value)).dropWhile isDecimalDigit =
        if binaryPlaces value = 0 then []
        else 0x65 :: 0x2D :: decimalDigits (binaryPlaces value) := by
    split
    · rfl
    · exact List.dropWhile_cons_of_neg (by decide)
  obtain ⟨first, rest, shape, isDigit, restDigits, zero⟩ :=
    decimalDigits_shape (value.num.natAbs * 5 ^ binaryPlaces value)
  have unsigned :
      isFraction (if first = 0x30 then
          rest ++ if binaryPlaces value = 0 then []
            else 0x65 :: 0x2D :: decimalDigits (binaryPlaces value)
        else
          (rest ++ if binaryPlaces value = 0 then []
            else 0x65 :: 0x2D :: decimalDigits
              (binaryPlaces value)).dropWhile isDecimalDigit) = true := by
    split
    · rename_i isZero
      have none : rest = [] := by
        have noMantissa := zero isZero
        rw [noMantissa] at shape
        have whole : decimalDigits 0 = [0x30] := by decide
        rw [whole] at shape
        exact (List.cons.inj shape).2.symm
      rw [none, List.nil_append]
      exact exponentPart
    · rw [List.dropWhile_append_of_pos restDigits, stops]
      exact exponentPart
  have notMinus : first ≠ 0x2D := by
    rintro rfl
    exact absurd isDigit (by decide)
  unfold isJsonNumeral exactNumeral
  rw [shape]
  by_cases negative : value.num < 0
  · simp only [if_pos negative, List.cons_append, List.nil_append,
      List.head?_cons, ↓reduceIte, List.tail_cons, isDigit, unsigned,
      Bool.and_self]
  · simp only [if_neg negative, List.cons_append, List.nil_append,
      List.head?_cons, Option.some.injEq, notMinus, ↓reduceIte, isDigit,
      unsigned, Bool.and_self]

theorem den_of_isDouble
    {value : ℚ}
    (double : IsDouble value) :
    value.den = 2 ^ binaryPlaces value := by
  obtain ⟨significand, exponent, _, ⟨_, rfl⟩ | ⟨_, scaled⟩⟩ := double
  · have whole :
        (significand * 2 ^ exponent : ℚ) =
          ((significand * 2 ^ exponent : Int) : ℚ) := by
      push_cast
      rfl
    rw [binaryPlaces, whole, Rat.den_intCast]
    rfl
  · have fraction :
        value = (significand : ℚ) / ((2 ^ exponent : Nat) : ℚ) := by
      rw [eq_div_iff (by positivity)]
      push_cast
      exact scaled
    have divides : value.den ∣ 2 ^ exponent := by
      have general := Rat.den_dvd significand ((2 ^ exponent : Nat) : Int)
      rw [fraction]
      exact_mod_cast general
    obtain ⟨places, _, shape⟩ := (Nat.dvd_prime_pow Nat.prime_two).mp divides
    rw [binaryPlaces, shape, Nat.log2_two_pow]

theorem digits_append_inj
    {first second : Nat}
    {firstRest secondRest : JsString}
    (firstStops : firstRest.takeWhile isDecimalDigit = [])
    (secondStops : secondRest.takeWhile isDecimalDigit = [])
    (same :
      decimalDigits first ++ firstRest = decimalDigits second ++ secondRest) :
    first = second ∧ firstRest = secondRest := by
  have digits :
      ∀ value, ∀ unit ∈ decimalDigits value, isDecimalDigit unit = true :=
    fun value unit member => decide_eq_true (digit_of_mem_decimalDigits member)
  have runs := congrArg (List.takeWhile isDecimalDigit) same
  rw [List.takeWhile_append_of_pos (digits first),
    List.takeWhile_append_of_pos (digits second), firstStops, secondStops,
    List.append_nil, List.append_nil] at runs
  rw [runs, List.append_cancel_left_eq] at same
  exact ⟨decimal.injective runs, same⟩

theorem exactNumeral_inj
    {first second : ℚ}
    (firstDouble : IsDouble first)
    (secondDouble : IsDouble second)
    (same : exactNumeral first = exactNumeral second) :
    first = second := by
  have stops :
      ∀ value : ℚ,
        (if binaryPlaces value = 0 then []
          else 0x65 :: 0x2D :: decimalDigits
            (binaryPlaces value)).takeWhile isDecimalDigit = [] := by
    intro value
    split
    · rfl
    · exact List.takeWhile_cons_of_neg (by decide)
  have signless :
      ∀ value : Nat, ∀ rest tail : JsString,
        decimalDigits value ++ rest ≠ 0x2D :: tail := by
    intro value rest tail starts
    obtain ⟨head, others, shape, isDigit, _⟩ := decimalDigits_shape value
    rw [shape] at starts
    cases starts
    exact absurd isDigit (by decide)
  have sameSign : first.num < 0 ↔ second.num < 0 := by
    unfold exactNumeral at same
    by_cases firstNegative : first.num < 0 <;>
      by_cases secondNegative : second.num < 0
    · simp [firstNegative, secondNegative]
    · rw [if_pos firstNegative, if_neg secondNegative] at same
      exact (signless _ _ _ same.symm).elim
    · rw [if_neg firstNegative, if_pos secondNegative] at same
      exact (signless _ _ _ same).elim
    · simp [firstNegative, secondNegative]
  have sameUnsigned :
      decimalDigits (first.num.natAbs * 5 ^ binaryPlaces first) ++
          (if binaryPlaces first = 0 then []
            else 0x65 :: 0x2D :: decimalDigits (binaryPlaces first)) =
        decimalDigits (second.num.natAbs * 5 ^ binaryPlaces second) ++
          if binaryPlaces second = 0 then []
            else 0x65 :: 0x2D :: decimalDigits (binaryPlaces second) := by
    unfold exactNumeral at same
    by_cases negative : second.num < 0
    · rw [if_pos (sameSign.mpr negative), if_pos negative] at same
      exact List.append_cancel_left same
    · rw [if_neg (mt sameSign.mp negative), if_neg negative] at same
      exact List.append_cancel_left same
  obtain ⟨sameMantissa, sameExponent⟩ :=
    digits_append_inj (stops first) (stops second) sameUnsigned
  have samePlaces : binaryPlaces first = binaryPlaces second := by
    by_cases firstWhole : binaryPlaces first = 0 <;>
      by_cases secondWhole : binaryPlaces second = 0
    · rw [firstWhole, secondWhole]
    · simp [firstWhole, secondWhole] at sameExponent
    · simp [firstWhole, secondWhole] at sameExponent
    · simp only [firstWhole, secondWhole, ↓reduceIte, List.cons.injEq,
        true_and] at sameExponent
      exact decimal.injective sameExponent
  have sameMagnitude : first.num.natAbs = second.num.natAbs := by
    rw [samePlaces] at sameMantissa
    exact Nat.eq_of_mul_eq_mul_right (by positivity) sameMantissa
  apply Rat.ext
  · omega
  · rw [den_of_isDouble firstDouble, den_of_isDouble secondDouble, samePlaces]

open Classical in
/-- Doubles written exactly. -/
noncomputable def exactNumerals : NumberFormat where
  toText := exactNumeral
  read numeral :=
    if written : ∃ value, IsDouble value ∧ exactNumeral value = numeral then
      .finite written.choose
    else
      .nan
  numeral _ := isJsonNumeral_exactNumeral _
  read_toText := by
    intro value double
    have written :
        ∃ other, IsDouble other ∧ exactNumeral other = exactNumeral value :=
      ⟨value, double, rfl⟩
    rw [dif_pos written]
    have chosen := written.choose_spec
    rw [exactNumeral_inj chosen.1 double chosen.2]

end Js
