import Selene.JsText

/-!
# The UTF-8 form of a text

A text is decoded to scalar values first.  Two surrogates in the right order are
one scalar value, and a surrogate that is left over is replaced by U+FFFD.  The
scalar values are encoded one by one.  `utf8Length` is the number of the bytes.
-/

namespace Js

/-- The scalar value of a surrogate pair. -/
def pairScalar (high low : CodeUnit) : Char :=
  Char.ofNat (0x10000 + (high.val - 0xD800) * 0x400 + (low.val - 0xDC00))

/-- The scalar value of a unit that is not half of a pair. -/
def unitScalar (unit : CodeUnit) : Char :=
  if unit.IsSurrogate then Char.ofNat 0xFFFD else Char.ofNat unit.val

/-- The scalar values of a text, from left to right. -/
def scalarValues : JsString → List Char
  | [] => []
  | [unit] => [unitScalar unit]
  | first :: second :: rest =>
      if first.IsHighSurrogate ∧ second.IsLowSurrogate then
        pairScalar first second :: scalarValues rest
      else
        unitScalar first :: scalarValues (second :: rest)

/-- The bytes of a text, as `TextEncoder` writes them. -/
def utf8Bytes (text : JsString) : List UInt8 :=
  (scalarValues text).flatMap String.utf8EncodeChar

theorem toNat_ofNat
    {value : Nat}
    (valid : value.isValidChar) :
    (Char.ofNat value).toNat = value := by
  rw [Char.ofNat, dif_pos valid]
  rfl

theorem utf8Size_eq (scalar : Char) :
    scalar.utf8Size =
      if scalar.toNat ≤ 0x7F then 1
      else if scalar.toNat ≤ 0x7FF then 2
      else if scalar.toNat ≤ 0xFFFF then 3
      else 4 := by
  rfl

theorem utf8Size_unitScalar (unit : CodeUnit) :
    (unitScalar unit).utf8Size = unitBytes unit := by
  have bound := unit.isLt
  unfold unitScalar
  split
  · rename_i surrogate
    unfold CodeUnit.IsSurrogate at surrogate
    rw [unitBytes, if_neg (by omega), if_neg (by omega)]
    rfl
  · rename_i plain
    unfold CodeUnit.IsSurrogate at plain
    have valid : unit.val.isValidChar := by
      unfold Nat.isValidChar
      omega
    rw [utf8Size_eq, toNat_ofNat valid, unitBytes]
    repeat' split
    all_goals omega

theorem utf8Size_pairScalar
    {high low : CodeUnit}
    (isHigh : high.IsHighSurrogate)
    (isLow : low.IsLowSurrogate) :
    (pairScalar high low).utf8Size = 4 := by
  unfold CodeUnit.IsHighSurrogate at isHigh
  unfold CodeUnit.IsLowSurrogate at isLow
  have valid : Nat.isValidChar
      (0x10000 + (high.val - 0xD800) * 0x400 + (low.val - 0xDC00)) := by
    unfold Nat.isValidChar
    omega
  rw [utf8Size_eq, pairScalar, toNat_ofNat valid]
  rw [if_neg (by omega), if_neg (by omega), if_neg (by omega)]

theorem length_utf8Bytes (text : JsString) :
    (utf8Bytes text).length = utf8Length text := by
  unfold utf8Bytes
  induction text using scalarValues.induct with
  | case1 => rfl
  | case2 unit =>
      rw [scalarValues, List.flatMap_singleton, String.length_utf8EncodeChar,
        utf8Size_unitScalar, utf8Length]
  | case3 first second rest pair inductionHypothesis =>
      rw [scalarValues, if_pos pair, List.flatMap_cons, List.length_append,
        String.length_utf8EncodeChar, utf8Size_pairScalar pair.1 pair.2,
        inductionHypothesis, utf8Length_pair pair]
  | case4 first second rest notPair inductionHypothesis =>
      rw [scalarValues, if_neg notPair, List.flatMap_cons, List.length_append,
        String.length_utf8EncodeChar, utf8Size_unitScalar,
        inductionHypothesis, utf8Length_unpaired notPair]

end Js
