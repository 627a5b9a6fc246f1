import Selene.BoundedLoop
import Selene.DesignRevisionSnapshot
import Selene.Utf8Bytes
import Mathlib.Algebra.Order.Field.Rat

/-!
# The bounded length of a text in bytes

`boundedUtf8ByteLength` reads a text by index and steps over the second half of a
pair.  Here it is the loop over indices, with a limit that may be any number but
`NaN`; the snapshot only gives natural numbers.  Every turn counts the bytes of one
scalar value, so the loop returns the number of bytes if the limit admits it.
-/

namespace Selene.Revision.CodeUnitLoop

open Js

/-- Where the loop is, and the bytes before. -/
structure Cursor where
  index : Nat
  bytes : Nat

variable (value : JsString) (limit : ℚ)

/-- The bytes that the code unit at an index starts, and the units they take. -/
def widthAt (index : Nat) (codeUnit : CodeUnit) : Nat × Nat :=
  if codeUnit.val ≤ 0x7F then (1, 1)
  else if codeUnit.val ≤ 0x7FF then (2, 1)
  else if 0xD800 ≤ codeUnit.val ∧ codeUnit.val ≤ 0xDBFF ∧
      (value[index + 1]?).any fun next =>
        0xDC00 ≤ next.val ∧ next.val ≤ 0xDFFF then (4, 2)
  else (3, 1)

/-- One turn of the loop; the result `none` is a failure. -/
def byteTurn (cursor : Cursor) : Cursor ⊕ Option Nat :=
  match value[cursor.index]? with
  | none => .inr (some cursor.bytes)
  | some codeUnit =>
      let width := widthAt value cursor.index codeUnit
      let bytes := cursor.bytes + width.1
      if limit < bytes then .inr none
      else .inl { index := cursor.index + width.2, bytes }

variable {value limit} {cursor : Cursor} {codeUnit : CodeUnit}

theorem byteTurn_of_none
    (missing : value[cursor.index]? = none) :
    byteTurn value limit cursor = .inr (some cursor.bytes) := by
  rw [byteTurn, missing]

theorem byteTurn_of_some
    (found : value[cursor.index]? = some codeUnit) :
    byteTurn value limit cursor =
      if limit < (cursor.bytes +
          (widthAt value cursor.index codeUnit).1 : Nat) then .inr none
      else .inl
        { index := cursor.index + (widthAt value cursor.index codeUnit).2
          bytes := cursor.bytes +
            (widthAt value cursor.index codeUnit).1 } := by
  rw [byteTurn, found]

theorem widthAt_pos
    (value : JsString)
    (index : Nat)
    (codeUnit : CodeUnit) :
    1 ≤ (widthAt value index codeUnit).2 := by
  unfold widthAt
  repeat' split
  all_goals exact Nat.succ_le_succ (Nat.zero_le _)

theorem utf8Length_drop
    {index : Nat}
    (found : value[index]? = some codeUnit) :
    utf8Length (value.drop index) =
      (widthAt value index codeUnit).1 +
        utf8Length (value.drop (index + (widthAt value index codeUnit).2)) := by
  obtain ⟨bound, rfl⟩ := List.getElem?_eq_some_iff.mp found
  rw [List.drop_eq_getElem_cons bound, widthAt]
  cases after : value.drop (index + 1) with
  | nil =>
      have last : value[index + 1]? = none := by
        rw [List.getElem?_eq_none_iff]
        exact List.drop_eq_nil_iff.mp after
      simp only [last, Option.any_none, Bool.false_eq_true, and_false,
        ↓reduceIte]
      rw [utf8Length, unitBytes]
      repeat' split
      all_goals simp only [after, utf8Length]
  | cons next rest =>
      have isNext : value[index + 1]? = some next := by
        rw [← List.head?_drop, after, List.head?_cons]
      have skipped : value.drop (index + 2) = rest := by
        rw [← List.drop_drop (i := 1), after]
        rfl
      by_cases pair : value[index].IsHighSurrogate ∧ next.IsLowSurrogate
      · obtain ⟨high, low⟩ := pair
        rw [utf8Length_pair ⟨high, low⟩]
        unfold CodeUnit.IsHighSurrogate at high
        unfold CodeUnit.IsLowSurrogate at low
        rw [if_neg (by omega), if_neg (by omega), if_pos ⟨high.1, high.2, by
          simpa [isNext] using low⟩, skipped]
      · rw [utf8Length_unpaired pair, unitBytes]
        split
        · rw [after]
        · split
          · rw [after]
          · rw [if_neg fun taken => pair ⟨⟨taken.1, taken.2.1⟩, by
              simpa [isNext, CodeUnit.IsLowSurrogate] using taken.2.2⟩, after]

/-- The loop; every turn moves on. -/
def byteLoop (value : JsString) (limit : ℚ) : Loop Cursor (Option Nat) where
  turn := byteTurn value limit
  measure := fun cursor => value.length - cursor.index
  decreases := by
    intro cursor next continues
    cases found : value[cursor.index]? with
    | none =>
        rw [byteTurn_of_none found] at continues
        cases continues
    | some codeUnit =>
        have moves := widthAt_pos value cursor.index codeUnit
        obtain ⟨bound, _⟩ := List.getElem?_eq_some_iff.mp found
        rw [byteTurn_of_some found] at continues
        split at continues
        · cases continues
        · cases continues
          simp only
          omega

/-- `boundedUtf8ByteLength`; `none` is a failure. -/
def boundedUtf8ByteLength (value : JsString) (limit : ℚ) : Option Nat :=
  if limit < value.length then none
  else (byteLoop value limit).run { index := 0, bytes := 0 }

theorem run_byteLoop
    (value : JsString)
    (limit : ℚ)
    (cursor : Cursor) :
    (cursor.bytes : ℚ) ≤ limit →
      (byteLoop value limit).run cursor =
        if ((cursor.bytes + utf8Length (value.drop cursor.index) : Nat) : ℚ) ≤
            limit then
          some (cursor.bytes + utf8Length (value.drop cursor.index))
        else none := by
  refine @Loop.run_induct _ _ (byteLoop value limit)
    (fun cursor result => (cursor.bytes : ℚ) ≤ limit → result =
      if ((cursor.bytes + utf8Length (value.drop cursor.index) : Nat) : ℚ) ≤
          limit then
        some (cursor.bytes + utf8Length (value.drop cursor.index))
      else none) ?_ ?_ cursor
  · intro cursor result stops within
    replace stops : byteTurn value limit cursor = .inr result := stops
    cases found : value[cursor.index]? with
    | none =>
        rw [byteTurn_of_none found] at stops
        cases stops
        have ended : value.drop cursor.index = [] :=
          List.drop_eq_nil_iff.mpr (List.getElem?_eq_none_iff.mp found)
        rw [ended, utf8Length, Nat.add_zero, if_pos within]
    | some codeUnit =>
        rw [byteTurn_of_some found] at stops
        split at stops
        · rename_i exceeds
          cases stops
          refine (if_neg (not_le.mpr (exceeds.trans_le ?_))).symm
          rw [Nat.cast_le, utf8Length_drop found, ← Nat.add_assoc]
          exact Nat.le_add_right _ _
        · cases stops
  · intro cursor next continues below within
    replace continues : byteTurn value limit cursor = .inl next := continues
    cases found : value[cursor.index]? with
    | none =>
        rw [byteTurn_of_none found] at continues
        cases continues
    | some codeUnit =>
        rw [byteTurn_of_some found] at continues
        split at continues
        · cases continues
        · rename_i fits
          cases continues
          rw [below (not_lt.mp fits), utf8Length_drop found, ← Nat.add_assoc]

/-- The number of bytes if the limit admits it, and a failure otherwise. -/
theorem boundedUtf8ByteLength_exact
    (value : JsString)
    (limit : ℚ) :
    boundedUtf8ByteLength value limit =
      if ((utf8Bytes value).length : ℚ) ≤ limit then
        some (utf8Bytes value).length
      else none := by
  rw [length_utf8Bytes, boundedUtf8ByteLength]
  split
  · rename_i long
    have bytes : (value.length : ℚ) ≤ utf8Length value :=
      Nat.cast_le.mpr (length_le_utf8Length value)
    exact (if_neg (not_le.mpr (long.trans_le bytes))).symm
  · rename_i short
    have nonnegative : ((0 : Nat) : ℚ) ≤ limit :=
      (Nat.cast_le.mpr (Nat.zero_le _)).trans (not_lt.mp short)
    rw [run_byteLoop value limit _ nonnegative, List.drop_zero, Nat.zero_add]

end Selene.Revision.CodeUnitLoop

namespace Selene.Revision

open Js

theorem boundedUtf8ByteLength_eq_loop
    (value : JsString)
    (limit : Nat) :
    boundedUtf8ByteLength value limit =
      CodeUnitLoop.boundedUtf8ByteLength value limit := by
  rw [CodeUnitLoop.boundedUtf8ByteLength_exact, length_utf8Bytes,
    boundedUtf8ByteLength_eq]
  simp only [Nat.cast_le]

end Selene.Revision
