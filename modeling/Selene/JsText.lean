import Mathlib.Data.List.DropRight
import Mathlib.Data.List.Lex
import Mathlib.Order.Fin.Basic
import Mathlib.Tactic.Linarith

/-!
# ECMAScript strings

An ECMAScript string is a finite sequence of 16-bit code units; it need not be
well-formed UTF-16.  Relational comparison of strings is the lexicographic
order of code units, so the list order is used unchanged.

`js` turns a source literal into code units.  It is injective, which lets a
proof decide equality of two literals without unfolding either of them.
-/

namespace Js

/-- There are code units, so number literals denote them. -/
instance codeUnits_nonempty : NeZero 65536 :=
  ⟨by decide⟩

/-- One UTF-16 code unit. -/
abbrev CodeUnit := Fin 65536

/-- Equality of units is the Boolean one; membership in a string rests on it. -/
instance codeUnits_lawful : LawfulBEq CodeUnit :=
  inferInstance

/-- A possibly ill-formed UTF-16 string. -/
abbrev JsString := List CodeUnit

instance (text : JsString) (texts : List JsString) :
    Decidable (text ∈ texts) :=
  inferInstance

theorem eq_map_of_cons
    {α β : Type}
    {each : α → β}
    {all : List α → List β}
    (nil : all [] = [])
    (cons : ∀ first rest, all (first :: rest) = each first :: all rest)
    (list : List α) :
    all list = list.map each := by
  induction list with
  | nil => exact nil
  | cons first rest inductionHypothesis =>
      rw [cons, inductionHypothesis, List.map_cons]

/-- A text ends where the first unit is not of its kind. -/
theorem append_inj_of_boundary
    {α : Type}
    {inside : α → Prop}
    {first second before after : List α}
    (firstInside : ∀ unit ∈ first, inside unit)
    (secondInside : ∀ unit ∈ second, inside unit)
    (beforeEnds : ∀ unit ∈ before.head?, ¬ inside unit)
    (afterEnds : ∀ unit ∈ after.head?, ¬ inside unit)
    (same : first ++ before = second ++ after) :
    first = second ∧ before = after := by
  rcases List.append_eq_append_iff.mp same with
    ⟨more, rfl, rfl⟩ | ⟨more, rfl, rfl⟩
  all_goals cases more with
    | nil => simp
    | cons unit rest =>
        exact absurd (by simp_all) (by simp_all : ¬ inside unit)

namespace CodeUnit

/-- The first half of a surrogate pair. -/
def IsHighSurrogate (unit : CodeUnit) : Prop :=
  0xD800 ≤ unit.val ∧ unit.val ≤ 0xDBFF

/-- The second half of a surrogate pair. -/
def IsLowSurrogate (unit : CodeUnit) : Prop :=
  0xDC00 ≤ unit.val ∧ unit.val ≤ 0xDFFF

/-- Either half of a surrogate pair. -/
def IsSurrogate (unit : CodeUnit) : Prop :=
  0xD800 ≤ unit.val ∧ unit.val ≤ 0xDFFF

instance (unit : CodeUnit) : Decidable unit.IsHighSurrogate :=
  inferInstanceAs (Decidable (_ ∧ _))

instance (unit : CodeUnit) : Decidable unit.IsLowSurrogate :=
  inferInstanceAs (Decidable (_ ∧ _))

instance (unit : CodeUnit) : Decidable unit.IsSurrogate :=
  inferInstanceAs (Decidable (_ ∧ _))

theorem IsHighSurrogate.isSurrogate
    {unit : CodeUnit}
    (high : unit.IsHighSurrogate) :
    unit.IsSurrogate := by
  unfold IsHighSurrogate at high
  unfold IsSurrogate
  omega

theorem IsLowSurrogate.not_high
    {unit : CodeUnit}
    (low : unit.IsLowSurrogate) :
    ¬ unit.IsHighSurrogate := by
  unfold IsLowSurrogate at low
  unfold IsHighSurrogate
  omega

end CodeUnit

/-- The UTF-16 code units of one Unicode scalar value. -/
def scalarUnits (scalar : Char) : JsString :=
  if scalar.toNat < 0x10000 then
    [Fin.ofNat 65536 scalar.toNat]
  else
    [Fin.ofNat 65536 (0xD800 + (scalar.toNat - 0x10000) / 0x400),
      Fin.ofNat 65536 (0xDC00 + (scalar.toNat - 0x10000) % 0x400)]

/-- The code units of a source literal. -/
def js (literal : String) : JsString :=
  literal.toList.flatMap scalarUnits

private theorem scalar_range
    (scalar : Char) :
    scalar.toNat < 0xD800 ∨
      (0xDFFF < scalar.toNat ∧ scalar.toNat < 0x110000) :=
  scalar.valid

private theorem scalar_ext
    {first second : Char}
    (same : first.toNat = second.toNat) :
    first = second :=
  Char.ext (UInt32.toNat_inj.mp same)

/--
The units of one scalar value are a prefix code: neither the scalar nor what
follows it can be read differently.
-/
theorem scalarUnits_append_inj
    {first second : Char}
    {firstRest secondRest : JsString}
    (same :
      scalarUnits first ++ firstRest =
        scalarUnits second ++ secondRest) :
    first = second ∧ firstRest = secondRest := by
  have firstRange := scalar_range first
  have secondRange := scalar_range second
  unfold scalarUnits at same
  split at same <;> split at same
  · simp only [List.cons_append, List.nil_append, List.cons.injEq,
      Fin.ext_iff, Fin.val_ofNat] at same
    exact ⟨scalar_ext (by omega), same.2⟩
  · simp only [List.cons_append, List.nil_append, List.cons.injEq,
      Fin.ext_iff, Fin.val_ofNat] at same
    omega
  · simp only [List.cons_append, List.nil_append, List.cons.injEq,
      Fin.ext_iff, Fin.val_ofNat] at same
    omega
  · simp only [List.cons_append, List.nil_append, List.cons.injEq,
      Fin.ext_iff, Fin.val_ofNat] at same
    exact ⟨scalar_ext (by omega), same.2.2⟩

private theorem scalarUnits_ne_nil
    (scalar : Char) :
    scalarUnits scalar ≠ [] := by
  unfold scalarUnits
  split <;> simp

theorem js_injective :
    Function.Injective js := by
  have onScalars :
      ∀ first second : List Char,
        first.flatMap scalarUnits = second.flatMap scalarUnits →
        first = second := by
    intro first
    induction first with
    | nil =>
        intro second same
        cases second with
        | nil => rfl
        | cons scalar rest =>
            simp only [List.flatMap_nil, List.flatMap_cons] at same
            exact (scalarUnits_ne_nil scalar
              (List.append_eq_nil_iff.mp same.symm).1).elim
    | cons scalar rest inductionHypothesis =>
        intro second same
        cases second with
        | nil =>
            simp only [List.flatMap_nil, List.flatMap_cons] at same
            exact (scalarUnits_ne_nil scalar
              (List.append_eq_nil_iff.mp same).1).elim
        | cons other others =>
            simp only [List.flatMap_cons] at same
            obtain ⟨sameScalar, sameRest⟩ :=
              scalarUnits_append_inj same
            rw [sameScalar, inductionHypothesis others sameRest]
  intro first second same
  exact String.toList_inj.mp (onScalars _ _ same)

@[simp] theorem js_inj
    {first second : String} :
    js first = js second ↔ first = second :=
  js_injective.eq_iff

/-- Bytes of the UTF-8 form of one code unit that is not half of a pair. -/
def unitBytes (unit : CodeUnit) : Nat :=
  if unit.val ≤ 0x7F then 1
  else if unit.val ≤ 0x7FF then 2
  else 3

/--
Length of the UTF-8 form of a string.  A surrogate pair takes four bytes; an
unpaired surrogate is replaced by U+FFFD, which takes three.
-/
def utf8Length : JsString → Nat
  | [] => 0
  | [unit] => unitBytes unit
  | high :: low :: rest =>
      if high.IsHighSurrogate ∧ low.IsLowSurrogate then
        4 + utf8Length rest
      else
        unitBytes high + utf8Length (low :: rest)

theorem utf8Length_pair
    {high low : CodeUnit}
    {rest : JsString}
    (pair : high.IsHighSurrogate ∧ low.IsLowSurrogate) :
    utf8Length (high :: low :: rest) = 4 + utf8Length rest := by
  rw [utf8Length, if_pos pair]

theorem utf8Length_unpaired
    {unit next : CodeUnit}
    {rest : JsString}
    (notPair : ¬ (unit.IsHighSurrogate ∧ next.IsLowSurrogate)) :
    utf8Length (unit :: next :: rest) =
      unitBytes unit + utf8Length (next :: rest) := by
  rw [utf8Length, if_neg notPair]

theorem unitBytes_bounds
    (unit : CodeUnit) :
    1 ≤ unitBytes unit ∧ unitBytes unit ≤ 3 := by
  unfold unitBytes
  split
  · omega
  · split <;> omega

theorem length_le_utf8Length
    (text : JsString) :
    text.length ≤ utf8Length text := by
  fun_induction utf8Length text with
  | case1 => simp
  | case2 unit =>
      simpa using (unitBytes_bounds unit).1
  | case3 high low rest pair inductionHypothesis =>
      simp only [List.length_cons]
      omega
  | case4 high low rest notPair inductionHypothesis =>
      have first := (unitBytes_bounds high).1
      simp only [List.length_cons] at inductionHypothesis ⊢
      omega

theorem utf8Length_le
    (text : JsString) :
    utf8Length text ≤ 3 * text.length := by
  fun_induction utf8Length text with
  | case1 => simp
  | case2 unit =>
      simpa using (unitBytes_bounds unit).2
  | case3 high low rest pair inductionHypothesis =>
      simp only [List.length_cons]
      omega
  | case4 high low rest notPair inductionHypothesis =>
      have first := (unitBytes_bounds high).2
      simp only [List.length_cons] at inductionHypothesis ⊢
      omega

theorem utf8Length_le_append_left (front text : JsString) :
    utf8Length text ≤ utf8Length (front ++ text) := by
  induction front with
  | nil => exact Nat.le_refl _
  | cons unit rest inductionHypothesis =>
      refine inductionHypothesis.trans ?_
      rw [List.cons_append]
      cases rest ++ text with
      | nil => exact Nat.zero_le _
      | cons next others =>
          by_cases pair : unit.IsHighSurrogate ∧ next.IsLowSurrogate
          · rw [utf8Length_pair pair]
            cases others with
            | nil =>
                have bound := (unitBytes_bounds next).2
                simp only [utf8Length]
                omega
            | cons last others =>
                have bound := (unitBytes_bounds next).2
                rw [utf8Length_unpaired fun both =>
                  pair.2.not_high both.1]
                omega
          · rw [utf8Length_unpaired pair]
            omega

theorem utf8Length_le_append_right (text behind : JsString) :
    utf8Length text ≤ utf8Length (text ++ behind) := by
  fun_induction utf8Length text with
  | case1 => exact Nat.zero_le _
  | case2 unit =>
      cases behind with
      | nil => exact Nat.le_refl _
      | cons next others =>
          have bound := (unitBytes_bounds unit).2
          by_cases pair : unit.IsHighSurrogate ∧ next.IsLowSurrogate
          · rw [List.singleton_append, utf8Length_pair pair]
            omega
          · rw [List.singleton_append, utf8Length_unpaired pair]
            omega
  | case3 high low rest pair inductionHypothesis =>
      rw [List.cons_append, List.cons_append, utf8Length_pair pair]
      omega
  | case4 high low rest notPair inductionHypothesis =>
      rw [List.cons_append, List.cons_append, utf8Length_unpaired notPair]
      rw [List.cons_append] at inductionHypothesis
      omega

theorem utf8Length_le_of_infix
    {part text : JsString}
    (inside : part <:+: text) :
    utf8Length part ≤ utf8Length text := by
  obtain ⟨front, behind, rfl⟩ := inside
  exact (utf8Length_le_append_left front part).trans
    (utf8Length_le_append_right _ behind)

theorem utf8Length_of_ascii
    {text : JsString}
    (ascii : ∀ unit ∈ text, unit.val ≤ 0x7F) :
    utf8Length text = text.length := by
  have single :
      ∀ unit ∈ text, unitBytes unit = 1 := fun unit member => by
    rw [unitBytes, if_pos (ascii unit member)]
  fun_induction utf8Length text with
  | case1 => rfl
  | case2 unit =>
      exact single unit (by simp)
  | case3 high low rest pair inductionHypothesis =>
      have low := ascii high (by simp)
      have surrogate := pair.1
      unfold CodeUnit.IsHighSurrogate at surrogate
      omega
  | case4 high low rest notPair inductionHypothesis =>
      rw [single high (by simp),
        inductionHypothesis
          (fun unit member => ascii unit (List.mem_cons_of_mem _ member))
          (fun unit member => single unit (List.mem_cons_of_mem _ member))]
      simp only [List.length_cons]
      omega

/-- White space and line terminators, which `trim` removes. -/
def isWhiteSpace (unit : CodeUnit) : Bool :=
  decide ((0x09 ≤ unit.val ∧ unit.val ≤ 0x0D) ∨ unit.val = 0x20 ∨
    unit.val = 0xA0 ∨ unit.val = 0x1680 ∨
    (0x2000 ≤ unit.val ∧ unit.val ≤ 0x200A) ∨ unit.val = 0x2028 ∨
    unit.val = 0x2029 ∨ unit.val = 0x202F ∨ unit.val = 0x205F ∨
    unit.val = 0x3000 ∨ unit.val = 0xFEFF)

/-- `text.trim()`. -/
def trim (text : JsString) : JsString :=
  (text.dropWhile isWhiteSpace).rdropWhile isWhiteSpace

@[simp] theorem trim_trim (text : JsString) : trim (trim text) = trim text := by
  have start : (trim text).dropWhile isWhiteSpace = trim text := by
    cases trimmed : trim text with
    | nil => rfl
    | cons first rest =>
        obtain ⟨more, whole⟩ :=
          List.rdropWhile_prefix isWhiteSpace (text.dropWhile isWhiteSpace)
        have again := List.dropWhile_idempotent isWhiteSpace text
        rw [trim] at trimmed
        rw [trimmed] at whole
        rw [← whole, List.cons_append, List.dropWhile_cons] at again
        split at again
        · have shorter : ((rest ++ more).dropWhile isWhiteSpace).length ≤
              (rest ++ more).length :=
            (List.dropWhile_suffix isWhiteSpace).length_le
          rw [again] at shorter
          simp at shorter
        · rename_i kept
          rw [List.dropWhile_cons, if_neg kept]
  rw [trim, start]
  exact List.rdropWhile_idempotent isWhiteSpace _

/-- `!text.trim()`: nothing is left after trimming. -/
def isBlank (text : JsString) : Bool :=
  text.all isWhiteSpace

end Js
