import Selene.AgentProtocol
import Selene.JsonTextSize

/-!
# Sizes of JSON strings

`jsonStringBytesAtMost` counts the bytes of the JSON form of a text without
writing it.  It asks `isWellFormedUnicode` whether a surrogate has its other
half, and that function passes a text which ends in the first half of a pair:
there is no next unit, and no comparison with what is not a number fails.  Such
a text is counted three bytes short; every other one is counted exactly.
-/

namespace Selene.Agent

open Js

/-! ## Unpaired surrogates -/

/-- A surrogate without its other half, between its neighbours. -/
def IsAlone
    (previous : Option CodeUnit)
    (unit : CodeUnit)
    (next : Option CodeUnit) : Prop :=
  (unit.IsHighSurrogate ∧ ¬ ∃ low ∈ next, low.IsLowSurrogate) ∨
    (unit.IsLowSurrogate ∧ ¬ ∃ high ∈ previous, high.IsHighSurrogate)

instance (previous : Option CodeUnit) (unit : CodeUnit)
    (next : Option CodeUnit) : Decidable (IsAlone previous unit next) :=
  inferInstanceAs (Decidable (_ ∨ _))

/-- An unpaired surrogate somewhere in a text that follows a unit. -/
def HasUnpaired (previous : Option CodeUnit) : JsString → Prop
  | [] => False
  | unit :: rest =>
      IsAlone previous unit rest.head? ∨ HasUnpaired (some unit) rest

instance decidableHasUnpaired :
    (previous : Option CodeUnit) → (text : JsString) →
      Decidable (HasUnpaired previous text)
  | _, [] => inferInstanceAs (Decidable False)
  | previous, unit :: rest =>
      have := decidableHasUnpaired (some unit) rest
      inferInstanceAs (Decidable (IsAlone previous unit rest.head? ∨ _))

/-- The text ends in the first half of a pair. -/
def EndsHigh (text : JsString) : Prop :=
  ∃ high ∈ text.getLast?, high.IsHighSurrogate

instance (text : JsString) : Decidable (EndsHigh text) :=
  inferInstanceAs (Decidable (∃ high ∈ text.getLast?, high.IsHighSurrogate))

variable {unit high low next : CodeUnit} {rest : JsString}

theorem hasUnpaired_after
    (notHigh : ¬ unit.IsHighSurrogate) :
    HasUnpaired (some unit) rest ↔ HasUnpaired none rest := by
  cases rest with
  | nil => rfl
  | cons first others => simp [HasUnpaired, IsAlone, notHigh]

theorem hasUnpaired_pair
    (isHigh : high.IsHighSurrogate)
    (isLow : low.IsLowSurrogate) :
    HasUnpaired none (high :: low :: rest) ↔ HasUnpaired none rest := by
  have notLow : ¬ high.IsLowSurrogate := fun both => both.not_high isHigh
  simp [HasUnpaired, IsAlone, isHigh, isLow, notLow, isLow.not_high,
    hasUnpaired_after isLow.not_high]

theorem hasUnpaired_high
    (isHigh : high.IsHighSurrogate)
    (notLow : ∀ low ∈ rest.head?, ¬ low.IsLowSurrogate) :
    HasUnpaired none (high :: rest) :=
  Or.inl (Or.inl ⟨isHigh, fun ⟨low, first, isLow⟩ => notLow low first isLow⟩)

theorem hasUnpaired_low
    (isLow : low.IsLowSurrogate) :
    HasUnpaired none (low :: rest) := by
  simp [HasUnpaired, IsAlone, isLow]

theorem hasUnpaired_other
    (notHigh : ¬ unit.IsHighSurrogate)
    (notLow : ¬ unit.IsLowSurrogate) :
    HasUnpaired none (unit :: rest) ↔ HasUnpaired none rest := by
  simp [HasUnpaired, IsAlone, notHigh, notLow, hasUnpaired_after notHigh]

@[simp] theorem endsHigh_cons_cons :
    EndsHigh (unit :: next :: rest) ↔ EndsHigh (next :: rest) := by
  simp [EndsHigh, List.getLast?_cons]

theorem endsHigh_rest
    (notHigh : ¬ next.IsHighSurrogate) :
    EndsHigh (next :: rest) ↔ EndsHigh rest := by
  cases rest with
  | nil => simp [EndsHigh, notHigh]
  | cons first others => exact endsHigh_cons_cons

/-- What `isWellFormedUnicode` looks at: all but a first half at the end. -/
def checked (text : JsString) : JsString :=
  if EndsHigh text then text.dropLast else text

theorem checked_cons
    (goesOn : unit.IsHighSurrogate → rest ≠ []) :
    checked (unit :: rest) = unit :: checked rest := by
  cases rest with
  | nil =>
      have notHigh : ¬ unit.IsHighSurrogate := fun high => goesOn high rfl
      simp [checked, EndsHigh, notHigh]
  | cons first others =>
      by_cases ends : EndsHigh (first :: others)
      · rw [checked, checked, if_pos ends, if_pos (endsHigh_cons_cons.mpr ends),
          List.dropLast_cons_of_ne_nil (List.cons_ne_nil _ _)]
      · rw [checked, checked, if_neg ends,
          if_neg fun whole => ends (endsHigh_cons_cons.mp whole)]

theorem mem_head?_checked
    (first : next ∈ (checked rest).head?) :
    next ∈ rest.head? := by
  unfold checked at first
  split at first
  · obtain ⟨others, whole⟩ := List.dropLast_prefix rest
    rw [← whole, List.head?_append, first]
    rfl
  · exact first

/-- `isWellFormedUnicode` overlooks a first half at the end. -/
theorem isWellFormedUnicode_iff
    (value : JsString) :
    isWellFormedUnicode value = true ↔ ¬ HasUnpaired none (checked value) := by
  fun_induction isWellFormedUnicode value with
  | case1 => simp [checked, EndsHigh, HasUnpaired]
  | case2 code =>
      by_cases isHigh : code.IsHighSurrogate
      · have notLow : ¬ code.IsLowSurrogate := fun both =>
          both.not_high isHigh
        simp [checked, EndsHigh, isHigh, notLow, HasUnpaired]
      · simp [checked, EndsHigh, isHigh, HasUnpaired, IsAlone]
  | case3 code next rest isHigh isLow inductionHypothesis =>
      rw [inductionHypothesis, checked_cons (fun _ => List.cons_ne_nil _ _),
        checked_cons (fun both => absurd both isLow.not_high),
        hasUnpaired_pair isHigh isLow]
  | case4 code next rest isHigh notLow =>
      rw [checked_cons (fun _ => List.cons_ne_nil _ _)]
      refine iff_of_false Bool.false_ne_true fun none => none ?_
      refine hasUnpaired_high isHigh fun low first => ?_
      obtain rfl := Option.some.inj (mem_head?_checked first)
      exact notLow
  | case5 code next rest notHigh isLow =>
      rw [checked_cons (fun _ => List.cons_ne_nil _ _)]
      exact iff_of_false Bool.false_ne_true fun none =>
        none (hasUnpaired_low isLow)
  | case6 code next rest notHigh notLow inductionHypothesis =>
      rw [inductionHypothesis, checked_cons (fun _ => List.cons_ne_nil _ _),
        hasUnpaired_other notHigh notLow]

/-! ## Bytes of the JSON form -/

theorem utf8Length_cons
    (notHigh : ¬ unit.IsHighSurrogate) :
    utf8Length (unit :: rest) = unitBytes unit + utf8Length rest := by
  cases rest with
  | nil => rfl
  | cons first others =>
      exact utf8Length_unpaired fun pair => notHigh pair.1

theorem utf8Length_append
    {front : JsString}
    (notHigh : ∀ unit ∈ front, ¬ unit.IsHighSurrogate) :
    utf8Length (front ++ rest) = utf8Length front + utf8Length rest := by
  induction front with
  | nil => simp [utf8Length]
  | cons first others inductionHypothesis =>
      rw [List.cons_append, utf8Length_cons (notHigh _ List.mem_cons_self),
        utf8Length_cons (notHigh _ List.mem_cons_self), Nat.add_assoc,
        inductionHypothesis fun unit member =>
          notHigh unit (List.mem_cons_of_mem _ member)]

/-- The bytes of the JSON form of one unit. -/
def escapeBytes (unit : CodeUnit) : Nat :=
  if (shortEscape unit).isSome then 2
  else if unit.val < 0x20 ∨ unit.IsSurrogate then 6
  else unitBytes unit

theorem utf8Length_escapeUnit_append
    (unit : CodeUnit)
    (rest : JsString) :
    utf8Length (escapeUnit unit ++ rest) =
      escapeBytes unit + utf8Length rest := by
  have plain : ∀ value < 16, (hexDigit value).val ≤ 0x7F := by decide
  have size := unit.isLt
  rw [escapeUnit, escapeBytes]
  cases short : shortEscape unit with
  | some letter =>
      have ascii : letter.val ≤ 0x7F := by
        have small : shortEscapes.all
            (fun entry => decide (entry.2.val ≤ 0x7F)) = true := by
          decide
        exact of_decide_eq_true
          (List.all_eq_true.mp small _ (shortEscape_mem short))
      rw [utf8Length_append (by simp [CodeUnit.IsHighSurrogate]; omega),
        utf8Length_of_ascii (by simp [ascii])]
      rfl
  | none =>
      by_cases escaped : unit.val < 0x20 ∨ unit.IsSurrogate
      · have ascii : ∀ part ∈ (0x5C :: 0x75 :: hexDigits unit : JsString),
            part.val ≤ 0x7F := by
          simp only [hexDigits, List.forall_mem_cons]
          exact ⟨by decide, by decide, plain _ (by omega), plain _ (by omega),
            plain _ (by omega), plain _ (by omega),
            List.forall_mem_nil _⟩
        simp only [escaped, if_true, Option.isSome_none, Bool.false_eq_true,
          if_false]
        rw [utf8Length_append fun part member high => by
            have small := ascii part member
            unfold CodeUnit.IsHighSurrogate at high
            omega,
          utf8Length_of_ascii ascii]
        rfl
      · have notHigh : ¬ unit.IsHighSurrogate := fun high =>
          escaped (.inr high.isSurrogate)
        simp only [escaped, if_false, Option.isSome_none, Bool.false_eq_true]
        exact utf8Length_cons notHigh

theorem escapeBytes_surrogate
    (surrogate : unit.IsSurrogate) :
    escapeBytes unit = 6 := by
  have long : shortEscape unit = none := by
    refine Option.eq_none_iff_forall_not_mem.mpr fun letter short => ?_
    have small : shortEscapes.all
        (fun entry => decide (entry.1.val ≤ 0x7F)) = true := by
      decide
    have ascii := of_decide_eq_true
      (List.all_eq_true.mp small _ (shortEscape_mem short))
    unfold CodeUnit.IsSurrogate at surrogate
    simp only at ascii
    omega
  rw [escapeBytes, long]
  exact if_pos (Or.inr surrogate)

theorem utf8Length_escape_unpaired
    (unpaired : ∀ low ∈ rest.head?, ¬ (unit.IsHighSurrogate ∧
      low.IsLowSurrogate)) :
    utf8Length (escape (unit :: rest)) =
      escapeBytes unit + utf8Length (escape rest) := by
  cases rest with
  | nil => simpa [escape] using utf8Length_escapeUnit_append unit []
  | cons first others =>
      rw [escape, if_neg (unpaired first rfl), utf8Length_escapeUnit_append]

theorem utf8Length_escape_pair
    (isHigh : high.IsHighSurrogate)
    (isLow : low.IsLowSurrogate) :
    utf8Length (escape (high :: low :: rest)) =
      4 + utf8Length (escape rest) := by
  rw [escape, if_pos ⟨isHigh, isLow⟩, utf8Length_pair ⟨isHigh, isLow⟩]

/-- What the count leaves out: half of the escape of a first half at the end. -/
def overlooked (text : JsString) : Nat :=
  if EndsHigh text then 3 else 0

@[simp] theorem overlooked_cons_cons :
    overlooked (unit :: next :: rest) = overlooked (next :: rest) := by
  simp [overlooked]

theorem overlooked_rest
    (notHigh : ¬ next.IsHighSurrogate) :
    overlooked (next :: rest) = overlooked rest := by
  simp [overlooked, endsHigh_rest notHigh]

theorem overlooked_le (value : JsString) :
    overlooked value ≤ utf8Length (escape value) := by
  fun_induction escape value with
  | case1 => simp [overlooked, EndsHigh]
  | case2 unit =>
      by_cases isHigh : unit.IsHighSurrogate
      · have bytes := utf8Length_escapeUnit_append unit []
        rw [List.append_nil, escapeBytes_surrogate isHigh.isSurrogate] at bytes
        rw [bytes, overlooked]
        split <;> omega
      · simp [overlooked, EndsHigh, isHigh]
  | case3 high low rest pair inductionHypothesis =>
      rw [overlooked_cons_cons, overlooked_rest pair.2.not_high,
        utf8Length_pair pair]
      omega
  | case4 high low rest unpaired inductionHypothesis =>
      rw [overlooked_cons_cons, utf8Length_escapeUnit_append]
      omega

/-! ## The count -/

theorem shortEscape_isSome_iff :
    (shortEscape unit).isSome = true ↔
      unit.val = 0x22 ∨ unit.val = 0x5C ∨ unit.val = 0x08 ∨ unit.val = 0x0C ∨
        unit.val = 0x0A ∨ unit.val = 0x0D ∨ unit.val = 0x09 := by
  rw [shortEscape, Option.isSome_map, List.find?_isSome]
  simp only [shortEscapes, List.mem_cons, List.not_mem_nil, or_false,
    exists_eq_or_imp, exists_eq_left, decide_eq_true_eq, Fin.ext_iff]
  omega

theorem isWellFormedUnicode_alone
    {following : Option CodeUnit}
    (surrogate : unit.IsSurrogate)
    (unpaired : ∀ low ∈ following, ¬ (unit.IsHighSurrogate ∧
      low.IsLowSurrogate))
    (goesOn : unit.IsHighSurrogate → following ≠ none) :
    isWellFormedUnicode (unit :: following.toList) = false := by
  by_cases isHigh : unit.IsHighSurrogate
  · cases following with
    | none => exact absurd rfl (goesOn isHigh)
    | some low =>
        have notLow : ¬ low.IsLowSurrogate := fun isLow =>
          unpaired low rfl ⟨isHigh, isLow⟩
        simp [isWellFormedUnicode, isHigh, notLow]
  · have isLow : unit.IsLowSurrogate := by
      unfold CodeUnit.IsSurrogate at surrogate
      unfold CodeUnit.IsHighSurrogate at isHigh
      unfold CodeUnit.IsLowSurrogate
      omega
    cases following <;> simp [isWellFormedUnicode, isHigh, isLow]

theorem jsonCharacterBytes_eq
    {following : Option CodeUnit}
    (unpaired : ∀ low ∈ following, ¬ (unit.IsHighSurrogate ∧
      low.IsLowSurrogate))
    (goesOn : unit.IsHighSurrogate → following ≠ none) :
    jsonCharacterBytes unit following = escapeBytes unit := by
  have alone : unit.IsSurrogate ∧
      isWellFormedUnicode (unit :: following.toList) = false ↔
        unit.IsSurrogate :=
    and_iff_left_of_imp fun surrogate =>
      isWellFormedUnicode_alone surrogate unpaired goesOn
  simp only [jsonCharacterBytes, escapeBytes, shortEscape_isSome_iff, alone,
    utf8CharacterBytes_unpaired unpaired]

theorem not_short_of_surrogate
    (surrogate : unit.IsSurrogate) :
    ¬ (unit.val = 0x22 ∨ unit.val = 0x5C ∨ unit.val = 0x08 ∨
      unit.val = 0x0C ∨ unit.val = 0x0A ∨ unit.val = 0x0D ∨
        unit.val = 0x09) ∧ ¬ unit.val < 0x20 := by
  unfold CodeUnit.IsSurrogate at surrogate
  omega

theorem jsonCharacterBytes_pair
    (isHigh : high.IsHighSurrogate)
    (isLow : low.IsLowSurrogate) :
    jsonCharacterBytes high (some low) = 4 := by
  have outside := not_short_of_surrogate isHigh.isSurrogate
  rw [jsonCharacterBytes, if_neg outside.1, if_neg,
    utf8CharacterBytes_pair ⟨isHigh, isLow⟩]
  simp [outside.2, isWellFormedUnicode, isHigh, isLow]

theorem jsonCharacterBytes_last
    (isHigh : high.IsHighSurrogate) :
    jsonCharacterBytes high none = 3 := by
  have outside := not_short_of_surrogate isHigh.isSurrogate
  have notLow : ¬ high.IsLowSurrogate := fun both => both.not_high isHigh
  rw [jsonCharacterBytes, if_neg outside.1, if_neg,
    utf8CharacterBytes_unpaired (by simp), unitBytes]
  · unfold CodeUnit.IsHighSurrogate at isHigh
    rw [if_neg (by omega), if_neg (by omega)]
  · simp [outside.2, isWellFormedUnicode, notLow]

/-- The walk counts all bytes but the overlooked ones, as far as they fit. -/
theorem jsonStringBytesFrom_eq
    {maximumBytes usedBytes total : Nat}
    {value : JsString}
    (room : usedBytes ≤ maximumBytes)
    (whole : total + overlooked value =
      usedBytes + utf8Length (escape value)) :
    jsonStringBytesFrom maximumBytes usedBytes value =
      if total ≤ maximumBytes then total else maximumBytes + 1 := by
  induction size : value.length using Nat.strong_induction_on
    generalizing value usedBytes with
  | _ size inductionHypothesis =>
  rcases value with _ | ⟨code, _ | ⟨next, rest⟩⟩
  · have same : total = usedBytes := by
      simpa [overlooked, EndsHigh, escape, utf8Length] using whole
    rw [jsonStringBytesFrom, same, if_pos room]
  · have used : usedBytes + jsonCharacterBytes code none = total := by
      by_cases isHigh : code.IsHighSurrogate
      · rw [overlooked, if_pos ⟨code, rfl, isHigh⟩,
          utf8Length_escape_unpaired (by simp),
          escapeBytes_surrogate isHigh.isSurrogate, escape, utf8Length] at whole
        rw [jsonCharacterBytes_last isHigh]
        omega
      · rw [overlooked_rest isHigh, utf8Length_escape_unpaired (by simp)]
          at whole
        rw [jsonCharacterBytes_eq (by simp) (absurd · isHigh)]
        simp [overlooked, EndsHigh, escape, utf8Length] at whole
        omega
    rw [jsonStringBytesFrom, used]
    split
    · rw [if_neg (by omega)]
    · rw [if_pos (by omega)]
  · subst size
    by_cases pair : code.IsHighSurrogate ∧ next.IsLowSurrogate
    · rw [overlooked_cons_cons, overlooked_rest pair.2.not_high,
        utf8Length_escape_pair pair.1 pair.2] at whole
      have least := overlooked_le rest
      rw [jsonStringBytesFrom, jsonCharacterBytes_pair pair.1 pair.2]
      by_cases tooLong : maximumBytes < usedBytes + 4
      · rw [if_pos tooLong, if_neg (by omega)]
      · rw [if_neg tooLong, if_pos rfl,
          inductionHypothesis rest.length
            (by simp only [List.length_cons]; omega) (by omega) (by omega)
            rfl]
    · rw [overlooked_cons_cons,
        utf8Length_escape_unpaired (by simpa using pair)] at whole
      have least := overlooked_le (next :: rest)
      have bytes : jsonCharacterBytes code (some next) = escapeBytes code :=
        jsonCharacterBytes_eq (by simpa using pair)
          fun _ => Option.some_ne_none next
      have notFour : escapeBytes code ≠ 4 := by
        have bounds := unitBytes_bounds code
        unfold escapeBytes
        split
        · omega
        · split <;> omega
      rw [jsonStringBytesFrom, bytes]
      by_cases tooLong : maximumBytes < usedBytes + escapeBytes code
      · rw [if_pos tooLong, if_neg (by omega)]
      · rw [if_neg tooLong, if_neg notFour,
          inductionHypothesis (next :: rest).length (by simp) (by omega)
            (by omega) rfl]

/-! ## Exact sizes -/

theorem utf8Length_quote (value : JsString) :
    utf8Length (quote value) = utf8Length (escape value) + 2 := by
  rw [quote, utf8Length_cons (by decide), utf8Length_concat (by decide)]
  have bytes : unitBytes 0x22 = 1 := rfl
  omega

theorem jsonStringBytesAtMost_eq
    {total maximumBytes : Nat}
    {value : JsString}
    (whole : total + overlooked value = utf8Length (quote value)) :
    jsonStringBytesAtMost value maximumBytes =
      if total ≤ maximumBytes then total else maximumBytes + 1 := by
  have least := overlooked_le value
  rw [utf8Length_quote] at whole
  unfold jsonStringBytesAtMost
  split
  · rw [if_neg (by omega)]
  · exact jsonStringBytesFrom_eq (by omega) (by omega)

theorem hasUnpaired_of_endsHigh
    {previous : Option CodeUnit}
    {text : JsString}
    (ends : EndsHigh text) :
    HasUnpaired previous text := by
  induction text generalizing previous with
  | nil => simp [EndsHigh] at ends
  | cons first others inductionHypothesis =>
      cases others with
      | nil =>
          obtain ⟨high, last, isHigh⟩ := ends
          obtain rfl := Option.some.inj last
          exact Or.inl (Or.inl ⟨isHigh, nofun⟩)
      | cons second rest =>
          exact Or.inr (inductionHypothesis (endsHigh_cons_cons.mp ends))

/--
A text is told apart as well formed or not, and the bytes of its JSON form are
counted exactly up to a maximum and found to be more than it above.
-/
def SizedExactly (value : JsString) (maximumBytes : Nat) : Prop :=
  (isWellFormedUnicode value = true ↔ ¬ HasUnpaired none value) ∧
    if utf8Length (quote value) ≤ maximumBytes then
      jsonStringBytesAtMost value maximumBytes = utf8Length (quote value)
    else
      maximumBytes < jsonStringBytesAtMost value maximumBytes

/--
Sizes are exact unless the text ends in the first half of a pair, and then only
if another surrogate is unpaired and the count, three bytes short, still passes
the maximum.
-/
theorem sizedExactly_iff
    (value : JsString)
    (maximumBytes : Nat) :
    SizedExactly value maximumBytes ↔
      ¬ EndsHigh value ∨
        (HasUnpaired none value.dropLast ∧
          maximumBytes + 3 < utf8Length (quote value)) := by
  have least := overlooked_le value
  have quoted := utf8Length_quote value
  obtain ⟨total, whole⟩ : ∃ total,
      total + overlooked value = utf8Length (quote value) :=
    ⟨_, Nat.sub_add_cancel (by omega)⟩
  rw [SizedExactly, isWellFormedUnicode_iff, jsonStringBytesAtMost_eq whole]
  by_cases ends : EndsHigh value
  · have wellFormed : (¬ HasUnpaired none (checked value) ↔
        ¬ HasUnpaired none value) ↔ HasUnpaired none value.dropLast := by
      rw [checked, if_pos ends]
      simp [@hasUnpaired_of_endsHigh none _ ends]
    rw [wellFormed]
    rw [overlooked, if_pos ends] at whole
    refine (and_congr_right fun _ => ?_).trans
      (or_iff_right (not_not.mpr ends)).symm
    split
    · rw [if_pos (by omega)]
      omega
    · split <;> omega
  · have same : checked value = value := if_neg ends
    rw [overlooked, if_neg ends, Nat.add_zero] at whole
    refine iff_of_true ⟨by rw [same], ?_⟩ (Or.inl ends)
    rw [whole]
    split <;> omega

/-- A first half alone passes as well formed, and counts three bytes short. -/
theorem danglingHigh_overlooked :
    ¬ SizedExactly [0xD83D] 100 :=
  fun exact => exact.1.mp (by decide +kernel)
    (hasUnpaired_of_endsHigh ⟨_, rfl, by decide +kernel⟩)

end Selene.Agent
