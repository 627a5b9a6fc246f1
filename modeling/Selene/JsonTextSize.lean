import Selene.JsonText
import Mathlib.Data.Nat.Notation

/-!
# Sizes of canonical JSON texts

Escaping a string makes it longer only where it contains a quote, a backslash,
a control unit or a surrogate.  The text of a document built from plain strings
contains none of these but the quotes of its own strings, so when that text is
quoted again it grows by exactly two units for every string in it.

The lower bound `four_mul_textCount_le` says that a text cannot be made of
quotes only; it turns a cap on the text into a cap on its escaped form.
-/

namespace Js

namespace CodeUnit

/-- A unit `escape` copies or prefixes with a backslash. -/
def IsPrintable (unit : CodeUnit) : Prop :=
  0x20 ≤ unit.val ∧ ¬ unit.IsSurrogate

/-- A unit `escape` prefixes with a backslash although it is printable. -/
def IsSpecial (unit : CodeUnit) : Prop :=
  unit = 0x22 ∨ unit = 0x5C

/-- A unit `escape` copies. -/
def IsPlain (unit : CodeUnit) : Prop :=
  unit.IsPrintable ∧ ¬ unit.IsSpecial

instance (unit : CodeUnit) : Decidable unit.IsPrintable :=
  inferInstanceAs (Decidable (_ ∧ _))

instance (unit : CodeUnit) : Decidable unit.IsSpecial :=
  inferInstanceAs (Decidable (_ ∨ _))

instance (unit : CodeUnit) : Decidable unit.IsPlain :=
  inferInstanceAs (Decidable (_ ∧ _))

theorem IsNumeric.isPlain
    {unit : CodeUnit}
    (numeric : unit.IsNumeric) :
    unit.IsPlain := by
  rcases numeric with digit | rfl | rfl | rfl | rfl | rfl
  · refine ⟨⟨by omega, ?_⟩, ?_⟩
    · unfold IsSurrogate
      omega
    · rintro (rfl | rfl)
      · exact absurd digit (by decide)
      · exact absurd digit (by decide)
  all_goals decide

end CodeUnit

/-- A string every unit of which is copied by `escape`. -/
def PlainText (text : JsString) : Prop :=
  ∀ unit ∈ text, unit.IsPlain

-- The bounded quantifier is decided along the string, not over all units.
instance (text : JsString) : Decidable (PlainText text) :=
  List.decidableBAll _ text

/-- Quotes and backslashes in a string. -/
def specialCount (text : JsString) : Nat :=
  text.countP fun unit => unit.IsSpecial

@[simp] theorem specialCount_nil : specialCount [] = 0 :=
  rfl

@[simp] theorem specialCount_append
    (first second : JsString) :
    specialCount (first ++ second) =
      specialCount first + specialCount second :=
  List.countP_append

@[simp] theorem specialCount_cons
    (unit : CodeUnit)
    (rest : JsString) :
    specialCount (unit :: rest) =
      specialCount rest + if unit.IsSpecial then 1 else 0 := by
  simp [specialCount, List.countP_cons]

variable {text : JsString}

theorem PlainText.specialCount
    (plain : PlainText text) :
    specialCount text = 0 := by
  apply List.countP_eq_zero.mpr
  intro unit member
  simpa using (plain unit member).2

variable {unit : CodeUnit}

private theorem shortEscape_of_plain
    (plain : unit.IsPlain) :
    shortEscape unit = none := by
  have printable : ∀ entry ∈ shortEscapes, ¬ entry.1.IsPlain := by
    simp [shortEscapes, CodeUnit.IsPlain, CodeUnit.IsPrintable,
      CodeUnit.IsSpecial]
  unfold shortEscape
  rw [Option.map_eq_none_iff, List.find?_eq_none]
  intro entry member same
  exact printable entry member (of_decide_eq_true same ▸ plain)

theorem escapeUnit_of_plain
    (plain : unit.IsPlain) :
    escapeUnit unit = [unit] := by
  unfold escapeUnit
  rw [shortEscape_of_plain plain]
  have notEscaped : ¬ (unit.val < 0x20 ∨ unit.IsSurrogate) := by
    rintro (control | surrogate)
    · exact absurd plain.1.1 (by omega)
    · exact plain.1.2 surrogate
  simp only [notEscaped, ↓reduceIte]

private theorem length_escapeUnit
    (printable : unit.IsPrintable) :
    (escapeUnit unit).length =
      1 + if unit.IsSpecial then 1 else 0 := by
  by_cases special : unit.IsSpecial
  · rcases special with rfl | rfl <;> decide
  · rw [escapeUnit_of_plain ⟨printable, special⟩]
    simp [special]

theorem escape_eq_flatMap
    (noSurrogates : ∀ unit ∈ text, ¬ unit.IsSurrogate) :
    escape text = text.flatMap escapeUnit := by
  fun_induction escape text with
  | case1 => rfl
  | case2 unit => simp
  | case3 high low rest pair inductionHypothesis =>
      exact (noSurrogates high (by simp) pair.1.isSurrogate).elim
  | case4 high low rest notPair inductionHypothesis =>
      rw [List.flatMap_cons,
        inductionHypothesis fun unit member =>
          noSurrogates unit (List.mem_cons_of_mem _ member)]

theorem PlainText.escape
    (plain : PlainText text) :
    escape text = text := by
  rw [escape_eq_flatMap fun unit member => (plain unit member).1.2]
  induction text with
  | nil => rfl
  | cons unit rest inductionHypothesis =>
      rw [List.flatMap_cons, escapeUnit_of_plain (plain unit (by simp)),
        inductionHypothesis fun unit member =>
          plain unit (List.mem_cons_of_mem _ member)]
      rfl

theorem length_escape
    (printable : ∀ unit ∈ text, unit.IsPrintable) :
    (escape text).length = text.length + specialCount text := by
  rw [escape_eq_flatMap fun unit member => (printable unit member).2]
  induction text with
  | nil => rfl
  | cons unit rest inductionHypothesis =>
      rw [List.flatMap_cons, List.length_append,
        length_escapeUnit (printable unit (by simp)),
        inductionHypothesis fun unit member =>
          printable unit (List.mem_cons_of_mem _ member),
        List.length_cons, specialCount_cons]
      omega

theorem length_le_length_escape
    (text : JsString) :
    text.length ≤ (escape text).length := by
  fun_induction escape text with
  | case1 => simp
  | case2 unit =>
      unfold escapeUnit
      split <;> [skip; split] <;> simp
  | case3 high low rest pair inductionHypothesis =>
      simp only [List.length_cons]
      omega
  | case4 high low rest notPair inductionHypothesis =>
      have first : 1 ≤ (escapeUnit high).length := by
        unfold escapeUnit
        split <;> [skip; split] <;> simp
      simp only [List.length_append, List.length_cons] at inductionHypothesis ⊢
      omega

@[simp] theorem length_quote
    (text : JsString) :
    (quote text).length = (escape text).length + 2 := by
  simp [quote]

theorem PlainText.quote
    (plain : PlainText text) :
    quote text = 0x22 :: (text ++ [0x22]) := by
  rw [Js.quote, plain.escape]

namespace Json

mutual

/-- Every string of the document is plain. -/
def Plain : Json ν → Prop
  | .text value => PlainText value
  | .array items => PlainItems items
  | .object entries => PlainEntries entries
  | _ => True

/-- Every string of the items is plain. -/
def PlainItems : List (Json ν) → Prop
  | [] => True
  | item :: rest => Plain item ∧ PlainItems rest

/-- Every key and every string of the values is plain. -/
def PlainEntries : List (JsString × Json ν) → Prop
  | [] => True
  | (key, value) :: rest =>
      PlainText key ∧ Plain value ∧ PlainEntries rest

end

mutual

/-- Number of strings of a document, keys included. -/
def textCount : Json ν → Nat
  | .text _ => 1
  | .array items => textCountItems items
  | .object entries => textCountEntries entries
  | _ => 0

/-- Number of strings of the items. -/
def textCountItems : List (Json ν) → Nat
  | [] => 0
  | item :: rest => textCount item + textCountItems rest

/-- Number of strings of the entries, keys included. -/
def textCountEntries : List (JsString × Json ν) → Nat
  | [] => 0
  | (_, value) :: rest => 1 + textCount value + textCountEntries rest

end

mutual

/-- No string of the document is empty. -/
def NonemptyTexts : Json ν → Prop
  | .text value => value ≠ []
  | .array items => NonemptyTextsItems items
  | .object entries => NonemptyTextsEntries entries
  | _ => True

/-- No string of the items is empty. -/
def NonemptyTextsItems : List (Json ν) → Prop
  | [] => True
  | item :: rest => NonemptyTexts item ∧ NonemptyTextsItems rest

/-- No key and no string of the values is empty. -/
def NonemptyTextsEntries : List (JsString × Json ν) → Prop
  | [] => True
  | (key, value) :: rest =>
      key ≠ [] ∧ NonemptyTexts value ∧ NonemptyTextsEntries rest

end

theorem plainItems_iff
    {items : List (Json ν)} :
    PlainItems items ↔ ∀ item ∈ items, item.Plain := by
  induction items with
  | nil => simp [PlainItems]
  | cons item rest inductionHypothesis =>
      simp [PlainItems, inductionHypothesis]

theorem nonemptyTextsItems_iff
    {items : List (Json ν)} :
    NonemptyTextsItems items ↔ ∀ item ∈ items, item.NonemptyTexts := by
  induction items with
  | nil => simp [NonemptyTextsItems]
  | cons item rest inductionHypothesis =>
      simp [NonemptyTextsItems, inductionHypothesis]

theorem plain_render
    (numbers : NumberText ν)
    (value : ν) :
    PlainText (numbers.render value) :=
  fun unit member => (numbers.numeric value unit member).isPlain

private theorem printable_quote
    {text : JsString}
    (plain : PlainText text) :
    ∀ unit ∈ quote text, unit.IsPrintable := by
  rw [plain.quote]
  intro unit member
  simp only [List.mem_cons, List.mem_append, List.not_mem_nil,
    or_false] at member
  rcases member with rfl | inside | rfl
  · decide
  · exact (plain unit inside).1
  · decide

mutual

theorem printable_stringify (numbers : NumberText ν) :
    ∀ (document : Json ν), document.Plain →
      ∀ unit ∈ stringify numbers document, unit.IsPrintable
  | .null, _ => fun unit member =>
      (show PlainText (js "null") by decide) unit member |>.1
  | .bool true, _ => fun unit member =>
      (show PlainText (js "true") by decide) unit member |>.1
  | .bool false, _ => fun unit member =>
      (show PlainText (js "false") by decide) unit member |>.1
  | .number value, _ => fun unit member =>
      (plain_render numbers value unit member).1
  | .text value, plain => by
      simp only [Plain] at plain
      simpa only [stringify] using printable_quote plain
  | .array items, plain => by
      simp only [Plain] at plain
      simp only [stringify, List.mem_cons]
      rintro unit (rfl | member)
      · decide
      · exact printable_stringifyItems numbers true items plain unit member
  | .object entries, plain => by
      simp only [Plain] at plain
      simp only [stringify, List.mem_cons]
      rintro unit (rfl | member)
      · decide
      · exact printable_stringifyEntries numbers true entries plain
          unit member

theorem printable_stringifyItems (numbers : NumberText ν) (lead : Bool) :
    ∀ (items : List (Json ν)), PlainItems items →
      ∀ unit ∈ stringifyItems numbers lead items, unit.IsPrintable
  | [], _ => by
      simp only [stringifyItems, List.mem_singleton]
      rintro unit rfl
      decide
  | item :: rest, plain => by
      simp only [PlainItems] at plain
      simp only [stringifyItems, List.mem_append]
      rintro unit (comma | inItem | inRest)
      · cases lead <;> simp at comma
        subst comma
        decide
      · exact printable_stringify numbers item plain.1 unit inItem
      · exact printable_stringifyItems numbers false rest plain.2 unit inRest

theorem printable_stringifyEntries (numbers : NumberText ν) (lead : Bool) :
    ∀ (entries : List (JsString × Json ν)), PlainEntries entries →
      ∀ unit ∈ stringifyEntries numbers lead entries, unit.IsPrintable
  | [], _ => by
      simp only [stringifyEntries, List.mem_singleton]
      rintro unit rfl
      decide
  | (key, value) :: rest, plain => by
      simp only [PlainEntries] at plain
      simp only [stringifyEntries, List.mem_append, List.mem_cons]
      rintro unit (comma | inKey | rfl | inValue | inRest)
      · cases lead <;> simp at comma
        subst comma
        decide
      · exact printable_quote plain.1 unit inKey
      · decide
      · exact printable_stringify numbers value plain.2.1 unit inValue
      · exact printable_stringifyEntries numbers false rest plain.2.2
          unit inRest

end

private theorem specialCount_quote
    {text : JsString}
    (plain : PlainText text) :
    specialCount (quote text) = 2 := by
  rw [plain.quote]
  simp [plain.specialCount, CodeUnit.IsSpecial]

mutual

/-- The special units of a document's text are the quotes of its strings. -/
theorem specialCount_stringify (numbers : NumberText ν) :
    ∀ (document : Json ν), document.Plain →
      specialCount (stringify numbers document) = 2 * document.textCount
  | .null, _ => by
      simp only [stringify, textCount]
      decide
  | .bool true, _ => by
      simp only [stringify, textCount]
      decide
  | .bool false, _ => by
      simp only [stringify, textCount]
      decide
  | .number value, _ => by
      simp only [stringify, textCount,
        (plain_render numbers value).specialCount]
  | .text value, plain => by
      simp only [Plain] at plain
      simp only [stringify, textCount, specialCount_quote plain]
  | .array items, plain => by
      simp only [Plain] at plain
      simp only [stringify, textCount, specialCount_cons,
        specialCount_stringifyItems numbers true items plain]
      simp [CodeUnit.IsSpecial]
  | .object entries, plain => by
      simp only [Plain] at plain
      simp only [stringify, textCount, specialCount_cons,
        specialCount_stringifyEntries numbers true entries plain]
      simp [CodeUnit.IsSpecial]

theorem specialCount_stringifyItems (numbers : NumberText ν) (lead : Bool) :
    ∀ (items : List (Json ν)), PlainItems items →
      specialCount (stringifyItems numbers lead items) =
        2 * textCountItems items
  | [], _ => by
      simp [stringifyItems, textCountItems, CodeUnit.IsSpecial]
  | item :: rest, plain => by
      simp only [PlainItems] at plain
      simp only [stringifyItems, textCountItems, specialCount_append,
        specialCount_stringify numbers item plain.1,
        specialCount_stringifyItems numbers false rest plain.2]
      cases lead <;> simp [CodeUnit.IsSpecial] <;> omega

theorem specialCount_stringifyEntries (numbers : NumberText ν) (lead : Bool) :
    ∀ (entries : List (JsString × Json ν)), PlainEntries entries →
      specialCount (stringifyEntries numbers lead entries) =
        2 * textCountEntries entries
  | [], _ => by
      simp [stringifyEntries, textCountEntries, CodeUnit.IsSpecial]
  | (key, value) :: rest, plain => by
      simp only [PlainEntries] at plain
      simp only [stringifyEntries, textCountEntries, specialCount_append,
        specialCount_cons, specialCount_quote plain.1,
        specialCount_stringify numbers value plain.2.1,
        specialCount_stringifyEntries numbers false rest plain.2.2]
      cases lead <;> simp [CodeUnit.IsSpecial] <;> omega

end

theorem length_escape_stringify
    (numbers : NumberText ν)
    {document : Json ν}
    (plain : document.Plain) :
    (escape (stringify numbers document)).length =
      (stringify numbers document).length + 2 * document.textCount := by
  rw [length_escape (printable_stringify numbers document plain),
    specialCount_stringify numbers document plain]

private theorem three_le_length_quote
    {text : JsString}
    (nonempty : text ≠ []) :
    3 ≤ (quote text).length := by
  have positive := List.length_pos_iff.mpr nonempty
  have grows := length_le_length_escape text
  rw [length_quote]
  omega

mutual

/-- Every nonempty string of a document takes four units of its text. -/
theorem four_mul_textCount_le (numbers : NumberText ν) :
    ∀ (document : Json ν), document.NonemptyTexts →
      4 * document.textCount ≤ (stringify numbers document).length + 1
  | .null, _ => by simp [textCount]
  | .bool _, _ => by simp [textCount]
  | .number _, _ => by simp [textCount]
  | .text value, nonempty => by
      simp only [NonemptyTexts] at nonempty
      have quoted := three_le_length_quote nonempty
      simp only [textCount, stringify]
      omega
  | .array items, nonempty => by
      simp only [NonemptyTexts] at nonempty
      have inside :=
        four_mul_textCountItems_le numbers true items nonempty
      simp only [textCount, stringify, List.length_cons]
      simp only [↓reduceIte] at inside
      omega
  | .object entries, nonempty => by
      simp only [NonemptyTexts] at nonempty
      have inside :=
        four_mul_textCountEntries_le numbers true entries nonempty
      simp only [textCount, stringify, List.length_cons]
      simp only [↓reduceIte] at inside
      omega

theorem four_mul_textCountItems_le (numbers : NumberText ν) (lead : Bool) :
    ∀ (items : List (Json ν)), NonemptyTextsItems items →
      4 * textCountItems items + (if lead then 0 else 1) ≤
        (stringifyItems numbers lead items).length
  | [], _ => by
      cases lead <;> simp [textCountItems, stringifyItems]
  | item :: rest, nonempty => by
      simp only [NonemptyTextsItems] at nonempty
      have first := four_mul_textCount_le numbers item nonempty.1
      have others :=
        four_mul_textCountItems_le numbers false rest nonempty.2
      simp only [textCountItems, stringifyItems, List.length_append]
      cases lead <;> simp at others ⊢ <;> omega

theorem four_mul_textCountEntries_le (numbers : NumberText ν) (lead : Bool) :
    ∀ (entries : List (JsString × Json ν)), NonemptyTextsEntries entries →
      4 * textCountEntries entries + (if lead then 0 else 1) ≤
        (stringifyEntries numbers lead entries).length
  | [], _ => by
      cases lead <;> simp [textCountEntries, stringifyEntries]
  | (key, value) :: rest, nonempty => by
      simp only [NonemptyTextsEntries] at nonempty
      have quoted := three_le_length_quote nonempty.1
      have first := four_mul_textCount_le numbers value nonempty.2.1
      have others :=
        four_mul_textCountEntries_le numbers false rest nonempty.2.2
      simp only [textCountEntries, stringifyEntries, List.length_append,
        List.length_cons]
      cases lead <;> simp at others quoted ⊢ <;> omega

end

section

variable (numbers : NumberText ν)

theorem length_escape_stringify_le
    {document : Json ν}
    (plain : document.Plain)
    (nonempty : document.NonemptyTexts) :
    2 * (escape (stringify numbers document)).length ≤
      3 * (stringify numbers document).length + 1 := by
  have count := four_mul_textCount_le numbers document nonempty
  rw [length_escape_stringify numbers plain]
  omega

/-! ## Lengths of arrays -/

@[simp] theorem length_stringify_text
    (value : JsString) :
    (stringify numbers (.text value)).length = (escape value).length + 2 := by
  simp only [stringify, length_quote]

@[simp] theorem length_stringify_array
    (items : List (Json ν)) :
    (stringify numbers (.array items)).length =
      (stringifyItems numbers true items).length + 1 := by
  simp only [stringify, List.length_cons]

@[simp] theorem length_stringifyItems_nil
    (first : Bool) :
    (stringifyItems numbers first []).length = 1 := by
  simp only [stringifyItems, List.length_singleton]

@[simp] theorem length_stringifyItems_cons
    (first : Bool)
    (item : Json ν)
    (rest : List (Json ν)) :
    (stringifyItems numbers first (item :: rest)).length =
      (if first then 0 else 1) +
        ((stringify numbers item).length +
          (stringifyItems numbers false rest).length) := by
  cases first
  · simp only [stringifyItems, Bool.false_eq_true, ↓reduceIte,
      List.length_append, List.length_singleton]
  · simp only [stringifyItems, ↓reduceIte, List.nil_append,
      List.length_append, Nat.zero_add]

variable {items : List (Json ν)}

theorem length_le_length_stringify_array
    {item : Json ν}
    (member : item ∈ items) :
    (stringify numbers item).length <
      (stringify numbers (.array items)).length := by
  have within :
      ∀ (others : List (Json ν)) (lead : Bool), item ∈ others →
        (stringify numbers item).length ≤
          (stringifyItems numbers lead others).length := by
    intro others
    induction others with
    | nil => simp
    | cons other rest inductionHypothesis =>
        intro lead inOthers
        rw [length_stringifyItems_cons]
        rcases List.mem_cons.mp inOthers with rfl | inRest
        · omega
        · have shorter := inductionHypothesis false inRest
          omega
  rw [length_stringify_array]
  exact Nat.lt_succ_of_le (within items true member)

theorem sum_le_length_stringifyItems
    {α : Type}
    {encode : α → Json ν}
    {measure : α → Nat}
    {items : List α}
    (bounded : ∀ item ∈ items,
      measure item ≤ (stringify numbers (encode item)).length) :
    (items.map measure).sum + items.length ≤
      (stringifyItems numbers true (items.map encode)).length := by
  have following :
      ∀ others : List α,
        (∀ item ∈ others,
          measure item ≤ (stringify numbers (encode item)).length) →
        (others.map measure).sum + others.length + 1 ≤
          (stringifyItems numbers false (others.map encode)).length := by
    intro others
    induction others with
    | nil => simp
    | cons item rest inductionHypothesis =>
        intro boundedRest
        have first := boundedRest item (by simp)
        have rest := inductionHypothesis fun item member =>
          boundedRest item (List.mem_cons_of_mem _ member)
        simp only [List.map_cons, List.sum_cons, List.length_cons,
          length_stringifyItems_cons, Bool.false_eq_true, ↓reduceIte]
        omega
  cases items with
  | nil => simp
  | cons item rest =>
      have first := bounded item (by simp)
      have others := following rest fun item member =>
        bounded item (List.mem_cons_of_mem _ member)
      simp only [List.map_cons, List.sum_cons, List.length_cons,
        length_stringifyItems_cons, ↓reduceIte]
      omega

theorem sum_lt_length_stringify_array
    {chosen : List (Json ν)}
    (inside : chosen.Sublist items) :
    (chosen.map fun item => (stringify numbers item).length).sum <
      (stringify numbers (.array items)).length := by
  have listed :
      ∀ lead : Bool,
        (chosen.map fun item => (stringify numbers item).length).sum <
          (stringifyItems numbers lead items).length := by
    induction inside with
    | slnil => simp
    | cons item _ inductionHypothesis =>
        intro lead
        have rest := inductionHypothesis false
        rw [length_stringifyItems_cons]
        omega
    | cons_cons item _ inductionHypothesis =>
        intro lead
        have rest := inductionHypothesis false
        rw [length_stringifyItems_cons, List.map_cons, List.sum_cons]
        omega
  have whole := listed true
  rw [length_stringify_array]
  omega

theorem length_stringify_array_le
    {bounds : List Nat}
    (bounded :
      List.Forall₂ (fun item bound => (stringify numbers item).length ≤ bound)
        items bounds) :
    (stringify numbers (.array items)).length ≤
      bounds.sum + bounds.length + 2 := by
  have listed :
      ∀ lead : Bool,
        (stringifyItems numbers lead items).length ≤
          bounds.sum + bounds.length + 1 := by
    induction bounded with
    | nil => simp
    | cons first _ inductionHypothesis =>
        intro lead
        have rest := inductionHypothesis false
        simp only [length_stringifyItems_cons, List.sum_cons,
          List.length_cons]
        split <;> omega
  have inside := listed true
  rw [length_stringify_array]
  omega

theorem length_stringify_array_mono
    {others : List (Json ν)}
    (shorter :
      List.Forall₂
        (fun item other =>
          (stringify numbers item).length ≤ (stringify numbers other).length)
        items others) :
    (stringify numbers (.array items)).length ≤
      (stringify numbers (.array others)).length := by
  have listed :
      ∀ lead : Bool,
        (stringifyItems numbers lead items).length ≤
          (stringifyItems numbers lead others).length := by
    induction shorter with
    | nil => simp
    | cons first _ inductionHypothesis =>
        intro lead
        have rest := inductionHypothesis false
        simp only [length_stringifyItems_cons]
        omega
  have inside := listed true
  simp only [length_stringify_array]
  omega

theorem length_stringify_plain
    {value : JsString}
    (plain : PlainText value) :
    (stringify numbers (.text value)).length = value.length + 2 := by
  rw [length_stringify_text, plain.escape]

end

end Json

/-! ## Decimal numbers -/

/-- The decimal digits of a natural number. -/
def decimalDigits (value : Nat) : JsString :=
  (Nat.toDigits 10 value).flatMap scalarUnits

private theorem scalarUnits_digit
    {digit : Char}
    (isDigit : digit.isDigit = true) :
    ∃ unit : CodeUnit,
      scalarUnits digit = [unit] ∧
        0x30 ≤ unit.val ∧ unit.val ≤ 0x39 := by
  have range : 48 ≤ digit.toNat ∧ digit.toNat ≤ 57 := by
    simpa [Char.isDigit, UInt32.le_iff_toNat_le] using isDigit
  refine ⟨Fin.ofNat 65536 digit.toNat, ?_, ?_⟩
  · unfold scalarUnits
    rw [if_pos (by omega)]
  · simp only [Fin.val_ofNat]
    omega

private theorem flatMap_scalarUnits_digits
    {digits : List Char}
    (allDigits : ∀ digit ∈ digits, digit.isDigit = true) :
    (digits.flatMap scalarUnits).length = digits.length ∧
      ∀ unit ∈ digits.flatMap scalarUnits,
        0x30 ≤ unit.val ∧ unit.val ≤ 0x39 := by
  induction digits with
  | nil => simp
  | cons digit rest inductionHypothesis =>
      obtain ⟨unit, shape, isDigit⟩ :=
        scalarUnits_digit (allDigits digit (by simp))
      obtain ⟨restLength, restDigits⟩ :=
        inductionHypothesis fun digit member =>
          allDigits digit (List.mem_cons_of_mem _ member)
      rw [List.flatMap_cons, shape]
      refine ⟨by simp [restLength], ?_⟩
      intro other member
      rcases List.mem_append.mp member with head | tail
      · rw [List.mem_singleton.mp head]
        exact isDigit
      · exact restDigits other tail

private theorem toDigits_isDigit
    (value : Nat) :
    ∀ digit ∈ Nat.toDigits 10 value, digit.isDigit = true :=
  fun _ member => Nat.isDigit_of_mem_toDigits (by decide) (by decide) member

theorem length_decimalDigits
    (value : Nat) :
    (decimalDigits value).length = (Nat.toDigits 10 value).length :=
  (flatMap_scalarUnits_digits (toDigits_isDigit value)).1

theorem digit_of_mem_decimalDigits
    {value : Nat}
    {unit : CodeUnit}
    (member : unit ∈ decimalDigits value) :
    0x30 ≤ unit.val ∧ unit.val ≤ 0x39 :=
  (flatMap_scalarUnits_digits (toDigits_isDigit value)).2 unit member

/-- Natural numbers in decimal, without leading zeros. -/
def decimal : NumberText Nat where
  render := decimalDigits
  nonempty value := by
    rw [← List.length_pos_iff, length_decimalDigits]
    exact Nat.length_toDigits_pos
  numeric _ _ member := .inl (digit_of_mem_decimalDigits member)
  injective := by
    intro first second same
    have sameLiteral :
        js (String.ofList (Nat.toDigits 10 first)) =
          js (String.ofList (Nat.toDigits 10 second)) := by
      simpa [js, decimalDigits] using same
    have sameDigits :
        Nat.toDigits 10 first = Nat.toDigits 10 second :=
      String.ofList_injective (js_injective sameLiteral)
    calc
      first = Nat.ofDigitChars 10 (Nat.toDigits 10 first) 0 :=
        Nat.ofDigitChars_ten_toDigits.symm
      _ = Nat.ofDigitChars 10 (Nat.toDigits 10 second) 0 := by
        rw [sameDigits]
      _ = second :=
        Nat.ofDigitChars_ten_toDigits

theorem length_stringify_number_le
    {value digits : Nat}
    (positive : 0 < digits)
    (bounded : value < 10 ^ digits) :
    (Json.stringify decimal (.number value)).length ≤ digits := by
  simp only [Json.stringify, decimal, length_decimalDigits]
  exact (Nat.length_toDigits_le_iff (by decide) positive).mpr bounded

end Js
