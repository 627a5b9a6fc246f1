import Selene.JsText

/-!
# JSON documents and their canonical text

`Json ν` is plain JSON data whose numbers are taken from `ν`; how a number is
written is the parameter `NumberText ν`.  `Json.stringify` is the text
`JSON.stringify` produces for such data: no white space, entries in insertion
order, well-formed escaping of strings.

The text determines the document.  This is stated with an arbitrary
continuation (`stringify_append_inj`), because the texts of the items of an
array are delimited only by what follows them.
-/

namespace Js

/-- Plain JSON data with numbers in `ν`. -/
inductive Json (ν : Type) where
  | null
  | bool (value : Bool)
  | number (value : ν)
  | text (value : JsString)
  | array (items : List (Json ν))
  | object (entries : List (JsString × Json ν))

/-- The code units a JSON number can be written with. -/
def CodeUnit.IsNumeric (unit : CodeUnit) : Prop :=
  (0x30 ≤ unit.val ∧ unit.val ≤ 0x39) ∨
    unit = 0x2B ∨ unit = 0x2D ∨ unit = 0x2E ∨
    unit = 0x45 ∨ unit = 0x65

instance (unit : CodeUnit) : Decidable unit.IsNumeric := by
  unfold CodeUnit.IsNumeric
  infer_instance

/-- How the numbers of a document are written. -/
structure NumberText (ν : Type) where
  render : ν → JsString
  nonempty : ∀ number, render number ≠ []
  numeric : ∀ number, ∀ unit ∈ render number, unit.IsNumeric
  injective : Function.Injective render

/-! ## Quoted strings -/

/-- The two-character escapes: the escaped unit and the letter written for it. -/
def shortEscapes : List (CodeUnit × CodeUnit) :=
  [(0x22, 0x22), (0x5C, 0x5C), (0x08, 0x62), (0x09, 0x74),
    (0x0A, 0x6E), (0x0C, 0x66), (0x0D, 0x72)]

/-- The letter after the backslash, for a unit with a two-character escape. -/
def shortEscape (unit : CodeUnit) : Option CodeUnit :=
  (shortEscapes.find? fun entry => entry.1 = unit).map Prod.snd

/-- One lower-case hexadecimal digit. -/
def hexDigit (value : Nat) : CodeUnit :=
  if value < 10 then Fin.ofNat 65536 (0x30 + value)
  else Fin.ofNat 65536 (0x57 + value)

/-- The four hexadecimal digits of a code unit. -/
def hexDigits (unit : CodeUnit) : JsString :=
  [hexDigit (unit.val / 4096), hexDigit (unit.val / 256 % 16),
    hexDigit (unit.val / 16 % 16), hexDigit (unit.val % 16)]

/-- The text of one code unit that is not half of a surrogate pair. -/
def escapeUnit (unit : CodeUnit) : JsString :=
  match shortEscape unit with
  | some letter => [0x5C, letter]
  | none =>
      if unit.val < 0x20 ∨ unit.IsSurrogate then
        0x5C :: 0x75 :: hexDigits unit
      else
        [unit]

/-- The text of a string between its quotes; surrogate pairs stay as they are. -/
def escape : JsString → JsString
  | [] => []
  | [unit] => escapeUnit unit
  | high :: low :: rest =>
      if high.IsHighSurrogate ∧ low.IsLowSurrogate then
        high :: low :: escape rest
      else
        escapeUnit high ++ escape (low :: rest)

/-- A quoted string. -/
def quote (text : JsString) : JsString :=
  0x22 :: (escape text ++ [0x22])

variable {unit letter : CodeUnit}

theorem shortEscape_mem
    (short : shortEscape unit = some letter) :
    (unit, letter) ∈ shortEscapes := by
  unfold shortEscape at short
  obtain ⟨entry, found, rfl⟩ := Option.map_eq_some_iff.mp short
  have unitShape : entry.1 = unit := by
    simpa using List.find?_some found
  subst unitShape
  exact List.mem_of_find?_eq_some found

variable {first second : CodeUnit}

private theorem shortEscape_inj
    (firstShort : shortEscape first = some letter)
    (secondShort : shortEscape second = some letter) :
    first = second := by
  have oneToOne :
      ∀ entry ∈ shortEscapes, ∀ other ∈ shortEscapes,
        entry.2 = other.2 → entry.1 = other.1 := by
    simp [shortEscapes]
  exact oneToOne _ (shortEscape_mem firstShort) _
    (shortEscape_mem secondShort) rfl

private theorem shortEscape_ne_hex
    (short : shortEscape unit = some letter) :
    letter ≠ 0x75 := by
  have noHex : ∀ entry ∈ shortEscapes, entry.2 ≠ 0x75 := by
    simp [shortEscapes]
  exact noHex _ (shortEscape_mem short)

private theorem shortEscape_none
    (raw : shortEscape unit = none) :
    unit ≠ 0x22 ∧ unit ≠ 0x5C := by
  constructor <;> rintro rfl <;> exact absurd raw (by decide)

private theorem hexDigit_inj
    {first second : Nat}
    (firstBound : first < 16)
    (secondBound : second < 16)
    (same : hexDigit first = hexDigit second) :
    first = second := by
  unfold hexDigit at same
  split at same <;> split at same <;>
    simp only [Fin.ext_iff, Fin.val_ofNat] at same <;> omega

private theorem hexDigits_inj
    (same : hexDigits first = hexDigits second) :
    first = second := by
  have firstBound := first.isLt
  have secondBound := second.isLt
  simp only [hexDigits, List.cons.injEq, and_true] at same
  obtain ⟨same₃, same₂, same₁, same₀⟩ := same
  have digit₃ := hexDigit_inj (by omega) (by omega) same₃
  have digit₂ := hexDigit_inj (by omega) (by omega) same₂
  have digit₁ := hexDigit_inj (by omega) (by omega) same₁
  have digit₀ := hexDigit_inj (by omega) (by omega) same₀
  exact Fin.ext (by omega)

theorem escapeUnit_cases
    (unit : CodeUnit) :
    (∃ letter, shortEscape unit = some letter ∧
        escapeUnit unit = [0x5C, letter]) ∨
      escapeUnit unit = 0x5C :: 0x75 :: hexDigits unit ∨
      (escapeUnit unit = [unit] ∧ unit ≠ 0x22 ∧ unit ≠ 0x5C ∧
        ¬ unit.IsSurrogate ∧ ¬ unit.val < 0x20) := by
  unfold escapeUnit
  cases short : shortEscape unit with
  | some letter =>
      exact Or.inl ⟨letter, rfl, rfl⟩
  | none =>
      right
      obtain ⟨notQuote, notBackslash⟩ := shortEscape_none short
      by_cases hexed : unit.val < 0x20 ∨ unit.IsSurrogate
      · exact Or.inl (by simp only [hexed, ↓reduceIte])
      · right
        simp only [hexed, ↓reduceIte]
        exact ⟨trivial, notQuote, notBackslash,
          fun surrogate => hexed (Or.inr surrogate),
          fun control => hexed (Or.inl control)⟩

variable {firstRest secondRest : JsString}

theorem escapeUnit_append_inj
    (same :
      escapeUnit first ++ firstRest =
        escapeUnit second ++ secondRest) :
    first = second ∧ firstRest = secondRest := by
  rcases escapeUnit_cases first with
      ⟨firstLetter, firstShort, firstText⟩ | firstText |
        ⟨firstText, _, firstRaw, _⟩ <;>
    rcases escapeUnit_cases second with
      ⟨secondLetter, secondShort, secondText⟩ | secondText |
        ⟨secondText, _, secondRaw, _⟩ <;>
    rw [firstText, secondText] at same
  · simp only [List.cons_append, List.nil_append, List.cons.injEq,
      true_and] at same
    obtain ⟨rfl, sameRest⟩ := same
    exact ⟨shortEscape_inj firstShort secondShort, sameRest⟩
  · simp only [List.cons_append, List.nil_append, List.cons.injEq,
      true_and] at same
    exact (shortEscape_ne_hex firstShort same.1).elim
  · simp only [List.cons_append, List.nil_append, List.cons.injEq] at same
    exact (secondRaw same.1.symm).elim
  · simp only [List.cons_append, List.nil_append, List.cons.injEq,
      true_and] at same
    exact (shortEscape_ne_hex secondShort same.1.symm).elim
  · simp only [List.cons_append, List.cons.injEq, true_and] at same
    obtain ⟨sameDigits, sameRest⟩ :=
      List.append_inj same (by simp [hexDigits])
    exact ⟨hexDigits_inj sameDigits, sameRest⟩
  · simp only [List.cons_append, List.nil_append, List.cons.injEq] at same
    exact (secondRaw same.1.symm).elim
  · simp only [List.cons_append, List.nil_append, List.cons.injEq] at same
    exact (firstRaw same.1).elim
  · simp only [List.cons_append, List.nil_append, List.cons.injEq] at same
    exact (firstRaw same.1).elim
  · simpa only [List.cons_append, List.nil_append, List.cons.injEq]
      using same

private theorem escapeUnit_head
    (unit : CodeUnit) :
    ∃ head tail, escapeUnit unit = head :: tail ∧
      head ≠ 0x22 ∧ ¬ head.IsSurrogate := by
  rcases escapeUnit_cases unit with
    ⟨letter, _, text⟩ | text | ⟨text, notQuote, _, notSurrogate, _⟩
  · exact ⟨0x5C, [letter], text, by decide, by decide⟩
  · exact ⟨0x5C, _, text, by decide, by decide⟩
  · exact ⟨unit, [], text, notQuote, notSurrogate⟩

theorem escape_cases
    (text : JsString) :
    text = [] ∨
      (∃ high low rest, text = high :: low :: rest ∧
        high.IsHighSurrogate ∧ low.IsLowSurrogate ∧
        escape text = high :: low :: escape rest) ∨
      (∃ unit rest, text = unit :: rest ∧
        escape text = escapeUnit unit ++ escape rest) := by
  match text with
  | [] => exact Or.inl rfl
  | [unit] =>
      exact Or.inr (Or.inr ⟨unit, [], rfl, by simp [escape]⟩)
  | high :: low :: rest =>
      right
      by_cases pair : high.IsHighSurrogate ∧ low.IsLowSurrogate
      · exact Or.inl ⟨high, low, rest, rfl, pair.1, pair.2,
          by simp only [escape, pair, and_self, ↓reduceIte]⟩
      · exact Or.inr ⟨high, low :: rest, rfl,
          by simp only [escape, pair, ↓reduceIte]⟩

theorem escape_append_quote_inj
    {first second : JsString}
    (same :
      escape first ++ 0x22 :: firstRest =
        escape second ++ 0x22 :: secondRest) :
    first = second ∧ firstRest = secondRest := by
  induction size : first.length using Nat.strong_induction_on
    generalizing first second with
  | _ size inductionHypothesis =>
  rcases escape_cases first with
      rfl | ⟨high, low, rest, rfl, highFirst, _, firstText⟩ |
        ⟨unit, rest, rfl, firstText⟩ <;>
    rcases escape_cases second with
      rfl | ⟨high', low', rest', rfl, highSecond, _, secondText⟩ |
        ⟨unit', rest', rfl, secondText⟩
  · simpa [escape] using same
  · rw [secondText] at same
    simp only [escape, List.nil_append, List.cons_append,
      List.cons.injEq] at same
    exact absurd highSecond (same.1 ▸ by decide)
  · obtain ⟨head, tail, shape, notQuote, _⟩ := escapeUnit_head unit'
    rw [secondText, shape] at same
    simp only [escape, List.nil_append, List.cons_append,
      List.cons.injEq] at same
    exact (notQuote same.1.symm).elim
  · rw [firstText] at same
    simp only [escape, List.nil_append, List.cons_append,
      List.cons.injEq] at same
    exact absurd highFirst (same.1 ▸ by decide)
  · rw [firstText, secondText] at same
    simp only [List.cons_append, List.cons.injEq] at same
    obtain ⟨rfl, rfl, sameRest⟩ := same
    obtain ⟨rfl, rfl⟩ :=
      inductionHypothesis rest.length (by simp at size; omega)
        sameRest rfl
    exact ⟨rfl, rfl⟩
  · obtain ⟨head, tail, shape, _, notSurrogate⟩ := escapeUnit_head unit'
    rw [firstText, secondText, shape] at same
    simp only [List.cons_append, List.cons.injEq] at same
    exact (notSurrogate (same.1 ▸ highFirst.isSurrogate)).elim
  · obtain ⟨head, tail, shape, notQuote, _⟩ := escapeUnit_head unit
    rw [firstText, shape] at same
    simp only [escape, List.nil_append, List.cons_append,
      List.cons.injEq] at same
    exact (notQuote same.1).elim
  · obtain ⟨head, tail, shape, _, notSurrogate⟩ := escapeUnit_head unit
    rw [firstText, secondText, shape] at same
    simp only [List.cons_append, List.cons.injEq] at same
    exact (notSurrogate (same.1 ▸ highSecond.isSurrogate)).elim
  · rw [firstText, secondText, List.append_assoc, List.append_assoc] at same
    obtain ⟨rfl, sameRest⟩ := escapeUnit_append_inj same
    obtain ⟨rfl, rfl⟩ :=
      inductionHypothesis rest.length (by simp at size; omega)
        sameRest rfl
    exact ⟨rfl, rfl⟩

theorem quote_append_inj
    {first second : JsString}
    (same : quote first ++ firstRest = quote second ++ secondRest) :
    first = second ∧ firstRest = secondRest := by
  apply escape_append_quote_inj
  simpa [quote] using same

/-! ## Documents -/

namespace Json

mutual

/-- The text `JSON.stringify` produces. -/
def stringify (numbers : NumberText ν) : Json ν → JsString
  | .null => js "null"
  | .bool true => js "true"
  | .bool false => js "false"
  | .number value => numbers.render value
  | .text value => quote value
  | .array items => 0x5B :: stringifyItems numbers true items
  | .object entries => 0x7B :: stringifyEntries numbers true entries

/-- The items of an array, separated by commas, with the closing bracket. -/
def stringifyItems (numbers : NumberText ν) (first : Bool) :
    List (Json ν) → JsString
  | [] => [0x5D]
  | item :: rest =>
      (if first then [] else [0x2C]) ++
        (stringify numbers item ++ stringifyItems numbers false rest)

/-- The entries of an object, separated by commas, with the closing brace. -/
def stringifyEntries (numbers : NumberText ν) (first : Bool) :
    List (JsString × Json ν) → JsString
  | [] => [0x7D]
  | (key, value) :: rest =>
      (if first then [] else [0x2C]) ++
        (quote key ++ 0x3A ::
          (stringify numbers value ++
            stringifyEntries numbers false rest))

end

/-- Text after which a document is complete. -/
def Delimited (rest : JsString) : Prop :=
  ∀ unit ∈ rest.head?, ¬ unit.IsNumeric

theorem delimited_nil : Delimited [] := by
  simp [Delimited]

variable (numbers : NumberText ν)

theorem delimited_stringifyItems
    (items : List (Json ν))
    (rest : JsString) :
    Delimited (stringifyItems numbers false items ++ rest) := by
  cases items with
  | nil =>
      simp only [stringifyItems, Delimited]
      intro unit head
      cases head
      decide
  | cons item others =>
      simp only [stringifyItems, Delimited]
      intro unit head
      cases head
      decide

theorem delimited_stringifyEntries
    (entries : List (JsString × Json ν))
    (rest : JsString) :
    Delimited (stringifyEntries numbers false entries ++ rest) := by
  cases entries with
  | nil =>
      simp only [stringifyEntries, Delimited]
      intro unit head
      cases head
      decide
  | cons entry others =>
      simp only [stringifyEntries, Delimited]
      intro unit head
      cases head
      decide

variable {firstRest secondRest : JsString}

theorem numeric_append_inj
    {first second : JsString}
    (firstNumeric : ∀ unit ∈ first, unit.IsNumeric)
    (secondNumeric : ∀ unit ∈ second, unit.IsNumeric)
    (firstDelimited : Delimited firstRest)
    (secondDelimited : Delimited secondRest)
    (same : first ++ firstRest = second ++ secondRest) :
    first = second ∧ firstRest = secondRest :=
  append_inj_of_boundary firstNumeric secondNumeric firstDelimited
    secondDelimited same

/-- The first unit of a document's text tells its kind. -/
def leadingUnit (numbers : NumberText ν) : Json ν → CodeUnit
  | .null => 0x6E
  | .bool true => 0x74
  | .bool false => 0x66
  | .number value => (numbers.render value).headD 0
  | .text _ => 0x22
  | .array _ => 0x5B
  | .object _ => 0x7B

theorem stringify_head
    (document : Json ν) :
    ∃ tail,
      stringify numbers document =
        leadingUnit numbers document :: tail := by
  cases document with
  | null => exact ⟨_, rfl⟩
  | bool value => cases value <;> exact ⟨_, rfl⟩
  | number value =>
      obtain ⟨head, tail, shape⟩ :=
        List.exists_cons_of_ne_nil (numbers.nonempty value)
      exact ⟨tail, by simp [stringify, leadingUnit, shape]⟩
  | text value => exact ⟨_, rfl⟩
  | array items => exact ⟨_, by simp only [stringify]; rfl⟩
  | object entries => exact ⟨_, by simp only [stringify]; rfl⟩

theorem leadingUnit_number
    (value : ν) :
    (leadingUnit numbers (.number value)).IsNumeric := by
  obtain ⟨head, tail, shape⟩ :=
    List.exists_cons_of_ne_nil (numbers.nonempty value)
  apply numbers.numeric value
  simp [leadingUnit, shape]

private theorem leadingUnit_eq
    {numbers : NumberText ν}
    {first second : Json ν}
    (same :
      stringify numbers first ++ firstRest =
        stringify numbers second ++ secondRest) :
    leadingUnit numbers first = leadingUnit numbers second := by
  obtain ⟨firstTail, firstShape⟩ := stringify_head numbers first
  obtain ⟨secondTail, secondShape⟩ := stringify_head numbers second
  rw [firstShape, secondShape] at same
  simp only [List.cons_append, List.cons.injEq] at same
  exact same.1

private theorem number_of_leadingUnit
    {numbers : NumberText ν}
    {document : Json ν}
    {value : ν}
    (same :
      leadingUnit numbers (.number value) =
        leadingUnit numbers document) :
    ∃ other, document = .number other := by
  have numeric := leadingUnit_number numbers value
  rw [same] at numeric
  cases document with
  | number other => exact ⟨other, rfl⟩
  | bool flag =>
      cases flag <;>
        exact absurd numeric (by simp only [leadingUnit]; decide)
  | _ => exact absurd numeric (by simp only [leadingUnit]; decide)

private theorem stringifyItems_nil_ne
    (lead : Bool)
    (item : Json ν)
    (rest : List (Json ν))
    (same :
      stringifyItems numbers lead [] ++ firstRest =
        stringifyItems numbers lead (item :: rest) ++ secondRest) :
    False := by
  obtain ⟨tail, shape⟩ := stringify_head numbers item
  cases lead with
  | false =>
      simp [stringifyItems] at same
  | true =>
      simp only [stringifyItems, shape, ↓reduceIte, List.nil_append,
        List.cons_append, List.cons.injEq] at same
      cases item with
      | number value =>
          exact absurd (leadingUnit_number numbers value)
            (same.1 ▸ by decide)
      | bool flag =>
          cases flag <;> exact absurd same.1 (by simp [leadingUnit])
      | _ => exact absurd same.1 (by simp [leadingUnit])

mutual

/-- A document is determined by its text, whatever delimiter follows. -/
theorem stringify_append_inj (numbers : NumberText ν) :
    ∀ (first second : Json ν) {firstRest secondRest : JsString},
      Delimited firstRest →
      Delimited secondRest →
      stringify numbers first ++ firstRest =
        stringify numbers second ++ secondRest →
      first = second ∧ firstRest = secondRest
  | .null, second, _, _, _, _, same => by
      have sameLead := leadingUnit_eq same
      cases second with
      | null => exact ⟨rfl, List.append_cancel_left same⟩
      | bool flag =>
          cases flag <;> exact absurd sameLead (by simp [leadingUnit])
      | number value =>
          obtain ⟨_, shape⟩ := number_of_leadingUnit sameLead.symm
          cases shape
      | _ => exact absurd sameLead (by simp [leadingUnit])
  | .bool flag, second, _, _, _, _, same => by
      have sameLead := leadingUnit_eq same
      cases second with
      | bool other =>
          cases flag <;> cases other
          · exact ⟨rfl, List.append_cancel_left same⟩
          · exact absurd sameLead (by simp [leadingUnit])
          · exact absurd sameLead (by simp [leadingUnit])
          · exact ⟨rfl, List.append_cancel_left same⟩
      | number value =>
          obtain ⟨_, shape⟩ := number_of_leadingUnit sameLead.symm
          cases shape
      | _ =>
          cases flag <;> exact absurd sameLead (by simp [leadingUnit])
  | .number value, second, _, _, firstDelimited, secondDelimited, same => by
      obtain ⟨other, rfl⟩ := number_of_leadingUnit (leadingUnit_eq same)
      simp only [stringify] at same
      obtain ⟨sameText, sameRest⟩ :=
        numeric_append_inj (numbers.numeric value) (numbers.numeric other)
          firstDelimited secondDelimited same
      exact ⟨congrArg _ (numbers.injective sameText), sameRest⟩
  | .text value, second, _, _, _, _, same => by
      have sameLead := leadingUnit_eq same
      cases second with
      | text other =>
          simp only [stringify] at same
          obtain ⟨rfl, sameRest⟩ := quote_append_inj same
          exact ⟨rfl, sameRest⟩
      | number value =>
          obtain ⟨_, shape⟩ := number_of_leadingUnit sameLead.symm
          cases shape
      | bool flag =>
          cases flag <;> exact absurd sameLead (by simp [leadingUnit])
      | _ => exact absurd sameLead (by simp [leadingUnit])
  | .array items, second, _, _, _, _, same => by
      have sameLead := leadingUnit_eq same
      cases second with
      | array others =>
          simp only [stringify, List.cons_append, List.cons.injEq,
            true_and] at same
          obtain ⟨rfl, sameRest⟩ :=
            stringifyItems_append_inj numbers true items others same
          exact ⟨rfl, sameRest⟩
      | number value =>
          obtain ⟨_, shape⟩ := number_of_leadingUnit sameLead.symm
          cases shape
      | bool flag =>
          cases flag <;> exact absurd sameLead (by simp [leadingUnit])
      | _ => exact absurd sameLead (by simp [leadingUnit])
  | .object entries, second, _, _, _, _, same => by
      have sameLead := leadingUnit_eq same
      cases second with
      | object others =>
          simp only [stringify, List.cons_append, List.cons.injEq,
            true_and] at same
          obtain ⟨rfl, sameRest⟩ :=
            stringifyEntries_append_inj numbers true entries others same
          exact ⟨rfl, sameRest⟩
      | number value =>
          obtain ⟨_, shape⟩ := number_of_leadingUnit sameLead.symm
          cases shape
      | bool flag =>
          cases flag <;> exact absurd sameLead (by simp [leadingUnit])
      | _ => exact absurd sameLead (by simp [leadingUnit])

theorem stringifyItems_append_inj (numbers : NumberText ν) (lead : Bool) :
    ∀ (first second : List (Json ν)) {firstRest secondRest : JsString},
      stringifyItems numbers lead first ++ firstRest =
        stringifyItems numbers lead second ++ secondRest →
      first = second ∧ firstRest = secondRest
  | [], [], _, _, same => by
      simpa [stringifyItems] using same
  | [], item :: rest, _, _, same => by
      exact (stringifyItems_nil_ne numbers lead item rest same).elim
  | item :: rest, [], _, _, same => by
      exact (stringifyItems_nil_ne numbers lead item rest same.symm).elim
  | item :: rest, other :: others, _, _, same => by
      simp only [stringifyItems, List.append_assoc,
        List.append_cancel_left_eq] at same
      obtain ⟨rfl, sameTail⟩ :=
        stringify_append_inj numbers item other
          (delimited_stringifyItems numbers rest _)
          (delimited_stringifyItems numbers others _) same
      obtain ⟨rfl, sameRest⟩ :=
        stringifyItems_append_inj numbers false rest others sameTail
      exact ⟨rfl, sameRest⟩

theorem stringifyEntries_append_inj (numbers : NumberText ν) (lead : Bool) :
    ∀ (first second : List (JsString × Json ν))
      {firstRest secondRest : JsString},
      stringifyEntries numbers lead first ++ firstRest =
        stringifyEntries numbers lead second ++ secondRest →
      first = second ∧ firstRest = secondRest
  | [], [], _, _, same => by
      simpa [stringifyEntries] using same
  | [], (key, value) :: rest, _, _, same => by
      cases lead <;> simp [stringifyEntries, quote] at same
  | (key, value) :: rest, [], _, _, same => by
      cases lead <;> simp [stringifyEntries, quote] at same
  | (key, value) :: rest, (otherKey, other) :: others, _, _, same => by
      simp only [stringifyEntries, List.append_assoc, List.cons_append,
        List.append_cancel_left_eq] at same
      obtain ⟨rfl, afterKey⟩ := quote_append_inj same
      simp only [List.cons.injEq, true_and] at afterKey
      obtain ⟨rfl, sameTail⟩ :=
        stringify_append_inj numbers value other
          (delimited_stringifyEntries numbers rest _)
          (delimited_stringifyEntries numbers others _) afterKey
      obtain ⟨rfl, sameRest⟩ :=
        stringifyEntries_append_inj numbers false rest others sameTail
      exact ⟨rfl, sameRest⟩

end

theorem stringify_injective
    (numbers : NumberText ν) :
    Function.Injective (stringify numbers) := by
  intro first second same
  have sameAlone :
      stringify numbers first ++ [] = stringify numbers second ++ [] := by
    rw [same]
  exact (stringify_append_inj numbers first second
    delimited_nil delimited_nil sameAlone).1

end Json

end Js
