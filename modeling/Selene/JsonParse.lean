import Selene.JsonText
import Mathlib.Data.List.TakeWhile

/-!
# Parsing JSON text

`Json.parse` is the grammar of `JSON.parse` as a parser; a number is returned
as its numeral, which the caller reads.  The parser is defined by recursion on
a fuel that a text of its length cannot use up.

The parser inverts `Json.stringify` (`parse_stringify`): the text of a document
is read back as the document, with every number replaced by its numeral.
-/

namespace Js

/-! ## Units and numerals -/

/-- White space between tokens. -/
def isJsonSpace (unit : CodeUnit) : Bool :=
  unit = 0x20 || unit = 0x09 || unit = 0x0A || unit = 0x0D

/-- Drop white space. -/
def skipJsonSpace (source : JsString) : JsString :=
  source.dropWhile isJsonSpace

/-- A decimal digit. -/
def isDecimalDigit (unit : CodeUnit) : Bool :=
  decide (0x30 ≤ unit.val ∧ unit.val ≤ 0x39)

/-- Drop a non-empty run of digits. -/
def dropDigits : JsString → Option JsString
  | [] => none
  | first :: rest =>
      if isDecimalDigit first then some (rest.dropWhile isDecimalDigit)
      else none

/-- An optional exponent, up to the end. -/
def isExponent : JsString → Bool
  | [] => true
  | unit :: rest =>
      (unit = 0x65 || unit = 0x45) &&
        dropDigits
            (if rest.head? = some 0x2B ∨ rest.head? = some 0x2D then
              rest.tail
            else
              rest) =
          some []

/-- An optional fraction and an optional exponent, up to the end. -/
def isFraction : JsString → Bool
  | [] => true
  | unit :: rest =>
      if unit = 0x2E then
        match dropDigits rest with
        | none => false
        | some after => isExponent after
      else
        isExponent (unit :: rest)

/-- The numerals of JSON. -/
def isJsonNumeral (text : JsString) : Bool :=
  match if text.head? = some 0x2D then text.tail else text with
  | [] => false
  | first :: rest =>
      isDecimalDigit first &&
        isFraction (if first = 0x30 then rest else
          rest.dropWhile isDecimalDigit)

variable {text : JsString}

theorem numeric_of_dropWhile
    (rest : ∀ unit ∈ text.dropWhile isDecimalDigit, unit.IsNumeric) :
    ∀ unit ∈ text, unit.IsNumeric := by
  intro unit member
  rw [← List.takeWhile_append_dropWhile (p := isDecimalDigit) (l := text),
    List.mem_append] at member
  rcases member with digit | later
  · have isDigit := List.mem_takeWhile_imp digit
    exact .inl (of_decide_eq_true isDigit)
  · exact rest unit later

theorem numeric_of_dropDigits
    {after : JsString}
    (dropped : dropDigits text = some after)
    (rest : ∀ unit ∈ after, unit.IsNumeric) :
    ∀ unit ∈ text, unit.IsNumeric := by
  cases text with
  | nil => cases dropped
  | cons first others =>
      rw [dropDigits] at dropped
      split at dropped
      · rename_i isDigit
        cases dropped
        intro unit member
        rcases List.mem_cons.mp member with rfl | later
        · exact .inl (of_decide_eq_true isDigit)
        · exact numeric_of_dropWhile rest unit later
      · cases dropped

theorem numeric_of_isExponent
    (exponent : isExponent text = true) :
    ∀ unit ∈ text, unit.IsNumeric := by
  cases text with
  | nil => simp
  | cons first rest =>
      simp only [isExponent, Bool.and_eq_true, Bool.or_eq_true,
        decide_eq_true_eq] at exponent
      obtain ⟨letter, digits⟩ := exponent
      have rests : ∀ unit ∈ rest, unit.IsNumeric := by
        have after := numeric_of_dropDigits digits (by simp)
        split at after
        · rename_i sign
          cases rest with
          | nil => simp
          | cons head tail =>
              intro unit member
              rcases List.mem_cons.mp member with rfl | later
              · rcases sign with plus | minus
                · cases plus
                  decide
                · cases minus
                  decide
              · exact after unit later
        · exact after
      intro unit member
      rcases List.mem_cons.mp member with rfl | later
      · rcases letter with rfl | rfl <;> decide
      · exact rests unit later

theorem numeric_of_isFraction
    (fraction : isFraction text = true) :
    ∀ unit ∈ text, unit.IsNumeric := by
  cases text with
  | nil => simp
  | cons first rest =>
      rw [isFraction] at fraction
      split at fraction
      · rename_i isDot
        split at fraction
        · cases fraction
        · rename_i after dropped
          intro unit member
          rcases List.mem_cons.mp member with rfl | later
          · rw [isDot]
            decide
          · exact numeric_of_dropDigits dropped
              (numeric_of_isExponent fraction) unit later
      · exact numeric_of_isExponent fraction

theorem numeric_of_isJsonNumeral
    (numeral : isJsonNumeral text = true) :
    text ≠ [] ∧ ∀ unit ∈ text, unit.IsNumeric := by
  have unsigned :
      ∀ digits : JsString,
        (match digits with
          | [] => false
          | first :: rest =>
              isDecimalDigit first &&
                isFraction (if first = 0x30 then rest else
                  rest.dropWhile isDecimalDigit)) = true →
          digits ≠ [] ∧ ∀ unit ∈ digits, unit.IsNumeric := by
    intro digits accepted
    cases digits with
    | nil => cases accepted
    | cons first rest =>
        simp only [Bool.and_eq_true] at accepted
        refine ⟨by simp, fun unit member => ?_⟩
        rcases List.mem_cons.mp member with rfl | later
        · exact .inl (of_decide_eq_true accepted.1)
        · have after := numeric_of_isFraction accepted.2
          split at after
          · exact after unit later
          · exact numeric_of_dropWhile after unit later
  unfold isJsonNumeral at numeral
  obtain ⟨nonempty, numeric⟩ := unsigned _ numeral
  split at nonempty
  · rename_i minus
    rw [if_pos minus] at numeric
    cases text with
    | nil => cases minus
    | cons first rest =>
        refine ⟨by simp, fun unit member => ?_⟩
        rcases List.mem_cons.mp member with rfl | later
        · cases minus
          decide
        · exact numeric unit later
  · rename_i noMinus
    rw [if_neg noMinus] at numeric
    exact ⟨nonempty, numeric⟩

/-! ## Strings -/

/-- The unit a two-character escape stands for. -/
def unescapeLetter (letter : CodeUnit) : Option CodeUnit :=
  if letter = 0x2F then some 0x2F
  else (shortEscapes.find? fun entry => entry.2 = letter).map Prod.fst

/-- The value of a hexadecimal digit of either case. -/
def hexValue (unit : CodeUnit) : Option Nat :=
  if 0x30 ≤ unit.val ∧ unit.val ≤ 0x39 then some (unit.val - 0x30)
  else if 0x61 ≤ unit.val ∧ unit.val ≤ 0x66 then some (unit.val - 0x57)
  else if 0x41 ≤ unit.val ∧ unit.val ≤ 0x46 then some (unit.val - 0x37)
  else none

/-- The unit with four given hexadecimal digits. -/
def hexUnit (first second third fourth : CodeUnit) : Option CodeUnit := do
  let value₃ ← hexValue first
  let value₂ ← hexValue second
  let value₁ ← hexValue third
  let value₀ ← hexValue fourth
  some (Fin.ofNat 65536
    (value₃ * 4096 + value₂ * 256 + value₁ * 16 + value₀))

/-- The string whose opening quote was just read, and what follows it. -/
def parseStringBody : JsString → Option (JsString × JsString)
  | [] => none
  | unit :: rest =>
      if unit = 0x22 then some ([], rest)
      else if unit = 0x5C then
        match rest with
        | [] => none
        | letter :: later =>
            if letter = 0x75 then
              match later with
              | first :: second :: third :: fourth :: after => do
                  let value ← hexUnit first second third fourth
                  let (text, left) ← parseStringBody after
                  some (value :: text, left)
              | _ => none
            else do
              let value ← unescapeLetter letter
              let (text, left) ← parseStringBody later
              some (value :: text, left)
      else if unit.val < 0x20 then none
      else do
        let (text, left) ← parseStringBody rest
        some (unit :: text, left)

variable {unit : CodeUnit}

theorem unescapeLetter_of_shortEscape
    {letter : CodeUnit}
    (short : shortEscape unit = some letter) :
    letter ≠ 0x75 ∧ unescapeLetter letter = some unit := by
  have table :
      ∀ entry ∈ shortEscapes,
        entry.2 ≠ 0x75 ∧ unescapeLetter entry.2 = some entry.1 := by
    simp [shortEscapes, unescapeLetter]
  exact table _ (shortEscape_mem short)

theorem hexValue_hexDigit :
    ∀ value < 16, hexValue (hexDigit value) = some value := by
  decide

theorem hexUnit_hexDigits
    (unit : CodeUnit) :
    hexUnit (hexDigit (unit.val / 4096)) (hexDigit (unit.val / 256 % 16))
        (hexDigit (unit.val / 16 % 16)) (hexDigit (unit.val % 16)) =
      some unit := by
  have bound := unit.isLt
  unfold hexUnit
  rw [hexValue_hexDigit _ (by omega), hexValue_hexDigit _ (by omega),
    hexValue_hexDigit _ (by omega), hexValue_hexDigit _ (by omega)]
  simp only [Option.bind_eq_bind, Option.bind_some, Option.some.injEq,
    Fin.ext_iff, Fin.val_ofNat]
  omega

variable {source left : JsString}

theorem parseStringBody_raw
    (notQuote : unit ≠ 0x22)
    (notEscape : unit ≠ 0x5C)
    (notControl : ¬ unit.val < 0x20)
    (later : parseStringBody source = some (text, left)) :
    parseStringBody (unit :: source) = some (unit :: text, left) := by
  unfold parseStringBody
  rw [if_neg notQuote, if_neg notEscape, if_neg notControl, later]
  rfl

theorem parseStringBody_letter
    {letter : CodeUnit}
    (notHex : letter ≠ 0x75)
    (value : unescapeLetter letter = some unit)
    (later : parseStringBody source = some (text, left)) :
    parseStringBody (0x5C :: letter :: source) =
      some (unit :: text, left) := by
  unfold parseStringBody
  rw [if_neg (by decide), if_pos rfl]
  simp only [if_neg notHex, value, later]
  rfl

theorem parseStringBody_hex
    {first second third fourth : CodeUnit}
    (value : hexUnit first second third fourth = some unit)
    (later : parseStringBody source = some (text, left)) :
    parseStringBody
        (0x5C :: 0x75 :: first :: second :: third :: fourth :: source) =
      some (unit :: text, left) := by
  unfold parseStringBody
  rw [if_neg (by decide), if_pos rfl]
  simp only [↓reduceIte, value, later]
  rfl

theorem parseStringBody_escapeUnit
    (later : parseStringBody source = some (text, left)) :
    parseStringBody (escapeUnit unit ++ source) =
      some (unit :: text, left) := by
  rcases escapeUnit_cases unit with
    ⟨letter, short, shape⟩ | shape | ⟨shape, notQuote, notEscape, _, raw⟩
  · obtain ⟨notHex, value⟩ := unescapeLetter_of_shortEscape short
    rw [shape]
    exact parseStringBody_letter notHex value later
  · rw [shape]
    exact parseStringBody_hex (hexUnit_hexDigits unit) later
  · rw [shape]
    exact parseStringBody_raw notQuote notEscape raw later

theorem parseStringBody_escape
    (text rest : JsString) :
    parseStringBody (escape text ++ 0x22 :: rest) = some (text, rest) := by
  induction size : text.length using Nat.strong_induction_on
    generalizing text with
  | _ size inductionHypothesis =>
  rcases escape_cases text with
    rfl | ⟨high, low, others, rfl, isHigh, isLow, shape⟩ |
      ⟨unit, others, rfl, shape⟩
  · unfold parseStringBody
    simp [escape]
  · have later := inductionHypothesis others.length
      (by simp at size; omega) others rfl
    unfold CodeUnit.IsHighSurrogate at isHigh
    unfold CodeUnit.IsLowSurrogate at isLow
    have plain :
        ∀ unit : CodeUnit, 0xD800 ≤ unit.val →
          unit ≠ 0x22 ∧ unit ≠ 0x5C ∧ ¬ unit.val < 0x20 := by
      intro unit surrogate
      refine ⟨?_, ?_, by omega⟩ <;> rintro rfl <;>
        exact absurd surrogate (by decide)
    obtain ⟨highQuote, highEscape, highRaw⟩ := plain high isHigh.1
    obtain ⟨lowQuote, lowEscape, lowRaw⟩ := plain low (by omega)
    rw [shape]
    exact parseStringBody_raw highQuote highEscape highRaw
      (parseStringBody_raw lowQuote lowEscape lowRaw later)
  · have later := inductionHypothesis others.length
      (by simp at size; omega) others rfl
    rw [shape, List.append_assoc]
    exact parseStringBody_escapeUnit later

/-! ## Documents -/

namespace Json

/-- The three words of the grammar. -/
def parseWord (source : JsString) : Option (Json JsString × JsString) :=
  if (js "null").isPrefixOf source then some (.null, source.drop 4)
  else if (js "true").isPrefixOf source then
    some (.bool true, source.drop 4)
  else if (js "false").isPrefixOf source then
    some (.bool false, source.drop 5)
  else none

/-- The numeral at the start of a text. -/
def parseNumeral (source : JsString) : Option (Json JsString × JsString) :=
  let numeral := source.takeWhile fun unit => decide unit.IsNumeric
  if isJsonNumeral numeral then
    some (.number numeral,
      source.dropWhile fun unit => decide unit.IsNumeric)
  else
    none

/-- The name of an entry, up to and with its colon. -/
def parseName (source : JsString) : Option (JsString × JsString) :=
  match skipJsonSpace source with
  | [] => none
  | unit :: rest =>
      if unit = 0x22 then
        match parseStringBody rest with
        | none => none
        | some (name, left) =>
            match skipJsonSpace left with
            | [] => none
            | colon :: value =>
                if colon = 0x3A then some (name, value) else none
      else none

/-- What stands before an item: nothing for the first, else a comma. -/
def parseSeparator (first : Bool) (unit : CodeUnit) (rest : JsString) :
    Option JsString :=
  if first then some (unit :: rest)
  else if unit = 0x2C then some rest
  else none

mutual

/-- A value at the start of a text, and what follows it. -/
def parseValue : Nat → JsString → Option (Json JsString × JsString)
  | 0, _ => none
  | fuel + 1, source =>
      match skipJsonSpace source with
      | [] => none
      | unit :: rest =>
          if unit = 0x7B then
            (parseEntries fuel true rest).map fun read =>
              (.object read.1, read.2)
          else if unit = 0x5B then
            (parseItems fuel true rest).map fun read => (.array read.1, read.2)
          else if unit = 0x22 then
            (parseStringBody rest).map fun read => (.text read.1, read.2)
          else if unit.IsNumeric then
            parseNumeral (unit :: rest)
          else
            parseWord (unit :: rest)

/-- The items of an array up to and with its closing bracket. -/
def parseItems : Nat → Bool → JsString →
    Option (List (Json JsString) × JsString)
  | 0, _, _ => none
  | fuel + 1, first, source =>
      match skipJsonSpace source with
      | [] => none
      | unit :: rest =>
          if unit = 0x5D then some ([], rest)
          else
            match parseSeparator first unit rest with
            | none => none
            | some start =>
                match parseValue fuel start with
                | none => none
                | some (item, left) =>
                    (parseItems fuel false left).map fun read =>
                      (item :: read.1, read.2)

/-- The entries of an object up to and with its closing brace. -/
def parseEntries : Nat → Bool → JsString →
    Option (List (JsString × Json JsString) × JsString)
  | 0, _, _ => none
  | fuel + 1, first, source =>
      match skipJsonSpace source with
      | [] => none
      | unit :: rest =>
          if unit = 0x7D then some ([], rest)
          else
            match parseSeparator first unit rest with
            | none => none
            | some start =>
                match parseName start with
                | none => none
                | some (name, valueStart) =>
                    match parseValue fuel valueStart with
                    | none => none
                    | some (value, left) =>
                        (parseEntries fuel false left).map fun read =>
                          ((name, value) :: read.1, read.2)

end

/-- The document a whole text denotes. -/
def parse (source : JsString) : Option (Json JsString) :=
  match parseValue (2 * source.length + 2) source with
  | none => none
  | some (document, left) =>
      if skipJsonSpace left = [] then some document else none

/-! ## Parsing what was written -/

mutual

/-- Replace the numbers of a document. -/
def mapNumbers (change : ν → μ) : Json ν → Json μ
  | .null => .null
  | .bool value => .bool value
  | .number value => .number (change value)
  | .text value => .text value
  | .array items => .array (mapItems change items)
  | .object entries => .object (mapEntries change entries)

/-- Replace the numbers of the items. -/
def mapItems (change : ν → μ) : List (Json ν) → List (Json μ)
  | [] => []
  | item :: rest => mapNumbers change item :: mapItems change rest

/-- Replace the numbers of the entries. -/
def mapEntries (change : ν → μ) :
    List (JsString × Json ν) → List (JsString × Json μ)
  | [] => []
  | (name, value) :: rest =>
      (name, mapNumbers change value) :: mapEntries change rest

end

mutual

/-- Fuel that suffices to parse the text of a document. -/
def parseCost : Json ν → Nat
  | .null => 1
  | .bool _ => 1
  | .number _ => 1
  | .text _ => 1
  | .array items => itemsCost items + 1
  | .object entries => entriesCost entries + 1

/-- Fuel for the items of an array. -/
def itemsCost : List (Json ν) → Nat
  | [] => 1
  | item :: rest => parseCost item + itemsCost rest + 1

/-- Fuel for the entries of an object. -/
def entriesCost : List (JsString × Json ν) → Nat
  | [] => 1
  | (_, value) :: rest => parseCost value + entriesCost rest + 1

end

mutual

theorem parseCost_le (numbers : NumberText ν) :
    ∀ document : Json ν,
      parseCost document + 1 ≤ 2 * (stringify numbers document).length
  | .null => by
      simp only [parseCost, stringify]
      decide
  | .bool true => by
      simp only [parseCost, stringify]
      decide
  | .bool false => by
      simp only [parseCost, stringify]
      decide
  | .number value => by
      have nonempty :=
        List.length_pos_of_ne_nil (numbers.nonempty value)
      simp only [parseCost, stringify]
      omega
  | .text value => by
      simp only [parseCost, stringify, quote, List.length_cons]
      omega
  | .array items => by
      have inside := itemsCost_le numbers true items
      simp only [parseCost, stringify, List.length_cons]
      omega
  | .object entries => by
      have inside := entriesCost_le numbers true entries
      simp only [parseCost, stringify, List.length_cons]
      omega

theorem itemsCost_le (numbers : NumberText ν) (first : Bool) :
    ∀ items : List (Json ν),
      itemsCost items + 1 ≤
        2 * (stringifyItems numbers first items).length
  | [] => by simp [itemsCost, stringifyItems]
  | item :: rest => by
      have ofItem := parseCost_le numbers item
      have ofRest := itemsCost_le numbers false rest
      simp only [itemsCost, stringifyItems, List.length_append]
      omega

theorem entriesCost_le (numbers : NumberText ν) (first : Bool) :
    ∀ entries : List (JsString × Json ν),
      entriesCost entries + 1 ≤
        2 * (stringifyEntries numbers first entries).length
  | [] => by simp [entriesCost, stringifyEntries]
  | (name, value) :: rest => by
      have ofValue := parseCost_le numbers value
      have ofRest := entriesCost_le numbers false rest
      simp only [entriesCost, stringifyEntries, List.length_append,
        List.length_cons]
      omega

end

theorem skipJsonSpace_cons
    {unit : CodeUnit}
    (notSpace : isJsonSpace unit = false)
    (rest : JsString) :
    skipJsonSpace (unit :: rest) = unit :: rest := by
  simp [skipJsonSpace, notSpace]

theorem numeric_plain
    {unit : CodeUnit}
    (numeric : unit.IsNumeric) :
    isJsonSpace unit = false ∧ unit ≠ 0x7B ∧ unit ≠ 0x5B ∧
      unit ≠ 0x22 ∧ unit ≠ 0x5D ∧ unit ≠ 0x7D := by
  have notSpace : ¬ isJsonSpace unit = true := by
    intro space
    simp only [isJsonSpace, Bool.or_eq_true, decide_eq_true_eq] at space
    rcases space with ((rfl | rfl) | rfl) | rfl <;>
      exact absurd numeric (by decide)
  refine ⟨by simpa using notSpace, ?_, ?_, ?_, ?_, ?_⟩ <;>
    rintro rfl <;> exact absurd numeric (by decide)

theorem leadingUnit_plain
    (numbers : NumberText ν)
    (document : Json ν) :
    isJsonSpace (leadingUnit numbers document) = false ∧
      leadingUnit numbers document ≠ 0x5D := by
  cases document with
  | number value =>
      have plain := numeric_plain (leadingUnit_number numbers value)
      exact ⟨plain.1, plain.2.2.2.2.1⟩
  | bool value =>
      cases value <;> simp only [leadingUnit] <;> decide
  | _ =>
      simp only [leadingUnit]
      decide

theorem parseNumeral_render
    (numbers : NumberText ν)
    (grammatical : ∀ number, isJsonNumeral (numbers.render number) = true)
    (value : ν)
    {rest : JsString}
    (delimited : Delimited rest) :
    parseNumeral (numbers.render value ++ rest) =
      some (.number (numbers.render value), rest) := by
  have numeric :
      ∀ unit ∈ numbers.render value, decide unit.IsNumeric = true :=
    fun unit member => decide_eq_true (numbers.numeric value unit member)
  have stopsTake :
      rest.takeWhile (fun unit => decide unit.IsNumeric) = [] := by
    cases rest with
    | nil => rfl
    | cons unit others =>
        simp [delimited unit (by simp)]
  have stopsDrop :
      rest.dropWhile (fun unit => decide unit.IsNumeric) = rest := by
    cases rest with
    | nil => rfl
    | cons unit others =>
        simp [delimited unit (by simp)]
  unfold parseNumeral
  rw [List.takeWhile_append_of_pos numeric,
    List.dropWhile_append_of_pos numeric, stopsTake, stopsDrop,
    List.append_nil, if_pos (grammatical value)]

theorem quote_append_cons
    (name rest : JsString) :
    quote name ++ rest = 0x22 :: (escape name ++ 0x22 :: rest) := by
  simp [quote]

theorem parseName_quote
    (name rest : JsString) :
    parseName (quote name ++ 0x3A :: rest) = some (name, rest) := by
  rw [quote_append_cons, parseName, skipJsonSpace_cons (by decide)]
  dsimp only
  rw [if_pos rfl, parseStringBody_escape]
  dsimp only
  rw [skipJsonSpace_cons (by decide)]
  dsimp only
  rw [if_pos rfl]

mutual

/-- A document is read back from its text, whatever delimiter follows. -/
theorem parseValue_stringify
    (numbers : NumberText ν)
    (grammatical : ∀ number, isJsonNumeral (numbers.render number) = true) :
    ∀ (document : Json ν) (fuel : Nat) {rest : JsString},
      parseCost document ≤ fuel →
      Delimited rest →
      parseValue fuel (stringify numbers document ++ rest) =
        some (mapNumbers numbers.render document, rest)
  | document, 0, _, enough, _ => by
      cases document <;> simp [parseCost] at enough
  | .null, fuel + 1, rest, _, _ => by
      simp only [stringify, parseValue]
      rfl
  | .bool true, fuel + 1, rest, _, _ => by
      simp only [stringify, parseValue]
      rfl
  | .bool false, fuel + 1, rest, _, _ => by
      simp only [stringify, parseValue]
      rfl
  | .number value, fuel + 1, rest, _, delimited => by
      obtain ⟨head, tail, shape⟩ :=
        List.exists_cons_of_ne_nil (numbers.nonempty value)
      have numeric : head.IsNumeric :=
        numbers.numeric value head (by simp [shape])
      have read := parseNumeral_render numbers grammatical value delimited
      obtain ⟨notSpace, notBrace, notBracket, notQuote, _⟩ :=
        numeric_plain numeric
      rw [shape] at read
      simp only [stringify, shape, parseValue, List.cons_append,
        skipJsonSpace_cons notSpace, if_neg notBrace, if_neg notBracket,
        if_neg notQuote, if_pos numeric, mapNumbers] at read ⊢
      exact read
  | .text value, fuel + 1, rest, _, _ => by
      have read := parseStringBody_escape value rest
      simp only [stringify, quote, List.cons_append, List.append_assoc,
        List.nil_append, parseValue]
      rw [skipJsonSpace_cons (by decide)]
      simp [read, mapNumbers]
  | .array items, fuel + 1, rest, enough, _ => by
      have read :=
        parseItems_stringify numbers grammatical true items fuel
          rest (by simp only [parseCost] at enough; omega)
      simp only [stringify, List.cons_append, parseValue]
      rw [skipJsonSpace_cons (by decide)]
      simp [read, mapNumbers]
  | .object entries, fuel + 1, rest, enough, _ => by
      have read :=
        parseEntries_stringify numbers grammatical true entries fuel
          rest (by simp only [parseCost] at enough; omega)
      simp only [stringify, List.cons_append, parseValue]
      rw [skipJsonSpace_cons (by decide)]
      simp [read, mapNumbers]

theorem parseItems_stringify
    (numbers : NumberText ν)
    (grammatical : ∀ number, isJsonNumeral (numbers.render number) = true)
    (first : Bool) :
    ∀ (items : List (Json ν)) (fuel : Nat) (rest : JsString),
      itemsCost items ≤ fuel →
      parseItems fuel first (stringifyItems numbers first items ++ rest) =
        some (mapItems numbers.render items, rest)
  | items, 0, _, enough => by
      cases items <;> simp [itemsCost] at enough
  | [], fuel + 1, rest, _ => by
      simp only [stringifyItems, List.cons_append, List.nil_append,
        parseItems]
      rw [skipJsonSpace_cons (by decide)]
      simp [mapItems]
  | item :: others, fuel + 1, rest, enough => by
      simp only [itemsCost] at enough
      have readItem :=
        parseValue_stringify numbers grammatical item fuel (by omega)
          (delimited_stringifyItems numbers others rest)
      have readOthers :=
        parseItems_stringify numbers grammatical false others fuel
          rest (by omega)
      obtain ⟨tail, shape⟩ := stringify_head numbers item
      obtain ⟨notSpace, notClosing⟩ := leadingUnit_plain numbers item
      cases first with
      | true =>
          simp only [stringifyItems, ↓reduceIte, List.nil_append,
            List.append_assoc, parseItems]
          rw [shape] at readItem ⊢
          simp only [List.cons_append] at readItem ⊢
          rw [skipJsonSpace_cons notSpace]
          simp only [if_neg notClosing, parseSeparator, ↓reduceIte,
            readItem, readOthers, Option.map_some, mapItems]
      | false =>
          simp only [stringifyItems, Bool.false_eq_true, ↓reduceIte,
            List.append_assoc, List.cons_append, List.nil_append,
            parseItems]
          rw [skipJsonSpace_cons (by decide)]
          dsimp only
          rw [if_neg (by decide)]
          simp only [parseSeparator, Bool.false_eq_true, ↓reduceIte,
            readItem, readOthers, Option.map_some, mapItems]

theorem parseEntries_stringify
    (numbers : NumberText ν)
    (grammatical : ∀ number, isJsonNumeral (numbers.render number) = true)
    (first : Bool) :
    ∀ (entries : List (JsString × Json ν)) (fuel : Nat) (rest : JsString),
      entriesCost entries ≤ fuel →
      parseEntries fuel first
          (stringifyEntries numbers first entries ++ rest) =
        some (mapEntries numbers.render entries, rest)
  | entries, 0, _, enough => by
      cases entries <;> simp [entriesCost] at enough
  | [], fuel + 1, rest, _ => by
      simp only [stringifyEntries, List.cons_append, List.nil_append,
        parseEntries]
      rw [skipJsonSpace_cons (by decide)]
      simp [mapEntries]
  | (name, value) :: others, fuel + 1, rest, enough => by
      simp only [entriesCost] at enough
      have readValue :=
        parseValue_stringify numbers grammatical value fuel (by omega)
          (delimited_stringifyEntries numbers others rest)
      have readOthers :=
        parseEntries_stringify numbers grammatical false others fuel
          rest (by omega)
      cases first with
      | true =>
          simp only [stringifyEntries, ↓reduceIte, List.nil_append,
            List.append_assoc, List.cons_append, parseEntries]
          rw [quote_append_cons, skipJsonSpace_cons (by decide)]
          dsimp only
          rw [if_neg (by decide)]
          simp only [parseSeparator, ↓reduceIte]
          rw [← quote_append_cons, parseName_quote]
          simp only [readValue, readOthers, Option.map_some, mapEntries]
      | false =>
          simp only [stringifyEntries, Bool.false_eq_true, ↓reduceIte,
            List.append_assoc, List.cons_append, List.nil_append,
            parseEntries]
          rw [skipJsonSpace_cons (by decide)]
          dsimp only
          rw [if_neg (by decide)]
          simp only [parseSeparator, Bool.false_eq_true, ↓reduceIte,
            parseName_quote, readValue, readOthers, Option.map_some, mapEntries]

end

theorem parse_stringify
    (numbers : NumberText ν)
    (grammatical : ∀ number, isJsonNumeral (numbers.render number) = true)
    (document : Json ν) :
    parse (stringify numbers document) =
      some (mapNumbers numbers.render document) := by
  have enough := parseCost_le numbers document
  have read :=
    parseValue_stringify numbers grammatical document
      (2 * (stringify numbers document).length + 2)
      (by omega) delimited_nil
  rw [List.append_nil] at read
  rw [parse, read]
  rfl

end Json

end Js
