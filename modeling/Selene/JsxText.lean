import Selene.JsonParse

/-!
# Text between JSX tags

The text that a JSX child stands for: it is cut into lines, the lines are
trimmed where they meet a line break, lines of white space only are left out,
entities are decoded, and what is left is joined with single spaces.

An escape that replaces units by entities, and leaves white space alone, is
undone by this reading except for what the trimming does.
-/

namespace Jsx

open Js

/-! ## White space -/

/-- The units that end a line. -/
def isLineBreak (unit : CodeUnit) : Bool :=
  decide (unit.val = 0x0A ∨ unit.val = 0x0D ∨ unit.val = 0x2028 ∨
    unit.val = 0x2029)

/-- White space within a line. -/
def isSpace (unit : CodeUnit) : Bool :=
  decide (unit.val = 0x20 ∨ unit.val = 0x09 ∨ unit.val = 0x0B ∨
    unit.val = 0x0C ∨ unit.val = 0xA0 ∨ unit.val = 0x85 ∨ unit.val = 0x1680 ∨
    (0x2000 ≤ unit.val ∧ unit.val ≤ 0x200B) ∨ unit.val = 0x202F ∨
    unit.val = 0x205F ∨ unit.val = 0x3000 ∨ unit.val = 0xFEFF)

/-- White space, or the end of a line. -/
def isSpaceLike (unit : CodeUnit) : Bool :=
  isSpace unit || isLineBreak unit

/-! ## Entities -/

/-- The named entities, of which three are relied on. -/
structure EntityTable where
  characters : JsString → Option JsString
  amp : characters (js "amp") = some (js "&")
  lt : characters (js "lt") = some (js "<")
  gt : characters (js "gt") = some (js ">")

/-- A unit of `\w`. -/
def isWordUnit (unit : CodeUnit) : Bool :=
  isDecimalDigit unit ||
    decide ((0x41 ≤ unit.val ∧ unit.val ≤ 0x5A) ∨
      (0x61 ≤ unit.val ∧ unit.val ≤ 0x7A) ∨ unit.val = 0x5F)

/-- The number of a text of digits, in a base. -/
def numberOf (base : Nat) (digits : JsString) : Nat :=
  digits.foldl (fun total unit => total * base + (hexValue unit).getD 0) 0

/-- The units of a code point; there are none beyond the last one. -/
def codePointText (code : Nat) : Option JsString :=
  if code < 0x10000 then
    some [Fin.ofNat 65536 code]
  else if code < 0x110000 then
    some [Fin.ofNat 65536 (0xD800 + (code - 0x10000) / 0x400),
      Fin.ofNat 65536 (0xDC00 + (code - 0x10000) % 0x400)]
  else
    none

/-- The name of an entity that a semicolon ends, and its length. -/
def named (isPart : CodeUnit → Bool) (text : JsString) :
    Option (JsString × Nat) :=
  let name := text.takeWhile isPart
  match text.drop name.length with
  | 0x3B :: _ => if name = [] then none else some (name, name.length + 1)
  | _ => none

/-- What the text after an ampersand stands for, and how much of it. -/
def entityAt (entities : EntityTable) : JsString → Option (JsString × Nat)
  | 0x23 :: 0x78 :: rest => do
      let (digits, length) ← named (fun unit => (hexValue unit).isSome) rest
      let characters ← codePointText (numberOf 16 digits)
      pure (characters, length + 2)
  | 0x23 :: rest => do
      let (digits, length) ← named isDecimalDigit rest
      let characters ← codePointText (numberOf 10 digits)
      pure (characters, length + 1)
  | rest => do
      let (name, length) ← named isWordUnit rest
      let characters ← entities.characters name
      pure (characters, length)

/-- Decoding, where so many units belong to an entity that was decoded. -/
def decodeFrom (entities : EntityTable) : Nat → JsString → JsString
  | _, [] => []
  | skipped + 1, _ :: rest => decodeFrom entities skipped rest
  | 0, unit :: rest =>
      if unit = 0x26 then
        match entityAt entities rest with
        | some (characters, length) =>
            characters ++ decodeFrom entities length rest
        | none => unit :: decodeFrom entities 0 rest
      else
        unit :: decodeFrom entities 0 rest

/-- `decodeEntities`. -/
def decode (entities : EntityTable) (text : JsString) : JsString :=
  decodeFrom entities 0 text

theorem named_append
    {isPart : CodeUnit → Bool}
    {name : JsString}
    (parts : name.all isPart = true)
    (ends : isPart 0x3B = false)
    (notEmpty : name ≠ [])
    (rest : JsString) :
    named isPart (name ++ 0x3B :: rest) = some (name, name.length + 1) := by
  have whole : (name ++ 0x3B :: rest).takeWhile isPart = name := by
    rw [List.takeWhile_append_of_pos (List.all_eq_true.mp parts), List.takeWhile_cons, ends]
    exact List.append_nil name
  rw [named, whole, List.drop_left]
  exact if_neg notEmpty

theorem entityAt_name
    {entities : EntityTable}
    {name characters : JsString}
    (words : name.all isWordUnit = true)
    (isEntity : entities.characters name = some characters)
    (notEmpty : name ≠ [])
    (rest : JsString) :
    entityAt entities (name ++ 0x3B :: rest) =
      some (characters, name.length + 1) := by
  have isName := named_append words rfl notEmpty rest
  obtain ⟨first, more, rfl⟩ := List.exists_cons_of_ne_nil notEmpty
  have isWord := List.all_eq_true.mp words first List.mem_cons_self
  unfold entityAt
  split
  · rename_i same
    rw [(List.cons.inj same).1] at isWord
    cases isWord
  · rename_i same
    rw [(List.cons.inj same).1] at isWord
    cases isWord
  · rw [isName]
    simp only [Option.bind_eq_bind, Option.bind_some, isEntity]
    rfl

theorem entityAt_decimal
    {entities : EntityTable}
    {digits characters : JsString}
    (decimal : digits.all isDecimalDigit = true)
    (isCode : codePointText (numberOf 10 digits) = some characters)
    (notEmpty : digits ≠ [])
    (rest : JsString) :
    entityAt entities (0x23 :: (digits ++ 0x3B :: rest)) =
      some (characters, digits.length + 2) := by
  have isNumber := named_append decimal rfl notEmpty rest
  obtain ⟨first, more, rfl⟩ := List.exists_cons_of_ne_nil notEmpty
  have isDigit := List.all_eq_true.mp decimal first List.mem_cons_self
  unfold entityAt
  split
  · rename_i same
    rw [(List.cons.inj (List.cons.inj same).2).1] at isDigit
    cases isDigit
  · rename_i same
    rw [← (List.cons.inj same).2, isNumber]
    simp only [Option.bind_eq_bind, Option.bind_some, isCode]
    rfl
  · rename_i notNumber
    exact absurd rfl (notNumber _)

theorem decodeFrom_length_append
    (entities : EntityTable)
    (front rest : JsString) :
    decodeFrom entities front.length (front ++ rest) = decode entities rest := by
  induction front with
  | nil => rfl
  | cons unit more inductionHypothesis =>
      rw [List.length_cons, List.cons_append, decodeFrom, inductionHypothesis]

theorem decode_ampersand
    {entities : EntityTable}
    {entity characters rest : JsString}
    (isEntity : entityAt entities (entity ++ rest) =
      some (characters, entity.length)) :
    decode entities (0x26 :: (entity ++ rest)) =
      characters ++ decode entities rest := by
  rw [decode, decodeFrom, if_pos rfl, isEntity]
  exact congrArg (characters ++ ·) (decodeFrom_length_append entities entity rest)

theorem decode_cons
    (entities : EntityTable)
    {unit : CodeUnit}
    (plain : unit ≠ 0x26)
    (rest : JsString) :
    decode entities (unit :: rest) = unit :: decode entities rest := by
  rw [decode, decodeFrom, if_neg plain]
  rfl

/-! ## Lines -/

/-- A line in the middle is trimmed, the last one at its start only. -/
def laterLines : List JsString → List JsString
  | [] => []
  | [last] => if last.all isSpace then [] else [last.dropWhile isSpace]
  | line :: rest =>
      if line.all isSpace then
        laterLines rest
      else
        (line.dropWhile isSpace).rdropWhile isSpace :: laterLines rest

/-- The first line is trimmed at its end, and not at all if it is the only one. -/
def keptLines : List JsString → List JsString
  | [] => []
  | [line] => [line]
  | line :: rest =>
      if line.all isSpace then
        laterLines rest
      else
        line.rdropWhile isSpace :: laterLines rest

/-- Lines joined with single spaces. -/
def joinLines : List JsString → JsString
  | [] => []
  | [line] => line
  | line :: rest => line ++ 0x20 :: joinLines rest

/-- `fixupWhitespaceAndDecodeEntities`; no line may be left. -/
def textValue (entities : EntityTable) (text : JsString) : Option JsString :=
  match keptLines (text.splitOnP isLineBreak) with
  | [] => none
  | lines => some (joinLines (lines.map (decode entities)))

/-! ## Escapes -/

/-- An escape leaves white space alone, and decoding undoes it. -/
structure Escapes (entities : EntityTable) (escape : CodeUnit → JsString) :
    Prop where
  space : ∀ unit, isSpaceLike unit = true → escape unit = [unit]
  solid : ∀ unit, isSpaceLike unit = false → ∀ part ∈ escape unit,
    isSpaceLike part = false
  decoded : ∀ unit rest,
    decode entities (escape unit ++ rest) = unit :: decode entities rest

section

variable
  {entities : EntityTable}
  {escape : CodeUnit → JsString}

theorem Escapes.ne_nil
    (escapes : Escapes entities escape)
    (unit : CodeUnit) :
    escape unit ≠ [] := by
  intro empty
  have decoded := escapes.decoded unit []
  rw [empty] at decoded
  cases decoded

theorem Escapes.decode_flatMap
    (escapes : Escapes entities escape)
    (text : JsString) :
    decode entities (text.flatMap escape) = text := by
  induction text with
  | nil => rfl
  | cons unit rest inductionHypothesis =>
      rw [List.flatMap_cons, escapes.decoded, inductionHypothesis]

theorem isSpaceLike_of_isSpace
    {unit : CodeUnit}
    (space : isSpace unit = true) :
    isSpaceLike unit = true := by
  rw [isSpaceLike, space, Bool.true_or]

theorem isSpaceLike_of_isLineBreak
    {unit : CodeUnit}
    (lineBreak : isLineBreak unit = true) :
    isSpaceLike unit = true := by
  rw [isSpaceLike, lineBreak, Bool.or_true]

theorem not_space_of_solid
    {unit : CodeUnit}
    (solid : isSpaceLike unit = false) :
    isSpace unit = false ∧ isLineBreak unit = false :=
  Bool.or_eq_false_iff.mp solid

theorem Escapes.isLineBreak_part
    (escapes : Escapes entities escape)
    {unit : CodeUnit}
    (within : isLineBreak unit = false) :
    ∀ part ∈ escape unit, isLineBreak part = false := by
  cases spaceLike : isSpaceLike unit with
  | true =>
      rw [escapes.space unit spaceLike, List.forall_mem_singleton]
      exact within
  | false =>
      intro part member
      exact (not_space_of_solid (escapes.solid unit spaceLike part member)).2

theorem Escapes.isSpace_part
    (escapes : Escapes entities escape)
    {unit : CodeUnit}
    (within : isSpace unit = false) :
    ∀ part ∈ escape unit, isSpace part = false := by
  cases spaceLike : isSpaceLike unit with
  | true =>
      rw [escapes.space unit spaceLike, List.forall_mem_singleton]
      exact within
  | false =>
      intro part member
      exact (not_space_of_solid (escapes.solid unit spaceLike part member)).1

theorem splitOnP_append
    {α : Type}
    {isEnd : α → Bool}
    {front : List α}
    (within : ∀ item ∈ front, isEnd item = false)
    (rest : List α) :
    (front ++ rest).splitOnP isEnd =
      (rest.splitOnP isEnd).modifyHead (front ++ ·) := by
  induction front with
  | nil =>
      rw [List.nil_append]
      cases rest.splitOnP isEnd <;> rfl
  | cons first more inductionHypothesis =>
      rw [List.forall_mem_cons] at within
      rw [List.cons_append, List.splitOnP_cons_eq_if_modifyHead,
        if_neg (by rw [within.1]; exact Bool.false_ne_true),
        inductionHypothesis within.2, List.modifyHead_modifyHead]
      rfl

section

variable (escapes : Escapes entities escape)

include escapes

/-- The lines of an escaped text are the escaped lines. -/
theorem Escapes.splitOnP_flatMap
    (text : JsString) :
    (text.flatMap escape).splitOnP isLineBreak =
      (text.splitOnP isLineBreak).map (List.flatMap escape) := by
  induction text with
  | nil => rfl
  | cons unit rest inductionHypothesis =>
      rw [List.flatMap_cons, List.splitOnP_cons_eq_if_modifyHead]
      cases lineBreak : isLineBreak unit with
      | true =>
          rw [escapes.space unit (isSpaceLike_of_isLineBreak lineBreak),
            List.singleton_append, List.splitOnP_cons_eq_if_modifyHead,
            if_pos lineBreak, if_pos rfl, inductionHypothesis, List.map_cons]
          rfl
      | false =>
          rw [splitOnP_append (escapes.isLineBreak_part lineBreak),
            inductionHypothesis, if_neg Bool.false_ne_true]
          cases rest.splitOnP isLineBreak with
          | nil => rfl
          | cons line lines => rfl

theorem Escapes.all_isSpace
    (line : JsString) :
    (line.flatMap escape).all isSpace = line.all isSpace := by
  induction line with
  | nil => rfl
  | cons unit rest inductionHypothesis =>
      rw [List.flatMap_cons, List.all_append, List.all_cons,
        inductionHypothesis]
      congr 1
      cases space : isSpace unit with
      | true =>
          rw [escapes.space unit (isSpaceLike_of_isSpace space), List.all_cons,
            List.all_nil, Bool.and_true, space]
      | false =>
          obtain ⟨part, parts, whole⟩ :=
            List.exists_cons_of_ne_nil (escapes.ne_nil unit)
          have solid := escapes.isSpace_part space part
            (by rw [whole]; exact List.mem_cons_self)
          rw [whole, List.all_cons, solid, Bool.false_and]

theorem Escapes.dropWhile_flatMap
    (line : JsString) :
    (line.flatMap escape).dropWhile isSpace =
      (line.dropWhile isSpace).flatMap escape := by
  induction line with
  | nil => rfl
  | cons unit rest inductionHypothesis =>
      cases space : isSpace unit with
      | true =>
          rw [List.flatMap_cons,
            escapes.space unit (isSpaceLike_of_isSpace space),
            List.singleton_append, List.dropWhile_cons_of_pos space,
            List.dropWhile_cons_of_pos space, inductionHypothesis]
      | false =>
          obtain ⟨part, parts, whole⟩ :=
            List.exists_cons_of_ne_nil (escapes.ne_nil unit)
          have solid := escapes.isSpace_part space part
            (by rw [whole]; exact List.mem_cons_self)
          rw [List.flatMap_cons, whole, List.cons_append,
            List.dropWhile_cons_of_neg (by rw [solid]; exact Bool.false_ne_true),
            List.dropWhile_cons_of_neg (by rw [space]; exact Bool.false_ne_true),
            List.flatMap_cons, whole, List.cons_append]

theorem Escapes.rdropWhile_flatMap
    (line : JsString) :
    (line.flatMap escape).rdropWhile isSpace =
      (line.rdropWhile isSpace).flatMap escape := by
  induction line using List.reverseRecOn with
  | nil => rfl
  | append_singleton front unit inductionHypothesis =>
      rw [List.flatMap_append, List.flatMap_singleton]
      cases space : isSpace unit with
      | true =>
          rw [escapes.space unit (isSpaceLike_of_isSpace space),
            List.rdropWhile_concat_pos _ _ _ space,
            List.rdropWhile_concat_pos _ _ _ space, inductionHypothesis]
      | false =>
          obtain ⟨parts, part, whole⟩ : ∃ parts part,
              escape unit = parts ++ [part] :=
            ⟨_, _, (List.dropLast_append_getLast (escapes.ne_nil unit)).symm⟩
          have solid := escapes.isSpace_part space part
            (by rw [whole]; exact List.mem_concat_self)
          rw [whole, ← List.append_assoc, List.rdropWhile_concat_neg _ _ _
              (by rw [solid]; exact Bool.false_ne_true),
            List.rdropWhile_concat_neg _ _ _
              (by rw [space]; exact Bool.false_ne_true),
            List.flatMap_append, List.flatMap_singleton, whole,
            List.append_assoc]

theorem Escapes.laterLines_map
    (lines : List JsString) :
    laterLines (lines.map (List.flatMap escape)) =
      (laterLines lines).map (List.flatMap escape) := by
  induction lines with
  | nil => rfl
  | cons line rest inductionHypothesis =>
      cases rest with
      | nil =>
          simp only [List.map_cons, List.map_nil, laterLines,
            escapes.all_isSpace, escapes.dropWhile_flatMap]
          split <;> rfl
      | cons next more =>
          simp only [List.map_cons, laterLines, escapes.all_isSpace,
            escapes.dropWhile_flatMap, escapes.rdropWhile_flatMap]
          simp only [List.map_cons] at inductionHypothesis
          rw [inductionHypothesis]
          split <;> rfl

theorem Escapes.keptLines_map
    (lines : List JsString) :
    keptLines (lines.map (List.flatMap escape)) =
      (keptLines lines).map (List.flatMap escape) := by
  match lines with
  | [] => rfl
  | [line] => rfl
  | line :: next :: more =>
      have rest := escapes.laterLines_map (next :: more)
      simp only [List.map_cons] at rest
      simp only [List.map_cons, keptLines, escapes.all_isSpace,
        escapes.rdropWhile_flatMap, rest]
      split <;> rfl

/-- An escaped text stands for its own lines, trimmed and joined. -/
theorem Escapes.textValue_flatMap
    (text : JsString) :
    textValue entities (text.flatMap escape) =
      match keptLines (text.splitOnP isLineBreak) with
      | [] => none
      | lines => some (joinLines lines) := by
  rw [textValue, escapes.splitOnP_flatMap, escapes.keptLines_map]
  cases keptLines (text.splitOnP isLineBreak) with
  | nil => rfl
  | cons line lines =>
      have undone : List.map (decode entities)
          (List.map (List.flatMap escape) (line :: lines)) = line :: lines := by
        rw [List.map_map]
        exact List.map_id'' (fun text => escapes.decode_flatMap text) _
      exact congrArg (fun lines => some (joinLines lines)) undone

end

end

/-! ## Texts after white space -/

theorem not_isLineBreak_of_mem_lines
    {text line : JsString}
    (member : line ∈ text.splitOnP isLineBreak) :
    ∀ unit ∈ line, isLineBreak unit = false := by
  induction text generalizing line with
  | nil =>
      rw [List.splitOnP_nil, List.mem_singleton] at member
      rw [member]
      exact nofun
  | cons first rest inductionHypothesis =>
      rw [List.splitOnP_cons_eq_if_modifyHead] at member
      split at member
      · rcases List.mem_cons.mp member with rfl | later
        · exact nofun
        · exact inductionHypothesis later
      · rename_i within
        rw [Bool.not_eq_true] at within
        cases isLines : rest.splitOnP isLineBreak with
        | nil =>
            rw [isLines] at member
            cases member
        | cons head lines =>
            rw [isLines] at member inductionHypothesis
            rcases List.mem_cons.mp member with rfl | later
            · rw [List.forall_mem_cons]
              exact ⟨within, inductionHypothesis List.mem_cons_self⟩
            · exact inductionHypothesis (List.mem_cons_of_mem _ later)

theorem subset_of_mem_laterLines
    {lines : List JsString}
    {kept : JsString}
    (member : kept ∈ laterLines lines) :
    ∃ line ∈ lines, kept ⊆ line := by
  induction lines with
  | nil => cases member
  | cons line rest inductionHypothesis =>
      cases rest with
      | nil =>
          rw [laterLines] at member
          split at member
          · cases member
          · rw [List.mem_singleton] at member
            rw [member]
            exact ⟨line, List.mem_cons_self,
              (List.dropWhile_sublist _).subset⟩
      | cons next more =>
          simp only [laterLines] at member
          split at member
          · obtain ⟨line, inRest, subset⟩ := inductionHypothesis member
            exact ⟨line, List.mem_cons_of_mem _ inRest, subset⟩
          · rcases List.mem_cons.mp member with rfl | later
            · exact ⟨line, List.mem_cons_self,
                List.Subset.trans (List.rdropWhile_prefix _ _).subset
                  (List.dropWhile_sublist _).subset⟩
            · obtain ⟨line, inRest, subset⟩ := inductionHypothesis later
              exact ⟨line, List.mem_cons_of_mem _ inRest, subset⟩

theorem subset_of_mem_keptLines
    {lines : List JsString}
    {kept : JsString}
    (member : kept ∈ keptLines lines) :
    ∃ line ∈ lines, kept ⊆ line := by
  match lines with
  | [] => cases member
  | [line] =>
      exact ⟨kept, member, List.Subset.refl kept⟩
  | line :: next :: more =>
      simp only [keptLines] at member
      split at member
      · obtain ⟨line, inRest, subset⟩ := subset_of_mem_laterLines member
        exact ⟨line, List.mem_cons_of_mem _ inRest, subset⟩
      · rcases List.mem_cons.mp member with rfl | later
        · exact ⟨line, List.mem_cons_self, (List.rdropWhile_prefix _ _).subset⟩
        · obtain ⟨line, inRest, subset⟩ := subset_of_mem_laterLines later
          exact ⟨line, List.mem_cons_of_mem _ inRest, subset⟩

theorem not_isLineBreak_of_mem_joinLines
    {lines : List JsString}
    (within : ∀ line ∈ lines, ∀ unit ∈ line, isLineBreak unit = false) :
    ∀ unit ∈ joinLines lines, isLineBreak unit = false := by
  induction lines with
  | nil => exact nofun
  | cons line rest inductionHypothesis =>
      rw [List.forall_mem_cons] at within
      cases rest with
      | nil => exact within.1
      | cons next more =>
          rw [joinLines, List.forall_mem_append, List.forall_mem_cons]
          · exact ⟨within.1, rfl, inductionHypothesis within.2⟩
          · exact nofun

theorem not_isLineBreak_of_mem_value (text : JsString) :
    ∀ unit ∈ joinLines (keptLines (text.splitOnP isLineBreak)),
      isLineBreak unit = false := by
  refine not_isLineBreak_of_mem_joinLines fun kept member => ?_
  obtain ⟨line, inLines, subset⟩ := subset_of_mem_keptLines member
  intro unit inKept
  exact not_isLineBreak_of_mem_lines inLines unit (subset inKept)

theorem laterLines_modifyHead_cons
    {unit : CodeUnit}
    (space : isSpace unit = true)
    (lines : List JsString) :
    laterLines (lines.modifyHead (unit :: ·)) = laterLines lines := by
  match lines with
  | [] => rfl
  | [line] =>
      simp only [List.modifyHead_cons, laterLines, List.all_cons, space,
        Bool.true_and, List.dropWhile_cons_of_pos space]
  | line :: next :: more =>
      simp only [List.modifyHead_cons, laterLines, List.all_cons, space,
        Bool.true_and, List.dropWhile_cons_of_pos space]

theorem laterLines_append
    {lead content : JsString}
    (white : ∀ unit ∈ lead, isSpaceLike unit = true)
    (within : ∀ unit ∈ content, isLineBreak unit = false) :
    laterLines ((lead ++ content).splitOnP isLineBreak) =
      laterLines [content] := by
  induction lead with
  | nil => rw [List.nil_append, List.splitOnP_eq_singleton within]
  | cons unit rest inductionHypothesis =>
      rw [List.forall_mem_cons] at white
      rw [List.cons_append, List.splitOnP_cons_eq_if_modifyHead]
      split
      · obtain ⟨line, lines, isLines⟩ := List.exists_cons_of_ne_nil
          (List.splitOnP_ne_nil isLineBreak (rest ++ content))
        rw [← inductionHypothesis white.2, isLines]
        rfl
      · rename_i notBreak
        have space : isSpace unit = true := by
          have spaceLike := white.1
          rw [isSpaceLike, Bool.eq_false_iff.mpr notBreak, Bool.or_false]
            at spaceLike
          exact spaceLike
        rw [laterLines_modifyHead_cons space, inductionHypothesis white.2]

theorem keptLines_append
    {lead content : JsString}
    (white : ∀ unit ∈ lead, isSpaceLike unit = true)
    (ends : ∃ unit ∈ lead, isLineBreak unit = true)
    (within : ∀ unit ∈ content, isLineBreak unit = false) :
    keptLines ((lead ++ content).splitOnP isLineBreak) =
      laterLines [content] := by
  obtain ⟨blank, line, lines, isLines, isBlank, isLater⟩ :
      ∃ blank line lines,
        (lead ++ content).splitOnP isLineBreak = blank :: line :: lines ∧
          blank.all isSpace = true ∧
          laterLines (line :: lines) = laterLines [content] := by
    induction lead with
    | nil => simp at ends
    | cons unit rest inductionHypothesis =>
        rw [List.forall_mem_cons] at white
        rw [List.cons_append, List.splitOnP_cons_eq_if_modifyHead]
        split
        · obtain ⟨line, lines, isLines⟩ := List.exists_cons_of_ne_nil
            (List.splitOnP_ne_nil isLineBreak (rest ++ content))
          have isLater := laterLines_append white.2 within
          rw [isLines] at isLater
          exact ⟨[], line, lines, by rw [isLines], rfl, isLater⟩
        · rename_i notBreak
          have space : isSpace unit = true := by
            have spaceLike := white.1
            rw [isSpaceLike, Bool.eq_false_iff.mpr notBreak, Bool.or_false]
              at spaceLike
            exact spaceLike
          obtain ⟨blank, line, lines, isLines, isBlank, isLater⟩ :=
            inductionHypothesis white.2 (by simpa [notBreak] using ends)
          refine ⟨unit :: blank, line, lines, by rw [isLines]; rfl, ?_, isLater⟩
          rw [List.all_cons, space, isBlank]
          rfl
  rw [isLines, keptLines, if_pos isBlank, isLater]
  exact nofun

theorem dropWhile_eq_self
    {isDropped : CodeUnit → Bool}
    {text : JsString} :
    text.dropWhile isDropped = text ↔
      ∀ unit, text.head? = some unit → isDropped unit = false := by
  cases text with
  | nil => simp
  | cons first rest =>
      rw [List.dropWhile_cons]
      constructor
      · intro same unit isFirst
        cases isFirst
        split at same
        · have shorter := (List.dropWhile_sublist isDropped (l := rest)).length_le
          rw [same] at shorter
          simp at shorter
        · rename_i kept
          exact Bool.eq_false_iff.mpr kept
      · intro kept
        rw [if_neg (Bool.eq_false_iff.mp (kept first rfl))]

theorem joinLines_laterLines_singleton
    {content : JsString} :
    joinLines (laterLines [content]) = content ↔
      ∀ unit, content.head? = some unit → isSpace unit = false := by
  rw [laterLines]
  split
  · rename_i blank
    cases content with
    | nil => simp [joinLines]
    | cons first rest =>
        rw [List.all_cons, Bool.and_eq_true] at blank
        simp [joinLines, blank.1]
  · exact dropWhile_eq_self

theorem keptLines_of_one_line
    {text : JsString}
    (within : ∀ unit ∈ text, isLineBreak unit = false) :
    keptLines (text.splitOnP isLineBreak) = [text] := by
  rw [List.splitOnP_eq_singleton within]
  rfl

variable
  {entities : EntityTable}
  {escape : CodeUnit → JsString}

/--
An escaped text after white space stands for the text exactly if the text is one
line, and nothing is in front of it, or the end of a line is and no space leads
the text.
-/
theorem Escapes.value_append_iff
    (escapes : Escapes entities escape)
    {lead content : JsString}
    (white : ∀ unit ∈ lead, isSpaceLike unit = true) :
    (textValue entities ((lead ++ content).flatMap escape)).getD [] =
        content ↔
      (∀ unit ∈ content, isLineBreak unit = false) ∧
        (lead = [] ∨
          (∃ unit ∈ lead, isLineBreak unit = true) ∧
            ∀ unit, content.head? = some unit → isSpace unit = false) := by
  have value : (textValue entities ((lead ++ content).flatMap escape)).getD [] =
      joinLines (keptLines ((lead ++ content).splitOnP isLineBreak)) := by
    rw [escapes.textValue_flatMap]
    cases keptLines ((lead ++ content).splitOnP isLineBreak) <;> rfl
  rw [value]
  by_cases within : ∀ unit ∈ content, isLineBreak unit = false
  · rw [and_iff_right within]
    by_cases ends : ∃ unit ∈ lead, isLineBreak unit = true
    · rw [keptLines_append white ends within, joinLines_laterLines_singleton,
        and_iff_right ends, or_iff_right]
      rintro rfl
      simp at ends
    · have oneLine : ∀ unit ∈ lead ++ content, isLineBreak unit = false := by
        simp only [not_exists, not_and, Bool.not_eq_true] at ends
        rw [List.forall_mem_append]
        exact ⟨ends, within⟩
      rw [keptLines_of_one_line oneLine, or_iff_left fun later => ends later.1]
      exact List.append_left_eq_self
  · refine iff_of_false (fun same => within ?_) fun both => within both.1
    rw [← same]
    exact not_isLineBreak_of_mem_value (lead ++ content)

end Jsx
