import Selene.JsonParse
import Selene.JsonTextSize
import Selene.TextLines

/-!
# Unified diffs

A unified diff names a file before and after a change and lists hunks: lines
that are kept, deleted and inserted, with the place of the hunk on both sides.
The last line of a side may lack its newline; a note after the line says so.

`parse` reads the text of a diff and `apply` patches a text with it, or fails
where the diff does not fit.  What is written is read back (`parse_text`).
-/

namespace Js.Diff

/-! ## Diffs -/

inductive EditKind where
  | keep
  | delete
  | insert
  deriving DecidableEq

/-- How many lines of the old side an edit is. -/
def EditKind.onOld : EditKind → Nat
  | .keep => 1
  | .delete => 1
  | .insert => 0

/-- How many lines of the new side an edit is. -/
def EditKind.onNew : EditKind → Nat
  | .keep => 1
  | .delete => 0
  | .insert => 1

structure Edit where
  kind : EditKind
  line : JsString
  deriving DecidableEq

structure Hunk where
  oldStart : Nat
  oldCount : Nat
  newStart : Nat
  newCount : Nat
  edits : List Edit
  deriving DecidableEq

structure FileDiff where
  oldName : JsString
  newName : JsString
  hunks : List Hunk
  deriving DecidableEq

/-- The lines that the edits expect. -/
def oldSide (edits : List Edit) : List JsString :=
  (edits.filter fun edit => decide (edit.kind.onOld = 1)).map Edit.line

/-- The lines that the edits leave. -/
def newSide (edits : List Edit) : List JsString :=
  (edits.filter fun edit => decide (edit.kind.onNew = 1)).map Edit.line

/-! ## Patching -/

/-- How many lines come before a place; an empty place is after its line. -/
def linesBefore (start count : Nat) : Nat :=
  if count = 0 then start else start - 1

/-- A hunk fits lines that come after others on both sides. -/
def Hunk.Fits (hunk : Hunk) (oldAt newAt : Nat) (rest : List JsString) : Prop :=
  hunk.oldCount = (oldSide hunk.edits).length ∧
    hunk.newCount = (newSide hunk.edits).length ∧
    oldAt ≤ linesBefore hunk.oldStart hunk.oldCount ∧
    linesBefore hunk.newStart hunk.newCount - newAt =
      linesBefore hunk.oldStart hunk.oldCount - oldAt ∧
    newAt ≤ linesBefore hunk.newStart hunk.newCount ∧
    oldSide hunk.edits <+:
      rest.drop (linesBefore hunk.oldStart hunk.oldCount - oldAt)

instance (hunk : Hunk) (oldAt newAt : Nat) (rest : List JsString) :
    Decidable (hunk.Fits oldAt newAt rest) :=
  inferInstanceAs (Decidable (_ ∧ _))

/-- Patch the lines that come after others on both sides. -/
def applyHunks (oldAt newAt : Nat) (rest : List JsString) :
    List Hunk → Option (List JsString)
  | [] => some rest
  | hunk :: hunks =>
      if hunk.Fits oldAt newAt rest then
        let skipped := linesBefore hunk.oldStart hunk.oldCount - oldAt
        (applyHunks (oldAt + skipped + hunk.oldCount)
            (newAt + skipped + hunk.newCount)
            (rest.drop (skipped + hunk.oldCount)) hunks).map fun patched =>
          rest.take skipped ++ newSide hunk.edits ++ patched
      else
        none

/-! ## The text of a diff -/

/-- The unit that an edit is marked with. -/
def EditKind.mark : EditKind → CodeUnit
  | .keep => 0x20
  | .delete => 0x2D
  | .insert => 0x2B

/-- What follows a line that lacks its newline. -/
def missingNewline : JsString :=
  js "\n\\ No newline at end of file\n"

def Edit.text (edit : Edit) : JsString :=
  edit.kind.mark :: edit.line ++
    if edit.line.getLast? = some newline then [] else missingNewline

def Hunk.header (hunk : Hunk) : JsString :=
  js "@@ -" ++ decimalDigits hunk.oldStart ++ js "," ++
    decimalDigits hunk.oldCount ++ js " +" ++ decimalDigits hunk.newStart ++
    js "," ++ decimalDigits hunk.newCount ++ js " @@\n"

def Hunk.text (hunk : Hunk) : JsString :=
  hunk.header ++ hunk.edits.flatMap Edit.text

def FileDiff.text (diff : FileDiff) : JsString :=
  js "--- " ++ diff.oldName ++ js "\n+++ " ++ diff.newName ++ js "\n" ++
    diff.hunks.flatMap Hunk.text

/-! ## Reading -/

/-- What follows a given start. -/
def after? (start text : JsString) : Option JsString :=
  if start <+: text then some (text.drop start.length) else none

/-- The number that decimal digits denote. -/
def digitsValue (digits : JsString) : Nat :=
  Nat.ofDigitChars 10 (digits.map fun unit => Char.ofNat unit.val) 0

/-- A number at the start of a text. -/
def readNumber (text : JsString) : Option (Nat × JsString) :=
  if text.takeWhile isDecimalDigit = [] then none
  else
    some (digitsValue (text.takeWhile isDecimalDigit),
      text.dropWhile isDecimalDigit)

/-- The places of a hunk. -/
def readHeader (line : JsString) : Option (Nat × Nat × Nat × Nat) := do
  let (oldStart, rest) ← (after? (js "@@ -") line).bind readNumber
  let (oldCount, rest) ← (after? (js ",") rest).bind readNumber
  let (newStart, rest) ← (after? (js " +") rest).bind readNumber
  let (newCount, rest) ← (after? (js ",") rest).bind readNumber
  let _ ← after? (js " @@") rest
  pure (oldStart, oldCount, newStart, newCount)

/-- Take the newline off each line that a note follows. -/
def settleNotes : List JsString → List JsString
  | [] => []
  | [line] => [line]
  | line :: next :: rest =>
      if next.head? = some 0x5C then line.dropLast :: settleNotes rest
      else line :: settleNotes (next :: rest)

/-- The edit that a marked line is. -/
def readEdit : JsString → Option Edit
  | [] => none
  | mark :: line =>
      if mark = EditKind.keep.mark then some ⟨.keep, line⟩
      else if mark = EditKind.delete.mark then some ⟨.delete, line⟩
      else if mark = EditKind.insert.mark then some ⟨.insert, line⟩
      else none

/-- The edits of a hunk, up to its counts, and the lines after them. -/
def readEdits : List JsString → Nat → Nat →
    Option (List Edit × List JsString)
  | lines, 0, 0 => some ([], lines)
  | [], _, _ => none
  | line :: rest, old, new =>
      match readEdit line with
      | none => none
      | some edit =>
          if edit.kind.onOld ≤ old ∧ edit.kind.onNew ≤ new then
            (readEdits rest (old - edit.kind.onOld)
              (new - edit.kind.onNew)).map fun (edits, later) =>
                (edit :: edits, later)
          else
            none

/-- The hunks in the lines of a diff; each takes at least its header. -/
def readHunks : Nat → List JsString → Option (List Hunk)
  | _, [] => some []
  | 0, _ :: _ => none
  | fuel + 1, header :: lines => do
      let (oldStart, oldCount, newStart, newCount) ← readHeader header
      let (edits, rest) ← readEdits lines oldCount newCount
      let hunks ← readHunks fuel rest
      pure (⟨oldStart, oldCount, newStart, newCount, edits⟩ :: hunks)

/-- The diff that a text is. -/
def parse (text : JsString) : Option FileDiff :=
  match settleNotes (splitLines text) with
  | first :: second :: lines => do
      let oldName ← after? (js "--- ") first
      let newName ← after? (js "+++ ") second
      let hunks ← readHunks lines.length lines
      pure ⟨oldName.dropLast, newName.dropLast, hunks⟩
  | _ => none

/-- Patch a text with the text of a diff. -/
def apply (diff content : JsString) : Option JsString := do
  let parsed ← parse diff
  let patched ← applyHunks 0 0 (splitLines content) parsed.hunks
  pure patched.flatten

/-! ## What is written is read back -/

/-- A diff of lines, with counts that are right. -/
structure Hunk.WellFormed (hunk : Hunk) : Prop where
  oldCount : hunk.oldCount = (oldSide hunk.edits).length
  newCount : hunk.newCount = (newSide hunk.edits).length
  lines : ∀ edit ∈ hunk.edits, IsLine edit.line

structure FileDiff.WellFormed (diff : FileDiff) : Prop where
  oldName : newline ∉ diff.oldName
  newName : newline ∉ diff.newName
  hunks : ∀ hunk ∈ diff.hunks, hunk.WellFormed

theorem after?_append
    (start rest : JsString) :
    after? start (start ++ rest) = some rest := by
  rw [after?, if_pos (List.prefix_append start rest), List.drop_left]

theorem digitsValue_decimalDigits
    (value : Nat) :
    digitsValue (decimalDigits value) = value := by
  have chars : ∀ digits : List Char, (∀ digit ∈ digits, digit.isDigit = true) →
      (digits.flatMap scalarUnits).map (fun unit => Char.ofNat unit.val) =
        digits := by
    intro digits allDigits
    induction digits with
    | nil => rfl
    | cons digit rest inductionHypothesis =>
        rw [List.forall_mem_cons] at allDigits
        have range : 48 ≤ digit.toNat ∧ digit.toNat ≤ 57 := by
          simpa [Char.isDigit, UInt32.le_iff_toNat_le] using allDigits.1
        have units : scalarUnits digit = [Fin.ofNat 65536 digit.toNat] := by
          rw [scalarUnits, if_pos (by omega)]
        have small : digit.toNat % 65536 = digit.toNat :=
          Nat.mod_eq_of_lt (by omega)
        rw [List.flatMap_cons, units, List.map_append,
          inductionHypothesis allDigits.2, List.map_singleton, Fin.val_ofNat,
          small, Char.ofNat_toNat]
        rfl
  rw [digitsValue, decimalDigits, chars _ fun digit member =>
    Nat.isDigit_of_mem_toDigits (by decide) (by decide) member]
  exact Nat.ofDigitChars_ten_toDigits

theorem readNumber_decimalDigits
    (value : Nat)
    {rest : JsString}
    (stops : ∀ unit ∈ rest.head?, isDecimalDigit unit = false) :
    readNumber (decimalDigits value ++ rest) = some (value, rest) := by
  have digits : ∀ unit ∈ decimalDigits value, isDecimalDigit unit = true := by
    intro unit member
    exact decide_eq_true (digit_of_mem_decimalDigits member)
  have taken : (decimalDigits value ++ rest).takeWhile isDecimalDigit =
      decimalDigits value := by
    rw [List.takeWhile_append_of_pos digits]
    cases rest with
    | nil => simp
    | cons unit rest => simp [stops unit rfl]
  have dropped : (decimalDigits value ++ rest).dropWhile isDecimalDigit =
      rest := by
    rw [List.dropWhile_append_of_pos digits]
    cases rest with
    | nil => rfl
    | cons unit rest => simp [stops unit rfl]
  have some : decimalDigits value ≠ [] := decimal.nonempty value
  rw [readNumber, taken, dropped, if_neg some, digitsValue_decimalDigits]

theorem readHeader_header
    (hunk : Hunk) :
    readHeader hunk.header =
      some (hunk.oldStart, hunk.oldCount, hunk.newStart, hunk.newCount) := by
  have comma : ∀ (value : Nat) (rest : JsString),
      readNumber (decimalDigits value ++ (js "," ++ rest)) =
        some (value, js "," ++ rest) := by
    intro value rest
    refine readNumber_decimalDigits value fun unit first => ?_
    cases Option.some.inj first
    decide
  have space : ∀ (value : Nat) (rest : JsString),
      readNumber (decimalDigits value ++ (js " +" ++ rest)) =
        some (value, js " +" ++ rest) := by
    intro value rest
    refine readNumber_decimalDigits value fun unit first => ?_
    cases Option.some.inj first
    decide
  have ending : readNumber (decimalDigits hunk.newCount ++ js " @@\n") =
      some (hunk.newCount, js " @@\n") := by
    refine readNumber_decimalDigits _ fun unit first => ?_
    cases Option.some.inj first
    decide
  have close : after? (js " @@") (js " @@\n") = some [newline] :=
    after?_append (js " @@") [newline]
  simp only [readHeader, Hunk.header, List.append_assoc, after?_append,
    Option.bind_some, comma, space, ending, close, Option.bind_eq_bind,
    Option.pure_def]

theorem isTerminated_header
    (hunk : Hunk) :
    IsTerminated hunk.header := by
  have digits : ∀ value : Nat, newline ∉ decimalDigits value := by
    intro value member
    have range := digit_of_mem_decimalDigits member
    revert range
    decide
  refine ⟨js "@@ -" ++ decimalDigits hunk.oldStart ++ js "," ++
    decimalDigits hunk.oldCount ++ js " +" ++ decimalDigits hunk.newStart ++
    js "," ++ decimalDigits hunk.newCount ++ js " @@", ?_, ?_⟩
  · simp only [List.mem_append, digits, or_false, not_or]
    decide
  · rw [Hunk.header, List.append_assoc _ (js " @@") [newline]]
    rfl

/-- The marked line of an edit. -/
def Edit.marked (edit : Edit) : JsString :=
  edit.kind.mark :: edit.line

/-- No note comes first. -/
def StartsPlain (lines : List JsString) : Prop :=
  ∀ line ∈ lines.head?, line.head? ≠ some 0x5C

theorem settleNotes_cons
    {lines : List JsString}
    (plain : StartsPlain lines)
    (line : JsString) :
    settleNotes (line :: lines) = line :: settleNotes lines := by
  cases lines with
  | nil => rfl
  | cons next rest => rw [settleNotes, if_neg (plain next rfl)]

theorem EditKind.mark_ne
    (kind : EditKind) :
    kind.mark ≠ 0x5C ∧ kind.mark ≠ newline := by
  cases kind <;> decide

theorem splitLines_edit
    {edit : Edit}
    (isLine : IsLine edit.line)
    (rest : JsString) :
    splitLines (edit.text ++ rest) = edit.marked :: splitLines rest ∨
      splitLines (edit.text ++ rest) =
        (edit.marked ++ [newline]) ::
          js "\\ No newline at end of file\n" :: splitLines rest := by
  rcases isLine with plain | ⟨body, plain, isLine⟩
  · right
    have last : edit.line.getLast? ≠ some newline := fun isLast =>
      plain (List.mem_of_getLast? isLast)
    have marked : newline ∉ edit.marked := by
      rw [Edit.marked, List.mem_cons, not_or]
      exact ⟨Ne.symm edit.kind.mark_ne.2, plain⟩
    have note : IsTerminated (js "\\ No newline at end of file\n") :=
      ⟨js "\\ No newline at end of file", by decide, by decide⟩
    have shape : edit.text ++ rest =
        edit.marked ++ newline ::
          (js "\\ No newline at end of file\n" ++ rest) := by
      rw [Edit.text, if_neg last, List.append_assoc]
      rfl
    rw [shape, splitLines_body_append marked, note.splitLines_append]
  · left
    have last : edit.line.getLast? = some newline := by
      rw [isLine, List.getLast?_concat]
    have marked : IsTerminated edit.marked := by
      refine ⟨edit.kind.mark :: body, ?_, by rw [Edit.marked, isLine]; rfl⟩
      rw [List.mem_cons, not_or]
      exact ⟨Ne.symm edit.kind.mark_ne.2, plain⟩
    rw [Edit.text, if_pos last, List.append_nil]
    exact marked.splitLines_append rest

theorem settleNotes_edits
    {edits : List Edit}
    (areLines : ∀ edit ∈ edits, IsLine edit.line)
    {rest : JsString}
    (plain : StartsPlain (splitLines rest)) :
    settleNotes (splitLines (edits.flatMap Edit.text ++ rest)) =
        edits.map Edit.marked ++ settleNotes (splitLines rest) ∧
      StartsPlain (splitLines (edits.flatMap Edit.text ++ rest)) := by
  induction edits with
  | nil => exact ⟨rfl, plain⟩
  | cons edit edits inductionHypothesis =>
      rw [List.forall_mem_cons] at areLines
      obtain ⟨settled, starts⟩ := inductionHypothesis areLines.2
      rw [List.flatMap_cons, List.append_assoc, List.map_cons, List.cons_append]
      rcases splitLines_edit areLines.1 (edits.flatMap Edit.text ++ rest) with
        lines | lines
      · rw [lines, settleNotes_cons starts, settled]
        refine ⟨rfl, fun line isFirst => ?_⟩
        cases Option.some.inj isFirst
        exact fun isMark => edit.kind.mark_ne.1 (Option.some.inj isMark)
      · rw [lines, settleNotes, if_pos (by decide), settled,
          List.dropLast_concat]
        refine ⟨rfl, fun line isFirst => ?_⟩
        cases Option.some.inj isFirst
        exact fun isMark => edit.kind.mark_ne.1 (Option.some.inj isMark)

/-- The lines of a hunk. -/
def Hunk.lines (hunk : Hunk) : List JsString :=
  hunk.header :: hunk.edits.map Edit.marked

theorem settleNotes_hunks
    {hunks : List Hunk}
    (wellFormed : ∀ hunk ∈ hunks, hunk.WellFormed) :
    settleNotes (splitLines (hunks.flatMap Hunk.text)) =
        hunks.flatMap Hunk.lines ∧
      StartsPlain (splitLines (hunks.flatMap Hunk.text)) := by
  induction hunks with
  | nil => exact ⟨rfl, fun _ none => by cases none⟩
  | cons hunk hunks inductionHypothesis =>
      rw [List.forall_mem_cons] at wellFormed
      obtain ⟨settled, starts⟩ := inductionHypothesis wellFormed.2
      obtain ⟨edits, startsEdits⟩ :=
        settleNotes_edits wellFormed.1.lines starts
      rw [List.flatMap_cons, Hunk.text, List.append_assoc,
        (isTerminated_header hunk).splitLines_append,
        settleNotes_cons startsEdits, edits, settled]
      refine ⟨rfl, fun line isFirst => ?_⟩
      cases Option.some.inj isFirst
      have first : hunk.header.head? = some 0x40 := by
        simp only [Hunk.header, List.append_assoc]
        rfl
      rw [first]
      decide

theorem readEdit_marked
    (edit : Edit) :
    readEdit edit.marked = some edit := by
  obtain ⟨kind, line⟩ := edit
  cases kind <;> rfl

theorem length_oldSide_cons
    (edit : Edit)
    (edits : List Edit) :
    (oldSide (edit :: edits)).length =
      edit.kind.onOld + (oldSide edits).length := by
  obtain ⟨kind, line⟩ := edit
  cases kind <;> simp [oldSide, EditKind.onOld, Nat.add_comm]

theorem length_newSide_cons
    (edit : Edit)
    (edits : List Edit) :
    (newSide (edit :: edits)).length =
      edit.kind.onNew + (newSide edits).length := by
  obtain ⟨kind, line⟩ := edit
  cases kind <;> simp [newSide, EditKind.onNew, Nat.add_comm]

theorem readEdits_marked
    (edits : List Edit)
    (rest : List JsString) :
    readEdits (edits.map Edit.marked ++ rest) (oldSide edits).length
        (newSide edits).length = some (edits, rest) := by
  induction edits with
  | nil => simp [oldSide, newSide, readEdits]
  | cons edit edits inductionHypothesis =>
      rw [length_oldSide_cons, length_newSide_cons, List.map_cons,
        List.cons_append, readEdits]
      · rw [readEdit_marked]
        simp only [Nat.le_add_right, and_self, ↓reduceIte,
          Nat.add_sub_cancel_left, inductionHypothesis, Option.map_some]
      · intro old new
        cases kind : edit.kind <;> rw [kind] at old new <;>
          simp only [EditKind.onOld, EditKind.onNew] at old new <;> omega

theorem readHunks_lines
    {hunks : List Hunk}
    (wellFormed : ∀ hunk ∈ hunks, hunk.WellFormed)
    {fuel : Nat}
    (enough : hunks.length ≤ fuel) :
    readHunks fuel (hunks.flatMap Hunk.lines) = some hunks := by
  induction hunks generalizing fuel with
  | nil => cases fuel <;> rfl
  | cons hunk hunks inductionHypothesis =>
      rw [List.forall_mem_cons] at wellFormed
      cases fuel with
      | zero => cases enough
      | succ fuel =>
          have later := inductionHypothesis wellFormed.2
            (Nat.le_of_succ_le_succ enough)
          rw [List.flatMap_cons, Hunk.lines, List.cons_append, readHunks,
            readHeader_header]
          simp only [Option.bind_eq_bind, Option.bind_some,
            wellFormed.1.oldCount, wellFormed.1.newCount, readEdits_marked,
            later, Option.pure_def]
          rw [← wellFormed.1.oldCount, ← wellFormed.1.newCount]

theorem parse_text
    {diff : FileDiff}
    (wellFormed : diff.WellFormed) :
    parse diff.text = some diff := by
  obtain ⟨settled, starts⟩ := settleNotes_hunks wellFormed.hunks
  have shape : diff.text =
      (js "--- " ++ diff.oldName) ++ newline ::
        ((js "+++ " ++ diff.newName) ++ newline ::
          diff.hunks.flatMap Hunk.text) := by
    simp only [FileDiff.text, List.append_assoc]
    rfl
  have old : newline ∉ js "--- " ++ diff.oldName := by
    rw [List.mem_append, not_or]
    exact ⟨by decide, wellFormed.oldName⟩
  have new : newline ∉ js "+++ " ++ diff.newName := by
    rw [List.mem_append, not_or]
    exact ⟨by decide, wellFormed.newName⟩
  have second : StartsPlain ((js "+++ " ++ diff.newName ++ [newline]) ::
      splitLines (diff.hunks.flatMap Hunk.text)) := by
    intro line isFirst
    cases Option.some.inj isFirst
    exact fun isNote => absurd (Option.some.inj isNote) (by decide)
  have enough : diff.hunks.length ≤
      (diff.hunks.flatMap Hunk.lines).length := by
    generalize diff.hunks = hunks
    induction hunks with
    | nil => exact Nat.le_refl _
    | cons hunk hunks inductionHypothesis =>
        simp only [List.flatMap_cons, List.length_append, List.length_cons,
          Hunk.lines]
        omega
  rw [parse, shape, splitLines_body_append old, splitLines_body_append new,
    settleNotes_cons second, settleNotes_cons starts, settled]
  simp only [List.append_assoc, after?_append, Option.bind_eq_bind,
    Option.bind_some, readHunks_lines wellFormed.hunks enough,
    List.dropLast_concat, Option.pure_def]

end Js.Diff
