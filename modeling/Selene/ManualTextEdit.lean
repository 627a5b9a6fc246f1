import Selene.SetContentPatch

/-!
# Editing the text of an element by hand

A text edit starts from the content that its capability reports, which is the
source of the element's text from its first token on.  An edit writes its content
escaped, so the two fit only where the source is what it stands for: one line,
without entities, with no white space in front of it or with the end of a line
there (`startsFromRendered_iff`).
-/

namespace Selene.ReactTsx

open Js Jsx

/-- The longest content that is reported or taken. -/
def maxManualText : Nat := 32768

/-- `text.substring(start, stop)`, which takes its bounds in either order. -/
def substring (text : JsString) (start stop : Nat) : JsString :=
  (text.take (max start stop)).drop (min start stop)

/--
The content that `manualTextProposal` reports for the element of a node;
`parses` stands for the check of the proposal that holds a content.
-/
def manualTextProposal (scanner : TextScanner) (parses : JsString → Bool)
    (source : ElementSource) : Option JsString :=
  match source.children with
  | [.jsxText text] =>
      -- `child.getText(source)`
      let currentContent := substring source.content (scanner.getStart source)
        (source.before.length + text.length)
      if maxManualText < currentContent.length then none
      else if parses currentContent then some currentContent
      else none
  | _ => none

/-- `applyManualTextEdit` of a capability that is current. -/
def applyManualTextEdit (scanner : TextScanner)
    (hasDiagnostic : JsString → Bool) (source : ElementSource)
    (content : JsString) : Option (Except ElementEditCode JsString) :=
  if maxManualText < content.length then none
  else
    some (prepareElementEdit hasDiagnostic [source]
      (setContentPatch scanner content))

/--
The reported content is what the element renders, and to apply it unchanged
changes nothing of that.
-/
structure StartsFromRendered (entities : EntityTable) (scanner : TextScanner)
    (hasDiagnostic : JsString → Bool) (source : ElementSource)
    (content : JsString) : Prop where
  rendered : renderedText entities source.children = some content
  unchanged : ∀ nextContent,
    applyManualTextEdit scanner hasDiagnostic source content =
        some (.ok nextContent) →
      ∃ text, nextContent = source.before ++ text ++ source.after ∧
        IsMarkupFree text ∧
        renderedText entities (childrenOf text) =
          renderedText entities source.children

/-- A text from its first unit on that is not white space. -/
def sourceText (text : JsString) : JsString :=
  text.drop (leadOf text).length

/--
A text stands for its source: one line without entities, after nothing or after
white space that ends a line.
-/
structure StandsForItself (entities : EntityTable) (text : JsString) :
    Prop where
  oneLine : ∀ unit ∈ sourceText text, isLineBreak unit = false
  lead : leadOf text = [] ∨ ∃ unit ∈ leadOf text, isLineBreak unit = true
  plain : decode entities (sourceText text) = sourceText text

variable {entities : EntityTable} {text : JsString}

theorem leadOf_append_sourceText (text : JsString) :
    leadOf text ++ sourceText text = text := by
  have whole : leadOf text ++ text.dropWhile isSpaceLike = text :=
    List.takeWhile_append_dropWhile
  have rest : sourceText text = text.dropWhile isSpaceLike := by
    rw [sourceText]
    nth_rewrite 2 [← whole]
    exact List.drop_left
  rw [rest, whole]

theorem sourceText_head :
    ∀ unit, (sourceText text).head? = some unit → isSpace unit = false := by
  have rest : sourceText text = text.dropWhile isSpaceLike :=
    List.append_cancel_left ((leadOf_append_sourceText text).trans
      List.takeWhile_append_dropWhile.symm)
  intro unit isFirst
  rw [rest] at isFirst
  have solid := List.head?_dropWhile_not isSpaceLike text
  rw [isFirst] at solid
  exact (not_space_of_solid (by simpa using solid)).1

theorem textValue_of_shape
    (oneLine : ∀ unit ∈ sourceText text, isLineBreak unit = false)
    (lead : leadOf text = [] ∨ ∃ unit ∈ leadOf text, isLineBreak unit = true) :
    (textValue entities text).getD [] = decode entities (sourceText text) := by
  have whole := leadOf_append_sourceText text
  rw [textValue]
  rcases lead with none | ends
  · rw [none, List.nil_append] at whole
    rw [whole] at oneLine ⊢
    rw [keptLines_of_one_line oneLine]
    rfl
  · nth_rewrite 1 [← whole]
    rw [keptLines_append (fun _ => isSpaceLike_of_mem_leadOf) ends oneLine]
    cases isText : sourceText text with
    | nil => rfl
    | cons first rest =>
        have solid := @sourceText_head text first (by rw [isText]; rfl)
        have kept : laterLines [first :: rest] = [first :: rest] := by
          simp only [laterLines, List.all_cons, solid, Bool.false_and,
            Bool.false_eq_true, if_false, List.dropWhile_cons]
        rw [kept]
        rfl

variable
  {scanner : TextScanner}
  {hasDiagnostic : JsString → Bool}
  {parses : JsString → Bool}
  {source : ElementSource}
  {content : JsString}

/-- `getText` of a text without a marker. -/
theorem substring_getStart
    (scanner : TextScanner)
    (isText : source.children = [.jsxText text])
    (unmarked : beginsWithMarker text = false) :
    substring source.content (scanner.getStart source)
        (source.before.length + text.length) = sourceText text := by
  have within : (leadOf text).length ≤ text.length :=
    (List.takeWhile_prefix isSpaceLike).length_le
  rw [scanner.skipsSpace source text isText unmarked, substring,
    max_eq_right (Nat.add_le_add_left within _),
    min_eq_left (Nat.add_le_add_left within _), ElementSource.content, isText,
    sourceText]
  simp only [List.flatMap_cons, List.flatMap_nil, List.append_nil,
    JsxChild.text]
  have front : (source.before ++ text ++ source.after).take
      (source.before.length + text.length) = source.before ++ text := by
    rw [← List.length_append, List.take_left]
  rw [front, ← List.drop_drop, List.drop_left]

theorem manualTextProposal_eq_some
    (isText : source.children = [.jsxText text])
    (unmarked : beginsWithMarker text = false)
    (reported : manualTextProposal scanner parses source = some content) :
    content = sourceText text ∧ content.length ≤ maxManualText := by
  rw [manualTextProposal, isText] at reported
  dsimp only at reported
  rw [substring_getStart scanner isText unmarked] at reported
  split at reported
  · cases reported
  · rename_i short
    split at reported
    · cases reported
      exact ⟨rfl, Nat.le_of_not_lt short⟩
    · cases reported

/--
A text edit starts from what is rendered exactly if the text stands for itself.
The parser takes every text without markup as the text of the element.
-/
theorem startsFromRendered_iff
    (entities : EntityTable)
    (scanner : TextScanner)
    (isText : source.children = [.jsxText text])
    (unmarked : beginsWithMarker text = false)
    (reported : manualTextProposal scanner parses source = some content)
    (takesText : ∀ other, IsMarkupFree other →
      hasDiagnostic (source.before ++ other ++ source.after) = false) :
    StartsFromRendered entities scanner hasDiagnostic source content ↔
      StandsForItself entities text := by
  obtain ⟨rfl, short⟩ := manualTextProposal_eq_some isText unmarked reported
  have escapes := escapes_escapedUnit entities
  have whole := leadOf_append_sourceText text
  have patch := setContentPatch_eq scanner isText unmarked (sourceText text)
  rw [whole] at patch
  have applied :
      applyManualTextEdit scanner hasDiagnostic source (sourceText text) =
        some (.ok (source.before ++ text.flatMap escapedUnit ++
          source.after)) := by
    rw [applyManualTextEdit, if_neg (Nat.not_lt.mpr short)]
    exact congrArg some (prepareElementEdit_eq_ok.mpr
      ⟨patch, takesText _ (isMarkupFree_flatMap text)⟩)
  have value := @Escapes.value_append_iff entities escapedUnit escapes
    (leadOf text) (sourceText text) fun unit => isSpaceLike_of_mem_leadOf
  rw [whole] at value
  have rendered (other : JsString) : renderedText entities (childrenOf other) =
      some ((textValue entities other).getD []) := by
    rw [childrenOf]
    split
    · rename_i isEmpty
      rw [isEmpty]
      rfl
    · rfl
  have current : renderedText entities source.children =
      some ((textValue entities text).getD []) := by
    rw [isText]
    rfl
  constructor
  · rintro ⟨same, unchanged⟩
    obtain ⟨patched, isPatched, -, kept⟩ := unchanged _ applied
    obtain rfl : text.flatMap escapedUnit = patched :=
      List.append_cancel_left (List.append_cancel_right isPatched)
    rw [rendered, same, Option.some.injEq, value] at kept
    obtain ⟨oneLine, lead⟩ := kept
    have shape := lead.imp_right And.left
    rw [current, textValue_of_shape oneLine shape, Option.some.injEq] at same
    exact ⟨oneLine, shape, same⟩
  · rintro ⟨oneLine, lead, plain⟩
    have same : renderedText entities source.children =
        some (sourceText text) := by
      rw [current, textValue_of_shape oneLine lead, plain]
    refine ⟨same, fun nextContent isNext => ?_⟩
    rw [applied] at isNext
    cases isNext
    refine ⟨_, rfl, isMarkupFree_flatMap text, ?_⟩
    rw [rendered, same, Option.some.injEq, value]
    exact ⟨oneLine, lead.imp_right fun ends => ⟨ends, sourceText_head⟩⟩

/-! ## A text on a line of its own -/

/-- An element with its text on the second line. -/
def indentedElement : ElementSource where
  before := js "<p>"
  children := [.jsxText (js "\n  Hello")]
  after := js "</p>"

theorem startsFromRendered_indentedElement :
    StartsFromRendered sampleEntities sampleScanner (fun _ => false)
      indentedElement (js "Hello") := by
  have reported : manualTextProposal sampleScanner (fun _ => true)
      indentedElement = some (js "Hello") := by
    decide +kernel
  refine (startsFromRendered_iff sampleEntities sampleScanner rfl
    (by decide +kernel) reported fun _ _ => rfl).mpr ?_
  exact {
    oneLine := all_within_line (by decide +kernel)
    lead := .inr ⟨0x0A, by decide +kernel, rfl⟩
    plain := by decide +kernel }

/-! ## A text with an entity -/

/-- An element that renders `Salt & Pepper`. -/
def seasonedElement : ElementSource where
  before := js "<p>"
  children := [.jsxText (js "Salt &amp; Pepper")]
  after := js "</p>"

/-- The reported content is not what is rendered, and applied it changes that. -/
theorem entity_is_reported :
    manualTextProposal sampleScanner (fun _ => true) seasonedElement =
        some (js "Salt &amp; Pepper") ∧
      ¬ StartsFromRendered sampleEntities sampleScanner (fun _ => false)
        seasonedElement (js "Salt &amp; Pepper") := by
  refine ⟨by decide +kernel, fun starts => ?_⟩
  exact absurd starts.rendered (by decide +kernel)

end Selene.ReactTsx
