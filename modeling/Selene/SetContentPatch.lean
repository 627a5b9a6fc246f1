import Selene.JsxText
import Selene.Rejection

/-!
# Setting the text of an element

The `set-content` edit of the desktop adapter splices an escaped text into the
only child of an element.  The splice starts where the child's first token does,
so the white space in front of it stays, and a JSX text is not a literal: what
the child stands for afterwards depends on that white space and on the ends of
lines of the new text.
-/

namespace Selene.ReactTsx

open Js Jsx

/-! ## Edits of one element -/

/-- The codes that an edit of an element is rejected with. -/
inductive ElementEditCode where
  | missingTarget
  | ambiguousTarget
  | unsafeChild
  | unsafeProp
  | unsupportedPropValue
  | unsafeStyle
  | unsupportedStyleValue
  | invalidTsxSyntax
  deriving DecidableEq

/--
The end of `prepareReactTsxDesignEdit`: the edit of the one element that has
the marker, unless the parser has diagnostics for the result.
-/
def prepareElementEdit {α : Type} (hasDiagnostic : JsString → Bool)
    (matching : List α) (edit : α → Except ElementEditCode JsString) :
    Except ElementEditCode JsString :=
  match matching with
  | [] => .error .missingTarget
  | [element] => do
      let nextContent ← edit element
      check (hasDiagnostic nextContent = false) .invalidTsxSyntax
      pure nextContent
  | _ => .error .ambiguousTarget

theorem prepareElementEdit_eq_ok
    {α : Type}
    {hasDiagnostic : JsString → Bool}
    {element : α}
    {edit : α → Except ElementEditCode JsString}
    {nextContent : JsString} :
    prepareElementEdit hasDiagnostic [element] edit = .ok nextContent ↔
      edit element = .ok nextContent ∧ hasDiagnostic nextContent = false := by
  rw [prepareElementEdit, bind_eq_ok]
  constructor
  · rintro ⟨content, isEdit, rest⟩
    obtain ⟨clean, same⟩ := check_bind_eq_ok.mp rest
    cases same
    exact ⟨isEdit, clean⟩
  · rintro ⟨isEdit, clean⟩
    exact ⟨nextContent, isEdit, check_bind_eq_ok.mpr ⟨clean, rfl⟩⟩

/-! ## Children of an element -/

/-- A child of an element, by its text in the source. -/
inductive JsxChild where
  | jsxText (text : JsString)
  | other (text : JsString)
  deriving DecidableEq

def JsxChild.text : JsxChild → JsString
  | .jsxText text => text
  | .other text => text

/-- A source, cut at the children of one of its elements. -/
structure ElementSource where
  /-- Up to the end of the opening tag. -/
  before : JsString
  children : List JsxChild
  /-- From the start of the closing tag. -/
  after : JsString

/-- The text of the whole source. -/
def ElementSource.content (source : ElementSource) : JsString :=
  source.before ++ source.children.flatMap JsxChild.text ++ source.after

/-- The white space in front of a text. -/
def leadOf (text : JsString) : JsString :=
  text.takeWhile isSpaceLike

/--
A line of the text that only white space comes before begins with a merge
conflict marker.
-/
def beginsWithMarker (text : JsString) : Bool :=
  (leadOf text).getLast?.any isLineBreak &&
    [js "<<<<<<< ", js "=======", js ">>>>>>> ", js "||||||| "].any fun marker =>
      marker.isPrefixOf (text.dropWhile isSpaceLike)

/--
The scanner of the parser: `getStart` of an only child that is a text skips white
space.  It skips merge conflict markers too.
-/
structure TextScanner where
  getStart : ElementSource → Nat
  skipsSpace : ∀ source text, source.children = [.jsxText text] →
    beginsWithMarker text = false →
      getStart source = source.before.length + (leadOf text).length

/-! ## The patch -/

/-- `text.replaceAll(unit, replacement)`. -/
def replaceAll (unit : CodeUnit) (replacement text : JsString) : JsString :=
  text.flatMap fun part => if part = unit then replacement else [part]

def escapedJsxText (content : JsString) : JsString :=
  replaceAll 0x7D (js "&#125;")
    (replaceAll 0x7B (js "&#123;")
      (replaceAll 0x3E (js "&gt;")
        (replaceAll 0x3C (js "&lt;")
          (replaceAll 0x26 (js "&amp;") content))))

/-- The `set-content` branch of `prepareReactTsxDesignEdit`. -/
def setContentPatch (scanner : TextScanner) (content : JsString)
    (source : ElementSource) : Except ElementEditCode JsString :=
  match source.children with
  | [.jsxText text] =>
      let start := scanner.getStart source
      let stop := source.before.length + text.length
      .ok (source.content.take start ++ escapedJsxText content ++
        source.content.drop stop)
  | _ => .error .unsafeChild

/-! ## What the patch should do -/

/-- A text without the units that markup starts or ends with. -/
def IsMarkupFree (text : JsString) : Prop :=
  ∀ unit ∈ text, unit ≠ 0x3C ∧ unit ≠ 0x3E ∧ unit ≠ 0x7B ∧ unit ≠ 0x7D

/-- The children that the parser finds in a text without markup. -/
def childrenOf (text : JsString) : List JsxChild :=
  if text = [] then [] else [.jsxText text]

/-- The text that children stand for, if they are text. -/
def renderedText (entities : EntityTable) : List JsxChild → Option JsString
  | [] => some []
  | [.jsxText text] => some ((textValue entities text).getD [])
  | _ => none

/--
A patched source differs in the children only, they stand for the content, and
the content can be set again.
-/
structure SetsContent (entities : EntityTable) (scanner : TextScanner)
    (source : ElementSource) (content nextContent : JsString) : Prop where
  patched : ∃ text, nextContent = source.before ++ text ++ source.after ∧
    IsMarkupFree text ∧
    renderedText entities (childrenOf text) = some content ∧
    ∀ later, ∃ again, setContentPatch scanner later
      { source with children := childrenOf text } = .ok again

/--
The content is one line, and either stands alone and is not empty, or comes
after the end of a line and does not begin with white space.
-/
def SetsExactly (text content : JsString) : Prop :=
  (∀ unit ∈ content, isLineBreak unit = false) ∧
    (leadOf text = [] ∧ content ≠ [] ∨
      (∃ unit ∈ leadOf text, isLineBreak unit = true) ∧
        ∀ unit, content.head? = some unit → isSpace unit = false)

/-! ## The escape -/

/-- What becomes of a unit. -/
def escapedUnit (unit : CodeUnit) : JsString :=
  if unit = 0x26 then js "&amp;"
  else if unit = 0x3C then js "&lt;"
  else if unit = 0x3E then js "&gt;"
  else if unit = 0x7B then js "&#123;"
  else if unit = 0x7D then js "&#125;"
  else [unit]

theorem escapedJsxText_eq_flatMap (content : JsString) :
    escapedJsxText content = content.flatMap escapedUnit := by
  simp only [escapedJsxText, replaceAll, List.flatMap_assoc]
  refine congrArg (content.flatMap ·) (funext fun unit => ?_)
  unfold escapedUnit
  by_cases isAmp : unit = 0x26
  · subst isAmp
    decide
  by_cases isLess : unit = 0x3C
  · subst isLess
    decide
  by_cases isMore : unit = 0x3E
  · subst isMore
    decide
  by_cases isOpen : unit = 0x7B
  · subst isOpen
    decide
  by_cases isClose : unit = 0x7D
  · subst isClose
    decide
  simp [isAmp, isLess, isMore, isOpen, isClose]

theorem escapedUnit_cases (unit : CodeUnit) :
    (unit = 0x26 ∧ escapedUnit unit = js "&amp;") ∨
      (unit = 0x3C ∧ escapedUnit unit = js "&lt;") ∨
      (unit = 0x3E ∧ escapedUnit unit = js "&gt;") ∨
      (unit = 0x7B ∧ escapedUnit unit = js "&#123;") ∨
      (unit = 0x7D ∧ escapedUnit unit = js "&#125;") ∨
      ((unit ≠ 0x26 ∧ unit ≠ 0x3C ∧ unit ≠ 0x3E ∧ unit ≠ 0x7B ∧ unit ≠ 0x7D) ∧
        escapedUnit unit = [unit]) := by
  unfold escapedUnit
  by_cases isAmp : unit = 0x26
  · exact .inl ⟨isAmp, if_pos isAmp⟩
  by_cases isLess : unit = 0x3C
  · exact .inr (.inl ⟨isLess, by rw [if_neg isAmp, if_pos isLess]⟩)
  by_cases isMore : unit = 0x3E
  · exact .inr (.inr (.inl ⟨isMore, by
      rw [if_neg isAmp, if_neg isLess, if_pos isMore]⟩))
  by_cases isOpen : unit = 0x7B
  · exact .inr (.inr (.inr (.inl ⟨isOpen, by
      rw [if_neg isAmp, if_neg isLess, if_neg isMore, if_pos isOpen]⟩)))
  by_cases isClose : unit = 0x7D
  · exact .inr (.inr (.inr (.inr (.inl ⟨isClose, by
      rw [if_neg isAmp, if_neg isLess, if_neg isMore, if_neg isOpen,
        if_pos isClose]⟩))))
  · exact .inr (.inr (.inr (.inr (.inr
      ⟨⟨isAmp, isLess, isMore, isOpen, isClose⟩, by
        rw [if_neg isAmp, if_neg isLess, if_neg isMore, if_neg isOpen,
          if_neg isClose]⟩))))

theorem decode_entity
    (entities : EntityTable)
    (rest : JsString) :
    decode entities (js "&amp;" ++ rest) = 0x26 :: decode entities rest ∧
      decode entities (js "&lt;" ++ rest) = 0x3C :: decode entities rest ∧
      decode entities (js "&gt;" ++ rest) = 0x3E :: decode entities rest ∧
      decode entities (js "&#123;" ++ rest) = 0x7B :: decode entities rest ∧
      decode entities (js "&#125;" ++ rest) = 0x7D :: decode entities rest := by
  refine ⟨?_, ?_, ?_, ?_, ?_⟩
  · exact @decode_ampersand entities (js "amp;") (js "&") rest
      (entityAt_name rfl entities.amp (by decide) rest)
  · exact @decode_ampersand entities (js "lt;") (js "<") rest
      (entityAt_name rfl entities.lt (by decide) rest)
  · exact @decode_ampersand entities (js "gt;") (js ">") rest
      (entityAt_name rfl entities.gt (by decide) rest)
  · exact @decode_ampersand entities (js "#123;") (js "\x7b") rest
      (@entityAt_decimal entities (js "123") _ rfl rfl (by decide) rest)
  · exact @decode_ampersand entities (js "#125;") (js "\x7d") rest
      (@entityAt_decimal entities (js "125") _ rfl rfl (by decide) rest)

theorem solid_of_all
    {text : JsString}
    (solid : (text.all fun part => !isSpaceLike part) = true) :
    ∀ part ∈ text, isSpaceLike part = false := by
  intro part member
  have isSolid := List.all_eq_true.mp solid part member
  rwa [Bool.not_eq_true'] at isSolid

theorem escapes_escapedUnit (entities : EntityTable) :
    Escapes entities escapedUnit where
  space unit spaceLike := by
    rcases escapedUnit_cases unit with ⟨rfl, _⟩ | ⟨rfl, _⟩ | ⟨rfl, _⟩ |
      ⟨rfl, _⟩ | ⟨rfl, _⟩ | ⟨_, plain⟩
    · cases spaceLike
    · cases spaceLike
    · cases spaceLike
    · cases spaceLike
    · cases spaceLike
    · exact plain
  solid unit solid := by
    rcases escapedUnit_cases unit with ⟨_, entity⟩ | ⟨_, entity⟩ |
      ⟨_, entity⟩ | ⟨_, entity⟩ | ⟨_, entity⟩ | ⟨_, plain⟩
    · rw [entity]
      exact solid_of_all rfl
    · rw [entity]
      exact solid_of_all rfl
    · rw [entity]
      exact solid_of_all rfl
    · rw [entity]
      exact solid_of_all rfl
    · rw [entity]
      exact solid_of_all rfl
    · rw [plain, List.forall_mem_singleton]
      exact solid
  decoded unit rest := by
    obtain ⟨amp, less, more, opening, closing⟩ := decode_entity entities rest
    rcases escapedUnit_cases unit with ⟨rfl, entity⟩ | ⟨rfl, entity⟩ |
      ⟨rfl, entity⟩ | ⟨rfl, entity⟩ | ⟨rfl, entity⟩ | ⟨plain, whole⟩
    · rw [entity, amp]
    · rw [entity, less]
    · rw [entity, more]
    · rw [entity, opening]
    · rw [entity, closing]
    · rw [whole, List.singleton_append, decode_cons entities plain.1]

theorem isMarkupFree_flatMap (text : JsString) :
    IsMarkupFree (text.flatMap escapedUnit) := by
  have free : ∀ part : JsString,
      (part.all fun unit => decide (unit ≠ 0x3C ∧ unit ≠ 0x3E ∧ unit ≠ 0x7B ∧
        unit ≠ 0x7D)) = true → IsMarkupFree part := by
    intro part all unit member
    exact of_decide_eq_true (List.all_eq_true.mp all unit member)
  intro unit member
  obtain ⟨source, _, member⟩ := List.mem_flatMap.mp member
  rcases escapedUnit_cases source with ⟨_, entity⟩ | ⟨_, entity⟩ |
    ⟨_, entity⟩ | ⟨_, entity⟩ | ⟨_, entity⟩ | ⟨plain, whole⟩
  · exact free (js "&amp;") rfl unit (by rwa [entity] at member)
  · exact free (js "&lt;") rfl unit (by rwa [entity] at member)
  · exact free (js "&gt;") rfl unit (by rwa [entity] at member)
  · exact free (js "&#123;") rfl unit (by rwa [entity] at member)
  · exact free (js "&#125;") rfl unit (by rwa [entity] at member)
  · rw [whole, List.mem_singleton] at member
    rw [member]
    exact plain.2

/-! ## What the patch does -/

theorem isSpaceLike_of_mem_leadOf
    {text : JsString}
    {unit : CodeUnit}
    (member : unit ∈ leadOf text) :
    isSpaceLike unit = true :=
  List.mem_takeWhile_imp member

theorem flatMap_leadOf (text : JsString) :
    (leadOf text).flatMap escapedUnit = leadOf text := by
  have alone : ∀ unit ∈ leadOf text, escapedUnit unit = [unit] := by
    intro unit member
    rcases escapedUnit_cases unit with ⟨rfl, _⟩ | ⟨rfl, _⟩ | ⟨rfl, _⟩ |
      ⟨rfl, _⟩ | ⟨rfl, _⟩ | ⟨_, plain⟩
    · cases isSpaceLike_of_mem_leadOf member
    · cases isSpaceLike_of_mem_leadOf member
    · cases isSpaceLike_of_mem_leadOf member
    · cases isSpaceLike_of_mem_leadOf member
    · cases isSpaceLike_of_mem_leadOf member
    · exact plain
  rw [List.flatMap_congr alone]
  exact List.flatMap_singleton' (leadOf text)

theorem setContentPatch_eq
    (scanner : TextScanner)
    {source : ElementSource}
    {text : JsString}
    (isText : source.children = [.jsxText text])
    (unmarked : beginsWithMarker text = false)
    (content : JsString) :
    setContentPatch scanner content source =
      .ok (source.before ++ (leadOf text ++ content).flatMap escapedUnit ++
        source.after) := by
  have start := scanner.skipsSpace source text isText unmarked
  obtain ⟨before, children, after⟩ := source
  obtain rfl := isText
  have whole : leadOf text ++ text.dropWhile isSpaceLike = text :=
    List.takeWhile_append_dropWhile
  have front : (before ++ text ++ after).take
      (before.length + (leadOf text).length) = before ++ leadOf text := by
    rw [← List.length_append]
    nth_rewrite 2 [← whole]
    rw [← List.append_assoc before, List.append_assoc, List.take_left]
  have back : (before ++ text ++ after).drop (before.length + text.length) =
      after := by
    rw [← List.length_append, List.drop_left]
  simp only [setContentPatch, start, ElementSource.content, List.flatMap_cons,
    List.flatMap_nil, List.append_nil, JsxChild.text, front, back,
    escapedJsxText_eq_flatMap, List.flatMap_append, flatMap_leadOf,
    ← List.append_assoc]

theorem flatMap_escapedUnit_eq_nil
    (entities : EntityTable)
    {text : JsString} :
    text.flatMap escapedUnit = [] ↔ text = [] := by
  constructor
  · intro empty
    rw [← (escapes_escapedUnit entities).decode_flatMap text, empty]
    rfl
  · rintro rfl
    rfl

theorem setContentPatch_childrenOf
    {scanner : TextScanner}
    {source : ElementSource}
    {text : JsString} :
    (∀ later, ∃ again, setContentPatch scanner later
      { source with children := childrenOf text } = .ok again) ↔ text ≠ [] := by
  by_cases isEmpty : text = []
  · refine iff_of_false (fun accepted => ?_) fun notEmpty => notEmpty isEmpty
    obtain ⟨again, isAgain⟩ := accepted []
    rw [childrenOf, if_pos isEmpty] at isAgain
    cases isAgain
  · refine iff_of_true (fun later => ?_) isEmpty
    rw [setContentPatch, childrenOf, if_neg isEmpty]
    exact ⟨_, rfl⟩

/-- A prepared edit sets the content exactly under the condition. -/
theorem setContent_sets_iff
    (entities : EntityTable)
    (scanner : TextScanner)
    {hasDiagnostic : JsString → Bool}
    {source : ElementSource}
    {text content nextContent : JsString}
    (isText : source.children = [.jsxText text])
    (unmarked : beginsWithMarker text = false)
    (prepared : prepareElementEdit hasDiagnostic [source]
      (setContentPatch scanner content) = .ok nextContent) :
    SetsContent entities scanner source content nextContent ↔
      SetsExactly text content := by
  have isPatch := (prepareElementEdit_eq_ok.mp prepared).1
  rw [setContentPatch_eq scanner isText unmarked] at isPatch
  obtain rfl := Except.ok.inj isPatch
  have escapes := escapes_escapedUnit entities
  have value := @Escapes.value_append_iff entities escapedUnit escapes
    (leadOf text) content fun unit => isSpaceLike_of_mem_leadOf
  have empty := @flatMap_escapedUnit_eq_nil entities (leadOf text ++ content)
  rw [List.append_eq_nil_iff] at empty
  constructor
  · rintro ⟨patch, same, _, rendered, again⟩
    obtain rfl : (leadOf text ++ content).flatMap escapedUnit = patch :=
      List.append_cancel_left (List.append_cancel_right same)
    have notEmpty := setContentPatch_childrenOf.mp again
    rw [childrenOf, if_neg notEmpty, renderedText, Option.some.injEq, value]
      at rendered
    refine ⟨rendered.1, rendered.2.imp_left fun noLead => ⟨noLead, ?_⟩⟩
    intro noContent
    exact notEmpty (empty.mpr ⟨noLead, noContent⟩)
  · rintro ⟨oneLine, shape⟩
    have notEmpty : (leadOf text ++ content).flatMap escapedUnit ≠ [] := by
      rw [Ne, empty]
      rintro ⟨noLead, noContent⟩
      rcases shape with ⟨_, some_⟩ | ⟨⟨unit, member, _⟩, _⟩
      · exact some_ noContent
      · rw [noLead] at member
        cases member
    refine ⟨_, rfl, isMarkupFree_flatMap _, ?_,
      setContentPatch_childrenOf.mpr notEmpty⟩
    rw [childrenOf, if_neg notEmpty, renderedText, Option.some.injEq, value]
    exact ⟨oneLine, shape.imp_left And.left⟩

/-! ## A content of two lines -/

theorem all_within_line
    {content : JsString}
    (within : (content.all fun unit => !isLineBreak unit) = true) :
    ∀ unit ∈ content, isLineBreak unit = false := by
  intro unit member
  exact (Bool.not_eq_true' _).mp (List.all_eq_true.mp within unit member)

/-- The table, on the names that are relied on. -/
def sampleEntities : EntityTable where
  characters name :=
    if name = js "amp" then some (js "&")
    else if name = js "lt" then some (js "<")
    else if name = js "gt" then some (js ">")
    else none
  amp := rfl
  lt := rfl
  gt := rfl

/-- A scanner that skips white space. -/
def sampleScanner : TextScanner where
  getStart source :=
    match source.children with
    | [.jsxText text] => source.before.length + (leadOf text).length
    | _ => source.before.length
  skipsSpace source text isText _ := by rw [isText]

/-- A source whose element has a text for its only child. -/
def sampleElement : ElementSource where
  before := js "<p>"
  children := [.jsxText (js "Hello")]
  after := js "</p>"

/-- A text of one line is set. -/
theorem setContent_sampleElement :
    SetsContent sampleEntities sampleScanner sampleElement (js "Salt & Pepper")
      (js "<p>Salt &amp; Pepper</p>") := by
  have isText : sampleElement.children = [.jsxText (js "Hello")] := rfl
  have prepared : prepareElementEdit (fun _ => false) [sampleElement]
      (setContentPatch sampleScanner (js "Salt & Pepper")) =
        .ok (js "<p>Salt &amp; Pepper</p>") := by
    decide +kernel
  exact (setContent_sets_iff sampleEntities sampleScanner isText
    (by decide +kernel) prepared).mpr
      ⟨all_within_line rfl, .inl ⟨rfl, by decide⟩⟩

/-- The two lines of a text are joined with a space. -/
theorem setContent_twoLines :
    setContentPatch sampleScanner (js "Salt\nPepper") sampleElement =
        .ok (js "<p>Salt\nPepper</p>") ∧
      ¬ SetsContent sampleEntities sampleScanner sampleElement
        (js "Salt\nPepper") (js "<p>Salt\nPepper</p>") := by
  refine ⟨by decide +kernel, ?_⟩
  rintro ⟨text, same, _, rendered, _⟩
  have whole : js "<p>Salt\nPepper</p>" =
      js "<p>" ++ js "Salt\nPepper" ++ js "</p>" := by
    decide +kernel
  rw [whole] at same
  obtain rfl : js "Salt\nPepper" = text :=
    List.append_cancel_left (List.append_cancel_right same)
  exact absurd rendered (by decide +kernel)

end Selene.ReactTsx
