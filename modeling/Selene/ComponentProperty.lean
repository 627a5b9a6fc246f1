import Selene.JsDouble
import Selene.Overlay
import Selene.SetContentPatch
import Selene.UrlReference

/-!
# Setting a property of a component

The `set-prop` edit of the desktop adapter writes one attribute of an opening
tag.  An attribute that is there is replaced where it stands; the others keep
their place, and so does a spread behind it, which may hold the same property.
-/

namespace Selene.ReactTsx

open Js

variable {format : NumberFormat} {property : JsString} {value : JsValue}
  {tag : OpeningTag} {nextContent : JsString}

/-! ## Opening tags -/

/-- The name of an attribute; hyphens are units of identifiers here. -/
inductive AttributeName where
  | identifier (text : JsString) (plain : 0x3A ∉ text)
  | namespaced (space name : JsString)

namespace AttributeName

/-- The property that an attribute of the name gives. -/
def key : AttributeName → JsString
  | .identifier text _ => text
  | .namespaced space name => space ++ 0x3A :: name

/-- The name that a text is read as. -/
def ofText (text : JsString) : AttributeName :=
  if plain : 0x3A ∉ text then .identifier text plain
  else
    .namespaced (text.takeWhile fun unit => decide (unit ≠ 0x3A))
      (text.dropWhile fun unit => decide (unit ≠ 0x3A)).tail

end AttributeName

/-- An attribute with the value it has, or a spread of an object. -/
inductive MemberKind where
  | named (name : AttributeName) (value : JsValue)
  | spread (object : Nat)

/-- A member of an opening tag, by the trivia before it and its text. -/
structure TagMember where
  trivia : JsString
  text : JsString
  kind : MemberKind

/-- The text of members. -/
def membersText (members : List TagMember) : JsString :=
  members.flatMap fun part => part.trivia ++ part.text

/-- A source, cut at the members of an opening tag. -/
structure OpeningTag where
  /-- Up to the name of the element. -/
  before : JsString
  members : List TagMember
  after : JsString
  /-- The children of the element, if it has any. -/
  children : Option JsValue

/-- The text of the whole source. -/
def OpeningTag.content (tag : OpeningTag) : JsString :=
  tag.before ++ membersText tag.members ++ tag.after

/-! ## The properties that a tag gives -/

/-- The first property of an object that has a name. -/
def ownProperty (object : Record) (name : JsString) : Option JsValue :=
  (object.find? fun entry => decide (entry.1 = name)).map Prod.snd

/-- What a member gives a property, for the objects that are spread. -/
def TagMember.layer (objects : Nat → Record) (part : TagMember)
    (name : JsString) : Option JsValue :=
  match part.kind with
  | .named own value => if own.key = name then some value else none
  | .spread object => ownProperty (objects object) name

/-- The property that the element gets; later members win, and children do. -/
def OpeningTag.prop (tag : OpeningTag) (objects : Nat → Record)
    (name : JsString) : Option JsValue :=
  let given := Overlay.read (tag.members.map (TagMember.layer objects)) name
  if name = js "children" then tag.children.or given else given

/-! ## Literals -/

/-- The value of the text of a literal. -/
def literalValue (format : NumberFormat) (text : JsString) : Option JsValue :=
  if text = js "true" then some (.bool true)
  else if text = js "false" then some (.bool false)
  else if text.head? = some 0x22 then
    match parseStringBody text.tail with
    | some (content, []) => some (.string content)
    | _ => none
  else if isJsonNumeral text = true then some (.number (format.read text))
  else none

/-- The literal that a text writes, if `JSON.stringify` or `String` does. -/
def literalText (format : NumberFormat) : JsValue → Option JsString
  | .string content => some (quote content)
  | .bool true => some (js "true")
  | .bool false => some (js "false")
  | .number number => format.jsonText number
  | _ => none

/-- `serializedComponentProperty`, within its braces. -/
def serializedComponentProperty (format : NumberFormat) (value : JsValue) :
    Option JsString :=
  (literalText format value).map fun literal => 0x7B :: (literal ++ [0x7D])

/-! ## The patch -/

/-- An attribute whose identifier is the property. -/
def TagMember.isNamed (property : JsString) (part : TagMember) : Bool :=
  match part.kind with
  | .named (.identifier text _) _ => decide (text = property)
  | .named (.namespaced _ _) _ => false
  | .spread _ => false

/-- A spread. -/
def TagMember.isSpread (part : TagMember) : Bool :=
  match part.kind with
  | .named _ _ => false
  | .spread _ => true

/-- Where the first attribute of the name starts and ends. -/
def locate (property : JsString) : Nat → List TagMember → Option (Nat × Nat)
  | _, [] => none
  | offset, part :: rest =>
      let start := offset + part.trivia.length
      if part.isNamed property then some (start, start + part.text.length)
      else locate property (start + part.text.length) rest

def prepareComponentPropertyPatch (format : NumberFormat) (property : JsString)
    (value : JsValue) (tag : OpeningTag) :
    Except ElementEditCode JsString :=
  match serializedComponentProperty format value with
  | none => .error .unsupportedPropValue
  | some serialized =>
      if 1 < (tag.members.filter (TagMember.isNamed property)).length then
        .error .unsafeProp
      else
        match locate property tag.before.length tag.members with
        | some (start, stop) =>
            .ok (tag.content.take start ++ property ++ 0x3D :: serialized ++
              tag.content.drop stop)
        | none =>
            let insertion := tag.before.length + (membersText tag.members).length
            .ok (tag.content.take insertion ++ 0x20 :: property ++
              0x3D :: serialized ++ tag.content.drop insertion)

/-- A property name that the proposal parser admits. -/
def isAdmittedProp (property : JsString) : Bool :=
  let lower := Url.asciiLower property
  (property.head?.any fun unit => decide
      ((0x41 ≤ unit.val ∧ unit.val ≤ 0x5A) ∨
        (0x61 ≤ unit.val ∧ unit.val ≤ 0x7A))) &&
    decide (property.length ≤ 128) &&
    (property.all fun unit => isDecimalDigit unit || decide
      ((0x41 ≤ unit.val ∧ unit.val ≤ 0x5A) ∨
        (0x61 ≤ unit.val ∧ unit.val ≤ 0x7A) ∨ unit.val = 0x2E ∨
        unit.val = 0x5F ∨ unit.val = 0x3A ∨ unit.val = 0x2D)) &&
    !((js "on").isPrefixOf lower) &&
    decide (lower ∉ [js "ref", js "key", js "dangerouslysetinnerhtml",
      js "children", js "style", js "suppresshydrationwarning"])

/-! ## What the patch should do -/

/-- The value that is read where a value is written. -/
def readBack (format : NumberFormat) (value : JsValue) : JsValue :=
  ((literalText format value).bind (literalValue format)).getD .undefined

/-- The attribute that a patch writes, as it is read again. -/
def writtenMember (format : NumberFormat) (property : JsString)
    (value : JsValue) (trivia : JsString) : TagMember where
  trivia := trivia
  text := property ++ 0x3D :: (serializedComponentProperty format value).getD []
  kind := .named (AttributeName.ofText property)
    (readBack format value)

/-- The members of a patched tag. -/
def patchedMembers (format : NumberFormat) (property : JsString)
    (value : JsValue) : List TagMember → List TagMember
  | [] => [writtenMember format property value [0x20]]
  | part :: rest =>
      if part.isNamed property then
        writtenMember format property value part.trivia :: rest
      else
        part :: patchedMembers format property value rest

def OpeningTag.patched (tag : OpeningTag) (format : NumberFormat)
    (property : JsString) (value : JsValue) : OpeningTag :=
  { tag with members := patchedMembers format property value tag.members }

/--
The patched source has the new attribute, it gives the property its value
whatever the spreads hold, and all else is as before.
-/
structure TakesEffect (format : NumberFormat) (tag : OpeningTag)
    (property : JsString) (value : JsValue) (nextContent : JsString) :
    Prop where
  text : nextContent = (tag.patched format property value).content
  kept : ((tag.patched format property value).members.filter fun part =>
      decide (part.layer (fun _ => []) property = none)) =
    tag.members.filter fun part =>
      decide (part.layer (fun _ => []) property = none)
  named : ∀ objects,
    (tag.patched format property value).prop objects property = some value
  others : ∀ objects name, name ≠ property →
    (tag.patched format property value).prop objects name =
      tag.prop objects name

/-- A spread comes behind the attribute of the name. -/
def spreadBehind (property : JsString) : List TagMember → Bool
  | [] => false
  | part :: rest =>
      if part.isNamed property then rest.any TagMember.isSpread
      else spreadBehind property rest

/-- The value is not lost in writing it, and no spread may replace it. -/
def StaysLast (tag : OpeningTag) (property : JsString) (value : JsValue) :
    Prop :=
  (∀ number, value = .number number → number ≠ .negativeZero) ∧
    spreadBehind property tag.members = false

/-! ## Reading what is written -/

theorem key_ofText (text : JsString) : (AttributeName.ofText text).key = text := by
  unfold AttributeName.ofText
  split
  · rfl
  · rename_i colon
    have whole : (text.takeWhile fun unit => decide (unit ≠ 0x3A)) ++
        (text.dropWhile fun unit => decide (unit ≠ 0x3A)) = text :=
      List.takeWhile_append_dropWhile
    have head := List.head?_dropWhile_not (fun unit : CodeUnit =>
      decide (unit ≠ 0x3A)) text
    cases rest : text.dropWhile fun unit => decide (unit ≠ 0x3A) with
    | nil =>
        have all := List.dropWhile_eq_nil_iff.mp rest
        exact absurd (all _ (not_not.mp colon)) (by decide)
    | cons first name =>
        rw [rest] at head whole
        have isColon : first = 0x3A := by simpa using head
        rw [isColon] at whole
        exact whole

variable {part : TagMember} {front : List TagMember} {text : JsString}

theorem literalValue_numeral
    {number : JsNumber}
    (numeral : isJsonNumeral text = true)
    (notEmpty : text ≠ [])
    (numeric : ∀ unit ∈ text, unit.IsNumeric)
    (read : format.read text = number) :
    literalValue format text = some (.number number) := by
  obtain ⟨first, rest, rfl⟩ := List.exists_cons_of_ne_nil notEmpty
  have isNumeric := numeric first List.mem_cons_self
  have notTrue : first :: rest ≠ js "true" := by
    rintro same
    rw [(List.cons.inj same).1] at isNumeric
    exact absurd isNumeric (by decide)
  have notFalse : first :: rest ≠ js "false" := by
    rintro same
    rw [(List.cons.inj same).1] at isNumeric
    exact absurd isNumeric (by decide)
  have notQuote : (first :: rest).head? ≠ some 0x22 := by
    rintro same
    rw [Option.some.inj same] at isNumeric
    exact absurd isNumeric (by decide)
  rw [literalValue, if_neg notTrue, if_neg notFalse, if_neg notQuote,
    if_pos numeral, read]

section

variable (isText : literalText format value = some text)
  (representable : ∀ number, value = .number number →
    number.IsRepresentable)

include isText representable

/-- A literal that is written is read as itself, but for a negative zero. -/
theorem literalValue_literalText
    (notZero : ∀ number, value = .number number → number ≠ .negativeZero) :
    literalValue format text = some value := by
  cases value with
  | undefined => cases isText
  | null => cases isText
  | array items => cases isText
  | object entries => cases isText
  | exotic => cases isText
  | bool value =>
      cases value with
      | true =>
          cases isText
          rfl
      | false =>
          cases isText
          rfl
  | string content =>
      cases isText
      have read : parseStringBody (escape content ++ [0x22]) =
          some (content, []) :=
        parseStringBody_escape content []
      have notTrue : quote content ≠ js "true" := nofun
      have notFalse : quote content ≠ js "false" := nofun
      have starts : (quote content).head? = some 0x22 := rfl
      rw [literalValue, if_neg notTrue, if_neg notFalse, if_pos starts, quote,
        List.tail_cons, read]
  | number number =>
      have isNumeral : ∀ finite : ℚ, IsDouble finite →
          literalValue format (format.toText finite) =
            some (.number (.finite finite)) := by
        intro finite double
        have numeral := format.numeral double
        obtain ⟨notEmpty, numeric⟩ := numeric_of_isJsonNumeral numeral
        exact literalValue_numeral numeral notEmpty numeric
          (format.read_toText double)
      cases number with
      | finite finite =>
          cases isText
          exact isNumeral finite (representable _ rfl finite rfl)
      | negativeZero => exact absurd rfl (notZero _ rfl)
      | infinite negative => cases isText
      | nan => cases isText

theorem readBack_eq_iff :
    readBack format value = value ↔
      ∀ number, value = .number number → number ≠ .negativeZero := by
  constructor
  · rintro same number rfl rfl
    have zero := @literalValue_literalText _ (.number (.finite 0)) _
      isText (by rintro number isZero; cases isZero; rintro _ ⟨⟩; exact isDouble_zero)
      nofun
    rw [readBack, isText, Option.bind_some, zero] at same
    cases same
  · intro notZero
    rw [readBack, isText, Option.bind_some,
      literalValue_literalText isText representable notZero, Option.getD_some]

end

/-! ## The place of the attribute -/

theorem named_cases
    (property : JsString)
    (members : List TagMember) :
    (∀ part ∈ members, part.isNamed property = false) ∨
      ∃ front part back, members = front ++ part :: back ∧
        (∀ earlier ∈ front, earlier.isNamed property = false) ∧
        part.isNamed property = true := by
  rcases List.exists_or_eq_self_of_eraseP (TagMember.isNamed property) members
    with same | ⟨part, front, back, earlier, named, split, _⟩
  · left
    intro part member
    have kept := List.eraseP_eq_self_iff.mp same
    exact Bool.eq_false_iff.mpr (kept part member)
  · exact .inr ⟨front, part, back, split,
      fun other member => Bool.eq_false_iff.mpr (earlier other member), named⟩

section

variable (rest : List TagMember)

theorem locate_append
    (offset : Nat)
    (earlier : ∀ part ∈ front, part.isNamed property = false) :
    locate property offset (front ++ rest) =
      locate property (offset + (membersText front).length) rest := by
  induction front generalizing offset with
  | nil => rfl
  | cons part others inductionHypothesis =>
      rw [List.forall_mem_cons] at earlier
      rw [List.cons_append, locate, earlier.1, if_neg Bool.false_ne_true,
        inductionHypothesis _ earlier.2]
      congr 1
      rw [membersText, membersText, List.flatMap_cons, List.length_append,
        List.length_append]
      omega

theorem patchedMembers_append
    (earlier : ∀ part ∈ front, part.isNamed property = false) :
    patchedMembers format property value (front ++ rest) =
      front ++ patchedMembers format property value rest := by
  induction front with
  | nil => rfl
  | cons part others inductionHypothesis =>
      rw [List.forall_mem_cons] at earlier
      rw [List.cons_append, patchedMembers, earlier.1,
        if_neg Bool.false_ne_true, inductionHypothesis earlier.2,
        List.cons_append]

theorem spreadBehind_append
    (earlier : ∀ part ∈ front, part.isNamed property = false) :
    spreadBehind property (front ++ rest) = spreadBehind property rest := by
  induction front with
  | nil => rfl
  | cons part others inductionHypothesis =>
      rw [List.forall_mem_cons] at earlier
      rw [List.cons_append, spreadBehind, earlier.1,
        if_neg Bool.false_ne_true, inductionHypothesis earlier.2]

end

theorem membersText_append (front back : List TagMember) :
    membersText (front ++ back) = membersText front ++ membersText back :=
  List.flatMap_append

theorem prepareComponentPropertyPatch_eq_ok
    (isPatch : prepareComponentPropertyPatch format property value tag =
      .ok nextContent) :
    (∃ text, literalText format value = some text) ∧
      (tag.members.filter (TagMember.isNamed property)).length ≤ 1 ∧
      nextContent = (tag.patched format property value).content := by
  unfold prepareComponentPropertyPatch at isPatch
  split at isPatch
  · cases isPatch
  rename_i serialized isSerialized
  obtain ⟨text, isText, _⟩ := Option.map_eq_some_iff.mp isSerialized
  split at isPatch
  · cases isPatch
  rename_i single
  refine ⟨⟨text, isText⟩, Nat.le_of_not_lt single, ?_⟩
  have written : ∀ trivia, (writtenMember format property value trivia).text =
      property ++ 0x3D :: serialized := by
    intro trivia
    rw [writtenMember, isSerialized, Option.getD_some]
  rcases named_cases property tag.members with
    absent | ⟨front, part, back, split, earlier, named⟩
  · have notFound := locate_append [] tag.before.length absent
    have appended := @patchedMembers_append format property value _ [] absent
    rw [List.append_nil] at notFound appended
    rw [notFound, locate] at isPatch
    obtain rfl := Except.ok.inj isPatch
    rw [OpeningTag.content, OpeningTag.content, OpeningTag.patched, appended,
      membersText_append, List.take_left' (List.length_append),
      List.drop_left' (List.length_append), patchedMembers, membersText,
      membersText, List.flatMap_singleton, written]
    simp only [writtenMember, List.append_assoc, List.cons_append,
      List.nil_append]
  · have found := locate_append (part :: back) tag.before.length earlier
    have replaced :=
      @patchedMembers_append format property value _ (part :: back) earlier
    rw [← split, locate, if_pos named] at found
    rw [← split, patchedMembers, if_pos named] at replaced
    rw [found] at isPatch
    obtain rfl := Except.ok.inj isPatch
    have whole : tag.content =
        (tag.before ++ membersText front ++ part.trivia) ++
          (part.text ++ (membersText back ++ tag.after)) := by
      rw [OpeningTag.content, split, membersText_append]
      simp only [membersText, List.flatMap_cons, List.append_assoc]
    have start : (tag.before ++ membersText front ++ part.trivia).length =
        tag.before.length + (membersText front).length +
          part.trivia.length := by
      rw [List.length_append, List.length_append]
    rw [whole, List.take_left' start, ← List.drop_drop,
      List.drop_left' start, List.drop_left' rfl, OpeningTag.content,
      OpeningTag.patched, replaced, membersText_append]
    simp only [membersText, List.flatMap_cons, written]
    simp only [writtenMember, List.append_assoc, List.cons_append]

/-! ## What members give -/

theorem layer_of_isNamed
    (objects : Nat → Record)
    (named : part.isNamed property = true) :
    0x3A ∉ property ∧ (part.layer objects property).isSome = true ∧
      part.isSpread = false ∧
      ∀ name, name ≠ property → part.layer objects name = none := by
  obtain ⟨trivia, text, kind⟩ := part
  cases kind with
  | spread object => cases named
  | named own value =>
      cases own with
      | namespaced space name => cases named
      | identifier own plain =>
          obtain rfl : own = property := of_decide_eq_true named
          refine ⟨plain, ?_, rfl, fun name other => if_neg (Ne.symm other)⟩
          have given : TagMember.layer objects
              ⟨trivia, text, .named (.identifier own plain) value⟩ own =
              some value := if_pos rfl
          rw [given, Option.isSome_some]

theorem layer_of_not_isNamed
    (objects : Nat → Record)
    (plain : 0x3A ∉ property)
    (other : part.isNamed property = false)
    (notSpread : part.isSpread = false) :
    part.layer objects property = none := by
  obtain ⟨trivia, text, kind⟩ := part
  cases kind with
  | spread object => cases notSpread
  | named own value =>
      refine if_neg ?_
      cases own with
      | namespaced space name =>
          rintro rfl
          exact plain (List.mem_append_right _ List.mem_cons_self)
      | identifier own _ => exact of_decide_eq_false other

theorem layer_of_isSpread
    {object : Record}
    {name : JsString}
    (spread : part.isSpread = true) :
    part.layer (fun _ => object) name = ownProperty object name := by
  obtain ⟨trivia, text, kind⟩ := part
  cases kind with
  | spread index => rfl
  | named own value => cases spread

theorem ownProperty_single
    (name : JsString)
    (value : JsValue) :
    ownProperty [(name, value)] name = some value := by
  have found : decide (name = name) = true := decide_eq_true rfl
  rw [ownProperty, List.find?_cons, found]
  rfl

theorem layer_writtenMember
    {trivia name : JsString}
    (objects : Nat → Record) :
    (writtenMember format property value trivia).layer objects name =
      if property = name then some (readBack format value) else none := by
  rw [writtenMember, TagMember.layer]
  dsimp only
  rw [key_ofText]

theorem writtenMember_not_kept
    {trivia : JsString} :
    decide ((writtenMember format property value trivia).layer (fun _ => [])
      property = none) = false := by
  rw [layer_writtenMember, if_pos rfl]
  rfl

theorem prop_eq
    {objects : Nat → Record}
    (notChildren : property ≠ js "children") :
    tag.prop objects property =
      Overlay.read (tag.members.map (TagMember.layer objects)) property :=
  if_neg notChildren

theorem prop_congr
    {first second : OpeningTag}
    {objects : Nat → Record}
    {name : JsString}
    (children : first.children = second.children)
    (same : Overlay.read (first.members.map (TagMember.layer objects)) name =
      Overlay.read (second.members.map (TagMember.layer objects)) name) :
    first.prop objects name = second.prop objects name := by
  rw [OpeningTag.prop, OpeningTag.prop, children, same]

theorem spreadBehind_of_absent
    {members : List TagMember}
    (absent : ∀ part ∈ members, part.isNamed property = false) :
    spreadBehind property members = false := by
  have none := @spreadBehind_append _ _ [] absent
  rwa [List.append_nil] at none

theorem read_appended
    (members : List TagMember)
    (objects : Nat → Record)
    (name : JsString) :
    Overlay.read ((members ++
        [writtenMember format property value [0x20]]).map
          (TagMember.layer objects)) name =
      if property = name then some (readBack format value)
      else Overlay.read (members.map (TagMember.layer objects)) name := by
  rw [List.map_append, List.map_singleton, Overlay.read_concat,
    layer_writtenMember]
  split
  · rw [Option.some_or]
  · rw [Option.none_or]

/-! ## When the property is set -/

/-- A property that no attribute has is set at the end, behind all spreads. -/
theorem takesEffect_of_absent
    (absent : ∀ part ∈ tag.members, part.isNamed property = false)
    (notChildren : property ≠ js "children")
    (text : nextContent = (tag.patched format property value).content) :
    TakesEffect format tag property value nextContent ↔
      readBack format value = value := by
  have members : (tag.patched format property value).members =
      tag.members ++ [writtenMember format property value [0x20]] := by
    have appended := @patchedMembers_append format property value _ [] absent
    rwa [List.append_nil] at appended
  have given : ∀ objects,
      (tag.patched format property value).prop objects property =
        some (readBack format value) := by
    intro objects
    rw [prop_eq notChildren, members, read_appended, if_pos rfl]
  constructor
  · intro effect
    have named := effect.named fun _ => []
    rw [given] at named
    exact Option.some.inj named
  · intro same
    refine ⟨text, ?_, fun objects => ?_, fun objects name other => ?_⟩
    · rw [members, List.filter_append,
        List.filter_singleton, writtenMember_not_kept, Bool.cond_false,
        List.append_nil]
    · rw [given, same]
    · refine prop_congr rfl ?_
      rw [members, read_appended, if_neg (Ne.symm other)]

/-- A property of an attribute is set where it stands. -/
theorem takesEffect_of_split
    {front back : List TagMember}
    (split : tag.members = front ++ part :: back)
    (earlier : ∀ other ∈ front, other.isNamed property = false)
    (named : part.isNamed property = true)
    (later : ∀ other ∈ back, other.isNamed property = false)
    (notNull : value ≠ .null)
    (notChildren : property ≠ js "children")
    (text : nextContent = (tag.patched format property value).content) :
    TakesEffect format tag property value nextContent ↔
      readBack format value = value ∧
        back.any TagMember.isSpread = false := by
  have plain := (layer_of_isNamed (fun _ => []) named).1
  have members : (tag.patched format property value).members =
      front ++ writtenMember format property value part.trivia :: back := by
    have replaced :=
      @patchedMembers_append format property value _ (part :: back) earlier
    rwa [← split, patchedMembers, if_pos named] at replaced
  have given : ∀ objects,
      (tag.patched format property value).prop objects property =
        ((Overlay.read (back.map (TagMember.layer objects)) property).or
            (some (readBack format value))).or
          (Overlay.read (front.map (TagMember.layer objects)) property) := by
    intro objects
    rw [prop_eq notChildren, members, List.map_append, List.map_cons,
      Overlay.read_append, Overlay.read, layer_writtenMember, if_pos rfl]
  have unspread : ∀ objects, ∀ other ∈ back, other.isSpread = false →
      other.layer objects property = none :=
    fun objects other member notSpread =>
      layer_of_not_isNamed objects plain (later other member) notSpread
  constructor
  · intro effect
    constructor
    · have own := effect.named fun _ => []
      have absent : Overlay.read
          (back.map (TagMember.layer fun _ => [])) property = none := by
        refine Overlay.read_eq_none ?_
        rw [List.forall_mem_map]
        intro other member
        cases spread : other.isSpread with
        | true => exact layer_of_isSpread spread
        | false => exact unspread _ other member spread
      rw [given, absent, Option.none_or, Option.some_or] at own
      exact Option.some.inj own
    · by_contra someSpread
      rw [Bool.not_eq_false, List.any_eq_true] at someSpread
      obtain ⟨last, member, spread⟩ := someSpread
      have null : ∀ other : TagMember, other.isSpread = true →
          other.layer (fun _ => [(property, .null)]) property =
            some .null := by
        intro other isSpread
        rw [layer_of_isSpread isSpread, ownProperty_single]
      have replaced : Overlay.read (back.map
          (TagMember.layer fun _ => [(property, .null)])) property =
            some .null := by
        refine Overlay.read_eq_some ?_ ⟨_, List.mem_map_of_mem member,
          null last spread⟩
        rw [List.forall_mem_map]
        intro other otherMember
        cases isSpread : other.isSpread with
        | true => exact .inr (null other isSpread)
        | false => exact .inl (unspread _ other otherMember isSpread)
      have own := effect.named fun _ => [(property, .null)]
      rw [given, replaced, Option.some_or, Option.some_or] at own
      exact notNull (Option.some.inj own).symm
  · rintro ⟨same, noSpread⟩
    refine ⟨text, ?_, fun objects => ?_, fun objects name other => ?_⟩
    · have notKept : decide (part.layer (fun _ => []) property = none) =
          false := by
        have given := (layer_of_isNamed (fun _ => []) named).2.1
        rw [decide_eq_false_iff_not]
        intro none
        rw [none] at given
        cases given
      rw [members, split, List.filter_append, List.filter_append,
        List.filter_cons, writtenMember_not_kept, List.filter_cons, notKept]
      rfl
    · have absent : Overlay.read
          (back.map (TagMember.layer objects)) property = none := by
        refine Overlay.read_eq_none ?_
        rw [List.forall_mem_map]
        exact fun other member => unspread objects other member
          (Bool.eq_false_iff.mpr (List.any_eq_false.mp noSpread other member))
      rw [given, absent, Option.none_or, Option.some_or, same]
    · refine prop_congr rfl ?_
      rw [members, split, List.map_append, List.map_append, List.map_cons,
        List.map_cons]
      refine Overlay.read_replace ?_
      rw [layer_writtenMember, if_neg (Ne.symm other),
        (layer_of_isNamed objects named).2.2.2 name other]

theorem ne_children_of_isAdmittedProp
    (admitted : isAdmittedProp property = true) :
    property ≠ js "children" := by
  rintro rfl
  exact absurd admitted (by decide)

/--
A property that is set gets its value, and all else stays, exactly if no spread
stands behind an attribute of the name and the value is not the negative zero.
-/
theorem setProp_takesEffect_iff
    {hasDiagnostic : JsString → Bool}
    {format : NumberFormat}
    {tag : OpeningTag}
    {property : JsString}
    {value : JsValue}
    {nextContent : JsString}
    (representable : ∀ number, value = .number number →
      number.IsRepresentable)
    (admitted : isAdmittedProp property = true)
    (prepared : prepareElementEdit hasDiagnostic [tag]
      (prepareComponentPropertyPatch format property value) =
        .ok nextContent) :
    TakesEffect format tag property value nextContent ↔
      StaysLast tag property value := by
  have notChildren := ne_children_of_isAdmittedProp admitted
  obtain ⟨⟨literal, isText⟩, single, text⟩ :=
    prepareComponentPropertyPatch_eq_ok (prepareElementEdit_eq_ok.mp prepared).1
  have notNull : value ≠ .null := by
    rintro rfl
    cases isText
  rw [StaysLast, ← readBack_eq_iff isText representable]
  rcases named_cases property tag.members with
    absent | ⟨front, part, back, split, earlier, named⟩
  · rw [takesEffect_of_absent absent notChildren text,
      spreadBehind_of_absent absent, eq_self_iff_true, and_true]
  · have later : ∀ other ∈ back, other.isNamed property = false := by
      rw [split, List.filter_append, List.filter_cons_of_pos named,
        List.length_append, List.length_cons] at single
      have noOther : (back.filter (TagMember.isNamed property)).length = 0 := by
        omega
      intro other member
      have none := List.filter_eq_nil_iff.mp (List.length_eq_zero_iff.mp noOther)
      exact Bool.eq_false_iff.mpr (none other member)
    rw [takesEffect_of_split split earlier named later notNull notChildren text,
      split, spreadBehind_append _ earlier, spreadBehind, if_pos named]

/-! ## A property in front of a spread -/

/-- A source whose element has a property. -/
def sampleTag : OpeningTag where
  before := js "<Card"
  members := [
    { trivia := [0x20], text := js "\x7b...rest\x7d", kind := .spread 0 },
    { trivia := [0x20], text := js "tone='dark'",
      kind := .named (.identifier (js "tone") (by decide))
        (.string (js "dark")) }]
  after := js "/>"
  children := none

/-- The same members the other way around. -/
def sampleSpreadTag : OpeningTag :=
  { sampleTag with members := sampleTag.members.reverse }

/-- A property behind a spread is set. -/
theorem setProp_sampleTag :
    TakesEffect exactNumerals sampleTag (js "tone") (.string (js "light"))
      (js "<Card \x7b...rest\x7d tone=\x7b\"light\"\x7d/>") := by
  have prepared : prepareElementEdit (fun _ => false) [sampleTag]
      (prepareComponentPropertyPatch exactNumerals (js "tone")
        (.string (js "light"))) =
        .ok (js "<Card \x7b...rest\x7d tone=\x7b\"light\"\x7d/>") := by
    decide +kernel
  have notNumber : ∀ number,
      JsValue.string (js "light") ≠ .number number := nofun
  have admitted : isAdmittedProp (js "tone") = true := by
    decide
  exact (setProp_takesEffect_iff
    (fun number isNumber => absurd isNumber (notNumber number))
    admitted prepared).mpr
      ⟨fun number isNumber => absurd isNumber (notNumber number), rfl⟩

/-- A property in front of a spread is lost if the spread has it. -/
theorem setProp_sampleSpreadTag :
    isAdmittedProp (js "tone") = true ∧
      prepareComponentPropertyPatch exactNumerals (js "tone")
          (.string (js "light")) sampleSpreadTag =
        .ok (js "<Card tone=\x7b\"light\"\x7d \x7b...rest\x7d/>") ∧
      ¬ TakesEffect exactNumerals sampleSpreadTag (js "tone")
        (.string (js "light"))
        (js "<Card tone=\x7b\"light\"\x7d \x7b...rest\x7d/>") := by
  refine ⟨by decide, by decide +kernel, ?_⟩
  intro effect
  have named := effect.named fun _ => [(js "tone", .null)]
  have lost : (sampleSpreadTag.patched exactNumerals (js "tone")
      (.string (js "light"))).prop (fun _ => [(js "tone", .null)])
        (js "tone") = some .null :=
    rfl
  rw [lost] at named
  cases named

end Selene.ReactTsx
