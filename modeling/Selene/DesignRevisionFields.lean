import Selene.DesignRevisionSnapshot
import Selene.CanonicalOrder
import Selene.JsDate
import Selene.JsonValue
import Selene.JsLiteral

/-!
# Field parsers of the design-revision boundary

Each parser of a single field returns a subtype whose property is what the
parser checked, so that a later parser of the same field accepts it again.
Every result is plain or has a known prefix and length, which is what the
canonical bindings rely on.
-/

namespace Selene.Revision

open Js

/-- `exact`: an object with all required and no unexpected properties. -/
def exact (value : JsValue) (required : List String)
    (optional : List String := []) : Checked Record :=
  match value with
  | .object record =>
      if (∀ key ∈ Record.keys record, key ∈ (required ++ optional).map js) ∧
          ∀ name ∈ required, js name ∈ Record.keys record then
        .ok record
      else
        .error .invalid
  | _ => .error .invalid

variable {value : JsValue}

theorem exact_eq_ok
    {required optional : List String}
    {record : Record} :
    exact value required optional = .ok record ↔
      value = .object record ∧
        (∀ key ∈ record.keys, key ∈ (required ++ optional).map js) ∧
        ∀ name ∈ required, js name ∈ record.keys := by
  unfold exact
  cases value with
  | object entries =>
      simp only [JsValue.object.injEq]
      split
      · rename_i accepted
        simp only [Except.ok.injEq]
        constructor
        · rintro rfl
          exact ⟨rfl, accepted⟩
        · rintro ⟨rfl, _⟩
          rfl
      · rename_i rejected
        simp only [reduceCtorEq, false_iff, not_and]
        rintro rfl keys names
        exact rejected ⟨keys, names⟩
  | _ => simp

theorem exact_object
    {record : Record}
    {required optional : List String}
    (keys : ∀ key ∈ record.keys, key ∈ (required ++ optional).map js)
    (names : ∀ name ∈ required, js name ∈ record.keys) :
    exact (.object record) required optional = .ok record :=
  exact_eq_ok.mpr ⟨rfl, keys, names⟩

/-- Parse a property that may be missing. -/
def optionally (parse : JsValue → Checked α) : JsValue → Checked (Option α)
  | .undefined => .ok none
  | value => (parse value).map some

@[simp] theorem optionally_undefined (parse : JsValue → Checked α) :
    optionally parse .undefined = .ok none :=
  rfl

theorem optionally_of_ok
    {parse : JsValue → Checked α}
    {result : α}
    (present : value ≠ .undefined)
    (parsed : parse value = .ok result) :
    optionally parse value = .ok (some result) := by
  cases value with
  | undefined => exact (present rfl).elim
  | _ => simp [optionally, parsed, Except.map]

theorem optionally_getD
    {β : Type}
    {parse : JsValue → Checked β}
    {encode : β → JsValue}
    (present : ∀ value, encode value ≠ .undefined)
    (inverse : ∀ value, parse (encode value) = .ok value)
    (value : Option β) :
    optionally parse ((value.map encode).getD .undefined) = .ok value := by
  cases value with
  | none => rfl
  | some value => exact optionally_of_ok (present value) (inverse value)

theorem optionally_word
    {valid : JsString → Prop}
    {parse : JsValue → Checked { text // valid text }}
    (inverse : ∀ value, parse (.string value.val) = .ok value)
    (value : Option { text // valid text }) :
    optionally parse
        ((value.map (Json.toJs ∘ Json.word)).getD .undefined) =
      .ok value :=
  optionally_getD (by simp) inverse value

theorem optionally_eq_ok
    {parse : JsValue → Checked α}
    {result : Option α}
    (parsed : optionally parse value = .ok result) :
    (value = .undefined ∧ result = none) ∨
      (value ≠ .undefined ∧
        ∃ present, parse value = .ok present ∧ result = some present) := by
  cases value with
  | undefined =>
      left
      exact ⟨rfl, (Except.ok.inj parsed).symm⟩
  | _ =>
      right
      refine ⟨by simp, ?_⟩
      revert parsed
      simp only [optionally]
      cases parse _ with
      | error code => simp [Except.map]
      | ok present =>
          simp only [Except.map, Except.ok.injEq]
          rintro rfl
          exact ⟨present, rfl, rfl⟩

/-- `Array.isArray`. -/
def asArray (value : JsValue) (code : ValidationCode) :
    Checked (List JsValue) :=
  match value with
  | .array items => .ok items
  | _ => .error code

@[simp] theorem asArray_array
    (items : List JsValue)
    (code : ValidationCode) :
    asArray (.array items) code = .ok items :=
  rfl

theorem asArray_eq_ok
    {code : ValidationCode}
    {items : List JsValue} :
    asArray value code = .ok items ↔ value = .array items := by
  unfold asArray
  cases value <;> simp

/-- Fail with `code` where an optional result is missing. -/
def orFail (result : Option α) (code : ValidationCode) : Checked α :=
  match result with
  | some value => .ok value
  | none => .error code

@[simp] theorem orFail_some (value : α) (code : ValidationCode) :
    orFail (some value) code = .ok value :=
  rfl

@[simp] theorem orFail_eq_ok
    {result : Option α}
    {code : ValidationCode}
    {value : α} :
    orFail result code = .ok value ↔ result = some value := by
  cases result <;> simp [orFail]

/-- Keep the proof that a computation succeeded. -/
def witnessed (result : Checked α) :
    Checked { value : α // result = .ok value } :=
  match result with
  | .ok value => .ok ⟨value, rfl⟩
  | .error code => .error code

theorem witnessed_of_ok
    {result : Checked α}
    {value : α}
    (succeeded : result = .ok value) :
    witnessed result = .ok ⟨value, succeeded⟩ := by
  subst succeeded
  rfl

theorem witnessed_bind_eq_ok
    {α β : Type}
    {first : Checked α}
    {next : { value : α // first = .ok value } → Checked β}
    {result : β} :
    (witnessed first >>= next) = .ok result ↔
      ∃ value, ∃ succeeded : first = .ok value,
        next ⟨value, succeeded⟩ = .ok result := by
  rw [bind_eq_ok]
  constructor
  · rintro ⟨⟨value, succeeded⟩, _, rest⟩
    exact ⟨value, succeeded, rest⟩
  · rintro ⟨value, succeeded, rest⟩
    exact ⟨⟨value, succeeded⟩, witnessed_of_ok succeeded, rest⟩

/-! ## Identifiers and digests -/

/-- `[A-Za-z0-9]`. -/
def IsAlphanumeric (unit : CodeUnit) : Prop :=
  (0x30 ≤ unit.val ∧ unit.val ≤ 0x39) ∨
    (0x41 ≤ unit.val ∧ unit.val ≤ 0x5A) ∨
    (0x61 ≤ unit.val ∧ unit.val ≤ 0x7A)

/-- `[A-Za-z0-9._:-]`. -/
def IsIdentifierUnit (unit : CodeUnit) : Prop :=
  IsAlphanumeric unit ∨ unit.val = 0x2E ∨ unit.val = 0x5F ∨
    unit.val = 0x3A ∨ unit.val = 0x2D

/-- `[a-f0-9]`. -/
def IsHexUnit (unit : CodeUnit) : Prop :=
  (0x30 ≤ unit.val ∧ unit.val ≤ 0x39) ∨
    (0x61 ≤ unit.val ∧ unit.val ≤ 0x66)

instance (unit : CodeUnit) : Decidable (IsAlphanumeric unit) :=
  inferInstanceAs (Decidable (_ ∨ _))

instance (unit : CodeUnit) : Decidable (IsIdentifierUnit unit) :=
  inferInstanceAs (Decidable (_ ∨ _))

instance (unit : CodeUnit) : Decidable (IsHexUnit unit) :=
  inferInstanceAs (Decidable (_ ∨ _))

/-- Every unit of the string satisfies the class. -/
def AllUnits (unitClass : CodeUnit → Prop) (text : JsString) : Prop :=
  ∀ unit ∈ text, unitClass unit

instance (unitClass : CodeUnit → Prop) [DecidablePred unitClass]
    (text : JsString) : Decidable (AllUnits unitClass text) :=
  List.decidableBAll _ text

/-- `/^[A-Za-z0-9][A-Za-z0-9._:-]{0,127}$/`. -/
def IsIdentifier (text : JsString) : Prop :=
  match text with
  | [] => False
  | first :: rest =>
      IsAlphanumeric first ∧ AllUnits IsIdentifierUnit rest ∧
        rest.length ≤ 127

instance (text : JsString) : Decidable (IsIdentifier text) := by
  unfold IsIdentifier
  split <;> infer_instance

/-- `/^[a-f0-9]{64}$/`. -/
def IsDigest (text : JsString) : Prop :=
  text.length = 64 ∧ AllUnits IsHexUnit text

instance (text : JsString) : Decidable (IsDigest text) :=
  inferInstanceAs (Decidable (_ ∧ _))

/-- Strings accepted by `text`. -/
abbrev Identifier := { text : JsString // IsIdentifier text }

/-- Strings accepted by `digest`. -/
abbrev Digest := { text : JsString // IsDigest text }

theorem IsIdentifierUnit.isPlain
    {unit : CodeUnit}
    (identifierUnit : IsIdentifierUnit unit) :
    unit.IsPlain := by
  have range : 0x2D ≤ unit.val ∧ unit.val ≤ 0x7A ∧ unit.val ≠ 0x5C := by
    unfold IsIdentifierUnit IsAlphanumeric at identifierUnit
    omega
  refine ⟨⟨by omega, ?_⟩, ?_⟩
  · unfold CodeUnit.IsSurrogate
    omega
  · rintro (rfl | rfl)
    · exact absurd range.1 (by decide)
    · exact range.2.2 rfl

theorem Identifier.isIdentifierUnit (identifier : Identifier) :
    ∀ unit ∈ identifier.val, IsIdentifierUnit unit := by
  obtain ⟨text, valid⟩ := identifier
  cases text with
  | nil => exact valid.elim
  | cons first rest =>
      obtain ⟨firstValid, restValid, _⟩ := valid
      intro unit member
      rcases List.mem_cons.mp member with rfl | inRest
      · exact .inl firstValid
      · exact restValid unit inRest

theorem Identifier.plain (identifier : Identifier) :
    PlainText identifier.val :=
  fun unit member => (identifier.isIdentifierUnit unit member).isPlain

theorem Identifier.length_bounds (identifier : Identifier) :
    1 ≤ identifier.val.length ∧ identifier.val.length ≤ 128 := by
  obtain ⟨text, valid⟩ := identifier
  cases text with
  | nil => exact valid.elim
  | cons first rest =>
      obtain ⟨_, _, bound⟩ := valid
      simp only [List.length_cons]
      omega

theorem Digest.plain (digest : Digest) :
    PlainText digest.val := by
  intro unit member
  apply IsIdentifierUnit.isPlain
  have hex := digest.property.2 unit member
  unfold IsHexUnit at hex
  unfold IsIdentifierUnit IsAlphanumeric
  omega

@[simp] theorem Digest.length (digest : Digest) :
    digest.val.length = 64 :=
  digest.property.1

/-- `text`: an identifier. -/
def text (value : JsValue) : Checked Identifier :=
  match value with
  | .string candidate =>
      if valid : IsIdentifier candidate then .ok ⟨candidate, valid⟩
      else .error .invalid
  | _ => .error .invalid

/-- `digest`: a lower-case SHA-256 digest. -/
def digest (value : JsValue) : Checked Digest :=
  match value with
  | .string candidate =>
      if valid : IsDigest candidate then .ok ⟨candidate, valid⟩
      else .error .invalid
  | _ => .error .invalid

@[simp] theorem text_val (identifier : Identifier) :
    text (.string identifier.val) = .ok identifier :=
  dif_pos identifier.property

@[simp] theorem digest_val (value : Digest) :
    digest (.string value.val) = .ok value :=
  dif_pos value.property

theorem text_eq_ok
    {identifier : Identifier} :
    text value = .ok identifier ↔ value = .string identifier.val := by
  constructor
  · intro parsed
    unfold text at parsed
    split at parsed
    · split at parsed
      · cases parsed
        rfl
      · cases parsed
    · cases parsed
  · rintro rfl
    exact text_val identifier

theorem digest_eq_ok
    {result : Digest} :
    digest value = .ok result ↔ value = .string result.val := by
  constructor
  · intro parsed
    unfold digest at parsed
    split at parsed
    · split at parsed
      · cases parsed
        rfl
      · cases parsed
    · cases parsed
  · rintro rfl
    exact digest_val result

theorem Identifier.utf8Length_le (identifier : Identifier) :
    utf8Length identifier.val ≤ 128 := by
  have ascii : ∀ unit ∈ identifier.val, unit.val ≤ 0x7F := by
    intro unit member
    have identifierUnit := identifier.isIdentifierUnit unit member
    unfold IsIdentifierUnit IsAlphanumeric at identifierUnit
    omega
  rw [utf8Length_of_ascii ascii]
  exact identifier.length_bounds.2

theorem Digest.utf8Length_le (digest : Digest) :
    utf8Length digest.val ≤ 192 := by
  have exactly := digest.length
  have bytes := Js.utf8Length_le digest.val
  omega

/-! ## Bindings -/

/-- A string of bounded length with one of the given prefixes. -/
def IsBinding (limit : Nat) (prefixes : List String) (text : JsString) : Prop :=
  text.length ≤ limit ∧ ∃ start ∈ prefixes, js start <+: text

instance (limit : Nat) (prefixes : List String) (text : JsString) :
    Decidable (IsBinding limit prefixes text) :=
  inferInstanceAs (Decidable (_ ∧ _))

/-- Parse a string of bounded length with one of the given prefixes. -/
def binding (limit : Nat) (prefixes : List String) (value : JsValue) :
    Checked { text : JsString // IsBinding limit prefixes text } :=
  match value with
  | .string candidate =>
      if valid : IsBinding limit prefixes candidate then
        .ok ⟨candidate, valid⟩
      else
        .error .invalid
  | _ => .error .invalid

variable {limit : Nat} {prefixes : List String}

@[simp] theorem binding_val
    (value : { text : JsString // IsBinding limit prefixes text }) :
    binding limit prefixes (.string value.val) = .ok value :=
  dif_pos value.property

theorem binding_eq_ok
    {result : { text : JsString // IsBinding limit prefixes text }} :
    binding limit prefixes value = .ok result ↔
      value = .string result.val := by
  constructor
  · intro parsed
    unfold binding at parsed
    split at parsed
    · split at parsed
      · cases parsed
        rfl
      · cases parsed
    · cases parsed
  · rintro rfl
    exact binding_val result

theorem utf8Length_binding_le
    (value : { text : JsString // IsBinding limit prefixes text }) :
    utf8Length value.val ≤ 3 * limit := by
  have short := value.property.1
  have bytes := Js.utf8Length_le value.val
  omega

def maxTupleBinding : Nat := 2048

def maxPrivacyBinding : Nat := 4096

def maxRevisionCommitment : Nat := 8192

def tupleBindingPrefixes : List String :=
  ["[\"selene-design-revision-tuple-binding/v1\","]

def privacyBindingPrefixes : List String :=
  ["[\"selene-design-revision-privacy-binding/v1\",",
    "[\"selene-design-revision-privacy-binding/v2\","]

def revisionCommitmentPrefixes : List String :=
  ["[\"selene-design-revision-commitment/v1\","]

/-- Strings accepted by `tupleBinding`. -/
abbrev TupleBinding :=
  { text : JsString // IsBinding maxTupleBinding tupleBindingPrefixes text }

/-- Strings accepted by `privacyBinding`. -/
abbrev PrivacyBinding :=
  { text : JsString // IsBinding maxPrivacyBinding privacyBindingPrefixes text }

/-- Strings accepted by `revisionCommitment`. -/
abbrev RevisionCommitment :=
  { text : JsString //
    IsBinding maxRevisionCommitment revisionCommitmentPrefixes text }

/-- `tupleBinding`. -/
def tupleBinding : JsValue → Checked TupleBinding :=
  binding maxTupleBinding tupleBindingPrefixes

/-- `privacyBinding`. -/
def privacyBinding : JsValue → Checked PrivacyBinding :=
  binding maxPrivacyBinding privacyBindingPrefixes

/-- `revisionCommitment`. -/
def revisionCommitment : JsValue → Checked RevisionCommitment :=
  binding maxRevisionCommitment revisionCommitmentPrefixes

@[simp] theorem tupleBinding_val (value : TupleBinding) :
    tupleBinding (.string value.val) = .ok value :=
  binding_val value

@[simp] theorem privacyBinding_val (value : PrivacyBinding) :
    privacyBinding (.string value.val) = .ok value :=
  binding_val value

@[simp] theorem revisionCommitment_val (value : RevisionCommitment) :
    revisionCommitment (.string value.val) = .ok value :=
  binding_val value

/-! ## Numbers and instants -/

/-- Integers accepted by `integer`. -/
abbrev PositiveInteger :=
  { value : Nat // 1 ≤ value ∧ value ≤ JsNumber.maxSafeInteger }

/-- `integer`: a safe integer of at least one. -/
def integer (value : JsValue) : Checked PositiveInteger :=
  match value with
  | .number candidate =>
      match candidate.safeInteger? with
      | some whole =>
          if valid :
              1 ≤ whole.toNat ∧ whole.toNat ≤ JsNumber.maxSafeInteger then
            .ok ⟨whole.toNat, valid⟩
          else
            .error .invalid
      | none => .error .invalid
  | _ => .error .invalid

@[simp] theorem integer_ofNat (value : PositiveInteger) :
    integer (.number (.ofNat value.val)) = .ok value := by
  simp only [integer, JsNumber.safeInteger?_ofNat value.property.2,
    Int.toNat_natCast]
  exact dif_pos value.property

/-- Strings accepted by `instant`. -/
abbrev Instant :=
  { text : JsString // text.length ≤ 64 ∧ IsCanonicalDate text }

/-- `instant`: a date string that `toISOString` writes back unchanged. -/
def instant (value : JsValue) : Checked Instant :=
  match value with
  | .string candidate =>
      if valid : candidate.length ≤ 64 ∧ IsCanonicalDate candidate then
        .ok ⟨candidate, valid⟩
      else
        .error .invalid
  | _ => .error .invalid

@[simp] theorem instant_val (value : Instant) :
    instant (.string value.val) = .ok value :=
  dif_pos value.property

theorem instant_eq_ok
    {result : Instant} :
    instant value = .ok result ↔ value = .string result.val := by
  constructor
  · intro parsed
    unfold instant at parsed
    split at parsed
    · split at parsed
      · cases parsed
        rfl
      · cases parsed
    · cases parsed
  · rintro rfl
    exact instant_val result

theorem Instant.plain (value : Instant) :
    PlainText value.val :=
  value.property.2.shape.plain

theorem Instant.length_cases (value : Instant) :
    value.val.length = 24 ∨ value.val.length = 27 := by
  rcases value.property.2.shape.form with ⟨short, _⟩ | ⟨long, _⟩
  · exact .inl short
  · exact .inr long

theorem Instant.utf8Length_le (value : Instant) :
    utf8Length value.val ≤ 192 := by
  have short := value.property.1
  have bytes := Js.utf8Length_le value.val
  omega

/-- Instants are compared as strings. -/
instance : LT Instant := ⟨fun first second => first.val < second.val⟩

instance : LE Instant := ⟨fun first second => first.val ≤ second.val⟩

instance (first second : Instant) : Decidable (first < second) :=
  inferInstanceAs (Decidable (first.val < second.val))

instance (first second : Instant) : Decidable (first ≤ second) :=
  inferInstanceAs (Decidable (first.val ≤ second.val))

theorem Instant.length_le_of_le
    {first second : Instant}
    (ordered : first ≤ second) :
    second.val.length ≤ first.val.length :=
  first.property.2.shape.length_le_of_le second.property.2.shape ordered

end Selene.Revision
