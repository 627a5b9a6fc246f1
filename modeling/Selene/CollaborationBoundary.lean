import Selene.CollaborationRecords

/-!
# The collaboration boundary

Budgets, errors and the elementary checks of the collaboration package.  Three
built-in functions are left to the host: how `Date.parse` reads texts other
than ISO timestamps, how `localeCompare` orders texts, and which texts the URL
parser takes for an `https` address without credentials.

`Revision.copy` is what `owned` returns of a revision; every other record is
returned unchanged.
-/

namespace Selene.Collaboration

open Js
open Baseline (DesignReadiness BaselineIntent BaselineCurrency
  DesignRevisionReference DesignBaseline DesignChangeScope VisualEvidence
  DesignChangeProvenance SemanticDesignChange)

/-- The built-in functions whose results the language leaves open. -/
structure Host where
  parseDate : JsString → Option Int
  -- The part of `Date.parse` that the language does specify.
  parseDate_timestamp :
    ∀ {text time}, timestampTime? text = some time →
      parseDate text = some time
  localeCompare : JsString → JsString → Ordering
  isSecureUrl : JsString → Bool
  numbers : NumberFormat

/--
A host that reads no date besides timestamps, orders texts by their code units
and takes every text with the right scheme for a secure address.
-/
noncomputable def codeUnitHost : Host where
  parseDate := timestampTime?
  parseDate_timestamp := id
  localeCompare first second :=
    if first < second then .lt else if first = second then .eq else .gt
  isSecureUrl := (js "https://").isPrefixOf
  numbers := exactNumerals

/-! ## Errors -/

inductive CollaborationErrorCode where
  | conflict
  | duplicate
  | invalid
  | notFound
  | forbidden
  | expired
  deriving DecidableEq

structure CollaborationError where
  code : CollaborationErrorCode
  message : JsString
  deriving DecidableEq

/-- A computation that may throw a `CollaborationError`. -/
abbrev Checked := Except CollaborationError

def invalid (message : JsString) : CollaborationError :=
  ⟨.invalid, message⟩

/-! ## Budgets -/

def collaborationBudgets : Budgets where
  maxBytes := 10 * 1024 * 1024
  maxNodes := 10000
  maxDepth := 64
  maxItems := 10000
  maxText := 1000000
  boundsNames := true

def maxIdentifier : Nat := 128
def maxTimestamp : Nat := 64
def maxUrl : Nat := 2048
def maxReviewMessages : Nat := 1000
def maxReviewMessageReferences : Nat := 1000
def maxReviewReactions : Nat := 100

/-- `owned`: a copy within the budgets, or an error with this message. -/
def owned (value : JsValue) (message : JsString) : Checked Unit :=
  check (collaborationBudgets.Admits value) (invalid message)

/-- Bounded structural equality. -/
def equalCollaborationValues (left right : JsValue) : Bool :=
  collaborationBudgets.equalValues left right

/-- A field whose value may be absent, as it is read. -/
def presentOr (value : Option JsValue) : JsValue :=
  value.getD .undefined

/-! ## Elementary checks -/

def requireText (value field : JsString) (max : Nat) : Checked Unit :=
  check
    (isBlank value = false ∧ value.length ≤ max ∧
      utf8Length value ≤ max * 4)
    (invalid (field ++ js " must contain 1-" ++ decimalDigits max ++
      js " characters"))

/-- `[A-Za-z0-9]` -/
def isAlphanumeric (unit : CodeUnit) : Bool :=
  decide ((0x30 ≤ unit.val ∧ unit.val ≤ 0x39) ∨
    (0x41 ≤ unit.val ∧ unit.val ≤ 0x5A) ∨
    (0x61 ≤ unit.val ∧ unit.val ≤ 0x7A))

/-- `[A-Za-z0-9._:-]` -/
def isIdentifierUnit (unit : CodeUnit) : Bool :=
  isAlphanumeric unit || decide (unit ∈ js "._:-")

/-- `/^[A-Za-z0-9][A-Za-z0-9._:-]{0,127}$/` -/
def isIdentifier (value : JsString) : Prop :=
  value.length ≤ maxIdentifier ∧ value.head?.any isAlphanumeric = true ∧
    value.all isIdentifierUnit = true

instance (value : JsString) : Decidable (isIdentifier value) :=
  inferInstanceAs (Decidable (_ ∧ _))

def requireIdentifier (value field : JsString) : Checked Unit :=
  check (isIdentifier value)
    (invalid (field ++ js " is not a stable identifier"))

/-- A finite number whose value is valid. -/
def satisfies (number : OwnNumber) (valid : ℚ → Prop) : Prop :=
  ∃ value, number.val.finiteValue? = some value ∧ valid value

instance (number : OwnNumber) (valid : ℚ → Prop) [DecidablePred valid] :
    Decidable (satisfies number valid) :=
  match found : number.val.finiteValue? with
  | none => isFalse (by rintro ⟨value, same, _⟩; simp [found] at same)
  | some value =>
      decidable_of_iff (valid value) (by simp [satisfies, found])

def requireCoordinate (value : OwnNumber) (field : JsString) : Checked Unit :=
  check (satisfies value fun value => 0 ≤ value ∧ value ≤ 1)
    (invalid (field ++ js " must be a normalized coordinate"))

def requireListLimit (length max : Nat) (field : JsString) : Checked Unit :=
  check (length ≤ max)
    (invalid (field ++ js " exceeds the maximum of " ++ decimalDigits max ++
      js " items"))

/-- Whether a text is a timestamp. -/
def isTimestamp (value : JsString) : Prop :=
  value.length ≤ maxTimestamp ∧ (timestampTime? value).isSome

instance (value : JsString) : Decidable (isTimestamp value) :=
  inferInstanceAs (Decidable (_ ∧ _))

theorem isTimestamp_iff
    {value : JsString} :
    isTimestamp value ↔ ∃ time, timestampTime? value = some time := by
  rw [← Option.isSome_iff_exists]
  constructor
  · exact And.right
  · intro isTime
    obtain ⟨time, found⟩ := Option.isSome_iff_exists.mp isTime
    exact ⟨(length_of_timestampTime? found).trans (by decide), isTime⟩

def timestamp (value field : JsString) : Checked Unit :=
  check (isTimestamp value)
    (invalid (field ++ js " must be an ISO timestamp"))

/-- A check of a field that may be absent. -/
def whenPresent {α : Type} (value : Option α) (validate : α → Checked Unit) :
    Checked Unit :=
  match value with
  | none => .ok ()
  | some value => validate value

@[simp] theorem whenPresent_eq_ok
    {α : Type}
    {value : Option α}
    {validate : α → Checked Unit}
    {passed : Unit} :
    whenPresent value validate = .ok passed ↔
      ∀ present ∈ value, validate present = .ok () := by
  cases value with
  | none => simp [whenPresent]
  | some present => simp [whenPresent]

namespace Host

/-- `Date.parse(left) <= Date.parse(right)`; not so when either is `NaN`. -/
def notAfter (host : Host) (left right : JsString) : Prop :=
  ∃ first second, host.parseDate left = some first ∧
    host.parseDate right = some second ∧ first ≤ second

/-- `Date.parse(left) < Date.parse(right)`. -/
def before (host : Host) (left right : JsString) : Prop :=
  ∃ first second, host.parseDate left = some first ∧
    host.parseDate right = some second ∧ first < second

instance (host : Host) (left right : JsString) :
    Decidable (host.notAfter left right) :=
  match isLeft : host.parseDate left, isRight : host.parseDate right with
  | some first, some second =>
      decidable_of_iff (first ≤ second) (by simp [notAfter, isLeft, isRight])
  | none, _ => isFalse (by simp [notAfter, isLeft])
  | some _, none => isFalse (by simp [notAfter, isRight])

instance (host : Host) (left right : JsString) :
    Decidable (host.before left right) :=
  match isLeft : host.parseDate left, isRight : host.parseDate right with
  | some first, some second =>
      decidable_of_iff (first < second) (by simp [before, isLeft, isRight])
  | none, _ => isFalse (by simp [before, isLeft])
  | some _, none => isFalse (by simp [before, isRight])

variable {host : Host}

theorem exists_time
    {text : JsString}
    (valid : isTimestamp text) :
    ∃ time, timestampTime? text = some time ∧
      host.parseDate text = some time := by
  obtain ⟨time, isTime⟩ := Option.isSome_iff_exists.mp valid.2
  exact ⟨time, isTime, host.parseDate_timestamp isTime⟩

theorem not_notAfter
    {left right : JsString}
    (leftValid : isTimestamp left)
    (rightValid : isTimestamp right) :
    ¬ host.notAfter left right ↔ host.before right left := by
  obtain ⟨first, _, isFirst⟩ := @exists_time host _ leftValid
  obtain ⟨second, _, isSecond⟩ := @exists_time host _ rightValid
  simp [notAfter, before, isFirst, isSecond]

theorem not_before
    {left right : JsString}
    (leftValid : isTimestamp left)
    (rightValid : isTimestamp right) :
    ¬ host.before left right ↔ host.notAfter right left := by
  rw [← not_notAfter rightValid leftValid, not_not]

end Host

end Selene.Collaboration
