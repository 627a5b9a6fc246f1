import Selene.DesignRevisionFields
import Selene.JsonValue

/-!
# Privacy records of a design revision

`privacy` and `parseDesignPrivacyTransition` with the records they return.  The
fields every successor must keep form `DesignPrivacyTerms`; a privacy record
adds the lifecycle and its audit.  The checks of the parsers that relate two
fields are properties of the records, and so is the canonical order of their
arrays.
-/

namespace Selene.Revision

open Js

/-! ## Enumerations -/

/-- `DesignPrivacyClassification`. -/
inductive DesignPrivacyClassification where
  | internal
  | restricted
  deriving DecidableEq, Repr

/-- `DesignPrivacyLifecycle`. -/
inductive DesignPrivacyLifecycle where
  | active
  | redacted
  | tombstoned
  | expired
  deriving DecidableEq, Repr

/-- Categories of a `DesignPrivacyField`. -/
inductive DesignPrivacyCategory where
  | personal
  | secret
  | prompt
  deriving DecidableEq, Repr

/-- Modes of a `DesignPrivacyField`. -/
inductive DesignPrivacyMode where
  | mask
  | redact
  | exclude
  deriving DecidableEq, Repr

/-- `DesignTelemetryField`. -/
inductive DesignTelemetryField where
  | geometry
  | interactionKind
  | performance
  deriving DecidableEq, Repr

instance : Literal DesignPrivacyClassification where
  members := [.internal, .restricted]
  name
    | .internal => "internal"
    | .restricted => "restricted"
  complete member := by cases member <;> simp
  injective first second same := by
    cases first <;> cases second <;> simp_all
  plainName member := by cases member <;> decide
  nameLength member := by cases member <;> decide

instance : Literal DesignPrivacyLifecycle where
  members := [.active, .redacted, .tombstoned, .expired]
  name
    | .active => "active"
    | .redacted => "redacted"
    | .tombstoned => "tombstoned"
    | .expired => "expired"
  complete member := by cases member <;> simp
  injective first second same := by
    cases first <;> cases second <;> simp_all
  plainName member := by cases member <;> decide
  nameLength member := by cases member <;> decide

instance : Literal DesignPrivacyCategory where
  members := [.personal, .secret, .prompt]
  name
    | .personal => "personal"
    | .secret => "secret"
    | .prompt => "prompt"
  complete member := by cases member <;> simp
  injective first second same := by
    cases first <;> cases second <;> simp_all
  plainName member := by cases member <;> decide
  nameLength member := by cases member <;> decide

instance : Literal DesignPrivacyMode where
  members := [.mask, .redact, .exclude]
  name
    | .mask => "mask"
    | .redact => "redact"
    | .exclude => "exclude"
  complete member := by cases member <;> simp
  injective first second same := by
    cases first <;> cases second <;> simp_all
  plainName member := by cases member <;> decide
  nameLength member := by cases member <;> decide

instance : Literal DesignTelemetryField where
  members := [.geometry, .interactionKind, .performance]
  name
    | .geometry => "geometry"
    | .interactionKind => "interaction-kind"
    | .performance => "performance"
  complete member := by cases member <;> simp
  injective first second same := by
    cases first <;> cases second <;> simp_all
  plainName member := by cases member <;> decide
  nameLength member := by cases member <;> decide

/-! ## Records -/

/-- `DesignPrivacyTransition`. -/
structure DesignPrivacyTransition where
  fromLifecycle : DesignPrivacyLifecycle
  toLifecycle : DesignPrivacyLifecycle
  occurredAt : Instant
  auditCorrelationId : Identifier
  priorRevisionId : Option Identifier
  priorTupleBinding : Option TupleBinding
  priorPrivacyBinding : Option PrivacyBinding
  tombstoneDigest : Option Digest
  priorTogether :
    (priorRevisionId.isSome = priorTupleBinding.isSome) ∧
      priorTupleBinding.isSome = priorPrivacyBinding.isSome
  tombstoneMatches :
    toLifecycle = .tombstoned ↔ tombstoneDigest.isSome
  deriving DecidableEq

/-- `DesignPrivacyField`. -/
structure DesignPrivacyField where
  category : DesignPrivacyCategory
  mode : DesignPrivacyMode
  digest : Digest
  deriving DecidableEq

/-- The text that orders the privacy fields. -/
def DesignPrivacyField.key (field : DesignPrivacyField) : JsString :=
  Literal.text field.category ++
    0 :: (Literal.text field.mode ++ 0 :: field.digest.val)

/-- `designRevisionRequiredPrivacyExclusions`. -/
def designRevisionRequiredPrivacyExclusions : List String :=
  ["authorization-headers", "cookies", "customer-identifiers",
    "dom-snapshots", "local-paths", "page-content", "prompt-text",
    "prop-values", "source-text", "urls"]

/-- Canonically ordered identifiers. -/
abbrev IdentifierSet := StrictlySorted (Subtype.val : Identifier → JsString)

/-- Canonically ordered members of an enumeration. -/
abbrev LiteralSet (α : Type) [Literal α] :=
  StrictlySorted (Literal.text : α → JsString)

/-- `DesignRevisionTelemetryPolicy`; only the second variant has fields. -/
inductive DesignRevisionTelemetryPolicy where
  | disabled
  | localRedacted (fields : LiteralSet DesignTelemetryField)
      (nonempty : fields.val ≠ [])
  deriving DecidableEq

/-- Required exclusions are excluded. -/
def HasRequiredExclusions (exclusions : List Identifier) : Prop :=
  ∀ required ∈ designRevisionRequiredPrivacyExclusions,
    js required ∈ exclusions.map Subtype.val

instance (exclusions : List Identifier) :
    Decidable (HasRequiredExclusions exclusions) :=
  List.decidableBAll _ _

/-- The part of a `DesignRevisionPrivacy` that its binding commits to. -/
structure DesignPrivacyTerms where
  classification : DesignPrivacyClassification
  contentDigest : Digest
  promptDigest : Option Digest
  fields : StrictlySorted DesignPrivacyField.key
  deleteAfter : Instant
  tombstoneDigest : Digest
  exportPolicyDigest : Digest
  auditCorrelationId : Identifier
  exclusions : IdentifierSet
  telemetry : DesignRevisionTelemetryPolicy
  requiredExclusions : HasRequiredExclusions exclusions.val
  deriving DecidableEq

/-- Only a lifecycle other than `active` has an audit, and it matches. -/
def AuditMatches (lifecycle : DesignPrivacyLifecycle)
    (auditCorrelationId : Identifier) :
    Option DesignPrivacyTransition → Prop
  | none => lifecycle = .active
  | some audit =>
      lifecycle ≠ .active ∧ audit.toLifecycle = lifecycle ∧
        audit.auditCorrelationId = auditCorrelationId

instance (lifecycle : DesignPrivacyLifecycle)
    (auditCorrelationId : Identifier)
    (audit : Option DesignPrivacyTransition) :
    Decidable (AuditMatches lifecycle auditCorrelationId audit) := by
  unfold AuditMatches
  split <;> infer_instance

/-- `DesignRevisionPrivacy`. -/
structure DesignRevisionPrivacy extends DesignPrivacyTerms where
  lifecycle : DesignPrivacyLifecycle
  lifecycleAudit : Option DesignPrivacyTransition
  auditMatches : AuditMatches lifecycle auditCorrelationId lifecycleAudit
  deriving DecidableEq

/-! ## Parsers -/

/-- `parseDesignPrivacyTransition`. -/
def parseDesignPrivacyTransition (value : JsValue) :
    Checked DesignPrivacyTransition := do
  let input ← exact (← snapshot value)
    ["auditCorrelationId", "format", "from", "occurredAt", "to"]
    ["priorPrivacyBinding", "priorRevisionId", "priorTupleBinding",
      "tombstoneDigest"]
  check
    (IsText (input.get (js "format"))
      (js "selene-design-privacy-transition/v1")) .unsupported
  let fromLifecycle ← orFail (Literal.parse (input.get (js "from")))
    .unsupported
  let toLifecycle ← orFail (Literal.parse (input.get (js "to")))
    .unsupported
  let tombstoneDigest ← optionally digest (input.get (js "tombstoneDigest"))
  let priorRevisionId ← optionally text (input.get (js "priorRevisionId"))
  let priorTupleBinding ← optionally tupleBinding
    (input.get (js "priorTupleBinding"))
  let priorPrivacyBinding ← optionally privacyBinding
    (input.get (js "priorPrivacyBinding"))
  -- Either all three prior properties are given or none of them.
  let ⟨priorTogether⟩ ← require
    (priorRevisionId.isSome = priorTupleBinding.isSome ∧
      priorTupleBinding.isSome = priorPrivacyBinding.isSome) .conflict
  let ⟨tombstoneMatches⟩ ← require
    (toLifecycle = .tombstoned ↔ tombstoneDigest.isSome) .conflict
  let occurredAt ← instant (input.get (js "occurredAt"))
  let auditCorrelationId ← text (input.get (js "auditCorrelationId"))
  return {
    fromLifecycle
    toLifecycle
    occurredAt
    auditCorrelationId
    priorRevisionId
    priorTupleBinding
    priorPrivacyBinding
    tombstoneDigest
    priorTogether
    tombstoneMatches }

/-- One element of the `fields` of a privacy record. -/
def parseDesignPrivacyField (field : JsValue) :
    Checked DesignPrivacyField := do
  let entry ← exact field ["category", "digest", "mode"]
  let category ← orFail (Literal.parse (entry.get (js "category")))
    .unsupported
  let mode ← orFail (Literal.parse (entry.get (js "mode"))) .unsupported
  let digest ← digest (entry.get (js "digest"))
  return { category, mode, digest }

/-- The `telemetry` of a privacy record. -/
def parseTelemetryPolicy (value : JsValue) :
    Checked DesignRevisionTelemetryPolicy := do
  let input ← exact value ["consent", "export", "fields", "format", "mode"]
  check
    (IsText (input.get (js "format"))
      (js "selene-design-telemetry-policy/v1")) .unsupported
  check
    (IsText (input.get (js "export")) (js "denied")) .unsupported
  let fieldValues ← asArray (input.get (js "fields")) .unsupported
  let fields ← fieldValues.mapM fun field =>
    orFail (Literal.parse field) .unsupported
  let fields ← orFail
    (sortUnique (Literal.text : DesignTelemetryField → JsString) fields)
    .conflict
  if IsText (input.get (js "mode")) (js "disabled") ∧
      IsText (input.get (js "consent")) (js "not-granted") ∧
      fields.val = [] then
    return .disabled
  else
    check
      (IsText (input.get (js "mode")) (js "local-redacted") ∧
        IsText (input.get (js "consent")) (js "explicit")) .unauthorized
    let ⟨nonempty⟩ ← require (fields.val ≠ []) .unauthorized
    return .localRedacted fields nonempty

/-- `privacy`. -/
def privacy (value : JsValue) : Checked DesignRevisionPrivacy := do
  let input ← exact value
    ["auditCorrelationId", "classification", "contentDigest", "deletion",
      "exclusions", "exportPolicyDigest", "fields", "format", "lifecycle",
      "retention", "telemetry"]
    ["lifecycleAudit", "promptDigest"]
  check
    (IsText (input.get (js "format")) (js "selene-design-privacy/v2"))
    .unsupported
  let classification ← orFail
    (Literal.parse (input.get (js "classification"))) .unsupported
  let lifecycle ← orFail (Literal.parse (input.get (js "lifecycle")))
    .unsupported
  let fieldValues ← asArray (input.get (js "fields")) .invalid
  let exclusionValues ← asArray (input.get (js "exclusions")) .invalid
  let promptDigest ← optionally digest (input.get (js "promptDigest"))
  let lifecycleAudit ← optionally parseDesignPrivacyTransition
    (input.get (js "lifecycleAudit"))
  let auditCorrelationId ← text (input.get (js "auditCorrelationId"))
  let ⟨auditMatches⟩ ← require
    (AuditMatches lifecycle auditCorrelationId lifecycleAudit) .conflict
  let fields ← fieldValues.mapM parseDesignPrivacyField
  let fields ← orFail (sortUnique DesignPrivacyField.key fields) .conflict
  let exclusions ← exclusionValues.mapM text
  let exclusions ← orFail
    (sortUnique (Subtype.val : Identifier → JsString) exclusions) .conflict
  let ⟨requiredExclusions⟩ ← require
    (HasRequiredExclusions exclusions.val) .unauthorized
  let telemetry ← parseTelemetryPolicy (input.get (js "telemetry"))
  let retention ← exact (input.get (js "retention")) ["deleteAfter"]
  let deletion ← exact (input.get (js "deletion"))
    ["action", "tombstoneDigest"]
  check
    (IsText (deletion.get (js "action")) (js "tombstone")) .unsupported
  let contentDigest ← digest (input.get (js "contentDigest"))
  let deleteAfter ← instant (retention.get (js "deleteAfter"))
  let tombstoneDigest ← digest (deletion.get (js "tombstoneDigest"))
  let exportPolicyDigest ← digest (input.get (js "exportPolicyDigest"))
  return {
    classification
    contentDigest
    promptDigest
    fields
    deleteAfter
    tombstoneDigest
    exportPolicyDigest
    auditCorrelationId
    exclusions
    telemetry
    requiredExclusions
    lifecycle
    lifecycleAudit
    auditMatches }

/-! ## Documents -/

/-- The record that `parseDesignPrivacyTransition` returns. -/
def DesignPrivacyTransition.toJson
    (transition : DesignPrivacyTransition) : Json Nat :=
  .object (
    (js "format", .text (js "selene-design-privacy-transition/v1")) ::
    (js "from", .text (Literal.text transition.fromLifecycle)) ::
    (js "to", .text (Literal.text transition.toLifecycle)) ::
    (js "occurredAt", .text transition.occurredAt.val) ::
    (js "auditCorrelationId", .text transition.auditCorrelationId.val) ::
    (Json.optionalEntry (js "priorRevisionId")
      (transition.priorRevisionId.map Json.word) ++
    (Json.optionalEntry (js "priorTupleBinding")
      (transition.priorTupleBinding.map Json.word) ++
    (Json.optionalEntry (js "priorPrivacyBinding")
      (transition.priorPrivacyBinding.map Json.word) ++
    (Json.optionalEntry (js "tombstoneDigest")
      (transition.tombstoneDigest.map Json.word) ++
    [])))))

/-- A privacy field as it is returned. -/
def DesignPrivacyField.toJson (field : DesignPrivacyField) : Json Nat :=
  .object [
    (js "category", .text (Literal.text field.category)),
    (js "mode", .text (Literal.text field.mode)),
    (js "digest", .text field.digest.val)]

namespace DesignRevisionTelemetryPolicy

/-- `mode`. -/
def mode : DesignRevisionTelemetryPolicy → JsString
  | .disabled => js "disabled"
  | .localRedacted _ _ => js "local-redacted"

/-- `consent`. -/
def consent : DesignRevisionTelemetryPolicy → JsString
  | .disabled => js "not-granted"
  | .localRedacted _ _ => js "explicit"

theorem modeText (policy : DesignRevisionTelemetryPolicy) :
    PlainText policy.mode ∧
      1 ≤ policy.mode.length ∧ policy.mode.length ≤ 32 := by
  cases policy with
  | disabled =>
      simp only [mode]
      decide
  | localRedacted fields nonempty =>
      simp only [mode]
      decide

theorem consentText (policy : DesignRevisionTelemetryPolicy) :
    PlainText policy.consent ∧
      1 ≤ policy.consent.length ∧ policy.consent.length ≤ 32 := by
  cases policy with
  | disabled =>
      simp only [consent]
      decide
  | localRedacted fields nonempty =>
      simp only [consent]
      decide

/-- `fields`. -/
def fields :
    DesignRevisionTelemetryPolicy → LiteralSet DesignTelemetryField
  | .disabled => .empty _
  | .localRedacted fields _ => fields

/-- A telemetry policy as it is returned. -/
def toJson (policy : DesignRevisionTelemetryPolicy) : Json Nat :=
  .object [
    (js "format", .text (js "selene-design-telemetry-policy/v1")),
    (js "mode", .text policy.mode),
    (js "consent", .text policy.consent),
    (js "export", .text (js "denied")),
    (js "fields",
      .array (policy.fields.val.map fun field => .text (Literal.text field)))]

end DesignRevisionTelemetryPolicy

/-- The record that `privacy` returns. -/
def DesignRevisionPrivacy.toJson
    (record : DesignRevisionPrivacy) : Json Nat :=
  .object (
    (js "format", .text (js "selene-design-privacy/v2")) ::
    (js "classification", .text (Literal.text record.classification)) ::
    (js "contentDigest", .text record.contentDigest.val) ::
    (Json.optionalEntry (js "promptDigest")
      (record.promptDigest.map Json.word) ++
    (js "lifecycle", .text (Literal.text record.lifecycle)) ::
    (Json.optionalEntry (js "lifecycleAudit")
      (record.lifecycleAudit.map DesignPrivacyTransition.toJson) ++
    [(js "fields",
        .array (record.fields.val.map DesignPrivacyField.toJson)),
      (js "retention",
        .object [(js "deleteAfter", .text record.deleteAfter.val)]),
      (js "deletion",
        .object [
          (js "action", .text (js "tombstone")),
          (js "tombstoneDigest", .text record.tombstoneDigest.val)]),
      (js "exportPolicyDigest", .text record.exportPolicyDigest.val),
      (js "auditCorrelationId", .text record.auditCorrelationId.val),
      (js "exclusions",
        .array (record.exclusions.val.map Json.word)),
      (js "telemetry", record.telemetry.toJson)])))

end Selene.Revision
