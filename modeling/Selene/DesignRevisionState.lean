import Selene.DesignRevisionRecord

/-!
# Design-revision states and authorities

The state a host keeps (policy, grant status, processed command identifiers and
the head revision) and the authority that accompanies a command, with their
parsers.  The copies of revision fields that a stored head carries are checked
by its parser, so a `DesignRevisionHead` only holds the revision itself.
-/

namespace Selene.Revision

open Js

/-! ## Capabilities -/

/-- `DesignRevisionCapability`. -/
inductive DesignRevisionCapability where
  | commit
  | preview
  | selection
  | inspect
  | edit
  | proposal
  | undo
  | baseline
  | publish
  | handoff
  deriving DecidableEq, Repr

instance : Literal DesignRevisionCapability where
  members := [.commit, .preview, .selection, .inspect, .edit, .proposal,
    .undo, .baseline, .publish, .handoff]
  name
    | .commit => "design:revision.commit"
    | .preview => "design:revision.preview"
    | .selection => "design:revision.selection"
    | .inspect => "design:revision.inspect"
    | .edit => "design:revision.edit"
    | .proposal => "design:revision.proposal"
    | .undo => "design:revision.undo"
    | .baseline => "design:revision.baseline"
    | .publish => "design:revision.publish"
    | .handoff => "design:revision.handoff"
  complete member := by cases member <;> simp
  injective first second same := by
    cases first <;> cases second <;> simp_all
  plainName member := by cases member <;> decide
  nameLength member := by cases member <;> decide

/-- `capability`. -/
def capability (value : JsValue) : Checked DesignRevisionCapability :=
  orFail (Literal.parse value) .unsupported

/-- Strictly sorted capabilities, at least one. -/
abbrev Capabilities :=
  { set : LiteralSet DesignRevisionCapability // set.val ≠ [] }

/-- `capabilities`. -/
def capabilities (value : JsValue) : Checked Capabilities := do
  let values ← asArray value .invalid
  check (1 ≤ values.length ∧ values.length ≤ 10) .invalid
  let accepted ← values.mapM capability
  let accepted ← orFail
    (sortUnique (Literal.text : DesignRevisionCapability → JsString)
      accepted) .invalid
  -- Sorting keeps the length, so the set is not empty.
  let ⟨nonempty⟩ ← require (accepted.val ≠ []) .invalid
  return ⟨accepted, nonempty⟩

/-! ## Policy and grant status -/

/-- `DesignRevisionTrustAnchor`. -/
structure DesignRevisionTrustAnchor where
  issuer : Identifier
  audience : Identifier
  grantId : Identifier
  schemaRevision : PositiveInteger
  commandsDigest : Digest
  deriving DecidableEq

/-- `DesignRevisionPolicy`. -/
structure DesignRevisionPolicy where
  tenantId : Identifier
  projectId : Identifier
  policyId : Identifier
  revision : PositiveInteger
  digest : Digest
  capabilities : Capabilities
  trustAnchor : DesignRevisionTrustAnchor
  deriving DecidableEq

/-- `DesignRevisionGrantStatus`; an active grant has no `revokedAt`. -/
structure DesignRevisionGrantStatus where
  grantId : Identifier
  epoch : PositiveInteger
  revokedAt : Option Instant
  deriving DecidableEq

/-- `state === 'active'`. -/
def DesignRevisionGrantStatus.IsActive
    (status : DesignRevisionGrantStatus) : Prop :=
  status.revokedAt = none

instance (status : DesignRevisionGrantStatus) : Decidable status.IsActive :=
  inferInstanceAs (Decidable (_ = _))

/-- `parseDesignRevisionTrustAnchor`. -/
def parseDesignRevisionTrustAnchor (value : JsValue) :
    Checked DesignRevisionTrustAnchor := do
  let input ← exact (← snapshot value)
    ["audience", "commandsDigest", "format", "grantId", "issuer",
      "schemaRevision"]
  check (IsText (input.get (js "format"))
    (js "selene-design-revision-trust-anchor/v1")) .unsupported
  let issuer ← text (input.get (js "issuer"))
  let audience ← text (input.get (js "audience"))
  let grantId ← text (input.get (js "grantId"))
  let schemaRevision ← integer (input.get (js "schemaRevision"))
  let commandsDigest ← digest (input.get (js "commandsDigest"))
  return { issuer, audience, grantId, schemaRevision, commandsDigest }

/-- `parseDesignRevisionGrantStatus`. -/
def parseDesignRevisionGrantStatus (value : JsValue) :
    Checked DesignRevisionGrantStatus := do
  let input ← exact (← snapshot value)
    ["epoch", "format", "grantId", "state"] ["revokedAt"]
  check (IsText (input.get (js "format"))
    (js "selene-design-revision-grant-status/v1")) .unsupported
  let grantId ← text (input.get (js "grantId"))
  let epoch ← integer (input.get (js "epoch"))
  if IsText (input.get (js "state")) (js "active") ∧
      IsUndefined (input.get (js "revokedAt")) then
    return { grantId, epoch, revokedAt := none }
  else if IsText (input.get (js "state")) (js "revoked") ∧
      ¬ IsUndefined (input.get (js "revokedAt")) then
    let revokedAt ← instant (input.get (js "revokedAt"))
    return { grantId, epoch, revokedAt := some revokedAt }
  else
    .error .invalid

/-- `compileDesignRevisionPolicy`. -/
def compileDesignRevisionPolicy (value : JsValue) :
    Checked DesignRevisionPolicy := do
  let input ← exact (← snapshot value)
    ["capabilities", "digest", "format", "policyId", "projectId",
      "revision", "tenantId", "trustAnchor"]
  check
    (IsText (input.get (js "format"))
        (js "selene-design-revision-policy/v1") ∨
      IsText (input.get (js "format"))
        (js "selene-design-revision-policy/v2")) .unsupported
  let acceptedCapabilities ← capabilities (input.get (js "capabilities"))
  -- A policy of the first version grants nothing but commits.
  check
    (IsText (input.get (js "format"))
        (js "selene-design-revision-policy/v1") →
      acceptedCapabilities.val.val = [.commit]) .unsupported
  let tenantId ← text (input.get (js "tenantId"))
  let projectId ← text (input.get (js "projectId"))
  let policyId ← text (input.get (js "policyId"))
  let revision ← integer (input.get (js "revision"))
  let digest ← digest (input.get (js "digest"))
  let trustAnchor ← parseDesignRevisionTrustAnchor
    (input.get (js "trustAnchor"))
  return {
    tenantId
    projectId
    policyId
    revision
    digest
    capabilities := acceptedCapabilities
    trustAnchor }

/-- A trust anchor as it is returned. -/
def DesignRevisionTrustAnchor.toJson
    (anchor : DesignRevisionTrustAnchor) : Json Nat :=
  .object [
    (js "format", .text (js "selene-design-revision-trust-anchor/v1")),
    (js "issuer", .text anchor.issuer.val),
    (js "audience", .text anchor.audience.val),
    (js "grantId", .text anchor.grantId.val),
    (js "schemaRevision", .number anchor.schemaRevision.val),
    (js "commandsDigest", .text anchor.commandsDigest.val)]

/-- Capabilities as they are returned. -/
def Capabilities.toJson (set : Capabilities) : Json Nat :=
  .array (set.val.val.map fun member => .text (Literal.text member))

/-- A policy as it is returned. -/
def DesignRevisionPolicy.toJson (policy : DesignRevisionPolicy) : Json Nat :=
  .object [
    (js "format", .text (js "selene-design-revision-policy/v2")),
    (js "tenantId", .text policy.tenantId.val),
    (js "projectId", .text policy.projectId.val),
    (js "policyId", .text policy.policyId.val),
    (js "revision", .number policy.revision.val),
    (js "digest", .text policy.digest.val),
    (js "capabilities", Capabilities.toJson policy.capabilities),
    (js "trustAnchor", policy.trustAnchor.toJson)]

/-- The `state` of a grant status. -/
def DesignRevisionGrantStatus.stateName
    (status : DesignRevisionGrantStatus) : JsString :=
  match status.revokedAt with
  | none => js "active"
  | some _ => js "revoked"

/-- A grant status as it is returned. -/
def DesignRevisionGrantStatus.toJson
    (status : DesignRevisionGrantStatus) : Json Nat :=
  .object (
    (js "format", .text (js "selene-design-revision-grant-status/v1")) ::
    (js "grantId", .text status.grantId.val) ::
    (js "epoch", .number status.epoch.val) ::
    (js "state", .text status.stateName) ::
    (Json.optionalEntry (js "revokedAt")
      (status.revokedAt.map Json.word) ++
    []))

/-! ## Authorities -/

/-- `DesignRevisionAuthority`. -/
structure DesignRevisionAuthority where
  tenantId : Identifier
  projectId : Identifier
  actorId : Identifier
  commandId : Identifier
  policyId : Identifier
  policyRevision : PositiveInteger
  policyDigest : Digest
  revisionId : Identifier
  tupleBinding : TupleBinding
  revisionCommitment : RevisionCommitment
  capabilities : Capabilities
  grantId : Identifier
  grantEpoch : PositiveInteger
  issuer : Identifier
  audience : Identifier
  schemaRevision : PositiveInteger
  commandsDigest : Digest
  issuedAt : Instant
  expiresAt : Instant
  revokedAt : Option Instant
  expires : issuedAt < expiresAt
  deriving DecidableEq

/-- `snapshotRejectingLegacyFormat`. -/
def snapshotRejectingLegacyFormat (value : JsValue) (legacyFormat : String) :
    Checked JsValue := do
  let captured ← snapshot value
  match captured with
  | .object record =>
      check (¬ IsText (Record.get record (js "format")) (js legacyFormat))
        .unsupported
      return captured
  | _ => return captured

/-- `parseDesignRevisionAuthority`. -/
def parseDesignRevisionAuthority (value : JsValue) :
    Checked DesignRevisionAuthority := do
  let input ← exact
    (← snapshotRejectingLegacyFormat value
      "selene-design-revision-authority/v1")
    ["actorId", "audience", "capabilities", "commandId", "commandsDigest",
      "expiresAt", "format", "grantId", "grantEpoch", "issuedAt", "issuer",
      "policyDigest", "policyId", "policyRevision", "projectId",
      "revisionCommitment", "revisionId", "schemaRevision", "tenantId",
      "tupleBinding"]
    ["revokedAt"]
  check (IsText (input.get (js "format"))
    (js "selene-design-revision-authority/v2")) .unsupported
  let issuedAt ← instant (input.get (js "issuedAt"))
  let expiresAt ← instant (input.get (js "expiresAt"))
  let ⟨expires⟩ ← require (issuedAt < expiresAt) .unauthorized
  let tenantId ← text (input.get (js "tenantId"))
  let projectId ← text (input.get (js "projectId"))
  let actorId ← text (input.get (js "actorId"))
  let commandId ← text (input.get (js "commandId"))
  let policyId ← text (input.get (js "policyId"))
  let policyRevision ← integer (input.get (js "policyRevision"))
  let policyDigest ← digest (input.get (js "policyDigest"))
  let revisionId ← text (input.get (js "revisionId"))
  let tupleBinding ← tupleBinding (input.get (js "tupleBinding"))
  let revisionCommitment ← revisionCommitment
    (input.get (js "revisionCommitment"))
  let capabilities ← capabilities (input.get (js "capabilities"))
  let grantId ← text (input.get (js "grantId"))
  let grantEpoch ← integer (input.get (js "grantEpoch"))
  let issuer ← text (input.get (js "issuer"))
  let audience ← text (input.get (js "audience"))
  let schemaRevision ← integer (input.get (js "schemaRevision"))
  let commandsDigest ← digest (input.get (js "commandsDigest"))
  let revokedAt ← optionally instant (input.get (js "revokedAt"))
  return {
    tenantId
    projectId
    actorId
    commandId
    policyId
    policyRevision
    policyDigest
    revisionId
    tupleBinding
    revisionCommitment
    capabilities
    grantId
    grantEpoch
    issuer
    audience
    schemaRevision
    commandsDigest
    issuedAt
    expiresAt
    revokedAt
    expires }

/-- An authority as it is returned. -/
def DesignRevisionAuthority.toJson
    (authority : DesignRevisionAuthority) : Json Nat :=
  .object (
    (js "format", .text (js "selene-design-revision-authority/v2")) ::
    (js "tenantId", .text authority.tenantId.val) ::
    (js "projectId", .text authority.projectId.val) ::
    (js "actorId", .text authority.actorId.val) ::
    (js "commandId", .text authority.commandId.val) ::
    (js "policyId", .text authority.policyId.val) ::
    (js "policyRevision", .number authority.policyRevision.val) ::
    (js "policyDigest", .text authority.policyDigest.val) ::
    (js "revisionId", .text authority.revisionId.val) ::
    (js "tupleBinding", .text authority.tupleBinding.val) ::
    (js "revisionCommitment", .text authority.revisionCommitment.val) ::
    (js "capabilities", Capabilities.toJson authority.capabilities) ::
    (js "grantId", .text authority.grantId.val) ::
    (js "grantEpoch", .number authority.grantEpoch.val) ::
    (js "issuer", .text authority.issuer.val) ::
    (js "audience", .text authority.audience.val) ::
    (js "schemaRevision", .number authority.schemaRevision.val) ::
    (js "commandsDigest", .text authority.commandsDigest.val) ::
    (js "issuedAt", .text authority.issuedAt.val) ::
    (js "expiresAt", .text authority.expiresAt.val) ::
    (Json.optionalEntry (js "revokedAt")
      (authority.revokedAt.map Json.word) ++
    []))

/-! ## States -/

/-- `DesignRevisionHead`; what it repeats of the revision is not stored twice. -/
structure DesignRevisionHead where
  revision : DesignRevision
  privacyBinding : PrivacyBinding
  privacyBinding_eq :
    createDesignRevisionPrivacyBindingFromParsed revision.privacy =
      .ok privacyBinding
  deriving DecidableEq

/-- The scope of a state: policy, grant and head belong to it. -/
structure InScope (tenantId projectId : Identifier)
    (policy : DesignRevisionPolicy) (grantStatus : DesignRevisionGrantStatus)
    (head : Option DesignRevisionHead) : Prop where
  policyTenant : policy.tenantId = tenantId
  policyProject : policy.projectId = projectId
  grant : policy.trustAnchor.grantId = grantStatus.grantId
  headTenant : ∀ kept ∈ head, kept.revision.tenantId = tenantId
  headProject : ∀ kept ∈ head, kept.revision.projectId = projectId

instance (tenantId projectId : Identifier) (policy : DesignRevisionPolicy)
    (grantStatus : DesignRevisionGrantStatus)
    (head : Option DesignRevisionHead) :
    Decidable (InScope tenantId projectId policy grantStatus head) :=
  decidable_of_iff
    (policy.tenantId = tenantId ∧ policy.projectId = projectId ∧
      policy.trustAnchor.grantId = grantStatus.grantId ∧
      (∀ kept ∈ head, kept.revision.tenantId = tenantId) ∧
      ∀ kept ∈ head, kept.revision.projectId = projectId)
    ⟨fun ⟨policyTenant, policyProject, grant, headTenant, headProject⟩ =>
        ⟨policyTenant, policyProject, grant, headTenant, headProject⟩,
      fun inScope => ⟨inScope.policyTenant, inScope.policyProject,
        inScope.grant, inScope.headTenant, inScope.headProject⟩⟩

/-- `DesignRevisionState`. -/
structure DesignRevisionState where
  tenantId : Identifier
  projectId : Identifier
  policy : DesignRevisionPolicy
  grantStatus : DesignRevisionGrantStatus
  processedCommandIds : List Identifier
  head : Option DesignRevisionHead
  distinctCommands : processedCommandIds.Nodup
  boundedCommands : processedCommandIds.length ≤ maxCommands
  inScope : InScope tenantId projectId policy grantStatus head
  deriving DecidableEq

/-- The `head` of a state. -/
def parseDesignRevisionHead (value : JsValue) :
    Checked DesignRevisionHead := do
  let input ← exact value
    ["createdAt", "format", "privacy", "privacyBinding", "revision",
      "revisionCommitment", "revisionId", "sequence", "tupleBinding"]
  check (IsText (input.get (js "format"))
    (js "selene-design-revision-head/v2")) .unsupported
  let headPrivacy ← privacy (input.get (js "privacy"))
  let headPrivacyBinding ← privacyBinding (input.get (js "privacyBinding"))
  let headRevision ← parseDesignRevision (input.get (js "revision"))
  let headRevisionCommitment ← revisionCommitment
    (input.get (js "revisionCommitment"))
  let computed ← createDesignRevisionPrivacyBindingFromParsed headPrivacy
  check (headPrivacyBinding = computed) .conflict
  check (headRevisionCommitment = headRevision.revisionCommitment) .conflict
  let revisionId ← text (input.get (js "revisionId"))
  check (revisionId = headRevision.revisionId) .conflict
  let sequence ← integer (input.get (js "sequence"))
  check (sequence = headRevision.sequence) .conflict
  let createdAt ← instant (input.get (js "createdAt"))
  check (createdAt = headRevision.createdAt) .conflict
  let headTupleBinding ← tupleBinding (input.get (js "tupleBinding"))
  check (headTupleBinding = headRevision.tupleBinding) .conflict
  let ⟨revisionPrivacyBinding, privacyBinding_eq⟩ ← witnessed
    (createDesignRevisionPrivacyBindingFromParsed headRevision.privacy)
  check (headPrivacyBinding = revisionPrivacyBinding) .conflict
  check (Json.stringify decimal headPrivacy.toJson =
    Json.stringify decimal headRevision.privacy.toJson) .conflict
  return {
    revision := headRevision
    privacyBinding := revisionPrivacyBinding
    privacyBinding_eq }

/-- `parseDesignRevisionState`. -/
def parseDesignRevisionState (value : JsValue) :
    Checked DesignRevisionState := do
  let input ← exact (← stateSnapshot value)
    ["format", "grantStatus", "policy", "processedCommandIds", "projectId",
      "tenantId"]
    ["head"]
  let isLegacyState :=
    IsText (input.get (js "format")) (js "selene-design-revision-state/v1")
  check (isLegacyState ∨
    IsText (input.get (js "format"))
      (js "selene-design-revision-state/v2")) .unsupported
  let commandValues ← asArray (input.get (js "processedCommandIds")) .invalid
  check (commandValues.length ≤ maxCommands) .invalid
  -- A legacy state has to be empty.
  check (isLegacyState →
    IsUndefined (input.get (js "head")) ∧ commandValues = [])
    .unsupported
  let processedCommandIds ← commandValues.mapM text
  let ⟨distinctCommands⟩ ← require processedCommandIds.Nodup .invalid
  -- The bound on the array, for the identifiers read from it.
  let ⟨boundedCommands⟩ ← require
    (processedCommandIds.length ≤ maxCommands) .invalid
  let head ← optionally parseDesignRevisionHead (input.get (js "head"))
  let policy ← compileDesignRevisionPolicy (input.get (js "policy"))
  let grantStatus ← parseDesignRevisionGrantStatus
    (input.get (js "grantStatus"))
  let tenantId ← text (input.get (js "tenantId"))
  let projectId ← text (input.get (js "projectId"))
  let ⟨inScope⟩ ← require
    (InScope tenantId projectId policy grantStatus head) .conflict
  return {
    tenantId
    projectId
    policy
    grantStatus
    processedCommandIds
    head
    distinctCommands
    boundedCommands
    inScope }

/-- A head as it is returned. -/
def DesignRevisionHead.toJson (head : DesignRevisionHead) : Json Nat :=
  .object [
    (js "format", .text (js "selene-design-revision-head/v2")),
    (js "revisionId", .text head.revision.revisionId.val),
    (js "sequence", .number head.revision.sequence.val),
    (js "createdAt", .text head.revision.createdAt.val),
    (js "tupleBinding", .text head.revision.tupleBinding.val),
    (js "privacy", head.revision.privacy.toJson),
    (js "privacyBinding", .text head.privacyBinding.val),
    (js "revision", head.revision.toJson),
    (js "revisionCommitment", .text head.revision.revisionCommitment.val)]

/-- A state as it is returned. -/
def DesignRevisionState.toJson (state : DesignRevisionState) : Json Nat :=
  .object (
    (js "format", .text (js "selene-design-revision-state/v2")) ::
    (js "tenantId", .text state.tenantId.val) ::
    (js "projectId", .text state.projectId.val) ::
    (js "policy", state.policy.toJson) ::
    (js "grantStatus", state.grantStatus.toJson) ::
    (js "processedCommandIds",
      .array (state.processedCommandIds.map Json.word)) ::
    Json.optionalEntry (js "head")
      (state.head.map DesignRevisionHead.toJson))

end Selene.Revision
