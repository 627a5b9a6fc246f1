import Selene.DesignRevisionPrivacyBinding

/-!
# Design revisions

`parseDesignRevision` with the revision it returns.  The two derived strings of
a revision, its tuple binding and its commitment, are recomputed from the other
fields; that they were is a property of the record.
-/

namespace Selene.Revision

open Js

/-! ## The revision tuple -/

/-- `DeploymentIdentity`. -/
inductive DeploymentIdentity where
  | unpublished (draftId : Identifier) (manifestDigest : Digest)
  | deployed (deploymentId : Identifier) (manifestDigest : Digest)
  deriving DecidableEq

/-- `CompiledPreviewIdentity`. -/
structure CompiledPreviewIdentity where
  buildId : Identifier
  previewDigest : Digest
  deriving DecidableEq

/-- `CompilerIdentity`. -/
structure CompilerIdentity where
  compilerId : Identifier
  compilerDigest : Digest
  deriving DecidableEq

/-- `DesignRevisionTuple`. -/
structure DesignRevisionTuple where
  sourceDigest : Digest
  graphDigest : Digest
  bindingDigest : Digest
  commandLogDigest : Digest
  designSystemLockDigest : Digest
  deployment : DeploymentIdentity
  preview : CompiledPreviewIdentity
  compiler : CompilerIdentity
  deriving DecidableEq

/-- `deployment`. -/
def deployment (value : JsValue) : Checked DeploymentIdentity := do
  let input ← exact value ["format", "manifestDigest", "state"]
    ["deploymentId", "draftId"]
  check (IsText (input.get (js "format"))
    (js "selene-deployment-identity/v1")) .unsupported
  let manifestDigest ← digest (input.get (js "manifestDigest"))
  if IsText (input.get (js "state")) (js "unpublished") ∧
      ¬ IsUndefined (input.get (js "draftId")) ∧
      IsUndefined (input.get (js "deploymentId")) then
    let draftId ← text (input.get (js "draftId"))
    return .unpublished draftId manifestDigest
  else if IsText (input.get (js "state")) (js "deployed") ∧
      ¬ IsUndefined (input.get (js "deploymentId")) ∧
      IsUndefined (input.get (js "draftId")) then
    let deploymentId ← text (input.get (js "deploymentId"))
    return .deployed deploymentId manifestDigest
  else
    .error .unsupported

/-- `tuple`. -/
def tuple (value : JsValue) : Checked DesignRevisionTuple := do
  let input ← exact value
    ["bindingDigest", "commandLogDigest", "compiler", "deployment",
      "designSystemLockDigest", "graphDigest", "preview", "sourceDigest"]
  let preview ← exact (input.get (js "preview"))
    ["buildId", "format", "previewDigest"]
  let compiler ← exact (input.get (js "compiler"))
    ["compilerDigest", "compilerId", "format"]
  check (IsText (preview.get (js "format"))
    (js "selene-compiled-preview-identity/v1")) .unsupported
  check (IsText (compiler.get (js "format"))
    (js "selene-compiler-identity/v1")) .unsupported
  let sourceDigest ← digest (input.get (js "sourceDigest"))
  let graphDigest ← digest (input.get (js "graphDigest"))
  let bindingDigest ← digest (input.get (js "bindingDigest"))
  let commandLogDigest ← digest (input.get (js "commandLogDigest"))
  let designSystemLockDigest ← digest
    (input.get (js "designSystemLockDigest"))
  let deployment ← deployment (input.get (js "deployment"))
  let buildId ← text (preview.get (js "buildId"))
  let previewDigest ← digest (preview.get (js "previewDigest"))
  let compilerId ← text (compiler.get (js "compilerId"))
  let compilerDigest ← digest (compiler.get (js "compilerDigest"))
  return {
    sourceDigest
    graphDigest
    bindingDigest
    commandLogDigest
    designSystemLockDigest
    deployment
    preview := { buildId, previewDigest }
    compiler := { compilerId, compilerDigest } }

namespace DeploymentIdentity

/-- A deployment identity as it is returned. -/
def toJson : DeploymentIdentity → Json Nat
  | .unpublished draftId manifestDigest =>
      .object [
        (js "format", .text (js "selene-deployment-identity/v1")),
        (js "state", .text (js "unpublished")),
        (js "draftId", .text draftId.val),
        (js "manifestDigest", .text manifestDigest.val)]
  | .deployed deploymentId manifestDigest =>
      .object [
        (js "format", .text (js "selene-deployment-identity/v1")),
        (js "state", .text (js "deployed")),
        (js "deploymentId", .text deploymentId.val),
        (js "manifestDigest", .text manifestDigest.val)]

/-- `deploymentBinding`. -/
def toTuple : DeploymentIdentity → List (Json Nat)
  | .unpublished draftId manifestDigest =>
      [.text (js "unpublished"), .text draftId.val, .text manifestDigest.val]
  | .deployed deploymentId manifestDigest =>
      [.text (js "deployed"), .text deploymentId.val, .text manifestDigest.val]

end DeploymentIdentity

namespace DesignRevisionTuple

/-- A tuple as it is returned. -/
def toJson (value : DesignRevisionTuple) : Json Nat :=
  .object [
    (js "sourceDigest", .text value.sourceDigest.val),
    (js "graphDigest", .text value.graphDigest.val),
    (js "bindingDigest", .text value.bindingDigest.val),
    (js "commandLogDigest", .text value.commandLogDigest.val),
    (js "designSystemLockDigest", .text value.designSystemLockDigest.val),
    (js "deployment", value.deployment.toJson),
    (js "preview", .object [
      (js "format", .text (js "selene-compiled-preview-identity/v1")),
      (js "buildId", .text value.preview.buildId.val),
      (js "previewDigest", .text value.preview.previewDigest.val)]),
    (js "compiler", .object [
      (js "format", .text (js "selene-compiler-identity/v1")),
      (js "compilerId", .text value.compiler.compilerId.val),
      (js "compilerDigest", .text value.compiler.compilerDigest.val)])]

/-- What the tuple binding commits to. -/
def bindingDocument (value : DesignRevisionTuple) : Json Nat :=
  .array (
    .text (js "selene-design-revision-tuple-binding/v1") ::
    .text value.sourceDigest.val ::
    .text value.graphDigest.val ::
    .text value.bindingDigest.val ::
    .text value.commandLogDigest.val ::
    .text value.designSystemLockDigest.val ::
    (value.deployment.toTuple ++ [
      .text value.preview.buildId.val,
      .text value.preview.previewDigest.val,
      .text value.compiler.compilerId.val,
      .text value.compiler.compilerDigest.val]))

end DesignRevisionTuple

/-- `createDesignRevisionTupleBindingFromParsed`. -/
def createDesignRevisionTupleBindingFromParsed
    (tupleValue : DesignRevisionTuple) : Checked TupleBinding :=
  tupleBinding (.string (Json.stringify decimal tupleValue.bindingDocument))

/-! ## The revision -/

/-- `Omit<DesignRevision, 'revisionCommitment'>`. -/
structure UncommittedRevision where
  tenantId : Identifier
  projectId : Identifier
  revisionId : Identifier
  parentRevisionId : Option Identifier
  sequence : PositiveInteger
  createdAt : Instant
  tuple : DesignRevisionTuple
  tupleBinding : TupleBinding
  privacy : DesignRevisionPrivacy
  tupleBinding_eq :
    createDesignRevisionTupleBindingFromParsed tuple = .ok tupleBinding
  deriving DecidableEq

/-- An audit as the commitment writes it. -/
def DesignPrivacyTransition.toTuple
    (audit : DesignPrivacyTransition) : Json Nat :=
  .array [
    .text (js "selene-design-privacy-transition/v1"),
    .text (Literal.text audit.fromLifecycle),
    .text (Literal.text audit.toLifecycle),
    .text audit.occurredAt.val,
    .text audit.auditCorrelationId.val,
    .orNull (audit.priorRevisionId.map Subtype.val),
    .orNull (audit.priorTupleBinding.map Subtype.val),
    .orNull (audit.priorPrivacyBinding.map Subtype.val),
    .orNull (audit.tombstoneDigest.map Subtype.val)]

/-- What the commitment commits to. -/
def UncommittedRevision.commitmentDocument (revision : UncommittedRevision)
    (privacyBinding : PrivacyBinding) : Json Nat :=
  .array [
    .text (js "selene-design-revision-commitment/v1"),
    .text (js "selene-design-revision/v2"),
    .text revision.tenantId.val,
    .text revision.projectId.val,
    .text revision.revisionId.val,
    .orNull (revision.parentRevisionId.map Subtype.val),
    .number revision.sequence.val,
    .text revision.createdAt.val,
    .text revision.tupleBinding.val,
    .text privacyBinding.val,
    .text (Literal.text revision.privacy.lifecycle),
    match revision.privacy.lifecycleAudit with
    | none => .null
    | some audit => audit.toTuple]

/-- `createDesignRevisionCommitmentFromParsed`. -/
def createDesignRevisionCommitmentFromParsed
    (revision : UncommittedRevision) : Checked RevisionCommitment := do
  let privacyBinding ← createDesignRevisionPrivacyBindingFromParsed
    revision.privacy
  revisionCommitment
    (.string
      (Json.stringify decimal (revision.commitmentDocument privacyBinding)))

/-- `DesignRevision`. -/
structure DesignRevision extends UncommittedRevision where
  revisionCommitment : RevisionCommitment
  revisionCommitment_eq :
    createDesignRevisionCommitmentFromParsed toUncommittedRevision =
      .ok revisionCommitment
  deriving DecidableEq

/-- `parseDesignRevision`. -/
def parseDesignRevision (value : JsValue) : Checked DesignRevision := do
  let input ← exact (← snapshot value)
    ["createdAt", "format", "privacy", "projectId", "revisionId",
      "sequence", "tenantId", "tuple"]
    ["parentRevisionId", "revisionCommitment", "tupleBinding"]
  check (IsText (input.get (js "format"))
    (js "selene-design-revision/v2")) .unsupported
  let parsedTuple ← tuple (input.get (js "tuple"))
  let parentRevisionId ← optionally text
    (input.get (js "parentRevisionId"))
  let ⟨computedTupleBinding, tupleBinding_eq⟩ ← witnessed
    (createDesignRevisionTupleBindingFromParsed parsedTuple)
  let givenTupleBinding ← optionally tupleBinding
    (input.get (js "tupleBinding"))
  check (givenTupleBinding = none ∨
    givenTupleBinding = some computedTupleBinding) .conflict
  let tenantId ← text (input.get (js "tenantId"))
  let projectId ← text (input.get (js "projectId"))
  let revisionId ← text (input.get (js "revisionId"))
  let sequence ← integer (input.get (js "sequence"))
  let createdAt ← instant (input.get (js "createdAt"))
  let parsedPrivacy ← privacy (input.get (js "privacy"))
  let parsed : UncommittedRevision := {
    tenantId
    projectId
    revisionId
    parentRevisionId
    sequence
    createdAt
    tuple := parsedTuple
    tupleBinding := computedTupleBinding
    privacy := parsedPrivacy
    tupleBinding_eq }
  let ⟨computedRevisionCommitment, revisionCommitment_eq⟩ ← witnessed
    (createDesignRevisionCommitmentFromParsed parsed)
  let givenCommitment ← optionally revisionCommitment
    (input.get (js "revisionCommitment"))
  check (givenCommitment = none ∨
    givenCommitment = some computedRevisionCommitment) .conflict
  return {
    parsed with
    revisionCommitment := computedRevisionCommitment
    revisionCommitment_eq }

/-- A revision as it is returned. -/
def DesignRevision.toJson (revision : DesignRevision) : Json Nat :=
  .object (
    (js "format", .text (js "selene-design-revision/v2")) ::
    (js "tenantId", .text revision.tenantId.val) ::
    (js "projectId", .text revision.projectId.val) ::
    (js "revisionId", .text revision.revisionId.val) ::
    (Json.optionalEntry (js "parentRevisionId")
      (revision.parentRevisionId.map Json.word) ++
    [(js "sequence", .number revision.sequence.val),
      (js "createdAt", .text revision.createdAt.val),
      (js "tuple", revision.tuple.toJson),
      (js "tupleBinding", .text revision.tupleBinding.val),
      (js "privacy", revision.privacy.toJson),
      (js "revisionCommitment", .text revision.revisionCommitment.val)]))

end Selene.Revision
