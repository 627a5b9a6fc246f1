import Selene.DesignBaseline
import Selene.InertCopy

/-!
# Collaboration records

The records of the collaboration domain: projects and their immutable
revisions, discussions attached to a place of a reviewed revision, requests to
change a design, and what a portable snapshot of a project holds.

`toJs` is the value of a record at a boundary.  Only the content of a revision
is untyped; every other record is its own inert copy.  The design baseline
records are those of the handoff model, which the package mirrors.  Versions
and sequence numbers are counts: every check of one refuses any other number.
-/

namespace Selene.Collaboration

open Js
open Baseline (DesignReadiness BaselineIntent BaselineCurrency
  DesignRevisionReference DesignBaseline SemanticDesignChange)

/-! ## Projects and revisions -/

structure Project where
  id : JsString
  organizationId : JsString
  name : JsString
  deriving DecidableEq

structure Revision where
  id : JsString
  projectId : JsString
  sequence : Count
  parentRevisionId : Option JsString
  content : OwnValue
  contentSha256 : JsString
  scenarioIds : List JsString
  createdBy : JsString
  createdAt : JsString

/-! ## Places of a reviewed revision -/

structure Viewport where
  width : OwnNumber
  height : OwnNumber
  zoom : OwnNumber
  deriving DecidableEq

structure RevisionEvidence where
  artifactId : JsString
  screenId : JsString
  revisionId : JsString
  revisionFingerprint : JsString
  viewport : Viewport
  scenarioId : Option JsString
  stateId : Option JsString
  nodeId : Option JsString
  sourceRef : Option JsString
  deriving DecidableEq

structure SpatialPoint where
  x : OwnNumber
  y : OwnNumber
  deriving DecidableEq

structure SpatialRegion where
  x : OwnNumber
  y : OwnNumber
  width : OwnNumber
  height : OwnNumber
  deriving DecidableEq

inductive SpatialTarget where
  | point (point : SpatialPoint)
  | region (region : SpatialRegion)
  deriving DecidableEq

inductive AnchorLifecycle where
  | current
  | mapped
  | stale
  | orphaned
  deriving DecidableEq

structure SpatialAnchor where
  evidence : RevisionEvidence
  target : SpatialTarget
  lifecycle : AnchorLifecycle
  mappedFrom : Option RevisionEvidence
  deriving DecidableEq

/-! ## Review threads -/

structure MessageReaction where
  emoji : JsString
  userIds : List JsString
  deriving DecidableEq

structure ReviewThreadMessage where
  id : JsString
  body : JsString
  createdBy : JsString
  createdAt : JsString
  parentMessageId : Option JsString
  mentionedUserIds : List JsString
  reactions : List MessageReaction
  readBy : List JsString
  deriving DecidableEq

structure ReviewThreadBinding where
  tenantId : JsString
  projectId : JsString
  artifactId : JsString
  revisionId : JsString
  baselineId : JsString
  version : Count
  deriving DecidableEq

structure ReviewThreadCompilerTargetProvenance where
  nodeId : JsString
  revisionId : JsString
  bindingId : JsString
  deriving DecidableEq

inductive ReviewThreadLifecycle where
  | opened
  | resolved
  deriving DecidableEq

structure ReviewThread where
  id : JsString
  projectId : JsString
  hostedBinding : Option ReviewThreadBinding
  compilerTargetProvenance : Option ReviewThreadCompilerTargetProvenance
  version : Count
  anchor : SpatialAnchor
  messages : List ReviewThreadMessage
  deepLink : JsString
  lifecycle : ReviewThreadLifecycle
  createdBy : JsString
  createdAt : JsString
  resolvedAt : Option JsString
  resolvedBy : Option JsString
  reopenedAt : Option JsString
  reopenedBy : Option JsString
  movedAt : Option JsString
  movedBy : Option JsString
  deriving DecidableEq

/-! ## Requests to change a design -/

inductive AIChangeRequestLifecycle where
  | queued
  | running
  | applied
  | failed
  | cancelled
  | undone
  deriving DecidableEq

structure AIChangeProviderSnapshot where
  providerId : JsString
  capability : JsString
  model : Option JsString
  implementation : Option JsString
  deriving DecidableEq

structure AIChangeRequestResult where
  revisionId : JsString
  revisionFingerprint : JsString
  diff : JsString
  completedAt : JsString
  deriving DecidableEq

structure AIChangeRequest where
  id : JsString
  projectId : JsString
  anchor : Option SpatialAnchor
  instruction : JsString
  provider : AIChangeProviderSnapshot
  baseRevision : DesignRevisionReference
  lifecycle : AIChangeRequestLifecycle
  createdBy : JsString
  createdAt : JsString
  updatedAt : JsString
  result : Option AIChangeRequestResult
  undoResult : Option AIChangeRequestResult
  failureReason : Option JsString
  deriving DecidableEq

/-! ## Annotations, discussions and decisions -/

inductive AnnotationCategory where
  | development
  | interaction
  | accessibility
  | content
  deriving DecidableEq

structure DeveloperAnnotation where
  id : JsString
  projectId : JsString
  anchor : SpatialAnchor
  category : AnnotationCategory
  body : JsString
  createdBy : JsString
  createdAt : JsString
  deriving DecidableEq

structure Thread where
  id : JsString
  projectId : JsString
  revisionId : JsString
  reactNodeId : JsString
  scenarioId : JsString
  createdBy : JsString
  createdAt : JsString
  resolvedAt : Option JsString
  resolvedBy : Option JsString
  deriving DecidableEq

structure Comment where
  id : JsString
  threadId : JsString
  parentCommentId : Option JsString
  body : JsString
  createdBy : JsString
  createdAt : JsString
  mentionedUserIds : List JsString
  deriving DecidableEq

structure Reaction where
  commentId : JsString
  userId : JsString
  emoji : JsString
  createdAt : JsString
  deriving DecidableEq

inductive ApprovalDecision where
  | approved
  | changesRequested
  deriving DecidableEq

structure Approval where
  id : JsString
  revisionId : JsString
  userId : JsString
  decision : ApprovalDecision
  note : Option JsString
  createdAt : JsString
  deriving DecidableEq

inductive SharePermission where
  | viewer
  | commenter
  deriving DecidableEq

structure SignedShareLink where
  id : JsString
  projectId : JsString
  tokenHash : JsString
  permission : SharePermission
  expiresAt : JsString
  createdBy : JsString
  createdAt : JsString
  revokedAt : Option JsString
  deriving DecidableEq

/-! ## Design review and snapshots -/

structure DesignReviewState where
  format : JsString
  projectId : JsString
  readiness : DesignReadiness
  baseline : Option DesignBaseline
  currency : BaselineCurrency
  approvalsStale : Bool
  changesSinceBaseline : List SemanticDesignChange
  deriving DecidableEq

structure CollaborationSnapshot where
  format : JsString
  project : Project
  revisions : List Revision
  threads : List Thread
  comments : List Comment
  reactions : List Reaction
  approvals : List Approval
  reviewThreads : List ReviewThread
  aiChangeRequests : List AIChangeRequest
  developerAnnotations : List DeveloperAnnotation
  designReviewState : Option DesignReviewState

def collaborationFormat : JsString :=
  js "selene-collaboration/v2"

def designReviewStateFormat : JsString :=
  js "selene-design-review-state/v1"

/-! ## Names of the members of enumerations -/

def AnchorLifecycle.text : AnchorLifecycle → JsString
  | .current => js "current"
  | .mapped => js "mapped"
  | .stale => js "stale"
  | .orphaned => js "orphaned"

def ReviewThreadLifecycle.text : ReviewThreadLifecycle → JsString
  | .opened => js "open"
  | .resolved => js "resolved"

def AIChangeRequestLifecycle.text : AIChangeRequestLifecycle → JsString
  | .queued => js "queued"
  | .running => js "running"
  | .applied => js "applied"
  | .failed => js "failed"
  | .cancelled => js "cancelled"
  | .undone => js "undone"

def AnnotationCategory.text : AnnotationCategory → JsString
  | .development => js "development"
  | .interaction => js "interaction"
  | .accessibility => js "accessibility"
  | .content => js "content"

def ApprovalDecision.text : ApprovalDecision → JsString
  | .approved => js "approved"
  | .changesRequested => js "changes_requested"

def SharePermission.text : SharePermission → JsString
  | .viewer => js "viewer"
  | .commenter => js "commenter"

/-! ## Values of the records -/

/-- A text that is present. -/
def textField (name : String) (value : JsString) : Record.Field :=
  (js name, some (.string value))

/-- A text that may be absent. -/
def optionalText (name : String) (value : Option JsString) : Record.Field :=
  (js name, value.map .string)

/-- A list of texts. -/
def textsField (name : String) (values : List JsString) : Record.Field :=
  (js name, some (Baseline.texts values))

/-- A number that is present. -/
def numberField (name : String) (value : OwnNumber) : Record.Field :=
  (js name, some (.number value.val))

/-- A count. -/
def countField (name : String) (value : Count) : Record.Field :=
  (js name, some (.number value.toNumber))

def Project.toJs (project : Project) : JsValue :=
  .object (Record.ofFields [
    textField "id" project.id,
    textField "organizationId" project.organizationId,
    textField "name" project.name])

def Revision.toJs (revision : Revision) : JsValue :=
  .object (Record.ofFields [
    textField "id" revision.id,
    textField "projectId" revision.projectId,
    countField "sequence" revision.sequence,
    optionalText "parentRevisionId" revision.parentRevisionId,
    (js "content", some revision.content.val),
    textField "contentSha256" revision.contentSha256,
    textsField "scenarioIds" revision.scenarioIds,
    textField "createdBy" revision.createdBy,
    textField "createdAt" revision.createdAt])

def Viewport.toJs (viewport : Viewport) : JsValue :=
  .object (Record.ofFields [
    numberField "width" viewport.width,
    numberField "height" viewport.height,
    numberField "zoom" viewport.zoom])

def RevisionEvidence.toJs (evidence : RevisionEvidence) : JsValue :=
  .object (Record.ofFields [
    textField "artifactId" evidence.artifactId,
    textField "screenId" evidence.screenId,
    textField "revisionId" evidence.revisionId,
    textField "revisionFingerprint" evidence.revisionFingerprint,
    (js "viewport", some evidence.viewport.toJs),
    optionalText "scenarioId" evidence.scenarioId,
    optionalText "stateId" evidence.stateId,
    optionalText "nodeId" evidence.nodeId,
    optionalText "sourceRef" evidence.sourceRef])

def SpatialPoint.toJs (point : SpatialPoint) : JsValue :=
  .object (Record.ofFields [
    numberField "x" point.x,
    numberField "y" point.y])

def SpatialRegion.toJs (region : SpatialRegion) : JsValue :=
  .object (Record.ofFields [
    numberField "x" region.x,
    numberField "y" region.y,
    numberField "width" region.width,
    numberField "height" region.height])

def SpatialTarget.toJs : SpatialTarget → JsValue
  | .point place =>
      .object (Record.ofFields [
        textField "kind" (js "point"),
        (js "point", some place.toJs)])
  | .region area =>
      .object (Record.ofFields [
        textField "kind" (js "region"),
        (js "region", some area.toJs)])

def SpatialAnchor.toJs (anchor : SpatialAnchor) : JsValue :=
  .object (Record.ofFields [
    (js "evidence", some anchor.evidence.toJs),
    (js "target", some anchor.target.toJs),
    textField "lifecycle" anchor.lifecycle.text,
    (js "mappedFrom", anchor.mappedFrom.map RevisionEvidence.toJs)])

def MessageReaction.toJs (reaction : MessageReaction) : JsValue :=
  .object (Record.ofFields [
    textField "emoji" reaction.emoji,
    textsField "userIds" reaction.userIds])

def ReviewThreadMessage.toJs (message : ReviewThreadMessage) : JsValue :=
  .object (Record.ofFields [
    textField "id" message.id,
    textField "body" message.body,
    textField "createdBy" message.createdBy,
    textField "createdAt" message.createdAt,
    optionalText "parentMessageId" message.parentMessageId,
    textsField "mentionedUserIds" message.mentionedUserIds,
    (js "reactions",
      some (.array (message.reactions.map MessageReaction.toJs))),
    textsField "readBy" message.readBy])

def ReviewThreadBinding.toJs (binding : ReviewThreadBinding) : JsValue :=
  .object (Record.ofFields [
    textField "tenantId" binding.tenantId,
    textField "projectId" binding.projectId,
    textField "artifactId" binding.artifactId,
    textField "revisionId" binding.revisionId,
    textField "baselineId" binding.baselineId,
    countField "version" binding.version])

def ReviewThreadCompilerTargetProvenance.toJs
    (provenance : ReviewThreadCompilerTargetProvenance) : JsValue :=
  .object (Record.ofFields [
    textField "nodeId" provenance.nodeId,
    textField "revisionId" provenance.revisionId,
    textField "bindingId" provenance.bindingId])

def ReviewThread.toJs (thread : ReviewThread) : JsValue :=
  .object (Record.ofFields [
    textField "id" thread.id,
    textField "projectId" thread.projectId,
    (js "hostedBinding", thread.hostedBinding.map ReviewThreadBinding.toJs),
    (js "compilerTargetProvenance",
      thread.compilerTargetProvenance.map
        ReviewThreadCompilerTargetProvenance.toJs),
    countField "version" thread.version,
    (js "anchor", some thread.anchor.toJs),
    (js "messages",
      some (.array (thread.messages.map ReviewThreadMessage.toJs))),
    textField "deepLink" thread.deepLink,
    textField "lifecycle" thread.lifecycle.text,
    textField "createdBy" thread.createdBy,
    textField "createdAt" thread.createdAt,
    optionalText "resolvedAt" thread.resolvedAt,
    optionalText "resolvedBy" thread.resolvedBy,
    optionalText "reopenedAt" thread.reopenedAt,
    optionalText "reopenedBy" thread.reopenedBy,
    optionalText "movedAt" thread.movedAt,
    optionalText "movedBy" thread.movedBy])

def AIChangeProviderSnapshot.toJs (provider : AIChangeProviderSnapshot) :
    JsValue :=
  .object (Record.ofFields [
    textField "providerId" provider.providerId,
    textField "capability" provider.capability,
    optionalText "model" provider.model,
    optionalText "implementation" provider.implementation])

def AIChangeRequestResult.toJs (result : AIChangeRequestResult) : JsValue :=
  .object (Record.ofFields [
    textField "revisionId" result.revisionId,
    textField "revisionFingerprint" result.revisionFingerprint,
    textField "diff" result.diff,
    textField "completedAt" result.completedAt])

def AIChangeRequest.toJs (request : AIChangeRequest) : JsValue :=
  .object (Record.ofFields [
    textField "id" request.id,
    textField "projectId" request.projectId,
    (js "anchor", request.anchor.map SpatialAnchor.toJs),
    textField "instruction" request.instruction,
    (js "provider", some request.provider.toJs),
    (js "baseRevision", some request.baseRevision.toJs),
    textField "lifecycle" request.lifecycle.text,
    textField "createdBy" request.createdBy,
    textField "createdAt" request.createdAt,
    textField "updatedAt" request.updatedAt,
    (js "result", request.result.map AIChangeRequestResult.toJs),
    (js "undoResult", request.undoResult.map AIChangeRequestResult.toJs),
    optionalText "failureReason" request.failureReason])

def DeveloperAnnotation.toJs (note : DeveloperAnnotation) : JsValue :=
  .object (Record.ofFields [
    textField "id" note.id,
    textField "projectId" note.projectId,
    (js "anchor", some note.anchor.toJs),
    textField "category" note.category.text,
    textField "body" note.body,
    textField "createdBy" note.createdBy,
    textField "createdAt" note.createdAt])

def Thread.toJs (thread : Thread) : JsValue :=
  .object (Record.ofFields [
    textField "id" thread.id,
    textField "projectId" thread.projectId,
    textField "revisionId" thread.revisionId,
    textField "reactNodeId" thread.reactNodeId,
    textField "scenarioId" thread.scenarioId,
    textField "createdBy" thread.createdBy,
    textField "createdAt" thread.createdAt,
    optionalText "resolvedAt" thread.resolvedAt,
    optionalText "resolvedBy" thread.resolvedBy])

def Comment.toJs (comment : Comment) : JsValue :=
  .object (Record.ofFields [
    textField "id" comment.id,
    textField "threadId" comment.threadId,
    optionalText "parentCommentId" comment.parentCommentId,
    textField "body" comment.body,
    textField "createdBy" comment.createdBy,
    textField "createdAt" comment.createdAt,
    textsField "mentionedUserIds" comment.mentionedUserIds])

def Reaction.toJs (reaction : Reaction) : JsValue :=
  .object (Record.ofFields [
    textField "commentId" reaction.commentId,
    textField "userId" reaction.userId,
    textField "emoji" reaction.emoji,
    textField "createdAt" reaction.createdAt])

def Approval.toJs (approval : Approval) : JsValue :=
  .object (Record.ofFields [
    textField "id" approval.id,
    textField "revisionId" approval.revisionId,
    textField "userId" approval.userId,
    textField "decision" approval.decision.text,
    optionalText "note" approval.note,
    textField "createdAt" approval.createdAt])

def SignedShareLink.toJs (link : SignedShareLink) : JsValue :=
  .object (Record.ofFields [
    textField "id" link.id,
    textField "projectId" link.projectId,
    textField "tokenHash" link.tokenHash,
    textField "permission" link.permission.text,
    textField "expiresAt" link.expiresAt,
    textField "createdBy" link.createdBy,
    textField "createdAt" link.createdAt,
    optionalText "revokedAt" link.revokedAt])

def DesignReviewState.toJs (state : DesignReviewState) : JsValue :=
  .object (Record.ofFields [
    textField "format" state.format,
    textField "projectId" state.projectId,
    textField "readiness" state.readiness.text,
    (js "baseline", state.baseline.map DesignBaseline.toJs),
    textField "currency" state.currency.text,
    (js "approvalsStale", some (.bool state.approvalsStale)),
    (js "changesSinceBaseline",
      some (.array
        (state.changesSinceBaseline.map SemanticDesignChange.toJs)))])

def CollaborationSnapshot.toJs (snapshot : CollaborationSnapshot) : JsValue :=
  .object (Record.ofFields [
    textField "format" snapshot.format,
    (js "project", some snapshot.project.toJs),
    (js "revisions", some (.array (snapshot.revisions.map Revision.toJs))),
    (js "threads", some (.array (snapshot.threads.map Thread.toJs))),
    (js "comments", some (.array (snapshot.comments.map Comment.toJs))),
    (js "reactions", some (.array (snapshot.reactions.map Reaction.toJs))),
    (js "approvals", some (.array (snapshot.approvals.map Approval.toJs))),
    (js "reviewThreads",
      some (.array (snapshot.reviewThreads.map ReviewThread.toJs))),
    (js "aiChangeRequests",
      some (.array (snapshot.aiChangeRequests.map AIChangeRequest.toJs))),
    (js "developerAnnotations",
      some (.array
        (snapshot.developerAnnotations.map DeveloperAnnotation.toJs))),
    (js "designReviewState",
      snapshot.designReviewState.map DesignReviewState.toJs)])

end Selene.Collaboration
