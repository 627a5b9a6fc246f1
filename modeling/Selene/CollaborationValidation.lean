import Selene.CollaborationCopies

/-!
# Validation of collaboration records

The checks that a record passes before it is stored or exported.  A check that
a value is one of the members of an enumeration holds by typing and is left
out.
-/

namespace Selene.Collaboration

open Js
open Baseline (DesignReadiness BaselineIntent BaselineCurrency
  DesignRevisionReference DesignBaseline DesignChangeScope VisualEvidence
  DesignChangeProvenance SemanticDesignChange)

/-! ## Places -/

/-- A unit that no internal path may contain. -/
def isUnsafePathUnit (unit : CodeUnit) : Bool :=
  decide (unit.val = 0x5C ∨ unit.val ≤ 0x1F ∨ unit.val = 0x7F)

/-- `value.startsWith('/') && !value.startsWith('//')` -/
def isInternalPath (value : JsString) : Bool :=
  (js "/").isPrefixOf value && !(js "//").isPrefixOf value

def validateReviewDeepLink (host : Host) (value : JsString) :
    Checked Unit := do
  owned (.string value) (js "Review thread deepLink is invalid")
  requireText value (js "review thread deepLink") maxUrl
  if isInternalPath value then
    check (value.any isUnsafePathUnit = false)
      (invalid (js "Review thread deepLink contains unsafe path characters"))
  else
    check (host.isSecureUrl value = true)
      (invalid
        (js "Review thread deepLink must be an internal path or https URL"))

def validateRevisionEvidence (evidence : RevisionEvidence)
    (field : JsString) : Checked Unit := do
  requireIdentifier evidence.artifactId (field ++ js " artifactId")
  requireIdentifier evidence.screenId (field ++ js " screenId")
  requireIdentifier evidence.revisionId (field ++ js " revisionId")
  requireText evidence.revisionFingerprint
    (field ++ js " revisionFingerprint") 128
  whenPresent evidence.scenarioId fun scenarioId =>
    requireIdentifier scenarioId (field ++ js " scenarioId")
  whenPresent evidence.stateId fun stateId =>
    requireIdentifier stateId (field ++ js " stateId")
  whenPresent evidence.nodeId fun nodeId =>
    requireIdentifier nodeId (field ++ js " nodeId")
  whenPresent evidence.sourceRef fun sourceRef =>
    requireText sourceRef (field ++ js " sourceRef") 512
  check
    ((satisfies evidence.viewport.width fun value => 0 < value) ∧
      (satisfies evidence.viewport.height fun value => 0 < value) ∧
      satisfies evidence.viewport.zoom fun value => 0 < value ∧ value ≤ 64)
    (invalid (field ++ js " viewport/zoom is invalid"))

/--
`start + extent > 1` on doubles between 0 and 1: the sum is rounded to 1 up to
half a unit in the last place above it.
-/
def exceedsOne (start extent : OwnNumber) : Prop :=
  ∃ first second, start.val.finiteValue? = some first ∧
    extent.val.finiteValue? = some second ∧ 1 + 1 / 2 ^ 53 < first + second

instance (start extent : OwnNumber) : Decidable (exceedsOne start extent) :=
  match isFirst : start.val.finiteValue?,
    isSecond : extent.val.finiteValue? with
  | some first, some second =>
      decidable_of_iff (1 + 1 / 2 ^ 53 < first + second)
        (by simp [exceedsOne, isFirst, isSecond])
  | none, _ => isFalse (by simp [exceedsOne, isFirst])
  | some _, none => isFalse (by simp [exceedsOne, isSecond])

def validateSpatialTarget : SpatialTarget → Checked Unit
  | .point place => do
      requireCoordinate place.x (js "point.x")
      requireCoordinate place.y (js "point.y")
  | .region area => do
      requireCoordinate area.x (js "region.x")
      requireCoordinate area.y (js "region.y")
      requireCoordinate area.width (js "region.width")
      requireCoordinate area.height (js "region.height")
      check
        ((satisfies area.width fun value => 0 < value) ∧
          (satisfies area.height fun value => 0 < value) ∧
          ¬ exceedsOne area.x area.width ∧
          ¬ exceedsOne area.y area.height)
        (invalid (js "Spatial region must fit inside the reviewed viewport"))

def validateSpatialAnchor (anchor : SpatialAnchor) (revision : Revision) :
    Checked Unit := do
  owned anchor.toJs (js "Spatial anchor is invalid")
  owned revision.toJs (js "Revision is invalid")
  check
    (anchor.evidence.revisionId = revision.id ∧
      anchor.evidence.revisionFingerprint = revision.contentSha256)
    (invalid (js "Spatial anchor must carry exact revision evidence"))
  validateRevisionEvidence anchor.evidence (js "Spatial anchor evidence")
  whenPresent anchor.evidence.scenarioId fun scenarioId =>
    check (scenarioId ∈ revision.scenarioIds)
      (invalid (js "Spatial anchor scenario is not present in the revision"))
  check (anchor.lifecycle = .mapped → anchor.mappedFrom ≠ none)
    (invalid (js "Mapped spatial anchor requires source evidence"))
  check (anchor.lifecycle ≠ .mapped → anchor.mappedFrom = none)
    (invalid (js "Only mapped spatial anchors may carry source evidence"))
  whenPresent anchor.mappedFrom fun evidence =>
    validateRevisionEvidence evidence (js "Mapped source evidence")
  validateSpatialTarget anchor.target

/-! ## Requests to change a design -/

/-- The checks of a result that a request carries. -/
def validateAIResult (result : AIChangeRequestResult) (field : JsString) :
    Checked Unit := do
  requireText result.revisionId (field ++ js " revisionId") 4000
  requireText result.revisionFingerprint
    (field ++ js " revisionFingerprint") 4000
  requireText result.diff (field ++ js " diff") 1000000
  timestamp result.completedAt (field ++ js " completedAt")

/-- Whether a request of this lifecycle has a result. -/
def AIChangeRequestLifecycle.hasResult : AIChangeRequestLifecycle → Bool
  | .applied => true
  | .undone => true
  | _ => false

def validateAIChangeRequest (request : AIChangeRequest)
    (revision : Revision) : Checked Unit := do
  owned request.toJs (js "AI change request is invalid")
  owned revision.toJs (js "Revision is invalid")
  whenPresent request.anchor fun anchor =>
    validateSpatialAnchor anchor revision
  check
    (request.baseRevision.id = revision.id ∧
      request.baseRevision.fingerprint = revision.contentSha256)
    (invalid (js ("AI change request base revision must match its current " ++
      "revision evidence")))
  requireText request.instruction (js "AI change instruction") 4000
  requireIdentifier request.provider.providerId (js "providerId")
  requireText request.provider.capability (js "provider capability") 128
  check (request.lifecycle.hasResult = true → request.result ≠ none)
    (invalid (js "Applied or undone AI change request requires a result"))
  check (request.lifecycle.hasResult = false → request.result = none)
    (invalid
      (js "Only applied or undone AI change requests may have a result"))
  whenPresent request.result fun result =>
    validateAIResult result (js "AI result")
  check (request.lifecycle = .undone → request.undoResult ≠ none)
    (invalid (js "Undone AI change request requires a compensating result"))
  check (request.lifecycle ≠ .undone → request.undoResult = none)
    (invalid
      (js "Only undone AI change requests may have a compensating result"))
  whenPresent request.undoResult fun result =>
    validateAIResult result (js "AI undo result")
  check (request.lifecycle = .failed → request.failureReason ≠ none)
    (invalid (js "Failed AI change request requires a diagnostic"))
  check (request.lifecycle ≠ .failed → request.failureReason = none)
    (invalid (js "Only failed AI change requests may carry a diagnostic"))
  whenPresent request.failureReason fun reason =>
    requireText reason (js "AI failure diagnostic") 4000

/-- A result names a revision of the project with its own fingerprint. -/
def validateResultReference (projectId : JsString)
    (revisions : List Revision) (result : AIChangeRequestResult)
    (field : JsString) : Checked Unit :=
  -- A later revision of the same identifier replaces an earlier one.
  match revisions.reverse.find? fun revision =>
      revision.id = result.revisionId with
  | none =>
      .error ⟨.notFound,
        field ++ js " revision was not found in this project"⟩
  | some revision => do
      check (revision.projectId = projectId)
        ⟨.notFound, field ++ js " revision was not found in this project"⟩
      check (revision.contentSha256 = result.revisionFingerprint)
        (invalid
          (field ++ js " fingerprint must match the immutable revision"))

def validateAIChangeRequestResultReferences (request : AIChangeRequest)
    (availableRevisions : List Revision) : Checked Unit := do
  owned request.toJs (js "AI change request is invalid")
  -- The iterable is captured up to `maxReferences` before a copy is made.
  check
    (availableRevisions.length ≤ 1000 ∧
      ∀ revision ∈ availableRevisions,
        collaborationBudgets.Admits revision.toJs)
    (invalid (js "Available revisions are invalid"))
  whenPresent request.result fun result =>
    validateResultReference request.projectId availableRevisions result
      (js "AI result")
  whenPresent request.undoResult fun result =>
    validateResultReference request.projectId availableRevisions result
      (js "AI undo result")

/-! ## Review threads -/

def validateReviewThreadBinding (binding : ReviewThreadBinding) :
    Checked Unit := do
  owned binding.toJs (js "Hosted review binding is invalid")
  requireIdentifier binding.tenantId (js "hosted review tenantId")
  requireIdentifier binding.projectId (js "hosted review projectId")
  requireIdentifier binding.artifactId (js "hosted review artifactId")
  requireIdentifier binding.revisionId (js "hosted review revisionId")
  requireIdentifier binding.baselineId (js "hosted review baselineId")
  check
    (1 ≤ binding.version.val ∧
      binding.version.val ≤ JsNumber.maxSafeInteger)
    (invalid (js "Hosted review binding version is invalid"))

def validateReviewThreadCompilerTargetProvenance
    (provenance : ReviewThreadCompilerTargetProvenance) : Checked Unit := do
  owned provenance.toJs
    (js "Review thread compiler target provenance is invalid")
  requireIdentifier provenance.nodeId
    (js "review thread compiler target nodeId")
  requireIdentifier provenance.revisionId
    (js "review thread compiler target revisionId")
  requireIdentifier provenance.bindingId
    (js "review thread compiler target bindingId")

/-- The checks of one reaction to a message. -/
def validateMessageReaction (reaction : MessageReaction) : Checked Unit := do
  requireText reaction.emoji (js "review reaction emoji") 64
  requireListLimit reaction.userIds.length maxReviewMessageReferences
    (js "Review reaction users")
  check reaction.userIds.Nodup
    (invalid (js "Review reaction users must not contain duplicates"))
  reaction.userIds.forM fun userId =>
    requireIdentifier userId (js "review reaction user id")

/-- The checks of one message after the messages with these identifiers. -/
def validateReviewMessage (earlier : List JsString)
    (message : ReviewThreadMessage) : Checked Unit := do
  requireIdentifier message.id (js "review message id")
  check (message.id ∉ earlier)
    ⟨.duplicate, js "Review message already exists"⟩
  requireText message.body (js "review message body") 4000
  requireIdentifier message.createdBy (js "review message createdBy")
  timestamp message.createdAt (js "review message createdAt")
  requireListLimit message.mentionedUserIds.length
    maxReviewMessageReferences (js "Review message mentions")
  requireListLimit message.readBy.length maxReviewMessageReferences
    (js "Review message reads")
  requireListLimit message.reactions.length maxReviewReactions
    (js "Review message reactions")
  check (message.mentionedUserIds.Nodup ∧ message.readBy.Nodup)
    (invalid
      (js "Review message identity lists must not contain duplicates"))
  (message.mentionedUserIds ++ message.readBy).forM fun userId =>
    requireIdentifier userId (js "review message user id")
  message.reactions.forM validateMessageReaction
  whenPresent message.parentMessageId fun parent =>
    check (parent ≠ message.id ∧ parent ∈ earlier)
      (invalid (js ("Review message parent must be an earlier message in " ++
        "the same thread")))

/-- The messages of a thread, in order. -/
def validateReviewMessages (earlier : List JsString) :
    List ReviewThreadMessage → Checked Unit
  | [] => .ok ()
  | message :: rest => do
      validateReviewMessage earlier message
      validateReviewMessages (message.id :: earlier) rest

/-- The checks of the host's binding of a thread. -/
def validateHostedBinding (thread : ReviewThread)
    (binding : ReviewThreadBinding) : Checked Unit := do
  validateReviewThreadBinding binding
  check (binding.projectId = thread.projectId)
    (invalid
      (js "Hosted review binding must belong to the review thread project"))
  check
    (binding.artifactId = thread.anchor.evidence.artifactId ∧
      binding.revisionId = thread.anchor.evidence.revisionId)
    (invalid
      (js "Hosted review binding must match the spatial anchor evidence"))

/-- The checks of the compiler's target of a thread. -/
def validateCompilerTarget (thread : ReviewThread)
    (provenance : ReviewThreadCompilerTargetProvenance) : Checked Unit := do
  validateReviewThreadCompilerTargetProvenance provenance
  check
    (some provenance.nodeId = thread.anchor.evidence.nodeId ∧
      provenance.revisionId = thread.anchor.evidence.revisionId)
    (invalid (js ("Compiler target provenance must match the review thread " ++
      "anchor evidence")))

/-- The checks of who resolved and reopened a thread, and when. -/
def validateReviewTimeline (host : Host) (thread : ReviewThread) :
    Checked Unit := do
  check
    (thread.lifecycle = .resolved →
      thread.resolvedAt ≠ none ∧ thread.resolvedBy ≠ none)
    (invalid (js "Resolved review thread requires resolver and timestamp"))
  check
    (thread.lifecycle = .opened →
      thread.resolvedAt = none ∧ thread.resolvedBy = none)
    (invalid (js "Open review thread cannot have resolution metadata"))
  whenPresent thread.resolvedAt fun resolvedAt =>
    timestamp resolvedAt (js "review thread resolvedAt")
  whenPresent thread.resolvedBy fun resolvedBy =>
    requireIdentifier resolvedBy (js "review thread resolvedBy")
  check (thread.reopenedAt.isSome = thread.reopenedBy.isSome)
    (invalid (js "Review thread reopening metadata must be complete"))
  whenPresent thread.reopenedAt fun reopenedAt =>
    timestamp reopenedAt (js "review thread reopenedAt")
  whenPresent thread.reopenedBy fun reopenedBy =>
    requireIdentifier reopenedBy (js "review thread reopenedBy")
  whenPresent thread.reopenedAt fun reopenedAt =>
    check (¬ host.notAfter reopenedAt thread.createdAt)
      (invalid (js "Review thread reopening must be later than its creation"))
  whenPresent thread.reopenedAt fun reopenedAt =>
    whenPresent thread.resolvedAt fun resolvedAt =>
      check (¬ host.notAfter resolvedAt reopenedAt)
        (invalid (js ("Review thread resolution must be later than its " ++
          "latest reopening")))

def validateReviewThread (host : Host) (thread : ReviewThread) :
    Checked Unit := do
  owned thread.toJs (js "Review thread is invalid")
  requireIdentifier thread.id (js "review thread id")
  requireIdentifier thread.projectId (js "review thread projectId")
  whenPresent thread.hostedBinding (validateHostedBinding thread)
  whenPresent thread.compilerTargetProvenance (validateCompilerTarget thread)
  check
    (1 ≤ thread.version.val ∧ thread.version.val ≤ JsNumber.maxSafeInteger)
    (invalid (js "Review thread version is invalid"))
  validateReviewDeepLink host thread.deepLink
  requireIdentifier thread.createdBy (js "review thread createdBy")
  timestamp thread.createdAt (js "review thread createdAt")
  validateReviewTimeline host thread
  check (thread.movedAt.isSome = thread.movedBy.isSome)
    (invalid (js "Review thread movement metadata must be complete"))
  whenPresent thread.movedAt fun movedAt =>
    timestamp movedAt (js "review thread movedAt")
  whenPresent thread.movedBy fun movedBy =>
    requireIdentifier movedBy (js "review thread movedBy")
  check (thread.messages ≠ [])
    (invalid (js "Review thread requires a message"))
  requireListLimit thread.messages.length maxReviewMessages
    (js "Review thread messages")
  validateReviewMessages [] thread.messages

/-! ## Annotations, discussions and decisions -/

def validateDeveloperAnnotation (note : DeveloperAnnotation)
    (revision : Revision) : Checked Unit := do
  owned note.toJs (js "Developer annotation is invalid")
  owned revision.toJs (js "Revision is invalid")
  requireIdentifier note.id (js "developer annotation id")
  requireIdentifier note.projectId (js "developer annotation projectId")
  requireIdentifier note.createdBy (js "developer annotation creator")
  timestamp note.createdAt (js "developer annotation createdAt")
  requireText note.body (js "developer annotation body") 4000
  check (revision.projectId = note.projectId)
    (invalid
      (js "Developer annotation revision must belong to the project"))
  validateSpatialAnchor note.anchor revision

def validateThreadAnchor (thread : Thread) (revision : Revision) :
    Checked Unit := do
  owned thread.toJs (js "Thread anchor is invalid")
  owned revision.toJs (js "Revision is invalid")
  check (thread.revisionId = revision.id)
    (invalid (js "Thread anchor revision does not match the revision"))
  requireIdentifier thread.reactNodeId (js "reactNodeId")
  requireIdentifier thread.scenarioId (js "scenarioId")
  check (thread.scenarioId ∈ revision.scenarioIds)
    (invalid (js "Thread scenario is not present in the revision"))

def validateCommentInput (comment : Comment) : Checked Unit := do
  owned comment.toJs (js "Comment is invalid")
  requireText comment.body (js "body") 4000
  check comment.mentionedUserIds.Nodup
    (invalid (js "mentionedUserIds must be unique"))

/-! ## Design review -/

/-- The checks of one piece of evidence. -/
def validateVisualEvidence (evidence : VisualEvidence) : Checked Unit := do
  requireText evidence.description
    (js "designReviewState.change.evidence.description") 4000
  whenPresent evidence.href fun href =>
    requireText href (js "designReviewState.change.evidence.href") 4000
  whenPresent evidence.checksum fun checksum =>
    requireText checksum (js "designReviewState.change.evidence.checksum")
      4000

/-- The checks of the provenance of a change. -/
def validateChangeProvenance : DesignChangeProvenance → Checked Unit
  | .actor actorId => requireText actorId (js "actor id") 4000
  | .agent agentId promptDigest => do
      requireText agentId (js "agent id") 4000
      requireText promptDigest (js "prompt digest") 4000

/-- The lists of a scope, under their names. -/
def scopeLists (scope : DesignChangeScope) :
    List (JsString × List JsString) :=
  [(js "screenIds", scope.screenIds),
    (js "routePaths", scope.routePaths),
    (js "scenarioIds", scope.scenarioIds),
    (js "componentIds", scope.componentIds),
    (js "stableNodeIds", scope.stableNodeIds)]

def validateSemanticDesignChange (change : SemanticDesignChange)
    (projectId : JsString) : Checked Unit := do
  requireText change.id (js "designReviewState.change.id") 4000
  requireText change.reason (js "designReviewState.change.reason") 4000
  timestamp change.occurredAt (js "designReviewState.change.occurredAt")
  requireText change.beforeRevision.id
    (js "designReviewState.change.beforeRevision.id") 4000
  requireText change.beforeRevision.fingerprint
    (js "designReviewState.change.beforeRevision.fingerprint") 4000
  requireText change.currentRevision.id
    (js "designReviewState.change.currentRevision.id") 4000
  requireText change.currentRevision.fingerprint
    (js "designReviewState.change.currentRevision.fingerprint") 4000
  check (change.beforeRevision.id ≠ change.currentRevision.id)
    (invalid (js "Design review change must advance the revision"))
  check (change.affected.projectId = projectId)
    (invalid (js "Design review change must belong to the review project"))
  (scopeLists change.affected).forM fun list =>
    check list.2.Nodup
      (invalid (js "Design review change " ++ list.1 ++
        js " must be unique strings"))
  check (change.evidence ≠ [])
    (invalid (js "Design review change requires evidence"))
  change.evidence.forM validateVisualEvidence
  validateChangeProvenance change.provenance

/-- The readiness that a baseline of this intent has. -/
def readinessOf : BaselineIntent → DesignReadiness
  | .review => .readyForReview
  | .handoff => .readyForHandoff

/-- Whether the currency of a baseline fits its changes. -/
def validateCurrency (state : DesignReviewState) : Checked Unit :=
  match state.currency with
  | .current =>
      check (state.approvalsStale = false ∧ state.changesSinceBaseline = [])
        (invalid (js "Current design baseline cannot contain stale changes"))
  | .stale =>
      check (state.approvalsStale = true ∧ state.changesSinceBaseline ≠ [])
        (invalid (js ("Stale design baseline requires exact changes and " ++
          "stale approvals")))
  | .none => .error (invalid (js "A baseline cannot have none currency"))

/-- The checks of the baseline of a review state. -/
def validateBaseline (state : DesignReviewState)
    (baseline : DesignBaseline) : Checked Unit := do
  requireText baseline.id (js "designReviewState.baseline.id") 4000
  check (baseline.projectId = state.projectId)
    (invalid (js "Design baseline must belong to the review project"))
  requireText baseline.revision.id
    (js "designReviewState.baseline.revision.id") 4000
  requireText baseline.revision.fingerprint
    (js "designReviewState.baseline.revision.fingerprint") 4000
  requireText baseline.createdBy
    (js "designReviewState.baseline.createdBy") 4000
  timestamp baseline.createdAt (js "designReviewState.baseline.createdAt")
  check (state.readiness = readinessOf baseline.intent)
    (invalid (js "Design readiness must match baseline intent"))
  validateCurrency state
  state.changesSinceBaseline.forM fun change =>
    validateSemanticDesignChange change state.projectId

def validateDesignReviewState (state : DesignReviewState) :
    Checked Unit := do
  owned state.toJs (js "Design review state is invalid")
  check (state.format = designReviewStateFormat)
    (invalid (js "Unsupported design review state format"))
  requireText state.projectId (js "designReviewState.projectId") 4000
  match state.baseline with
  | none =>
      check
        (state.readiness = .draft ∧ state.currency = .none ∧
          state.approvalsStale = false ∧ state.changesSinceBaseline = [])
        (invalid (js "Draft design review state cannot contain baseline data"))
  | some baseline => validateBaseline state baseline

end Selene.Collaboration
