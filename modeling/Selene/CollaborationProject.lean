import Selene.CollaborationCommit

/-!
# Projects as a whole

Discussions, requests and annotations of a project, its portable snapshot, and
the methods that export, replace and delete a project.  Replacing a project
prepares every map before it swaps any of them.
-/

namespace Selene.Collaboration

open Js
open Baseline (SemanticDesignChange)

/-! ## Requests and annotations -/

def createAIChangeRequest (repository : Repository)
    (request : AIChangeRequest) : Checked Repository := do
  clone request.toJs
  check (repository.aiChangeRequests.has request.id = false)
    (duplicate "AI change request already exists")
  let revision ← revisionOf repository request.baseRevision.id
    request.projectId
    (notFound "AI change request revision was not found in this project")
  validateAIChangeRequest request revision
  validateAIChangeRequestResultReferences request repository.revisions.rows
  requireCapacity repository.aiChangeRequests request.id "AI change requests"
  .ok { repository with
    aiChangeRequests := repository.aiChangeRequests.set request }

def updateAIChangeRequest (host : Host) (repository : Repository)
    (request : AIChangeRequest) : Checked Repository := do
  clone request.toJs
  match repository.aiChangeRequests.find? request.id with
  | none => .error (notFound "AI change request not found")
  | some existing => do
      check
        (existing.projectId = request.projectId ∧
          existing.createdAt = request.createdAt ∧
          existing.createdBy = request.createdBy)
        (invalid (js "AI change request identity is immutable"))
      let revision ← revisionOf repository request.baseRevision.id
        request.projectId
        (notFound "AI change request revision was not found in this project")
      validateAIChangeRequest request revision
      validateAIChangeRequestResultReferences request
        repository.revisions.rows
      validateAIChangeRequestTransition host existing request
      .ok { repository with
        aiChangeRequests := repository.aiChangeRequests.set request }

def createDeveloperAnnotation (repository : Repository)
    (note : DeveloperAnnotation) : Checked Repository := do
  clone note.toJs
  check (repository.developerAnnotations.has note.id = false)
    (duplicate "Developer annotation already exists")
  let revision ← revisionOf repository note.anchor.evidence.revisionId
    note.projectId
    (notFound "Developer annotation revision was not found in this project")
  validateDeveloperAnnotation note revision
  requireCapacity repository.developerAnnotations note.id
    "Developer annotations"
  .ok { repository with
    developerAnnotations := repository.developerAnnotations.set note }

/-! ## Discussions and decisions -/

def createThread (repository : Repository) (thread : Thread) :
    Checked Repository := do
  clone thread.toJs
  check (repository.threads.has thread.id = false)
    (duplicate "Thread already exists")
  let revision ← revisionOf repository thread.revisionId thread.projectId
    (notFound "Thread revision was not found in this project")
  validateThreadAnchor thread revision
  requireCapacity repository.threads thread.id "Threads"
  .ok { repository with threads := repository.threads.set thread }

def updateThreadResolution (repository : Repository)
    (id resolvedBy resolvedAt : JsString) : Checked Repository :=
  match repository.threads.find? id with
  | none => .error (notFound "Thread not found")
  | some thread => do
      let updated :=
        { thread with
          resolvedBy := some resolvedBy
          resolvedAt := some resolvedAt }
      clone updated.toJs
      .ok { repository with threads := repository.threads.set updated }

/-- The parent of a comment, if it names one; the empty text names none. -/
def Comment.parent? (comment : Comment) : Option JsString :=
  comment.parentCommentId.filter fun parent => decide (parent ≠ [])

def createComment (repository : Repository) (comment : Comment) :
    Checked Repository := do
  clone comment.toJs
  check (repository.comments.has comment.id = false)
    (duplicate "Comment already exists")
  check (repository.threads.has comment.threadId = true)
    (notFound "Thread not found")
  whenPresent comment.parent? fun parent => do
    check (repository.comments.has parent = true)
      (notFound "Parent comment not found")
    check
      ((repository.comments.find? parent).map Comment.threadId =
        some comment.threadId)
      (invalid (js "Parent comment must belong to the same thread"))
  validateCommentInput comment
  requireCapacity repository.comments comment.id "Comments"
  .ok { repository with comments := repository.comments.set comment }

def addReaction (repository : Repository) (reaction : Reaction) :
    Checked Repository := do
  clone reaction.toJs
  check (repository.comments.has reaction.commentId = true)
    (notFound "Comment not found")
  requireText reaction.emoji (js "emoji") 64
  requireCapacity repository.reactions (reactionKey reaction) "Reactions"
  .ok { repository with reactions := repository.reactions.set reaction }

def putApproval (repository : Repository) (approval : Approval) :
    Checked Repository := do
  clone approval.toJs
  check (repository.revisions.has approval.revisionId = true)
    (notFound "Revision not found")
  requireCapacity repository.approvals (approvalKey approval) "Approvals"
  .ok { repository with approvals := repository.approvals.set approval }

/-! ## Share links and stored responses -/

def createShareLink (repository : Repository) (link : SignedShareLink) :
    Checked Repository := do
  clone link.toJs
  check (repository.shareLinks.has link.id = false)
    (duplicate "Share link already exists")
  requireCapacity repository.shareLinks link.id "Share links"
  .ok { repository with shareLinks := repository.shareLinks.set link }

def revokeShareLink (repository : Repository) (linkId revokedAt : JsString) :
    Checked Repository :=
  match repository.shareLinks.find? linkId with
  | none => .error (notFound "Share link not found")
  | some link => do
      let revoked := { link with revokedAt := some revokedAt }
      clone revoked.toJs
      .ok { repository with shareLinks := repository.shareLinks.set revoked }

/-- The first response that is stored for a scope and key stays. -/
def putIdempotency (repository : Repository) (scope value : JsString)
    (response : JsValue) : Checked Repository :=
  let id := storageKey scope value
  match repository.idempotency.find? id with
  | some existing => do
      clone existing.response
      .ok repository
  | none => do
      requireCapacity repository.idempotency id "Idempotency"
      clone response
      .ok { repository with
        idempotency := repository.idempotency.set ⟨id, inertCopy response⟩ }

/-! ## Validation of a snapshot -/

/-- The record of an identifier in a list without repeated identifiers. -/
def recordById {α : Type} (idOf : α → JsString) (records : List α)
    (id : JsString) : Option α :=
  records.find? fun record => decide (idOf record = id)

def validateSnapshotRevision (projectId : JsString)
    (earlier : List JsString) (revision : Revision) : Checked Unit := do
  requireIdentifier revision.id (js "snapshot revision id")
  check (revision.id ∉ earlier ∧ revision.projectId = projectId)
    (invalid
      (js "Snapshot revisions must be unique and belong to the project"))
  check
    (1 ≤ revision.sequence.val ∧
      revision.sequence.val ≤ JsNumber.maxSafeInteger)
    (invalid (js "Snapshot revision sequence is invalid"))
  check revision.scenarioIds.Nodup
    (invalid (js "Snapshot revision scenarios must be unique strings"))
  revision.scenarioIds.forM fun scenarioId =>
    requireIdentifier scenarioId (js "snapshot scenario id")
  requireText revision.contentSha256 (js "snapshot revision fingerprint") 128
  requireIdentifier revision.createdBy (js "snapshot revision creator")
  timestamp revision.createdAt (js "snapshot revision createdAt")

def validateSnapshotThread (projectId : JsString)
    (revisions : List Revision) (earlier : List JsString)
    (thread : Thread) : Checked Unit := do
  check (thread.id ∉ earlier ∧ thread.projectId = projectId)
    (invalid (js "Snapshot threads must be unique and belong to the project"))
  match recordById Revision.id revisions thread.revisionId with
  | none => .error (invalid (js "Snapshot thread revision is missing"))
  | some revision => do
      validateThreadAnchor thread revision
      requireIdentifier thread.createdBy (js "snapshot thread creator")
      timestamp thread.createdAt (js "snapshot thread createdAt")
      check (thread.resolvedAt.isSome = thread.resolvedBy.isSome)
        (invalid (js "Resolved thread metadata must be complete"))
      whenPresent thread.resolvedAt fun resolvedAt =>
        timestamp resolvedAt (js "snapshot thread resolvedAt")
      whenPresent thread.resolvedBy fun resolvedBy =>
        requireIdentifier resolvedBy (js "snapshot thread resolvedBy")

def validateSnapshotComment (threadIds : List JsString)
    (earlier : List Comment) (comment : Comment) : Checked Unit := do
  check
    (comment.id ∉ earlier.map Comment.id ∧ comment.threadId ∈ threadIds)
    (invalid (js "Snapshot comment is duplicate or has no thread"))
  validateCommentInput comment
  requireIdentifier comment.createdBy (js "snapshot comment creator")
  timestamp comment.createdAt (js "snapshot comment createdAt")
  whenPresent comment.parentCommentId fun parent =>
    check
      ((recordById Comment.id earlier parent).map Comment.threadId =
        some comment.threadId)
      (invalid (js ("Snapshot comment parent must be earlier and in the " ++
        "same thread")))

/-- Validate records one after another, each with the earlier ones. -/
def validateInOrder {α β : Type} (validate : List β → α → Checked Unit)
    (summary : α → β) (earlier : List β) : List α → Checked Unit
  | [] => .ok ()
  | record :: rest => do
      validate earlier record
      validateInOrder validate summary (summary record :: earlier) rest

def validateSnapshotReaction (comments : List Comment)
    (reaction : Reaction) : Checked Unit := do
  check (reaction.commentId ∈ comments.map Comment.id)
    (invalid (js "Snapshot reaction comment is missing"))
  requireIdentifier reaction.userId (js "snapshot reaction user")
  requireText reaction.emoji (js "snapshot reaction emoji") 64
  timestamp reaction.createdAt (js "snapshot reaction createdAt")

def validateSnapshotApproval (revisions : List Revision)
    (approval : Approval) : Checked Unit := do
  check (approval.revisionId ∈ revisions.map Revision.id)
    (invalid (js "Snapshot approval revision is missing"))
  requireIdentifier approval.id (js "snapshot approval id")
  requireIdentifier approval.userId (js "snapshot approval user")
  whenPresent approval.note fun note =>
    requireText note (js "snapshot approval note") 4000
  timestamp approval.createdAt (js "snapshot approval createdAt")

/-- The revision that a record of a snapshot is about. -/
def snapshotRevision (revisions : List Revision) (id : JsString)
    (message : String) : Checked Revision :=
  match recordById Revision.id revisions id with
  | none => .error (invalid (js message))
  | some revision => .ok revision

def validateSnapshotReviewThread (host : Host) (projectId : JsString)
    (revisions : List Revision) (thread : ReviewThread) : Checked Unit := do
  check (thread.projectId = projectId)
    (invalid (js "Review thread must belong to the snapshot project"))
  let revision ← snapshotRevision revisions thread.anchor.evidence.revisionId
    "Review thread anchor revision is missing"
  validateSpatialAnchor thread.anchor revision
  validateReviewThread host thread

def validateSnapshotRequest (projectId : JsString)
    (revisions : List Revision) (request : AIChangeRequest) :
    Checked Unit := do
  check (request.projectId = projectId)
    (invalid (js "AI change request must belong to the snapshot project"))
  let revision ← snapshotRevision revisions request.baseRevision.id
    "AI change request base revision is missing"
  validateAIChangeRequest request revision
  validateAIChangeRequestResultReferences request revisions

def validateSnapshotAnnotation (projectId : JsString)
    (revisions : List Revision) (note : DeveloperAnnotation) :
    Checked Unit := do
  check (note.projectId = projectId)
    (invalid (js "Developer annotation must belong to the snapshot project"))
  let revision ← snapshotRevision revisions
    note.anchor.evidence.revisionId
    "Developer annotation anchor revision is missing"
  validateDeveloperAnnotation note revision

/-- The lengths of the lists of a snapshot, under their names. -/
def snapshotLengths (snapshot : CollaborationSnapshot) :
    List (JsString × Nat) :=
  [(js "revisions", snapshot.revisions.length),
    (js "threads", snapshot.threads.length),
    (js "comments", snapshot.comments.length),
    (js "reactions", snapshot.reactions.length),
    (js "approvals", snapshot.approvals.length),
    (js "reviewThreads", snapshot.reviewThreads.length),
    (js "aiChangeRequests", snapshot.aiChangeRequests.length),
    (js "developerAnnotations", snapshot.developerAnnotations.length)]

def requireUniqueIds (ids : List JsString) (field : String) : Checked Unit :=
  check ids.Nodup
    ⟨.duplicate, js "Snapshot " ++ js field ++
      js " identifiers must be unique"⟩

/-- The key that a snapshot's reactions are told apart by. -/
def snapshotReactionKey (reaction : Reaction) : JsString :=
  reaction.commentId ++ 0 :: (reaction.userId ++ 0 :: reaction.emoji)

/-- The checks of a copied snapshot. -/
def validateCopiedSnapshot (host : Host)
    (snapshot : CollaborationSnapshot) : Checked Unit := do
  let projectId := snapshot.project.id
  let revisions := snapshot.revisions
  check (snapshot.format = collaborationFormat)
    (invalid (js "Unsupported collaboration snapshot format"))
  requireIdentifier projectId (js "snapshot project id")
  requireIdentifier snapshot.project.organizationId
    (js "snapshot organization id")
  requireText snapshot.project.name (js "snapshot project name") 4000
  (snapshotLengths snapshot).forM fun list =>
    requireListLimit list.2 collaborationBudgets.maxItems
      (js "Snapshot " ++ list.1)
  requireUniqueIds (snapshot.reviewThreads.map ReviewThread.id)
    "review threads"
  requireUniqueIds (snapshot.aiChangeRequests.map AIChangeRequest.id)
    "AI change requests"
  requireUniqueIds (snapshot.developerAnnotations.map DeveloperAnnotation.id)
    "developer annotations"
  check (snapshot.reactions.map snapshotReactionKey).Nodup
    (duplicate
      "Snapshot reactions must be unique per comment, user, and emoji")
  validateInOrder (validateSnapshotRevision projectId) Revision.id []
    revisions
  revisions.forM fun revision =>
    whenPresent revision.parentRevisionId fun parent =>
      check (parent ∈ revisions.map Revision.id)
        (invalid (js "Snapshot revision parent is missing"))
  validateInOrder (validateSnapshotThread projectId revisions) Thread.id []
    snapshot.threads
  validateInOrder
    (validateSnapshotComment (snapshot.threads.map Thread.id)) id []
    snapshot.comments
  snapshot.reactions.forM (validateSnapshotReaction snapshot.comments)
  snapshot.approvals.forM (validateSnapshotApproval revisions)
  snapshot.reviewThreads.forM
    (validateSnapshotReviewThread host projectId revisions)
  snapshot.aiChangeRequests.forM (validateSnapshotRequest projectId revisions)
  snapshot.developerAnnotations.forM fun note =>
    validateSnapshotAnnotation projectId revisions note
  whenPresent snapshot.designReviewState fun state => do
    validateDesignReviewState state
    check (state.projectId = projectId)
      (invalid
        (js "Design review state must belong to the snapshot project"))

def validateCollaborationSnapshot (host : Host)
    (snapshot : CollaborationSnapshot) : Checked Unit := do
  owned snapshot.toJs (js "Collaboration snapshot is invalid")
  validateCopiedSnapshot host snapshot.copy

/-! ## Export -/

/-- What the maps hold of a project. -/
def snapshotOf (repository : Repository) (project : Project) :
    CollaborationSnapshot :=
  let revisions := repository.revisions.rows.filter fun revision =>
    decide (revision.projectId = project.id)
  let threads := repository.threads.rows.filter fun thread =>
    decide (thread.projectId = project.id)
  let comments := repository.comments.rows.filter fun comment =>
    decide (comment.threadId ∈ threads.map Thread.id)
  { format := collaborationFormat
    project
    revisions
    threads
    comments
    reactions := repository.reactions.rows.filter fun reaction =>
      decide (reaction.commentId ∈ comments.map Comment.id)
    approvals := repository.approvals.rows.filter fun approval =>
      decide (approval.revisionId ∈ revisions.map Revision.id)
    reviewThreads := repository.reviewThreads.rows.filter fun thread =>
      decide (thread.projectId = project.id)
    aiChangeRequests := repository.aiChangeRequests.rows.filter
      fun request => decide (request.projectId = project.id)
    developerAnnotations := repository.developerAnnotations.rows.filter
      fun note => decide (note.projectId = project.id)
    designReviewState := repository.reviewStates.find? project.id }

def exportProject (repository : Repository) (projectId : JsString) :
    Checked (Option CollaborationSnapshot) :=
  match repository.projects.find? projectId with
  | none => .ok none
  | some project => do
      boundedRows repository.revisions "Stored revisions"
      boundedRows repository.threads "Stored threads"
      boundedRows repository.comments "Stored comments"
      boundedRows repository.reactions "Stored reactions"
      boundedRows repository.approvals "Stored approvals"
      boundedRows repository.reviewThreads "Stored review threads"
      boundedRows repository.aiChangeRequests "Stored AI change requests"
      boundedRows repository.developerAnnotations
        "Stored developer annotations"
      clone (snapshotOf repository project).toJs
      .ok (some (snapshotOf repository project).copy)

/-! ## Replacement -/

def revisionProject (repository : Repository) (id : JsString) :
    Option JsString :=
  (repository.revisions.find? id).map Revision.projectId

def threadProject (repository : Repository) (id : JsString) :
    Option JsString :=
  (repository.threads.find? id).map Thread.projectId

def commentProject (repository : Repository) (id : JsString) :
    Option JsString :=
  (repository.comments.find? id).bind fun comment =>
    threadProject repository comment.threadId

def rejectCollision {α : Type} {keyOf : α → JsString}
    (ids : List JsString) (stored : Table keyOf)
    (owner : JsString → Option JsString) (projectId : JsString)
    (field : String) : Checked Unit :=
  check (∀ id ∈ ids, stored.has id = true → owner id = some projectId)
    ⟨.conflict, js "Snapshot " ++ js field ++
      js " identifier belongs to another project"⟩

/-- No record of a snapshot takes the place of another project's. -/
def rejectCollisions (repository : Repository)
    (snapshot : CollaborationSnapshot) : Checked Unit := do
  let projectId := snapshot.project.id
  rejectCollision (snapshot.revisions.map Revision.id) repository.revisions
    (revisionProject repository) projectId "revision"
  rejectCollision (snapshot.threads.map Thread.id) repository.threads
    (threadProject repository) projectId "thread"
  rejectCollision (snapshot.comments.map Comment.id) repository.comments
    (commentProject repository) projectId "comment"
  rejectCollision (snapshot.reviewThreads.map ReviewThread.id)
    repository.reviewThreads
    (fun id => (repository.reviewThreads.find? id).map ReviewThread.projectId)
    projectId "review thread"
  rejectCollision (snapshot.aiChangeRequests.map AIChangeRequest.id)
    repository.aiChangeRequests
    (fun id =>
      (repository.aiChangeRequests.find? id).map AIChangeRequest.projectId)
    projectId "AI change request"
  rejectCollision (snapshot.developerAnnotations.map DeveloperAnnotation.id)
    repository.developerAnnotations
    (fun id => (repository.developerAnnotations.find? id).map
      DeveloperAnnotation.projectId)
    projectId "developer annotation"
  check
    (∀ reaction ∈ snapshot.reactions,
      ∀ existing ∈ repository.reactions.find? (reactionKey reaction),
        commentProject repository existing.commentId = some projectId)
    (conflict "Snapshot reaction belongs to another project")
  check
    (∀ approval ∈ snapshot.approvals,
      ∀ existing ∈ repository.approvals.find? (approvalKey approval),
        revisionProject repository existing.revisionId = some projectId)
    (conflict "Snapshot approval belongs to another project")

/-- The changes of the review state that a project had. -/
def previousChanges (repository : Repository) (projectId : JsString) :
    List SemanticDesignChange :=
  ((repository.reviewStates.find? projectId).map
    DesignReviewState.changesSinceBaseline).getD []

/-- The maps without the records of a project, besides the project itself. -/
def withoutProject (repository : Repository) (projectId : JsString) :
    Repository :=
  let changes :=
    (previousChanges repository projectId).map SemanticDesignChange.id
  { repository with
    revisions := repository.revisions.keep fun revision =>
      decide (revision.projectId ≠ projectId)
    threads := repository.threads.keep fun thread =>
      decide (thread.projectId ≠ projectId)
    comments := repository.comments.keep fun comment =>
      decide (threadProject repository comment.threadId ≠ some projectId)
    reactions := repository.reactions.keep fun reaction =>
      decide (commentProject repository reaction.commentId ≠ some projectId)
    approvals := repository.approvals.keep fun approval =>
      decide (revisionProject repository approval.revisionId ≠ some projectId)
    reviewThreads := repository.reviewThreads.keep fun thread =>
      decide (thread.projectId ≠ projectId)
    aiChangeRequests := repository.aiChangeRequests.keep fun request =>
      decide (request.projectId ≠ projectId)
    developerAnnotations := repository.developerAnnotations.keep
      fun note => decide (note.projectId ≠ projectId)
    reviewStates := repository.reviewStates.delete projectId
    semanticChanges := repository.semanticChanges.keep fun change =>
      decide (change.id ∉ changes) }

/-- Add changes one after another, each under a new identifier. -/
def addChanges (stored : Table SemanticDesignChange.id) :
    List SemanticDesignChange → Checked (Table SemanticDesignChange.id)
  | [] => .ok stored
  | change :: rest => do
      check (stored.has change.id = false)
        (conflict ("Snapshot semantic change identifier belongs to another " ++
          "project"))
      addChanges (stored.set change) rest

/-- Put the review state of a snapshot into prepared maps. -/
def addReviewState (prepared : Repository)
    (snapshot : CollaborationSnapshot) : Checked Repository :=
  match snapshot.designReviewState with
  | none => .ok prepared
  | some state => do
      check (state.projectId = snapshot.project.id)
        (invalid
          (js "Design review state must belong to the snapshot project"))
      let semanticChanges ←
        addChanges prepared.semanticChanges state.changesSinceBaseline
      .ok { prepared with
        reviewStates := prepared.reviewStates.set state
        semanticChanges }

/-- Put the records of a snapshot into maps that have none of its project. -/
def addRecords (prepared : Repository) (snapshot : CollaborationSnapshot) :
    Repository :=
  { prepared with
    projects := prepared.projects.set snapshot.project
    revisions := prepared.revisions.setAll snapshot.revisions
    threads := prepared.threads.setAll snapshot.threads
    comments := prepared.comments.setAll snapshot.comments
    reactions := prepared.reactions.setAll snapshot.reactions
    approvals := prepared.approvals.setAll snapshot.approvals
    reviewThreads := prepared.reviewThreads.setAll snapshot.reviewThreads
    aiChangeRequests :=
      prepared.aiChangeRequests.setAll snapshot.aiChangeRequests
    developerAnnotations :=
      prepared.developerAnnotations.setAll snapshot.developerAnnotations }

/-- The sizes of the maps that are swapped, under their names. -/
def mapSizes (repository : Repository) : List (JsString × Nat) :=
  [(js "projects", repository.projects.size),
    (js "revisions", repository.revisions.size),
    (js "threads", repository.threads.size),
    (js "comments", repository.comments.size),
    (js "reactions", repository.reactions.size),
    (js "approvals", repository.approvals.size),
    (js "reviewThreads", repository.reviewThreads.size),
    (js "aiChangeRequests", repository.aiChangeRequests.size),
    (js "developerAnnotations", repository.developerAnnotations.size),
    (js "shareLinks", repository.shareLinks.size),
    (js "reviewStates", repository.reviewStates.size),
    (js "semanticChanges", repository.semanticChanges.size)]

/-- The revision that an import expects to replace is still the latest. -/
def checkExpectedLatest (host : Host) (repository : Repository)
    (projectId : JsString) (expectedLatestRevisionId : Option JsString) :
    Checked Unit :=
  whenPresent expectedLatestRevisionId fun expected =>
    check
      ((latestRevision host repository projectId).map Revision.id =
        some expected)
      (conflict "Project revision is no longer current")

def replaceProject (host : Host) (repository : Repository)
    (given : CollaborationSnapshot)
    (expectedLatestRevisionId : Option JsString) : Checked Repository := do
  clone given.toJs
  let snapshot := given.copy
  check (snapshot.format = collaborationFormat)
    (invalid (js "Unsupported snapshot"))
  validateCollaborationSnapshot host snapshot
  whenPresent snapshot.designReviewState validateDesignReviewState
  boundedRows repository.revisions "Stored revisions"
  checkExpectedLatest host repository snapshot.project.id
    expectedLatestRevisionId
  boundedRows repository.threads "Stored threads"
  boundedRows repository.comments "Stored comments"
  rejectCollisions repository snapshot
  boundedRows repository.reactions "Stored records"
  boundedRows repository.approvals "Stored records"
  boundedRows repository.reviewThreads "Stored records"
  boundedRows repository.aiChangeRequests "Stored records"
  boundedRows repository.developerAnnotations "Stored records"
  -- The parts of a copied snapshot are within the budgets and inert.
  let replaced ←
    addReviewState
      (addRecords (withoutProject repository snapshot.project.id) snapshot)
      snapshot
  (mapSizes replaced).forM fun size =>
    check (size.2 ≤ collaborationBudgets.maxItems)
      ⟨.conflict, size.1 ++ js " storage is at capacity"⟩
  .ok replaced

/-! ## Deletion -/

def deleteProject (repository : Repository) (projectId : JsString) :
    Checked Repository :=
  if repository.projects.has projectId = false then
    .ok repository
  else do
    boundedRows repository.revisions "Stored revisions"
    boundedRows repository.threads "Stored threads"
    boundedRows repository.comments "Stored comments"
    .ok { withoutProject repository projectId with
      projects := repository.projects.delete projectId }

end Selene.Collaboration
