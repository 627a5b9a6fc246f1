import Selene.InsertionTable
import Selene.ReviewReceipt
import Selene.CollaborationAIRequest

/-!
# The in-memory repository

The local adapter keeps every record in a keyed map.  A method checks its
arguments against the maps, and stores copies.  Methods of one record kind are
modelled as functions from a repository to the next one, or to an error that
leaves the repository as it is; an omitted time is the clock's and is passed
like a given one.
-/

namespace Selene.Collaboration

open Js
open Baseline (SemanticDesignChange)

/-! ## State -/

/-- `` `${scope}\u0000${value}` `` -/
def storageKey (scope value : JsString) : JsString :=
  scope ++ 0 :: value

/-- The key of a reaction. -/
def reactionKey (reaction : Reaction) : JsString :=
  storageKey reaction.commentId (reaction.userId ++ js ":" ++ reaction.emoji)

/-- The key of an approval. -/
def approvalKey (approval : Approval) : JsString :=
  storageKey approval.revisionId approval.userId

/-- What is kept of an applied review operation. -/
structure ReviewReceipt where
  key : JsString
  kind : JsString
  threadId : JsString
  fingerprint : JsString
  messageId : Option JsString

/-- A response that is kept for retries. -/
structure StoredResponse where
  key : JsString
  response : JsValue

structure Repository where
  projects : Table Project.id
  revisions : Table Revision.id
  threads : Table Thread.id
  reviewThreads : Table ReviewThread.id
  reviewOperationReceipts : Table ReviewReceipt.key
  aiChangeRequests : Table AIChangeRequest.id
  developerAnnotations : Table DeveloperAnnotation.id
  comments : Table Comment.id
  reactions : Table reactionKey
  approvals : Table approvalKey
  shareLinks : Table SignedShareLink.id
  reviewStates : Table DesignReviewState.projectId
  semanticChanges : Table SemanticDesignChange.id
  idempotency : Table StoredResponse.key

/-- `createInMemoryCollaborationRepository` -/
def Repository.empty : Repository where
  projects := .empty
  revisions := .empty
  threads := .empty
  reviewThreads := .empty
  reviewOperationReceipts := .empty
  aiChangeRequests := .empty
  developerAnnotations := .empty
  comments := .empty
  reactions := .empty
  approvals := .empty
  shareLinks := .empty
  reviewStates := .empty
  semanticChanges := .empty
  idempotency := .empty

/-! ## Shared steps -/

/-- `clone`: a stored value is always within the budgets. -/
def clone (value : JsValue) : Checked Unit :=
  owned value (js "Repository value is invalid")

def duplicate (message : String) : CollaborationError :=
  ⟨.duplicate, js message⟩

def notFound (message : String) : CollaborationError :=
  ⟨.notFound, js message⟩

def conflict (message : String) : CollaborationError :=
  ⟨.conflict, js message⟩

def requireCapacity {α : Type} {keyOf : α → JsString} (table : Table keyOf)
    (id : JsString) (field : String) : Checked Unit :=
  check (table.has id = true ∨ table.size < collaborationBudgets.maxItems)
    ⟨.conflict, js field ++ js " storage is at capacity"⟩

/-- `boundedIterable` of the rows of a table. -/
def boundedRows {α : Type} {keyOf : α → JsString} (table : Table keyOf)
    (field : String) : Checked Unit :=
  check (table.size ≤ collaborationBudgets.maxItems)
    (invalid (js field ++ js " is not a safe iterable"))

/-- Whether an optional row belongs to a project. -/
def revisionOf (repository : Repository) (revisionId projectId : JsString)
    (error : CollaborationError) : Checked Revision :=
  match repository.revisions.find? revisionId with
  | none => .error error
  | some revision =>
      if revision.projectId = projectId then .ok revision else .error error

/-! ## Projects -/

def createProject (repository : Repository) (project : Project) :
    Checked Repository := do
  clone project.toJs
  check (repository.projects.has project.id = false)
    (duplicate "Project already exists")
  requireCapacity repository.projects project.id "Projects"
  .ok { repository with projects := repository.projects.set project }

/-- Later revisions first; of one sequence number the later identifier. -/
def isLaterRevision (host : Host) (left right : Revision) : Prop :=
  right.sequence.val < left.sequence.val ∨
    (left.sequence = right.sequence ∧
      host.localeCompare right.id left.id ≠ .gt)

instance (host : Host) (left right : Revision) :
    Decidable (isLaterRevision host left right) :=
  inferInstanceAs (Decidable (_ ∨ _))

/-- The latest of the stored revisions of a project. -/
def latestRevision (host : Host) (repository : Repository)
    (projectId : JsString) : Option Revision :=
  ((repository.revisions.rows.filter fun revision =>
      decide (revision.projectId = projectId)).insertionSort
    (isLaterRevision host)).head?

def getLatestRevision (host : Host) (repository : Repository)
    (projectId : JsString) : Checked (Option Revision) := do
  boundedRows repository.revisions "Stored revisions"
  let latest := latestRevision host repository projectId
  whenPresent latest fun revision => clone revision.toJs
  .ok latest

/-! ## Review threads -/

def createReviewThread (host : Host) (repository : Repository)
    (thread : ReviewThread) : Checked Repository := do
  clone thread.toJs
  check (repository.reviewThreads.has thread.id = false)
    (duplicate "Review thread already exists")
  let revision ← revisionOf repository thread.anchor.evidence.revisionId
    thread.projectId
    (notFound "Review thread revision was not found in this project")
  validateSpatialAnchor thread.anchor revision
  validateReviewThread host thread
  requireCapacity repository.reviewThreads thread.id "Review threads"
  .ok { repository with
    reviewThreads := repository.reviewThreads.set thread }

/-- Validate the next value of a stored thread and store it. -/
def storeReviewThread (host : Host) (repository : Repository)
    (updated : ReviewThread) : Checked (Repository × ReviewThread) := do
  validateReviewThread host updated
  clone updated.toJs
  .ok ({ repository with
    reviewThreads := repository.reviewThreads.set updated }, updated)

/-- The stored thread of an identifier. -/
def requireReviewThread (repository : Repository) (id : JsString) :
    Checked ReviewThread :=
  match repository.reviewThreads.find? id with
  | none => .error (notFound "Review thread not found")
  | some thread => .ok thread

/-- The next value of a thread that gets one more message. -/
def ReviewThread.withMessage (thread : ReviewThread)
    (message : ReviewThreadMessage) : ReviewThread :=
  { thread with
    version := thread.version.next
    messages := thread.messages ++ [message] }

def appendReviewThreadMessage (host : Host) (repository : Repository)
    (id : JsString) (message : ReviewThreadMessage) :
    Checked (Repository × ReviewThread) := do
  clone message.toJs
  let thread ← requireReviewThread repository id
  storeReviewThread host repository (thread.withMessage message)

/-- `[...new Set([...userIds, userId])]` -/
def withUser (userIds : List JsString) (userId : JsString) : List JsString :=
  (userIds ++ [userId]).eraseDups

/-- A message with one more user of a reaction. -/
def ReviewThreadMessage.withReaction (message : ReviewThreadMessage)
    (emoji userId : JsString) : ReviewThreadMessage :=
  { message with
    reactions :=
      if message.reactions.any fun item => decide (item.emoji = emoji) then
        message.reactions.map fun item =>
          if item.emoji = emoji then
            { item with userIds := withUser item.userIds userId }
          else
            item
      else
        message.reactions ++ [⟨emoji, [userId]⟩] }

/-- A message that a user has read, or has not. -/
def ReviewThreadMessage.withRead (message : ReviewThreadMessage)
    (userId : JsString) (read : Bool) : ReviewThreadMessage :=
  { message with
    readBy :=
      if read then withUser message.readBy userId
      else message.readBy.filter fun item => decide (item ≠ userId) }

/-- The next value of a thread one of whose messages changes. -/
def ReviewThread.withChanged (thread : ReviewThread) (messageId : JsString)
    (change : ReviewThreadMessage → ReviewThreadMessage) : ReviewThread :=
  { thread with
    version := thread.version.next
    messages := thread.messages.map fun message =>
      if message.id = messageId then change message else message }

/-- Change one message of a stored thread. -/
def changeReviewThreadMessage (host : Host) (repository : Repository)
    (id messageId : JsString)
    (change : ReviewThreadMessage → ReviewThreadMessage) :
    Checked (Repository × ReviewThread) := do
  let thread ← requireReviewThread repository id
  check (∃ message ∈ thread.messages, message.id = messageId)
    (notFound "Review message not found")
  storeReviewThread host repository (thread.withChanged messageId change)

def reactToReviewThreadMessage (host : Host) (repository : Repository)
    (id messageId emoji userId : JsString) :
    Checked (Repository × ReviewThread) :=
  changeReviewThreadMessage host repository id messageId fun message =>
    message.withReaction emoji userId

def setReviewThreadMessageRead (host : Host) (repository : Repository)
    (id messageId userId : JsString) (read : Bool) :
    Checked (Repository × ReviewThread) :=
  changeReviewThreadMessage host repository id messageId fun message =>
    message.withRead userId read

/-- The next value of a thread that is resolved. -/
def ReviewThread.resolve (thread : ReviewThread)
    (resolvedBy resolvedAt : JsString) : ReviewThread :=
  { thread with
    version := thread.version.next
    lifecycle := .resolved
    resolvedBy := some resolvedBy
    resolvedAt := some resolvedAt }

/-- The next value of a thread that is opened again. -/
def ReviewThread.reopen (thread : ReviewThread)
    (reopenedBy reopenedAt : JsString) : ReviewThread :=
  { thread with
    version := thread.version.next
    lifecycle := .opened
    resolvedAt := none
    resolvedBy := none
    reopenedBy := some reopenedBy
    reopenedAt := some reopenedAt }

def resolveReviewThread (host : Host) (repository : Repository)
    (id resolvedBy resolvedAt : JsString) :
    Checked (Repository × ReviewThread) := do
  let thread ← requireReviewThread repository id
  check (thread.lifecycle ≠ .resolved)
    (conflict "Review thread is already resolved")
  storeReviewThread host repository (thread.resolve resolvedBy resolvedAt)

def reopenReviewThread (host : Host) (repository : Repository)
    (id reopenedBy reopenedAt : JsString) :
    Checked (Repository × ReviewThread) := do
  let thread ← requireReviewThread repository id
  check (thread.lifecycle = .resolved)
    (conflict "Review thread is already open")
  match thread.resolvedAt with
  | none =>
      .error (invalid
        (js "Resolved review thread is missing its timestamp"))
  | some resolvedAt => do
      check (¬ host.notAfter reopenedAt resolvedAt)
        (invalid
          (js "Review thread reopening must be later than its resolution"))
      storeReviewThread host repository (thread.reopen reopenedBy reopenedAt)

def moveReviewThread (host : Host) (repository : Repository)
    (id : JsString) (anchor : SpatialAnchor) (movedBy movedAt : JsString) :
    Checked (Repository × ReviewThread) := do
  clone anchor.toJs
  let thread ← requireReviewThread repository id
  let revision ← revisionOf repository anchor.evidence.revisionId
    thread.projectId
    (notFound "Review thread revision was not found in this project")
  validateSpatialAnchor anchor revision
  storeReviewThread host repository
    { thread with
      version := thread.version.next
      anchor
      movedBy := some movedBy
      movedAt := some movedAt }

/-! ## Compare and swap -/

inductive ReviewThreadMutationResult where
  | applied (thread : ReviewThread) (fingerprint : JsString)
  | replayed (thread : ReviewThread) (fingerprint : JsString)
  | conflict (currentVersion : Count) (thread : Option ReviewThread)

def reviewReceiptScope (organizationId projectId threadId : JsString) :
    JsString :=
  js "review:" ++ organizationId ++ js ":" ++ projectId ++ js ":" ++ threadId

/-- At most 100 receipts of a scope are kept; the oldest go first. -/
def pruneReviewReceipts (receipts : Table ReviewReceipt.key)
    (scope : JsString) : Table ReviewReceipt.key :=
  let stored := receipts.rows.filter fun receipt =>
    (scope ++ [0]).isPrefixOf receipt.key
  let oldest := (stored.take (stored.length - 100)).map ReviewReceipt.key
  receipts.keep fun receipt => decide (receipt.key ∉ oldest)

/-- Whether the effect of a receipt still shows in the thread. -/
def stillApplied (receipt : ReviewReceipt) (current : ReviewThread) : Bool :=
  (decide (receipt.kind ≠ js "resolve") ||
      decide (current.lifecycle = .resolved)) &&
    (decide (receipt.kind ≠ js "reopen") ||
      decide (current.lifecycle = .opened)) &&
    (decide (receipt.kind ≠ js "reply") ||
      current.messages.any fun item => some item.id = receipt.messageId)

/-- The identifier of the message that a mutation adds. -/
def ReviewThreadMutation.messageId? :
    ReviewThreadMutation → Option JsString
  | .reply _ _ _ message => some message.id
  | _ => none

/-- The value that a mutation of a stored thread leads to, if it fits. -/
def ReviewThreadMutation.update (current : ReviewThread) :
    ReviewThreadMutation → Option ReviewThread
  | .create .. => none
  | .reply _ _ _ message => some (current.withMessage message)
  | .resolve _ _ _ actorId occurredAt =>
      if current.lifecycle = .opened then
        some (current.resolve actorId occurredAt)
      else
        none
  | .reopen _ _ _ actorId occurredAt =>
      if current.lifecycle = .resolved then
        some (current.reopen actorId occurredAt)
      else
        none

/-- Store a thread together with the receipt of its mutation. -/
def storeWithReceipt (repository : Repository) (thread : ReviewThread)
    (receipt : ReviewReceipt) (scope : JsString) : Repository :=
  { repository with
    reviewThreads := repository.reviewThreads.set thread
    reviewOperationReceipts :=
      pruneReviewReceipts (repository.reviewOperationReceipts.set receipt)
        scope }

/-- A conflict with a stored thread. -/
def conflictWith (repository : Repository) (current : ReviewThread) :
    Checked (Repository × ReviewThreadMutationResult) := do
  clone current.toJs
  .ok (repository, .conflict current.version (some current))

/-- A mutation whose receipt is still there. -/
def replayReviewMutation (repository : Repository) (current : ReviewThread)
    (receipt : ReviewReceipt) (fingerprint : JsString) :
    Checked (Repository × ReviewThreadMutationResult) :=
  if receipt.fingerprint ≠ fingerprint then
    conflictWith repository current
  else if stillApplied receipt current = true then do
    clone current.toJs
    .ok (repository, .replayed current receipt.fingerprint)
  else
    conflictWith repository current

/-- Create a thread under a mutation. -/
def applyReviewCreate (host : Host) (repository : Repository)
    (current : Option ReviewThread) (thread : ReviewThread)
    (receipt : ReviewReceipt) (scope : JsString) :
    Checked (Repository × ReviewThreadMutationResult) :=
  match current with
  | some current => conflictWith repository current
  | none => do
      let created := { thread with version := Count.one }
      let revision ← revisionOf repository
        created.anchor.evidence.revisionId created.projectId
        (notFound "Review thread revision was not found in this project")
      validateSpatialAnchor created.anchor revision
      validateReviewThread host created
      requireCapacity repository.reviewThreads created.id "Review threads"
      clone created.toJs
      .ok (storeWithReceipt repository created receipt scope,
        .applied created receipt.fingerprint)

/-- Change a stored thread under a mutation that expects its version. -/
def applyReviewUpdate (host : Host) (repository : Repository)
    (current : ReviewThread) (input : ReviewThreadMutation)
    (receipt : ReviewReceipt) (scope : JsString) :
    Checked (Repository × ReviewThreadMutationResult) :=
  if versionOf (.number input.expectedVersion.val) ≠
      some current.version.val then
    conflictWith repository current
  else
    match input.update current with
    | none => conflictWith repository current
    | some updated => do
        validateReviewThread host updated
        clone updated.toJs
        .ok (storeWithReceipt repository updated receipt scope,
          .applied updated receipt.fingerprint)

/-- The project of a mutation: that of the thread it creates or changes. -/
def ReviewThreadMutation.projectId (current : Option ReviewThread) :
    ReviewThreadMutation → Option JsString
  | .create _ _ thread => some thread.projectId
  | _ => current.map ReviewThread.projectId

def mutateReviewThread (host : Host) (repository : Repository)
    (input : ReviewThreadMutation) :
    Checked (Repository × ReviewThreadMutationResult) := do
  let _ ← normalizeReviewThreadMutation host input.toJs
  requireText input.operationId (js "review operation id") 256
  let current := repository.reviewThreads.find? input.threadId
  match input.projectId current with
  -- Only a mutation of an existing thread names no project of its own.
  | none => .ok (repository, .conflict Count.zero none)
  | some projectId =>
      match repository.projects.find? projectId with
      | none => .error (notFound "Review project not found")
      | some project => do
          let fingerprint ←
            canonicalReviewThreadMutationFingerprint host input.toJs
          let scope := reviewReceiptScope project.organizationId projectId
            input.threadId
          let receiptKey := storageKey scope input.operationId
          let receipt : ReviewReceipt :=
            ⟨receiptKey, input.kind, input.threadId, fingerprint,
              input.messageId?⟩
          match repository.reviewOperationReceipts.find? receiptKey,
              current with
          | some stored, some current =>
              replayReviewMutation repository current stored fingerprint
          | _, _ =>
              match input, current with
              | .create _ _ thread, _ =>
                  applyReviewCreate host repository current thread receipt
                    scope
              | _, none => .ok (repository, .conflict Count.zero none)
              | _, some current =>
                  applyReviewUpdate host repository current input receipt
                    scope

end Selene.Collaboration
