import Selene.CollaborationRepository

/-!
# Design commits

`commitDesignRevision` appends a revision, marks a baseline ready, or does
both.  It waits once, for the latest revision of the project; the part before
the wait is `beginCommitDesignRevision`, the part after it
`resumeCommitDesignRevision`.  The second part writes as it goes: what it
stored before an error stays stored.
-/

namespace Selene.Collaboration

open Js
open Baseline (BaselineIntent DesignChangeKind DesignRevisionReference
  DesignChangeScope VisualEvidence DesignChangeProvenance
  SemanticDesignChange)

/-! ## Inputs and results -/

structure SemanticDesignChangeInput where
  id : JsString
  kind : DesignChangeKind
  affected : DesignChangeScope
  evidence : List VisualEvidence
  provenance : DesignChangeProvenance
  reason : JsString
  deriving DecidableEq

structure DesignReadinessInput where
  id : JsString
  revisionId : JsString
  intent : BaselineIntent
  revisionFingerprint : JsString
  deriving DecidableEq

structure DesignRevisionCommandContext where
  projectId : JsString
  actorId : JsString
  occurredAt : JsString
  idempotencyKey : Option JsString
  idempotencyScope : Option JsString
  deriving DecidableEq

/-- What a commit does, besides its context. -/
inductive DesignRevisionCommand where
  | appendRevision (revision : Revision)
      (expectedParentRevisionId : Option JsString)
      (semanticChange : Option SemanticDesignChangeInput)
  | markReady (readiness : DesignReadinessInput)
  | appendRevisionAndMarkReady (revision : Revision)
      (expectedParentRevisionId : Option JsString)
      (readiness : DesignReadinessInput)

structure CommitDesignRevisionInput where
  context : DesignRevisionCommandContext
  command : DesignRevisionCommand

inductive CommitDesignRevisionResult where
  | revision (revision : Revision) (changeRecorded : Bool)
  | readiness (readiness : DesignReadinessInput)
  | revisionAndReadiness (revision : Revision)
      (readiness : DesignReadinessInput)

/-- A first result, or the response that was stored for an earlier one. -/
inductive CommitOutcome where
  | committed (result : CommitDesignRevisionResult)
  | replayed (response : JsValue)

namespace DesignRevisionCommand

def kind : DesignRevisionCommand → JsString
  | .appendRevision .. => js "append-revision"
  | .markReady .. => js "mark-ready"
  | .appendRevisionAndMarkReady .. => js "append-revision-and-mark-ready"

def revision : DesignRevisionCommand → Option Revision
  | .appendRevision revision _ _ => some revision
  | .markReady _ => none
  | .appendRevisionAndMarkReady revision _ _ => some revision

def readiness : DesignRevisionCommand → Option DesignReadinessInput
  | .appendRevision .. => none
  | .markReady readiness => some readiness
  | .appendRevisionAndMarkReady _ _ readiness => some readiness

def semanticChange :
    DesignRevisionCommand → Option SemanticDesignChangeInput
  | .appendRevision _ _ semanticChange => semanticChange
  | _ => none

def expectedParentRevisionId : DesignRevisionCommand → Option JsString
  | .appendRevision _ expected _ => expected
  | .markReady _ => none
  | .appendRevisionAndMarkReady _ expected _ => expected

/-- The command with its revision copied. -/
def copy : DesignRevisionCommand → DesignRevisionCommand
  | .appendRevision revision expected change =>
      .appendRevision revision.copy expected change
  | .markReady readiness => .markReady readiness
  | .appendRevisionAndMarkReady revision expected readiness =>
      .appendRevisionAndMarkReady revision.copy expected readiness

end DesignRevisionCommand

def SemanticDesignChangeInput.toJs (change : SemanticDesignChangeInput) :
    JsValue :=
  .object (Record.ofFields [
    textField "id" change.id,
    textField "kind" change.kind.text,
    (js "affected", some change.affected.toJs),
    (js "evidence",
      some (.array (change.evidence.map VisualEvidence.toJs))),
    (js "provenance", some change.provenance.toJs),
    textField "reason" change.reason])

def DesignReadinessInput.toJs (readiness : DesignReadinessInput) : JsValue :=
  .object (Record.ofFields [
    textField "id" readiness.id,
    textField "revisionId" readiness.revisionId,
    textField "intent" readiness.intent.text,
    textField "revisionFingerprint" readiness.revisionFingerprint])

def CommitDesignRevisionInput.toJs (input : CommitDesignRevisionInput) :
    JsValue :=
  .object (Record.ofFields [
    textField "projectId" input.context.projectId,
    textField "actorId" input.context.actorId,
    textField "occurredAt" input.context.occurredAt,
    optionalText "idempotencyKey" input.context.idempotencyKey,
    optionalText "idempotencyScope" input.context.idempotencyScope,
    textField "kind" input.command.kind,
    (js "revision", input.command.revision.map Revision.toJs),
    optionalText "expectedParentRevisionId"
      input.command.expectedParentRevisionId,
    (js "semanticChange",
      input.command.semanticChange.map SemanticDesignChangeInput.toJs),
    (js "readiness",
      input.command.readiness.map DesignReadinessInput.toJs)])

/-- The value of a first result. -/
def CommitDesignRevisionResult.toJs : CommitDesignRevisionResult → JsValue
  | .revision appended changeRecorded =>
      .object (Record.ofFields [
        textField "kind" (js "revision"),
        (js "revision", some appended.toJs),
        (js "changeRecorded", some (.bool changeRecorded)),
        (js "replayed", some (.bool false))])
  | .readiness ready =>
      .object (Record.ofFields [
        textField "kind" (js "readiness"),
        (js "readiness", some ready.toJs),
        (js "replayed", some (.bool false))])
  | .revisionAndReadiness appended ready =>
      .object (Record.ofFields [
        textField "kind" (js "revision-and-readiness"),
        (js "revision", some appended.toJs),
        (js "readiness", some ready.toJs),
        (js "replayed", some (.bool false))])

/-! ## Before the wait -/

/-- A commit that waits for the latest revision it asked for. -/
structure WaitingCommit where
  input : CommitDesignRevisionInput
  before : Option Revision

/-- The key that a response is stored under. -/
def responseKey (context : DesignRevisionCommandContext)
    (idempotencyKey : JsString) : JsString :=
  storageKey
    (context.idempotencyScope.getD
      (js "design:" ++ context.actorId ++ js ":" ++ context.projectId))
    idempotencyKey

/-- A baseline names a revision of the project by its fingerprint. -/
def checkReadiness (repository : Repository)
    (input : CommitDesignRevisionInput) : Checked Unit :=
  whenPresent input.command.readiness fun readiness => do
    let foreign :=
      invalid (js "Baseline revision must belong to the project")
    let stored := repository.revisions.find? readiness.revisionId
    let revision :=
      match input.command.revision with
      | some revision =>
          if readiness.revisionId = revision.id then some revision else stored
      | none => stored
    match revision with
    | none => .error foreign
    | some revision => do
        check (revision.projectId = input.context.projectId) foreign
        check (revision.contentSha256 = readiness.revisionFingerprint)
          (invalid
            (js "Baseline fingerprint must match the immutable revision"))

/-- A stored response, or the commit as it waits. -/
def beginCommitDesignRevision (host : Host) (repository : Repository)
    (given : CommitDesignRevisionInput) :
    Checked (CommitOutcome ⊕ WaitingCommit) := do
  clone given.toJs
  let input := { given with command := given.command.copy }
  whenPresent input.context.idempotencyKey fun idempotencyKey =>
    requireText idempotencyKey (js "idempotency key") 256
  match input.context.idempotencyKey.bind fun idempotencyKey =>
      repository.idempotency.find?
        (responseKey input.context idempotencyKey) with
  | some stored => do
      clone stored.response
      .ok (.inl (.replayed stored.response))
  | none => do
      check (repository.projects.has input.context.projectId = true)
        (notFound "Project not found")
      whenPresent input.command.revision fun revision =>
        check (revision.projectId = input.context.projectId)
          (invalid (js "Revision must belong to the project"))
      checkReadiness repository input
      let before ←
        getLatestRevision host repository input.context.projectId
      .ok (.inr ⟨input, before⟩)

/-! ## After the wait -/

def draftDesignReviewState (projectId : JsString) : DesignReviewState where
  format := designReviewStateFormat
  projectId
  readiness := .draft
  baseline := none
  currency := .none
  approvalsStale := false
  changesSinceBaseline := []

/-- The review state that a commit finds. -/
def reviewStateOf (repository : Repository) (projectId : JsString) :
    DesignReviewState :=
  (repository.reviewStates.find? projectId).getD
    (draftDesignReviewState projectId)

/-- Whether a commit is recorded against the baseline that it finds. -/
def hadBaseline (repository : Repository) (input : CommitDesignRevisionInput) :
    Bool :=
  (reviewStateOf repository input.context.projectId).baseline.isSome &&
    input.command.readiness.isNone

/-- The checks of a semantic change at its commit. -/
def checkSemanticChange (repository : Repository)
    (projectId : JsString) (change : SemanticDesignChangeInput) :
    Checked Unit := do
  check (change.affected.projectId = projectId)
    (invalid (js "Semantic change must belong to the project"))
  requireText change.id (js "semantic change id") 4000
  requireText change.reason (js "semantic change reason") 4000
  check (change.evidence ≠ [])
    (invalid (js "Semantic design changes require evidence"))
  change.evidence.forM fun evidence =>
    requireText evidence.description (js "evidence description") 4000
  validateChangeProvenance change.provenance
  check (repository.semanticChanges.has change.id = false)
    (duplicate "Semantic design change already exists")

/-- The checks that come before anything is written. -/
def checkCommit (repository : Repository)
    (input : CommitDesignRevisionInput) : Checked Unit := do
  check
    (hadBaseline repository input = false → input.command.revision ≠ none →
      input.command.semanticChange = none)
    (invalid (js "Semantic design changes require an active baseline"))
  check
    (hadBaseline repository input = true → input.command.revision ≠ none →
      input.command.semanticChange ≠ none)
    (invalid (js ("Design-affecting revisions after a baseline require " ++
      "semantic change metadata")))
  whenPresent input.command.semanticChange
    (checkSemanticChange repository input.context.projectId)

/-- Append the revision of a commit after the latest one it knows. -/
def appendCommitted (repository : Repository) (waiting : WaitingCommit) :
    Checked Repository :=
  match waiting.input.command.revision with
  | none => .ok repository
  | some revision => do
      check (repository.revisions.has revision.id = false)
        (duplicate "Revision already exists")
      check
        (waiting.before.map Revision.id =
          waiting.input.command.expectedParentRevisionId)
        (conflict "Revision parent is no longer current")
      check
        (revision.sequence =
          ((waiting.before.map Revision.sequence).getD Count.zero).next)
        (conflict "Revision sequence is not the next immutable revision")
      requireCapacity repository.revisions revision.id "Revisions"
      .ok { repository with
        revisions := repository.revisions.set revision }

/-- The review state of a project whose baseline was just marked ready. -/
def readyState (context : DesignRevisionCommandContext)
    (readiness : DesignReadinessInput) (revision : Revision) :
    DesignReviewState where
  format := designReviewStateFormat
  projectId := context.projectId
  readiness := readinessOf readiness.intent
  baseline := some
    { id := readiness.id
      projectId := context.projectId
      revision := ⟨revision.id, revision.contentSha256⟩
      intent := readiness.intent
      createdAt := context.occurredAt
      createdBy := context.actorId }
  currency := .current
  approvalsStale := false
  changesSinceBaseline := []

/-- Record the baseline of a commit. -/
def markCommitted (repository : Repository) (waiting : WaitingCommit) :
    Checked Repository :=
  match waiting.input.command.readiness with
  | none => .ok repository
  | some readiness => do
      boundedRows repository.reviewStates "Stored review states"
      check
        (∀ state ∈ repository.reviewStates.rows,
          ∀ baseline ∈ state.baseline, baseline.id ≠ readiness.id)
        (duplicate "Design baseline already exists")
      let foreign :=
        invalid (js "Baseline revision must belong to the project")
      match waiting.input.command.revision.or
          (repository.revisions.find? readiness.revisionId) with
      | none => .error foreign
      | some revision => do
          check (revision.projectId = waiting.input.context.projectId)
            foreign
          .ok { repository with
            reviewStates := repository.reviewStates.set
              (readyState waiting.input.context readiness revision) }

/-- The change that a commit records. -/
def recordedChange (context : DesignRevisionCommandContext)
    (change : SemanticDesignChangeInput) (before revision : Revision) :
    SemanticDesignChange where
  id := change.id
  kind := change.kind
  beforeRevision := ⟨before.id, before.contentSha256⟩
  currentRevision := ⟨revision.id, revision.contentSha256⟩
  affected := change.affected
  evidence := change.evidence
  provenance := change.provenance
  occurredAt := context.occurredAt
  reason := change.reason

/-- The review state after one more change since its baseline. -/
def staleState (state : DesignReviewState) (change : SemanticDesignChange) :
    DesignReviewState :=
  { state with
    currency := .stale
    approvalsStale := true
    changesSinceBaseline := state.changesSinceBaseline ++ [change] }

/-- The change of a commit, if it records one against the state it found. -/
def changeOf (found : Repository) (waiting : WaitingCommit) :
    Option SemanticDesignChange :=
  match waiting.input.command.revision,
      waiting.input.command.semanticChange, waiting.before with
  | some revision, some change, some before =>
      if hadBaseline found waiting.input = true then
        some (recordedChange waiting.input.context change before revision)
      else
        none
  | _, _, _ => none

/-- Record the change of a commit. -/
def recordCommitted (found repository : Repository)
    (waiting : WaitingCommit) : Repository :=
  match changeOf found waiting with
  | none => repository
  | some change =>
      { repository with
        semanticChanges := repository.semanticChanges.set change
        reviewStates := repository.reviewStates.set
          (staleState
            (reviewStateOf found waiting.input.context.projectId) change) }

/-- The result of a commit; its command appends or marks ready. -/
def commitResult (found : Repository) (input : CommitDesignRevisionInput) :
    CommitDesignRevisionResult :=
  match input.command with
  | .appendRevision revision _ _ =>
      .revision revision (hadBaseline found input)
  | .markReady readiness => .readiness readiness
  | .appendRevisionAndMarkReady revision _ readiness =>
      .revisionAndReadiness revision readiness

/-- Store the response of a commit for retries. -/
def storeResponse (repository : Repository)
    (context : DesignRevisionCommandContext)
    (result : CommitDesignRevisionResult) : Checked Repository :=
  match context.idempotencyKey with
  | none => .ok repository
  | some idempotencyKey => do
      let id := responseKey context idempotencyKey
      requireCapacity repository.idempotency id "Idempotency"
      clone result.toJs
      .ok { repository with
        idempotency := repository.idempotency.set
          ⟨id, inertCopy result.toJs⟩ }

/-- Go on from a step, or stop with what was stored before it. -/
def continueFrom {α : Type} (before : Repository)
    (step : Checked Repository)
    (next : Repository → Repository × Checked α) :
    Repository × Checked α :=
  match step with
  | .error error => (before, .error error)
  | .ok after => next after

def resumeCommitDesignRevision (repository : Repository)
    (waiting : WaitingCommit) : Repository × Checked CommitOutcome :=
  match checkCommit repository waiting.input with
  | .error error => (repository, .error error)
  | .ok () =>
      continueFrom repository (appendCommitted repository waiting)
        fun appended =>
          continueFrom appended (markCommitted appended waiting)
            fun marked =>
              let recorded := recordCommitted repository marked waiting
              let result := commitResult repository waiting.input
              continueFrom recorded
                (storeResponse recorded waiting.input.context result)
                fun stored => (stored, .ok (.committed result))

/-! ## Plain revisions -/

/-- A plain append that waits for the latest revision it asked for. -/
structure WaitingAppend where
  revision : Revision
  expectedParentRevisionId : Option JsString
  current : Option Revision

def beginAppendRevision (host : Host) (repository : Repository)
    (given : Revision) (expectedParentRevisionId : Option JsString) :
    Checked WaitingAppend := do
  clone given.toJs
  let revision := given.copy
  check (repository.projects.has revision.projectId = true)
    (notFound "Project not found")
  check (repository.revisions.has revision.id = false)
    (duplicate "Revision already exists")
  let current ← getLatestRevision host repository revision.projectId
  .ok ⟨revision, expectedParentRevisionId, current⟩

def resumeAppendRevision (repository : Repository)
    (waiting : WaitingAppend) : Checked Repository := do
  check
    (waiting.current.map Revision.id = waiting.expectedParentRevisionId)
    (conflict "Revision parent is no longer current")
  check
    (waiting.revision.sequence =
      ((waiting.current.map Revision.sequence).getD Count.zero).next)
    (conflict "Revision sequence is not the next immutable revision")
  requireCapacity repository.revisions waiting.revision.id "Revisions"
  .ok { repository with
    revisions := repository.revisions.set waiting.revision }

end Selene.Collaboration
