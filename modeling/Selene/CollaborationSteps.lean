import Selene.CollaborationRuns

/-!
# What a command writes

Each method that succeeds sets one row of one map, and the lemmas here say which
row and what was checked.  A commit sets up to four rows; one that fails late
has set some of them.  `Write` lists the single writes, and a commit is a
sequence of them.
-/

namespace Selene.Collaboration

open Js
open Baseline (SemanticDesignChange)

/-- Room for a row in a table. -/
def HasRoom {α : Type} {keyOf : α → JsString} (table : Table keyOf)
    (row : α) : Prop :=
  table.has (keyOf row) = true ∨
    table.size < collaborationBudgets.maxItems

theorem requireCapacity_eq_ok
    {α : Type}
    {keyOf : α → JsString}
    {table : Table keyOf}
    {row : α}
    {field : String} :
    requireCapacity table (keyOf row) field = .ok () ↔ HasRoom table row :=
  check_eq_ok

theorem size_set_le
    {α : Type}
    {keyOf : α → JsString}
    {table : Table keyOf}
    {row : α}
    (within : table.size ≤ collaborationBudgets.maxItems)
    (room : HasRoom table row) :
    (table.set row).size ≤ collaborationBudgets.maxItems := by
  rw [Table.size_set]
  split
  · exact within
  · rename_i fresh
    exact room.resolve_left fresh

/-! ## Single writes -/

/-- The ways in which a command sets one row of a map that all may set. -/
inductive Write (repository : Repository) : Repository → Prop where
  | project (project : Project)
      (fresh : repository.projects.has project.id = false)
      (room : HasRoom repository.projects project) :
      Write repository
        { repository with projects := repository.projects.set project }
  | revision (revision : Revision)
      (room : HasRoom repository.revisions revision) :
      Write repository
        { repository with revisions := repository.revisions.set revision }
  | thread (thread : Thread)
      (room : HasRoom repository.threads thread) :
      Write repository
        { repository with threads := repository.threads.set thread }
  | comment (comment : Comment)
      (inThread : repository.threads.has comment.threadId = true)
      (room : HasRoom repository.comments comment) :
      Write repository
        { repository with comments := repository.comments.set comment }
  | reaction (reaction : Reaction)
      (onComment : repository.comments.has reaction.commentId = true)
      (room : HasRoom repository.reactions reaction) :
      Write repository
        { repository with reactions := repository.reactions.set reaction }
  | approval (approval : Approval)
      (ofRevision : repository.revisions.has approval.revisionId = true)
      (room : HasRoom repository.approvals approval) :
      Write repository
        { repository with approvals := repository.approvals.set approval }
  | aiChangeRequest (request : AIChangeRequest)
      (room : HasRoom repository.aiChangeRequests request) :
      Write repository
        { repository with
          aiChangeRequests := repository.aiChangeRequests.set request }
  | developerAnnotation (note : DeveloperAnnotation)
      (room : HasRoom repository.developerAnnotations note) :
      Write repository
        { repository with
          developerAnnotations :=
            repository.developerAnnotations.set note }
  | shareLink (link : SignedShareLink)
      (room : HasRoom repository.shareLinks link) :
      Write repository
        { repository with shareLinks := repository.shareLinks.set link }
  | response (response : StoredResponse)
      (room : HasRoom repository.idempotency response) :
      Write repository
        { repository with
          idempotency := repository.idempotency.set response }

/-- The ways in which a commit sets one row. -/
inductive CommitWrite (repository : Repository) : Repository → Prop where
  | row (next : Repository) (write : Write repository next) :
      CommitWrite repository next
  | reviewState (state : DesignReviewState) :
      CommitWrite repository
        { repository with reviewStates := repository.reviewStates.set state }
  | semanticChange (change : SemanticDesignChange) :
      CommitWrite repository
        { repository with
          semanticChanges := repository.semanticChanges.set change }

/-! ## Methods that set one row -/

section Methods

variable {repository next : Repository}

theorem createProject_writes
    {project : Project}
    (created : createProject repository project = .ok next) :
    Write repository next := by
  unfold createProject at created
  obtain ⟨_, copied⟩ := unit_bind_eq_ok.mp created
  obtain ⟨fresh, checked⟩ := check_bind_eq_ok.mp copied
  obtain ⟨room, result⟩ := unit_bind_eq_ok.mp checked
  cases result
  exact .project project fresh (requireCapacity_eq_ok.mp room)

theorem createThread_writes
    {thread : Thread}
    (created : createThread repository thread = .ok next) :
    Write repository next := by
  unfold createThread at created
  obtain ⟨_, copied⟩ := unit_bind_eq_ok.mp created
  obtain ⟨_, checked⟩ := check_bind_eq_ok.mp copied
  obtain ⟨revision, _, anchored⟩ := bind_eq_ok.mp checked
  obtain ⟨_, fits⟩ := unit_bind_eq_ok.mp anchored
  obtain ⟨room, result⟩ := unit_bind_eq_ok.mp fits
  cases result
  exact .thread thread (requireCapacity_eq_ok.mp room)

theorem hasRoom_of_find?
    {α : Type}
    {keyOf : α → JsString}
    {table : Table keyOf}
    {key : JsString}
    {row replacing : α}
    (found : table.find? key = some row)
    (sameKey : keyOf replacing = keyOf row) :
    HasRoom table replacing := by
  refine Or.inl (Table.has_eq_true_iff.mpr ⟨row, ?_, sameKey.symm⟩)
  exact (Table.find?_eq_some.mp found).1

theorem updateThreadResolution_writes
    {id resolvedBy resolvedAt : JsString}
    (updated :
      updateThreadResolution repository id resolvedBy resolvedAt =
        .ok next) :
    Write repository next := by
  unfold updateThreadResolution at updated
  cases found : repository.threads.find? id with
  | none => rw [found] at updated; cases updated
  | some thread =>
      rw [found] at updated
      obtain ⟨_, result⟩ := unit_bind_eq_ok.mp updated
      cases result
      exact .thread _ (hasRoom_of_find? found rfl)

theorem createComment_writes
    {comment : Comment}
    (created : createComment repository comment = .ok next) :
    Write repository next := by
  unfold createComment at created
  obtain ⟨_, copied⟩ := unit_bind_eq_ok.mp created
  obtain ⟨_, checked⟩ := check_bind_eq_ok.mp copied
  obtain ⟨inThread, placed⟩ := check_bind_eq_ok.mp checked
  obtain ⟨_, parented⟩ := unit_bind_eq_ok.mp placed
  obtain ⟨_, valid⟩ := unit_bind_eq_ok.mp parented
  obtain ⟨room, result⟩ := unit_bind_eq_ok.mp valid
  cases result
  exact .comment comment inThread (requireCapacity_eq_ok.mp room)

theorem addReaction_writes
    {reaction : Reaction}
    (added : addReaction repository reaction = .ok next) :
    Write repository next := by
  unfold addReaction at added
  obtain ⟨_, copied⟩ := unit_bind_eq_ok.mp added
  obtain ⟨onComment, checked⟩ := check_bind_eq_ok.mp copied
  obtain ⟨_, named⟩ := unit_bind_eq_ok.mp checked
  obtain ⟨room, result⟩ := unit_bind_eq_ok.mp named
  cases result
  exact .reaction reaction onComment (requireCapacity_eq_ok.mp room)

theorem putApproval_writes
    {approval : Approval}
    (put : putApproval repository approval = .ok next) :
    Write repository next := by
  unfold putApproval at put
  obtain ⟨_, copied⟩ := unit_bind_eq_ok.mp put
  obtain ⟨ofRevision, checked⟩ := check_bind_eq_ok.mp copied
  obtain ⟨room, result⟩ := unit_bind_eq_ok.mp checked
  cases result
  exact .approval approval ofRevision (requireCapacity_eq_ok.mp room)

theorem createAIChangeRequest_writes
    {request : AIChangeRequest}
    (created : createAIChangeRequest repository request = .ok next) :
    Write repository next := by
  unfold createAIChangeRequest at created
  obtain ⟨_, copied⟩ := unit_bind_eq_ok.mp created
  obtain ⟨_, checked⟩ := check_bind_eq_ok.mp copied
  obtain ⟨revision, _, based⟩ := bind_eq_ok.mp checked
  obtain ⟨_, valid⟩ := unit_bind_eq_ok.mp based
  obtain ⟨_, referenced⟩ := unit_bind_eq_ok.mp valid
  obtain ⟨room, result⟩ := unit_bind_eq_ok.mp referenced
  cases result
  exact .aiChangeRequest request (requireCapacity_eq_ok.mp room)

theorem updateAIChangeRequest_writes
    {host : Host}
    {request : AIChangeRequest}
    (updated : updateAIChangeRequest host repository request = .ok next) :
    Write repository next := by
  unfold updateAIChangeRequest at updated
  obtain ⟨_, copied⟩ := unit_bind_eq_ok.mp updated
  cases found : repository.aiChangeRequests.find? request.id with
  | none => rw [found] at copied; cases copied
  | some existing =>
      rw [found] at copied
      obtain ⟨_, checked⟩ := check_bind_eq_ok.mp copied
      obtain ⟨revision, _, based⟩ := bind_eq_ok.mp checked
      obtain ⟨_, valid⟩ := unit_bind_eq_ok.mp based
      obtain ⟨_, referenced⟩ := unit_bind_eq_ok.mp valid
      obtain ⟨_, result⟩ := unit_bind_eq_ok.mp referenced
      cases result
      exact .aiChangeRequest request
        (hasRoom_of_find? found (Table.find?_eq_some.mp found).2.symm)

theorem createDeveloperAnnotation_writes
    {note : DeveloperAnnotation}
    (created :
      createDeveloperAnnotation repository note = .ok next) :
    Write repository next := by
  unfold createDeveloperAnnotation at created
  obtain ⟨_, copied⟩ := unit_bind_eq_ok.mp created
  obtain ⟨_, checked⟩ := check_bind_eq_ok.mp copied
  obtain ⟨revision, _, placed⟩ := bind_eq_ok.mp checked
  obtain ⟨_, valid⟩ := unit_bind_eq_ok.mp placed
  obtain ⟨room, result⟩ := unit_bind_eq_ok.mp valid
  cases result
  exact Write.developerAnnotation note (requireCapacity_eq_ok.mp room)

theorem createShareLink_writes
    {link : SignedShareLink}
    (created : createShareLink repository link = .ok next) :
    Write repository next := by
  unfold createShareLink at created
  obtain ⟨_, copied⟩ := unit_bind_eq_ok.mp created
  obtain ⟨_, checked⟩ := check_bind_eq_ok.mp copied
  obtain ⟨room, result⟩ := unit_bind_eq_ok.mp checked
  cases result
  exact .shareLink link (requireCapacity_eq_ok.mp room)

theorem revokeShareLink_writes
    {linkId revokedAt : JsString}
    (revoked : revokeShareLink repository linkId revokedAt = .ok next) :
    Write repository next := by
  unfold revokeShareLink at revoked
  cases found : repository.shareLinks.find? linkId with
  | none => rw [found] at revoked; cases revoked
  | some link =>
      rw [found] at revoked
      obtain ⟨_, result⟩ := unit_bind_eq_ok.mp revoked
      cases result
      exact .shareLink _ (hasRoom_of_find? found rfl)

theorem putIdempotency_writes
    {scope value : JsString}
    {response : JsValue}
    (put : putIdempotency repository scope value response = .ok next) :
    next = repository ∨ Write repository next := by
  unfold putIdempotency at put
  dsimp only at put
  cases found : repository.idempotency.find? (storageKey scope value) with
  | some existing =>
      rw [found] at put
      obtain ⟨_, result⟩ := unit_bind_eq_ok.mp put
      cases result
      exact Or.inl rfl
  | none =>
      rw [found] at put
      obtain ⟨room, copied⟩ := unit_bind_eq_ok.mp put
      obtain ⟨_, result⟩ := unit_bind_eq_ok.mp copied
      cases result
      exact Or.inr (.response _ (check_eq_ok.mp room))

theorem createReviewThread_writes
    {host : Host}
    {thread : ReviewThread}
    (created : createReviewThread host repository thread = .ok next) :
    repository.reviewThreads.has thread.id = false ∧
      validateReviewThread host thread = .ok () ∧
      HasRoom repository.reviewThreads thread ∧
      next =
        { repository with
          reviewThreads := repository.reviewThreads.set thread } := by
  unfold createReviewThread at created
  obtain ⟨_, copied⟩ := unit_bind_eq_ok.mp created
  obtain ⟨fresh, checked⟩ := check_bind_eq_ok.mp copied
  obtain ⟨revision, _, placed⟩ := bind_eq_ok.mp checked
  obtain ⟨_, anchored⟩ := unit_bind_eq_ok.mp placed
  obtain ⟨valid, fits⟩ := unit_bind_eq_ok.mp anchored
  obtain ⟨room, result⟩ := unit_bind_eq_ok.mp fits
  cases result
  exact ⟨fresh, valid, requireCapacity_eq_ok.mp room, rfl⟩

theorem resumeAppendRevision_writes
    {waiting : WaitingAppend}
    (resumed : resumeAppendRevision repository waiting = .ok next) :
    Write repository next := by
  unfold resumeAppendRevision at resumed
  obtain ⟨_, parented⟩ := check_bind_eq_ok.mp resumed
  obtain ⟨_, numbered⟩ := check_bind_eq_ok.mp parented
  obtain ⟨room, result⟩ := unit_bind_eq_ok.mp numbered
  cases result
  exact .revision _ (requireCapacity_eq_ok.mp room)

end Methods

/-! ## Commits -/

variable {repository : Repository} {waiting : WaitingCommit}

theorem appendCommitted_eq_ok
    {appended : Repository} :
    appendCommitted repository waiting = .ok appended ↔
      (waiting.input.command.revision = none ∧ appended = repository) ∨
        ∃ revision, waiting.input.command.revision = some revision ∧
          repository.revisions.has revision.id = false ∧
          waiting.before.map Revision.id =
            waiting.input.command.expectedParentRevisionId ∧
          revision.sequence =
            ((waiting.before.map Revision.sequence).getD Count.zero).next ∧
          HasRoom repository.revisions revision ∧
          appended =
            { repository with
              revisions := repository.revisions.set revision } := by
  unfold appendCommitted
  cases isRevision : waiting.input.command.revision with
  | none =>
      constructor
      · intro result
        cases result
        exact Or.inl ⟨rfl, rfl⟩
      · rintro (⟨_, rfl⟩ | ⟨revision, isSome, _⟩)
        · rfl
        · cases isSome
  | some revision =>
      dsimp only
      rw [check_bind_eq_ok, check_bind_eq_ok, check_bind_eq_ok,
        unit_bind_eq_ok, requireCapacity_eq_ok]
      constructor
      · rintro ⟨fresh, parented, numbered, room, result⟩
        cases result
        exact Or.inr
          ⟨revision, rfl, fresh, parented, numbered, room, rfl⟩
      · rintro (⟨isNone, _⟩ |
          ⟨_, same, fresh, parented, numbered, room, rfl⟩)
        · cases isNone
        · cases same
          exact ⟨fresh, parented, numbered, room, rfl⟩

theorem markCommitted_cases
    {marked : Repository}
    (result : markCommitted repository waiting = .ok marked) :
    (waiting.input.command.readiness = none ∧ marked = repository) ∨
      ∃ readiness revision,
        waiting.input.command.readiness = some readiness ∧
        waiting.input.command.revision.or
            (repository.revisions.find? readiness.revisionId) =
          some revision ∧
        (∀ state ∈ repository.reviewStates.rows,
          ∀ baseline ∈ state.baseline, baseline.id ≠ readiness.id) ∧
        revision.projectId = waiting.input.context.projectId ∧
        marked =
          { repository with
            reviewStates := repository.reviewStates.set
              (readyState waiting.input.context readiness revision) } := by
  unfold markCommitted at result
  cases isReadiness : waiting.input.command.readiness with
  | none =>
      rw [isReadiness] at result
      cases result
      exact Or.inl ⟨rfl, rfl⟩
  | some readiness =>
      rw [isReadiness] at result
      obtain ⟨_, bounded⟩ := unit_bind_eq_ok.mp result
      obtain ⟨unused, found⟩ := check_bind_eq_ok.mp bounded
      dsimp only at found
      split at found
      · cases found
      · rename_i revision isRevision
        obtain ⟨belongs, stored⟩ := check_bind_eq_ok.mp found
        cases stored
        exact Or.inr
          ⟨readiness, revision, rfl, isRevision, unused, belongs, rfl⟩

theorem storeResponse_cases
    {stored : Repository}
    {context : DesignRevisionCommandContext}
    {answer : CommitDesignRevisionResult}
    (result : storeResponse repository context answer = .ok stored) :
    stored = repository ∨
      ∃ response, HasRoom repository.idempotency response ∧
        stored =
          { repository with
            idempotency := repository.idempotency.set response } := by
  unfold storeResponse at result
  cases isKey : context.idempotencyKey with
  | none =>
      rw [isKey] at result
      cases result
      exact Or.inl rfl
  | some idempotencyKey =>
      rw [isKey] at result
      obtain ⟨room, copied⟩ := unit_bind_eq_ok.mp result
      obtain ⟨_, same⟩ := unit_bind_eq_ok.mp copied
      cases same
      refine Or.inr ⟨_, ?_, rfl⟩
      exact check_eq_ok.mp room

/-- How far a commit got: what it stored before it stopped or ended. -/
inductive Committed (repository : Repository) (waiting : WaitingCommit) :
    Repository → Prop where
  | refused : Committed repository waiting repository
  | appended (appended : Repository)
      (checked : checkCommit repository waiting.input = .ok ())
      (isAppended : appendCommitted repository waiting = .ok appended) :
      Committed repository waiting appended
  | recorded (appended marked : Repository)
      (checked : checkCommit repository waiting.input = .ok ())
      (isAppended : appendCommitted repository waiting = .ok appended)
      (isMarked : markCommitted appended waiting = .ok marked) :
      Committed repository waiting
        (recordCommitted repository marked waiting)
  | stored (appended marked stored : Repository)
      (checked : checkCommit repository waiting.input = .ok ())
      (isAppended : appendCommitted repository waiting = .ok appended)
      (isMarked : markCommitted appended waiting = .ok marked)
      (isStored :
        storeResponse (recordCommitted repository marked waiting)
          waiting.input.context (commitResult repository waiting.input) =
            .ok stored) :
      Committed repository waiting stored

theorem resumeCommitDesignRevision_cases
    (repository : Repository)
    (waiting : WaitingCommit) :
    Committed repository waiting
      (resumeCommitDesignRevision repository waiting).1 := by
  unfold resumeCommitDesignRevision
  cases checked : checkCommit repository waiting.input with
  | error error => exact .refused
  | ok passed =>
      dsimp only [continueFrom]
      cases isAppended : appendCommitted repository waiting with
      | error error => exact .refused
      | ok appended =>
          dsimp only
          cases isMarked : markCommitted appended waiting with
          | error error => exact .appended appended checked isAppended
          | ok marked =>
              dsimp only
              cases isStored :
                  storeResponse (recordCommitted repository marked waiting)
                    waiting.input.context
                    (commitResult repository waiting.input) with
              | error error =>
                  exact .recorded appended marked checked isAppended isMarked
              | ok stored =>
                  exact .stored appended marked stored checked isAppended
                    isMarked isStored

/-! ## Commits as sequences of writes -/

theorem Committed.writes
    {next : Repository}
    (committed : Committed repository waiting next) :
    Relation.ReflTransGen CommitWrite repository next := by
  have appends :
      ∀ {appended}, appendCommitted repository waiting = .ok appended →
        Relation.ReflTransGen CommitWrite repository appended := by
    intro appended isAppended
    rcases appendCommitted_eq_ok.mp isAppended with
      ⟨_, rfl⟩ | ⟨revision, _, _, _, _, room, rfl⟩
    · exact .refl
    · exact .single (.row _ (.revision revision room))
  have marks :
      ∀ {appended marked}, markCommitted appended waiting = .ok marked →
        Relation.ReflTransGen CommitWrite appended marked := by
    intro appended marked isMarked
    rcases markCommitted_cases isMarked with
      ⟨_, rfl⟩ | ⟨readiness, revision, _, _, _, _, rfl⟩
    · exact .refl
    · exact .single (.reviewState _)
  have records :
      ∀ marked, Relation.ReflTransGen CommitWrite marked
        (recordCommitted repository marked waiting) := by
    intro marked
    unfold recordCommitted
    split
    · exact .refl
    · exact Relation.ReflTransGen.tail (.single (.semanticChange _))
        (.reviewState _)
  cases committed with
  | refused => exact .refl
  | appended _ _ isAppended => exact appends isAppended
  | recorded appended marked _ isAppended isMarked =>
      exact ((appends isAppended).trans (marks isMarked)).trans
        (records marked)
  | stored appended marked _ _ isAppended isMarked isStored =>
      have before := ((appends isAppended).trans (marks isMarked)).trans
        (records marked)
      rcases storeResponse_cases isStored with rfl | ⟨response, room, rfl⟩
      · exact before
      · exact before.tail (.row _ (.response response room))

end Selene.Collaboration
