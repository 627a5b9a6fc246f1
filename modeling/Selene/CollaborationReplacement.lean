import Selene.CollaborationSteps

/-!
# Replacing a project

An import validates its snapshot, refuses to take the place of other projects'
records, and then swaps every map at once.  `Replacement` is what an import
that succeeds has checked, and what it made.
-/

namespace Selene.Collaboration

open Js
open Baseline (SemanticDesignChange)

/-! ## What a valid snapshot refers to -/

theorem places_of_validateInOrder
    {α β κ : Type}
    {validate : List β → α → Checked Unit}
    {summary : α → β}
    {earlier : List β}
    {records : List α}
    (valid : validateInOrder validate summary earlier records = .ok ())
    (name : β → κ)
    (place : α → Prop)
    (places : ∀ before record, validate before record = .ok () →
      name (summary record) ∉ before.map name ∧ place record) :
    (records.map fun record => name (summary record)).Nodup ∧
      ∀ record ∈ records,
        name (summary record) ∉ earlier.map name ∧ place record := by
  induction records generalizing earlier with
  | nil => simp
  | cons first rest inductionHypothesis =>
      rw [validateInOrder] at valid
      obtain ⟨validFirst, validRest⟩ := unit_bind_eq_ok.mp valid
      obtain ⟨distinct, others⟩ := inductionHypothesis validRest
      simp only [List.map_cons, List.mem_cons, not_or] at others
      refine ⟨?_, ?_⟩
      · rw [List.map_cons, List.nodup_cons]
        refine ⟨fun repeated => ?_, distinct⟩
        obtain ⟨record, member, same⟩ := List.mem_map.mp repeated
        exact (others record member).1.1 same
      · rw [List.forall_mem_cons]
        exact ⟨places _ _ validFirst, fun record member =>
          ⟨(others record member).1.2, (others record member).2⟩⟩

/-- The records of a snapshot are told apart and refer to each other. -/
structure WellReferenced (snapshot : CollaborationSnapshot) : Prop where
  revisionIds : (snapshot.revisions.map Revision.id).Nodup
  revisions : ∀ revision ∈ snapshot.revisions,
    revision.projectId = snapshot.project.id
  threadIds : (snapshot.threads.map Thread.id).Nodup
  threads : ∀ thread ∈ snapshot.threads,
    thread.projectId = snapshot.project.id
  commentIds : (snapshot.comments.map Comment.id).Nodup
  comments : ∀ comment ∈ snapshot.comments,
    comment.threadId ∈ snapshot.threads.map Thread.id
  reactions : ∀ reaction ∈ snapshot.reactions,
    reaction.commentId ∈ snapshot.comments.map Comment.id
  approvals : ∀ approval ∈ snapshot.approvals,
    approval.revisionId ∈ snapshot.revisions.map Revision.id
  reviewThreadIds : (snapshot.reviewThreads.map ReviewThread.id).Nodup
  reviewThreads : ∀ thread ∈ snapshot.reviewThreads,
    thread.projectId = snapshot.project.id
  aiChangeRequestIds : (snapshot.aiChangeRequests.map AIChangeRequest.id).Nodup
  aiChangeRequests : ∀ request ∈ snapshot.aiChangeRequests,
    request.projectId = snapshot.project.id
  developerAnnotationIds :
    (snapshot.developerAnnotations.map DeveloperAnnotation.id).Nodup
  developerAnnotations : ∀ note ∈ snapshot.developerAnnotations,
    note.projectId = snapshot.project.id

variable {projectId : JsString}

theorem validateSnapshotRevision_places
    {earlier : List JsString}
    {revision : Revision}
    (valid :
      validateSnapshotRevision projectId earlier revision = .ok ()) :
    revision.id ∉ earlier.map id ∧ revision.projectId = projectId := by
  unfold validateSnapshotRevision at valid
  rw [List.map_id]
  obtain ⟨_, placed⟩ := unit_bind_eq_ok.mp valid
  exact (check_bind_eq_ok.mp placed).1

theorem validateSnapshotThread_places
    {revisions : List Revision}
    {earlier : List JsString}
    {thread : Thread}
    (valid :
      validateSnapshotThread projectId revisions earlier thread = .ok ()) :
    thread.id ∉ earlier.map id ∧ thread.projectId = projectId := by
  unfold validateSnapshotThread at valid
  rw [List.map_id]
  exact (check_bind_eq_ok.mp valid).1

theorem validateSnapshotComment_places
    {threadIds : List JsString}
    {earlier : List Comment}
    {comment : Comment}
    (valid : validateSnapshotComment threadIds earlier comment = .ok ()) :
    comment.id ∉ earlier.map Comment.id ∧ comment.threadId ∈ threadIds := by
  unfold validateSnapshotComment at valid
  exact (check_bind_eq_ok.mp valid).1

variable {host : Host} {snapshot : CollaborationSnapshot}

theorem wellReferenced_of_valid
    (valid : validateCopiedSnapshot host snapshot = .ok ()) :
    WellReferenced snapshot := by
  unfold validateCopiedSnapshot at valid
  obtain ⟨_, formatted⟩ := check_bind_eq_ok.mp valid
  obtain ⟨_, identified⟩ := unit_bind_eq_ok.mp formatted
  obtain ⟨_, organized⟩ := unit_bind_eq_ok.mp identified
  obtain ⟨_, named⟩ := unit_bind_eq_ok.mp organized
  obtain ⟨_, limited⟩ := unit_bind_eq_ok.mp named
  obtain ⟨reviewThreadIds, uniqueThreads⟩ := unit_bind_eq_ok.mp limited
  obtain ⟨requestIds, uniqueRequests⟩ := unit_bind_eq_ok.mp uniqueThreads
  obtain ⟨annotationIds, unique⟩ := unit_bind_eq_ok.mp uniqueRequests
  obtain ⟨_, reacted⟩ := check_bind_eq_ok.mp unique
  obtain ⟨revisions, parented⟩ := unit_bind_eq_ok.mp reacted
  obtain ⟨_, threaded⟩ := unit_bind_eq_ok.mp parented
  obtain ⟨threads, commented⟩ := unit_bind_eq_ok.mp threaded
  obtain ⟨comments, reactionsAt⟩ := unit_bind_eq_ok.mp commented
  obtain ⟨reactions, approved⟩ := unit_bind_eq_ok.mp reactionsAt
  obtain ⟨approvals, reviewed⟩ := unit_bind_eq_ok.mp approved
  obtain ⟨reviewThreads, requested⟩ := unit_bind_eq_ok.mp reviewed
  obtain ⟨requests, annotated⟩ := unit_bind_eq_ok.mp requested
  obtain ⟨annotations, _⟩ := unit_bind_eq_ok.mp annotated
  obtain ⟨revisionIds, revisions⟩ := places_of_validateInOrder revisions id _
    fun _ _ => validateSnapshotRevision_places
  obtain ⟨threadIds, threads⟩ := places_of_validateInOrder threads id _
    fun _ _ => validateSnapshotThread_places
  obtain ⟨commentIds, comments⟩ := places_of_validateInOrder comments
    Comment.id _ fun _ _ => validateSnapshotComment_places
  exact
    { revisionIds
      revisions := fun revision member => (revisions revision member).2
      threadIds
      threads := fun thread member => (threads thread member).2
      commentIds
      comments := fun comment member => (comments comment member).2
      reactions := fun reaction member =>
        (check_bind_eq_ok.mp
          (forM_eq_ok.mp reactions reaction member)).1
      approvals := fun approval member =>
        (check_bind_eq_ok.mp
          (forM_eq_ok.mp approvals approval member)).1
      reviewThreadIds := check_eq_ok.mp reviewThreadIds
      reviewThreads := fun thread member =>
        (check_bind_eq_ok.mp
          (forM_eq_ok.mp reviewThreads thread member)).1
      aiChangeRequestIds := check_eq_ok.mp requestIds
      aiChangeRequests := fun request member =>
        (check_bind_eq_ok.mp
          (forM_eq_ok.mp requests request member)).1
      developerAnnotationIds := check_eq_ok.mp annotationIds
      developerAnnotations := fun note member =>
        (check_bind_eq_ok.mp
          (forM_eq_ok.mp annotations note member)).1 }

/-! ## What an import does -/

/-- What a successful import has checked, and what it made. -/
structure Replacement (host : Host) (repository : Repository)
    (snapshot : CollaborationSnapshot) (next : Repository) : Prop where
  valid : validateCollaborationSnapshot host snapshot = .ok ()
  portable :
    ∀ state ∈ snapshot.designReviewState,
      validateDesignReviewState state = .ok ()
  collisions : rejectCollisions repository snapshot = .ok ()
  replaced :
    addReviewState
        (addRecords (withoutProject repository snapshot.project.id) snapshot)
        snapshot =
      .ok next
  fits : ∀ size ∈ mapSizes next, size.2 ≤ collaborationBudgets.maxItems

variable {repository next : Repository}

theorem replaceProject_replaces
    {given : CollaborationSnapshot}
    {expected : Option JsString}
    (replaced :
      replaceProject host repository given expected = .ok next) :
    clone given.toJs = .ok () ∧ WellReferenced given.copy ∧
      Replacement host repository given.copy next := by
  unfold replaceProject at replaced
  obtain ⟨copied, checked⟩ := unit_bind_eq_ok.mp replaced
  obtain ⟨_, formatted⟩ := check_bind_eq_ok.mp checked
  obtain ⟨valid, reviewed⟩ := unit_bind_eq_ok.mp formatted
  obtain ⟨portable, bounded⟩ := unit_bind_eq_ok.mp reviewed
  obtain ⟨_, latest⟩ := unit_bind_eq_ok.mp bounded
  obtain ⟨_, threads⟩ := unit_bind_eq_ok.mp latest
  obtain ⟨_, comments⟩ := unit_bind_eq_ok.mp threads
  obtain ⟨_, colliding⟩ := unit_bind_eq_ok.mp comments
  obtain ⟨collisions, reactions⟩ := unit_bind_eq_ok.mp colliding
  obtain ⟨_, approvals⟩ := unit_bind_eq_ok.mp reactions
  obtain ⟨_, reviewThreads⟩ := unit_bind_eq_ok.mp approvals
  obtain ⟨_, requests⟩ := unit_bind_eq_ok.mp reviewThreads
  obtain ⟨_, annotations⟩ := unit_bind_eq_ok.mp requests
  obtain ⟨_, made⟩ := unit_bind_eq_ok.mp annotations
  obtain ⟨made, isMade, sized⟩ := bind_eq_ok.mp made
  obtain ⟨fits, same⟩ := unit_bind_eq_ok.mp sized
  cases same
  refine ⟨copied, ?_, valid, whenPresent_eq_ok.mp portable, collisions,
    isMade, ?_⟩
  · have checked := (unit_bind_eq_ok.mp valid).2
    rw [CollaborationSnapshot.copy_copy] at checked
    exact wellReferenced_of_valid checked
  · intro size member
    exact check_eq_ok.mp (forM_eq_ok.mp fits size member)

theorem addReviewState_cases
    {prepared : Repository}
    (put : addReviewState prepared snapshot = .ok next) :
    (snapshot.designReviewState = none ∧ next = prepared) ∨
      ∃ state changes,
        snapshot.designReviewState = some state ∧
        state.projectId = snapshot.project.id ∧
        addChanges prepared.semanticChanges state.changesSinceBaseline =
          .ok changes ∧
        next =
          { prepared with
            reviewStates := prepared.reviewStates.set state
            semanticChanges := changes } := by
  unfold addReviewState at put
  cases isState : snapshot.designReviewState with
  | none =>
      rw [isState] at put
      cases put
      exact Or.inl ⟨rfl, rfl⟩
  | some state =>
      rw [isState] at put
      obtain ⟨inProject, added⟩ := check_bind_eq_ok.mp put
      obtain ⟨changes, isAdded, same⟩ := bind_eq_ok.mp added
      cases same
      exact Or.inr ⟨state, changes, rfl, inProject, isAdded, rfl⟩

theorem Replacement.maps
    (replacement : Replacement host repository snapshot next) :
    ∃ reviewStates semanticChanges,
      next =
        { addRecords (withoutProject repository snapshot.project.id)
            snapshot with
          reviewStates
          semanticChanges } ∧
        reviewStates.find? snapshot.project.id = snapshot.designReviewState ∧
        (∀ projectId, projectId ≠ snapshot.project.id →
          reviewStates.find? projectId =
            repository.reviewStates.find? projectId) ∧
        ∀ state ∈ reviewStates.rows,
          state ∈ snapshot.designReviewState ∨
            state ∈ repository.reviewStates.rows := by
  rcases addReviewState_cases replacement.replaced with
    ⟨isNone, rfl⟩ | ⟨state, changes, isState, inProject, _, rfl⟩
  · refine ⟨_, _, rfl, ?_, ?_, ?_⟩
    · rw [isNone]
      exact (Table.find?_delete _ _ _).trans (if_pos rfl)
    · intro projectId other
      exact (Table.find?_delete _ _ _).trans (if_neg other)
    · intro state member
      exact Or.inr (Table.mem_delete.mp member).1
  · refine ⟨_, _, rfl, ?_, ?_, ?_⟩
    · rw [Table.find?_set, if_pos inProject, isState]
    · intro projectId other
      rw [Table.find?_set, if_neg (inProject ▸ other.symm)]
      exact (Table.find?_delete _ _ _).trans (if_neg other)
    · intro stored member
      rcases Table.mem_set.mp member with rfl | ⟨old, _⟩
      · exact Or.inl isState
      · exact Or.inr (Table.mem_delete.mp old).1

theorem deleteProject_cases
    (deleted : deleteProject repository projectId = .ok next) :
    next = repository ∨
      next =
        { withoutProject repository projectId with
          projects := repository.projects.delete projectId } := by
  unfold deleteProject at deleted
  split at deleted
  · cases deleted
    exact Or.inl rfl
  · obtain ⟨_, threads⟩ := unit_bind_eq_ok.mp deleted
    obtain ⟨_, comments⟩ := unit_bind_eq_ok.mp threads
    obtain ⟨_, same⟩ := unit_bind_eq_ok.mp comments
    cases same
    exact Or.inr rfl

end Selene.Collaboration
