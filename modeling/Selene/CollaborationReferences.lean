import Selene.CollaborationReviewCalls
import Selene.CollaborationReplacement

/-!
# References between records

In every reachable repository the thread of a comment, the comment of a
reaction and the revision of an approval are stored, and the maps that an
export reads are within the limit of an iterable.
-/

namespace Selene.Collaboration

open Js

/-- References are stored, and the exported maps are bounded. -/
structure Consistent (repository : Repository) : Prop where
  threads : ∀ comment ∈ repository.comments.rows,
    repository.threads.has comment.threadId = true
  comments : ∀ reaction ∈ repository.reactions.rows,
    repository.comments.has reaction.commentId = true
  revisions : ∀ approval ∈ repository.approvals.rows,
    repository.revisions.has approval.revisionId = true
  revisionsSize : repository.revisions.size ≤ collaborationBudgets.maxItems
  threadsSize : repository.threads.size ≤ collaborationBudgets.maxItems
  commentsSize : repository.comments.size ≤ collaborationBudgets.maxItems
  reactionsSize : repository.reactions.size ≤ collaborationBudgets.maxItems
  approvalsSize : repository.approvals.size ≤ collaborationBudgets.maxItems
  reviewThreadsSize :
    repository.reviewThreads.size ≤ collaborationBudgets.maxItems
  aiChangeRequestsSize :
    repository.aiChangeRequests.size ≤ collaborationBudgets.maxItems
  developerAnnotationsSize :
    repository.developerAnnotations.size ≤ collaborationBudgets.maxItems

variable {repository : Repository} {key : JsString} {id : JsString}
  {host : Host} {α : Type} {keyOf : α → JsString} {table : Table keyOf}

theorem has_set_of_has
    (stored : table.has key = true)
    (row : α) :
    (table.set row).has key = true := by
  rw [Table.has_set, stored, Bool.or_true]

theorem forall_rows_set
    {property : α → Prop}
    {row : α}
    (new : property row)
    (old : ∀ other ∈ table.rows, property other) :
    ∀ other ∈ (table.set row).rows, property other := by
  intro other member
  rcases Table.mem_set.mp member with rfl | ⟨stored, _⟩
  · exact new
  · exact old other stored

theorem Consistent.write
    {repository next : Repository}
    (consistent : Consistent repository)
    (write : Write repository next) :
    Consistent next := by
  cases write with
  | project project fresh room => exact { consistent with }
  | revision revision room =>
      exact
        { consistent with
          revisions := fun approval member =>
            has_set_of_has (consistent.revisions approval member) revision
          revisionsSize := size_set_le consistent.revisionsSize room }
  | thread thread room =>
      exact
        { consistent with
          threads := fun comment member =>
            has_set_of_has (consistent.threads comment member) thread
          threadsSize := size_set_le consistent.threadsSize room }
  | comment comment inThread room =>
      exact
        { consistent with
          threads := forall_rows_set inThread consistent.threads
          comments := fun reaction member =>
            has_set_of_has (consistent.comments reaction member) comment
          commentsSize := size_set_le consistent.commentsSize room }
  | reaction reaction onComment room =>
      exact
        { consistent with
          comments := forall_rows_set onComment consistent.comments
          reactionsSize := size_set_le consistent.reactionsSize room }
  | approval approval ofRevision room =>
      exact
        { consistent with
          revisions := forall_rows_set ofRevision consistent.revisions
          approvalsSize := size_set_le consistent.approvalsSize room }
  | aiChangeRequest request room =>
      exact
        { consistent with
          aiChangeRequestsSize :=
            size_set_le consistent.aiChangeRequestsSize room }
  | developerAnnotation note room =>
      exact
        { consistent with
          developerAnnotationsSize :=
            size_set_le consistent.developerAnnotationsSize room }
  | shareLink link room => exact { consistent with }
  | response response room => exact { consistent with }

theorem Consistent.committed
    {repository next : Repository}
    {waiting : WaitingCommit}
    (consistent : Consistent repository)
    (committed : Committed repository waiting next) :
    Consistent next := by
  have writes := committed.writes
  clear committed
  induction writes with
  | refl => exact consistent
  | tail _ write inductionHypothesis =>
      cases write with
      | row _ write => exact inductionHypothesis.write write
      | reviewState state => exact { inductionHypothesis with }
      | semanticChange change => exact { inductionHypothesis with }

/-! ## Imports and deletions -/

theorem threadProject_of_find?
    {thread : Thread}
    (found : repository.threads.find? id = some thread) :
    threadProject repository id = some thread.projectId := by
  rw [threadProject, found]
  rfl

theorem commentProject_of_find?
    {comment : Comment}
    (found : repository.comments.find? id = some comment) :
    commentProject repository id =
      threadProject repository comment.threadId := by
  rw [commentProject, found]
  rfl

theorem revisionProject_of_find?
    {revision : Revision}
    (found : repository.revisions.find? id = some revision) :
    revisionProject repository id = some revision.projectId := by
  rw [revisionProject, found]
  rfl

theorem find?_of_has
    (stored : table.has key = true) :
    ∃ row, table.find? key = some row := by
  rw [Table.has_eq_isSome] at stored
  exact Option.isSome_iff_exists.mp stored

theorem Consistent.withoutProject
    (consistent : Consistent repository)
    (projectId : JsString) :
    Consistent (withoutProject repository projectId) where
  threads comment member := by
    obtain ⟨stored, other⟩ := List.mem_filter.mp member
    obtain ⟨thread, found⟩ :=
      find?_of_has (consistent.threads comment stored)
    refine Table.has_keep found (decide_eq_true ?_)
    intro same
    have different := of_decide_eq_true other
    rw [threadProject_of_find? found, same] at different
    exact different rfl
  comments reaction member := by
    obtain ⟨stored, other⟩ := List.mem_filter.mp member
    obtain ⟨comment, found⟩ :=
      find?_of_has (consistent.comments reaction stored)
    refine Table.has_keep found (decide_eq_true ?_)
    rw [← commentProject_of_find? found]
    exact of_decide_eq_true other
  revisions approval member := by
    obtain ⟨stored, other⟩ := List.mem_filter.mp member
    obtain ⟨revision, found⟩ :=
      find?_of_has (consistent.revisions approval stored)
    refine Table.has_keep found (decide_eq_true ?_)
    intro same
    have different := of_decide_eq_true other
    rw [revisionProject_of_find? found, same] at different
    exact different rfl
  revisionsSize := (Table.size_keep_le _ _).trans consistent.revisionsSize
  threadsSize := (Table.size_keep_le _ _).trans consistent.threadsSize
  commentsSize := (Table.size_keep_le _ _).trans consistent.commentsSize
  reactionsSize := (Table.size_keep_le _ _).trans consistent.reactionsSize
  approvalsSize := (Table.size_keep_le _ _).trans consistent.approvalsSize
  reviewThreadsSize :=
    (Table.size_keep_le _ _).trans consistent.reviewThreadsSize
  aiChangeRequestsSize :=
    (Table.size_keep_le _ _).trans consistent.aiChangeRequestsSize
  developerAnnotationsSize :=
    (Table.size_keep_le _ _).trans consistent.developerAnnotationsSize

theorem has_setAll_of_setAll
    {β : Type}
    {referringKey : β → JsString}
    {referring : Table referringKey}
    {rows : List α}
    {newReferring : List β}
    {reference : β → JsString}
    (new : ∀ row ∈ newReferring, reference row ∈ rows.map keyOf)
    (old : ∀ row ∈ referring.rows, table.has (reference row) = true) :
    ∀ row ∈ (referring.setAll newReferring).rows,
      (table.setAll rows).has (reference row) = true := by
  intro row member
  rw [Table.has_setAll]
  rcases Table.mem_of_mem_setAll member with isNew | stored
  · simp [new row isNew]
  · simp [old row stored]

theorem Consistent.replaced
    {repository next : Repository}
    {snapshot : CollaborationSnapshot}
    (consistent : Consistent repository)
    (referenced : WellReferenced snapshot)
    (replacement : Replacement host repository snapshot next) :
    Consistent next := by
  have kept := consistent.withoutProject snapshot.project.id
  have fits := replacement.fits
  obtain ⟨reviewStates, semanticChanges, rfl, _⟩ := replacement.maps
  simp only [mapSizes, List.forall_mem_cons] at fits
  obtain ⟨_, revisions, threads, comments, reactions, approvals,
    reviewThreads, requests, annotations, _⟩ := fits
  exact
    { threads := has_setAll_of_setAll referenced.comments kept.threads
      comments := has_setAll_of_setAll referenced.reactions kept.comments
      revisions := has_setAll_of_setAll referenced.approvals kept.revisions
      revisionsSize := revisions
      threadsSize := threads
      commentsSize := comments
      reactionsSize := reactions
      approvalsSize := approvals
      reviewThreadsSize := reviewThreads
      aiChangeRequestsSize := requests
      developerAnnotationsSize := annotations }

theorem Consistent.execute
    {system : System}
    (consistent : Consistent system.repository)
    (command : Command) :
    Consistent (execute host system command).1.repository := by
  have ofEffect :
      command.KeepsProjects →
        Consistent (Collaboration.execute host system command).1.repository := by
    intro keeps
    have effect := execute_effect host system keeps
    generalize
      (Collaboration.execute host system command).1.repository = after
        at effect ⊢
    cases effect with
    | idle => exact consistent
    | row _ _ write => exact consistent.write write
    | committed _ _ _ _ _ committed => exact consistent.committed committed
    | stores thread _ _ _ room =>
        exact
          { consistent with
            reviewThreadsSize :=
              size_set_le consistent.reviewThreadsSize room }
  cases command with
  | replaceProject snapshot expected =>
      rw [Collaboration.execute]
      cases replaced :
          replaceProject host system.repository snapshot expected with
      | error error => exact consistent
      | ok next =>
          obtain ⟨_, referenced, replacement⟩ :=
            replaceProject_replaces replaced
          exact consistent.replaced referenced replacement
  | deleteProject projectId =>
      rw [Collaboration.execute]
      cases deleted : deleteProject system.repository projectId with
      | error error => exact consistent
      | ok next =>
          rcases deleteProject_cases deleted with rfl | rfl
          · exact consistent
          · exact { consistent.withoutProject projectId with }
  | _ => exact ofEffect trivial

/-- The references of every reachable repository are stored. -/
theorem consistent_of_reachable
    {system : System}
    (reachable : ReachableSystem host system) :
    Consistent system.repository := by
  have initial : Consistent System.initial.repository := by
    constructor <;> simp [System.initial, Repository.empty, Table.empty,
      Table.size]
  exact reachable.invariant (fun system => Consistent system.repository)
    (fun _ command consistent => consistent.execute command) initial

end Selene.Collaboration
