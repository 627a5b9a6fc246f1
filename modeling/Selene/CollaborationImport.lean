import Selene.CollaborationReferences

/-!
# Importing a project

A successful import leaves every other project as it was.  The imported project
is exported again as it came, unless two of its records share a storage key:
reactions are stored under a key that joins user and emoji with a colon, and
approvals under one for each revision and user, which no validator checks.
-/

namespace Selene.Collaboration

open Js

/-! ## What is not in another project's place -/

/-- The names of a snapshot that are stored belong to its project. -/
structure NoCollision (repository : Repository)
    (snapshot : CollaborationSnapshot) : Prop where
  revisions : ∀ revision ∈ snapshot.revisions,
    repository.revisions.has revision.id = true →
      revisionProject repository revision.id = some snapshot.project.id
  threads : ∀ thread ∈ snapshot.threads,
    repository.threads.has thread.id = true →
      threadProject repository thread.id = some snapshot.project.id
  comments : ∀ comment ∈ snapshot.comments,
    repository.comments.has comment.id = true →
      commentProject repository comment.id = some snapshot.project.id
  reviewThreads : ∀ thread ∈ snapshot.reviewThreads, ∀ old,
    repository.reviewThreads.find? thread.id = some old →
      old.projectId = snapshot.project.id
  aiChangeRequests : ∀ request ∈ snapshot.aiChangeRequests, ∀ old,
    repository.aiChangeRequests.find? request.id = some old →
      old.projectId = snapshot.project.id
  developerAnnotations : ∀ note ∈ snapshot.developerAnnotations,
    ∀ old,
      repository.developerAnnotations.find? note.id = some old →
        old.projectId = snapshot.project.id
  reactions : ∀ reaction ∈ snapshot.reactions, ∀ old,
    repository.reactions.find? (reactionKey reaction) = some old →
      commentProject repository old.commentId = some snapshot.project.id
  approvals : ∀ approval ∈ snapshot.approvals, ∀ old,
    repository.approvals.find? (approvalKey approval) = some old →
      revisionProject repository old.revisionId = some snapshot.project.id

theorem rejectCollision_eq_ok
    {α β : Type}
    {keyOf : α → JsString}
    {idOf : β → JsString}
    {records : List β}
    {stored : Table keyOf}
    {owner : JsString → Option JsString}
    {projectId : JsString}
    {field : String} :
    rejectCollision (records.map idOf) stored owner projectId field =
        .ok () ↔
      ∀ record ∈ records, stored.has (idOf record) = true →
        owner (idOf record) = some projectId := by
  unfold rejectCollision
  rw [check_eq_ok]
  simp

theorem owner_of_find?
    {α : Type}
    {keyOf : α → JsString}
    {projectOf : α → JsString}
    {stored : Table keyOf}
    {id projectId : JsString}
    {old : α}
    (owned : stored.has id = true →
      (stored.find? id).map projectOf = some projectId)
    (found : stored.find? id = some old) :
    projectOf old = projectId := by
  have same := owned (Table.has_of_find? found)
  rw [found] at same
  exact Option.some.inj same

variable {repository : Repository} {projectId id : JsString}

theorem noCollision_of_rejectCollisions
    {snapshot : CollaborationSnapshot}
    (passed : rejectCollisions repository snapshot = .ok ()) :
    NoCollision repository snapshot := by
  unfold rejectCollisions at passed
  obtain ⟨revisions, threaded⟩ := unit_bind_eq_ok.mp passed
  obtain ⟨threads, commented⟩ := unit_bind_eq_ok.mp threaded
  obtain ⟨comments, reviewed⟩ := unit_bind_eq_ok.mp commented
  obtain ⟨reviewThreads, requested⟩ := unit_bind_eq_ok.mp reviewed
  obtain ⟨requests, annotated⟩ := unit_bind_eq_ok.mp requested
  obtain ⟨annotations, reacted⟩ := unit_bind_eq_ok.mp annotated
  obtain ⟨reactions, approvals⟩ := check_bind_eq_ok.mp reacted
  exact
    { revisions := rejectCollision_eq_ok.mp revisions
      threads := rejectCollision_eq_ok.mp threads
      comments := rejectCollision_eq_ok.mp comments
      reviewThreads := fun thread member _ found =>
        owner_of_find?
          (rejectCollision_eq_ok.mp reviewThreads thread member) found
      aiChangeRequests := fun request member _ found =>
        owner_of_find? (rejectCollision_eq_ok.mp requests request member)
          found
      developerAnnotations := fun note member _ found =>
        owner_of_find?
          (rejectCollision_eq_ok.mp annotations note member) found
      reactions := reactions
      approvals := check_eq_ok.mp approvals }

/-! ## Whose a record is -/

section Isolation

variable {host : Host} {repository next : Repository}
  {snapshot : CollaborationSnapshot} {projectId : JsString}

variable {importing id : JsString} {α : Type} {keyOf : α → JsString}
  {table : Table keyOf} {projectOf : α → JsString} {rows : List α}

theorem mem_names_iff
    {wanted : α → Bool} :
    id ∈ (table.rows.filter wanted).map keyOf ↔
      ∃ row, table.find? id = some row ∧ wanted row = true := by
  constructor
  · intro member
    obtain ⟨row, stored, rfl⟩ := List.mem_map.mp member
    obtain ⟨isRow, isWanted⟩ := List.mem_filter.mp stored
    exact ⟨row, Table.find?_keyOf isRow, isWanted⟩
  · intro ⟨row, found, isWanted⟩
    obtain ⟨isRow, rfl⟩ := Table.find?_eq_some.mp found
    exact List.mem_map_of_mem (List.mem_filter.mpr ⟨isRow, isWanted⟩)

theorem mem_threads_iff :
    id ∈ (repository.threads.rows.filter fun thread =>
        decide (thread.projectId = projectId)).map Thread.id ↔
      threadProject repository id = some projectId := by
  rw [mem_names_iff, threadProject, Option.map_eq_some_iff]
  simp only [decide_eq_true_eq]

theorem mem_revisions_iff :
    id ∈ (repository.revisions.rows.filter fun revision =>
        decide (revision.projectId = projectId)).map Revision.id ↔
      revisionProject repository id = some projectId := by
  rw [mem_names_iff, revisionProject, Option.map_eq_some_iff]
  simp only [decide_eq_true_eq]

theorem mem_comments_iff
    {project : Project} :
    id ∈ (snapshotOf repository project).comments.map Comment.id ↔
      commentProject repository id = some project.id := by
  rw [snapshotOf, mem_names_iff, commentProject, Option.bind_eq_some_iff]
  simp only [mem_threads_iff, decide_eq_true_eq]

/-- An export is what the rows of a project are, and those that refer to
them. -/
theorem snapshotOf_eq_of
    {project : Project}
    (formatted : snapshot.format = collaborationFormat)
    (ofProject : snapshot.project = project)
    (revisions : repository.revisions.rows.filter (fun revision =>
      decide (revision.projectId = project.id)) = snapshot.revisions)
    (threads : repository.threads.rows.filter (fun thread =>
      decide (thread.projectId = project.id)) = snapshot.threads)
    (comments : repository.comments.rows.filter (fun comment =>
      decide (comment.threadId ∈ snapshot.threads.map Thread.id)) =
        snapshot.comments)
    (reactions : repository.reactions.rows.filter (fun reaction =>
      decide (reaction.commentId ∈ snapshot.comments.map Comment.id)) =
        snapshot.reactions)
    (approvals : repository.approvals.rows.filter (fun approval =>
      decide (approval.revisionId ∈ snapshot.revisions.map Revision.id)) =
        snapshot.approvals)
    (reviewThreads : repository.reviewThreads.rows.filter (fun thread =>
      decide (thread.projectId = project.id)) = snapshot.reviewThreads)
    (requests : repository.aiChangeRequests.rows.filter (fun request =>
      decide (request.projectId = project.id)) = snapshot.aiChangeRequests)
    (annotations : repository.developerAnnotations.rows.filter (fun note =>
      decide (note.projectId = project.id)) = snapshot.developerAnnotations)
    (reviewState : repository.reviewStates.find? project.id =
      snapshot.designReviewState) :
    snapshotOf repository project = snapshot := by
  simp only [snapshotOf, revisions, threads, comments, reactions, approvals,
    reviewThreads, requests, annotations, reviewState]
  rw [← formatted, ← ofProject]

theorem NoCollision.comments_of_find?
    (free : NoCollision repository snapshot)
    (comment : Comment)
    (isNew : comment ∈ snapshot.comments)
    (old : Comment)
    (found : repository.comments.find? comment.id = some old) :
    threadProject repository old.threadId = some snapshot.project.id := by
  rw [← commentProject_of_find? found]
  exact free.comments comment isNew (Table.has_of_find? found)

/-! ## Other projects -/

theorem filter_named_other
    (other : projectId ≠ importing)
    (inProject : ∀ row ∈ rows, projectOf row = importing)
    (collides : ∀ row ∈ rows, ∀ old,
      table.find? (keyOf row) = some old → projectOf old = importing) :
    ((table.keep fun row => decide (projectOf row ≠ importing)).setAll
        rows).rows.filter (fun row => decide (projectOf row = projectId)) =
      table.rows.filter fun row => decide (projectOf row = projectId) := by
  refine Table.filter_replaced_other ?_ ?_ ?_
  · intro row member
    exact decide_eq_false (inProject row member ▸ other.symm)
  · intro row member old found
    exact decide_eq_false (collides row member old found ▸ other.symm)
  · intro row _ isWanted
    have owned := of_decide_eq_true isWanted
    exact decide_eq_true (owned ▸ other)

theorem ne_of_owners
    {owner : Option JsString}
    {first second : JsString}
    (different : first ≠ second)
    (isFirst : owner = some first) :
    owner ≠ some second := by
  rw [isFirst]
  exact fun same => different (Option.some.inj same)

section References

variable {β : Type} {nameOf : β → JsString} {stored : Table nameOf}
  {named : List β} {referenceOf : α → JsString}
  {owner : JsString → Option JsString}

theorem filter_referring_other
    {wanted : β → Bool}
    (other : projectId ≠ importing)
    (owns : ∀ id, id ∈ (stored.rows.filter wanted).map nameOf ↔
      owner id = some projectId)
    (refers : ∀ row ∈ rows, referenceOf row ∈ named.map nameOf)
    (collides : ∀ row ∈ rows, ∀ old,
      table.find? (keyOf row) = some old →
        owner (referenceOf old) = some importing)
    (owned : ∀ name ∈ named, stored.has (nameOf name) = true →
      owner (nameOf name) = some importing) :
    ((table.keep fun row =>
        decide (owner (referenceOf row) ≠ some importing)).setAll
          rows).rows.filter (fun row =>
        decide (referenceOf row ∈ (stored.rows.filter wanted).map nameOf)) =
      table.rows.filter fun row =>
        decide (referenceOf row ∈
          (stored.rows.filter wanted).map nameOf) := by
  refine Table.filter_replaced_other ?_ ?_ ?_
  · intro row member
    refine decide_eq_false fun isNamed => ?_
    obtain ⟨name, isNew, same⟩ := List.mem_map.mp (refers row member)
    obtain ⟨_, found, _⟩ := mem_names_iff.mp isNamed
    rw [← same] at isNamed found
    exact ne_of_owners other ((owns _).mp isNamed)
      (owned name isNew (Table.has_of_find? found))
  · intro row member old found
    exact decide_eq_false fun isNamed =>
      ne_of_owners other ((owns _).mp isNamed) (collides row member old found)
  · intro row _ isWanted
    exact decide_eq_true
      (ne_of_owners other ((owns _).mp (of_decide_eq_true isWanted)))

/-- Records that refer to named ones, of the imported project: the kept ones
refer to records of other projects. -/
theorem filter_referring_own
    (distinct : (rows.map keyOf).Nodup)
    (refers : ∀ row ∈ rows, referenceOf row ∈ named.map nameOf)
    (collides : ∀ row ∈ rows, ∀ old,
      table.find? (keyOf row) = some old →
        owner (referenceOf old) = some importing)
    (owned : ∀ name ∈ named, stored.has (nameOf name) = true →
      owner (nameOf name) = some importing)
    (known : ∀ row ∈ table.rows, stored.has (referenceOf row) = true) :
    ((table.keep fun row =>
        decide (owner (referenceOf row) ≠ some importing)).setAll
          rows).rows.filter
        (fun row => decide (referenceOf row ∈ named.map nameOf)) =
      rows := by
  refine Table.filter_replaced_own distinct ?_ ?_ ?_
  · intro row member
    exact decide_eq_true (refers row member)
  · intro row member old found
    exact decide_eq_false (not_not_intro (collides row member old found))
  · intro row member isKept
    refine decide_eq_false fun isNamed => of_decide_eq_true isKept ?_
    obtain ⟨name, isNew, same⟩ := List.mem_map.mp isNamed
    rw [← same]
    exact owned name isNew (same ▸ known row member)

end References

theorem Replacement.snapshotOf_other
    (replacement : Replacement host repository snapshot next)
    (referenced : WellReferenced snapshot)
    (project : Project)
    (other : project.id ≠ snapshot.project.id) :
    snapshotOf next project = snapshotOf repository project := by
  have free := noCollision_of_rejectCollisions replacement.collisions
  obtain ⟨reviewStates, semanticChanges, rfl, _, states, _⟩ :=
    replacement.maps
  exact snapshotOf_eq_of rfl rfl
    (filter_named_other other referenced.revisions
      fun revision isNew _ found =>
        owner_of_find? (free.revisions revision isNew) found)
    (filter_named_other other referenced.threads
      fun thread isNew _ found =>
        owner_of_find? (free.threads thread isNew) found)
    (filter_referring_other other (fun _ => mem_threads_iff)
      referenced.comments free.comments_of_find? free.threads)
    (filter_referring_other other (fun _ => mem_comments_iff)
      referenced.reactions free.reactions free.comments)
    (filter_referring_other other (fun _ => mem_revisions_iff)
      referenced.approvals free.approvals free.revisions)
    (filter_named_other other referenced.reviewThreads free.reviewThreads)
    (filter_named_other other referenced.aiChangeRequests
      free.aiChangeRequests)
    (filter_named_other other referenced.developerAnnotations
      free.developerAnnotations)
    (states project.id other)

/-! ## The imported project -/

theorem filter_named_own
    (distinct : (rows.map keyOf).Nodup)
    (inProject : ∀ row ∈ rows, projectOf row = importing)
    (collides : ∀ row ∈ rows, ∀ old,
      table.find? (keyOf row) = some old → projectOf old = importing) :
    ((table.keep fun row => decide (projectOf row ≠ importing)).setAll
        rows).rows.filter (fun row => decide (projectOf row = importing)) =
      rows := by
  refine Table.filter_replaced_own distinct ?_ ?_ ?_
  · intro row member
    exact decide_eq_true (inProject row member)
  · intro row member old found
    exact decide_eq_false (not_not_intro (collides row member old found))
  · intro row _ isKept
    exact decide_eq_false (of_decide_eq_true isKept)

section

variable (replacement : Replacement host repository snapshot next)

include replacement

/-- The records of the imported project are those of the snapshot, if its
reactions and approvals have distinct storage keys. -/
theorem Replacement.snapshotOf_own
    (consistent : Consistent repository)
    (referenced : WellReferenced snapshot)
    (formatted : snapshot.format = collaborationFormat)
    (reactionKeys : (snapshot.reactions.map reactionKey).Nodup)
    (approvalKeys : (snapshot.approvals.map approvalKey).Nodup) :
    snapshotOf next snapshot.project = snapshot := by
  have free := noCollision_of_rejectCollisions replacement.collisions
  obtain ⟨reviewStates, semanticChanges, rfl, state, _⟩ :=
    replacement.maps
  exact snapshotOf_eq_of formatted rfl
    (filter_named_own referenced.revisionIds referenced.revisions
      fun revision isNew _ found =>
        owner_of_find? (free.revisions revision isNew) found)
    (filter_named_own referenced.threadIds referenced.threads
      fun thread isNew _ found =>
        owner_of_find? (free.threads thread isNew) found)
    (filter_referring_own referenced.commentIds referenced.comments
      free.comments_of_find? free.threads consistent.threads)
    (filter_referring_own reactionKeys referenced.reactions free.reactions
      free.comments consistent.comments)
    (filter_referring_own approvalKeys referenced.approvals free.approvals
      free.revisions consistent.revisions)
    (filter_named_own referenced.reviewThreadIds referenced.reviewThreads
      free.reviewThreads)
    (filter_named_own referenced.aiChangeRequestIds
      referenced.aiChangeRequests free.aiChangeRequests)
    (filter_named_own referenced.developerAnnotationIds
      referenced.developerAnnotations free.developerAnnotations)
    state

/-! ## Exporting afterwards -/

theorem Replacement.project_own :
    next.projects.find? snapshot.project.id = some snapshot.project := by
  obtain ⟨_, _, rfl, _⟩ := replacement.maps
  exact Table.find?_set_self _ _

theorem Replacement.project_other
    (other : projectId ≠ snapshot.project.id) :
    next.projects.find? projectId = repository.projects.find? projectId := by
  obtain ⟨_, _, rfl, _⟩ := replacement.maps
  exact (Table.find?_set _ _ _).trans (if_neg other.symm)

end

section

variable (consistent : Consistent repository)

include consistent

/-- An export from consistent maps is a copy of what they hold. -/
theorem exportProject_of_consistent
    (projectId : JsString) :
    exportProject repository projectId =
      match repository.projects.find? projectId with
      | none => .ok none
      | some project =>
          (clone (snapshotOf repository project).toJs).map fun _ =>
            some (snapshotOf repository project).copy := by
  have bounded {α : Type} {keyOf : α → JsString} {table : Table keyOf}
      {field : String}
      (fits : table.size ≤ collaborationBudgets.maxItems) :
      boundedRows table field = .ok () :=
    check_eq_ok.mpr fits
  unfold exportProject
  cases repository.projects.find? projectId with
  | none => rfl
  | some project =>
      dsimp only
      rw [bounded consistent.revisionsSize, bounded consistent.threadsSize,
        bounded consistent.commentsSize, bounded consistent.reactionsSize,
        bounded consistent.approvalsSize,
        bounded consistent.reviewThreadsSize,
        bounded consistent.aiChangeRequestsSize,
        bounded consistent.developerAnnotationsSize]
      rfl

/-- A successful export is a copy of what the maps hold. -/
theorem exportProject_eq_ok
    {exported : CollaborationSnapshot}
    (isExported :
      exportProject repository projectId = .ok (some exported)) :
    ∃ project, exported = (snapshotOf repository project).copy := by
  rw [exportProject_of_consistent consistent] at isExported
  cases stored : repository.projects.find? projectId with
  | none =>
      rw [stored] at isExported
      cases isExported
  | some project =>
      rw [stored] at isExported
      dsimp only at isExported
      refine ⟨project, ?_⟩
      cases cloned : clone (snapshotOf repository project).toJs with
      | error error =>
          rw [cloned] at isExported
          cases isExported
      | ok _ =>
          rw [cloned] at isExported
          exact (Option.some.inj (Except.ok.inj isExported)).symm

theorem exportProject_congr
    (nextConsistent : Consistent next)
    (sameProject :
      next.projects.find? projectId = repository.projects.find? projectId)
    (sameRecords : ∀ project : Project, project.id = projectId →
      snapshotOf next project = snapshotOf repository project) :
    exportProject next projectId = exportProject repository projectId := by
  rw [exportProject_of_consistent consistent,
    exportProject_of_consistent nextConsistent, sameProject]
  cases stored : repository.projects.find? projectId with
  | none => rfl
  | some project =>
      dsimp only
      rw [sameRecords project (Table.find?_eq_some.mp stored).2]

end

/-- An import does not change what other projects export. -/
theorem Replacement.exportProject_other
    (replacement : Replacement host repository snapshot next)
    (consistent : Consistent repository)
    (referenced : WellReferenced snapshot)
    (other : projectId ≠ snapshot.project.id) :
    exportProject next projectId = exportProject repository projectId :=
  exportProject_congr consistent (consistent.replaced referenced replacement)
    (replacement.project_other other) fun project isProject =>
      replacement.snapshotOf_other referenced project (isProject ▸ other)

end Isolation

/-! ## What an import keeps -/

/-- The records of a snapshot have distinct storage keys, and its revisions
no content that a copy drops. -/
structure StoredApart (snapshot : CollaborationSnapshot) : Prop where
  reactions : (snapshot.reactions.map reactionKey).Nodup
  approvals : (snapshot.approvals.map approvalKey).Nodup
  contents : ∀ revision ∈ snapshot.revisions, Inert revision.content.val

theorem nodup_filter_keys
    {α : Type}
    {keyOf : α → JsString}
    (table : Table keyOf)
    (wanted : α → Bool) :
    ((table.rows.filter wanted).map keyOf).Nodup :=
  table.distinct.sublist (List.filter_sublist.map keyOf)

/-- An imported project is exported as it came exactly if its records are
stored apart from each other. -/
theorem exportProject_imported_iff
    {host : Host}
    {repository next : Repository}
    {given : CollaborationSnapshot}
    {expected : Option JsString}
    (consistent : Consistent repository)
    (replaced : replaceProject host repository given expected = .ok next) :
    exportProject next given.project.id = .ok (some given) ↔
      StoredApart given := by
  obtain ⟨cloned, referenced, replacement⟩ := replaceProject_replaces replaced
  have kept := consistent.replaced referenced replacement
  constructor
  · intro exported
    obtain ⟨project, same⟩ := exportProject_eq_ok kept exported
    have own : given.copy = given := by
      rw [same, CollaborationSnapshot.copy_copy]
    exact
      { reactions := by
          rw [same]
          exact nodup_filter_keys _ _
        approvals := by
          rw [same]
          exact nodup_filter_keys _ _
        contents := CollaborationSnapshot.copy_eq_self_iff.mp own }
  · intro apart
    have own : given.copy = given :=
      CollaborationSnapshot.copy_eq_self_iff.mpr apart.contents
    rw [own] at referenced replacement
    have formatted : given.format = collaborationFormat := by
      obtain ⟨_, valid⟩ := unit_bind_eq_ok.mp replacement.valid
      exact (check_bind_eq_ok.mp valid).1
    rw [exportProject_of_consistent kept, replacement.project_own]
    dsimp only
    rw [replacement.snapshotOf_own consistent referenced formatted
      apart.reactions apart.approvals, cloned, own]
    rfl

/--
An import that rejects changes nothing.  One that succeeds leaves the export of
every other project as it was, and exports the imported project as it came
exactly if the records of the snapshot are stored apart.
-/
theorem replaceProject_exports
    {host : Host}
    {system : System}
    (reachable : ReachableSystem host system)
    (given : CollaborationSnapshot)
    (expected : Option JsString) :
    let ran := execute host system (.replaceProject given expected)
    (∀ error, ran.2 = .rejected error → ran.1 = system) ∧
      (ran.2 = .accepted →
        (exportProject ran.1.repository given.project.id =
            .ok (some given) ↔
          StoredApart given) ∧
        ∀ projectId, projectId ≠ given.project.id →
          exportProject ran.1.repository projectId =
            exportProject system.repository projectId) := by
  have consistent := consistent_of_reachable reachable
  dsimp only
  rw [execute]
  cases replaced :
      replaceProject host system.repository given expected with
  | error error =>
      refine ⟨fun _ _ => rfl, fun accepted => ?_⟩
      cases accepted
  | ok next =>
      obtain ⟨_, referenced, replacement⟩ := replaceProject_replaces replaced
      refine ⟨fun _ rejected => ?_, fun _ => ⟨?_, fun projectId other => ?_⟩⟩
      · cases rejected
      · exact exportProject_imported_iff consistent replaced
      · exact replacement.exportProject_other consistent referenced other

def sampleApproval : Approval where
  id := js "approval-1"
  revisionId := js "revision-1"
  userId := js "reviewer"
  decision := .approved
  note := none
  createdAt := sampleTime

/-- A project with one approved revision. -/
def sampleSnapshot : CollaborationSnapshot where
  format := collaborationFormat
  project := sampleProject
  revisions := [sampleRevision]
  threads := []
  comments := []
  reactions := []
  approvals := [sampleApproval]
  reviewThreads := []
  aiChangeRequests := []
  developerAnnotations := []
  designReviewState := none

/-- Whether a command was accepted. -/
def Outcome.isAccepted : Outcome → Bool
  | .accepted => true
  | _ => false

theorem Outcome.eq_accepted
    {outcome : Outcome}
    (accepted : outcome.isAccepted = true) :
    outcome = .accepted := by
  cases outcome <;> first | rfl | cases accepted

theorem replaceProject_exports_sample :
    exportProject
        (execute codeUnitHost .initial
          (.replaceProject sampleSnapshot none)).1.repository
        sampleProject.id =
      .ok (some sampleSnapshot) := by
  have exports := replaceProject_exports
    (⟨[], rfl⟩ : ReachableSystem codeUnitHost System.initial)
    sampleSnapshot none
  refine (exports.2 (Outcome.eq_accepted (by decide +kernel))).1.mpr ?_
  exact
    { reactions := by decide
      approvals := by decide
      contents := by simp [sampleSnapshot, sampleRevision, Inert, inertCopy] }

/-- One reviewer approves a revision and then asks for changes. -/
def decidedTwice : CollaborationSnapshot :=
  { sampleSnapshot with
    approvals :=
      [sampleApproval,
        { sampleApproval with
          id := js "approval-2"
          decision := .changesRequested }] }

/-- The number of approvals that are exported. -/
def exportedApprovals (repository : Repository) (projectId : JsString) :
    Option Nat :=
  match exportProject repository projectId with
  | .ok (some snapshot) => some snapshot.approvals.length
  | _ => none

/-- An import is accepted that merges two decisions into one. -/
theorem import_merges_approvals :
    (execute codeUnitHost .initial (.replaceProject decidedTwice none)).2 =
        .accepted ∧
      exportProject
          (execute codeUnitHost .initial
            (.replaceProject decidedTwice none)).1.repository
          sampleProject.id ≠
        .ok (some decidedTwice) := by
  refine ⟨Outcome.eq_accepted (by decide +kernel), fun exported => ?_⟩
  have merged :
      exportedApprovals
          (execute codeUnitHost .initial
            (.replaceProject decidedTwice none)).1.repository
          sampleProject.id =
        some 1 := by
    decide +kernel
  rw [exportedApprovals, exported] at merged
  exact absurd merged (by decide)

end Selene.Collaboration
