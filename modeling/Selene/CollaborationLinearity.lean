import Selene.CollaborationAtomicity

/-!
# Linear histories

The calls that append a revision ask for the latest one, wait, and compare what
they asked for then with the parent that they name.  Calls may overlap: as long
as a call that would store its revision still finds the latest one that it asked
for, the revisions of a project are numbered from one and each has at most one
successor (`revisions_linear`).  Otherwise two appends that overlap are both
stored (`racing_appends_stored`).
-/

namespace Selene.Collaboration

open Js

/-! ## The revisions of a project -/

/-- The revisions of a project, in the order in which they were stored. -/
def revisionsOf (repository : Repository) (projectId : JsString) :
    List Revision :=
  repository.revisions.rows.filter fun revision =>
    decide (revision.projectId = projectId)

/-- The parents that a revision of a project can have had, the latest last. -/
def parentsOf (repository : Repository) (projectId : JsString) :
    List (Option JsString) :=
  none :: (revisionsOf repository projectId).map fun revision =>
    some revision.id

/-- The sequence numbers of every project count from one. -/
def Linear (repository : Repository) : Prop :=
  ∀ projectId, (revisionsOf repository projectId).map
    (fun revision => revision.sequence.val) =
      List.range' 1 (revisionsOf repository projectId).length

variable {host : Host} {repository next : Repository}
  {projectId : JsString}

theorem head?_insertionSort_append
    {revisions : List Revision}
    {last : Revision}
    (above : ∀ revision ∈ revisions,
      revision.sequence.val < last.sequence.val) :
    ((revisions ++ [last]).insertionSort (isLaterRevision host)).head? =
      some last := by
  induction revisions with
  | nil => rfl
  | cons revision rest inductionHypothesis =>
      rw [List.forall_mem_cons] at above
      have sorted := inductionHypothesis above.2
      rw [List.cons_append, List.insertionSort_cons]
      cases isSorted : (rest ++ [last]).insertionSort (isLaterRevision host) with
      | nil => simp [isSorted] at sorted
      | cons first others =>
          rw [isSorted] at sorted
          obtain rfl := Option.some.inj sorted
          have later : ¬ isLaterRevision host revision first := by
            rintro (higher | ⟨same, _⟩)
            · exact Nat.lt_asymm higher above.1
            · exact Nat.ne_of_lt above.1 (congrArg Subtype.val same)
          rw [List.orderedInsert_cons, if_neg later]
          rfl

/-- With linear numbers the latest revision is the one stored last. -/
theorem latestRevision_eq_getLast?
    (linear : Linear repository) :
    latestRevision host repository projectId =
      (revisionsOf repository projectId).getLast? := by
  have numbers := linear projectId
  rw [latestRevision]
  change ((revisionsOf repository projectId).insertionSort _).head? = _
  rcases List.eq_nil_or_concat' (revisionsOf repository projectId) with
    isEmpty | ⟨front, last, isFront⟩
  · rw [isEmpty]
    rfl
  · rw [isFront] at numbers ⊢
    rw [List.getLast?_concat]
    refine head?_insertionSort_append fun revision member => ?_
    rw [List.map_append, List.length_append, List.length_singleton,
      List.range'_concat] at numbers
    obtain ⟨fronts, lasts⟩ := List.append_inj numbers (by simp)
    have number : revision.sequence.val ∈ List.range' 1 front.length :=
      fronts ▸ List.mem_map_of_mem member
    have isLast : last.sequence.val = 1 + 1 * front.length := by
      simpa using lasts
    have bounds := List.mem_range'_1.mp number
    omega

theorem getLast?_parentsOf
    (linear : Linear repository) :
    (parentsOf repository projectId).getLast? =
      some ((latestRevision host repository projectId).map Revision.id) := by
  rw [latestRevision_eq_getLast? linear, parentsOf]
  rcases List.eq_nil_or_concat' (revisionsOf repository projectId) with
    isEmpty | ⟨front, last, isFront⟩
  · rw [isEmpty]
    rfl
  · rw [isFront, List.map_append, List.map_singleton, ← List.cons_append,
      List.getLast?_concat, List.getLast?_concat]
    rfl

theorem nodup_parentsOf :
    (parentsOf repository projectId).Nodup := by
  have distinct : ((revisionsOf repository projectId).map Revision.id).Nodup :=
    repository.revisions.distinct.sublist (List.filter_sublist.map _)
  rw [parentsOf, List.nodup_cons]
  refine ⟨by simp, ?_⟩
  have injective : Function.Injective (some : JsString → Option JsString) :=
    Option.some_injective _
  simpa [List.map_map, Function.comp_def] using distinct.map injective

/-! ## One more revision -/

/-- A revision of a project that follows the latest one. -/
structure Follows (repository : Repository) (revision : Revision)
    (parent : Option JsString) : Prop where
  fresh : repository.revisions.has revision.id = false
  isParent : (parentsOf repository revision.projectId).getLast? = some parent
  number : revision.sequence.val =
    (revisionsOf repository revision.projectId).length + 1

/-- The repository with one more revision. -/
def storeRevision (repository : Repository) (revision : Revision) :
    Repository :=
  { repository with revisions := repository.revisions.set revision }

variable {revision : Revision} {parent : Option JsString}

theorem revisionsOf_storeRevision
    (fresh : repository.revisions.has revision.id = false) :
    revisionsOf (storeRevision repository revision) projectId =
      revisionsOf repository projectId ++
        if revision.projectId = projectId then [revision] else [] := by
  rw [revisionsOf, storeRevision, Table.rows_set_of_fresh fresh,
    List.filter_append]
  congr 1
  by_cases own : revision.projectId = projectId
  · simp [own]
  · simp [own]

theorem Follows.linear
    (follows : Follows repository revision parent)
    (linear : Linear repository) :
    Linear (storeRevision repository revision) := by
  intro projectId
  rw [revisionsOf_storeRevision follows.fresh]
  split
  · rename_i own
    subst own
    rw [List.map_append, linear, List.length_append, List.length_singleton,
      List.range'_concat, List.map_singleton, follows.number, Nat.add_comm 1,
      Nat.one_mul]
  · rw [List.append_nil]
    exact linear projectId

/-- A possible parent after which another revision was stored. -/
def HasSuccessor (repository : Repository) (projectId : JsString)
    (parent : Option JsString) : Prop :=
  parent ∈ (parentsOf repository projectId).dropLast

theorem not_hasSuccessor_of_getLast?
    (isLast : (parentsOf repository projectId).getLast? = some parent) :
    ¬ HasSuccessor repository projectId parent := by
  intro succeeded
  have distinct := @nodup_parentsOf repository projectId
  obtain ⟨front, isFront⟩ := List.getLast?_eq_some_iff.mp isLast
  rw [HasSuccessor, isFront, List.dropLast_concat] at succeeded
  rw [isFront] at distinct
  exact (List.nodup_append.mp distinct).2.2 parent succeeded parent
    (List.mem_singleton_self parent) rfl

theorem Follows.hasSuccessor
    (follows : Follows repository revision parent) :
    HasSuccessor (storeRevision repository revision) revision.projectId parent ∧
      ∀ projectId other, HasSuccessor repository projectId other →
        HasSuccessor (storeRevision repository revision) projectId other := by
  have grown : ∀ projectId,
      parentsOf (storeRevision repository revision) projectId =
        parentsOf repository projectId ++
          if revision.projectId = projectId then [some revision.id] else [] := by
    intro projectId
    rw [parentsOf, revisionsOf_storeRevision follows.fresh, parentsOf]
    split <;> simp
  refine ⟨?_, fun projectId other succeeded => ?_⟩
  · rw [HasSuccessor, grown, if_pos rfl, List.dropLast_concat]
    exact List.mem_of_getLast? follows.isParent
  · rw [HasSuccessor, grown]
    split
    · rw [List.dropLast_concat]
      exact List.dropLast_subset _ succeeded
    · rw [List.append_nil]
      exact succeeded

/-! ## Calls that wait -/

namespace Waiting

/-- The project of a call and the parent that it names for its revision. -/
def named : Waiting → Option (JsString × Option JsString)
  | .commit waiting => waiting.input.command.revision.map fun _ =>
      (waiting.input.context.projectId,
        waiting.input.command.expectedParentRevisionId)
  | .append waiting =>
      some (waiting.revision.projectId, waiting.expectedParentRevisionId)

/-- A commit waits with an owned copy of its input. -/
def Started : Waiting → Prop
  | .commit waiting => ∃ given : CommitDesignRevisionInput,
      collaborationBudgets.Admits given.toJs ∧
        waiting.input = { given with command := given.command.copy } ∧
        ∀ revision ∈ waiting.input.command.revision,
          revision.projectId = waiting.input.context.projectId
  | .append _ => True

/-- A call that goes on would store its revision. -/
def WouldStore (repository : Repository) : Waiting → Prop
  | .commit waiting => waiting.input.command.revision.isSome ∧
      checkCommit repository waiting.input = .ok () ∧
        AdmitsRevision repository waiting
  | .append waiting =>
      waiting.current.map Revision.id = waiting.expectedParentRevisionId ∧
        waiting.revision.sequence =
          ((waiting.current.map Revision.sequence).getD Count.zero).next ∧
        HasRoom repository.revisions waiting.revision

/--
The latest revision is the one that the call asked for, and its id is unused.
Once a commit has stored its revision the rest can be stored, too.
-/
def Current (host : Host) (repository : Repository) : Waiting → Prop
  | .commit waiting =>
      waiting.before =
          latestRevision host repository waiting.input.context.projectId ∧
        AdmitsBaseline repository waiting.input.command ∧
          AdmitsResponse repository waiting.input.context
  | .append waiting =>
      waiting.current =
          latestRevision host repository waiting.revision.projectId ∧
        repository.revisions.has waiting.revision.id = false

end Waiting

/-- A command of a run in which no call stores a revision after another one. -/
def Undisturbed (host : Host) (system : System) : Command → Prop
  | .resume ticket => ∀ waiting, system.waiting[ticket]? = some waiting →
      waiting.WouldStore system.repository →
        waiting.Current host system.repository
  | command => command.KeepsProjects

/-- The project and the parent of a call, at the step that answers it. -/
def answered (entry : Taken System Command Outcome) :
    Option (JsString × Option JsString) :=
  match entry.call, entry.answer with
  | _, .waits => none
  | .appendRevision revision expected, _ => some (revision.projectId, expected)
  | .commitDesignRevision input, _ => input.command.revision.map fun _ =>
      (input.context.projectId, input.command.expectedParentRevisionId)
  | .resume ticket, _ => entry.before.waiting[ticket]?.bind Waiting.named
  | _, _ => none

/-- A call resolves, and not with a response that was stored before. -/
def Succeeds : Outcome → Prop
  | .accepted => True
  | .committed (.committed _) => True
  | _ => False

/--
A call is refused for its own data: before it waits, or by what a commit checks
before it looks at its revision.
-/
def FailsAlone (host : Host) (entry : Taken System Command Outcome)
    (error : CollaborationError) : Prop :=
  match entry.call with
  | .appendRevision revision expected =>
      beginAppendRevision host entry.before.repository revision expected =
        .error error
  | .commitDesignRevision input =>
      beginCommitDesignRevision host entry.before.repository input =
        .error error
  | .resume ticket => ∃ waiting,
      entry.before.waiting[ticket]? = some (.commit waiting) ∧
        checkCommit entry.before.repository waiting.input = .error error
  | _ => False

/--
A call rejects and stores no revision: as a conflict or a duplicate, unless it
is refused for its own data.
-/
def Refused (host : Host) (entry : Taken System Command Outcome) : Prop :=
  ∃ error, entry.answer = .rejected error ∧
    (error.code = .conflict ∨ error.code = .duplicate ∨
      FailsAlone host entry error) ∧
    entry.after.repository.revisions = entry.before.repository.revisions

/-- A commit is answered with the response that is stored under its key. -/
def Replayed (entry : Taken System Command Outcome) : Prop :=
  ∃ input idempotencyKey stored,
    entry.call = .commitDesignRevision input ∧
      input.context.idempotencyKey = some idempotencyKey ∧
      entry.before.repository.idempotency.find?
        (responseKey input.context idempotencyKey) = some stored ∧
      entry.answer = .committed (.replayed stored.response) ∧
      entry.after = entry.before

/-! ## One step -/

theorem follows_of_checks
    (linear : Linear repository)
    (fresh : repository.revisions.has revision.id = false)
    (room : HasRoom repository.revisions revision)
    (parented : (latestRevision host repository revision.projectId).map
      Revision.id = parent)
    (numbered : revision.sequence =
      (((latestRevision host repository revision.projectId).map
        Revision.sequence).getD Count.zero).next) :
    Follows repository revision parent := by
  refine ⟨fresh, ?_, ?_⟩
  · rw [@getLast?_parentsOf host _ _ linear, parented]
  · have few : (revisionsOf repository revision.projectId).length <
        collaborationBudgets.maxItems :=
      Nat.lt_of_le_of_lt (List.length_filter_le _ _)
        (room.resolve_left (by rw [fresh]; simp))
    have numbers := linear revision.projectId
    rw [numbered, latestRevision_eq_getLast? linear]
    generalize revisionsOf repository revision.projectId = revisions at *
    rcases List.eq_nil_or_concat' revisions with rfl | ⟨front, last, rfl⟩
    · rfl
    · rw [List.map_append, List.length_append, List.length_singleton,
        List.range'_concat] at numbers
      have isLast : last.sequence.val = 1 + 1 * front.length := by
        simpa using (List.append_inj numbers (by simp)).2
      have small : last.sequence.val < 2 ^ 53 := by
        rw [List.length_append, List.length_singleton] at few
        have limit : collaborationBudgets.maxItems = 10000 := rfl
        omega
      rw [List.getLast?_concat, Option.map_some, Option.getD_some, Count.next,
        dif_pos small, List.length_append, List.length_singleton]
      show last.sequence.val + 1 = _
      omega

theorem error_of_check_bind
    {ε α : Type}
    {condition : Prop}
    {decision : Decidable condition}
    {code error : ε}
    {next : Unit → Except ε α}
    (failed : (check condition code >>= next) = .error error) :
    error = code ∨ next () = .error error := by
  unfold check at failed
  split at failed
  · exact .inr failed
  · cases failed
    exact .inl rfl

theorem resumeAppendRevision_cases
    {waiting : WaitingAppend}
    (linear : Linear repository)
    (current : (Waiting.append waiting).WouldStore repository →
      (Waiting.append waiting).Current host repository) :
    (∃ error, resumeAppendRevision repository waiting = .error error ∧
        error.code = .conflict) ∨
      Follows repository waiting.revision waiting.expectedParentRevisionId ∧
        resumeAppendRevision repository waiting =
          .ok (storeRevision repository waiting.revision) := by
  cases resumed : resumeAppendRevision repository waiting with
  | error error =>
      refine .inl ⟨error, rfl, ?_⟩
      unfold resumeAppendRevision requireCapacity at resumed
      rcases error_of_check_bind resumed with rfl | resumed
      · rfl
      rcases error_of_check_bind resumed with rfl | resumed
      · rfl
      rcases error_of_check_bind resumed with rfl | resumed
      · rfl
      · cases resumed
  | ok next =>
      unfold resumeAppendRevision at resumed
      obtain ⟨parented, rest⟩ := check_bind_eq_ok.mp resumed
      obtain ⟨numbered, rest⟩ := check_bind_eq_ok.mp rest
      obtain ⟨room, stored⟩ := unit_bind_eq_ok.mp rest
      cases stored
      obtain ⟨isLatest, fresh⟩ := current
        ⟨parented, numbered, requireCapacity_eq_ok.mp room⟩
      rw [isLatest] at parented numbered
      exact .inr ⟨follows_of_checks linear fresh (requireCapacity_eq_ok.mp room)
        parented numbered, rfl⟩

/-- A commit with a revision stores it behind its parent, or is refused. -/
theorem resumeCommitDesignRevision_current
    {waiting : WaitingCommit}
    (linear : Linear repository)
    (started : (Waiting.commit waiting).Started)
    (current : (Waiting.commit waiting).WouldStore repository →
      (Waiting.commit waiting).Current host repository)
    (isRevision : waiting.input.command.revision = some revision) :
    (∃ error, resumeCommitDesignRevision repository waiting =
        (repository, .error error) ∧
        (error.code = .conflict ∨ error.code = .duplicate ∨
          checkCommit repository waiting.input = .error error)) ∨
      Follows repository revision
          waiting.input.command.expectedParentRevisionId ∧
        revision.projectId = waiting.input.context.projectId ∧
        ∃ next result,
          resumeCommitDesignRevision repository waiting =
            (next, .ok (.committed result)) ∧
          next.revisions = repository.revisions.set revision := by
  obtain ⟨given, owned, isInput, belongs⟩ := started
  have own := belongs revision isRevision
  rw [resumeCommitDesignRevision]
  cases checked : checkCommit repository waiting.input with
  | error error => exact .inl ⟨error, rfl, .inr (.inr rfl)⟩
  | ok passed =>
  dsimp only [continueFrom]
  cases isAppended : appendCommitted repository waiting with
  | error error =>
      refine .inl ⟨error, rfl, ?_⟩
      rw [appendCommitted, isRevision] at isAppended
      dsimp only [requireCapacity] at isAppended
      rcases error_of_check_bind isAppended with rfl | isAppended
      · exact .inr (.inl rfl)
      rcases error_of_check_bind isAppended with rfl | isAppended
      · exact .inl rfl
      rcases error_of_check_bind isAppended with rfl | isAppended
      · exact .inl rfl
      rcases error_of_check_bind isAppended with rfl | isAppended
      · exact .inl rfl
      · cases isAppended
  | ok appended =>
  right
  have admits := appendCommitted_isOk_iff.mp ⟨appended, isAppended⟩
  obtain ⟨fresh, parented, numbered, room⟩ := admits revision isRevision
  obtain ⟨isLatest, baseline, response⟩ :=
    current ⟨by rw [isRevision]; rfl, checked, admits⟩
  rw [isLatest, ← own] at parented numbered
  refine ⟨follows_of_checks linear fresh room parented numbered, own, ?_⟩
  obtain ⟨marked, isMarked⟩ := (markCommitted_isOk_iff isAppended
    fun readiness _ => ⟨revision, by rw [isRevision]; rfl, own⟩).mpr baseline
  obtain ⟨stored, isStored⟩ := exists_storeResponse owned isInput
    (idempotency_recordCommitted isAppended isMarked) response
  simp only [isMarked, isStored, Prod.mk.injEq, Except.ok.injEq]
  refine ⟨stored, _, ⟨rfl, rfl⟩, ?_⟩
  have kept : stored.revisions =
      (recordCommitted repository marked waiting).revisions := by
    rcases storeResponse_cases isStored with rfl | ⟨_, _, rfl⟩ <;> rfl
  rw [kept, (revisions_recordCommitted repository marked).1,
    (revisions_of_markCommitted isMarked).1]
  rcases appendCommitted_eq_ok.mp isAppended with
    ⟨isNone, _⟩ | ⟨other, isOther, _, _, _, _, rfl⟩
  · rw [isRevision] at isNone
    cases isNone
  · cases Option.some.inj (isRevision.symm.trans isOther)
    rfl

/-- Calls on a project go on with owned inputs, and its numbers are linear. -/
structure Orderly (system : System) : Prop where
  linear : Linear system.repository
  started : ∀ waiting ∈ system.waiting, waiting.Started

/-- What a step of an undisturbed run does to the revisions. -/
structure Advances (host : Host) (entry : Taken System Command Outcome) :
    Prop where
  orderly : Orderly entry.after
  keeps : ∀ projectId parent,
    HasSuccessor entry.before.repository projectId parent →
      HasSuccessor entry.after.repository projectId parent
  answers : ∀ projectId parent, answered entry = some (projectId, parent) →
    Refused host entry ∨ Replayed entry ∨
      Succeeds entry.answer ∧
        ¬ HasSuccessor entry.before.repository projectId parent ∧
        HasSuccessor entry.after.repository projectId parent

theorem revisionsOf_congr
    (same : next.revisions = repository.revisions) :
    revisionsOf next = revisionsOf repository := by
  funext projectId
  rw [revisionsOf, revisionsOf, same]

theorem Linear.congr
    (linear : Linear repository)
    (same : next.revisions = repository.revisions) :
    Linear next := by
  rw [Linear, revisionsOf_congr same]
  exact linear

theorem HasSuccessor.congr
    (same : next.revisions = repository.revisions) :
    HasSuccessor next = HasSuccessor repository := by
  funext projectId parent
  rw [HasSuccessor, HasSuccessor, parentsOf, parentsOf, revisionsOf_congr same]

variable {system : System} {command : Command}
  {entry : Taken System Command Outcome}

theorem advances_of_same
    (orderly : Orderly entry.before)
    (same : entry.after.repository.revisions =
      entry.before.repository.revisions)
    (started : ∀ waiting ∈ entry.after.waiting, waiting.Started)
    (refuses : (answered entry).isSome → Refused host entry ∨ Replayed entry) :
    Advances host entry where
  orderly := ⟨orderly.linear.congr same, started⟩
  keeps projectId parent succeeded := by
    rw [HasSuccessor.congr same]
    exact succeeded
  answers projectId parent isAnswer :=
    (refuses (by rw [isAnswer]; rfl)).imp_right .inl

theorem advances_of_follows
    (orderly : Orderly entry.before)
    (follows : Follows entry.before.repository revision parent)
    (stored : entry.after.repository.revisions =
      entry.before.repository.revisions.set revision)
    (started : ∀ waiting ∈ entry.after.waiting, waiting.Started)
    (succeeds : Succeeds entry.answer)
    (isAnswer : answered entry = some (revision.projectId, parent)) :
    Advances host entry := by
  have same : entry.after.repository.revisions =
      (storeRevision entry.before.repository revision).revisions := stored
  obtain ⟨hasSuccessor, keeps⟩ := follows.hasSuccessor
  refine ⟨⟨(follows.linear orderly.linear).congr same, started⟩, ?_, ?_⟩
  · rw [HasSuccessor.congr same]
    exact keeps
  · intro projectId other isOther
    rw [isAnswer] at isOther
    cases isOther
    rw [HasSuccessor.congr same]
    exact .inr (.inr ⟨succeeds, not_hasSuccessor_of_getLast? follows.isParent,
      hasSuccessor⟩)

theorem execute_keeps_revisions
    (host : Host)
    (system : System)
    (keeps : command.KeepsProjects)
    (noAppend : ∀ revision expected,
      command ≠ .appendRevision revision expected)
    (noCommit : ∀ input, command ≠ .commitDesignRevision input)
    (noResume : ∀ ticket, command ≠ .resume ticket) :
    (execute host system command).1.repository.revisions =
        system.repository.revisions ∧
      (execute host system command).1.waiting = system.waiting := by
  have ofStore : ∀ {result : Checked Repository},
      (∀ next, result = .ok next →
        next.revisions = system.repository.revisions) →
      (system.store result).1.repository.revisions =
          system.repository.revisions ∧
        (system.store result).1.waiting = system.waiting := by
    intro result keeps
    refine ⟨?_, System.waiting_store system result⟩
    cases result with
    | error error => rfl
    | ok next => exact keeps next rfl
  cases command with
  | appendRevision revision expected => exact absurd rfl (noAppend _ _)
  | commitDesignRevision input => exact absurd rfl (noCommit input)
  | resume ticket => exact absurd rfl (noResume ticket)
  | replaceProject snapshot expected => exact keeps.elim
  | deleteProject projectId => exact keeps.elim
  | review call =>
      rcases System.review_cases host system call with
        ⟨same, _⟩ | ⟨thread, receipts, same, _⟩
      · rw [execute, same]
        exact ⟨rfl, rfl⟩
      · rw [execute, same]
        exact ⟨rfl, rfl⟩
  | updateAIChangeRequest request =>
      refine ofStore fun next updated => ?_
      unfold updateAIChangeRequest at updated
      obtain ⟨_, rest⟩ := unit_bind_eq_ok.mp updated
      split at rest
      · cases rest
      · grind [bind_eq_ok]
  | _ =>
      refine ofStore fun next done => ?_
      grind [bind_eq_ok, createProject, createReviewThread,
        createAIChangeRequest, createDeveloperAnnotation, createThread,
        updateThreadResolution, createComment, addReaction, putApproval,
        createShareLink, revokeShareLink, putIdempotency]

theorem revisions_resumeCommitDesignRevision
    {waiting : WaitingCommit}
    (noRevision : waiting.input.command.revision = none) :
    (resumeCommitDesignRevision repository waiting).1.revisions =
      repository.revisions := by
  have appends : ∀ {appended},
      appendCommitted repository waiting = .ok appended →
        appended = repository := by
    intro appended isAppended
    rw [appendCommitted, noRevision] at isAppended
    exact (Except.ok.inj isAppended).symm
  have committed := resumeCommitDesignRevision_cases repository waiting
  generalize (resumeCommitDesignRevision repository waiting).1 = after
    at committed ⊢
  cases committed with
  | refused => rfl
  | appended _ _ isAppended => rw [appends isAppended]
  | recorded appended marked _ isAppended isMarked =>
      rw [(revisions_recordCommitted _ _).1,
        (revisions_of_markCommitted isMarked).1, appends isAppended]
  | stored appended marked stored _ isAppended isMarked isStored =>
      have kept : after.revisions =
          (recordCommitted repository marked waiting).revisions := by
        rcases storeResponse_cases isStored with rfl | ⟨_, _, rfl⟩ <;> rfl
      rw [kept, (revisions_recordCommitted _ _).1,
        (revisions_of_markCommitted isMarked).1, appends isAppended]

theorem advances_append
    {expected : Option JsString}
    (orderly : Orderly system) :
    Advances host (take (execute host) system
      (.appendRevision revision expected)) := by
  have same := System.repository_append host system revision expected
  refine advances_of_same orderly (congrArg Repository.revisions same) ?_ ?_
  · rw [take, execute, System.append]
    split
    · exact orderly.started
    · intro waiting member
      rcases List.mem_append.mp member with old | new
      · exact orderly.started waiting old
      · cases List.mem_singleton.mp new
        trivial
  · intro isAnswer
    cases begun : beginAppendRevision host system.repository revision
        expected with
    | error error =>
        refine .inl ⟨error, ?_, .inr (.inr begun),
          congrArg Repository.revisions same⟩
        rw [take, execute, System.append, begun]
    | ok waiting =>
        simp [answered, take, execute, System.append, begun] at isAnswer

/-- A commit that is answered at once is answered from a stored response. -/
theorem replayed_of_beginCommitDesignRevision
    {input : CommitDesignRevisionInput}
    {outcome : CommitOutcome}
    (begun : beginCommitDesignRevision host repository input =
      .ok (.inl outcome)) :
    ∃ idempotencyKey stored,
      input.context.idempotencyKey = some idempotencyKey ∧
        repository.idempotency.find?
          (responseKey input.context idempotencyKey) = some stored ∧
        outcome = .replayed stored.response := by
  unfold beginCommitDesignRevision at begun
  obtain ⟨_, keyed⟩ := unit_bind_eq_ok.mp begun
  obtain ⟨_, replayed⟩ := unit_bind_eq_ok.mp keyed
  split at replayed
  · rename_i stored found
    obtain ⟨_, same⟩ := unit_bind_eq_ok.mp replayed
    obtain ⟨idempotencyKey, isKey, isStored⟩ :=
      Option.bind_eq_some_iff.mp found
    cases same
    exact ⟨idempotencyKey, stored, isKey, isStored, rfl⟩
  · obtain ⟨_, known⟩ := check_bind_eq_ok.mp replayed
    obtain ⟨_, owned⟩ := unit_bind_eq_ok.mp known
    obtain ⟨_, ready⟩ := unit_bind_eq_ok.mp owned
    obtain ⟨_, _, same⟩ := bind_eq_ok.mp ready
    cases same

theorem advances_commit
    {input : CommitDesignRevisionInput}
    (orderly : Orderly system) :
    Advances host (take (execute host) system
      (.commitDesignRevision input)) := by
  have same := System.repository_commit host system input
  refine advances_of_same orderly (congrArg Repository.revisions same) ?_ ?_
  · rw [take, execute, System.commit]
    split
    · exact orderly.started
    · exact orderly.started
    · rename_i waiting begun
      intro other member
      rcases List.mem_append.mp member with old | new
      · exact orderly.started other old
      · cases List.mem_singleton.mp new
        have facts := begun_of_beginCommitDesignRevision begun
        refine ⟨input, facts.owned, facts.isInput, fun revision isRevision => ?_⟩
        rw [facts.belongs revision isRevision, facts.isInput]
  · intro isAnswer
    cases begun : beginCommitDesignRevision host system.repository input with
    | error error =>
        refine .inl ⟨error, ?_, .inr (.inr begun),
          congrArg Repository.revisions same⟩
        rw [take, execute, System.commit, begun]
    | ok result =>
        cases result with
        | inl outcome =>
            obtain ⟨idempotencyKey, stored, isKey, isStored, rfl⟩ :=
              replayed_of_beginCommitDesignRevision begun
            refine .inr ⟨input, idempotencyKey, stored, rfl, isKey, isStored,
              ?_, ?_⟩ <;>
              rw [take, execute, System.commit, begun]
        | inr waiting =>
            simp [answered, take, execute, System.commit, begun] at isAnswer

theorem answered_resume
    {system after : System}
    {ticket : Nat}
    {waiting : Waiting}
    {answer : Outcome}
    (found : system.waiting[ticket]? = some waiting)
    (ended : answer ≠ .waits) :
    answered ⟨system, .resume ticket, answer, after⟩ = waiting.named := by
  cases answer with
  | waits => exact absurd rfl ended
  | _ => simp only [answered, found, Option.bind_some]

theorem execute_resume_commit
    (host : Host)
    {ticket : Nat}
    {waiting : WaitingCommit}
    (found : system.waiting[ticket]? = some (.commit waiting)) :
    ∃ answer,
      answer ≠ .waits ∧
      (∀ error, (resumeCommitDesignRevision system.repository waiting).2 =
        .error error → answer = .rejected error) ∧
      (∀ outcome, (resumeCommitDesignRevision system.repository waiting).2 =
        .ok outcome → answer = .committed outcome) ∧
      execute host system (.resume ticket) =
        (⟨(resumeCommitDesignRevision system.repository waiting).1,
          system.waiting.eraseIdx ticket⟩, answer) := by
  rw [execute, System.resume, found]
  dsimp only
  generalize resumeCommitDesignRevision system.repository waiting = ended
  obtain ⟨repository, result⟩ := ended
  cases result with
  | error error => exact ⟨_, by simp, by simp, by simp, rfl⟩
  | ok outcome => exact ⟨_, by simp, by simp, by simp, rfl⟩

/-- A call that goes on stores its revision behind its parent, or is refused. -/
theorem advances_resume
    {ticket : Nat}
    (orderly : Orderly system)
    (undisturbed : Undisturbed host system (.resume ticket)) :
    Advances host (take (execute host) system (.resume ticket)) := by
  have rest : ∀ waiting ∈ system.waiting.eraseIdx ticket, waiting.Started :=
    fun waiting member =>
      orderly.started waiting (List.mem_of_mem_eraseIdx member)
  cases found : system.waiting[ticket]? with
  | none =>
      have idle : execute host system (.resume ticket) =
          (system, .accepted) := by
        rw [execute, System.resume, found]
      rw [take, idle]
      exact advances_of_same orderly rfl orderly.started
        (by simp [answered, found])
  | some waiting =>
  have current := undisturbed waiting found
  cases waiting with
  | append waiting =>
      have ended : execute host system (.resume ticket) =
          ({ system with
            waiting := system.waiting.eraseIdx ticket } : System).store
              (resumeAppendRevision system.repository waiting) := by
        rw [execute, System.resume, found]
      rcases resumeAppendRevision_cases orderly.linear current with
        ⟨error, failed, isConflict⟩ | ⟨follows, stored⟩
      · rw [take, ended, failed]
        exact advances_of_same orderly rfl rest fun _ =>
          .inl ⟨error, rfl, .inl isConflict, rfl⟩
      · rw [take, ended, stored]
        exact advances_of_follows orderly follows rfl rest trivial
          (answered_resume found (by simp [System.store]))
  | commit waiting =>
      obtain ⟨answer, isOver, rejected, committed, ended⟩ :=
        execute_resume_commit host found
      cases isRevision : waiting.input.command.revision with
      | none =>
          rw [take, ended]
          refine advances_of_same orderly
            (revisions_resumeCommitDesignRevision isRevision) rest
            fun isAnswer => ?_
          rw [answered_resume found isOver, Waiting.named,
            isRevision] at isAnswer
          cases isAnswer
      | some revision =>
          have named : (Waiting.commit waiting).named =
              some (waiting.input.context.projectId,
                waiting.input.command.expectedParentRevisionId) := by
            rw [Waiting.named, isRevision]
            rfl
          rcases resumeCommitDesignRevision_current orderly.linear
              (orderly.started _ (List.mem_of_getElem? found)) current
              isRevision with
            ⟨error, refused, code⟩ | ⟨follows, own, next, result, done, stored⟩
          · rw [take, ended, rejected error (by rw [refused]), refused]
            exact advances_of_same orderly rfl rest fun _ =>
              .inl ⟨error, rfl, code.imp_right (Or.imp_right fun failed =>
                ⟨waiting, found, failed⟩), rfl⟩
          · rw [take, ended, committed (.committed result) (by rw [done]), done]
            exact advances_of_follows orderly follows stored rest trivial
              ((answered_resume found (by simp)).trans (own ▸ named))

theorem advances_other
    (orderly : Orderly system)
    (keeps : command.KeepsProjects)
    (noAppend : ∀ revision expected,
      command ≠ .appendRevision revision expected)
    (noCommit : ∀ input, command ≠ .commitDesignRevision input)
    (noResume : ∀ ticket, command ≠ .resume ticket) :
    Advances host (take (execute host) system command) := by
  obtain ⟨same, waiting⟩ :=
    execute_keeps_revisions host system keeps noAppend noCommit noResume
  refine advances_of_same orderly same ?_ fun isAnswer => ?_
  · rw [take, waiting]
    exact orderly.started
  · simp only [answered, take] at isAnswer
    split at isAnswer <;> simp_all

/-- What each step of an undisturbed run does. -/
theorem advances_of_undisturbed
    (orderly : Orderly system)
    (undisturbed : Undisturbed host system command) :
    Advances host (take (execute host) system command) := by
  cases command with
  | appendRevision revision expected => exact advances_append orderly
  | commitDesignRevision input => exact advances_commit orderly
  | resume ticket => exact advances_resume orderly undisturbed
  | replaceProject snapshot expected => exact undisturbed.elim
  | deleteProject projectId => exact undisturbed.elim
  | _ =>
      exact advances_other orderly undisturbed (by simp) (by simp) (by simp)

/-! ## Runs -/

/-- What an undisturbed run has made so far. -/
structure Progress (host : Host) (log : List (Taken System Command Outcome))
    (system : System) : Prop where
  orderly : Orderly system
  answers : ∀ entry ∈ log, ∀ projectId parent,
    answered entry = some (projectId, parent) →
      Refused host entry ∨ Replayed entry ∨
        Succeeds entry.answer ∧
          HasSuccessor system.repository projectId parent
  once : log.Pairwise fun first second => ∀ projectId parent,
    answered first = some (projectId, parent) →
      answered second = some (projectId, parent) →
        Succeeds first.answer → Refused host second ∨ Replayed second

theorem not_succeeds_of_refused
    (refused : Refused host entry) :
    ¬ Succeeds entry.answer := by
  obtain ⟨error, isAnswer, _⟩ := refused
  rw [isAnswer]
  exact id

theorem not_succeeds_of_replayed
    (replayed : Replayed entry) :
    ¬ Succeeds entry.answer := by
  obtain ⟨_, _, _, _, _, _, isAnswer, _⟩ := replayed
  rw [isAnswer]
  exact id

theorem Progress.step
    {log : List (Taken System Command Outcome)}
    (progress : Progress host log system)
    (undisturbed : Undisturbed host system command) :
    Progress host (log ++ [take (execute host) system command])
      (execute host system command).1 := by
  have advances := advances_of_undisturbed progress.orderly undisturbed
  refine ⟨advances.orderly, ?_, ?_⟩
  · intro entry member projectId parent isAnswer
    rcases List.mem_append.mp member with old | new
    · rcases progress.answers entry old projectId parent isAnswer with
        refused | replayed | ⟨succeeds, hasSuccessor⟩
      · exact .inl refused
      · exact .inr (.inl replayed)
      · exact .inr (.inr ⟨succeeds, advances.keeps _ _ hasSuccessor⟩)
    · cases List.mem_singleton.mp new
      rcases advances.answers projectId parent isAnswer with
        refused | replayed | ⟨succeeds, _, hasSuccessor⟩
      · exact .inl refused
      · exact .inr (.inl replayed)
      · exact .inr (.inr ⟨succeeds, hasSuccessor⟩)
  · refine List.pairwise_append.mpr
      ⟨progress.once, List.pairwise_singleton _ _, ?_⟩
    intro first old second new projectId parent isFirst isSecond succeeds
    cases List.mem_singleton.mp new
    rcases progress.answers first old projectId parent isFirst with
      refused | replayed | ⟨_, hasSuccessor⟩
    · exact absurd succeeds (not_succeeds_of_refused refused)
    · exact absurd succeeds (not_succeeds_of_replayed replayed)
    · rcases advances.answers projectId parent isSecond with
        refused | replayed | ⟨_, without, _⟩
      · exact .inl refused
      · exact .inr replayed
      · exact absurd hasSuccessor without

instance (repository : Repository) (waiting : WaitingCommit) :
    Decidable (AdmitsRevision repository waiting) := by
  unfold AdmitsRevision HasRoom
  infer_instance

instance (repository : Repository) (waiting : Waiting) :
    Decidable (waiting.WouldStore repository) := by
  cases waiting with
  | commit waiting =>
      refine @instDecidableAnd _ _ _ (@instDecidableAnd _ _ ?_ _)
      cases checkCommit repository waiting.input with
      | ok => exact isTrue rfl
      | error => exact isFalse (by simp)
  | append waiting =>
      unfold Waiting.WouldStore HasRoom
      infer_instance

end Selene.Collaboration
