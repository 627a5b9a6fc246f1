import Selene.CollaborationPortability
import Selene.InertCost

/-!
# Commits that reject

A commit stores its revision, then its baseline, then its response, and checks
each of them only before it stores it.  Run alone, it leaves the records as they
were whenever it rejects exactly if the later ones fit when the first one is
stored (`commitDesignRevision_atomic_iff`).
-/

namespace Selene.Collaboration

open Js
open Baseline (SemanticDesignChange)

/-! ## A commit alone -/

/-- A commit that no other call comes between. -/
def commitDesignRevision (host : Host) (repository : Repository)
    (input : CommitDesignRevisionInput) : Repository × Checked CommitOutcome :=
  match beginCommitDesignRevision host repository input with
  | .error error => (repository, .error error)
  | .ok (.inl outcome) => (repository, .ok outcome)
  | .ok (.inr waiting) => resumeCommitDesignRevision repository waiting

/-- The maps that a commit may write are the same. -/
structure SameRecords (first second : Repository) : Prop where
  revisions : first.revisions = second.revisions
  reviewStates : first.reviewStates = second.reviewStates
  semanticChanges : first.semanticChanges = second.semanticChanges
  idempotency : first.idempotency = second.idempotency

theorem SameRecords.refl (repository : Repository) :
    SameRecords repository repository :=
  ⟨rfl, rfl, rfl, rfl⟩

/-! ## What is checked before each write -/

/-- The revision of a commit, if it has one, can be stored. -/
def AdmitsRevision (repository : Repository) (waiting : WaitingCommit) :
    Prop :=
  ∀ revision ∈ waiting.input.command.revision,
    repository.revisions.has revision.id = false ∧
      waiting.before.map Revision.id =
        waiting.input.command.expectedParentRevisionId ∧
      revision.sequence =
        ((waiting.before.map Revision.sequence).getD Count.zero).next ∧
      HasRoom repository.revisions revision

/-- The baseline of a commit, if it has one, can be stored. -/
def AdmitsBaseline (repository : Repository) (command : DesignRevisionCommand) :
    Prop :=
  ∀ readiness ∈ command.readiness,
    repository.reviewStates.size ≤ collaborationBudgets.maxItems ∧
      ∀ state ∈ repository.reviewStates.rows,
        ∀ baseline ∈ state.baseline, baseline.id ≠ readiness.id

/-- The response of a commit, if it is kept for retries, can be stored. -/
def AdmitsResponse (repository : Repository)
    (context : DesignRevisionCommandContext) : Prop :=
  context.idempotencyKey.isSome →
    repository.idempotency.size < collaborationBudgets.maxItems

/-- What the first part of a commit has checked when it waits. -/
structure Begun (host : Host) (repository : Repository)
    (given : CommitDesignRevisionInput) (waiting : WaitingCommit) : Prop where
  owned : collaborationBudgets.Admits given.toJs
  isInput : waiting.input = { given with command := given.command.copy }
  isBefore : waiting.before =
    latestRevision host repository given.context.projectId
  unanswered : ∀ idempotencyKey ∈ given.context.idempotencyKey,
    repository.idempotency.has (responseKey given.context idempotencyKey) =
      false
  belongs : ∀ revision ∈ waiting.input.command.revision,
    revision.projectId = given.context.projectId
  isReady : checkReadiness repository waiting.input = .ok ()

variable {host : Host} {repository : Repository}
  {given : CommitDesignRevisionInput} {waiting : WaitingCommit}

theorem begun_of_beginCommitDesignRevision
    (begun :
      beginCommitDesignRevision host repository given =
        .ok (.inr waiting)) :
    Begun host repository given waiting := by
  obtain ⟨isInput, isBefore⟩ := beginCommitDesignRevision_waits begun
  unfold beginCommitDesignRevision at begun
  obtain ⟨cloned, keyed⟩ := unit_bind_eq_ok.mp begun
  obtain ⟨_, replayed⟩ := unit_bind_eq_ok.mp keyed
  split at replayed
  · obtain ⟨_, same⟩ := unit_bind_eq_ok.mp replayed
    cases same
  · rename_i unanswered
    obtain ⟨_, known⟩ := check_bind_eq_ok.mp replayed
    obtain ⟨belongs, owned⟩ := unit_bind_eq_ok.mp known
    obtain ⟨isReady, _⟩ := unit_bind_eq_ok.mp owned
    refine ⟨check_eq_ok.mp cloned, isInput, isBefore, ?_, ?_, ?_⟩
    · intro idempotencyKey isKey
      rw [Option.bind_eq_none_iff] at unanswered
      rw [Table.has_eq_isSome, unanswered idempotencyKey isKey]
      rfl
    · intro revision isRevision
      rw [isInput] at isRevision
      exact check_eq_ok.mp (whenPresent_eq_ok.mp belongs revision isRevision)
    · rw [isInput]
      exact isReady

theorem appendCommitted_isOk_iff :
    (∃ appended, appendCommitted repository waiting = .ok appended) ↔
      AdmitsRevision repository waiting := by
  simp only [appendCommitted_eq_ok, AdmitsRevision, Option.mem_def]
  constructor
  · rintro ⟨_, ⟨isNone, -⟩ | ⟨revision, isRevision, fresh, parented, numbered,
      room, -⟩⟩ other isOther
    · rw [isNone] at isOther
      cases isOther
    · cases isRevision.symm.trans isOther
      exact ⟨fresh, parented, numbered, room⟩
  · intro admits
    cases isRevision : waiting.input.command.revision with
    | none => exact ⟨repository, .inl ⟨rfl, rfl⟩⟩
    | some revision =>
        obtain ⟨fresh, parented, numbered, room⟩ := admits revision isRevision
        exact ⟨_, .inr ⟨revision, rfl, fresh, parented, numbered, room, rfl⟩⟩

theorem Begun.revision
    {appended : Repository}
    (begun : Begun host repository given waiting)
    (isAppended : appendCommitted repository waiting = .ok appended)
    {readiness : DesignReadinessInput}
    (isReadiness : readiness ∈ waiting.input.command.readiness) :
    ∃ revision,
      waiting.input.command.revision.or
          (appended.revisions.find? readiness.revisionId) =
        some revision ∧
      revision.projectId = waiting.input.context.projectId := by
  have sameContext : waiting.input.context = given.context := by
    rw [begun.isInput]
  cases isRevision : waiting.input.command.revision with
  | some revision =>
      exact ⟨revision, rfl, sameContext ▸ begun.belongs revision isRevision⟩
  | none =>
      have same : appended = repository := by
        rcases appendCommitted_eq_ok.mp isAppended with
          ⟨_, same⟩ | ⟨_, isSome, _⟩
        · exact same
        · rw [isRevision] at isSome
          cases isSome
      subst same
      have ready := whenPresent_eq_ok.mp begun.isReady readiness isReadiness
      simp only [isRevision] at ready
      split at ready
      · cases ready
      · rename_i revision found
        obtain ⟨belongs, _⟩ := check_bind_eq_ok.mp ready
        exact ⟨revision, found, belongs⟩

/-! ## The response of a commit -/

/-- How the totals of an owned input grow with its revision and readiness. -/
structure Growth (input : CommitDesignRevisionInput)
    (first second last : Totals) : Prop where
  named : 44 ≤ first.bytes ∧ 1 ≤ first.nodes
  revision : first.Within second ∧
    ∀ revision ∈ input.command.revision, ∃ cost,
      collaborationBudgets.Costs
        (collaborationBudgets.charge revision.toJs 1) cost ∧
      first.bytes + 8 + cost.bytes ≤ second.bytes ∧
      first.nodes + cost.nodes ≤ second.nodes
  readiness : second.Within last ∧
    ∀ readiness ∈ input.command.readiness, ∃ cost,
      collaborationBudgets.Costs
        (collaborationBudgets.charge readiness.toJs 1) cost ∧
      second.bytes + 9 + cost.bytes ≤ last.bytes ∧
      second.nodes + cost.nodes ≤ last.nodes
  holds : collaborationBudgets.Holds last

theorem exists_growth
    (admitted : collaborationBudgets.Admits given.toJs)
    (keyed : given.context.idempotencyKey.isSome) :
    ∃ first second last, Growth given first second last := by
  obtain ⟨after, charged⟩ := Option.isSome_iff_exists.mp admitted
  rw [CommitDesignRevisionInput.toJs, Budgets.charge, if_pos (Nat.zero_le _)]
    at charged
  obtain ⟨entered, isEntered, charged⟩ := Option.bind_eq_some_iff.mp charged
  have isFirst : entered = ⟨0, 1⟩ := by
    rw [Budgets.addNode] at isEntered
    split at isEntered
    · exact (Option.some.inj isEntered).symm
    · cases isEntered
  subst isFirst
  -- each name adds its length, and a field that is there the cost of its value
  obtain ⟨project, charged, holds, _, projectCost⟩ :=
    Budgets.field_of_chargeEntries charged (by decide) ⟨by decide, by decide⟩
  obtain ⟨actor, charged, holds, _, actorCost⟩ :=
    Budgets.field_of_chargeEntries charged (by decide) holds
  obtain ⟨time, charged, holds, _, timeCost⟩ :=
    Budgets.field_of_chargeEntries charged (by decide) holds
  obtain ⟨key, charged, holds, _, keyCost⟩ :=
    Budgets.field_of_chargeEntries charged (by decide) holds
  obtain ⟨scope, charged, holds, scopeWithin, _⟩ :=
    Budgets.field_of_chargeEntries charged (by decide) holds
  obtain ⟨first, charged, holds, _, kindCost⟩ :=
    Budgets.field_of_chargeEntries charged (by decide) holds
  obtain ⟨second, charged, holds, revisionWithin, revisionCost⟩ :=
    Budgets.field_of_chargeEntries charged (by decide) holds
  obtain ⟨parent, charged, holds, parentWithin, _⟩ :=
    Budgets.field_of_chargeEntries charged (by decide) holds
  obtain ⟨change, charged, holds, changeWithin, _⟩ :=
    Budgets.field_of_chargeEntries charged (by decide) holds
  obtain ⟨last, charged, holds, readinessWithin, readinessCost⟩ :=
    Budgets.field_of_chargeEntries charged (by decide) holds
  obtain ⟨idempotencyKey, isKey⟩ := Option.isSome_iff_exists.mp keyed
  obtain ⟨_, _, projectBytes, projectNodes⟩ := projectCost _ rfl
  obtain ⟨_, _, actorBytes, actorNodes⟩ := actorCost _ rfl
  obtain ⟨_, _, timeBytes, timeNodes⟩ := timeCost _ rfl
  obtain ⟨_, _, keyBytes, keyNodes⟩ := keyCost _ (by rw [isKey]; rfl)
  obtain ⟨_, _, kindBytes, kindNodes⟩ := kindCost _ rfl
  have projectLength : utf8Length (js "projectId") = 9 := by decide
  have actorLength : utf8Length (js "actorId") = 7 := by decide
  have timeLength : utf8Length (js "occurredAt") = 10 := by decide
  have keyLength : utf8Length (js "idempotencyKey") = 14 := by decide
  have kindLength : utf8Length (js "kind") = 4 := by decide
  have revisionLength : utf8Length (js "revision") = 8 := by decide
  have readinessLength : utf8Length (js "readiness") = 9 := by decide
  rw [projectLength] at projectBytes
  rw [actorLength] at actorBytes
  rw [timeLength] at timeBytes
  rw [keyLength] at keyBytes
  rw [kindLength] at kindBytes
  have scopeBytes := scopeWithin.1
  have scopeNodes := scopeWithin.2
  have between : second.Within change :=
    ⟨parentWithin.1.trans changeWithin.1, parentWithin.2.trans changeWithin.2⟩
  refine ⟨first, second, last, ⟨by dsimp only at *; omega, by dsimp only at *; omega⟩, ⟨revisionWithin, ?_⟩, ⟨⟨between.1.trans readinessWithin.1, between.2.trans readinessWithin.2⟩, ?_⟩, holds⟩
  · intro revision isRevision
    obtain ⟨cost, costs, bytes, nodes⟩ := revisionCost revision.toJs
      (by rw [Option.mem_def.mp isRevision]; rfl)
    rw [revisionLength] at bytes
    exact ⟨cost, costs, bytes, nodes⟩
  · intro readiness isReadiness
    obtain ⟨cost, costs, bytes, nodes⟩ := readinessCost readiness.toJs
      (by rw [Option.mem_def.mp isReadiness]; rfl)
    rw [readinessLength] at bytes
    have betweenBytes := between.1
    have betweenNodes := between.2
    exact ⟨cost, costs, by omega, by omega⟩

theorem costs_copy
    {revision : Revision}
    {cost : Totals}
    (costs : collaborationBudgets.Costs
      (collaborationBudgets.charge revision.toJs 1) cost) :
    collaborationBudgets.Costs
      (collaborationBudgets.charge revision.copy.toJs 1) cost := by
  intro totals holds
  rw [Revision.toJs_copy]
  exact Budgets.charge_inertCopy _ (costs totals holds)

theorem costs_replayed :
    collaborationBudgets.Costs
      (collaborationBudgets.chargeEntries
        [(js "replayed", .bool false)] 1) ⟨13, 0⟩ :=
  Budgets.Costs.cons (by decide) (by decide) (Budgets.costs_bool (by decide))
    Budgets.costs_nil

theorem admits_commitResult
    (admitted : collaborationBudgets.Admits given.toJs)
    (keyed : given.context.idempotencyKey.isSome) :
    collaborationBudgets.Admits
      (commitResult repository
        { given with command := given.command.copy }).toJs := by
  obtain ⟨first, second, last, growth⟩ := exists_growth admitted keyed
  obtain ⟨namedBytes, namedNodes⟩ := growth.named
  obtain ⟨⟨revisionBytes, revisionNodes⟩, revisionCost⟩ := growth.revision
  obtain ⟨⟨readinessBytes, readinessNodes⟩, readinessCost⟩ := growth.readiness
  obtain ⟨lastBytes, lastNodes⟩ := growth.holds
  obtain ⟨context, command⟩ := given
  cases command with
  | appendRevision revision expected change =>
      obtain ⟨cost, costs, bytes, nodes⟩ := revisionCost revision rfl
      refine Budgets.admits_of_costs
        (Budgets.Costs.cons (by decide) (by decide)
          (Budgets.costs_string (by decide) (by decide))
          (Budgets.Costs.cons (by decide) (by decide) (costs_copy costs)
            (Budgets.Costs.cons (by decide) (by decide)
              (Budgets.costs_bool (by decide)) costs_replayed)))
        (show 4 ≤ collaborationBudgets.maxItems by decide) ?_ ?_
      · have sum : utf8Length (js "kind") + (utf8Length (js "revision") +
            (utf8Length (js "revision") + (utf8Length (js "changeRecorded") +
              (5 + 13)))) = 52 := by decide
        simp only [Totals.add]
        omega
      · simp only [Totals.add]
        omega
  | markReady readiness =>
      obtain ⟨cost, costs, bytes, nodes⟩ := readinessCost readiness rfl
      refine Budgets.admits_of_costs
        (Budgets.Costs.cons (by decide) (by decide)
          (Budgets.costs_string (by decide) (by decide))
          (Budgets.Costs.cons (by decide) (by decide) costs costs_replayed))
        (show 3 ≤ collaborationBudgets.maxItems by decide) ?_ ?_
      · have sum : utf8Length (js "kind") + (utf8Length (js "readiness") +
            (utf8Length (js "readiness") + 13)) = 35 := by decide
        simp only [Totals.add]
        omega
      · simp only [Totals.add]
        omega
  | appendRevisionAndMarkReady revision expected readiness =>
      obtain ⟨cost, costs, bytes, nodes⟩ := revisionCost revision rfl
      obtain ⟨other, others, otherBytes, otherNodes⟩ :=
        readinessCost readiness rfl
      refine Budgets.admits_of_costs
        (Budgets.Costs.cons (by decide) (by decide)
          (Budgets.costs_string (by decide) (by decide))
          (Budgets.Costs.cons (by decide) (by decide) (costs_copy costs)
            (Budgets.Costs.cons (by decide) (by decide) others
              costs_replayed)))
        (show 4 ≤ collaborationBudgets.maxItems by decide) ?_ ?_
      · have sum : utf8Length (js "kind") +
            (utf8Length (js "revision-and-readiness") +
              (utf8Length (js "revision") +
                (utf8Length (js "readiness") + 13))) = 56 := by decide
        simp only [Totals.add]
        omega
      · simp only [Totals.add]
        omega

/-! ## When the writes follow -/

theorem readiness_copy (command : DesignRevisionCommand) :
    command.copy.readiness = command.readiness := by
  cases command <;> rfl

theorem admitsBaseline_copy (command : DesignRevisionCommand) :
    AdmitsBaseline repository command.copy ↔
      AdmitsBaseline repository command := by
  rw [AdmitsBaseline, AdmitsBaseline, readiness_copy]

theorem reviewStates_of_appendCommitted
    {appended : Repository}
    (isAppended : appendCommitted repository waiting = .ok appended) :
    appended.reviewStates = repository.reviewStates ∧
      appended.idempotency = repository.idempotency := by
  rcases appendCommitted_eq_ok.mp isAppended with
    ⟨_, rfl⟩ | ⟨_, _, _, _, _, _, rfl⟩
  · exact ⟨rfl, rfl⟩
  · exact ⟨rfl, rfl⟩

theorem markCommitted_isOk_iff
    {appended : Repository}
    (isAppended : appendCommitted repository waiting = .ok appended)
    (known : ∀ readiness ∈ waiting.input.command.readiness, ∃ revision,
      waiting.input.command.revision.or
          (appended.revisions.find? readiness.revisionId) = some revision ∧
        revision.projectId = waiting.input.context.projectId) :
    (∃ marked, markCommitted appended waiting = .ok marked) ↔
      AdmitsBaseline repository waiting.input.command := by
  rw [AdmitsBaseline, markCommitted,
    ← (reviewStates_of_appendCommitted isAppended).1]
  cases isReadiness : waiting.input.command.readiness with
  | none => simp
  | some readiness =>
      obtain ⟨revision, isRevision, belongs⟩ := known readiness isReadiness
      simp only [isRevision, Option.mem_def, Option.some.injEq, forall_eq']
      constructor
      · rintro ⟨marked, isMarked⟩
        obtain ⟨bounded, rest⟩ := unit_bind_eq_ok.mp isMarked
        obtain ⟨unused, _⟩ := check_bind_eq_ok.mp rest
        exact ⟨check_eq_ok.mp bounded, unused⟩
      · rintro ⟨bounded, unused⟩
        exact ⟨_, unit_bind_eq_ok.mpr ⟨check_eq_ok.mpr bounded,
          check_bind_eq_ok.mpr ⟨unused,
            check_bind_eq_ok.mpr ⟨belongs, rfl⟩⟩⟩⟩

theorem revisions_recordCommitted (found marked : Repository) :
    (recordCommitted found marked waiting).revisions = marked.revisions ∧
      (recordCommitted found marked waiting).idempotency =
        marked.idempotency := by
  unfold recordCommitted
  split <;> exact ⟨rfl, rfl⟩

theorem revisions_of_markCommitted
    {marked : Repository}
    (isMarked : markCommitted repository waiting = .ok marked) :
    marked.revisions = repository.revisions ∧
      marked.idempotency = repository.idempotency := by
  rcases markCommitted_cases isMarked with ⟨_, rfl⟩ | ⟨_, _, _, _, _, _, rfl⟩
  · exact ⟨rfl, rfl⟩
  · exact ⟨rfl, rfl⟩

theorem idempotency_recordCommitted
    {appended marked : Repository}
    (isAppended : appendCommitted repository waiting = .ok appended)
    (isMarked : markCommitted appended waiting = .ok marked) :
    (recordCommitted repository marked waiting).idempotency =
      repository.idempotency := by
  rw [(revisions_recordCommitted repository marked).2,
    (revisions_of_markCommitted isMarked).2,
    (reviewStates_of_appendCommitted isAppended).2]

theorem exists_storeResponse
    {recorded : Repository}
    (owned : collaborationBudgets.Admits given.toJs)
    (isInput : waiting.input = { given with command := given.command.copy })
    (sameResponses : recorded.idempotency = repository.idempotency)
    (response : AdmitsResponse repository waiting.input.context) :
    ∃ stored, storeResponse recorded waiting.input.context
      (commitResult repository waiting.input) = .ok stored := by
  rw [storeResponse]
  cases isKey : waiting.input.context.idempotencyKey with
  | none => exact ⟨recorded, rfl⟩
  | some idempotencyKey =>
      have keyed : given.context.idempotencyKey.isSome := by
        rw [isInput] at isKey
        exact Option.isSome_iff_exists.mpr ⟨_, isKey⟩
      have cloned : clone (commitResult repository waiting.input).toJs =
          .ok () := by
        rw [isInput]
        exact check_eq_ok.mpr (admits_commitResult owned keyed)
      have room := response (by rw [isKey]; rfl)
      exact ⟨_, unit_bind_eq_ok.mpr
        ⟨check_eq_ok.mpr (.inr (sameResponses ▸ room)),
          unit_bind_eq_ok.mpr ⟨cloned, rfl⟩⟩⟩

theorem storeResponse_isOk_iff
    {recorded : Repository}
    (begun : Begun host repository given waiting)
    (sameResponses : recorded.idempotency = repository.idempotency) :
    (∃ stored, storeResponse recorded waiting.input.context
        (commitResult repository waiting.input) = .ok stored) ↔
      AdmitsResponse repository given.context := by
  have sameContext : waiting.input.context = given.context := by
    rw [begun.isInput]
  constructor
  · rintro ⟨stored, isStored⟩ keyed
    obtain ⟨idempotencyKey, isKey⟩ := Option.isSome_iff_exists.mp keyed
    rw [storeResponse, sameContext, isKey] at isStored
    obtain ⟨room, _⟩ := unit_bind_eq_ok.mp isStored
    have room := check_eq_ok.mp room
    rw [sameResponses, begun.unanswered idempotencyKey isKey] at room
    simpa using room
  · intro response
    exact exists_storeResponse begun.owned begun.isInput sameResponses
      (sameContext ▸ response)

/-! ## Commits that reject -/

/--
A commit that gets to its first write, of its revision or else of its baseline,
gets to the others as well.
-/
def CompletesWrites (host : Host) (repository : Repository)
    (given : CommitDesignRevisionInput) : Prop :=
  ∀ waiting,
    beginCommitDesignRevision host repository given = .ok (.inr waiting) →
    checkCommit repository waiting.input = .ok () →
    AdmitsRevision repository waiting →
    (given.command.revision = none →
      AdmitsBaseline repository given.command) →
      AdmitsBaseline repository given.command ∧
        AdmitsResponse repository given.context

theorem revision_copy_eq_none (command : DesignRevisionCommand) :
    command.copy.revision = none ↔ command.revision = none := by
  cases command <;> simp [DesignRevisionCommand.copy,
    DesignRevisionCommand.revision]

theorem set_ne_of_fresh
    {α : Type}
    {keyOf : α → JsString}
    {table : Table keyOf}
    {row : α}
    (fresh : table.has (keyOf row) = false) :
    table.set row ≠ table := by
  intro same
  have found := Table.find?_set_self table row
  rw [same] at found
  rw [Table.has_eq_isSome, found] at fresh
  cases fresh

/-- Once a commit has stored its revision or its baseline the records differ. -/
theorem not_sameRecords_recorded
    {appended marked : Repository}
    (begun : Begun host repository given waiting)
    (isAppended : appendCommitted repository waiting = .ok appended)
    (isMarked : markCommitted appended waiting = .ok marked) :
    ¬ SameRecords (recordCommitted repository marked waiting) repository := by
  intro same
  have sameRevisions := same.revisions
  rw [(revisions_recordCommitted repository marked).1,
    (revisions_of_markCommitted isMarked).1] at sameRevisions
  rcases appendCommitted_eq_ok.mp isAppended with
    ⟨noRevision, rfl⟩ | ⟨revision, _, fresh, _, _, _, rfl⟩
  · rcases markCommitted_cases isMarked with
      ⟨noReadiness, rfl⟩ | ⟨readiness, revision, _, _, unused, _, rfl⟩
    · have sameInput := begun.isInput
      obtain ⟨context, command⟩ := given
      rw [sameInput] at noRevision noReadiness
      cases command <;> cases noRevision
      cases noReadiness
    · have noChange : changeOf appended waiting = none := by
        simp only [changeOf, noRevision]
      have sameStates := same.reviewStates
      rw [recordCommitted, noChange] at sameStates
      dsimp only at sameStates
      have stored := Table.find?_set_self appended.reviewStates
        (readyState waiting.input.context readiness revision)
      rw [sameStates] at stored
      exact unused _ (Table.find?_eq_some.mp stored).1 _ rfl rfl
  · exact set_ne_of_fresh fresh sameRevisions

/--
A commit alone leaves the records as they were whenever it rejects, exactly if
its first write is made only when its baseline and its response fit as well.
-/
theorem commitDesignRevision_atomic_iff
    (host : Host)
    (repository : Repository)
    (given : CommitDesignRevisionInput) :
    (∀ error, (commitDesignRevision host repository given).2 = .error error →
      SameRecords (commitDesignRevision host repository given).1 repository) ↔
      CompletesWrites host repository given := by
  rw [commitDesignRevision, CompletesWrites]
  cases isBegun : beginCommitDesignRevision host repository given with
  | error error =>
      exact iff_of_true (fun _ _ => .refl repository) (by simp)
  | ok started =>
  cases started with
  | inl outcome => exact iff_of_true (by simp) (by simp)
  | inr waiting =>
  have begun := begun_of_beginCommitDesignRevision isBegun
  have noRevision : waiting.input.command.revision = none ↔
      given.command.revision = none := by
    rw [begun.isInput]
    exact revision_copy_eq_none given.command
  simp only [Except.ok.injEq, Sum.inr.injEq, forall_eq',
    resumeCommitDesignRevision]
  cases checked : checkCommit repository waiting.input with
  | error error =>
      exact iff_of_true (fun _ _ => .refl repository) (by simp)
  | ok passed =>
  simp only [forall_const, continueFrom, ← appendCommitted_isOk_iff]
  cases isAppended : appendCommitted repository waiting with
  | error error =>
      exact iff_of_true (fun _ _ => .refl repository) (by simp)
  | ok appended =>
  have marks : (∃ marked, markCommitted appended waiting = .ok marked) ↔
      AdmitsBaseline repository given.command := by
    rw [markCommitted_isOk_iff isAppended fun readiness isReadiness =>
      begun.revision isAppended isReadiness, begun.isInput]
    exact admitsBaseline_copy given.command
  simp only [Except.ok.injEq, exists_eq', forall_const, ← marks]
  cases isMarked : markCommitted appended waiting with
  | error error =>
      simp only [reduceCtorEq, exists_false, false_and, imp_false,
        Except.error.injEq, forall_eq', not_not]
      rcases appendCommitted_eq_ok.mp isAppended with
        ⟨isNone, rfl⟩ | ⟨revision, isRevision, fresh, _, _, _, rfl⟩
      · exact iff_of_true (.refl _) (noRevision.mp isNone)
      · refine iff_of_false (fun same => set_ne_of_fresh fresh same.revisions)
          fun isNone => ?_
        rw [noRevision.mpr isNone] at isRevision
        cases isRevision
  | ok marked =>
  have stores := storeResponse_isOk_iff begun
    (idempotency_recordCommitted isAppended isMarked)
  simp only [Except.ok.injEq, exists_eq', forall_const, true_and, ← stores]
  cases isStored : storeResponse (recordCommitted repository marked waiting)
      waiting.input.context (commitResult repository waiting.input) with
  | error error =>
      refine iff_of_false (fun atomic => ?_) (by simp)
      exact not_sameRecords_recorded begun isAppended isMarked (atomic error rfl)
  | ok stored => exact iff_of_true (by simp) ⟨stored, rfl⟩

/-- The second revision, marked ready under the identifier of the first. -/
def repeatedMark : CommitDesignRevisionInput :=
  ⟨sampleContext,
    .appendRevisionAndMarkReady secondRevision (some (js "revision-1"))
      { sampleReadiness with revisionId := js "revision-2" }⟩

/-- A commit whose baseline is taken is rejected, but its revision stays. -/
theorem rejected_commit_keeps_revision :
    ReachableSystem codeUnitHost
        (takeAll (execute codeUnitHost) .initial markedHistory) ∧
      ¬ ∀ error,
        (commitDesignRevision codeUnitHost
          (takeAll (execute codeUnitHost) .initial markedHistory).repository
            repeatedMark).2 = .error error →
        SameRecords
          (commitDesignRevision codeUnitHost
            (takeAll (execute codeUnitHost) .initial markedHistory).repository
              repeatedMark).1
          (takeAll (execute codeUnitHost) .initial
            markedHistory).repository := by
  have rejected : (commitDesignRevision codeUnitHost
      (takeAll (execute codeUnitHost) .initial markedHistory).repository
        repeatedMark).2.isOk = false := by
    decide +kernel
  have stored : (commitDesignRevision codeUnitHost
      (takeAll (execute codeUnitHost) .initial markedHistory).repository
        repeatedMark).1.revisions.has (js "revision-2") = true := by
    decide +kernel
  have missing : (takeAll (execute codeUnitHost) .initial
      markedHistory).repository.revisions.has (js "revision-2") = false := by
    decide +kernel
  refine ⟨⟨markedHistory, rfl⟩, fun atomic => ?_⟩
  cases result : (commitDesignRevision codeUnitHost
      (takeAll (execute codeUnitHost) .initial markedHistory).repository
        repeatedMark).2 with
  | error error =>
      rw [(atomic error result).revisions, missing] at stored
      cases stored
  | ok outcome =>
      rw [result] at rejected
      cases rejected

end Selene.Collaboration
