import Selene.DesignRevisionPreflight

/-!
# Commits that stay possible

Which successors a state admits depends on its head alone, once the state
accepts commands.  An active head can always be followed by a revision of the
same lifecycle, every other head never: its successor would need an audit as a
privacy record and must not have one as a commit.
-/

namespace Selene.Revision

open Js

/-! ## Heads that can be continued -/

/-- Policy, retention and sequence number of the head allow for a successor. -/
structure Continuable (state : DesignRevisionState)
    (head : DesignRevisionHead) : Prop where
  policy : state.policy.capabilities.AllowsCommit
  retained : head.revision.createdAt < head.revision.privacy.deleteAfter
  sequence : head.revision.sequence.val < JsNumber.maxSafeInteger

/-- What commits establish: heads are continuable and counted. -/
def CountsHeads (stateValue : JsValue) : Prop :=
  ∀ state head,
    parseDesignRevisionState stateValue = .ok state →
      state.head = some head →
        Continuable state head ∧
          head.revision.sequence.val ≤ state.processedCommandIds.length

theorem countsHeads_of_commitStep
    (stateValue : JsValue)
    (call : CommitCall)
    (nextValue : JsValue)
    (counts : CountsHeads stateValue)
    (taken : commitStep stateValue call = .ok nextValue) :
    CountsHeads nextValue := by
  intro final head isFinal isHead
  unfold commitStep at taken
  cases committed : commitDesignRevision stateValue call.command call.now with
  | error code =>
      rw [committed] at taken
      cases taken
  | ok next =>
      rw [committed] at taken
      cases taken
      rw [parseDesignRevisionState_toJs] at isFinal
      cases isFinal
      obtain ⟨state, command, atInstant, isState, _, _, allowed, commits⟩ :=
        commitDesignRevision_eq_ok.mp committed
      have step := chainStep_of_commit allowed commits
      obtain ⟨new, isNew, isRevision, first, continues⟩ := step.head
      rw [isHead] at isNew
      cases isNew
      have policy : final.policy.capabilities.AllowsCommit := by
        rw [commits.policy]
        exact allowed.policy.2.2.2.2.1
      have grown :
          final.processedCommandIds.length =
            state.processedCommandIds.length + 1 := by
        rw [commits.processedCommandIds, List.length_append,
          List.length_singleton]
      have counted :
          head.revision.sequence.val ≤ final.processedCommandIds.length := by
        cases oldHead : state.head with
        | none =>
            rw [first oldHead]
            omega
        | some old =>
            have sequence := (continues old oldHead).sequence
            have known := (counts state old isState oldHead).2
            omega
      have bounded := final.boundedCommands
      have limit : maxCommands < JsNumber.maxSafeInteger := by decide
      refine ⟨⟨policy, ?_, by omega⟩, counted⟩
      rw [isRevision]
      exact allowed.retained.1

variable {state : DesignRevisionState} {head : DesignRevisionHead}

/-- In a run that starts without a head every head can be continued. -/
theorem continuable_of_headless
    {startValue : JsValue}
    {start : DesignRevisionState}
    {calls : List CommitCall}
    (isStart : parseDesignRevisionState startValue = .ok start)
    (isState :
      parseDesignRevisionState (settleAll commitStep startValue calls) =
        .ok state)
    (isHead : state.head = some head)
    (headless : start.head = none) :
    Continuable state head := by
  have initially : CountsHeads startValue := by
    intro first kept isFirst isKept
    rw [isStart] at isFirst
    cases isFirst
    rw [headless] at isKept
    cases isKept
  exact (settleAll_invariant CountsHeads countsHeads_of_commitStep initially
    calls state head isState isHead).1

/-! ## What an accepted successor shows about the head -/

variable {command : CommitDesignRevisionCommand}

/-- A successor with the terms of the head needs a continuable head. -/
theorem continuable_of_commit
    {atInstant : Instant}
    (allowed : CommitAllowed state command atInstant)
    (isHead : state.head = some head) :
    Continuable state head := by
  have follows := allowed.follows
  obtain ⟨binding, bound, passed⟩ := allowed.lifecycle
  rw [isHead] at follows passed
  obtain ⟨sequence, _, _, notEarlier⟩ := follows
  obtain ⟨sameBinding, _⟩ := checkLifecycle_some passed
  rw [sameBinding] at bound
  have sameTerms := terms_eq_of_binding_eq bound head.privacyBinding_eq
  have retained := allowed.retained.1
  rw [sameTerms] at retained
  exact
    { policy := allowed.policy.2.2.2.2.1
      retained := lt_of_le_of_lt (α := JsString) notEarlier retained
      sequence := by
        have bounded := command.revision.sequence.property.2
        omega }

variable {record : DesignRevisionPrivacy} {createdAt occurredAt : Instant}
  {next : DesignRevisionState}

theorem lifecycle_eq_active
    (unaudited : record.lifecycleAudit = none) :
    record.lifecycle = .active := by
  have matched := record.auditMatches
  rw [unaudited] at matched
  exact matched

theorem lifecycleAudit_eq_none
    (isActive : record.lifecycle = .active) :
    record.lifecycleAudit = none := by
  have matched := record.auditMatches
  cases audit : record.lifecycleAudit with
  | none => rfl
  | some transition =>
      rw [audit] at matched
      exact (matched.1 isActive).elim

variable {now : Instant}

theorem allowed_of_commit
    {stateValue commandValue : JsValue}
    (isState : parseDesignRevisionState stateValue = .ok state)
    (isCommand :
      parseCommitDesignRevisionCommand commandValue = .ok command)
    (committed :
      commitDesignRevision stateValue commandValue now.val = .ok next) :
    CommitAllowed state command now := by
  obtain ⟨parsed, parsedCommand, atInstant, isParsed, isParsedCommand,
    isInstant, allowed, _⟩ := commitDesignRevision_eq_ok.mp committed
  rw [isState] at isParsed
  cases isParsed
  rw [isCommand] at isParsedCommand
  cases isParsedCommand
  rw [instant_val] at isInstant
  cases isInstant
  exact allowed

theorem commitDesignRevision_of_parsed
    {stateValue : JsValue}
    (isState : parseDesignRevisionState stateValue = .ok state)
    (committed : commitParsed state command now = .ok next) :
    commitDesignRevision stateValue command.toJson.toJs now.val =
      .ok next := by
  rw [commitDesignRevision, isState, ok_bind,
    parseCommitDesignRevisionCommand_toJs, ok_bind, instant_val, ok_bind,
    committed]

/-- Only an active head has a successor of the same lifecycle. -/
theorem isActive_of_preserving
    (allowed : CommitAllowed state command now)
    (isHead : state.head = some head)
    (sameLifecycle :
      command.revision.privacy.lifecycle =
        head.revision.privacy.lifecycle) :
    head.revision.privacy.lifecycle = .active := by
  obtain ⟨binding, _, passed⟩ := allowed.lifecycle
  rw [isHead] at passed
  obtain ⟨_, ⟨_, unaudited⟩ | ⟨changed, _⟩⟩ := checkLifecycle_some passed
  · rw [← sameLifecycle]
    exact lifecycle_eq_active unaudited
  · exact (changed sameLifecycle).elim

/-! ## Lifecycle changes -/

/-- The successor of a head whose lifecycle a transition changes. -/
def DesignRevisionHead.changing (head : DesignRevisionHead)
    (sequence : PositiveInteger) (createdAt : Instant)
    (transition : DesignPrivacyTransition)
    (inactive : transition.toLifecycle ≠ .active)
    (correlation :
      transition.auditCorrelationId =
        head.revision.privacy.auditCorrelationId) :
    UncommittedRevision :=
  head.successor sequence createdAt
    (head.revision.privacy.changed transition inactive correlation)

theorem DesignRevisionHead.changing_allowed
    {sequence : PositiveInteger}
    {toLifecycle : DesignPrivacyLifecycle}
    {tombstoneDigest : Option Digest}
    {tombstoneMatches :
      toLifecycle = .tombstoned ↔ tombstoneDigest.isSome}
    {inactive : toLifecycle ≠ .active}
    (isHead : state.head = some head)
    (live :
      head.revision.privacy.lifecycle ≠ .tombstoned ∧
        head.revision.privacy.lifecycle ≠ .expired)
    (isNext : sequence.val = head.revision.sequence.val + 1)
    (edge :
      canTransitionPrivacyLifecycle head.revision.privacy.lifecycle
        toLifecycle = true)
    (notBeforeHead : head.revision.createdAt ≤ occurredAt)
    (notAfterRevision : occurredAt ≤ createdAt)
    (notAfterNow : occurredAt ≤ now)
    (retained : createdAt < head.revision.privacy.deleteAfter)
    (early : now < head.revision.privacy.deleteAfter)
    (short :
      (head.changing sequence createdAt
        (head.audit toLifecycle occurredAt tombstoneDigest
          tombstoneMatches) inactive rfl).commitmentLength
            head.privacyBinding ≤ maxRevisionCommitment) :
    RevisionAllowed state
      ((head.changing sequence createdAt
        (head.audit toLifecycle occurredAt tombstoneDigest
          tombstoneMatches) inactive rfl).sealed head.privacyBinding
            (head.bound_changed _ inactive rfl) short) now where
  tenantId := state.inScope.headTenant head isHead
  projectId := state.inScope.headProject head isHead
  live := by
    rintro kept isKept
    rw [isHead] at isKept
    cases isKept
    exact live
  retained := ⟨retained, early⟩
  follows := by
    rw [isHead]
    exact ⟨isNext, head.otherIdentifier_ne, rfl,
      le_trans (α := JsString) notBeforeHead notAfterRevision⟩
  lifecycle := by
    refine ⟨head.privacyBinding, head.bound_changed _ inactive rfl, ?_⟩
    have different :
        toLifecycle ≠ head.revision.privacy.lifecycle := by
      rintro rfl
      exact (rank_lt_of_canTransition edge).ne rfl
    rw [isHead]
    simp only [checkLifecycle, check_of, ok_bind, changing,
      UncommittedRevision.sealed, successor, DesignRevisionPrivacy.changed,
      audit, different, ↓reduceIte]
    exact check_of
      ⟨rfl, rfl, rfl, rfl, rfl, edge, rfl, notBeforeHead,
        notAfterRevision, notAfterNow⟩

/-! ## Lifecycle-preserving commits -/

/-- Some successor with the lifecycle and terms of the head is accepted. -/
def AdmitsPreserving (stateValue : JsValue) (head : DesignRevisionHead)
    (now : Instant) : Prop :=
  ∃ commandValue command next,
    parseCommitDesignRevisionCommand commandValue = .ok command ∧
      commitDesignRevision stateValue commandValue now.val = .ok next ∧
      command.revision.privacy.lifecycle =
        head.revision.privacy.lifecycle ∧
      createDesignRevisionPrivacyBindingFromParsed
          command.revision.privacy =
        .ok head.privacyBinding

/-- The successor with the record of the head. -/
def DesignRevisionHead.preserving (head : DesignRevisionHead)
    (below : head.revision.sequence.val < JsNumber.maxSafeInteger)
    (unaudited : head.revision.privacy.lifecycleAudit = none) :
    DesignRevision :=
  (head.successor (head.nextSequence below) head.revision.createdAt
    head.revision.privacy).sealed head.privacyBinding
      head.privacyBinding_eq
      (UncommittedRevision.commitmentLength_le head.privacyBinding_eq
        unaudited)

theorem DesignRevisionHead.preserving_allowed
    (isHead : state.head = some head)
    (isActive : head.revision.privacy.lifecycle = .active)
    (continuable : Continuable state head)
    (early : now < head.revision.privacy.deleteAfter) :
    RevisionAllowed state
      (head.preserving continuable.sequence
        (lifecycleAudit_eq_none isActive)) now where
  tenantId := state.inScope.headTenant head isHead
  projectId := state.inScope.headProject head isHead
  live := by
    rintro kept isKept
    rw [isHead] at isKept
    cases isKept
    rw [isActive]
    decide
  retained := ⟨continuable.retained, early⟩
  follows := by
    rw [isHead]
    exact ⟨rfl, head.otherIdentifier_ne, rfl,
      le_refl head.revision.createdAt.val⟩
  lifecycle := by
    refine ⟨head.privacyBinding, head.privacyBinding_eq, ?_⟩
    have unaudited := lifecycleAudit_eq_none isActive
    simp only [isHead, checkLifecycle, check_of, ok_bind, preserving,
      UncommittedRevision.sealed, successor, ↓reduceIte, unaudited]

/--
In every state of a run, a lifecycle-preserving successor of the head is
accepted exactly if the head is active and can be continued at all; the latter
always holds in runs that start without a head.
-/
theorem admitsPreserving_iff
    {startValue : JsValue}
    {start state : DesignRevisionState}
    {head : DesignRevisionHead}
    {now : Instant}
    (calls : List CommitCall)
    (isStart : parseDesignRevisionState startValue = .ok start)
    (isState :
      parseDesignRevisionState (settleAll commitStep startValue calls) =
        .ok state)
    (isHead : state.head = some head)
    (grant : state.grantStatus.IsActive)
    (room : state.processedCommandIds.length < 10000)
    (early : now < head.revision.privacy.deleteAfter) :
    (AdmitsPreserving (settleAll commitStep startValue calls) head now ↔
        head.revision.privacy.lifecycle = .active ∧
          Continuable state head) ∧
      (start.head = none → Continuable state head) := by
  refine ⟨⟨?_, ?_⟩, continuable_of_headless isStart isState isHead⟩
  · rintro ⟨commandValue, command, next, isCommand, committed,
      sameLifecycle, _⟩
    have allowed := allowed_of_commit isState isCommand committed
    exact ⟨isActive_of_preserving allowed isHead sameLifecycle,
      continuable_of_commit allowed isHead⟩
  · rintro ⟨isActive, continuable⟩
    obtain ⟨command, next, isRevision, committed⟩ :=
      exists_command ⟨continuable.policy, grant, room⟩
        (DesignRevisionHead.preserving_allowed isHead isActive continuable
          early)
    refine ⟨command.toJson.toJs, command, next,
      parseCommitDesignRevisionCommand_toJs command,
      commitDesignRevision_of_parsed isState committed, ?_, ?_⟩
    · rw [isRevision]
      rfl
    · rw [isRevision]
      exact head.privacyBinding_eq

theorem settleAll_sample
    (calls : List CommitCall) :
    settleAll commitStep sampleState.toJson.toJs
        ({ command := sampleCommand.toJson.toJs
           now := sampleInstant.val } :: calls) =
      settleAll commitStep committedSample.toJson.toJs calls := by
  have taken :
      commitStep sampleState.toJson.toJs
          { command := sampleCommand.toJson.toJs
            now := sampleInstant.val } =
        .ok committedSample.toJson.toJs := by
    rw [commitStep, commitDesignRevision_sent, commitParsed_sample]
    rfl
  rw [settleAll_cons, settle_of_ok taken]

theorem settled_sample :
    parseDesignRevisionState
        (settleAll commitStep sampleState.toJson.toJs
          [{ command := sampleCommand.toJson.toJs
             now := sampleInstant.val }]) =
      .ok committedSample := by
  rw [settleAll_sample, settleAll_nil, parseDesignRevisionState_toJs]

/-- The equivalence after the sample commit. -/
theorem admitsPreserving_iff_sample :
    AdmitsPreserving committedSample.toJson.toJs sampleHead
        sampleInstant ↔
      sampleHead.revision.privacy.lifecycle = .active ∧
        Continuable committedSample sampleHead := by
  have commits := (commitParsed_eq_ok.mp commitParsed_sample).2
  have equivalence :=
    (admitsPreserving_iff _ (parseDesignRevisionState_toJs sampleState)
      settled_sample committedSample_head
      (by rw [commits.grantStatus]; decide)
      (by rw [commits.processedCommandIds]; decide)
      sampleInstant_early).1
  rwa [settleAll_sample, settleAll_nil] at equivalence

theorem committedSample_accepts :
    AcceptsCommands committedSample := by
  have commits := (commitParsed_eq_ok.mp commitParsed_sample).2
  exact
    { policy := by rw [commits.policy]; decide
      grant := by rw [commits.grantStatus]; decide
      room := by rw [commits.processedCommandIds]; decide }

/-- The audit of a redaction of the sample head. -/
def redactionAudit : DesignPrivacyTransition :=
  sampleHead.audit .redacted sampleInstant none (by decide)

theorem redaction_fits :
    (sampleHead.changing secondSequence sampleInstant
      redactionAudit (by decide) rfl).commitmentLength
        sampleHead.privacyBinding ≤ maxRevisionCommitment := by
  decide +kernel

/-- A redaction of the sample head. -/
def redactedRevision : DesignRevision :=
  (sampleHead.changing secondSequence sampleInstant
    redactionAudit (by decide) rfl).sealed sampleHead.privacyBinding
      (sampleHead.bound_changed redactionAudit (by decide) rfl)
      redaction_fits

/-- After the redaction no successor of the same lifecycle is accepted. -/
theorem redacted_head_admits_no_preserving :
    ∃ command : CommitDesignRevisionCommand, ∃ state head,
      command.revision = redactedRevision ∧
        parseDesignRevisionState
            (settleAll commitStep sampleState.toJson.toJs
              [{ command := sampleCommand.toJson.toJs
                 now := sampleInstant.val },
                { command := command.toJson.toJs
                  now := sampleInstant.val }]) =
          .ok state ∧
        state.head = some head ∧
        head.revision.privacy.lifecycle = .redacted ∧
        state.grantStatus.IsActive ∧
        state.processedCommandIds.length < 10000 ∧
        sampleInstant < head.revision.privacy.deleteAfter ∧
        ¬ AdmitsPreserving state.toJson.toJs head
          sampleInstant := by
  have early := sampleInstant_early
  obtain ⟨command, next, isRevision, committed⟩ :=
    exists_command committedSample_accepts
      (DesignRevisionHead.changing_allowed committedSample_head (by decide)
        rfl rfl (le_refl sampleInstant.val)
        (le_refl sampleInstant.val)
        (le_refl sampleInstant.val) early early redaction_fits)
  have taken :
      commitStep committedSample.toJson.toJs
          { command := command.toJson.toJs
            now := sampleInstant.val } =
        .ok next.toJson.toJs := by
    rw [commitStep, commitDesignRevision_sent, committed]
    rfl
  have commits := (commitParsed_eq_ok.mp committed).2
  have firstCommits := (commitParsed_eq_ok.mp commitParsed_sample).2
  obtain ⟨head, isHead, headRevision⟩ :=
    Option.map_eq_some_iff.mp commits.head
  have isRedacted : head.revision = redactedRevision :=
    headRevision.trans isRevision
  refine ⟨command, next, head, isRevision, ?_, isHead, ?_, ?_, ?_, ?_, ?_⟩
  · rw [settleAll_sample, settleAll_cons, settle_of_ok taken,
      settleAll_nil, parseDesignRevisionState_toJs]
  · rw [isRedacted]
    rfl
  · rw [commits.grantStatus]
    exact committedSample_accepts.grant
  · rw [commits.processedCommandIds, firstCommits.processedCommandIds]
    simp [sampleState]
  · rw [isRedacted]
    exact early
  · rintro ⟨_, successor, _, isCommand, accepted, sameLifecycle, _⟩
    have allowed :=
      allowed_of_commit (parseDesignRevisionState_toJs next) isCommand
        accepted
    have isActive := isActive_of_preserving allowed isHead sameLifecycle
    rw [isRedacted] at isActive
    cases isActive

/-! ## Tombstones -/

/-- Some tombstone with the terms of the head is accepted. -/
def AdmitsTombstone (stateValue : JsValue) (head : DesignRevisionHead)
    (now : Instant) : Prop :=
  ∃ commandValue command next,
    parseCommitDesignRevisionCommand commandValue = .ok command ∧
      commitDesignRevision stateValue commandValue now.val = .ok next ∧
      command.revision.privacy.lifecycle = .tombstoned ∧
      command.revision.privacy.toDesignPrivacyTerms =
        head.revision.privacy.toDesignPrivacyTerms

/-- The tombstone of a head that has the shortest commitment. -/
def DesignRevisionHead.smallestTombstone (head : DesignRevisionHead)
    (below : head.revision.sequence.val < JsNumber.maxSafeInteger)
    (createdAt occurredAt : Instant) : UncommittedRevision :=
  head.changing (head.nextSequence below) createdAt
    (head.audit .tombstoned occurredAt
      (some head.revision.privacy.tombstoneDigest) (by simp))
    (show DesignPrivacyLifecycle.tombstoned ≠ .active by decide) rfl

/-- No tombstone of the head has a shorter commitment. -/
theorem DesignRevisionHead.length_smallestTombstone_le
    {revision : DesignRevision}
    {transition : DesignPrivacyTransition}
    (below : head.revision.sequence.val < JsNumber.maxSafeInteger)
    (sameTenant : revision.tenantId = head.revision.tenantId)
    (sameProject : revision.projectId = head.revision.projectId)
    (isNext : revision.sequence.val = head.revision.sequence.val + 1)
    (isParent :
      revision.parentRevisionId = some head.revision.revisionId)
    (isTombstone : revision.privacy.lifecycle = .tombstoned)
    (isAudit : revision.privacy.lifecycleAudit = some transition)
    (binds : AuditBindsHead head revision now transition)
    (laterCreated : revision.createdAt ≤ createdAt)
    (laterOccurred : transition.occurredAt ≤ occurredAt) :
    (head.smallestTombstone below createdAt occurredAt).commitmentLength
        head.privacyBinding ≤
      revision.commitmentLength head.privacyBinding := by
  obtain ⟨digest, hasDigest⟩ :=
    Option.isSome_iff_exists.mp
      (transition.tombstoneMatches.mp
        (binds.toLifecycle.trans isTombstone))
  have shorterAudit :
      (Json.stringify decimal
          (head.audit .tombstoned occurredAt
            (some head.revision.privacy.tombstoneDigest)
            (by simp)).toTuple).length ≤
        (Json.stringify decimal transition.toTuple).length := by
    simp only [DesignPrivacyTransition.toTuple, audit,
      binds.priorRevisionId, binds.priorTupleBinding,
      binds.priorPrivacyBinding, binds.fromLifecycle, binds.toLifecycle,
      binds.correlation, isTombstone, hasDigest, Option.map_some,
      Json.orNull]
    exact Json.length_stringify_array_mono decimal
      (.cons (le_refl _)
      (.cons (le_refl _)
      (.cons (le_refl _)
      (.cons
        (length_stringify_plain_mono occurredAt.plain
          transition.occurredAt.plain
          (Instant.length_le_of_le laterOccurred))
      (.cons (le_refl _)
      (.cons (le_refl _)
      (.cons (le_refl _)
      (.cons (le_refl _)
      (.cons (Digest.length_stringify_le_of _ digest)
      .nil)))))))))
  have shorterTuple :
      (Json.stringify decimal (.text smallestTuple.binding.val)).length ≤
        (Json.stringify decimal (.text revision.tupleBinding.val)).length := by
    rw [revision.tupleBinding_eq_binding]
    exact length_smallestTuple_le revision.tuple
  simp only [UncommittedRevision.commitmentLength,
    UncommittedRevision.commitmentDocument, smallestTombstone, changing,
    successor, DesignRevisionPrivacy.changed, nextSequence, sameTenant,
    sameProject, isNext, isParent, isTombstone, isAudit]
  exact Json.length_stringify_array_mono decimal
    (.cons (le_refl _)
    (.cons (le_refl _)
    (.cons (le_refl _)
    (.cons (le_refl _)
    (.cons
      (length_stringify_plain_mono head.otherIdentifier.plain
        revision.revisionId.plain
        (head.length_otherIdentifier.trans_le
          revision.revisionId.length_bounds.1))
    (.cons (le_refl _)
    (.cons (le_refl _)
    (.cons
      (length_stringify_plain_mono createdAt.plain
        revision.createdAt.plain (Instant.length_le_of_le laterCreated))
    (.cons shorterTuple
    (.cons (le_refl _)
    (.cons (le_refl _)
    (.cons shorterAudit
    .nil))))))))))))

theorem DesignRevisionHead.repeated_lt_smallestTombstone
    (head : DesignRevisionHead)
    (below : head.revision.sequence.val < JsNumber.maxSafeInteger)
    (createdAt occurredAt : Instant) :
    2 * (Json.stringify decimal (.text head.privacyBinding.val)).length +
        (Json.stringify decimal
          (.text head.revision.tupleBinding.val)).length <
      (head.smallestTombstone below createdAt
        occurredAt).commitmentLength head.privacyBinding := by
  have inAudit :
      ([.text head.revision.tupleBinding.val,
          .text head.privacyBinding.val].map
          fun item : Json Nat => (Json.stringify decimal item).length).sum <
        (Json.stringify decimal
          (head.audit .tombstoned occurredAt
            (some head.revision.privacy.tombstoneDigest)
            (by simp)).toTuple).length :=
    Json.sum_lt_length_stringify_array decimal
      (.cons _ (.cons _ (.cons _ (.cons _ (.cons _ (.cons _
        (.cons_cons _ (.cons_cons _ (.cons _ .slnil)))))))))
  have inCommitment :
      ([.text head.privacyBinding.val,
          (head.audit .tombstoned occurredAt
            (some head.revision.privacy.tombstoneDigest)
            (by simp)).toTuple].map
          fun item : Json Nat => (Json.stringify decimal item).length).sum <
        (head.smallestTombstone below createdAt
          occurredAt).commitmentLength head.privacyBinding :=
    Json.sum_lt_length_stringify_array decimal
      (.cons _ (.cons _ (.cons _ (.cons _ (.cons _ (.cons _ (.cons _
        (.cons _ (.cons _ (.cons_cons _ (.cons _
          (.cons_cons _ .slnil))))))))))))
  simp only [List.map_cons, List.map_nil, List.sum_cons,
    List.sum_nil] at inAudit inCommitment
  omega

theorem smallestTombstone_fits
    (allowed : CommitAllowed state command now)
    (isHead : state.head = some head)
    (isActive : head.revision.privacy.lifecycle = .active)
    (isTombstone : command.revision.privacy.lifecycle = .tombstoned) :
    ∃ continuable : Continuable state head,
      head.revision.createdAt ≤ now ∧
        ∃ createdAt, now ≤ createdAt ∧
          createdAt < head.revision.privacy.deleteAfter ∧
          (head.smallestTombstone continuable.sequence createdAt
            now).commitmentLength head.privacyBinding ≤ 8192 := by
  have changes :
      command.revision.privacy.lifecycle ≠
        head.revision.privacy.lifecycle := by
    rw [isTombstone, isActive]
    decide
  obtain ⟨sameTerms, transition, isAudit, binds⟩ :=
    lifecycleChange_of_commit allowed isHead changes
  have continuable := continuable_of_commit allowed isHead
  have follows := allowed.follows
  rw [isHead] at follows
  obtain ⟨isNext, _, isParent, _⟩ := follows
  obtain ⟨createdBefore, nowBefore⟩ := allowed.retained
  rw [sameTerms] at createdBefore nowBefore
  have fits :=
    DesignRevision.commitmentLength_le
      (DesignRevisionHead.bound_of_terms_eq sameTerms)
  -- The later one of the clock and the revision is not longer than either.
  obtain ⟨createdAt, notBeforeNow, notBeforeRevision, retained⟩ :
      ∃ createdAt : Instant, now ≤ createdAt ∧
        command.revision.createdAt ≤ createdAt ∧
        createdAt < head.revision.privacy.deleteAfter := by
    rcases le_total now.val command.revision.createdAt.val with
      nowFirst | creationFirst
    · exact ⟨_, nowFirst, le_refl command.revision.createdAt.val,
        createdBefore⟩
    · exact ⟨now, le_refl now.val, creationFirst, nowBefore⟩
  refine ⟨continuable,
    le_trans (α := JsString) binds.notBeforeHead binds.notAfterNow,
    createdAt, notBeforeNow, retained, ?_⟩
  exact le_trans
    (DesignRevisionHead.length_smallestTombstone_le continuable.sequence
      ((allowed.scope.2.2.1).trans
        (state.inScope.headTenant head isHead).symm)
      ((allowed.scope.2.2.2).trans
        (state.inScope.headProject head isHead).symm)
      isNext isParent isTombstone isAudit binds notBeforeRevision
      binds.notAfterNow)
    fits

/--
In every state of a run, a tombstone of an active head is accepted exactly if
the head can be continued, the clock has reached the head and the shortest
commitment of a tombstone has at most 8192 units; the first always holds in
runs that start without a head.
-/
theorem admitsTombstone_iff
    {startValue : JsValue}
    {start state : DesignRevisionState}
    {head : DesignRevisionHead}
    {now : Instant}
    (calls : List CommitCall)
    (isStart : parseDesignRevisionState startValue = .ok start)
    (isState :
      parseDesignRevisionState (settleAll commitStep startValue calls) =
        .ok state)
    (isHead : state.head = some head)
    (isActive : head.revision.privacy.lifecycle = .active)
    (grant : state.grantStatus.IsActive)
    (room : state.processedCommandIds.length < 10000)
    (early : now < head.revision.privacy.deleteAfter) :
    (AdmitsTombstone (settleAll commitStep startValue calls) head now ↔
        ∃ continuable : Continuable state head,
          head.revision.createdAt ≤ now ∧
            ∃ createdAt, now ≤ createdAt ∧
              createdAt < head.revision.privacy.deleteAfter ∧
              (head.smallestTombstone continuable.sequence createdAt
                now).commitmentLength head.privacyBinding ≤ 8192) ∧
      (start.head = none → Continuable state head) := by
  refine ⟨⟨?_, ?_⟩, continuable_of_headless isStart isState isHead⟩
  · rintro ⟨commandValue, command, next, isCommand, committed, isTombstone,
      sameTerms⟩
    have allowed := allowed_of_commit isState isCommand committed
    exact smallestTombstone_fits allowed isHead isActive isTombstone
  · rintro ⟨continuable, notBefore, createdAt, notAfter, retained, short⟩
    have live :
        head.revision.privacy.lifecycle ≠ .tombstoned ∧
          head.revision.privacy.lifecycle ≠ .expired := by
      rw [isActive]
      decide
    have edge :
        canTransitionPrivacyLifecycle head.revision.privacy.lifecycle
          .tombstoned = true := by
      rw [isActive]
      decide
    obtain ⟨command, next, isRevision, committed⟩ :=
      exists_command ⟨continuable.policy, grant, room⟩
        (DesignRevisionHead.changing_allowed isHead live rfl edge notBefore
          notAfter (le_refl now.val) retained early short)
    refine ⟨command.toJson.toJs, command, next,
      parseCommitDesignRevisionCommand_toJs command,
      commitDesignRevision_of_parsed isState committed, ?_, ?_⟩
    · rw [isRevision]
      rfl
    · rw [isRevision]
      rfl

/-! ## Active heads without a tombstone -/

/-- A clock that is behind the sample head. -/
def earlyClock : Instant :=
  ⟨js "2025-01-01T00:00:00.000Z", by decide +kernel⟩

/-- Identifiers of 128 units, in increasing order. -/
def longIdentifier (index : Fin 26) : Identifier :=
  ⟨0x7A :: Fin.ofNat 65536 (0x61 + index) :: List.replicate 126 0x61, by
    revert index
    decide +kernel⟩

/-- The sample terms with 26 long exclusions. -/
def crowdedTerms : DesignPrivacyTerms :=
  { sampleTerms with
    exclusions :=
      ⟨sampleTerms.exclusions.val ++
        (List.finRange 26).map longIdentifier, by decide +kernel⟩
    requiredExclusions := by decide +kernel }

theorem length_crowdedTerms :
    (Json.stringify decimal crowdedTerms.bindingDocument).length = 3942 := by
  decide +kernel

/-- The binding of the crowded terms. -/
def crowdedBinding : PrivacyBinding :=
  ⟨Json.stringify decimal crowdedTerms.bindingDocument,
    crowdedTerms.isBinding_iff.mpr
      (length_crowdedTerms.trans_le (by decide))⟩

theorem crowded_bound :
    createDesignRevisionPrivacyBindingFromParsed crowdedTerms.active =
      .ok crowdedBinding :=
  createDesignRevisionPrivacyBindingFromParsed_eq_ok.mpr rfl

/-- A head with the crowded terms. -/
def crowdedHead : DesignRevisionHead where
  revision :=
    (firstRevision shortIdentifier shortIdentifier shortIdentifier
      sampleInstant smallestTuple crowdedTerms).sealed
        crowdedBinding crowded_bound
        (UncommittedRevision.commitmentLength_le crowded_bound rfl)
  privacyBinding := crowdedBinding
  privacyBinding_eq := crowded_bound

/-- No tombstone of the crowded head can be committed to. -/
theorem crowdedHead_too_long
    (below :
      crowdedHead.revision.sequence.val < JsNumber.maxSafeInteger)
    (createdAt occurredAt : Instant) :
    8192 <
      (crowdedHead.smallestTombstone below createdAt
        occurredAt).commitmentLength crowdedHead.privacyBinding := by
  have privacyText :
      (Json.stringify decimal
        (.text crowdedHead.privacyBinding.val)).length = 4040 := by
    rw [Json.length_stringify_text]
    simp only [crowdedHead, crowdedBinding]
    rw [Json.length_escape_stringify decimal
      crowdedTerms.plain_bindingDocument, length_crowdedTerms]
    decide +kernel
  have tupleText :
      600 ≤
        (Json.stringify decimal
          (.text crowdedHead.revision.tupleBinding.val)).length := by
    decide +kernel
  have repeated :=
    crowdedHead.repeated_lt_smallestTombstone below createdAt occurredAt
  rw [privacyText] at repeated
  exact lt_trans (by decide : 8192 < 2 * 4040 + 600)
    (lt_of_le_of_lt (Nat.add_le_add_left tupleText _) repeated)

theorem crowdedHead_allowed :
    RevisionAllowed sampleState crowdedHead.revision
      sampleInstant where
  tenantId := rfl
  projectId := rfl
  live := by
    rintro kept ⟨⟩
  retained := ⟨sampleInstant_early, sampleInstant_early⟩
  follows := ⟨rfl, rfl⟩
  lifecycle := ⟨crowdedBinding, crowded_bound, check_of ⟨rfl, rfl⟩⟩

/--
Two active heads, each committed to a state without a head, that have no
tombstone: one while the clock is behind it, the other because its terms are
too long to be repeated in a commitment.
-/
theorem active_heads_admit_no_tombstone :
    (committedSample.head = some sampleHead ∧
      sampleHead.revision.privacy.lifecycle = .active ∧
      AcceptsCommands committedSample ∧
      earlyClock < sampleHead.revision.privacy.deleteAfter ∧
      ¬ AdmitsTombstone committedSample.toJson.toJs sampleHead
        earlyClock) ∧
      ∃ command : CommitDesignRevisionCommand, ∃ next,
        commitDesignRevision sampleState.toJson.toJs
            command.toJson.toJs sampleInstant.val = .ok next ∧
          next.head = some crowdedHead ∧
          crowdedHead.revision.privacy.lifecycle = .active ∧
          AcceptsCommands next ∧
          ∀ now, ¬ AdmitsTombstone next.toJson.toJs crowdedHead now := by
  constructor
  · refine ⟨committedSample_head, rfl, committedSample_accepts,
      (by decide +kernel : earlyClock < sampleTerms.deleteAfter), ?_⟩
    rintro ⟨_, command, _, isCommand, committed, isTombstone, _⟩
    obtain ⟨_, reached, _⟩ :=
      smallestTombstone_fits
        (allowed_of_commit (parseDesignRevisionState_toJs _) isCommand
          committed)
        committedSample_head rfl isTombstone
    exact absurd reached
      (by decide +kernel : ¬ sampleInstant ≤ earlyClock)
  · have accepts : AcceptsCommands sampleState :=
      ⟨by decide, by decide, by decide⟩
    obtain ⟨command, next, isRevision, committed⟩ :=
      exists_command accepts crowdedHead_allowed
    have commits := (commitParsed_eq_ok.mp committed).2
    obtain ⟨head, isHead, headRevision⟩ :=
      Option.map_eq_some_iff.mp commits.head
    have sameHead : head = crowdedHead :=
      DesignRevisionHead.eq_of_revision_eq (headRevision.trans isRevision)
    rw [sameHead] at isHead
    have nextAccepts : AcceptsCommands next :=
      { policy := by rw [commits.policy]; decide
        grant := by rw [commits.grantStatus]; decide
        room := by rw [commits.processedCommandIds]; simp [sampleState,
          maxCommands] }
    refine ⟨command, next,
      (commitDesignRevision_sent _ _ _).trans committed, isHead, rfl,
      nextAccepts, ?_⟩
    rintro now ⟨_, tombstone, _, isCommand, accepted, isTombstone, _⟩
    obtain ⟨continuable, _, createdAt, _, _, short⟩ :=
      smallestTombstone_fits
        (allowed_of_commit (parseDesignRevisionState_toJs next) isCommand
          accepted)
        isHead rfl isTombstone
    exact absurd short
      (not_le.mpr
        (crowdedHead_too_long continuable.sequence createdAt now))

/-- The equivalence for a tombstone of the sample head. -/
theorem admitsTombstone_iff_sample :
    AdmitsTombstone committedSample.toJson.toJs sampleHead
        sampleInstant ↔
      ∃ continuable : Continuable committedSample sampleHead,
        sampleHead.revision.createdAt ≤ sampleInstant ∧
          ∃ createdAt, sampleInstant ≤ createdAt ∧
            createdAt < sampleHead.revision.privacy.deleteAfter ∧
            (sampleHead.smallestTombstone continuable.sequence createdAt
              sampleInstant).commitmentLength
                sampleHead.privacyBinding ≤ 8192 := by
  have equivalence :=
    (admitsTombstone_iff _ (parseDesignRevisionState_toJs sampleState)
      settled_sample committedSample_head rfl committedSample_accepts.grant
      committedSample_accepts.room
      sampleInstant_early).1
  rwa [settleAll_sample, settleAll_nil] at equivalence

end Selene.Revision
