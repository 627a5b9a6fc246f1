import Selene.DesignRevisionRuns

/-!
# The privacy preflight and commits

`transitionDesignPrivacyLifecycle` and the lifecycle guards of a commit are two
gates of one lifecycle machine.  Whatever a commit lets through, the preflight
lets through as well, with one exception: only the preflight compares the
tombstone digest of the audit with the one in the deletion policy.
-/

namespace Selene.Revision

open Js

theorem transitionDesignPrivacyLifecycle_toJs
    {current : DesignRevisionPrivacy}
    {binding : PrivacyBinding}
    (bound :
      createDesignRevisionPrivacyBindingFromParsed current = .ok binding)
    (transition : DesignPrivacyTransition) :
    transitionDesignPrivacyLifecycle current.toJson.toJs
        transition.toJson.toJs =
      transitionParsed current transition := by
  have captured :
      snapshot current.toJson.toJs = .ok current.toJson.toJs :=
    snapshot_toJs (DesignRevisionPrivacy.fits bound) (by decide) (by decide)
      (by decide)
  simp only [transitionDesignPrivacyLifecycle, captured, ok_bind,
    privacy_toJs, parseDesignPrivacyTransition_toJs, pure, Except.pure]

theorem canTransitionPrivacyLifecycle_iff
    {before after : DesignPrivacyLifecycle} :
    canTransitionPrivacyLifecycle before after = true ↔
      (before = .active ∧
          (after = .redacted ∨ after = .tombstoned ∨ after = .expired)) ∨
        (before = .redacted ∧
          (after = .tombstoned ∨ after = .expired)) ∨
        (before = .tombstoned ∧ after = .expired) := by
  cases before <;> cases after <;> decide

/-- An audit that is bound to the head passes the checks of the preflight. -/
theorem AuditBindsHead.preflightAllowed
    {head : DesignRevisionHead}
    {revision : DesignRevision}
    {atInstant : Instant}
    {transition : DesignPrivacyTransition}
    (binds : AuditBindsHead head revision atInstant transition) :
    PreflightAllowed head.revision.privacy transition where
  fromLifecycle := binds.fromLifecycle
  edge := by
    rw [← binds.fromLifecycle]
    exact canTransitionPrivacyLifecycle_iff.mp binds.edge
  correlation := binds.correlation

theorem DesignRevisionPrivacy.ext_of_terms
    {first second : DesignRevisionPrivacy}
    (terms : first.toDesignPrivacyTerms = second.toDesignPrivacyTerms)
    (lifecycle : first.lifecycle = second.lifecycle)
    (lifecycleAudit : first.lifecycleAudit = second.lifecycleAudit) :
    first = second := by
  cases first
  cases second
  simp_all

theorem lifecycleChange_of_commit
    {state : DesignRevisionState}
    {command : CommitDesignRevisionCommand}
    {atInstant : Instant}
    {head : DesignRevisionHead}
    (allowed : CommitAllowed state command atInstant)
    (isHead : state.head = some head)
    (changes :
      command.revision.privacy.lifecycle ≠
        head.revision.privacy.lifecycle) :
    command.revision.privacy.toDesignPrivacyTerms =
        head.revision.privacy.toDesignPrivacyTerms ∧
      ∃ transition,
        command.revision.privacy.lifecycleAudit = some transition ∧
          AuditBindsHead head command.revision atInstant transition := by
  obtain ⟨binding, bound, passed⟩ := allowed.lifecycle
  rw [isHead] at passed
  obtain ⟨sameBinding, same | ⟨_, transition, isAudit, binds⟩⟩ :=
    checkLifecycle_some passed
  · exact (changes same.1).elim
  · refine ⟨?_, transition, isAudit, binds⟩
    rw [sameBinding] at bound
    exact terms_eq_of_binding_eq bound head.privacyBinding_eq

/--
An accepted lifecycle change passes the preflight, with the privacy record that
was committed, exactly if a tombstone carries the digest of the deletion
policy.
-/
theorem preflight_of_commit_iff
    {stateValue commandValue : JsValue}
    {now : JsString}
    {state next : DesignRevisionState}
    {command : CommitDesignRevisionCommand}
    {head : DesignRevisionHead}
    (isState : parseDesignRevisionState stateValue = .ok state)
    (isHead : state.head = some head)
    (isCommand :
      parseCommitDesignRevisionCommand commandValue = .ok command)
    (isCommitted :
      commitDesignRevision stateValue commandValue now = .ok next)
    (changes :
      command.revision.privacy.lifecycle ≠
        head.revision.privacy.lifecycle) :
    ∃ transition,
      command.revision.privacy.lifecycleAudit = some transition ∧
        (transitionDesignPrivacyLifecycle
              head.revision.privacy.toJson.toJs
              transition.toJson.toJs =
            .preflight command.revision.privacy transition ↔
          (command.revision.privacy.lifecycle = .tombstoned →
            transition.tombstoneDigest =
              some head.revision.privacy.tombstoneDigest)) := by
  obtain ⟨parsed, parsedCommand, atInstant, isParsed, isParsedCommand, _,
    allowed, _⟩ := commitDesignRevision_eq_ok.mp isCommitted
  rw [isState] at isParsed
  cases isParsed
  rw [isCommand] at isParsedCommand
  cases isParsedCommand
  obtain ⟨sameTerms, transition, isAudit, binds⟩ :=
    lifecycleChange_of_commit allowed isHead changes
  refine ⟨transition, isAudit, ?_⟩
  have preflight := binds.preflightAllowed
  have committed : preflight.next = command.revision.privacy :=
    DesignRevisionPrivacy.ext_of_terms sameTerms.symm binds.toLifecycle
      isAudit.symm
  rw [transitionDesignPrivacyLifecycle_toJs head.privacyBinding_eq,
    transitionParsed, dif_pos preflight, binds.toLifecycle]
  by_cases tombstone : command.revision.privacy.lifecycle = .tombstoned
  · by_cases matching :
        transition.tombstoneDigest =
          some head.revision.privacy.tombstoneDigest
    · simp [tombstone, matching, committed]
    · simp [tombstone, matching]
  · simp [tombstone, committed]

/-! ## A committed tombstone that the preflight rejects -/

/-- The digest of ones, which is not the digest of the sample terms. -/
def otherDigest : Digest :=
  ⟨List.replicate 64 0x31, by decide⟩

/-- An audit with a tombstone digest that the deletion policy does not fix. -/
def mismatchedAudit : DesignPrivacyTransition :=
  sampleHead.audit .tombstoned sampleInstant (some otherDigest)
    (by decide)

/-- A tombstone of the sample head with that audit. -/
def mismatchedTombstone : DesignRevision :=
  have inactive : mismatchedAudit.toLifecycle ≠ .active := by decide
  (sampleHead.successor secondSequence sampleInstant
    (sampleHead.revision.privacy.changed mismatchedAudit inactive
      rfl)).sealed
        sampleHead.privacyBinding
        (sampleHead.bound_changed mismatchedAudit inactive rfl)
        (by decide +kernel +revert)

/-- The command that commits the mismatched tombstone. -/
def mismatchedCommand : CommitDesignRevisionCommand where
  authority :=
    matchingAuthority committedSample mismatchedTombstone
      sampleHead.otherIdentifier sampleInstant
      sampleTerms.deleteAfter sampleInstant_early
  revision := mismatchedTombstone

theorem mismatchedCommand_accepted :
    (commitParsed committedSample mismatchedCommand
      sampleInstant).toOption.isSome = true := by
  decide +kernel

/-- A commit of the mismatched tombstone, on the values that are passed. -/
theorem commitDesignRevision_mismatched :
    ∃ next,
      commitDesignRevision committedSample.toJson.toJs
        mismatchedCommand.toJson.toJs sampleInstant.val =
          .ok next :=
  ⟨_, (commitDesignRevision_sent _ _ _).trans
    (eq_ok_get mismatchedCommand_accepted)⟩

/-- The mismatched tombstone is committed, and the preflight rejects it. -/
theorem committed_tombstone_fails_preflight :
    committedSample.head = some sampleHead ∧
      (∃ next,
        commitDesignRevision committedSample.toJson.toJs
          mismatchedCommand.toJson.toJs sampleInstant.val =
            .ok next) ∧
      mismatchedCommand.revision.privacy.lifecycle = .tombstoned ∧
      sampleHead.revision.privacy.lifecycle = .active ∧
      mismatchedCommand.revision.privacy.lifecycleAudit =
        some mismatchedAudit ∧
      transitionDesignPrivacyLifecycle
          sampleHead.revision.privacy.toJson.toJs
          mismatchedAudit.toJson.toJs =
        .unauthorized := by
  refine ⟨committedSample_head, commitDesignRevision_mismatched, rfl, rfl,
    rfl, ?_⟩
  rw [transitionDesignPrivacyLifecycle_toJs sampleHead.privacyBinding_eq]
  decide +kernel

/-- The equivalence at the mismatched tombstone. -/
theorem preflight_of_commit_iff_sample :
    ∃ transition,
      mismatchedCommand.revision.privacy.lifecycleAudit =
          some transition ∧
        (transitionDesignPrivacyLifecycle
              sampleHead.revision.privacy.toJson.toJs
              transition.toJson.toJs =
            .preflight mismatchedCommand.revision.privacy transition ↔
          (mismatchedCommand.revision.privacy.lifecycle = .tombstoned →
            transition.tombstoneDigest =
              some sampleHead.revision.privacy.tombstoneDigest)) := by
  obtain ⟨next, committed⟩ := commitDesignRevision_mismatched
  exact preflight_of_commit_iff (parseDesignRevisionState_toJs _)
    committedSample_head (parseCommitDesignRevisionCommand_toJs _) committed
    (by decide +kernel)

end Selene.Revision
