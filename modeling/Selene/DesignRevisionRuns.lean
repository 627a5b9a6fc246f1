import Selene.DesignRevisionSuccessor
import Selene.RejectingMachine

/-!
# Runs of design-revision commits

A host keeps the state value that the last accepted commit returned and passes
it to the next one.  The values of such a run are always accepted states, the
heads form one chain, and the processed command identifiers are exactly those
of the accepted commands.
-/

namespace Selene.Revision

open Js

/-! ## Closure -/

theorem commitDesignRevision_toJs
    (state : DesignRevisionState)
    (commandValue : JsValue)
    (now : JsString) :
    commitDesignRevision state.toJson.toJs commandValue now =
      (do
        let command ← parseCommitDesignRevisionCommand commandValue
        let atInstant ← instant (.string now)
        commitParsed state command atInstant) := by
  rw [commitDesignRevision, parseDesignRevisionState_toJs, ok_bind]

theorem commitDesignRevision_sent
    (state : DesignRevisionState)
    (command : CommitDesignRevisionCommand)
    (atInstant : Instant) :
    commitDesignRevision state.toJson.toJs command.toJson.toJs
        atInstant.val =
      commitParsed state command atInstant := by
  rw [commitDesignRevision_toJs, parseCommitDesignRevisionCommand_toJs,
    ok_bind, instant_val, ok_bind]

theorem commitDesignRevision_eq_ok
    {stateValue commandValue : JsValue}
    {now : JsString}
    {next : DesignRevisionState} :
    commitDesignRevision stateValue commandValue now = .ok next ↔
      ∃ state command atInstant,
        parseDesignRevisionState stateValue = .ok state ∧
          parseCommitDesignRevisionCommand commandValue = .ok command ∧
          instant (.string now) = .ok atInstant ∧
          CommitAllowed state command atInstant ∧
          Commits state command next := by
  unfold commitDesignRevision
  simp only [bind_eq_ok, commitParsed_eq_ok]
  constructor
  · rintro ⟨state, isState, command, isCommand, atInstant, isInstant,
      allowed, commits⟩
    exact ⟨state, command, atInstant, isState, isCommand, isInstant,
      allowed, commits⟩
  · rintro ⟨state, command, atInstant, isState, isCommand, isInstant,
      allowed, commits⟩
    exact ⟨state, isState, command, isCommand, atInstant, isInstant,
      allowed, commits⟩

/-- The state an accepted commit returns is accepted and parses to itself. -/
theorem commitDesignRevision_closed
    {stateValue commandValue : JsValue}
    {now : JsString}
    {state next : DesignRevisionState}
    (isState : parseDesignRevisionState stateValue = .ok state)
    (isCommitted :
      commitDesignRevision stateValue commandValue now = .ok next) :
    parseDesignRevisionState next.toJson.toJs = .ok next ∧
      next.processedCommandIds.length =
        state.processedCommandIds.length + 1 ∧
      next.processedCommandIds.length ≤ maxCommands ∧
      ∀ nextCommand later,
        commitDesignRevision next.toJson.toJs nextCommand later =
          (do
            let command ← parseCommitDesignRevisionCommand nextCommand
            let atInstant ← instant (.string later)
            commitParsed next command atInstant) := by
  obtain ⟨parsed, command, atInstant, isParsed, _, _, _, commits⟩ :=
    commitDesignRevision_eq_ok.mp isCommitted
  rw [isState] at isParsed
  cases isParsed
  refine ⟨parseDesignRevisionState_toJs next, ?_, next.boundedCommands,
    commitDesignRevision_toJs next⟩
  rw [commits.processedCommandIds, List.length_append,
    List.length_singleton]

/-- The first commit of the sample state. -/
theorem commitDesignRevision_closed_sample :
    parseDesignRevisionState committedSample.toJson.toJs =
        .ok committedSample ∧
      committedSample.processedCommandIds.length = 1 := by
  have closed :=
    commitDesignRevision_closed (parseDesignRevisionState_toJs sampleState)
      ((commitDesignRevision_sent _ _ _).trans commitParsed_sample)
  exact ⟨closed.1, closed.2.1⟩

/-! ## Steps -/

/-- Position along active, redacted, tombstoned, expired. -/
def DesignPrivacyLifecycle.rank : DesignPrivacyLifecycle → Nat
  | .active => 0
  | .redacted => 1
  | .tombstoned => 2
  | .expired => 3

theorem rank_lt_of_canTransition
    {before after : DesignPrivacyLifecycle}
    (edge : canTransitionPrivacyLifecycle before after = true) :
    before.rank < after.rank := by
  revert edge
  cases before <;> cases after <;> decide

/-- The new head continues the chain of the old one. -/
structure ContinuesChain (old new : DesignRevisionHead) : Prop where
  sequence :
    new.revision.sequence.val = old.revision.sequence.val + 1
  parentRevisionId :
    new.revision.parentRevisionId = some old.revision.revisionId
  createdAt : old.revision.createdAt ≤ new.revision.createdAt
  privacyBinding : new.privacyBinding = old.privacyBinding
  lifecycle :
    old.revision.privacy.lifecycle.rank ≤
      new.revision.privacy.lifecycle.rank
  live :
    old.revision.privacy.lifecycle ≠ .tombstoned ∧
      old.revision.privacy.lifecycle ≠ .expired

/-- One accepted command, as seen on the states around it. -/
structure ChainStep (before : DesignRevisionState)
    (command : CommitDesignRevisionCommand)
    (after : DesignRevisionState) : Prop where
  head :
    ∃ new, after.head = some new ∧ new.revision = command.revision ∧
      (before.head = none → new.revision.sequence.val = 1) ∧
      ∀ old ∈ before.head, ContinuesChain old new
  processedCommandIds :
    after.processedCommandIds =
      before.processedCommandIds ++ [command.authority.commandId]
  fresh : command.authority.commandId ∉ before.processedCommandIds
  distinct : after.processedCommandIds.Nodup
  bounded : after.processedCommandIds.length ≤ 10000
  policy : after.policy = before.policy
  grantStatus : after.grantStatus = before.grantStatus
  tenantId : after.tenantId = before.tenantId
  projectId : after.projectId = before.projectId

/-- The lifecycle guards keep the binding and never move back. -/
theorem checkLifecycle_some
    {head : DesignRevisionHead}
    {revision : DesignRevision}
    {binding : PrivacyBinding}
    {atInstant : Instant}
    (passed :
      checkLifecycle (some head) revision binding atInstant = .ok ()) :
    binding = head.privacyBinding ∧
      ((revision.privacy.lifecycle = head.revision.privacy.lifecycle ∧
          revision.privacy.lifecycleAudit = none) ∨
        (revision.privacy.lifecycle ≠ head.revision.privacy.lifecycle ∧
          ∃ transition,
            revision.privacy.lifecycleAudit = some transition ∧
              AuditBindsHead head revision atInstant transition)) := by
  simp only [checkLifecycle, check_bind_eq_ok] at passed
  obtain ⟨sameBinding, rest⟩ := passed
  refine ⟨sameBinding, ?_⟩
  split at rest
  · rename_i sameLifecycle
    exact .inl ⟨sameLifecycle, check_eq_ok.mp rest⟩
  · rename_i changed
    split at rest
    · cases rest
    · rename_i transition isAudit
      exact .inr ⟨changed, transition, isAudit, check_eq_ok.mp rest⟩

/-- Every accepted command takes one step along the chain. -/
theorem chainStep_of_commit
    {state next : DesignRevisionState}
    {command : CommitDesignRevisionCommand}
    {atInstant : Instant}
    (allowed : CommitAllowed state command atInstant)
    (commits : Commits state command next) :
    ChainStep state command next := by
  obtain ⟨new, isHead, isRevision⟩ :=
    Option.map_eq_some_iff.mp commits.head
  obtain ⟨binding, bound, lifecycle⟩ := allowed.lifecycle
  have follows := allowed.follows
  have sameBinding : binding = new.privacyBinding := by
    rw [← isRevision, new.privacyBinding_eq] at bound
    exact (Except.ok.inj bound).symm
  refine ⟨⟨new, isHead, isRevision, ?_, ?_⟩, commits.processedCommandIds,
    allowed.fresh, next.distinctCommands, next.boundedCommands,
    commits.policy, commits.grantStatus, commits.tenantId,
    commits.projectId⟩
  · intro headless
    rw [headless] at follows
    rw [isRevision]
    exact follows.1
  · intro old isOld
    have oldHead : state.head = some old := isOld
    have live := allowed.live old isOld
    rw [oldHead] at follows lifecycle
    obtain ⟨keptBinding, kept⟩ := checkLifecycle_some lifecycle
    obtain ⟨sequence, _, parent, notEarlier⟩ := follows
    rw [← isRevision] at sequence parent notEarlier
    refine ⟨sequence, parent, notEarlier, sameBinding ▸ keptBinding, ?_,
      live⟩
    rw [isRevision]
    rcases kept with ⟨same, _⟩ | ⟨_, transition, _, binds⟩
    · rw [same]
    · rw [← binds.fromLifecycle, ← binds.toLifecycle]
      exact (rank_lt_of_canTransition binds.edge).le

/-! ## Runs -/

/-- The arguments of one call beside the state. -/
structure CommitCall where
  command : JsValue
  now : JsString

/-- A commit as a host makes it: the returned state is the next argument. -/
def commitStep (stateValue : JsValue) (call : CommitCall) :
    Checked JsValue :=
  (commitDesignRevision stateValue call.command call.now).map
    fun next => next.toJson.toJs

/-- The identifier of a command. -/
def CommitCall.commandId (call : CommitCall) : Option Identifier :=
  match parseCommitDesignRevisionCommand call.command with
  | .ok command => some command.authority.commandId
  | .error _ => none

theorem commitStep_eq_ok
    {stateValue nextValue : JsValue}
    {call : CommitCall}
    (taken : commitStep stateValue call = .ok nextValue) :
    ∃ state command next,
      parseDesignRevisionState stateValue = .ok state ∧
        parseCommitDesignRevisionCommand call.command = .ok command ∧
        parseDesignRevisionState nextValue = .ok next ∧
        ChainStep state command next := by
  unfold commitStep at taken
  cases committed : commitDesignRevision stateValue call.command call.now with
  | error code =>
      rw [committed] at taken
      cases taken
  | ok next =>
      rw [committed] at taken
      cases taken
      obtain ⟨state, command, atInstant, isState, isCommand, _, allowed,
        commits⟩ := commitDesignRevision_eq_ok.mp committed
      exact ⟨state, command, next, isState, isCommand,
        parseDesignRevisionState_toJs next,
        chainStep_of_commit allowed commits⟩

/-- What a run keeps of the state it starts in. -/
structure KeepsScope (start final : DesignRevisionState) : Prop where
  policy : final.policy = start.policy
  grantStatus : final.grantStatus = start.grantStatus
  tenantId : final.tenantId = start.tenantId
  projectId : final.projectId = start.projectId
  head :
    ∀ old ∈ start.head, ∃ new, final.head = some new ∧
      new.privacyBinding = old.privacyBinding ∧
      old.revision.sequence.val ≤ new.revision.sequence.val ∧
      old.revision.createdAt ≤ new.revision.createdAt ∧
      old.revision.privacy.lifecycle.rank ≤
        new.revision.privacy.lifecycle.rank

namespace KeepsScope

protected theorem refl (state : DesignRevisionState) :
    KeepsScope state state where
  policy := rfl
  grantStatus := rfl
  tenantId := rfl
  projectId := rfl
  head old isOld :=
    ⟨old, isOld, rfl, Nat.le_refl _, le_refl old.revision.createdAt.val,
      Nat.le_refl _⟩

protected theorem trans
    {first second third : DesignRevisionState}
    (before : KeepsScope first second)
    (after : KeepsScope second third) :
    KeepsScope first third where
  policy := after.policy.trans before.policy
  grantStatus := after.grantStatus.trans before.grantStatus
  tenantId := after.tenantId.trans before.tenantId
  projectId := after.projectId.trans before.projectId
  head old isOld := by
    obtain ⟨middle, isMiddle, middleBinding, middleSequence, middleCreated,
      middleRank⟩ := before.head old isOld
    obtain ⟨new, isNew, newBinding, newSequence, newCreated, newRank⟩ :=
      after.head middle isMiddle
    exact ⟨new, isNew, newBinding.trans middleBinding,
      middleSequence.trans newSequence,
      le_trans (α := JsString) middleCreated newCreated,
      middleRank.trans newRank⟩

end KeepsScope

theorem ChainStep.keepsScope
    {before after : DesignRevisionState}
    {command : CommitDesignRevisionCommand}
    (step : ChainStep before command after) :
    KeepsScope before after where
  policy := step.policy
  grantStatus := step.grantStatus
  tenantId := step.tenantId
  projectId := step.projectId
  head old isOld := by
    obtain ⟨new, isNew, _, _, continues⟩ := step.head
    have chain := continues old isOld
    have sequence := chain.sequence
    exact ⟨new, isNew, chain.privacyBinding, by omega, chain.createdAt,
      chain.lifecycle⟩

/-- The value is an accepted state. -/
def IsState (stateValue : JsValue) : Prop :=
  ∃ state, parseDesignRevisionState stateValue = .ok state

/-- The identifiers a state value lists. -/
def processedCommandIds (stateValue : JsValue) : List Identifier :=
  match parseDesignRevisionState stateValue with
  | .ok state => state.processedCommandIds
  | .error _ => []

variable {stateValue : JsValue}

theorem processedCommandIds_of_ok
    {state : DesignRevisionState}
    (isState : parseDesignRevisionState stateValue = .ok state) :
    processedCommandIds stateValue = state.processedCommandIds := by
  rw [processedCommandIds, isState]

theorem isState_of_commitStep
    (stateValue : JsValue)
    (call : CommitCall)
    (nextValue : JsValue)
    (_ : IsState stateValue)
    (taken : commitStep stateValue call = .ok nextValue) :
    IsState nextValue := by
  obtain ⟨_, _, next, _, _, isNext, _⟩ := commitStep_eq_ok taken
  exact ⟨next, isNext⟩

theorem keepsScope_settleAll
    {start : DesignRevisionState}
    (isStart : parseDesignRevisionState stateValue = .ok start)
    (calls : List CommitCall) :
    ∃ final,
      parseDesignRevisionState (settleAll commitStep stateValue calls) =
        .ok final ∧ KeepsScope start final := by
  let related (value later : JsValue) : Prop :=
    ∀ state, parseDesignRevisionState value = .ok state →
      ∃ last, parseDesignRevisionState later = .ok last ∧
        KeepsScope state last
  have overRuns : related stateValue (settleAll commitStep stateValue calls) := by
    apply settleAll_related related
    · exact fun _ state isState => ⟨state, isState, .refl state⟩
    · intro first second third before after state isState
      obtain ⟨middle, isMiddle, firstKeeps⟩ := before state isState
      obtain ⟨last, isLast, secondKeeps⟩ := after middle isMiddle
      exact ⟨last, isLast, firstKeeps.trans secondKeeps⟩
    · intro value call nextValue taken state isState
      obtain ⟨before, command, next, isBefore, _, isNext, step⟩ :=
        commitStep_eq_ok taken
      rw [isState] at isBefore
      cases isBefore
      exact ⟨next, isNext, step.keepsScope⟩
  exact overRuns start isStart

theorem processedCommandIds_settleAll
    (stateValue : JsValue)
    (calls : List CommitCall) :
    processedCommandIds (settleAll commitStep stateValue calls) =
      processedCommandIds stateValue ++
        (accepted commitStep stateValue calls).filterMap
          fun transition => transition.call.commandId := by
  apply log_settleAll processedCommandIds CommitCall.commandId
  intro value call nextValue taken
  obtain ⟨before, command, next, isBefore, isCommand, isNext, step⟩ :=
    commitStep_eq_ok taken
  refine ⟨command.authority.commandId, ?_, ?_⟩
  · rw [CommitCall.commandId, isCommand]
  · rw [processedCommandIds_of_ok isBefore, processedCommandIds_of_ok isNext,
      step.processedCommandIds]

theorem commit_rejected_of_ended
    {state : DesignRevisionState}
    {head : DesignRevisionHead}
    (isState : parseDesignRevisionState stateValue = .ok state)
    (isHead : state.head = some head)
    (ended :
      head.revision.privacy.lifecycle = .tombstoned ∨
        head.revision.privacy.lifecycle = .expired)
    (commandValue : JsValue)
    (now : JsString) :
    ∃ code,
      commitDesignRevision stateValue commandValue now = .error code := by
  cases committed : commitDesignRevision stateValue commandValue now with
  | error code => exact ⟨code, rfl⟩
  | ok next =>
      obtain ⟨parsed, _, _, isParsed, _, _, allowed, _⟩ :=
        commitDesignRevision_eq_ok.mp committed
      rw [isState] at isParsed
      cases isParsed
      have live := allowed.live head isHead
      rcases ended with tombstoned | expired
      · exact (live.1 tombstoned).elim
      · exact (live.2 expired).elim

/--
Every run from an accepted state stays in accepted states, its accepted
commands form one chain of heads, and what is not part of a command never
changes.
-/
theorem commit_runs
    {stateValue : JsValue}
    {start : DesignRevisionState}
    (isStart : parseDesignRevisionState stateValue = .ok start)
    (calls : List CommitCall) :
    (∃ final,
      parseDesignRevisionState (settleAll commitStep stateValue calls) =
          .ok final ∧
        KeepsScope start final ∧
        final.processedCommandIds =
          start.processedCommandIds ++
            (accepted commitStep stateValue calls).filterMap
              (fun transition => transition.call.commandId) ∧
        final.processedCommandIds.Nodup ∧
        final.processedCommandIds.length ≤ 10000 ∧
        ∀ head, final.head = some head →
          (head.revision.privacy.lifecycle = .tombstoned ∨
            head.revision.privacy.lifecycle = .expired) →
          ∀ commandValue now, ∃ code,
            commitDesignRevision (settleAll commitStep stateValue calls)
              commandValue now = .error code) ∧
      ∀ transition ∈ accepted commitStep stateValue calls,
        ∃ before command after,
          parseDesignRevisionState transition.before = .ok before ∧
            parseCommitDesignRevisionCommand transition.call.command =
              .ok command ∧
            parseDesignRevisionState transition.after = .ok after ∧
            ChainStep before command after := by
  constructor
  · obtain ⟨final, isFinal, keeps⟩ := keepsScope_settleAll isStart calls
    have logged := processedCommandIds_settleAll stateValue calls
    rw [processedCommandIds_of_ok isFinal,
      processedCommandIds_of_ok isStart] at logged
    exact ⟨final, isFinal, keeps, logged, final.distinctCommands,
      final.boundedCommands,
      fun head isHead ended => commit_rejected_of_ended isFinal isHead ended⟩
  · intro transition member
    obtain ⟨_, taken⟩ :=
      forall_accepted IsState isState_of_commitStep ⟨start, isStart⟩ calls
        transition member
    obtain ⟨before, command, after, isBefore, isCommand, isAfter, step⟩ :=
      commitStep_eq_ok taken
    exact ⟨before, command, after, isBefore, isCommand, isAfter, step⟩

/-- The sample command, sent twice. -/
theorem commit_runs_sample :
    ∃ final,
      parseDesignRevisionState
          (settleAll commitStep sampleState.toJson.toJs
            (List.replicate 2
              { command := sampleCommand.toJson.toJs
                now := sampleInstant.val })) =
          .ok final ∧
        final.policy = sampleState.policy ∧
        final.processedCommandIds.Nodup := by
  obtain ⟨⟨final, isFinal, keeps, _, distinct, _⟩, _⟩ :=
    commit_runs (parseDesignRevisionState_toJs sampleState)
      (List.replicate 2
        { command := sampleCommand.toJson.toJs
          now := sampleInstant.val })
  exact ⟨final, isFinal, keeps.policy, distinct⟩

end Selene.Revision
