import Selene.DesignRevisionState

/-!
# Committing a design revision

`commitDesignRevision` and the privacy preflight
`transitionDesignPrivacyLifecycle`.  The guards of a commit run in the order of
the source, so the error of a rejected command is that of its first failing
guard.
-/

namespace Selene.Revision

open Js

/-- `canTransitionPrivacyLifecycle`. -/
def canTransitionPrivacyLifecycle
    (before after : DesignPrivacyLifecycle) : Bool :=
  (before = .active &&
      (after = .redacted || after = .tombstoned || after = .expired)) ||
    (before = .redacted && (after = .tombstoned || after = .expired)) ||
    (before = .tombstoned && after = .expired)

/-- A command, parsed. -/
structure CommitDesignRevisionCommand where
  authority : DesignRevisionAuthority
  revision : DesignRevision

/-- The command of `commitDesignRevision`. -/
def parseCommitDesignRevisionCommand (value : JsValue) :
    Checked CommitDesignRevisionCommand := do
  let input ← exact (← snapshot value) ["authority", "format", "revision"]
  check (IsText (input.get (js "format"))
    (js "selene-design-revision-command/v2")) .unsupported
  let authority ← parseDesignRevisionAuthority
    (input.get (js "authority"))
  let revision ← parseDesignRevision (input.get (js "revision"))
  return { authority, revision }

/-- `capabilities.includes('design:revision.commit')`. -/
def Capabilities.AllowsCommit (set : Capabilities) : Prop :=
  DesignRevisionCapability.commit ∈ set.val.val

instance (set : Capabilities) : Decidable set.AllowsCommit :=
  inferInstanceAs (Decidable (_ ∈ _))

/-- The audit of a lifecycle change is bound to the trusted prior head. -/
structure AuditBindsHead (head : DesignRevisionHead)
    (revision : DesignRevision) (atInstant : Instant)
    (transition : DesignPrivacyTransition) : Prop where
  priorRevisionId :
    transition.priorRevisionId = some head.revision.revisionId
  priorTupleBinding :
    transition.priorTupleBinding = some head.revision.tupleBinding
  priorPrivacyBinding :
    transition.priorPrivacyBinding = some head.privacyBinding
  fromLifecycle :
    transition.fromLifecycle = head.revision.privacy.lifecycle
  toLifecycle : transition.toLifecycle = revision.privacy.lifecycle
  edge :
    canTransitionPrivacyLifecycle transition.fromLifecycle
      transition.toLifecycle = true
  correlation :
    transition.auditCorrelationId =
      head.revision.privacy.auditCorrelationId
  notBeforeHead : head.revision.createdAt ≤ transition.occurredAt
  notAfterRevision : transition.occurredAt ≤ revision.createdAt
  notAfterNow : transition.occurredAt ≤ atInstant

instance (head : DesignRevisionHead) (revision : DesignRevision)
    (atInstant : Instant) (transition : DesignPrivacyTransition) :
    Decidable (AuditBindsHead head revision atInstant transition) :=
  decidable_of_iff
    (transition.priorRevisionId = some head.revision.revisionId ∧
      transition.priorTupleBinding = some head.revision.tupleBinding ∧
      transition.priorPrivacyBinding = some head.privacyBinding ∧
      transition.fromLifecycle = head.revision.privacy.lifecycle ∧
      transition.toLifecycle = revision.privacy.lifecycle ∧
      canTransitionPrivacyLifecycle transition.fromLifecycle
        transition.toLifecycle = true ∧
      transition.auditCorrelationId =
        head.revision.privacy.auditCorrelationId ∧
      head.revision.createdAt ≤ transition.occurredAt ∧
      transition.occurredAt ≤ revision.createdAt ∧
      transition.occurredAt ≤ atInstant)
    ⟨fun ⟨revisionId, tuple, privacy, before, after, edge, correlation,
        notBefore, notAfter, notLater⟩ =>
        ⟨revisionId, tuple, privacy, before, after, edge, correlation,
          notBefore, notAfter, notLater⟩,
      fun binds => ⟨binds.priorRevisionId, binds.priorTupleBinding,
        binds.priorPrivacyBinding, binds.fromLifecycle, binds.toLifecycle,
        binds.edge, binds.correlation, binds.notBeforeHead,
        binds.notAfterRevision, binds.notAfterNow⟩⟩

/-- The guards on the privacy lifecycle. -/
def checkLifecycle (head : Option DesignRevisionHead)
    (revision : DesignRevision) (nextPrivacyBinding : PrivacyBinding)
    (atInstant : Instant) : Checked Unit :=
  match head with
  | none =>
      check
        (revision.privacy.lifecycle = .active ∧
          revision.privacy.lifecycleAudit = none) .unauthorized
  | some head => do
      check (nextPrivacyBinding = head.privacyBinding) .conflict
      if revision.privacy.lifecycle = head.revision.privacy.lifecycle then
        check (revision.privacy.lifecycleAudit = none) .conflict
      else
        match revision.privacy.lifecycleAudit with
        | none => .error .unauthorized
        | some transition =>
            check (AuditBindsHead head revision atInstant transition)
              .unauthorized

/-- The guards on the position of the revision in the chain. -/
def FollowsHead (head : Option DesignRevisionHead)
    (revision : DesignRevision) : Prop :=
  match head with
  | none =>
      revision.sequence.val = 1 ∧ revision.parentRevisionId = none
  | some head =>
      revision.sequence.val = head.revision.sequence.val + 1 ∧
        revision.revisionId ≠ head.revision.revisionId ∧
        revision.parentRevisionId = some head.revision.revisionId ∧
        head.revision.createdAt ≤ revision.createdAt

instance (head : Option DesignRevisionHead) (revision : DesignRevision) :
    Decidable (FollowsHead head revision) := by
  unfold FollowsHead
  split <;> infer_instance

/-- No command is accepted on a tombstoned or expired head. -/
def IsLive (head : Option DesignRevisionHead) : Prop :=
  ∀ kept ∈ head,
    kept.revision.privacy.lifecycle ≠ .tombstoned ∧
      kept.revision.privacy.lifecycle ≠ .expired

instance (head : Option DesignRevisionHead) : Decidable (IsLive head) :=
  inferInstanceAs (Decidable (∀ kept ∈ head, _))

/-- `commitDesignRevision` once its arguments are parsed. -/
def commitParsed (state : DesignRevisionState)
    (command : CommitDesignRevisionCommand) (atInstant : Instant) :
    Checked DesignRevisionState := do
  let authority := command.authority
  let revision := command.revision
  let ⟨scope⟩ ← require
    (authority.tenantId = state.tenantId ∧
      authority.projectId = state.projectId ∧
      revision.tenantId = state.tenantId ∧
      revision.projectId = state.projectId) .unauthorized
  check
    (authority.policyId = state.policy.policyId ∧
      authority.policyRevision = state.policy.revision ∧
      authority.policyDigest = state.policy.digest ∧
      authority.capabilities.AllowsCommit ∧
      state.policy.capabilities.AllowsCommit ∧
      ∀ member ∈ authority.capabilities.val.val,
        member ∈ state.policy.capabilities.val.val) .stale
  let trustAnchor := state.policy.trustAnchor
  check
    (authority.issuer = trustAnchor.issuer ∧
      authority.audience = trustAnchor.audience ∧
      authority.grantId = trustAnchor.grantId ∧
      authority.schemaRevision = trustAnchor.schemaRevision ∧
      authority.commandsDigest = trustAnchor.commandsDigest) .unauthorized
  check
    (state.grantStatus.IsActive ∧
      authority.grantId = state.grantStatus.grantId ∧
      authority.grantEpoch = state.grantStatus.epoch) .unauthorized
  check
    (authority.revisionId = revision.revisionId ∧
      authority.tupleBinding = revision.tupleBinding ∧
      authority.revisionCommitment = revision.revisionCommitment)
    .unauthorized
  check
    ((∀ revokedAt ∈ authority.revokedAt, atInstant < revokedAt) ∧
      authority.issuedAt ≤ atInstant ∧ atInstant ≤ authority.expiresAt ∧
      authority.issuedAt ≤ revision.createdAt ∧
      revision.createdAt ≤ authority.expiresAt) .unauthorized
  check (IsLive state.head) .unauthorized
  check
    (revision.createdAt < revision.privacy.deleteAfter ∧
      atInstant < revision.privacy.deleteAfter) .unauthorized
  let ⟨fresh⟩ ← require
    (authority.commandId ∉ state.processedCommandIds) .replay
  let ⟨room⟩ ← require
    (state.processedCommandIds.length < maxCommands) .recovery
  check (FollowsHead state.head revision) .conflict
  let ⟨nextPrivacyBinding, privacyBinding_eq⟩ ← witnessed
    (createDesignRevisionPrivacyBindingFromParsed revision.privacy)
  checkLifecycle state.head revision nextPrivacyBinding atInstant
  return {
    state with
    processedCommandIds :=
      state.processedCommandIds ++ [authority.commandId]
    head := some {
      revision
      privacyBinding := nextPrivacyBinding
      privacyBinding_eq }
    distinctCommands := by
      rw [List.nodup_append]
      refine ⟨state.distinctCommands, by simp, ?_⟩
      intro known inKnown added isAdded same
      rw [List.mem_singleton] at isAdded
      exact fresh (isAdded ▸ same ▸ inKnown)
    boundedCommands := by
      rw [List.length_append]
      exact room
    inScope :=
      { policyTenant := state.inScope.policyTenant
        policyProject := state.inScope.policyProject
        grant := state.inScope.grant
        headTenant := by simpa using scope.2.2.1
        headProject := by simpa using scope.2.2.2 } }

/-- `commitDesignRevision`. -/
def commitDesignRevision (stateValue commandValue : JsValue)
    (now : JsString) : Checked DesignRevisionState := do
  let state ← parseDesignRevisionState stateValue
  let command ← parseCommitDesignRevisionCommand commandValue
  let atInstant ← instant (.string now)
  commitParsed state command atInstant

/-! ## What an accepted commit is -/

/-- Everything `commitParsed` checks. -/
structure CommitAllowed (state : DesignRevisionState)
    (command : CommitDesignRevisionCommand) (atInstant : Instant) :
    Prop where
  scope :
    command.authority.tenantId = state.tenantId ∧
      command.authority.projectId = state.projectId ∧
      command.revision.tenantId = state.tenantId ∧
      command.revision.projectId = state.projectId
  policy :
    command.authority.policyId = state.policy.policyId ∧
      command.authority.policyRevision = state.policy.revision ∧
      command.authority.policyDigest = state.policy.digest ∧
      command.authority.capabilities.AllowsCommit ∧
      state.policy.capabilities.AllowsCommit ∧
      ∀ member ∈ command.authority.capabilities.val.val,
        member ∈ state.policy.capabilities.val.val
  trustAnchor :
    command.authority.issuer = state.policy.trustAnchor.issuer ∧
      command.authority.audience = state.policy.trustAnchor.audience ∧
      command.authority.grantId = state.policy.trustAnchor.grantId ∧
      command.authority.schemaRevision =
        state.policy.trustAnchor.schemaRevision ∧
      command.authority.commandsDigest =
        state.policy.trustAnchor.commandsDigest
  grant :
    state.grantStatus.IsActive ∧
      command.authority.grantId = state.grantStatus.grantId ∧
      command.authority.grantEpoch = state.grantStatus.epoch
  revision :
    command.authority.revisionId = command.revision.revisionId ∧
      command.authority.tupleBinding = command.revision.tupleBinding ∧
      command.authority.revisionCommitment =
        command.revision.revisionCommitment
  unexpired :
    (∀ revokedAt ∈ command.authority.revokedAt, atInstant < revokedAt) ∧
      command.authority.issuedAt ≤ atInstant ∧
      atInstant ≤ command.authority.expiresAt ∧
      command.authority.issuedAt ≤ command.revision.createdAt ∧
      command.revision.createdAt ≤ command.authority.expiresAt
  live : IsLive state.head
  retained :
    command.revision.createdAt < command.revision.privacy.deleteAfter ∧
      atInstant < command.revision.privacy.deleteAfter
  fresh : command.authority.commandId ∉ state.processedCommandIds
  room : state.processedCommandIds.length < maxCommands
  follows : FollowsHead state.head command.revision
  lifecycle :
    ∃ binding,
      createDesignRevisionPrivacyBindingFromParsed
          command.revision.privacy =
        .ok binding ∧
      checkLifecycle state.head command.revision binding atInstant = .ok ()

/-- The state after an accepted command. -/
structure Commits (state : DesignRevisionState)
    (command : CommitDesignRevisionCommand) (next : DesignRevisionState) :
    Prop where
  tenantId : next.tenantId = state.tenantId
  projectId : next.projectId = state.projectId
  policy : next.policy = state.policy
  grantStatus : next.grantStatus = state.grantStatus
  processedCommandIds :
    next.processedCommandIds =
      state.processedCommandIds ++ [command.authority.commandId]
  head : next.head.map DesignRevisionHead.revision = some command.revision

theorem DesignRevisionHead.eq_of_revision_eq
    {first second : DesignRevisionHead}
    (same : first.revision = second.revision) :
    first = second := by
  obtain ⟨firstRevision, firstBinding, firstBound⟩ := first
  obtain ⟨secondRevision, secondBinding, secondBound⟩ := second
  subst same
  rw [firstBound] at secondBound
  cases secondBound
  rfl

theorem commitParsed_eq_ok
    {state next : DesignRevisionState}
    {command : CommitDesignRevisionCommand}
    {atInstant : Instant} :
    commitParsed state command atInstant = .ok next ↔
      CommitAllowed state command atInstant ∧
        Commits state command next := by
  unfold commitParsed
  simp only [check_bind_eq_ok, require_bind_eq_ok, witnessed_bind_eq_ok]
  simp only [bind_eq_ok]
  constructor
  · rintro ⟨scope, policy, trustAnchor, grant, revision, unexpired, live,
      retained, fresh, room, follows, binding, bound, _, lifecycle,
      result⟩
    cases result
    exact ⟨⟨scope, policy, trustAnchor, grant, revision, unexpired, live,
        retained, fresh, room, follows, binding, bound, lifecycle⟩,
      ⟨rfl, rfl, rfl, rfl, rfl, rfl⟩⟩
  · rintro ⟨⟨scope, policy, trustAnchor, grant, revision, unexpired, live,
        retained, fresh, room, follows, binding, bound, lifecycle⟩,
      ⟨sameTenant, sameProject, samePolicy, sameGrant, commands, newHead⟩⟩
    refine ⟨scope, policy, trustAnchor, grant, revision, unexpired, live,
      retained, fresh, room, follows, binding, bound, (), lifecycle, ?_⟩
    obtain ⟨kept, isHead, isRevision⟩ := Option.map_eq_some_iff.mp newHead
    have sameHead :
        kept =
          { revision := command.revision
            privacyBinding := binding
            privacyBinding_eq := bound } :=
      DesignRevisionHead.eq_of_revision_eq isRevision
    cases next
    simp_all
    rfl

/-! ## The privacy preflight -/

/-- `DesignPrivacyTransitionOutcome`. -/
inductive DesignPrivacyTransitionOutcome where
  | preflight (privacy : DesignRevisionPrivacy)
      (audit : DesignPrivacyTransition)
  | conflict
  | unauthorized
  deriving DecidableEq

/-- How a rejected preflight is classified. -/
def DesignPrivacyTransitionOutcome.ofCode :
    ValidationCode → DesignPrivacyTransitionOutcome
  | .conflict => .conflict
  | _ => .unauthorized

/-- `isAllowed`, with the two other checks of the same branch. -/
structure PreflightAllowed (current : DesignRevisionPrivacy)
    (transition : DesignPrivacyTransition) : Prop where
  fromLifecycle : transition.fromLifecycle = current.lifecycle
  edge :
    (current.lifecycle = .active ∧
        (transition.toLifecycle = .redacted ∨
          transition.toLifecycle = .tombstoned ∨
          transition.toLifecycle = .expired)) ∨
      (current.lifecycle = .redacted ∧
        (transition.toLifecycle = .tombstoned ∨
          transition.toLifecycle = .expired)) ∨
      (current.lifecycle = .tombstoned ∧ transition.toLifecycle = .expired)
  correlation : transition.auditCorrelationId = current.auditCorrelationId

instance (current : DesignRevisionPrivacy)
    (transition : DesignPrivacyTransition) :
    Decidable (PreflightAllowed current transition) :=
  decidable_of_iff
    (transition.fromLifecycle = current.lifecycle ∧
      ((current.lifecycle = .active ∧
          (transition.toLifecycle = .redacted ∨
            transition.toLifecycle = .tombstoned ∨
            transition.toLifecycle = .expired)) ∨
        (current.lifecycle = .redacted ∧
          (transition.toLifecycle = .tombstoned ∨
            transition.toLifecycle = .expired)) ∨
        (current.lifecycle = .tombstoned ∧
          transition.toLifecycle = .expired)) ∧
      transition.auditCorrelationId = current.auditCorrelationId)
    ⟨fun ⟨before, edge, correlation⟩ => ⟨before, edge, correlation⟩,
      fun allowed => ⟨allowed.fromLifecycle, allowed.edge,
        allowed.correlation⟩⟩

/-- The privacy record after an allowed transition. -/
def PreflightAllowed.next
    {current : DesignRevisionPrivacy}
    {transition : DesignPrivacyTransition}
    (allowed : PreflightAllowed current transition) :
    DesignRevisionPrivacy :=
  { current with
    lifecycle := transition.toLifecycle
    lifecycleAudit := some transition
    auditMatches := by
      refine ⟨?_, rfl, allowed.correlation⟩
      intro isActive
      have edge := allowed.edge
      simp [isActive] at edge }

/-- The body of `transitionDesignPrivacyLifecycle`, before classification. -/
def transitionParsed (current : DesignRevisionPrivacy)
    (transition : DesignPrivacyTransition) :
    DesignPrivacyTransitionOutcome :=
  if allowed : PreflightAllowed current transition then
    if transition.toLifecycle = .tombstoned ∧
        transition.tombstoneDigest ≠ some current.tombstoneDigest then
      .unauthorized
    else
      .preflight allowed.next transition
  else
    .conflict

/-- `transitionDesignPrivacyLifecycle`. -/
def transitionDesignPrivacyLifecycle
    (privacyValue transitionValue : JsValue) :
    DesignPrivacyTransitionOutcome :=
  let parsed : Checked (DesignRevisionPrivacy × DesignPrivacyTransition) :=
    do
      let current ← privacy (← snapshot privacyValue)
      let transition ← parseDesignPrivacyTransition transitionValue
      return (current, transition)
  match parsed with
  | .ok (current, transition) => transitionParsed current transition
  | .error code => .ofCode code

end Selene.Revision
