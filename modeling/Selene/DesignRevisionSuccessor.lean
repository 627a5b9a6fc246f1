import Selene.DesignRevisionCommit
import Selene.DesignRevisionSealing
import Selene.DesignRevisionStateRoundTrip

/-!
# Successors of a head

A host that wants to commit a revision needs a command for it: an authority
that the state's policy, trust anchor and grant admit and whose command
identifier is new.  Such an authority exists for every state that can accept
commits, so only the guards on the revision itself decide about a successor.
-/

namespace Selene.Revision

open Js

/-! ## Commands -/

/-- A command as it is sent. -/
def CommitDesignRevisionCommand.toJson
    (command : CommitDesignRevisionCommand) : Json Nat :=
  .object [
    (js "format", .text (js "selene-design-revision-command/v2")),
    (js "authority", command.authority.toJson),
    (js "revision", command.revision.toJson)]

theorem CommitDesignRevisionCommand.fits
    (command : CommitDesignRevisionCommand) :
    Document.Fits command.toJson 3500 170000 5 :=
  .mono
    (.object
      (.entry (by decide) (fits_literal (by decide))
      (.entry (by decide) command.authority.fits
      (.entry (by decide) command.revision.fits
      .nil))))
    (by decide) (by decide) (by decide)

@[simp] theorem parseCommitDesignRevisionCommand_toJs
    (command : CommitDesignRevisionCommand) :
    parseCommitDesignRevisionCommand command.toJson.toJs = .ok command := by
  have captured :
      snapshot command.toJson.toJs = .ok command.toJson.toJs :=
    snapshot_toJs command.fits (by decide) (by decide) (by decide)
  have shape :
      exact command.toJson.toJs ["authority", "format", "revision"] =
        .ok _ :=
    exact_object (by simp) (by simp)
  rw [parseCommitDesignRevisionCommand, captured, ok_bind, shape, ok_bind]
  simp

/-! ## New command identifiers -/

theorem isIdentifier_decimalDigits
    {value : Nat}
    (bounded : value < 10 ^ 128) :
    IsIdentifier (decimalDigits value) := by
  have short : (decimalDigits value).length ≤ 128 := by
    rw [length_decimalDigits]
    exact (Nat.length_toDigits_le_iff (by decide) (by decide)).mpr bounded
  have digits :
      ∀ unit ∈ decimalDigits value, 0x30 ≤ unit.val ∧ unit.val ≤ 0x39 :=
    fun _ => digit_of_mem_decimalDigits
  cases text : decimalDigits value with
  | nil => exact (decimal.nonempty value text).elim
  | cons first rest =>
      rw [text] at short digits
      refine ⟨.inl (digits first (by simp)), ?_, ?_⟩
      · intro unit member
        exact .inl (.inl (digits unit (List.mem_cons_of_mem _ member)))
      · exact Nat.le_of_succ_le_succ short

/-- No list of fewer than 10001 identifiers lists all of them. -/
theorem exists_fresh_identifier
    {known : List Identifier}
    (bounded : known.length ≤ maxCommands) :
    ∃ fresh : Identifier, fresh ∉ known := by
  let numbered (index : Fin (maxCommands + 1)) : Identifier :=
    ⟨decimalDigits index,
      isIdentifier_decimalDigits (index.isLt.trans (by decide))⟩
  have different : Function.Injective numbered := by
    intro first second same
    exact Fin.ext (decimal.injective (Subtype.mk.inj same))
  have distinct : ((List.finRange (maxCommands + 1)).map numbered).Nodup :=
    (List.nodup_finRange _).map different
  by_contra allKnown
  have short :=
    (List.subperm_of_subset distinct fun identifier _ =>
      not_not.mp fun fresh => allKnown ⟨identifier, fresh⟩).length_le
  rw [List.length_map, List.length_finRange] at short
  omega

/-! ## Authorities -/

/-- The authority that a state admits for a revision. -/
def matchingAuthority (state : DesignRevisionState)
    (revision : DesignRevision) (commandId : Identifier)
    (issuedAt expiresAt : Instant) (expires : issuedAt < expiresAt) :
    DesignRevisionAuthority where
  tenantId := state.tenantId
  projectId := state.projectId
  actorId := shortIdentifier
  commandId := commandId
  policyId := state.policy.policyId
  policyRevision := state.policy.revision
  policyDigest := state.policy.digest
  revisionId := revision.revisionId
  tupleBinding := revision.tupleBinding
  revisionCommitment := revision.revisionCommitment
  capabilities := state.policy.capabilities
  grantId := state.grantStatus.grantId
  grantEpoch := state.grantStatus.epoch
  issuer := state.policy.trustAnchor.issuer
  audience := state.policy.trustAnchor.audience
  schemaRevision := state.policy.trustAnchor.schemaRevision
  commandsDigest := state.policy.trustAnchor.commandsDigest
  issuedAt := issuedAt
  expiresAt := expiresAt
  revokedAt := none
  expires := expires

/-- The state can accept commands at all. -/
structure AcceptsCommands (state : DesignRevisionState) : Prop where
  policy : state.policy.capabilities.AllowsCommit
  grant : state.grantStatus.IsActive
  room : state.processedCommandIds.length < maxCommands

/-- The guards of a commit on the revision itself. -/
structure RevisionAllowed (state : DesignRevisionState)
    (revision : DesignRevision) (atInstant : Instant) : Prop where
  tenantId : revision.tenantId = state.tenantId
  projectId : revision.projectId = state.projectId
  live : IsLive state.head
  retained :
    revision.createdAt < revision.privacy.deleteAfter ∧
      atInstant < revision.privacy.deleteAfter
  follows : FollowsHead state.head revision
  lifecycle :
    ∃ binding,
      createDesignRevisionPrivacyBindingFromParsed revision.privacy =
        .ok binding ∧
      checkLifecycle state.head revision binding atInstant = .ok ()

theorem exists_commits
    {state : DesignRevisionState}
    {command : CommitDesignRevisionCommand}
    {atInstant : Instant}
    (allowed : CommitAllowed state command atInstant) :
    ∃ next, commitParsed state command atInstant = .ok next := by
  obtain ⟨binding, bound, _⟩ := allowed.lifecycle
  have distinct :
      (state.processedCommandIds ++ [command.authority.commandId]).Nodup :=
    List.nodup_append.mpr
      ⟨state.distinctCommands, by simp, by
        rintro known inKnown added isAdded rfl
        exact allowed.fresh (List.mem_singleton.mp isAdded ▸ inKnown)⟩
  refine ⟨{
    state with
    processedCommandIds :=
      state.processedCommandIds ++ [command.authority.commandId]
    head := some {
      revision := command.revision
      privacyBinding := binding
      privacyBinding_eq := bound }
    distinctCommands := distinct
    boundedCommands := by
      rw [List.length_append]
      exact allowed.room
    inScope :=
      { state.inScope with
        headTenant := by simpa using allowed.scope.2.2.1
        headProject := by simpa using allowed.scope.2.2.2 } }, ?_⟩
  exact commitParsed_eq_ok.mpr ⟨allowed, ⟨rfl, rfl, rfl, rfl, rfl, rfl⟩⟩

/-- An allowed revision can be committed with a matching authority. -/
theorem exists_command
    {state : DesignRevisionState}
    {revision : DesignRevision}
    {atInstant : Instant}
    (accepts : AcceptsCommands state)
    (allowed : RevisionAllowed state revision atInstant) :
    ∃ command next,
      command.revision = revision ∧
        commitParsed state command atInstant = .ok next := by
  obtain ⟨commandId, fresh⟩ :=
    exists_fresh_identifier state.boundedCommands
  obtain ⟨createdBefore, nowBefore⟩ := allowed.retained
  -- Issued at the earlier of the two instants, valid until the retention.
  obtain ⟨issuedAt, notAfterNow, notAfterCreation, expires⟩ :
      ∃ issuedAt : Instant, issuedAt ≤ atInstant ∧
        issuedAt ≤ revision.createdAt ∧
        issuedAt < revision.privacy.deleteAfter := by
    rcases le_total atInstant.val revision.createdAt.val with
      nowFirst | creationFirst
    · exact ⟨atInstant, le_refl atInstant.val, nowFirst, nowBefore⟩
    · exact ⟨revision.createdAt, creationFirst,
        le_refl revision.createdAt.val, createdBefore⟩
  let command : CommitDesignRevisionCommand :=
    { authority :=
        matchingAuthority state revision commandId issuedAt _ expires
      revision }
  have commandAllowed : CommitAllowed state command atInstant :=
    { scope := ⟨rfl, rfl, allowed.tenantId, allowed.projectId⟩
      policy := ⟨rfl, rfl, rfl, accepts.policy, accepts.policy,
        fun _ member => member⟩
      trustAnchor :=
        ⟨rfl, rfl, state.inScope.grant.symm, rfl, rfl⟩
      grant := ⟨accepts.grant, rfl, rfl⟩
      revision := ⟨rfl, rfl, rfl⟩
      unexpired := ⟨by simp [command, matchingAuthority], notAfterNow,
        le_of_lt (α := JsString) nowBefore, notAfterCreation,
        le_of_lt (α := JsString) createdBefore⟩
      live := allowed.live
      retained := allowed.retained
      fresh := fresh
      room := accepts.room
      follows := allowed.follows
      lifecycle := allowed.lifecycle }
  obtain ⟨next, committed⟩ := exists_commits commandAllowed
  exact ⟨command, next, rfl, committed⟩

/-! ## Successors -/

/-- An identifier of one unit that is not the head's. -/
def DesignRevisionHead.otherIdentifier (head : DesignRevisionHead) :
    Identifier :=
  if head.revision.revisionId = shortIdentifier then ⟨js "b", by decide⟩
  else shortIdentifier

theorem DesignRevisionHead.otherIdentifier_ne (head : DesignRevisionHead) :
    head.otherIdentifier ≠ head.revision.revisionId := by
  unfold otherIdentifier
  split
  · rename_i isShort
    rw [isShort]
    decide
  · rename_i notShort
    exact Ne.symm notShort

theorem DesignRevisionHead.length_otherIdentifier
    (head : DesignRevisionHead) :
    head.otherIdentifier.val.length = 1 := by
  unfold otherIdentifier
  split <;> decide

/-- The next sequence number, while it is a safe integer. -/
def DesignRevisionHead.nextSequence (head : DesignRevisionHead)
    (below : head.revision.sequence.val < JsNumber.maxSafeInteger) :
    PositiveInteger :=
  ⟨head.revision.sequence.val + 1, Nat.succ_pos _, below⟩

/-- A revision that follows a head, before it is committed to. -/
def DesignRevisionHead.successor (head : DesignRevisionHead)
    (sequence : PositiveInteger) (createdAt : Instant)
    (privacy : DesignRevisionPrivacy) : UncommittedRevision where
  tenantId := head.revision.tenantId
  projectId := head.revision.projectId
  revisionId := head.otherIdentifier
  parentRevisionId := some head.revision.revisionId
  sequence := sequence
  createdAt := createdAt
  tuple := smallestTuple
  tupleBinding := smallestTuple.binding
  privacy := privacy
  tupleBinding_eq :=
    createDesignRevisionTupleBindingFromParsed_binding smallestTuple

/-- The privacy record of a head after a lifecycle change. -/
def DesignRevisionPrivacy.changed (current : DesignRevisionPrivacy)
    (transition : DesignPrivacyTransition)
    (inactive : transition.toLifecycle ≠ .active)
    (correlation :
      transition.auditCorrelationId = current.auditCorrelationId) :
    DesignRevisionPrivacy where
  toDesignPrivacyTerms := current.toDesignPrivacyTerms
  lifecycle := transition.toLifecycle
  lifecycleAudit := some transition
  auditMatches := ⟨inactive, rfl, correlation⟩

/-- The audit of a change of the head's lifecycle. -/
def DesignRevisionHead.audit (head : DesignRevisionHead)
    (toLifecycle : DesignPrivacyLifecycle) (occurredAt : Instant)
    (tombstoneDigest : Option Digest)
    (tombstoneMatches :
      toLifecycle = .tombstoned ↔ tombstoneDigest.isSome) :
    DesignPrivacyTransition where
  fromLifecycle := head.revision.privacy.lifecycle
  toLifecycle := toLifecycle
  occurredAt := occurredAt
  auditCorrelationId := head.revision.privacy.auditCorrelationId
  priorRevisionId := some head.revision.revisionId
  priorTupleBinding := some head.revision.tupleBinding
  priorPrivacyBinding := some head.privacyBinding
  tombstoneDigest := tombstoneDigest
  priorTogether := ⟨rfl, rfl⟩
  tombstoneMatches := tombstoneMatches

theorem DesignRevisionHead.bound_of_terms_eq
    {head : DesignRevisionHead}
    {privacy : DesignRevisionPrivacy}
    (same :
      privacy.toDesignPrivacyTerms =
        head.revision.privacy.toDesignPrivacyTerms) :
    createDesignRevisionPrivacyBindingFromParsed privacy =
      .ok head.privacyBinding := by
  rw [createDesignRevisionPrivacyBindingFromParsed_eq_ok, same]
  exact createDesignRevisionPrivacyBindingFromParsed_eq_ok.mp
    head.privacyBinding_eq

theorem DesignRevisionHead.bound_changed
    (head : DesignRevisionHead)
    (transition : DesignPrivacyTransition)
    (inactive : transition.toLifecycle ≠ .active)
    (correlation :
      transition.auditCorrelationId =
        head.revision.privacy.auditCorrelationId) :
    createDesignRevisionPrivacyBindingFromParsed
        (head.revision.privacy.changed transition inactive correlation) =
      .ok head.privacyBinding :=
  DesignRevisionHead.bound_of_terms_eq rfl

/-! ## A first commit -/

/-- A state without a head whose policy admits commits. -/
def sampleState : DesignRevisionState where
  tenantId := shortIdentifier
  projectId := shortIdentifier
  policy :=
    { tenantId := shortIdentifier
      projectId := shortIdentifier
      policyId := shortIdentifier
      revision := firstSequence
      digest := zeroDigest
      capabilities := ⟨⟨[.commit], by decide⟩, by decide⟩
      trustAnchor :=
        { issuer := shortIdentifier
          audience := shortIdentifier
          grantId := shortIdentifier
          schemaRevision := firstSequence
          commandsDigest := zeroDigest } }
  grantStatus :=
    { grantId := shortIdentifier
      epoch := firstSequence
      revokedAt := none }
  processedCommandIds := []
  head := none
  distinctCommands := by decide
  boundedCommands := by decide
  inScope := by decide

/-- The command that commits the sample revision. -/
def sampleCommand : CommitDesignRevisionCommand where
  authority :=
    matchingAuthority sampleState sampleRevision shortIdentifier
      sampleInstant sampleTerms.deleteAfter sampleInstant_early
  revision := sampleRevision

theorem sampleCommand_accepted :
    (commitParsed sampleState sampleCommand
      sampleInstant).toOption.isSome = true := by
  decide +kernel

/-- The state after the sample command. -/
def committedSample : DesignRevisionState :=
  (commitParsed sampleState sampleCommand
    sampleInstant).toOption.get sampleCommand_accepted

theorem commitParsed_sample :
    commitParsed sampleState sampleCommand sampleInstant =
      .ok committedSample :=
  eq_ok_get sampleCommand_accepted

/-- The sequence number of a second revision. -/
def secondSequence : PositiveInteger :=
  ⟨2, by decide⟩

/-- The head after the sample command. -/
def sampleHead : DesignRevisionHead where
  revision := sampleRevision
  privacyBinding := samplePrivacyBinding
  privacyBinding_eq := sample_bound

theorem committedSample_head :
    committedSample.head = some sampleHead := by
  have commits := (commitParsed_eq_ok.mp commitParsed_sample).2
  obtain ⟨head, isHead, isRevision⟩ :=
    Option.map_eq_some_iff.mp commits.head
  rw [isHead,
    @DesignRevisionHead.eq_of_revision_eq _ sampleHead isRevision]

end Selene.Revision
