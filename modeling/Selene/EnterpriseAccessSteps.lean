import Selene.EnterpriseAccess

/-!
# The steps of external access

What a call may come to with one answer, and what one event does to the stores
and to the calls.  Each kind of answer has one case; the cases carry what the
call has checked.
-/

namespace Selene.Enterprise

open Js

/-! ## Stored states -/

/-- The states that a policy may be raised from. -/
def allowsRaise (envelope : SignedPolicyEnvelope)
    (previous : Option RevisionState) : Prop :=
  ∀ old, previous = some old →
    old.revoked = false ∧ old.revision < envelope.revision

/-- The states that a namespace may advance from. -/
def allowsAdvance (entitlement : VerifiedEntitlement)
    (current : Option RevisionState) : Prop :=
  ∀ old, current = some old →
    old.revision ≤ entitlement.revision ∧
      (old.revision = entitlement.revision → old.revoked = false)

theorem readRevisionState_eq_ok
    {stored state : Option RevisionState}
    (accepted : readRevisionState stored = .ok state) :
    state = stored := by
  cases stored with
  | none =>
      cases accepted
      rfl
  | some stored =>
      obtain ⟨read, isRead, same⟩ := bind_eq_ok.mp accepted
      cases Except.ok.inj same
      rw [normalizeState_eq_ok isRead]

/-! ## Authorization -/

/-- The checks that access passes with the state of its policy. -/
structure Authorized (input : Record) (session : TrustedSession)
    (live : RevisionState) (wanted : Wanted) (access : Access) : Prop where
  live : policyIsLive access.policy access.now live
  current : sessionIsCurrent access.policy.policy access.now session
  wants : readWanted input session = .ok wanted
  grants : policyGrants access.policy.policy wanted
  presents : normalizeEntitlement (input.get (js "entitlement")) =
    .ok access.entitlement
  applies : entitlementApplies access.policy.policy access.now wanted
    access.entitlement

theorem authorized_of_authorize
    {policy : ActivatedPolicy}
    {input : Record}
    {session : Option TrustedSession}
    {now : JsString}
    {stored : Option RevisionState}
    {access : Access}
    (accepted : authorize policy input session now stored = .ok access) :
    policy = access.policy ∧ now = access.now ∧
      ∃ live trusted wanted, stored = some live ∧ session = some trusted ∧
        Authorized input trusted live wanted access := by
  cases stored with
  | none => cases accepted
  | some stored =>
      obtain ⟨live, isLive, accepted⟩ := bind_eq_ok.mp accepted
      cases normalizeState_eq_ok (orDenial_eq_ok isLive)
      obtain ⟨policyLive, accepted⟩ := check_bind_eq_ok.mp accepted
      cases session with
      | none => cases accepted
      | some session =>
          obtain ⟨current, accepted⟩ := check_bind_eq_ok.mp accepted
          obtain ⟨wanted, isWanted, accepted⟩ := bind_eq_ok.mp accepted
          obtain ⟨grants, accepted⟩ := check_bind_eq_ok.mp accepted
          obtain ⟨entitlement, isEntitlement, accepted⟩ :=
            bind_eq_ok.mp accepted
          obtain ⟨applies, accepted⟩ := check_bind_eq_ok.mp accepted
          cases Except.ok.inj accepted
          exact ⟨rfl, rfl, stored, session, wanted, rfl, rfl, policyLive,
            current, orDenial_eq_ok isWanted, grants,
            orDenial_eq_ok isEntitlement, applies⟩

/-! ## Answers of stores -/

/-- What a call comes to with the answer of a store. -/
inductive Serves (stores : Stores) : CallState → Stores → CallState → Prop where
  | refused (state : CallState) (error : Thrown) :
      Serves stores state stores (.finished (.refused error))
  | denied (state : CallState) (reason : DenialReason) :
      Serves stores state stores (.finished (.denied reason))
  | policyRead {envelope : SignedPolicyEnvelope} {policy : CompiledPolicy}
      {previous : Option RevisionState} :
      allowsRaise envelope previous →
      Serves stores (.readingPolicy envelope policy) stores
        (.swappingPolicy envelope policy previous)
  | policyKept {envelope : SignedPolicyEnvelope} {policy : CompiledPolicy} :
      stores.policies.read envelope.organizationId policy.policyId =
        some (policyState envelope) →
      Serves stores (.readingPolicy envelope policy) stores
        (.finished (.activated (activatedPolicy envelope policy)))
  | policySwapped {envelope : SignedPolicyEnvelope} {policy : CompiledPolicy}
      {previous : Option RevisionState} :
      stores.policies.read envelope.organizationId policy.policyId =
        previous →
      Serves stores (.swappingPolicy envelope policy previous)
        { stores with
          policies := stores.policies.set
            ⟨envelope.organizationId, policy.policyId, policyState envelope⟩ }
        (.finished (.activated (activatedPolicy envelope policy)))
  | livePolicyRead {policy : ActivatedPolicy} {input : Record}
      {session : Option TrustedSession} {now : JsString}
      {stored : Option RevisionState} {access : Access} :
      authorize policy input session now stored = .ok access →
      Serves stores (.readingLivePolicy policy input session now) stores
        (.verifyingEntitlement access)
  | cachedRead {access : Access} {state : RevisionState} :
      stores.revisions.read access.key = some state →
      state.revoked = false → remembers state access.entitlement →
      access.isWithinGrace →
      Serves stores (.readingCached access) stores
        (.finished (.allowed .outage access))
  | revisionKept {access : Access} {attempt : Nat} {state : RevisionState} :
      stores.revisions.read access.key = some state →
      state.revoked = false → remembers state access.entitlement →
      Serves stores (.readingRevision access attempt) stores
        (.finished (.allowed .verified access))
  | revisionRead {access : Access} {attempt : Nat}
      {current : Option RevisionState} :
      stores.revisions.read access.key = current →
      allowsAdvance access.entitlement current →
      Serves stores (.readingRevision access attempt) stores
        (.swappingRevision access current attempt)
  | revisionSwapped {access : Access} {attempt : Nat}
      {current : Option RevisionState} :
      stores.revisions.read access.key = current →
      Serves stores (.swappingRevision access current attempt)
        { stores with
          revisions :=
            stores.revisions.put access.key access.entitlement.state }
        (.finished (.allowed .verified access))
  | revisionRetried {access : Access} {attempt : Nat}
      {current : Option RevisionState} :
      Serves stores (.swappingRevision access current attempt) stores
        (.readingRevision access (attempt + 1))

theorem serves_afterPolicyRead
    (stores : Stores)
    (envelope : SignedPolicyEnvelope)
    (policy : CompiledPolicy) :
    Serves stores (.readingPolicy envelope policy) stores
      (afterPolicyRead envelope policy
        (stores.policies.read envelope.organizationId policy.policyId)) := by
  cases isStored : stores.policies.read envelope.organizationId
      policy.policyId with
  | none => exact .policyRead fun old isOld => by cases isOld
  | some stored =>
      rw [afterPolicyRead]
      split
      · exact .refused _ _
      · rename_i previous isPrevious
        cases normalizeState_eq_ok isPrevious
        split
        · exact .refused _ _
        · rename_i permitted
          simp only [forbidsActivation, not_or, not_and, Bool.not_eq_true,
            Nat.not_lt, ne_eq, Decidable.not_not] at permitted
          obtain ⟨isLive, notBelow, isSame⟩ := permitted
          split
          · rename_i raises
            refine .policyRead fun old isOld => ?_
            cases isOld
            exact ⟨isLive, raises⟩
          · rename_i notRaised
            have sameRevision : stored.revision = envelope.revision := by omega
            obtain ⟨sameDigest, sameExpiry⟩ := isSame sameRevision
            refine .policyKept ?_
            rw [isStored]
            cases stored
            simp_all [policyState]

theorem serves_afterRevisionRead
    (stores : Stores)
    (access : Access)
    (attempt : Nat) :
    Serves stores (.readingRevision access attempt) stores
      (afterRevisionRead access attempt
        (stores.revisions.read access.key)) := by
  rw [afterRevisionRead]
  split
  · exact .denied _ _
  · rename_i isRead
    have isStored := readRevisionState_eq_ok isRead
    exact .revisionRead isStored.symm fun old isOld => by cases isOld
  · rename_i current isRead
    have isStored := readRevisionState_eq_ok isRead
    split
    · exact .denied _ _
    · rename_i permitted
      simp only [not_or, not_and, Nat.not_lt, Bool.not_eq_true] at permitted
      split
      · rename_i isRemembered
        exact .revisionKept isStored.symm (permitted.2 isRemembered.1)
          isRemembered
      · refine .revisionRead isStored.symm fun old isOld => ?_
        cases isOld
        exact permitted

/-- The grace of an outage rests on what the store remembers. -/
theorem serves_afterCachedRead
    (stores : Stores)
    (access : Access) :
    Serves stores (.readingCached access) stores
      (afterCachedRead access (stores.revisions.read access.key)) := by
  rw [afterCachedRead]
  split
  · exact .denied _ _
  · rename_i state isRead
    cases readRevisionState_eq_ok isRead
    split
    · rename_i isUsable
      cases isStored : stores.revisions.read access.key with
      | none =>
          rw [isStored] at isUsable
          exact isUsable.elim
      | some state =>
          rw [isStored] at isUsable
          exact .cachedRead isStored isUsable.1 isUsable.2.1 isUsable.2.2
    · exact .denied _ _

theorem serves_of_served
    {stores after : Stores}
    {fails : Bool}
    {state next : CallState}
    (result : served stores fails state = some (after, next)) :
    Serves stores state after next := by
  cases state with
  | verifyingPolicy envelope => cases result
  | verifyingEntitlement access => cases result
  | finished outcome => cases result
  | readingPolicy envelope policy =>
      cases result
      cases fails with
      | true => exact .refused _ _
      | false => exact serves_afterPolicyRead stores envelope policy
  | swappingPolicy envelope policy previous =>
      rw [served] at result
      split at result
      · cases result
        exact .refused _ _
      · cases swap : stores.policies.compareAndSet envelope.organizationId
            policy.policyId previous (policyState envelope) with
        | mk updated policies =>
            rw [swap] at result
            cases result
            rcases PolicyRevisionStore.compareAndSet_cases swap with
              ⟨rfl, rfl⟩ | ⟨rfl, isPrevious, rfl⟩
            · exact .refused _ _
            · exact .policySwapped isPrevious
  | readingLivePolicy policy input session now =>
      cases result
      cases fails with
      | true => exact .denied _ _
      | false =>
          simp only [Bool.false_eq_true, if_false, afterLivePolicyRead]
          split
          · rename_i access isAccess
            exact .livePolicyRead isAccess
          · exact .denied _ _
  | readingCached access =>
      cases result
      cases fails with
      | true => exact .denied _ _
      | false => exact serves_afterCachedRead stores access
  | readingRevision access attempt =>
      cases result
      cases fails with
      | true => exact .denied _ _
      | false => exact serves_afterRevisionRead stores access attempt
  | swappingRevision access current attempt =>
      rw [served] at result
      split at result
      · cases result
        exact .denied _ _
      · split at result
        · cases result
          exact .denied _ _
        · rename_i swapped revisions swap
          cases result
          obtain ⟨next, isNext, swap⟩ := bind_eq_ok.mp swap
          cases normalizeState_eq_ok isNext
          rcases InMemoryRevisionStore.compareAndSet_cases swap with
            ⟨rfl, rfl⟩ | ⟨rfl, isCurrent, rfl⟩
          · rw [afterRevisionSwap, if_neg Bool.false_ne_true]
            split
            · exact .denied _ _
            · exact .revisionRetried
          · exact .revisionSwapped isCurrent

/-! ## Answers of verifiers -/

/-- What a call comes to with the answer of a verifier. -/
inductive Replies (result : Option JsValue) : CallState → CallState → Prop where
  | refused (state : CallState) (error : Thrown) :
      Replies result state (.finished (.refused error))
  | denied (state : CallState) (reason : DenialReason) :
      Replies result state (.finished (.denied reason))
  | accepted {envelope : SignedPolicyEnvelope} {policy : CompiledPolicy} :
      acceptPolicy envelope result = .ok policy →
      Replies result (.verifyingPolicy envelope)
        (.readingPolicy envelope policy)
  | unavailable {access : Access} :
      normalizeEntitlementVerification result = .unavailable →
      Replies result (.verifyingEntitlement access) (.readingCached access)
  | valid {access : Access} :
      normalizeEntitlementVerification result = .valid →
      Replies result (.verifyingEntitlement access)
        (.readingRevision access 0)

theorem replies_of_replied
    {result : Option JsValue}
    {state next : CallState}
    (isNext : replied result state = some next) :
    Replies result state next := by
  cases state with
  | verifyingPolicy envelope =>
      cases isNext
      rw [afterPolicyVerification]
      split
      · rename_i policy isAccepted
        exact .accepted isAccepted
      · exact .refused _ _
  | verifyingEntitlement access =>
      cases isNext
      cases verification : normalizeEntitlementVerification result with
      | invalid => exact .denied _ _
      | unavailable => exact .unavailable verification
      | valid =>
          rw [afterEntitlementVerification]
          split
          · exact .denied _ _
          · exact .valid verification
  | _ => cases isNext

/-! ## Events -/

/-- The first state of a call. -/
inductive IsStart : CallState → Prop where
  | refused (error : Thrown) : IsStart (.finished (.refused error))
  | denied (reason : DenialReason) : IsStart (.finished (.denied reason))
  | activation (envelope : SignedPolicyEnvelope) :
      IsStart (.verifyingPolicy envelope)
  | evaluation (policy : ActivatedPolicy) (input : Record)
      (session : Option TrustedSession) (now : JsString) :
      IsStart (.readingLivePolicy policy input session now)

theorem isStart_beginActivation
    (value now : JsValue) :
    IsStart (beginActivation value now) := by
  rw [beginActivation]
  split
  · exact .activation _
  · exact .refused _

theorem isStart_beginEvaluation
    (policy : Option ActivatedPolicy)
    (request : AccessRequest) :
    IsStart (beginEvaluation policy request) := by
  cases policy with
  | none => exact .denied _
  | some policy =>
      rw [beginEvaluation]
      split
      · exact .evaluation _ _ _ _
      · exact .denied _

/-- What an event does. -/
inductive AccessEffect (world : World) :
    AccessEvent → World → AccessAnswer → Prop where
  | started {event : AccessEvent} {state : CallState} :
      IsStart state →
      AccessEffect world event
        { world with calls := world.calls ++ [state] }
        (answerOf world.calls.length state)
  | replied {call : Nat} {result : Option JsValue}
      {state next : CallState} :
      world.calls[call]? = some state → Replies result state next →
      AccessEffect world (.reply call result)
        ⟨world.stores, world.calls.set call next⟩ (answerOf call next)
  | served {call : Nat} {fails : Bool} {state next : CallState}
      {after : Stores} :
      world.calls[call]? = some state →
      Serves world.stores state after next →
      AccessEffect world (.serve call fails)
        ⟨after, world.calls.set call next⟩ (answerOf call next)
  | policyRevoked {organizationId policyId : JsString}
      {state : RevisionState} :
      isPolicyRevocation
        (world.stores.policies.read organizationId policyId) state →
      AccessEffect world (.revokePolicy organizationId policyId state)
        { world with
          stores.policies :=
            world.stores.policies.set ⟨organizationId, policyId, state⟩ }
        .revoked
  | revoked {key : RevisionNamespace} {revision : JsValue} {bound : Nat} :
      boundedPositiveInteger revision "revision" JsNumber.maxSafeInteger =
        .ok bound →
      AccessEffect world (.revoke key revision)
        { world with
          stores.revisions := world.stores.revisions.put key
            (InMemoryRevisionStore.revokedState
              (world.stores.revisions.read key) bound) }
        .revoked
  | failed (event : AccessEvent) : AccessEffect world event world .failed

theorem accessStep_effect
    (world : World)
    (event : AccessEvent) :
    AccessEffect world event (accessStep world event).1
      (accessStep world event).2 := by
  cases event with
  | activate value now => exact .started (isStart_beginActivation value now)
  | evaluate policy request =>
      exact .started (isStart_beginEvaluation _ request)
  | reply call result =>
      rw [accessStep]
      split
      · rename_i next isNext
        obtain ⟨state, isState, isNext⟩ := Option.bind_eq_some_iff.mp isNext
        exact .replied isState (replies_of_replied isNext)
      · exact .failed _
  | serve call fails =>
      rw [accessStep]
      split
      · rename_i after next isNext
        obtain ⟨state, isState, isNext⟩ := Option.bind_eq_some_iff.mp isNext
        exact .served isState (serves_of_served isNext)
      · exact .failed _
  | revokePolicy organizationId policyId state =>
      rw [accessStep]
      split
      · rename_i isRevocation
        exact .policyRevoked isRevocation
      · exact .failed _
  | revoke key revision =>
      rw [accessStep]
      split
      · rename_i revisions isRevoked
        obtain ⟨bound, isBound, rfl⟩ :=
          InMemoryRevisionStore.revoke_eq_ok isRevoked
        exact .revoked isBound
      · exact .failed _

end Selene.Enterprise
