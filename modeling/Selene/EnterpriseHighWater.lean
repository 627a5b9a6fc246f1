import Selene.EnterpriseAccessSteps

/-!
# The high-water marks of policies and entitlements

Every compare-and-set starts from a state that a call has read and checked, so
whatever comes in between, the states of a key advance.  What is known of a key
at one moment therefore bounds every decision on it at any other.
-/

namespace Selene.Enterprise

open Js

variable {bound call early late : Nat} {stores after : Stores} {world : World}
  {key : RevisionNamespace} {first second : AccessEntry}

abbrev AccessEntry := Taken World AccessEvent AccessAnswer

abbrev AccessLog := List AccessEntry

/-! ## Pending swaps -/

/-- A pending swap replaces a state that it may replace. -/
def CallState.IsSound : CallState → Prop
  | .swappingPolicy envelope _ previous => allowsRaise envelope previous
  | .swappingRevision access current _ =>
      allowsAdvance access.entitlement current
  | _ => True

def World.IsSound (world : World) : Prop :=
  ∀ (call : Nat) (state : CallState),
    world.calls[call]? = some state → state.IsSound

theorem Serves.isSound
    {state next : CallState}
    (serves : Serves stores state after next) :
    next.IsSound := by
  cases serves with
  | policyRead raises => exact raises
  | revisionRead _ advances => exact advances
  | _ => trivial

theorem Replies.isSound
    {result : Option JsValue}
    {state next : CallState}
    (replies : Replies result state next) :
    next.IsSound := by
  cases replies <;> trivial

theorem IsStart.isSound
    {state : CallState}
    (starts : IsStart state) :
    state.IsSound := by
  cases starts <;> trivial

theorem forall_calls_append
    {holds : Nat → CallState → Prop}
    {calls : List CallState}
    {state : CallState}
    (before : ∀ (call : Nat) (other : CallState),
      calls[call]? = some other → holds call other)
    (new : holds calls.length state) :
    ∀ (call : Nat) (other : CallState),
      (calls ++ [state])[call]? = some other → holds call other := by
  intro call other found
  rcases Nat.lt_trichotomy call calls.length with inside | rfl | outside
  · rw [List.getElem?_append_left inside] at found
    exact before call other found
  · rw [List.getElem?_concat_length] at found
    cases found
    exact new
  · rw [List.getElem?_eq_none
      (by rwa [List.length_append, List.length_singleton])] at found
    cases found

theorem forall_calls_set
    {holds : Nat → CallState → Prop}
    {calls : List CallState}
    {next : CallState}
    (before : ∀ (call : Nat) (other : CallState),
      calls[call]? = some other → holds call other)
    (new : holds call next) :
    ∀ (index : Nat) (other : CallState),
      (calls.set call next)[index]? = some other → holds index other := by
  intro index other found
  by_cases same : call = index
  · subst same
    rw [List.getElem?_set_self'] at found
    obtain ⟨_, _, rfl⟩ := Option.map_eq_some_iff.mp found
    exact new
  · rw [List.getElem?_set_ne same] at found
    exact before index other found

variable (world : World) (event : AccessEvent)

theorem isSound_accessStep
    (sound : world.IsSound) :
    (accessStep world event).1.IsSound := by
  have effect := accessStep_effect world event
  generalize accessStep world event = result at effect ⊢
  obtain ⟨after, answer⟩ := result
  cases effect with
  | started starts => exact forall_calls_append sound starts.isSound
  | replied _ replies => exact forall_calls_set sound replies.isSound
  | served _ serves => exact forall_calls_set sound serves.isSound
  | _ => exact sound

/-! ## Advancing -/

/-- The keys of both stores advance, and calls are only added. -/
structure World.Advances (first second : World) : Prop where
  policies : ∀ organizationId policyId,
    PolicyAdvances (first.stores.policies.read organizationId policyId)
      (second.stores.policies.read organizationId policyId)
  revisions : ∀ key,
    RevisionAdvances (first.stores.revisions.read key)
      (second.stores.revisions.read key)
  calls : first.calls.length ≤ second.calls.length

theorem World.Advances.refl (world : World) : world.Advances world where
  policies _ _ := .stays _
  revisions _ := .refl _
  calls := le_rfl

theorem World.Advances.trans
    (first second third : World)
    (early : first.Advances second)
    (late : second.Advances third) :
    first.Advances third where
  policies organizationId policyId :=
    (early.policies organizationId policyId).trans
      (late.policies organizationId policyId)
  revisions key := (early.revisions key).trans (late.revisions key)
  calls := early.calls.trans late.calls

theorem policyAdvances_set
    {store : PolicyRevisionStore}
    {row : PolicyRow}
    (advances : PolicyAdvances (store.read row.organizationId row.policyId)
      (some row.state))
    (organizationId policyId : JsString) :
    PolicyAdvances (store.read organizationId policyId)
      (PolicyRevisionStore.read (store.set row) organizationId policyId) := by
  rw [PolicyRevisionStore.read_set]
  split
  · rename_i same
    cases same
    exact advances
  · exact .stays _

theorem revisionAdvances_put
    {store : InMemoryRevisionStore}
    {state : RevisionState}
    (advances : RevisionAdvances (store.read key) (some state))
    (other : RevisionNamespace) :
    RevisionAdvances (store.read other) ((store.put key state).read other) := by
  rw [InMemoryRevisionStore.read_put]
  split
  · rename_i same
    rw [InMemoryRevisionStore.read, ← same]
    exact advances
  · exact .refl _

theorem policyAdvances_of_allowsRaise
    {envelope : SignedPolicyEnvelope}
    {previous : Option RevisionState}
    (raises : allowsRaise envelope previous) :
    PolicyAdvances previous (some (policyState envelope)) := by
  cases previous with
  | none => exact .starts _
  | some old =>
      obtain ⟨isLive, isLower⟩ := raises old rfl
      exact .raised isLive isLower

theorem revisionAdvances_of_allowsAdvance
    {entitlement : VerifiedEntitlement}
    {current : Option RevisionState}
    (advances : allowsAdvance entitlement current) :
    RevisionAdvances current (some entitlement.state) := by
  cases current with
  | none => exact .starts _
  | some old =>
      obtain ⟨keeps, isLive⟩ := advances old rfl
      refine .later keeps fun same isRevoked => ?_
      rw [isLive same] at isRevoked
      cases isRevoked

theorem revisionAdvances_revokedState
    (current : Option RevisionState)
    (bound : Nat) :
    RevisionAdvances current
      (some (InMemoryRevisionStore.revokedState current bound)) := by
  cases current with
  | none => exact .starts _
  | some old => exact .later (Nat.le_max_left _ _) fun _ _ => rfl

theorem policyAdvances_of_isPolicyRevocation
    {stored : Option RevisionState}
    {state : RevisionState}
    (revocation : isPolicyRevocation stored state) :
    PolicyAdvances stored (some state) := by
  cases stored with
  | none => exact .starts _
  | some old => exact .revoked revocation.1 (revocation.2 old rfl)

/-- The operation of a call with a sound swap advances the stores. -/
theorem Serves.advances
    {state next : CallState}
    (serves : Serves stores state after next)
    (sound : state.IsSound) :
    (∀ organizationId policyId,
      PolicyAdvances (stores.policies.read organizationId policyId)
        (after.policies.read organizationId policyId)) ∧
      ∀ key, RevisionAdvances (stores.revisions.read key)
        (after.revisions.read key) := by
  cases serves with
  | policySwapped isPrevious =>
      refine ⟨policyAdvances_set ?_, fun _ => .refl _⟩
      rw [isPrevious]
      exact policyAdvances_of_allowsRaise sound
  | revisionSwapped isCurrent =>
      refine ⟨fun _ _ => .stays _, revisionAdvances_put ?_⟩
      rw [isCurrent]
      exact revisionAdvances_of_allowsAdvance sound
  | _ => exact ⟨fun _ _ => .stays _, fun _ => .refl _⟩

theorem advances_accessStep
    (sound : world.IsSound) :
    world.Advances (accessStep world event).1 := by
  have effect := accessStep_effect world event
  generalize accessStep world event = result at effect ⊢
  obtain ⟨after, answer⟩ := result
  cases effect with
  | started _ =>
      exact ⟨fun _ _ => .stays _, fun _ => .refl _, by simp⟩
  | replied _ _ =>
      exact ⟨fun _ _ => .stays _, fun _ => .refl _, by simp⟩
  | served isState serves =>
      obtain ⟨policies, revisions⟩ := serves.advances (sound _ _ isState)
      exact ⟨policies, revisions, by simp⟩
  | policyRevoked isRevocation =>
      exact ⟨policyAdvances_set
        (policyAdvances_of_isPolicyRevocation isRevocation),
        fun _ => .refl _, le_rfl⟩
  | revoked _ =>
      exact ⟨fun _ _ => .stays _,
        revisionAdvances_put (revisionAdvances_revokedState _ _), le_rfl⟩
  | failed => exact .refl _

/-! ## Activations -/

/-- The stored state that an activation rests on. -/
def ActivatedPolicy.state (policy : ActivatedPolicy) : RevisionState where
  revision := policy.revision
  revoked := false
  digest := policy.digest
  expiresAt := policy.expiresAt

/-- What the policy store holds of the key of a policy. -/
def World.stored (world : World) (policy : ActivatedPolicy) :
    Option RevisionState :=
  world.stores.policies.read policy.organizationId policy.policy.policyId

theorem stored_of_activated
    {world after : World}
    {event : AccessEvent}
    {policy : ActivatedPolicy}
    (effect : AccessEffect world event after
      (.finished call (.activated policy))) :
    after.stored policy = some policy.state := by
  generalize isAnswer : AccessAnswer.finished call (.activated policy) =
    answer at effect
  cases effect with
  | started starts => cases starts <;> cases isAnswer
  | replied _ replies => cases replies <;> cases isAnswer
  | served _ serves =>
      cases serves with
      | policyKept isStored =>
          cases isAnswer
          exact isStored
      | policySwapped _ =>
          cases isAnswer
          exact (PolicyRevisionStore.read_set _ _ _ _).trans (if_pos rfl)
      | _ => cases isAnswer
  | _ => cases isAnswer

/-! ## Revoked revisions -/

/-- A stored state that shuts out a revision and all below. -/
def ShutsOut (bound : Nat) (state : RevisionState) : Prop :=
  bound < state.revision ∨ state.revision = bound ∧ state.revoked = true

/-- A pending swap of a namespace is past a revision. -/
def CallState.IsPast (key : RevisionNamespace) (bound : Nat) :
    CallState → Prop
  | .swappingRevision access _ _ =>
      access.key = key → bound < access.entitlement.revision
  | _ => True

/-- A revision is shut out for the calls from a number on. -/
structure World.IsShut (key : RevisionNamespace) (bound begun : Nat)
    (world : World) : Prop where
  sound : world.IsSound
  stored : ∃ state,
    world.stores.revisions.read key = some state ∧ ShutsOut bound state
  pending : ∀ (call : Nat) (state : CallState),
    world.calls[call]? = some state → begun ≤ call → state.IsPast key bound

theorem ShutsOut.of_advances
    {old : RevisionState}
    {new : Option RevisionState}
    (shuts : ShutsOut bound old)
    (advances : RevisionAdvances (some old) new) :
    ∃ state, new = some state ∧ ShutsOut bound state := by
  cases advances with
  | @later _ new keeps staysRevoked =>
      refine ⟨new, rfl, ?_⟩
      rcases shuts with above | ⟨rfl, isRevoked⟩
      · exact .inl (above.trans_le keeps)
      · rcases keeps.eq_or_lt with same | raised
        · exact .inr ⟨same.symm, staysRevoked same isRevoked⟩
        · exact .inl raised

theorem ShutsOut.lt_of_live
    {bound revision : Nat}
    {state : RevisionState}
    (shuts : ShutsOut bound state)
    (keeps : state.revision ≤ revision)
    (isLive : state.revision = revision → state.revoked = false) :
    bound < revision := by
  rcases shuts with above | ⟨rfl, isRevoked⟩
  · omega
  · refine keeps.lt_of_ne fun same => ?_
    rw [isLive same] at isRevoked
    cases isRevoked

theorem Serves.isPast
    {state next : CallState}
    (serves : Serves stores state after next)
    (stored : ∃ state,
      stores.revisions.read key = some state ∧ ShutsOut bound state) :
    next.IsPast key bound := by
  cases serves with
  | revisionRead isCurrent advances =>
      rintro rfl
      obtain ⟨state, isState, shuts⟩ := stored
      obtain ⟨keeps, isLive⟩ := advances state (isCurrent.symm.trans isState)
      exact shuts.lt_of_live keeps isLive
  | _ => trivial

theorem Serves.lt_of_allowed
    {state : CallState}
    {path : AccessPath}
    {access : Access}
    (serves : Serves stores state after (.finished (.allowed path access)))
    (stored : ∃ state, stores.revisions.read access.key = some state ∧
      ShutsOut bound state)
    (pending : state.IsPast access.key bound) :
    bound < access.entitlement.revision := by
  obtain ⟨found, isFound, shuts⟩ := stored
  cases serves with
  | cachedRead isStored isLive isRemembered _ =>
      cases Option.some.inj (isStored.symm.trans isFound)
      exact shuts.lt_of_live isRemembered.1.le fun _ => isLive
  | revisionKept isStored isLive isRemembered =>
      cases Option.some.inj (isStored.symm.trans isFound)
      exact shuts.lt_of_live isRemembered.1.le fun _ => isLive
  | revisionSwapped _ => exact pending rfl

theorem isShut_accessStep
    {bound begun : Nat}
    (shut : world.IsShut key bound begun) :
    (accessStep world event).1.IsShut key bound begun := by
  obtain ⟨state, isState, shuts⟩ := shut.stored
  have advances := (advances_accessStep world event shut.sound).revisions key
  rw [isState] at advances
  refine ⟨isSound_accessStep world event shut.sound,
    shuts.of_advances advances, ?_⟩
  have effect := accessStep_effect world event
  generalize accessStep world event = result at effect ⊢
  obtain ⟨after, answer⟩ := result
  cases effect with
  | started starts =>
      refine forall_calls_append shut.pending fun _ => ?_
      cases starts <;> trivial
  | replied _ replies =>
      refine forall_calls_set shut.pending fun _ => ?_
      cases replies <;> trivial
  | served _ serves =>
      exact forall_calls_set shut.pending fun _ => serves.isPast shut.stored
  | _ => exact shut.pending

theorem lt_length_of_finished
    {world after : World}
    {event : AccessEvent}
    {outcome : Outcome}
    (effect : AccessEffect world event after (.finished call outcome)) :
    call < after.calls.length := by
  generalize isAnswer : AccessAnswer.finished call outcome = answer at effect
  cases effect with
  | @started _ state _ =>
      cases state <;> cases isAnswer
      simp
  | @replied number _ _ next isState _ =>
      obtain ⟨inside, _⟩ := List.getElem?_eq_some_iff.mp isState
      cases next <;> cases isAnswer
      simpa using inside
  | @served number _ _ next _ isState _ =>
      obtain ⟨inside, _⟩ := List.getElem?_eq_some_iff.mp isState
      cases next <;> cases isAnswer
      simpa using inside
  | _ => cases isAnswer

/-- No call from a number on is allowed a revision that is shut out. -/
theorem lt_of_allowed
    {world after : World}
    {event : AccessEvent}
    {call bound begun : Nat}
    {path : AccessPath}
    {access : Access}
    (effect : AccessEffect world event after
      (.finished call (.allowed path access)))
    (shut : world.IsShut access.key bound begun)
    (late : begun ≤ call) :
    bound < access.entitlement.revision := by
  generalize isAnswer : AccessAnswer.finished call (.allowed path access) =
    answer at effect
  cases effect with
  | started starts => cases starts <;> cases isAnswer
  | replied _ replies => cases replies <;> cases isAnswer
  | @served number _ state next _ isState serves =>
      cases next <;> cases isAnswer
      exact serves.lt_of_allowed shut.stored (shut.pending _ _ isState late)
  | _ => cases isAnswer

/-- A revocation shuts out its revision for the calls that are begun later. -/
theorem isShut_of_revoked
    {world after : World}
    {revision : JsValue}
    (sound : world.IsSound)
    (effect : AccessEffect world (.revoke key revision) after .revoked)
    (isBound : boundedPositiveInteger revision "revision"
      JsNumber.maxSafeInteger = .ok bound) :
    after.IsShut key bound after.calls.length := by
  generalize isAnswer : AccessAnswer.revoked = answer at effect
  cases effect with
  | @started _ state _ => cases state <;> cases isAnswer
  | failed => cases isAnswer
  | revoked isBoundToo =>
      cases Except.ok.inj (isBoundToo.symm.trans isBound)
      refine ⟨sound, ⟨_, (InMemoryRevisionStore.read_put _ _ _ _).trans
        (if_pos rfl), ?_⟩, fun call state found late => ?_⟩
      · rcases (Nat.le_max_right ((Option.map RevisionState.revision
          (world.stores.revisions.read key)).getD 0) bound).eq_or_lt
          with same | above
        · exact .inr ⟨same.symm, rfl⟩
        · exact .inl above
      · rw [List.getElem?_eq_none late] at found
        cases found

/-! ## Runs -/

/-- What every run keeps of the high-water marks. -/
structure HighWater (log : AccessLog) : Prop where
  /-- The stored revision of a policy key never decreases. -/
  policyRevision : ∀ (early late : Nat) (first second : AccessEntry),
    early ≤ late → log[early]? = some first → log[late]? = some second →
    ∀ organizationId policyId,
      NeverBelow (first.before.stores.policies.read organizationId policyId)
        (second.after.stores.policies.read organizationId policyId)
  /-- The stored revision of an entitlement namespace never decreases. -/
  entitlementRevision : ∀ (early late : Nat) (first second : AccessEntry),
    early ≤ late → log[early]? = some first → log[late]? = some second →
    ∀ key, NeverBelow (first.before.stores.revisions.read key)
      (second.after.stores.revisions.read key)
  /-- A policy whose key was revoked, or is above it, is never activated. -/
  activated : ∀ (early late : Nat) (first second : AccessEntry)
      (call : Nat) (policy : ActivatedPolicy),
    early ≤ late → log[early]? = some first → log[late]? = some second →
    second.answer = .finished call (.activated policy) →
    ∀ state, first.before.stored policy = some state →
      state.revoked = false ∧ state.revision ≤ policy.revision
  /-- One revision of a policy key has one digest and one expiry. -/
  evidence : ∀ (early late : Nat) (first second : AccessEntry)
      (call other : Nat) (policy later : ActivatedPolicy),
    log[early]? = some first → log[late]? = some second →
    first.answer = .finished call (.activated policy) →
    second.answer = .finished other (.activated later) →
    policy.organizationId = later.organizationId →
    policy.policy.policyId = later.policy.policyId →
    policy.revision = later.revision →
    policy.digest = later.digest ∧ policy.expiresAt = later.expiresAt
  /-- A call that begins after a revocation is past the revision. -/
  revoked : ∀ (early middle late : Nat)
      (revocation beginning ending : AccessEntry) (key : RevisionNamespace)
      (revision : JsValue) (bound policy : Nat) (request : AccessRequest)
      (path : AccessPath) (access : Access),
    log[early]? = some revocation →
    revocation.call = .revoke key revision →
    revocation.answer = .revoked →
    boundedPositiveInteger revision "revision" JsNumber.maxSafeInteger =
      .ok bound →
    early < middle → log[middle]? = some beginning →
    beginning.call = .evaluate policy request →
    log[late]? = some ending →
    ending.answer = .finished beginning.before.calls.length
      (.allowed path access) →
    access.key = key → bound < access.entitlement.revision

section

variable {stores : Stores} {events : List AccessEvent}

theorem isSound_of_no_calls (stores : Stores) : World.IsSound ⟨stores, []⟩ := by
  intro call state found
  cases found

theorem sound_before
    {index : Nat}
    {entry : AccessEntry}
    (found : (taken accessStep ⟨stores, []⟩ events)[index]? = some entry) :
    entry.before.IsSound ∧
      AccessEffect entry.before entry.call entry.after entry.answer := by
  obtain ⟨sound, isTaken⟩ := @tracks_before _ _ _ accessStep
    (fun _ world => world.IsSound)
    (fun _ world event kept => isSound_accessStep world event kept)
    [] _ (isSound_of_no_calls stores) _ _ _ found
  refine ⟨sound, ?_⟩
  rw [isTaken]
  exact accessStep_effect _ _

theorem advances_of_le
    (order : early ≤ late)
    (isFirst : (taken accessStep ⟨stores, []⟩ events)[early]? = some first)
    (isSecond : (taken accessStep ⟨stores, []⟩ events)[late]? = some second) :
    first.before.Advances second.after ∧ first.after.Advances second.after :=
  related_of_le World.IsSound World.Advances World.Advances.refl
    World.Advances.trans isSound_accessStep advances_accessStep
    (isSound_of_no_calls stores) order isFirst isSecond

theorem advances_of_lt
    (order : early < late)
    (isFirst : (taken accessStep ⟨stores, []⟩ events)[early]? = some first)
    (isSecond : (taken accessStep ⟨stores, []⟩ events)[late]? = some second) :
    first.after.Advances second.before :=
  (related_of_lt World.IsSound World.Advances World.Advances.refl
    World.Advances.trans isSound_accessStep advances_accessStep
    (isSound_of_no_calls stores) order isFirst isSecond).1

theorem state_eq_of_advances
    {old new : RevisionState}
    (advances : PolicyAdvances (some old) (some new))
    (isLive : new.revoked = false)
    (same : old.revision = new.revision) :
    old = new := by
  cases advances with
  | stays => rfl
  | raised _ raises => omega
  | revoked isRevoked _ =>
      rw [isLive] at isRevoked
      cases isRevoked

theorem live_of_advances
    {old new : RevisionState}
    (advances : PolicyAdvances (some old) (some new))
    (isLive : new.revoked = false) :
    old.revoked = false ∧ old.revision ≤ new.revision := by
  cases advances with
  | stays => exact ⟨isLive, le_rfl⟩
  | raised wasLive raises => exact ⟨wasLive, raises.le⟩
  | revoked isRevoked _ =>
      rw [isLive] at isRevoked
      cases isRevoked

section

variable (order : early ≤ late)
  (isFirst : (taken accessStep ⟨stores, []⟩ events)[early]? = some first)
  (isSecond : (taken accessStep ⟨stores, []⟩ events)[late]? = some second)

include order isFirst isSecond

theorem live_before_activated
    {policy : ActivatedPolicy}
    (activates : second.answer = .finished call (.activated policy))
    {state : RevisionState}
    (isStored : first.before.stored policy = some state) :
    state.revoked = false ∧ state.revision ≤ policy.revision := by
  have effect := (sound_before isSecond).2
  rw [activates] at effect
  have advances := (advances_of_le order isFirst isSecond).1.policies
    policy.organizationId policy.policy.policyId
  have before : first.before.stores.policies.read policy.organizationId
      policy.policy.policyId = some state := isStored
  have after : second.after.stores.policies.read policy.organizationId
      policy.policy.policyId = some policy.state := stored_of_activated effect
  rw [before, after] at advances
  exact live_of_advances advances rfl

theorem state_eq_of_activated
    {call other : Nat}
    {policy later : ActivatedPolicy}
    (activates : first.answer = .finished call (.activated policy))
    (activatesLater : second.answer = .finished other (.activated later))
    (sameOrganization : policy.organizationId = later.organizationId)
    (samePolicy : policy.policy.policyId = later.policy.policyId)
    (sameRevision : policy.revision = later.revision) :
    policy.state = later.state := by
  have effect := (sound_before isFirst).2
  rw [activates] at effect
  have effectLater := (sound_before isSecond).2
  rw [activatesLater] at effectLater
  have advances := (advances_of_le order isFirst isSecond).2.policies
    later.organizationId later.policy.policyId
  have before : first.after.stores.policies.read later.organizationId
      later.policy.policyId = some policy.state := by
    rw [← sameOrganization, ← samePolicy]
    exact stored_of_activated effect
  have after : second.after.stores.policies.read later.organizationId
      later.policy.policyId = some later.state :=
    stored_of_activated effectLater
  rw [before, after] at advances
  exact state_eq_of_advances advances rfl sameRevision

end

/-- After a revocation, later calls are only allowed later revisions. -/
theorem lt_of_allowed_after_revoked
    {early middle late : Nat}
    {revocation beginning ending : AccessEntry}
    {revision : JsValue}
    {path : AccessPath}
    {access : Access}
    (isRevocation : (taken accessStep ⟨stores, []⟩ events)[early]? =
      some revocation)
    (revokes : revocation.call = .revoke access.key revision)
    (isRevoked : revocation.answer = .revoked)
    (isBound : boundedPositiveInteger revision "revision"
      JsNumber.maxSafeInteger = .ok bound)
    (order : early < middle)
    (isBeginning : (taken accessStep ⟨stores, []⟩ events)[middle]? =
      some beginning)
    (isEnding : (taken accessStep ⟨stores, []⟩ events)[late]? = some ending)
    (allows : ending.answer = .finished beginning.before.calls.length
      (.allowed path access)) :
    bound < access.entitlement.revision := by
  have effect := (sound_before isEnding).2
  rw [allows] at effect
  obtain ⟨sound, revokesBy⟩ := sound_before isRevocation
  rw [revokes, isRevoked] at revokesBy
  have shut := isShut_of_revoked sound revokesBy isBound
  have begunLater := (advances_of_lt order isRevocation isBeginning).calls
  -- a call that begins after the revocation cannot have ended before it
  rcases Nat.lt_or_ge early late with after | before
  · obtain ⟨gap, rfl⟩ := Nat.exists_eq_add_of_lt after
    have isLater : (taken accessStep revocation.after
        (events.drop (early + 1)))[gap]? = some ending := by
      rw [← drop_taken isRevocation, List.getElem?_drop, ← isEnding]
      congr 1
      omega
    obtain ⟨shutBefore, _⟩ := @tracks_before _ _ _ accessStep
      (fun _ world => world.IsShut access.key bound
        revocation.after.calls.length)
      (fun _ world event kept => isShut_accessStep world event kept)
      [] _ shut _ _ _ isLater
    exact lt_of_allowed effect shutBefore begunLater
  · have ended := lt_length_of_finished effect
    have grown :=
      (advances_of_lt (before.trans_lt order) isEnding isBeginning).calls
    omega

/-- Every run of calls and revocations keeps the high-water marks. -/
theorem highWater
    (stores : Stores)
    (events : List AccessEvent) :
    HighWater (taken accessStep ⟨stores, []⟩ events) where
  policyRevision _ _ _ _ order isFirst isSecond organizationId policyId :=
    ((advances_of_le order isFirst isSecond).1.policies organizationId
      policyId).neverBelow
  entitlementRevision _ _ _ _ order isFirst isSecond key :=
    ((advances_of_le order isFirst isSecond).1.revisions key).neverBelow
  activated _ _ _ _ _ _ order isFirst isSecond activates _ isStored :=
    live_before_activated order isFirst isSecond activates isStored
  evidence early late first second call other policy later isFirst isSecond
      activates activatesLater sameOrganization samePolicy sameRevision := by
    have same : policy.state = later.state := by
      rcases Nat.le_total early late with order | order
      · exact state_eq_of_activated order isFirst isSecond activates
          activatesLater sameOrganization samePolicy sameRevision
      · exact (state_eq_of_activated order isSecond isFirst activatesLater
          activates sameOrganization.symm samePolicy.symm
          sameRevision.symm).symm
    exact ⟨congrArg RevisionState.digest same,
      congrArg RevisionState.expiresAt same⟩
  revoked _ _ _ _ _ _ _ _ _ _ _ _ _ isRevocation revokes isRevoked isBound
      order isBeginning _ isEnding allows sameKey := by
    cases sameKey
    exact lt_of_allowed_after_revoked isRevocation revokes isRevoked isBound
      order isBeginning isEnding allows

end

end Selene.Enterprise
