import Selene.EnterpriseHighWater

/-!
# The grace of an outage

While the verifier of entitlements is unavailable, access rests on the stored
state.  The state holds the revision, the digest and the expiry of the last
verified entitlement, and not its other fields.
-/

namespace Selene.Enterprise

open Js

variable {log : AccessLog} {state next : CallState}

/-! ## Answers of the verifier -/

/-- An answer of the verifier of entitlements to a call. -/
structure Answered where
  call : Nat
  verification : Verification
  access : Access
  deriving DecidableEq

/-- The answer of the verifier that an entry brings. -/
def answered (entry : AccessEntry) : Option Answered :=
  match entry.call with
  | .reply call result =>
      match entry.before.calls[call]? with
      | some (.verifyingEntitlement access) =>
          some ⟨call, normalizeEntitlementVerification result, access⟩
      | _ => none
  | _ => none

/-- The state keeps the same of two entitlements. -/
def keepsSame (first second : VerifiedEntitlement) : Prop :=
  first.revisionNamespace = second.revisionNamespace ∧
    first.state = second.state

instance (first second : VerifiedEntitlement) :
    Decidable (keepsSame first second) :=
  inferInstanceAs (Decidable (_ ∧ _))

/--
An entitlement that the verifier could not answer for is not confused with
one that it has answered for.
-/
def NotConfused (granted asked : Answered) : Prop :=
  granted.verification = .valid → asked.verification = .unavailable →
    keepsSame granted.access.entitlement asked.access.entitlement →
    granted.access.entitlement = asked.access.entitlement

instance (granted asked : Answered) : Decidable (NotConfused granted asked) :=
  inferInstanceAs (Decidable (_ → _ → _ → _))

/-- The answers of a run confuse no entitlements. -/
def ConfusesNone (log : AccessLog) : Prop :=
  ∀ granted ∈ log.filterMap answered, ∀ asked ∈ log.filterMap answered,
    NotConfused granted asked

instance (log : AccessLog) : Decidable (ConfusesNone log) :=
  inferInstanceAs (Decidable (∀ _ ∈ _, ∀ _ ∈ _, _))

/-! ## Earned grace -/

/-- An entry allows access that the verifier has called valid before. -/
def Grants (log : AccessLog) (early : Nat) (access : Access) : Prop :=
  ∃ grant call, log[early]? = some grant ∧
    grant.answer = .finished call (.allowed .verified access) ∧
    ∃ asked entry, asked < early ∧ log[asked]? = some entry ∧
      answered entry = some ⟨call, .valid, access⟩

/-- Between an entry and a later one a namespace keeps its state. -/
def KeepsState (log : AccessLog) (early late : Nat) (key : RevisionNamespace)
    (state : RevisionState) : Prop :=
  ∀ (middle : Nat) (entry : AccessEntry), early < middle → middle ≤ late →
    log[middle]? = some entry →
    entry.before.stores.revisions.read key = some state

/--
Whatever an outage allows was allowed before for exactly that entitlement, its
state was neither revoked nor replaced, and the grace is not over.
-/
def GraceIsEarned (log : AccessLog) : Prop :=
  ∀ (late call : Nat) (ending : AccessEntry) (access : Access),
    log[late]? = some ending →
    ending.answer = .finished call (.allowed .outage access) →
    access.isWithinGrace ∧
      ∃ early granted, early < late ∧ Grants log early granted ∧
        granted.entitlement = access.entitlement ∧
        KeepsState log early late access.key access.entitlement.state

/-! ## Names -/

/-- The names of the namespace of an entitlement are identifiers. -/
def VerifiedEntitlement.IsNamed (entitlement : VerifiedEntitlement) : Prop :=
  ∀ name ∈ entitlement.revisionNamespace.names, IsIdentifierText name

theorem key_injective_of_isNamed
    {first second : VerifiedEntitlement}
    (isFirst : first.IsNamed)
    (isSecond : second.IsNamed)
    (same : first.revisionNamespace.key = second.revisionNamespace.key) :
    first.revisionNamespace = second.revisionNamespace := by
  have unseparated : ∀ name, IsIdentifierText name →
      (0x1F : CodeUnit) ∉ name := by
    intro name isName member
    exact absurd (isName.printable 0x1F member).1 (by decide)
  exact RevisionNamespace.key_injective
    (fun name member => unseparated name (isFirst name member))
    (fun name member => unseparated name (isSecond name member)) same

theorem isNamed_of_normalizeEntitlement
    {value : JsValue}
    {entitlement : VerifiedEntitlement}
    (accepted : normalizeEntitlement value = .ok entitlement) :
    entitlement.IsNamed := by
  obtain ⟨_, accepted⟩ := check_bind_eq_ok.mp accepted
  obtain ⟨input, _, accepted⟩ := bind_eq_ok.mp accepted
  obtain ⟨_, accepted⟩ := check_bind_eq_ok.mp accepted
  obtain ⟨issuedAt, _, accepted⟩ := bind_eq_ok.mp accepted
  obtain ⟨expiresAt, _, accepted⟩ := bind_eq_ok.mp accepted
  obtain ⟨_, accepted⟩ := check_bind_eq_ok.mp accepted
  obtain ⟨version, _, accepted⟩ := bind_eq_ok.mp accepted
  obtain ⟨tenantId, isTenant, accepted⟩ := bind_eq_ok.mp accepted
  obtain ⟨providerId, isProvider, accepted⟩ := bind_eq_ok.mp accepted
  obtain ⟨audience, isAudience, accepted⟩ := bind_eq_ok.mp accepted
  obtain ⟨resource, isResource, accepted⟩ := bind_eq_ok.mp accepted
  obtain ⟨policyId, _, accepted⟩ := bind_eq_ok.mp accepted
  obtain ⟨policyVersion, _, accepted⟩ := bind_eq_ok.mp accepted
  obtain ⟨subjectId, isSubject, accepted⟩ := bind_eq_ok.mp accepted
  obtain ⟨revision, _, accepted⟩ := bind_eq_ok.mp accepted
  obtain ⟨capabilities, _, accepted⟩ := bind_eq_ok.mp accepted
  obtain ⟨digest, _, accepted⟩ := bind_eq_ok.mp accepted
  obtain ⟨signature, _, accepted⟩ := bind_eq_ok.mp accepted
  obtain ⟨keyId, _, accepted⟩ := bind_eq_ok.mp accepted
  cases Except.ok.inj accepted
  simp only [VerifiedEntitlement.IsNamed, RevisionNamespace.names,
    VerifiedEntitlement.revisionNamespace, List.forall_mem_cons,
    List.not_mem_nil, false_implies, implies_true, and_true]
  exact ⟨(identifier_eq_ok.mp isTenant).2, (identifier_eq_ok.mp isProvider).2,
    (identifier_eq_ok.mp isAudience).2, (identifier_eq_ok.mp isSubject).2,
    (identifier_eq_ok.mp isResource).2⟩

theorem isNamed_of_authorize
    {policy : ActivatedPolicy}
    {input : Record}
    {session : Option TrustedSession}
    {now : JsString}
    {stored : Option RevisionState}
    {access : Access}
    (accepted : authorize policy input session now stored = .ok access) :
    access.entitlement.IsNamed := by
  obtain ⟨_, _, _, _, _, _, _, authorized⟩ := authorized_of_authorize accepted
  exact isNamed_of_normalizeEntitlement authorized.presents

/-! ## What pending calls rest on -/

/-- The access that a call is about. -/
def CallState.access? : CallState → Option Access
  | .verifyingEntitlement access => some access
  | .readingCached access => some access
  | .readingRevision access _ => some access
  | .swappingRevision access _ _ => some access
  | _ => none

/-- The answer of the verifier that a call goes on with. -/
def CallState.rests? : CallState → Option (Verification × Access)
  | .readingCached access => some (.unavailable, access)
  | .readingRevision access _ => some (.valid, access)
  | .swappingRevision access _ _ => some (.valid, access)
  | _ => none

theorem Serves.isNamed
    {stores after : Stores}
    (serves : Serves stores state after next)
    (named : ∀ access, state.access? = some access →
      access.entitlement.IsNamed) :
    ∀ access, next.access? = some access → access.entitlement.IsNamed := by
  intro access isAccess
  cases serves with
  | livePolicyRead authorized =>
      cases isAccess
      exact isNamed_of_authorize authorized
  | revisionRead _ _ => exact named access isAccess
  | revisionRetried => exact named access isAccess
  | _ => cases isAccess

theorem Serves.rests
    {stores after : Stores}
    (serves : Serves stores state after next)
    {answer : Verification × Access}
    (isAnswer : next.rests? = some answer) :
    state.rests? = some answer := by
  cases serves with
  | revisionRead _ _ => exact isAnswer
  | revisionRetried => exact isAnswer
  | _ => cases isAnswer

theorem Replies.access
    {result : Option JsValue}
    (replies : Replies result state next)
    {access : Access}
    (isAccess : next.access? = some access) :
    state.access? = some access := by
  cases replies with
  | unavailable _ => exact isAccess
  | valid _ => exact isAccess
  | _ => cases isAccess

/-- What a call goes on with is the answer that it was given. -/
theorem Replies.rests
    {result : Option JsValue}
    (replies : Replies result state next)
    {verification : Verification}
    {access : Access}
    (isAnswer : next.rests? = some (verification, access)) :
    state = .verifyingEntitlement access ∧
      normalizeEntitlementVerification result = verification := by
  cases replies with
  | unavailable isUnavailable =>
      cases isAnswer
      exact ⟨rfl, isUnavailable⟩
  | valid isValid =>
      cases isAnswer
      exact ⟨rfl, isValid⟩
  | _ => cases isAnswer

/-! ## What the store remembers -/

/-- An unrevoked state of a run was granted, and kept since. -/
structure IsGranted (log : AccessLog) (key : RevisionNamespace)
    (state : RevisionState) (early : Nat) (granted : Access) : Prop where
  grants : Grants log early granted
  named : granted.entitlement.IsNamed
  sameKey : granted.key.key = key.key
  sameState : granted.entitlement.state = state
  kept : KeepsState log early log.length key state

/-- What the log of a run says of its calls and of its store. -/
structure Remembers (log : AccessLog) (world : World) : Prop where
  named : ∀ (call : Nat) (state : CallState),
    world.calls[call]? = some state →
    ∀ access, state.access? = some access → access.entitlement.IsNamed
  asked : ∀ (call : Nat) (state : CallState),
    world.calls[call]? = some state →
    ∀ verification access, state.rests? = some (verification, access) →
      ∃ (index : Nat) (entry : AccessEntry), log[index]? = some entry ∧
        answered entry = some ⟨call, verification, access⟩
  granted : ∀ key state, world.stores.revisions.read key = some state →
    state.revoked = false →
    ∃ early granted, IsGranted log key state early granted

theorem getElem?_append_of_some
    {α : Type}
    {items more : List α}
    {index : Nat}
    {item : α}
    (found : items[index]? = some item) :
    (items ++ more)[index]? = some item := by
  obtain ⟨inside, _⟩ := List.getElem?_eq_some_iff.mp found
  rw [List.getElem?_append_left inside, found]

theorem Grants.append
    {early : Nat}
    {access : Access}
    (grants : Grants log early access)
    (more : AccessLog) :
    Grants (log ++ more) early access := by
  obtain ⟨grant, call, isGrant, allows, asked, entry, order, isEntry,
    isAnswer⟩ := grants
  exact ⟨grant, call, getElem?_append_of_some isGrant, allows, asked, entry,
    order, getElem?_append_of_some isEntry, isAnswer⟩

theorem IsGranted.append
    {key : RevisionNamespace}
    {state : RevisionState}
    {early : Nat}
    {granted : Access}
    (isGranted : IsGranted log key state early granted)
    (entry : AccessEntry)
    (isStored : entry.before.stores.revisions.read key = some state) :
    IsGranted (log ++ [entry]) key state early granted where
  grants := isGranted.grants.append _
  named := isGranted.named
  sameKey := isGranted.sameKey
  sameState := isGranted.sameState
  kept middle other after _ found := by
    rcases Nat.lt_trichotomy middle log.length with inside | rfl | outside
    · rw [List.getElem?_append_left inside] at found
      exact isGranted.kept middle other after inside.le found
    · rw [List.getElem?_concat_length] at found
      cases found
      exact isStored
    · rw [List.getElem?_eq_none
        (by rwa [List.length_append, List.length_singleton])] at found
      cases found

theorem Remembers.calls_append
    {world : World}
    (remembers : Remembers log world)
    (entry : AccessEntry) :
    ∀ (call : Nat) (state : CallState), world.calls[call]? = some state →
      ∀ verification access, state.rests? = some (verification, access) →
        ∃ (index : Nat) (other : AccessEntry),
          (log ++ [entry])[index]? = some other ∧
            answered other = some ⟨call, verification, access⟩ := by
  intro call state isState verification access isAnswer
  obtain ⟨index, other, isOther, answers⟩ :=
    remembers.asked call state isState verification access isAnswer
  exact ⟨index, other, getElem?_append_of_some isOther, answers⟩

theorem Remembers.calls_step
    {world : World}
    (remembers : Remembers log world)
    (event : AccessEvent) :
    (∀ (call : Nat) (state : CallState),
      (accessStep world event).1.calls[call]? = some state →
      ∀ access, state.access? = some access → access.entitlement.IsNamed) ∧
    (∀ (call : Nat) (state : CallState),
      (accessStep world event).1.calls[call]? = some state →
      ∀ verification access, state.rests? = some (verification, access) →
        ∃ (index : Nat) (entry : AccessEntry),
          (log ++ [take accessStep world event])[index]? = some entry ∧
            answered entry = some ⟨call, verification, access⟩) := by
  have effect := accessStep_effect world event
  have asked := remembers.calls_append (take accessStep world event)
  have brought : ∀ call result access,
      event = .reply call result →
      world.calls[call]? = some (.verifyingEntitlement access) →
      answered (take accessStep world event) =
        some ⟨call, normalizeEntitlementVerification result, access⟩ := by
    rintro call result access rfl isState
    simp only [answered, take, isState]
  generalize take accessStep world event = entry at asked brought ⊢
  generalize accessStep world event = result at effect ⊢
  obtain ⟨after, answer⟩ := result
  cases effect with
  | started starts =>
      refine ⟨forall_calls_append remembers.named ?_,
        forall_calls_append asked ?_⟩
      · intro access isAccess
        cases starts <;> cases isAccess
      · intro verification access isAnswer
        cases starts <;> cases isAnswer
  | replied isState replies =>
      refine ⟨forall_calls_set remembers.named ?_, forall_calls_set asked ?_⟩
      · intro access isAccess
        exact remembers.named _ _ isState access (replies.access isAccess)
      · intro verification access isAnswer
        obtain ⟨rfl, rfl⟩ := replies.rests isAnswer
        exact ⟨log.length, entry, List.getElem?_concat_length,
          brought _ _ access rfl isState⟩
  | served isState serves =>
      refine ⟨forall_calls_set remembers.named ?_, forall_calls_set asked ?_⟩
      · exact serves.isNamed (remembers.named _ _ isState)
      · intro verification access isAnswer
        exact asked _ _ isState verification access (serves.rests isAnswer)
  | _ => exact ⟨remembers.named, asked⟩

theorem read_accessStep
    (world : World)
    (event : AccessEvent)
    {key : RevisionNamespace}
    {state : RevisionState}
    (isStored : (accessStep world event).1.stores.revisions.read key =
      some state)
    (isLive : state.revoked = false) :
    world.stores.revisions.read key = some state ∨
      ∃ call access current attempt,
        world.calls[call]? =
          some (.swappingRevision access current attempt) ∧
        (accessStep world event).2 =
          .finished call (.allowed .verified access) ∧
        access.key.key = key.key ∧ access.entitlement.state = state := by
  have effect := accessStep_effect world event
  generalize accessStep world event = result at effect isStored ⊢
  obtain ⟨after, answer⟩ := result
  cases effect with
  | @served call _ before _ _ isState serves =>
      cases serves with
      | @revisionSwapped access attempt current isCurrent =>
          change (world.stores.revisions.put access.key
            access.entitlement.state).read key = some state at isStored
          rw [InMemoryRevisionStore.read_put] at isStored
          split at isStored
          · rename_i sameKey
            cases isStored
            exact .inr ⟨call, access, current, attempt, isState, rfl, sameKey,
              rfl⟩
          · exact .inl isStored
      | _ => exact .inl isStored
  | revoked _ =>
      change (world.stores.revisions.put _ _).read key = some state at isStored
      rw [InMemoryRevisionStore.read_put] at isStored
      split at isStored
      · cases isStored
        cases isLive
      · exact .inl isStored
  | _ => exact .inl isStored

theorem Remembers.step
    (log : AccessLog)
    (world : World)
    (event : AccessEvent)
    (remembers : Remembers log world) :
    Remembers (log ++ [take accessStep world event])
      (accessStep world event).1 := by
  obtain ⟨named, asked⟩ := remembers.calls_step event
  refine ⟨named, asked, fun key state isStored isLive => ?_⟩
  rcases read_accessStep world event isStored isLive with
    wasStored | ⟨call, access, current, attempt, isState, allows, sameKey,
      rfl⟩
  · obtain ⟨early, granted, isGranted⟩ :=
      remembers.granted key state wasStored isLive
    exact ⟨early, granted, isGranted.append _ wasStored⟩
  · obtain ⟨index, entry, isEntry, answers⟩ :=
      remembers.asked call _ isState .valid access rfl
    obtain ⟨inside, _⟩ := List.getElem?_eq_some_iff.mp isEntry
    refine ⟨log.length, access, ?_, remembers.named call _ isState access rfl,
      sameKey, rfl, ?_⟩
    · exact ⟨take accessStep world event, call, List.getElem?_concat_length,
        allows, index, entry, inside, getElem?_append_of_some isEntry,
        answers⟩
    · intro middle other after within found
      rw [List.length_append, List.length_singleton] at within
      rw [List.getElem?_eq_none
        (by rw [List.length_append, List.length_singleton]; omega)] at found
      cases found

/-! ## Runs -/

theorem remembers_start
    (policies : PolicyRevisionStore)
    (capacity : Nat)
    (isCapacity : 1 ≤ capacity ∧ capacity ≤ 10000) :
    Remembers [] ⟨⟨policies, ⟨capacity, isCapacity, .empty⟩⟩, []⟩ where
  named call state found := by cases found
  asked call state found := by cases found
  granted key state found := by cases found

theorem cached_of_allowed
    {world after : World}
    {event : AccessEvent}
    {call : Nat}
    {access : Access}
    (effect : AccessEffect world event after
      (.finished call (.allowed .outage access))) :
    world.calls[call]? = some (.readingCached access) ∧
      access.isWithinGrace ∧
      world.stores.revisions.read access.key =
        some access.entitlement.state := by
  generalize isAnswer : AccessAnswer.finished call (.allowed .outage access) =
    answer at effect
  cases effect with
  | started starts => cases starts <;> cases isAnswer
  | replied _ replies => cases replies <;> cases isAnswer
  | served isState serves =>
      cases serves with
      | @cachedRead access state isStored isLive isRemembered inGrace =>
          cases isAnswer
          refine ⟨isState, inGrace, isStored.trans (congrArg some ?_)⟩
          obtain ⟨sameRevision, sameDigest, sameExpiry⟩ := isRemembered
          cases state
          simp_all [VerifiedEntitlement.state]
      | _ => cases isAnswer
  | _ => cases isAnswer

theorem mem_answers
    {index : Nat}
    {entry : AccessEntry}
    {answer : Answered}
    (found : log[index]? = some entry)
    (isAnswer : answered entry = some answer) :
    answer ∈ log.filterMap answered :=
  List.mem_filterMap.mpr ⟨entry, List.mem_of_getElem? found, isAnswer⟩

theorem getElem?_of_take
    {α : Type}
    {items : List α}
    {count index : Nat}
    {item : α}
    (found : (items.take count)[index]? = some item) :
    index < count ∧ items[index]? = some item := by
  rw [List.getElem?_take] at found
  split at found
  · rename_i inside
    exact ⟨inside, found⟩
  · cases found

theorem Grants.of_take
    {count early : Nat}
    {access : Access}
    (grants : Grants (log.take count) early access) :
    early < count ∧ Grants log early access := by
  obtain ⟨grant, call, isGrant, allows, asked, entry, order, isEntry,
    isAnswer⟩ := grants
  obtain ⟨inside, isGrant⟩ := getElem?_of_take isGrant
  exact ⟨inside, grant, call, isGrant, allows, asked, entry, order,
    (getElem?_of_take isEntry).2, isAnswer⟩

/--
If a run confuses no entitlement that the verifier could not answer for with
one that it has called valid, the grace of its outages is earned.
-/
theorem graceIsEarned
    {policies : PolicyRevisionStore}
    {capacity : Nat}
    {revisions : InMemoryRevisionStore}
    {events : List AccessEvent}
    (isCreated : InMemoryRevisionStore.create capacity = .ok revisions)
    (confusesNone :
      ConfusesNone (taken accessStep ⟨⟨policies, revisions⟩, []⟩ events)) :
    GraceIsEarned (taken accessStep ⟨⟨policies, revisions⟩, []⟩ events) := by
  obtain ⟨isCapacity, isCreated⟩ := require_bind_eq_ok.mp isCreated
  cases Except.ok.inj isCreated
  intro late call ending access isEnding allows
  obtain ⟨remembers, isTaken⟩ := @tracks_before _ _ _ accessStep Remembers
    Remembers.step [] _ (remembers_start policies capacity isCapacity) _ _ _
    isEnding
  rw [List.nil_append] at remembers
  have effect := accessStep_effect ending.before ending.call
  rw [show (accessStep ending.before ending.call).2 = ending.answer from
    (congrArg Taken.answer isTaken).symm, allows] at effect
  obtain ⟨isState, inGrace, isStored⟩ := cached_of_allowed effect
  obtain ⟨early, granted, isGranted⟩ :=
    remembers.granted access.key _ isStored rfl
  obtain ⟨order, grants⟩ := isGranted.grants.of_take
  refine ⟨inGrace, early, granted, order, grants, ?_, ?_⟩
  · -- both were answered, and the stored state does not tell them apart
    obtain ⟨_, _, isAsked, unavailable⟩ :=
      remembers.asked call _ isState .unavailable access rfl
    obtain ⟨_, grantedCall, _, _, _, _, _, isValid, valid⟩ := grants
    refine confusesNone _ (mem_answers isValid valid) _
      (mem_answers (getElem?_of_take isAsked).2 unavailable) rfl rfl ⟨?_, ?_⟩
    · exact key_injective_of_isNamed isGranted.named
        (remembers.named call _ isState access rfl) isGranted.sameKey
    · exact isGranted.sameState
  · intro middle entry after within found
    rcases within.eq_or_lt with rfl | before
    · cases Option.some.inj (found.symm.trans isEnding)
      exact isStored
    · refine isGranted.kept middle entry after ?_ ?_
      · obtain ⟨inside, _⟩ := List.getElem?_eq_some_iff.mp isEnding
        rw [List.length_take]
        omega
      · rw [List.getElem?_take, if_pos before, found]

/-! ## An outage that widens access -/

/-- A digest of one digit. -/
def repeatedDigest (digit : CodeUnit) : JsString :=
  List.replicate 64 digit

def reviewPolicy : JsValue :=
  .object [
    (js "format", .string (js enterpriseSecurityFormat)),
    (js "policyId", .string (js "review")),
    (js "policyVersion", .number (.ofNat 1)),
    (js "tenantId", .string (js "studio")),
    (js "audience", .string (js "selene")),
    (js "capabilities", .array [.string (js "review:read"),
      .string (js "review:write")]),
    (js "residency", .array [.string (js "eu")]),
    (js "allowedIpCidrs", .array [.string (js "10.0.0.0/8")]),
    (js "sessionMaxAgeSeconds", .number (.ofNat 3600)),
    (js "entitlementGraceSeconds", .number (.ofNat 600))]

def reviewEnvelope : JsValue :=
  .object [
    (js "format", .string (js "selene-signed-policy/v1")),
    (js "organizationId", .string (js "studio")),
    (js "revision", .number (.ofNat 1)),
    (js "issuedAt", .string (js "2026-01-01T00:00:00.000Z")),
    (js "expiresAt", .string (js "2027-01-01T00:00:00.000Z")),
    (js "policy", reviewPolicy),
    (js "digest", .string (repeatedDigest 0x61)),
    (js "signature", .string (js "policy-signature")),
    (js "keyId", .string (js "policy-key"))]

def reviewVerification : JsValue :=
  .object [(js "verified", .bool true),
    (js "digest", .string (repeatedDigest 0x61))]

/-- An entitlement to one capability. -/
def reviewEntitlement (capability signature : String) : JsValue :=
  .object [
    (js "format", .string (js "selene-external-entitlement/v2")),
    (js "entitlementVersion", .number (.ofNat 1)),
    (js "tenantId", .string (js "studio")),
    (js "providerId", .string (js "idp")),
    (js "audience", .string (js "selene")),
    (js "resource", .string (js "board")),
    (js "policyId", .string (js "review")),
    (js "policyVersion", .number (.ofNat 1)),
    (js "subjectId", .string (js "reviewer")),
    (js "revision", .number (.ofNat 1)),
    (js "issuedAt", .string (js "2026-05-01T10:00:00.000Z")),
    (js "expiresAt", .string (js "2026-05-01T10:30:00.000Z")),
    (js "capabilities", .array [.string (js capability)]),
    (js "digest", .string (repeatedDigest 0x62)),
    (js "signature", .string (js signature)),
    (js "keyId", .string (js "idp-key"))]

def reviewSession : TrustedSession where
  subjectId := js "reviewer"
  ipAddress := js "10.1.2.3"
  issuedAt := js "2026-05-01T10:00:00.000Z"
  expiresAt := js "2026-05-01T11:00:00.000Z"
  sessionId := js "session"
  active := true
  revoked := false
  accessVersion := 1
  sessionVersion := 1

/-- A request for the capability of an entitlement. -/
def reviewRequest (capability signature : String) : AccessRequest where
  value := .object [
    (js "capability", .string (js capability)),
    (js "tenantId", .string (js "studio")),
    (js "audience", .string (js "selene")),
    (js "resource", .string (js "board")),
    (js "residency", .string (js "eu")),
    (js "session", .null),
    (js "now", .string (js "2026-05-01T10:10:00.000Z")),
    (js "entitlement", reviewEntitlement capability signature)]
  session := some reviewSession

/-- The policy is activated, and an entitlement to read is verified. -/
def verifiedEvents : List AccessEvent :=
  [.activate reviewEnvelope (.string (js "2026-05-01T09:00:00.000Z")),
    .reply 0 (some reviewVerification), .serve 0 false, .serve 0 false,
    .evaluate 0 (reviewRequest "review:read" "signed"),
    .serve 1 false, .reply 1 (some (.bool true)), .serve 1 false,
    .serve 1 false]

/-- An entitlement is presented while the verifier is unavailable. -/
def outageEvents (capability signature : String) : List AccessEvent :=
  verifiedEvents ++
    [.evaluate 0 (reviewRequest capability signature), .serve 2 false,
      .reply 2 none, .serve 2 false]

/-- The run from empty stores. -/
def outageLog (capability signature : String) : AccessLog :=
  taken accessStep ⟨⟨.empty, ⟨128, by decide, .empty⟩⟩, []⟩
    (outageEvents capability signature)

/-- The capabilities of an entitlement that is allowed on a path. -/
def allowedCapabilities (path : AccessPath) (entry : AccessEntry) :
    Option (List JsString) :=
  match entry.answer with
  | .finished _ (.allowed taken access) =>
      if taken = path then some access.entitlement.capabilities else none
  | _ => none

theorem allowedCapabilities_eq_some
    {path : AccessPath}
    {entry : AccessEntry}
    {capabilities : List JsString}
    (isAllowed : allowedCapabilities path entry = some capabilities) :
    ∃ call access, entry.answer = .finished call (.allowed path access) ∧
      access.entitlement.capabilities = capabilities := by
  rw [allowedCapabilities] at isAllowed
  split at isAllowed
  · rename_i call taken access isAnswer
    split at isAllowed
    · rename_i same
      cases same
      exact ⟨call, access, isAnswer, Option.some.inj isAllowed⟩
    · cases isAllowed
  · cases isAllowed

/--
Only an entitlement to read was ever verified; in the outage one to write, with
the same digest and expiry, is allowed.
-/
theorem outage_widens :
    ¬ GraceIsEarned (outageLog "review:write" "forged") := by
  intro earned
  have allowsWrite : (outageLog "review:write" "forged")[12]?.bind
      (allowedCapabilities .outage) = some [js "review:write"] := by
    decide +kernel
  have verifiedRead : (outageLog "review:write" "forged").filterMap
      (allowedCapabilities .verified) = [[js "review:read"]] := by
    decide +kernel
  obtain ⟨ending, isEnding, isAllowed⟩ :=
    Option.bind_eq_some_iff.mp allowsWrite
  obtain ⟨call, access, allows, isWrite⟩ :=
    allowedCapabilities_eq_some isAllowed
  obtain ⟨_, early, granted, _, ⟨grant, grantCall, isGrant, grants, _⟩, same,
    _⟩ := earned 12 call ending access isEnding allows
  have isVerified : allowedCapabilities .verified grant =
      some [js "review:write"] := by
    rw [allowedCapabilities, grants, ← isWrite, ← same]
    exact if_pos rfl
  have member := List.mem_filterMap.mpr
    ⟨grant, List.mem_of_getElem? isGrant, isVerified⟩
  rw [verifiedRead] at member
  exact absurd member (by decide)

/-- The entitlement that was verified is allowed again in an outage. -/
theorem outage_earned :
    (outageLog "review:read" "signed").filterMap
        (allowedCapabilities .outage) = [[js "review:read"]] ∧
      GraceIsEarned (outageLog "review:read" "signed") :=
  ⟨by decide +kernel,
    @graceIsEarned .empty 128 ⟨128, by decide, .empty⟩
      (outageEvents "review:read" "signed") rfl (by decide +kernel)⟩

end Selene.Enterprise
