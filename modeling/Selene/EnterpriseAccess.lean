import Selene.EnterpriseStores
import Selene.LoggedMachine

/-!
# External access

`activateSignedPolicy` and `evaluateExternalAccess`, call by call and await by
await.  A call waits for a verifier or for a store.  What it does between two
awaits reads no shared state, so it is taken together with the answer that it
follows; the next operation on a store is a step of its own, and any other
calls and revocations come in between.
-/

namespace Selene.Enterprise

open Js

/-! ## Calls -/

/-- Why access is denied. -/
inductive DenialReason where
  | invalid
  | denied
  | revoked
  | storeUnavailable
  | providerUnavailable
  deriving DecidableEq

/-- The reason for an error that leaves `evaluateExternalAccess`. -/
def denialOf : Thrown → DenialReason
  | .security _ => .invalid
  | .range => .storeUnavailable

/--
A request for access.  A trusted session is not data: the value has `null` in
its place.
-/
structure AccessRequest where
  value : JsValue
  session : Option TrustedSession

/-- What access is asked for once the request and the policy are read. -/
structure Access where
  policy : ActivatedPolicy
  now : JsString
  entitlement : VerifiedEntitlement
  deriving DecidableEq

/-- Whether access rests on the verifier or on the grace of an outage. -/
inductive AccessPath where
  | verified
  | outage
  deriving DecidableEq

/-- How a call ends. -/
inductive Outcome where
  | activated (policy : ActivatedPolicy)
  | refused (error : Thrown)
  | allowed (path : AccessPath) (access : Access)
  | denied (reason : DenialReason)
  deriving DecidableEq

/-- What a call waits for, with all it has read before. -/
inductive CallState where
  | verifyingPolicy (envelope : SignedPolicyEnvelope)
  | readingPolicy (envelope : SignedPolicyEnvelope) (policy : CompiledPolicy)
  | swappingPolicy (envelope : SignedPolicyEnvelope) (policy : CompiledPolicy)
      (previous : Option RevisionState)
  | readingLivePolicy (policy : ActivatedPolicy) (input : Record)
      (session : Option TrustedSession) (now : JsString)
  | verifyingEntitlement (access : Access)
  | readingCached (access : Access)
  | readingRevision (access : Access) (attempt : Nat)
  | swappingRevision (access : Access) (current : Option RevisionState)
      (attempt : Nat)
  | finished (outcome : Outcome)

/-- A call that throws an error of a contract. -/
def refusal (message : String) : CallState :=
  .finished (.refused (.security (js message)))

def denial (reason : DenialReason) : CallState :=
  .finished (.denied reason)

/-! ## Activating a policy -/

def beginActivation (value now : JsValue) : CallState :=
  match readSignedPolicy value now with
  | .ok envelope => .verifyingPolicy envelope
  | .error error => .finished (.refused error)

/-- `value === true`. -/
def isTrueValue : JsValue → Bool
  | .bool state => state
  | _ => false

/-- The policy of an envelope that a verifier has answered for. -/
def acceptPolicy (envelope : SignedPolicyEnvelope) (result : Option JsValue) :
    Except Thrown CompiledPolicy := do
  let verification ← match result with
    | none => enterpriseError (js "policy verifier unavailable")
    | some result =>
        (dataRecord result "policy verification result"
          [js "verified", js "digest"]).mapError fun _ =>
            .security (js "policy verifier unavailable")
  check (isTrueValue (verification.get (js "verified")) = true)
    (.security (js "policy signature or digest was rejected"))
  let digest ←
    sha256Digest (verification.get (js "digest")) "verified policy digest"
  check (digest = envelope.digest)
    (.security (js "policy signature or digest was rejected"))
  compileEnterprisePolicy envelope.policy

def afterPolicyVerification (envelope : SignedPolicyEnvelope)
    (result : Option JsValue) : CallState :=
  match acceptPolicy envelope result with
  | .ok policy => .readingPolicy envelope policy
  | .error error => .finished (.refused error)

/-- The policy of an envelope with the evidence of its activation. -/
def activatedPolicy (envelope : SignedPolicyEnvelope)
    (policy : CompiledPolicy) : ActivatedPolicy where
  policy
  organizationId := envelope.organizationId
  revision := envelope.revision
  issuedAt := envelope.issuedAt
  expiresAt := envelope.expiresAt
  digest := envelope.digest
  keyId := envelope.keyId

/-- A stored state forbids the activation of an envelope. -/
def forbidsActivation (envelope : SignedPolicyEnvelope)
    (previous : RevisionState) : Prop :=
  previous.revoked = true ∨ envelope.revision < previous.revision ∨
    previous.revision = envelope.revision ∧
      (previous.digest ≠ envelope.digest ∨
        previous.expiresAt ≠ envelope.expiresAt)

instance (envelope : SignedPolicyEnvelope) (previous : RevisionState) :
    Decidable (forbidsActivation envelope previous) :=
  inferInstanceAs (Decidable (_ ∨ _))

def afterPolicyRead (envelope : SignedPolicyEnvelope) (policy : CompiledPolicy) :
    Option RevisionState → CallState
  | none => .swappingPolicy envelope policy none
  | some stored =>
      match normalizePolicyRevisionState stored with
      | .error error => .finished (.refused error)
      | .ok previous =>
          if forbidsActivation envelope previous then
            refusal "policy is revoked or downgraded"
          else if previous.revision < envelope.revision then
            .swappingPolicy envelope policy (some previous)
          else
            .finished (.activated (activatedPolicy envelope policy))

/-- The state that an activation stores. -/
def policyState (envelope : SignedPolicyEnvelope) : RevisionState where
  revision := envelope.revision
  revoked := false
  digest := envelope.digest
  expiresAt := envelope.expiresAt

def afterPolicySwap (envelope : SignedPolicyEnvelope) (policy : CompiledPolicy)
    (updated : Bool) : CallState :=
  if updated then
    .finished (.activated (activatedPolicy envelope policy))
  else
    refusal "policy high-water store conflict"

/-! ## Evaluating access -/

def requestFields : List JsString :=
  [js "capability", js "tenantId", js "audience", js "resource",
    js "residency", js "session", js "now", js "entitlement"]

def readRequest (request : AccessRequest) :
    Except Thrown (Record × JsString) := do
  check (isObject request.value = true)
    (.security (js "request must be an object"))
  let input ← dataRecord request.value "external access request" requestFields
  let now ← canonicalInstant (input.get (js "now")) "request now"
  pure (input, now)

/-- The trusted session in its place, if there is one. -/
def sessionIn (input : Record) (session : Option TrustedSession) :
    Option TrustedSession :=
  match input.get (js "session") with
  | .null => session
  | _ => none

/-- A call for a policy object, which may not be an activated one. -/
def beginEvaluation (policy : Option ActivatedPolicy)
    (request : AccessRequest) : CallState :=
  match policy with
  | none => denial .invalid
  | some policy =>
      match readRequest request with
      | .ok (input, now) =>
          .readingLivePolicy policy input (sessionIn input request.session) now
      | .error error => denial (denialOf error)

/-- The stored state is that of the activation, and not over. -/
def policyIsLive (policy : ActivatedPolicy) (now : JsString)
    (live : RevisionState) : Prop :=
  live.revoked = false ∧ live.revision = policy.revision ∧
    live.digest = policy.digest ∧ live.expiresAt = policy.expiresAt ∧
    instantMs now < instantMs live.expiresAt

instance (policy : ActivatedPolicy) (now : JsString) (live : RevisionState) :
    Decidable (policyIsLive policy now live) :=
  inferInstanceAs (Decidable (_ ∧ _))

def sessionIsCurrent (policy : CompiledPolicy) (now : JsString)
    (session : TrustedSession) : Prop :=
  session.active = true ∧ session.revoked = false ∧
    instantMs session.issuedAt ≤ instantMs now ∧
    instantMs now - instantMs session.issuedAt ≤
      policy.sessionMaxAgeSeconds * 1000 ∧
    instantMs now < instantMs session.expiresAt ∧
    policy.minimumAccessVersion ≤ session.accessVersion ∧
    policy.minimumSessionVersion ≤ session.sessionVersion

instance (policy : CompiledPolicy) (now : JsString)
    (session : TrustedSession) :
    Decidable (sessionIsCurrent policy now session) :=
  inferInstanceAs (Decidable (_ ∧ _))

/-- What a request asks for. -/
structure Wanted where
  capability : JsString
  tenantId : JsString
  audience : JsString
  resource : JsString
  residency : JsString
  subjectId : JsString
  ip : ParsedIp
  deriving DecidableEq

def readWanted (input : Record) (session : TrustedSession) :
    Except Thrown Wanted := do
  let capabilityValue ←
    capability (input.get (js "capability")) "request capability"
  let tenantId ← identifier (input.get (js "tenantId")) "request tenantId"
  let audience ← identifier (input.get (js "audience")) "request audience"
  let resource ← identifier (input.get (js "resource")) "request resource"
  let residency ← identifier (input.get (js "residency")) "request residency"
  let ip ← parseIp (.string session.ipAddress) "session IP address"
  pure ⟨capabilityValue, tenantId, audience, resource, residency,
    session.subjectId, ip⟩

def policyGrants (policy : CompiledPolicy) (wanted : Wanted) : Prop :=
  wanted.capability ∈ policy.capabilities ∧
    wanted.tenantId = policy.tenantId ∧ wanted.audience = policy.audience ∧
    wanted.residency ∈ policy.residency ∧
    policy.allowedIpCidrs.any (cidrMatches wanted.ip) = true

instance (policy : CompiledPolicy) (wanted : Wanted) :
    Decidable (policyGrants policy wanted) :=
  inferInstanceAs (Decidable (_ ∧ _))

def entitlementApplies (policy : CompiledPolicy) (now : JsString)
    (wanted : Wanted) (entitlement : VerifiedEntitlement) : Prop :=
  entitlement.tenantId = wanted.tenantId ∧
    entitlement.audience = wanted.audience ∧
    entitlement.resource = wanted.resource ∧
    entitlement.subjectId = wanted.subjectId ∧
    entitlement.policyId = policy.policyId ∧
    entitlement.policyVersion = policy.policyVersion ∧
    wanted.capability ∈ entitlement.capabilities ∧
    instantMs entitlement.issuedAt ≤ instantMs now ∧
    instantMs now - instantMs entitlement.issuedAt ≤
      policy.entitlementTtlSeconds * 1000 ∧
    instantMs entitlement.issuedAt < instantMs entitlement.expiresAt

instance (policy : CompiledPolicy) (now : JsString) (wanted : Wanted)
    (entitlement : VerifiedEntitlement) :
    Decidable (entitlementApplies policy now wanted entitlement) :=
  inferInstanceAs (Decidable (_ ∧ _))

/-- An error that leaves the evaluation, as a reason. -/
def orDenial {α : Type} (result : Except Thrown α) : Except DenialReason α :=
  result.mapError denialOf

theorem orDenial_eq_ok
    {α : Type}
    {result : Except Thrown α}
    {value : α}
    (accepted : orDenial result = .ok value) :
    result = .ok value := by
  cases result with
  | error error => cases accepted
  | ok other =>
      cases accepted
      rfl

/-- What a request asks the verifier about, given its session. -/
def authorizeSession (policy : ActivatedPolicy) (input : Record)
    (session : TrustedSession) (now : JsString) :
    Except DenialReason Access := do
  check (sessionIsCurrent policy.policy now session) .denied
  let wanted ← orDenial (readWanted input session)
  check (policyGrants policy.policy wanted) .denied
  let entitlement ←
    orDenial (normalizeEntitlement (input.get (js "entitlement")))
  check (entitlementApplies policy.policy now wanted entitlement) .invalid
  pure ⟨policy, now, entitlement⟩

/-- What a request asks the verifier about, given the state of its policy. -/
def authorize (policy : ActivatedPolicy) (input : Record)
    (session : Option TrustedSession) (now : JsString) :
    Option RevisionState → Except DenialReason Access
  | none => .error .revoked
  | some stored => do
      let live ← orDenial (normalizePolicyRevisionState stored)
      check (policyIsLive policy now live) .revoked
      match session with
      | none => .error .invalid
      | some session => authorizeSession policy input session now

def afterLivePolicyRead (policy : ActivatedPolicy) (input : Record)
    (session : Option TrustedSession) (now : JsString)
    (stored : Option RevisionState) : CallState :=
  match authorize policy input session now stored with
  | .ok access => .verifyingEntitlement access
  | .error reason => denial reason

/-- What a verifier says of an entitlement. -/
inductive Verification where
  | valid
  | invalid
  | unavailable
  deriving DecidableEq

/-- `normalizeEntitlementVerification`; a verifier that throws is unavailable. -/
def normalizeEntitlementVerification : Option JsValue → Verification
  | some (.bool true) => .valid
  | some (.bool false) => .invalid
  | some (.string answer) =>
      if answer = js "valid" then .valid
      else if answer = js "invalid" then .invalid
      else .unavailable
  | _ => .unavailable

def afterEntitlementVerification (access : Access) :
    Verification → CallState
  | .invalid => denial .invalid
  | .unavailable => .readingCached access
  | .valid =>
      if instantMs access.entitlement.expiresAt ≤ instantMs access.now then
        denial .denied
      else
        .readingRevision access 0

/-- The stored state is that of an entitlement. -/
def remembers (state : RevisionState) (entitlement : VerifiedEntitlement) :
    Prop :=
  state.revision = entitlement.revision ∧ state.digest = entitlement.digest ∧
    state.expiresAt = entitlement.expiresAt

instance (state : RevisionState) (entitlement : VerifiedEntitlement) :
    Decidable (remembers state entitlement) :=
  inferInstanceAs (Decidable (_ ∧ _))

/-- The time is within the grace after the end of an entitlement. -/
def Access.isWithinGrace (access : Access) : Prop :=
  instantMs access.now ≤ instantMs access.entitlement.expiresAt +
    access.policy.policy.entitlementGraceSeconds * 1000

instance (access : Access) : Decidable access.isWithinGrace :=
  inferInstanceAs (Decidable (_ ≤ _))

/-- `readRevisionState` of what the store holds. -/
def readRevisionState :
    Option RevisionState → Except Thrown (Option RevisionState)
  | none => .ok none
  | some stored => do
      let state ← normalizeRevisionState stored "revision store result"
      pure (some state)

/-- `cachedEntitlementIsUsable`, on the state that was read. -/
def cachedEntitlementIsUsable (access : Access) :
    Option RevisionState → Prop
  | none => False
  | some state =>
      state.revoked = false ∧ remembers state access.entitlement ∧
        access.isWithinGrace

instance (access : Access) (state : Option RevisionState) :
    Decidable (cachedEntitlementIsUsable access state) :=
  match state with
  | none => inferInstanceAs (Decidable False)
  | some _ => inferInstanceAs (Decidable (_ ∧ _))

def afterCachedRead (access : Access) (stored : Option RevisionState) :
    CallState :=
  match readRevisionState stored with
  | .error _ => denial .storeUnavailable
  | .ok state =>
      if cachedEntitlementIsUsable access state then
        .finished (.allowed .outage access)
      else
        denial .providerUnavailable

/-- The read of `advanceRevision`. -/
def afterRevisionRead (access : Access) (attempt : Nat)
    (stored : Option RevisionState) : CallState :=
  match readRevisionState stored with
  | .error _ => denial .storeUnavailable
  | .ok none => .swappingRevision access none attempt
  | .ok (some current) =>
      if access.entitlement.revision < current.revision ∨
          current.revision = access.entitlement.revision ∧
            current.revoked = true then
        denial .revoked
      else if remembers current access.entitlement then
        .finished (.allowed .verified access)
      else
        .swappingRevision access (some current) attempt

/-- The state that a verified entitlement stores. -/
def VerifiedEntitlement.state (entitlement : VerifiedEntitlement) :
    RevisionState where
  revision := entitlement.revision
  revoked := false
  digest := entitlement.digest
  expiresAt := entitlement.expiresAt

/-- The namespace that access is recorded under. -/
def Access.key (access : Access) : RevisionNamespace :=
  access.entitlement.revisionNamespace

/-- `compareRevisionState`. -/
def compareRevisionState (store : InMemoryRevisionStore) (access : Access)
    (expected : Option RevisionState) :
    Except Thrown (Bool × InMemoryRevisionStore) := do
  let next ← normalizeRevisionState access.entitlement.state
    "next revision state"
  store.compareAndSet access.key expected next

/-- What `advanceRevision` does after its compare-and-set. -/
def afterRevisionSwap (access : Access) (attempt : Nat) (swapped : Bool) :
    CallState :=
  if swapped then
    .finished (.allowed .verified access)
  else if 2 ≤ attempt then
    denial .storeUnavailable
  else
    .readingRevision access (attempt + 1)

/-! ## The machine -/

structure Stores where
  policies : PolicyRevisionStore
  revisions : InMemoryRevisionStore

/-- The stores, and every call that was begun. -/
structure World where
  stores : Stores
  calls : List CallState

inductive AccessEvent where
  | activate (value now : JsValue)
  | evaluate (policy : Nat) (request : AccessRequest)
  | reply (call : Nat) (result : Option JsValue)
  | serve (call : Nat) (fails : Bool)
  | revokePolicy (organizationId policyId : JsString) (state : RevisionState)
  | revoke (key : RevisionNamespace) (revision : JsValue)

inductive AccessAnswer where
  | pending
  | finished (call : Nat) (outcome : Outcome)
  | revoked
  | failed
  deriving DecidableEq

/-- A call goes on with the answer of a verifier. -/
def replied (result : Option JsValue) : CallState → Option CallState
  | .verifyingPolicy envelope =>
      some (afterPolicyVerification envelope result)
  | .verifyingEntitlement access =>
      some (afterEntitlementVerification access
        (normalizeEntitlementVerification result))
  | _ => none

/-- A call goes on after its operation on a store, which may fail. -/
def served (stores : Stores) (fails : Bool) :
    CallState → Option (Stores × CallState)
  | .readingPolicy envelope policy =>
      some (stores,
        if fails then refusal "policy revision store unavailable"
        else afterPolicyRead envelope policy
          (stores.policies.read envelope.organizationId policy.policyId))
  | .swappingPolicy envelope policy previous =>
      if fails then
        some (stores, refusal "policy revision store unavailable")
      else
        let (updated, policies) := stores.policies.compareAndSet
          envelope.organizationId policy.policyId previous
          (policyState envelope)
        some ({ stores with policies }, afterPolicySwap envelope policy updated)
  | .readingLivePolicy policy input session now =>
      some (stores,
        if fails then denial .storeUnavailable
        else afterLivePolicyRead policy input session now
          (stores.policies.read policy.organizationId policy.policy.policyId))
  | .readingCached access =>
      some (stores,
        if fails then denial .storeUnavailable
        else afterCachedRead access (stores.revisions.read access.key))
  | .readingRevision access attempt =>
      some (stores,
        if fails then denial .storeUnavailable
        else afterRevisionRead access attempt
          (stores.revisions.read access.key))
  | .swappingRevision access current attempt =>
      if fails then
        some (stores, denial .storeUnavailable)
      else
        match compareRevisionState stores.revisions access current with
        | .error _ => some (stores, denial .storeUnavailable)
        | .ok (swapped, revisions) =>
            some ({ stores with revisions },
              afterRevisionSwap access attempt swapped)
  | _ => none

/-- What a call answers in a state. -/
def answerOf (call : Nat) : CallState → AccessAnswer
  | .finished outcome => .finished call outcome
  | _ => .pending

/-- The policy that a call has activated. -/
def World.activated? (world : World) (call : Nat) : Option ActivatedPolicy :=
  match world.calls[call]? with
  | some (.finished (.activated policy)) => some policy
  | _ => none

/-- A new call. -/
def World.start (world : World) (state : CallState) : World × AccessAnswer :=
  ({ world with calls := world.calls ++ [state] },
    answerOf world.calls.length state)

/-- A call goes on. -/
def World.resume (world : World) (call : Nat) (stores : Stores)
    (state : CallState) : World × AccessAnswer :=
  (⟨stores, world.calls.set call state⟩, answerOf call state)

/-- A revocation of a policy key by the owner of the store. -/
def isPolicyRevocation (stored : Option RevisionState)
    (state : RevisionState) : Prop :=
  state.revoked = true ∧
    ∀ old ∈ stored, old.revision ≤ state.revision

instance (stored : Option RevisionState) (state : RevisionState) :
    Decidable (isPolicyRevocation stored state) :=
  match stored with
  | none => decidable_of_iff (state.revoked = true) (by simp [isPolicyRevocation])
  | some old =>
      decidable_of_iff (state.revoked = true ∧ old.revision ≤ state.revision)
        (by simp [isPolicyRevocation])

def accessStep (world : World) : AccessEvent → World × AccessAnswer
  | .activate value now => world.start (beginActivation value now)
  | .evaluate policy request =>
      world.start (beginEvaluation (world.activated? policy) request)
  | .reply call result =>
      match world.calls[call]?.bind (replied result) with
      | some state => world.resume call world.stores state
      | none => (world, .failed)
  | .serve call fails =>
      match world.calls[call]?.bind (served world.stores fails) with
      | some (stores, state) => world.resume call stores state
      | none => (world, .failed)
  | .revokePolicy organizationId policyId state =>
      if isPolicyRevocation
          (world.stores.policies.read organizationId policyId) state then
        ({ world with stores.policies :=
            world.stores.policies.set ⟨organizationId, policyId, state⟩ },
          .revoked)
      else
        (world, .failed)
  | .revoke key revision =>
      match world.stores.revisions.revoke key revision with
      | .ok revisions => ({ world with stores.revisions := revisions }, .revoked)
      | .error _ => (world, .failed)

end Selene.Enterprise
