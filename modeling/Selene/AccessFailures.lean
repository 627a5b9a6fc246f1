import Selene.BreakGlass
import Selene.Raising

/-!
# Failures of external access

`evaluateExternalAccess` on stores and a verifier that may answer anything or
fail, as one function of their answers.  Whatever is thrown ends in a decision:
an error of the module's own is `invalid`, any other is `store-unavailable`.

The validators throw one error that is not their own: a text in the shape of an
instant that is no date makes `toISOString` throw a `RangeError`.  Where such a
text is reached, a malformed request is answered as if a store had failed; there
is no other case of it.
-/

namespace Selene.Enterprise

open Js

/-! ## Answers of stores -/

inductive StoreCall where
  | readPolicy
  | readRevision
  | compareAndSet
  deriving DecidableEq

/-- A call of a store, with its answer; `none` is a failure. -/
structure Asked where
  call : StoreCall
  answer : Option JsValue

/-- The fields of a stored state, in data of a store. -/
def stateOf (value : JsValue)
    (field recordField revisionField revokedField digestField
      expiresAtField : String) :
    Except Thrown RevisionState := do
  check (isObject value = true)
    (.security (js field ++ js " must be an object"))
  let input ← dataRecord value recordField
    [js "revision", js "revoked", js "digest", js "expiresAt"]
  let revoked ← match input.get (js "revoked") with
    | .bool revoked => .ok revoked
    | _ => enterpriseError (js revokedField ++ js " must be a boolean")
  let revision ← boundedPositiveInteger (input.get (js "revision"))
    revisionField JsNumber.maxSafeInteger
  let digest ← sha256Digest (input.get (js "digest")) digestField
  let expiresAt ←
    canonicalInstant (input.get (js "expiresAt")) expiresAtField
  pure ⟨revision, revoked, digest, expiresAt⟩

/-- `normalizePolicyRevisionState`, of what a store returned. -/
def policyStateOf (value : JsValue) : Except Thrown RevisionState :=
  stateOf value "policy revision store result" "policy revision store result"
    "policy revision store revision" "policy revision store revoked"
    "policy revision store digest" "policy revision store expiresAt"

/-- `readRevisionState`, of what a store returned. -/
def revisionStateOf : JsValue → Except Thrown (Option RevisionState)
  | .undefined => .ok none
  | value => do
      let state ← stateOf value "revision store result" "revision state"
        "revision store result.revision" "revision store result.revoked"
        "revision store result.digest" "revision store result.expiresAt"
      pure (some state)

/-! ## The host -/

/-- The ports of an evaluation, and what their calls answer. -/
structure AccessHost where
  verifier : PortValue
  readPort : PortValue
  comparePort : PortValue
  revokePort : PortValue
  readPolicy : Option JsValue
  verify : Option JsValue
  readCached : Option JsValue
  /-- The answers to each attempt to advance the revision. -/
  readRevision : Nat → Option JsValue
  compareAndSet : Nat → Option JsValue

/-- The methods that are captured before anything else. -/
def captureAccessPorts (host : AccessHost) : Except Thrown Unit := do
  capturePort host.verifier "verify" "entitlement verifier"
  capturePort host.readPort "read" "revision store"
  capturePort host.comparePort "compareAndSet" "revision store"
  capturePort host.revokePort "revoke" "revision store"

inductive AccessDecision where
  | allowed
  | denied (reason : DenialReason)
  deriving DecidableEq

/-- The calls of stores that an evaluation makes, and what it decides. -/
structure Evaluation where
  asked : List Asked
  decision : AccessDecision

/-- An evaluation after one more call of a store. -/
def Evaluation.after (rest : Evaluation) (asked : Asked) : Evaluation where
  asked := asked :: rest.asked
  decision := rest.decision

/-! ## The evaluation -/

/-- What a request asks the verifier about, given the answer for its policy. -/
def authorizeLive (policy : ActivatedPolicy) (input : Record)
    (session : Option TrustedSession) (now : JsString) :
    Option JsValue → Except DenialReason Access
  | none => .error .storeUnavailable
  | some .undefined => .error .revoked
  | some stored => do
      let live ← orDenial (policyStateOf stored)
      check (policyIsLive policy now live) .revoked
      match session with
      | none => .error .invalid
      | some session => authorizeSession policy input session now

/-- Access on the grace of an entitlement that was verified before. -/
def decideCached (host : AccessHost) (access : Access) : Evaluation where
  asked := [⟨.readRevision, host.readCached⟩]
  decision :=
    match host.readCached.map revisionStateOf with
    | some (.ok state) =>
        if cachedEntitlementIsUsable access state then .allowed
        else .denied .providerUnavailable
    | _ => .denied .storeUnavailable

/-- The stored state ends an attempt, or leaves it to the compare-and-set. -/
def settledBy (access : Access) : Option RevisionState → Option AccessDecision
  | none => none
  | some current =>
      if access.entitlement.revision < current.revision ∨
          current.revision = access.entitlement.revision ∧
            current.revoked = true then
        some (.denied .revoked)
      else if remembers current access.entitlement then
        some .allowed
      else
        none

/-- `advanceRevision` from an attempt on, with so many attempts left. -/
def advanceRevision (host : AccessHost) (access : Access) (attempt : Nat)
    (left : Nat) : Evaluation :=
  let read : Asked := ⟨.readRevision, host.readRevision attempt⟩
  match (host.readRevision attempt).map revisionStateOf with
  | some (.ok current) =>
      match settledBy access current with
      | some decision => ⟨[read], decision⟩
      | none =>
          match normalizeRevisionState access.entitlement.state
              "next revision state" with
          | .error _ => ⟨[read], .denied .storeUnavailable⟩
          | .ok _ =>
              let swap : Asked :=
                ⟨.compareAndSet, host.compareAndSet attempt⟩
              match host.compareAndSet attempt with
              | some (.bool true) => ⟨[read, swap], .allowed⟩
              | some (.bool false) =>
                  match left with
                  | 0 => ⟨[read, swap], .denied .storeUnavailable⟩
                  | left + 1 =>
                      ((advanceRevision host access (attempt + 1) left).after
                        swap).after read
              | _ => ⟨[read, swap], .denied .storeUnavailable⟩
  | _ => ⟨[read], .denied .storeUnavailable⟩

/-- What follows the verification of an entitlement. -/
def decideVerified (host : AccessHost) (access : Access) : Evaluation :=
  match normalizeEntitlementVerification host.verify with
  | .invalid => ⟨[], .denied .invalid⟩
  | .unavailable => decideCached host access
  | .valid =>
      if instantMs access.entitlement.expiresAt ≤ instantMs access.now then
        ⟨[], .denied .denied⟩
      else
        advanceRevision host access 0 2

/-- The body of the evaluation, for captured ports and an activated policy. -/
def decideAccess (host : AccessHost) (policy : ActivatedPolicy)
    (request : AccessRequest) : Evaluation :=
  match readRequest request with
  | .error error => ⟨[], .denied (denialOf error)⟩
  | .ok (input, now) =>
      let read : Asked := ⟨.readPolicy, host.readPolicy⟩
      match authorizeLive policy input (sessionIn input request.session) now
          host.readPolicy with
      | .error reason => ⟨[read], .denied reason⟩
      | .ok access => (decideVerified host access).after read

def evaluateExternalAccess (host : AccessHost)
    (policy : Option ActivatedPolicy) (request : AccessRequest) : Evaluation :=
  match captureAccessPorts host with
  | .error error => ⟨[], .denied (denialOf error)⟩
  | .ok _ =>
      match policy with
      | none => ⟨[], .denied .invalid⟩
      | some policy => decideAccess host policy request

/-! ## Errors of the validators -/

/-- An error of the module's own. -/
def IsOwn (error : Thrown) : Prop :=
  ∃ message, error = .security message

theorem not_isOwn_range : ¬ IsOwn .range :=
  nofun

theorem isOwn_security (message : JsString) : IsOwn (.security message) :=
  ⟨message, rfl⟩

section

variable (value : JsValue) (field : String)

theorem raises_text
    (maximum : Nat) :
    Raises IsOwn (text value field maximum) := by
  unfold text
  split
  · split
    · exact raises_ok _
    · exact raises_error (isOwn_security _)
  · exact raises_error (isOwn_security _)

theorem raises_identifier :
    Raises IsOwn (identifier value field) :=
  raises_bind (raises_text _ _ _) fun _ =>
    raises_bind (raises_check (isOwn_security _)) fun _ => raises_ok _

theorem raises_capability :
    Raises IsOwn (capability value field) :=
  raises_bind (raises_text _ _ _) fun _ =>
    raises_bind (raises_check (isOwn_security _)) fun _ => raises_ok _

theorem raises_sha256Digest :
    Raises IsOwn (sha256Digest value field) :=
  raises_bind (raises_text _ _ _) fun _ =>
    raises_bind (raises_check (isOwn_security _)) fun _ => raises_ok _

theorem raises_parseIp :
    Raises IsOwn (parseIp value field) := by
  refine raises_bind (raises_text _ _ _) fun candidate => ?_
  split
  · exact raises_ok _
  · split
    · exact raises_ok _
    · exact raises_error (isOwn_security _)

theorem raises_boundedPositiveInteger
    (maximum : Nat) :
    Raises IsOwn (boundedPositiveInteger value field maximum) := by
  unfold boundedPositiveInteger boundedInteger
  split
  · split
    · split
      · exact raises_ok _
      · exact raises_error (isOwn_security _)
    · exact raises_error (isOwn_security _)
  · exact raises_error (isOwn_security _)

end

theorem raises_consumeDataBudget (budget : DataBudget) :
    Raises IsOwn (consumeDataBudget budget) := by
  unfold consumeDataBudget
  split
  · exact raises_error (isOwn_security _)
  · exact raises_ok _

theorem raises_consumeDataBytes (budget : DataBudget) (length : Nat) :
    Raises IsOwn (consumeDataBytes budget length) := by
  unfold consumeDataBytes
  split
  · exact raises_error (isOwn_security _)
  · exact raises_ok _

mutual

theorem raises_dataValue
    (value : JsValue)
    (field : JsString)
    (budget : DataBudget) :
    Raises IsOwn (dataValue value field budget) := by
  cases value with
  | undefined => exact raises_error (isOwn_security _)
  | exotic => exact raises_error (isOwn_security _)
  | null => exact raises_ok _
  | bool value => exact raises_ok _
  | number value =>
      rw [dataValue]
      split
      · exact raises_ok _
      · exact raises_error (isOwn_security _)
  | string value =>
      rw [dataValue]
      split
      · exact raises_error (isOwn_security _)
      · exact raises_consumeDataBytes _ _
  | array items =>
      rw [dataValue]
      refine raises_bind (raises_consumeDataBudget _) fun charged => ?_
      split
      · exact raises_error (isOwn_security _)
      · exact raises_dataItems items field 0 charged
  | object entries =>
      rw [dataValue]
      refine raises_bind (raises_consumeDataBudget _) fun charged => ?_
      split
      · exact raises_error (isOwn_security _)
      · exact raises_dataEntries entries field charged

theorem raises_dataItems
    (items : List JsValue)
    (field : JsString)
    (index : Nat)
    (budget : DataBudget) :
    Raises IsOwn (dataItems items field index budget) := by
  cases items with
  | nil => exact raises_ok _
  | cons item rest =>
      rw [dataItems]
      exact raises_bind (raises_dataValue item _ _) fun charged =>
        raises_dataItems rest field (index + 1) charged

theorem raises_dataEntries
    (entries : Record)
    (field : JsString)
    (budget : DataBudget) :
    Raises IsOwn (dataEntries entries field budget) := by
  cases entries with
  | nil => exact raises_ok _
  | cons entry rest =>
      obtain ⟨key, value⟩ := entry
      rw [dataEntries]
      exact raises_bind (raises_dataValue value _ _) fun charged =>
        raises_dataEntries rest field charged

end

section

variable (value : JsValue) (field : String)

theorem raises_dataRecord
    (allowedKeys : List JsString) :
    Raises IsOwn (dataRecord value field allowedKeys) := by
  unfold dataRecord
  split
  · split
    · exact raises_error (isOwn_security _)
    · exact raises_bind (raises_dataValue _ _ _) fun _ => raises_ok _
  · exact raises_error (isOwn_security _)

theorem raises_dataArray :
    Raises IsOwn (dataArray value field) := by
  unfold dataArray
  split
  · exact raises_bind (raises_dataValue _ _ _) fun _ => raises_ok _
  · exact raises_error (isOwn_security _)

theorem raises_uniqueCapabilities :
    Raises IsOwn (uniqueStrings value field capability) :=
  raises_bind (raises_dataArray _ _) fun values =>
    raises_bind (raises_mapM (fun item => raises_capability item field) values)
      fun _ => raises_bind (raises_check (isOwn_security _)) fun _ =>
        raises_ok _

end

theorem raises_capturePort
    (port : PortValue)
    (name field : String) :
    Raises IsOwn (capturePort port name field) := by
  cases port with
  | notObject => exact raises_error (isOwn_security _)
  | withoutMethod => exact raises_error (isOwn_security _)
  | withMethod => exact raises_ok ()

theorem isOwn_instantMessage (field : String) : IsOwn (instantMessage field) :=
  isOwn_security _

variable {α : Type} {result : Except Thrown α}

theorem check_bind_eq_range
    {condition : Prop}
    {decision : Decidable condition}
    {code : Thrown}
    {next : Unit → Except Thrown α}
    (own : IsOwn code) :
    (check condition code >>= next) = .error .range ↔
      condition ∧ next () = .error .range := by
  refine check_bind_eq_error ?_
  rintro rfl
  exact not_isOwn_range own

/-- A text in the shape of an instant that is no date. -/
def IsSkewed (value : JsValue) : Prop :=
  ∃ content, value = .string content ∧
    matchesTemplate instantTemplate content = true ∧ dateParse content = none

variable {value : JsValue} {field : String}

theorem canonicalInstant_eq_range :
    canonicalInstant value field = .error .range ↔ IsSkewed value := by
  rw [canonicalInstant, bind_eq_error_of_raises (raises_text _ _ _)
    not_isOwn_range]
  constructor
  · rintro ⟨content, accepted, rest⟩
    obtain ⟨isString, _⟩ := text_eq_ok.mp accepted
    obtain ⟨shape, rest⟩ :=
      (check_bind_eq_range (isOwn_instantMessage field)).mp rest
    refine ⟨content, isString, shape, ?_⟩
    cases isTime : dateParse content with
    | none => rfl
    | some time =>
        rw [isTime] at rest
        obtain ⟨_, none_⟩ :=
          (check_bind_eq_range (isOwn_instantMessage field)).mp rest
        cases none_
  · rintro ⟨content, isString, shape, noDate⟩
    refine ⟨content,
      text_eq_ok.mpr ⟨isString, isText_of_matchesTemplate shape⟩, ?_⟩
    rw [check_bind_eq_range (isOwn_instantMessage field), noDate]
    exact ⟨shape, rfl⟩

/-- A request whose time is reached, and skewed. -/
def SkewedRequest (request : AccessRequest) : Prop :=
  isObject request.value = true ∧
    ∃ input, dataRecord request.value "external access request" requestFields =
        .ok input ∧ IsSkewed (input.get (js "now"))

variable {request : AccessRequest}

theorem readRequest_eq_range :
    readRequest request = .error .range ↔ SkewedRequest request := by
  rw [readRequest, check_bind_eq_range (isOwn_security _),
    bind_eq_error_of_raises (raises_dataRecord _ _ _) not_isOwn_range]
  refine and_congr_right fun _ => exists_congr fun input =>
    and_congr_right fun _ => ?_
  rw [bind_eq_error, canonicalInstant_eq_range, or_iff_left]
  rintro ⟨_, _, none_⟩
  cases none_

/-- An entitlement whose instants are reached, and one of them skewed. -/
def SkewedEntitlement (value : JsValue) : Prop :=
  isObject value = true ∧
    ∃ input, dataRecord value "external entitlement" entitlementFields =
        .ok input ∧
      isString (input.get (js "format")) "selene-external-entitlement/v2" ∧
      (IsSkewed (input.get (js "issuedAt")) ∨
        (∃ content, input.get (js "issuedAt") = .string content ∧
          IsInstant content) ∧ IsSkewed (input.get (js "expiresAt")))

/-- Entitlements raise a `RangeError` for their instants only. -/
theorem normalizeEntitlement_eq_range :
    normalizeEntitlement value = .error .range ↔ SkewedEntitlement value := by
  rw [normalizeEntitlement, check_bind_eq_range (isOwn_security _),
    bind_eq_error_of_raises (raises_dataRecord _ _ _) not_isOwn_range]
  refine and_congr_right fun _ => exists_congr fun input =>
    and_congr_right fun _ => ?_
  rw [check_bind_eq_range (isOwn_security _)]
  refine and_congr_right fun _ => ?_
  rw [bind_eq_error, canonicalInstant_eq_range]
  refine or_congr_right ?_
  constructor
  · rintro ⟨issuedAt, isIssued, rest⟩
    rcases bind_eq_error.mp rest with skewed | ⟨expiresAt, _, rest⟩
    · exact ⟨⟨issuedAt, canonicalInstant_eq_ok.mp isIssued⟩,
        canonicalInstant_eq_range.mp skewed⟩
    · -- The other fields fail with errors of the module only.
      refine absurd (?_ : IsOwn .range) not_isOwn_range
      refine (?_ : Raises IsOwn _) _ rest
      exact raises_bind (raises_check (isOwn_security _)) fun _ =>
        raises_bind (raises_boundedPositiveInteger _ _ _) fun _ =>
        raises_bind (raises_identifier _ _) fun _ =>
        raises_bind (raises_identifier _ _) fun _ =>
        raises_bind (raises_identifier _ _) fun _ =>
        raises_bind (raises_identifier _ _) fun _ =>
        raises_bind (raises_identifier _ _) fun _ =>
        raises_bind (raises_boundedPositiveInteger _ _ _) fun _ =>
        raises_bind (raises_identifier _ _) fun _ =>
        raises_bind (raises_boundedPositiveInteger _ _ _) fun _ =>
        raises_bind (raises_uniqueCapabilities _ _) fun _ =>
        raises_bind (raises_sha256Digest _ _) fun _ =>
        raises_bind (raises_text _ _ _) fun _ =>
        raises_bind (raises_text _ _ _) fun _ => raises_ok _
  · rintro ⟨⟨issuedAt, isString, instant⟩, skewed⟩
    refine ⟨issuedAt, canonicalInstant_eq_ok.mpr ⟨isString, instant⟩, ?_⟩
    exact bind_eq_error.mpr (.inl (canonicalInstant_eq_range.mpr skewed))

theorem raises_readWanted
    (input : Record)
    (session : TrustedSession) :
    Raises IsOwn (readWanted input session) :=
  raises_bind (raises_capability _ _) fun _ =>
    raises_bind (raises_identifier _ _) fun _ =>
    raises_bind (raises_identifier _ _) fun _ =>
    raises_bind (raises_identifier _ _) fun _ =>
    raises_bind (raises_identifier _ _) fun _ =>
    raises_bind (raises_parseIp _ _) fun _ => raises_ok _

theorem raises_captureAccessPorts (host : AccessHost) :
    Raises IsOwn (captureAccessPorts host) :=
  raises_bind (raises_capturePort _ _ _) fun _ =>
    raises_bind (raises_capturePort _ _ _) fun _ =>
    raises_bind (raises_capturePort _ _ _) fun _ => raises_capturePort _ _ _

/-! ## What decisions say -/

/-- A store that rejects, or answers with what is no state or no boolean. -/
def Asked.Failed (asked : Asked) : Prop :=
  match asked.answer with
  | none => True
  | some value =>
      match asked.call with
      | .readPolicy =>
          value ≠ .undefined ∧ ∃ error, policyStateOf value = .error error
      | .readRevision => ∃ error, revisionStateOf value = .error error
      | .compareAndSet => ∀ swapped, value ≠ .bool swapped

/-- Every one of three compare-and-sets came too late. -/
def Contended (asked : List Asked) : Prop :=
  (asked.filter fun entry => entry.call = .compareAndSet).map Asked.answer =
    [some (.bool false), some (.bool false), some (.bool false)]

/-- The policy store answers with the state of the activation. -/
def LivePolicy (host : AccessHost) (policy : ActivatedPolicy)
    (now : JsString) : Prop :=
  ∃ value live, host.readPolicy = some value ∧ value ≠ .undefined ∧
    policyStateOf value = .ok live ∧ policyIsLive policy now live

/-- The checks that come before the entitlement, none of which denies. -/
structure ReachesEntitlement (host : AccessHost) (policy : ActivatedPolicy)
    (request : AccessRequest) (input : Record) (now : JsString)
    (session : TrustedSession) (wanted : Wanted) : Prop where
  read : readRequest request = .ok (input, now)
  live : LivePolicy host policy now
  trusted : sessionIn input request.session = some session
  current : sessionIsCurrent policy.policy now session
  fields : readWanted input session = .ok wanted
  granted : policyGrants policy.policy wanted

/--
A request violates the format, at a check that is reached: none of the checks
before it denies.
-/
inductive Violates (host : AccessHost) (policy : ActivatedPolicy)
    (request : AccessRequest) : Prop where
  | request {error : Thrown}
      (rejected : readRequest request = .error error)
  | session {input : Record} {now : JsString}
      (read : readRequest request = .ok (input, now))
      (live : LivePolicy host policy now)
      (untrusted : sessionIn input request.session = none)
  | fields {input : Record} {now : JsString} {session : TrustedSession}
      {error : Thrown}
      (read : readRequest request = .ok (input, now))
      (live : LivePolicy host policy now)
      (trusted : sessionIn input request.session = some session)
      (current : sessionIsCurrent policy.policy now session)
      (rejected : readWanted input session = .error error)
  | entitlement {input : Record} {now : JsString} {session : TrustedSession}
      {wanted : Wanted} {error : Thrown}
      (reaches : ReachesEntitlement host policy request input now session wanted)
      (rejected : normalizeEntitlement (input.get (js "entitlement")) =
        .error error)

/-- The evaluation reaches an instant that is skewed. -/
inductive ReachesSkewed (host : AccessHost) (policy : ActivatedPolicy)
    (request : AccessRequest) : Prop where
  | now (skewed : SkewedRequest request)
  | entitlement {input : Record} {now : JsString} {session : TrustedSession}
      {wanted : Wanted}
      (reaches : ReachesEntitlement host policy request input now session wanted)
      (skewed : SkewedEntitlement (input.get (js "entitlement")))

/--
An evaluation tells failures apart: it ends after a few calls of stores, a
store is unavailable only if one failed or stayed contended, and a request that
violates the format is invalid.
-/
structure Classified (host : AccessHost) (policy : ActivatedPolicy)
    (request : AccessRequest) : Prop where
  settles :
    (evaluateExternalAccess host (some policy) request).asked.length ≤ 7
  unavailable :
    (evaluateExternalAccess host (some policy) request).decision =
        .denied .storeUnavailable →
      (∃ entry ∈ (evaluateExternalAccess host (some policy) request).asked,
        entry.Failed) ∨
      Contended (evaluateExternalAccess host (some policy) request).asked
  invalid : Violates host policy request →
    (evaluateExternalAccess host (some policy) request).decision =
      .denied .invalid

/-! ## The states that an evaluation stores -/

theorem boundedPositiveInteger_ofNat
    {value maximum : Nat}
    (positive : 1 ≤ value)
    (bounded : value ≤ maximum)
    (safe : maximum ≤ JsNumber.maxSafeInteger)
    (field : String) :
    boundedPositiveInteger (.number (.ofNat value)) field maximum =
      .ok value := by
  rw [boundedPositiveInteger, boundedInteger]
  simp only [JsNumber.safeInteger?_ofNat (bounded.trans safe)]
  rw [if_pos ⟨by omega, by omega⟩]
  rfl

theorem bounds_of_boundedPositiveInteger
    {maximum result : Nat}
    (accepted : boundedPositiveInteger value field maximum = .ok result) :
    1 ≤ result ∧ result ≤ maximum := by
  unfold boundedPositiveInteger boundedInteger at accepted
  split at accepted
  · split at accepted
    · split at accepted
      · rename_i bounds
        cases accepted
        omega
      · cases accepted
    · cases accepted
  · cases accepted

theorem sha256Digest_of_ok
    {digest : JsString}
    (accepted : sha256Digest value field = .ok digest)
    (other : String) :
    sha256Digest (.string digest) other = .ok digest := by
  obtain ⟨content, isText, rest⟩ := bind_eq_ok.mp accepted
  obtain ⟨shape, same⟩ := check_bind_eq_ok.mp rest
  cases same
  exact bind_eq_ok.mpr ⟨digest,
    text_eq_ok.mpr ⟨rfl, (text_eq_ok.mp isText).2⟩,
    check_bind_eq_ok.mpr ⟨shape, rfl⟩⟩

theorem normalizeRevisionState_of_entitlement
    {entitlement : VerifiedEntitlement}
    (accepted : normalizeEntitlement value = .ok entitlement)
    (field : String) :
    ∃ state, normalizeRevisionState entitlement.state field = .ok state := by
  obtain ⟨_, accepted⟩ := check_bind_eq_ok.mp accepted
  obtain ⟨input, _, accepted⟩ := bind_eq_ok.mp accepted
  obtain ⟨_, accepted⟩ := check_bind_eq_ok.mp accepted
  obtain ⟨issuedAt, _, accepted⟩ := bind_eq_ok.mp accepted
  obtain ⟨expiresAt, isExpiry, accepted⟩ := bind_eq_ok.mp accepted
  obtain ⟨_, accepted⟩ := check_bind_eq_ok.mp accepted
  obtain ⟨_, _, accepted⟩ := bind_eq_ok.mp accepted
  obtain ⟨_, _, accepted⟩ := bind_eq_ok.mp accepted
  obtain ⟨_, _, accepted⟩ := bind_eq_ok.mp accepted
  obtain ⟨_, _, accepted⟩ := bind_eq_ok.mp accepted
  obtain ⟨_, _, accepted⟩ := bind_eq_ok.mp accepted
  obtain ⟨_, _, accepted⟩ := bind_eq_ok.mp accepted
  obtain ⟨_, _, accepted⟩ := bind_eq_ok.mp accepted
  obtain ⟨_, _, accepted⟩ := bind_eq_ok.mp accepted
  obtain ⟨revision, isRevision, accepted⟩ := bind_eq_ok.mp accepted
  obtain ⟨_, _, accepted⟩ := bind_eq_ok.mp accepted
  obtain ⟨digest, isDigest, accepted⟩ := bind_eq_ok.mp accepted
  obtain ⟨_, _, accepted⟩ := bind_eq_ok.mp accepted
  obtain ⟨_, _, accepted⟩ := bind_eq_ok.mp accepted
  cases accepted
  obtain ⟨positive, bounded⟩ := bounds_of_boundedPositiveInteger isRevision
  have instant := (canonicalInstant_eq_ok.mp isExpiry).2
  refine ⟨⟨revision, false, digest, expiresAt⟩, ?_⟩
  exact bind_eq_ok.mpr ⟨revision,
    boundedPositiveInteger_ofNat positive bounded le_rfl _,
    bind_eq_ok.mpr ⟨digest, sha256Digest_of_ok isDigest _,
      bind_eq_ok.mpr ⟨expiresAt, canonicalInstant_eq_ok.mpr ⟨rfl, instant⟩,
        rfl⟩⟩⟩

/-! ## Each part of an evaluation -/

theorem orDenial_eq_storeUnavailable :
    orDenial result = .error .storeUnavailable ↔ result = .error .range := by
  constructor
  · intro denied
    cases result with
    | ok value => cases denied
    | error error =>
        cases error with
        | security message => cases denied
        | range => rfl
  · rintro rfl
    rfl

theorem orDenial_of_isOwn
    {error : Thrown}
    (rejected : result = .error error)
    (own : error ≠ .range) :
    orDenial result = .error .invalid := by
  subst rejected
  cases error with
  | security message => rfl
  | range => exact absurd rfl own

variable {policy : ActivatedPolicy} {input : Record} {now : JsString}
   {access : Access}

theorem authorizeSession_eq_ok
    {session : TrustedSession}
    (authorized : authorizeSession policy input session now = .ok access) :
    normalizeEntitlement (input.get (js "entitlement")) =
      .ok access.entitlement := by
  obtain ⟨_, authorized⟩ := check_bind_eq_ok.mp authorized
  obtain ⟨_, _, authorized⟩ := bind_eq_ok.mp authorized
  obtain ⟨_, authorized⟩ := check_bind_eq_ok.mp authorized
  obtain ⟨entitlement, isEntitlement, authorized⟩ := bind_eq_ok.mp authorized
  obtain ⟨_, authorized⟩ := check_bind_eq_ok.mp authorized
  cases authorized
  exact orDenial_eq_ok isEntitlement

theorem authorizeSession_eq_storeUnavailable
    {session : TrustedSession} :
    authorizeSession policy input session now = .error .storeUnavailable ↔
      sessionIsCurrent policy.policy now session ∧
      ∃ wanted, readWanted input session = .ok wanted ∧
        policyGrants policy.policy wanted ∧
        SkewedEntitlement (input.get (js "entitlement")) := by
  have notDenied : DenialReason.storeUnavailable ≠ .denied := nofun
  have notInvalid : DenialReason.storeUnavailable ≠ .invalid := nofun
  rw [authorizeSession, check_bind_eq_error notDenied, bind_eq_error,
    or_iff_right]
  · refine and_congr_right fun _ => exists_congr fun wanted => ?_
    rw [check_bind_eq_error notDenied, bind_eq_error,
      orDenial_eq_storeUnavailable, normalizeEntitlement_eq_range,
      or_iff_left]
    · refine and_congr_left' ⟨orDenial_eq_ok, ?_⟩
      intro isWanted
      rw [isWanted]
      rfl
    · rintro ⟨entitlement, _, rest⟩
      cases ((check_bind_eq_error notInvalid).mp rest).2
  · intro raised
    exact not_isOwn_range
      (raises_readWanted input session _ (orDenial_eq_storeUnavailable.mp raised))

variable {answer : Option JsValue}

theorem authorizeLive_eq_ok
    {session : Option TrustedSession}
    (authorized : authorizeLive policy input session now answer = .ok access) :
    normalizeEntitlement (input.get (js "entitlement")) =
      .ok access.entitlement := by
  unfold authorizeLive at authorized
  split at authorized
  · cases authorized
  · cases authorized
  · obtain ⟨_, _, authorized⟩ := bind_eq_ok.mp authorized
    obtain ⟨_, authorized⟩ := check_bind_eq_ok.mp authorized
    cases session with
    | none => cases authorized
    | some session => exact authorizeSession_eq_ok authorized

variable {host : AccessHost}

theorem authorizeLive_of_live
    (live : LivePolicy host policy now)
    (input : Record)
    (session : Option TrustedSession) :
    authorizeLive policy input session now host.readPolicy =
      match session with
      | none => .error .invalid
      | some session => authorizeSession policy input session now := by
  obtain ⟨value, state, isAnswer, isDefined, isState, isLive⟩ := live
  rw [isAnswer]
  unfold authorizeLive
  split
  · cases ‹some value = none›
  · cases ‹some value = some .undefined›
    exact absurd rfl isDefined
  · cases ‹some value = some _›
    rw [isState]
    refine (?_ : (check (policyIsLive policy now state) DenialReason.revoked >>=
      fun _ => _) = _)
    rw [check, if_pos isLive]
    rfl

theorem authorizeLive_eq_storeUnavailable
    (read : readRequest request = .ok (input, now))
    (denied : authorizeLive policy input (sessionIn input request.session) now
      host.readPolicy = .error .storeUnavailable) :
    Asked.Failed ⟨.readPolicy, host.readPolicy⟩ ∨
      ReachesSkewed host policy request := by
  have notRevoked : DenialReason.storeUnavailable ≠ .revoked := nofun
  cases isAnswer : host.readPolicy with
  | none => exact .inl trivial
  | some value =>
      rw [isAnswer] at denied
      unfold authorizeLive at denied
      split at denied
      · cases ‹some value = none›
      · cases denied
      · rename_i isDefined same
        cases same
        have isDefined : value ≠ .undefined := by
          rintro rfl
          exact isDefined rfl
        rcases bind_eq_error.mp denied with raised | ⟨live, isState, denied⟩
        · exact .inl ⟨isDefined, _, orDenial_eq_storeUnavailable.mp raised⟩
        · obtain ⟨isLive, denied⟩ :=
            (check_bind_eq_error notRevoked).mp denied
          split at denied
          · cases denied
          · rename_i session trusted
            obtain ⟨current, wanted, fields, granted, skewed⟩ :=
              authorizeSession_eq_storeUnavailable.mp denied
            exact .inr (.entitlement ⟨read,
              ⟨value, live, isAnswer, isDefined, orDenial_eq_ok isState, isLive⟩,
              trusted, current, fields, granted⟩ skewed)

theorem decideCached_unavailable
    (denied : (decideCached host access).decision = .denied .storeUnavailable) :
    Asked.Failed ⟨.readRevision, host.readCached⟩ := by
  unfold decideCached at denied
  cases isAnswer : host.readCached with
  | none => trivial
  | some value =>
      rw [isAnswer] at denied
      cases isState : revisionStateOf value with
      | error error => exact ⟨error, isState⟩
      | ok state =>
          simp only [Option.map_some, isState] at denied
          split at denied <;> cases denied

theorem length_advanceRevision
    (host : AccessHost)
    (access : Access)
    (attempt left : Nat) :
    (advanceRevision host access attempt left).asked.length ≤ 2 * (left + 1) := by
  induction left generalizing attempt with
  | zero =>
      unfold advanceRevision
      dsimp only
      repeat' split
      all_goals simp
  | succ left inductionHypothesis =>
      have rest := inductionHypothesis (attempt + 1)
      unfold advanceRevision
      dsimp only
      repeat' split
      all_goals simp [Evaluation.after]
      all_goals omega

theorem failed_of_not_ok
    (rejected : ∀ current, answer.map revisionStateOf ≠ some (.ok current)) :
    Asked.Failed ⟨.readRevision, answer⟩ := by
  cases answer with
  | none => trivial
  | some value =>
      cases isState : revisionStateOf value with
      | error error => exact ⟨error, isState⟩
      | ok state => exact absurd (congrArg some isState) (rejected state)

theorem failed_of_not_bool
    (rejected : ∀ swapped, answer ≠ some (.bool swapped)) :
    Asked.Failed ⟨.compareAndSet, answer⟩ := by
  cases answer with
  | none => trivial
  | some value =>
      intro swapped isBool
      exact rejected swapped (congrArg some isBool)

/-- The answers to the compare-and-sets among some calls. -/
def swaps (asked : List Asked) : List (Option JsValue) :=
  (asked.filter fun entry => entry.call = .compareAndSet).map Asked.answer

theorem settledBy_ne_storeUnavailable
    (access : Access)
    (current : Option RevisionState) :
    settledBy access current ≠ some (.denied .storeUnavailable) := by
  cases current with
  | none =>
      intro settled
      cases settled
  | some current =>
      dsimp only [settledBy]
      split
      · nofun
      · split <;> nofun

/-- The calls of an attempt whose compare-and-set comes too late. -/
def AccessHost.lateCalls (host : AccessHost) (attempt : Nat) : List Asked :=
  [⟨.readRevision, host.readRevision attempt⟩,
    ⟨.compareAndSet, some (.bool false)⟩]

/-- What an attempt decides whose compare-and-set comes too late. -/
def afterLate (host : AccessHost) (access : Access) (attempt : Nat) :
    Nat → Evaluation
  | 0 => ⟨[], .denied .storeUnavailable⟩
  | left + 1 => advanceRevision host access (attempt + 1) left

section

variable (storable : ∃ state,
    normalizeRevisionState access.entitlement.state "next revision state" =
      .ok state)

include storable

/--
An attempt ends without an unavailable store, or after a call that failed, or
with a compare-and-set that came too late.
-/
theorem advanceRevision_cases
    (attempt left : Nat) :
    (advanceRevision host access attempt left).decision ≠
        .denied .storeUnavailable ∨
      (∃ entry ∈ (advanceRevision host access attempt left).asked,
        entry.Failed) ∨
      advanceRevision host access attempt left =
        ⟨host.lateCalls attempt ++ (afterLate host access attempt left).asked,
          (afterLate host access attempt left).decision⟩ := by
  obtain ⟨state, isState⟩ := storable
  rw [advanceRevision.eq_def]
  dsimp only
  split
  · rename_i current _
    cases isSettled : settledBy access current with
    | some decision =>
        refine .inl ?_
        rintro rfl
        exact settledBy_ne_storeUnavailable access current isSettled
    | none =>
        simp only [isState]
        split
        · exact .inl nofun
        · rename_i isLate
          refine .inr (.inr ?_)
          rw [isLate]
          cases left with
          | zero => rfl
          | succ left => rfl
        · rename_i notTrue notFalse
          refine .inr (.inl ⟨_, List.mem_cons_of_mem _ List.mem_cons_self, ?_⟩)
          refine failed_of_not_bool fun swapped => ?_
          cases swapped with
          | true => exact notTrue
          | false => exact notFalse
  · rename_i isRejected
    exact .inr (.inl ⟨_, List.mem_cons_self, failed_of_not_ok isRejected⟩)

/--
Advancing a revision meets an unavailable store if a call failed, or if the
compare-and-set of every attempt came too late.
-/
theorem advanceRevision_unavailable
    {attempt left : Nat}
    (denied : (advanceRevision host access attempt left).decision =
      .denied .storeUnavailable) :
    (∃ entry ∈ (advanceRevision host access attempt left).asked,
      entry.Failed) ∨
    swaps (advanceRevision host access attempt left).asked =
      List.replicate (left + 1) (some (.bool false)) := by
  induction left generalizing attempt with
  | zero =>
      rcases advanceRevision_cases storable attempt 0 with
        available | failed | late
      · exact absurd denied available
      · exact .inl failed
      · rw [late]
        exact .inr rfl
  | succ left inductionHypothesis =>
      rcases advanceRevision_cases storable attempt (left + 1) with
        available | failed | late
      · exact absurd denied available
      · exact .inl failed
      · rw [late] at denied ⊢
        refine Or.imp ?_ ?_ (inductionHypothesis denied)
        · rintro ⟨entry, member, failed⟩
          exact ⟨entry, List.mem_append_right _ member, failed⟩
        · intro rest
          exact congrArg (some (.bool false) :: ·) rest

end

/-! ## Classification -/

theorem length_asked
    (host : AccessHost)
    (policy : ActivatedPolicy)
    (request : AccessRequest) :
    (evaluateExternalAccess host (some policy) request).asked.length ≤ 7 := by
  unfold evaluateExternalAccess decideAccess
  split
  · exact Nat.zero_le 7
  · dsimp only
    split
    · exact Nat.zero_le 7
    · split
      · exact Nat.le_add_left 1 6
      · rename_i access _
        refine Nat.succ_le_succ ?_
        unfold decideVerified
        split
        · exact Nat.zero_le 6
        · exact Nat.le_add_left 1 5
        · split
          · exact Nat.zero_le 6
          · exact length_advanceRevision host access 0 2

theorem decideVerified_unavailable
    (isEntitlement : normalizeEntitlement value = .ok access.entitlement)
    (denied : (decideVerified host access).decision =
      .denied .storeUnavailable) :
    (∃ entry ∈ (decideVerified host access).asked, entry.Failed) ∨
      Contended (decideVerified host access).asked := by
  unfold decideVerified at denied ⊢
  split
  · rename_i isInvalid
    rw [isInvalid] at denied
    cases denied
  · rename_i isUnavailable
    rw [isUnavailable] at denied
    exact .inl ⟨_, List.mem_cons_self, decideCached_unavailable denied⟩
  · rename_i isValid
    simp only [isValid] at denied
    split
    · rename_i expired
      rw [if_pos expired] at denied
      cases denied
    · rename_i current
      rw [if_neg current] at denied
      exact advanceRevision_unavailable
        (normalizeRevisionState_of_entitlement isEntitlement _) denied

theorem decideAccess_of_violates
    (straight : ¬ ReachesSkewed host policy request)
    (violates : Violates host policy request) :
    (decideAccess host policy request).decision = .denied .invalid := by
  unfold decideAccess
  cases violates with
  | @request error rejected =>
      rw [rejected]
      cases error with
      | security message => rfl
      | range =>
          exact absurd (.now (readRequest_eq_range.mp rejected)) straight
  | session read live untrusted =>
      simp only [read, authorizeLive_of_live live, untrusted]
  | @fields input now session error read live trusted current rejected =>
      have own : error ≠ .range := by
        rintro rfl
        exact not_isOwn_range (raises_readWanted _ _ _ rejected)
      simp only [read, authorizeLive_of_live live, trusted, authorizeSession,
        check_of current, ok_bind, orDenial_of_isOwn rejected own, error_bind]
  | @entitlement input now session wanted error reaches rejected =>
      have own : error ≠ .range := by
        rintro rfl
        exact straight
          (.entitlement reaches (normalizeEntitlement_eq_range.mp rejected))
      have fields : orDenial (readWanted input session) = .ok wanted := by
        rw [reaches.fields]
        rfl
      simp only [reaches.read, authorizeLive_of_live reaches.live,
        reaches.trusted, authorizeSession, check_of reaches.current, ok_bind,
        fields, check_of reaches.granted, orDenial_of_isOwn rejected own,
        error_bind]

/-- Nothing unclassified comes of an evaluation that reaches no skewed text. -/
theorem classified_of_not_reachesSkewed
    (straight : ¬ (captureAccessPorts host = .ok () ∧
      ReachesSkewed host policy request)) :
    Classified host policy request where
  settles := length_asked host policy request
  unavailable denied := by
    unfold evaluateExternalAccess at denied ⊢
    cases isCapture : captureAccessPorts host with
    | error error =>
        obtain ⟨message, rfl⟩ := raises_captureAccessPorts host error isCapture
        rw [isCapture] at denied
        cases denied
    | ok captured =>
        simp only [isCapture] at denied ⊢
        have straight : ¬ ReachesSkewed host policy request :=
          fun skewed => straight ⟨isCapture, skewed⟩
        unfold decideAccess at denied ⊢
        split
        · rename_i error rejected
          simp only [rejected] at denied
          cases error with
          | security message => cases denied
          | range =>
              exact absurd (.now (readRequest_eq_range.mp rejected)) straight
        · rename_i input now read
          simp only [read] at denied
          split
          · rename_i reason isDenied
            rw [isDenied] at denied
            cases denied
            refine .inl ⟨_, List.mem_cons_self, ?_⟩
            exact (authorizeLive_eq_storeUnavailable read isDenied).resolve_right
              straight
          · rename_i access authorized
            rw [authorized] at denied
            have isEntitlement := authorizeLive_eq_ok authorized
            refine Or.imp ?_ id
              (decideVerified_unavailable isEntitlement denied)
            rintro ⟨entry, member, failed⟩
            exact ⟨entry, List.mem_cons_of_mem _ member, failed⟩
  invalid violates := by
    unfold evaluateExternalAccess
    cases isCapture : captureAccessPorts host with
    | error error =>
        obtain ⟨message, rfl⟩ := raises_captureAccessPorts host error isCapture
        rfl
    | ok captured =>
        have straight : ¬ ReachesSkewed host policy request :=
          fun skewed => straight ⟨isCapture, skewed⟩
        exact decideAccess_of_violates straight violates

/-- An evaluation that reaches a skewed text names a store that did not fail. -/
theorem not_classified_of_reachesSkewed
    (captured : captureAccessPorts host = .ok ())
    (skewed : ReachesSkewed host policy request) :
    ¬ Classified host policy request := by
  intro classified
  cases skewed with
  | now skewed =>
      have rejected := readRequest_eq_range.mpr skewed
      have isInvalid := classified.invalid (.request rejected)
      simp only [evaluateExternalAccess, captured, decideAccess, rejected,
        denialOf] at isInvalid
      cases isInvalid
  | @entitlement input now session wanted reaches skewed =>
      have rejected := normalizeEntitlement_eq_range.mpr skewed
      have isInvalid := classified.invalid (.entitlement reaches rejected)
      have denied : authorizeSession policy input session now =
          .error .storeUnavailable :=
        authorizeSession_eq_storeUnavailable.mpr
          ⟨reaches.current, wanted, reaches.fields, reaches.granted, skewed⟩
      simp only [evaluateExternalAccess, captured, decideAccess, reaches.read,
        authorizeLive_of_live reaches.live, reaches.trusted, denied]
        at isInvalid
      cases isInvalid

/--
An evaluation tells failures apart exactly if it reaches no text in the shape of
an instant that is no date.
-/
theorem evaluateExternalAccess_classified
    (host : AccessHost)
    (policy : ActivatedPolicy)
    (request : AccessRequest) :
    Classified host policy request ↔
      ¬ (captureAccessPorts host = .ok () ∧
        ReachesSkewed host policy request) := by
  refine ⟨?_, classified_of_not_reachesSkewed⟩
  rintro classified ⟨captured, skewed⟩
  exact not_classified_of_reachesSkewed captured skewed classified

/-! ## A thirteenth month -/

/-- A policy that was activated. -/
def sampleActivation : ActivatedPolicy where
  policy := {
    policyId := js "policy"
    policyVersion := 1
    tenantId := js "tenant"
    audience := js "audience"
    capabilities := [js "external:read"]
    residency := [js "eu"]
    allowedIpCidrs := [⟨js "10.0.0.0/8", 32, 8, 0x0A000000⟩]
    sessionMaxAgeSeconds := 3600
    entitlementTtlSeconds := 3600
    entitlementGraceSeconds := 0
    minimumAccessVersion := 1
    minimumSessionVersion := 1 }
  organizationId := js "organization"
  revision := 1
  issuedAt := js "2026-07-20T12:00:00.000Z"
  expiresAt := js "2027-07-20T12:00:00.000Z"
  digest := List.replicate 64 0x30
  keyId := js "key"

/-- The state of the activation, as a store answers it. -/
def sampleActivationState : JsValue :=
  .object [
    (js "revision", .number (.ofNat 1)),
    (js "revoked", .bool false),
    (js "digest", .string sampleActivation.digest),
    (js "expiresAt", .string sampleActivation.expiresAt)]

/-- A verifier and stores none of which fails. -/
def sampleAccessHost : AccessHost where
  verifier := .withMethod
  readPort := .withMethod
  comparePort := .withMethod
  revokePort := .withMethod
  readPolicy := some sampleActivationState
  verify := some (.bool true)
  readCached := some .undefined
  readRevision _ := some .undefined
  compareAndSet _ := some (.bool true)

/-- A request at a given time. -/
def sampleAccessRequest (now : String) : AccessRequest where
  value := .object [
    (js "capability", .string (js "external:read")),
    (js "tenantId", .string (js "tenant")),
    (js "audience", .string (js "audience")),
    (js "resource", .string (js "resource")),
    (js "residency", .string (js "eu")),
    (js "session", .null),
    (js "now", .string (js now)),
    (js "entitlement", .null)]
  session := none

/-- A request in a thirteenth month is answered as if a store had failed. -/
theorem evaluateExternalAccess_skewed :
    ¬ Classified sampleAccessHost sampleActivation
      (sampleAccessRequest "2026-13-01T00:00:00.000Z") := by
  refine not_classified_of_reachesSkewed rfl (.now ⟨rfl, ?_⟩)
  refine ⟨_, rfl, js "2026-13-01T00:00:00.000Z", rfl, ?_, ?_⟩
  · decide +kernel
  · decide +kernel

end Selene.Enterprise
