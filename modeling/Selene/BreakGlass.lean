import Selene.CanonicalOrder
import Selene.EnterpriseAccess
import Selene.EnterpriseFields

/-!
# Break-glass activation

`activateBreakGlass` turns a pending request with two approvals into an active
grant.  Everything that can be read from the request, the clock and the
expected scope is checked first; then the verifier is asked about each
approval, and only then is the activation port called, which consumes the
replay key of the request.

The calls of the two ports are part of what an activation does, so the model
returns them with the result.
-/

namespace Selene.Enterprise

open Js

/-! ## Ports -/

/-- What `capturePort` finds in a value. -/
inductive PortValue where
  /-- Not an object, or one whose prototypes cannot be walked. -/
  | notObject
  /-- The method is missing, or is not a data property. -/
  | withoutMethod
  | withMethod
  deriving DecidableEq

/-- `capturePort` for a port of one method. -/
def capturePort (port : PortValue) (name field : String) :
    Except Thrown Unit :=
  match port with
  | .notObject => enterpriseError (js field ++ js " is invalid")
  | .withoutMethod =>
      enterpriseError (js field ++ js "." ++ js name ++
        js " must be a data method")
  | .withMethod => .ok ()

/-! ## Requests -/

structure BreakGlassScope where
  tenantId : JsString
  audience : JsString
  policyId : JsString
  policyVersion : Nat
  deriving DecidableEq

structure BreakGlassApproval where
  requestId : JsString
  approverId : JsString
  issuedAt : JsString
  signature : JsString
  keyId : JsString
  deriving DecidableEq

structure BreakGlassRequest where
  requestId : JsString
  auditEventId : JsString
  tenantId : JsString
  audience : JsString
  policyId : JsString
  policyVersion : Nat
  requesterId : JsString
  caseId : JsString
  reason : JsString
  issuedAt : JsString
  expiresAt : JsString
  approvals : List BreakGlassApproval
  deriving DecidableEq

/-- What an approval is verified against. -/
structure ApprovalScope where
  tenantId : JsString
  audience : JsString
  policyId : JsString
  policyVersion : Nat
  requesterId : JsString
  expiresAt : JsString
  deriving DecidableEq

structure ActiveBreakGlass where
  requestId : JsString
  auditEventId : JsString
  tenantId : JsString
  audience : JsString
  policyId : JsString
  policyVersion : Nat
  requesterId : JsString
  caseId : JsString
  reason : JsString
  issuedAt : JsString
  expiresAt : JsString
  approvers : List JsString
  deriving DecidableEq

namespace BreakGlassRequest

/-- The approvers, sorted. -/
def approvers (request : BreakGlassRequest) : List JsString :=
  sortByKey id (request.approvals.map BreakGlassApproval.approverId)

def approvalScope (request : BreakGlassRequest) : ApprovalScope where
  tenantId := request.tenantId
  audience := request.audience
  policyId := request.policyId
  policyVersion := request.policyVersion
  requesterId := request.requesterId
  expiresAt := request.expiresAt

/-- The grant that a request asks for. -/
def active (request : BreakGlassRequest) : ActiveBreakGlass where
  requestId := request.requestId
  auditEventId := request.auditEventId
  tenantId := request.tenantId
  audience := request.audience
  policyId := request.policyId
  policyVersion := request.policyVersion
  requesterId := request.requesterId
  caseId := request.caseId
  reason := request.reason
  issuedAt := request.issuedAt
  expiresAt := request.expiresAt
  approvers := request.approvers

end BreakGlassRequest

/-! ## Reading -/

def breakGlassScopeFields : List JsString :=
  [js "tenantId", js "audience", js "policyId", js "policyVersion"]

def normalizeBreakGlassScope (value : JsValue) :
    Except Thrown BreakGlassScope := do
  check (isObject value = true)
    (.security (js "expected break-glass scope is invalid"))
  let input ← dataRecord value "expected break-glass scope"
    breakGlassScopeFields
  let tenantId ←
    identifier (input.get (js "tenantId")) "expected break-glass tenantId"
  let audience ←
    identifier (input.get (js "audience")) "expected break-glass audience"
  let policyId ←
    identifier (input.get (js "policyId")) "expected break-glass policyId"
  let policyVersion ← boundedPositiveInteger (input.get (js "policyVersion"))
    "expected break-glass policyVersion" 1000000
  pure ⟨tenantId, audience, policyId, policyVersion⟩

def approvalFields : List JsString :=
  [js "format", js "requestId", js "approverId", js "issuedAt",
    js "signature", js "keyId"]

/-- One approval record. -/
def readApproval (value : JsValue) : Except Thrown BreakGlassApproval := do
  check (isObject value = true)
    (.security (js "break-glass approval must be an object"))
  let approval ← dataRecord value "break-glass approval" approvalFields
  check (isString (approval.get (js "format"))
      "selene-break-glass-approval/v1")
    (.security (js "unsupported break-glass approval format"))
  let requestId ←
    identifier (approval.get (js "requestId")) "approval requestId"
  let approverId ←
    identifier (approval.get (js "approverId")) "approval approverId"
  let issuedAt ←
    canonicalInstant (approval.get (js "issuedAt")) "approval issuedAt"
  let signature ← text (approval.get (js "signature")) "approval signature"
    maxSignatureBytes
  let keyId ← text (approval.get (js "keyId")) "approval keyId" 512
  pure ⟨requestId, approverId, issuedAt, signature, keyId⟩

def breakGlassFields : List JsString :=
  [js "format", js "requestId", js "auditEventId", js "tenantId",
    js "audience", js "policyId", js "policyVersion", js "requesterId",
    js "caseId", js "reason", js "issuedAt", js "expiresAt", js "state",
    js "approvals"]

/-- `break-glass requires two distinct non-requester approvers`. -/
def approversDistinct (requesterId : JsString)
    (approvals : List BreakGlassApproval) : Prop :=
  (approvals.map BreakGlassApproval.approverId).Nodup ∧
    requesterId ∉ approvals.map BreakGlassApproval.approverId

instance (requesterId : JsString) (approvals : List BreakGlassApproval) :
    Decidable (approversDistinct requesterId approvals) :=
  inferInstanceAs (Decidable (_ ∧ _))

/-- The fields of a request, and the time of the activation. -/
def readBreakGlass (value now : JsValue) :
    Except Thrown (BreakGlassRequest × JsString) := do
  check (isObject value = true)
    (.security (js "break-glass request must be an object"))
  let input ← dataRecord value "break-glass request" breakGlassFields
  check (isString (input.get (js "format")) "selene-break-glass/v1" ∧
      isString (input.get (js "state")) "pending")
    (.security (js "break-glass request state is invalid"))
  let requestId ← identifier (input.get (js "requestId")) "requestId"
  let requesterId ← identifier (input.get (js "requesterId")) "requesterId"
  let auditEventId ← identifier (input.get (js "auditEventId")) "auditEventId"
  let tenantId ← identifier (input.get (js "tenantId")) "break-glass tenantId"
  let audience ← identifier (input.get (js "audience")) "break-glass audience"
  let policyId ← identifier (input.get (js "policyId")) "policyId"
  let policyVersion ← boundedPositiveInteger (input.get (js "policyVersion"))
    "policyVersion" 1000000
  let caseId ← identifier (input.get (js "caseId")) "caseId"
  let reason ← text (input.get (js "reason")) "break-glass reason" 2048
  check (20 ≤ utf8Length reason)
    (.security (js "break-glass reason must be at least 20 bytes"))
  let approvalValues ←
    dataArray (input.get (js "approvals")) "break-glass approvals"
  check (approvalValues.length = 2)
    (.security (js "break-glass requires exactly two approval records"))
  let approvals ← approvalValues.mapM readApproval
  check (approversDistinct requesterId approvals)
    (.security
      (js "break-glass requires two distinct non-requester approvers"))
  let issuedAt ←
    canonicalInstant (input.get (js "issuedAt")) "break-glass issuedAt"
  let expiresAt ←
    canonicalInstant (input.get (js "expiresAt")) "break-glass expiresAt"
  let nowValue ← canonicalInstant now "now"
  pure (⟨requestId, auditEventId, tenantId, audience, policyId, policyVersion,
    requesterId, caseId, reason, issuedAt, expiresAt, approvals⟩, nowValue)

/-! ## Checks -/

/-- The request is open at a time, for at most a day in all. -/
def isOpen (request : BreakGlassRequest) (now : JsString) : Prop :=
  ¬ (instantMs now < instantMs request.issuedAt ∨
    instantMs request.expiresAt ≤ instantMs now ∨
    instantMs request.expiresAt ≤ instantMs request.issuedAt ∨
    86400000 < instantMs request.expiresAt - instantMs request.issuedAt)

instance (request : BreakGlassRequest) (now : JsString) :
    Decidable (isOpen request now) :=
  inferInstanceAs (Decidable (¬ _))

def matchesScope (request : BreakGlassRequest) (scope : BreakGlassScope) :
    Prop :=
  scope.tenantId = request.tenantId ∧ scope.audience = request.audience ∧
    scope.policyId = request.policyId ∧
    scope.policyVersion = request.policyVersion

instance (request : BreakGlassRequest) (scope : BreakGlassScope) :
    Decidable (matchesScope request scope) :=
  inferInstanceAs (Decidable (_ ∧ _))

/-- An approval of this request, dated between its issue and its expiry. -/
def isBound (request : BreakGlassRequest) (approval : BreakGlassApproval) :
    Prop :=
  ¬ (approval.requestId ≠ request.requestId ∨
    instantMs approval.issuedAt < instantMs request.issuedAt ∨
    instantMs request.expiresAt < instantMs approval.issuedAt)

instance (request : BreakGlassRequest) (approval : BreakGlassApproval) :
    Decidable (isBound request approval) :=
  inferInstanceAs (Decidable (¬ _))

/-- All that is checked before a port is called. -/
def checkBreakGlass (value now expectedScope : JsValue) :
    Except Thrown (BreakGlassRequest × JsString) := do
  let (request, nowValue) ← readBreakGlass value now
  let scope ← normalizeBreakGlassScope expectedScope
  check (isOpen request nowValue)
    (.security (js "break-glass expiry must be within 24 hours"))
  check (matchesScope request scope)
    (.security (js "break-glass request scope does not match policy"))
  check (∀ approval ∈ request.approvals, isBound request approval)
    (.security
      (js "break-glass approval is not bound to the active request"))
  pure (request, nowValue)

/-! ## Activation -/

/-- The two ports, and what their methods answer; `none` is a failure. -/
structure BreakGlassHost where
  activation : PortValue
  approvalVerifier : PortValue
  verify : BreakGlassApproval → ApprovalScope → Option JsValue
  consumeAndAudit : ActiveBreakGlass → Option JsValue

/-- A call of a port. -/
inductive PortCall where
  | verify (approval : BreakGlassApproval) (scope : ApprovalScope)
  | consumeAndAudit (request : ActiveBreakGlass)
  deriving DecidableEq

/-- What an activation calls, and how it ends. -/
structure Activation where
  calls : List PortCall
  result : Except Thrown ActiveBreakGlass

/-- What the verifier answers for the approvals of a request. -/
def approvalResults (host : BreakGlassHost) (request : BreakGlassRequest) :
    List (Option JsValue) :=
  request.approvals.map fun approval =>
    host.verify approval request.approvalScope

/-- The calls of the verifier. -/
def verifications (request : BreakGlassRequest) : List PortCall :=
  request.approvals.map fun approval =>
    .verify approval request.approvalScope

/-- The end of an activation, after the activation port was called. -/
def recordedResult (active : ActiveBreakGlass) :
    Option JsValue → Except Thrown ActiveBreakGlass
  | none => enterpriseError (js "break-glass activation audit is unavailable")
  | some recorded =>
      if isTrueValue recorded = true then .ok active
      else
        enterpriseError
          (js "break-glass request was replayed or audit was rejected")

/-- The part of an activation that calls ports. -/
def activateChecked (host : BreakGlassHost) (request : BreakGlassRequest) :
    Activation :=
  if (approvalResults host request).any Option.isNone = true then
    ⟨verifications request,
      enterpriseError (js "break-glass approval verifier is unavailable")⟩
  else if ¬ (approvalResults host request).all (Option.any isTrueValue) =
      true then
    ⟨verifications request,
      enterpriseError (js "break-glass approval was rejected")⟩
  else
    ⟨verifications request ++ [.consumeAndAudit request.active],
      recordedResult request.active (host.consumeAndAudit request.active)⟩

def activateBreakGlass (host : BreakGlassHost)
    (value now expectedScope : JsValue) : Activation :=
  match capturePort host.activation "consumeAndAudit"
      "break-glass activation port" with
  | .error error => ⟨[], .error error⟩
  | .ok _ =>
      match capturePort host.approvalVerifier "verify"
          "break-glass approval verifier" with
      | .error error => ⟨[], .error error⟩
      | .ok _ =>
          match checkBreakGlass value now expectedScope with
          | .error error => ⟨[], .error error⟩
          | .ok (request, _) => activateChecked host request

/-! ## What is read -/

/-- An approval record holds the fields of an approval. -/
def ApprovalFrom (value : JsValue) (approval : BreakGlassApproval) : Prop :=
  ∃ input, value = .object input ∧
    Record.get input (js "requestId") = .string approval.requestId ∧
    Record.get input (js "approverId") = .string approval.approverId ∧
    Record.get input (js "issuedAt") = .string approval.issuedAt ∧
    Record.get input (js "signature") = .string approval.signature ∧
    Record.get input (js "keyId") = .string approval.keyId

/-- A value holds the fields of a request. -/
def RequestFrom (value : JsValue) (request : BreakGlassRequest) : Prop :=
  ∃ input, value = .object input ∧
    Record.get input (js "requestId") = .string request.requestId ∧
    Record.get input (js "auditEventId") = .string request.auditEventId ∧
    Record.get input (js "tenantId") = .string request.tenantId ∧
    Record.get input (js "audience") = .string request.audience ∧
    Record.get input (js "policyId") = .string request.policyId ∧
    (∃ number,
      Record.get input (js "policyVersion") = .number number ∧
        number.safeInteger? = some (request.policyVersion : Int)) ∧
    Record.get input (js "requesterId") = .string request.requesterId ∧
    Record.get input (js "caseId") = .string request.caseId ∧
    Record.get input (js "reason") = .string request.reason ∧
    Record.get input (js "issuedAt") = .string request.issuedAt ∧
    Record.get input (js "expiresAt") = .string request.expiresAt ∧
    ∃ items, Record.get input (js "approvals") = .array items ∧
      List.Forall₂ ApprovalFrom items request.approvals

variable {value : JsValue}

theorem readApproval_eq_ok
    {approval : BreakGlassApproval}
    (accepted : readApproval value = .ok approval) :
    ApprovalFrom value approval := by
  obtain ⟨_, accepted⟩ := check_bind_eq_ok.mp accepted
  obtain ⟨input, isRecord, accepted⟩ := bind_eq_ok.mp accepted
  obtain ⟨_, accepted⟩ := check_bind_eq_ok.mp accepted
  obtain ⟨requestId, isRequest, accepted⟩ := bind_eq_ok.mp accepted
  obtain ⟨approverId, isApprover, accepted⟩ := bind_eq_ok.mp accepted
  obtain ⟨issuedAt, isIssued, accepted⟩ := bind_eq_ok.mp accepted
  obtain ⟨signature, isSignature, accepted⟩ := bind_eq_ok.mp accepted
  obtain ⟨keyId, isKey, accepted⟩ := bind_eq_ok.mp accepted
  cases accepted
  exact ⟨input, object_of_dataRecord isRecord, (identifier_eq_ok.mp isRequest).1,
    (identifier_eq_ok.mp isApprover).1, (canonicalInstant_eq_ok.mp isIssued).1,
    (text_eq_ok.mp isSignature).1, (text_eq_ok.mp isKey).1⟩

variable {now : JsValue} {request : BreakGlassRequest} {nowText : JsString}

theorem readBreakGlass_eq_ok
    (accepted : readBreakGlass value now = .ok (request, nowText)) :
    RequestFrom value request ∧ now = .string nowText ∧
      request.approvals.length = 2 ∧
      approversDistinct request.requesterId request.approvals := by
  obtain ⟨_, accepted⟩ := check_bind_eq_ok.mp accepted
  obtain ⟨input, isRecord, accepted⟩ := bind_eq_ok.mp accepted
  obtain ⟨_, accepted⟩ := check_bind_eq_ok.mp accepted
  obtain ⟨requestId, isRequest, accepted⟩ := bind_eq_ok.mp accepted
  obtain ⟨requesterId, isRequester, accepted⟩ := bind_eq_ok.mp accepted
  obtain ⟨auditEventId, isAudit, accepted⟩ := bind_eq_ok.mp accepted
  obtain ⟨tenantId, isTenant, accepted⟩ := bind_eq_ok.mp accepted
  obtain ⟨audience, isAudience, accepted⟩ := bind_eq_ok.mp accepted
  obtain ⟨policyId, isPolicy, accepted⟩ := bind_eq_ok.mp accepted
  obtain ⟨policyVersion, isVersion, accepted⟩ := bind_eq_ok.mp accepted
  obtain ⟨caseId, isCase, accepted⟩ := bind_eq_ok.mp accepted
  obtain ⟨reason, isReason, accepted⟩ := bind_eq_ok.mp accepted
  obtain ⟨_, accepted⟩ := check_bind_eq_ok.mp accepted
  obtain ⟨items, isArray, accepted⟩ := bind_eq_ok.mp accepted
  obtain ⟨count, accepted⟩ := check_bind_eq_ok.mp accepted
  obtain ⟨approvals, areApprovals, accepted⟩ := bind_eq_ok.mp accepted
  obtain ⟨distinct, accepted⟩ := check_bind_eq_ok.mp accepted
  obtain ⟨issuedAt, isIssued, accepted⟩ := bind_eq_ok.mp accepted
  obtain ⟨expiresAt, isExpiry, accepted⟩ := bind_eq_ok.mp accepted
  obtain ⟨nowValue, isNow, accepted⟩ := bind_eq_ok.mp accepted
  cases accepted
  have read : List.Forall₂ ApprovalFrom items approvals :=
    (mapM_eq_ok.mp areApprovals).imp fun _ _ => readApproval_eq_ok
  refine ⟨⟨input, object_of_dataRecord isRecord, (identifier_eq_ok.mp isRequest).1,
    (identifier_eq_ok.mp isAudit).1, (identifier_eq_ok.mp isTenant).1,
    (identifier_eq_ok.mp isAudience).1, (identifier_eq_ok.mp isPolicy).1,
    number_of_boundedPositiveInteger isVersion,
    (identifier_eq_ok.mp isRequester).1, (identifier_eq_ok.mp isCase).1,
    (text_eq_ok.mp isReason).1, (canonicalInstant_eq_ok.mp isIssued).1,
    (canonicalInstant_eq_ok.mp isExpiry).1, items, array_of_dataArray isArray,
    read⟩, (canonicalInstant_eq_ok.mp isNow).1, ?_, distinct⟩
  rw [← read.length_eq, count]

/-! ## What an activation guarantees -/

/-- Every approval of a request was verified. -/
def AllVerified (host : BreakGlassHost) (request : BreakGlassRequest) : Prop :=
  ∀ approval ∈ request.approvals,
    host.verify approval request.approvalScope = some (.bool true)

/-- An approval of another person, for this request, not dated after `now`. -/
structure Approves (request : BreakGlassRequest) (now : JsString)
    (approval : BreakGlassApproval) : Prop where
  other : approval.approverId ≠ request.requesterId
  bound : approval.requestId = request.requestId
  notBefore : instantMs request.issuedAt ≤ instantMs approval.issuedAt
  notAfter : instantMs approval.issuedAt ≤ instantMs now

/-- The conditions of an active grant. -/
structure Granted (host : BreakGlassHost) (value now expectedScope : JsValue)
    (grant : ActiveBreakGlass) (request : BreakGlassRequest)
    (nowText : JsString) : Prop where
  fromValue : RequestFrom value request
  isNow : now = .string nowText
  isGrant : grant = request.active
  scope : ∃ scope, normalizeBreakGlassScope expectedScope = .ok scope ∧
    matchesScope request scope
  issued : instantMs request.issuedAt ≤ instantMs nowText
  unexpired : instantMs nowText < instantMs request.expiresAt
  withinDay :
    instantMs request.expiresAt - instantMs request.issuedAt ≤ 86400000
  approvals : ∃ first second, request.approvals = [first, second] ∧
    first.approverId ≠ second.approverId ∧
    Approves request nowText first ∧ Approves request nowText second
  verified : AllVerified host request

def PortCall.isConsume : PortCall → Bool
  | .verify _ _ => false
  | .consumeAndAudit _ => true

/--
An activation is safe: what it grants meets the conditions and was recorded
exactly once, and the activation port is called only for a request that has
passed all checks and verifications.
-/
structure ActivationSafe (host : BreakGlassHost)
    (value now expectedScope : JsValue) : Prop where
  granted : ∀ grant,
    (activateBreakGlass host value now expectedScope).result = .ok grant →
      (∃ request nowText,
        Granted host value now expectedScope grant request nowText) ∧
      (activateBreakGlass host value now expectedScope).calls.filter
          PortCall.isConsume = [.consumeAndAudit grant] ∧
      host.consumeAndAudit grant = some (.bool true)
  consumed : ∀ active,
    .consumeAndAudit active ∈
        (activateBreakGlass host value now expectedScope).calls →
      ∃ request nowText,
        checkBreakGlass value now expectedScope = .ok (request, nowText) ∧
          AllVerified host request ∧ active = request.active

/-- A request that passes every check of the code, and is recorded. -/
structure Passes (host : BreakGlassHost) (value now expectedScope : JsValue)
    (request : BreakGlassRequest) (nowText : JsString) : Prop where
  activation : host.activation = .withMethod
  approvalVerifier : host.approvalVerifier = .withMethod
  checked : checkBreakGlass value now expectedScope = .ok (request, nowText)
  verified : AllVerified host request
  recorded : host.consumeAndAudit request.active = some (.bool true)

theorem any_isTrueValue
    {result : Option JsValue} :
    result.any isTrueValue = true ↔ result = some (.bool true) := by
  cases result with
  | none => simp
  | some value =>
      cases value with
      | bool state => simp [isTrueValue]
      | _ => simp [isTrueValue]

variable {host : BreakGlassHost}

theorem all_approvalResults :
    (approvalResults host request).all (Option.any isTrueValue) = true ↔
      AllVerified host request := by
  simp [approvalResults, AllVerified, any_isTrueValue]

theorem AllVerified.answered
    (verified : AllVerified host request) :
    ¬ (approvalResults host request).any Option.isNone = true := by
  rw [List.any_eq_true]
  rintro ⟨result, member, isNone⟩
  obtain ⟨approval, isApproval, rfl⟩ := List.mem_map.mp member
  rw [verified approval isApproval] at isNone
  cases isNone

/-- What an activation does with a request that was checked. -/
theorem activateChecked_cases
    (host : BreakGlassHost)
    (request : BreakGlassRequest) :
    AllVerified host request ∧
        activateChecked host request =
          ⟨verifications request ++ [.consumeAndAudit request.active],
            recordedResult request.active
              (host.consumeAndAudit request.active)⟩ ∨
      ∃ error, activateChecked host request =
        ⟨verifications request, .error error⟩ := by
  rw [activateChecked]
  split
  · exact .inr ⟨_, rfl⟩
  · split
    · exact .inr ⟨_, rfl⟩
    · rename_i verified
      exact .inl ⟨all_approvalResults.mp (not_not.mp verified), rfl⟩

theorem withMethod_of_capturePort
    {port : PortValue}
    {name field : String}
    {captured : Unit}
    (isCaptured : capturePort port name field = .ok captured) :
    port = .withMethod := by
  cases port with
  | withMethod => rfl
  | _ => cases isCaptured

/-- What an activation does: it is refused first, or goes on when checked. -/
theorem activateBreakGlass_cases
    (host : BreakGlassHost)
    (value now expectedScope : JsValue) :
    (∃ error, activateBreakGlass host value now expectedScope =
        ⟨[], .error error⟩) ∨
      host.activation = .withMethod ∧ host.approvalVerifier = .withMethod ∧
        ∃ request nowText,
          checkBreakGlass value now expectedScope = .ok (request, nowText) ∧
            activateBreakGlass host value now expectedScope =
              activateChecked host request := by
  rw [activateBreakGlass]
  split
  · exact .inl ⟨_, rfl⟩
  · rename_i activation
    split
    · exact .inl ⟨_, rfl⟩
    · rename_i verifier
      split
      · exact .inl ⟨_, rfl⟩
      · rename_i request nowText checked
        exact .inr ⟨withMethod_of_capturePort activation,
          withMethod_of_capturePort verifier, request, nowText, checked, rfl⟩

theorem filter_verifications (request : BreakGlassRequest) :
    (verifications request).filter PortCall.isConsume = [] := by
  simp [verifications, List.filter_map, PortCall.isConsume,
    Function.comp_def]

variable {grant : ActiveBreakGlass}

theorem recordedResult_eq_ok
    {active : ActiveBreakGlass}
    {recorded : Option JsValue} :
    recordedResult active recorded = .ok grant ↔
      recorded = some (.bool true) ∧ grant = active := by
  cases recorded with
  | none => simp [recordedResult, enterpriseError]
  | some value =>
      cases value with
      | bool state =>
          cases state <;>
            simp [recordedResult, isTrueValue, enterpriseError, eq_comm]
      | _ => simp [recordedResult, isTrueValue, enterpriseError]

variable {expectedScope : JsValue}

theorem result_eq_ok :
    (activateBreakGlass host value now expectedScope).result = .ok grant ↔
      ∃ request nowText,
        Passes host value now expectedScope request nowText ∧
          grant = request.active := by
  constructor
  · intro granted
    rcases activateBreakGlass_cases host value now expectedScope with
      ⟨error, isError⟩ | ⟨activation, verifier, request, nowText, checked, isRun⟩
    · rw [isError] at granted
      cases granted
    · rw [isRun] at granted
      rcases activateChecked_cases host request with
        ⟨verified, isChecked⟩ | ⟨error, isError⟩
      · rw [isChecked] at granted
        obtain ⟨recorded, isGrant⟩ := recordedResult_eq_ok.mp granted
        exact ⟨request, nowText,
          ⟨activation, verifier, checked, verified, recorded⟩, isGrant⟩
      · rw [isError] at granted
        cases granted
  · rintro ⟨request, nowText, passes, rfl⟩
    simp only [activateBreakGlass, passes.activation, passes.approvalVerifier,
      capturePort, passes.checked, activateChecked,
      if_neg passes.verified.answered,
      if_neg (not_not.mpr (all_approvalResults.mpr passes.verified))]
    exact recordedResult_eq_ok.mpr ⟨passes.recorded, rfl⟩

theorem verified_of_consumed
    {active : ActiveBreakGlass}
    (consumed : .consumeAndAudit active ∈
      (activateBreakGlass host value now expectedScope).calls) :
    ∃ request nowText,
      checkBreakGlass value now expectedScope = .ok (request, nowText) ∧
        AllVerified host request ∧ active = request.active := by
  have notVerified : ∀ request,
      PortCall.consumeAndAudit active ∉ verifications request := by
    intro request member
    obtain ⟨_, _, isCall⟩ := List.mem_map.mp member
    cases isCall
  rcases activateBreakGlass_cases host value now expectedScope with
    ⟨error, isError⟩ | ⟨_, _, request, nowText, checked, isRun⟩
  · rw [isError] at consumed
    cases consumed
  · rw [isRun] at consumed
    rcases activateChecked_cases host request with
      ⟨verified, isChecked⟩ | ⟨error, isError⟩
    · rw [isChecked] at consumed
      rcases List.mem_append.mp consumed with early | last
      · exact absurd early (notVerified request)
      · cases List.mem_singleton.mp last
        exact ⟨request, nowText, checked, verified, rfl⟩
    · rw [isError] at consumed
      exact absurd consumed (notVerified request)

theorem Passes.calls
    (passes : Passes host value now expectedScope request nowText) :
    (activateBreakGlass host value now expectedScope).calls.filter
        PortCall.isConsume = [.consumeAndAudit request.active] := by
  simp only [activateBreakGlass, passes.activation, passes.approvalVerifier,
    capturePort, passes.checked, activateChecked,
    if_neg passes.verified.answered,
    if_neg (not_not.mpr (all_approvalResults.mpr passes.verified)),
    List.filter_append, filter_verifications]
  rfl

/-- What the code checks of a request, its scope and the time. -/
theorem checkBreakGlass_eq_ok
    (checked : checkBreakGlass value now expectedScope =
      .ok (request, nowText)) :
    readBreakGlass value now = .ok (request, nowText) ∧
      (∃ scope, normalizeBreakGlassScope expectedScope = .ok scope ∧
        matchesScope request scope) ∧
      isOpen request nowText ∧
      ∀ approval ∈ request.approvals, isBound request approval := by
  obtain ⟨⟨read, time⟩, isRead, checked⟩ := bind_eq_ok.mp checked
  obtain ⟨scope, isScope, checked⟩ := bind_eq_ok.mp checked
  obtain ⟨open_, checked⟩ := check_bind_eq_ok.mp checked
  obtain ⟨inScope, checked⟩ := check_bind_eq_ok.mp checked
  obtain ⟨bound, checked⟩ := check_bind_eq_ok.mp checked
  cases checked
  exact ⟨isRead, ⟨scope, isScope, inScope⟩, open_, bound⟩

theorem Passes.granted
    (passes : Passes host value now expectedScope request nowText)
    (dated : ∀ approval ∈ request.approvals,
      instantMs approval.issuedAt ≤ instantMs nowText) :
    Granted host value now expectedScope request.active request nowText := by
  obtain ⟨isRead, scope, open_, bound⟩ :=
    checkBreakGlass_eq_ok passes.checked
  obtain ⟨fromValue, isNow, count, distinct, others⟩ :=
    readBreakGlass_eq_ok isRead
  simp only [isOpen, not_or, not_lt, not_le] at open_
  obtain ⟨issued, unexpired, _, withinDay⟩ := open_
  have approves : ∀ approval ∈ request.approvals,
      Approves request nowText approval := by
    intro approval member
    have isBound := bound approval member
    simp only [Enterprise.isBound, not_or, not_not, not_lt] at isBound
    obtain ⟨same, notBefore, _⟩ := isBound
    refine ⟨?_, same, notBefore, dated approval member⟩
    intro self
    exact others (self ▸ List.mem_map_of_mem member)
  obtain ⟨first, second, pair⟩ := List.length_eq_two.mp count
  rw [pair, List.forall_mem_cons] at approves
  rw [pair] at distinct
  simp only [List.map_cons, List.map_nil, List.nodup_cons,
    List.mem_singleton] at distinct
  exact ⟨fromValue, isNow, rfl, scope, issued, unexpired, withinDay,
    ⟨first, second, pair, distinct.1, approves.1,
      approves.2 second (List.mem_singleton_self second)⟩, passes.verified⟩

/-- The request that a grant was made for can be read off the inputs. -/
theorem Granted.dated
    (granted : Granted host value now expectedScope grant request nowText) :
    ∀ approval ∈ request.approvals,
      instantMs approval.issuedAt ≤ instantMs nowText := by
  obtain ⟨first, second, pair, _, isFirst, isSecond⟩ := granted.approvals
  rw [pair]
  simp only [List.forall_mem_cons, List.not_mem_nil, false_implies,
    implies_true, and_true]
  exact ⟨isFirst.notAfter, isSecond.notAfter⟩

theorem ApprovalFrom.unique
    {first second : BreakGlassApproval}
    (isFirst : ApprovalFrom value first)
    (isSecond : ApprovalFrom value second) :
    first = second := by
  obtain ⟨input, rfl, request, approver, issued, signature, key⟩ := isFirst
  obtain ⟨_, same, request', approver', issued', signature', key'⟩ := isSecond
  cases same
  obtain ⟨_, _, _, _, _⟩ := first
  rw [request, JsValue.string.injEq] at request'
  rw [approver, JsValue.string.injEq] at approver'
  rw [issued, JsValue.string.injEq] at issued'
  rw [signature, JsValue.string.injEq] at signature'
  rw [key, JsValue.string.injEq] at key'
  subst request' approver' issued' signature' key'
  rfl

theorem RequestFrom.unique
    {first second : BreakGlassRequest}
    (isFirst : RequestFrom value first)
    (isSecond : RequestFrom value second) :
    first = second := by
  obtain ⟨input, rfl, request, audit, tenant, audience, policy,
    ⟨number, isNumber, version⟩, requester, case_, reason, issued, expires,
    items, isArray, approvals⟩ := isFirst
  obtain ⟨_, same, request', audit', tenant', audience', policy',
    ⟨number', isNumber', version'⟩, requester', case', reason', issued',
    expires', items', isArray', approvals'⟩ := isSecond
  cases same
  cases isNumber.symm.trans isNumber'
  cases isArray.symm.trans isArray'
  have unique : Relator.RightUnique ApprovalFrom :=
    fun _ _ _ isFirst isSecond => isFirst.unique isSecond
  have sameApprovals := List.right_unique_forall₂' unique approvals approvals'
  have sameVersion := Int.ofNat.inj (Option.some.inj
    (version.symm.trans version'))
  obtain ⟨_, _, _, _, _, _, _, _, _, _, _, _⟩ := first
  rw [request, JsValue.string.injEq] at request'
  rw [audit, JsValue.string.injEq] at audit'
  rw [tenant, JsValue.string.injEq] at tenant'
  rw [audience, JsValue.string.injEq] at audience'
  rw [policy, JsValue.string.injEq] at policy'
  rw [requester, JsValue.string.injEq] at requester'
  rw [case_, JsValue.string.injEq] at case'
  rw [reason, JsValue.string.injEq] at reason'
  rw [issued, JsValue.string.injEq] at issued'
  rw [expires, JsValue.string.injEq] at expires'
  dsimp only at sameApprovals sameVersion
  subst request' audit' tenant' audience' policy' requester' case' reason'
    issued' expires' sameApprovals sameVersion
  rfl

/--
An activation is safe exactly when no approval of a request that passes the
code's checks is dated after the time of the activation.
-/
theorem activateBreakGlass_safe
    (host : BreakGlassHost)
    (value now expectedScope : JsValue) :
    ActivationSafe host value now expectedScope ↔
      ∀ request nowText,
        Passes host value now expectedScope request nowText →
          ∀ approval ∈ request.approvals,
            instantMs approval.issuedAt ≤ instantMs nowText := by
  constructor
  · intro safe request nowText passes
    obtain ⟨⟨other, otherNow, granted⟩, _⟩ := safe.granted request.active
      (result_eq_ok.mpr ⟨request, nowText, passes, rfl⟩)
    obtain ⟨fromValue, isNow, _⟩ :=
      readBreakGlass_eq_ok (checkBreakGlass_eq_ok passes.checked).1
    cases fromValue.unique granted.fromValue
    cases isNow.symm.trans granted.isNow
    exact granted.dated
  · intro dated
    refine ⟨fun grant isGranted => ?_, fun active => verified_of_consumed⟩
    obtain ⟨request, nowText, passes, rfl⟩ := result_eq_ok.mp isGranted
    exact ⟨⟨request, nowText, passes.granted (dated request nowText passes)⟩,
      passes.calls, passes.recorded⟩

/-! ## An approval from the future -/

/-- An approval record, by the approver and the time. -/
def sampleApproval (approverId issuedAt : String) : JsValue :=
  .object [
    (js "format", .string (js "selene-break-glass-approval/v1")),
    (js "requestId", .string (js "request")),
    (js "approverId", .string (js approverId)),
    (js "issuedAt", .string (js issuedAt)),
    (js "signature", .string (js "signature")),
    (js "keyId", .string (js "key"))]

/-- A request whose second approval is dated at a given time. -/
def sampleBreakGlass (issuedAt : String) : JsValue :=
  .object [
    (js "format", .string (js "selene-break-glass/v1")),
    (js "requestId", .string (js "request")),
    (js "auditEventId", .string (js "audit")),
    (js "tenantId", .string (js "tenant")),
    (js "audience", .string (js "audience")),
    (js "policyId", .string (js "policy")),
    (js "policyVersion", .number (.ofNat 1)),
    (js "requesterId", .string (js "requester")),
    (js "caseId", .string (js "case")),
    (js "reason", .string (js "restore the tenant after an outage")),
    (js "issuedAt", .string (js "2026-07-20T12:00:00.000Z")),
    (js "expiresAt", .string (js "2026-07-20T14:00:00.000Z")),
    (js "state", .string (js "pending")),
    (js "approvals", .array [
      sampleApproval "first" "2026-07-20T12:30:00.000Z",
      sampleApproval "second" issuedAt])]

/-- The time of the activation. -/
def sampleNow : JsValue :=
  .string (js "2026-07-20T13:00:00.000Z")

/-- The scope that the host expects. -/
def sampleScope : JsValue :=
  .object [
    (js "tenantId", .string (js "tenant")),
    (js "audience", .string (js "audience")),
    (js "policyId", .string (js "policy")),
    (js "policyVersion", .number (.ofNat 1))]

/-- Ports that answer `true`. -/
def sampleHost : BreakGlassHost where
  activation := .withMethod
  approvalVerifier := .withMethod
  verify _ _ := some (.bool true)
  consumeAndAudit _ := some (.bool true)

/-- The approval of the record. -/
def sampleApprovalRead (approverId issuedAt : String) :
    BreakGlassApproval where
  requestId := js "request"
  approverId := js approverId
  issuedAt := js issuedAt
  signature := js "signature"
  keyId := js "key"

/-- The request of the value. -/
def sampleRequest (issuedAt : String) : BreakGlassRequest where
  requestId := js "request"
  auditEventId := js "audit"
  tenantId := js "tenant"
  audience := js "audience"
  policyId := js "policy"
  policyVersion := 1
  requesterId := js "requester"
  caseId := js "case"
  reason := js "restore the tenant after an outage"
  issuedAt := js "2026-07-20T12:00:00.000Z"
  expiresAt := js "2026-07-20T14:00:00.000Z"
  approvals := [
    sampleApprovalRead "first" "2026-07-20T12:30:00.000Z",
    sampleApprovalRead "second" issuedAt]

/-- An approval dated an hour ahead activates a grant. -/
theorem activateBreakGlass_postdated :
    ¬ ActivationSafe sampleHost
      (sampleBreakGlass "2026-07-20T13:59:00.000Z") sampleNow sampleScope := by
  have checked :
      checkBreakGlass (sampleBreakGlass "2026-07-20T13:59:00.000Z") sampleNow
          sampleScope =
        .ok (sampleRequest "2026-07-20T13:59:00.000Z",
          js "2026-07-20T13:00:00.000Z") := by
    decide +kernel
  have passes : Passes sampleHost (sampleBreakGlass "2026-07-20T13:59:00.000Z")
      sampleNow sampleScope (sampleRequest "2026-07-20T13:59:00.000Z")
      (js "2026-07-20T13:00:00.000Z") :=
    ⟨rfl, rfl, checked, fun _ _ => rfl, rfl⟩
  rw [activateBreakGlass_safe]
  intro dated
  have early := dated _ _ passes
    (sampleApprovalRead "second" "2026-07-20T13:59:00.000Z") (by decide)
  exact absurd early (by decide +kernel)

end Selene.Enterprise
