import Selene.EnterpriseData

/-!
# Enterprise policies and entitlements

The records that external access is decided on, as they are read from public
data: the policy with its address ranges, the signed envelope around it, the
entitlement, and the session evidence of the host.
-/

namespace Selene.Enterprise

open Js

/-! ## Texts -/

/-- A first unit of one class and at most so many units of another. -/
def isWord (first other : CodeUnit → Bool) (more : Nat) : JsString → Bool
  | [] => false
  | unit :: rest =>
      first unit && decide (rest.length ≤ more) && rest.all other

def capabilityScopeUnit (unit : CodeUnit) : Bool :=
  isLowerLetter unit || isDecimalDigit unit || decide (unit = 0x2D)

def capabilityNameUnit (unit : CodeUnit) : Bool :=
  isLowerLetter unit || isDecimalDigit unit || (js "./-").contains unit

/-- A scope of at most 64 units and a name of at most 128, with a colon between. -/
def isCapability (value : JsString) : Bool :=
  match value.splitOn 0x3A with
  | [scope, name] =>
      isWord isLowerLetter capabilityScopeUnit 63 scope &&
        isWord isLowerLetter capabilityNameUnit 127 name
  | _ => false

def capability (value : JsValue) (field : String) : Except Thrown JsString := do
  let result ← text value field 192
  check (isCapability result = true)
    (.security (js field ++ js " must be a namespaced capability"))
  pure result

/-- `uniqueStrings`. -/
def uniqueStrings (value : JsValue) (field : String)
    (validator : JsValue → String → Except Thrown JsString) :
    Except Thrown (List JsString) := do
  let values ← dataArray value field
  let copied ← values.mapM fun item => validator item field
  check copied.Nodup
    (.security (js field ++ js " must not contain duplicates"))
  pure copied

/-- `value ?? fallback`. -/
def orElse (value fallback : JsValue) : JsValue :=
  match value with
  | .undefined => fallback
  | .null => fallback
  | _ => value

/-! ## Addresses -/

structure ParsedIp where
  bits : Nat
  value : Nat
  deriving DecidableEq

/-- The number that digits of a base stand for. -/
def digitsValue (base : Nat) (digit : CodeUnit → Nat) (digits : JsString) : Nat :=
  digits.foldl (fun total unit => total * base + digit unit) 0

def decimalValue : JsString → Nat :=
  digitsValue 10 fun unit => unit.val - 0x30

/-- `/^(0|[1-9]\d{0,2})$/` with a value of at most 255. -/
def isIpv4Part (part : JsString) : Bool :=
  (decide (part = [0x30]) ||
    isWord (fun unit => isDecimalDigit unit && decide (unit ≠ 0x30))
      isDecimalDigit 2 part) &&
    decide (decimalValue part ≤ 255)

def parseIpv4 (value : JsString) : Option Nat :=
  let parts := value.splitOn 0x2E
  if parts.length = 4 ∧ parts.all isIpv4Part = true then
    some (parts.foldl (fun total part => total * 256 + decimalValue part) 0)
  else
    none

/-- `[0-9a-fA-F]`. -/
def isHexUnit (unit : CodeUnit) : Bool :=
  isDecimalDigit unit || decide (97 ≤ unit.val ∧ unit.val ≤ 102) ||
    decide (65 ≤ unit.val ∧ unit.val ≤ 70)

def hexUnitValue (unit : CodeUnit) : Nat :=
  if isDecimalDigit unit then unit.val - 0x30
  else if 97 ≤ unit.val then unit.val - 87
  else unit.val - 55

/-- `value.split('::')`. -/
def splitDouble : JsString → List JsString
  | [] => [[]]
  | [unit] => [[unit]]
  | unit :: next :: rest =>
      if unit = 0x3A ∧ next = 0x3A then
        [] :: splitDouble rest
      else
        match splitDouble (next :: rest) with
        | head :: others => (unit :: head) :: others
        | [] => [[unit]]

/-- The groups of one side of `::`. -/
def ipv6Groups (half : JsString) : List JsString :=
  if half = [] then [] else half.splitOn 0x3A

/-- The groups of an address, with the zeros that `::` stands for. -/
def ipv6Address : List JsString → Option (List JsString)
  | [whole] =>
      if (ipv6Groups whole).length ≤ 8 then some (ipv6Groups whole) else none
  | [left, right] =>
      let left := ipv6Groups left
      let right := ipv6Groups right
      if left.length + right.length ≤ 8 then
        some (left ++ List.replicate (8 - left.length - right.length) [0x30] ++
          right)
      else
        none
  | _ => none

def parseIpv6 (value : JsString) : Option Nat :=
  if 0x2E ∈ value then
    none
  else do
    let groups ← ipv6Address (splitDouble value)
    if groups.length = 8 ∧
        groups.all (isWord isHexUnit isHexUnit 3) = true then
      some (groups.foldl
        (fun total group => total * 65536 + digitsValue 16 hexUnitValue group) 0)
    else
      none

def parseIp (value : JsValue) (field : String) : Except Thrown ParsedIp := do
  let candidate ← text value field 64
  match parseIpv4 candidate with
  | some value => pure ⟨32, value⟩
  | none =>
      match parseIpv6 candidate with
      | some value => pure ⟨128, value⟩
      | none => enterpriseError (js field ++ js " is not an IP address")

structure CompiledCidr where
  source : JsString
  bits : Nat
  prefixLength : Nat
  network : Nat
  deriving DecidableEq

/-- The mask of the leading bits of an address. -/
def networkMask (bits prefixLength : Nat) : Nat :=
  (2 ^ prefixLength - 1) <<< (bits - prefixLength)

def compileCidr (source : JsString) : Except Thrown CompiledCidr := do
  let source ← text (.string source) "allowed IP CIDR" 80
  match source.splitOn 0x2F with
  | [address, digits] =>
      check (isWord isDecimalDigit isDecimalDigit 2 digits = true)
        (.security (js "allowed IP CIDR is invalid"))
      let parsed ← parseIp (.string address) "CIDR address"
      let prefixLength := decimalValue digits
      check (prefixLength ≤ parsed.bits)
        (.security (js "CIDR prefix is outside its address family"))
      check (parsed.value &&& networkMask parsed.bits prefixLength =
          parsed.value)
        (.security (js "CIDR network bits must be canonical"))
      pure ⟨source, parsed.bits, prefixLength, parsed.value⟩
  | _ => enterpriseError (js "allowed IP CIDR is invalid")

def cidrMatches (ip : ParsedIp) (cidr : CompiledCidr) : Bool :=
  decide (ip.bits = cidr.bits) &&
    decide (ip.value &&& networkMask ip.bits cidr.prefixLength = cidr.network)

/-! ## Policies -/

structure CompiledPolicy where
  policyId : JsString
  policyVersion : Nat
  tenantId : JsString
  audience : JsString
  capabilities : List JsString
  residency : List JsString
  allowedIpCidrs : List CompiledCidr
  sessionMaxAgeSeconds : Nat
  entitlementTtlSeconds : Nat
  entitlementGraceSeconds : Nat
  minimumAccessVersion : Nat
  minimumSessionVersion : Nat
  deriving DecidableEq

def enterpriseSecurityFormat : String :=
  "selene-enterprise-security/v2"

def policyFields : List JsString :=
  [js "format", js "policyId", js "policyVersion", js "tenantId",
    js "audience", js "capabilities", js "residency", js "allowedIpCidrs",
    js "sessionMaxAgeSeconds", js "entitlementTtlSeconds",
    js "entitlementGraceSeconds", js "minimumAccessVersion",
    js "minimumSessionVersion"]

def maxEntitlementTtlSeconds : Nat := 86400

def maxEntitlementGraceSeconds : Nat := 3600

/-- A text of the default length. -/
def plainText (value : JsValue) (field : String) : Except Thrown JsString :=
  text value field maxTextBytes

def compileEnterprisePolicy (value : JsValue) :
    Except Thrown CompiledPolicy := do
  check (isObject value = true) (.security (js "policy must be an object"))
  let input ← dataRecord value "policy" policyFields
  check (isString (input.get (js "format")) enterpriseSecurityFormat)
    (.security (js "unsupported enterprise policy format"))
  let sessionMaxAge := input.get (js "sessionMaxAgeSeconds")
  let sessionMaxAgeSeconds ←
    boundedInteger sessionMaxAge "sessionMaxAgeSeconds" 60 86400
  let entitlementTtlSeconds ←
    boundedInteger (orElse (input.get (js "entitlementTtlSeconds"))
      sessionMaxAge) "entitlementTtlSeconds" 60 maxEntitlementTtlSeconds
  let entitlementGraceSeconds ←
    boundedInteger (orElse (input.get (js "entitlementGraceSeconds"))
      (.number (.ofNat 0))) "entitlementGraceSeconds" 0
      maxEntitlementGraceSeconds
  let sources ←
    uniqueStrings (input.get (js "allowedIpCidrs")) "allowedIpCidrs" plainText
  let cidrs ← sources.mapM compileCidr
  check (cidrs ≠ [])
    (.security (js "external policy requires at least one allowed IP CIDR"))
  check (cidrs.map CompiledCidr.source).Nodup
    (.security (js "allowedIpCidrs must not contain duplicates"))
  let policyId ← identifier (input.get (js "policyId")) "policyId"
  let policyVersion ← boundedPositiveInteger (input.get (js "policyVersion"))
    "policyVersion" 1000000
  let tenantId ← identifier (input.get (js "tenantId")) "tenantId"
  let audience ← identifier (input.get (js "audience")) "audience"
  let capabilities ←
    uniqueStrings (input.get (js "capabilities")) "capabilities" capability
  let residency ←
    uniqueStrings (input.get (js "residency")) "residency" identifier
  let minimumAccessVersion ← boundedPositiveInteger
    (orElse (input.get (js "minimumAccessVersion")) (.number (.ofNat 1)))
    "minimumAccessVersion" 1000000
  let minimumSessionVersion ← boundedPositiveInteger
    (orElse (input.get (js "minimumSessionVersion")) (.number (.ofNat 1)))
    "minimumSessionVersion" 1000000
  pure ⟨policyId, policyVersion, tenantId, audience, capabilities, residency,
    cidrs, sessionMaxAgeSeconds, entitlementTtlSeconds, entitlementGraceSeconds,
    minimumAccessVersion, minimumSessionVersion⟩

/-! ## Signed policies -/

def signedPolicyFields : List JsString :=
  [js "format", js "organizationId", js "revision", js "issuedAt",
    js "expiresAt", js "policy", js "digest", js "signature", js "keyId"]

/-- The fields of a policy that a snapshot copies if they are present. -/
def policyScalarFields : List JsString :=
  [js "format", js "policyId", js "policyVersion", js "tenantId",
    js "audience", js "sessionMaxAgeSeconds", js "entitlementTtlSeconds",
    js "entitlementGraceSeconds", js "minimumAccessVersion",
    js "minimumSessionVersion"]

/-- The lists of a policy; a snapshot has each of them, maybe `undefined`. -/
def policyListFields : List String :=
  ["capabilities", "residency", "allowedIpCidrs"]

def snapshotPolicyList (input : Record) (field : String) :
    Except Thrown (JsString × JsValue) :=
  match input.get (js field) with
  | .array items => do
      let items ← dataArray (.array items) ("signed policy " ++ field)
      pure (js field, .array items)
  | candidate => pure (js field, candidate)

def snapshotSignedPolicy (value : JsValue) : Except Thrown JsValue := do
  check (isObject value = true)
    (.security (js "signed policy payload must be an object"))
  let input ← dataRecord value "signed policy payload" policyFields
  let scalars := policyScalarFields.filter fun field =>
    decide (field ∈ input.keys)
  let lists ← policyListFields.mapM (snapshotPolicyList input)
  pure (.object ((scalars.map fun field => (field, input.get field)) ++ lists))

structure SignedPolicyEnvelope where
  organizationId : JsString
  revision : Nat
  issuedAt : JsString
  expiresAt : JsString
  policy : JsValue
  digest : JsString
  signature : JsString
  keyId : JsString

/-- The envelope that `activateSignedPolicy` hands to the verifier. -/
def readSignedPolicy (value now : JsValue) :
    Except Thrown SignedPolicyEnvelope := do
  check (isObject value = true)
    (.security (js "signed policy must be an object"))
  let input ← dataRecord value "signed policy" signedPolicyFields
  check (isString (input.get (js "format")) "selene-signed-policy/v1")
    (.security (js "unsupported signed policy format"))
  let policy ← snapshotSignedPolicy (input.get (js "policy"))
  let organizationId ←
    identifier (input.get (js "organizationId")) "organizationId"
  let revision ← boundedPositiveInteger (input.get (js "revision"))
    "policy revision" JsNumber.maxSafeInteger
  let issuedAt ←
    canonicalInstant (input.get (js "issuedAt")) "policy issuedAt"
  let expiresAt ←
    canonicalInstant (input.get (js "expiresAt")) "policy expiresAt"
  let digest ← sha256Digest (input.get (js "digest")) "policy digest"
  let signature ← text (input.get (js "signature")) "policy signature"
    maxSignatureBytes
  let keyId ← text (input.get (js "keyId")) "policy keyId" 512
  let current ← canonicalInstant now "now"
  check (instantMs issuedAt ≤ instantMs current ∧
      instantMs current < instantMs expiresAt ∧
      instantMs issuedAt < instantMs expiresAt)
    (.security (js "signed policy timing is invalid"))
  pure ⟨organizationId, revision, issuedAt, expiresAt, policy, digest,
    signature, keyId⟩

/-- A policy that was activated, with the evidence that is kept of it. -/
structure ActivatedPolicy where
  policy : CompiledPolicy
  organizationId : JsString
  revision : Nat
  issuedAt : JsString
  expiresAt : JsString
  digest : JsString
  keyId : JsString
  deriving DecidableEq

/-! ## Entitlements -/

def entitlementFields : List JsString :=
  [js "format", js "entitlementVersion", js "tenantId", js "providerId",
    js "audience", js "resource", js "policyId", js "policyVersion",
    js "subjectId", js "revision", js "issuedAt", js "expiresAt",
    js "capabilities", js "digest", js "signature", js "keyId"]

structure VerifiedEntitlement where
  entitlementVersion : Nat
  tenantId : JsString
  providerId : JsString
  audience : JsString
  resource : JsString
  policyId : JsString
  policyVersion : Nat
  subjectId : JsString
  revision : Nat
  issuedAt : JsString
  expiresAt : JsString
  capabilities : List JsString
  digest : JsString
  signature : JsString
  keyId : JsString
  deriving DecidableEq

def normalizeEntitlement (value : JsValue) :
    Except Thrown VerifiedEntitlement := do
  check (isObject value = true)
    (.security (js "entitlement must be an object"))
  let input ← dataRecord value "external entitlement" entitlementFields
  check (isString (input.get (js "format")) "selene-external-entitlement/v2")
    (.security (js "unsupported entitlement format"))
  let issuedAt ←
    canonicalInstant (input.get (js "issuedAt")) "entitlement issuedAt"
  let expiresAt ←
    canonicalInstant (input.get (js "expiresAt")) "entitlement expiresAt"
  check (instantMs issuedAt < instantMs expiresAt)
    (.security (js "entitlement expiresAt must follow issuedAt"))
  let entitlementVersion ← boundedPositiveInteger
    (input.get (js "entitlementVersion")) "entitlementVersion" 1000000
  let tenantId ←
    identifier (input.get (js "tenantId")) "entitlement tenantId"
  let providerId ← identifier (input.get (js "providerId")) "providerId"
  let audience ←
    identifier (input.get (js "audience")) "entitlement audience"
  let resource ← identifier (input.get (js "resource")) "resource"
  let policyId ←
    identifier (input.get (js "policyId")) "entitlement policyId"
  let policyVersion ← boundedPositiveInteger (input.get (js "policyVersion"))
    "entitlement policyVersion" 1000000
  let subjectId ← identifier (input.get (js "subjectId")) "subjectId"
  let revision ← boundedPositiveInteger (input.get (js "revision"))
    "revision" JsNumber.maxSafeInteger
  let capabilities ← uniqueStrings (input.get (js "capabilities"))
    "entitlement capabilities" capability
  let digest ← sha256Digest (input.get (js "digest")) "entitlement digest"
  let signature ← text (input.get (js "signature")) "signature"
    maxSignatureBytes
  let keyId ← text (input.get (js "keyId")) "keyId" 512
  pure ⟨entitlementVersion, tenantId, providerId, audience, resource, policyId,
    policyVersion, subjectId, revision, issuedAt, expiresAt, capabilities,
    digest, signature, keyId⟩

/-! ## Sessions -/

/-- Session evidence of the host. -/
structure TrustedSession where
  subjectId : JsString
  ipAddress : JsString
  issuedAt : JsString
  expiresAt : JsString
  sessionId : JsString
  active : Bool
  revoked : Bool
  accessVersion : Nat
  sessionVersion : Nat
  deriving DecidableEq

end Selene.Enterprise
