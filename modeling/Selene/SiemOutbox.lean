import Selene.EnterpriseData
import Selene.InsertionTable
import Selene.LoggedMachine

/-!
# The in-memory outbox of security events

`InMemorySiemOutbox`: events are enqueued, claimed under leases that expire,
and leave by an acknowledgement or as dead letters.  Each operation is
exclusive, so a run of the outbox is a list of calls that it takes one after
another.
-/

namespace Selene.Enterprise

open Js

/-! ## Events -/

structure SecurityAttribute where
  key : JsString
  value : JsString
  deriving DecidableEq

structure RedactedSecurityPayload where
  summary : JsString
  attributes : List SecurityAttribute
  deriving DecidableEq

structure SecurityEvent where
  id : JsString
  tenantId : JsString
  occurredAt : JsString
  type : JsString
  payload : RedactedSecurityPayload
  deriving DecidableEq

def securityEventFields : List JsString :=
  [js "format", js "id", js "tenantId", js "occurredAt", js "type",
    js "payload"]

def securityPayloadFields : List JsString :=
  [js "format", js "summary", js "attributes"]

def securityAttributeFields : List JsString :=
  [js "key", js "value"]

def normalizeSecurityAttribute (value : JsValue) :
    Except Thrown SecurityAttribute := do
  check (isObject value = true)
    (.security (js "SIEM payload attribute is invalid"))
  let record ← dataRecord value "security event attribute"
    securityAttributeFields
  let key ← identifier (record.get (js "key")) "SIEM payload attribute key"
  let value ← text (record.get (js "value")) "SIEM payload attribute value" 512
  pure ⟨key, value⟩

def normalizeRedactedSecurityPayload (value : JsValue) :
    Except Thrown RedactedSecurityPayload := do
  check (isObject value = true)
    (.security (js "SIEM payload must be an object"))
  let input ← dataRecord value "security event payload" securityPayloadFields
  check (isString (input.get (js "format"))
      "selene-redacted-security-payload/v1")
    (.security (js "SIEM payload must be a redacted payload"))
  let attributeValues ← dataArray (input.get (js "attributes"))
    "SIEM payload attributes"
  let attributes ← attributeValues.mapM normalizeSecurityAttribute
  check (attributes.map SecurityAttribute.key).Nodup
    (.security (js "SIEM payload attribute keys must not duplicate"))
  let summary ← text (input.get (js "summary")) "SIEM payload summary" 2048
  pure ⟨summary, attributes⟩

def normalizeSecurityEvent (value : JsValue) : Except Thrown SecurityEvent := do
  check (isObject value = true) (.security (js "SIEM event must be an object"))
  let input ← dataRecord value "security event" securityEventFields
  check (isString (input.get (js "format")) "selene-security-event/v1")
    (.security (js "unsupported SIEM event format"))
  let id ← identifier (input.get (js "id")) "SIEM event id"
  let tenantId ← identifier (input.get (js "tenantId")) "SIEM tenantId"
  let occurredAt ← canonicalInstant (input.get (js "occurredAt"))
    "SIEM occurredAt"
  let type ← text (input.get (js "type")) "SIEM type" 192
  let payload ← normalizeRedactedSecurityPayload (input.get (js "payload"))
  pure ⟨id, tenantId, occurredAt, type, payload⟩

/-! ## The outbox -/

/-- A claim on a stored event. -/
structure Lease where
  id : JsString
  expiresAt : JsString
  deriving DecidableEq

structure StoredEvent where
  event : SecurityEvent
  attempts : Nat
  retryAt : JsString
  claim : Option Lease
  deriving DecidableEq

structure ClaimedSecurityEvent where
  claimId : JsString
  event : SecurityEvent
  attempts : Nat
  leaseExpiresAt : JsString
  deriving DecidableEq

structure DeadLetteredSecurityEvent where
  event : SecurityEvent
  reasonCode : JsString
  deriving DecidableEq

def StoredEvent.id (stored : StoredEvent) : JsString :=
  stored.event.id

def DeadLetteredSecurityEvent.id (letter : DeadLetteredSecurityEvent) :
    JsString :=
  letter.event.id

/-- The state of an `InMemorySiemOutbox`. -/
structure SiemOutbox where
  capacity : Nat
  leaseSeconds : Nat
  events : Table StoredEvent.id
  deadLetters : Table DeadLetteredSecurityEvent.id
  sequence : Nat

def maxSiemLeaseSeconds : Nat := 300

/-- The constructor, on integers. -/
def newSiemOutbox (capacity leaseSeconds : Nat) : Except Thrown SiemOutbox := do
  check (1 ≤ capacity ∧ capacity ≤ 100000)
    (.security (js "outbox bounds are invalid"))
  check (1 ≤ leaseSeconds ∧ leaseSeconds ≤ maxSiemLeaseSeconds)
    (.security (js "SIEM leaseSeconds must be an integer from 1 to 300"))
  pure ⟨capacity, leaseSeconds, .empty, .empty, 0⟩

/-- A lease is over at a time. -/
def Lease.IsExpired (lease : Lease) (now : JsString) : Prop :=
  instantMs lease.expiresAt ≤ instantMs now

instance (lease : Lease) (now : JsString) : Decidable (lease.IsExpired now) :=
  inferInstanceAs (Decidable (_ ≤ _))

/-! ## Operations -/

def enqueue (outbox : SiemOutbox) (value : JsValue) :
    Except Thrown SiemOutbox := do
  let event ← normalizeSecurityEvent value
  check (outbox.events.has event.id = false ∧
      outbox.deadLetters.has event.id = false)
    (.security (js "duplicate SIEM event id"))
  check (outbox.events.size + outbox.deadLetters.size < outbox.capacity)
    (.security (js "SIEM outbox capacity reached"))
  pure { outbox with
    events := outbox.events.set ⟨event, 0, event.occurredAt, none⟩ }

/-- The lease of a stored event, if it is not over. -/
def liveClaim (now : JsString) (stored : StoredEvent) : Option Lease :=
  stored.claim.filter fun lease => decide (¬ lease.IsExpired now)

def claimIdOf (sequence : Nat) : JsString :=
  js "claim-" ++ decimalDigits sequence

/-- The claims so far, and the number of the last one. -/
structure Claiming where
  claims : List ClaimedSecurityEvent
  sequence : Nat

/-- One turn of the loop over the events: the event, and the claims. -/
def claimTurn (limit : Nat) (now leaseExpiresAt : JsString)
    (claiming : Claiming) (stored : StoredEvent) : StoredEvent × Claiming :=
  let stored := { stored with claim := liveClaim now stored }
  if claiming.claims.length = limit ∨ stored.claim.isSome ∨
      instantMs now < instantMs stored.retryAt then
    (stored, claiming)
  else
    let claimId := claimIdOf (claiming.sequence + 1)
    ({ stored with claim := some ⟨claimId, leaseExpiresAt⟩ },
      { claims := claiming.claims ++
          [⟨claimId, stored.event, stored.attempts, leaseExpiresAt⟩]
        sequence := claiming.sequence + 1 })

/-- The loop over the events. -/
def claimLoop (limit : Nat) (now leaseExpiresAt : JsString) :
    List StoredEvent → Claiming → List StoredEvent × Claiming
  | [], claiming => ([], claiming)
  | stored :: rest, claiming =>
      let (claimed, claiming) := claimTurn limit now leaseExpiresAt claiming stored
      let (others, claiming) := claimLoop limit now leaseExpiresAt rest claiming
      (claimed :: others, claiming)

theorem event_claimTurn
    (limit : Nat)
    (now leaseExpiresAt : JsString)
    (claiming : Claiming)
    (stored : StoredEvent) :
    (claimTurn limit now leaseExpiresAt claiming stored).1.event =
      stored.event := by
  simp only [claimTurn]
  split <;> rfl

theorem ids_claimLoop
    (limit : Nat)
    (now leaseExpiresAt : JsString)
    (rows : List StoredEvent)
    (claiming : Claiming) :
    (claimLoop limit now leaseExpiresAt rows claiming).1.map StoredEvent.id =
      rows.map StoredEvent.id := by
  induction rows generalizing claiming with
  | nil => rfl
  | cons stored rest inductionHypothesis =>
      simp only [claimLoop, List.map_cons, inductionHypothesis,
        StoredEvent.id, event_claimTurn]

/-- When a lease that begins at a time is over. -/
def leaseEnd (outbox : SiemOutbox) (now : JsString) : JsString :=
  toISOString (instantMs now + outbox.leaseSeconds * 1000)

/-- The exclusive part of `claim`. -/
def claimAt (outbox : SiemOutbox) (limit : Nat) (now : JsString) :
    SiemOutbox × List ClaimedSecurityEvent :=
  let looped := claimLoop limit now (leaseEnd outbox now) outbox.events.rows
    ⟨[], outbox.sequence⟩
  ({ outbox with
      events := ⟨looped.1, by rw [ids_claimLoop]; exact outbox.events.distinct⟩
      sequence := looped.2.sequence },
    looped.2.claims)

def claim (outbox : SiemOutbox) (limit : JsNumber) (now : JsValue) :
    Except Thrown (SiemOutbox × List ClaimedSecurityEvent) := do
  let timestamp ← canonicalInstant now "now"
  match limit.safeInteger? with
  | some limit =>
      if 1 ≤ limit ∧ limit ≤ 64 then
        .ok (claimAt outbox limit.toNat timestamp)
      else
        enterpriseError (js "claim limit is invalid")
  | none => enterpriseError (js "claim limit is invalid")

/-- How a claim is settled. -/
inductive Settlement where
  | ack
  | nack (retryAt : JsString)
  | deadLetter (reasonCode : JsString)
  deriving DecidableEq

/-- The first event under a claim. -/
def eventUnder (outbox : SiemOutbox) (claimId : JsString) :
    Option StoredEvent :=
  outbox.events.rows.find? fun stored =>
    decide (stored.claim.map Lease.id = some claimId)

/-- `update`, and the deletion of an event that is still claimed after it. -/
def settle (outbox : SiemOutbox) (stored : StoredEvent) :
    Settlement → SiemOutbox
  | .ack => { outbox with events := outbox.events.delete stored.id }
  | .nack retryAt =>
      { outbox with
        events := outbox.events.set { stored with
          attempts := stored.attempts + 1
          retryAt
          claim := none } }
  | .deadLetter reasonCode =>
      { outbox with
        events := outbox.events.delete stored.id
        deadLetters := outbox.deadLetters.set ⟨stored.event, reasonCode⟩ }

/-- The exclusive part of `finish`: the outbox, and what is thrown. -/
def finishAt (outbox : SiemOutbox) (claimId now : JsString)
    (settlement : Settlement) : SiemOutbox × Except Thrown Unit :=
  match eventUnder outbox claimId with
  | none => (outbox, enterpriseError (js "unknown or settled SIEM claim"))
  | some stored =>
      if ∃ lease ∈ stored.claim, lease.IsExpired now then
        ({ outbox with events := outbox.events.set { stored with claim := none } },
          enterpriseError (js "expired SIEM claim cannot be settled"))
      else
        (settle outbox stored settlement, .ok ())

/-- `finish`. -/
def finish (outbox : SiemOutbox) (claimId now : JsValue)
    (settlement : Settlement) : SiemOutbox × Except Thrown Unit :=
  match text claimId "claimId" 256 with
  | .error error => (outbox, .error error)
  | .ok claimId =>
      match canonicalInstant now "now" with
      | .error error => (outbox, .error error)
      | .ok timestamp => finishAt outbox claimId timestamp settlement

def ack (outbox : SiemOutbox) (claimId now : JsValue) :
    SiemOutbox × Except Thrown Unit :=
  finish outbox claimId now .ack

def nack (outbox : SiemOutbox) (claimId retryAt now : JsValue) :
    SiemOutbox × Except Thrown Unit :=
  match canonicalInstant retryAt "retryAt" with
  | .error error => (outbox, .error error)
  | .ok retryAt => finish outbox claimId now (.nack retryAt)

def deadLetter (outbox : SiemOutbox) (claimId reasonCode now : JsValue) :
    SiemOutbox × Except Thrown Unit :=
  match identifier reasonCode "dead-letter reason code" with
  | .error error => (outbox, .error error)
  | .ok reasonCode => finish outbox claimId now (.deadLetter reasonCode)

/-! ## Calls -/

inductive OutboxCall where
  | enqueue (value : JsValue)
  | claim (limit : JsNumber) (now : JsValue)
  | ack (claimId now : JsValue)
  | nack (claimId retryAt now : JsValue)
  | deadLetter (claimId reasonCode now : JsValue)

/-- What a call answers: the claims of a `claim`, or nothing. -/
abbrev OutboxAnswer := Except Thrown (List ClaimedSecurityEvent)

/-- The answer of a settlement. -/
def settled (outcome : SiemOutbox × Except Thrown Unit) :
    SiemOutbox × OutboxAnswer :=
  (outcome.1, outcome.2.map fun _ => [])

/-- The outbox after a call, with what the call answers. -/
def outboxStep (outbox : SiemOutbox) : OutboxCall → SiemOutbox × OutboxAnswer
  | .enqueue value =>
      match enqueue outbox value with
      | .ok next => (next, .ok [])
      | .error error => (outbox, .error error)
  | .claim limit now =>
      match claim outbox limit now with
      | .ok (next, claims) => (next, .ok claims)
      | .error error => (outbox, .error error)
  | .ack claimId now => settled (ack outbox claimId now)
  | .nack claimId retryAt now => settled (nack outbox claimId retryAt now)
  | .deadLetter claimId reasonCode now =>
      settled (deadLetter outbox claimId reasonCode now)

end Selene.Enterprise
