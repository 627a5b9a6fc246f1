import Selene.AgentProtocol
import Selene.Codec
import Selene.Rejection

/-!
# Envelopes of the agent protocol

A snapshot is a bounded copy of plain JSON data: `copy` walks a value, counts
values and bytes, and refuses what is not plain.  `validateEnvelope` reads the
envelope of a snapshot; a value that carries the brand of an earlier validation
is the envelope itself.
-/

namespace Selene.Agent

open Js

/-! ## Snapshots -/

/-- What a snapshot has counted so far. -/
structure SnapshotTotals where
  count : Nat
  usedBytes : Nat
  deriving DecidableEq

/-- A part of the walk. -/
abbrev Snapshot :=
  SnapshotTotals → Except AgentProtocolError SnapshotTotals

def dangerousKeys : List JsString :=
  [js "__proto__", js "constructor", js "prototype"]

def assertSafeKey (key : JsString) : Except AgentProtocolError Unit :=
  check (key ∉ dangerousKeys)
    (hostError .dangerousKey (js "Dangerous JSON object key: " ++ key))

/-- `count += 1`. -/
def countValue (limit : JsonBudgets) : Snapshot := fun totals => do
  check (totals.count + 1 ≤ limit.maximumValues)
    (hostError .budgetExceeded (js "JSON value count exceeds budget"))
  .ok { totals with count := totals.count + 1 }

def consumeBytes (limit : JsonBudgets) (amount : Nat) : Snapshot :=
  fun totals => do
    check (totals.usedBytes + amount ≤ limit.maximumBytes)
      (hostError .budgetExceeded (js "JSON value exceeds byte budget"))
    .ok { totals with usedBytes := totals.usedBytes + amount }

/-- The checks of an object at a depth that has so many own properties. -/
def enterObject (limit : JsonBudgets) (depth properties : Nat) :
    Except AgentProtocolError Unit := do
  check (depth < limit.maximumDepth)
    (hostError .budgetExceeded (js "JSON nesting depth exceeds budget"))
  check (properties ≤ limit.maximumValues + 1)
    (hostError .unsafeValue (js "JSON value cannot be inspected safely"))

/-- A string or a key: its own bytes, then those of its JSON form. -/
def checkText (limit : JsonBudgets) (text : JsString) (message : String) :
    Except AgentProtocolError Unit :=
  check (utf8ByteLengthAtMost text limit.maximumStringBytes ≤
      limit.maximumStringBytes)
    (hostError .budgetExceeded (js message))

mutual

/--
`copy` of a value at a depth.  The copy has the data of the value, so the walk
only answers what it has counted.
-/
def copy (format : NumberFormat) (limit : JsonBudgets) :
    JsValue → Nat → Snapshot
  | .null, _, totals => do
      let counted ← countValue limit totals
      consumeBytes limit 4 counted
  | .bool value, _, totals => do
      let counted ← countValue limit totals
      consumeBytes limit (if value then 4 else 5) counted
  | .string text, _, totals => do
      let counted ← countValue limit totals
      checkText limit text "JSON string exceeds byte budget"
      consumeBytes limit
        (jsonStringBytesAtMost text (limit.maximumBytes - counted.usedBytes))
        counted
  | .number number, _, totals => do
      let counted ← countValue limit totals
      match format.jsonText number with
      | none =>
          .error (hostError .unsafeValue (js "JSON number must be finite"))
      | some serialized =>
          check (serialized.length ≤ limit.maximumNumberCharacters)
            (hostError .budgetExceeded
              (js "JSON number exceeds character budget"))
          consumeBytes limit
            (utf8ByteLengthAtMost serialized JsNumber.maxSafeInteger) counted
  | .array items, depth, totals => do
      let counted ← countValue limit totals
      enterObject limit depth (items.length + 1)
      check (items.length ≤ limit.maximumArrayLength)
        (hostError .budgetExceeded (js "JSON array length exceeds budget"))
      let opened ← consumeBytes limit 2 counted
      copyItems format limit true items (depth + 1) opened
  | .object entries, depth, totals => do
      let counted ← countValue limit totals
      enterObject limit depth entries.length
      let opened ← consumeBytes limit 2 counted
      copyEntries format limit true entries (depth + 1) opened
  | .undefined, _, totals => do
      let _ ← countValue limit totals
      .error (hostError .unsafeValue (js "Value is not JSON-compatible"))
  | .exotic, _, totals => do
      let _ ← countValue limit totals
      .error (hostError .unsafeValue (js "Value is not JSON-compatible"))

/-- The items of an array; all but the first come after a separator. -/
def copyItems (format : NumberFormat) (limit : JsonBudgets) (first : Bool) :
    List JsValue → Nat → Snapshot
  | [], _, totals => .ok totals
  | item :: rest, depth, totals => do
      let separated ←
        if first then .ok totals else consumeBytes limit 1 totals
      let copied ← copy format limit item depth separated
      copyItems format limit false rest depth copied

/-- The properties of an object. -/
def copyEntries (format : NumberFormat) (limit : JsonBudgets) (first : Bool) :
    Record → Nat → Snapshot
  | [], _, totals => .ok totals
  | (key, value) :: rest, depth, totals => do
      assertSafeKey key
      checkText limit key "JSON object key exceeds byte budget"
      let named ←
        consumeBytes limit
          (jsonStringBytesAtMost key (limit.maximumBytes - totals.usedBytes) +
            1 + (if first then 0 else 1))
          totals
      let copied ← copy format limit value depth named
      copyEntries format limit false rest depth copied

end

def snapshotJsonValue (format : NumberFormat) (limit : JsonBudgets)
    (value : JsValue) : Except AgentProtocolError JsValue := do
  let _ ← copy format limit value 0 ⟨0, 0⟩
  pure value

def snapshotRecord (format : NumberFormat) (value : JsValue) (field : String) :
    Except AgentProtocolError Record := do
  match ← snapshotJsonValue format defaultJsonBudgets value with
  | .object entries => .ok entries
  | _ => .error (invalid (field ++ " must be a JSON object"))

/-- The text of a string. -/
def textOf : JsValue → Option JsString
  | .string text => some text
  | _ => none

/-- A string that passes a check. -/
def requireText (value : JsValue) (valid : JsString → Bool) (message : String) :
    Except AgentProtocolError JsString :=
  match textOf value with
  | some text => do
      check (valid text = true) (invalid message)
      pure text
  | none => .error (invalid message)

def snapshotCapabilities (format : NumberFormat) (value : JsValue)
    (field : String) : Except AgentProtocolError (List JsString) := do
  let message :=
    field ++ " must contain at most 128 unique valid capabilities"
  match ← snapshotJsonValue format defaultJsonBudgets value with
  | .array items =>
      match items.mapM textOf with
      | some capabilities => do
          check (items.length ≤ maxCapabilities ∧
              capabilities.all isCapability = true ∧ capabilities.Nodup)
            (invalid message)
          pure capabilities
      | none => .error (invalid message)
  | _ => .error (invalid message)

/-! ## Envelopes -/

structure EnvelopeBase where
  messageId : JsString
  sentAt : JsString

/-- The body of an envelope, which its kind decides. -/
inductive EnvelopeBody where
  | hello (capabilities : List JsString) (implementation : Option JsString)
  | request (requestId operation : JsString) (input : Record)
  | event (requestId event : JsString) (output : Option Record)
  | cancel (requestId : JsString)
  | error (requestId : Option JsString) (code message : JsString)
      (retryable : Option Bool)

structure AgentEnvelope where
  base : EnvelopeBase
  body : EnvelopeBody

def AgentEnvelope.messageId (envelope : AgentEnvelope) : JsString :=
  envelope.base.messageId

/-- A value as it reaches validation. -/
inductive Candidate where
  /-- A value without brand. -/
  | unknown (value : JsValue)
  /-- What an earlier validation has returned. -/
  | validated (envelope : AgentEnvelope)

def requiredBase (value : Record) : Except AgentProtocolError EnvelopeBase := do
  check (IsText (value.get (js "protocolVersion")) (js "1.0"))
    (hostError .unsupportedVersion (js "Unsupported protocol version"))
  let messageId ←
    requireText (value.get (js "messageId")) isIdentifier
      "messageId must be a valid identifier"
  let sentAt ←
    requireText (value.get (js "sentAt")) isDateTime
      "sentAt must be an RFC 3339 date-time"
  pure ⟨messageId, sentAt⟩

def helloBody (format : NumberFormat) (record : Record) :
    Except AgentProtocolError EnvelopeBody := do
  let capabilities ←
    snapshotCapabilities format (record.get (js "capabilities"))
      "hello.capabilities"
  match record.get (js "implementation") with
  | .undefined => pure (.hello capabilities none)
  | .string implementation => pure (.hello capabilities (some implementation))
  | _ => .error (invalid "hello.implementation must be a string")

def requestBody (format : NumberFormat) (record : Record) :
    Except AgentProtocolError EnvelopeBody := do
  let requestId ←
    requireText (record.get (js "requestId")) isIdentifier
      "request.requestId must be a valid identifier"
  let operation ←
    requireText (record.get (js "operation")) isCapability
      "request.operation must be a capability"
  let input ← snapshotRecord format (record.get (js "input")) "request.input"
  pure (.request requestId operation input)

def eventBody (format : NumberFormat) (record : Record) :
    Except AgentProtocolError EnvelopeBody := do
  let requestId ←
    requireText (record.get (js "requestId")) isIdentifier
      "event.requestId must be a valid identifier"
  let event ←
    requireText (record.get (js "event")) isCapability
      "event.event must be a capability-like event name"
  match record.get (js "output") with
  | .undefined => pure (.event requestId event none)
  | output => do
      let output ← snapshotRecord format output "event.output"
      pure (.event requestId event (some output))

def cancelBody (record : Record) : Except AgentProtocolError EnvelopeBody := do
  let requestId ←
    requireText (record.get (js "requestId")) isIdentifier
      "cancel.requestId must be a valid identifier"
  pure (.cancel requestId)

def errorBody (record : Record) : Except AgentProtocolError EnvelopeBody := do
  let requestId ←
    match record.get (js "requestId") with
    | .undefined => pure none
    | value => do
        let requestId ←
          requireText value isIdentifier
            "error.requestId must be a valid identifier when provided"
        pure (some requestId)
  let code ←
    requireText (record.get (js "code")) isErrorCode
      "error.code must be an uppercase error code"
  let message ←
    requireText (record.get (js "message"))
      (fun message => decide
        (utf8ByteLengthAtMost message JsNumber.maxSafeInteger ≤ 4096))
      "error.message must be a string up to 4096 bytes"
  match record.get (js "retryable") with
  | .undefined => pure (.error requestId code message none)
  | .bool retryable => pure (.error requestId code message (some retryable))
  | _ => .error (invalid "error.retryable must be a boolean when provided")

/-- The envelope in the record of a snapshot. -/
def readEnvelope (format : NumberFormat) (record : Record) :
    Except AgentProtocolError AgentEnvelope := do
  let base ← requiredBase record
  let kind := record.get (js "kind")
  let body ←
    if IsText kind (js "hello") then helloBody format record
    else if IsText kind (js "request") then requestBody format record
    else if IsText kind (js "event") then eventBody format record
    else if IsText kind (js "cancel") then cancelBody record
    else if IsText kind (js "error") then errorBody record
    else .error (invalid "Unknown message kind")
  pure ⟨base, body⟩

def validateEnvelope (format : NumberFormat) :
    Candidate → Except AgentProtocolError AgentEnvelope
  | .validated envelope => .ok envelope
  | .unknown value => do
      let record ← snapshotRecord format value "Envelope"
      readEnvelope format record

/-- The message id and the capabilities of a hello. -/
def validateHello (format : NumberFormat) (value : Candidate) :
    Except AgentProtocolError (JsString × List JsString) := do
  let envelope ← validateEnvelope format value
  match envelope.body with
  | .hello capabilities _ => pure (envelope.messageId, capabilities)
  | _ => .error (invalid "Expected hello envelope")

/-- The envelope of an event, with its request and its name. -/
structure EventEnvelope where
  envelope : AgentEnvelope
  requestId : JsString
  event : JsString

def validateEventEnvelope (format : NumberFormat) (value : Candidate) :
    Except AgentProtocolError EventEnvelope := do
  let envelope ← validateEnvelope format value
  match envelope.body with
  | .event requestId event _ => pure ⟨envelope, requestId, event⟩
  | _ => .error (invalid "Expected event envelope")

end Selene.Agent
