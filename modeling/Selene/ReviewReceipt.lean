import Selene.CollaborationValidation

/-!
# Review receipts

A review mutation carries an operation identifier, and the repository keeps a
receipt of each one it applied.  The fingerprint of a receipt is a canonical
text of the request without its operation identifier and times; a retry is
recognised by it.

The text is that of a JSON document whose names are in locale order, so it
determines the kind of the request, the version that it expects and the thread
that it is about.
-/

namespace Selene.Collaboration

open Js

/-! ## Mutations -/

inductive ReviewThreadMutation where
  | create (operationId : JsString) (expectedVersion : OwnNumber)
      (thread : ReviewThread)
  | reply (operationId : JsString) (expectedVersion : OwnNumber)
      (threadId : JsString) (message : ReviewThreadMessage)
  | resolve (operationId : JsString) (expectedVersion : OwnNumber)
      (threadId actorId occurredAt : JsString)
  | reopen (operationId : JsString) (expectedVersion : OwnNumber)
      (threadId actorId occurredAt : JsString)

namespace ReviewThreadMutation

def kind : ReviewThreadMutation → JsString
  | .create .. => js "create"
  | .reply .. => js "reply"
  | .resolve .. => js "resolve"
  | .reopen .. => js "reopen"

def operationId : ReviewThreadMutation → JsString
  | .create operationId _ _ => operationId
  | .reply operationId _ _ _ => operationId
  | .resolve operationId _ _ _ _ => operationId
  | .reopen operationId _ _ _ _ => operationId

def expectedVersion : ReviewThreadMutation → OwnNumber
  | .create _ expectedVersion _ => expectedVersion
  | .reply _ expectedVersion _ _ => expectedVersion
  | .resolve _ expectedVersion _ _ _ => expectedVersion
  | .reopen _ expectedVersion _ _ _ => expectedVersion

/-- The thread that a mutation is about. -/
def threadId : ReviewThreadMutation → JsString
  | .create _ _ thread => thread.id
  | .reply _ _ threadId _ => threadId
  | .resolve _ _ threadId _ _ => threadId
  | .reopen _ _ threadId _ _ => threadId

def toJs (mutation : ReviewThreadMutation) : JsValue :=
  .object (Record.ofFields (
    [textField "kind" mutation.kind,
      textField "operationId" mutation.operationId,
      numberField "expectedVersion" mutation.expectedVersion] ++
    match mutation with
    | .create _ _ thread => [(js "thread", some thread.toJs)]
    | .reply _ _ threadId message =>
        [textField "threadId" threadId, (js "message", some message.toJs)]
    | .resolve _ _ threadId actorId occurredAt =>
        [textField "threadId" threadId, textField "actorId" actorId,
          textField "occurredAt" occurredAt]
    | .reopen _ _ threadId actorId occurredAt =>
        [textField "threadId" threadId, textField "actorId" actorId,
          textField "occurredAt" occurredAt]))

end ReviewThreadMutation

/-! ## Receipt budgets -/

def maxReviewReceiptBytes : Nat := 256 * 1024
def maxReviewReceiptKeyBytes : Nat := 256
def maxReviewReceiptStringBytes : Nat := 64 * 1024
def maxReviewReceiptItems : Nat := 1000
def maxReviewReceiptDepth : Nat := 32

def invalidReviewOperation : CollaborationError :=
  invalid (js "Review operation is invalid")

/-- Charge bytes. -/
def addReceiptBytes (bytes : Nat) (totals : Totals) : Option Totals :=
  if totals.bytes + bytes ≤ maxReviewReceiptBytes then
    some { totals with bytes := totals.bytes + bytes }
  else
    none

/-- Charge an object or array with so many own names. -/
def addReceiptNode (names : Nat) (totals : Totals) : Option Totals :=
  if totals.nodes + 1 ≤ collaborationBudgets.maxNodes ∧
      names ≤ maxReviewReceiptItems then
    some { totals with nodes := totals.nodes + 1 }
  else
    none

/-- Charge a name. -/
def addReceiptName (name : JsString) (totals : Totals) : Option Totals :=
  if utf8Length name ≤ maxReviewReceiptKeyBytes then
    addReceiptBytes (utf8Length name) totals
  else
    none

mutual

/-- The budget pass over a value; `none` refuses it. -/
def preflightReviewReceiptValue (host : Host) :
    JsValue → Nat → Totals → Option Totals
  | .undefined, _, _ => none
  | .exotic, _, _ => none
  | .null, depth, totals =>
      if depth ≤ maxReviewReceiptDepth then addReceiptBytes 4 totals
      else none
  | .bool value, depth, totals =>
      if depth ≤ maxReviewReceiptDepth then
        addReceiptBytes (if value then 4 else 5) totals
      else
        none
  | .number value, depth, totals =>
      if depth ≤ maxReviewReceiptDepth then
        (host.numbers.jsonText value).bind fun text =>
          addReceiptBytes (utf8Length text) totals
      else
        none
  | .string value, depth, totals =>
      if depth ≤ maxReviewReceiptDepth ∧
          utf8Length value ≤ maxReviewReceiptStringBytes then
        addReceiptBytes (utf8Length value) totals
      else
        none
  | .array items, depth, totals =>
      if depth ≤ maxReviewReceiptDepth then
        (addReceiptNode (items.length + 1) totals).bind fun entered =>
          preflightItems host 0 items (depth + 1) entered
      else
        none
  | .object entries, depth, totals =>
      if depth ≤ maxReviewReceiptDepth then
        (addReceiptNode entries.length totals).bind fun entered =>
          preflightEntries host entries (depth + 1) entered
      else
        none

/-- The budget pass over the items of an array from an index on. -/
def preflightItems (host : Host) (index : Nat) :
    List JsValue → Nat → Totals → Option Totals
  | [], _, totals => some totals
  | item :: rest, depth, totals =>
      (addReceiptName (decimalDigits index) totals).bind fun named =>
        (preflightReviewReceiptValue host item depth named).bind
          fun charged => preflightItems host (index + 1) rest depth charged

/-- The budget pass over the properties of an object. -/
def preflightEntries (host : Host) :
    Record → Nat → Totals → Option Totals
  | [], _, totals => some totals
  | (name, value) :: rest, depth, totals =>
      if name = js "length" then
        preflightEntries host rest depth totals
      else
        (addReceiptName name totals).bind fun named =>
          (preflightReviewReceiptValue host value depth named).bind
            fun charged => preflightEntries host rest depth charged

end

/-! ## Normalisation -/

/-- Names in locale order. -/
def sortNames {α : Type} (host : Host) (nameOf : α → JsString)
    (items : List α) : List α :=
  items.insertionSort fun first second =>
    host.localeCompare (nameOf first) (nameOf second) ≠ .gt

/-- The own names are exactly these. -/
def exactKeys (host : Host) (record : Record) (keys : List JsString) :
    Bool :=
  decide (sortNames host id record.keys = sortNames host id keys)

/-- A text with between one and so many units. -/
def isBoundedText (value : JsValue) (max : Nat) : Bool :=
  match value with
  | .string text => decide (text ≠ [] ∧ text.length ≤ max)
  | _ => false

/-- A natural number that `Number.isSafeInteger` accepts. -/
def versionOf (value : JsValue) : Option Nat :=
  match value with
  | .number number =>
      match number.safeInteger? with
      | some (.ofNat version) => some version
      | _ => none
  | _ => none

/-- The properties of an object that is neither `null` nor an array. -/
def recordOf (value : JsValue) : Option Record :=
  match value with
  | .object entries => some entries
  | _ => none

def isArray (value : JsValue) : Bool :=
  match value with
  | .array _ => true
  | _ => false

/-- The checks that a captured mutation of each kind passes. -/
def isReviewMutation (host : Host) (record : Record) : Bool :=
  let threadId := isBoundedText (record.get (js "threadId")) maxIdentifier
  let ofKind (kind : String) : Bool :=
    match record.get (js "kind") with
    | .string text => decide (text = js kind)
    | _ => false
  if ofKind "create" then
    exactKeys host record
        [js "expectedVersion", js "kind", js "operationId", js "thread"] &&
      decide (versionOf (record.get (js "expectedVersion")) = some 0) &&
      (match recordOf (record.get (js "thread")) with
      | some thread => isArray (thread.get (js "messages"))
      | none => false)
  else if ofKind "reply" then
    exactKeys host record
        [js "expectedVersion", js "kind", js "message", js "operationId",
          js "threadId"] &&
      threadId && (recordOf (record.get (js "message"))).isSome
  else if ofKind "resolve" || ofKind "reopen" then
    exactKeys host record
        [js "actorId", js "expectedVersion", js "kind", js "occurredAt",
          js "operationId", js "threadId"] &&
      threadId && isBoundedText (record.get (js "actorId")) maxIdentifier &&
      isBoundedText (record.get (js "occurredAt")) maxTimestamp
  else
    false

/-- The captured mutation. -/
def normalizeReviewThreadMutation (host : Host) (input : JsValue) :
    Checked Record :=
  if (preflightReviewReceiptValue host input 0 .zero).isSome ∧
      collaborationBudgets.Admits input then
    match recordOf (inertCopy input) with
    | none => .error invalidReviewOperation
    | some record =>
        if isBoundedText (record.get (js "operationId")) 256 = true ∧
            (versionOf (record.get (js "expectedVersion"))).isSome ∧
            isReviewMutation host record = true then
          .ok record
        else
          .error invalidReviewOperation
  else
    .error invalidReviewOperation

/-! ## The fingerprint -/

/-- `{...value}` -/
def spread : JsValue → Record
  | .object entries => entries
  | .array items =>
      items.mapIdx fun index item => (decimalDigits index, item)
  | .string text =>
      text.mapIdx fun index unit => (decimalDigits index, .string [unit])
  | _ => []

/-- `{...value, createdAt: ''}` -/
def withoutTime (value : JsValue) : Record :=
  (spread value).define (js "createdAt") (.string [])

/-- The messages of a thread without their times. -/
def messagesWithoutTime : JsValue → JsValue
  | .array messages =>
      .array (messages.map fun message => .object (withoutTime message))
  | other => other

/-- What a fingerprint is taken of. -/
def receiptPayload (mutation : Record) : JsValue :=
  let kind := mutation.get (js "kind")
  let head : Record :=
    [(js "kind", kind),
      (js "expectedVersion", mutation.get (js "expectedVersion"))]
  let threadId := (js "threadId", mutation.get (js "threadId"))
  match kind with
  | .string text =>
      if text = js "create" then
        let thread := mutation.get (js "thread")
        .object (head ++ [(js "thread",
          .object ((withoutTime thread).define (js "messages")
            (messagesWithoutTime ((spread thread).get (js "messages")))))])
      else if text = js "reply" then
        .object (head ++ [threadId,
          (js "message",
            .object (withoutTime (mutation.get (js "message"))))])
      else
        .object (head ++ [threadId,
          (js "actorId", mutation.get (js "actorId"))])
  | _ =>
      .object (head ++ [threadId,
        (js "actorId", mutation.get (js "actorId"))])

/-- The running totals and the text written so far. -/
structure ReceiptState where
  bytes : Nat
  nodes : Nat
  text : JsString

/-- A part of the encoding; `none` refuses the value. -/
abbrev ReceiptEncoder := ReceiptState → Option ReceiptState

/-- Write a chunk and charge its bytes. -/
def push (chunk : JsString) : ReceiptEncoder := fun state =>
  if state.bytes + utf8Length chunk ≤ maxReviewReceiptBytes then
    some { state with
      bytes := state.bytes + utf8Length chunk
      text := state.text ++ chunk }
  else
    none

/-- Charge an object or array with so many children. -/
def pushNode (children : Nat) : ReceiptEncoder := fun state =>
  if state.nodes + 1 ≤ collaborationBudgets.maxNodes ∧
      children ≤ maxReviewReceiptItems then
    some { state with nodes := state.nodes + 1 }
  else
    none

/-- The separator before a child that is not the first. -/
def pushSeparator (first : Bool) : ReceiptEncoder := fun state =>
  if first then some state else push [0x2C] state

/-- Encode the items of an array in order. -/
def pushItems (first : Bool) : List ReceiptEncoder → ReceiptEncoder
  | [], state => some state
  | item :: rest, state =>
      (pushSeparator first state).bind fun separated =>
        (item separated).bind fun written => pushItems false rest written

/-- Encode the entries of an object in the given order. -/
def pushEntries (first : Bool) :
    List (JsString × ReceiptEncoder) → ReceiptEncoder
  | [], state => some state
  | (name, value) :: rest, state =>
      if utf8Length name ≤ maxReviewReceiptKeyBytes then
        (pushSeparator first state).bind fun separated =>
          (push (quote name) separated).bind fun named =>
            (push [0x3A] named).bind fun opened =>
              (value opened).bind fun written =>
                pushEntries false rest written
      else
        none

mutual

/-- Encode a value at a depth. -/
def encode (host : Host) : JsValue → Nat → ReceiptEncoder
  | .undefined, _, _ => none
  | .exotic, _, _ => none
  | .null, depth, state =>
      if depth ≤ maxReviewReceiptDepth then push (js "null") state else none
  | .bool value, depth, state =>
      if depth ≤ maxReviewReceiptDepth then
        push (if value then js "true" else js "false") state
      else
        none
  | .number value, depth, state =>
      if depth ≤ maxReviewReceiptDepth then
        (host.numbers.jsonText value).bind fun text => push text state
      else
        none
  | .string value, depth, state =>
      if depth ≤ maxReviewReceiptDepth ∧
          utf8Length value ≤ maxReviewReceiptStringBytes then
        push (quote value) state
      else
        none
  | .array items, depth, state =>
      if depth ≤ maxReviewReceiptDepth then
        (pushNode items.length state).bind fun charged =>
          (push [0x5B] charged).bind fun opened =>
            (pushItems true (encodeItems host items (depth + 1))
              opened).bind fun written => push [0x5D] written
      else
        none
  | .object entries, depth, state =>
      if depth ≤ maxReviewReceiptDepth then
        (pushNode entries.length state).bind fun charged =>
          (push [0x7B] charged).bind fun opened =>
            (pushEntries true
              (sortNames host Prod.fst
                (encodeEntries host entries (depth + 1)))
              opened).bind fun written => push [0x7D] written
      else
        none

/-- The encoders of the items. -/
def encodeItems (host : Host) : List JsValue → Nat → List ReceiptEncoder
  | [], _ => []
  | item :: rest, depth =>
      encode host item depth :: encodeItems host rest depth

/-- The encoders of the entries, with their names. -/
def encodeEntries (host : Host) :
    Record → Nat → List (JsString × ReceiptEncoder)
  | [], _ => []
  | (name, value) :: rest, depth =>
      (name, encode host value depth) :: encodeEntries host rest depth

end

def canonicalReviewThreadMutationFingerprint (host : Host)
    (input : JsValue) : Checked JsString := do
  let mutation ← normalizeReviewThreadMutation host input
  match encode host (receiptPayload mutation) 0 ⟨0, 0, []⟩ with
  | none => .error invalidReviewOperation
  | some state => .ok state.text

end Selene.Collaboration
