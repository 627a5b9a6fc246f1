import Selene.AgentFrames
import Selene.LoggedMachine

/-!
# Validated event streams

`streamValidatedEvents` is an asynchronous generator between an adapter and a
consumer.  It is modelled as a machine: an input is what the consumer asks or
how a provider call settled, and an answer says which provider calls were
started and what the consumer was told.  Inputs that do not fit the state are
not taken, so a list of inputs is any interleaving of the two partners.
-/

namespace Selene.Agent

open Js

def maxAdapterEvents : Nat := 1024

def maxAdapterStreamBytes : Nat := maxJsonlLineBytes

/-! ## What is thrown -/

/-- What code under a `try` can throw. -/
inductive Thrown where
  /-- A protocol error that the module itself has made. -/
  | trusted (error : AgentProtocolError)
  | foreign

def normalizeAdapterError : AgentProtocolError :=
  hostError .adapterFailure (js "Agent adapter failed")

/-- The `catch` of the generator. -/
def caught : Thrown → AgentProtocolError
  | .trusted error => error
  | .foreign => normalizeAdapterError

inductive AgentProviderRuntimeErrorCode where
  | callerAborted
  | deadlineExceeded
  | effectFailed
  | ownerCapacityReached
  | ownerQuarantined
  | processCapacityReached
  deriving DecidableEq

/-- Why a provider call was rejected. -/
inductive EffectFailure where
  /-- An outcome that the runtime has issued. -/
  | issued (code : AgentProviderRuntimeErrorCode)
  | other

def runtimeOutcome : EffectFailure → AgentProtocolError
  | .issued .callerAborted =>
      hostError .cancelled (js "Agent provider call was cancelled")
  | .issued .deadlineExceeded =>
      hostError .budgetExceeded (js "Agent provider call exceeded its deadline")
  | .issued .ownerCapacityReached =>
      hostError .budgetExceeded
        (js "Agent provider runtime admission is unavailable")
  | .issued .ownerQuarantined =>
      hostError .budgetExceeded
        (js "Agent provider runtime admission is unavailable")
  | .issued .processCapacityReached =>
      hostError .budgetExceeded
        (js "Agent provider runtime admission is unavailable")
  | .issued .effectFailed =>
      hostError .adapterFailure (js "Agent provider call failed")
  | .other => normalizeAdapterError

/-! ## Values of the adapter -/

/-- What `safeMethod` finds. -/
inductive MethodLookup where
  | missing
  | present
  /-- A lookup that is refused, in these words. -/
  | refused (message : JsString)

/-- What the iterator factory of a stream does. -/
inductive MadeIterator where
  | throws
  | notObject
  | object (next close : MethodLookup)

/-- What the stream method of an adapter returns. -/
inductive AdapterStream where
  | notObject
  | object (factory : MethodLookup) (iterator : MadeIterator)

/-- What the next method of an iterator returns. -/
inductive AdapterResult where
  | notObject
  /-- An object whose inspection throws before anything is decided. -/
  | revoked
  | foreignPrototype
  | uninspectable
  /-- Its own properties; an accessor has no value. -/
  | object (fields : List (JsString × Option Candidate))

/-- A validated iterator result: the end, or a value. -/
inductive IteratorResult where
  | done
  | value (candidate : Candidate)

/-- A field of an iterator result. -/
def fieldOf (fields : List (JsString × Option Candidate)) (name : String) :
    Option (Option Candidate) :=
  (fields.find? fun field => field.1 = js name).map Prod.snd

def validateField (field : JsString × Option Candidate) :
    Except AgentProtocolError Unit := do
  check (field.1 = js "done" ∨ field.1 = js "value")
    (invalid "Adapter iterator result contains an unknown field")
  check field.2.isSome
    (invalid "Adapter iterator result must contain data properties")

/-- The checks of the fields of an iterator result, one field after the other. -/
def validateFields (fields : List (JsString × Option Candidate)) :
    Except AgentProtocolError IteratorResult := do
  check (fields.length ≤ 2)
    (hostError .unsafeValue
      (js "Adapter iterator result contains too many fields"))
  fields.forM validateField
  match fieldOf fields "done" with
  | some (some (.unknown (.bool true))) => .ok .done
  | some (some (.unknown (.bool false))) =>
      match fieldOf fields "value" with
      | some (some candidate) => .ok (.value candidate)
      | _ => .error (invalid "Adapter iterator result.value must be data")
  | _ => .error (invalid "Adapter iterator result.done must be data boolean")

def validateIteratorResult : AdapterResult → Except Thrown IteratorResult
  | .notObject =>
      .error (.trusted (invalid "Adapter iterator returned an invalid result"))
  | .revoked => .error .foreign
  | .foreignPrototype =>
      .error (.trusted
        (invalid "Adapter iterator result must have a plain prototype"))
  | .uninspectable =>
      .error (.trusted (hostError .unsafeValue
        (js "Adapter iterator result cannot be inspected safely")))
  | .object fields => (validateFields fields).mapError .trusted

/-- A method that has to be there. -/
def requireMethod (lookup : MethodLookup) (message : String) :
    Except Thrown Unit :=
  match lookup with
  | .present => .ok ()
  | .missing => .error (.trusted (invalid message))
  | .refused words => .error (.trusted (hostError .unsafeValue words))

/-- The iterator of a stream: whether it has a cleanup method. -/
def openIterator : AdapterStream → Except Thrown Bool
  | .notObject => .error (.trusted (invalid "Adapter stream is not iterable"))
  | .object factory iterator => do
      requireMethod factory "Adapter stream is not async iterable"
      match iterator with
      | .throws => .error .foreign
      | .notObject =>
          .error (.trusted (invalid "Adapter iterator is not an object"))
      | .object next close => do
          requireMethod next "Adapter iterator has no next method"
          match close with
          | .present => .ok true
          | .missing => .ok false
          | .refused words => .error (.trusted (hostError .unsafeValue words))

/-! ## Arguments -/

/-- What validation has made of the arguments. -/
structure StreamArguments where
  requestId : JsString
  capability : JsString
  adapterCapabilities : List JsString
  /-- Whether the adapter has an effect owner. -/
  owned : Bool

/-- The checks before the first provider call. -/
def prepareStream (given : Except AgentProtocolError StreamArguments) :
    Except AgentProtocolError StreamArguments := do
  let arguments ← given
  check (arguments.owned = true)
    (hostError .adapterFailure (js "Adapter effect owner is unavailable"))
  check (arguments.capability ∈ arguments.adapterCapabilities)
    (hostError .invalidEnvelope
      (js "Adapter does not declare capability: " ++ arguments.capability))
  pure arguments

/-! ## The generator -/

structure StreamProgress where
  events : Nat
  bytes : Nat

inductive ProviderCall where
  | stream
  | next
  | cleanup
  deriving DecidableEq

/-- What a consumer is told. -/
inductive ConsumerAnswer where
  | yielded (event : EventEnvelope)
  /-- The generator has run to its end. -/
  | finished
  /-- The consumer has stopped the generator. -/
  | stopped
  | threw (thrown : Thrown)
  /-- The generator had ended before. -/
  | ended

structure StreamAnswer where
  called : List ProviderCall
  told : Option ConsumerAnswer

/-- What reaches the generator. -/
inductive StreamInput where
  /-- The consumer asks for the next event. -/
  | resume
  /-- The consumer stops the generator. -/
  | stop
  /-- The consumer throws into the generator. -/
  | raise (thrown : Thrown)
  /-- The call of the stream method settles. -/
  | streamed (result : Except EffectFailure AdapterStream)
  /-- The call of the next method settles. -/
  | produced (result : Except EffectFailure AdapterResult)

inductive StreamState where
  | start
  | opening (requestId : JsString)
  | reading (requestId : JsString) (progress : StreamProgress) (closes : Bool)
  /-- One more result is read before a terminal event is yielded. -/
  | trailing (event : EventEnvelope) (closes : Bool)
  | yielded (requestId : JsString) (progress : StreamProgress) (closes : Bool)
  | yieldedLast
  | ended

/-- The input is not taken. -/
def silence : StreamAnswer :=
  ⟨[], none⟩

/-- The `finally` of a generator that has not finished. -/
def cleanup (closes : Bool) : List ProviderCall :=
  if closes then [.cleanup] else []

/-- The generator throws what it has caught. -/
def throws (closes : Bool) (thrown : Thrown) : StreamState × StreamAnswer :=
  (.ended, ⟨cleanup closes, some (.threw (.trusted (caught thrown)))⟩)

def EventEnvelope.IsTerminal (event : EventEnvelope) : Prop :=
  event.event = js "completed" ∨ event.event = js "cancelled"

instance (event : EventEnvelope) : Decidable event.IsTerminal :=
  inferInstanceAs (Decidable (_ ∨ _))

/-- The bytes of the frame of an event. -/
def frameBytes (frame : JsString) : Nat :=
  utf8ByteLengthAtMost frame JsNumber.maxSafeInteger

/-- The checks of a value, and the progress after it. -/
def admitEvent (format : NumberFormat) (requestId : JsString)
    (progress : StreamProgress) (candidate : Candidate) :
    Except AgentProtocolError (StreamProgress × EventEnvelope) := do
  let events := progress.events + 1
  check (events ≤ maxAdapterEvents)
    (hostError .budgetExceeded (js "Adapter event budget exceeded"))
  let event ← validateEventEnvelope format candidate
  check (event.requestId = requestId)
    (invalid "Adapter event does not belong to the active request")
  let frame ← encodeJsonlEnvelope format (.validated event.envelope)
  let bytes := progress.bytes + frameBytes frame
  check (bytes ≤ maxAdapterStreamBytes)
    (hostError .budgetExceeded (js "Adapter byte budget exceeded"))
  pure (⟨events, bytes⟩, event)

/-- A settled call of the next method. -/
def settledResult (result : Except EffectFailure AdapterResult) :
    Except Thrown IteratorResult :=
  match result with
  | .error failure => .error (.trusted (runtimeOutcome failure))
  | .ok value => validateIteratorResult value

/-- One input of the generator. -/
def streamStep (format : NumberFormat)
    (given : Except AgentProtocolError StreamArguments) :
    StreamState → StreamInput → StreamState × StreamAnswer
  | .start, .resume =>
      match prepareStream given with
      | .error error => (.ended, ⟨[], some (.threw (.trusted error))⟩)
      | .ok arguments => (.opening arguments.requestId, ⟨[.stream], none⟩)
  | .start, .stop => (.ended, ⟨[], some .stopped⟩)
  | .start, .raise thrown => (.ended, ⟨[], some (.threw thrown)⟩)
  | .opening _, .streamed (.error failure) =>
      throws false (.trusted (runtimeOutcome failure))
  | .opening requestId, .streamed (.ok stream) =>
      match openIterator stream with
      | .error thrown => throws false thrown
      | .ok closes => (.reading requestId ⟨0, 0⟩ closes, ⟨[.next], none⟩)
  | .reading requestId progress closes, .produced result =>
      match settledResult result with
      | .error thrown => throws closes thrown
      | .ok .done =>
          throws closes (.trusted
            (invalid "Adapter stream ended without a terminal event"))
      | .ok (.value candidate) =>
          match admitEvent format requestId progress candidate with
          | .error error => throws closes (.trusted error)
          | .ok (next, event) =>
              if event.IsTerminal then
                (.trailing event closes, ⟨[.next], none⟩)
              else
                (.yielded requestId next closes, ⟨[], some (.yielded event)⟩)
  | .trailing event closes, .produced result =>
      match settledResult result with
      | .error thrown => throws closes thrown
      | .ok .done => (.yieldedLast, ⟨[], some (.yielded event)⟩)
      | .ok (.value _) =>
          throws closes (.trusted
            (invalid "Adapter emitted output after terminal event"))
  | .yielded requestId progress closes, .resume =>
      (.reading requestId progress closes, ⟨[.next], none⟩)
  | .yielded _ _ closes, .stop => (.ended, ⟨cleanup closes, some .stopped⟩)
  | .yielded _ _ closes, .raise thrown => throws closes thrown
  | .yieldedLast, .resume => (.ended, ⟨[], some .finished⟩)
  | .yieldedLast, .stop => (.ended, ⟨[], some .stopped⟩)
  | .yieldedLast, .raise thrown => throws false thrown
  | .ended, .resume => (.ended, ⟨[], some .ended⟩)
  | .ended, .stop => (.ended, ⟨[], some .ended⟩)
  | .ended, .raise thrown => (.ended, ⟨[], some (.threw thrown)⟩)
  | state, _ => (state, silence)

end Selene.Agent
