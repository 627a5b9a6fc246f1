import Selene.AgentEnvelope
import Selene.FailingState
import Selene.LoggedMachine

/-!
# Agent protocol sessions

A session registers outbound requests and accepts the frames of the peer.  It
remembers a bounded number of retired requests and of message ids.  A method
that throws keeps what it has written before, so that it leaves the session as
it was is a theorem (`rejected_unchanged`).

The log of a run says what every call was answered.  `Accounted` relates the
log so far to the session, and `session_run` reads the guarantees off it.
-/

namespace Selene.Agent

open Js

/-! ## The session -/

namespace EnvelopeBody

/-- The request of an inbound frame, if it has one. -/
def requestId? : EnvelopeBody → Option JsString
  | .event requestId _ _ => some requestId
  | .error requestId _ _ _ => requestId
  | _ => none

/-- The frame is the result of a request. -/
def IsCompleted : EnvelopeBody → Prop
  | .event _ name _ => name = js "completed"
  | _ => False

/-- The frame ends its request. -/
def IsTerminal : EnvelopeBody → Prop
  | .event _ name _ => name = js "completed" ∨ name = js "cancelled"
  | .error requestId _ _ _ => requestId.isSome = true
  | _ => False

end EnvelopeBody

inductive RequestState where
  | active
  | cancelling
  deriving DecidableEq

/-- A set and the order in which its values were added. -/
structure TrackedIds where
  values : List JsString
  order : List JsString
  deriving DecidableEq

structure AgentProtocolSession where
  localCapabilities : List JsString
  remoteCapabilities : List JsString
  helloAccepted : Bool
  closed : Bool
  -- A map, in no particular order.
  requests : List (JsString × RequestState)
  retiredRequests : TrackedIds
  messageIds : TrackedIds
  deriving DecidableEq

abbrev SessionAction (α : Type) :=
  FailingState AgentProtocolError AgentProtocolSession α

namespace AgentProtocolSession

def create (format : NumberFormat) (localCapabilities : JsValue) :
    Except AgentProtocolError AgentProtocolSession := do
  let capabilities ←
    snapshotCapabilities format localCapabilities "Local capabilities"
  pure ⟨capabilities, [], false, false, [], ⟨[], []⟩, ⟨[], []⟩⟩

/-- `requests.get(requestId)`. -/
def requestState (session : AgentProtocolSession) (requestId : JsString) :
    Option RequestState :=
  (session.requests.find? fun entry => entry.1 = requestId).map Prod.snd

/-- `requests.delete(requestId)`. -/
def deleteRequest (requestId : JsString)
    (requests : List (JsString × RequestState)) :
    List (JsString × RequestState) :=
  requests.filter fun entry => decide (entry.1 ≠ requestId)

/-- `requests.set(requestId, state)`. -/
def setRequest (requestId : JsString) (state : RequestState)
    (session : AgentProtocolSession) : AgentProtocolSession :=
  { session with
    requests := (requestId, state) :: deleteRequest requestId session.requests }

/-- `trackBounded`. -/
def trackBounded (tracked : TrackedIds) (value : JsString) : TrackedIds :=
  let values := if value ∈ tracked.values then tracked.values
    else tracked.values ++ [value]
  match tracked.order ++ [value] with
  | [] => ⟨values, []⟩
  | oldest :: later =>
      if maxInFlightRequests < (oldest :: later).length then
        ⟨values.filter fun other => decide (other ≠ oldest), later⟩
      else
        ⟨values, oldest :: later⟩

def trackMessageId (messageId : JsString) : SessionAction Unit :=
  .modify fun session =>
    { session with messageIds := trackBounded session.messageIds messageId }

def retireRequest (requestId : JsString) : SessionAction Unit := do
  .modify fun session =>
    { session with requests := deleteRequest requestId session.requests }
  .modify fun session =>
    { session with
      retiredRequests := trackBounded session.retiredRequests requestId }

/-- Fail unless a condition of the session holds. -/
def ensure (condition : AgentProtocolSession → Prop)
    [DecidablePred condition] (error : AgentProtocolError) :
    SessionAction Unit := do
  let holds ← FailingState.read fun session => decide (condition session)
  if holds then pure () else .fail error

def assertOpen : SessionAction Unit :=
  ensure (fun session => session.closed = false) (invalid "Session is closed")

/-- `supports(capability)`. -/
def Supports (capability : JsString) (session : AgentProtocolSession) : Prop :=
  session.closed = false ∧ isCapability capability = true ∧
    capability ∈ session.localCapabilities ∧
    capability ∈ session.remoteCapabilities

instance (capability : JsString) : DecidablePred (Supports capability) :=
  fun _ => inferInstanceAs (Decidable (_ ∧ _ ∧ _ ∧ _))

def assertNegotiated (capability : JsString) : SessionAction Unit := do
  assertOpen
  ensure (Supports capability) (invalid "Capability is not negotiated")

def acceptHello (format : NumberFormat) (hello : Candidate) :
    SessionAction Unit := do
  assertOpen
  ensure (fun session => session.helloAccepted = false)
    (invalid "Hello has already been accepted for this session")
  let valid ← FailingState.lift (validateHello format hello)
  .modify fun session => { session with remoteCapabilities := valid.2 }
  .modify fun session => { session with helloAccepted := true }
  trackMessageId valid.1

def beginRequest (requestId capability : JsString) : SessionAction Unit := do
  assertOpen
  ensure (fun _ => isIdentifier requestId = true)
    (invalid "requestId must be a valid identifier")
  assertNegotiated capability
  ensure (fun session => session.requests.length < maxInFlightRequests)
    (hostError .budgetExceeded (js "Too many tracked requests"))
  ensure
    (fun session => session.requestState requestId = none ∧
      requestId ∉ session.retiredRequests.values)
    (invalid "requestId has already been used")
  .modify (setRequest requestId .active)

def cancelRequest (requestId : JsString) : SessionAction Unit := do
  assertOpen
  ensure (fun session => session.requestState requestId = some .active)
    (invalid "Cannot cancel request")
  .modify (setRequest requestId .cancelling)

/-- An event or an error of a request. -/
def acceptFor (requestId : JsString) (envelope : AgentEnvelope) :
    SessionAction AgentEnvelope := do
  match ← FailingState.read fun session => session.requestState requestId with
  | none => .fail (invalid "Unknown or terminal requestId")
  | some state =>
      match envelope.body with
      | .event _ event _ =>
          ensure (fun _ => ¬ (state = .cancelling ∧ event = js "completed"))
            (invalid "Cancelled request completed")
          if event = js "completed" ∨ event = js "cancelled" then
            retireRequest requestId
          else pure ()
          trackMessageId envelope.messageId
          pure envelope
      | _ =>
          retireRequest requestId
          trackMessageId envelope.messageId
          pure envelope

/-- `acceptIncoming` of a validated envelope. -/
def acceptEnvelope (format : NumberFormat) (envelope : AgentEnvelope) :
    SessionAction AgentEnvelope := do
  ensure (fun session => envelope.messageId ∉ session.messageIds.values)
    (invalid "Duplicate messageId")
  match envelope.body with
  | .hello _ _ =>
      acceptHello format (.validated envelope)
      pure envelope
  | .request _ _ _ => .fail (invalid "Unexpected inbound frame")
  | .cancel _ => .fail (invalid "Unexpected inbound frame")
  | .error none _ _ _ =>
      trackMessageId envelope.messageId
      pure envelope
  | .error (some requestId) _ _ _ => acceptFor requestId envelope
  | .event requestId _ _ => acceptFor requestId envelope

def acceptIncoming (format : NumberFormat) (value : Candidate) :
    SessionAction AgentEnvelope := do
  assertOpen
  let envelope ← FailingState.lift (validateEnvelope format value)
  acceptEnvelope format envelope

def close : SessionAction Unit := do
  .modify fun session => { session with closed := true }
  .modify fun session => { session with requests := [] }
  .modify fun session => { session with remoteCapabilities := [] }

/-! ## What the methods do -/

section Methods

variable {session : AgentProtocolSession}

@[simp] theorem ensure_apply
    (condition : AgentProtocolSession → Prop)
    [DecidablePred condition]
    (error : AgentProtocolError)
    (session : AgentProtocolSession) :
    ensure condition error session =
      if condition session then (.ok (), session) else (.error error, session) := by
  rw [ensure, FailingState.bind_apply, FailingState.read_apply]
  by_cases holds : condition session
  · simp [holds]
  · simp [holds]

theorem ensure_bind
    {α : Type}
    (condition : AgentProtocolSession → Prop)
    [DecidablePred condition]
    (error : AgentProtocolError)
    (rest : SessionAction α)
    (session : AgentProtocolSession) :
    (ensure condition error >>= fun _ => rest) session =
      if condition session then rest session else (.error error, session) := by
  rw [FailingState.bind_apply, ensure_apply]
  by_cases holds : condition session
  · rw [if_pos holds, if_pos holds]
  · rw [if_neg holds, if_neg holds]

/-- What a method does: it fails and writes nothing, or has an effect. -/
def Does {α : Type} (action : SessionAction α)
    (effect : AgentProtocolSession → α → AgentProtocolSession → Prop) : Prop :=
  ∀ session, (∃ error, action session = (.error error, session)) ∨
    ∃ value after, action session = (.ok value, after) ∧
      effect session value after

/-- A condition that is checked first holds before the effect. -/
theorem Does.ensure
    {α : Type}
    {condition : AgentProtocolSession → Prop}
    [DecidablePred condition]
    {error : AgentProtocolError}
    {rest : SessionAction α}
    {effect : AgentProtocolSession → α → AgentProtocolSession → Prop}
    (does : Does rest fun before value after =>
      condition before → effect before value after) :
    Does (ensure condition error >>= fun _ => rest) effect := by
  intro session
  rw [ensure_bind]
  by_cases holds : condition session
  · rw [if_pos holds]
    rcases does session with failed | ⟨value, after, ran, effected⟩
    · exact .inl failed
    · exact .inr ⟨value, after, ran, effected holds⟩
  · rw [if_neg holds]
    exact .inl ⟨error, rfl⟩

theorem Does.of_total
    {α : Type}
    {action : SessionAction α}
    {effect : AgentProtocolSession → α → AgentProtocolSession → Prop}
    {value : α}
    {change : AgentProtocolSession → AgentProtocolSession}
    (runs : ∀ session, action session = (.ok value, change session))
    (effected : ∀ session, effect session value (change session)) :
    Does action effect := fun session =>
  .inr ⟨value, change session, runs session, effected session⟩

theorem beginRequest_does (requestId capability : JsString) :
    Does (beginRequest requestId capability) fun before _ after =>
      before.closed = false ∧ before.requests.length < maxInFlightRequests ∧
        before.requestState requestId = none ∧
        after = setRequest requestId .active before := by
  simp only [beginRequest, assertNegotiated, assertOpen, bind_assoc]
  refine Does.ensure (Does.ensure (Does.ensure (Does.ensure (Does.ensure
    (Does.ensure (Does.of_total (fun _ => rfl) ?_))))))
  exact fun session unused room _ _ _ isOpen => ⟨isOpen, room, unused.1, rfl⟩

theorem cancelRequest_does (requestId : JsString) :
    Does (cancelRequest requestId) fun before _ after =>
      before.closed = false ∧ before.requestState requestId = some .active ∧
        after = setRequest requestId .cancelling before := by
  refine Does.ensure (Does.ensure (Does.of_total (fun _ => rfl) ?_))
  exact fun session active isOpen => ⟨isOpen, active, rfl⟩

/-- What retiring a request changes. -/
def retired (requestId : JsString) (session : AgentProtocolSession) :
    AgentProtocolSession :=
  { session with
    requests := deleteRequest requestId session.requests
    retiredRequests := trackBounded session.retiredRequests requestId }

/-- What tracking a message id changes. -/
def tracked (messageId : JsString) (session : AgentProtocolSession) :
    AgentProtocolSession :=
  { session with messageIds := trackBounded session.messageIds messageId }

/-- What accepting a frame changes, apart from its message id. -/
inductive Accepts (before : AgentProtocolSession) :
    EnvelopeBody → AgentProtocolSession → Prop where
  | hello (capabilities : List JsString) (implementation : Option JsString) :
      Accepts before (.hello capabilities implementation)
        { before with
          remoteCapabilities := capabilities
          helloAccepted := true }
  | notice (code message : JsString) (retryable : Option Bool) :
      Accepts before (.error none code message retryable) before
  | progress {body : EnvelopeBody} {requestId : JsString}
      {state : RequestState} :
      body.requestId? = some requestId →
      ¬ body.IsTerminal →
      before.requestState requestId = some state →
      Accepts before body before
  | terminal {body : EnvelopeBody} {requestId : JsString}
      {state : RequestState} :
      body.requestId? = some requestId →
      body.IsTerminal →
      before.requestState requestId = some state →
      (state = .cancelling → ¬ body.IsCompleted) →
      Accepts before body (retired requestId before)

theorem acceptFor_does
    {requestId : JsString}
    {envelope : AgentEnvelope}
    (ofRequest : envelope.body.requestId? = some requestId) :
    Does (acceptFor requestId envelope) fun before value after =>
      value = envelope ∧ ∃ changed, Accepts before envelope.body changed ∧
        after = tracked envelope.messageId changed := by
  intro session
  rw [acceptFor, FailingState.bind_apply, FailingState.read_apply]
  dsimp only
  cases found : session.requestState requestId with
  | none => exact .inl ⟨_, rfl⟩
  | some state =>
      -- Any terminal frame that the state of the request allows.
      have retires
          (terminal : envelope.body.IsTerminal)
          (allowed : state = .cancelling → ¬ envelope.body.IsCompleted) :
          ∃ changed, Accepts session envelope.body changed ∧
            tracked envelope.messageId (retired requestId session) =
              tracked envelope.messageId changed :=
        ⟨_, .terminal ofRequest terminal found allowed, rfl⟩
      cases shape : envelope.body with
      | event eventRequest event output =>
          rw [shape] at retires ofRequest
          dsimp only
          rw [ensure_bind]
          by_cases refused : state = .cancelling ∧ event = js "completed"
          · rw [if_neg (not_not.mpr refused)]
            exact .inl ⟨_, rfl⟩
          · rw [if_pos refused]
            by_cases ended : event = js "completed" ∨ event = js "cancelled"
            · rw [if_pos ended]
              refine .inr ⟨envelope, _, rfl, rfl, retires ended ?_⟩
              exact fun cancelling completed => refused ⟨cancelling, completed⟩
            · rw [if_neg ended]
              exact .inr ⟨envelope, _, rfl, rfl, session,
                .progress ofRequest ended found, rfl⟩
      | error errorRequest code message retryable =>
          rw [shape] at retires ofRequest
          have ends : (EnvelopeBody.error errorRequest code message
              retryable).IsTerminal :=
            Option.isSome_iff_exists.mpr ⟨requestId, ofRequest⟩
          exact .inr ⟨envelope, _, rfl, rfl, retires ends fun _ => id⟩
      | hello capabilities implementation =>
          rw [shape] at ofRequest
          cases ofRequest
      | request otherRequest operation input =>
          rw [shape] at ofRequest
          cases ofRequest
      | cancel otherRequest =>
          rw [shape] at ofRequest
          cases ofRequest

theorem acceptEnvelope_does
    (format : NumberFormat)
    (envelope : AgentEnvelope) :
    Does (acceptEnvelope format envelope) fun before value after =>
      envelope.messageId ∉ before.messageIds.values ∧ value = envelope ∧
        ∃ changed, Accepts before envelope.body changed ∧
          after = tracked envelope.messageId changed := by
  refine Does.ensure ?_
  intro session
  cases shape : envelope.body with
  | hello capabilities implementation =>
      have valid : validateHello format (.validated envelope) =
          .ok (envelope.messageId, capabilities) := by
        simp only [validateHello, validateEnvelope, ok_bind, shape]
        rfl
      have does : Does
          (acceptHello format (.validated envelope) >>= fun _ => pure envelope)
          fun before value after => value = envelope ∧
            after = tracked envelope.messageId
              { before with
                remoteCapabilities := capabilities
                helloAccepted := true } := by
        simp only [acceptHello, assertOpen, bind_assoc, valid]
        exact Does.ensure (Does.ensure (Does.of_total (fun _ => rfl)
          fun _ _ _ => ⟨rfl, rfl⟩))
      exact (does session).imp id fun ⟨value, after, ran, same, effect⟩ =>
        ⟨value, after, ran, fun new => ⟨new, same, _,
          .hello capabilities implementation, effect⟩⟩
  | request requestId operation input => exact .inl ⟨_, rfl⟩
  | cancel requestId => exact .inl ⟨_, rfl⟩
  | error requestId code message retryable =>
      cases requestId with
      | none =>
          exact .inr ⟨envelope, _, rfl, fun new => ⟨new, rfl, session,
            .notice code message retryable, rfl⟩⟩
      | some requestId =>
          have does := acceptFor_does
            (show envelope.body.requestId? = some requestId by rw [shape]; rfl)
            session
          rw [shape] at does
          exact does.imp id fun ⟨value, after, ran, effect⟩ =>
            ⟨value, after, ran, fun new => ⟨new, effect⟩⟩
  | event requestId event output =>
      have does := acceptFor_does
        (show envelope.body.requestId? = some requestId by rw [shape]; rfl)
        session
      rw [shape] at does
      exact does.imp id fun ⟨value, after, ran, effect⟩ =>
        ⟨value, after, ran, fun new => ⟨new, effect⟩⟩

theorem acceptIncoming_does (format : NumberFormat) (value : Candidate) :
    Does (acceptIncoming format value) fun before envelope after =>
      before.closed = false ∧
        envelope.messageId ∉ before.messageIds.values ∧
        ∃ changed, Accepts before envelope.body changed ∧
          after = tracked envelope.messageId changed := by
  refine Does.ensure ?_
  intro session
  rw [FailingState.bind_apply, FailingState.lift_apply]
  cases validateEnvelope format value with
  | error error => exact .inl ⟨error, rfl⟩
  | ok envelope =>
      rcases acceptEnvelope_does format envelope session with
        failed | ⟨accepted, after, ran, isNew, rfl, effect⟩
      · exact .inl failed
      · exact .inr ⟨accepted, after, ran, fun isOpen => ⟨isOpen, isNew, effect⟩⟩

end Methods

end AgentProtocolSession

end Selene.Agent
