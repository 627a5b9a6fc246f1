import Selene.DoubleRounding
import Selene.JsCoercion
import Selene.ProjectText
import Mathlib.Logic.Function.Basic

/-!
# Leases of preview builds

A renderer reserves a lease before it asks for a build, and the build claims it
with the ticket that it was reserved for.  A lease is an object that the timer
and the claimant hold on to after the authority has forgotten it, so the model
keeps a list of all leases issued and refers to one by its position there.

An operation runs without a break.  What it learns from outside (the reading
of the clock, the id issued) is part of the call.
-/

namespace Selene.Preview

open Js Canonical Generation Lifecycle

/-! ## Tickets -/

/-- Why a call throws. -/
inductive LeaseError where
  | ticket (message : JsString)
  | canonical (code : CanonicalDataErrorCode)
  | stale
  | inactive
  deriving DecidableEq

/-- The checks of the fields of a ticket. -/
structure PreviewBuildTicket.Admissible
    (projectId sourceRevisionId : JsString)
    (graphRevision : Nat)
    (bindingId : JsString) : Prop where
  projectId : projectIdPattern projectId = true
  nonempty : sourceRevisionId ≠ []
  bounded : sourceRevisionId.length ≤ 128
  safe : graphRevision ≤ JsNumber.maxSafeInteger
  bindingId : isSha256 bindingId = true

/-- What a preview is built from, as the renderer may know it. -/
structure PreviewBuildTicket where
  projectId : JsString
  sourceRevisionId : JsString
  graphRevision : Nat
  bindingId : JsString
  admissible : PreviewBuildTicket.Admissible projectId sourceRevisionId
    graphRevision bindingId

namespace PreviewBuildTicket

/-- `'selene-preview-build-ticket/v1'`. -/
def format : JsString := js "selene-preview-build-ticket/v1"

/-- The keys of a ticket. -/
def expected : List JsString :=
  [js "bindingId", js "format", js "graphRevision", js "projectId",
    js "sourceRevisionId"]

/-- The ticket as the object that is written. -/
def toValue (ticket : PreviewBuildTicket) : JsValue :=
  .object [
    (js "format", .string format),
    (js "projectId", .string ticket.projectId),
    (js "sourceRevisionId", .string ticket.sourceRevisionId),
    (js "graphRevision", .number (.ofNat ticket.graphRevision)),
    (js "bindingId", .string ticket.bindingId)]

end PreviewBuildTicket

/-- `Object.keys(input).sort().join('\\u0000')`. -/
def joinedKeys (keys : List JsString) : JsString :=
  [0].intercalate (sortByKey id keys)

instance
    (projectId sourceRevisionId : JsString)
    (graphRevision : Nat)
    (bindingId : JsString) :
    Decidable (PreviewBuildTicket.Admissible projectId sourceRevisionId
      graphRevision bindingId) :=
  decidable_of_iff
    (projectIdPattern projectId = true ∧ sourceRevisionId ≠ [] ∧
      sourceRevisionId.length ≤ 128 ∧
      graphRevision ≤ JsNumber.maxSafeInteger ∧ isSha256 bindingId = true)
    ⟨fun checks => ⟨checks.1, checks.2.1, checks.2.2.1, checks.2.2.2.1,
        checks.2.2.2.2⟩,
      fun checks => ⟨checks.projectId, checks.nonempty, checks.bounded,
        checks.safe, checks.bindingId⟩⟩

/-- The fields of a ticket, once they have their types. -/
def ticketOf (projectId sourceRevisionId : JsString) (revision : JsNumber)
    (bindingId : JsString) : Option PreviewBuildTicket :=
  match revision.safeInteger? with
  | some (.ofNat graphRevision) =>
      if admissible : PreviewBuildTicket.Admissible projectId sourceRevisionId
          graphRevision bindingId then
        some ⟨projectId, sourceRevisionId, graphRevision, bindingId, admissible⟩
      else
        none
  | _ => none

/-- The ticket that the properties of an object make up. -/
def ticketFields (input : Record) : Option PreviewBuildTicket :=
  match input.get (js "format"), input.get (js "projectId"),
      input.get (js "sourceRevisionId"), input.get (js "graphRevision"),
      input.get (js "bindingId") with
  | .string format, .string projectId, .string sourceRevisionId,
      .number revision, .string bindingId =>
      if joinedKeys input.keys = joinedKeys PreviewBuildTicket.expected ∧
          format = PreviewBuildTicket.format then
        ticketOf projectId sourceRevisionId revision bindingId
      else
        none
  | _, _, _, _, _ => none

def validatePreviewBuildTicket (value : JsValue) :
    Except LeaseError PreviewBuildTicket :=
  match value with
  | .object input =>
      match ticketFields input with
      | some ticket => .ok ticket
      | none => .error (.ticket (js "preview build ticket is invalid"))
  | _ => .error (.ticket (js "preview build ticket must be an object"))

/-- `serializeCanonicalData(validatePreviewBuildTicket(value))`. -/
def ticketText (numbers : NumberFormat) (value : JsValue) :
    Except LeaseError JsString := do
  let ticket ← validatePreviewBuildTicket value
  (serializeCanonicalData numbers ticket.toValue .undefined).mapError
    .canonical

theorem PreviewBuildTicket.toValue_wellFormed (ticket : PreviewBuildTicket) :
    ticket.toValue.WellFormed := by
  have safe : ticket.graphRevision < 2 ^ 53 :=
    Nat.lt_of_le_of_lt ticket.admissible.safe (by decide)
  have number : (JsNumber.ofNat ticket.graphRevision).IsRepresentable := by
    intro value isValue
    cases isValue
    exact isDouble_natCast safe
  have distinct : [js "format", js "projectId", js "sourceRevisionId",
      js "graphRevision", js "bindingId"].Nodup := by
    decide
  refine .object distinct ?_
  simp [JsValue.WellFormed.string, JsValue.WellFormed.number number]

theorem PreviewBuildTicket.eq_of_sameData
    {first second : PreviewBuildTicket}
    (same : first.toValue.SameData second.toValue) :
    first = second := by
  obtain ⟨firstProject, firstSource, firstRevision, firstBinding, _⟩ := first
  obtain ⟨secondProject, secondSource, secondRevision, secondBinding, _⟩ :=
    second
  unfold toValue at same
  cases same with
  | object _ properties =>
      have project := properties (js "projectId") (by simp)
      have source := properties (js "sourceRevisionId") (by simp)
      have revision := properties (js "graphRevision") (by simp)
      have binding := properties (js "bindingId") (by simp)
      have sameProject : firstProject = secondProject := by
        cases project
        rfl
      have sameSource : firstSource = secondSource := by
        cases source
        rfl
      have sameRevision : firstRevision = secondRevision := by
        cases revision with
        | number isFirst isSecond =>
            have values := Option.some.inj (isFirst.trans isSecond.symm)
            exact Int.ofNat.inj (congrArg Rat.num values)
      have sameBinding : firstBinding = secondBinding := by
        cases binding
        rfl
      subst sameProject sameSource sameRevision sameBinding
      rfl

theorem ticketText_inj
    {numbers : NumberFormat}
    {first second : JsValue}
    {text : JsString}
    (isFirst : ticketText numbers first = .ok text)
    (isSecond : ticketText numbers second = .ok text) :
    ∃ ticket, validatePreviewBuildTicket first = .ok ticket ∧
      validatePreviewBuildTicket second = .ok ticket := by
  have written :
      ∀ {value}, ticketText numbers value = .ok text →
        ∃ ticket, validatePreviewBuildTicket value = .ok ticket ∧
          serializeCanonicalData numbers ticket.toValue .undefined =
            .ok text := by
    intro value isText
    obtain ⟨ticket, valid, serialized⟩ := bind_eq_ok.mp isText
    refine ⟨ticket, valid, ?_⟩
    cases result : serializeCanonicalData numbers ticket.toValue .undefined with
    | error code =>
        rw [result] at serialized
        cases serialized
    | ok other =>
        rw [result] at serialized
        cases serialized
        rfl
  obtain ⟨firstTicket, firstValid, firstText⟩ := written isFirst
  obtain ⟨secondTicket, secondValid, secondText⟩ := written isSecond
  have canonical := serializeCanonicalData_canonical numbers
    ⟨_, firstTicket.toValue_wellFormed⟩ ⟨_, secondTicket.toValue_wellFormed⟩
    .undefined firstText secondText
  have same : firstTicket = secondTicket :=
    PreviewBuildTicket.eq_of_sameData (canonical.1.mp rfl)
  exact ⟨firstTicket, firstValid, same ▸ secondValid⟩

/-! ## The authority -/

/-- `PREVIEW_BUILD_LEASE_TIMEOUT_MS`. -/
def timeoutMs : JsNumber := .ofNat 10000

section

variable {Caller : Type} [DecidableEq Caller]

/-- A lease; `aborted` is the state of the signal of its controller. -/
structure Lease (Caller : Type) where
  id : JsString
  callerId : Caller
  ticket : JsString
  expiresAt : JsNumber
  aborted : Bool
  consumed : Bool

/-- The authority, with the objects and the timers that it has made. -/
structure PreviewBuildLeaseAuthority (Caller : Type) where
  /-- All leases issued; later code refers to a lease by its position. -/
  issued : List (Lease Caller)
  leases : Caller → Option Nat
  /-- The leases whose timers are scheduled and not cancelled. -/
  timers : List Nat

namespace PreviewBuildLeaseAuthority

/-- A new authority. -/
def initial : PreviewBuildLeaseAuthority Caller :=
  ⟨[], fun _ => none, []⟩

def revoke (authority : PreviewBuildLeaseAuthority Caller) (lease : Nat) :
    PreviewBuildLeaseAuthority Caller :=
  match authority.issued[lease]? with
  | none => authority
  | some object =>
      { issued := authority.issued.set lease { object with aborted := true }
        leases :=
          if authority.leases object.callerId = some lease then
            Function.update authority.leases object.callerId none
          else
            authority.leases
        timers := authority.timers.filter (· ≠ lease) }

def close (authority : PreviewBuildLeaseAuthority Caller) (callerId : Caller) :
    PreviewBuildLeaseAuthority Caller :=
  match authority.leases callerId with
  | some lease => authority.revoke lease
  | none => authority

/-- The lease that a reservation makes. -/
def issue (authority : PreviewBuildLeaseAuthority Caller)
    (lease : Lease Caller) : PreviewBuildLeaseAuthority Caller where
  issued := authority.issued ++ [lease]
  leases :=
    Function.update authority.leases lease.callerId
      (some authority.issued.length)
  timers := authority.timers ++ [authority.issued.length]

/-- `now >= expiresAt`. -/
def expired (expiresAt now : JsNumber) : Bool :=
  expiresAt.below now || expiresAt.same now

/-- What makes `assertActive` pass. -/
def passes (authority : PreviewBuildLeaseAuthority Caller) (lease : Nat)
    (object : Lease Caller) (now : JsNumber) : Bool :=
  decide (authority.leases object.callerId = some lease) &&
    !object.aborted && !expired object.expiresAt now

/-- What a call answers. -/
inductive Outcome where
  | reserved (lease : Nat)
  | claimed (lease : Nat)
  | cancelled (found : Bool)
  | active
  | done
  | thrown (error : LeaseError)
  /-- There is no object to make this call on. -/
  | absent
  deriving DecidableEq

/-- Calls of the authority, calls on claimed leases, and timers. -/
inductive Call (Caller : Type) where
  | reserve (callerId : Caller) (value : JsValue) (id : JsString)
      (now : JsNumber)
  | claim (callerId : Caller) (value ticket : JsValue) (now : JsNumber)
  | cancel (callerId : Caller) (value : JsValue)
  | close (callerId : Caller)
  | assertActive (lease : Nat) (now : JsNumber)
  | release (lease : Nat)
  | timer (lease : Nat)

def reserve (numbers : NumberFormat)
    (authority : PreviewBuildLeaseAuthority Caller)
    (callerId : Caller) (value : JsValue) (id : JsString) (now : JsNumber) :
    PreviewBuildLeaseAuthority Caller × Outcome :=
  match ticketText numbers value with
  | .error error => (authority, .thrown error)
  | .ok ticket =>
      let closed := authority.close callerId
      (closed.issue
        { id
          callerId
          ticket
          expiresAt := now.add timeoutMs
          aborted := false
          consumed := false },
        .reserved closed.issued.length)

/-- The private `assertActive`, for a lease and its object. -/
def assertActive (authority : PreviewBuildLeaseAuthority Caller) (lease : Nat)
    (object : Lease Caller) (now : JsNumber) :
    PreviewBuildLeaseAuthority Caller × Outcome :=
  if authority.passes lease object now then
    (authority, .active)
  else
    (authority.revoke lease, .thrown .inactive)

/-- The registered lease of a caller, if a value is its id. -/
def named (authority : PreviewBuildLeaseAuthority Caller) (callerId : Caller)
    (value : JsValue) : Option (Nat × Lease Caller) := do
  let lease ← authority.leases callerId
  let object ← authority.issued[lease]?
  if value.strictEquals (.string object.id) then some (lease, object) else none

def claim (numbers : NumberFormat)
    (authority : PreviewBuildLeaseAuthority Caller)
    (callerId : Caller) (value ticket : JsValue) (now : JsNumber) :
    PreviewBuildLeaseAuthority Caller × Outcome :=
  match authority.named callerId value with
  | none => (authority, .thrown .stale)
  | some (lease, object) =>
      if object.consumed then
        (authority, .thrown .stale)
      else
        match ticketText numbers ticket with
        | .error error => (authority, .thrown error)
        | .ok text =>
            if object.ticket ≠ text then
              (authority, .thrown .stale)
            else if authority.passes lease object now then
              ({ authority with
                  issued :=
                    authority.issued.set lease
                      { object with consumed := true } },
                .claimed lease)
            else
              (authority.revoke lease, .thrown .inactive)

def cancel (authority : PreviewBuildLeaseAuthority Caller) (callerId : Caller)
    (value : JsValue) : PreviewBuildLeaseAuthority Caller × Outcome :=
  match authority.named callerId value with
  | none => (authority, .cancelled false)
  | some (lease, _) => (authority.revoke lease, .cancelled true)

/-- The object that `claim` handed out for a lease. -/
def handle (authority : PreviewBuildLeaseAuthority Caller) (lease : Nat) :
    Option (Lease Caller) :=
  authority.issued[lease]?.filter Lease.consumed

/--
One call.  A timer may fire for any lease at any time, also after it was
cancelled: whether the clock keeps its promises is no part of the authority.
-/
def step (numbers : NumberFormat)
    (authority : PreviewBuildLeaseAuthority Caller) :
    Call Caller → PreviewBuildLeaseAuthority Caller × Outcome
  | .reserve callerId value id now =>
      authority.reserve numbers callerId value id now
  | .claim callerId value ticket now =>
      authority.claim numbers callerId value ticket now
  | .cancel callerId value => authority.cancel callerId value
  | .close callerId => (authority.close callerId, .done)
  | .assertActive lease now =>
      match authority.handle lease with
      | some object => authority.assertActive lease object now
      | none => (authority, .absent)
  | .release lease =>
      match authority.handle lease with
      | some _ => (authority.revoke lease, .done)
      | none => (authority, .absent)
  | .timer lease => (authority.revoke lease, .done)

end PreviewBuildLeaseAuthority

end

end Selene.Preview
