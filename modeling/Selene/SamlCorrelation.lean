import Selene.FailingState
import Selene.InsertionTable
import Selene.JsonData
import Selene.LoggedMachine
import Selene.PrototypeRestore
import Selene.ReturnTarget

/-!
# Correlating SAML requests with responses

The in-memory store keeps one envelope for each request until it is taken or
has expired, and drops the oldest ones when it is full.  The adapter above it
writes envelopes and takes them out for one validation context, which remembers
what it has taken.

The store and the adapter read one clock.  It may move on between any two
readings, also within one call.
-/

namespace Selene.Saml

open Js Identity

/-! ## Errors and data -/

inductive SamlRuntimeErrorCode where
  | invalidSamlConfig
  | invalidSamlResponse
  deriving DecidableEq

structure SamlRuntimeError where
  code : SamlRuntimeErrorCode
  message : JsString
  deriving DecidableEq

/-- A clock of whole milliseconds: what each reading of it gives. -/
structure Clock where
  reading : Nat → Nat
  monotone : Monotone reading
  safe : ∀ sample, reading sample ≤ JsNumber.maxSafeInteger

structure CorrelationEntry where
  key : JsString
  envelope : JsString
  expiresAt : Nat
  deriving DecidableEq

/-- What `createInMemorySamlRequestCorrelationStore` closes over. -/
structure CorrelationStore where
  entries : Table CorrelationEntry.key
  previousNow : Option Nat

/-- One value of a `ValidationContext`. -/
structure ContextValue where
  key : JsString
  value : JsString
  deriving DecidableEq

/-- A call of `getAsync` that waits for what the store has answered. -/
structure WaitingGet where
  ticket : Nat
  context : Nat
  key : JsString
  raw : Except SamlRuntimeError (Option JsString)
  deriving DecidableEq

/--
The store, the validation contexts and the calls under way.  `samples` counts
the readings of the clock and `gets` the calls of `getAsync`.
-/
structure World where
  samples : Nat
  store : CorrelationStore
  contexts : Nat → Table ContextValue.key
  gets : Nat
  waiting : Table WaitingGet.ticket

def maxCorrelationEntries : Nat := 1024

def maxCorrelationKeyBytes : Nat := 512

def maxCorrelationEnvelopeBytes : Nat := 1024

def maxCorrelationExpiryHorizonMs : Nat := 600000

/-- A store and an adapter over it, with the clock that both of them read. -/
structure Correlation where
  format : NumberFormat
  clock : Clock
  maxEntries : Nat
  capacity : 1 ≤ maxEntries ∧ maxEntries ≤ maxCorrelationEntries
  ttlMs : Nat

/-- Nothing is stored and nothing is under way. -/
def World.start : World where
  samples := 0
  store := ⟨Table.empty, none⟩
  contexts := fun _ => Table.empty
  gets := 0
  waiting := Table.empty

/-! ## The store -/

def invalidSamlConfig (message : String) : SamlRuntimeError :=
  ⟨.invalidSamlConfig, js message⟩

def correlationFailure (message : String) : SamlRuntimeError :=
  ⟨.invalidSamlResponse, js message⟩

/-- A request id that the store accepts. -/
def IsCorrelationKey (key : JsString) : Prop :=
  key ≠ [] ∧ utf8Length key ≤ maxCorrelationKeyBytes ∧
    containsAsciiControl key = false

instance (key : JsString) : Decidable (IsCorrelationKey key) :=
  inferInstanceAs (Decidable (_ ∧ _))

def assertCorrelationKey (key : JsString) : Except SamlRuntimeError Unit :=
  check (IsCorrelationKey key)
    (invalidSamlConfig "SAML correlation key is invalid")

def assertCorrelationStoreInput (key envelope : JsString) (expiresAt now : Nat) :
    Except SamlRuntimeError Unit := do
  assertCorrelationKey key
  check (envelope ≠ [] ∧ utf8Length envelope ≤ maxCorrelationEnvelopeBytes ∧
      containsAsciiControl envelope = false)
    (invalidSamlConfig "SAML correlation envelope is invalid")
  check (expiresAt ≤ JsNumber.maxSafeInteger ∧ now < expiresAt ∧
      expiresAt - now ≤ maxCorrelationExpiryHorizonMs)
    (invalidSamlConfig "SAML correlation expiry is invalid")

/-- A computation over the store, the contexts and the calls under way. -/
abbrev Task := FailingState SamlRuntimeError World

namespace Correlation

variable (correlation : Correlation)

/-- The clock, as the adapter reads it. -/
def now : Task Nat := fun world =>
  (.ok (correlation.clock.reading world.samples),
    { world with samples := world.samples + 1 })

/-- The clock, as the store reads it. -/
def sampleNow : Task Nat := do
  let current ← correlation.now
  let previousNow ← FailingState.read fun world => world.store.previousNow
  FailingState.lift <|
    check (current ≤ JsNumber.maxSafeInteger ∧
        ∀ previous ∈ previousNow, previous ≤ current)
      (invalidSamlConfig "SAML in-memory correlation clock is invalid")
  FailingState.modify fun world =>
    { world with store := { world.store with previousNow := some current } }
  pure current

/-- Change the entries of the store. -/
def updateEntries
    (change : Table CorrelationEntry.key → Table CorrelationEntry.key) :
    Task Unit :=
  FailingState.modify fun world =>
    { world with
      store := { world.store with entries := change world.store.entries } }

def pruneExpired : Task Unit := do
  let current ← correlation.sampleNow
  updateEntries fun entries =>
    entries.keep fun entry => decide (current < entry.expiresAt)

def evictForInsertion : Task Unit := do
  correlation.pruneExpired
  updateEntries (Table.makeRoom correlation.maxEntries)

def putIfAbsent (key envelope : JsString) (expiresAt : Nat) : Task Bool := do
  let current ← correlation.sampleNow
  FailingState.lift (assertCorrelationStoreInput key envelope expiresAt current)
  correlation.pruneExpired
  if ← FailingState.read (fun world => world.store.entries.has key) then
    pure false
  else do
    correlation.evictForInsertion
    updateEntries fun entries => entries.set ⟨key, envelope, expiresAt⟩
    pure true

def take (key : JsString) : Task (Option JsString) := do
  FailingState.lift (assertCorrelationKey key)
  correlation.pruneExpired
  let found ← FailingState.read fun world => world.store.entries.find? key
  updateEntries fun entries => entries.delete key
  pure (found.map CorrelationEntry.envelope)

end Correlation

/-! ## Envelopes -/

structure CorrelationEnvelope where
  createdAt : Nat
  expiresAt : Nat
  value : JsString
  deriving DecidableEq

/-- The fields that `saveAsync` writes. -/
def CorrelationEnvelope.toRecord (envelope : CorrelationEnvelope) : Record :=
  [(js "version", .number (.ofNat 1)),
    (js "createdAt", .number (.ofNat envelope.createdAt)),
    (js "expiresAt", .number (.ofNat envelope.expiresAt)),
    (js "value", .string envelope.value)]

/-- `JSON.stringify` of an envelope. -/
def CorrelationEnvelope.text
    (format : NumberFormat) (envelope : CorrelationEnvelope) : JsString :=
  (Prototype.stringify format (.object envelope.toRecord)).getD []

/-- A safe integer that is not negative. -/
def safeInstant? : JsValue → Option Nat
  | .number value =>
      match value.safeInteger? with
      | some (.ofNat instant) => some instant
      | _ => none
  | _ => none

/-- Whether a value is the number one. -/
def isOne : JsValue → Bool
  | .number value => decide (value = .ofNat 1)
  | _ => false

/-- The text of a value that is one. -/
def text? : JsValue → Option JsString
  | .string text => some text
  | _ => none

/-- A parsed value as an envelope. -/
def readEnvelope : JsValue → Option CorrelationEnvelope
  | .object fields => do
      guard (fields.length = 4 ∧ isOne (Record.get fields (js "version")) = true)
      let createdAt ← safeInstant? (Record.get fields (js "createdAt"))
      let expiresAt ← safeInstant? (Record.get fields (js "expiresAt"))
      guard (createdAt < expiresAt)
      let value ← text? (Record.get fields (js "value"))
      guard (utf8Length value ≤ 512 ∧ containsAsciiControl value = false)
      pure ⟨createdAt, expiresAt, value⟩
  | _ => none

def parseCorrelationEnvelope (format : NumberFormat) (value : JsString) :
    Except SamlRuntimeError CorrelationEnvelope := do
  check (utf8Length value ≤ 1024)
    (correlationFailure "SAML correlation data is oversized")
  match (jsonParse format value).bind readEnvelope with
  | some envelope => .ok envelope
  | none => .error (correlationFailure "SAML correlation data is corrupt")

namespace CorrelationEnvelope

/-- The document of an envelope whose instants are safe integers. -/
def document
    (envelope : CorrelationEnvelope)
    (created : envelope.createdAt ≤ JsNumber.maxSafeInteger)
    (expires : envelope.expiresAt ≤ JsNumber.maxSafeInteger) : Json Double :=
  .object [(js "version", .number ⟨(1 : Nat), isDouble_natCast (by decide)⟩),
    (js "createdAt", .number ⟨(envelope.createdAt : ℚ),
      isDouble_natCast (Nat.lt_of_le_pred (by decide) created)⟩),
    (js "expiresAt", .number ⟨(envelope.expiresAt : ℚ),
      isDouble_natCast (Nat.lt_of_le_pred (by decide) expires)⟩),
    (js "value", .text envelope.value)]

variable
  {envelope : CorrelationEnvelope}
  (created : envelope.createdAt ≤ JsNumber.maxSafeInteger)
  (expires : envelope.expiresAt ≤ JsNumber.maxSafeInteger)

private theorem ofNat_eq_finite
    (value : Nat) :
    JsNumber.ofNat value = .finite (value : ℚ) := by
  simp [JsNumber.ofNat]

theorem text_eq_stringify
    (format : NumberFormat) :
    envelope.text format =
      Json.stringify format.doubles (envelope.document created expires) := by
  rw [text, toRecord, document]
  simp only [Prototype.stringify, Prototype.stringifyEntries, Json.stringify,
    Json.stringifyEntries, ofNat_eq_finite, NumberFormat.jsonText,
    JsNumber.finiteValue?, Option.map_some, Option.getD_some,
    NumberFormat.doubles]

include created expires

theorem jsonParse_text
    (format : NumberFormat) :
    jsonParse format (envelope.text format) =
      some (.object envelope.toRecord) := by
  have numbers : ∀ value : Double,
      readBack format (.number value) = .number (.finite value.val) :=
    fun value => congrArg JsValue.number (format.read_toText value.property)
  rw [text_eq_stringify created expires, jsonParse_stringify, document,
    readBack_object, toRecord, Record.ofEntries_of_distinct]
  · simp only [List.map_cons, List.map_nil, numbers, ofNat_eq_finite]
    rfl
  · simp [Record.keys]

theorem readEnvelope_toRecord
    {read : CorrelationEnvelope} :
    readEnvelope (.object envelope.toRecord) = some read ↔
      read = envelope ∧ envelope.createdAt < envelope.expiresAt ∧
        utf8Length envelope.value ≤ 512 ∧
        containsAsciiControl envelope.value = false := by
  have instants : ∀ instant, instant ≤ JsNumber.maxSafeInteger →
      safeInstant? (.number (.ofNat instant)) = some instant := by
    intro instant bound
    rw [safeInstant?, JsNumber.safeInteger?_ofNat bound]
  have version : Record.get envelope.toRecord (js "version") =
      .number (.ofNat 1) := by
    simp [toRecord]
  have first : Record.get envelope.toRecord (js "createdAt") =
      .number (.ofNat envelope.createdAt) := by
    simp [toRecord, Record.get]
  have second : Record.get envelope.toRecord (js "expiresAt") =
      .number (.ofNat envelope.expiresAt) := by
    simp [toRecord, Record.get]
  have third : Record.get envelope.toRecord (js "value") =
      .string envelope.value := by
    simp [toRecord, Record.get]
  have size : envelope.toRecord.length = 4 := rfl
  simp only [readEnvelope, version, first, second, third, size,
    instants _ created, instants _ expires, text?, isOne, decide_true,
    and_self, guard, ↓reduceIte, Option.pure_def, Option.bind_eq_bind,
    Option.bind_some, Option.bind_eq_some_iff]
  constructor
  · rintro ⟨_, ordered, _, plain, same⟩
    have isOrdered := (Option.ite_none_right_eq_some.mp ordered).1
    have isPlain := (Option.ite_none_right_eq_some.mp plain).1
    exact ⟨(Option.some.inj same).symm, isOrdered, isPlain⟩
  · rintro ⟨rfl, ordered, short, plain⟩
    simp [ordered, short, plain]

theorem parse_text
    {format : NumberFormat}
    {read : CorrelationEnvelope} :
    parseCorrelationEnvelope format (envelope.text format) = .ok read ↔
      utf8Length (envelope.text format) ≤ 1024 ∧ read = envelope ∧
        envelope.createdAt < envelope.expiresAt ∧
        utf8Length envelope.value ≤ 512 ∧
        containsAsciiControl envelope.value = false := by
  rw [parseCorrelationEnvelope, jsonParse_text created expires,
    Option.bind_some, bind_eq_ok]
  refine ⟨?_, ?_⟩
  · rintro ⟨_, small, parsed⟩
    cases isRead : readEnvelope (.object envelope.toRecord) with
    | none => simp [isRead] at parsed
    | some found =>
        rw [isRead] at parsed
        cases Except.ok.inj parsed
        exact ⟨check_eq_ok.mp small,
          (readEnvelope_toRecord created expires).mp isRead⟩
  · intro accepted
    refine ⟨(), check_eq_ok.mpr accepted.1, ?_⟩
    rw [(readEnvelope_toRecord created expires).mpr accepted.2]

end CorrelationEnvelope

/-! ## The adapter -/

/-- What `saveAsync` answers. -/
structure SavedRequest where
  value : JsString
  createdAt : Nat
  deriving DecidableEq

namespace Correlation

variable (correlation : Correlation)

def saveAsync (key value : JsString) : Task SavedRequest := do
  let createdAt ← correlation.now
  let expiresAt := createdAt + correlation.ttlMs
  let envelope :=
    CorrelationEnvelope.text correlation.format ⟨createdAt, expiresAt, value⟩
  let inserted ← (correlation.putIfAbsent key envelope expiresAt).onError
    fun _ => FailingState.fail (correlationFailure "SAML correlation store failed")
  if inserted then
    pure ⟨value, createdAt⟩
  else
    FailingState.fail
      (correlationFailure "SAML correlation store rejected request ID")

/-- `getAsync` after the store has answered. -/
def finishGet (context : Nat) (key : JsString)
    (raw : Except SamlRuntimeError (Option JsString)) :
    Task (Option JsString) :=
  match raw with
  | .error _ =>
      FailingState.fail (correlationFailure "SAML correlation store failed")
  | .ok none => pure none
  | .ok (some text) => do
      let envelope ←
        FailingState.lift (parseCorrelationEnvelope correlation.format text)
      let now ← correlation.now
      FailingState.lift <|
        check (now < envelope.expiresAt ∧ envelope.createdAt ≤ now ∧
            envelope.expiresAt - envelope.createdAt = correlation.ttlMs)
          (correlationFailure "SAML correlation data is expired or invalid")
      FailingState.modify fun world =>
        { world with
          contexts := Function.update world.contexts context
            ((world.contexts context).set ⟨key, envelope.value⟩) }
      pure (some envelope.value)

/-! ## Calls -/

/-- What the environment does next; a call may be made outside any context. -/
inductive Call where
  | saveAsync (key value : JsString)
  | getAsync (context : Option Nat) (key : JsString)
  | resume (ticket : Nat)
  | removeAsync (context : Option Nat) (key : Option JsString)

/--
What a call answers.  `waiting` is a `getAsync` that has asked the store;
`got` is what a call of `getAsync` settles with, and tells whether it comes
from the context at once (`none`) or from the call with that ticket.
-/
inductive Answer where
  | saved (result : Except SamlRuntimeError SavedRequest)
  | waiting (ticket : Nat) (raw : Except SamlRuntimeError (Option JsString))
  | got (ticket : Option Nat) (context : Option Nat) (key : JsString)
      (result : Except SamlRuntimeError (Option JsString))
  | removed
  | idle
  deriving DecidableEq

/-- `getAsync` up to the point where it waits for the store. -/
def startGet (context : Option Nat) (key : JsString) (world : World) :
    World × Answer :=
  match context with
  | none =>
      (world, .got none none key
        (.error (correlationFailure "SAML correlation context is unavailable")))
  | some context =>
      match (world.contexts context).find? key with
      | some cached =>
          (world, .got none (some context) key (.ok (some cached.value)))
      | none =>
          let (raw, asked) := correlation.take key world
          ({ asked with
              gets := asked.gets + 1
              waiting := asked.waiting.set ⟨asked.gets, context, key, raw⟩ },
            .waiting asked.gets raw)

/-- `getAsync` after its wait, if such a call is waiting. -/
def resumeGet (ticket : Nat) (world : World) : World × Answer :=
  match world.waiting.find? ticket with
  | none => (world, .idle)
  | some get =>
      let (result, finished) := correlation.finishGet get.context get.key get.raw
        { world with waiting := world.waiting.delete ticket }
      (finished, .got (some ticket) (some get.context) get.key result)

/-- `removeAsync`; it answers `null` in every case. -/
def removeAsync (context : Option Nat) (key : Option JsString) (world : World) :
    World :=
  match context, key with
  | some context, some key =>
      { world with
        contexts := Function.update world.contexts context
          ((world.contexts context).delete key) }
  | _, _ => world

def step (world : World) : Call → World × Answer
  | .saveAsync key value =>
      let (result, saved) := correlation.saveAsync key value world
      (saved, .saved result)
  | .getAsync context key => correlation.startGet context key world
  | .resume ticket => correlation.resumeGet ticket world
  | .removeAsync context key => (removeAsync context key world, .removed)

/-! ## What the calls do -/

/-- The store has not seen a later instant than the clock shows. -/
def InStep (world : World) : Prop :=
  ∀ previous ∈ world.store.previousNow,
    previous ≤ correlation.clock.reading world.samples

/-- The world after the store has read the clock. -/
def sampled (world : World) : World :=
  { world with
    samples := world.samples + 1
    store := { world.store with
      previousNow := some (correlation.clock.reading world.samples) } }

/-- The world after the store has dropped what is expired. -/
def pruned (world : World) : World :=
  { correlation.sampled world with
    store := { (correlation.sampled world).store with
      entries := world.store.entries.keep fun entry =>
        decide (correlation.clock.reading world.samples < entry.expiresAt) } }

variable {correlation}

theorem inStep_start : correlation.InStep World.start := by
  intro previous isPrevious
  cases isPrevious

variable {world : World}

theorem InStep.of_le
    {next : World}
    (inStep : correlation.InStep world)
    (same : next.store.previousNow = world.store.previousNow)
    (later : world.samples ≤ next.samples) :
    correlation.InStep next := by
  intro previous isPrevious
  rw [same] at isPrevious
  exact (inStep previous isPrevious).trans (correlation.clock.monotone later)

theorem inStep_sampled
    (world : World) :
    correlation.InStep (correlation.sampled world) := by
  intro previous isPrevious
  cases Option.some.inj isPrevious
  exact correlation.clock.monotone (Nat.le_succ _)

theorem inStep_pruned
    (world : World) :
    correlation.InStep (correlation.pruned world) :=
  inStep_sampled world

theorem sampleNow_apply
    (inStep : correlation.InStep world) :
    correlation.sampleNow world =
      (.ok (correlation.clock.reading world.samples),
        correlation.sampled world) := by
  have accepted :
      correlation.clock.reading world.samples ≤ JsNumber.maxSafeInteger ∧
        ∀ previous ∈ world.store.previousNow,
          previous ≤ correlation.clock.reading world.samples :=
    ⟨correlation.clock.safe _, inStep⟩
  simp only [sampleNow, now, FailingState.bind_apply, FailingState.read_apply,
    FailingState.lift_apply, check_of accepted, FailingState.modify_apply,
    FailingState.pure_apply]
  rfl

theorem pruneExpired_apply
    (inStep : correlation.InStep world) :
    correlation.pruneExpired world = (.ok (), correlation.pruned world) := by
  rw [pruneExpired, FailingState.bind_of_ok (sampleNow_apply inStep)]
  rfl

theorem take_apply
    {key : JsString}
    (inStep : correlation.InStep world)
    (isKey : IsCorrelationKey key) :
    correlation.take key world =
      (.ok (((correlation.pruned world).store.entries.find? key).map
          CorrelationEntry.envelope),
        { correlation.pruned world with
          store := { (correlation.pruned world).store with
            entries := (correlation.pruned world).store.entries.delete key } }) := by
  rw [take, FailingState.bind_of_ok (by
      rw [FailingState.lift_apply, assertCorrelationKey, check_of isKey]),
    FailingState.bind_of_ok (pruneExpired_apply inStep)]
  rfl

theorem take_of_not_key
    {key : JsString}
    (notKey : ¬ IsCorrelationKey key)
    (world : World) :
    correlation.take key world =
      (.error (invalidSamlConfig "SAML correlation key is invalid"), world) := by
  rw [take, FailingState.bind_of_error (by
    rw [FailingState.lift_apply, assertCorrelationKey, check_of_not notKey])]

/-- What `putIfAbsent` does, with the entries that it leaves. -/
inductive Put (correlation : Correlation) (world : World)
    (key envelope : JsString) (expiresAt : Nat) :
    Except SamlRuntimeError Bool → World → Prop where
  | rejected (error : SamlRuntimeError) :
      Put correlation world key envelope expiresAt (.error error)
        (correlation.sampled world)
  | present (held : ((correlation.pruned (correlation.sampled world)).store.entries.has
        key) = true) :
      Put correlation world key envelope expiresAt (.ok false)
        (correlation.pruned (correlation.sampled world))
  | inserted (absent : ((correlation.pruned (correlation.sampled world)).store.entries.has
        key) = false)
      (safe : expiresAt ≤ JsNumber.maxSafeInteger)
      (next : World)
      (isNext : next =
        let emptied :=
          correlation.pruned (correlation.pruned (correlation.sampled world))
        { emptied with
          store := { emptied.store with
            entries := (emptied.store.entries.makeRoom correlation.maxEntries).set
              ⟨key, envelope, expiresAt⟩ } }) :
      Put correlation world key envelope expiresAt (.ok true) next

theorem put_putIfAbsent
    (inStep : correlation.InStep world)
    (key envelope : JsString)
    (expiresAt : Nat) :
    Put correlation world key envelope expiresAt
      (correlation.putIfAbsent key envelope expiresAt world).1
      (correlation.putIfAbsent key envelope expiresAt world).2 := by
  rw [putIfAbsent, FailingState.bind_of_ok (sampleNow_apply inStep),
    FailingState.bind_apply, FailingState.lift_apply]
  cases asserted : assertCorrelationStoreInput key envelope expiresAt
      (correlation.clock.reading world.samples) with
  | error error => exact .rejected error
  | ok _ =>
      have safe : expiresAt ≤ JsNumber.maxSafeInteger := by
        simp only [assertCorrelationStoreInput, bind_eq_ok, check_eq_ok] at asserted
        obtain ⟨_, _, _, _, safe, _⟩ := asserted
        exact safe
      simp only
      rw [FailingState.bind_of_ok (pruneExpired_apply (inStep_sampled world)),
        FailingState.bind_apply, FailingState.read_apply]
      cases held : (correlation.pruned
          (correlation.sampled world)).store.entries.has key with
      | true => exact .present held
      | false =>
          simp only [Bool.false_eq_true, ↓reduceIte]
          rw [FailingState.bind_apply, evictForInsertion,
            FailingState.bind_of_ok (pruneExpired_apply (inStep_pruned _))]
          exact .inserted held safe _ rfl

end Correlation

end Selene.Saml
