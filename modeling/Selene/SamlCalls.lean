import Selene.SamlCorrelation

/-!
# What the calls of a correlation do

`Effect` says once what each call does to the store, the contexts and the calls
that wait; what holds of runs is derived from it.
-/

namespace Selene.Saml

open Js Identity

namespace Correlation

variable (correlation : Correlation)

/-! ## What one call does -/

/-- What the store does not touch. -/
structure SameCalls (before after : World) : Prop where
  contexts : after.contexts = before.contexts
  gets : after.gets = before.gets
  waiting : after.waiting = before.waiting

/-- The entry that `saveAsync` writes. -/
def entryOf (key value : JsString) (createdAt : Nat) : CorrelationEntry where
  key
  envelope := CorrelationEnvelope.text correlation.format
    ⟨createdAt, createdAt + correlation.ttlMs, value⟩
  expiresAt := createdAt + correlation.ttlMs

/-- What `saveAsync` did when it succeeded. -/
structure Inserted (world next : World) (key value : JsString) (createdAt : Nat) :
    Prop where
  safe : createdAt + correlation.ttlMs ≤ JsNumber.maxSafeInteger
  rows : ∃ remaining : Table CorrelationEntry.key,
    remaining.rows.Sublist world.store.entries.rows ∧
      remaining.size < correlation.maxEntries ∧
      remaining.has key = false ∧
      next.store.entries.rows =
        remaining.rows ++ [correlation.entryOf key value createdAt]
  expired : ∀ entry ∈ world.store.entries.rows, entry.key = key →
    ∃ sample, sample < next.samples ∧
      entry.expiresAt ≤ correlation.clock.reading sample

variable {correlation}

variable {key : JsString}

theorem has_of_sublist
    {first second : Table CorrelationEntry.key}
    (sublist : first.rows.Sublist second.rows)
    (absent : second.has key = false) :
    first.has key = false := by
  rw [Table.has, decide_eq_false_iff_not] at absent ⊢
  exact fun held => absent ((sublist.map _).subset held)

theorem pruned_sublist
    (world : World) :
    (correlation.pruned world).store.entries.rows.Sublist
      world.store.entries.rows :=
  List.filter_sublist

/-- What `saveAsync` makes of the answer of the store. -/
def savedResult (value : JsString) (createdAt : Nat) :
    Except SamlRuntimeError Bool → Except SamlRuntimeError SavedRequest
  | .ok true => .ok ⟨value, createdAt⟩
  | .ok false =>
      .error (correlationFailure "SAML correlation store rejected request ID")
  | .error _ => .error (correlationFailure "SAML correlation store failed")

variable {world : World}

theorem saveAsync_of_put
    {next : World}
    {value : JsString}
    {result : Except SamlRuntimeError Bool}
    (put : correlation.putIfAbsent key
        (correlation.entryOf key value
          (correlation.clock.reading world.samples)).envelope
        (correlation.entryOf key value
          (correlation.clock.reading world.samples)).expiresAt
        { world with samples := world.samples + 1 } = (result, next)) :
    correlation.saveAsync key value world =
      (savedResult value (correlation.clock.reading world.samples) result,
        next) := by
  have unfolded : correlation.saveAsync key value world =
      (((correlation.putIfAbsent key
          (correlation.entryOf key value
            (correlation.clock.reading world.samples)).envelope
          (correlation.entryOf key value
            (correlation.clock.reading world.samples)).expiresAt).onError
        fun _ => FailingState.fail
          (correlationFailure "SAML correlation store failed")) >>=
        fun inserted =>
          if inserted then
            pure ⟨value, correlation.clock.reading world.samples⟩
          else
            FailingState.fail
              (correlationFailure "SAML correlation store rejected request ID"))
        { world with samples := world.samples + 1 } :=
    rfl
  rw [unfolded, FailingState.bind_apply, FailingState.onError, put]
  cases result with
  | error error => rfl
  | ok inserted => cases inserted <;> rfl

theorem expired_of_absent
    (absent : (correlation.pruned world).store.entries.has key = false)
    {entry : CorrelationEntry}
    (member : entry ∈ world.store.entries.rows)
    (isKey : entry.key = key) :
    entry.expiresAt ≤ correlation.clock.reading world.samples := by
  rw [Table.has, decide_eq_false_iff_not] at absent
  by_contra live
  refine absent (List.mem_map.mpr ⟨entry, List.mem_filter.mpr ⟨member, ?_⟩, isKey⟩)
  exact decide_eq_true (Nat.lt_of_not_le live)

/-- What `saveAsync` does: it fails and only drops entries, or inserts one. -/
theorem saveAsync_cases
    (inStep : correlation.InStep world)
    (key value : JsString) :
    ∃ next, SameCalls world next ∧ correlation.InStep next ∧
      ((∃ error, correlation.saveAsync key value world = (.error error, next) ∧
          next.store.entries.rows.Sublist world.store.entries.rows) ∨
        (correlation.saveAsync key value world =
            (.ok ⟨value, correlation.clock.reading world.samples⟩, next) ∧
          correlation.Inserted world next key value
            (correlation.clock.reading world.samples))) := by
  have later : correlation.InStep { world with samples := world.samples + 1 } :=
    inStep.of_le rfl (Nat.le_succ _)
  have put := put_putIfAbsent later key
    (correlation.entryOf key value
      (correlation.clock.reading world.samples)).envelope
    (correlation.entryOf key value
      (correlation.clock.reading world.samples)).expiresAt
  cases ran : correlation.putIfAbsent key
      (correlation.entryOf key value
        (correlation.clock.reading world.samples)).envelope
      (correlation.entryOf key value
        (correlation.clock.reading world.samples)).expiresAt
      { world with samples := world.samples + 1 } with
  | mk result next =>
      have saved := saveAsync_of_put ran
      rw [ran] at put
      refine ⟨next, ?_⟩
      rw [saved]
      cases put with
      | rejected error =>
          exact ⟨⟨rfl, rfl, rfl⟩, inStep_sampled _,
            .inl ⟨_, rfl, List.Sublist.refl _⟩⟩
      | present held =>
          exact ⟨⟨rfl, rfl, rfl⟩, inStep_pruned _,
            .inl ⟨_, rfl, List.filter_sublist⟩⟩
      | inserted absent safe next isNext =>
          subst isNext
          refine ⟨⟨rfl, rfl, rfl⟩, inStep_pruned _, .inr ⟨rfl, safe, ?_, ?_⟩⟩
          · have kept := (Table.makeRoom_sublist correlation.maxEntries
              (correlation.pruned (correlation.pruned (correlation.sampled
                { world with
                  samples := world.samples + 1 }))).store.entries).trans
              (pruned_sublist _)
            have dropped := has_of_sublist kept absent
            exact ⟨_, kept.trans (pruned_sublist _),
              Table.size_makeRoom_lt correlation.capacity.1 _, dropped,
              Table.rows_set_of_fresh dropped⟩
          · intro entry member isKey
            refine ⟨world.samples + 2, ?_, expired_of_absent absent member isKey⟩
            exact Nat.lt_of_lt_of_le (Nat.lt_succ_self _) (Nat.le_succ _)

theorem take_cases
    (inStep : correlation.InStep world)
    (key : JsString) :
    SameCalls world (correlation.take key world).2 ∧
      correlation.InStep (correlation.take key world).2 ∧
      (correlation.take key world).2.store.entries.rows.Sublist
        world.store.entries.rows ∧
      (IsCorrelationKey key →
        ∃ found, (correlation.take key world).1 = .ok found) ∧
      ∀ text, (correlation.take key world).1 = .ok (some text) →
        (∃ entry ∈ world.store.entries.rows,
          entry.key = key ∧ entry.envelope = text) ∧
        ∀ entry ∈ (correlation.take key world).2.store.entries.rows,
          entry.key ≠ key := by
  by_cases isKey : IsCorrelationKey key
  · rw [take_apply inStep isKey]
    refine ⟨⟨rfl, rfl, rfl⟩, inStep_pruned world,
      List.filter_sublist.trans (pruned_sublist world), fun _ => ⟨_, rfl⟩, ?_⟩
    intro text taken
    obtain ⟨entry, found, isText⟩ :=
      Option.map_eq_some_iff.mp (Except.ok.inj taken)
    obtain ⟨member, sameKey⟩ := Table.find?_eq_some.mp found
    exact ⟨⟨entry, (pruned_sublist world).subset member, sameKey, isText⟩,
      fun other left => (Table.mem_delete.mp left).2⟩
  · rw [take_of_not_key isKey]
    refine ⟨⟨rfl, rfl, rfl⟩, inStep, List.Sublist.refl _,
      fun holds => absurd holds isKey, ?_⟩
    intro text taken
    cases taken

theorem finishGet_cases
    (context : Nat)
    (key : JsString)
    (raw : Except SamlRuntimeError (Option JsString))
    (world : World) :
    (correlation.finishGet context key raw world).2.store = world.store ∧
      (correlation.finishGet context key raw world).2.gets = world.gets ∧
      (correlation.finishGet context key raw world).2.waiting = world.waiting ∧
      world.samples ≤ (correlation.finishGet context key raw world).2.samples ∧
      ((correlation.finishGet context key raw world).2.contexts =
            world.contexts ∧
          (∀ value, (correlation.finishGet context key raw world).1 ≠
            .ok (some value)) ∧
          (raw = .ok none →
            (correlation.finishGet context key raw world).1 = .ok none) ∨
        ∃ text envelope, raw = .ok (some text) ∧
          parseCorrelationEnvelope correlation.format text = .ok envelope ∧
          correlation.clock.reading world.samples < envelope.expiresAt ∧
          (correlation.finishGet context key raw world).1 =
            .ok (some envelope.value) ∧
          (correlation.finishGet context key raw world).2.contexts =
            Function.update world.contexts context
              ((world.contexts context).set ⟨key, envelope.value⟩)) := by
  cases raw with
  | error error => simp [finishGet]
  | ok found =>
      cases found with
      | none => simp [finishGet]
      | some text =>
          simp only [finishGet, FailingState.bind_apply, FailingState.lift_apply]
          cases parsed : parseCorrelationEnvelope correlation.format text with
          | error error => simp
          | ok envelope =>
              simp only [now]
              by_cases fresh :
                  correlation.clock.reading world.samples < envelope.expiresAt ∧
                    envelope.createdAt ≤
                      correlation.clock.reading world.samples ∧
                    envelope.expiresAt - envelope.createdAt = correlation.ttlMs
              · rw [check_of fresh]
                refine ⟨rfl, rfl, rfl, Nat.le_succ _, .inr ?_⟩
                exact ⟨text, envelope, rfl, parsed, fresh.1, rfl, rfl⟩
              · rw [check_of_not fresh]
                refine ⟨rfl, rfl, rfl, Nat.le_succ _, .inl ⟨rfl, ?_, ?_⟩⟩
                · intro value same
                  cases same
                · intro same
                  cases same

/-- What each call does to the world. -/
inductive Effect (correlation : Correlation) (world : World) :
    Call → Answer → World → Prop where
  | refused (key value : JsString) (error : SamlRuntimeError) (next : World)
      (frame : SameCalls world next) (inStep : correlation.InStep next)
      (fewer : next.store.entries.rows.Sublist world.store.entries.rows) :
      Effect correlation world (.saveAsync key value) (.saved (.error error)) next
  | saved (key value : JsString) (next : World)
      (frame : SameCalls world next) (inStep : correlation.InStep next)
      (inserted : correlation.Inserted world next key value
        (correlation.clock.reading world.samples)) :
      Effect correlation world (.saveAsync key value)
        (.saved (.ok ⟨value, correlation.clock.reading world.samples⟩)) next
  | outside (key : JsString) (error : SamlRuntimeError) :
      Effect correlation world (.getAsync none key)
        (.got none none key (.error error)) world
  | cached (context : Nat) (row : ContextValue)
      (member : row ∈ (world.contexts context).rows) :
      Effect correlation world (.getAsync (some context) row.key)
        (.got none (some context) row.key (.ok (some row.value))) world
  | asked (context : Nat) (key : JsString)
      (raw : Except SamlRuntimeError (Option JsString)) (next : World)
      (contexts : next.contexts = world.contexts)
      (gets : next.gets = world.gets + 1)
      (waiting : next.waiting = world.waiting.set ⟨world.gets, context, key, raw⟩)
      (inStep : correlation.InStep next)
      (fewer : next.store.entries.rows.Sublist world.store.entries.rows)
      (answered : IsCorrelationKey key → ∃ found, raw = .ok found)
      (taken : ∀ text, raw = .ok (some text) →
        (∃ entry ∈ world.store.entries.rows,
          entry.key = key ∧ entry.envelope = text) ∧
        ∀ entry ∈ next.store.entries.rows, entry.key ≠ key) :
      Effect correlation world (.getAsync (some context) key)
        (.waiting world.gets raw) next
  | idle (ticket : Nat) : Effect correlation world (.resume ticket) .idle world
  | settled (get : WaitingGet)
      (result : Except SamlRuntimeError (Option JsString)) (next : World)
      (member : get ∈ world.waiting.rows)
      (store : next.store = world.store) (gets : next.gets = world.gets)
      (waiting : next.waiting = world.waiting.delete get.ticket)
      (inStep : correlation.InStep next)
      (contexts : next.contexts = world.contexts)
      (nothing : ∀ value, result ≠ .ok (some value))
      (absent : get.raw = .ok none → result = .ok none) :
      Effect correlation world (.resume get.ticket)
        (.got (some get.ticket) (some get.context) get.key result) next
  | handed (get : WaitingGet) (text : JsString) (envelope : CorrelationEnvelope)
      (next : World) (member : get ∈ world.waiting.rows)
      (store : next.store = world.store) (gets : next.gets = world.gets)
      (waiting : next.waiting = world.waiting.delete get.ticket)
      (inStep : correlation.InStep next)
      (raw : get.raw = .ok (some text))
      (parsed : parseCorrelationEnvelope correlation.format text = .ok envelope)
      (inTime :
        correlation.clock.reading world.samples < envelope.expiresAt)
      (contexts : next.contexts = Function.update world.contexts get.context
        ((world.contexts get.context).set ⟨get.key, envelope.value⟩)) :
      Effect correlation world (.resume get.ticket)
        (.got (some get.ticket) (some get.context) get.key
          (.ok (some envelope.value))) next
  | removed (context : Option Nat) (key : Option JsString) (next : World)
      (store : next.store = world.store) (gets : next.gets = world.gets)
      (waiting : next.waiting = world.waiting)
      (inStep : correlation.InStep next)
      (fewer : ∀ context, (next.contexts context).rows ⊆
        (world.contexts context).rows) :
      Effect correlation world (.removeAsync context key) .removed next

section

variable (inStep : correlation.InStep world)

include inStep

theorem effect_startGet
    (context : Option Nat)
    (key : JsString) :
    Effect correlation world (.getAsync context key)
      (correlation.startGet context key world).2
      (correlation.startGet context key world).1 := by
  cases context with
  | none => exact .outside key _
  | some context =>
      rw [startGet]
      cases found : (world.contexts context).find? key with
      | some row =>
          obtain ⟨member, isKey⟩ := Table.find?_eq_some.mp found
          subst isKey
          exact .cached context row member
      | none =>
          obtain ⟨frame, later, fewer, answered, taken⟩ := take_cases inStep key
          have gets : (correlation.take key world).2.gets = world.gets :=
            frame.gets
          simp only [gets]
          refine .asked context key _ _ frame.contexts rfl ?_ ?_ fewer answered
            taken
          · rw [← frame.waiting]
          · exact later

theorem effect_resumeGet
    (ticket : Nat) :
    Effect correlation world (.resume ticket)
      (correlation.resumeGet ticket world).2
      (correlation.resumeGet ticket world).1 := by
  rw [resumeGet]
  cases found : world.waiting.find? ticket with
  | none => exact .idle ticket
  | some get =>
      obtain ⟨member, isTicket⟩ := Table.find?_eq_some.mp found
      subst isTicket
      obtain ⟨store, gets, waiting, later, contexts⟩ :=
        finishGet_cases get.context get.key get.raw
          { world with waiting := world.waiting.delete get.ticket }
      have still : correlation.InStep
          (correlation.finishGet get.context get.key get.raw
            { world with waiting := world.waiting.delete get.ticket }).2 :=
        inStep.of_le (congrArg CorrelationStore.previousNow store) later
      rcases contexts with ⟨contexts, nothing, absent⟩ |
        ⟨text, envelope, raw, parsed, inTime, result, contexts⟩
      · exact .settled get _ _ member store gets waiting still contexts nothing
          absent
      · simp only [result]
        exact .handed get text envelope _ member store gets waiting still raw
          parsed inTime contexts

theorem effect_removeAsync
    (context : Option Nat)
    (key : Option JsString) :
    Effect correlation world (.removeAsync context key) .removed
      (removeAsync context key world) := by
  cases context with
  | none =>
      exact .removed _ _ _ rfl rfl rfl inStep fun _ => List.Subset.refl _
  | some context =>
      cases key with
      | none =>
          exact .removed _ _ _ rfl rfl rfl inStep fun _ => List.Subset.refl _
      | some key =>
          refine .removed _ _ _ rfl rfl rfl inStep fun other => ?_
          by_cases same : other = context
          · subst same
            simp only [removeAsync, Function.update_self]
            exact List.filter_subset_self _
          · simp only [removeAsync, Function.update_of_ne same]
            exact List.Subset.refl _

theorem effect_step
    (call : Call) :
    Effect correlation world call (correlation.step world call).2
      (correlation.step world call).1 := by
  cases call with
  | saveAsync key value =>
      obtain ⟨next, frame, later, failed | inserted⟩ :=
        saveAsync_cases inStep key value
      · obtain ⟨error, ran, fewer⟩ := failed
        rw [step, ran]
        exact .refused key value error next frame later fewer
      · rw [step, inserted.1]
        exact .saved key value next frame later inserted.2
  | getAsync context key => exact effect_startGet inStep context key
  | resume ticket => exact effect_resumeGet inStep ticket
  | removeAsync context key => exact effect_removeAsync inStep context key

end

theorem Effect.inStep
    {next : World}
    {call : Call}
    {answer : Answer}
    (effect : Effect correlation world call answer next)
    (before : correlation.InStep world) :
    correlation.InStep next := by
  cases effect <;> assumption

end Correlation

end Selene.Saml
