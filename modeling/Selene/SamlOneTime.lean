import Selene.SamlCalls

/-!
# Requests are correlated once

A request id that was saved is taken out of the store by at most one validation
context, and before it expires.  That context may be asked for it again, also
later: it answers from what it remembers.

The log of a run is compared with the world: what is stored was saved and has
not been taken since, and what a context remembers was taken for it.
-/

namespace Selene.Saml

open Js Identity

/-! ## Logs -/

abbrev Log := List (Taken World Correlation.Call Correlation.Answer)

/-- A request id is saved with a value. -/
def SavedAt (log : Log) (save : Nat) (key value : JsString) (createdAt : Nat) :
    Prop :=
  ∃ entry, log[save]? = some entry ∧ entry.call = .saveAsync key value ∧
    entry.answer = .saved (.ok ⟨value, createdAt⟩)

/-- A context asks the store. -/
def AskedAt (log : Log) (ask ticket context : Nat) (key : JsString)
    (raw : Except SamlRuntimeError (Option JsString)) : Prop :=
  ∃ entry, log[ask]? = some entry ∧ entry.call = .getAsync (some context) key ∧
    entry.answer = .waiting ticket raw

/-- A context takes a request id out of the store. -/
def TakenAt (log : Log) (ask context : Nat) (key : JsString) : Prop :=
  ∃ ticket text, AskedAt log ask ticket context key (.ok (some text))

/-- A context is handed a value. -/
def HandedAt (log : Log) (hand context : Nat) (key value : JsString) : Prop :=
  ∃ entry ticket, log[hand]? = some entry ∧
    entry.answer = .got ticket (some context) key (.ok (some value))

/-- The clock shows an instant before `expiresAt` when a call is made. -/
def MadeBefore (clock : Clock) (log : Log) (index expiresAt : Nat) : Prop :=
  ∃ entry, log[index]? = some entry ∧
    clock.reading entry.before.samples < expiresAt

/-- A request id has not been taken since it was saved. -/
def Untaken (log : Log) (save : Nat) (key : JsString) : Prop :=
  ∀ ask, save < ask → ∀ context, ¬ TakenAt log ask context key

/-- A take is the first one after a save of the same request id. -/
structure Matched (log : Log) (save ask context : Nat) (key value : JsString)
    (createdAt : Nat) : Prop where
  saved : SavedAt log save key value createdAt
  taken : TakenAt log ask context key
  ordered : save < ask
  first : ∀ between, save < between → between < ask →
    ∀ other, ¬ TakenAt log between other key

/-! ### Longer logs -/

section

variable {early log : Log}
  {entry : Taken World Correlation.Call Correlation.Answer}
  {index save createdAt ask ticket hand context : Nat}
  {key value : JsString} {raw : Except SamlRuntimeError (Option JsString)}

section

variable (isPrefix : early <+: log)

include isPrefix

theorem getElem?_of_prefix
    (found : early[index]? = some entry) :
    log[index]? = some entry := by
  obtain ⟨later, rfl⟩ := isPrefix
  rw [List.getElem?_append_left (List.getElem?_eq_some_iff.mp found).1]
  exact found

theorem getElem?_of_lt
    (isEarly : index < early.length) :
    log[index]? = early[index]? := by
  obtain ⟨later, rfl⟩ := isPrefix
  exact List.getElem?_append_left isEarly

theorem SavedAt.mono
    (saved : SavedAt early save key value createdAt) :
    SavedAt log save key value createdAt := by
  obtain ⟨entry, found, rest⟩ := saved
  exact ⟨entry, getElem?_of_prefix isPrefix found, rest⟩

omit isPrefix in
theorem SavedAt.lt_length
    (saved : SavedAt log save key value createdAt) :
    save < log.length := by
  obtain ⟨_, found, -⟩ := saved
  exact (List.getElem?_eq_some_iff.mp found).1

theorem AskedAt.mono
    (asked : AskedAt early ask ticket context key raw) :
    AskedAt log ask ticket context key raw := by
  obtain ⟨entry, found, rest⟩ := asked
  exact ⟨entry, getElem?_of_prefix isPrefix found, rest⟩

theorem AskedAt.of_lt
    (asked : AskedAt log ask ticket context key raw)
    (isEarly : ask < early.length) :
    AskedAt early ask ticket context key raw := by
  obtain ⟨entry, found, rest⟩ := asked
  exact ⟨entry, (getElem?_of_lt isPrefix isEarly) ▸ found, rest⟩

omit isPrefix in
theorem AskedAt.lt_length
    (asked : AskedAt log ask ticket context key raw) :
    ask < log.length := by
  obtain ⟨entry, found, -⟩ := asked
  exact (List.getElem?_eq_some_iff.mp found).1

theorem TakenAt.mono
    (taken : TakenAt early ask context key) :
    TakenAt log ask context key := by
  obtain ⟨ticket, text, asked⟩ := taken
  exact ⟨ticket, text, asked.mono isPrefix⟩

theorem TakenAt.of_lt
    (taken : TakenAt log ask context key)
    (isEarly : ask < early.length) :
    TakenAt early ask context key := by
  obtain ⟨ticket, text, asked⟩ := taken
  exact ⟨ticket, text, asked.of_lt isPrefix isEarly⟩

omit isPrefix in
theorem TakenAt.lt_length
    (taken : TakenAt log ask context key) :
    ask < log.length := by
  obtain ⟨_, _, asked⟩ := taken
  exact asked.lt_length

theorem HandedAt.mono
    (handed : HandedAt early hand context key value) :
    HandedAt log hand context key value := by
  obtain ⟨entry, ticket, found, rest⟩ := handed
  exact ⟨entry, ticket, getElem?_of_prefix isPrefix found, rest⟩

theorem MadeBefore.mono
    {clock : Clock}
    {index expiresAt : Nat}
    (made : MadeBefore clock early index expiresAt) :
    MadeBefore clock log index expiresAt := by
  obtain ⟨entry, found, rest⟩ := made
  exact ⟨entry, getElem?_of_prefix isPrefix found, rest⟩

theorem Matched.mono
    (matched : Matched early save ask context key value createdAt) :
    Matched log save ask context key value createdAt where
  saved := matched.saved.mono isPrefix
  taken := matched.taken.mono isPrefix
  ordered := matched.ordered
  first between after before other taken :=
    matched.first between after before other
      (taken.of_lt isPrefix (before.trans matched.taken.lt_length))

end

theorem Matched.unique
    {save ask other context otherContext createdAt otherCreatedAt : Nat}
    {key value otherKey otherValue : JsString}
    (matched : Matched log save ask context key value createdAt)
    (otherMatched :
      Matched log save other otherContext otherKey otherValue otherCreatedAt) :
    context = otherContext := by
  obtain ⟨entry, found, called, -⟩ := matched.saved
  obtain ⟨_, otherFound, otherCalled, -⟩ := otherMatched.saved
  cases Option.some.inj (found.symm.trans otherFound)
  cases called.symm.trans otherCalled
  rcases Nat.lt_trichotomy ask other with before | same | after
  · exact absurd matched.taken
      (otherMatched.first ask matched.ordered before context)
  · subst same
    obtain ⟨_, _, taking, taken, asking, -⟩ := matched.taken
    obtain ⟨_, _, _, otherTaken, otherAsking, -⟩ := otherMatched.taken
    cases Option.some.inj (taken.symm.trans otherTaken)
    cases asking.symm.trans otherAsking
    rfl
  · exact absurd otherMatched.taken
      (matched.first other otherMatched.ordered after otherContext)

theorem askedAt_append
    (asked : AskedAt (log ++ [entry]) ask ticket context key raw) :
    AskedAt log ask ticket context key raw ∨
      (ask = log.length ∧ entry.call = .getAsync (some context) key ∧
        entry.answer = .waiting ticket raw) := by
  rcases Nat.lt_or_ge ask log.length with early | late
  · exact .inl (asked.of_lt (List.prefix_append log [entry]) early)
  · obtain ⟨found, isFound, rest⟩ := asked
    have bound := (List.getElem?_eq_some_iff.mp isFound).1
    rw [List.length_append, List.length_singleton] at bound
    have last : ask = log.length := by omega
    subst last
    rw [List.getElem?_concat_length] at isFound
    cases Option.some.inj isFound
    exact .inr ⟨rfl, rest⟩

end

namespace Correlation

/-! ## What the log says about the world -/

variable (correlation : Correlation)

/-- What the store holds was saved and has not been taken since. -/
def Stored (log : Log) (entry : CorrelationEntry) : Prop :=
  ∃ save value createdAt, SavedAt log save entry.key value createdAt ∧
    createdAt + correlation.ttlMs ≤ JsNumber.maxSafeInteger ∧
    entry = correlation.entryOf entry.key value createdAt ∧
    Untaken log save entry.key

/-- What was taken had been saved. -/
def Answered (log : Log) (ask context : Nat) (key text : JsString) : Prop :=
  ∃ save value createdAt,
    Matched log save ask context key value createdAt ∧
      createdAt + correlation.ttlMs ≤ JsNumber.maxSafeInteger ∧
      text = (correlation.entryOf key value createdAt).envelope

/-- A value of a context was taken for it and handed to it in time. -/
def Remembered (log : Log) (context : Nat) (key value : JsString) : Prop :=
  ∃ save ask first createdAt,
    Matched log save ask context key value createdAt ∧
      save < first ∧ HandedAt log first context key value ∧
      MadeBefore correlation.clock log first (createdAt + correlation.ttlMs)

structure Tracks (log : Log) (world : World) : Prop where
  inStep : correlation.InStep world
  size : world.store.entries.size ≤ correlation.maxEntries
  stored : ∀ entry ∈ world.store.entries.rows, correlation.Stored log entry
  waiting : ∀ get ∈ world.waiting.rows,
    ∃ ask, AskedAt log ask get.ticket get.context get.key get.raw
  answered : ∀ ask ticket context key text,
    AskedAt log ask ticket context key (.ok (some text)) →
      correlation.Answered log ask context key text
  tickets : ∀ ask ticket context key raw,
    AskedAt log ask ticket context key raw → ticket < world.gets
  unique : ∀ ask other ticket context otherContext key otherKey raw otherRaw,
    AskedAt log ask ticket context key raw →
      AskedAt log other ticket otherContext otherKey otherRaw → ask = other
  remembered : ∀ context, ∀ row ∈ (world.contexts context).rows,
    correlation.Remembered log context row.key row.value

variable {correlation} {log : Log} {world next : World} {call : Call}
  {answer : Answer}

theorem tracks_start : correlation.Tracks [] World.start where
  inStep := inStep_start
  size := Nat.zero_le _
  stored := by simp [World.start, Table.empty]
  waiting := by simp [World.start, Table.empty]
  answered _ _ _ _ _ asked := absurd asked.lt_length (Nat.not_lt_zero _)
  tickets _ _ _ _ _ asked := absurd asked.lt_length (Nat.not_lt_zero _)
  unique _ _ _ _ _ _ _ _ _ asked :=
    absurd asked.lt_length (Nat.not_lt_zero _)
  remembered := by simp [World.start, Table.empty]

theorem Answered.mono
    {early : Log}
    (isPrefix : early <+: log)
    {ask context : Nat}
    {key text : JsString}
    (answered : correlation.Answered early ask context key text) :
    correlation.Answered log ask context key text := by
  obtain ⟨save, value, createdAt, matched, rest⟩ := answered
  exact ⟨save, value, createdAt, matched.mono isPrefix, rest⟩

theorem Remembered.mono
    {early : Log}
    (isPrefix : early <+: log)
    {context : Nat}
    {key value : JsString}
    (remembered : correlation.Remembered early context key value) :
    correlation.Remembered log context key value := by
  obtain ⟨save, ask, first, createdAt, matched, after, handed, made⟩ :=
    remembered
  exact ⟨save, ask, first, createdAt, matched.mono isPrefix, after,
    handed.mono isPrefix, made.mono isPrefix⟩

theorem Stored.append
    {entry : CorrelationEntry}
    (stored : correlation.Stored log entry)
    {made : Taken World Call Answer}
    (leaves : ∀ context ticket text,
      made.call = .getAsync (some context) entry.key →
        made.answer ≠ .waiting ticket (.ok (some text))) :
    correlation.Stored (log ++ [made]) entry := by
  obtain ⟨save, value, createdAt, saved, safe, isEntry, untaken⟩ := stored
  refine ⟨save, value, createdAt, saved.mono (List.prefix_append _ _), safe,
    isEntry, ?_⟩
  intro ask after context taken
  obtain ⟨ticket, text, asked⟩ := taken
  rcases askedAt_append asked with early | ⟨-, called, answered⟩
  · exact untaken ask after context ⟨ticket, text, early⟩
  · exact leaves context ticket text called answered

/-- The log with one more call. -/
def logged (log : Log) (world : World) (call : Call) (answer : Answer)
    (next : World) : Log :=
  log ++ [⟨world, call, answer, next⟩]

theorem prefix_logged :
    log <+: logged log world call answer next :=
  List.prefix_append _ _

theorem getElem?_logged :
    (logged log world call answer next)[log.length]? =
      some ⟨world, call, answer, next⟩ :=
  List.getElem?_concat_length

section

variable
  (tracks : correlation.Tracks log world)
  (effect : Effect correlation world call answer next)

include tracks effect

theorem Effect.size :
    next.store.entries.size ≤ correlation.maxEntries := by
  cases effect with
  | refused _ _ _ _ _ _ fewer => exact fewer.length_le.trans tracks.size
  | saved _ _ _ _ _ inserted =>
      obtain ⟨remaining, -, small, -, isRows⟩ := inserted.rows
      rw [Table.size, isRows, List.length_append, List.length_singleton]
      exact small
  | outside => exact tracks.size
  | cached => exact tracks.size
  | asked _ _ _ _ _ _ _ _ fewer => exact fewer.length_le.trans tracks.size
  | idle => exact tracks.size
  | settled _ _ _ _ store =>
      rw [store]
      exact tracks.size
  | handed _ _ _ _ _ store =>
      rw [store]
      exact tracks.size
  | removed _ _ _ store =>
      rw [store]
      exact tracks.size

theorem Effect.stored :
    ∀ entry ∈ next.store.entries.rows,
      correlation.Stored (logged log world call answer next) entry := by
  have kept : (∀ context key, call ≠ .getAsync context key) →
      ∀ entry ∈ world.store.entries.rows,
        correlation.Stored (logged log world call answer next) entry :=
    fun other entry member =>
      (tracks.stored entry member).append fun _ _ _ called =>
        absurd called (other _ _)
  have still : (∀ ticket text, answer ≠ .waiting ticket (.ok (some text))) →
      ∀ entry ∈ world.store.entries.rows,
        correlation.Stored (logged log world call answer next) entry :=
    fun other entry member =>
      (tracks.stored entry member).append fun _ ticket text _ =>
        other ticket text
  cases effect with
  | refused _ _ _ _ _ _ fewer =>
      intro entry member
      exact kept (by simp) entry (fewer.subset member)
  | saved key value _ _ _ inserted =>
      intro entry member
      obtain ⟨remaining, fewer, -, -, isRows⟩ := inserted.rows
      rw [isRows] at member
      rcases List.mem_append.mp member with old | new
      · exact kept (by simp) entry (fewer.subset old)
      · rw [List.mem_singleton.mp new]
        refine ⟨log.length, value, _, ⟨_, getElem?_logged, rfl, rfl⟩,
          inserted.safe, rfl, ?_⟩
        intro ask after context taken
        have bound := taken.lt_length
        rw [logged, List.length_append, List.length_singleton] at bound
        omega
  | outside => exact still (by simp)
  | cached => exact still (by simp)
  | asked context key raw _ _ _ _ _ fewer _ taken =>
      intro entry member
      refine (tracks.stored entry (fewer.subset member)).append ?_
      intro other ticket text called answered
      injection called with _ isKey
      injection answered with _ isRaw
      exact (taken text isRaw).2 entry member isKey.symm
  | idle => exact kept (by simp)
  | settled _ _ _ _ store =>
      rw [store]
      exact kept (by simp)
  | handed _ _ _ _ _ store =>
      rw [store]
      exact kept (by simp)
  | removed _ _ _ store =>
      rw [store]
      exact kept (by simp)

theorem Effect.waiting :
    ∀ get ∈ next.waiting.rows,
      ∃ ask, AskedAt (logged log world call answer next) ask get.ticket
        get.context get.key get.raw := by
  have kept : ∀ get ∈ world.waiting.rows,
      ∃ ask, AskedAt (logged log world call answer next) ask get.ticket
        get.context get.key get.raw := by
    intro get member
    obtain ⟨ask, asked⟩ := tracks.waiting get member
    exact ⟨ask, asked.mono prefix_logged⟩
  cases effect with
  | refused _ _ _ _ frame =>
      rw [frame.waiting]
      exact kept
  | saved _ _ _ frame =>
      rw [frame.waiting]
      exact kept
  | outside => exact kept
  | cached => exact kept
  | asked context key raw _ _ _ waiting =>
      intro get member
      rw [waiting] at member
      rcases Table.mem_set.mp member with rfl | ⟨old, _⟩
      · exact ⟨log.length, _, getElem?_logged, rfl, rfl⟩
      · exact kept get old
  | idle => exact kept
  | settled _ _ _ _ _ _ waiting =>
      intro get member
      rw [waiting] at member
      exact kept get (Table.mem_delete.mp member).1
  | handed _ _ _ _ _ _ _ waiting =>
      intro get member
      rw [waiting] at member
      exact kept get (Table.mem_delete.mp member).1
  | removed _ _ _ _ _ waiting =>
      rw [waiting]
      exact kept

omit tracks in
theorem Effect.gets_le :
    world.gets ≤ next.gets := by
  cases effect with
  | refused _ _ _ _ frame => exact frame.gets.ge
  | saved _ _ _ frame => exact frame.gets.ge
  | outside => exact Nat.le_refl _
  | cached => exact Nat.le_refl _
  | asked _ _ _ _ _ gets => exact gets ▸ Nat.le_succ _
  | idle => exact Nat.le_refl _
  | settled _ _ _ _ _ gets => exact gets.ge
  | handed _ _ _ _ _ _ gets => exact gets.ge
  | removed _ _ _ _ gets => exact gets.ge

omit tracks in
theorem Effect.ticket
    {ticket : Nat}
    {raw : Except SamlRuntimeError (Option JsString)}
    (waits : answer = .waiting ticket raw) :
    ticket = world.gets ∧ next.gets = world.gets + 1 := by
  cases effect with
  | asked _ _ _ _ _ gets =>
      injection waits with isTicket _
      exact ⟨isTicket.symm, gets⟩
  | _ => cases waits

theorem Effect.tickets
    {ask ticket context : Nat}
    {key : JsString}
    {raw : Except SamlRuntimeError (Option JsString)}
    (asked : AskedAt (logged log world call answer next) ask ticket context key
      raw) :
    ticket < next.gets := by
  rcases askedAt_append asked with early | ⟨-, -, waits⟩
  · exact (tracks.tickets _ _ _ _ _ early).trans_le effect.gets_le
  · obtain ⟨isTicket, gets⟩ := effect.ticket waits
    omega

theorem Effect.unique
    {ask other ticket context otherContext : Nat}
    {key otherKey : JsString}
    {raw otherRaw : Except SamlRuntimeError (Option JsString)}
    (asked : AskedAt (logged log world call answer next) ask ticket context key
      raw)
    (otherAsked : AskedAt (logged log world call answer next) other ticket
      otherContext otherKey otherRaw) :
    ask = other := by
  rcases askedAt_append asked with early | ⟨last, -, waits⟩
  · rcases askedAt_append otherAsked with otherEarly | ⟨-, -, otherWaits⟩
    · exact tracks.unique _ _ _ _ _ _ _ _ _ early otherEarly
    · have below := tracks.tickets _ _ _ _ _ early
      have isTicket := (effect.ticket otherWaits).1
      omega
  · rcases askedAt_append otherAsked with otherEarly | ⟨otherLast, -, -⟩
    · have below := tracks.tickets _ _ _ _ _ otherEarly
      have isTicket := (effect.ticket waits).1
      omega
    · rw [last, otherLast]

/-- What a call takes out of the store had been saved. -/
theorem Effect.answered
    {ask ticket context : Nat}
    {key text : JsString}
    (asked : AskedAt (logged log world call answer next) ask ticket context key
      (.ok (some text))) :
    correlation.Answered (logged log world call answer next) ask context key
      text := by
  have taken : TakenAt (logged log world call answer next) ask context key :=
    ⟨ticket, text, asked⟩
  rcases askedAt_append asked with early | ⟨rfl, called, waits⟩
  · exact (tracks.answered _ _ _ _ _ early).mono prefix_logged
  · dsimp only at called waits
    subst called
    cases effect with
    | asked _ _ raw _ _ _ _ _ _ _ gone =>
        injection waits with _ isRaw
        obtain ⟨entry, member, isKey, isText⟩ := (gone text isRaw).1
        obtain ⟨save, value, createdAt, saved, safe, isEntry, untaken⟩ :=
          tracks.stored entry member
        subst isKey
        refine ⟨save, value, createdAt, ⟨saved.mono prefix_logged, taken,
          saved.lt_length, ?_⟩, safe, ?_⟩
        · intro between after before other otherTaken
          exact untaken between after other
            (otherTaken.of_lt prefix_logged before)
        · rw [← isText, ← isEntry]
    | cached => cases waits

theorem Effect.remembered :
    ∀ context, ∀ row ∈ (next.contexts context).rows,
      correlation.Remembered (logged log world call answer next) context
        row.key row.value := by
  have kept : ∀ context, ∀ row ∈ (world.contexts context).rows,
      correlation.Remembered (logged log world call answer next) context
        row.key row.value :=
    fun context row member =>
      (tracks.remembered context row member).mono prefix_logged
  cases effect with
  | refused _ _ _ _ frame =>
      rw [frame.contexts]
      exact kept
  | saved _ _ _ frame =>
      rw [frame.contexts]
      exact kept
  | outside => exact kept
  | cached => exact kept
  | asked _ _ _ _ contexts =>
      rw [contexts]
      exact kept
  | idle => exact kept
  | settled _ _ _ _ _ _ _ _ contexts =>
      rw [contexts]
      exact kept
  | handed get text envelope _ member _ _ _ _ raw parsed inTime contexts =>
      intro context row isRow
      rw [contexts] at isRow
      by_cases same : context = get.context
      · subst same
        rw [Function.update_self] at isRow
        rcases Table.mem_set.mp isRow with rfl | ⟨old, _⟩
        · obtain ⟨ask, asked⟩ := tracks.waiting get member
          rw [raw] at asked
          obtain ⟨save, value, createdAt, matched, safe, isText⟩ :=
            tracks.answered _ _ _ _ _ asked
          rw [isText] at parsed
          obtain ⟨-, rfl, -⟩ := (CorrelationEnvelope.parse_text
            ((Nat.le_add_right _ _).trans safe) safe).mp parsed
          exact ⟨save, ask, log.length, createdAt,
            matched.mono prefix_logged, matched.saved.lt_length,
            ⟨_, _, getElem?_logged, rfl⟩, ⟨_, getElem?_logged, inTime⟩⟩
        · exact kept _ row old
      · rw [Function.update_of_ne same] at isRow
        exact kept context row isRow
  | removed _ _ _ _ _ _ _ fewer =>
      intro context row isRow
      exact kept context row (fewer context isRow)

omit tracks in
theorem Effect.handedAt
    {ticket : Option Nat}
    {context : Nat}
    {key value : JsString}
    (hands : answer = .got ticket (some context) key (.ok (some value))) :
    ∃ row ∈ (next.contexts context).rows, row.key = key ∧ row.value = value := by
  cases effect with
  | cached other row member =>
      cases hands
      exact ⟨row, member, rfl, rfl⟩
  | settled _ _ _ _ _ _ _ _ _ nothing =>
      injection hands with _ _ _ isResult
      exact absurd isResult (nothing value)
  | handed get _ envelope _ _ _ _ _ _ _ _ _ contexts =>
      cases hands
      rw [contexts, Function.update_self]
      exact ⟨_, Table.mem_set.mpr (.inl rfl), rfl, rfl⟩
  | _ => cases hands

end

theorem Effect.tracks
    (effect : Effect correlation world call answer next)
    (before : correlation.Tracks log world) :
    correlation.Tracks (logged log world call answer next) next where
  inStep := effect.inStep before.inStep
  size := effect.size before
  stored := effect.stored before
  waiting := effect.waiting before
  answered _ _ _ _ _ asked := effect.answered before asked
  tickets _ _ _ _ _ asked := effect.tickets before asked
  unique _ _ _ _ _ _ _ _ _ asked otherAsked :=
    effect.unique before asked otherAsked
  remembered := effect.remembered before

/-! ## Runs -/

variable (correlation) in
/-- The log of a run. -/
def run (calls : List Call) : Log :=
  taken correlation.step World.start calls

variable {entry : Taken World Call Answer} {calls : List Call}

theorem tracks_run
    {index : Nat}
    (found : (correlation.run calls)[index]? = some entry) :
    correlation.Tracks ((correlation.run calls).take index) entry.before ∧
      Effect correlation entry.before entry.call entry.answer entry.after ∧
      correlation.Tracks ((correlation.run calls).take (index + 1))
        entry.after := by
  obtain ⟨before, isEntry⟩ :=
    tracks_before correlation.Tracks
      (fun log world call tracks =>
        (effect_step tracks.inStep call).tracks tracks)
      tracks_start found
  have effect : Effect correlation entry.before entry.call entry.answer
      entry.after := by
    rw [isEntry]
    exact effect_step before.inStep entry.call
  have longer : (correlation.run calls).take (index + 1) =
      logged ((correlation.run calls).take index) entry.before entry.call
        entry.answer entry.after := by
    rw [List.take_add_one, found]
    rfl
  rw [longer]
  exact ⟨before, effect, effect.tracks before⟩

/-- Each value that is handed out was saved, taken once, and in time. -/
theorem remembered_of_handedAt
    {hand context : Nat}
    {key value : JsString}
    (handed : HandedAt (correlation.run calls) hand context key value) :
    correlation.Remembered ((correlation.run calls).take (hand + 1)) context key
      value := by
  obtain ⟨entry, ticket, found, hands⟩ := handed
  obtain ⟨-, effect, after⟩ := tracks_run found
  obtain ⟨row, member, rfl, rfl⟩ := effect.handedAt hands
  exact after.remembered context row member

theorem absent_of_taken
    {world : World}
    {log : Log}
    {key : JsString}
    (tracks : correlation.Tracks log world)
    (consumed : ∀ save value createdAt, SavedAt log save key value createdAt →
      ∃ ask context, save < ask ∧ TakenAt log ask context key) :
    ∀ entry ∈ world.store.entries.rows, entry.key ≠ key := by
  rintro entry member rfl
  obtain ⟨save, value, createdAt, saved, -, -, untaken⟩ :=
    tracks.stored entry member
  obtain ⟨ask, context, after, taken⟩ := consumed save value createdAt saved
  exact untaken ask after context taken

theorem tracks_all
    (calls : List Call) :
    ∃ world, correlation.Tracks (correlation.run calls) world :=
  ⟨_, takeAll_tracks correlation.Tracks (fun _ _ => True)
    (fun _ _ call tracks _ => (effect_step tracks.inStep call).tracks tracks)
    tracks_start fun _ _ => trivial⟩

theorem settles_absent
    {ask settle ticket context : Nat}
    {key otherKey : JsString}
    {otherContext : Option Nat}
    {result : Except SamlRuntimeError (Option JsString)}
    (asked : AskedAt (correlation.run calls) ask ticket context key (.ok none))
    (found : (correlation.run calls)[settle]? = some entry)
    (settles : entry.answer = .got (some ticket) otherContext otherKey result) :
    result = .ok none := by
  obtain ⟨before, effect, -⟩ := tracks_run found
  obtain ⟨_, all⟩ := @tracks_all correlation calls
  have raw : ∀ get ∈ entry.before.waiting.rows, get.ticket = ticket →
      get.raw = .ok none := by
    rintro get member rfl
    obtain ⟨other, early⟩ := before.waiting get member
    have otherAsked := early.mono (List.take_prefix _ _)
    have same := all.unique _ _ _ _ _ _ _ _ _ asked otherAsked
    subst same
    obtain ⟨_, isEntry, -, answered⟩ := asked
    obtain ⟨_, isOther, -, otherAnswered⟩ := otherAsked
    cases Option.some.inj (isEntry.symm.trans isOther)
    have same := answered.symm.trans otherAnswered
    injection same with _ same
    exact same.symm
  obtain ⟨world, call, answer, next⟩ := entry
  dsimp only at effect settles raw
  subst settles
  cases effect with
  | settled get _ _ member _ _ _ _ _ _ absent =>
      exact absent (raw get member rfl)
  | handed get _ _ _ member _ _ _ _ isText =>
      rw [raw get member rfl] at isText
      cases isText

end Correlation

/-! ## Correlation is one-time -/

/--
What a run promises.  `origin` gives the save behind each value that is handed
to a context: no other context is handed anything that comes from it, and the
context was first handed the value before it expired.
-/
structure OneTime (correlation : Correlation) (log : Log) : Prop where
  handedOnce : ∃ origin : Nat → Nat, ∀ hand context key value,
    HandedAt log hand context key value →
      (∃ createdAt first,
        SavedAt log (origin hand) key value createdAt ∧
          origin hand < first ∧ first ≤ hand ∧
          HandedAt log first context key value ∧
          MadeBefore correlation.clock log first
            (createdAt + correlation.ttlMs)) ∧
      ∀ other otherContext otherKey otherValue,
        HandedAt log other otherContext otherKey otherValue →
          origin other = origin hand → otherContext = context
  unknown : ∀ ask entry context key, log[ask]? = some entry →
    entry.call = .getAsync (some context) key → IsCorrelationKey key →
      (∀ save value createdAt, save < ask →
        SavedAt log save key value createdAt →
          ∃ take other, save < take ∧ take < ask ∧ TakenAt log take other key) →
      (∀ take, take < ask → ¬ TakenAt log take context key) →
      ∃ ticket, entry.answer = .waiting ticket (.ok none) ∧
        ∀ (settle : Nat) later settledContext settledKey result,
          log[settle]? = some later →
            later.answer = .got (some ticket) settledContext settledKey result →
              result = .ok none
  neverReplaced : ∀ entry ∈ log,
    ∀ old ∈ entry.before.store.entries.rows,
      ∀ new ∈ entry.after.store.entries.rows, new.key = old.key →
        new = old ∨ ∃ sample, sample < entry.after.samples ∧
          old.expiresAt ≤ correlation.clock.reading sample
  bounded : ∀ entry ∈ log,
    entry.after.store.entries.size ≤ correlation.maxEntries

namespace Correlation

variable {correlation : Correlation} {calls : List Call}

/-- An entry of the store is replaced only when it has expired. -/
theorem Effect.neverReplaced
    {world next : World}
    {call : Call}
    {answer : Answer}
    (effect : Effect correlation world call answer next)
    {old new : CorrelationEntry}
    (isOld : old ∈ world.store.entries.rows)
    (isNew : new ∈ next.store.entries.rows)
    (sameKey : new.key = old.key) :
    new = old ∨ ∃ sample, sample < next.samples ∧
      old.expiresAt ≤ correlation.clock.reading sample := by
  have kept : new ∈ world.store.entries.rows → new = old :=
    fun member => Table.eq_of_mem member isOld sameKey
  cases effect with
  | refused _ _ _ _ _ _ fewer => exact .inl (kept (fewer.subset isNew))
  | saved key value _ _ _ inserted =>
      obtain ⟨remaining, fewer, -, -, isRows⟩ := inserted.rows
      rw [isRows] at isNew
      rcases List.mem_append.mp isNew with stays | added
      · exact .inl (kept (fewer.subset stays))
      · cases List.mem_singleton.mp added
        exact .inr (inserted.expired old isOld sameKey.symm)
  | outside => exact .inl (kept isNew)
  | cached => exact .inl (kept isNew)
  | asked _ _ _ _ _ _ _ _ fewer => exact .inl (kept (fewer.subset isNew))
  | idle => exact .inl (kept isNew)
  | settled _ _ _ _ store =>
      rw [store] at isNew
      exact .inl (kept isNew)
  | handed _ _ _ _ _ store =>
      rw [store] at isNew
      exact .inl (kept isNew)
  | removed _ _ _ store =>
      rw [store] at isNew
      exact .inl (kept isNew)

theorem asks_absent
    {ask context : Nat}
    {entry : Taken World Call Answer}
    {key : JsString}
    (found : (correlation.run calls)[ask]? = some entry)
    (called : entry.call = .getAsync (some context) key)
    (isKey : IsCorrelationKey key)
    (consumed : ∀ save value createdAt, save < ask →
      SavedAt (correlation.run calls) save key value createdAt →
        ∃ take other, save < take ∧ take < ask ∧
          TakenAt (correlation.run calls) take other key)
    (others : ∀ take, take < ask →
      ¬ TakenAt (correlation.run calls) take context key) :
    ∃ ticket, entry.answer = .waiting ticket (.ok none) := by
  obtain ⟨tracks, effect, -⟩ := tracks_run found
  have length : ((correlation.run calls).take ask).length = ask := by
    rw [List.length_take]
    exact Nat.min_eq_left (List.getElem?_eq_some_iff.mp found).1.le
  have isPrefix := List.take_prefix ask (correlation.run calls)
  have absent : ∀ entry' ∈ entry.before.store.entries.rows, entry'.key ≠ key := by
    refine absent_of_taken tracks fun save value createdAt saved => ?_
    obtain ⟨take, other, after, before, taken⟩ := consumed save value createdAt
      (saved.lt_length.trans_eq length) (saved.mono isPrefix)
    exact ⟨take, other, after, taken.of_lt isPrefix (before.trans_eq length.symm)⟩
  obtain ⟨world, call, answer, next⟩ := entry
  dsimp only at effect called absent tracks
  subst called
  cases effect with
  | cached _ row member =>
      obtain ⟨_, take, _, _, matched, -⟩ := tracks.remembered _ row member
      exact absurd (matched.taken.mono isPrefix)
        (others take (matched.taken.lt_length.trans_eq length))
  | asked _ _ raw _ _ _ _ _ _ answered taken =>
      obtain ⟨text, rfl⟩ := answered isKey
      cases text with
      | none => exact ⟨_, rfl⟩
      | some text =>
          obtain ⟨stored, member, same, -⟩ := (taken text rfl).1
          exact absurd same (absent stored member)

/-- Every run correlates requests once. -/
theorem oneTime_run
    (correlation : Correlation)
    (calls : List Call) :
    OneTime correlation (correlation.run calls) where
  handedOnce := by
    have origins : ∀ hand, ∃ origin, ∀ context key value,
        HandedAt (correlation.run calls) hand context key value →
          ∃ take first createdAt,
            Matched (correlation.run calls) origin take context key value
                createdAt ∧
              origin < first ∧ first ≤ hand ∧
              HandedAt (correlation.run calls) first context key value ∧
              MadeBefore correlation.clock (correlation.run calls) first
                (createdAt + correlation.ttlMs) := by
      intro hand
      by_cases handed : ∃ context key value,
          HandedAt (correlation.run calls) hand context key value
      · obtain ⟨context, key, value, handed⟩ := handed
        obtain ⟨save, take, first, createdAt, matched, after, firstHanded, made⟩ :=
          remembered_of_handedAt handed
        have isPrefix := List.take_prefix (hand + 1) (correlation.run calls)
        refine ⟨save, fun otherContext otherKey otherValue otherHanded => ?_⟩
        obtain ⟨entry, ticket, found, hands⟩ := handed
        obtain ⟨_, otherTicket, otherFound, otherHands⟩ := otherHanded
        cases Option.some.inj (found.symm.trans otherFound)
        have same := hands.symm.trans otherHands
        injection same with _ sameContext sameKey sameResult
        injection sameContext with sameContext
        injection sameResult with sameResult
        injection sameResult with sameValue
        subst sameContext sameKey sameValue
        have bound : first < hand + 1 := by
          obtain ⟨_, _, isFirst, -⟩ := firstHanded
          exact ((List.getElem?_eq_some_iff.mp isFirst).1).trans_le
            (List.length_take_le _ _)
        exact ⟨take, first, createdAt, matched.mono isPrefix, after,
          Nat.le_of_lt_succ bound, firstHanded.mono isPrefix,
          made.mono isPrefix⟩
      · refine ⟨0, fun context key value isHanded => ?_⟩
        exact absurd ⟨context, key, value, isHanded⟩ handed
    choose origin comes using origins
    refine ⟨origin, fun hand context key value handed => ?_⟩
    obtain ⟨take, first, createdAt, matched, after, before, rest⟩ :=
      comes hand context key value handed
    refine ⟨⟨createdAt, first, matched.saved, after, before, rest⟩, ?_⟩
    intro other otherContext otherKey otherValue otherHanded same
    obtain ⟨_, _, _, otherMatched, -⟩ :=
      comes other otherContext otherKey otherValue otherHanded
    rw [same] at otherMatched
    exact otherMatched.unique matched
  unknown ask entry context key found called isKey consumed others := by
    obtain ⟨ticket, answered⟩ := asks_absent found called isKey consumed others
    exact ⟨ticket, answered, fun settle later _ _ result isLater settles =>
      settles_absent ⟨entry, found, called, answered⟩ isLater settles⟩
  neverReplaced := by
    intro entry member old isOld new isNew sameKey
    obtain ⟨index, bound, rfl⟩ := List.getElem_of_mem member
    exact (tracks_run (List.getElem?_eq_getElem bound)).2.1.neverReplaced isOld
      isNew sameKey
  bounded := by
    intro entry member
    obtain ⟨index, bound, rfl⟩ := List.getElem_of_mem member
    exact (tracks_run (List.getElem?_eq_getElem bound)).2.2.size

end Correlation

/-! ## Asking again -/

/-- A clock that moves on by twenty seconds after six readings. -/
def jumpingClock : Clock where
  reading sample := if sample < 6 then 0 else 20000
  monotone := by
    intro first second ordered
    show ite _ _ _ ≤ ite _ _ _
    split <;> split <;> omega
  safe sample := by
    show ite _ _ _ ≤ _
    split <;> decide

namespace Correlation

/-- Room for one request, and ten seconds for each. -/
noncomputable def brief : Correlation where
  format := exactNumerals
  clock := jumpingClock
  maxEntries := 1
  capacity := by decide
  ttlMs := 10000

/-- A request id is saved and a context has asked for it. -/
noncomputable def briefAsked : World :=
  takeAll brief.step World.start
    [.saveAsync (js "id") (js "v"), .getAsync (some 0) (js "id")]

/-- The context has been handed the value. -/
noncomputable def briefHanded : World :=
  { briefAsked with
    samples := 6
    waiting := briefAsked.waiting.delete 0
    contexts := Function.update briefAsked.contexts 0
      ((briefAsked.contexts 0).set ⟨js "id", js "v"⟩) }

/-- Other requests, and the first one again. -/
def briefLater : List Call :=
  [.getAsync (some 1) (js "other"), .getAsync (some 1) [], .resume 2,
    .getAsync (some 0) (js "id")]

def briefCalls : List Call :=
  .saveAsync (js "id") (js "v") :: .getAsync (some 0) (js "id") ::
    .resume 0 :: briefLater

theorem resumeGet_of_parsed
    {correlation : Correlation}
    {world : World}
    {get : WaitingGet}
    {text : JsString}
    {envelope : CorrelationEnvelope}
    (found : world.waiting.find? get.ticket = some get)
    (raw : get.raw = .ok (some text))
    (parsed : parseCorrelationEnvelope correlation.format text = .ok envelope)
    (fresh : correlation.clock.reading world.samples < envelope.expiresAt ∧
      envelope.createdAt ≤ correlation.clock.reading world.samples ∧
      envelope.expiresAt - envelope.createdAt = correlation.ttlMs) :
    correlation.resumeGet get.ticket world =
      ({ world with
          samples := world.samples + 1
          waiting := world.waiting.delete get.ticket
          contexts := Function.update world.contexts get.context
            ((world.contexts get.context).set ⟨get.key, envelope.value⟩) },
        .got (some get.ticket) (some get.context) get.key
          (.ok (some envelope.value))) := by
  have finished : correlation.finishGet get.context get.key get.raw
      { world with waiting := world.waiting.delete get.ticket } =
      (.ok (some envelope.value),
        { world with
          samples := world.samples + 1
          waiting := world.waiting.delete get.ticket
          contexts := Function.update world.contexts get.context
            ((world.contexts get.context).set ⟨get.key, envelope.value⟩) }) := by
    rw [raw]
    simp only [finishGet, FailingState.bind_apply, FailingState.lift_apply,
      parsed, now, check_of fresh]
    rfl
  rw [resumeGet, found]
  simp only [finished]

theorem step_briefAsked :
    brief.step briefAsked (.resume 0) =
      (briefHanded, .got (some 0) (some 0) (js "id") (.ok (some (js "v")))) := by
  have found : briefAsked.waiting.find? 0 =
      some ⟨0, 0, js "id",
        .ok (some (brief.entryOf (js "id") (js "v") 0).envelope)⟩ := by
    decide +kernel
  have samples : briefAsked.samples = 5 := by
    decide +kernel
  have parsed : parseCorrelationEnvelope brief.format
      (brief.entryOf (js "id") (js "v") 0).envelope =
      .ok ⟨0, 10000, js "v"⟩ := by
    refine (CorrelationEnvelope.parse_text (by decide) (by decide)).mpr
      ⟨?_, rfl, by decide, ?_, ?_⟩
    · decide +kernel
    · decide +kernel
    · decide +kernel
  have fresh : brief.clock.reading briefAsked.samples < 10000 ∧
      0 ≤ brief.clock.reading briefAsked.samples ∧ 10000 - 0 = brief.ttlMs := by
    rw [samples]
    decide
  have resumed := @resumeGet_of_parsed brief briefAsked
    ⟨0, 0, js "id", .ok (some _)⟩ _ _ found rfl parsed fresh
  rw [samples] at resumed
  exact resumed

theorem run_brief :
    brief.run briefCalls =
      Js.take brief.step World.start (.saveAsync (js "id") (js "v")) ::
        Js.take brief.step
          (brief.step World.start (.saveAsync (js "id") (js "v"))).1
          (.getAsync (some 0) (js "id")) ::
        Js.take brief.step briefAsked (.resume 0) ::
        taken brief.step briefHanded briefLater := by
  rw [run, briefCalls, taken, taken, taken]
  have next : (brief.step briefAsked (.resume 0)).1 = briefHanded := by
    rw [step_briefAsked]
  rw [← next]
  rfl

theorem savedAt_brief
    {save createdAt : Nat}
    {key value : JsString}
    (saved : SavedAt (brief.run briefCalls) save key value createdAt) :
    key = js "id" ∧ createdAt = 0 := by
  obtain ⟨entry, found, called, answered⟩ := saved
  have isCall : briefCalls[save]? = some (.saveAsync key value) := by
    rw [← @map_call_taken _ _ _ brief.step World.start briefCalls,
      List.getElem?_map]
    rw [run] at found
    rw [found, Option.map_some, called]
  cases save with
  | zero =>
      injection Option.some.inj isCall with isKey isValue
      subst isKey isValue
      rw [run_brief] at found
      cases Option.some.inj found
      have first : (brief.step World.start
          (.saveAsync (js "id") (js "v"))).2 = .saved (.ok ⟨js "v", 0⟩) := by
        decide +kernel
      have same := first.symm.trans answered
      injection same with same
      injection same with same
      injection same with _ isCreated
      exact ⟨rfl, isCreated.symm⟩
  | succ later =>
      rw [briefCalls, List.getElem?_cons_succ] at isCall
      have member := List.mem_of_getElem? isCall
      simp [briefLater] at member

/--
A context that is asked again answers after the request id has expired, and a
text that cannot be a request id is refused although it was never saved.
-/
theorem repeated_afterExpiry :
    ∃ (correlation : Correlation) (calls : List Call),
      (∃ hand context key value,
        HandedAt (correlation.run calls) hand context key value ∧
          ∀ save createdAt,
            SavedAt (correlation.run calls) save key value createdAt →
              ¬ MadeBefore correlation.clock (correlation.run calls) hand
                (createdAt + correlation.ttlMs)) ∧
      ∃ (settle : Nat) (entry : Taken World Call Answer) (context : Nat)
          (key : JsString) (error : SamlRuntimeError),
        (correlation.run calls)[settle]? = some entry ∧
          entry.answer = .got (some 2) (some context) key (.error error) ∧
          ∀ save value createdAt,
            ¬ SavedAt (correlation.run calls) save key value createdAt := by
  refine ⟨brief, briefCalls,
    ⟨6, 0, js "id", js "v", ?_, fun save createdAt saved => ?_⟩,
    5, _, 1, [], correlationFailure "SAML correlation store failed",
    by rw [run_brief]; rfl, ?_, fun save value createdAt saved => ?_⟩
  · rw [run_brief]
    refine ⟨_, none, rfl, ?_⟩
    decide +kernel
  · obtain ⟨-, rfl⟩ := savedAt_brief saved
    rintro ⟨entry, found, early⟩
    rw [run_brief] at found
    cases Option.some.inj found
    have late : (10000 : Nat) ≤ brief.clock.reading (takeAll brief.step briefHanded
        [.getAsync (some 1) (js "other"), .getAsync (some 1) [],
          .resume 2]).samples := by
      decide +kernel
    exact absurd early (Nat.not_lt_of_le late)
  · decide +kernel
  · exact absurd (savedAt_brief saved).1 (by decide +kernel)

end Correlation

end Selene.Saml
