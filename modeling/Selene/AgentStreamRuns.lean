import Selene.AgentStream

/-!
# Runs of validated event streams

A run is any list of inputs of the generator.  `Moves` lists what one input can
do, `Tracks` relates the log of a run to the state it has reached, and
`stream_run` says what holds of every answer after the earlier ones.
-/

namespace Selene.Agent

open Js

/-- One input of a run. -/
abbrev StreamEntry := Taken StreamState StreamInput StreamAnswer

namespace StreamEntry

def Yields (event : EventEnvelope) (entry : StreamEntry) : Prop :=
  entry.answer.told = some (.yielded event)

/-- The consumer is told something other than an event. -/
def IsOver (entry : StreamEntry) : Prop :=
  ∃ answer, entry.answer.told = some answer ∧
    ∀ event, answer ≠ .yielded event

/-- The adapter reports that it is done. -/
def ReportsDone (entry : StreamEntry) : Prop :=
  ∃ value, entry.call = .produced (.ok value) ∧
    validateIteratorResult value = .ok .done

/-- The event that is yielded, if one is. -/
def yielded? (entry : StreamEntry) : Option EventEnvelope :=
  match entry.answer.told with
  | some (.yielded event) => some event
  | _ => none

end StreamEntry

/-- The events that were yielded, in order. -/
def yieldedEvents (log : List StreamEntry) : List EventEnvelope :=
  log.filterMap StreamEntry.yielded?

/-- The bytes of the frames of events. -/
def eventBytes (format : NumberFormat) (events : List EventEnvelope) : Nat :=
  (events.map fun event =>
    utf8Length (terminated (envelopeLine format event.envelope))).sum

/-- How often the cleanup of the iterator was run. -/
def cleanups (log : List StreamEntry) : Nat :=
  (log.flatMap fun entry => entry.answer.called).count .cleanup

/-- An event that is valid for the request of the arguments. -/
def IsValid (format : NumberFormat)
    (given : Except AgentProtocolError StreamArguments)
    (event : EventEnvelope) : Prop :=
  (∃ candidate, validateEventEnvelope format candidate = .ok event) ∧
    ∃ arguments, given = .ok arguments ∧
      event.requestId = arguments.requestId

/-- The last thing the consumer was told is a terminal event. -/
def EndsWithTerminal (earlier : List StreamEntry) : Prop :=
  ∃ before last silent event, earlier = before ++ last :: silent ∧
    last.Yields event ∧ event.IsTerminal ∧ last.ReportsDone ∧
    ∀ other ∈ silent, other.answer.told = none

/-- What holds of an answer after the earlier inputs of a run. -/
structure LawfulStream (format : NumberFormat)
    (given : Except AgentProtocolError StreamArguments)
    (earlier : List StreamEntry) (entry : StreamEntry) : Prop where
  valid : ∀ event, entry.Yields event → IsValid format given event
  /-- Nothing is yielded after a terminal event. -/
  endsOnce : ∀ event, entry.Yields event →
    ∀ earlierEvent ∈ yieldedEvents earlier, ¬ earlierEvent.IsTerminal
  /-- Nothing is yielded after the end. -/
  nothingAfter : ∀ event, entry.Yields event →
    ∀ other ∈ earlier, ¬ other.IsOver
  /-- The generator finishes exactly when it is resumed after its terminal event. -/
  finishes : entry.answer.told = some .finished ↔
    entry.call = .resume ∧ EndsWithTerminal earlier
  withinEvents :
    (yieldedEvents (earlier ++ [entry])).length ≤ maxAdapterEvents
  withinBytes :
    eventBytes format (yieldedEvents (earlier ++ [entry])) ≤
      maxAdapterStreamBytes
  /-- Only protocol errors are thrown, unless the consumer throws itself. -/
  protocolErrors : ∀ thrown, entry.answer.told = some (.threw thrown) →
    (∀ raised, entry.call ≠ .raise raised) → ∃ error, thrown = .trusted error
  cleanedUpOnce : cleanups (earlier ++ [entry]) ≤ 1

/-! ## One input -/

variable {format : NumberFormat}
  {given : Except AgentProtocolError StreamArguments}

/-- What an input can do. -/
inductive Moves (format : NumberFormat)
    (given : Except AgentProtocolError StreamArguments) :
    StreamState → StreamInput → StreamState → StreamAnswer → Prop where
  | ignored (state : StreamState) (input : StreamInput) :
      (state = .yieldedLast → input ≠ .resume) →
      Moves format given state input state silence
  | opens (arguments : StreamArguments) :
      prepareStream given = .ok arguments →
      Moves format given .start .resume (.opening arguments.requestId)
        ⟨[.stream], none⟩
  | iterates (requestId : JsString) (stream : AdapterStream) (closes : Bool) :
      Moves format given (.opening requestId) (.streamed (.ok stream))
        (.reading requestId ⟨0, 0⟩ closes) ⟨[.next], none⟩
  | progresses (requestId : JsString) (progress next : StreamProgress)
      (closes : Bool) (result : Except EffectFailure AdapterResult)
      (candidate : Candidate) (event : EventEnvelope) :
      admitEvent format requestId progress candidate = .ok (next, event) →
      ¬ event.IsTerminal →
      Moves format given (.reading requestId progress closes)
        (.produced result) (.yielded requestId next closes)
        ⟨[], some (.yielded event)⟩
  | looksAhead (requestId : JsString) (progress next : StreamProgress)
      (closes : Bool) (result : Except EffectFailure AdapterResult)
      (candidate : Candidate) (event : EventEnvelope) :
      admitEvent format requestId progress candidate = .ok (next, event) →
      event.IsTerminal →
      Moves format given (.reading requestId progress closes)
        (.produced result) (.trailing event closes) ⟨[.next], none⟩
  | lasts (event : EventEnvelope) (closes : Bool) (value : AdapterResult) :
      validateIteratorResult value = .ok .done →
      Moves format given (.trailing event closes) (.produced (.ok value))
        .yieldedLast ⟨[], some (.yielded event)⟩
  | continues (requestId : JsString) (progress : StreamProgress)
      (closes : Bool) :
      Moves format given (.yielded requestId progress closes) .resume
        (.reading requestId progress closes) ⟨[.next], none⟩
  | finishes :
      Moves format given .yieldedLast .resume .ended ⟨[], some .finished⟩
  | stops (state : StreamState) (closes : Bool) :
      state ≠ .ended →
      Moves format given state .stop .ended ⟨cleanup closes, some .stopped⟩
  | fails (state : StreamState) (input : StreamInput) (closes : Bool)
      (thrown : Thrown) :
      state ≠ .ended →
      (state = .yieldedLast → input ≠ .resume) →
      ((∀ raised, input ≠ .raise raised) → ∃ error, thrown = .trusted error) →
      Moves format given state input .ended
        ⟨cleanup closes, some (.threw thrown)⟩
  | afterwards (input : StreamInput) (answer : ConsumerAnswer) :
      (∀ event, answer ≠ .yielded event) → answer ≠ .finished →
      (∀ thrown, answer = .threw thrown → input = .raise thrown) →
      Moves format given .ended input .ended ⟨[], some answer⟩

theorem moves_throws
    {state : StreamState}
    {input : StreamInput}
    (notEnded : state ≠ .ended)
    (notFinishing : state = .yieldedLast → input ≠ .resume)
    (closes : Bool)
    (thrown : Thrown) :
    Moves format given state input (throws closes thrown).1
      (throws closes thrown).2 :=
  .fails state input closes _ notEnded notFinishing
    fun _ => ⟨caught thrown, rfl⟩

theorem moves_reading
    (requestId : JsString)
    (progress : StreamProgress)
    (closes : Bool)
    (result : Except EffectFailure AdapterResult) :
    Moves format given (.reading requestId progress closes) (.produced result)
      (streamStep format given (.reading requestId progress closes)
        (.produced result)).1
      (streamStep format given (.reading requestId progress closes)
        (.produced result)).2 := by
  have fails := @moves_throws format given (.reading requestId progress closes)
    (.produced result) (by simp) (by simp) closes
  rw [streamStep]
  cases settledResult result with
  | error thrown => exact fails thrown
  | ok settled =>
      cases settled with
      | done => exact fails _
      | value candidate =>
          cases admitted : admitEvent format requestId progress candidate with
          | error error => simpa [admitted] using fails (.trusted error)
          | ok admittedEvent =>
              obtain ⟨next, event⟩ := admittedEvent
              by_cases terminal : event.IsTerminal
              · simpa [admitted, terminal] using
                  Moves.looksAhead requestId progress next closes result
                    candidate event admitted terminal
              · simpa [admitted, terminal] using
                  Moves.progresses requestId progress next closes result
                    candidate event admitted terminal

theorem moves_trailing
    (event : EventEnvelope)
    (closes : Bool)
    (result : Except EffectFailure AdapterResult) :
    Moves format given (.trailing event closes) (.produced result)
      (streamStep format given (.trailing event closes) (.produced result)).1
      (streamStep format given (.trailing event closes)
        (.produced result)).2 := by
  have fails := @moves_throws format given (.trailing event closes)
    (.produced result) (by simp) (by simp) closes
  rw [streamStep]
  cases settled : settledResult result with
  | error thrown => exact fails thrown
  | ok read =>
      cases read with
      | value candidate => exact fails _
      | done =>
          cases result with
          | error failure => cases settled
          | ok value => exact .lasts event closes value settled

theorem moves_streamStep (state : StreamState) (input : StreamInput) :
    Moves format given state input (streamStep format given state input).1
      (streamStep format given state input).2 := by
  cases state with
  | start =>
      cases input with
      | resume =>
          cases prepared : prepareStream given with
          | error error =>
              rw [streamStep, prepared]
              exact .fails .start .resume false _ (by simp) (by simp)
                fun _ => ⟨error, rfl⟩
          | ok arguments =>
              rw [streamStep, prepared]
              exact .opens arguments prepared
      | stop => exact .stops .start false (by simp)
      | raise thrown =>
          exact .fails .start _ false thrown (by simp) (by simp)
            fun none => absurd rfl (none thrown)
      | _ => exact .ignored _ _ (by simp)
  | opening requestId =>
      cases input with
      | streamed result =>
          cases result with
          | error failure => exact moves_throws (by simp) (by simp) false _
          | ok stream =>
              rw [streamStep]
              cases openIterator stream with
              | error thrown =>
                  exact moves_throws (by simp) (by simp) false thrown
              | ok closes => exact .iterates requestId stream closes
      | _ => exact .ignored _ _ (by simp)
  | reading requestId progress closes =>
      cases input with
      | produced result => exact moves_reading requestId progress closes result
      | _ => exact .ignored _ _ (by simp)
  | trailing event closes =>
      cases input with
      | produced result => exact moves_trailing event closes result
      | _ => exact .ignored _ _ (by simp)
  | yielded requestId progress closes =>
      cases input with
      | resume => exact .continues requestId progress closes
      | stop => exact .stops _ closes (by simp)
      | raise thrown => exact moves_throws (by simp) (by simp) closes thrown
      | _ => exact .ignored _ _ (by simp)
  | yieldedLast =>
      cases input with
      | resume => exact .finishes
      | stop => exact .stops _ false (by simp)
      | raise thrown => exact moves_throws (by simp) (by simp) false thrown
      | _ => exact .ignored _ _ (by simp)
  | ended =>
      cases input with
      | resume => exact .afterwards _ .ended (by simp) (by simp) (by simp)
      | stop => exact .afterwards _ .ended (by simp) (by simp) (by simp)
      | raise thrown =>
          exact .afterwards _ (.threw thrown) (by simp) (by simp) (by simp)
      | _ => exact .ignored _ _ (by simp)

/-! ## Admitted events -/

theorem admitEvent_eq_ok
    {requestId : JsString}
    {progress next : StreamProgress}
    {candidate : Candidate}
    {event : EventEnvelope}
    (admitted :
      admitEvent format requestId progress candidate = .ok (next, event)) :
    validateEventEnvelope format candidate = .ok event ∧
      event.requestId = requestId ∧ next.events = progress.events + 1 ∧
      next.events ≤ maxAdapterEvents ∧
      next.bytes = progress.bytes +
        utf8Length (terminated (envelopeLine format event.envelope)) ∧
      next.bytes ≤ maxAdapterStreamBytes := by
  obtain ⟨_, few, rest⟩ := bind_eq_ok.mp admitted
  obtain ⟨read, valid, rest⟩ := bind_eq_ok.mp rest
  obtain ⟨_, same, rest⟩ := bind_eq_ok.mp rest
  obtain ⟨frame, encoded, rest⟩ := bind_eq_ok.mp rest
  obtain ⟨_, small, rest⟩ := bind_eq_ok.mp rest
  cases rest
  rw [check_eq_ok] at few same small
  refine ⟨valid, same, rfl, few, ?_, small⟩
  obtain ⟨short, rfl⟩ := encodeJsonlEnvelope_eq_ok.mp encoded
  have fits : utf8Length (terminated (envelopeLine format event.envelope)) ≤
      JsNumber.maxSafeInteger := by
    rw [utf8Length_terminated]
    exact (Nat.succ_le_succ short).trans (by decide)
  rw [frameBytes, utf8ByteLengthAtMost, utf8BytesFrom_eq (Nat.zero_le _),
    Nat.zero_add, if_pos fits]

theorem prepareStream_eq_ok
    {arguments : StreamArguments}
    (prepared : prepareStream given = .ok arguments) :
    given = .ok arguments := by
  obtain ⟨validated, isGiven, rest⟩ := bind_eq_ok.mp prepared
  obtain ⟨_, _, rest⟩ := bind_eq_ok.mp rest
  obtain ⟨_, _, rest⟩ := bind_eq_ok.mp rest
  cases rest
  exact isGiven

/-! ## The log and the state -/

/-- The request id is that of the arguments. -/
def Asked (given : Except AgentProtocolError StreamArguments)
    (requestId : JsString) : Prop :=
  ∃ arguments, given = .ok arguments ∧ requestId = arguments.requestId

/-- Nothing has ended so far. -/
structure Calm (log : List StreamEntry) : Prop where
  nonterminal : ∀ event ∈ yieldedEvents log, ¬ event.IsTerminal
  notOver : ∀ entry ∈ log, ¬ entry.IsOver
  noCleanup : cleanups log = 0

/-- Events within the budgets. -/
def Affordable (format : NumberFormat) (events : List EventEnvelope) : Prop :=
  events.length ≤ maxAdapterEvents ∧
    eventBytes format events ≤ maxAdapterStreamBytes

/-- The progress counts the events. -/
def Counts (format : NumberFormat) (events : List EventEnvelope)
    (progress : StreamProgress) : Prop :=
  events.length = progress.events ∧
    eventBytes format events = progress.bytes

/-- The log ends after some answer that was no event. -/
def HasEnded (log : List StreamEntry) : Prop :=
  ∃ before last later, log = before ++ last :: later ∧ last.IsOver ∧
    ∀ entry ∈ later, ∀ event, ¬ entry.Yields event

/-- What the log says about the state. -/
inductive Tracks (format : NumberFormat)
    (given : Except AgentProtocolError StreamArguments)
    (log : List StreamEntry) : StreamState → Prop where
  | start : Calm log → yieldedEvents log = [] →
      Tracks format given log .start
  | opening {requestId : JsString} :
      Calm log → yieldedEvents log = [] → Asked given requestId →
      Tracks format given log (.opening requestId)
  | reading {requestId : JsString} {progress : StreamProgress}
      {closes : Bool} :
      Calm log → Asked given requestId →
      Counts format (yieldedEvents log) progress →
      Affordable format (yieldedEvents log) →
      Tracks format given log (.reading requestId progress closes)
  | trailing {event : EventEnvelope} {closes : Bool} :
      Calm log → IsValid format given event → event.IsTerminal →
      Affordable format (yieldedEvents log ++ [event]) →
      Tracks format given log (.trailing event closes)
  | yielded {requestId : JsString} {progress : StreamProgress}
      {closes : Bool} :
      Calm log → Asked given requestId →
      Counts format (yieldedEvents log) progress →
      Affordable format (yieldedEvents log) →
      Tracks format given log (.yielded requestId progress closes)
  | yieldedLast :
      EndsWithTerminal log → (∀ entry ∈ log, ¬ entry.IsOver) →
      cleanups log = 0 → Affordable format (yieldedEvents log) →
      Tracks format given log .yieldedLast
  | ended :
      HasEnded log → cleanups log ≤ 1 →
      Affordable format (yieldedEvents log) →
      Tracks format given log .ended

theorem Tracks.stillOpen
    {log : List StreamEntry}
    {state : StreamState}
    (tracks : Tracks format given log state)
    (notEnded : state ≠ .ended) :
    (∀ entry ∈ log, ¬ entry.IsOver) ∧ cleanups log = 0 ∧
      Affordable format (yieldedEvents log) := by
  have nothing : Affordable format [] :=
    ⟨Nat.zero_le _, Nat.zero_le _⟩
  have fewer : ∀ {events : List EventEnvelope} {event : EventEnvelope},
      Affordable format (events ++ [event]) → Affordable format events := by
    rintro events event ⟨few, small⟩
    rw [List.length_append] at few
    rw [eventBytes, List.map_append, List.sum_append] at small
    exact ⟨(Nat.le_add_right _ _).trans few, (Nat.le_add_right _ _).trans small⟩
  cases tracks with
  | start calm none =>
      exact ⟨calm.notOver, calm.noCleanup, none ▸ nothing⟩
  | opening calm none =>
      exact ⟨calm.notOver, calm.noCleanup, none ▸ nothing⟩
  | reading calm _ _ affordable =>
      exact ⟨calm.notOver, calm.noCleanup, affordable⟩
  | trailing calm _ _ affordable =>
      exact ⟨calm.notOver, calm.noCleanup, fewer affordable⟩
  | yielded calm _ _ affordable =>
      exact ⟨calm.notOver, calm.noCleanup, affordable⟩
  | yieldedLast _ notOver noCleanup affordable =>
      exact ⟨notOver, noCleanup, affordable⟩
  | ended => exact absurd rfl notEnded

/-! ## One more input -/

section Append

variable {log : List StreamEntry} {entry : StreamEntry}

theorem yieldedEvents_append :
    yieldedEvents (log ++ [entry]) =
      yieldedEvents log ++ entry.yielded?.toList := by
  rw [yieldedEvents, yieldedEvents, List.filterMap_append]
  cases shape : entry.yielded? <;> simp [shape]

theorem yieldedEvents_append_of_not_yields
    (none : ∀ event, ¬ entry.Yields event) :
    yieldedEvents (log ++ [entry]) = yieldedEvents log := by
  have nothing : entry.yielded? = Option.none := by
    unfold StreamEntry.yielded?
    split
    · rename_i event told
      exact absurd told (none event)
    · rfl
  rw [yieldedEvents_append, nothing, Option.toList_none, List.append_nil]

theorem yieldedEvents_append_of_yields
    {event : EventEnvelope}
    (yields : entry.Yields event) :
    yieldedEvents (log ++ [entry]) = yieldedEvents log ++ [event] := by
  have same : entry.yielded? = some event := by
    unfold StreamEntry.yielded?
    rw [show entry.answer.told = some (.yielded event) from yields]
  rw [yieldedEvents_append, same, Option.toList_some]

theorem cleanups_append :
    cleanups (log ++ [entry]) =
      cleanups log + entry.answer.called.count .cleanup := by
  simp [cleanups, List.count_append]

/-- The consumer is told nothing and the cleanup is not run. -/
structure Quiet (entry : StreamEntry) : Prop where
  told : entry.answer.told = none
  noCleanup : entry.answer.called.count .cleanup = 0

theorem Quiet.not_yields (quiet : Quiet entry) (event : EventEnvelope) :
    ¬ entry.Yields event := by
  intro yields
  have told := quiet.told.symm.trans yields
  cases told

theorem Quiet.not_isOver (quiet : Quiet entry) : ¬ entry.IsOver := by
  rintro ⟨answer, told, -⟩
  rw [quiet.told] at told
  cases told

theorem Calm.append (calm : Calm log) (quiet : Quiet entry) :
    Calm (log ++ [entry]) where
  nonterminal := by
    rw [yieldedEvents_append_of_not_yields quiet.not_yields]
    exact calm.nonterminal
  notOver := List.forall_mem_append.mpr
    ⟨calm.notOver, by simpa using quiet.not_isOver⟩
  noCleanup := by
    rw [cleanups_append, calm.noCleanup, quiet.noCleanup]

theorem Calm.append_yields
    {event : EventEnvelope}
    (calm : Calm log)
    (yields : entry.Yields event)
    (nonterminal : ¬ event.IsTerminal)
    (noCleanup : entry.answer.called.count .cleanup = 0) :
    Calm (log ++ [entry]) where
  nonterminal := by
    rw [yieldedEvents_append_of_yields yields]
    exact List.forall_mem_append.mpr
      ⟨calm.nonterminal, by simpa using nonterminal⟩
  notOver := by
    refine List.forall_mem_append.mpr ⟨calm.notOver, ?_⟩
    rintro other member ⟨answer, told, notEvent⟩
    rw [List.mem_singleton.mp member, yields] at told
    exact notEvent event (Option.some.inj told).symm
  noCleanup := by
    rw [cleanups_append, calm.noCleanup, noCleanup]

theorem Tracks.append_quiet
    {state : StreamState}
    (tracks : Tracks format given log state)
    (quiet : Quiet entry) :
    Tracks format given (log ++ [entry]) state := by
  have same := @yieldedEvents_append_of_not_yields log entry quiet.not_yields
  cases tracks with
  | start calm none => exact .start (calm.append quiet) (same.trans none)
  | opening calm none asked =>
      exact .opening (calm.append quiet) (same.trans none) asked
  | reading calm asked counts affordable =>
      exact .reading (calm.append quiet) asked (same ▸ counts)
        (same ▸ affordable)
  | trailing calm valid terminal affordable =>
      exact .trailing (calm.append quiet) valid terminal (same ▸ affordable)
  | yielded calm asked counts affordable =>
      exact .yielded (calm.append quiet) asked (same ▸ counts)
        (same ▸ affordable)
  | yieldedLast terminal notOver noCleanup affordable =>
      refine .yieldedLast ?_ ?_ ?_ (same ▸ affordable)
      · obtain ⟨before, last, silent, event, rfl, yields, isTerminal, done,
          nothing⟩ := terminal
        exact ⟨before, last, silent ++ [entry], event, by simp, yields,
          isTerminal, done, List.forall_mem_append.mpr
            ⟨nothing, by simpa using quiet.told⟩⟩
      · exact List.forall_mem_append.mpr
          ⟨notOver, by simpa using quiet.not_isOver⟩
      · rw [cleanups_append, noCleanup, quiet.noCleanup]
  | ended hasEnded cleanedUp affordable =>
      refine .ended ?_ ?_ (same ▸ affordable)
      · obtain ⟨before, last, later, rfl, over_, nothing⟩ := hasEnded
        exact ⟨before, last, later ++ [entry], by simp, over_,
          List.forall_mem_append.mpr
            ⟨nothing, by simpa using quiet.not_yields⟩⟩
      · rw [cleanups_append, quiet.noCleanup]
        exact cleanedUp

theorem Tracks.append_ended
    {state : StreamState}
    (tracks : Tracks format given log state)
    (notEnded : state ≠ .ended)
    (isOver : entry.IsOver)
    (cleanedUp : entry.answer.called.count .cleanup ≤ 1) :
    Tracks format given (log ++ [entry]) .ended := by
  obtain ⟨-, noCleanup, affordable⟩ := tracks.stillOpen notEnded
  have notYields : ∀ event, ¬ entry.Yields event := by
    intro event yields
    obtain ⟨answer, told, notEvent⟩ := isOver
    rw [yields] at told
    exact notEvent event (Option.some.inj told).symm
  refine .ended ⟨log, entry, [], rfl, isOver, by simp⟩ ?_ ?_
  · rw [cleanups_append, noCleanup, Nat.zero_add]
    exact cleanedUp
  · rw [yieldedEvents_append_of_not_yields notYields]
    exact affordable

end Append

theorem Counts.append
    {events : List EventEnvelope}
    {requestId : JsString}
    {progress next : StreamProgress}
    {candidate : Candidate}
    {event : EventEnvelope}
    (counts : Counts format events progress)
    (admitted :
      admitEvent format requestId progress candidate = .ok (next, event)) :
    Counts format (events ++ [event]) next ∧
      Affordable format (events ++ [event]) := by
  obtain ⟨-, -, nextEvents, few, nextBytes, small⟩ := admitEvent_eq_ok admitted
  have counted : Counts format (events ++ [event]) next := by
    refine ⟨?_, ?_⟩
    · rw [List.length_append, List.length_singleton, counts.1, nextEvents]
    · have before := counts.2
      unfold eventBytes at before ⊢
      rw [List.map_append, List.sum_append, before, nextBytes]
      simp
  exact ⟨counted, counted.1.trans_le few, counted.2.trans_le small⟩

theorem count_cleanup_le (closes : Bool) :
    (cleanup closes).count .cleanup ≤ 1 := by
  cases closes <;> decide

variable {log : List StreamEntry} {entry : StreamEntry}

theorem tracks_step
    (tracks : Tracks format given log entry.before)
    (moves : Moves format given entry.before entry.call entry.after
      entry.answer) :
    Tracks format given (log ++ [entry]) entry.after := by
  obtain ⟨before, call, answer, after⟩ := entry
  cases moves with
  | ignored _ _ => exact tracks.append_quiet ⟨rfl, rfl⟩
  | opens arguments prepared =>
      cases tracks with
      | start calm none =>
          refine .opening (calm.append ⟨rfl, rfl⟩) ?_
            ⟨arguments, prepareStream_eq_ok prepared, rfl⟩
          rw [yieldedEvents_append_of_not_yields
            (Quiet.not_yields ⟨rfl, rfl⟩), none]
  | iterates requestId stream closes =>
      cases tracks with
      | opening calm none asked =>
          refine .reading (calm.append ⟨rfl, rfl⟩) asked ?_ ?_
          · rw [yieldedEvents_append_of_not_yields
              (Quiet.not_yields ⟨rfl, rfl⟩), none]
            exact ⟨rfl, rfl⟩
          · rw [yieldedEvents_append_of_not_yields
              (Quiet.not_yields ⟨rfl, rfl⟩), none]
            exact ⟨Nat.zero_le _, Nat.zero_le _⟩
  | progresses requestId progress next closes result candidate event admitted
      nonterminal =>
      cases tracks with
      | reading calm asked counts affordable =>
          obtain ⟨after, within⟩ := counts.append admitted
          have yields : StreamEntry.Yields event
              ⟨.reading requestId progress closes, .produced result,
                ⟨[], some (.yielded event)⟩, .yielded requestId next closes⟩ :=
            rfl
          refine .yielded (calm.append_yields yields nonterminal rfl) asked ?_ ?_
          · rw [yieldedEvents_append_of_yields yields]
            exact after
          · rw [yieldedEvents_append_of_yields yields]
            exact within
  | looksAhead requestId progress next closes result candidate event admitted
      terminal =>
      cases tracks with
      | reading calm asked counts affordable =>
          obtain ⟨valid, same, -⟩ := admitEvent_eq_ok admitted
          obtain ⟨arguments, isGiven, isAsked⟩ := asked
          refine .trailing (calm.append ⟨rfl, rfl⟩)
            ⟨⟨candidate, valid⟩, arguments, isGiven, same.trans isAsked⟩
            terminal ?_
          rw [yieldedEvents_append_of_not_yields
            (Quiet.not_yields ⟨rfl, rfl⟩)]
          exact (counts.append admitted).2
  | lasts event closes value done =>
      cases tracks with
      | trailing calm valid terminal affordable =>
          have yields : StreamEntry.Yields event
              ⟨.trailing event closes, .produced (.ok value),
                ⟨[], some (.yielded event)⟩, .yieldedLast⟩ :=
            rfl
          refine .yieldedLast ?_ ?_ ?_ ?_
          · exact ⟨log, _, [], event, rfl, yields, terminal, ⟨value, rfl, done⟩,
              by simp⟩
          · refine List.forall_mem_append.mpr ⟨calm.notOver, ?_⟩
            rintro other member ⟨answer, told, notEvent⟩
            rw [List.mem_singleton.mp member] at told
            exact notEvent event (Option.some.inj told).symm
          · rw [cleanups_append, calm.noCleanup]
            rfl
          · rw [yieldedEvents_append_of_yields yields]
            exact affordable
  | continues requestId progress closes =>
      cases tracks with
      | yielded calm asked counts affordable =>
          refine .reading (calm.append ⟨rfl, rfl⟩) asked ?_ ?_
          · rw [yieldedEvents_append_of_not_yields
              (Quiet.not_yields ⟨rfl, rfl⟩)]
            exact counts
          · rw [yieldedEvents_append_of_not_yields
              (Quiet.not_yields ⟨rfl, rfl⟩)]
            exact affordable
  | finishes =>
      exact tracks.append_ended (by simp) ⟨_, rfl, by simp⟩ (by simp)
  | stops _ closes notEnded =>
      exact tracks.append_ended notEnded ⟨_, rfl, by simp⟩
        (count_cleanup_le closes)
  | fails _ _ closes thrown notEnded =>
      exact tracks.append_ended notEnded ⟨_, rfl, by simp⟩
        (count_cleanup_le closes)
  | afterwards _ answer notEvent =>
      have notYields : ∀ event, ¬ StreamEntry.Yields event
          ⟨.ended, call, ⟨[], some answer⟩, .ended⟩ :=
        fun event yields => notEvent event (Option.some.inj yields)
      cases tracks with
      | ended hasEnded cleanedUp affordable =>
          refine .ended ?_ ?_ ?_
          · obtain ⟨before, last, later, rfl, isOver, nothing⟩ := hasEnded
            refine ⟨before, last, later ++ [_], ?_, isOver,
              List.forall_mem_append.mpr
                ⟨nothing, by simpa using notYields⟩⟩
            rw [List.append_assoc, List.cons_append]
          · rw [cleanups_append]
            exact cleanedUp
          · rw [yieldedEvents_append_of_not_yields notYields]
            exact affordable

/-! ## Whole runs -/

/-- Where the log ends with a terminal event, the state is the one after it. -/
theorem eq_yieldedLast_of_endsWithTerminal
    {state : StreamState}
    (tracks : Tracks format given log state)
    (ends : EndsWithTerminal log) :
    state = .yieldedLast := by
  obtain ⟨before, last, silent, event, rfl, yields, terminal, -, nothing⟩ := ends
  -- A calm log has no terminal event.
  have notCalm : ¬ Calm (before ++ last :: silent) := by
    intro calm
    refine calm.nonterminal event (List.mem_filterMap.mpr
      ⟨last, by simp, ?_⟩) terminal
    unfold StreamEntry.yielded?
    rw [show last.answer.told = some (.yielded event) from yields]
  cases tracks with
  | yieldedLast => rfl
  | start calm => exact absurd calm notCalm
  | opening calm => exact absurd calm notCalm
  | reading calm => exact absurd calm notCalm
  | trailing calm => exact absurd calm notCalm
  | yielded calm => exact absurd calm notCalm
  | ended hasEnded =>
      obtain ⟨start, over_, later, split, ⟨answer, told, notEvent⟩, none⟩ :=
        hasEnded
      have different : over_ ≠ last := by
        rintro rfl
        rw [yields] at told
        exact notEvent event (Option.some.inj told).symm
      rcases List.append_eq_append_iff.mp split with
        ⟨between, -, same⟩ | ⟨between, -, same⟩
      · cases between with
        | nil => exact absurd (List.cons.inj same).1.symm different
        | cons head rest =>
            rw [List.cons_append] at same
            have member : over_ ∈ silent := by
              rw [(List.cons.inj same).2]
              simp
            rw [nothing over_ member] at told
            cases told
      · cases between with
        | nil => exact absurd (List.cons.inj same).1 different
        | cons head rest =>
            rw [List.cons_append] at same
            have member : last ∈ later := by
              rw [(List.cons.inj same).2]
              simp
            exact absurd yields (none last member event)

theorem valid_of_yields
    {event : EventEnvelope}
    (tracks : Tracks format given log entry.before)
    (moves : Moves format given entry.before entry.call entry.after
      entry.answer)
    (yields : entry.Yields event) :
    IsValid format given event ∧ Calm log := by
  obtain ⟨before, call, answer, after⟩ := entry
  cases moves with
  | progresses requestId progress next closes result candidate other admitted =>
      cases yields
      cases tracks with
      | reading calm asked =>
          obtain ⟨valid, same, -⟩ := admitEvent_eq_ok admitted
          obtain ⟨arguments, isGiven, isAsked⟩ := asked
          exact ⟨⟨⟨candidate, valid⟩, arguments, isGiven, same.trans isAsked⟩,
            calm⟩
  | lasts other closes value done =>
      cases yields
      cases tracks with
      | trailing calm valid => exact ⟨valid, calm⟩
  | afterwards _ other notEvent =>
      exact absurd (Option.some.inj yields) (notEvent event)
  | _ => cases yields

/-- A move finishes exactly when the state after a terminal event is resumed. -/
theorem finished_iff
    (moves : Moves format given entry.before entry.call entry.after
      entry.answer) :
    entry.answer.told = some .finished ↔
      entry.call = .resume ∧ entry.before = .yieldedLast := by
  obtain ⟨before, call, answer, after⟩ := entry
  cases moves with
  | finishes => simp
  | ignored _ _ notFinishing =>
      simp only [reduceCtorEq, false_iff, not_and]
      exact fun resumed last => notFinishing last resumed
  | fails _ _ closes thrown notEnded notFinishing =>
      simp only [Option.some.injEq, reduceCtorEq, false_iff, not_and]
      exact fun resumed last => notFinishing last resumed
  | afterwards _ other _ notFinished => simp [notFinished]
  | _ => simp

theorem Tracks.within
    {state : StreamState}
    (tracks : Tracks format given log state) :
    cleanups log ≤ 1 ∧ Affordable format (yieldedEvents log) := by
  by_cases isEnded : state = .ended
  · cases tracks with
    | ended _ cleanedUp affordable => exact ⟨cleanedUp, affordable⟩
    | _ => cases isEnded
  · obtain ⟨-, noCleanup, affordable⟩ := tracks.stillOpen isEnded
    exact ⟨noCleanup ▸ Nat.zero_le 1, affordable⟩

theorem trusted_of_threw
    {thrown : Thrown}
    (moves : Moves format given entry.before entry.call entry.after
      entry.answer)
    (threw : entry.answer.told = some (.threw thrown))
    (notRaised : ∀ raised, entry.call ≠ .raise raised) :
    ∃ error, thrown = .trusted error := by
  obtain ⟨before, call, answer, after⟩ := entry
  cases moves with
  | fails _ _ closes other notEnded _ trusted =>
      cases threw
      exact trusted notRaised
  | afterwards _ other _ _ raised =>
      exact absurd (raised thrown (Option.some.inj threw)) (notRaised thrown)
  | _ => cases threw

theorem lawful_of_tracks
    (tracks : Tracks format given log entry.before)
    (moves : Moves format given entry.before entry.call entry.after
      entry.answer) :
    LawfulStream format given log entry where
  valid event yields := (valid_of_yields tracks moves yields).1
  endsOnce event yields := (valid_of_yields tracks moves yields).2.nonterminal
  nothingAfter event yields := (valid_of_yields tracks moves yields).2.notOver
  finishes := by
    rw [finished_iff moves]
    refine and_congr_right fun _ => ⟨fun isLast => ?_,
      eq_yieldedLast_of_endsWithTerminal tracks⟩
    rw [isLast] at tracks
    cases tracks with
    | yieldedLast ends => exact ends
  withinEvents := (tracks_step tracks moves).within.2.1
  withinBytes := (tracks_step tracks moves).within.2.2
  protocolErrors _ := trusted_of_threw moves
  cleanedUpOnce := (tracks_step tracks moves).within.1

/-- Whatever reaches the generator, every answer is lawful. -/
theorem stream_run
    (format : NumberFormat)
    (given : Except AgentProtocolError StreamArguments)
    (inputs : List StreamInput)
    (index : Nat)
    (entry : StreamEntry)
    (found :
      (taken (streamStep format given) .start inputs)[index]? = some entry) :
    LawfulStream format given
      ((taken (streamStep format given) .start inputs).take index) entry := by
  have start : Tracks format given [] .start :=
    .start ⟨by simp [yieldedEvents], by simp, rfl⟩ rfl
  obtain ⟨tracks, isTaken⟩ := tracks_before (Tracks format given)
    (fun log state input tracks =>
      tracks_step tracks (moves_streamStep state input)) start found
  rw [List.nil_append] at tracks
  have moves : Moves format given entry.before entry.call entry.after
      entry.answer := by
    rw [isTaken]
    exact moves_streamStep entry.before entry.call
  exact lawful_of_tracks tracks moves

/-- A stream for one request of a declared capability. -/
def sampleArguments : StreamArguments :=
  ⟨js "first", js "run", [js "run"], true⟩

/-- The adapter completes the request and is done; the consumer asks on. -/
def sampleInputs : List StreamInput :=
  let result (fields : List (JsString × Option Candidate)) :=
    StreamInput.produced (.ok (.object fields))
  let done (value : Bool) := (js "done", some (.unknown (.bool value)))
  let completed : AgentEnvelope :=
    ⟨⟨js "result", js "2026-07-23T20:30:00Z"⟩,
      .event (js "first") (js "completed") none⟩
  [.resume, .streamed (.ok (.object .present (.object .present .missing))),
    result [done false, (js "value", some (.validated completed))],
    result [done true], .resume]

/-- The end of a stream is answered lawfully. -/
theorem stream_run_sample :
    ∃ entry,
      (taken (streamStep exactNumerals (.ok sampleArguments)) .start
        sampleInputs)[4]? = some entry ∧
      LawfulStream exactNumerals (.ok sampleArguments)
        ((taken (streamStep exactNumerals (.ok sampleArguments)) .start
          sampleInputs).take 4) entry :=
  ⟨_, rfl, stream_run exactNumerals (.ok sampleArguments) sampleInputs 4 _ rfl⟩

end Selene.Agent
