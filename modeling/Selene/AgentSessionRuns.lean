import Selene.AgentSession

/-!
# Runs of agent protocol sessions

A run is any list of calls on a session that was just created.  What a call of
the run was answered is told by the calls before it: `Since` are the calls since
the last one that began a request, and `Lawful` says what holds of an answer.
-/

namespace Selene.Agent

open Js AgentProtocolSession

inductive SessionCall where
  | beginRequest (requestId capability : JsString)
  | cancelRequest (requestId : JsString)
  | acceptIncoming (value : Candidate)
  | close

/-- What a call answers: an error, or that it is done, with the frame accepted. -/
abbrev SessionAnswer := Except AgentProtocolError (Option AgentEnvelope)

/-- One call on a session. -/
def sessionStep (format : NumberFormat) (session : AgentProtocolSession) :
    SessionCall → AgentProtocolSession × SessionAnswer
  | .beginRequest requestId capability =>
      let (answer, after) := beginRequest requestId capability session
      (after, answer.map fun _ => none)
  | .cancelRequest requestId =>
      let (answer, after) := cancelRequest requestId session
      (after, answer.map fun _ => none)
  | .acceptIncoming value =>
      let (answer, after) := acceptIncoming format value session
      (after, answer.map some)
  | .close =>
      let (answer, after) := close session
      (after, answer.map fun _ => none)

/-- One call of a run. -/
abbrev SessionEntry := Taken AgentProtocolSession SessionCall SessionAnswer

namespace SessionEntry

/-- The entry begins a request of an id. -/
def Begins (requestId : JsString) (entry : SessionEntry) : Prop :=
  ∃ capability, entry.call = .beginRequest requestId capability ∧
    entry.answer = .ok none

/-- The entry cancels a request. -/
def Cancels (requestId : JsString) (entry : SessionEntry) : Prop :=
  entry.call = .cancelRequest requestId ∧ entry.answer = .ok none

/-- The entry accepts a frame of a request. -/
def AcceptsFor (requestId : JsString) (entry : SessionEntry) : Prop :=
  ∃ envelope, entry.answer = .ok (some envelope) ∧
    envelope.body.requestId? = some requestId

/-- The entry accepts the last frame of a request. -/
def Ends (requestId : JsString) (entry : SessionEntry) : Prop :=
  ∃ envelope, entry.answer = .ok (some envelope) ∧
    envelope.body.requestId? = some requestId ∧ envelope.body.IsTerminal

/-- The entry accepts the result of a request. -/
def Completes (requestId : JsString) (entry : SessionEntry) : Prop :=
  ∃ envelope, entry.answer = .ok (some envelope) ∧
    envelope.body.requestId? = some requestId ∧ envelope.body.IsCompleted

end SessionEntry

/-- The calls since the last one that began a request of an id. -/
def Since (requestId : JsString) (earlier later : List SessionEntry) : Prop :=
  ∃ before start, earlier = before ++ start :: later ∧
    start.Begins requestId ∧ ∀ entry ∈ later, ¬ entry.Begins requestId

/-- The message ids of the accepted frames, in order. -/
def acceptedIds (log : List SessionEntry) : List JsString :=
  log.filterMap fun entry =>
    entry.answer.toOption.join.map AgentEnvelope.messageId

/-- What holds of a call and its answer after the earlier calls of a run. -/
structure Lawful (earlier : List SessionEntry) (entry : SessionEntry) :
    Prop where
  /-- A frame is accepted for a request that was sent and has not ended. -/
  live : ∀ requestId, entry.AcceptsFor requestId →
    ∃ later, Since requestId earlier later ∧
      ∀ other ∈ later, ¬ other.Ends requestId
  /-- After its last frame nothing is accepted for a request. -/
  endsOnce : ∀ requestId before last later,
    earlier = before ++ last :: later → last.Ends requestId →
      entry.AcceptsFor requestId → ∃ other ∈ later, other.Begins requestId
  /-- A request that was cancelled has no result. -/
  uncancelled : ∀ requestId, entry.Completes requestId →
    ∃ later, Since requestId earlier later ∧
      ∀ other ∈ later, ¬ other.Cancels requestId
  /-- A message id is not among the last ones that were accepted. -/
  fresh : ∀ envelope, entry.answer = .ok (some envelope) →
    envelope.messageId ∉ (acceptedIds earlier).rtake maxInFlightRequests
  bounded : entry.after.requests.length ≤ maxInFlightRequests
  unchanged : ∀ error, entry.answer = .error error → entry.after = entry.before
  /-- A closed session accepts nothing. -/
  closed : (∃ other ∈ earlier, other.call = .close) → entry.call ≠ .close →
    ∃ error, entry.answer = .error error

/-! ## Maps and windows -/

namespace AgentProtocolSession

theorem requestState_setRequest
    (requestId other : JsString)
    (state : RequestState)
    (session : AgentProtocolSession) :
    (setRequest requestId state session).requestState other =
      if requestId = other then some state else session.requestState other := by
  unfold setRequest requestState deleteRequest
  by_cases same : requestId = other
  · simp [same]
  · simp only [List.find?_cons, decide_eq_true_eq, same, decide_false,
      if_false, List.find?_filter]
    congr 2
    funext entry
    by_cases isOther : entry.1 = other
    · simp [isOther, Ne.symm same]
    · simp [isOther]

theorem requestState_retired
    (requestId other : JsString)
    (session : AgentProtocolSession) :
    (retired requestId session).requestState other =
      if requestId = other then none else session.requestState other := by
  unfold retired requestState deleteRequest
  by_cases same : requestId = other
  · simp [same]
  · simp only [same, if_false, List.find?_filter]
    congr 2
    funext entry
    by_cases isOther : entry.1 = other
    · simp [isOther, Ne.symm same]
    · simp [isOther]

theorem length_setRequest_le
    {requestId : JsString}
    {state old : RequestState}
    {session : AgentProtocolSession}
    (known : session.requestState requestId = some old) :
    (setRequest requestId state session).requests.length ≤
      session.requests.length := by
  obtain ⟨entry, found, -⟩ := Option.map_eq_some_iff.mp known
  have fewer : (deleteRequest requestId session.requests).length <
      session.requests.length := by
    refine List.length_filter_lt_length_iff_exists.mpr
      ⟨entry, List.mem_of_find?_eq_some found, ?_⟩
    have isKey := List.find?_some found
    simpa using isKey
  exact fewer

end AgentProtocolSession

/-- The tracked values are the last ones of a history, without repetition. -/
structure IsWindow (tracked : TrackedIds) (history : List JsString) :
    Prop where
  recent : tracked.order = history.rtake maxInFlightRequests
  distinct : tracked.order.Nodup
  same : ∀ value, value ∈ tracked.values ↔ value ∈ tracked.order

theorem IsWindow.trackBounded
    {tracked : TrackedIds}
    {history : List JsString}
    {value : JsString}
    (window : IsWindow tracked history)
    (isNew : value ∉ tracked.values) :
    IsWindow (trackBounded tracked value) (history ++ [value]) := by
  have notOrdered : value ∉ tracked.order := mt (window.same value).mpr isNew
  have distinct : (tracked.order ++ [value]).Nodup := by
    rw [← List.concat_eq_append]
    exact window.distinct.concat notOrdered
  have added : ∀ other,
      other ∈ tracked.values ++ [value] ↔ other ∈ tracked.order ++ [value] := by
    intro other
    rw [List.mem_append, List.mem_append, window.same]
  have size : tracked.order.length =
      min history.length maxInFlightRequests := by
    rw [window.recent, List.rtake, List.length_drop]
    omega
  unfold AgentProtocolSession.trackBounded
  simp only [if_neg isNew]
  cases shape : tracked.order ++ [value] with
  | nil => exact absurd shape (by simp)
  | cons oldest later =>
      rw [shape] at distinct added
      have length := congrArg List.length shape
      rw [List.length_append, List.length_singleton] at length
      by_cases full : maxInFlightRequests < (oldest :: later).length
      · simp only [if_pos full]
        rw [List.length_cons] at full length
        have long : maxInFlightRequests ≤ history.length := by omega
        refine ⟨?_, (List.nodup_cons.mp distinct).2, fun other => ?_⟩
        · have dropped : later = (tracked.order ++ [value]).drop 1 := by
            rw [shape, List.drop_one, List.tail_cons]
          have one : history.length + 1 - maxInFlightRequests =
              history.length - maxInFlightRequests + 1 := by omega
          rw [dropped, window.recent, List.rtake, List.rtake,
            ← List.drop_append_of_le_length (Nat.sub_le _ _), List.drop_drop,
            List.length_append, List.length_singleton, one]
        · rw [List.mem_filter, added, List.mem_cons, decide_eq_true_eq]
          constructor
          · rintro ⟨rfl | isLater, different⟩
            · exact absurd rfl different
            · exact isLater
          · intro isLater
            refine ⟨.inr isLater, ?_⟩
            rintro rfl
            exact (List.nodup_cons.mp distinct).1 isLater
      · simp only [if_neg full]
        rw [List.length_cons] at full length
        refine ⟨?_, distinct, added⟩
        rw [← shape, window.recent, List.rtake, List.rtake,
          Nat.sub_eq_zero_of_le (by omega), List.drop_zero,
          Nat.sub_eq_zero_of_le
            (by rw [List.length_append, List.length_singleton]; omega),
          List.drop_zero]

/-! ## One call -/

/-- A closed session. -/
def closedSession (session : AgentProtocolSession) : AgentProtocolSession :=
  { session with closed := true, requests := [], remoteCapabilities := [] }

/-- What can happen at a call. -/
inductive Happens (entry : SessionEntry) : Prop where
  | rejected (error : AgentProtocolError) :
      entry.answer = .error error → entry.after = entry.before →
      entry.call ≠ .close →
      Happens entry
  | began (requestId capability : JsString) :
      entry.call = .beginRequest requestId capability →
      entry.answer = .ok none → entry.before.closed = false →
      entry.before.requests.length < maxInFlightRequests →
      entry.before.requestState requestId = none →
      entry.after = setRequest requestId .active entry.before →
      Happens entry
  | cancelled (requestId : JsString) :
      entry.call = .cancelRequest requestId →
      entry.answer = .ok none → entry.before.closed = false →
      entry.before.requestState requestId = some .active →
      entry.after = setRequest requestId .cancelling entry.before →
      Happens entry
  | accepted (value : Candidate) (envelope : AgentEnvelope)
      (changed : AgentProtocolSession) :
      entry.call = .acceptIncoming value →
      entry.answer = .ok (some envelope) → entry.before.closed = false →
      envelope.messageId ∉ entry.before.messageIds.values →
      Accepts entry.before envelope.body changed →
      entry.after = tracked envelope.messageId changed →
      Happens entry
  | closed :
      entry.call = .close → entry.answer = .ok none →
      entry.after = closedSession entry.before →
      Happens entry

theorem happens_take
    (format : NumberFormat)
    (session : AgentProtocolSession)
    (call : SessionCall) :
    Happens (take (sessionStep format) session call) := by
  cases call with
  | beginRequest requestId capability =>
      rcases beginRequest_does requestId capability session with
        ⟨error, failed⟩ | ⟨_, after, ran, isOpen, room, unused, effect⟩
      · exact .rejected error (by simp [take, sessionStep, failed, Except.map])
          (by simp [take, sessionStep, failed]) (by simp [take])
      · exact .began requestId capability rfl
          (by simp [take, sessionStep, ran, Except.map]) isOpen room unused
          (by simp [take, sessionStep, ran, effect])
  | cancelRequest requestId =>
      rcases cancelRequest_does requestId session with
        ⟨error, failed⟩ | ⟨_, after, ran, isOpen, active, effect⟩
      · exact .rejected error (by simp [take, sessionStep, failed, Except.map])
          (by simp [take, sessionStep, failed]) (by simp [take])
      · exact .cancelled requestId rfl
          (by simp [take, sessionStep, ran, Except.map]) isOpen active
          (by simp [take, sessionStep, ran, effect])
  | acceptIncoming value =>
      rcases acceptIncoming_does format value session with
        ⟨error, failed⟩ |
          ⟨envelope, after, ran, isOpen, isNew, changed, accepts, effect⟩
      · exact .rejected error (by simp [take, sessionStep, failed, Except.map])
          (by simp [take, sessionStep, failed]) (by simp [take])
      · exact .accepted value envelope changed rfl
          (by simp [take, sessionStep, ran, Except.map]) isOpen isNew accepts
          (by simp [take, sessionStep, ran, effect])
  | close => exact .closed rfl rfl rfl

namespace AgentProtocolSession

variable {before changed : AgentProtocolSession} {body : EnvelopeBody}

theorem Accepts.closed_eq (accepts : Accepts before body changed) :
    changed.closed = before.closed := by
  cases accepts <;> rfl

theorem Accepts.messageIds_eq (accepts : Accepts before body changed) :
    changed.messageIds = before.messageIds := by
  cases accepts <;> rfl

theorem Accepts.length_le (accepts : Accepts before body changed) :
    changed.requests.length ≤ before.requests.length := by
  cases accepts with
  | terminal => exact List.length_filter_le _ _
  | _ => exact le_refl _

theorem Accepts.known
    {requestId : JsString}
    {state : RequestState}
    (accepts : Accepts before body changed)
    (known : changed.requestState requestId = some state) :
    before.requestState requestId = some state ∧
      ¬ (body.requestId? = some requestId ∧ body.IsTerminal) := by
  cases accepts with
  | hello capabilities implementation =>
      exact ⟨known, fun ended => by cases ended.1⟩
  | notice code message retryable =>
      exact ⟨known, fun ended => by cases ended.1⟩
  | progress ofRequest goesOn wasKnown =>
      exact ⟨known, fun ended => goesOn ended.2⟩
  | @terminal _ endedId _ ofRequest terminal wasKnown allowed =>
      rw [requestState_retired] at known
      by_cases same : endedId = requestId
      · rw [if_pos same] at known
        cases known
      · rw [if_neg same] at known
        refine ⟨known, fun ended => same ?_⟩
        rw [ofRequest] at ended
        exact Option.some.inj ended.1

theorem Accepts.request
    {requestId : JsString}
    (accepts : Accepts before body changed)
    (ofRequest : body.requestId? = some requestId) :
    ∃ state, before.requestState requestId = some state ∧
      (body.IsCompleted → state = .active) := by
  cases accepts with
  | hello capabilities implementation => cases ofRequest
  | notice code message retryable => cases ofRequest
  | @progress _ otherId state otherRequest goesOn wasKnown =>
      rw [otherRequest] at ofRequest
      cases ofRequest
      refine ⟨state, wasKnown, fun completed => absurd ?_ goesOn⟩
      cases body with
      | event _ name _ => exact .inl completed
      | _ => exact completed.elim
  | @terminal _ otherId state otherRequest terminal wasKnown allowed =>
      rw [otherRequest] at ofRequest
      cases ofRequest
      refine ⟨state, wasKnown, fun completed => ?_⟩
      cases state with
      | active => rfl
      | cancelling => exact absurd completed (allowed rfl)

end AgentProtocolSession

/-! ## The log and the session -/

/-- The log shows a request of an id that is in this state. -/
def Current (requestId : JsString) (state : RequestState)
    (log : List SessionEntry) : Prop :=
  ∃ later, Since requestId log later ∧
    (∀ other ∈ later, ¬ other.Ends requestId) ∧
    (state = .active → ∀ other ∈ later, ¬ other.Cancels requestId)

variable {requestId : JsString} {log : List SessionEntry} {entry : SessionEntry}

theorem current_of_begins
    {state : RequestState}
    (begins : entry.Begins requestId) :
    Current requestId state (log ++ [entry]) :=
  ⟨[], ⟨log, entry, rfl, begins, by simp⟩, by simp, by simp⟩

theorem Current.append
    {state next : RequestState}
    (current : Current requestId state log)
    (notBegun : ¬ entry.Begins requestId)
    (notEnded : ¬ entry.Ends requestId)
    (stays : next = .active → state = .active ∧ ¬ entry.Cancels requestId) :
    Current requestId next (log ++ [entry]) := by
  obtain ⟨later, ⟨before, start, rfl, begins, none⟩, noEnd, noCancel⟩ := current
  refine ⟨later ++ [entry], ⟨before, start, by simp, begins, ?_⟩, ?_, ?_⟩
  · exact List.forall_mem_append.mpr ⟨none, by simpa using notBegun⟩
  · exact List.forall_mem_append.mpr ⟨noEnd, by simpa using notEnded⟩
  · intro isActive
    obtain ⟨wasActive, notCancelled⟩ := stays isActive
    exact List.forall_mem_append.mpr
      ⟨noCancel wasActive, by simpa using notCancelled⟩

/-- What the session knows is what the log shows. -/
structure Accounted (log : List SessionEntry) (session : AgentProtocolSession) :
    Prop where
  closed : session.closed = true ↔ ∃ entry ∈ log, entry.call = .close
  requests : ∀ requestId state,
    session.requestState requestId = some state → Current requestId state log
  window : IsWindow session.messageIds (acceptedIds log)
  bounded : session.requests.length ≤ maxInFlightRequests

theorem acceptedIds_append_of_none
    (none : ∀ envelope, entry.answer ≠ .ok (some envelope)) :
    acceptedIds (log ++ [entry]) = acceptedIds log := by
  have silent : entry.answer.toOption.join = Option.none := by
    cases answer : entry.answer with
    | error error => rfl
    | ok accepted =>
        cases accepted with
        | none => rfl
        | some envelope => exact absurd answer (none envelope)
  simp [acceptedIds, silent]

theorem acceptedIds_append_of_some
    {envelope : AgentEnvelope}
    (answer : entry.answer = .ok (some envelope)) :
    acceptedIds (log ++ [entry]) = acceptedIds log ++ [envelope.messageId] := by
  have silent : entry.answer.toOption.join = some envelope := by
    rw [answer]
    rfl
  simp [acceptedIds, silent]

theorem not_ends_of_none
    (none : ∀ envelope, entry.answer ≠ .ok (some envelope))
    (requestId : JsString) :
    ¬ entry.Ends requestId := by
  rintro ⟨envelope, accepted, _⟩
  exact none envelope accepted

theorem not_begins_of_call
    (other : ∀ capability, entry.call ≠ .beginRequest requestId capability) :
    ¬ entry.Begins requestId := by
  rintro ⟨capability, call, _⟩
  exact other capability call

theorem not_cancels_of_call
    (other : entry.call ≠ .cancelRequest requestId) :
    ¬ entry.Cancels requestId := fun cancels =>
  other cancels.1

theorem closed_append
    (notClose : entry.call ≠ .close) :
    (∃ other ∈ log ++ [entry], other.call = .close) ↔
      ∃ other ∈ log, other.call = .close := by
  simp [or_and_right, exists_or, notClose]

theorem accounted_step
    (accounted : Accounted log entry.before)
    (happens : Happens entry) :
    Accounted (log ++ [entry]) entry.after := by
  cases happens with
  | rejected error answer same notClose =>
      have silent : ∀ envelope, entry.answer ≠ .ok (some envelope) := by
        simp [answer]
      rw [same]
      refine ⟨?_, fun requestId state known => ?_, ?_, accounted.bounded⟩
      · rw [closed_append notClose]
        exact accounted.closed
      · refine (accounted.requests requestId state known).append ?_
          (not_ends_of_none silent requestId) fun active => ⟨active, ?_⟩
        · rintro ⟨_, _, ok⟩
          rw [answer] at ok
          cases ok
        · rintro ⟨_, ok⟩
          rw [answer] at ok
          cases ok
      · rw [acceptedIds_append_of_none silent]
        exact accounted.window
  | began requestId capability call answer isOpen room unused effect =>
      have silent : ∀ envelope, entry.answer ≠ .ok (some envelope) := by
        simp [answer]
      rw [effect]
      refine ⟨?_, fun other state known => ?_, ?_, ?_⟩
      · rw [closed_append (by simp [call])]
        exact accounted.closed
      · rw [requestState_setRequest] at known
        by_cases same : requestId = other
        · rw [← same]
          exact current_of_begins ⟨capability, call, answer⟩
        · rw [if_neg same] at known
          exact (accounted.requests other state known).append
            (not_begins_of_call (by simp [call, same]))
            (not_ends_of_none silent other)
            fun active => ⟨active, not_cancels_of_call (by simp [call])⟩
      · rw [acceptedIds_append_of_none silent]
        exact accounted.window
      · exact Nat.succ_le_of_lt ((List.length_filter_le _ _).trans_lt room)
  | cancelled requestId call answer isOpen active effect =>
      have silent : ∀ envelope, entry.answer ≠ .ok (some envelope) := by
        simp [answer]
      have notBegun : ∀ other, ¬ entry.Begins other := fun other =>
        not_begins_of_call (by simp [call])
      rw [effect]
      refine ⟨?_, fun other state known => ?_, ?_, ?_⟩
      · rw [closed_append (by simp [call])]
        exact accounted.closed
      · rw [requestState_setRequest] at known
        by_cases same : requestId = other
        · rw [if_pos same] at known
          cases known
          rw [← same]
          exact (accounted.requests requestId .active active).append
            (notBegun requestId) (not_ends_of_none silent requestId)
            fun isActive => by cases isActive
        · rw [if_neg same] at known
          exact (accounted.requests other state known).append
            (notBegun other) (not_ends_of_none silent other)
            fun isActive =>
              ⟨isActive, not_cancels_of_call (by simp [call, same])⟩
      · rw [acceptedIds_append_of_none silent]
        exact accounted.window
      · exact (length_setRequest_le active).trans accounted.bounded
  | accepted value envelope changed call answer isOpen isNew accepts effect =>
      rw [effect]
      refine ⟨?_, fun requestId state known => ?_, ?_, ?_⟩
      · rw [closed_append (by simp [call]), ← accounted.closed,
          ← accepts.closed_eq]
        rfl
      · obtain ⟨wasKnown, notEnded⟩ := accepts.known known
        refine (accounted.requests requestId state wasKnown).append
          (not_begins_of_call (by simp [call])) ?_
          fun active => ⟨active, not_cancels_of_call (by simp [call])⟩
        rintro ⟨other, ok, ended⟩
        rw [answer] at ok
        cases ok
        exact notEnded ended
      · rw [acceptedIds_append_of_some answer, tracked, accepts.messageIds_eq]
        exact accounted.window.trackBounded isNew
      · exact accepts.length_le.trans accounted.bounded
  | closed call answer effect =>
      have silent : ∀ envelope, entry.answer ≠ .ok (some envelope) := by
        simp [answer]
      rw [effect]
      refine ⟨?_, ?_, ?_, Nat.zero_le _⟩
      · simp [closedSession, call]
      · intro requestId state known
        cases known
      · rw [acceptedIds_append_of_none silent]
        exact accounted.window

theorem not_begins_of_ends
    (ends : entry.Ends requestId) :
    ¬ entry.Begins requestId := by
  rintro ⟨_, _, done⟩
  obtain ⟨envelope, accepted, _⟩ := ends
  rw [done] at accepted
  cases accepted

/-- A request that has not ended began after the last frame of an earlier one. -/
theorem Since.begins_after
    {before later since : List SessionEntry}
    {last : SessionEntry}
    (current : Since requestId (before ++ last :: later) since)
    (ends : last.Ends requestId)
    (noEnd : ∀ other ∈ since, ¬ other.Ends requestId) :
    ∃ other ∈ later, other.Begins requestId := by
  obtain ⟨start, first, split, begins, -⟩ := current
  have different : first ≠ last := by
    rintro rfl
    exact not_begins_of_ends ends begins
  rcases List.append_eq_append_iff.mp split with
    ⟨between, -, same⟩ | ⟨between, -, same⟩
  · cases between with
    | nil =>
        rw [List.nil_append] at same
        exact absurd (List.cons.inj same).1.symm different
    | cons head rest =>
        rw [List.cons_append] at same
        rw [(List.cons.inj same).2]
        exact ⟨first, by simp, begins⟩
  · cases between with
    | nil =>
        rw [List.nil_append] at same
        exact absurd (List.cons.inj same).1 different
    | cons head rest =>
        rw [List.cons_append] at same
        rw [(List.cons.inj same).2] at noEnd
        exact absurd ends (noEnd last (by simp))

theorem Happens.accepts
    {envelope : AgentEnvelope}
    (happens : Happens entry)
    (answer : entry.answer = .ok (some envelope)) :
    envelope.messageId ∉ entry.before.messageIds.values ∧
      ∃ changed, Accepts entry.before envelope.body changed := by
  cases happens with
  | rejected error other => simp [answer] at other
  | began _ _ _ other => simp [answer] at other
  | cancelled _ _ other => simp [answer] at other
  | closed _ other => simp [answer] at other
  | accepted value accepted changed call other isOpen isNew accepts effect =>
      rw [answer] at other
      cases other
      exact ⟨isNew, changed, accepts⟩

theorem current_of_accepted
    {envelope : AgentEnvelope}
    (accounted : Accounted log entry.before)
    (happens : Happens entry)
    (answer : entry.answer = .ok (some envelope))
    (ofRequest : envelope.body.requestId? = some requestId) :
    ∃ state, Current requestId state log ∧
      (envelope.body.IsCompleted → state = .active) := by
  obtain ⟨-, changed, accepts⟩ := happens.accepts answer
  obtain ⟨state, known, allowed⟩ := accepts.request ofRequest
  exact ⟨state, accounted.requests requestId state known, allowed⟩

theorem lawful_of_accounted
    (accounted : Accounted log entry.before)
    (happens : Happens entry) :
    Lawful log entry where
  live := by
    rintro requestId ⟨envelope, answer, ofRequest⟩
    obtain ⟨state, ⟨later, since, noEnd, -⟩, -⟩ :=
      current_of_accepted accounted happens answer ofRequest
    exact ⟨later, since, noEnd⟩
  endsOnce := by
    rintro requestId before last later rfl ends ⟨envelope, answer, ofRequest⟩
    obtain ⟨state, ⟨calls, since, noEnd, -⟩, -⟩ :=
      current_of_accepted accounted happens answer ofRequest
    exact since.begins_after ends noEnd
  uncancelled := by
    rintro requestId ⟨envelope, answer, ofRequest, completed⟩
    obtain ⟨state, ⟨later, since, -, noCancel⟩, allowed⟩ :=
      current_of_accepted accounted happens answer ofRequest
    exact ⟨later, since, noCancel (allowed completed)⟩
  fresh := by
    intro envelope answer
    rw [← accounted.window.recent, ← accounted.window.same]
    exact (happens.accepts answer).1
  bounded := (accounted_step accounted happens).bounded
  unchanged := by
    intro error answer
    cases happens with
    | rejected _ _ same => exact same
    | began _ _ _ other => simp [answer] at other
    | cancelled _ _ other => simp [answer] at other
    | accepted _ _ _ _ other => simp [answer] at other
    | closed _ other => simp [answer] at other
  closed := by
    intro wasClosed notClose
    have isClosed := accounted.closed.mpr wasClosed
    cases happens with
    | rejected error answer => exact ⟨error, answer⟩
    | began _ _ _ _ isOpen => simp [isClosed] at isOpen
    | cancelled _ _ _ isOpen => simp [isClosed] at isOpen
    | accepted _ _ _ _ _ isOpen => simp [isClosed] at isOpen
    | closed call => exact absurd call notClose

theorem accounted_create
    {format : NumberFormat}
    {localCapabilities : JsValue}
    {session : AgentProtocolSession}
    (created : create format localCapabilities = .ok session) :
    Accounted [] session := by
  obtain ⟨capabilities, -, made⟩ := bind_eq_ok.mp created
  cases made
  exact ⟨by simp, fun requestId state known => (by cases known),
    ⟨rfl, List.nodup_nil, fun _ => Iff.rfl⟩, Nat.zero_le _⟩

/--
Whatever is called on a session that was just created, every answer is lawful.
-/
theorem session_run
    (format : NumberFormat)
    (localCapabilities : JsValue)
    (session : AgentProtocolSession)
    (created : create format localCapabilities = .ok session)
    (calls : List SessionCall)
    (index : Nat)
    (entry : SessionEntry)
    (found : (taken (sessionStep format) session calls)[index]? = some entry) :
    Lawful ((taken (sessionStep format) session calls).take index) entry := by
  obtain ⟨accounted, isTaken⟩ := tracks_before Accounted
    (fun log state call accounted =>
      accounted_step accounted (happens_take format state call))
    (accounted_create created) found
  rw [List.nil_append] at accounted
  have happens := happens_take format entry.before entry.call
  rw [← isTaken] at happens
  exact lawful_of_accounted accounted happens

/-- A session for one capability. -/
def sampleSession : AgentProtocolSession :=
  ⟨[js "run"], [], false, false, [], ⟨[], []⟩, ⟨[], []⟩⟩

/-- A hello, a request, and its result twice. -/
def sampleCalls : List SessionCall :=
  let frame (messageId : String) (body : EnvelopeBody) :=
    SessionCall.acceptIncoming (.validated
      ⟨⟨js messageId, js "2026-07-23T20:30:00Z"⟩, body⟩)
  [frame "hello" (.hello [js "run"] none),
    .beginRequest (js "first") (js "run"),
    frame "result" (.event (js "first") (js "completed") none),
    frame "again" (.event (js "first") (js "completed") none)]

/-- The second result of a request is answered lawfully. -/
theorem session_run_sample :
    ∃ entry,
      (taken (sessionStep exactNumerals) sampleSession sampleCalls)[3]? =
        some entry ∧
      Lawful ((taken (sessionStep exactNumerals) sampleSession sampleCalls).take
        3) entry :=
  ⟨_, rfl, session_run exactNumerals (.array [.string (js "run")])
    sampleSession (by decide +kernel) sampleCalls 3 _ rfl⟩

end Selene.Agent
