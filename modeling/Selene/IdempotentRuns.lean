import Selene.IdempotentCalls

/-!
# Idempotent calls in any interleaving

A run holds its lock from the call that makes it to the end of that call
(`Sound.apart`), and while it is between its lookup and its store nothing is
stored under its key (`StageSound`).  From this follows what calls with one scope
and key share (`idempotent_calls`).
-/

namespace Selene.Idempotency

open Js Collaboration

/-! ## What a move changes -/

/-- The steps of a run that change nothing but its stage. -/
inductive Enters (storage : JsString → Option Stored) (id : Nat) (call : Call) :
    RunStage → RunStage → Prop where
  | reads :
      Enters storage id call .looking
        (.found ((storage call.storageKey).map Stored.response))
  | fails {stage : RunStage} :
      (∀ outcome, stage ≠ .settled outcome) →
        Enters storage id call stage (.settled .rejected)
  | replays (existing : Response) :
      Enters storage id call (.found (some existing))
        (.settled (ownedResponse existing))
  | finishes {value : JsValue} {response : Response} :
      ownedResponse ⟨value, id⟩ = .resolved response →
        Enters storage id call .operating (.storing response)
  | settles (response : Response) :
      Enters storage id call (.stored response)
        (.settled (ownedResponse response))

/-- A call that has not ended, at its place. -/
structure Unended (state : State) (id : Nat) (call : Call) (work : Work) :
    Prop where
  found : state.calls[id]? = some call
  ended : call.ended = none
  work : call.work = work

/-- What one move does. -/
inductive Change (state : State) : State → Prop where
  | begins (scope key : JsString) : Change state (state.begin scope key)
  | enters {id : Nat} {call : Call} {stage next : RunStage} :
      Unended state id call (.runs stage) →
      Enters state.storage id call stage next →
        Change state (state.enter id call next)
  | starts {id : Nat} {call : Call} :
      Unended state id call (.runs (.found none)) →
        Change state (state.start id call)
  | keeps {id : Nat} {call : Call} {response : Response} :
      Unended state id call (.runs (.storing response)) →
        Change state (state.keep id call response)
  | releases {id : Nat} {call : Call} {outcome : Outcome} :
      Unended state id call (.runs (.settled outcome)) →
        Change state (state.release id call outcome)
  | follows {id leader : Nat} {call : Call} {outcome : Outcome} :
      Unended state id call (.follows leader) →
      state.outcome? leader = some outcome →
        Change state (state.finishCall id call outcome)

theorem change_of_advance
    {state next : State}
    {id : Nat}
    {call : Call}
    {stage : RunStage}
    {move : Move}
    (unended : Unended state id call (.runs stage))
    (advanced : state.advance id call stage move = some next) :
    Change state next := by
  rw [State.advance.eq_def] at advanced
  split at advanced
  · cases advanced
    exact .enters unended .reads
  · cases advanced
    exact .enters unended (.fails fun _ => by simp)
  · cases advanced
    exact .starts unended
  · cases advanced
    exact .enters unended (.replays _)
  · split at advanced
    · rename_i kept
      cases advanced
      exact .enters unended (.finishes kept)
    · cases advanced
      exact .enters unended (.fails fun _ => by simp)
  · cases advanced
    exact .enters unended (.fails fun _ => by simp)
  · cases advanced
    exact .keeps unended
  · cases advanced
    exact .enters unended (.fails fun _ => by simp)
  · cases advanced
    exact .enters unended (.settles _)
  · cases advanced
    exact .releases unended
  · cases advanced

theorem change_of_take
    {state next : State}
    {move : Move}
    (taken : state.take move = some next) :
    Change state next := by
  rw [State.take.eq_def] at taken
  split at taken
  · cases taken
    exact .begins _ _
  · cases taken
  · split at taken
    · cases taken
    · rename_i call found
      split at taken
      · cases taken
      · rename_i notEnded
        have ended : call.ended = none := by
          simpa using notEnded
        rw [State.continueCall] at taken
        split at taken
        · cases taken
        · rename_i stage work
          exact change_of_advance ⟨found, ended, work⟩ taken
        · rename_i leader work
          split at taken
          · obtain ⟨outcome, settled, rfl⟩ := Option.map_eq_some_iff.mp taken
            exact .follows ⟨found, ended, work⟩ settled
          · cases taken

/-! ## Invariants -/

/-- A response that is its own copy. -/
def Kept (response : Response) : Prop :=
  collaborationBudgets.Admits response.value ∧ Inert response.value

theorem kept_of_owned
    {response copy : Response}
    (owned : ownedResponse response = .resolved copy) :
    Kept copy ∧ copy.origin = response.origin := by
  rw [ownedResponse] at owned
  split at owned
  · rename_i admitted
    cases owned
    exact ⟨⟨admitted.inertCopy, inert_inertCopy _⟩, rfl⟩
  · cases owned

theorem Kept.owned
    {response : Response}
    (kept : Kept response) :
    ownedResponse response = .resolved response := by
  obtain ⟨value, origin⟩ := response
  have same : inertCopy value = value := kept.2
  rw [ownedResponse, if_pos kept.1]
  simp only [same]

/-- A call with a run of its own. -/
def Call.Runs (call : Call) : Prop :=
  ∃ stage, call.work = .runs stage

/-- A call is over before another one is made. -/
def Call.EndsBefore (first second : Call) : Prop :=
  ∃ time outcome, first.ended = some (time, outcome) ∧ time < second.began

/-- Something is stored under a name. -/
def Holds (storage : JsString → Option Stored) (key : JsString)
    (response : Response) : Prop :=
  ∃ time, storage key = some ⟨response, time⟩

/-- What is stored under the key of a run, by its stage. -/
def StageSound (storage : JsString → Option Stored) (id : Nat) (call : Call) :
    RunStage → Prop
  | .looking => True
  | .found none => storage call.storageKey = none
  | .found (some existing) => Holds storage call.storageKey existing
  | .operating =>
      storage call.storageKey = none ∧ call.startedAt.isSome = true
  | .storing response =>
      storage call.storageKey = none ∧ call.startedAt.isSome = true ∧
        Kept response ∧ response.origin = id
  | .stored response => Holds storage call.storageKey response
  | .settled (.resolved response) => Holds storage call.storageKey response
  | .settled .rejected => True

/-- What holds of a call. -/
structure CallSound (state : State) (id : Nat) (call : Call) : Prop where
  began : call.began < state.clock
  started : ∀ time ∈ call.startedAt, time < state.clock ∧ call.Runs
  ended : ∀ time outcome, call.ended = some (time, outcome) →
    time < state.clock ∧
      ∀ stage, call.work = .runs stage → stage = .settled outcome
  locked : call.ended = none → call.Runs →
    state.locks call.lockKey = some id
  stage : ∀ stage, call.work = .runs stage →
    StageSound state.storage id call stage
  follows : ∀ leader, call.work = .follows leader →
    ∃ other stage, state.calls[leader]? = some other ∧
      other.work = .runs stage ∧ other.lockKey = call.lockKey ∧
      ∀ time outcome, call.ended = some (time, outcome) →
        stage = .settled outcome
  refused : call.work = .refused →
    ∀ time outcome, call.ended = some (time, outcome) → outcome = .rejected
  before : ∀ time ∈ call.startedAt,
    ∀ stored ∈ state.storage call.storageKey, time < stored.time

/-- What holds of a stored response. -/
structure StoredSound (state : State) (key : JsString) (stored : Stored) :
    Prop where
  time : stored.time < state.clock
  kept : Kept stored.response
  origin : ∃ call, state.calls[stored.response.origin]? = some call ∧
    call.storageKey = key ∧ call.startedAt.isSome = true

structure Sound (state : State) : Prop where
  calls : ∀ id call, state.calls[id]? = some call → CallSound state id call
  locks : ∀ key id, state.locks key = some id →
    ∃ call, state.calls[id]? = some call ∧ call.ended = none ∧ call.Runs ∧
      call.lockKey = key
  stored : ∀ key stored, state.storage key = some stored →
    StoredSound state key stored
  apart : ∀ (first second : Nat) (earlier later : Call), first < second →
    state.calls[first]? = some earlier → state.calls[second]? = some later →
    earlier.Runs → later.Runs → earlier.lockKey = later.lockKey →
      earlier.EndsBefore later

theorem sound_initial : Sound initial where
  calls := by simp [initial]
  locks := by simp [initial]
  stored := by simp [initial]
  apart := by simp [initial]

/-! ## One call goes on -/

/-- A state in which one call has gone on. -/
structure Update (state : State) (id : Nat) (call changed : Call)
    (next : State) : Prop where
  calls : next.calls = state.calls.set id changed
  clock : next.clock = state.clock + 1
  scope : changed.scope = call.scope
  key : changed.key = call.key
  began : changed.began = call.began
  runs : changed.Runs ↔ call.Runs
  settled : ∀ outcome, call.work = .runs (.settled outcome) →
    changed.work = .runs (.settled outcome)
  started : call.startedAt.isSome = true → changed.startedAt.isSome = true
  locks : ∀ key, next.locks key = state.locks key ∨
    (state.locks key = some id ∧ next.locks key = none ∧
      changed.ended.isSome = true)
  released : changed.ended.isSome = true → call.Runs →
    next.locks call.lockKey = none
  storage : ∀ key, next.storage key = state.storage key ∨
    (key = call.storageKey ∧ call.Runs ∧ state.storage key = none ∧
      changed.startedAt.isSome = true ∧ ∃ response, Kept response ∧
        response.origin = id ∧
        next.storage key = some ⟨response, state.clock⟩)

namespace Update

variable {state next : State} {id : Nat} {call changed : Call}

theorem lockKey (update : Update state id call changed next) :
    changed.lockKey = call.lockKey := by
  rw [Call.lockKey, Call.lockKey, update.scope, update.key]

theorem storageKey (update : Update state id call changed next) :
    changed.storageKey = call.storageKey :=
  update.lockKey

section

variable (update : Update state id call changed next)

include update

theorem getElem?_self
    (found : state.calls[id]? = some call) :
    next.calls[id]? = some changed := by
  obtain ⟨bound, -⟩ := List.getElem?_eq_some_iff.mp found
  rw [update.calls, List.getElem?_set_self bound]

variable {other : Nat}

theorem getElem?_other
    (different : other ≠ id) :
    next.calls[other]? = state.calls[other]? := by
  rw [update.calls, List.getElem?_set_ne different.symm]

theorem origin
    (found : state.calls[id]? = some call)
    {now : Call}
    (isNow : next.calls[other]? = some now) :
    ∃ old, state.calls[other]? = some old ∧
      (old = now ∨ (other = id ∧ old = call ∧ now = changed)) := by
  by_cases same : other = id
  · subst same
    rw [update.getElem?_self found] at isNow
    cases isNow
    exact ⟨call, found, Or.inr ⟨rfl, rfl, rfl⟩⟩
  · rw [update.getElem?_other same] at isNow
    exact ⟨now, isNow, Or.inl rfl⟩

end

variable {old : Call}

theorem unique
    (sound : Sound state)
    (found : state.calls[id]? = some call)
    (ended : call.ended = none)
    (runs : call.Runs)
    (isOld : state.calls[other]? = some old)
    (oldUnended : old.ended = none)
    (oldRuns : old.Runs)
    (sameLock : old.lockKey = call.lockKey) :
    other = id := by
  have oldLocked := (sound.calls other old isOld).locked oldUnended oldRuns
  have locked := (sound.calls id call found).locked ended runs
  rw [sameLock, locked] at oldLocked
  exact (Option.some.inj oldLocked).symm

theorem stageSound_congr
    {storage others : JsString → Option Stored}
    {call : Call}
    (same : storage call.storageKey = others call.storageKey)
    (id : Nat)
    (stage : RunStage) :
    StageSound storage id call stage ↔ StageSound others id call stage := by
  cases stage with
  | found existing => cases existing <;> simp [StageSound, Holds, same]
  | settled outcome => cases outcome <;> simp [StageSound, Holds, same]
  | _ => simp [StageSound, Holds, same]

section

variable (sound : Sound state) (found : state.calls[id]? = some call)
  (ended : call.ended = none) (update : Update state id call changed next)

include sound found ended update

section

variable (different : other ≠ id) (isOld : state.calls[other]? = some old)

include different isOld

theorem stage_other
    {stage : RunStage}
    (work : old.work = .runs stage) :
    StageSound next.storage other old stage := by
  have before := (sound.calls other old isOld).stage stage work
  rcases update.storage old.storageKey with same | ⟨sameKey, runs, none, -⟩
  · exact (stageSound_congr same other stage).mpr before
  · cases isOver : old.ended with
    | none =>
        exact absurd (unique sound found ended runs isOld isOver ⟨_, work⟩
          sameKey) different
    | some ending =>
        obtain ⟨time, outcome⟩ := ending
        cases ((sound.calls other old isOld).ended time outcome isOver).2 stage
          work
        cases outcome with
        | rejected => trivial
        | resolved response =>
            obtain ⟨stored, isStored⟩ := before
            rw [none] at isStored
            cases isStored

theorem callSound_other :
    CallSound next other old := by
  have before := sound.calls other old isOld
  have later : state.clock < next.clock := by
    rw [update.clock]
    exact Nat.lt_succ_self _
  refine ⟨before.began.trans later, fun time isTime =>
    ⟨(before.started time isTime).1.trans later,
      (before.started time isTime).2⟩, fun time outcome isOver =>
    ⟨(before.ended time outcome isOver).1.trans later,
      (before.ended time outcome isOver).2⟩, ?_, fun stage work =>
    update.stage_other sound found ended different isOld work, ?_,
    before.refused, ?_⟩
  · intro unended runs
    have locked := before.locked unended runs
    rcases update.locks old.lockKey with same | ⟨mine, -, -⟩
    · rw [same, locked]
    · rw [locked] at mine
      exact absurd (Option.some.inj mine) different
  · intro leader work
    obtain ⟨run, stage, isRun, runWork, sameLock, settled⟩ :=
      before.follows leader work
    by_cases isLeader : leader = id
    · subst isLeader
      rw [found] at isRun
      cases isRun
      obtain ⟨now, nowWork⟩ := update.runs.mpr ⟨stage, runWork⟩
      refine ⟨changed, now, update.getElem?_self found, nowWork,
        update.lockKey.trans sameLock, fun time outcome isOver => ?_⟩
      have stays := update.settled outcome (by
        rw [runWork, settled time outcome isOver])
      rw [nowWork] at stays
      exact Work.runs.inj stays
    · exact ⟨run, stage, by rw [update.getElem?_other isLeader, isRun],
        runWork, sameLock, settled⟩
  · intro time isTime stored isStored
    rcases update.storage old.storageKey with same | ⟨_, _, _, _, response, _,
      _, isNew⟩
    · rw [same] at isStored
      exact before.before time isTime stored isStored
    · rw [isNew] at isStored
      cases isStored
      exact (before.started time isTime).1

end

end

theorem sound
    (sound : Sound state)
    (found : state.calls[id]? = some call)
    (ended : call.ended = none)
    (update : Update state id call changed next)
    (changedSound : CallSound next id changed) :
    Sound next := by
  refine ⟨fun other now isNow => ?_, fun key holder isHolder => ?_,
    fun key stored isStored => ?_,
    fun first second earlier later before isFirst isSecond earlierRuns
      laterRuns sameLock => ?_⟩
  · by_cases same : other = id
    · subst same
      rw [update.getElem?_self found] at isNow
      cases isNow
      exact changedSound
    · rw [update.getElem?_other same] at isNow
      exact update.callSound_other sound found ended same isNow
  · rcases update.locks key with same | ⟨-, free, -⟩
    · rw [same] at isHolder
      obtain ⟨old, isOld, oldUnended, oldRuns, oldLock⟩ :=
        sound.locks key holder isHolder
      by_cases isId : holder = id
      · subst isId
        rw [found] at isOld
        cases isOld
        refine ⟨changed, update.getElem?_self found, ?_,
          update.runs.mpr oldRuns, update.lockKey.trans oldLock⟩
        by_contra isOver
        have free := update.released
          (Option.isSome_iff_ne_none.mpr isOver) oldRuns
        rw [oldLock, same, isHolder] at free
        cases free
      · exact ⟨old, by rw [update.getElem?_other isId, isOld], oldUnended,
          oldRuns, oldLock⟩
    · rw [free] at isHolder
      cases isHolder
  · rcases update.storage key with same | ⟨isKey, -, -, hasStarted, response,
      kept, isId, isNew⟩
    · rw [same] at isStored
      obtain ⟨time, kept, origin, isOrigin, originKey, hasStarted⟩ :=
        sound.stored key stored isStored
      refine ⟨by rw [update.clock]; omega, kept, ?_⟩
      by_cases isId : stored.response.origin = id
      · rw [isId] at isOrigin ⊢
        rw [found] at isOrigin
        cases isOrigin
        exact ⟨changed, update.getElem?_self found,
          update.storageKey.trans originKey, update.started hasStarted⟩
      · exact ⟨origin, by rw [update.getElem?_other isId, isOrigin],
          originKey, hasStarted⟩
    · rw [isNew] at isStored
      cases isStored
      refine ⟨by rw [update.clock]; exact Nat.lt_succ_self _, kept, changed,
        ?_, update.storageKey.trans isKey.symm, hasStarted⟩
      show next.calls[response.origin]? = _
      rw [isId]
      exact update.getElem?_self found
  · obtain ⟨oldEarlier, isOldEarlier, earlierCase⟩ :=
      update.origin found isFirst
    obtain ⟨oldLater, isOldLater, laterCase⟩ := update.origin found isSecond
    have laterSame : oldLater.Runs ∧ oldLater.lockKey = later.lockKey ∧
        oldLater.began = later.began := by
      rcases laterCase with rfl | ⟨-, rfl, rfl⟩
      · exact ⟨laterRuns, rfl, rfl⟩
      · exact ⟨update.runs.mp laterRuns, update.lockKey.symm,
          update.began.symm⟩
    have earlierSame : oldEarlier.Runs ∧
        oldEarlier.lockKey = earlier.lockKey := by
      rcases earlierCase with rfl | ⟨-, rfl, rfl⟩
      · exact ⟨earlierRuns, rfl⟩
      · exact ⟨update.runs.mp earlierRuns, update.lockKey.symm⟩
    obtain ⟨time, outcome, isOver, inTime⟩ := sound.apart first second oldEarlier
      oldLater before isOldEarlier isOldLater earlierSame.1 laterSame.1
      (by rw [earlierSame.2, laterSame.2.1, sameLock])
    rcases earlierCase with rfl | ⟨-, rfl, -⟩
    · exact ⟨time, outcome, isOver, laterSame.2.2 ▸ inTime⟩
    · rw [ended] at isOver
      cases isOver

end Update

/-! ## Every move keeps the invariants -/

variable {state next : State} {id : Nat} {call : Call}

variable {stage : RunStage}

theorem stageSound_work
    {storage : JsString → Option Stored}
    {work : Work}
    (before : StageSound storage id call stage) :
    StageSound storage id { call with work } stage := by
  cases stage with
  | found existing => cases existing <;> exact before
  | settled outcome => cases outcome <;> exact before
  | _ => exact before

section

variable (sound : Sound state)

include sound

theorem Sound.holds_owned
    {key : JsString}
    {response : Response}
    (held : Holds state.storage key response) :
    ownedResponse response = .resolved response := by
  obtain ⟨time, isStored⟩ := held
  exact (sound.stored key _ isStored).kept.owned

theorem Sound.stage_enters
    {later : RunStage}
    (unended : Unended state id call (.runs stage))
    (enters : Enters state.storage id call stage later) :
    StageSound state.storage id call later := by
  have before := (sound.calls id call unended.found).stage stage unended.work
  cases enters with
  | reads =>
      cases found : state.storage call.storageKey with
      | none => exact found
      | some stored => exact ⟨stored.time, found⟩
  | fails => trivial
  | replays existing =>
      rw [sound.holds_owned before]
      exact before
  | finishes kept =>
      obtain ⟨isKept, isOrigin⟩ := kept_of_owned kept
      exact ⟨before.1, before.2, isKept, isOrigin⟩
  | settles response =>
      rw [sound.holds_owned before]
      exact before

theorem Sound.enter
    {later : RunStage}
    (unended : Unended state id call (.runs stage))
    (enters : Enters state.storage id call stage later) :
    Sound (state.enter id call later) := by
  have before := sound.calls id call unended.found
  have update : Update state id call { call with work := .runs later }
      (state.enter id call later) := by
    refine ⟨rfl, rfl, rfl, rfl, rfl, ⟨fun _ => ⟨_, unended.work⟩,
      fun _ => ⟨_, rfl⟩⟩, fun outcome settled => ?_,
      fun hasStarted => hasStarted, fun _ => Or.inl rfl,
      fun isOver _ => ?_, fun _ => Or.inl rfl⟩
    · rw [unended.work] at settled
      cases settled
      cases enters with
      | fails unsettled => exact absurd rfl (unsettled outcome)
    · simp [unended.ended] at isOver
  refine update.sound sound unended.found unended.ended
    ⟨before.began.trans (Nat.lt_succ_self _), fun time isTime =>
      ⟨(before.started time isTime).1.trans (Nat.lt_succ_self _), _, rfl⟩,
      fun time outcome isOver => ?_, fun _ _ => before.locked unended.ended
        ⟨_, unended.work⟩, fun stage work => ?_, fun leader work => ?_,
      fun work => ?_, before.before⟩
  · rw [show _ = call.ended from rfl, unended.ended] at isOver
    cases isOver
  · cases work
    exact stageSound_work (sound.stage_enters unended enters)
  · cases work
  · cases work

theorem Sound.start
    (unended : Unended state id call (.runs (.found none))) :
    Sound (state.start id call) := by
  have before := sound.calls id call unended.found
  have empty : state.storage call.storageKey = none :=
    before.stage _ unended.work
  have update : Update state id call
      { call with
        work := .runs .operating
        startedAt := some state.clock }
      (state.start id call) := by
    refine ⟨rfl, rfl, rfl, rfl, rfl, ⟨fun _ => ⟨_, unended.work⟩,
      fun _ => ⟨_, rfl⟩⟩, fun outcome settled => ?_, fun _ => rfl,
      fun _ => Or.inl rfl, fun isOver _ => ?_, fun _ => Or.inl rfl⟩
    · rw [unended.work] at settled
      cases settled
    · simp [unended.ended] at isOver
  refine update.sound sound unended.found unended.ended
    ⟨before.began.trans (Nat.lt_succ_self _), fun time isTime => ?_,
      fun time outcome isOver => ?_, fun _ _ => before.locked unended.ended
        ⟨_, unended.work⟩, fun stage work => ?_, fun leader work => ?_,
      fun work => ?_, fun time _ stored isStored => ?_⟩
  · cases isTime
    exact ⟨Nat.lt_succ_self _, _, rfl⟩
  · rw [show _ = call.ended from rfl, unended.ended] at isOver
    cases isOver
  · cases work
    exact ⟨empty, rfl⟩
  · cases work
  · cases work
  · change state.storage call.storageKey = some stored at isStored
    rw [empty] at isStored
    cases isStored

theorem Sound.keep
    {response : Response}
    (unended : Unended state id call (.runs (.storing response))) :
    Sound (state.keep id call response) := by
  have before := sound.calls id call unended.found
  obtain ⟨empty, hasStarted, kept, isOrigin⟩ := before.stage _ unended.work
  have isKept : state.keep id call response =
      { state.enter id call (.stored response) with
        storage := Function.update state.storage call.storageKey
          (some ⟨response, state.clock⟩) } := by
    rw [State.keep, empty]
  have update : Update state id call
      { call with work := .runs (.stored response) }
      (state.keep id call response) := by
    rw [isKept]
    refine ⟨rfl, rfl, rfl, rfl, rfl, ⟨fun _ => ⟨_, unended.work⟩,
      fun _ => ⟨_, rfl⟩⟩, fun outcome settled => ?_,
      fun hasStarted => hasStarted, fun _ => Or.inl rfl,
      fun isOver _ => ?_, fun key => ?_⟩
    · rw [unended.work] at settled
      cases settled
    · simp [unended.ended] at isOver
    · by_cases isKey : key = call.storageKey
      · subst isKey
        exact Or.inr ⟨rfl, ⟨_, unended.work⟩, empty, hasStarted, response,
          kept, isOrigin, Function.update_self _ _ _⟩
      · exact Or.inl (Function.update_of_ne isKey _ _)
  have isStored : (state.keep id call response).storage call.storageKey =
      some ⟨response, state.clock⟩ := by
    rw [isKept]
    exact Function.update_self _ _ _
  have clock : (state.keep id call response).clock = state.clock + 1 :=
    update.clock
  have locks : (state.keep id call response).locks = state.locks := by
    rw [isKept]
    rfl
  refine update.sound sound unended.found unended.ended
    ⟨clock ▸ before.began.trans (Nat.lt_succ_self _), fun time isTime =>
      ⟨clock ▸ (before.started time isTime).1.trans (Nat.lt_succ_self _),
        _, rfl⟩,
      fun time outcome isOver => ?_, fun _ _ => ?_, fun stage work => ?_,
      fun leader work => ?_, fun work => ?_,
      fun time isTime stored found => ?_⟩
  · rw [show _ = call.ended from rfl, unended.ended] at isOver
    cases isOver
  · rw [locks]
    exact before.locked unended.ended ⟨_, unended.work⟩
  · cases work
    exact ⟨state.clock, isStored⟩
  · cases work
  · cases work
  · change (state.keep id call response).storage call.storageKey =
      some stored at found
    rw [isStored] at found
    cases found
    exact (before.started time isTime).1

theorem Sound.release
    {outcome : Outcome}
    (unended : Unended state id call (.runs (.settled outcome))) :
    Sound (state.release id call outcome) := by
  have before := sound.calls id call unended.found
  have locked := before.locked unended.ended ⟨_, unended.work⟩
  have locks : (state.release id call outcome).locks =
      Function.update state.locks call.lockKey none :=
    if_pos locked
  have update : Update state id call
      { call with ended := some (state.clock, outcome) }
      (state.release id call outcome) := by
    refine ⟨rfl, rfl, rfl, rfl, rfl, Iff.rfl, fun _ settled => settled,
      fun hasStarted => hasStarted,
      fun key => ?_, fun _ _ => ?_, fun _ => Or.inl rfl⟩
    · rw [locks]
      by_cases isKey : key = call.lockKey
      · subst isKey
        exact Or.inr ⟨locked, Function.update_self _ _ _, rfl⟩
      · exact Or.inl (Function.update_of_ne isKey _ _)
    · rw [locks]
      exact Function.update_self _ _ _
  refine update.sound sound unended.found unended.ended
    ⟨before.began.trans (Nat.lt_succ_self _), fun time isTime =>
      ⟨(before.started time isTime).1.trans (Nat.lt_succ_self _),
        (before.started time isTime).2⟩,
      fun time other isOver => ?_, fun isOver => ?_,
      fun stage work => before.stage stage work, fun leader work => ?_,
      fun work => ?_, before.before⟩
  · cases isOver
    refine ⟨Nat.lt_succ_self _, fun stage work => ?_⟩
    have isSettled := unended.work.symm.trans work
    cases isSettled
    rfl
  · cases isOver
  · have both := unended.work.symm.trans work
    cases both
  · have both := unended.work.symm.trans work
    cases both

theorem Sound.follow
    {leader : Nat}
    {outcome : Outcome}
    (unended : Unended state id call (.follows leader))
    (settled : state.outcome? leader = some outcome) :
    Sound (state.finishCall id call outcome) := by
  have before := sound.calls id call unended.found
  have noRun : ¬ call.Runs := by
    rintro ⟨stage, work⟩
    have both := unended.work.symm.trans work
    cases both
  have update : Update state id call
      { call with ended := some (state.clock, outcome) }
      (state.finishCall id call outcome) :=
    ⟨rfl, rfl, rfl, rfl, rfl, Iff.rfl, fun _ settled => settled,
      fun hasStarted => hasStarted,
      fun _ => Or.inl rfl, fun _ runs => absurd runs noRun,
      fun _ => Or.inl rfl⟩
  obtain ⟨run, stage, isRun, runWork, sameLock, -⟩ :=
    before.follows leader unended.work
  have isSettled : stage = .settled outcome := by
    rw [State.outcome?, isRun, Option.map_some, runWork] at settled
    split at settled
    · rename_i inside
      cases settled
      cases inside
      rfl
    · cases settled
  have different : leader ≠ id := by
    rintro rfl
    rw [unended.found] at isRun
    cases isRun
    exact noRun ⟨stage, runWork⟩
  refine update.sound sound unended.found unended.ended
    ⟨before.began.trans (Nat.lt_succ_self _), fun time isTime =>
      ⟨(before.started time isTime).1.trans (Nat.lt_succ_self _),
        (before.started time isTime).2⟩,
      fun time other isOver => ?_,
      fun _ runs => absurd runs noRun,
      fun stage work => absurd ⟨stage, work⟩ noRun, fun other work => ?_,
      fun work => ?_, before.before⟩
  · cases isOver
    exact ⟨Nat.lt_succ_self _, fun stage work => absurd ⟨stage, work⟩ noRun⟩
  · have same := unended.work.symm.trans work
    cases same
    refine ⟨run, stage, ?_, runWork, sameLock, fun time found isOver => ?_⟩
    · rw [update.getElem?_other different, isRun]
    · cases isOver
      exact isSettled
  · have both := unended.work.symm.trans work
    cases both

theorem Sound.append
    (calls : next.calls = state.calls ++ [call])
    (clock : next.clock = state.clock + 1)
    (storage : next.storage = state.storage)
    (began : call.began = state.clock)
    (free : call.Runs → state.locks call.lockKey = none)
    (locksStay : ∀ key other,
      state.locks key = some other → next.locks key = some other)
    (locksNew : ∀ key other, next.locks key = some other →
      state.locks key = some other ∨
        (other = state.calls.length ∧ key = call.lockKey ∧ call.Runs ∧
          call.ended = none))
    (new : CallSound next state.calls.length call) :
    Sound next := by
  have stays : ∀ {other : Nat} {old : Call},
      state.calls[other]? = some old → next.calls[other]? = some old := by
    intro other old isOld
    obtain ⟨bound, -⟩ := List.getElem?_eq_some_iff.mp isOld
    rw [calls, List.getElem?_append_left bound, isOld]
  have isNew : next.calls[state.calls.length]? = some call := by
    simp [calls]
  have cases_of : ∀ {other : Nat} {now : Call},
      next.calls[other]? = some now →
        state.calls[other]? = some now ∨
          (other = state.calls.length ∧ now = call) := by
    intro other now isNow
    by_cases bound : other < state.calls.length
    · rw [calls, List.getElem?_append_left bound] at isNow
      exact Or.inl isNow
    · obtain ⟨inside, -⟩ := List.getElem?_eq_some_iff.mp isNow
      rw [calls, List.length_append, List.length_singleton] at inside
      have isLast : other = state.calls.length := by omega
      subst isLast
      rw [isNew] at isNow
      exact Or.inr ⟨rfl, (Option.some.inj isNow).symm⟩
  have later : state.clock < next.clock := by
    rw [clock]
    exact Nat.lt_succ_self _
  refine ⟨fun other now isNow => ?_, fun key holder isHolder => ?_,
    fun key stored isStored => ?_,
    fun first second early late before isFirst isSecond earlyRuns lateRuns
      sameLock => ?_⟩
  · rcases cases_of isNow with isOld | ⟨rfl, rfl⟩
    · have old := sound.calls other now isOld
      refine ⟨old.began.trans later, fun time isTime =>
        ⟨(old.started time isTime).1.trans later,
          (old.started time isTime).2⟩, fun time outcome isOver =>
        ⟨(old.ended time outcome isOver).1.trans later,
          (old.ended time outcome isOver).2⟩,
        fun unended runs => locksStay _ _ (old.locked unended runs),
        fun stage work => storage ▸ old.stage stage work,
        fun leader work => ?_, old.refused, storage ▸ old.before⟩
      obtain ⟨run, stage, isRun, rest⟩ := old.follows leader work
      exact ⟨run, stage, stays isRun, rest⟩
    · exact new
  · rcases locksNew key holder isHolder with old | ⟨rfl, rfl, runs, unended⟩
    · obtain ⟨run, isRun, rest⟩ := sound.locks key holder old
      exact ⟨run, stays isRun, rest⟩
    · exact ⟨call, isNew, unended, runs, rfl⟩
  · rw [storage] at isStored
    obtain ⟨time, kept, origin, isOrigin, rest⟩ :=
      sound.stored key stored isStored
    exact ⟨time.trans later, kept, origin, stays isOrigin, rest⟩
  · rcases cases_of isSecond with isOldSecond | ⟨rfl, rfl⟩
    · obtain ⟨bound, -⟩ := List.getElem?_eq_some_iff.mp isOldSecond
      rcases cases_of isFirst with isOldFirst | ⟨rfl, -⟩
      · exact sound.apart first second early late before isOldFirst
          isOldSecond earlyRuns lateRuns sameLock
      · omega
    · rcases cases_of isFirst with isOldFirst | ⟨rfl, -⟩
      · have old := sound.calls first early isOldFirst
        cases isOver : early.ended with
        | none =>
            have locked := old.locked isOver earlyRuns
            rw [sameLock, free lateRuns] at locked
            cases locked
        | some ending =>
            obtain ⟨time, outcome⟩ := ending
            exact ⟨time, outcome, isOver,
              began ▸ (old.ended time outcome isOver).1⟩
      · omega

theorem Sound.begin
    (scope key : JsString) :
    Sound (state.begin scope key) := by
  rw [State.begin]
  split
  · refine sound.append rfl rfl rfl rfl (fun runs => ?_)
      (fun _ _ locked => locked) (fun _ _ locked => Or.inl locked)
      ⟨Nat.lt_succ_self _, by simp, fun time outcome isOver => ?_, by simp,
        fun stage work => ?_, fun leader work => ?_,
        fun _ time outcome isOver => ?_, by simp⟩
    · obtain ⟨stage, work⟩ := runs
      cases work
    · cases isOver
      exact ⟨Nat.lt_succ_self _, fun stage work => by cases work⟩
    · cases work
    · cases work
    · cases isOver
      rfl
  · split
    · rename_i active locked
      obtain ⟨run, isRun, unended, ⟨stage, work⟩, sameLock⟩ :=
        sound.locks _ active locked
      refine sound.append rfl rfl rfl rfl (fun runs => ?_)
        (fun _ _ locked => locked) (fun _ _ locked => Or.inl locked)
        ⟨Nat.lt_succ_self _, by simp, by simp, fun _ runs => ?_,
          fun stage work => ?_, fun leader isLeader => ?_, by simp, by simp⟩
      · obtain ⟨stage, work⟩ := runs
        cases work
      · obtain ⟨stage, work⟩ := runs
        cases work
      · cases work
      · cases isLeader
        obtain ⟨bound, -⟩ := List.getElem?_eq_some_iff.mp isRun
        refine ⟨run, stage, ?_, work, sameLock, by simp⟩
        exact (List.getElem?_append_left bound).trans isRun
    · rename_i free
      refine sound.append rfl rfl rfl rfl (fun _ => free)
        (fun other holder locked => ?_) (fun other holder locked => ?_)
        ⟨Nat.lt_succ_self _, by simp, by simp,
          fun _ _ => Function.update_self _ _ _, fun stage work => ?_,
          fun leader work => ?_, by simp, by simp⟩
      · have different : other ≠ lockKey scope key := by
          rintro rfl
          rw [free] at locked
          cases locked
        exact (Function.update_of_ne different _ _).trans locked
      · by_cases isKey : other = lockKey scope key
        · subst isKey
          have isNew := (Function.update_self (lockKey scope key)
            (some state.calls.length) state.locks).symm.trans locked
          exact Or.inr ⟨(Option.some.inj isNew).symm, rfl, ⟨_, rfl⟩, rfl⟩
        · exact Or.inl
            ((Function.update_of_ne isKey _ _).symm.trans locked)
      · cases work
        trivial
      · cases work

end

theorem sound_of_reachable
    {state : State}
    (reachable : Reachable state) :
    Sound state := by
  induction reachable with
  | initial => exact sound_initial
  | step _ taken sound =>
      cases change_of_take taken with
      | begins scope key => exact sound.begin scope key
      | enters unended enters => exact sound.enter unended enters
      | starts unended => exact sound.start unended
      | keeps unended => exact sound.keep unended
      | releases unended => exact sound.release unended
      | follows unended settled => exact sound.follow unended settled

end Selene.Idempotency
