import Selene.CollaborationBoundary
import Selene.InertCopy

/-!
# Idempotent calls

`idempotent` runs an operation once for a scope and a key: a run looks the stored
response up, starts the operation if there is none, and has its response stored.
Calls that find a run under their lock share it.

The module models any number of calls on one in-memory repository, in any
interleaving of their awaits: what the code does between two awaits is one move.
A call without a key just runs its operation and is not modelled.
-/

namespace Selene.Idempotency

open Js Collaboration

/-! ## Calls -/

/-- A response, with the call whose operation made it. -/
structure Response where
  value : JsValue
  origin : Nat

/-- What a promise settles with. -/
inductive Outcome where
  | resolved (response : Response)
  | rejected

/-- Where a run is; `await` stands between the stages. -/
inductive RunStage where
  | looking
  | found (existing : Option Response)
  | operating
  | storing (response : Response)
  | stored (response : Response)
  | settled (outcome : Outcome)

/-- What a call waits for. -/
inductive Work where
  | refused
  | follows (leader : Nat)
  | runs (stage : RunStage)

/-- A call, with the times at which something became of it. -/
structure Call where
  scope : JsString
  key : JsString
  began : Nat
  work : Work
  startedAt : Option Nat
  ended : Option (Nat × Outcome)

/-- `${scope}\u0000${key}`, the name of a lock. -/
def lockKey (scope key : JsString) : JsString :=
  scope ++ 0 :: key

/-- `key` of the repository, the name under which a response is stored. -/
def storageKey (scope value : JsString) : JsString :=
  scope ++ 0 :: value

def Call.lockKey (call : Call) : JsString :=
  Idempotency.lockKey call.scope call.key

def Call.storageKey (call : Call) : JsString :=
  Idempotency.storageKey call.scope call.key

/-- The scope and the key of a call. -/
def Call.pair (call : Call) : JsString × JsString :=
  (call.scope, call.key)

/-- A stored response, with the time at which it was stored. -/
structure Stored where
  response : Response
  time : Nat

structure State where
  clock : Nat
  storage : JsString → Option Stored
  locks : JsString → Option Nat
  calls : List Call

/-- A repository before the first call. -/
def initial : State :=
  ⟨0, fun _ => none, fun _ => none, []⟩

/-! ## Moves -/

/-- `owned`: the copy of a response, if the boundary takes it. -/
def ownedResponse (response : Response) : Outcome :=
  if collaborationBudgets.Admits response.value then
    .resolved { response with value := inertCopy response.value }
  else
    .rejected

/-- What a call is checked for before it does anything. -/
def acceptsCall (scope key : JsString) : Bool :=
  decide (collaborationBudgets.Admits (.string scope)) &&
    (requireText key (js "idempotency key") 256).isOk

inductive Move where
  | call (scope key : JsString)
  | read (id : Nat)
  | readFails (id : Nat)
  | resume (id : Nat)
  | finish (id : Nat) (value : JsValue)
  | fail (id : Nat)
  | keep (id : Nat)
  | keepFails (id : Nat)
  | settle (id : Nat)
  | release (id : Nat)
  | follow (id : Nat)

namespace State

variable (state : State)

/-- A run that goes on at another stage. -/
def enter (id : Nat) (call : Call) (stage : RunStage) : State :=
  { state with
    clock := state.clock + 1
    calls := state.calls.set id { call with work := .runs stage } }

/-- The call of the operation. -/
def start (id : Nat) (call : Call) : State :=
  { state with
    clock := state.clock + 1
    calls := state.calls.set id
      { call with
        work := .runs .operating
        startedAt := some state.clock } }

/-- `putIdempotency`: the first response for a key stays. -/
def keep (id : Nat) (call : Call) (response : Response) : State :=
  match state.storage call.storageKey with
  | some existing => state.enter id call (.stored existing.response)
  | none =>
      { state.enter id call (.stored response) with
        storage := Function.update state.storage call.storageKey
          (some ⟨response, state.clock⟩) }

/-- The end of a call. -/
def finishCall (id : Nat) (call : Call) (outcome : Outcome) : State :=
  { state with
    clock := state.clock + 1
    calls := state.calls.set id
      { call with ended := some (state.clock, outcome) } }

/-- A new call. -/
def append (call : Call) : State :=
  { state with
    clock := state.clock + 1
    calls := state.calls ++ [call] }

/-- `idempotent`, up to its first await. -/
def begin (scope key : JsString) : State :=
  if acceptsCall scope key = false then
    state.append ⟨scope, key, state.clock, .refused, none,
      some (state.clock, .rejected)⟩
  else
    match state.locks (lockKey scope key) with
    | some active =>
        state.append ⟨scope, key, state.clock, .follows active, none, none⟩
    | none =>
        let call : Call :=
          ⟨scope, key, state.clock, .runs .looking, none, none⟩
        { state.append call with
          locks := Function.update state.locks (lockKey scope key)
            (some state.calls.length) }

/-- The `finally` of the call that made a run, and its end. -/
def release (id : Nat) (call : Call) (outcome : Outcome) : State :=
  { state.finishCall id call outcome with
    locks :=
      if state.locks call.lockKey = some id then
        Function.update state.locks call.lockKey none
      else state.locks }

/-- What a run does at one of its stages. -/
def advance (id : Nat) (call : Call) : RunStage → Move → Option State
  | .looking, .read _ =>
      some (state.enter id call (.found
        ((state.storage call.storageKey).map Stored.response)))
  | .looking, .readFails _ => some (state.enter id call (.settled .rejected))
  | .found none, .resume _ => some (state.start id call)
  | .found (some existing), .resume _ =>
      some (state.enter id call (.settled (ownedResponse existing)))
  | .operating, .finish _ value =>
      match ownedResponse ⟨value, id⟩ with
      | .resolved response => some (state.enter id call (.storing response))
      | .rejected => some (state.enter id call (.settled .rejected))
  | .operating, .fail _ => some (state.enter id call (.settled .rejected))
  | .storing response, .keep _ => some (state.keep id call response)
  | .storing _, .keepFails _ =>
      some (state.enter id call (.settled .rejected))
  | .stored response, .settle _ =>
      some (state.enter id call (.settled (ownedResponse response)))
  | .settled outcome, .release _ => some (state.release id call outcome)
  | _, _ => none

/-- The outcome of a call's run, once it has one. -/
def outcome? (id : Nat) : Option Outcome :=
  match state.calls[id]?.map Call.work with
  | some (.runs (.settled outcome)) => some outcome
  | _ => none

/-- A call that has not ended goes on. -/
def continueCall (id : Nat) (call : Call) (move : Move) : Option State :=
  match call.work with
  | .refused => none
  | .runs stage => state.advance id call stage move
  | .follows leader =>
      match move with
      | .follow _ => (state.outcome? leader).map (state.finishCall id call)
      | _ => none

end State

/-- The call that a move is about. -/
def Move.id? : Move → Option Nat
  | .call _ _ => none
  | .read id | .readFails id | .resume id | .finish id _ | .fail id
  | .keep id | .keepFails id | .settle id | .release id | .follow id => some id

/-- One move, if it can be made. -/
def State.take (state : State) (move : Move) : Option State :=
  match move, move.id? with
  | .call scope key, _ => some (state.begin scope key)
  | _, none => none
  | move, some id =>
      match state.calls[id]? with
      | none => none
      | some call =>
          if call.ended.isSome then none else state.continueCall id call move

/-- The states that calls lead to. -/
inductive Reachable : State → Prop where
  | initial : Reachable initial
  | step {state next : State} {move : Move} :
      Reachable state → state.take move = some next → Reachable next

/-- Make moves in order. -/
def State.takeAll (state : State) : List Move → Option State
  | [] => some state
  | move :: rest => (state.take move).bind fun next => next.takeAll rest

end Selene.Idempotency
