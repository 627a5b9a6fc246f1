import Selene.IdempotentRuns

/-!
# Responses of idempotent calls

What calls with one scope and key share, and when calls with different ones do:
exactly when the texts coincide that name their locks.
-/

namespace Selene.Idempotency

open Js Collaboration

/-- A call that has resolved to a response. -/
def Call.Resolves (call : Call) (response : Response) : Prop :=
  ∃ time, call.ended = some (time, .resolved response)

variable {state : State}

theorem Sound.holds_of_resolves
    (sound : Sound state)
    {id : Nat}
    {call : Call}
    (isCall : state.calls[id]? = some call)
    {response : Response}
    (resolves : call.Resolves response) :
    Holds state.storage call.storageKey response := by
  obtain ⟨time, isOver⟩ := resolves
  have callSound := sound.calls id call isCall
  cases work : call.work with
  | refused => cases callSound.refused work time _ isOver
  | runs stage =>
      have settled := (callSound.ended time _ isOver).2 stage work
      have before := callSound.stage stage work
      rw [settled] at before
      exact before
  | follows leader =>
      obtain ⟨run, stage, isRun, runWork, sameLock, settled⟩ :=
        callSound.follows leader work
      have before := (sound.calls leader run isRun).stage stage runWork
      rw [settled time _ isOver] at before
      have sameKey : run.storageKey = call.storageKey := sameLock
      rw [← sameKey]
      exact before

theorem Holds.unique
    {storage : JsString → Option Stored}
    {key : JsString}
    {first second : Response}
    (firstHeld : Holds storage key first)
    (secondHeld : Holds storage key second) :
    first = second := by
  obtain ⟨firstTime, isFirst⟩ := firstHeld
  obtain ⟨secondTime, isSecond⟩ := secondHeld
  rw [isFirst] at isSecond
  exact congrArg Stored.response (Option.some.inj isSecond)

theorem Call.lockKey_of_pair
    {first second : Call}
    (samePair : first.pair = second.pair) :
    first.lockKey = second.lockKey := by
  rw [Call.pair, Call.pair, Prod.mk.injEq] at samePair
  rw [Call.lockKey, Call.lockKey, samePair.1, samePair.2]

/-- Of two calls under one lock that run one is over before the other. -/
theorem Sound.apart_of_started
    (sound : Sound state)
    {first second : Nat}
    {one other : Call}
    (different : first ≠ second)
    (isOne : state.calls[first]? = some one)
    (isOther : state.calls[second]? = some other)
    (sameLock : one.lockKey = other.lockKey)
    (oneStarted : one.startedAt.isSome = true)
    (otherStarted : other.startedAt.isSome = true) :
    one.EndsBefore other ∨ other.EndsBefore one := by
  obtain ⟨oneTime, isOneTime⟩ := Option.isSome_iff_exists.mp oneStarted
  obtain ⟨otherTime, isOtherTime⟩ := Option.isSome_iff_exists.mp otherStarted
  have oneRuns := ((sound.calls first one isOne).started oneTime isOneTime).2
  have otherRuns :=
    ((sound.calls second other isOther).started otherTime isOtherTime).2
  rcases Nat.lt_or_gt_of_ne different with before | after
  · exact Or.inl (sound.apart first second one other before isOne isOther
      oneRuns otherRuns sameLock)
  · exact Or.inr (sound.apart second first other one after isOther isOne
      otherRuns oneRuns sameLock.symm)

/-- Responses come from one operation exactly under one lock. -/
theorem Sound.origin_eq_iff
    (sound : Sound state)
    {first second : Nat}
    {one other : Call}
    (isOne : state.calls[first]? = some one)
    (isOther : state.calls[second]? = some other)
    {response another : Response}
    (oneResolves : one.Resolves response)
    (otherResolves : other.Resolves another) :
    response.origin = another.origin ↔ one.lockKey = other.lockKey := by
  have oneHeld := sound.holds_of_resolves isOne oneResolves
  have otherHeld := sound.holds_of_resolves isOther otherResolves
  constructor
  · intro sameOrigin
    obtain ⟨oneTime, isStored⟩ := oneHeld
    obtain ⟨otherTime, isOtherStored⟩ := otherHeld
    obtain ⟨-, -, origin, isOrigin, originKey, -⟩ :=
      sound.stored _ _ isStored
    obtain ⟨-, -, origin', isOrigin', originKey', -⟩ :=
      sound.stored _ _ isOtherStored
    rw [sameOrigin, isOrigin'] at isOrigin
    cases isOrigin
    exact originKey.symm.trans originKey'
  · intro sameLock
    have sameKey : one.storageKey = other.storageKey := sameLock
    rw [sameKey] at oneHeld
    rw [oneHeld.unique otherHeld]

/--
In every interleaving: calls of one scope and key that both start their
operation do not overlap, none starts it once a response is stored, and those
that succeed have one response.  Two calls with different scopes or keys that
succeed have responses of different operations exactly if the texts that name
their locks differ.
-/
theorem idempotent_calls
    {state : State}
    (reachable : Reachable state) :
    (∀ (first second : Nat) (one other : Call), first ≠ second →
      state.calls[first]? = some one → state.calls[second]? = some other →
      one.pair = other.pair →
      one.startedAt.isSome = true → other.startedAt.isSome = true →
        one.EndsBefore other ∨ other.EndsBefore one) ∧
    (∀ (id time : Nat) (call : Call) (stored : Stored),
      state.calls[id]? = some call → call.startedAt = some time →
      state.storage call.storageKey = some stored → time < stored.time) ∧
    (∀ (first second : Nat) (one other : Call) (response another : Response),
      state.calls[first]? = some one → state.calls[second]? = some other →
      one.Resolves response → other.Resolves another →
        (one.pair = other.pair → response = another) ∧
        (one.pair ≠ other.pair →
          (response.origin ≠ another.origin ↔
            one.lockKey ≠ other.lockKey))) := by
  have sound := sound_of_reachable reachable
  refine ⟨fun first second one other different isOne isOther samePair
      oneStarted otherStarted => ?_, fun id time call stored isCall started
      isStored => ?_, fun first second one other response another isOne isOther
      oneResolves otherResolves => ⟨fun samePair => ?_, fun _ => ?_⟩⟩
  · exact sound.apart_of_started different isOne isOther
      (Call.lockKey_of_pair samePair) oneStarted otherStarted
  · exact (sound.calls id call isCall).before time started stored isStored
  · have sameKey : one.storageKey = other.storageKey :=
      Call.lockKey_of_pair samePair
    have oneHeld := sound.holds_of_resolves isOne oneResolves
    rw [sameKey] at oneHeld
    exact oneHeld.unique (sound.holds_of_resolves isOther otherResolves)
  · exact not_congr
      (sound.origin_eq_iff isOne isOther oneResolves otherResolves)

/-! ## Scopes and keys with a separator -/

/-- The call whose operation made the response that a call has resolved to. -/
def Call.origin? (call : Call) : Option Nat :=
  match call.ended with
  | some (_, .resolved response) => some response.origin
  | _ => none

/-- A call, and after it one whose scope and key are split elsewhere. -/
def collidingMoves : List Move := [
  .call (js "a") (js "b" ++ 0 :: js "c"), .read 0, .resume 0,
  .finish 0 (.bool true), .keep 0, .settle 0, .release 0,
  .call (js "a" ++ 0 :: js "b") (js "c"), .read 1, .resume 1, .release 1]

/-- The second call resolves to the response of the first one's operation. -/
theorem idempotent_collision :
    (initial.takeAll collidingMoves).map
        (fun state => state.calls.map Call.origin?) =
      some [some 0, some 0] ∧
    (js "a", js "b" ++ 0 :: js "c") ≠ (js "a" ++ 0 :: js "b", js "c") := by
  decide +kernel

theorem reachable_takeAll
    {next : State}
    {moves : List Move}
    (reachable : Reachable state)
    (taken : state.takeAll moves = some next) :
    Reachable next := by
  induction moves generalizing state with
  | nil =>
      cases taken
      exact reachable
  | cons move rest inductionHypothesis =>
      obtain ⟨middle, first, others⟩ := Option.bind_eq_some_iff.mp taken
      exact inductionHypothesis (.step reachable first) others

/-- The state that the colliding calls lead to. -/
def collided : State :=
  (initial.takeAll collidingMoves).getD initial

theorem reachable_collided : Reachable collided := by
  cases taken : initial.takeAll collidingMoves with
  | none =>
      have made : (initial.takeAll collidingMoves).isSome = true := by
        decide +kernel
      rw [taken] at made
      cases made
  | some state =>
      have isState : collided = state := by
        rw [collided, taken, Option.getD_some]
      rw [isState]
      exact reachable_takeAll .initial taken

theorem Call.resolves_of_origin
    {call : Call}
    {origin : Nat}
    (isOrigin : call.origin? = some origin) :
    ∃ response, call.Resolves response ∧ response.origin = origin := by
  rw [Call.origin?] at isOrigin
  split at isOrigin
  · rename_i time response isOver
    exact ⟨response, ⟨time, isOver⟩, Option.some.inj isOrigin⟩
  · cases isOrigin

/-- The colliding calls have different scopes and keys and one lock. -/
theorem idempotent_calls_collided :
    collided.calls.map Call.pair =
        [(js "a", js "b" ++ 0 :: js "c"), (js "a" ++ 0 :: js "b", js "c")] ∧
      collided.calls[0]?.map Call.lockKey =
        collided.calls[1]?.map Call.lockKey := by
  refine ⟨by decide +kernel, ?_⟩
  have origins : collided.calls.map Call.origin? = [some 0, some 0] := by
    decide +kernel
  have pairs : collided.calls.map Call.pair =
      [(js "a", js "b" ++ 0 :: js "c"), (js "a" ++ 0 :: js "b", js "c")] := by
    decide +kernel
  cases calls : collided.calls with
  | nil => simp [calls] at origins
  | cons one rest =>
      cases rest with
      | nil => simp [calls] at origins
      | cons other others =>
          simp only [calls, List.map_cons, List.cons.injEq] at origins pairs
          obtain ⟨response, resolves, isZero⟩ :=
            Call.resolves_of_origin origins.1
          obtain ⟨another, alsoResolves, alsoZero⟩ :=
            Call.resolves_of_origin origins.2.1
          have different : one.pair ≠ other.pair := by
            rw [pairs.1, pairs.2.1]
            decide
          have shared := ((idempotent_calls reachable_collided).2.2 0 1 one
            other response another (by simp [calls]) (by simp [calls])
            resolves alsoResolves).2 different
          rw [isZero, alsoZero] at shared
          have sameLock : one.lockKey = other.lockKey := by
            by_contra apart
            exact shared.mpr apart rfl
          simp [sameLock]

end Selene.Idempotency
