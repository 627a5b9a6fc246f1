import Mathlib.Logic.Basic

/-!
# Loops with a measure

A `while` loop whose body may return: every turn either goes on with a new
state or stops with a result, and a measure falls with every turn that goes on.
`Loop.run` is total and evaluates; `run_eq` is the equation of the loop,
`run_rule` its invariant rule and `run_induct` the rule against the run.
-/

namespace Js

/-- One turn of a loop, and why the loop ends. -/
structure Loop (σ β : Type) where
  turn : σ → σ ⊕ β
  measure : σ → Nat
  decreases : ∀ state next,
    turn state = .inl next → measure next < measure state

namespace Loop

variable {σ β : Type}

/-- Run for at most `fuel` turns; the measure says that this is enough. -/
def runFor (loop : Loop σ β) :
    (fuel : Nat) → (state : σ) → loop.measure state < fuel → β
  | fuel + 1, state, enough =>
      match taken : loop.turn state with
      | .inr result => result
      | .inl next =>
          loop.runFor fuel next
            (Nat.lt_of_lt_of_le (loop.decreases state next taken)
              (Nat.le_of_lt_succ enough))

/-- Run the loop to its result. -/
def run (loop : Loop σ β) (state : σ) : β :=
  loop.runFor (loop.measure state + 1) state (Nat.lt_succ_self _)

variable {loop : Loop σ β} {state : σ}

theorem runFor_of_stop
    {fuel : Nat}
    {result : β}
    (enough : loop.measure state < fuel)
    (stops : loop.turn state = .inr result) :
    loop.runFor fuel state enough = result := by
  cases fuel with
  | zero => exact absurd enough (Nat.not_lt_zero _)
  | succ fuel =>
      rw [runFor]
      split
      · rename_i found taken
        exact Sum.inr.inj (taken.symm.trans stops)
      · rename_i next taken
        exact absurd (taken.symm.trans stops) (by simp)

theorem runFor_of_next
    {fuel : Nat}
    {next : σ}
    (enough : loop.measure state < fuel + 1)
    (continues : loop.turn state = .inl next)
    (enoughNext : loop.measure next < fuel) :
    loop.runFor (fuel + 1) state enough =
      loop.runFor fuel next enoughNext := by
  rw [runFor]
  split
  · rename_i found taken
    exact absurd (taken.symm.trans continues) (by simp)
  · rename_i found taken
    obtain rfl := Sum.inl.inj (taken.symm.trans continues)
    rfl

theorem runFor_eq
    (loop : Loop σ β)
    (first second : Nat)
    (state : σ)
    (enoughFirst : loop.measure state < first)
    (enoughSecond : loop.measure state < second) :
    loop.runFor first state enoughFirst =
      loop.runFor second state enoughSecond := by
  induction first generalizing second state with
  | zero => exact absurd enoughFirst (Nat.not_lt_zero _)
  | succ first inductionHypothesis =>
      cases second with
      | zero => exact absurd enoughSecond (Nat.not_lt_zero _)
      | succ second =>
          cases taken : loop.turn state with
          | inr result =>
              rw [runFor_of_stop enoughFirst taken,
                runFor_of_stop enoughSecond taken]
          | inl next =>
              have smaller := loop.decreases state next taken
              rw [runFor_of_next enoughFirst taken (by omega),
                runFor_of_next enoughSecond taken (by omega)]
              exact inductionHypothesis second next _ _

theorem run_eq
    (loop : Loop σ β)
    (state : σ) :
    loop.run state =
      match loop.turn state with
      | .inr result => result
      | .inl next => loop.run next := by
  cases taken : loop.turn state with
  | inr result => exact runFor_of_stop _ taken
  | inl next =>
      have smaller := loop.decreases state next taken
      rw [run, runFor_of_next (Nat.lt_succ_self _) taken smaller]
      exact runFor_eq loop _ _ next _ _

/-- What every turn keeps holds of the state in which the loop stops. -/
theorem run_rule
    (invariant : σ → Prop)
    (post : β → Prop)
    (keeps : ∀ state next,
      invariant state → loop.turn state = .inl next → invariant next)
    (stops : ∀ state result,
      invariant state → loop.turn state = .inr result → post result)
    (holds : invariant state) :
    post (loop.run state) := by
  induction size : loop.measure state using Nat.strongRecOn
    generalizing state with
  | _ size inductionHypothesis =>
  rw [run_eq]
  cases taken : loop.turn state with
  | inr result => exact stops state result holds taken
  | inl next =>
      exact inductionHypothesis _
        (size ▸ loop.decreases state next taken)
        (keeps state next holds taken) rfl

/-- What holds of a state where the loop stops, and of every state before one of
which it holds, holds of the state in which the loop starts. -/
theorem run_induct
    (holds : σ → β → Prop)
    (stops : ∀ state result,
      loop.turn state = .inr result → holds state result)
    (goesOn : ∀ state next, loop.turn state = .inl next →
      holds next (loop.run next) → holds state (loop.run next))
    (state : σ) :
    holds state (loop.run state) := by
  induction size : loop.measure state using Nat.strongRecOn
    generalizing state with
  | _ size inductionHypothesis =>
  rw [run_eq]
  cases taken : loop.turn state with
  | inr result => exact stops state result taken
  | inl next =>
      exact goesOn state next taken (inductionHypothesis _
        (size ▸ loop.decreases state next taken) next rfl)

end Loop

end Js
