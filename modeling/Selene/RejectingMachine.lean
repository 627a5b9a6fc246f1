import Selene.Rejection

/-!
# Machines that reject

A machine whose step either returns the next state or rejects, and whose
rejected calls leave the state as it is.  `settleAll` runs a list of calls and
`accepted` lists the transitions that were taken.  The rules at the end lift
what one accepted step preserves to whole runs.
-/

namespace Js

variable {ε σ κ : Type}

/-- The state after one call. -/
def settle (step : σ → κ → Except ε σ) (state : σ) (call : κ) : σ :=
  match step state call with
  | .ok next => next
  | .error _ => state

/-- The state after a list of calls. -/
def settleAll (step : σ → κ → Except ε σ) (state : σ) (calls : List κ) : σ :=
  calls.foldl (settle step) state

/-- One accepted call with the states around it. -/
structure Accepted (σ κ : Type) where
  before : σ
  call : κ
  after : σ

/-- The accepted calls of a run, in order. -/
def accepted (step : σ → κ → Except ε σ) :
    σ → List κ → List (Accepted σ κ)
  | _, [] => []
  | state, call :: rest =>
      match step state call with
      | .ok next =>
          { before := state, call, after := next } :: accepted step next rest
      | .error _ => accepted step state rest

section

variable {step : σ → κ → Except ε σ}

variable {state : σ}

@[simp] theorem settle_of_ok
    {next : σ}
    {call : κ}
    (taken : step state call = .ok next) :
    settle step state call = next := by
  rw [settle, taken]

@[simp] theorem settle_of_error
    {call : κ}
    {code : ε}
    (rejected : step state call = .error code) :
    settle step state call = state := by
  rw [settle, rejected]

@[simp] theorem settleAll_nil (state : σ) :
    settleAll step state [] = state :=
  rfl

@[simp] theorem settleAll_cons
    (state : σ)
    (call : κ)
    (rest : List κ) :
    settleAll step state (call :: rest) =
      settleAll step (settle step state call) rest :=
  rfl

theorem settleAll_invariant_of
    (invariant : σ → Prop)
    (allowed : κ → Prop)
    (preserved : ∀ state call next, allowed call →
      invariant state → step state call = .ok next → invariant next)
    (holds : invariant state)
    {calls : List κ}
    (every : ∀ call ∈ calls, allowed call) :
    invariant (settleAll step state calls) := by
  induction calls generalizing state with
  | nil => exact holds
  | cons call rest inductionHypothesis =>
      obtain ⟨first, others⟩ := List.forall_mem_cons.mp every
      rw [settleAll_cons]
      cases taken : step state call with
      | ok next =>
          rw [settle_of_ok taken]
          exact inductionHypothesis
            (preserved state call next first holds taken) others
      | error code =>
          rw [settle_of_error taken]
          exact inductionHypothesis holds others

section

variable (invariant : σ → Prop)
  (preserved : ∀ state call next,
    invariant state → step state call = .ok next → invariant next)
  (holds : invariant state) (calls : List κ)

include invariant preserved holds calls

theorem settleAll_invariant :
    invariant (settleAll step state calls) :=
  settleAll_invariant_of invariant (fun _ => True)
    (fun state call next _ => preserved state call next) holds
    fun _ _ => trivial

/-- The transitions of a run start in states that satisfy the invariant. -/
theorem forall_accepted :
    ∀ transition ∈ accepted step state calls,
      invariant transition.before ∧
        step transition.before transition.call = .ok transition.after := by
  induction calls generalizing state with
  | nil => simp [accepted]
  | cons call rest inductionHypothesis =>
      intro transition member
      rw [accepted] at member
      cases taken : step state call with
      | ok next =>
          rw [taken] at member
          rcases List.mem_cons.mp member with rfl | later
          · exact ⟨holds, taken⟩
          · exact inductionHypothesis
              (preserved state call next holds taken) transition later
      | error code =>
          rw [taken] at member
          exact inductionHypothesis holds transition member

end

/-- A reflexive, transitive relation that steps satisfy holds over runs. -/
theorem settleAll_related
    (related : σ → σ → Prop)
    (reflexive : ∀ state, related state state)
    (transitive : ∀ first second third,
      related first second → related second third → related first third)
    (preserved : ∀ state call next,
      step state call = .ok next → related state next)
    (state : σ)
    (calls : List κ) :
    related state (settleAll step state calls) := by
  induction calls generalizing state with
  | nil => exact reflexive state
  | cons call rest inductionHypothesis =>
      rw [settleAll_cons]
      cases taken : step state call with
      | ok next =>
          rw [settle_of_ok taken]
          exact transitive _ _ _ (preserved state call next taken)
            (inductionHypothesis next)
      | error code =>
          rw [settle_of_error taken]
          exact inductionHypothesis state

/--
A relation between the calls accepted so far and the state is kept by runs if
it is kept by accepted steps.
-/
theorem settleAll_tracks
    (tracks : List κ → σ → Prop)
    (preserved : ∀ before state call next,
      tracks before state → step state call = .ok next →
        tracks (before ++ [call]) next)
    {before : List κ}
    (holds : tracks before state)
    (calls : List κ) :
    tracks (before ++ (accepted step state calls).map Accepted.call)
      (settleAll step state calls) := by
  induction calls generalizing before state with
  | nil => simpa [accepted] using holds
  | cons call rest inductionHypothesis =>
      rw [settleAll_cons, accepted]
      cases taken : step state call with
      | ok next =>
          rw [settle_of_ok taken]
          simpa using inductionHypothesis
            (preserved before state call next holds taken)
      | error code =>
          rw [settle_of_error taken]
          exact inductionHypothesis holds

/--
A log that grows by one entry with every accepted call lists, after a run, the
entries of the accepted calls in order.
-/
theorem log_settleAll
    {α : Type}
    (log : σ → List α)
    (entry : κ → Option α)
    (preserved : ∀ state call next,
      step state call = .ok next →
        ∃ logged, entry call = some logged ∧
          log next = log state ++ [logged])
    (state : σ)
    (calls : List κ) :
    log (settleAll step state calls) =
      log state ++
        (accepted step state calls).filterMap fun transition =>
          entry transition.call := by
  induction calls generalizing state with
  | nil => simp [accepted]
  | cons call rest inductionHypothesis =>
      rw [settleAll_cons, accepted]
      cases taken : step state call with
      | ok next =>
          obtain ⟨logged, isLogged, grown⟩ :=
            preserved state call next taken
          rw [settle_of_ok taken, inductionHypothesis next, grown]
          simp [isLogged]
      | error code =>
          rw [settle_of_error taken, inductionHypothesis state]

end

end Js
