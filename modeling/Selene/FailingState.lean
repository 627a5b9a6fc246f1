import Mathlib.Logic.Basic

/-!
# Computations that fail and keep their state

A computation reads and writes a state and returns a result or fails; what it
has written before it fails stays written, as with exceptions.  `Keeps` says
that a computation, whatever its result, takes a state to a related one; the
rules compose it for reflexive and transitive relations.
-/

namespace Js

/-- A computation over a state that may fail. -/
def FailingState (ε σ α : Type) : Type :=
  σ → Except ε α × σ

namespace FailingState

variable {ε σ α β : Type}

instance : Monad (FailingState ε σ) where
  pure value := fun state => (.ok value, state)
  bind first rest := fun state =>
    match first state with
    | (.ok value, next) => rest value next
    | (.error code, next) => (.error code, next)

/-- Fail. -/
def fail (code : ε) : FailingState ε σ α :=
  fun state => (.error code, state)

/-- A computation without state. -/
def lift (result : Except ε α) : FailingState ε σ α :=
  fun state => (result, state)

/-- A change of the state. -/
def modify (change : σ → σ) : FailingState ε σ Unit :=
  fun state => (.ok (), change state)

/-- A reading of the state. -/
def read (view : σ → α) : FailingState ε σ α :=
  fun state => (.ok (view state), state)

/-- Go on with the failure, if there is one. -/
def onError (first : FailingState ε σ α) (handle : ε → FailingState ε σ α) :
    FailingState ε σ α := fun state =>
  match first state with
  | (.ok value, next) => (.ok value, next)
  | (.error code, next) => handle code next

/-- The result as data, also when it is a failure. -/
def settled (task : FailingState ε σ α) : FailingState ε σ (Except ε α) :=
  fun state => (.ok (task state).1, (task state).2)

@[simp] theorem pure_apply (value : α) (state : σ) :
    (pure value : FailingState ε σ α) state = (.ok value, state) :=
  rfl

@[simp] theorem fail_apply (code : ε) (state : σ) :
    (fail code : FailingState ε σ α) state = (.error code, state) :=
  rfl

@[simp] theorem lift_apply (result : Except ε α) (state : σ) :
    (lift result : FailingState ε σ α) state = (result, state) :=
  rfl

@[simp] theorem modify_apply (change : σ → σ) (state : σ) :
    (modify change : FailingState ε σ Unit) state = (.ok (), change state) :=
  rfl

@[simp] theorem read_apply (view : σ → α) (state : σ) :
    (read view : FailingState ε σ α) state = (.ok (view state), state) :=
  rfl

theorem bind_apply
    (first : FailingState ε σ α)
    (rest : α → FailingState ε σ β)
    (state : σ) :
    (first >>= rest) state =
      match first state with
      | (.ok value, next) => rest value next
      | (.error code, next) => (.error code, next) :=
  rfl

/-- Sequencing is associative, and a result by itself changes nothing. -/
instance : LawfulMonad (FailingState ε σ) := by
  refine LawfulMonad.mk' _ ?_ ?_ ?_
  · intro α task
    funext state
    change (task >>= fun value => pure value) state = task state
    rw [bind_apply]
    cases task state with
    | mk result next => cases result <;> rfl
  · intro α β value rest
    rfl
  · intro α β γ first second third
    funext state
    simp only [bind_apply]
    cases first state with
    | mk result next => cases result <;> rfl

variable {first : FailingState ε σ α}

theorem bind_of_ok
    {state next : σ}
    {value : α}
    (ran : first state = (.ok value, next))
    (rest : α → FailingState ε σ β) :
    (first >>= rest) state = rest value next := by
  rw [bind_apply, ran]

theorem bind_of_error
    {state next : σ}
    {code : ε}
    (ran : first state = (.error code, next))
    (rest : α → FailingState ε σ β) :
    (first >>= rest) state = (.error code, next) := by
  rw [bind_apply, ran]

theorem state_bind_fail
    (first : FailingState ε σ α)
    (code : ε)
    (state : σ) :
    ((first >>= fun _ => fail code : FailingState ε σ β) state).2 =
      (first state).2 := by
  rw [bind_apply]
  cases first state with
  | mk result next => cases result <;> rfl

theorem rejects_bind_fail
    (first : FailingState ε σ α)
    (code : ε)
    (state : σ) :
    ∃ raised, ((first >>= fun _ => fail code : FailingState ε σ β) state).1 =
      .error raised := by
  rw [bind_apply]
  cases first state with
  | mk result next =>
      cases result with
      | error raised => exact ⟨raised, rfl⟩
      | ok value => exact ⟨code, rfl⟩

/-! ## What computations keep -/

/-- Every run relates the states around it. -/
def Keeps (related : σ → σ → Prop) (task : FailingState ε σ α) : Prop :=
  ∀ state, related state (task state).2

variable {related : σ → σ → Prop}

theorem keeps_pure
    (reflexive : ∀ state, related state state)
    (value : α) :
    Keeps related (pure value : FailingState ε σ α) :=
  reflexive

theorem keeps_lift
    (reflexive : ∀ state, related state state)
    (result : Except ε α) :
    Keeps related (lift result : FailingState ε σ α) :=
  reflexive

theorem keeps_bind
    (transitive : ∀ first second third,
      related first second → related second third → related first third)
    {rest : α → FailingState ε σ β}
    (keeps : Keeps related first)
    (keepsRest : ∀ value, Keeps related (rest value)) :
    Keeps related (first >>= rest) := by
  intro state
  rw [bind_apply]
  have step := keeps state
  cases ran : first state with
  | mk result next =>
      rw [ran] at step
      cases result with
      | error code => exact step
      | ok value => exact transitive _ _ _ step (keepsRest value next)

/-- One after another over a list. -/
def each (task : α → FailingState ε σ β) : List α → FailingState ε σ (List β)
  | [] => pure []
  | first :: rest => do
      let result ← task first
      let results ← each task rest
      pure (result :: results)

end FailingState

end Js
