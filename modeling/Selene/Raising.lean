import Selene.Rejection

/-!
# Errors that a computation can raise

`Raises allowed` says that a computation fails with allowed errors only.  The
rules follow the combinators that a sequence of checks is written with, so that
the errors of a validator are those of its parts.
-/

namespace Js

variable {ε α β : Type}

/-- Every error of a computation is an allowed one. -/
def Raises (allowed : ε → Prop) (result : Except ε α) : Prop :=
  ∀ error, result = .error error → allowed error

variable {allowed : ε → Prop}

theorem raises_ok (value : α) : Raises allowed (.ok value : Except ε α) :=
  nofun

variable {error : ε}

theorem raises_error
    (isAllowed : allowed error) :
    Raises allowed (.error error : Except ε α) := by
  rintro _ ⟨⟩
  exact isAllowed

theorem raises_check
    {condition : Prop}
    {decision : Decidable condition}
    {code : ε}
    (isAllowed : allowed code) :
    Raises allowed (check condition code) := by
  unfold check
  split
  · exact raises_ok ()
  · exact raises_error isAllowed

variable {first : Except ε α} {next : α → Except ε β}

theorem raises_bind
    (isFirst : Raises allowed first)
    (isNext : ∀ value, Raises allowed (next value)) :
    Raises allowed (first >>= next) := by
  cases first with
  | error code => exact raises_error (isFirst code rfl)
  | ok value => exact isNext value

theorem raises_mapM
    {validate : α → Except ε β}
    (each : ∀ item, Raises allowed (validate item))
    (items : List α) :
    Raises allowed (items.mapM validate) := by
  induction items with
  | nil => exact raises_ok []
  | cons item rest inductionHypothesis =>
      rw [List.mapM_cons]
      exact raises_bind (each item) fun _ =>
        raises_bind inductionHypothesis fun _ => raises_ok _

theorem bind_eq_error :
    (first >>= next) = .error error ↔
      first = .error error ∨
        ∃ value, first = .ok value ∧ next value = .error error := by
  cases first with
  | error code => simp [bind, Except.bind]
  | ok value => simp [bind, Except.bind]

theorem bind_eq_error_of_raises
    (isFirst : Raises allowed first)
    (other : ¬ allowed error) :
    (first >>= next) = .error error ↔
      ∃ value, first = .ok value ∧ next value = .error error := by
  rw [bind_eq_error, or_iff_right]
  exact fun raised => other (isFirst error raised)

theorem check_bind_eq_error
    {condition : Prop}
    {decision : Decidable condition}
    {code : ε}
    {next : Unit → Except ε β}
    (other : error ≠ code) :
    (check condition code >>= next) = .error error ↔
      condition ∧ next () = .error error := by
  unfold check
  split
  · rename_i holds
    simp [holds, bind, Except.bind]
  · rename_i fails
    simp [fails, bind, Except.bind, other.symm]

end Js
