import Mathlib.Data.Option.Basic

/-!
# Layers of partial maps

What a list of partial maps gives a key when later ones win: the properties of
an object that is put together from left to right.
-/

namespace Overlay

variable {κ α : Type}

/-- What the last layer that has a key gives it. -/
def read : List (κ → Option α) → κ → Option α
  | [], _ => none
  | layer :: rest, key => (read rest key).or (layer key)

theorem read_append
    (front back : List (κ → Option α))
    (key : κ) :
    read (front ++ back) key = (read back key).or (read front key) := by
  induction front with
  | nil => exact (Option.or_none).symm
  | cons layer rest inductionHypothesis =>
      rw [List.cons_append, read, inductionHypothesis, read, Option.or_assoc]

theorem read_concat
    (front : List (κ → Option α))
    (layer : κ → Option α)
    (key : κ) :
    read (front ++ [layer]) key = (layer key).or (read front key) :=
  read_append front [layer] key

variable {key : κ}

theorem read_eq_none
    {layers : List (κ → Option α)}
    (absent : ∀ layer ∈ layers, layer key = none) :
    read layers key = none := by
  induction layers with
  | nil => rfl
  | cons layer rest inductionHypothesis =>
      rw [List.forall_mem_cons] at absent
      rw [read, inductionHypothesis absent.2, absent.1]
      rfl

/-- Layers that give a key one value or nothing, and one of them does. -/
theorem read_eq_some
    {layers : List (κ → Option α)}
    {value : α}
    (alike : ∀ layer ∈ layers, layer key = none ∨ layer key = some value)
    (given : ∃ layer ∈ layers, layer key = some value) :
    read layers key = some value := by
  induction layers with
  | nil =>
      obtain ⟨layer, member, _⟩ := given
      cases member
  | cons layer rest inductionHypothesis =>
      rw [List.forall_mem_cons] at alike
      simp only [List.mem_cons, exists_eq_or_imp] at given
      rw [read]
      by_cases later : ∃ layer ∈ rest, layer key = some value
      · rw [inductionHypothesis alike.2 later, Option.some_or]
      · have absent : ∀ layer ∈ rest, layer key = none := fun layer member =>
          (alike.2 layer member).resolve_right fun own =>
            later ⟨layer, member, own⟩
        rw [read_eq_none absent, given.resolve_right later, Option.none_or]

theorem read_replace
    {front back : List (κ → Option α)}
    {first second : κ → Option α}
    (same : first key = second key) :
    read (front ++ first :: back) key = read (front ++ second :: back) key := by
  rw [read_append, read_append, read, read, same]

end Overlay
