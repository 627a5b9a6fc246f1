import Mathlib.Data.List.Infix

/-!
# Lexical path resolution

A relative path is a list of moves from a directory: stay, go up one level, or
go down into a name.  A `Location` is where the moves lead, seen from a root
directory: the levels above the root, and the names passed from there.

Moves never leave the root exactly when, in every initial part of them, going
up is covered by the depth of the start and by going down.
-/

namespace Posix

variable {σ : Type}

/-- One component of a relative path. -/
inductive Move (σ : Type) where
  | stay
  | up
  | down (name : σ)
  deriving DecidableEq

/-- A place relative to a root directory. -/
structure Location (σ : Type) where
  above : Nat
  names : List σ
  deriving DecidableEq

/-- Follow one component. -/
def Location.move (here : Location σ) : Move σ → Location σ
  | .stay => here
  | .up =>
      match here.names with
      | [] => { here with above := here.above + 1 }
      | name :: rest => { here with names := (name :: rest).dropLast }
  | .down name => { here with names := here.names ++ [name] }

/-- Follow a path. -/
def walk (start : Location σ) (moves : List (Move σ)) : Location σ :=
  moves.foldl Location.move start

/-- How many components go up. -/
def upsIn : List (Move σ) → Nat
  | [] => 0
  | .up :: rest => upsIn rest + 1
  | .stay :: rest => upsIn rest
  | .down _ :: rest => upsIn rest

/-- How many components go down. -/
def downsIn : List (Move σ) → Nat
  | [] => 0
  | .down _ :: rest => downsIn rest + 1
  | .stay :: rest => downsIn rest
  | .up :: rest => downsIn rest

/-- No initial part of a path leads above the root. -/
def NeverAbove (start : Location σ) (moves : List (Move σ)) : Prop :=
  ∀ before ∈ moves.inits, (walk start before).above = 0

/-- In every initial part, going up is covered by depth and by going down. -/
def Covered (depth : Nat) (moves : List (Move σ)) : Prop :=
  ∀ before ∈ moves.inits, upsIn before ≤ depth + downsIn before

instance (start : Location σ) (moves : List (Move σ)) :
    Decidable (NeverAbove start moves) :=
  inferInstanceAs (Decidable (∀ _ ∈ _, _))

instance (depth : Nat) (moves : List (Move σ)) :
    Decidable (Covered depth moves) :=
  inferInstanceAs (Decidable (∀ _ ∈ _, _))

@[simp] theorem walk_nil (start : Location σ) :
    walk start [] = start :=
  rfl

@[simp] theorem walk_cons
    (start : Location σ)
    (move : Move σ)
    (rest : List (Move σ)) :
    walk start (move :: rest) = walk (start.move move) rest :=
  rfl

variable {start : Location σ}

theorem neverAbove_cons
    {move : Move σ}
    {rest : List (Move σ)} :
    NeverAbove start (move :: rest) ↔
      start.above = 0 ∧ NeverAbove (start.move move) rest := by
  simp [NeverAbove]

theorem covered_cons
    {depth : Nat}
    {move : Move σ}
    {rest : List (Move σ)} :
    Covered depth (move :: rest) ↔
      ∀ before ∈ rest.inits,
        upsIn (move :: before) ≤ depth + downsIn (move :: before) := by
  simp [Covered, upsIn]

theorem not_neverAbove_of_above
    (moves : List (Move σ))
    (above : start.above ≠ 0) :
    ¬ NeverAbove start moves := by
  intro never
  exact above (never [] (by simp))

/-- Paths stay below the root exactly when going up is covered. -/
theorem neverAbove_iff_covered
    (names : List σ)
    (moves : List (Move σ)) :
    NeverAbove ⟨0, names⟩ moves ↔ Covered names.length moves := by
  induction moves generalizing names with
  | nil => simp [NeverAbove, Covered, upsIn, downsIn]
  | cons move rest inductionHypothesis =>
      rw [neverAbove_cons, covered_cons]
      cases move with
      | stay =>
          simpa [Location.move, upsIn, downsIn, Covered] using
            inductionHypothesis names
      | down name =>
          simp only [Location.move, true_and, inductionHypothesis]
          simp only [Covered, upsIn, downsIn, List.length_append,
            List.length_singleton]
          refine forall₂_congr fun before _ => ?_
          omega
      | up =>
          cases names with
          | nil =>
              constructor
              · rintro ⟨_, never⟩
                exact (not_neverAbove_of_above rest
                  (by simp [Location.move]) never).elim
              · intro covered
                have atOnce := covered [] (by simp)
                simp [upsIn, downsIn] at atOnce
          | cons name others =>
              simp only [Location.move, true_and, inductionHypothesis]
              simp only [Covered, upsIn, downsIn, List.length_dropLast,
                List.length_cons]
              refine forall₂_congr fun before _ => ?_
              omega

theorem length_walk
    {names : List σ}
    {moves : List (Move σ)}
    (never : NeverAbove ⟨0, names⟩ moves) :
    (walk ⟨0, names⟩ moves).names.length + upsIn moves =
      names.length + downsIn moves := by
  induction moves generalizing names with
  | nil => simp [upsIn, downsIn]
  | cons move rest inductionHypothesis =>
      obtain ⟨_, later⟩ := neverAbove_cons.mp never
      cases move with
      | stay => exact inductionHypothesis later
      | down name =>
          have balanced := inductionHypothesis later
          simp only [walk_cons, Location.move, upsIn, downsIn,
            List.length_append, List.length_singleton] at balanced ⊢
          omega
      | up =>
          cases names with
          | nil =>
              exact (not_neverAbove_of_above rest
                (by simp [Location.move]) later).elim
          | cons name others =>
              have balanced := inductionHypothesis later
              simp only [walk_cons, Location.move, upsIn, downsIn,
                List.length_dropLast, List.length_cons] at balanced ⊢
              omega

theorem forall_names_walk
    {property : σ → Prop}
    {moves : List (Move σ)}
    (initial : ∀ name ∈ start.names, property name)
    (entered : ∀ name, .down name ∈ moves → property name) :
    ∀ name ∈ (walk start moves).names, property name := by
  induction moves generalizing start with
  | nil => exact initial
  | cons move rest inductionHypothesis =>
      apply inductionHypothesis
      · intro name member
        cases move with
        | stay => exact initial name member
        | down other =>
            rcases List.mem_append.mp member with old | new
            · exact initial name old
            · rw [List.mem_singleton.mp new]
              exact entered other (by simp)
        | up =>
            apply initial
            obtain ⟨above, names⟩ := start
            cases names with
            | nil => exact member
            | cons first others => exact List.mem_of_mem_dropLast member
      · intro name member
        exact entered name (List.mem_cons_of_mem _ member)

end Posix
