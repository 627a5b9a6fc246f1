import Mathlib.Data.List.Chain

/-!
# Timelines

A line of states with a place on it, as an editor keeps it for undo and redo.
To record a state forgets what lies ahead and, beyond a bound, what is oldest.
Neighbouring states differ, so that every move along the line is one that shows.
-/

namespace Js

@[ext] structure Timeline (κ : Type) (bound : Nat) where
  states : List κ
  place : Nat
  inside : place < states.length
  bounded : states.length ≤ bound + 1
  moving : states.IsChain (· ≠ ·)

inductive TimelineMove (κ : Type) where
  | record (state : κ)
  | back
  | forward

namespace Timeline

variable {κ : Type} {bound : Nat} (timeline : Timeline κ bound)

def current : κ :=
  timeline.states.get ⟨timeline.place, timeline.inside⟩

def start (state : κ) : Timeline κ bound where
  states := [state]
  place := 0
  inside := Nat.one_pos
  bounded := Nat.le_add_left 1 bound
  moving := List.isChain_singleton _

/-- The states up to the place, but for the oldest beyond the bound. -/
def kept : List κ :=
  (timeline.states.take (timeline.place + 1)).drop (timeline.place + 1 - bound)

theorem moving_record
    {state : κ}
    (new : timeline.current ≠ state) :
    (timeline.kept ++ [state]).IsChain (· ≠ ·) := by
  refine ((timeline.moving.take _).drop _).append
    (List.isChain_singleton _) fun last isLast next isNext => ?_
  cases isNext
  rw [List.getLast?_drop] at isLast
  split at isLast
  · cases isLast
  · rw [List.getLast?_take, if_neg (Nat.succ_ne_zero _), Nat.add_sub_cancel,
      List.getElem?_eq_getElem timeline.inside] at isLast
    cases isLast
    exact new

def record
    {state : κ}
    (new : timeline.current ≠ state) :
    Timeline κ bound where
  states := timeline.kept ++ [state]
  place := timeline.kept.length
  inside := by simp
  bounded := by
    simp only [kept, List.length_append, List.length_drop, List.length_take,
      List.length_singleton]
    omega
  moving := timeline.moving_record new

def step [DecidableEq κ] : TimelineMove κ → Timeline κ bound
  | .record state =>
      if new : timeline.current ≠ state then timeline.record new else timeline
  | .back =>
      { timeline with
        place := timeline.place - 1
        inside := lt_of_le_of_lt (Nat.sub_le _ _) timeline.inside }
  | .forward =>
      { timeline with
        place := min (timeline.place + 1) (timeline.states.length - 1)
        inside := by
          have inside := timeline.inside
          omega }

end Timeline

end Js
