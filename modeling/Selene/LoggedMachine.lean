import Mathlib.Data.List.Basic

/-!
# Machines with a log

A machine takes every call: its step returns the next state together with what
the call answered.  `takeAll` runs a list of calls, and `taken` is the log of
the run, with the states around each call.  Invariants of runs, and relations
between the log and the state, follow from what one step preserves.
-/

namespace Js

variable {σ κ ο : Type}

/-- One call of a run, with its answer and the states around it. -/
structure Taken (σ κ ο : Type) where
  before : σ
  call : κ
  answer : ο
  after : σ

/-- The call that a machine takes in a state. -/
def take (step : σ → κ → σ × ο) (state : σ) (call : κ) : Taken σ κ ο where
  before := state
  call
  answer := (step state call).2
  after := (step state call).1

/-- The state after a list of calls. -/
def takeAll (step : σ → κ → σ × ο) (state : σ) (calls : List κ) : σ :=
  calls.foldl (fun state call => (step state call).1) state

/-- The calls of a run, in order. -/
def taken (step : σ → κ → σ × ο) : σ → List κ → List (Taken σ κ ο)
  | _, [] => []
  | state, call :: rest =>
      take step state call :: taken step (step state call).1 rest

section

variable {step : σ → κ → σ × ο}

@[simp] theorem takeAll_nil (state : σ) : takeAll step state [] = state :=
  rfl

@[simp] theorem takeAll_cons
    (state : σ)
    (call : κ)
    (rest : List κ) :
    takeAll step state (call :: rest) =
      takeAll step (step state call).1 rest :=
  rfl

theorem map_call_taken
    (state : σ)
    (calls : List κ) :
    (taken step state calls).map Taken.call = calls := by
  induction calls generalizing state with
  | nil => rfl
  | cons call rest inductionHypothesis =>
      rw [taken, List.map_cons, inductionHypothesis]
      rfl

/-- What holds of every call of a run holds of the calls in its log. -/
theorem forall_call_taken
    {allowed : κ → Prop}
    {calls : List κ}
    (each : ∀ call ∈ calls, allowed call)
    (state : σ) :
    ∀ entry ∈ taken step state calls, allowed entry.call := by
  intro entry member
  refine each entry.call ?_
  rw [← @map_call_taken _ _ _ step state calls]
  exact List.mem_map_of_mem member

theorem takeAll_append
    (state : σ)
    (calls more : List κ) :
    takeAll step state (calls ++ more) =
      takeAll step (takeAll step state calls) more :=
  List.foldl_append

/--
A relation between the log so far and the state is kept by a run if it is kept
by every call that the run takes.
-/
theorem takeAll_tracks
    (tracks : List (Taken σ κ ο) → σ → Prop)
    (allowed : σ → κ → Prop)
    (preserved : ∀ log state call,
      tracks log state → allowed state call →
        tracks (log ++ [take step state call]) (step state call).1)
    {log : List (Taken σ κ ο)}
    {state : σ}
    (holds : tracks log state)
    {calls : List κ}
    (within : ∀ entry ∈ taken step state calls,
      allowed entry.before entry.call) :
    tracks (log ++ taken step state calls) (takeAll step state calls) := by
  induction calls generalizing log state with
  | nil => simpa [taken] using holds
  | cons call rest inductionHypothesis =>
      rw [taken, List.forall_mem_cons] at within
      have first := preserved log state call holds within.1
      have rested := inductionHypothesis first within.2
      rw [takeAll_cons, taken]
      simpa using rested

theorem tracks_before
    (tracks : List (Taken σ κ ο) → σ → Prop)
    (preserved : ∀ log state call, tracks log state →
      tracks (log ++ [take step state call]) (step state call).1)
    {log : List (Taken σ κ ο)}
    {state : σ}
    (holds : tracks log state)
    {calls : List κ}
    {index : Nat}
    {entry : Taken σ κ ο}
    (found : (taken step state calls)[index]? = some entry) :
    tracks (log ++ (taken step state calls).take index) entry.before ∧
      entry = take step entry.before entry.call := by
  induction calls generalizing log state index with
  | nil => simp [taken] at found
  | cons call rest inductionHypothesis =>
      rw [taken] at found
      cases index with
      | zero =>
          cases Option.some.inj (List.getElem?_cons_zero.symm.trans found)
          simpa using ⟨holds, rfl⟩
      | succ index =>
          rw [List.getElem?_cons_succ] at found
          have later := inductionHypothesis (preserved log state call holds) found
          rw [taken, List.take_succ_cons]
          simpa using later

section

variable
    (invariant : σ → Prop)
    (allowed : σ → κ → Prop)
    (preserved : ∀ state call,
      invariant state → allowed state call → invariant (step state call).1)
    {state : σ}
    (holds : invariant state)
    {calls : List κ}
    (within : ∀ entry ∈ taken step state calls,
      allowed entry.before entry.call)

include preserved holds within

theorem takeAll_invariant :
    invariant (takeAll step state calls) :=
  @takeAll_tracks _ _ _ step (fun _ state => invariant state) allowed
    (fun _ state call => preserved state call) [] _ holds _ within

/-- The calls of a run start in states that satisfy an invariant. -/
theorem forall_taken :
    ∀ entry ∈ taken step state calls,
      invariant entry.before ∧ entry = take step entry.before entry.call := by
  induction calls generalizing state with
  | nil => simp [taken]
  | cons call rest inductionHypothesis =>
      rw [taken, List.forall_mem_cons] at within
      have rested := inductionHypothesis
        (preserved state call holds within.1) within.2
      intro entry member
      rcases List.mem_cons.mp member with rfl | later
      · exact ⟨holds, rfl⟩
      · exact rested entry later

end

theorem drop_taken
    {state : σ}
    {calls : List κ}
    {index : Nat}
    {entry : Taken σ κ ο}
    (found : (taken step state calls)[index]? = some entry) :
    (taken step state calls).drop (index + 1) =
      taken step entry.after (calls.drop (index + 1)) := by
  induction calls generalizing state index with
  | nil => simp [taken] at found
  | cons call rest inductionHypothesis =>
      rw [taken] at found ⊢
      cases index with
      | zero =>
          cases Option.some.inj (List.getElem?_cons_zero.symm.trans found)
          rfl
      | succ index =>
          rw [List.getElem?_cons_succ] at found
          exact inductionHypothesis found

section

variable
    (invariant : σ → Prop)
    (relation : σ → σ → Prop)
    (reflexive : ∀ state, relation state state)
    (composes : ∀ first second third, relation first second →
      relation second third → relation first third)
    (preserved : ∀ state call,
      invariant state → invariant (step state call).1)
    (relates : ∀ state call,
      invariant state → relation state (step state call).1)
    {state : σ}
    (holds : invariant state)
    {calls : List κ}

include reflexive composes preserved relates holds

/--
Let every call in a state with an invariant relate the states around it.  If
the relation composes, it relates the start of a run to every later state.
-/
theorem related_of_start
    {index : Nat}
    {entry : Taken σ κ ο}
    (found : (taken step state calls)[index]? = some entry) :
    relation state entry.before ∧ relation state entry.after := by
  have tracked := @tracks_before _ _ _ step
    (fun _ now => invariant now ∧ relation state now)
    (fun _ now call kept => ⟨preserved now call kept.1,
      composes _ _ _ kept.2 (relates now call kept.1)⟩)
    [] state ⟨holds, reflexive state⟩ calls index entry found
  obtain ⟨⟨kept, isRelated⟩, isTaken⟩ := tracked
  refine ⟨isRelated, composes _ _ _ isRelated ?_⟩
  rw [isTaken]
  exact relates entry.before entry.call kept

theorem related_of_lt
    {early late : Nat}
    {first second : Taken σ κ ο}
    (order : early < late)
    (isFirst : (taken step state calls)[early]? = some first)
    (isSecond : (taken step state calls)[late]? = some second) :
    relation first.after second.before ∧ relation first.after second.after := by
  obtain ⟨kept, isTaken⟩ := @tracks_before _ _ _ step
    (fun _ now => invariant now)
    (fun _ now call kept => preserved now call kept)
    [] state holds calls early first isFirst
  have keptAfter : invariant first.after := by
    rw [isTaken]
    exact preserved first.before first.call kept
  obtain ⟨gap, rfl⟩ := Nat.exists_eq_add_of_lt order
  have isLater : (taken step first.after
      (calls.drop (early + 1)))[gap]? = some second := by
    rw [← drop_taken isFirst, List.getElem?_drop, ← isSecond]
    congr 1
    omega
  exact related_of_start invariant relation reflexive composes preserved
    relates keptAfter isLater

theorem related_of_le
    {early late : Nat}
    {first second : Taken σ κ ο}
    (order : early ≤ late)
    (isFirst : (taken step state calls)[early]? = some first)
    (isSecond : (taken step state calls)[late]? = some second) :
    relation first.before second.after ∧ relation first.after second.after := by
  obtain ⟨kept, isTaken⟩ := @tracks_before _ _ _ step
    (fun _ now => invariant now)
    (fun _ now call kept => preserved now call kept)
    [] state holds calls early first isFirst
  have acts : relation first.before first.after := by
    rw [isTaken]
    exact relates first.before first.call kept
  rcases Nat.eq_or_lt_of_le order with rfl | before
  · cases Option.some.inj (isFirst.symm.trans isSecond)
    exact ⟨acts, reflexive first.after⟩
  · obtain ⟨_, toAfter⟩ := related_of_lt invariant relation reflexive
      composes preserved relates holds before isFirst isSecond
    exact ⟨composes _ _ _ acts toAfter, toAfter⟩

end

/-- A state that some run leads to. -/
def Reachable (step : σ → κ → σ × ο) (start state : σ) : Prop :=
  ∃ calls, takeAll step start calls = state

/-- What every call preserves holds in every reachable state. -/
theorem Reachable.invariant
    {start state : σ}
    (reachable : Reachable step start state)
    (invariant : σ → Prop)
    (preserved : ∀ state call,
      invariant state → invariant (step state call).1)
    (holds : invariant start) :
    invariant state := by
  obtain ⟨calls, rfl⟩ := reachable
  exact takeAll_invariant invariant (fun _ _ => True)
    (fun state call kept _ => preserved state call kept) holds
    (fun _ _ => trivial)

end

end Js
