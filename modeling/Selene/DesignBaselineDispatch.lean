import Selene.DesignBaseline

/-!
# Dispatching a baseline command

`dispatchDesignBaselineCommand` persists the result of a command through a port
and reads the abort signal before and after the port's commit.  The second
reading comes too late: a signal that fires while the commit is under way makes
the call reject although its state is stored.  Nothing else makes a rejected
call leave something behind (`dispatch_reports`).
-/

namespace Selene.Baseline

open Js

/-- What is handed to the port in one transaction. -/
structure BaselineChange where
  state : DesignBaselineState
  collaborationActivity : Option CollaborationActivity
  deriving DecidableEq

/-- What a commit rejects with. -/
inductive CommitError where
  | baseline (error : DesignBaselineError)
  | other

/-- The commit of a port; what resolves is stored, what rejects is not. -/
abbrev Commit := BaselineChange → Except CommitError Unit

/-- The two readings of the abort signal, which never resets. -/
structure AbortReadings where
  before : Bool
  after : Bool
  stays : before = true → after = true

/-- One call, for some state of the caller; an invalid port is `none`. -/
structure BaselineDispatch where
  command : DesignBaselineCommand
  port : Option Commit
  signal : AbortReadings

/-- How a call ends, and what the port has stored in it. -/
structure Dispatched where
  result : Except DesignBaselineError DesignBaselineState
  stored : Option BaselineChange

/-- The state that a call asks to persist. -/
def nextState (state : DesignBaselineState) (command : DesignBaselineCommand) :
    Except DesignBaselineError DesignBaselineState := do
  owned state.toJs
  owned command.toJs
  executeDesignBaselineCommand state command

/-- The argument of the commit. -/
def changeOf (next : DesignBaselineState) (command : DesignBaselineCommand) :
    Except DesignBaselineError BaselineChange :=
  match command with
  | .recordCollaborationActivity activity => do
      owned activity.toJs
      pure ⟨next, some activity⟩
  | _ => pure ⟨next, none⟩

def cancelled : DesignBaselineError :=
  js "Baseline persistence was cancelled"

/-- The part of a call that may fail after the state is computed. -/
def persist (dispatch : BaselineDispatch) (next : DesignBaselineState) :
    Dispatched :=
  if dispatch.signal.before then ⟨.error cancelled, none⟩
  else
    match dispatch.port with
    | none => ⟨.error (js "Baseline persistence port is invalid"), none⟩
    | some commit =>
        match changeOf next dispatch.command with
        | .error error => ⟨.error error, none⟩
        | .ok change =>
            match commit change with
            | .error (.baseline error) => ⟨.error error, none⟩
            | .error .other => ⟨.error (js "Baseline persistence failed"), none⟩
            | .ok () =>
                -- The change is stored here, whatever the signal says.
                if dispatch.signal.after then ⟨.error cancelled, some change⟩
                else ⟨.ok next, some change⟩

def dispatchDesignBaselineCommand (state : DesignBaselineState)
    (dispatch : BaselineDispatch) : Dispatched :=
  match nextState state dispatch.command with
  | .error error => ⟨.error error, none⟩
  | .ok next => persist dispatch next

/-! ## What a call reports -/

/-- The call resolves exactly if its state was stored, or else nothing was. -/
def Reports (state : DesignBaselineState) (dispatch : BaselineDispatch) :
    Prop :=
  let ended := dispatchDesignBaselineCommand state dispatch
  ((∃ next, ended.result = .ok next) ↔
      ∃ next change, executeDesignBaselineCommand state dispatch.command =
        .ok next ∧ ended.stored = some change ∧ change.state = next) ∧
    (∀ next, ended.result = .ok next →
      ended.stored.map BaselineChange.state = some next) ∧
    ∀ error, ended.result = .error error → ended.stored = none

/-- The command is accepted, and the port takes what it is handed. -/
def Persists (state : DesignBaselineState) (dispatch : BaselineDispatch) :
    Prop :=
  ∃ next commit change, nextState state dispatch.command = .ok next ∧
    dispatch.port = some commit ∧
    changeOf next dispatch.command = .ok change ∧ commit change = .ok ()

/-- The signal fires between the two readings, around a commit that resolves. -/
def FiresLate (state : DesignBaselineState) (dispatch : BaselineDispatch) :
    Prop :=
  dispatch.signal.before = false ∧ dispatch.signal.after = true ∧
    Persists state dispatch

variable {state : DesignBaselineState} {dispatch : BaselineDispatch}

theorem state_changeOf
    {next : DesignBaselineState}
    {command : DesignBaselineCommand}
    {change : BaselineChange}
    (made : changeOf next command = .ok change) :
    change.state = next := by
  cases command with
  | markReady intent baseline => cases made; rfl
  | applyDesignMutation affected => cases made; rfl
  | recordCollaborationActivity activity =>
      obtain ⟨_, _, rest⟩ := bind_eq_ok.mp made
      cases rest
      rfl

/-- A call either stores nothing and rejects, or stores the next state. -/
theorem dispatch_cases
    (state : DesignBaselineState)
    (dispatch : BaselineDispatch) :
    (¬ (dispatch.signal.before = false ∧ Persists state dispatch) ∧
      ∃ error, dispatchDesignBaselineCommand state dispatch =
        ⟨.error error, none⟩) ∨
    (dispatch.signal.before = false ∧ Persists state dispatch ∧
      ∃ next change,
        executeDesignBaselineCommand state dispatch.command = .ok next ∧
        change.state = next ∧
        dispatchDesignBaselineCommand state dispatch =
          ⟨if dispatch.signal.after then .error cancelled else .ok next,
            some change⟩) := by
  unfold dispatchDesignBaselineCommand
  cases computed : nextState state dispatch.command with
  | error error =>
      refine .inl ⟨fun ⟨_, next, _, _, isNext, _⟩ => ?_, error, rfl⟩
      rw [computed] at isNext
      cases isNext
  | ok next =>
      have executed :
          executeDesignBaselineCommand state dispatch.command = .ok next := by
        obtain ⟨_, _, rest⟩ := bind_eq_ok.mp computed
        obtain ⟨_, _, executed⟩ := bind_eq_ok.mp rest
        exact executed
      -- What persists has this next state, and the port's commit of its change.
      have same : ∀ commit change, Persists state dispatch →
          dispatch.port = some commit →
          changeOf next dispatch.command = .ok change →
          commit change = .ok () := by
        rintro commit change ⟨other, port, made, isNext, isPort, isMade, takes⟩
          isCommit isChange
        rw [computed] at isNext
        cases isNext
        rw [isCommit] at isPort
        cases isPort
        rw [isChange] at isMade
        cases isMade
        exact takes
      unfold persist
      cases before : dispatch.signal.before with
      | true => exact .inl ⟨fun ⟨early, _⟩ => (nomatch early), cancelled, rfl⟩
      | false =>
          cases isPort : dispatch.port with
          | none =>
              refine .inl ⟨fun ⟨_, _, _, _, _, isCommit, _⟩ => ?_, _, rfl⟩
              rw [isPort] at isCommit
              cases isCommit
          | some commit =>
              cases made : changeOf next dispatch.command with
              | error error =>
                  refine .inl ⟨fun ⟨_, persists⟩ => ?_, error, by simp [made]⟩
                  obtain ⟨other, _, change, isNext, _, isMade, _⟩ := persists
                  rw [computed] at isNext
                  cases isNext
                  rw [made] at isMade
                  cases isMade
              | ok change =>
                  cases takes : commit change with
                  | error error =>
                      refine .inl ⟨fun ⟨_, persists⟩ => ?_, ?_⟩
                      · have taken := same commit change persists isPort made
                        rw [takes] at taken
                        cases taken
                      · cases error <;> simp [made, takes]
                  | ok done =>
                      cases done
                      refine .inr ⟨rfl,
                        ⟨next, commit, change, computed, isPort, made, takes⟩,
                        next, change, executed, state_changeOf made, ?_⟩
                      simp only [made, takes, Bool.false_eq_true, if_false]
                      split <;> rfl

/-- A call reports what was persisted unless its signal fires late. -/
theorem reports_iff :
    Reports state dispatch ↔ ¬ FiresLate state dispatch := by
  rcases dispatch_cases state dispatch with
    ⟨idle, error, ended⟩ | ⟨early, persists, next, change, executed, same, ended⟩
  · rw [Reports, ended]
    simp [FiresLate]
    exact fun early _ persists => idle ⟨early, persists⟩
  · rw [Reports, ended]
    cases late : dispatch.signal.after with
    | true =>
        refine iff_of_false (fun reports => ?_)
          (not_not.mpr ⟨early, late, persists⟩)
        cases reports.2.2 cancelled rfl
    | false =>
        refine iff_of_true ⟨?_, ?_, nofun⟩ fun fires => ?_
        · exact iff_of_true ⟨next, rfl⟩ ⟨next, change, executed, rfl, same⟩
        · rintro _ ⟨⟩
          exact congrArg some same
        · have after := fires.2.1
          rw [late] at after
          cases after

/-! ## Sequences of calls -/

/-- The state a caller keeps, and the one its store has. -/
structure Custody where
  caller : DesignBaselineState
  store : DesignBaselineState

/-- One call; the caller keeps its state when the call rejects. -/
def Custody.step (custody : Custody) (dispatch : BaselineDispatch) : Custody :=
  let ended := dispatchDesignBaselineCommand custody.caller dispatch
  { caller := match ended.result with
      | .ok next => next
      | .error _ => custody.caller
    store := (ended.stored.map BaselineChange.state).getD custody.store }

/-- Caller and store agree all along, and every call reports what it stored. -/
def Custody.Agrees (custody : Custody) : List BaselineDispatch → Prop
  | [] => custody.caller = custody.store
  | dispatch :: rest =>
      custody.caller = custody.store ∧ Reports custody.caller dispatch ∧
        (custody.step dispatch).Agrees rest

/-- No signal fires late. -/
def Custody.InTime (custody : Custody) : List BaselineDispatch → Prop
  | [] => True
  | dispatch :: rest =>
      ¬ FiresLate custody.caller dispatch ∧ (custody.step dispatch).InTime rest

/-- A call that reports what it stored keeps caller and store together. -/
theorem Custody.step_agrees
    {custody : Custody}
    (same : custody.caller = custody.store)
    (reports : Reports custody.caller dispatch) :
    (custody.step dispatch).caller = (custody.step dispatch).store := by
  obtain ⟨_, resolves, rejects⟩ := reports
  cases ended : (dispatchDesignBaselineCommand custody.caller dispatch).result
    with
  | ok next => simp [Custody.step, ended, resolves next ended]
  | error error => simpa [Custody.step, ended, rejects error ended] using same

theorem Custody.agrees_iff
    {custody : Custody}
    (same : custody.caller = custody.store)
    (dispatches : List BaselineDispatch) :
    custody.Agrees dispatches ↔ custody.InTime dispatches := by
  induction dispatches generalizing custody with
  | nil => exact iff_of_true same trivial
  | cons dispatch rest inductionHypothesis =>
      rw [Custody.Agrees, Custody.InTime, reports_iff]
      constructor
      · rintro ⟨_, inTime, later⟩
        have next := Custody.step_agrees same (reports_iff.mpr inTime)
        exact ⟨inTime, (inductionHypothesis next).mp later⟩
      · rintro ⟨inTime, later⟩
        have next := Custody.step_agrees same (reports_iff.mpr inTime)
        exact ⟨same, inTime, (inductionHypothesis next).mpr later⟩

/--
A caller and a store that start with one state agree in every sequence of calls,
each of which reports what was persisted, exactly if no signal fires between
the readings around a commit that resolves.
-/
theorem dispatches_agree_iff
    (state : DesignBaselineState)
    (dispatches : List BaselineDispatch) :
    (⟨state, state⟩ : Custody).Agrees dispatches ↔
      (⟨state, state⟩ : Custody).InTime dispatches :=
  Custody.agrees_iff rfl dispatches

/-- A comment on a project without a baseline, and a signal during its commit. -/
def lateDispatch : BaselineDispatch where
  command := .recordCollaborationActivity
    ⟨js "comment", js "2026-07-25T10:00:00.000Z", none⟩
  port := some fun _ => .ok ()
  signal := ⟨false, true, nofun⟩

def unmarkedState : DesignBaselineState where
  projectId := js "project"
  readiness := .draft
  baseline := none
  currency := .none
  changesSinceBaseline := []
  approvalsStale := false

/-- The comment is stored, and the call rejects. -/
theorem lateDispatch_diverges :
    ¬ Reports unmarkedState lateDispatch := by
  have stored : (dispatchDesignBaselineCommand unmarkedState
      lateDispatch).stored.isSome = true := by
    decide +kernel
  have rejected : (dispatchDesignBaselineCommand unmarkedState
      lateDispatch).result.toOption = none := by
    decide +kernel
  rintro ⟨_, _, rejects⟩
  cases ended : (dispatchDesignBaselineCommand unmarkedState lateDispatch).result
    with
  | ok next =>
      rw [ended] at rejected
      cases rejected
  | error error =>
      rw [rejects error ended] at stored
      cases stored

end Selene.Baseline
