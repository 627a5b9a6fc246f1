import Selene.DesignBaseline
import Selene.RejectingMachine

/-!
# The baseline state is its history

What a run of commands leaves behind is determined by the commands that were
accepted: the last baseline marked ready and the mutations since.  Every
accepted command is one of four transitions (`execute_cases`), and each leaves
a state that the portable validator accepts.
-/

namespace Selene.Baseline

open Js

/-! ## Histories -/

/-- The baseline that a command marks ready. -/
def markedBaseline? : DesignBaselineCommand → Option DesignBaseline
  | .markReady _ baseline => some baseline
  | _ => none

/-- The change that a command records. -/
def mutation? : DesignBaselineCommand → Option SemanticDesignChange
  | .applyDesignMutation change => some change
  | _ => none

/-- The baseline of the last mark-ready. -/
def lastReady (history : List DesignBaselineCommand) : Option DesignBaseline :=
  (history.filterMap markedBaseline?).getLast?

/-- The changes after the last mark-ready; none before the first. -/
def mutationsSinceReady (history : List DesignBaselineCommand) :
    List SemanticDesignChange :=
  if (lastReady history).isSome then
    ((history.reverse.takeWhile fun command =>
      (markedBaseline? command).isNone).reverse).filterMap mutation?
  else
    []

theorem lastReady_markReady
    (history : List DesignBaselineCommand)
    (intent : BaselineIntent)
    (baseline : DesignBaseline) :
    lastReady (history ++ [.markReady intent baseline]) = some baseline := by
  simp [lastReady, markedBaseline?]

variable {history : List DesignBaselineCommand}
  {command : DesignBaselineCommand} {baseline : DesignBaseline}

theorem lastReady_other
    (history : List DesignBaselineCommand)
    (other : markedBaseline? command = none) :
    lastReady (history ++ [command]) = lastReady history := by
  simp [lastReady, other]

theorem mutationsSinceReady_markReady
    (history : List DesignBaselineCommand)
    (intent : BaselineIntent)
    (baseline : DesignBaseline) :
    mutationsSinceReady (history ++ [.markReady intent baseline]) = [] := by
  simp [mutationsSinceReady, markedBaseline?]

theorem mutationsSinceReady_mutation
    (ready : (lastReady history).isSome)
    (change : SemanticDesignChange) :
    mutationsSinceReady (history ++ [.applyDesignMutation change]) =
      mutationsSinceReady history ++ [change] := by
  unfold mutationsSinceReady
  rw [lastReady_other history rfl, if_pos ready, if_pos ready,
    List.reverse_append, List.reverse_singleton, List.singleton_append,
    List.takeWhile_cons_of_pos (by rfl), List.reverse_cons,
    List.filterMap_append]
  rfl

theorem mutationsSinceReady_of_none
    (notReady : lastReady history = none) :
    mutationsSinceReady history = [] := by
  simp [mutationsSinceReady, notReady]

theorem mutationsSinceReady_collaboration
    (history : List DesignBaselineCommand)
    (activity : CollaborationActivity) :
    mutationsSinceReady
        (history ++ [.recordCollaborationActivity activity]) =
      mutationsSinceReady history := by
  unfold mutationsSinceReady
  rw [lastReady_other history rfl]
  split
  · rw [List.reverse_append, List.reverse_singleton, List.singleton_append,
      List.takeWhile_cons_of_pos (by rfl), List.reverse_cons,
      List.filterMap_append]
    simp [mutation?]
  · rfl

/-! ## Validated states -/

theorem requireText_eq_ok
    {value name : JsString}
    {passed : Unit} :
    requireText value name = .ok passed ↔
      isBlank value = false ∧ value.length ≤ baselineBudgets.maxText :=
  check_eq_ok

theorem verifyReference_rename
    {reference : DesignRevisionReference}
    {name : JsString}
    (accepted : verifyReference reference name = .ok ())
    (other : JsString) :
    verifyReference reference other = .ok () := by
  simp only [verifyReference, unit_bind_eq_ok, requireText_eq_ok] at accepted ⊢
  exact accepted

/-- A state with a baseline that the validator accepts. -/
structure IsReady
    (state : DesignBaselineState)
    (baseline : DesignBaseline) :
    Prop where
  admitted : baselineBudgets.Admits state.toJs
  project : requireText state.projectId (js "state.projectId") = .ok ()
  belongs : baseline.projectId = state.projectId
  revision :
    verifyReference baseline.revision (js "state.baseline.revision") = .ok ()
  id : requireText baseline.id (js "state.baseline.id") = .ok ()
  createdBy :
    requireText baseline.createdBy (js "state.baseline.createdBy") = .ok ()
  createdAt : validTimestamp baseline.createdAt
  readiness : state.readiness = readinessOf baseline.intent
  consistent : isConsistent state
  changes :
    ∀ change ∈ state.changesSinceBaseline,
      validateRecordedChange state.projectId change = .ok ()

variable {state : DesignBaselineState}

theorem validate_ready
    (hasBaseline : state.baseline = some baseline) :
    validateDesignBaselineState state = .ok () ↔ IsReady state baseline := by
  unfold validateDesignBaselineState
  rw [hasBaseline]
  simp only [owned, unit_bind_eq_ok, check_eq_ok, forM_eq_ok]
  constructor
  · rintro ⟨admitted, project, belongs, revision, id, createdBy, createdAt,
      readiness, consistent, changes⟩
    exact ⟨admitted, project, belongs, revision, id, createdBy, createdAt,
      readiness, consistent, changes⟩
  · intro ready
    exact ⟨ready.admitted, ready.project, ready.belongs, ready.revision,
      ready.id, ready.createdBy, ready.createdAt, ready.readiness,
      ready.consistent, ready.changes⟩

section

variable (valid : validateDesignBaselineState state = .ok ())

include valid

theorem draft_of_valid
    (noBaseline : state.baseline = none) :
    state.currency = .none ∧ state.approvalsStale = false ∧
      state.changesSinceBaseline = [] := by
  unfold validateDesignBaselineState at valid
  rw [noBaseline] at valid
  simp only [unit_bind_eq_ok, check_eq_ok] at valid
  exact valid.2.2.2

theorem noBaseline_of_draft
    (draft : state.readiness = .draft) :
    state.baseline = none := by
  cases hasBaseline : state.baseline with
  | none => rfl
  | some baseline =>
      have ready := ((validate_ready hasBaseline).mp valid).readiness
      rw [draft] at ready
      cases intent : baseline.intent <;> simp [intent, readinessOf] at ready

theorem stale_iff_of_valid :
    (state.currency = .stale ↔ state.changesSinceBaseline ≠ []) ∧
      (state.approvalsStale = true ↔ state.changesSinceBaseline ≠ []) := by
  cases hasBaseline : state.baseline with
  | none =>
      obtain ⟨currency, approvals, changes⟩ := draft_of_valid valid hasBaseline
      simp [currency, approvals, changes]
  | some baseline =>
      have consistent := ((validate_ready hasBaseline).mp valid).consistent
      unfold isConsistent at consistent
      cases currency : state.currency <;> rw [currency] at consistent
      · simp [consistent]
      · simp [consistent]
      · exact consistent.elim

end

/-! ## What an accepted command does -/

theorem markDesignReady_ok
    {intent : BaselineIntent}
    {transition : DesignBaselineTransition}
    (marked : markDesignReady state intent baseline = .ok transition) :
    transition.state = readyState state.projectId intent baseline ∧
      validateDesignBaselineState transition.state = .ok () := by
  simp only [markDesignReady, owned, unit_bind_eq_ok, check_eq_ok,
    Except.ok.injEq] at marked
  obtain ⟨_, _, _, project, revision, id, _, belongs, createdBy, createdAt,
    sameIntent, admitted, rfl⟩ := marked
  refine ⟨rfl, ?_⟩
  have stateAdmitted := admitted.entry
    (js "state", (readyState state.projectId intent baseline).toJs)
    (by simp) (by simp)
  exact (validate_ready rfl).mpr
    { admitted := stateAdmitted
      project
      belongs
      revision := verifyReference_rename revision _
      id := requireText_eq_ok.mpr (requireText_eq_ok.mp id)
      createdBy := requireText_eq_ok.mpr (requireText_eq_ok.mp createdBy)
      createdAt
      readiness := by rw [sameIntent]; rfl
      consistent := ⟨rfl, rfl⟩
      changes := by simp [readyState] }

variable {next : DesignBaselineState}

theorem recordDesignMutation_ok
    {change : SemanticDesignChange}
    (recorded : recordDesignMutation state change = .ok next) :
    validateDesignBaselineState next = .ok () ∧
      ((state.baseline = none ∧ next = state) ∨
        (state.baseline.isSome ∧ next = staleState state change)) := by
  simp only [recordDesignMutation, owned, unit_bind_eq_ok, check_eq_ok]
    at recorded
  obtain ⟨_, _, valid, project, changeValid, sameProject, outcome⟩ := recorded
  cases hasBaseline : state.baseline with
  | none =>
      rw [hasBaseline] at outcome
      cases outcome
      exact ⟨valid, .inl ⟨rfl, rfl⟩⟩
  | some baseline =>
      rw [hasBaseline] at outcome
      simp only [unit_bind_eq_ok, check_eq_ok, Except.ok.injEq] at outcome
      obtain ⟨_, admitted, rfl⟩ := outcome
      have ready := (validate_ready hasBaseline).mp valid
      refine ⟨?_, .inr ⟨rfl, rfl⟩⟩
      have nextBaseline :
          (staleState state change).baseline = some baseline :=
        hasBaseline
      apply (validate_ready nextBaseline).mpr
      refine
        { ready with
          admitted
          consistent := ⟨rfl, by simp [staleState]⟩
          changes := ?_ }
      intro other member
      rcases List.mem_append.mp member with earlier | latest
      · exact ready.changes other earlier
      · rw [List.mem_singleton.mp latest]
        simp only [validateRecordedChange, unit_bind_eq_ok, check_eq_ok]
        exact ⟨changeValid, sameProject⟩

theorem recordCollaborationActivity_ok
    {activity : CollaborationActivity}
    (recorded : recordCollaborationActivity state activity = .ok next) :
    next = state ∧ validateDesignBaselineState next = .ok () := by
  simp only [recordCollaborationActivity, unit_bind_eq_ok,
    Except.ok.injEq] at recorded
  obtain ⟨_, _, valid, _, _, rfl⟩ := recorded
  exact ⟨rfl, valid⟩

/-- The transition of an accepted command. -/
inductive Transition :
    DesignBaselineState → DesignBaselineCommand → DesignBaselineState → Prop
  where
  | ready (state : DesignBaselineState) (intent : BaselineIntent)
      (baseline : DesignBaseline) :
      Transition state (.markReady intent baseline)
        (readyState state.projectId intent baseline)
  | early {state : DesignBaselineState} (change : SemanticDesignChange) :
      state.baseline = none →
      Transition state (.applyDesignMutation change) state
  | stale {state : DesignBaselineState} (change : SemanticDesignChange) :
      state.baseline.isSome →
      Transition state (.applyDesignMutation change)
        (staleState state change)
  | audited (state : DesignBaselineState)
      (activity : CollaborationActivity) :
      Transition state (.recordCollaborationActivity activity) state

theorem execute_cases
    (executed : executeDesignBaselineCommand state command = .ok next) :
    Transition state command next ∧
      validateDesignBaselineState next = .ok () := by
  simp only [executeDesignBaselineCommand, unit_bind_eq_ok] at executed
  obtain ⟨_, _, outcome⟩ := executed
  cases command with
  | markReady intent baseline =>
      obtain ⟨transition, marked, same⟩ := bind_eq_ok.mp outcome
      cases same
      obtain ⟨shape, valid⟩ := markDesignReady_ok marked
      exact ⟨shape ▸ .ready state intent baseline, valid⟩
  | applyDesignMutation change =>
      obtain ⟨valid, ⟨noBaseline, rfl⟩ | ⟨hasBaseline, rfl⟩⟩ :=
        recordDesignMutation_ok outcome
      · exact ⟨.early change noBaseline, valid⟩
      · exact ⟨.stale change hasBaseline, valid⟩
  | recordCollaborationActivity activity =>
      obtain ⟨rfl, valid⟩ := recordCollaborationActivity_ok outcome
      exact ⟨.audited _ activity, valid⟩

/-! ## Runs -/

/-- The state that a history of accepted commands leaves. -/
structure Tracks
    (history : List DesignBaselineCommand)
    (state : DesignBaselineState) :
    Prop where
  valid : validateDesignBaselineState state = .ok ()
  baseline : state.baseline = lastReady history
  changes : state.changesSinceBaseline = mutationsSinceReady history

theorem Tracks.step
    (history : List DesignBaselineCommand)
    (state : DesignBaselineState)
    (command : DesignBaselineCommand)
    (next : DesignBaselineState)
    (tracks : Tracks history state)
    (executed : executeDesignBaselineCommand state command = .ok next) :
    Tracks (history ++ [command]) next := by
  obtain ⟨transition, valid⟩ := execute_cases executed
  refine { valid, baseline := ?_, changes := ?_ }
  · cases transition with
    | ready intent baseline => rw [lastReady_markReady]; rfl
    | early change _ => rw [lastReady_other history rfl, tracks.baseline]
    | stale change _ =>
        rw [lastReady_other history rfl, ← tracks.baseline]
        rfl
    | audited activity =>
        rw [lastReady_other history rfl, tracks.baseline]
  · cases transition with
    | ready intent baseline => rw [mutationsSinceReady_markReady]; rfl
    | early change noBaseline =>
        have notReady : lastReady (history ++ [.applyDesignMutation change]) =
            none := by
          rw [lastReady_other history rfl, ← tracks.baseline, noBaseline]
        rw [mutationsSinceReady_of_none notReady]
        exact (draft_of_valid tracks.valid noBaseline).2.2
    | stale change hasBaseline =>
        rw [tracks.baseline] at hasBaseline
        rw [mutationsSinceReady_mutation hasBaseline, ← tracks.changes]
        rfl
    | audited activity =>
        rw [mutationsSinceReady_collaboration, tracks.changes]

theorem tracks_draft
    (draft : state.readiness = .draft)
    (valid : validateDesignBaselineState state = .ok ()) :
    Tracks [] state where
  valid
  baseline := noBaseline_of_draft valid draft
  changes := (draft_of_valid valid (noBaseline_of_draft valid draft)).2.2

/-- The commands accepted in a run, in order. -/
def acceptedCommands
    (state : DesignBaselineState)
    (commands : List DesignBaselineCommand) :
    List DesignBaselineCommand :=
  (accepted executeDesignBaselineCommand state commands).map Accepted.call

/--
A run from a valid draft reaches a valid state that is exactly its history: the
last accepted baseline, the mutations accepted since, stale exactly when there
are some; and collaboration never changes it.
-/
theorem baselineState_history
    {initial : DesignBaselineState}
    (draft : initial.readiness = .draft)
    (valid : validateDesignBaselineState initial = .ok ())
    (commands : List DesignBaselineCommand) :
    let history := acceptedCommands initial commands
    let final :=
      settleAll executeDesignBaselineCommand initial commands
    validateDesignBaselineState final = .ok () ∧
      final.baseline = lastReady history ∧
      (final.baseline.isSome ↔
        ∃ intent baseline, .markReady intent baseline ∈ history) ∧
      final.changesSinceBaseline = mutationsSinceReady history ∧
      (final.currency = .stale ↔ mutationsSinceReady history ≠ []) ∧
      (final.approvalsStale = true ↔ mutationsSinceReady history ≠ []) ∧
      ∀ activity,
        settle executeDesignBaselineCommand final
          (.recordCollaborationActivity activity) = final := by
  intro history final
  have tracks : Tracks history final :=
    settleAll_tracks Tracks Tracks.step (tracks_draft draft valid) commands
  have staleness := stale_iff_of_valid tracks.valid
  rw [tracks.changes] at staleness
  refine ⟨tracks.valid, tracks.baseline, ?_, tracks.changes, staleness.1,
    staleness.2, ?_⟩
  · rw [tracks.baseline, lastReady, List.getLast?_isSome]
    constructor
    · intro some
      obtain ⟨baseline, member⟩ := List.exists_mem_of_ne_nil _ some
      obtain ⟨command, isCommand, marks⟩ := List.mem_filterMap.mp member
      cases command with
      | markReady intent other => exact ⟨intent, other, isCommand⟩
      | applyDesignMutation change => cases marks
      | recordCollaborationActivity activity => cases marks
    · rintro ⟨intent, baseline, member⟩
      exact List.ne_nil_of_mem
        (List.mem_filterMap.mpr ⟨_, member, rfl⟩)
  · intro activity
    cases taken : executeDesignBaselineCommand final
        (.recordCollaborationActivity activity) with
    | error message => exact settle_of_error taken
    | ok next =>
        rw [settle_of_ok taken]
        cases (execute_cases taken).1
        rfl

/-- A project whose design was not marked ready yet. -/
def sampleDraft : DesignBaselineState where
  projectId := js "commerce-shell"
  readiness := .draft
  baseline := none
  currency := .none
  changesSinceBaseline := []
  approvalsStale := false

/-- A baseline of the project. -/
def sampleBaseline : DesignBaseline where
  id := js "baseline-1"
  projectId := js "commerce-shell"
  revision := ⟨js "revision-1", js "sha256:initial"⟩
  intent := .review
  createdAt := js "2026-07-23T22:00:00Z"
  createdBy := js "designer-1"

/-- A change of the project's design. -/
def sampleChange : SemanticDesignChange where
  id := js "change-1"
  kind := .token
  beforeRevision := ⟨js "revision-1", js "sha256:initial"⟩
  currentRevision := ⟨js "revision-2", js "sha256:changed"⟩
  affected :=
    { projectId := js "commerce-shell"
      screenIds := [js "orders"]
      routePaths := [js "/orders"]
      scenarioIds := []
      componentIds := []
      stableNodeIds := [] }
  evidence := [⟨js "screenshot", none, none⟩]
  provenance := .actor (js "designer-1")
  occurredAt := js "2026-07-23T22:01:00Z"
  reason := js "spacing"

/-- An early mutation, a mark-ready and a mutation. -/
def sampleCommands : List DesignBaselineCommand :=
  [.applyDesignMutation sampleChange, .markReady .review sampleBaseline,
    .applyDesignMutation sampleChange]

theorem baselineState_history_sample :
    let final :=
      settleAll executeDesignBaselineCommand sampleDraft sampleCommands
    validateDesignBaselineState final = .ok () ∧
      final.changesSinceBaseline = [sampleChange] := by
  have allAccepted :
      acceptedCommands sampleDraft sampleCommands = sampleCommands := by
    decide +kernel
  obtain ⟨valid, _, _, changes, _⟩ :=
    @baselineState_history sampleDraft rfl (by decide +kernel)
      sampleCommands
  exact ⟨valid, changes.trans (by rw [allAccepted]; rfl)⟩

end Selene.Baseline
