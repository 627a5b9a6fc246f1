import Selene.CollaborationValidation

/-!
# Lifecycle of AI change requests

A request to change a design moves along the edges of `allowedAITransitions`;
who asked, for what and about which place never changes.  Immutability of a
nested field is decided by bounded structural equality, and an absent value
equals nothing there.  So a request without an anchor cannot move at all, and
a request keeps its lifecycle only when both of its results are present.
-/

namespace Selene.Collaboration

open Js
open Baseline (DesignRevisionReference)

def allowedAITransitions :
    AIChangeRequestLifecycle → List AIChangeRequestLifecycle
  | .queued => [.running, .cancelled]
  | .running => [.applied, .failed, .cancelled]
  | .applied => [.undone]
  | .failed => [.queued]
  | .cancelled => [.queued]
  | .undone => []

def sameStructure (left right : JsValue) : Bool :=
  equalCollaborationValues left right

/-- Bounded structural equality of fields that may be absent. -/
def sameOptional {α : Type} (toJs : α → JsValue) (left right : Option α) :
    Bool :=
  sameStructure (presentOr (left.map toJs)) (presentOr (right.map toJs))

def validateAIChangeRequestTransition (host : Host)
    (previous next : AIChangeRequest) : Checked Unit := do
  owned previous.toJs (js "AI change request is invalid")
  owned next.toJs (js "AI change request is invalid")
  check
    (previous.id = next.id ∧ previous.projectId = next.projectId ∧
      previous.createdBy = next.createdBy ∧
      previous.createdAt = next.createdAt)
    (invalid
      (js "AI change request identity and audit ownership are immutable"))
  timestamp next.createdAt (js "AI change request createdAt")
  timestamp next.updatedAt (js "AI change request updatedAt")
  check
    (¬ host.before next.updatedAt next.createdAt ∧
      ¬ host.before next.updatedAt previous.updatedAt)
    (invalid (js "AI change request updatedAt must not move backwards"))
  check
    (previous.lifecycle = next.lifecycle ∨
      next.lifecycle ∈ allowedAITransitions previous.lifecycle)
    ⟨.conflict, js "Invalid AI change request transition: " ++
      previous.lifecycle.text ++ js " to " ++ next.lifecycle.text⟩
  check
    (previous.instruction = next.instruction ∧
      sameStructure previous.provider.toJs next.provider.toJs = true ∧
      sameStructure previous.baseRevision.toJs next.baseRevision.toJs =
        true ∧
      sameOptional SpatialAnchor.toJs previous.anchor next.anchor = true)
    (invalid
      (js "AI change request intent and targeting are immutable"))
  check
    (previous.lifecycle = .applied ∧ next.lifecycle = .undone →
      sameOptional AIChangeRequestResult.toJs previous.result next.result =
        true)
    (invalid (js "Undo must preserve the immutable applied result"))
  check
    (previous.lifecycle = next.lifecycle →
      sameOptional AIChangeRequestResult.toJs previous.result next.result =
          true ∧
        sameOptional AIChangeRequestResult.toJs previous.undoResult
            next.undoResult = true ∧
        previous.failureReason = next.failureReason)
    (invalid (js "AI change request outcome is immutable"))

/-! ## What the rule is about -/

/-- Identity, instruction and target are the same. -/
structure SameIntent (previous next : AIChangeRequest) : Prop where
  id : previous.id = next.id
  projectId : previous.projectId = next.projectId
  createdBy : previous.createdBy = next.createdBy
  createdAt : previous.createdAt = next.createdAt
  instruction : previous.instruction = next.instruction
  provider : previous.provider = next.provider
  baseRevision : previous.baseRevision = next.baseRevision
  anchor : previous.anchor = next.anchor

/-- The lifecycle stays, or follows a declared edge. -/
def IsLifecycleEdge (previous next : AIChangeRequest) : Prop :=
  previous.lifecycle = next.lifecycle ∨
    next.lifecycle ∈ allowedAITransitions previous.lifecycle

/-- What has been recorded as the outcome stays. -/
structure SameOutcome (previous next : AIChangeRequest) : Prop where
  unchanged :
    previous.lifecycle = next.lifecycle →
      previous.result = next.result ∧
        previous.undoResult = next.undoResult ∧
        previous.failureReason = next.failureReason
  undone :
    previous.lifecycle = .applied → next.lifecycle = .undone →
      previous.result = next.result

/-- Both texts are timestamps and the second is not earlier. -/
def NotBackwards (previous next : JsString) : Prop :=
  ∃ first second, timestampTime? previous = some first ∧
    timestampTime? next = some second ∧ first ≤ second

/-- The edge of the lifecycle, with all that has to stay. -/
structure IsDeclared (previous next : AIChangeRequest) : Prop where
  intent : SameIntent previous next
  edge : IsLifecycleEdge previous next
  outcome : SameOutcome previous next
  updatedAt : NotBackwards previous.updatedAt next.updatedAt

/--
When a declared edge is followed: the request has an anchor, a kept lifecycle
comes with both results and an undone one with the result it undoes, the
request is not updated before its creation, and both values are within the
budgets.
-/
structure CanFollow (previous next : AIChangeRequest) : Prop where
  anchored : previous.anchor.isSome
  settled :
    previous.lifecycle = next.lifecycle →
      previous.result.isSome ∧ previous.undoResult.isSome
  undone :
    previous.lifecycle = .applied → next.lifecycle = .undone →
      previous.result.isSome
  created : NotBackwards next.createdAt next.updatedAt
  previousOwned : collaborationBudgets.Admits previous.toJs
  nextOwned : collaborationBudgets.Admits next.toJs

/-! ## Equality of parts -/

theorem admits_field
    {fields : List Record.Field}
    (name : JsString)
    {value : JsValue}
    (admitted : collaborationBudgets.Admits (.object (Record.ofFields fields)))
    (member : (name, some value) ∈ fields)
    (kept : name ≠ js "length") :
    collaborationBudgets.Admits value :=
  admitted.entry _ (Record.mem_ofFields.mpr member) kept

theorem sameStructure_iff
    {α : Type}
    {toJs : α → JsValue}
    (inert : ∀ record, Inert (toJs record))
    (sameIff : ∀ first second,
      sameInert (toJs first) (toJs second) = true ↔ first = second)
    {first second : α}
    (firstAdmitted : collaborationBudgets.Admits (toJs first))
    (secondAdmitted : collaborationBudgets.Admits (toJs second)) :
    sameStructure (toJs first) (toJs second) = true ↔ first = second := by
  unfold sameStructure equalCollaborationValues
  rw [Budgets.equalValues_of_inert firstAdmitted secondAdmitted (inert _)
    (inert _), sameIff]

theorem sameOptional_iff
    {α : Type}
    {toJs : α → JsValue}
    (inert : ∀ record, Inert (toJs record))
    (sameIff : ∀ first second,
      sameInert (toJs first) (toJs second) = true ↔ first = second)
    {first second : Option α}
    (firstAdmitted : ∀ record ∈ first,
      collaborationBudgets.Admits (toJs record))
    (secondAdmitted : ∀ record ∈ second,
      collaborationBudgets.Admits (toJs record)) :
    sameOptional toJs first second = true ↔
      first = second ∧ first.isSome := by
  cases first with
  | none =>
      have refused : ¬ collaborationBudgets.Admits .undefined := by decide
      simp [sameOptional, presentOr, sameStructure, equalCollaborationValues,
        Budgets.equalValues, refused]
  | some first =>
      cases second with
      | none =>
          have refused : ¬ collaborationBudgets.Admits .undefined := by decide
          simp [sameOptional, presentOr, sameStructure,
            equalCollaborationValues, Budgets.equalValues, refused]
      | some second =>
          have same := sameStructure_iff inert sameIff
            (firstAdmitted first rfl) (secondAdmitted second rfl)
          simpa [sameOptional, presentOr] using same

section Parts

variable {request : AIChangeRequest}

theorem AIChangeRequest.admits_parts
    (admitted : collaborationBudgets.Admits request.toJs) :
    collaborationBudgets.Admits request.provider.toJs ∧
      collaborationBudgets.Admits request.baseRevision.toJs ∧
      (∀ anchor ∈ request.anchor,
        collaborationBudgets.Admits anchor.toJs) ∧
      (∀ result ∈ request.result,
        collaborationBudgets.Admits result.toJs) ∧
      ∀ result ∈ request.undoResult,
        collaborationBudgets.Admits result.toJs := by
  refine ⟨?_, ?_, ?_, ?_, ?_⟩
  · exact admits_field (js "provider") admitted
      (by simp [textField, optionalText, js_inj]) (by simp [js_inj])
  · exact admits_field (js "baseRevision") admitted
      (by simp [textField, optionalText, js_inj]) (by simp [js_inj])
  · intro anchor present
    exact admits_field (js "anchor") admitted
      (by simp [textField, optionalText, js_inj, Option.mem_def.mp present])
      (by simp [js_inj])
  · intro result present
    exact admits_field (js "result") admitted
      (by simp [textField, optionalText, js_inj, Option.mem_def.mp present])
      (by simp [js_inj])
  · intro result present
    exact admits_field (js "undoResult") admitted
      (by simp [textField, optionalText, js_inj, Option.mem_def.mp present])
      (by simp [js_inj])

end Parts

/-! ## The rule as a whole -/

variable {host : Host} {previous next : AIChangeRequest}

theorem validateAIChangeRequestTransition_iff :
    validateAIChangeRequestTransition host previous next = .ok () ↔
      (SameIntent previous next ∧ IsLifecycleEdge previous next ∧
        SameOutcome previous next) ∧
      (isTimestamp next.createdAt ∧ isTimestamp next.updatedAt ∧
        ¬ host.before next.updatedAt next.createdAt ∧
        ¬ host.before next.updatedAt previous.updatedAt) ∧
      previous.anchor.isSome ∧
      (previous.lifecycle = next.lifecycle →
        previous.result.isSome ∧ previous.undoResult.isSome) ∧
      (previous.lifecycle = .applied → next.lifecycle = .undone →
        previous.result.isSome) ∧
      collaborationBudgets.Admits previous.toJs ∧
      collaborationBudgets.Admits next.toJs := by
  unfold validateAIChangeRequestTransition
  simp only [owned, timestamp, check_bind_eq_ok, check_eq_ok]
  by_cases admitted :
      collaborationBudgets.Admits previous.toJs ∧
        collaborationBudgets.Admits next.toJs
  · obtain ⟨provider, reference, anchor, result, undoResult⟩ :=
      AIChangeRequest.admits_parts admitted.1
    obtain ⟨nextProvider, nextReference, nextAnchor, nextResult,
      nextUndoResult⟩ := AIChangeRequest.admits_parts admitted.2
    rw [sameStructure_iff AIChangeProviderSnapshot.inert
        AIChangeProviderSnapshot.sameInert_iff provider nextProvider,
      sameStructure_iff inert_reference sameInert_reference reference
        nextReference,
      sameOptional_iff SpatialAnchor.inert SpatialAnchor.sameInert_iff anchor
        nextAnchor,
      sameOptional_iff AIChangeRequestResult.inert
        AIChangeRequestResult.sameInert_iff result nextResult,
      sameOptional_iff AIChangeRequestResult.inert
        AIChangeRequestResult.sameInert_iff undoResult nextUndoResult]
    constructor
    · rintro ⟨_, _, identity, created, updated, order, edge, intent, undone,
        unchanged⟩
      refine ⟨⟨?_, edge, ?_⟩, ⟨created, updated, order⟩, intent.2.2.2.2,
        ?_, ?_, admitted⟩
      · exact ⟨identity.1, identity.2.1, identity.2.2.1, identity.2.2.2,
          intent.1, intent.2.1, intent.2.2.1, intent.2.2.2.1⟩
      · exact ⟨fun same => ⟨(unchanged same).1.1, (unchanged same).2.1.1,
            (unchanged same).2.2⟩,
          fun applied isUndone => (undone ⟨applied, isUndone⟩).1⟩
      · exact fun same => ⟨(unchanged same).1.2, (unchanged same).2.1.2⟩
      · exact fun applied isUndone => (undone ⟨applied, isUndone⟩).2
    · rintro ⟨⟨intent, edge, outcome⟩, ⟨created, updated, order⟩, anchored,
        settled, applied, _⟩
      refine ⟨admitted.1, admitted.2,
        ⟨intent.id, intent.projectId, intent.createdBy, intent.createdAt⟩,
        created, updated, order, edge,
        ⟨intent.instruction, intent.provider, intent.baseRevision,
          intent.anchor, anchored⟩, ?_, ?_⟩
      · rintro ⟨isApplied, isUndone⟩
        exact ⟨outcome.undone isApplied isUndone, applied isApplied isUndone⟩
      · intro same
        exact ⟨⟨(outcome.unchanged same).1, (settled same).1⟩,
          ⟨(outcome.unchanged same).2.1, (settled same).2⟩,
          (outcome.unchanged same).2.2⟩
  · constructor
    · rintro ⟨first, second, _⟩
      exact absurd ⟨first, second⟩ admitted
    · rintro ⟨_, _, _, _, _, within⟩
      exact absurd within admitted

theorem notBackwards_iff
    {first second : JsString}
    (secondValid : isTimestamp second) :
    NotBackwards first second ↔
      isTimestamp first ∧ ¬ host.before second first := by
  constructor
  · rintro ⟨start, stop, isStart, isStop, ordered⟩
    have firstValid := isTimestamp_iff.mpr ⟨start, isStart⟩
    refine ⟨firstValid, (Host.not_before secondValid firstValid).mpr ?_⟩
    exact ⟨start, stop, host.parseDate_timestamp isStart,
      host.parseDate_timestamp isStop, ordered⟩
  · rintro ⟨firstValid, notBefore⟩
    obtain ⟨start, isStart, parsedStart⟩ :=
      @Host.exists_time host _ firstValid
    obtain ⟨stop, isStop, parsedStop⟩ :=
      @Host.exists_time host _ secondValid
    refine ⟨start, stop, isStart, isStop, not_lt.mp fun earlier => ?_⟩
    exact notBefore ⟨stop, start, parsedStop, parsedStart, earlier⟩

/--
Whatever the rule accepts keeps the intent and the recorded outcome and
follows an edge.  A declared edge is accepted exactly when it can be followed.
-/
theorem validateAIChangeRequestTransition_declared
    (host : Host)
    (previous next : AIChangeRequest) :
    (validateAIChangeRequestTransition host previous next = .ok () →
      SameIntent previous next ∧ IsLifecycleEdge previous next ∧
        SameOutcome previous next) ∧
    (IsDeclared previous next →
      (validateAIChangeRequestTransition host previous next = .ok () ↔
        CanFollow previous next)) := by
  refine ⟨fun accepted =>
    (validateAIChangeRequestTransition_iff.mp accepted).1, fun declared => ?_⟩
  obtain ⟨start, stop, isStart, isStop, _⟩ := declared.updatedAt
  have updated : isTimestamp next.updatedAt := isTimestamp_iff.mpr ⟨stop, isStop⟩
  have order := (@notBackwards_iff host _ _ updated).mp declared.updatedAt
  rw [validateAIChangeRequestTransition_iff]
  constructor
  · rintro ⟨_, ⟨created, _, notBefore, _⟩, anchored, settled, undone,
      previousOwned, nextOwned⟩
    exact ⟨anchored, settled, undone,
      (notBackwards_iff updated).mpr ⟨created, notBefore⟩, previousOwned,
      nextOwned⟩
  · intro follows
    have created := (@notBackwards_iff host _ _ updated).mp follows.created
    exact ⟨⟨declared.intent, declared.edge, declared.outcome⟩,
      ⟨created.1, updated, created.2, order.2⟩, follows.anchored,
      follows.settled, follows.undone, follows.previousOwned,
      follows.nextOwned⟩

/-! ## Two requests -/

theorem notBackwards_self
    {text : JsString}
    (valid : (timestampTime? text).isSome) :
    NotBackwards text text := by
  obtain ⟨time, isTime⟩ := Option.isSome_iff_exists.mp valid
  exact ⟨time, time, isTime, isTime, le_rfl⟩

def sampleTime : JsString :=
  js "2026-07-25T22:01:00.000Z"

def sampleNumber : OwnNumber :=
  Count.one.toOwnNumber

def sampleProject : Project :=
  ⟨js "project-1", js "organization-1", js "Selene"⟩

def sampleRevision : Revision where
  id := js "revision-1"
  projectId := js "project-1"
  sequence := Count.one
  parentRevisionId := none
  content := ⟨.null, .null⟩
  contentSha256 := js "fingerprint-1"
  scenarioIds := []
  createdBy := js "designer"
  createdAt := sampleTime

def sampleAnchor : SpatialAnchor where
  evidence :=
    { artifactId := js "artifact-1"
      screenId := js "screen-1"
      revisionId := js "revision-1"
      revisionFingerprint := js "fingerprint-1"
      viewport := ⟨sampleNumber, sampleNumber, sampleNumber⟩
      scenarioId := none
      stateId := none
      nodeId := none
      sourceRef := none }
  target := .point ⟨sampleNumber, sampleNumber⟩
  lifecycle := .current
  mappedFrom := none

/-- A request that asks for a change of the design as a whole. -/
def queuedRequest : AIChangeRequest where
  id := js "request-1"
  projectId := js "project-1"
  anchor := none
  instruction := js "Use the brand palette"
  provider := ⟨js "provider-1", js "edit", none, none⟩
  baseRevision := ⟨js "revision-1", js "fingerprint-1"⟩
  lifecycle := .queued
  createdBy := js "designer"
  createdAt := sampleTime
  updatedAt := sampleTime
  result := none
  undoResult := none
  failureReason := none

/-- The request about a place. -/
def anchoredRequest : AIChangeRequest :=
  { queuedRequest with anchor := some sampleAnchor }

/-- The next value of a queued request. -/
def started (request : AIChangeRequest) : AIChangeRequest :=
  { request with lifecycle := .running }

theorem started_declared
    {request : AIChangeRequest}
    (queued : request.lifecycle = .queued)
    (valid : (timestampTime? request.updatedAt).isSome) :
    IsDeclared request (started request) where
  intent := ⟨rfl, rfl, rfl, rfl, rfl, rfl, rfl, rfl⟩
  edge := by
    right
    rw [queued]
    exact List.mem_cons_self
  outcome :=
    ⟨fun _ => ⟨rfl, rfl, rfl⟩, fun _ _ => rfl⟩
  updatedAt := notBackwards_self valid

theorem validateAIChangeRequestTransition_declared_anchored :
    validateAIChangeRequestTransition codeUnitHost anchoredRequest
      (started anchoredRequest) = .ok () :=
  ((validateAIChangeRequestTransition_declared codeUnitHost anchoredRequest
    (started anchoredRequest)).2
      (started_declared rfl (by decide +kernel))).mpr
    { anchored := rfl
      settled := by
        intro same
        cases same
      undone := by
        intro applied
        cases applied
      created := notBackwards_self (by decide +kernel)
      previousOwned := by decide +kernel
      nextOwned := by decide +kernel }

/-- A stored request without an anchor cannot even start. -/
theorem unanchored_request_stays_queued :
    validateAIChangeRequest queuedRequest sampleRevision = .ok () ∧
      IsDeclared queuedRequest (started queuedRequest) ∧
      validateAIChangeRequestTransition codeUnitHost queuedRequest
          (started queuedRequest) =
        .error (invalid
          (js "AI change request intent and targeting are immutable")) := by
  refine ⟨by decide +kernel, started_declared rfl (by decide +kernel), ?_⟩
  decide +kernel

end Selene.Collaboration
