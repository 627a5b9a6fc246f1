import Selene.InertValue
import Selene.JsDate
import Selene.Rejection

/-!
# Design baselines

Bookkeeping of the generated design that a reviewer or receiving developer is
asked to evaluate: a baseline that is marked ready, and the semantic changes
recorded since.  The records are typed; `toJs` is the value that the byte and
node budgets of the boundary are charged for.

Every transition copies its arguments within the budgets, validates the state
it starts from and its own argument, and copies the result.
-/

namespace Selene.Baseline

open Js

/-! ## Records -/

inductive DesignReadiness where
  | draft
  | readyForReview
  | readyForHandoff
  deriving DecidableEq

inductive BaselineIntent where
  | review
  | handoff
  deriving DecidableEq

inductive BaselineCurrency where
  | current
  | stale
  | none
  deriving DecidableEq

inductive DesignChangeKind where
  | source
  | designSystem
  | token
  | template
  | dependency
  | visual
  | flow
  | direction
  deriving DecidableEq

structure DesignRevisionReference where
  id : JsString
  fingerprint : JsString
  deriving DecidableEq

structure DesignBaseline where
  id : JsString
  projectId : JsString
  revision : DesignRevisionReference
  intent : BaselineIntent
  createdAt : JsString
  createdBy : JsString
  deriving DecidableEq

structure DesignChangeScope where
  projectId : JsString
  screenIds : List JsString
  routePaths : List JsString
  scenarioIds : List JsString
  componentIds : List JsString
  stableNodeIds : List JsString
  deriving DecidableEq

structure VisualEvidence where
  description : JsString
  href : Option JsString
  checksum : Option JsString
  deriving DecidableEq

inductive DesignChangeProvenance where
  | actor (actorId : JsString)
  | agent (agentId promptDigest : JsString)
  deriving DecidableEq

structure SemanticDesignChange where
  id : JsString
  kind : DesignChangeKind
  beforeRevision : DesignRevisionReference
  currentRevision : DesignRevisionReference
  affected : DesignChangeScope
  evidence : List VisualEvidence
  provenance : DesignChangeProvenance
  occurredAt : JsString
  reason : JsString
  deriving DecidableEq

structure DesignBaselineState where
  projectId : JsString
  readiness : DesignReadiness
  baseline : Option DesignBaseline
  currency : BaselineCurrency
  changesSinceBaseline : List SemanticDesignChange
  approvalsStale : Bool
  deriving DecidableEq

/-- A collaboration event that a host audits. -/
structure CollaborationActivity where
  type : JsString
  occurredAt : JsString
  actorId : Option JsString
  deriving DecidableEq

inductive DesignBaselineCommand where
  | markReady (intent : BaselineIntent) (baseline : DesignBaseline)
  | applyDesignMutation (change : SemanticDesignChange)
  | recordCollaborationActivity (activity : CollaborationActivity)
  deriving DecidableEq

/-! ## Values of the records -/

def DesignReadiness.text : DesignReadiness → JsString
  | .draft => js "draft"
  | .readyForReview => js "ready-for-review"
  | .readyForHandoff => js "ready-for-handoff"

def BaselineIntent.text : BaselineIntent → JsString
  | .review => js "review"
  | .handoff => js "handoff"

def BaselineCurrency.text : BaselineCurrency → JsString
  | .current => js "current"
  | .stale => js "stale"
  | .none => js "none"

def DesignChangeKind.text : DesignChangeKind → JsString
  | .source => js "source"
  | .designSystem => js "design-system"
  | .token => js "token"
  | .template => js "template"
  | .dependency => js "dependency"
  | .visual => js "visual"
  | .flow => js "flow"
  | .direction => js "direction"

/-- The value of a list of texts. -/
def texts (values : List JsString) : JsValue :=
  .array (values.map .string)

def DesignRevisionReference.toJs (reference : DesignRevisionReference) :
    JsValue :=
  .object [(js "id", .string reference.id),
    (js "fingerprint", .string reference.fingerprint)]

def DesignBaseline.toJs (baseline : DesignBaseline) : JsValue :=
  .object [(js "id", .string baseline.id),
    (js "projectId", .string baseline.projectId),
    (js "revision", baseline.revision.toJs),
    (js "intent", .string baseline.intent.text),
    (js "createdAt", .string baseline.createdAt),
    (js "createdBy", .string baseline.createdBy)]

def DesignChangeScope.toJs (scope : DesignChangeScope) : JsValue :=
  .object [(js "projectId", .string scope.projectId),
    (js "screenIds", texts scope.screenIds),
    (js "routePaths", texts scope.routePaths),
    (js "scenarioIds", texts scope.scenarioIds),
    (js "componentIds", texts scope.componentIds),
    (js "stableNodeIds", texts scope.stableNodeIds)]

def VisualEvidence.toJs (evidence : VisualEvidence) : JsValue :=
  .object ((js "description", .string evidence.description) ::
    (Record.optionalEntry (js "href") (evidence.href.map .string) ++
      Record.optionalEntry (js "checksum") (evidence.checksum.map .string)))

def DesignChangeProvenance.toJs : DesignChangeProvenance → JsValue
  | .actor actorId =>
      .object [(js "kind", .string (js "actor")),
        (js "actorId", .string actorId)]
  | .agent agentId promptDigest =>
      .object [(js "kind", .string (js "agent")),
        (js "agentId", .string agentId),
        (js "promptDigest", .string promptDigest)]

def SemanticDesignChange.toJs (change : SemanticDesignChange) : JsValue :=
  .object [(js "id", .string change.id),
    (js "kind", .string change.kind.text),
    (js "beforeRevision", change.beforeRevision.toJs),
    (js "currentRevision", change.currentRevision.toJs),
    (js "affected", change.affected.toJs),
    (js "evidence", .array (change.evidence.map VisualEvidence.toJs)),
    (js "provenance", change.provenance.toJs),
    (js "occurredAt", .string change.occurredAt),
    (js "reason", .string change.reason)]

def DesignBaselineState.toJs (state : DesignBaselineState) : JsValue :=
  .object ((js "projectId", .string state.projectId) ::
    (js "readiness", .string state.readiness.text) ::
    (Record.optionalEntry (js "baseline")
        (state.baseline.map DesignBaseline.toJs) ++
      [(js "currency", .string state.currency.text),
        (js "changesSinceBaseline",
          .array (state.changesSinceBaseline.map SemanticDesignChange.toJs)),
        (js "approvalsStale", .bool state.approvalsStale)]))

def CollaborationActivity.toJs (activity : CollaborationActivity) : JsValue :=
  .object ((js "type", .string activity.type) ::
    (js "occurredAt", .string activity.occurredAt) ::
    Record.optionalEntry (js "actorId") (activity.actorId.map .string))

def DesignBaselineCommand.toJs : DesignBaselineCommand → JsValue
  | .markReady intent baseline =>
      .object [(js "type", .string (js "mark-ready")),
        (js "intent", .string intent.text),
        (js "baseline", baseline.toJs)]
  | .applyDesignMutation change =>
      .object [(js "type", .string (js "apply-design-mutation")),
        (js "change", change.toJs)]
  | .recordCollaborationActivity activity =>
      .object [(js "type", .string (js "record-collaboration-activity")),
        (js "activity", activity.toJs)]

/-! ## Budgets and validation -/

def baselineBudgets : Budgets where
  maxBytes := 10 * 1024 * 1024
  maxNodes := 10000
  maxDepth := 64
  maxItems := 10000
  maxText := 1000000
  boundsNames := false

def maxIdentifier : Nat := 128
def maxTimestamp : Nat := 64
def maxUrl : Nat := 2048
def maxEvidence : Nat := 1000
def maxReferences : Nat := 1000

/-- The message of a `DesignBaselineError`. -/
abbrev DesignBaselineError := JsString

/-- A check whose rejection carries a message. -/
abbrev Validation := Except DesignBaselineError Unit

/-- Copy within the budgets.  A typed record is equal to its copy. -/
def owned (value : JsValue) : Validation :=
  check (baselineBudgets.Admits value)
    (js "Design baseline input is invalid")

def requireText (value name : JsString) : Validation :=
  check (isBlank value = false ∧ value.length ≤ baselineBudgets.maxText)
    (name ++ js " must not be empty")

def unique (values : List JsString) (name : JsString) : Validation :=
  check
    (values.length ≤ maxReferences ∧
      (∀ value ∈ values, value.length ≤ maxIdentifier) ∧ values.Nodup)
    (name ++ js " must be unique")

def verifyReference (reference : DesignRevisionReference) (name : JsString) :
    Validation := do
  requireText reference.id (name ++ js ".id")
  requireText reference.fingerprint (name ++ js ".fingerprint")

def validTimestamp (value : JsString) : Prop :=
  value.length ≤ maxTimestamp ∧ (timestampTime? value).isSome

instance (value : JsString) : Decidable (validTimestamp value) :=
  inferInstanceAs (Decidable (_ ∧ _))

/-- The checks of one piece of evidence. -/
def validateEvidence (evidence : VisualEvidence) : Validation := do
  requireText evidence.description (js "evidence.description")
  match evidence.href with
  | none => .ok ()
  | some href => do
      requireText href (js "evidence.href")
      check (href.length ≤ maxUrl) (js "evidence.href is too long")
  match evidence.checksum with
  | none => .ok ()
  | some checksum => requireText checksum (js "evidence.checksum")

/-- The checks of the provenance of a change. -/
def validateProvenance : DesignChangeProvenance → Validation
  | .actor actorId => requireText actorId (js "provenance.actorId")
  | .agent agentId promptDigest => do
      requireText agentId (js "provenance.agentId")
      requireText promptDigest (js "provenance.promptDigest")

def validateSemanticDesignChange (change : SemanticDesignChange) :
    Validation := do
  owned change.toJs
  requireText change.id (js "change.id")
  requireText change.reason (js "change.reason")
  requireText change.occurredAt (js "change.occurredAt")
  check (validTimestamp change.occurredAt)
    (js "change.occurredAt must be ISO time")
  verifyReference change.beforeRevision (js "change.beforeRevision")
  verifyReference change.currentRevision (js "change.currentRevision")
  check (change.beforeRevision.id ≠ change.currentRevision.id)
    (js "design changes must advance the design revision")
  requireText change.affected.projectId (js "change.affected.projectId")
  unique change.affected.screenIds (js "change.affected.screenIds")
  unique change.affected.routePaths (js "change.affected.routePaths")
  unique change.affected.scenarioIds (js "change.affected.scenarioIds")
  unique change.affected.componentIds (js "change.affected.componentIds")
  unique change.affected.stableNodeIds (js "change.affected.stableNodeIds")
  check (change.evidence ≠ [] ∧ change.evidence.length ≤ maxEvidence)
    (js "design changes require visual evidence")
  change.evidence.forM validateEvidence
  validateProvenance change.provenance

/-- The readiness that an intent leads to. -/
def readinessOf : BaselineIntent → DesignReadiness
  | .review => .readyForReview
  | .handoff => .readyForHandoff

/-- Whether the currency of a baseline fits its changes. -/
def isConsistent (state : DesignBaselineState) : Prop :=
  match state.currency with
  | .current =>
      state.approvalsStale = false ∧ state.changesSinceBaseline = []
  | .stale => state.approvalsStale = true ∧ state.changesSinceBaseline ≠ []
  | .none => False

instance (state : DesignBaselineState) : Decidable (isConsistent state) := by
  unfold isConsistent
  cases state.currency <;> infer_instance

/-- The checks of one recorded change. -/
def validateRecordedChange
    (projectId : JsString)
    (change : SemanticDesignChange) :
    Validation := do
  validateSemanticDesignChange change
  check (change.affected.projectId = projectId)
    (js "design change must belong to the design baseline state project")

def validateDesignBaselineState (state : DesignBaselineState) :
    Validation := do
  owned state.toJs
  requireText state.projectId (js "state.projectId")
  match state.baseline with
  | none =>
      check
        (state.readiness = .draft ∧ state.currency = .none ∧
          state.approvalsStale = false ∧ state.changesSinceBaseline = [])
        (js "draft state cannot contain baseline data")
  | some baseline => do
      check (baseline.projectId = state.projectId)
        (js "baseline must belong to the design baseline state project")
      verifyReference baseline.revision (js "state.baseline.revision")
      requireText baseline.id (js "state.baseline.id")
      requireText baseline.createdBy (js "state.baseline.createdBy")
      check (validTimestamp baseline.createdAt)
        (js "state.baseline.createdAt must be ISO time")
      check (state.readiness = readinessOf baseline.intent)
        (js "baseline intent must match readiness")
      check (isConsistent state)
        (js "baseline currency and changelog are inconsistent")
      state.changesSinceBaseline.forM
        (validateRecordedChange state.projectId)

/-! ## Transitions -/

structure DesignBaselineTransition where
  state : DesignBaselineState
  baseline : DesignBaseline

def DesignBaselineTransition.toJs (transition : DesignBaselineTransition) :
    JsValue :=
  .object [(js "baseline", transition.baseline.toJs),
    (js "state", transition.state.toJs)]

/-- The state of a project whose baseline was just marked ready. -/
def readyState
    (projectId : JsString)
    (intent : BaselineIntent)
    (baseline : DesignBaseline) :
    DesignBaselineState where
  projectId
  readiness := readinessOf intent
  baseline := some baseline
  currency := .current
  changesSinceBaseline := []
  approvalsStale := false

def markDesignReady
    (state : DesignBaselineState)
    (intent : BaselineIntent)
    (baseline : DesignBaseline) :
    Except DesignBaselineError DesignBaselineTransition := do
  owned state.toJs
  owned baseline.toJs
  validateDesignBaselineState state
  requireText state.projectId (js "state.projectId")
  verifyReference baseline.revision (js "baseline.revision")
  requireText baseline.id (js "baseline.id")
  requireText baseline.projectId (js "baseline.projectId")
  check (baseline.projectId = state.projectId)
    (js "baseline must belong to the design baseline state project")
  requireText baseline.createdBy (js "baseline.createdBy")
  check (validTimestamp baseline.createdAt)
    (js "baseline.createdAt must be ISO time")
  check (baseline.intent = intent)
    (js "baseline intent must match readiness transition")
  let transition : DesignBaselineTransition :=
    ⟨readyState state.projectId intent baseline, baseline⟩
  owned transition.toJs
  .ok transition

/-- The state after one more change since its baseline. -/
def staleState
    (state : DesignBaselineState)
    (change : SemanticDesignChange) :
    DesignBaselineState :=
  { state with
    currency := .stale
    changesSinceBaseline := state.changesSinceBaseline ++ [change]
    approvalsStale := true }

def recordDesignMutation
    (state : DesignBaselineState)
    (change : SemanticDesignChange) :
    Except DesignBaselineError DesignBaselineState := do
  owned state.toJs
  owned change.toJs
  validateDesignBaselineState state
  requireText state.projectId (js "state.projectId")
  validateSemanticDesignChange change
  check (change.affected.projectId = state.projectId)
    (js "design change must belong to the design baseline state project")
  match state.baseline with
  -- A changelog is defined relative to an immutable baseline.
  | none => .ok state
  | some baseline => do
      check (baseline.projectId = state.projectId)
        (js "baseline must belong to the design baseline state project")
      owned (staleState state change).toJs
      .ok (staleState state change)

def recordCollaborationActivity
    (state : DesignBaselineState)
    (activity : CollaborationActivity) :
    Except DesignBaselineError DesignBaselineState := do
  owned state.toJs
  owned activity.toJs
  validateDesignBaselineState state
  requireText activity.type (js "activity.type")
  check (validTimestamp activity.occurredAt)
    (js "activity.occurredAt must be ISO time")
  .ok state

def executeDesignBaselineCommand
    (state : DesignBaselineState)
    (command : DesignBaselineCommand) :
    Except DesignBaselineError DesignBaselineState := do
  owned state.toJs
  owned command.toJs
  match command with
  | .markReady intent baseline => do
      let transition ← markDesignReady state intent baseline
      .ok transition.state
  | .applyDesignMutation change => recordDesignMutation state change
  | .recordCollaborationActivity activity =>
      recordCollaborationActivity state activity

end Selene.Baseline
