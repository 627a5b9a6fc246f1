import Selene.AIProposalReview
import Selene.PrototypeRuntime

/-!
# React bindings of prototype graphs

A manifest binds the nodes and the action ports of a graph to marked places in
React source, and the evidence of the compiler says where those are rendered and
behind which guards.  `evaluateReactScenarioRenderability` dispatches the
expected path of a scenario and says whether each step can be rendered.
-/

namespace Selene.Prototype

open Js Generation

/-! ## Data -/

structure ReactBindingNode where
  graphNodeId : JsString
  sourceNodeId : JsString
  deriving DecidableEq

structure ReactBindingAction where
  graphNodeId : JsString
  portId : JsString
  sourceNodeId : JsString
  deriving DecidableEq

structure ReactBindingManifest where
  projectId : JsString
  sourceRevisionId : JsString
  graphId : JsString
  graphRevision : Int
  nodeBindings : List ReactBindingNode
  actionBindings : List ReactBindingAction
  deriving DecidableEq

inductive GuardSurface where
  | node
  | state
  | overlay
  deriving DecidableEq

inductive GuardOperator where
  | equals
  | notEquals
  deriving DecidableEq

structure ReactBindingRuntimeGuard where
  surface : GuardSurface
  operator : GuardOperator
  value : JsString
  deriving DecidableEq

structure NodeMarker where
  sourceNodeId : JsString
  path : JsString
  exportName : JsString
  guards : List ReactBindingRuntimeGuard
  deriving DecidableEq

structure ActionMarker where
  graphNodeId : JsString
  portId : JsString
  sourceNodeId : JsString
  path : JsString
  exportName : JsString
  guards : List ReactBindingRuntimeGuard
  deriving DecidableEq

structure ReactBindingCompilerEvidence where
  projectId : JsString
  sourceRevisionId : JsString
  sourceSha256 : JsString
  outputSha256 : JsString
  entrypoint : JsString
  reachableFiles : List JsString
  nodeMarkers : List NodeMarker
  actionMarkers : List ActionMarker
  deriving DecidableEq

structure ReactBindingContext where
  graph : PrototypeGraph
  graphRevision : Int
  workspace : Proposal.ReviewedWorkspace
  compilerEvidence : ReactBindingCompilerEvidence

inductive ReactBindingManifestErrorCode where
  | invalidManifest
  | invalidContext
  | projectMismatch
  | sourceRevisionMismatch
  | graphRevisionMismatch
  | nodeUnbound
  | sourceNodeMissing
  | sourceMarkerMissing
  | actionBindingMissing
  | actionBindingDangling
  | actionBindingExtra
  | actionMarkerMissing
  | runtimeSurfaceStale
  | runtimeGuardMismatch
  | actionNotActive
  | actionPortMissing
  deriving DecidableEq

structure ReactBindingManifestError where
  code : ReactBindingManifestErrorCode
  message : JsString
  deriving DecidableEq

/-- What is thrown: an error of bindings, or one of another part. -/
inductive BindingFailure where
  | binding (error : ReactBindingManifestError)
  | other
  deriving DecidableEq

inductive UnrenderableReason where
  | bindingMissing
  | bindingStale
  | bindingInvalid
  | staticSourceMissing
  | runtimeGuardMismatch
  deriving DecidableEq

inductive ReactScenarioRenderability where
  | renderable (scenarioId : JsString)
  | unrenderable (scenarioId : JsString) (reason : UnrenderableReason)
      (message : JsString)
  deriving DecidableEq

/-- `throw new ReactBindingManifestError(code, message)`. -/
def bindingFailure (code : ReactBindingManifestErrorCode) (message : String) :
    BindingFailure :=
  .binding ⟨code, js message⟩

/-! ## Parsing -/

/-- `nodeIdSchema` of manifests. -/
def nodeIdSchema : JsString → Bool
  | [] => false
  | first :: rest =>
      (isLetter first || isDecimalDigit first) &&
        decide (rest.length ≤ 127) && rest.all isIdUnit

/-- `projectIdSchema`. -/
def projectIdSchema : JsString → Bool
  | [] => false
  | first :: rest =>
      decide (97 ≤ first.val ∧ first.val ≤ 122) && decide (rest.length ≤ 63) &&
        rest.all fun unit =>
          decide (97 ≤ unit.val ∧ unit.val ≤ 122) || isDecimalDigit unit ||
            decide (unit = 0x2D)

/-- `Number.isSafeInteger(value) && value >= 0` of an integer. -/
def isGraphRevision (value : Int) : Bool :=
  decide (0 ≤ value ∧ value ≤ 9007199254740991)

/-- The key of an action: the id of its node, a null unit, and its port. -/
def actionKey (nodeId portId : JsString) : JsString :=
  nodeId ++ 0 :: portId

def ReactBindingAction.key (binding : ReactBindingAction) : JsString :=
  actionKey binding.graphNodeId binding.portId

def ActionMarker.key (marker : ActionMarker) : JsString :=
  actionKey marker.graphNodeId marker.portId

/-- `reactBindingManifestSchema`. -/
def reactBindingManifestSchema (manifest : ReactBindingManifest) : Bool :=
  projectIdSchema manifest.projectId &&
    decide (1 ≤ manifest.sourceRevisionId.length ∧
      manifest.sourceRevisionId.length ≤ 256) &&
    nodeIdSchema manifest.graphId &&
    isGraphRevision manifest.graphRevision &&
    decide (1 ≤ manifest.nodeBindings.length ∧
      manifest.nodeBindings.length ≤ 500) &&
    manifest.nodeBindings.all (fun binding =>
      nodeIdSchema binding.graphNodeId && nodeIdSchema binding.sourceNodeId) &&
    decide (manifest.actionBindings.length ≤ 16000) &&
    manifest.actionBindings.all (fun binding =>
      nodeIdSchema binding.graphNodeId && nodeIdSchema binding.portId &&
        nodeIdSchema binding.sourceNodeId) &&
    decide (manifest.nodeBindings.map ReactBindingNode.graphNodeId).Nodup &&
    decide (manifest.nodeBindings.map ReactBindingNode.sourceNodeId).Nodup &&
    decide (manifest.actionBindings.map ReactBindingAction.key).Nodup

/--
`parseReactBindingManifest` on a value that has the fields of a manifest; any
other value is rejected by its shape.
-/
def parseReactBindingManifest (value : ReactBindingManifest) :
    Except BindingFailure ReactBindingManifest := do
  check (reactBindingManifestSchema value = true)
    (bindingFailure .invalidManifest "React binding manifest is invalid.")
  pure value

/-- `boundedText`. -/
def boundedText (item : JsString) (maximum : Nat) : Bool :=
  decide (0 < item.length ∧ item.length ≤ maximum)

/-- What the evidence promises about the guards of a marker. -/
def guardsBounded (guards : List ReactBindingRuntimeGuard) : Bool :=
  decide (guards.length ≤ 8) &&
    guards.all fun guard => boundedText guard.value 128

/-- The checks of `parseReactBindingCompilerEvidence`. -/
def evidenceAccepted (evidence : ReactBindingCompilerEvidence) : Bool :=
  Lifecycle.isSha256 evidence.sourceSha256 &&
    Lifecycle.isSha256 evidence.outputSha256 &&
    decide (evidence.reachableFiles.length ≤ 500) &&
    decide (evidence.nodeMarkers.length ≤ 500) &&
    decide (evidence.actionMarkers.length ≤ 16000) &&
    decide (evidence.projectId.length ≤ 128) &&
    decide (evidence.sourceRevisionId.length ≤ 256) &&
    boundedText evidence.entrypoint 512 &&
    decide evidence.reachableFiles.Nodup &&
    evidence.reachableFiles.all (fun item => boundedText item 512) &&
    evidence.nodeMarkers.all (fun item =>
      boundedText item.sourceNodeId 128 && boundedText item.path 512 &&
        boundedText item.exportName 128 && guardsBounded item.guards) &&
    evidence.actionMarkers.all (fun item =>
      boundedText item.graphNodeId 128 && boundedText item.portId 128 &&
        boundedText item.sourceNodeId 128 && boundedText item.path 512 &&
        boundedText item.exportName 128 && guardsBounded item.guards) &&
    decide (evidence.nodeMarkers.map NodeMarker.sourceNodeId).Nodup &&
    decide (evidence.actionMarkers.map ActionMarker.key).Nodup

/-- `parseReactBindingCompilerEvidence` on a value that has the fields. -/
def parseReactBindingCompilerEvidence (value : ReactBindingCompilerEvidence) :
    Except BindingFailure ReactBindingCompilerEvidence := do
  check (evidenceAccepted value = true)
    (bindingFailure .invalidContext "React compiler evidence is invalid.")
  pure value

/-! ## Preparing -/

structure PreparedReactBinding where
  manifest : ReactBindingManifest
  graph : PrototypeGraph
  evidenceNodes : Table NodeMarker.sourceNodeId
  evidenceActions : Table ActionMarker.key

/-- What the checks of a binding look up. -/
structure BindingLookup where
  bindings : Table ReactBindingNode.graphNodeId
  actions : Table ReactBindingAction.key
  sourceNodes : Proposal.NodeTable
  evidence : ReactBindingCompilerEvidence
  evidenceNodes : Table NodeMarker.sourceNodeId
  evidenceActions : Table ActionMarker.key

def bindingLookup (manifest : ReactBindingManifest)
    (workspace : Proposal.ReviewedWorkspace)
    (evidence : ReactBindingCompilerEvidence) : BindingLookup where
  bindings := Table.empty.setAll manifest.nodeBindings
  actions := Table.empty.setAll manifest.actionBindings
  sourceNodes := Proposal.nodeMap workspace
  evidence
  evidenceNodes := Table.empty.setAll evidence.nodeMarkers
  evidenceActions := Table.empty.setAll evidence.actionMarkers

/-- A marker stands for a source node in a file that is reached. -/
def BindingLookup.MarkerFits (lookup : BindingLookup) (path exportName : JsString)
    (source : Proposal.MappedNode) : Prop :=
  path = source.path ∧ exportName = source.exportName ∧
    path ∈ lookup.evidence.reachableFiles

instance (lookup : BindingLookup) (path exportName : JsString)
    (source : Proposal.MappedNode) :
    Decidable (lookup.MarkerFits path exportName source) :=
  inferInstanceAs (Decidable (_ ∧ _))

/-- A node of the graph is bound to a marked source node. -/
def checkNodeBinding (lookup : BindingLookup) (node : PrototypeNode) :
    Except BindingFailure Unit :=
  match lookup.bindings.find? node.id with
  | none =>
      .error (bindingFailure .nodeUnbound "A graph node is not bound to source.")
  | some binding =>
      match lookup.sourceNodes.find? binding.sourceNodeId with
      | none =>
          .error (bindingFailure .sourceNodeMissing
            "A bound source node is unavailable.")
      | some source =>
          check (∃ marker ∈ lookup.evidenceNodes.find? source.nodeId,
              lookup.MarkerFits marker.path marker.exportName source)
            (bindingFailure .sourceMarkerMissing
              "A bound source node is not present in compiler evidence.")

/-- A port of the graph is bound to a marked place of a source node. -/
def checkActionBinding (lookup : BindingLookup) (node : PrototypeNode)
    (port : PrototypeActionPort) :
    Except BindingFailure Unit :=
  match lookup.actions.find? (actionKey node.id port.id) with
  | none =>
      .error (bindingFailure .actionBindingMissing
        "A graph action is not bound to source.")
  | some action =>
      match lookup.sourceNodes.find? action.sourceNodeId with
      | none =>
          .error (bindingFailure .actionBindingDangling
            "A bound action source node is unavailable.")
      | some source =>
          check (∃ marker ∈ lookup.evidenceActions.find?
                (actionKey node.id port.id),
              marker.sourceNodeId = action.sourceNodeId ∧
                lookup.MarkerFits marker.path marker.exportName source)
            (bindingFailure .actionMarkerMissing
              "A graph action is not present in compiler evidence.")

def prepareReactBinding (host : GraphHost) (value : ReactBindingManifest)
    (context : ReactBindingContext) :
    Except BindingFailure PreparedReactBinding := do
  let manifest ← parseReactBindingManifest value
  let invalidContext :=
    bindingFailure .invalidContext "React binding context is invalid."
  let graph ← (parsePrototypeGraph host context.graph).mapError
    fun _ => invalidContext
  (validateReactSourceWorkspace context.workspace.toSource []).mapError
    fun _ => invalidContext
  check (isGraphRevision context.graphRevision = true) invalidContext
  check (manifest.projectId = context.workspace.projectId)
    (bindingFailure .projectMismatch
      "React binding does not match the active project.")
  check (manifest.sourceRevisionId = context.workspace.revision.id)
    (bindingFailure .sourceRevisionMismatch
      "React binding does not match the active source revision.")
  check (manifest.graphId = graph.id ∧
      manifest.graphRevision = context.graphRevision)
    (bindingFailure .graphRevisionMismatch
      "React binding does not match the active graph revision.")
  let evidence ← parseReactBindingCompilerEvidence context.compilerEvidence
  check (evidence.projectId = context.workspace.projectId ∧
      evidence.sourceRevisionId = context.workspace.revision.id ∧
      evidence.entrypoint = context.workspace.entrypoint ∧
      evidence.sourceSha256 ≠ [] ∧ evidence.outputSha256 ≠ [] ∧
      context.workspace.entrypoint ∈ evidence.reachableFiles)
    (bindingFailure .sourceRevisionMismatch
      "React compiler evidence does not match the active source revision.")
  let lookup := bindingLookup manifest context.workspace evidence
  graph.nodes.forM (checkNodeBinding lookup)
  check (lookup.bindings.size = graph.nodes.length)
    (bindingFailure .invalidManifest "React binding manifest is invalid.")
  graph.nodes.forM fun node => node.ports.forM (checkActionBinding lookup node)
  check (lookup.actions.size =
      (graph.nodes.map fun node => node.ports.length).sum)
    (bindingFailure .actionBindingExtra "React binding manifest is invalid.")
  pure ⟨manifest, graph, lookup.evidenceNodes, lookup.evidenceActions⟩

/-! ## The surface of a runtime -/

/-- `runtimeValue`. -/
def runtimeValue (runtime : PrototypeRuntimeSnapshot) :
    GuardSurface → Option JsString
  | .node => some runtime.activeNodeId
  | .state => runtime.activeStateId
  | .overlay => runtime.activeOverlayId

/-- Whether a guard holds of a runtime. -/
def ReactBindingRuntimeGuard.holds (guard : ReactBindingRuntimeGuard)
    (runtime : PrototypeRuntimeSnapshot) : Bool :=
  match guard.operator with
  | .equals => decide (runtimeValue runtime guard.surface = some guard.value)
  | .notEquals => decide (runtimeValue runtime guard.surface ≠ some guard.value)

def assertRuntimeGuards (guards : List ReactBindingRuntimeGuard)
    (runtime : PrototypeRuntimeSnapshot) : Except BindingFailure Unit :=
  check (guards.all (fun guard => guard.holds runtime) = true)
    (bindingFailure .runtimeGuardMismatch
      ("A compiler-issued runtime guard does not match the active preview " ++
        "surface."))

def activeRuntimeSurfaceIds (runtime : PrototypeRuntimeSnapshot) :
    List JsString :=
  [some runtime.activeNodeId, runtime.activeStateId,
    runtime.activeOverlayId].filterMap id

/-- An active surface is marked, and its guards hold. -/
def assertSurface (prepared : PreparedReactBinding)
    (runtime : PrototypeRuntimeSnapshot) (nodeId : JsString) :
    Except BindingFailure Unit :=
  match (prepared.manifest.nodeBindings.find? fun item =>
      decide (item.graphNodeId = nodeId)).bind fun binding =>
        prepared.evidenceNodes.find? binding.sourceNodeId with
  | none =>
      .error (bindingFailure .sourceMarkerMissing
        "An active graph surface is not present in compiler evidence.")
  | some marker => assertRuntimeGuards marker.guards runtime

/-- The marker of a bound action, if it stands for the bound source node. -/
def actionMarkerOf (prepared : PreparedReactBinding) (action : ActionSource) :
    Option ActionMarker :=
  (prepared.manifest.actionBindings.find? fun item =>
      decide (item.graphNodeId = action.nodeId ∧
        item.portId = action.portId)).bind fun binding =>
    (prepared.evidenceActions.find?
      (actionKey action.nodeId action.portId)).filter fun marker =>
        decide (marker.sourceNodeId = binding.sourceNodeId)

/-- The part of `assertPreparedRuntimeSurface` about an action. -/
def assertAction (prepared : PreparedReactBinding)
    (runtime : PrototypeRuntimeSnapshot) (action : ActionSource) :
    Except BindingFailure Unit := do
  check (action.nodeId ∈ activeRuntimeSurfaceIds runtime)
    (bindingFailure .actionNotActive
      "Runtime action is not on an active surface.")
  check (∃ node ∈ prepared.graph.nodeById action.nodeId,
      action.portId ∈ node.ports.map PrototypeActionPort.id)
    (bindingFailure .actionPortMissing
      "Runtime action port is not present in the current graph.")
  match actionMarkerOf prepared action with
  | none =>
      .error (bindingFailure .actionMarkerMissing
        "Runtime action port is not statically rendered.")
  | some marker => assertRuntimeGuards marker.guards runtime

def assertPreparedRuntimeSurface (prepared : PreparedReactBinding)
    (runtime : PrototypeRuntimeSnapshot) (action : Option ActionSource) :
    Except BindingFailure Unit := do
  check (∀ id ∈ activeRuntimeSurfaceIds runtime, id ∈ prepared.graph.nodeIds)
    (bindingFailure .runtimeSurfaceStale
      "Runtime surface is not present in the current graph.")
  (activeRuntimeSurfaceIds runtime).forM (assertSurface prepared runtime)
  match action with
  | none => pure ()
  | some action => assertAction prepared runtime action

/-! ## Renderability of scenarios -/

def rendererReasonFor : ReactBindingManifestErrorCode → UnrenderableReason
  | .nodeUnbound => .bindingMissing
  | .sourceNodeMissing => .bindingMissing
  | .actionBindingMissing => .bindingMissing
  | .actionBindingDangling => .bindingMissing
  | .projectMismatch => .bindingStale
  | .sourceRevisionMismatch => .bindingStale
  | .graphRevisionMismatch => .bindingStale
  | .runtimeSurfaceStale => .bindingStale
  | .runtimeGuardMismatch => .runtimeGuardMismatch
  | .sourceMarkerMissing => .staticSourceMissing
  | .actionMarkerMissing => .staticSourceMissing
  | .invalidManifest => .bindingInvalid
  | .invalidContext => .bindingInvalid
  | .actionNotActive => .bindingInvalid
  | .actionPortMissing => .bindingInvalid
  | .actionBindingExtra => .bindingInvalid

/-- `renderabilityFailure`. -/
def renderabilityFailure (scenarioId : JsString) :
    BindingFailure → ReactScenarioRenderability
  | .binding error =>
      .unrenderable scenarioId (rendererReasonFor error.code) error.message
  | .other =>
      .unrenderable scenarioId .bindingInvalid (js "React binding is invalid.")

/-- The transitions that lead from one node to another. -/
def transitionsBetween (graph : PrototypeGraph) (origin target : JsString) :
    List PrototypeTransition :=
  graph.transitions.filter fun transition =>
    decide (transition.origin.nodeId = origin ∧
      transition.kind.target? = some target)

/-- One turn of the loop over the expected path. -/
def renderStep (prepared : PreparedReactBinding) (runtime : PrototypeRuntime)
    (fromNodeId expectedNodeId : JsString) :
    Except BindingFailure PrototypeRuntime := do
  check (fromNodeId ∈ activeRuntimeSurfaceIds runtime.snapshot)
    (bindingFailure .runtimeGuardMismatch
      "Scenario expected path is not active in the compiled preview.")
  match transitionsBetween prepared.graph fromNodeId expectedNodeId with
  | [transition] => do
      assertPreparedRuntimeSurface prepared runtime.snapshot
        (some transition.origin)
      let (next, answer) := runtime.dispatch
        (.trigger transition.origin.nodeId transition.origin.portId)
      let snapshot ← answer.mapError fun _ => .other
      check (expectedNodeId ∈ activeRuntimeSurfaceIds snapshot)
        (bindingFailure .runtimeGuardMismatch
          ("Scenario expected path does not reach the declared runtime " ++
            "surface."))
      assertPreparedRuntimeSurface prepared snapshot none
      pure next
  | _ =>
      .error (bindingFailure .invalidContext
        "Scenario expected path is not uniquely wired in the active graph.")

/-- The loop over the expected path. -/
def renderPath (prepared : PreparedReactBinding) :
    PrototypeRuntime → List JsString → Except BindingFailure PrototypeRuntime
  | runtime, fromNodeId :: expectedNodeId :: rest => do
      let next ← renderStep prepared runtime fromNodeId expectedNodeId
      renderPath prepared next (expectedNodeId :: rest)
  | runtime, _ => .ok runtime

/-- The body of the `try`. -/
def renderScenario (host : GraphHost) (value : ReactBindingManifest)
    (context : ReactBindingContext) (scenarioId : JsString) :
    Except BindingFailure ReactScenarioRenderability := do
  let prepared ← prepareReactBinding host value context
  match prepared.graph.scenarios.find? fun item => item.id = scenarioId with
  | none =>
      pure (.unrenderable scenarioId .bindingInvalid
        (js "Scenario is unavailable."))
  | some scenario => do
      let runtime ← (createPrototypeRuntime host prepared.graph
        (some scenario.id)).mapError fun _ => .other
      assertPreparedRuntimeSurface prepared runtime.snapshot none
      let _ ← renderPath prepared runtime scenario.expectedPath
      pure (.renderable scenario.id)

/-- The `catch`. -/
def caught (scenarioId : JsString) :
    Except BindingFailure ReactScenarioRenderability →
      ReactScenarioRenderability
  | .ok result => result
  | .error failure => renderabilityFailure scenarioId failure

def evaluateReactScenarioRenderability (host : GraphHost)
    (value : Option ReactBindingManifest) (context : ReactBindingContext)
    (scenarioId : JsString) : ReactScenarioRenderability :=
  match value with
  | none =>
      .unrenderable scenarioId .bindingMissing
        (js "No React binding is configured for this graph.")
  | some value =>
      caught scenarioId (renderScenario host value context scenarioId)

end Selene.Prototype
