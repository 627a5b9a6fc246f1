import Selene.PrototypeRestore

/-!
# The rules of accepted graphs

Whether a field or a rule raises an issue does not depend on the path that the
issue would name.  `Accepted` says what the absence of issues means, part by
part.
-/

namespace Selene.Prototype

open Js

/-! ## Fields at any path -/

theorem issuesOfEach_of_forall
    {α : Type}
    {items : List α}
    {issues : Nat → α → List GraphIssue}
    (none : ∀ item ∈ items, ∀ index, issues index item = []) :
    issuesOfEach items issues = [] :=
  issuesOfEach_eq_nil.mpr fun index item found =>
    none item (List.mem_of_getElem? found) index

theorem issuesOfEach_iff
    {α : Type}
    {items : List α}
    {issues : Nat → α → List GraphIssue}
    {holds : α → Prop}
    (same : ∀ index item, issues index item = [] ↔ holds item) :
    issuesOfEach items issues = [] ↔ ∀ item ∈ items, holds item := by
  constructor
  · intro none item member
    obtain ⟨index, empty⟩ := issuesOfEach_mem none member
    exact (same index item).mp empty
  · intro each
    exact issuesOfEach_of_forall fun item member index =>
      (same index item).mpr (each item member)

structure PortAccepted (port : PrototypeActionPort) : Prop where
  id : idSchema port.id = true
  label : labelSchema port.label = true
  trigger : triggerSchema port.trigger = true

theorem portIssues_iff (path : List PathPart) (port : PrototypeActionPort) :
    portIssues path port = [] ↔ PortAccepted port := by
  simp only [portIssues, List.append_eq_nil_iff, fieldIssue_eq_nil]
  constructor
  · rintro ⟨⟨id, label⟩, trigger⟩
    exact ⟨id, label, trigger⟩
  · rintro ⟨id, label, trigger⟩
    exact ⟨⟨id, label⟩, trigger⟩

structure KindAccepted (host : GraphHost) (kind : NodeKind) : Prop where
  route : ∀ route ∈ kind.route?,
    (1 ≤ route.length ∧ route.length ≤ 240) ∧
      isInternalRoute host route = true
  parentId : ∀ parentId ∈ kind.parentId?, idSchema parentId = true

theorem kindIssues_iff (host : GraphHost) (path : List PathPart)
    (kind : NodeKind) :
    kindIssues host path kind = [] ↔ KindAccepted host kind := by
  have surface (route : JsString) :
      ((1 ≤ route.length ∧ route.length ≤ 240) ∧
          isInternalRoute host route = true) ↔
        ∀ other ∈ some route, (1 ≤ other.length ∧ other.length ≤ 240) ∧
          isInternalRoute host other = true := by
    simp
  cases kind <;>
    simp only [kindIssues, NodeKind.route?, NodeKind.parentId?,
      List.append_eq_nil_iff, fieldIssue_eq_nil, issueUnless_eq_nil,
      decide_eq_true_eq, and_true, List.nil_append]
  · rw [surface]
    exact ⟨fun route => ⟨route, by simp [NodeKind.parentId?]⟩,
      fun accepted => accepted.route⟩
  · rw [surface]
    exact ⟨fun route => ⟨route, by simp [NodeKind.parentId?]⟩,
      fun accepted => accepted.route⟩
  · exact ⟨fun id => ⟨by simp [NodeKind.route?],
        by simp [NodeKind.parentId?, id]⟩,
      fun accepted => accepted.parentId _ rfl⟩
  · exact ⟨fun _ => ⟨by simp [NodeKind.route?],
        by simp [NodeKind.parentId?]⟩, fun _ => trivial⟩

structure NodeAccepted (host : GraphHost) (node : PrototypeNode) :
    Prop where
  id : idSchema node.id = true
  label : labelSchema node.label = true
  position : pointSchema node.position = true
  portCount : node.ports.length ≤ 32
  ports : ∀ port ∈ node.ports, PortAccepted port
  kind : KindAccepted host node.kind
  portIds : (node.ports.map PrototypeActionPort.id).Nodup

theorem nodeIssues_iff (host : GraphHost) (path : List PathPart)
    (node : PrototypeNode) :
    nodeIssues host path node = [] ↔ NodeAccepted host node := by
  simp only [nodeIssues, List.append_eq_nil_iff, fieldIssue_eq_nil,
    issueUnless_eq_nil, decide_eq_true_eq, kindIssues_iff,
    issuesOfEach_iff fun index => portIssues_iff _]
  exact ⟨fun ⟨⟨⟨⟨⟨⟨id, label⟩, position⟩, count⟩, ports⟩, kind⟩, distinct⟩ =>
      ⟨id, label, position, count, ports, kind, distinct⟩,
    fun ⟨id, label, position, count, ports, kind, distinct⟩ =>
      ⟨⟨⟨⟨⟨⟨id, label⟩, position⟩, count⟩, ports⟩, kind⟩, distinct⟩⟩

structure TransitionAccepted (transition : PrototypeTransition) : Prop where
  id : idSchema transition.id = true
  nodeId : idSchema transition.origin.nodeId = true
  portId : idSchema transition.origin.portId = true
  target : transition.kind.target?.all idSchema = true

theorem transitionIssues_iff (path : List PathPart)
    (transition : PrototypeTransition) :
    transitionIssues path transition = [] ↔
      TransitionAccepted transition := by
  simp only [transitionIssues, List.append_eq_nil_iff, fieldIssue_eq_nil]
  exact ⟨fun ⟨⟨⟨id, nodeId⟩, portId⟩, target⟩ => ⟨id, nodeId, portId, target⟩,
    fun ⟨id, nodeId, portId, target⟩ => ⟨⟨⟨id, nodeId⟩, portId⟩, target⟩⟩

structure ScenarioAccepted (scenario : PrototypeScenario) : Prop where
  id : idSchema scenario.id = true
  name : labelSchema scenario.name = true
  startNodeId : idSchema scenario.startNodeId = true
  initialStateId : scenario.initialStateId.all idSchema = true
  pathLength : 1 ≤ scenario.expectedPath.length ∧
    scenario.expectedPath.length ≤ 500
  path : ∀ id ∈ scenario.expectedPath, idSchema id = true

theorem scenarioIssues_iff (path : List PathPart)
    (scenario : PrototypeScenario) :
    scenarioIssues path scenario = [] ↔ ScenarioAccepted scenario := by
  have each : issuesOfEach scenario.expectedPath (fun index id =>
      fieldIssue (idSchema id)
        (path ++ [field "expectedPath", .index index])) = [] ↔
        ∀ id ∈ scenario.expectedPath, idSchema id = true :=
    issuesOfEach_iff fun _ _ => fieldIssue_eq_nil
  simp only [scenarioIssues, List.append_eq_nil_iff, fieldIssue_eq_nil,
    decide_eq_true_eq, each]
  exact ⟨fun ⟨⟨⟨⟨⟨id, name⟩, start⟩, state⟩, length⟩, path⟩ =>
      ⟨id, name, start, state, length, path⟩,
    fun ⟨id, name, start, state, length, path⟩ =>
      ⟨⟨⟨⟨⟨id, name⟩, start⟩, state⟩, length⟩, path⟩⟩

/-- The fields of a graph that are no lists. -/
structure HeaderAccepted (host : GraphHost) (graph : PrototypeGraph) :
    Prop where
  id : idSchema graph.id = true
  name : labelSchema graph.name = true
  projectId : idSchema graph.project.projectId = true
  projectOwner : labelSchema graph.project.owner = true
  revisionId : idSchema graph.revision.id = true
  revisionParentId : graph.revision.parentId.all idSchema = true
  createdAt : host.isoDatetime graph.revision.createdAt = true
  revisionSummary : labelSchema graph.revision.summary = true
  handoffOwner : labelSchema graph.handoff.owner = true
  handoffSummary : labelSchema graph.handoff.summary = true
  initialNodeId : idSchema graph.initialNodeId = true

/-- The fields of a graph. -/
structure FieldsAccepted (host : GraphHost) (graph : PrototypeGraph) :
    Prop where
  header : HeaderAccepted host graph
  nodeCount : 1 ≤ graph.nodes.length ∧ graph.nodes.length ≤ 500
  nodes : ∀ node ∈ graph.nodes, NodeAccepted host node
  transitionCount : graph.transitions.length ≤ 2000
  transitions : ∀ transition ∈ graph.transitions,
    TransitionAccepted transition
  scenarioCount : 1 ≤ graph.scenarios.length ∧ graph.scenarios.length ≤ 200
  scenarios : ∀ scenario ∈ graph.scenarios, ScenarioAccepted scenario
  fixtureKeys : ∀ entry ∈ graph.fixtures, fixtureKeySchema entry.1 = true
  positions : ∀ viewState ∈ graph.viewState,
    ∀ entry ∈ viewState.compactNodePositions,
      idSchema entry.1 = true ∧ pointSchema entry.2 = true

theorem fieldIssues_iff (host : GraphHost) (graph : PrototypeGraph) :
    fieldIssues host graph = [] ↔ FieldsAccepted host graph := by
  simp only [fieldIssues, List.append_eq_nil_iff, fieldIssue_eq_nil,
    decide_eq_true_eq, List.flatMap_eq_nil_iff, Option.mem_toList,
    Bool.and_eq_true, and_assoc,
    issuesOfEach_iff fun index => nodeIssues_iff host _,
    issuesOfEach_iff fun index => transitionIssues_iff _,
    issuesOfEach_iff fun index => scenarioIssues_iff _]
  constructor
  · rintro ⟨id, name, projectId, projectOwner, revisionId, revisionParentId,
      createdAt, revisionSummary, handoffOwner, handoffSummary,
      initialNodeId, some, nodeCount, nodes, transitionCount, transitions,
      scenario, scenarioCount, scenarios, fixtureKeys, positions⟩
    exact ⟨⟨id, name, projectId, projectOwner, revisionId, revisionParentId,
      createdAt, revisionSummary, handoffOwner, handoffSummary,
      initialNodeId⟩, ⟨some, nodeCount⟩, nodes, transitionCount, transitions,
      ⟨scenario, scenarioCount⟩, scenarios, fixtureKeys, positions⟩
  · rintro ⟨⟨id, name, projectId, projectOwner, revisionId, revisionParentId,
      createdAt, revisionSummary, handoffOwner, handoffSummary,
      initialNodeId⟩, ⟨some, nodeCount⟩, nodes, transitionCount, transitions,
      ⟨scenario, scenarioCount⟩, scenarios, fixtureKeys, positions⟩
    exact ⟨id, name, projectId, projectOwner, revisionId, revisionParentId,
      createdAt, revisionSummary, handoffOwner, handoffSummary,
      initialNodeId, some, nodeCount, nodes, transitionCount, transitions,
      scenario, scenarioCount, scenarios, fixtureKeys, positions⟩

/-! ## Rules at any path -/

namespace PrototypeGraph

variable (graph : PrototypeGraph)

/-- Every step of a path is wired. -/
def IsWiredPath (path : List JsString) : Prop :=
  path.IsChain graph.IsWired

theorem isChain_iff_zip
    {α : Type}
    {related : α → α → Prop}
    {items : List α} :
    items.IsChain related ↔
      ∀ step ∈ items.zip items.tail, related step.1 step.2 := by
  induction items with
  | nil => simp
  | cons first rest inductionHypothesis =>
      cases rest with
      | nil => simp
      | cons second others =>
          rw [List.isChain_cons_cons, inductionHypothesis]
          simp

structure ScenarioHolds (scenario : PrototypeScenario) : Prop where
  start : graph.IsSurfaceId scenario.startNodeId
  initial : ∀ id ∈ scenario.initialStateId,
    graph.IsStateOf id scenario.startNodeId
  head : scenario.expectedPath.head? = some scenario.startNodeId
  nodes : ∀ id ∈ scenario.expectedPath, id ∈ graph.nodeIds
  wired : graph.IsWiredPath scenario.expectedPath

theorem initialStateRules_iff (path : List PathPart)
    (scenario : PrototypeScenario) :
    graph.initialStateRules path scenario = [] ↔
      ∀ id ∈ scenario.initialStateId,
        graph.IsStateOf id scenario.startNodeId := by
  constructor
  · exact fun rules id initial => isStateOf_of_initialStateRules rules initial
  · intro states
    rw [initialStateRules]
    cases initial : scenario.initialStateId with
    | none => rfl
    | some id =>
        have found := states id initial
        rw [IsStateOf] at found
        simp only [found, issueUnless_eq_nil]

theorem scenarioRules_iff (path : List PathPart)
    (scenario : PrototypeScenario) :
    graph.scenarioRules path scenario = [] ↔
      graph.ScenarioHolds scenario := by
  have nodes : issuesOfEach scenario.expectedPath (fun index nodeId =>
      issueUnless (nodeId ∈ graph.nodeIds)
        "scenario expectedPath references an unknown node"
        (path ++ [field "expectedPath", .index index])) = [] ↔
        ∀ id ∈ scenario.expectedPath, id ∈ graph.nodeIds :=
    issuesOfEach_iff fun _ _ => issueUnless_eq_nil
  have steps : issuesOfEach
      (scenario.expectedPath.zip scenario.expectedPath.tail)
      (fun index step =>
        issueUnless (graph.IsWired step.1 step.2)
          "scenario expectedPath contains an unwired transition"
          (path ++ [field "expectedPath", .index (index + 1)])) = [] ↔
        graph.IsWiredPath scenario.expectedPath := by
    rw [IsWiredPath, isChain_iff_zip]
    exact issuesOfEach_iff fun _ _ => issueUnless_eq_nil
  simp only [scenarioRules, expectedPathRules, List.append_eq_nil_iff,
    issueUnless_eq_nil, initialStateRules_iff, nodes, steps]
  constructor
  · rintro ⟨⟨⟨start, initial⟩, head⟩, nodes, wired⟩
    exact ⟨start, initial, head, nodes, wired⟩
  · rintro ⟨start, initial, head, nodes, wired⟩
    exact ⟨⟨⟨start, initial⟩, head⟩, nodes, wired⟩

/-- What a kind of transition asks of its target. -/
def TargetHolds (source : Option PrototypeNode) (target : PrototypeNode) :
    TransitionKind → Prop
  | .navigate _ => target.isSurface = true
  | .setState _ => ∃ parentId, target.kind.parentId? = some parentId ∧
      sourceParentId source = some parentId
  | .openOverlay _ => target.isOverlay = true
  | .closeOverlay _ => target.isOverlay = true
  | .back => True
  | .resetFlow => True

theorem targetKindRules_iff (path : List PathPart)
    (source : Option PrototypeNode) (target : PrototypeNode)
    (kind : TransitionKind) :
    targetKindRules path source target kind = [] ↔
      TargetHolds source target kind := by
  cases kind with
  | setState id =>
      rw [targetKindRules, TargetHolds]
      cases target.kind.parentId? with
      | none => simp
      | some parentId => simp
  | _ => simp [targetKindRules, TargetHolds]

structure TransitionHolds (transition : PrototypeTransition) : Prop where
  source : ∃ source, graph.nodeById transition.origin.nodeId = some source ∧
    transition.origin.portId ∈ source.ports.map PrototypeActionPort.id
  target : ∀ targetId ∈ transition.kind.target?,
    ∃ target, graph.nodeById targetId = some target ∧
      TargetHolds (graph.nodeById transition.origin.nodeId) target
        transition.kind

theorem transitionRules_iff (path : List PathPart)
    (transition : PrototypeTransition) :
    graph.transitionRules path transition = [] ↔
      graph.TransitionHolds transition := by
  have source : graph.sourceRules path transition = [] ↔
      ∃ source, graph.nodeById transition.origin.nodeId = some source ∧
        transition.origin.portId ∈
          source.ports.map PrototypeActionPort.id := by
    rw [sourceRules]
    cases graph.nodeById transition.origin.nodeId with
    | none => simp
    | some node => simp
  rw [transitionRules, List.append_eq_nil_iff, source]
  have fields : graph.TransitionHolds transition ↔
      (∃ source,
        graph.nodeById transition.origin.nodeId = some source ∧
          transition.origin.portId ∈
            source.ports.map PrototypeActionPort.id) ∧
        ∀ targetId ∈ transition.kind.target?,
          ∃ target, graph.nodeById targetId = some target ∧
            TargetHolds (graph.nodeById transition.origin.nodeId) target
              transition.kind := by
    constructor
    · intro holds
      exact ⟨holds.source, holds.target⟩
    · rintro ⟨source, target⟩
      exact ⟨source, target⟩
  rw [fields]
  refine and_congr_right fun _ => ?_
  cases transition.kind.target? with
  | none => simp
  | some targetId =>
      cases found : graph.nodeById targetId with
      | none => simp [found]
      | some target => simp [found, targetKindRules_iff]

/-- The positions of a view state are those of the nodes. -/
structure Covers (viewState : PrototypeGraphViewState) : Prop where
  count : viewState.compactNodePositions.length =
    graph.nodeIds.dedup.length
  nodes : ∀ entry ∈ viewState.compactNodePositions, entry.1 ∈ graph.nodeIds

theorem viewStateRules_iff (viewState : PrototypeGraphViewState) :
    graph.viewStateRules viewState = [] ↔ graph.Covers viewState := by
  simp only [viewStateRules, List.append_eq_nil_iff, issueUnless_eq_nil,
    List.length_map, List.flatMap_map, List.flatMap_eq_nil_iff]
  exact ⟨fun ⟨count, nodes⟩ => ⟨count, nodes⟩,
    fun ⟨count, nodes⟩ => ⟨count, nodes⟩⟩

/-- The rules that tie the parts of a graph together. -/
structure RulesHold : Prop where
  fixtures : fixtureIssue graph.fixtures = none
  nodeIds : graph.nodeIds.Nodup
  covers : ∀ viewState ∈ graph.viewState, graph.Covers viewState
  transitionIds : (graph.transitions.map PrototypeTransition.id).Nodup
  actionPorts : graph.actionPorts.Nodup
  initialNode : graph.IsSurfaceId graph.initialNodeId
  parents : ∀ node ∈ graph.nodes, ∀ parentId ∈ node.kind.parentId?,
    graph.IsSurfaceId parentId
  routes : (graph.nodes.filterMap fun node => node.kind.route?).Nodup
  scenarioIds : (graph.scenarios.map PrototypeScenario.id).Nodup
  scenarios : ∀ scenario ∈ graph.scenarios, graph.ScenarioHolds scenario
  transitions : ∀ transition ∈ graph.transitions,
    graph.TransitionHolds transition

theorem ruleIssues_iff : graph.ruleIssues = [] ↔ graph.RulesHold := by
  have parents : issuesOfEach graph.nodes (fun index =>
      graph.parentRules [field "nodes", .index index]) = [] ↔
        ∀ node ∈ graph.nodes, ∀ parentId ∈ node.kind.parentId?,
          graph.IsSurfaceId parentId :=
    issuesOfEach_iff fun index node => by
      rw [parentRules]
      cases node.kind.parentId? <;> simp
  simp only [ruleIssues, List.append_eq_nil_iff, issueUnless_eq_nil,
    parents, List.flatMap_eq_nil_iff, Option.mem_toList,
    viewStateRules_iff,
    issuesOfEach_iff fun index => scenarioRules_iff graph _,
    issuesOfEach_iff fun index => transitionRules_iff graph _]
  constructor
  · rintro ⟨⟨⟨⟨⟨⟨⟨⟨⟨⟨fixtures, nodeIds⟩, covers⟩, transitionIds⟩,
      actionPorts⟩, initialNode⟩, parents⟩, routes⟩, scenarioIds⟩,
      scenarios⟩, transitions⟩
    have none : fixtureIssue graph.fixtures = none := by
      cases issue : fixtureIssue graph.fixtures with
      | none => rfl
      | some message =>
          rw [issue] at fixtures
          cases fixtures
    exact ⟨none, nodeIds, covers, transitionIds, actionPorts,
      initialNode, parents, routes, scenarioIds, scenarios, transitions⟩
  · rintro ⟨fixtures, nodeIds, covers, transitionIds, actionPorts,
      initialNode, parents, routes, scenarioIds, scenarios, transitions⟩
    exact ⟨⟨⟨⟨⟨⟨⟨⟨⟨⟨by rw [fixtures], nodeIds⟩, covers⟩, transitionIds⟩,
      actionPorts⟩, initialNode⟩, parents⟩, routes⟩, scenarioIds⟩,
      scenarios⟩, transitions⟩

end PrototypeGraph

/-- A graph whose fields and rules raise no issue. -/
structure Accepted (host : GraphHost) (graph : PrototypeGraph) : Prop where
  fields : FieldsAccepted host graph
  rules : graph.RulesHold

theorem graphIssues_iff (host : GraphHost) (graph : PrototypeGraph) :
    graphIssues host graph = [] ↔ Accepted host graph := by
  rw [graphIssues, List.append_eq_nil_iff, fieldIssues_iff,
    graph.ruleIssues_iff]
  exact ⟨fun ⟨fields, rules⟩ => ⟨fields, rules⟩,
    fun ⟨fields, rules⟩ => ⟨fields, rules⟩⟩

theorem accepted_of_parsePrototypeGraph
    {host : GraphHost}
    {value graph : PrototypeGraph}
    (parsed : parsePrototypeGraph host value = .ok graph) :
    Accepted host graph ∧ graph.clean = graph :=
  ⟨(graphIssues_iff host graph).mp
      (graphIssues_of_parsePrototypeGraph parsed),
    (parsePrototypeGraph_again parsed).1⟩

theorem parsePrototypeGraph_of_accepted
    {host : GraphHost}
    {graph : PrototypeGraph}
    (accepted : Accepted host graph)
    (clean : graph.clean = graph) :
    parsePrototypeGraph host graph = .ok graph := by
  rw [parsePrototypeGraph, clean,
    if_pos ((graphIssues_iff host graph).mpr accepted)]

end Selene.Prototype
