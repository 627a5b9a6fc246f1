import Selene.DoubleRounding
import Selene.PrototypeText
import Selene.Schema

/-!
# Graphs as values

A graph is written as the object that its schema returns, and a value that has
the shape of a graph is read as one.  What is written is read back
(`readGraph_toValue`).
-/

namespace Selene.Prototype

open Js

/-! ## Scalars -/

/-- `number()`; both zeros are one coordinate. -/
def readDouble : Schema Double
  | .number value =>
      match value.finiteValue? with
      | some finite =>
          if double : IsDouble finite then some ⟨finite, double⟩ else none
      | none => none
  | _ => none

/-- `int()`. -/
def readInt : Schema Int
  | .number value => value.safeInteger?
  | _ => none

/-- The tag of a discriminated union. -/
def discriminator (name : String) : Schema JsString
  | .object record => Schema.string (Record.get record (js name))
  | _ => none

theorem readDouble_finite (value : Double) :
    readDouble (.number (.finite value.val)) = some value := by
  simp only [readDouble, JsNumber.finiteValue?, dif_pos value.property]

theorem array_map
    {α : Type}
    {read : Schema α}
    {write : α → JsValue}
    {items : List α}
    (each : ∀ item ∈ items, read (write item) = some item) :
    Schema.array read (.array (items.map write)) = some items := by
  induction items with
  | nil => rfl
  | cons item rest inductionHypothesis =>
      have later := inductionHypothesis fun other member =>
        each other (List.mem_cons_of_mem _ member)
      rw [Schema.array] at later ⊢
      rw [List.map_cons, List.mapM_cons, each item List.mem_cons_self, later]
      rfl

theorem array_strings (texts : List JsString) :
    Schema.array Schema.string (.array (texts.map JsValue.string)) =
      some texts :=
  array_map fun _ _ => rfl

/-! ## Nodes -/

def Point.toValue (point : Point) : JsValue :=
  .object [
    (js "x", .number (.finite point.x.val)),
    (js "y", .number (.finite point.y.val))]

def readPoint : Schema Point :=
  .strictObject ["x", "y"] fun record => do
    let x ← readDouble (record.get (js "x"))
    let y ← readDouble (record.get (js "y"))
    some ⟨x, y⟩

theorem readPoint_toValue (point : Point) :
    readPoint point.toValue = some point := by
  simp [readPoint, Point.toValue, Schema.strictObject, Codec.strictObject,
    readDouble_finite]

/-- The members of `zEnum(['click', 'submit', 'change', 'key'])`. -/
def readSimpleTrigger (text : JsString) : Option PrototypeTrigger :=
  if text = js "click" then some .click
  else if text = js "submit" then some .submit
  else if text = js "change" then some .change
  else if text = js "key" then some .key
  else none

def PrototypeTrigger.entries : PrototypeTrigger → Record
  | .click => [(js "trigger", .string (js "click"))]
  | .submit => [(js "trigger", .string (js "submit"))]
  | .change => [(js "trigger", .string (js "change"))]
  | .key => [(js "trigger", .string (js "key"))]
  | .timeout timeoutMs => [
      (js "trigger", .string (js "timeout")),
      (js "timeoutMs", .number (.finite timeoutMs))]

def PrototypeActionPort.toValue (port : PrototypeActionPort) : JsValue :=
  .object ([
    (js "id", .string port.id),
    (js "label", .string port.label)] ++ port.trigger.entries)

/-- `prototypeActionPortSchema`, without its checks. -/
def readPort : Schema PrototypeActionPort := fun value => do
  let trigger ← discriminator "trigger" value
  if trigger = js "timeout" then
    let record ←
      Codec.strictObject value ["id", "label", "trigger", "timeoutMs"]
    let id ← Schema.string (record.get (js "id"))
    let label ← Schema.string (record.get (js "label"))
    let timeoutMs ← readInt (record.get (js "timeoutMs"))
    some ⟨id, label, .timeout timeoutMs⟩
  else
    let record ← Codec.strictObject value ["id", "label", "trigger"]
    let id ← Schema.string (record.get (js "id"))
    let label ← Schema.string (record.get (js "label"))
    let trigger ← readSimpleTrigger trigger
    some ⟨id, label, trigger⟩

theorem readInt_timeout
    {timeoutMs : Int}
    (accepted : triggerSchema (.timeout timeoutMs) = true) :
    readInt (.number (.finite timeoutMs)) = some timeoutMs := by
  simp only [triggerSchema, decide_eq_true_eq] at accepted
  have safe : timeoutMs.natAbs ≤ JsNumber.maxSafeInteger := by
    unfold JsNumber.maxSafeInteger
    omega
  simp [readInt, JsNumber.safeInteger?, safe]

theorem readPort_toValue
    {port : PrototypeActionPort}
    (accepted : triggerSchema port.trigger = true) :
    readPort port.toValue = some port := by
  obtain ⟨id, label, trigger⟩ := port
  cases trigger with
  | timeout timeoutMs =>
      simp [readPort, PrototypeActionPort.toValue, PrototypeTrigger.entries,
        discriminator, Schema.string, Codec.strictObject,
        readInt_timeout accepted]
  | _ =>
      simp [readPort, PrototypeActionPort.toValue, PrototypeTrigger.entries,
        discriminator, Schema.string, Codec.strictObject, readSimpleTrigger]

def NodeKind.entries : NodeKind → Record
  | .screen route => [
      (js "kind", .string (js "screen")), (js "route", .string route)]
  | .page route => [
      (js "kind", .string (js "page")), (js "route", .string route)]
  | .state parentId => [
      (js "kind", .string (js "state")), (js "parentId", .string parentId)]
  | .overlay dismissible => [
      (js "kind", .string (js "overlay")),
      (js "dismissible", .bool dismissible)]

def PrototypeNode.toValue (node : PrototypeNode) : JsValue :=
  .object ([
    (js "id", .string node.id),
    (js "label", .string node.label),
    (js "position", node.position.toValue),
    (js "ports", .array (node.ports.map PrototypeActionPort.toValue))] ++
      node.kind.entries)

/-- A member of `prototypeNodeSchema` with a field of its own. -/
def readNodeWith {α : Type}
    (own : String)
    (readOwn : Schema α)
    (kind : α → NodeKind) :
    Schema PrototypeNode :=
  .strictObject ["id", "label", "position", "ports", "kind", own]
    fun record => do
      let id ← Schema.string (record.get (js "id"))
      let label ← Schema.string (record.get (js "label"))
      let position ← readPoint (record.get (js "position"))
      let ports ← Schema.array readPort (record.get (js "ports"))
      let field ← readOwn (record.get (js own))
      some ⟨id, label, position, ports, kind field⟩

/-- `prototypeNodeSchema`, without its checks. -/
def readNode : Schema PrototypeNode := fun value => do
  let kind ← discriminator "kind" value
  if kind = js "screen" then
    readNodeWith "route" .string .screen value
  else if kind = js "page" then
    readNodeWith "route" .string .page value
  else if kind = js "state" then
    readNodeWith "parentId" .string .state value
  else if kind = js "overlay" then
    readNodeWith "dismissible" .boolean .overlay value
  else
    none

theorem readNode_toValue
    {node : PrototypeNode}
    (accepted : ∀ port ∈ node.ports, triggerSchema port.trigger = true) :
    readNode node.toValue = some node := by
  have ports : Schema.array readPort
      (.array (node.ports.map PrototypeActionPort.toValue)) =
        some node.ports :=
    array_map fun port member => readPort_toValue (accepted port member)
  obtain ⟨id, label, position, ports_, kind⟩ := node
  cases kind with
  | _ =>
      simp [readNode, readNodeWith, PrototypeNode.toValue, NodeKind.entries,
        discriminator, Schema.string, Schema.boolean, Schema.strictObject,
        Codec.strictObject, readPoint_toValue, ports]

/-! ## Transitions -/

/-- `from` -/
def ActionSource.toValue (source : ActionSource) : JsValue :=
  .object [
    (js "nodeId", .string source.nodeId),
    (js "portId", .string source.portId)]

def readSource : Schema ActionSource :=
  .strictObject ["nodeId", "portId"] fun record => do
    let nodeId ← Schema.string (record.get (js "nodeId"))
    let portId ← Schema.string (record.get (js "portId"))
    some ⟨nodeId, portId⟩

/-- The literal of a kind of transition. -/
def TransitionKind.tag : TransitionKind → String
  | .navigate _ => "navigate"
  | .back => "back"
  | .setState _ => "set-state"
  | .openOverlay _ => "open-overlay"
  | .closeOverlay _ => "close-overlay"
  | .resetFlow => "reset-flow"

/-- `to` -/
def targetEntries (kind : TransitionKind) : Record :=
  Record.optionalEntry (js "to") (kind.target?.map fun target =>
    .object [(js "nodeId", .string target)])

def PrototypeTransition.toValue (transition : PrototypeTransition) :
    JsValue :=
  .object ([
    (js "id", .string transition.id),
    (js "kind", .string (js transition.kind.tag)),
    (js "from", transition.origin.toValue)] ++
      targetEntries transition.kind)

def readTarget : Schema JsString :=
  .strictObject ["nodeId"] fun record =>
    Schema.string (record.get (js "nodeId"))

/-- A transition that leads to a node. -/
def readTransitionTo (kind : JsString → TransitionKind) :
    Schema PrototypeTransition :=
  .strictObject ["id", "kind", "from", "to"] fun record => do
    let id ← Schema.string (record.get (js "id"))
    let origin ← readSource (record.get (js "from"))
    let target ← readTarget (record.get (js "to"))
    some ⟨id, origin, kind target⟩

/-- A transition without a target. -/
def readTransitionAlone (kind : TransitionKind) :
    Schema PrototypeTransition :=
  .strictObject ["id", "kind", "from"] fun record => do
    let id ← Schema.string (record.get (js "id"))
    let origin ← readSource (record.get (js "from"))
    some ⟨id, origin, kind⟩

/-- `prototypeTransitionSchema`, without its checks. -/
def readTransition : Schema PrototypeTransition := fun value => do
  let kind ← discriminator "kind" value
  if kind = js "navigate" then readTransitionTo .navigate value
  else if kind = js "back" then readTransitionAlone .back value
  else if kind = js "set-state" then readTransitionTo .setState value
  else if kind = js "open-overlay" then readTransitionTo .openOverlay value
  else if kind = js "close-overlay" then readTransitionTo .closeOverlay value
  else if kind = js "reset-flow" then readTransitionAlone .resetFlow value
  else none

theorem readTransition_toValue (transition : PrototypeTransition) :
    readTransition transition.toValue = some transition := by
  obtain ⟨id, origin, kind⟩ := transition
  cases kind with
  | _ =>
      simp [readTransition, readTransitionTo, readTransitionAlone,
        PrototypeTransition.toValue, ActionSource.toValue, targetEntries,
        TransitionKind.tag, TransitionKind.target?, Record.optionalEntry,
        discriminator, Schema.string, Schema.strictObject,
        Codec.strictObject, readSource, readTarget]

/-! ## Graphs -/

/-- `prototypeGraphFormat`. -/
def prototypeGraphFormat : String := "selene-prototype-graph/v1"

/-- `prototypeGraphViewStateFormat`. -/
def prototypeGraphViewStateFormat : String :=
  "selene-prototype-graph-view-state/v1"

def PrototypeProject.toValue (project : PrototypeProject) : JsValue :=
  .object [
    (js "projectId", .string project.projectId),
    (js "owner", .string project.owner)]

def readProject : Schema PrototypeProject :=
  .strictObject ["projectId", "owner"] fun record => do
    let projectId ← Schema.string (record.get (js "projectId"))
    let owner ← Schema.string (record.get (js "owner"))
    some ⟨projectId, owner⟩

def PrototypeRevision.toValue (revision : PrototypeRevision) : JsValue :=
  .object ([(js "id", .string revision.id)] ++
    (Record.optionalEntry (js "parentId")
      (revision.parentId.map JsValue.string) ++ [
    (js "createdAt", .string revision.createdAt),
    (js "summary", .string revision.summary)]))

def readRevision : Schema PrototypeRevision :=
  .strictObject ["id", "parentId", "createdAt", "summary"] fun record => do
    let id ← Schema.string (record.get (js "id"))
    let parentId ←
      Schema.optional Schema.string (record.get (js "parentId"))
    let createdAt ← Schema.string (record.get (js "createdAt"))
    let summary ← Schema.string (record.get (js "summary"))
    some ⟨id, parentId, createdAt, summary⟩

def HandoffStatus.text : HandoffStatus → JsString
  | .draft => js "draft"
  | .ready => js "ready"

def readStatus : Schema HandoffStatus
  | .string text =>
      if text = js "draft" then some .draft
      else if text = js "ready" then some .ready
      else none
  | _ => none

def PrototypeHandoff.toValue (handoff : PrototypeHandoff) : JsValue :=
  .object [
    (js "status", .string handoff.status.text),
    (js "owner", .string handoff.owner),
    (js "summary", .string handoff.summary)]

def readHandoff : Schema PrototypeHandoff :=
  .strictObject ["status", "owner", "summary"] fun record => do
    let status ← readStatus (record.get (js "status"))
    let owner ← Schema.string (record.get (js "owner"))
    let summary ← Schema.string (record.get (js "summary"))
    some ⟨status, owner, summary⟩

def PrototypeScenario.toValue (scenario : PrototypeScenario) : JsValue :=
  .object ([
    (js "id", .string scenario.id),
    (js "name", .string scenario.name),
    (js "startNodeId", .string scenario.startNodeId)] ++
      (Record.optionalEntry (js "initialStateId")
        (scenario.initialStateId.map JsValue.string) ++ [
    (js "expectedPath",
      .array (scenario.expectedPath.map JsValue.string))]))

def readScenario : Schema PrototypeScenario :=
  .strictObject
    ["id", "name", "startNodeId", "initialStateId", "expectedPath"]
    fun record => do
      let id ← Schema.string (record.get (js "id"))
      let name ← Schema.string (record.get (js "name"))
      let startNodeId ← Schema.string (record.get (js "startNodeId"))
      let initialStateId ←
        Schema.optional Schema.string (record.get (js "initialStateId"))
      let expectedPath ←
        Schema.array Schema.string (record.get (js "expectedPath"))
      some ⟨id, name, startNodeId, initialStateId, expectedPath⟩

def PrototypeGraphViewState.toValue (viewState : PrototypeGraphViewState) :
    JsValue :=
  .object [
    (js "format", .string (js prototypeGraphViewStateFormat)),
    (js "compactNodePositions", .object
      (viewState.compactNodePositions.map fun entry =>
        (entry.1, entry.2.toValue)))]

/-- `record(idSchema, pointSchema)`, without its checks. -/
def readPositions : Schema (List (JsString × Point))
  | .object entries =>
      (entries.filter fun entry => entry.1 ≠ protoKey).mapM fun entry =>
        (readPoint entry.2).map fun point => (entry.1, point)
  | _ => none

def readViewState : Schema PrototypeGraphViewState :=
  .strictObject ["format", "compactNodePositions"] fun record => do
    Schema.literal prototypeGraphViewStateFormat (record.get (js "format"))
    let positions ← readPositions (record.get (js "compactNodePositions"))
    some ⟨positions⟩

/-- `record(fixtureKeySchema, unknown())`, without its checks. -/
def readFixtures : Schema Record
  | .object entries => some entries
  | _ => none

def PrototypeGraph.toValue (graph : PrototypeGraph) : JsValue :=
  .object ([
    (js "format", .string (js prototypeGraphFormat)),
    (js "id", .string graph.id),
    (js "name", .string graph.name),
    (js "project", graph.project.toValue),
    (js "revision", graph.revision.toValue),
    (js "handoff", graph.handoff.toValue),
    (js "initialNodeId", .string graph.initialNodeId),
    (js "nodes", .array (graph.nodes.map PrototypeNode.toValue)),
    (js "transitions",
      .array (graph.transitions.map PrototypeTransition.toValue)),
    (js "scenarios", .array (graph.scenarios.map PrototypeScenario.toValue)),
    (js "fixtures", .object graph.fixtures)] ++
      Record.optionalEntry (js "viewState")
        (graph.viewState.map PrototypeGraphViewState.toValue))

/-- `prototypeGraphSchema`, without its checks. -/
def readGraph : Schema PrototypeGraph :=
  .strictObject
    ["format", "id", "name", "project", "revision", "handoff",
      "initialNodeId", "nodes", "transitions", "scenarios", "fixtures",
      "viewState"]
    fun record => do
      Schema.literal prototypeGraphFormat (record.get (js "format"))
      let id ← Schema.string (record.get (js "id"))
      let name ← Schema.string (record.get (js "name"))
      let project ← readProject (record.get (js "project"))
      let revision ← readRevision (record.get (js "revision"))
      let handoff ← readHandoff (record.get (js "handoff"))
      let initialNodeId ← Schema.string (record.get (js "initialNodeId"))
      let nodes ← Schema.array readNode (record.get (js "nodes"))
      let transitions ←
        Schema.array readTransition (record.get (js "transitions"))
      let scenarios ←
        Schema.array readScenario (record.get (js "scenarios"))
      let fixtures ← readFixtures (record.get (js "fixtures"))
      let viewState ←
        Schema.optional readViewState (record.get (js "viewState"))
      some ⟨id, name, project, revision, handoff, initialNodeId, nodes,
        transitions, scenarios, fixtures, viewState⟩

theorem readProject_toValue (project : PrototypeProject) :
    readProject project.toValue = some project := by
  simp [readProject, PrototypeProject.toValue, Schema.strictObject,
    Codec.strictObject, Schema.string]

theorem readRevision_toValue (revision : PrototypeRevision) :
    readRevision revision.toValue = some revision := by
  obtain ⟨id, parentId, createdAt, summary⟩ := revision
  cases parentId with
  | none =>
      simp [readRevision, PrototypeRevision.toValue, Schema.strictObject,
        Codec.strictObject, Schema.string, Schema.optional,
        Record.optionalEntry]
  | some id =>
      simp [readRevision, PrototypeRevision.toValue, Schema.strictObject,
        Codec.strictObject, Schema.string, Schema.optional,
        Record.optionalEntry]

theorem readHandoff_toValue (handoff : PrototypeHandoff) :
    readHandoff handoff.toValue = some handoff := by
  obtain ⟨status, owner, summary⟩ := handoff
  cases status with
  | _ =>
      simp [readHandoff, PrototypeHandoff.toValue, HandoffStatus.text,
        readStatus, Schema.strictObject, Codec.strictObject, Schema.string]

theorem readScenario_toValue (scenario : PrototypeScenario) :
    readScenario scenario.toValue = some scenario := by
  obtain ⟨id, name, startNodeId, initialStateId, expectedPath⟩ := scenario
  cases initialStateId with
  | none =>
      simp [readScenario, PrototypeScenario.toValue, Schema.strictObject,
        Codec.strictObject, Schema.string, Schema.optional,
        Record.optionalEntry, array_strings]
  | some id =>
      simp [readScenario, PrototypeScenario.toValue, Schema.strictObject,
        Codec.strictObject, Schema.string, Schema.optional,
        Record.optionalEntry, array_strings]

theorem mapM_positions (positions : List (JsString × Point)) :
    (positions.map fun entry => (entry.1, entry.2.toValue)).mapM
        (fun entry => (readPoint entry.2).map fun point =>
          (entry.1, point)) = some positions := by
  induction positions with
  | nil => rfl
  | cons entry rest inductionHypothesis =>
      rw [List.map_cons, List.mapM_cons, inductionHypothesis,
        readPoint_toValue]
      rfl

theorem readViewState_toValue
    {viewState : PrototypeGraphViewState}
    (clean : PrototypeGraph.cleanViewState viewState = viewState) :
    readViewState viewState.toValue = some viewState := by
  obtain ⟨positions⟩ := viewState
  have kept : ∀ entry ∈ positions, entry.1 ≠ protoKey := by
    have same := congrArg PrototypeGraphViewState.compactNodePositions clean
    intro entry member
    have passed := List.filter_eq_self.mp same entry member
    simpa using passed
  have written : readPositions (.object (positions.map fun entry =>
      (entry.1, entry.2.toValue))) = some positions := by
    have all : ((positions.map fun entry =>
        (entry.1, entry.2.toValue)).filter fun entry =>
          entry.1 ≠ protoKey) =
        positions.map fun entry => (entry.1, entry.2.toValue) := by
      rw [List.filter_eq_self]
      intro entry member
      obtain ⟨own, isOwn, rfl⟩ := List.mem_map.mp member
      simpa using kept own isOwn
    rw [readPositions, all, mapM_positions]
  simp [readViewState, PrototypeGraphViewState.toValue, Schema.strictObject,
    Codec.strictObject, Schema.literal, written]

theorem readGraph_toValue
    {graph : PrototypeGraph}
    (clean : graph.clean = graph)
    (triggers : ∀ node ∈ graph.nodes, ∀ port ∈ node.ports,
      triggerSchema port.trigger = true) :
    readGraph graph.toValue = some graph := by
  have nodes : Schema.array readNode
      (.array (graph.nodes.map PrototypeNode.toValue)) = some graph.nodes :=
    array_map fun node member => readNode_toValue (triggers node member)
  have transitions : Schema.array readTransition
      (.array (graph.transitions.map PrototypeTransition.toValue)) =
        some graph.transitions :=
    array_map fun transition _ => readTransition_toValue transition
  have scenarios : Schema.array readScenario
      (.array (graph.scenarios.map PrototypeScenario.toValue)) =
        some graph.scenarios :=
    array_map fun scenario _ => readScenario_toValue scenario
  have cleanViewState :
      graph.viewState.map PrototypeGraph.cleanViewState = graph.viewState :=
    congrArg PrototypeGraph.viewState clean
  obtain ⟨id, name, project, revision, handoff, initialNodeId, nodes_,
    transitions_, scenarios_, fixtures, viewState⟩ := graph
  cases viewState with
  | none =>
      simp [readGraph, PrototypeGraph.toValue, Schema.strictObject,
        Codec.strictObject, Schema.literal, Schema.string, Schema.optional,
        Record.optionalEntry, readProject_toValue, readRevision_toValue,
        readHandoff_toValue, nodes, transitions, scenarios, readFixtures]
  | some viewState =>
      have read := readViewState_toValue (Option.some.inj cleanViewState)
      have present : Schema.optional readViewState viewState.toValue =
          some (some viewState) := by
        rw [PrototypeGraphViewState.toValue] at read ⊢
        rw [Schema.optional, read]
        · rfl
        · simp
      simp [readGraph, PrototypeGraph.toValue, Schema.strictObject,
        Codec.strictObject, Schema.literal, Schema.string,
        Record.optionalEntry, readProject_toValue, readRevision_toValue,
        readHandoff_toValue, nodes, transitions, scenarios, readFixtures,
        present]

end Selene.Prototype
