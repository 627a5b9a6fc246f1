import Selene.BoundedLoop
import Selene.JsDouble
import Selene.Rejection

/-!
# Prototype graphs

The portable prototype graph: nodes with action ports, transitions between
them, scenarios and fixtures, and `parsePrototypeGraph`, which trims the labels
of a graph and rejects it when a field or one of the rules that tie its parts
together fails.
-/

namespace Selene.Prototype

open Js

/-! ## Data model -/

structure Point where
  x : Double
  y : Double
  deriving DecidableEq

/-- A trigger; timeouts carry `timeoutMs`. -/
inductive PrototypeTrigger where
  | click
  | submit
  | change
  | key
  | timeout (timeoutMs : Int)
  deriving DecidableEq

structure PrototypeActionPort where
  id : JsString
  label : JsString
  trigger : PrototypeTrigger
  deriving DecidableEq

/-- The kinds of nodes with the fields of their own. -/
inductive NodeKind where
  | screen (route : JsString)
  | page (route : JsString)
  | state (parentId : JsString)
  | overlay (dismissible : Bool)
  deriving DecidableEq

structure PrototypeNode where
  id : JsString
  label : JsString
  position : Point
  ports : List PrototypeActionPort
  kind : NodeKind
  deriving DecidableEq

/-- The action port that a transition is wired to. -/
structure ActionSource where
  nodeId : JsString
  portId : JsString
  deriving DecidableEq

/-- The kinds of transitions; some have a target node. -/
inductive TransitionKind where
  | navigate (target : JsString)
  | back
  | setState (target : JsString)
  | openOverlay (target : JsString)
  | closeOverlay (target : JsString)
  | resetFlow
  deriving DecidableEq

structure PrototypeTransition where
  id : JsString
  origin : ActionSource
  kind : TransitionKind
  deriving DecidableEq

structure PrototypeProject where
  projectId : JsString
  owner : JsString
  deriving DecidableEq

structure PrototypeRevision where
  id : JsString
  parentId : Option JsString
  createdAt : JsString
  summary : JsString
  deriving DecidableEq

inductive HandoffStatus where
  | draft
  | ready
  deriving DecidableEq

structure PrototypeHandoff where
  status : HandoffStatus
  owner : JsString
  summary : JsString
  deriving DecidableEq

structure PrototypeScenario where
  id : JsString
  name : JsString
  startNodeId : JsString
  initialStateId : Option JsString
  expectedPath : List JsString
  deriving DecidableEq

/-- Editor-only positions by node id. -/
structure PrototypeGraphViewState where
  compactNodePositions : List (JsString × Point)
  deriving DecidableEq

structure PrototypeGraph where
  id : JsString
  name : JsString
  project : PrototypeProject
  revision : PrototypeRevision
  handoff : PrototypeHandoff
  initialNodeId : JsString
  nodes : List PrototypeNode
  transitions : List PrototypeTransition
  scenarios : List PrototypeScenario
  fixtures : Record
  viewState : Option PrototypeGraphViewState

/-- Screens and pages have a route. -/
def NodeKind.route? : NodeKind → Option JsString
  | .screen route => some route
  | .page route => some route
  | .state _ => none
  | .overlay _ => none

/-- The parent of a state. -/
def NodeKind.parentId? : NodeKind → Option JsString
  | .state parentId => some parentId
  | _ => none

/-- Whether a node is a screen or a page. -/
def PrototypeNode.isSurface (node : PrototypeNode) : Bool :=
  node.kind.route?.isSome

/-- Whether a node is an overlay. -/
def PrototypeNode.isOverlay (node : PrototypeNode) : Bool :=
  match node.kind with
  | .overlay _ => true
  | _ => false

/-- `'to' in transition`: the target of a transition that has one. -/
def TransitionKind.target? : TransitionKind → Option JsString
  | .navigate target => some target
  | .setState target => some target
  | .openOverlay target => some target
  | .closeOverlay target => some target
  | .back => none
  | .resetFlow => none

/-! ## Issues -/

inductive PathPart where
  | name (text : JsString)
  | index (place : Nat)
  deriving DecidableEq

/--
An issue of a graph.  The rules of the graph have messages of their own; what
the schema library says about a field on its own is left to it.
-/
structure GraphIssue where
  path : List PathPart
  message : Option JsString
  deriving DecidableEq

/-- The path that names a field. -/
def field (name : String) : PathPart :=
  .name (js name)

/-- A field that its own schema does not accept. -/
def fieldIssue (accepts : Bool) (path : List PathPart) : List GraphIssue :=
  if accepts then [] else [⟨path, none⟩]

/-- `context.addIssue` unless a rule holds. -/
def issueUnless
    (holds : Prop)
    [Decidable holds]
    (message : String)
    (path : List PathPart) :
    List GraphIssue :=
  if holds then [] else [⟨path, some (js message)⟩]

/-- The issues of every element of an array. -/
def issuesOfEach {α : Type}
    (items : List α)
    (issues : Nat → α → List GraphIssue) :
    List GraphIssue :=
  items.zipIdx.flatMap fun item => issues item.2 item.1

@[simp] theorem fieldIssue_eq_nil
    {accepts : Bool}
    {path : List PathPart} :
    fieldIssue accepts path = [] ↔ accepts = true := by
  unfold fieldIssue
  split <;> simp_all

@[simp] theorem issueUnless_eq_nil
    {holds : Prop}
    {decision : Decidable holds}
    {message : String}
    {path : List PathPart} :
    issueUnless holds message path = [] ↔ holds := by
  unfold issueUnless
  split <;> simp_all

theorem issuesOfEach_eq_nil
    {α : Type}
    {items : List α}
    {issues : Nat → α → List GraphIssue} :
    issuesOfEach items issues = [] ↔
      ∀ index item, items[index]? = some item → issues index item = [] := by
  simp only [issuesOfEach, List.flatMap_eq_nil_iff, Prod.forall,
    List.mem_zipIdx_iff_getElem?]
  exact ⟨fun none index item found => none item index found,
    fun none item index found => none index item found⟩

theorem issuesOfEach_mem
    {α : Type}
    {items : List α}
    {issues : Nat → α → List GraphIssue}
    (none : issuesOfEach items issues = [])
    {item : α}
    (member : item ∈ items) :
    ∃ index, issues index item = [] := by
  obtain ⟨index, found⟩ := List.mem_iff_getElem?.mp member
  exact ⟨index, issuesOfEach_eq_nil.mp none index item found⟩

/-! ## Schemas of the fields -/

/-- A letter. -/
def isLetter (unit : CodeUnit) : Bool :=
  decide ((65 ≤ unit.val ∧ unit.val ≤ 90) ∨ (97 ≤ unit.val ∧ unit.val ≤ 122))

/-- `[A-Za-z0-9._:-]`. -/
def isIdUnit (unit : CodeUnit) : Bool :=
  isLetter unit || decide (48 ≤ unit.val ∧ unit.val ≤ 58) ||
    (js "._-").contains unit

/-- `idSchema`. -/
def idSchema : JsString → Bool
  | [] => false
  | first :: rest =>
      isLetter first && decide (rest.length ≤ 127) && rest.all isIdUnit

/-- `labelSchema`, once the label is trimmed. -/
def labelSchema (label : JsString) : Bool :=
  decide (1 ≤ label.length ∧ label.length ≤ 160)

/-- What the host says about texts: the origin of a URL, and zod's dates. -/
structure GraphHost where
  urlOrigin : JsString → Option JsString
  isoDatetime : JsString → Bool

def containsAsciiControl (value : JsString) : Bool :=
  value.any fun unit => decide (unit.val ≤ 0x1F ∨ unit.val = 0x7F)

/-- The refinement of `routeSchema`. -/
def isInternalRoute (host : GraphHost) (value : JsString) : Bool :=
  decide (js "/" <+: value) && !decide (js "//" <+: value) &&
    !value.contains 0x5C && !containsAsciiControl value &&
    decide (host.urlOrigin value = some (js "https://selene.invalid"))

/-- `pointSchema`. -/
def pointSchema (point : Point) : Bool :=
  decide ((-100000 ≤ point.x.val ∧ point.x.val ≤ 100000) ∧
    (-100000 ≤ point.y.val ∧ point.y.val ≤ 100000))

/-- The schema of a trigger. -/
def triggerSchema : PrototypeTrigger → Bool
  | .timeout timeoutMs => decide (10 ≤ timeoutMs ∧ timeoutMs ≤ 300000)
  | _ => true

/-- Issues of `prototypeActionPortSchema`. -/
def portIssues (path : List PathPart) (port : PrototypeActionPort) :
    List GraphIssue :=
  fieldIssue (idSchema port.id) (path ++ [field "id"]) ++
    fieldIssue (labelSchema port.label) (path ++ [field "label"]) ++
    fieldIssue (triggerSchema port.trigger) (path ++ [field "timeoutMs"])

/-- Issues of the fields that the kind of a node adds. -/
def kindIssues (host : GraphHost) (path : List PathPart) (kind : NodeKind) :
    List GraphIssue :=
  (match kind.route? with
    | some route =>
        fieldIssue (decide (1 ≤ route.length ∧ route.length ≤ 240))
          (path ++ [field "route"]) ++
        issueUnless (isInternalRoute host route)
          "route must be an internal absolute path" (path ++ [field "route"])
    | none => []) ++
    match kind.parentId? with
    | some parentId =>
        fieldIssue (idSchema parentId) (path ++ [field "parentId"])
    | none => []

/-- Issues of `prototypeNodeSchema`. -/
def nodeIssues (host : GraphHost) (path : List PathPart)
    (node : PrototypeNode) :
    List GraphIssue :=
  fieldIssue (idSchema node.id) (path ++ [field "id"]) ++
    fieldIssue (labelSchema node.label) (path ++ [field "label"]) ++
    fieldIssue (pointSchema node.position) (path ++ [field "position"]) ++
    fieldIssue (decide (node.ports.length ≤ 32)) (path ++ [field "ports"]) ++
    issuesOfEach node.ports
      (fun index => portIssues (path ++ [field "ports", .index index])) ++
    kindIssues host path node.kind ++
    issueUnless (node.ports.map PrototypeActionPort.id).Nodup
      "action port IDs must be unique" path

/-- Issues of `prototypeTransitionSchema`. -/
def transitionIssues (path : List PathPart)
    (transition : PrototypeTransition) :
    List GraphIssue :=
  fieldIssue (idSchema transition.id) (path ++ [field "id"]) ++
    fieldIssue (idSchema transition.origin.nodeId)
      (path ++ [field "from", field "nodeId"]) ++
    fieldIssue (idSchema transition.origin.portId)
      (path ++ [field "from", field "portId"]) ++
    fieldIssue (transition.kind.target?.all idSchema)
      (path ++ [field "to", field "nodeId"])

/-- Issues of `prototypeScenarioSchema`. -/
def scenarioIssues (path : List PathPart) (scenario : PrototypeScenario) :
    List GraphIssue :=
  fieldIssue (idSchema scenario.id) (path ++ [field "id"]) ++
    fieldIssue (labelSchema scenario.name) (path ++ [field "name"]) ++
    fieldIssue (idSchema scenario.startNodeId)
      (path ++ [field "startNodeId"]) ++
    fieldIssue (scenario.initialStateId.all idSchema)
      (path ++ [field "initialStateId"]) ++
    fieldIssue (decide (1 ≤ scenario.expectedPath.length ∧
        scenario.expectedPath.length ≤ 500))
      (path ++ [field "expectedPath"]) ++
    issuesOfEach scenario.expectedPath fun index id =>
      fieldIssue (idSchema id) (path ++ [field "expectedPath", .index index])

/-- `fixtureKeySchema`. -/
def fixtureKeySchema (key : JsString) : Bool :=
  decide (1 ≤ key.length ∧ key.length ≤ 128)

/-- Issues of the fields of `prototypeGraphSchema`. -/
def fieldIssues (host : GraphHost) (graph : PrototypeGraph) :
    List GraphIssue :=
  fieldIssue (idSchema graph.id) [field "id"] ++
    fieldIssue (labelSchema graph.name) [field "name"] ++
    fieldIssue (idSchema graph.project.projectId)
      [field "project", field "projectId"] ++
    fieldIssue (labelSchema graph.project.owner)
      [field "project", field "owner"] ++
    fieldIssue (idSchema graph.revision.id) [field "revision", field "id"] ++
    fieldIssue (graph.revision.parentId.all idSchema)
      [field "revision", field "parentId"] ++
    fieldIssue (host.isoDatetime graph.revision.createdAt)
      [field "revision", field "createdAt"] ++
    fieldIssue (labelSchema graph.revision.summary)
      [field "revision", field "summary"] ++
    fieldIssue (labelSchema graph.handoff.owner)
      [field "handoff", field "owner"] ++
    fieldIssue (labelSchema graph.handoff.summary)
      [field "handoff", field "summary"] ++
    fieldIssue (idSchema graph.initialNodeId) [field "initialNodeId"] ++
    fieldIssue (decide (1 ≤ graph.nodes.length ∧ graph.nodes.length ≤ 500))
      [field "nodes"] ++
    issuesOfEach graph.nodes
      (fun index => nodeIssues host [field "nodes", .index index]) ++
    fieldIssue (decide (graph.transitions.length ≤ 2000))
      [field "transitions"] ++
    issuesOfEach graph.transitions
      (fun index => transitionIssues [field "transitions", .index index]) ++
    fieldIssue
      (decide (1 ≤ graph.scenarios.length ∧ graph.scenarios.length ≤ 200))
      [field "scenarios"] ++
    issuesOfEach graph.scenarios
      (fun index => scenarioIssues [field "scenarios", .index index]) ++
    (graph.fixtures.flatMap fun entry =>
      fieldIssue (fixtureKeySchema entry.1)
        [field "fixtures", .name entry.1]) ++
    graph.viewState.toList.flatMap fun viewState =>
      viewState.compactNodePositions.flatMap fun entry =>
        fieldIssue (idSchema entry.1 && pointSchema entry.2)
          [field "viewState", field "compactNodePositions", .name entry.1]

/-! ## Fixtures -/

/-- `maxFixtureDepth`. -/
def maxFixtureDepth : Nat := 16

/-- `maxFixtureKeys`. -/
def maxFixtureKeys : Nat := 5000

/-- `maxFixtureBytes`. -/
def maxFixtureBytes : Nat := 256000

/-- The values still to be looked at, with their depths, and the counts. -/
structure FixtureScan where
  stack : List (JsValue × Nat)
  keyCount : Nat
  estimatedBytes : Nat

/-- The entries of an object: their keys are charged before any value. -/
def scanEntries (depth : Nat) :
    Record → FixtureScan → Except String FixtureScan
  | [], scan => .ok scan
  | (key, child) :: rest, scan =>
      let estimatedBytes := scan.estimatedBytes + utf8Length key
      if fixtureKeySchema key = false then
        .error "fixtures contain an invalid key"
      else if maxFixtureBytes < estimatedBytes then
        .error "fixtures exceed maximum serialized size"
      else
        scanEntries depth rest
          ⟨(child, depth) :: scan.stack, scan.keyCount, estimatedBytes⟩

/-- What the scan does with one value; the stack no longer holds it. -/
def scanValue (depth : Nat) (scan : FixtureScan) :
    JsValue → Except String FixtureScan
  | .null => .ok { scan with estimatedBytes := scan.estimatedBytes + 5 }
  | .bool _ => .ok { scan with estimatedBytes := scan.estimatedBytes + 5 }
  | .number value =>
      if value.isFinite then
        .ok { scan with estimatedBytes := scan.estimatedBytes + 24 }
      else
        .error "fixtures contain a non-finite number"
  | .string value =>
      if 10000 < utf8Length value then
        .error "fixtures contain an oversized string"
      else
        .ok { scan with
          estimatedBytes := scan.estimatedBytes + utf8Length value }
  | .array items =>
      if 1000 < items.length then
        .error "fixtures contain an oversized array"
      else
        .ok { scan with
          stack := (items.map fun item => (item, depth + 1)).reverse ++
            scan.stack }
  | .object entries =>
      if maxFixtureKeys < scan.keyCount + entries.length then
        .error "fixtures contain too many keys"
      else
        scanEntries (depth + 1) entries
          { scan with keyCount := scan.keyCount + entries.length }
  | .undefined => .error "fixtures contain an unsupported value"
  | .exotic => .error "fixtures contain an unsupported value"

/-- One turn of the loop of `fixtureIssue`. -/
def fixtureTurn (scan : FixtureScan) : FixtureScan ⊕ Option String :=
  match scan.stack with
  | [] =>
      .inr (if maxFixtureBytes < scan.estimatedBytes then
        some "fixtures exceed maximum serialized size"
      else
        none)
  | (value, depth) :: rest =>
      if maxFixtureDepth < depth then
        .inr (some "fixtures exceed maximum nesting depth")
      else
        match scanValue depth { scan with stack := rest } value with
        | .ok next => .inl next
        | .error message => .inr (some message)

mutual

/-- How many values a value is made of. -/
def valueWeight : JsValue → Nat
  | .array items => 1 + itemsWeight items
  | .object entries => 1 + entriesWeight entries
  | _ => 1

/-- How many values the items of an array are made of. -/
def itemsWeight : List JsValue → Nat
  | [] => 0
  | item :: rest => valueWeight item + itemsWeight rest

/-- How many values the entries of an object are made of. -/
def entriesWeight : Record → Nat
  | [] => 0
  | (_, child) :: rest => valueWeight child + entriesWeight rest

end

/-- How much there is to look at. -/
def FixtureScan.weight (scan : FixtureScan) : Nat :=
  (scan.stack.map fun item => valueWeight item.1).sum

theorem weight_scanEntries
    {depth : Nat}
    {entries : Record}
    {scan next : FixtureScan}
    (scanned : scanEntries depth entries scan = .ok next) :
    next.weight = entriesWeight entries + scan.weight := by
  induction entries generalizing scan with
  | nil =>
      cases scanned
      exact (Nat.zero_add _).symm
  | cons entry rest inductionHypothesis =>
      obtain ⟨key, child⟩ := entry
      simp only [scanEntries] at scanned
      split at scanned
      · cases scanned
      · split at scanned
        · cases scanned
        · have later := inductionHypothesis scanned
          simp only [FixtureScan.weight, List.map_cons, List.sum_cons,
            entriesWeight] at later ⊢
          omega

theorem itemsWeight_eq_sum (items : List JsValue) :
    itemsWeight items = (items.map fun item => valueWeight item).sum := by
  induction items with
  | nil => rfl
  | cons item rest inductionHypothesis =>
      rw [itemsWeight, inductionHypothesis, List.map_cons, List.sum_cons]

theorem weight_scanValue
    {depth : Nat}
    {scan next : FixtureScan}
    {value : JsValue}
    (scanned : scanValue depth scan value = .ok next) :
    next.weight < valueWeight value + scan.weight := by
  cases value with
  | undefined => cases scanned
  | exotic => cases scanned
  | null =>
      cases scanned
      simp [FixtureScan.weight, valueWeight]
  | bool flag =>
      cases scanned
      simp [FixtureScan.weight, valueWeight]
  | number number =>
      simp only [scanValue] at scanned
      split at scanned
      · cases scanned
        simp [FixtureScan.weight, valueWeight]
      · cases scanned
  | string text =>
      simp only [scanValue] at scanned
      split at scanned
      · cases scanned
      · cases scanned
        simp [FixtureScan.weight, valueWeight]
  | array items =>
      simp only [scanValue] at scanned
      split at scanned
      · cases scanned
      · cases scanned
        simp only [FixtureScan.weight, List.map_append, List.map_reverse,
          List.map_map, Function.comp_def, List.sum_append, List.sum_reverse,
          valueWeight, itemsWeight_eq_sum]
        omega
  | object entries =>
      simp only [scanValue] at scanned
      split at scanned
      · cases scanned
      · have grown := weight_scanEntries scanned
        simp only [FixtureScan.weight, valueWeight] at grown ⊢
        omega

/-- The loop of `fixtureIssue`. -/
def fixtureLoop : Loop FixtureScan (Option String) where
  turn := fixtureTurn
  measure := FixtureScan.weight
  decreases := by
    intro scan next continues
    unfold fixtureTurn at continues
    split at continues
    · cases continues
    · rename_i value depth rest stacked
      split at continues
      · cases continues
      · split at continues
        · rename_i scanned
          cases continues
          have smaller := weight_scanValue scanned
          simp only [FixtureScan.weight, stacked, List.map_cons,
            List.sum_cons] at smaller ⊢
          exact smaller
        · cases continues

/--
Fixtures are trees here: functions and other foreign values are unsupported,
and no value is reached twice.
-/
def fixtureIssue (fixtures : Record) : Option String :=
  fixtureLoop.run ⟨[(.object fixtures, 0)], 0, 0⟩

/-! ## The rules of a graph -/

namespace PrototypeGraph

variable (graph : PrototypeGraph)

def nodeIds : List JsString :=
  graph.nodes.map PrototypeNode.id

/-- `nodesById.get(id)`: the first node of an id. -/
def nodeById (id : JsString) : Option PrototypeNode :=
  graph.nodes.find? fun node => node.id = id

/-- Whether an id is that of a screen or page. -/
def IsSurfaceId (id : JsString) : Prop :=
  (graph.nodeById id).any PrototypeNode.isSurface = true

/-- `${transition.from.nodeId}\u0000${transition.from.portId}`. -/
def actionPorts : List JsString :=
  graph.transitions.map fun transition =>
    transition.origin.nodeId ++ 0 :: transition.origin.portId

/-- Whether some transition leads from one node to another. -/
def IsWired (origin target : JsString) : Prop :=
  ∃ transition ∈ graph.transitions,
    transition.origin.nodeId = origin ∧
      transition.kind.target? = some target

instance (id : JsString) : Decidable (graph.IsSurfaceId id) := by
  unfold IsSurfaceId
  infer_instance

instance (origin target : JsString) : Decidable (graph.IsWired origin target) := by
  unfold IsWired
  infer_instance

/-- Issues of the view state: it covers exactly the nodes. -/
def viewStateRules (viewState : PrototypeGraphViewState) : List GraphIssue :=
  let compactNodeIds := viewState.compactNodePositions.map Prod.fst
  issueUnless (compactNodeIds.length = graph.nodeIds.dedup.length)
    "viewState compact positions must cover exactly the current nodes"
    [field "viewState", field "compactNodePositions"] ++
  compactNodeIds.flatMap fun nodeId =>
    issueUnless (nodeId ∈ graph.nodeIds)
      "viewState compact positions contain an unknown node"
      [field "viewState", field "compactNodePositions", .name nodeId]

/-- Issues of a state: its parent is a screen or page. -/
def parentRules (path : List PathPart) (node : PrototypeNode) :
    List GraphIssue :=
  match node.kind.parentId? with
  | some parentId =>
      issueUnless (graph.IsSurfaceId parentId)
        "state parentId must reference a screen or page"
        (path ++ [field "parentId"])
  | none => []

/-- Issues of the initial state of a scenario. -/
def initialStateRules (path : List PathPart) (scenario : PrototypeScenario) :
    List GraphIssue :=
  match scenario.initialStateId with
  | none => []
  | some initialStateId =>
      match (graph.nodeById initialStateId).bind fun node =>
          node.kind.parentId? with
      | none =>
          [⟨path ++ [field "initialStateId"],
            some (js "scenario initialStateId must reference a state")⟩]
      | some parentId =>
          issueUnless (parentId = scenario.startNodeId)
            "scenario initial state must belong to its start node"
            (path ++ [field "initialStateId"])

/-- Issues of the steps of an expected path. -/
def expectedPathRules (path : List PathPart) (expectedPath : List JsString) :
    List GraphIssue :=
  issuesOfEach expectedPath (fun index nodeId =>
    issueUnless (nodeId ∈ graph.nodeIds)
      "scenario expectedPath references an unknown node"
      (path ++ [field "expectedPath", .index index])) ++
  issuesOfEach (expectedPath.zip expectedPath.tail) fun index step =>
    issueUnless (graph.IsWired step.1 step.2)
      "scenario expectedPath contains an unwired transition"
      (path ++ [field "expectedPath", .index (index + 1)])

/-- Issues of a scenario. -/
def scenarioRules (path : List PathPart) (scenario : PrototypeScenario) :
    List GraphIssue :=
  issueUnless (graph.IsSurfaceId scenario.startNodeId)
    "scenario startNodeId must reference a screen or page"
    (path ++ [field "startNodeId"]) ++
  graph.initialStateRules path scenario ++
  issueUnless (scenario.expectedPath.head? = some scenario.startNodeId)
    "scenario expectedPath must begin at startNodeId"
    (path ++ [field "expectedPath", .index 0]) ++
  graph.expectedPathRules path scenario.expectedPath

/-- `sourceParentId`: the surface whose states a source may set. -/
def sourceParentId (source : Option PrototypeNode) : Option JsString :=
  source.bind fun node =>
    match node.kind with
    | .state parentId => some parentId
    | .screen _ => some node.id
    | .page _ => some node.id
    | .overlay _ => none

/-- Issues of the port that a transition is wired to. -/
def sourceRules (path : List PathPart) (transition : PrototypeTransition) :
    List GraphIssue :=
  match graph.nodeById transition.origin.nodeId with
  | none =>
      [⟨path ++ [field "from", field "nodeId"],
        some (js "transition source node does not exist")⟩]
  | some source =>
      issueUnless (transition.origin.portId ∈
          source.ports.map PrototypeActionPort.id)
        "transition source port does not exist"
        (path ++ [field "from", field "portId"])

/-- Issues of a target of the given kind of transition. -/
def targetKindRules
    (path : List PathPart)
    (source : Option PrototypeNode)
    (target : PrototypeNode) :
    TransitionKind → List GraphIssue
  | .navigate _ =>
      issueUnless (target.isSurface = true)
        "navigate must target a screen or page" path
  | .setState _ =>
      match target.kind.parentId? with
      | none => [⟨path, some (js "set-state must target a state")⟩]
      | some parentId =>
          issueUnless (sourceParentId source = some parentId)
            "set-state must target a state owned by its source screen, page, or state"
            path
  | .openOverlay _ =>
      issueUnless (target.isOverlay = true)
        "open-overlay must target an overlay" path
  | .closeOverlay _ =>
      issueUnless (target.isOverlay = true)
        "close-overlay must target an overlay" path
  | .back => []
  | .resetFlow => []

/-- Issues of a transition. -/
def transitionRules (path : List PathPart) (transition : PrototypeTransition) :
    List GraphIssue :=
  graph.sourceRules path transition ++
    match transition.kind.target? with
    | none => []
    | some targetId =>
        match graph.nodeById targetId with
        | none =>
            [⟨path ++ [field "to", field "nodeId"],
              some (js "transition target node does not exist")⟩]
        | some target =>
            targetKindRules (path ++ [field "to", field "nodeId"])
              (graph.nodeById transition.origin.nodeId) target transition.kind

/-- The issues that the refinement of `prototypeGraphSchema` adds. -/
def ruleIssues : List GraphIssue :=
  (match fixtureIssue graph.fixtures with
    | some message => [⟨[field "fixtures"], some (js message)⟩]
    | none => []) ++
    issueUnless graph.nodeIds.Nodup "node IDs must be unique"
      [field "nodes"] ++
    graph.viewState.toList.flatMap graph.viewStateRules ++
    issueUnless (graph.transitions.map PrototypeTransition.id).Nodup
      "transition IDs must be unique" [field "transitions"] ++
    issueUnless graph.actionPorts.Nodup
      "each action port may have only one transition"
      [field "transitions"] ++
    issueUnless (graph.IsSurfaceId graph.initialNodeId)
      "initialNodeId must reference a screen or page"
      [field "initialNodeId"] ++
    issuesOfEach graph.nodes
      (fun index => graph.parentRules [field "nodes", .index index]) ++
    issueUnless (graph.nodes.filterMap fun node => node.kind.route?).Nodup
      "screen and page routes must be unique" [field "nodes"] ++
    issueUnless (graph.scenarios.map PrototypeScenario.id).Nodup
      "scenario IDs must be unique" [field "scenarios"] ++
    issuesOfEach graph.scenarios
      (fun index => graph.scenarioRules [field "scenarios", .index index]) ++
    issuesOfEach graph.transitions fun index =>
      graph.transitionRules [field "transitions", .index index]

end PrototypeGraph

/-! ## Parsing -/

/-- The property name that records of the schema library leave out. -/
def protoKey : JsString :=
  js "__proto__"

namespace PrototypeGraph

def trimPort (port : PrototypeActionPort) : PrototypeActionPort :=
  { port with label := trim port.label }

def trimNode (node : PrototypeNode) : PrototypeNode :=
  { node with
    label := trim node.label
    ports := node.ports.map trimPort }

def trimScenario (scenario : PrototypeScenario) : PrototypeScenario :=
  { scenario with name := trim scenario.name }

def cleanViewState (viewState : PrototypeGraphViewState) :
    PrototypeGraphViewState :=
  ⟨viewState.compactNodePositions.filter fun entry => entry.1 ≠ protoKey⟩

/-- What the schema makes of a graph: labels are trimmed. -/
def clean (graph : PrototypeGraph) : PrototypeGraph :=
  { graph with
    name := trim graph.name
    project := { graph.project with owner := trim graph.project.owner }
    revision := { graph.revision with summary := trim graph.revision.summary }
    handoff := { graph.handoff with
      owner := trim graph.handoff.owner
      summary := trim graph.handoff.summary }
    nodes := graph.nodes.map trimNode
    scenarios := graph.scenarios.map trimScenario
    fixtures := graph.fixtures.filter fun entry => entry.1 ≠ protoKey
    viewState := graph.viewState.map cleanViewState }

end PrototypeGraph

/-- The issues of a graph, those of its fields first. -/
def graphIssues (host : GraphHost) (graph : PrototypeGraph) :
    List GraphIssue :=
  fieldIssues host graph ++ graph.ruleIssues

/-! ## What the rules promise -/

namespace PrototypeGraph

/-- Whether an id is that of a state with the given parent. -/
def IsStateOf (graph : PrototypeGraph) (id parentId : JsString) : Prop :=
  ((graph.nodeById id).bind fun node => node.kind.parentId?) = some parentId

/-- Whether an id is that of an overlay. -/
def IsOverlayId (graph : PrototypeGraph) (id : JsString) : Prop :=
  (graph.nodeById id).any PrototypeNode.isOverlay = true

/-- The ids of a graph stand for nodes of the right kinds. -/
structure Typed (graph : PrototypeGraph) : Prop where
  nodeIds : graph.nodeIds.Nodup
  transitionIds : (graph.transitions.map PrototypeTransition.id).Nodup
  initialNode : graph.IsSurfaceId graph.initialNodeId
  starts : ∀ scenario ∈ graph.scenarios,
    graph.IsSurfaceId scenario.startNodeId
  initialStates : ∀ scenario ∈ graph.scenarios,
    ∀ id ∈ scenario.initialStateId, graph.IsStateOf id scenario.startNodeId
  navigates : ∀ transition ∈ graph.transitions, ∀ target,
    transition.kind = .navigate target → graph.IsSurfaceId target
  setsStates : ∀ transition ∈ graph.transitions, ∀ target,
    transition.kind = .setState target → ∃ parentId,
      graph.IsStateOf target parentId ∧
        sourceParentId (graph.nodeById transition.origin.nodeId) =
          some parentId
  opensOverlays : ∀ transition ∈ graph.transitions, ∀ target,
    transition.kind = .openOverlay target → graph.IsOverlayId target

variable {graph : PrototypeGraph}

theorem isStateOf_of_initialStateRules
    {path : List PathPart}
    {scenario : PrototypeScenario}
    (rules : graph.initialStateRules path scenario = [])
    {id : JsString}
    (initial : id ∈ scenario.initialStateId) :
    graph.IsStateOf id scenario.startNodeId := by
  rw [initialStateRules, Option.mem_def.mp initial] at rules
  simp only at rules
  split at rules
  · cases rules
  · rename_i parentId found
    rw [issueUnless_eq_nil] at rules
    rw [← rules]
    exact found

theorem targetKindRules_of_transitionRules
    {path : List PathPart}
    {transition : PrototypeTransition}
    (rules : graph.transitionRules path transition = [])
    {targetId : JsString}
    (targeted : transition.kind.target? = some targetId) :
    ∃ target path, graph.nodeById targetId = some target ∧
      targetKindRules path (graph.nodeById transition.origin.nodeId) target
        transition.kind = [] := by
  have rest := (List.append_eq_nil_iff.mp rules).2
  rw [targeted] at rest
  simp only at rest
  cases found : graph.nodeById targetId with
  | none =>
      rw [found] at rest
      cases rest
  | some target =>
      rw [found] at rest
      exact ⟨target, _, rfl, rest⟩

theorem typed_of_ruleIssues
    (rules : graph.ruleIssues = []) :
    graph.Typed := by
  simp only [ruleIssues, List.append_eq_nil_iff, issueUnless_eq_nil] at rules
  obtain ⟨⟨⟨⟨⟨⟨⟨⟨⟨⟨_, nodeIds⟩, _⟩, transitionIds⟩, _⟩, initialNode⟩, _⟩,
    _⟩, _⟩, scenarios⟩, transitions⟩ := rules
  have scenarioRules (scenario : PrototypeScenario)
      (member : scenario ∈ graph.scenarios) :
      graph.IsSurfaceId scenario.startNodeId ∧
        ∃ path, graph.initialStateRules path scenario = [] := by
    obtain ⟨index, rules⟩ := issuesOfEach_mem scenarios member
    simp only [PrototypeGraph.scenarioRules, List.append_eq_nil_iff,
      issueUnless_eq_nil] at rules
    exact ⟨rules.1.1.1, _, rules.1.1.2⟩
  have target (transition : PrototypeTransition)
      (member : transition ∈ graph.transitions)
      (targetId : JsString)
      (targeted : transition.kind.target? = some targetId) :
      ∃ target path, graph.nodeById targetId = some target ∧
        targetKindRules path (graph.nodeById transition.origin.nodeId) target
          transition.kind = [] := by
    obtain ⟨index, rules⟩ := issuesOfEach_mem transitions member
    exact targetKindRules_of_transitionRules rules targeted
  refine ⟨nodeIds, transitionIds, initialNode, ?_, ?_, ?_, ?_, ?_⟩
  · exact fun scenario member => (scenarioRules scenario member).1
  · intro scenario member id initial
    obtain ⟨path, rules⟩ := (scenarioRules scenario member).2
    exact isStateOf_of_initialStateRules rules initial
  · intro transition member targetId kind
    obtain ⟨node, path, found, rules⟩ :=
      target transition member targetId (by rw [kind]; rfl)
    rw [kind, targetKindRules, issueUnless_eq_nil] at rules
    rw [IsSurfaceId, found]
    exact rules
  · intro transition member targetId kind
    obtain ⟨node, path, found, rules⟩ :=
      target transition member targetId (by rw [kind]; rfl)
    rw [kind, targetKindRules] at rules
    cases isState : node.kind.parentId? with
    | none =>
        rw [isState] at rules
        cases rules
    | some parentId =>
        rw [isState] at rules
        simp only [issueUnless_eq_nil] at rules
        refine ⟨parentId, ?_, rules⟩
        rw [IsStateOf, found]
        exact isState
  · intro transition member targetId kind
    obtain ⟨node, path, found, rules⟩ :=
      target transition member targetId (by rw [kind]; rfl)
    rw [kind, targetKindRules, issueUnless_eq_nil] at rules
    rw [IsOverlayId, found]
    exact rules

end PrototypeGraph

/--
`parsePrototypeGraph` on a value that has the fields of a graph; any other
value is rejected by its shape.
-/
def parsePrototypeGraph (host : GraphHost) (value : PrototypeGraph) :
    Except (List GraphIssue) PrototypeGraph :=
  if graphIssues host value.clean = [] then
    .ok value.clean
  else
    .error (graphIssues host value.clean)

variable {host : GraphHost} {value graph : PrototypeGraph}

section

variable (accepted : parsePrototypeGraph host value = .ok graph)

include accepted

theorem graphIssues_of_parsePrototypeGraph :
    graphIssues host graph = [] := by
  unfold parsePrototypeGraph at accepted
  split at accepted
  · rename_i none
    cases accepted
    exact none
  · cases accepted

theorem typed_of_parsePrototypeGraph :
    graph.Typed :=
  PrototypeGraph.typed_of_ruleIssues
    (List.append_eq_nil_iff.mp
      (graphIssues_of_parsePrototypeGraph accepted)).2

/-- What the schemas of the fields promise about ids and fixtures. -/
structure IdsAccepted (graph : PrototypeGraph) : Prop where
  nodes : ∀ node ∈ graph.nodes, idSchema node.id = true
  transitions : ∀ transition ∈ graph.transitions,
    idSchema transition.id = true
  scenarios : ∀ scenario ∈ graph.scenarios, idSchema scenario.id = true
  fixtureKeys : ∀ entry ∈ graph.fixtures, fixtureKeySchema entry.1 = true
  fixtures : fixtureIssue graph.fixtures = none

theorem idsAccepted_of_parsePrototypeGraph :
    IdsAccepted graph := by
  obtain ⟨fields, rules⟩ :=
    List.append_eq_nil_iff.mp (graphIssues_of_parsePrototypeGraph accepted)
  simp only [fieldIssues, List.append_eq_nil_iff,
    List.flatMap_eq_nil_iff, fieldIssue_eq_nil] at fields
  obtain ⟨⟨⟨⟨⟨⟨⟨_, nodes⟩, _⟩, transitions⟩, _⟩, scenarios⟩, fixtureKeys⟩, _⟩ :=
    fields
  refine ⟨?_, ?_, ?_, fixtureKeys, ?_⟩
  · intro node member
    obtain ⟨index, none⟩ := issuesOfEach_mem nodes member
    simp only [nodeIssues, List.append_eq_nil_iff, fieldIssue_eq_nil] at none
    exact none.1.1.1.1.1.1
  · intro transition member
    obtain ⟨index, none⟩ := issuesOfEach_mem transitions member
    simp only [transitionIssues, List.append_eq_nil_iff,
      fieldIssue_eq_nil] at none
    exact none.1.1.1
  · intro scenario member
    obtain ⟨index, none⟩ := issuesOfEach_mem scenarios member
    simp only [scenarioIssues, List.append_eq_nil_iff,
      fieldIssue_eq_nil] at none
    exact none.1.1.1.1.1
  · simp only [PrototypeGraph.ruleIssues, List.append_eq_nil_iff] at rules
    have none := rules.1.1.1.1.1.1.1.1.1.1
    cases issue : fixtureIssue graph.fixtures with
    | none => rfl
    | some message =>
        rw [issue] at none
        cases none

end

end Selene.Prototype
