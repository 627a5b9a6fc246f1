import Selene.PrototypeGraphRules
import Selene.PrototypeGraphText

/-!
# Transports of prototype graphs

`exportPrototypeGraph` and `exportPrototypeHandoff` write an accepted graph as
JSON, and the importers read such a text and parse the graph again.  Importers
refuse texts of more than two million bytes; exporters do not look at the size.
A text within the cap is imported as the graph it was exported from.
-/

namespace Selene.Prototype

open Js

variable {host : GraphHost} {graph : PrototypeGraph}

/-! ## Exporting and importing -/

/-- `maxImportedBytes`. -/
def maxImportedBytes : Nat := 2000000

/--
`PrototypeGraphValidationError`: a message about the whole text, the issues of a
graph, or what the schema library says about a value that has no graph's shape.
-/
inductive GraphValidationError where
  | root (message : JsString)
  | invalid (issues : List GraphIssue)
  | shape
  deriving DecidableEq

/-- `parsePrototypeGraph` of any value. -/
def parseGraphValue (host : GraphHost) (value : JsValue) :
    Except GraphValidationError PrototypeGraph :=
  match readGraph value with
  | none => .error .shape
  | some graph => (parsePrototypeGraph host graph).mapError .invalid

/-- `(value as { … }).name` -/
def property (name : String) : JsValue → JsValue
  | .object record => Record.get record (js name)
  | _ => .undefined

/-- `typeof value === 'object' && value !== null` -/
def isObject : JsValue → Bool
  | .object _ => true
  | .array _ => true
  | _ => false

/-- `Array.isArray(value)` -/
def isArray : JsValue → Bool
  | .array _ => true
  | _ => false

def prototypeGraphExportFormat : String := "selene-prototype-graph-export/v1"

def prototypeHandoffExportFormat : String := "selene-prototype-handoff/v1"

/-- The object that an exported text is of. -/
def graphEnvelope (graph : PrototypeGraph) : JsValue :=
  .object [
    (js "format", .string (js prototypeGraphExportFormat)),
    (js "graph", graph.toValue)]

/-- `JSON.stringify` of an object. -/
def stringifyObject (format : NumberFormat) (value : JsValue) : JsString :=
  (stringify format value).getD []

def exportPrototypeGraph
    (host : GraphHost)
    (format : NumberFormat)
    (value : PrototypeGraph) :
    Except GraphValidationError JsString := do
  let graph ← (parsePrototypeGraph host value).mapError .invalid
  pure (stringifyObject format (graphEnvelope graph))

def importPrototypeGraph
    (host : GraphHost)
    (format : NumberFormat)
    (serialized : JsString) :
    Except GraphValidationError PrototypeGraph :=
  if maxImportedBytes < utf8Length serialized then
    .error (.root (js "root: graph export is too large"))
  else
    match jsonParse format serialized with
    | none => .error (.root (js "root: graph export is not valid JSON"))
    | some value =>
        if isObject value = false ∨ isArray value = true ∨
            ¬ IsText (property "format" value)
              (js prototypeGraphExportFormat) then
          .error (.root (js "root: unsupported graph export format"))
        else
          parseGraphValue host (property "graph" value)

/-- `handoffGraph`: the graph without its editor-only layout. -/
def PrototypeGraph.handoffGraph (graph : PrototypeGraph) : PrototypeGraph :=
  { graph with viewState := none }

/-- The object that a handoff text is of. -/
def handoffEnvelope (graph : PrototypeGraph) (exported : JsValue) : JsValue :=
  .object [
    (js "format", .string (js prototypeHandoffExportFormat)),
    (js "project", graph.project.toValue),
    (js "revision", graph.revision.toValue),
    (js "handoff", graph.handoff.toValue),
    (js "graph", exported)]

/-- A text that is no JSON makes the exporter throw as `JSON.parse` does. -/
def exportPrototypeHandoff
    (host : GraphHost)
    (format : NumberFormat)
    (value : PrototypeGraph) :
    Except (Option GraphValidationError) JsString := do
  let graph ← (parsePrototypeGraph host value).mapError
    fun issues => some (.invalid issues)
  let exported ←
    (exportPrototypeGraph host format graph.handoffGraph).mapError some
  match jsonParse format exported with
  | none => .error none
  | some written =>
      pure (stringifyObject format (handoffEnvelope graph written))

def importPrototypeHandoff
    (host : GraphHost)
    (format : NumberFormat)
    (serialized : JsString) :
    Except GraphValidationError PrototypeGraph :=
  if maxImportedBytes < utf8Length serialized then
    .error (.root (js "root: prototype handoff is too large"))
  else
    match jsonParse format serialized with
    | none => .error (.root (js "root: prototype handoff is not valid JSON"))
    | some value =>
        if isObject value = false ∨
            ¬ IsText (property "format" value)
              (js prototypeHandoffExportFormat) then
          .error (.root (js "root: unsupported prototype handoff format"))
        else
          match stringify format (property "graph" value) with
          | none =>
              -- A missing graph is imported as the text `undefined`.
              .error (.root (js "root: graph export is not valid JSON"))
          | some text => importPrototypeGraph host format text

/-! ## Values of the language -/

/-- Values that can exist, where zero is one number. -/
inductive OneZero : JsValue → Prop where
  | undefined : OneZero .undefined
  | null : OneZero .null
  | bool (value : Bool) : OneZero (.bool value)
  | number {value : JsNumber} :
      value.IsRepresentable → value ≠ .negativeZero → OneZero (.number value)
  | string (value : JsString) : OneZero (.string value)
  | array {items : List JsValue} :
      (∀ item ∈ items, OneZero item) → OneZero (.array items)
  | object {entries : Record} :
      entries.keys.Nodup →
      (∀ entry ∈ entries, OneZero entry.2) →
      OneZero (.object entries)
  | exotic : OneZero .exotic

/-- The records of a graph are objects of the language. -/
structure OwnGraph (graph : PrototypeGraph) : Prop where
  fixtures : OneZero (.object graph.fixtures)
  positions : ∀ viewState ∈ graph.viewState,
    (viewState.compactNodePositions.map Prod.fst).Nodup

/-! ## Fixtures are data -/

variable {scan next : FixtureScan} {depth : Nat}

theorem scanEntries_stack
    {entries : Record}
    (scanned : scanEntries depth entries scan = .ok next) :
    (∀ item ∈ scan.stack, item ∈ next.stack) ∧
      ∀ entry ∈ entries, (entry.2, depth) ∈ next.stack := by
  induction entries generalizing scan with
  | nil =>
      cases scanned
      exact ⟨fun _ member => member, fun _ member => by cases member⟩
  | cons entry rest inductionHypothesis =>
      obtain ⟨key, child⟩ := entry
      simp only [scanEntries] at scanned
      split at scanned
      · cases scanned
      · split at scanned
        · cases scanned
        · obtain ⟨kept, pushed⟩ := inductionHypothesis scanned
          refine ⟨fun item member =>
            kept item (List.mem_cons_of_mem _ member), ?_⟩
          intro other member
          rcases List.mem_cons.mp member with rfl | later
          · exact kept _ List.mem_cons_self
          · exact pushed other later

theorem scanValue_stack
    {value : JsValue}
    (scanned : scanValue depth scan value = .ok next) :
    ∀ item ∈ scan.stack, item ∈ next.stack := by
  intro item member
  cases value with
  | undefined => cases scanned
  | exotic => cases scanned
  | null =>
      cases scanned
      exact member
  | bool flag =>
      cases scanned
      exact member
  | number number =>
      simp only [scanValue] at scanned
      split at scanned
      · cases scanned
        exact member
      · cases scanned
  | string text =>
      simp only [scanValue] at scanned
      split at scanned
      · cases scanned
      · cases scanned
        exact member
  | array items =>
      simp only [scanValue] at scanned
      split at scanned
      · cases scanned
      · cases scanned
        exact List.mem_append_right _ member
  | object entries =>
      simp only [scanValue] at scanned
      split at scanned
      · cases scanned
      · exact (scanEntries_stack scanned).1 item member

theorem isExact_of_scanValue
    {value : JsValue}
    (scanned : scanValue depth scan value = .ok next)
    (own : OneZero value)
    (below : ∀ item ∈ next.stack, OneZero item.1 → IsExact item.1) :
    IsExact value := by
  cases own with
  | undefined => cases scanned
  | exotic => cases scanned
  | null => exact .null
  | bool flag => exact .bool flag
  | string text => exact .string text
  | @number number representable oneZero =>
      simp only [scanValue] at scanned
      split at scanned
      · rename_i finite
        cases number with
        | finite value => exact .number (representable value rfl)
        | negativeZero => exact absurd rfl oneZero
        | infinite negative => cases finite
        | nan => cases finite
      · cases scanned
  | @array items each =>
      simp only [scanValue] at scanned
      split at scanned
      · cases scanned
      · cases scanned
        refine .array fun item member => ?_
        refine below (item, depth + 1) (List.mem_append_left _ ?_)
          (each item member)
        exact List.mem_reverse.mpr (List.mem_map.mpr ⟨item, member, rfl⟩)
  | @object entries distinct each =>
      simp only [scanValue] at scanned
      split at scanned
      · cases scanned
      · have pushed := (scanEntries_stack scanned).2
        exact .object distinct fun entry member =>
          below _ (pushed entry member) (each entry member)

theorem isExact_of_fixtureLoop (scan : FixtureScan) :
    fixtureLoop.run scan = none →
      ∀ item ∈ scan.stack, OneZero item.1 → IsExact item.1 := by
  refine @Loop.run_induct _ _ fixtureLoop
    (fun scan result => result = none →
      ∀ item ∈ scan.stack, OneZero item.1 → IsExact item.1) ?_ ?_ scan
  · intro scan result stops passed item member
    replace stops : fixtureTurn scan = .inr result := stops
    unfold fixtureTurn at stops
    split at stops
    · rename_i empty
      rw [empty] at member
      cases member
    · split at stops
      · rw [passed] at stops
        cases stops
      · split at stops
        · cases stops
        · rw [passed] at stops
          cases stops
  · intro scan next continues below passed item member own
    replace continues : fixtureTurn scan = .inl next := continues
    unfold fixtureTurn at continues
    split at continues
    · cases continues
    · rename_i value depth rest stacked
      split at continues
      · cases continues
      · split at continues
        · rename_i scanned
          cases continues
          rw [stacked] at member
          rcases List.mem_cons.mp member with rfl | later
          · exact isExact_of_scanValue scanned own (below passed)
          · exact below passed item
              ((scanValue_stack scanned) item later) own
        · cases continues

theorem isExact_of_fixtureIssue
    {fixtures : Record}
    (own : OneZero (.object fixtures))
    (passed : fixtureIssue fixtures = none) :
    IsExact (.object fixtures) :=
  isExact_of_fixtureLoop _ passed (.object fixtures, 0)
    List.mem_cons_self own

/-! ## Graphs are data -/

@[simp] theorem isExact_string (text : JsString) : IsExact (.string text) :=
  .string text

@[simp] theorem isExact_bool (value : Bool) : IsExact (.bool value) :=
  .bool value

@[simp] theorem isExact_double (value : Double) :
    IsExact (.number (.finite value.val)) :=
  .number value.property

theorem isExact_map
    {α : Type}
    {write : α → JsValue}
    {items : List α}
    (each : ∀ item ∈ items, IsExact (write item)) :
    IsExact (.array (items.map write)) :=
  .array fun value member => by
    obtain ⟨item, isItem, rfl⟩ := List.mem_map.mp member
    exact each item isItem

@[simp] theorem isExact_strings (texts : List JsString) :
    IsExact (.array (texts.map JsValue.string)) :=
  isExact_map fun text _ => .string text

@[simp] theorem isExact_point (point : Point) : IsExact point.toValue :=
  .object (by simp) (by simp)

theorem isExact_port
    {port : PrototypeActionPort}
    (accepted : triggerSchema port.trigger = true) :
    IsExact port.toValue := by
  obtain ⟨id, label, trigger⟩ := port
  cases trigger with
  | timeout timeoutMs =>
      simp only [triggerSchema, decide_eq_true_eq] at accepted
      have double : IsDouble timeoutMs :=
        ⟨timeoutMs, 0, by omega, Or.inl ⟨by omega, by simp⟩⟩
      exact .object (by simp [PrototypeTrigger.entries])
        (by simp [PrototypeTrigger.entries, IsExact.number double])
  | _ =>
      exact .object (by simp [PrototypeTrigger.entries])
        (by simp [PrototypeTrigger.entries])

theorem isExact_node
    {node : PrototypeNode}
    (accepted : NodeAccepted host node) :
    IsExact node.toValue := by
  have ports : IsExact
      (.array (node.ports.map PrototypeActionPort.toValue)) :=
    isExact_map fun port member =>
      isExact_port (accepted.ports port member).trigger
  rw [PrototypeNode.toValue]
  cases node.kind with
  | _ =>
      exact .object (by simp [NodeKind.entries])
        (by simp [NodeKind.entries, ports])

theorem isExact_transition (transition : PrototypeTransition) :
    IsExact transition.toValue := by
  have source : IsExact transition.origin.toValue :=
    .object (by simp) (by simp)
  rw [PrototypeTransition.toValue, targetEntries]
  cases transition.kind.target? with
  | none =>
      exact .object (by simp [Record.optionalEntry])
        (by simp [Record.optionalEntry, source])
  | some target =>
      have leads : IsExact (.object [(js "nodeId", .string target)]) :=
        .object (by simp) (by simp)
      exact .object (by simp [Record.optionalEntry])
        (by simp [Record.optionalEntry, source, leads])

theorem isExact_scenario (scenario : PrototypeScenario) :
    IsExact scenario.toValue := by
  rw [PrototypeScenario.toValue]
  cases scenario.initialStateId with
  | none =>
      exact .object (by simp [Record.optionalEntry])
        (by simp [Record.optionalEntry])
  | some id =>
      exact .object (by simp [Record.optionalEntry])
        (by simp [Record.optionalEntry])

theorem isExact_revision (revision : PrototypeRevision) :
    IsExact revision.toValue := by
  rw [PrototypeRevision.toValue]
  cases revision.parentId with
  | none =>
      exact .object (by simp [Record.optionalEntry])
        (by simp [Record.optionalEntry])
  | some id =>
      exact .object (by simp [Record.optionalEntry])
        (by simp [Record.optionalEntry])

theorem isExact_viewState
    {viewState : PrototypeGraphViewState}
    (distinct : (viewState.compactNodePositions.map Prod.fst).Nodup) :
    IsExact viewState.toValue := by
  have positions : IsExact (.object
      (viewState.compactNodePositions.map fun entry =>
        (entry.1, entry.2.toValue))) := by
    refine .object ?_ fun entry member => ?_
    · rw [Record.keys, List.map_map]
      exact distinct
    · obtain ⟨own, _, rfl⟩ := List.mem_map.mp member
      exact isExact_point own.2
  exact .object (by simp) (by simp [positions])

theorem isExact_graph
    (own : OwnGraph graph)
    (accepted : Accepted host graph) :
    IsExact graph.toValue := by
  have project : IsExact graph.project.toValue := .object (by simp) (by simp)
  have handoff : IsExact graph.handoff.toValue := .object (by simp) (by simp)
  have revision := isExact_revision graph.revision
  have nodes : IsExact (.array (graph.nodes.map PrototypeNode.toValue)) :=
    isExact_map fun node member => isExact_node
      (accepted.fields.nodes node member)
  have transitions : IsExact
      (.array (graph.transitions.map PrototypeTransition.toValue)) :=
    isExact_map fun transition _ => isExact_transition transition
  have scenarios : IsExact
      (.array (graph.scenarios.map PrototypeScenario.toValue)) :=
    isExact_map fun scenario _ => isExact_scenario scenario
  have fixtures :=
    isExact_of_fixtureIssue own.fixtures accepted.rules.fixtures
  rw [PrototypeGraph.toValue]
  cases isViewState : graph.viewState with
  | none =>
      exact .object (by simp [Record.optionalEntry])
        (by simp [Record.optionalEntry, project, handoff, revision, nodes,
          transitions, scenarios, fixtures])
  | some viewState =>
      have written := isExact_viewState (own.positions viewState isViewState)
      exact .object (by simp [Record.optionalEntry])
        (by simp [Record.optionalEntry, project, handoff, revision, nodes,
          transitions, scenarios, fixtures, written])

/-! ## Round trips -/

theorem infix_stringifyEntries
    {format : NumberFormat}
    {entries : Record}
    {entry : JsString × JsValue}
    {text : JsString}
    (member : entry ∈ entries)
    (written : stringify format entry.2 = some text)
    (first : Bool) :
    text <:+: stringifyEntries format first entries := by
  induction entries generalizing first with
  | nil => cases member
  | cons other rest inductionHypothesis =>
      obtain ⟨key, value⟩ := other
      rw [stringifyEntries]
      rcases List.mem_cons.mp member with rfl | later
      · simp only [written]
        refine List.IsInfix.trans ?_ (List.suffix_append _ _).isInfix
        refine List.IsInfix.trans ?_ (List.suffix_append _ _).isInfix
        exact List.IsInfix.trans (List.prefix_append _ _).isInfix
          (List.suffix_cons _ _).isInfix
      · split
        · exact inductionHypothesis later first
        · refine List.IsInfix.trans (inductionHypothesis later false) ?_
          refine List.IsInfix.trans ?_ (List.suffix_append _ _).isInfix
          refine List.IsInfix.trans ?_ (List.suffix_append _ _).isInfix
          exact List.IsInfix.trans (List.suffix_append _ _).isInfix
            (List.suffix_cons _ _).isInfix

theorem OwnGraph.clean
    (own : OwnGraph graph) :
    OwnGraph graph.clean := by
  constructor
  · cases own.fixtures with
    | object distinct each =>
        refine .object (distinct.sublist ?_) fun entry member =>
          each entry (List.mem_of_mem_filter member)
        exact List.filter_sublist.map Prod.fst
  · intro viewState isViewState
    obtain ⟨before, isBefore, rfl⟩ := Option.map_eq_some_iff.mp isViewState
    exact (own.positions before isBefore).sublist
      (List.filter_sublist.map Prod.fst)

theorem OwnGraph.handoffGraph
    (own : OwnGraph graph) :
    OwnGraph graph.handoffGraph :=
  ⟨own.fixtures, fun _ none => by cases none⟩

theorem clean_handoffGraph
    (clean : graph.clean = graph) :
    graph.handoffGraph.clean = graph.handoffGraph := by
  have same : graph.clean.handoffGraph = graph.handoffGraph :=
    congrArg PrototypeGraph.handoffGraph clean
  exact same

theorem Accepted.handoffGraph
    (accepted : Accepted host graph) :
    Accepted host graph.handoffGraph := by
  obtain ⟨fields, rules⟩ := accepted
  exact ⟨⟨⟨fields.header.id, fields.header.name, fields.header.projectId,
        fields.header.projectOwner, fields.header.revisionId,
        fields.header.revisionParentId, fields.header.createdAt,
        fields.header.revisionSummary, fields.header.handoffOwner,
        fields.header.handoffSummary, fields.header.initialNodeId⟩,
      fields.nodeCount, fields.nodes, fields.transitionCount,
      fields.transitions, fields.scenarioCount, fields.scenarios,
      fields.fixtureKeys, fun _ none => by cases none⟩,
    ⟨rules.fixtures, rules.nodeIds, fun _ none => (by cases none),
      rules.transitionIds, rules.actionPorts, rules.initialNode,
      rules.parents, rules.routes, rules.scenarioIds,
      fun scenario member =>
        ⟨(rules.scenarios scenario member).start,
          (rules.scenarios scenario member).initial,
          (rules.scenarios scenario member).head,
          (rules.scenarios scenario member).nodes,
          (rules.scenarios scenario member).wired⟩,
      fun transition member =>
        ⟨(rules.transitions transition member).source,
          (rules.transitions transition member).target⟩⟩⟩

theorem property_cons_eq (name : String) (value : JsValue) (rest : Record) :
    property name (.object ((js name, value) :: rest)) = value := by
  simp [property]

theorem parseGraphValue_toValue
    (accepted : Accepted host graph)
    (clean : graph.clean = graph) :
    parseGraphValue host graph.toValue = .ok graph := by
  have triggers : ∀ node ∈ graph.nodes, ∀ port ∈ node.ports,
      triggerSchema port.trigger = true := fun node member port isPort =>
    ((accepted.fields.nodes node member).ports port isPort).trigger
  rw [parseGraphValue, readGraph_toValue clean triggers]
  simp only [parsePrototypeGraph_of_accepted accepted clean, Except.mapError]

/-- An exported text is imported as its graph, if it is not too large. -/
theorem importPrototypeGraph_text
    {format : NumberFormat}
    (own : OwnGraph graph)
    (accepted : Accepted host graph)
    (clean : graph.clean = graph) :
    ∃ text, stringify format (graphEnvelope graph) = some text ∧
      jsonParse format text = some (graphEnvelope graph) ∧
      importPrototypeGraph host format text =
        if maxImportedBytes < utf8Length text then
          .error (.root (js "root: graph export is too large"))
        else
          .ok graph := by
  have envelope : IsExact (graphEnvelope graph) :=
    .object (by simp) (by simp [isExact_graph own accepted])
  obtain ⟨text, written, read⟩ := jsonParse_stringify_exact format envelope
  refine ⟨text, written, read, ?_⟩
  rw [importPrototypeGraph, read]
  have isFormat : IsText (property "format" (graphEnvelope graph))
      (js prototypeGraphExportFormat) := by
    rw [graphEnvelope, property_cons_eq]
    exact rfl
  have isGraph : property "graph" (graphEnvelope graph) = graph.toValue := by
    simp [property, graphEnvelope]
  have supported : ¬ (isObject (graphEnvelope graph) = false ∨
      isArray (graphEnvelope graph) = true ∨
        ¬ IsText (property "format" (graphEnvelope graph))
          (js prototypeGraphExportFormat)) := by
    rintro (notObject | isArray_ | notFormat)
    · cases notObject
    · cases isArray_
    · exact notFormat isFormat
  simp only [if_neg supported, isGraph,
    parseGraphValue_toValue accepted clean]

/-- What the exporters write of an accepted graph is imported as the graph, or as
the graph without its layout, unless the text is too large for an import. -/
theorem transports_round_trip
    {host : GraphHost}
    {format : NumberFormat}
    {value graph : PrototypeGraph}
    (own : OwnGraph value)
    (parsed : parsePrototypeGraph host value = .ok graph) :
    ∃ exported handoff,
      exportPrototypeGraph host format value = .ok exported ∧
        importPrototypeGraph host format exported =
          (if maxImportedBytes < utf8Length exported then
            .error (.root (js "root: graph export is too large"))
          else
            .ok graph) ∧
        exportPrototypeHandoff host format value = .ok handoff ∧
        importPrototypeHandoff host format handoff =
          (if maxImportedBytes < utf8Length handoff then
            .error (.root (js "root: prototype handoff is too large"))
          else
            .ok graph.handoffGraph) := by
  obtain ⟨accepted, clean⟩ := accepted_of_parsePrototypeGraph parsed
  have isClean : graph = value.clean := by
    unfold parsePrototypeGraph at parsed
    split at parsed
    · cases parsed
      rfl
    · cases parsed
  have ownGraph : OwnGraph graph := isClean ▸ own.clean
  obtain ⟨exported, written, -, imported⟩ :=
    @importPrototypeGraph_text host _ format ownGraph accepted clean
  -- The handoff nests the export of the graph without its layout.
  have innerClean := clean_handoffGraph clean
  obtain ⟨inner, innerWritten, innerRead, innerImported⟩ :=
    @importPrototypeGraph_text host _ format ownGraph.handoffGraph
      accepted.handoffGraph innerClean
  have innerExported : exportPrototypeGraph host format graph.handoffGraph =
      .ok inner := by
    rw [exportPrototypeGraph,
      parsePrototypeGraph_of_accepted accepted.handoffGraph innerClean]
    simp only [Except.mapError, bind, Except.bind, stringifyObject,
      innerWritten]
    rfl
  have inside : IsExact (graphEnvelope graph.handoffGraph) :=
    .object (by simp)
      (by simp [isExact_graph ownGraph.handoffGraph accepted.handoffGraph])
  have envelope : IsExact
      (handoffEnvelope graph (graphEnvelope graph.handoffGraph)) := by
    have project : IsExact graph.project.toValue :=
      .object (by simp) (by simp)
    have status : IsExact graph.handoff.toValue :=
      .object (by simp) (by simp)
    exact .object (by simp)
      (by simp [inside, project, status, isExact_revision])
  obtain ⟨handoff, handoffWritten, handoffRead⟩ :=
    jsonParse_stringify_exact format envelope
  refine ⟨exported, handoff, ?_, imported, ?_, ?_⟩
  · rw [exportPrototypeGraph, parsed]
    simp only [Except.mapError, bind, Except.bind, stringifyObject, written]
    rfl
  · rw [exportPrototypeHandoff, parsed]
    simp only [Except.mapError, bind, Except.bind, innerExported, innerRead,
      stringifyObject, handoffWritten]
    rfl
  · rw [importPrototypeHandoff, handoffRead]
    have isFormat : IsText (property "format"
        (handoffEnvelope graph (graphEnvelope graph.handoffGraph)))
        (js prototypeHandoffExportFormat) := by
      rw [handoffEnvelope, property_cons_eq]
      exact rfl
    have isGraph : property "graph"
        (handoffEnvelope graph (graphEnvelope graph.handoffGraph)) =
          graphEnvelope graph.handoffGraph := by
      simp [property, handoffEnvelope]
    have supported : ¬ (isObject
        (handoffEnvelope graph (graphEnvelope graph.handoffGraph)) = false ∨
          ¬ IsText (property "format"
            (handoffEnvelope graph (graphEnvelope graph.handoffGraph)))
            (js prototypeHandoffExportFormat)) := by
      rintro (notObject | notFormat)
      · cases notObject
      · exact notFormat isFormat
    split
    · rfl
    · rename_i small
      -- The nested text is a part of the handoff, so it is not larger.
      have part : inner <:+: handoff := by
        have member : (js "graph", graphEnvelope graph.handoffGraph) ∈
            [(js "format", JsValue.string (js prototypeHandoffExportFormat)),
              (js "project", graph.project.toValue),
              (js "revision", graph.revision.toValue),
              (js "handoff", graph.handoff.toValue),
              (js "graph", graphEnvelope graph.handoffGraph)] := by
          simp
        have inEntries := infix_stringifyEntries member innerWritten true
        rw [handoffEnvelope, stringify, Option.some.injEq] at handoffWritten
        rw [← handoffWritten]
        exact inEntries.trans (List.suffix_cons _ _).isInfix
      have smaller := utf8Length_le_of_infix part
      simp only [if_neg supported, isGraph, innerWritten, innerImported]
      rw [if_neg (by omega)]

theorem ownGraph_sampleGraph : OwnGraph sampleGraph :=
  ⟨.object List.nodup_nil fun _ member => (by cases member),
    fun _ none => by cases none⟩

/-- The sample is small enough to be imported again. -/
theorem transports_round_trip_sample :
    ∃ exported handoff,
      exportPrototypeGraph sampleHost exactNumerals sampleGraph =
          .ok exported ∧
        importPrototypeGraph sampleHost exactNumerals exported =
          .ok sampleGraph ∧
        exportPrototypeHandoff sampleHost exactNumerals sampleGraph =
          .ok handoff := by
  obtain ⟨exported, handoff, isExport, imported, isHandoff, -⟩ :=
    @transports_round_trip _ exactNumerals _ _ ownGraph_sampleGraph
      parse_sampleGraph
  have small : (exportPrototypeGraph sampleHost exactNumerals
      sampleGraph).toOption.all (fun text => utf8Length text ≤ 2000) =
        true := by
    decide +kernel
  rw [isExport] at small
  simp only [Except.toOption, Option.all_some, decide_eq_true_eq] at small
  unfold maxImportedBytes at imported
  rw [if_neg (by omega)] at imported
  exact ⟨exported, handoff, isExport, imported, isHandoff⟩

/-! ## Sizes of texts -/

mutual

/-- The units of the strings in a value. -/
def textUnits : JsValue → Nat
  | .string text => text.length
  | .array items => textUnitsItems items
  | .object entries => textUnitsEntries entries
  | _ => 0

/-- The units of the strings in the items. -/
def textUnitsItems : List JsValue → Nat
  | [] => 0
  | item :: rest => textUnits item + textUnitsItems rest

/-- The units of the strings in the entries. -/
def textUnitsEntries : Record → Nat
  | [] => 0
  | (_, value) :: rest => textUnits value + textUnitsEntries rest

end

mutual

theorem textUnits_le (format : NumberFormat) :
    (value : JsValue) →
      textUnits value ≤ ((stringify format value).getD (js "null")).length
  | .undefined => Nat.zero_le _
  | .exotic => Nat.zero_le _
  | .null => Nat.zero_le _
  | .bool _ => Nat.zero_le _
  | .number _ => Nat.zero_le _
  | .string text => by
      have escaped := length_le_length_escape text
      simp only [textUnits, stringify, Option.getD_some, quote,
        List.length_cons, List.length_append]
      omega
  | .array items => by
      have inside := textUnitsItems_le format true items
      simp only [textUnits, stringify, Option.getD_some, List.length_cons]
      omega
  | .object entries => by
      have inside := textUnitsEntries_le format true entries
      simp only [textUnits, stringify, Option.getD_some, List.length_cons]
      omega

theorem textUnitsItems_le (format : NumberFormat) (first : Bool) :
    (items : List JsValue) →
      textUnitsItems items ≤ (stringifyItems format first items).length
  | [] => Nat.zero_le _
  | item :: rest => by
      have own := textUnits_le format item
      have later := textUnitsItems_le format false rest
      simp only [textUnitsItems, stringifyItems, List.length_append]
      omega

theorem textUnitsEntries_le (format : NumberFormat) (first : Bool) :
    (entries : Record) →
      textUnitsEntries entries ≤ (stringifyEntries format first entries).length
  | [] => Nat.zero_le _
  | (key, value) :: rest => by
      have own := textUnits_le format value
      rw [stringifyEntries, textUnitsEntries]
      cases written : stringify format value with
      | none =>
          have later := textUnitsEntries_le format first rest
          have nothing : textUnits value = 0 := by
            cases value with
            | undefined => rfl
            | exotic => rfl
            | bool flag => rfl
            | _ => simp [stringify] at written
          dsimp only
          omega
      | some text =>
          have later := textUnitsEntries_le format false rest
          rw [written, Option.getD_some] at own
          simp only [List.length_append, List.length_cons]
          omega

end

theorem le_textUnitsItems
    {α : Type}
    {write : α → JsValue}
    {units : Nat}
    {items : List α}
    (each : ∀ item ∈ items, units ≤ textUnits (write item)) :
    items.length * units ≤ textUnitsItems (items.map write) := by
  induction items with
  | nil => simp
  | cons item rest inductionHypothesis =>
      have own := each item List.mem_cons_self
      have later := inductionHypothesis fun other member =>
        each other (List.mem_cons_of_mem _ member)
      rw [List.map_cons, textUnitsItems, List.length_cons, Nat.succ_mul]
      omega

/-- The id of a page that leads to itself. -/
def roundId : JsString :=
  js "round-and-round-the-block-until-you-are-back"

/-- A scenario that walks in a circle. -/
def roundScenario (steps place : Nat) : PrototypeScenario where
  id := 0x73 :: List.replicate place 0x61
  name := js "Round and round"
  startNodeId := roundId
  initialStateId := none
  expectedPath := List.replicate steps roundId

/-- A graph with so many scenarios of so many steps. -/
def roundGraph (steps count : Nat) : PrototypeGraph :=
  { sampleGraph with
    initialNodeId := roundId
    nodes := [
      ⟨roundId, js "Start", ⟨⟨0, isDouble_zero⟩, ⟨0, isDouble_zero⟩⟩,
        [⟨js "open", js "Open", .click⟩], .screen (js "/orders")⟩]
    transitions := [⟨js "open", ⟨roundId, js "open"⟩, .navigate roundId⟩]
    scenarios := (List.range count).map (roundScenario steps) }

theorem isWiredPath_replicate
    {id : JsString}
    (wired : graph.IsWired id id)
    (steps : Nat) :
    graph.IsWiredPath (List.replicate steps id) := by
  rw [PrototypeGraph.IsWiredPath, List.isChain_iff_getElem]
  intro place bound
  rw [List.getElem_replicate, List.getElem_replicate]
  exact wired

theorem scenarioAccepted_round
    {steps place : Nat}
    (some_ : 1 ≤ steps)
    (most : steps ≤ 500)
    (bound : place < 100) :
    ScenarioAccepted (roundScenario steps place) where
  id := by
    have letters : (List.replicate place (0x61 : CodeUnit)).all isIdUnit =
        true :=
      List.all_eq_true.mpr fun unit member => by
        rw [List.eq_of_mem_replicate member]
        decide
    have short : place ≤ 127 := by omega
    have first : isLetter 0x73 = true := by decide
    simp [roundScenario, idSchema, letters, short, first]
  name := show labelSchema (js "Round and round") = true by decide
  startNodeId := show idSchema roundId = true by decide
  initialStateId := rfl
  pathLength := by
    simp only [roundScenario, List.length_replicate]
    exact ⟨some_, most⟩
  path := fun id member => by
    rw [List.eq_of_mem_replicate member]
    decide

theorem scenarioHolds_round
    {steps : Nat}
    (some_ : 1 ≤ steps)
    (count place : Nat) :
    (roundGraph steps count).ScenarioHolds (roundScenario steps place) where
  start := show ((roundGraph steps count).nodeById roundId).any
      PrototypeNode.isSurface = true from rfl
  initial := fun _ none => by cases none
  head := by
    obtain ⟨others, rfl⟩ : ∃ others, steps = others + 1 :=
      ⟨steps - 1, by omega⟩
    rfl
  nodes := fun id member => by
    rw [List.eq_of_mem_replicate member]
    exact List.mem_singleton_self _
  wired := isWiredPath_replicate ⟨
    ⟨js "open", ⟨roundId, js "open"⟩, .navigate roundId⟩,
    List.mem_singleton_self _, rfl, rfl⟩ steps

theorem accepted_roundGraph
    {steps count : Nat}
    (some_ : 1 ≤ steps)
    (most : steps ≤ 500)
    (someCount : 1 ≤ count)
    (mostCount : count ≤ 100) :
    Accepted sampleHost (roundGraph steps count) := by
  have scenario : ∀ scenario ∈ (roundGraph steps count).scenarios,
      ∃ place, place < 100 ∧ scenario = roundScenario steps place := by
    intro scenario member
    obtain ⟨place, inRange, rfl⟩ := List.mem_map.mp member
    have bound := List.mem_range.mp inRange
    exact ⟨place, by omega, rfl⟩
  -- Everything but the scenarios is that of the graph without scenarios.
  have header : HeaderAccepted sampleHost (roundGraph 1 0) :=
    ⟨by decide, by decide, by decide, by decide, by decide, by decide,
      by decide, by decide, by decide, by decide, by decide⟩
  obtain ⟨id, name, projectId, projectOwner, revisionId, revisionParentId,
    createdAt, revisionSummary, handoffOwner, handoffSummary,
    initialNodeId⟩ := header
  have node : nodeIssues sampleHost []
      ⟨roundId, js "Start", ⟨⟨0, isDouble_zero⟩, ⟨0, isDouble_zero⟩⟩,
        [⟨js "open", js "Open", .click⟩], .screen (js "/orders")⟩ = [] := by
    decide
  have transition : transitionIssues []
      ⟨js "open", ⟨roundId, js "open"⟩, .navigate roundId⟩ = [] := by
    decide
  have rules : (roundGraph 1 0).transitionRules []
      ⟨js "open", ⟨roundId, js "open"⟩, .navigate roundId⟩ = [] := by
    decide
  have ties := (PrototypeGraph.transitionRules_iff _ _ _).mp rules
  refine ⟨⟨⟨id, name, projectId, projectOwner, revisionId, revisionParentId,
      createdAt, revisionSummary, handoffOwner, handoffSummary,
      initialNodeId⟩, ⟨le_refl 1, by simp [roundGraph]⟩, ?_,
      by simp [roundGraph], ?_, ?_, ?_,
      fun _ none => (by cases none), fun _ none => (by cases none)⟩,
    ⟨rfl, List.nodup_singleton _, fun _ none => (by cases none),
      List.nodup_singleton _, List.nodup_singleton _, rfl, ?_,
      List.nodup_singleton _, ?_, ?_, ?_⟩⟩
  · intro other member
    rw [List.mem_singleton.mp member]
    exact (nodeIssues_iff sampleHost [] _).mp node
  · intro other member
    rw [List.mem_singleton.mp member]
    exact (transitionIssues_iff [] _).mp transition
  · simp only [roundGraph, List.length_map, List.length_range]
    omega
  · intro other member
    obtain ⟨place, bound, rfl⟩ := scenario other member
    exact scenarioAccepted_round some_ most bound
  · intro other member parentId isParent
    rw [List.mem_singleton.mp member] at isParent
    cases isParent
  · -- The ids of the scenarios have different lengths.
    rw [roundGraph, List.map_map]
    refine List.nodup_range.map fun first second same => ?_
    have lengths := congrArg List.length same
    simpa [roundScenario] using lengths
  · intro other member
    obtain ⟨place, _, rfl⟩ := scenario other member
    exact scenarioHolds_round some_ count place
  · intro other member
    rw [List.mem_singleton.mp member]
    exact ⟨ties.source, ties.target⟩

theorem clean_roundGraph (steps count : Nat) :
    (roundGraph steps count).clean = roundGraph steps count := by
  have scenarios : ((List.range count).map (roundScenario steps)).map
      PrototypeGraph.trimScenario =
        (List.range count).map (roundScenario steps) := by
    rw [List.map_map]
    refine List.map_congr_left fun place _ => ?_
    have name : trim (js "Round and round") = js "Round and round" := by
      decide
    rw [Function.comp_apply, PrototypeGraph.trimScenario, roundScenario,
      name]
  have rest : (roundGraph steps 0).clean = roundGraph steps 0 := rfl
  calc (roundGraph steps count).clean
      = { (roundGraph steps 0).clean with
          scenarios := ((List.range count).map (roundScenario steps)).map
            PrototypeGraph.trimScenario } := rfl
    _ = roundGraph steps count := by
        rw [scenarios, rest]
        rfl

theorem le_utf8Length_roundGraph
    (format : NumberFormat)
    (steps count : Nat) :
    count * (steps * 44) ≤
      utf8Length (stringifyObject format
        (graphEnvelope (roundGraph steps count))) := by
  have scenario : ∀ scenario ∈ (roundGraph steps count).scenarios,
      steps * 44 ≤ textUnits scenario.toValue := by
    intro scenario member
    obtain ⟨place, -, rfl⟩ := List.mem_map.mp member
    have path := @le_textUnitsItems _ JsValue.string 44
      (List.replicate steps roundId) (fun id isId => by
        rw [List.eq_of_mem_replicate isId]
        decide)
    rw [List.length_replicate] at path
    simp only [PrototypeScenario.toValue, roundScenario, Option.map_none,
      Record.optionalEntry, List.nil_append, List.cons_append, textUnits,
      textUnitsEntries]
    omega
  have scenarios := le_textUnitsItems scenario
  have isCount : (roundGraph steps count).scenarios.length = count := by
    simp [roundGraph]
  rw [isCount] at scenarios
  have whole : textUnitsItems ((roundGraph steps count).scenarios.map
      PrototypeScenario.toValue) ≤
        textUnits (graphEnvelope (roundGraph steps count)) := by
    simp only [graphEnvelope, PrototypeGraph.toValue, textUnits,
      textUnitsEntries, List.cons_append]
    omega
  have written := textUnits_le format
    (graphEnvelope (roundGraph steps count))
  have isObject : (stringify format
      (graphEnvelope (roundGraph steps count))).getD (js "null") =
        stringifyObject format (graphEnvelope (roundGraph steps count)) := by
    simp only [graphEnvelope, stringifyObject, stringify, Option.getD_some]
  rw [isObject] at written
  have bytes := length_le_utf8Length
    (stringifyObject format (graphEnvelope (roundGraph steps count)))
  omega

/-- A hundred scenarios of 500 steps are exported and not imported. -/
theorem transports_refused :
    parsePrototypeGraph sampleHost (roundGraph 500 100) =
        .ok (roundGraph 500 100) ∧
      exportPrototypeGraph sampleHost exactNumerals (roundGraph 500 100) =
        .ok (stringifyObject exactNumerals
          (graphEnvelope (roundGraph 500 100))) ∧
      importPrototypeGraph sampleHost exactNumerals
          (stringifyObject exactNumerals
            (graphEnvelope (roundGraph 500 100))) =
        .error (.root (js "root: graph export is too large")) := by
  have parsed := parsePrototypeGraph_of_accepted
    (accepted_roundGraph (Nat.le_of_ble_eq_true rfl) (le_refl 500)
      (Nat.le_of_ble_eq_true rfl) (le_refl 100)) (clean_roundGraph 500 100)
  have large := le_utf8Length_roundGraph exactNumerals 500 100
  refine ⟨parsed, ?_, ?_⟩
  · rw [exportPrototypeGraph, parsed]
    simp only [Except.mapError, bind, Except.bind]
    rfl
  · rw [importPrototypeGraph, if_pos (by
      unfold maxImportedBytes
      omega)]

end Selene.Prototype
