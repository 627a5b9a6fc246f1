import Selene.PrototypeGraphRules

/-!
# Removing a transition

`removePrototypeTransition` takes a transition out of a graph and cuts the
expected paths of the scenarios where a step is no longer wired.  Of a parsed
graph it makes a graph that parses as it is, with the longest prefixes of the
paths that are still wired (`removePrototypeTransition_repairs`).
-/

namespace Selene.Prototype

open Js

/-! ## The edit -/

/-- What an edit of a graph throws. -/
inductive GraphEditError where
  | refused (message : JsString)
  | invalid (issues : List GraphIssue)
  deriving DecidableEq

namespace PrototypeGraph

variable (graph : PrototypeGraph)

/-- The first step of a path that no transition leads to. -/
def firstUnwiredStep (path : List JsString) : Option Nat :=
  path.zipIdx.findIdx? fun step =>
    decide (0 < step.2) &&
      !decide (graph.IsWired (path.getD (step.2 - 1) []) step.1)

/-- The part of a scenario's path that is still wired. -/
def repairScenario (scenario : PrototypeScenario) : PrototypeScenario :=
  match graph.firstUnwiredStep scenario.expectedPath with
  | none => scenario
  | some index =>
      { scenario with expectedPath := scenario.expectedPath.take index }

/-- The transitions of a graph but those with this id. -/
def withoutTransition (transitionId : JsString) : PrototypeGraph :=
  { graph with
    transitions := graph.transitions.filter fun transition =>
      transition.id ≠ transitionId }

end PrototypeGraph

/-- `removePrototypeTransition`. -/
def removePrototypeTransition
    (host : GraphHost)
    (graphValue : PrototypeGraph)
    (transitionId : JsString) :
    Except GraphEditError PrototypeGraph :=
  if idSchema transitionId = false then
    .error (.refused (js "transition ID is invalid"))
  else if transitionId ∉ graphValue.transitions.map PrototypeTransition.id then
    .error (.refused (js "transition does not exist"))
  else
    let remaining := graphValue.withoutTransition transitionId
    (parsePrototypeGraph host
      { remaining with
        scenarios := graphValue.scenarios.map
          remaining.repairScenario }).mapError .invalid

/-! ## Wired prefixes -/

namespace PrototypeGraph

variable {graph : PrototypeGraph}

/-- The prefix of a path that is wired and that no other such prefix exceeds. -/
structure IsLongestWiredPrefix (graph : PrototypeGraph)
    (path kept : List JsString) : Prop where
  isPrefix : kept <+: path
  wired : graph.IsWiredPath kept
  longest : ∀ other, other <+: path → graph.IsWiredPath other →
    other <+: kept

variable {path : List JsString}

private theorem getD_inside
    {index : Nat}
    (inside : index < path.length) :
    path.getD index [] = path[index] := by
  simp [List.getD_eq_getElem?_getD, inside]

theorem firstUnwiredStep_eq_some
    {index : Nat}
    (found : graph.firstUnwiredStep path = some index) :
    ∃ inside : index < path.length, ∃ later : 0 < index,
      ¬ graph.IsWired (path[index - 1]) path[index] ∧
        graph.IsWiredPath (path.take index) := by
  obtain ⟨bound, unwired, before⟩ :=
    List.findIdx?_eq_some_iff_getElem.mp found
  rw [List.length_zipIdx] at bound
  simp only [List.getElem_zipIdx, Nat.zero_add, Bool.and_eq_true,
    decide_eq_true_eq, Bool.not_eq_true', decide_eq_false_iff_not]
    at unwired before
  obtain ⟨later, broken⟩ := unwired
  have inside : index - 1 < path.length := by omega
  rw [getD_inside inside] at broken
  refine ⟨bound, later, broken, ?_⟩
  rw [IsWiredPath, List.isChain_iff_getElem]
  intro step stepBound
  rw [List.length_take] at stepBound
  rw [List.getElem_take, List.getElem_take]
  have early := before (step + 1) (by omega)
  rw [not_and, not_not, Nat.add_sub_cancel,
    getD_inside (by omega)] at early
  exact early (by omega)

theorem firstUnwiredStep_eq_none
    (none : graph.firstUnwiredStep path = none) :
    graph.IsWiredPath path := by
  rw [firstUnwiredStep, List.findIdx?_eq_none_iff] at none
  rw [IsWiredPath, List.isChain_iff_getElem]
  intro step bound
  have member : (path[step + 1], step + 1) ∈ path.zipIdx :=
    List.mem_zipIdx_iff_getElem?.mpr (List.getElem?_eq_getElem bound)
  have wired := none _ member
  simpa [List.getElem?_eq_getElem (show step < path.length by omega)]
    using wired

/-- What is kept of a path is its longest wired prefix. -/
theorem isLongestWiredPrefix_repairScenario (scenario : PrototypeScenario) :
    graph.IsLongestWiredPrefix scenario.expectedPath
      (graph.repairScenario scenario).expectedPath := by
  rw [repairScenario]
  cases found : graph.firstUnwiredStep scenario.expectedPath with
  | none =>
      exact ⟨List.prefix_rfl, firstUnwiredStep_eq_none found,
        fun _ isPrefix _ => isPrefix⟩
  | some index =>
      obtain ⟨inside, later, broken, wired⟩ := firstUnwiredStep_eq_some found
      refine ⟨List.take_prefix _ _, wired, fun other isPrefix otherWired => ?_⟩
      have short : other.length ≤ index := by
        by_contra long
        rw [IsWiredPath, List.isChain_iff_getElem] at otherWired
        have step := otherWired (index - 1) (by omega)
        rw [isPrefix.getElem, isPrefix.getElem] at step
        simp only [Nat.sub_add_cancel later] at step
        exact broken step
      rw [List.prefix_iff_eq_take] at isPrefix
      rw [isPrefix]
      exact List.take_prefix_take_left short

theorem repairScenario_of_wired
    {scenario : PrototypeScenario}
    (wired : graph.IsWiredPath scenario.expectedPath) :
    graph.repairScenario scenario = scenario := by
  rw [repairScenario]
  cases found : graph.firstUnwiredStep scenario.expectedPath with
  | none => rfl
  | some index =>
      obtain ⟨inside, later, broken, -⟩ := firstUnwiredStep_eq_some found
      rw [IsWiredPath, List.isChain_iff_getElem] at wired
      have step := wired (index - 1) (by omega)
      simp only [Nat.sub_add_cancel later] at step
      exact absurd step broken

theorem repairScenario_eq (scenario : PrototypeScenario) :
    graph.repairScenario scenario =
      { scenario with
        expectedPath := (graph.repairScenario scenario).expectedPath } := by
  rw [repairScenario]
  split <;> rfl

theorem repairScenario_ne_nil
    {scenario : PrototypeScenario}
    (nonempty : scenario.expectedPath ≠ []) :
    (graph.repairScenario scenario).expectedPath ≠ [] := by
  rw [repairScenario]
  split
  · exact nonempty
  · rename_i index found
    obtain ⟨-, later, -, -⟩ := firstUnwiredStep_eq_some found
    simp [List.take_eq_nil_iff, nonempty, later.ne']

/-! ## The repaired graph -/

/-- A graph without a transition, with the paths of its scenarios cut. -/
def repaired (graph : PrototypeGraph) (transitionId : JsString) :
    PrototypeGraph :=
  { graph.withoutTransition transitionId with
    scenarios := graph.scenarios.map
      (graph.withoutTransition transitionId).repairScenario }

theorem trimScenario_repairScenario (scenario : PrototypeScenario) :
    trimScenario (graph.repairScenario scenario) =
      graph.repairScenario (trimScenario scenario) := by
  rw [repairScenario, repairScenario]
  show _ = match graph.firstUnwiredStep scenario.expectedPath with
    | none => trimScenario scenario
    | some index => _
  split <;> rfl

theorem clean_repaired
    (clean : graph.clean = graph)
    (transitionId : JsString) :
    (graph.repaired transitionId).clean = graph.repaired transitionId := by
  have scenarios : graph.scenarios.map trimScenario = graph.scenarios :=
    congrArg PrototypeGraph.scenarios clean
  have kept : (graph.repaired transitionId).scenarios.map trimScenario =
      (graph.repaired transitionId).scenarios := by
    rw [repaired, List.map_map]
    calc graph.scenarios.map
          (trimScenario ∘ (graph.withoutTransition transitionId).repairScenario)
        = (graph.scenarios.map trimScenario).map
            (graph.withoutTransition transitionId).repairScenario := by
          rw [List.map_map]
          exact List.map_congr_left fun scenario _ =>
            trimScenario_repairScenario scenario
      _ = graph.scenarios.map
            (graph.withoutTransition transitionId).repairScenario := by
          rw [scenarios]
  have whole : (graph.repaired transitionId).clean =
      { graph.clean with
        transitions := (graph.repaired transitionId).transitions
        scenarios :=
          (graph.repaired transitionId).scenarios.map trimScenario } := rfl
  rw [whole, kept, clean]
  rfl

theorem fieldsAccepted_repaired
    {host : GraphHost}
    (accepted : Accepted host graph)
    (transitionId : JsString) :
    FieldsAccepted host (graph.repaired transitionId) := by
  obtain ⟨⟨header, nodeCount, nodes, transitionCount, transitions,
    scenarioCount, scenarios, fixtureKeys, positions⟩, rules⟩ := accepted
  obtain ⟨id, name, projectId, projectOwner, revisionId, revisionParentId,
    createdAt, revisionSummary, handoffOwner, handoffSummary,
    initialNodeId⟩ := header
  refine ⟨⟨id, name, projectId, projectOwner, revisionId, revisionParentId,
    createdAt, revisionSummary, handoffOwner, handoffSummary, initialNodeId⟩,
    nodeCount, nodes, (List.length_filter_le _ _).trans transitionCount,
    fun transition member => transitions transition
      (List.mem_of_mem_filter member), ?_, ?_, fixtureKeys, positions⟩
  · rw [repaired, List.length_map]
    exact scenarioCount
  · intro scenario member
    obtain ⟨old, isOld, rfl⟩ := List.mem_map.mp member
    have fields := scenarios old isOld
    have isPrefix := (@isLongestWiredPrefix_repairScenario
      (graph.withoutTransition transitionId) old).isPrefix
    have nonempty := @repairScenario_ne_nil
      (graph.withoutTransition transitionId) _
      (List.length_pos_iff.mp fields.pathLength.1)
    rw [repairScenario_eq]
    exact ⟨fields.id, fields.name, fields.startNodeId, fields.initialStateId,
      ⟨List.length_pos_iff.mpr nonempty,
        isPrefix.length_le.trans fields.pathLength.2⟩,
      fun id inside => fields.path id (isPrefix.subset inside)⟩

theorem rulesHold_repaired
    {host : GraphHost}
    (accepted : Accepted host graph)
    (transitionId : JsString) :
    (graph.repaired transitionId).RulesHold := by
  obtain ⟨fields, fixtures, nodeIds, covers, transitionIds, actionPorts,
    initialNode, parents, routes, scenarioIds, scenarios, transitions⟩ :=
    accepted
  have remaining :
      (graph.repaired transitionId).transitions.Sublist graph.transitions :=
    List.filter_sublist
  refine ⟨fixtures, nodeIds, fun viewState member => ?_,
    transitionIds.sublist (remaining.map _),
    actionPorts.sublist (remaining.map _), initialNode, parents, routes, ?_,
    ?_, fun transition member => ?_⟩
  · exact ⟨(covers viewState member).count, (covers viewState member).nodes⟩
  · have sameIds : (graph.repaired transitionId).scenarios.map
        PrototypeScenario.id = graph.scenarios.map PrototypeScenario.id := by
      rw [repaired, List.map_map]
      refine List.map_congr_left fun scenario _ => ?_
      rw [Function.comp_apply, repairScenario_eq]
    rw [sameIds]
    exact scenarioIds
  · intro scenario member
    obtain ⟨old, isOld, rfl⟩ := List.mem_map.mp member
    obtain ⟨start, initial, head, nodes, -⟩ := scenarios old isOld
    obtain ⟨isPrefix, wired, -⟩ := @isLongestWiredPrefix_repairScenario
      (graph.withoutTransition transitionId) old
    have nonempty := @repairScenario_ne_nil
      (graph.withoutTransition transitionId) _
      (List.length_pos_iff.mp (fields.scenarios old isOld).pathLength.1)
    rw [repairScenario_eq]
    refine ⟨start, initial, ?_, fun id inside => nodes id
      (isPrefix.subset inside), wired⟩
    obtain ⟨rest, same⟩ := isPrefix
    rw [← same, List.head?_append_of_ne_nil _ nonempty] at head
    exact head
  · obtain ⟨source, target⟩ :=
      transitions transition (List.mem_of_mem_filter member)
    exact ⟨source, target⟩

/-- A step of a path that only one transition wires. -/
def Needs (graph : PrototypeGraph) (transition : PrototypeTransition)
    (path : List JsString) : Prop :=
  ∃ step ∈ path.zip path.tail, ∀ other ∈ graph.transitions,
    other.origin.nodeId = step.1 → other.kind.target? = some step.2 →
      other = transition

theorem withoutTransition_transitions
    (distinct : (graph.transitions.map PrototypeTransition.id).Nodup)
    {transition : PrototypeTransition}
    (isTransition : transition ∈ graph.transitions) :
    (graph.withoutTransition transition.id).transitions =
      graph.transitions.filter fun other => other ≠ transition := by
  refine List.filter_congr fun other isOther => ?_
  refine decide_eq_decide.mpr (not_congr ⟨fun same => ?_, congrArg _⟩)
  exact List.inj_on_of_nodup_map distinct isOther isTransition same

end PrototypeGraph

/--
Removing a transition of a parsed graph makes a graph that parses as it is,
where that transition is gone and nothing else has changed but the paths of
scenarios: each is cut to its longest prefix that is still wired, and a scenario
with no step that needs the transition stays as it is.
-/
theorem removePrototypeTransition_repairs
    {host : GraphHost}
    {value graph : PrototypeGraph}
    (parsed : parsePrototypeGraph host value = .ok graph)
    {transition : PrototypeTransition}
    (isTransition : transition ∈ graph.transitions) :
    ∃ repaired,
      removePrototypeTransition host graph transition.id = .ok repaired ∧
      parsePrototypeGraph host repaired = .ok repaired ∧
      repaired =
        { graph with
          transitions := graph.transitions.filter fun other =>
            other ≠ transition
          scenarios := repaired.scenarios } ∧
      List.Forall₂ (fun old new =>
          new = { old with expectedPath := new.expectedPath } ∧
          repaired.IsLongestWiredPrefix old.expectedPath new.expectedPath ∧
          (¬ graph.Needs transition old.expectedPath → new = old))
        graph.scenarios repaired.scenarios := by
  obtain ⟨accepted, clean⟩ := accepted_of_parsePrototypeGraph parsed
  have again : parsePrototypeGraph host (graph.repaired transition.id) =
      .ok (graph.repaired transition.id) :=
    parsePrototypeGraph_of_accepted
      ⟨PrototypeGraph.fieldsAccepted_repaired accepted _,
        PrototypeGraph.rulesHold_repaired accepted _⟩
      (PrototypeGraph.clean_repaired clean _)
  have remaining := PrototypeGraph.withoutTransition_transitions
    accepted.rules.transitionIds isTransition
  refine ⟨graph.repaired transition.id, ?_, again, ?_, ?_⟩
  · have isId := (accepted.fields.transitions transition isTransition).id
    rw [removePrototypeTransition, if_neg (by simp [isId]),
      if_neg (not_not.mpr (List.mem_map_of_mem isTransition))]
    show (parsePrototypeGraph host
      (graph.repaired transition.id)).mapError GraphEditError.invalid = _
    rw [again]
    rfl
  · rw [← remaining]
    rfl
  · refine List.forall₂_map_right_iff.mpr (List.forall₂_same.mpr
      fun scenario member => ⟨PrototypeGraph.repairScenario_eq scenario,
        PrototypeGraph.isLongestWiredPrefix_repairScenario scenario,
        fun free => PrototypeGraph.repairScenario_of_wired ?_⟩)
    refine PrototypeGraph.isChain_iff_zip.mpr fun step isStep => ?_
    by_contra unwired
    refine free ⟨step, isStep, fun other isOther origin target => ?_⟩
    by_contra different
    refine unwired ⟨other, ?_, origin, target⟩
    rw [remaining]
    exact List.mem_filter.mpr ⟨isOther, decide_eq_true different⟩

/-- The transition that sets the state of the sample. -/
def sampleTransition : PrototypeTransition :=
  ⟨js "show-empty", ⟨js "orders", js "empty"⟩, .setState (js "orders-empty")⟩

/-- Without its only transition the path of the sample ends at its start. -/
theorem removePrototypeTransition_repairs_sample :
    (removePrototypeTransition sampleHost sampleGraph
      (js "show-empty")).toOption.map
        (fun repaired => repaired.transitions.length) = some 0 ∧
      (sampleGraph.repaired (js "show-empty")).scenarios.map
        PrototypeScenario.expectedPath = [[js "orders"]] := by
  refine ⟨?_, by decide⟩
  obtain ⟨repaired, removed, -, only, -⟩ :=
    @removePrototypeTransition_repairs _ _ _ parse_sampleGraph
      sampleTransition (List.mem_singleton_self _)
  have isSample : sampleTransition.id = js "show-empty" := rfl
  rw [isSample] at removed
  have gone : (sampleGraph.transitions.filter fun other =>
      other ≠ sampleTransition).length = 0 := by
    decide
  rw [removed, only]
  exact congrArg some gone

/-! ## Removing several transitions -/

namespace PrototypeGraph

variable {graph : PrototypeGraph}

end PrototypeGraph

end Selene.Prototype
