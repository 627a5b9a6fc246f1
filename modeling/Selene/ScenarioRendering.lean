import Selene.ScenarioPaths

/-!
# Rendering the expected path of a scenario

Where every node and port of a graph is bound and no runtime guards are
declared, a scenario whose path is wired is rendered exactly when no step of
the path closes an overlay.
-/

namespace Selene.Prototype

open Js Generation

variable {host : GraphHost} {manifest : ReactBindingManifest}
  {context : ReactBindingContext} {prepared : PreparedReactBinding}
  {snapshot : PrototypeRuntimeSnapshot} {scenario : PrototypeScenario}
  {graph : PrototypeGraph}

/-- No runtime guards are declared. -/
structure ReactBindingCompilerEvidence.Unguarded
    (evidence : ReactBindingCompilerEvidence) : Prop where
  nodes : ∀ marker ∈ evidence.nodeMarkers, marker.guards = []
  actions : ∀ marker ∈ evidence.actionMarkers, marker.guards = []

/-- The marker of the source node that a node is bound to. -/
def surfaceMarkerOf (prepared : PreparedReactBinding) (nodeId : JsString) :
    Option NodeMarker :=
  (prepared.manifest.nodeBindings.find? fun item =>
    decide (item.graphNodeId = nodeId)).bind fun binding =>
      prepared.evidenceNodes.find? binding.sourceNodeId

/-- Every node and port of the graph is bound to a marker without guards. -/
structure Bound (prepared : PreparedReactBinding) : Prop where
  surfaces : ∀ node ∈ prepared.graph.nodes,
    ∃ marker, surfaceMarkerOf prepared node.id = some marker ∧
      marker.guards = []
  actions : ∀ node ∈ prepared.graph.nodes, ∀ port ∈ node.ports,
    ∃ marker, actionMarkerOf prepared ⟨node.id, port.id⟩ = some marker ∧
      marker.guards = []

/-! ## What preparing checks -/

/-- What a prepared binding has passed. -/
structure Prepares (host : GraphHost) (manifest : ReactBindingManifest)
    (context : ReactBindingContext) (prepared : PreparedReactBinding) :
    Prop where
  graph : parsePrototypeGraph host context.graph = .ok prepared.graph
  schema : reactBindingManifestSchema manifest = true
  isPrepared :
    let lookup := bindingLookup manifest context.workspace
      context.compilerEvidence
    prepared = ⟨manifest, prepared.graph, lookup.evidenceNodes,
      lookup.evidenceActions⟩
  nodes : ∀ node ∈ prepared.graph.nodes,
    checkNodeBinding (bindingLookup manifest context.workspace
      context.compilerEvidence) node = .ok ()
  actions : ∀ node ∈ prepared.graph.nodes, ∀ port ∈ node.ports,
    checkActionBinding (bindingLookup manifest context.workspace
      context.compilerEvidence) node port = .ok ()

theorem prepares_of_prepareReactBinding
    (done : prepareReactBinding host manifest context = .ok prepared) :
    Prepares host manifest context prepared := by
  simp only [prepareReactBinding, parseReactBindingManifest,
    parseReactBindingCompilerEvidence, bind_assoc, pure_bind] at done
  obtain ⟨schema, done⟩ := check_bind_eq_ok.mp done
  obtain ⟨graph, parsed, done⟩ := bind_eq_ok.mp done
  obtain ⟨_, _, done⟩ := bind_eq_ok.mp done
  obtain ⟨_, done⟩ := check_bind_eq_ok.mp done
  obtain ⟨_, done⟩ := check_bind_eq_ok.mp done
  obtain ⟨_, done⟩ := check_bind_eq_ok.mp done
  obtain ⟨_, done⟩ := check_bind_eq_ok.mp done
  obtain ⟨_, done⟩ := check_bind_eq_ok.mp done
  obtain ⟨_, done⟩ := check_bind_eq_ok.mp done
  obtain ⟨_, nodes, done⟩ := bind_eq_ok.mp done
  obtain ⟨_, done⟩ := check_bind_eq_ok.mp done
  obtain ⟨_, actions, done⟩ := bind_eq_ok.mp done
  obtain ⟨_, done⟩ := check_bind_eq_ok.mp done
  cases Except.ok.inj done
  refine ⟨mapError_eq_ok.mp parsed, schema, rfl, forM_eq_ok.mp nodes, ?_⟩
  exact fun node member => forM_eq_ok.mp (forM_eq_ok.mp actions node member)

/-! ## Every node and port is bound -/

theorem zero_not_mem_of_nodeIdSchema
    {id : JsString}
    (accepted : nodeIdSchema id = true) :
    0 ∉ id := by
  cases id with
  | nil => exact List.not_mem_nil
  | cons first rest =>
      simp only [nodeIdSchema, Bool.and_eq_true, Bool.or_eq_true,
        List.all_eq_true] at accepted
      intro member
      rcases List.mem_cons.mp member with isFirst | inRest
      · rw [← isFirst] at accepted
        exact absurd accepted.1.1 (by decide)
      · exact absurd (accepted.2 0 inRest) (by decide)

theorem actionKey_inj
    {nodeId otherId portId otherPortId : JsString}
    (plain : 0 ∉ nodeId)
    (plainPort : 0 ∉ portId)
    (same : actionKey nodeId portId = actionKey otherId otherPortId) :
    nodeId = otherId ∧ portId = otherPortId := by
  obtain ⟨ids, _, ports⟩ :=
    (List.append_cons_inj_of_notMem plain plainPort).mp same
  exact ⟨ids, ports⟩

/-- What the schema of manifests promises about the bindings. -/
structure DistinctBindings (manifest : ReactBindingManifest) : Prop where
  nodes : (manifest.nodeBindings.map ReactBindingNode.graphNodeId).Nodup
  actions : (manifest.actionBindings.map ReactBindingAction.key).Nodup
  plain : ∀ binding ∈ manifest.actionBindings,
    0 ∉ binding.graphNodeId ∧ 0 ∉ binding.portId

theorem distinctBindings_of_schema
    (schema : reactBindingManifestSchema manifest = true) :
    DistinctBindings manifest := by
  simp only [reactBindingManifestSchema, Bool.and_eq_true, decide_eq_true_eq,
    List.all_eq_true] at schema
  obtain ⟨⟨⟨⟨_, ids⟩, nodes⟩, _⟩, actions⟩ := schema
  exact ⟨nodes, actions, fun binding member =>
    ⟨zero_not_mem_of_nodeIdSchema (ids binding member).1.1,
      zero_not_mem_of_nodeIdSchema (ids binding member).1.2⟩⟩

theorem find?_setAll
    {α : Type}
    {keyOf : α → JsString}
    {rows : List α}
    (distinct : (rows.map keyOf).Nodup)
    (key : JsString) :
    ((Table.empty : Table keyOf).setAll rows).find? key =
      rows.find? fun row => decide (keyOf row = key) := by
  rw [Table.find?, Table.rows_setAll_of_fresh distinct fun _ _ => rfl]
  rfl

section

variable (prepares : Prepares host manifest context prepared)

include prepares

theorem Prepares.surfaceMarkerOf
    {node : PrototypeNode}
    (member : node ∈ prepared.graph.nodes) :
    ∃ marker ∈ context.compilerEvidence.nodeMarkers,
      Prototype.surfaceMarkerOf prepared node.id = some marker := by
  have checked := prepares.nodes node member
  have distinct := distinctBindings_of_schema prepares.schema
  rw [checkNodeBinding] at checked
  split at checked
  · cases checked
  · rename_i binding bound
    split at checked
    · cases checked
    · rename_i source isSource
      obtain ⟨marker, found, _⟩ := check_eq_ok.mp checked
      obtain ⟨_, sameId⟩ := Table.find?_eq_some.mp isSource
      obtain ⟨isMarker, _⟩ := Table.find?_eq_some.mp found
      refine ⟨marker, ?_, ?_⟩
      · exact (Table.mem_of_mem_setAll isMarker).elim id
          fun none => absurd none List.not_mem_nil
      · rw [Prototype.surfaceMarkerOf, prepares.isPrepared]
        rw [bindingLookup, find?_setAll distinct.nodes] at bound
        rw [bound, Option.bind_some, ← sameId]
        exact found

theorem Prepares.actionMarkerOf
    {node : PrototypeNode}
    (member : node ∈ prepared.graph.nodes)
    {port : PrototypeActionPort}
    (isPort : port ∈ node.ports) :
    ∃ marker ∈ context.compilerEvidence.actionMarkers,
      Prototype.actionMarkerOf prepared ⟨node.id, port.id⟩ = some marker := by
  have checked := prepares.actions node member port isPort
  have distinct := distinctBindings_of_schema prepares.schema
  rw [checkActionBinding] at checked
  split at checked
  · cases checked
  · rename_i action bound
    split at checked
    · cases checked
    · obtain ⟨marker, found, sameSource, _⟩ := check_eq_ok.mp checked
      obtain ⟨isMarker, _⟩ := Table.find?_eq_some.mp found
      obtain ⟨isAction, sameKey⟩ := Table.find?_eq_some.mp bound
      have isAction := (Table.mem_of_mem_setAll isAction).elim id
        fun none => absurd none List.not_mem_nil
      have isFound : (manifest.actionBindings.find? fun item =>
          decide (item.graphNodeId = node.id ∧ item.portId = port.id)) =
            some action := by
        cases outcome : manifest.actionBindings.find? fun item =>
            decide (item.graphNodeId = node.id ∧ item.portId = port.id) with
        | none =>
            have absent := List.find?_eq_none.mp outcome action isAction
            have plain := distinct.plain action isAction
            have ids := actionKey_inj plain.1 plain.2 sameKey
            simp [ids] at absent
        | some other =>
            have ids := of_decide_eq_true (List.find?_some
              (p := fun item : ReactBindingAction =>
                decide (item.graphNodeId = node.id ∧ item.portId = port.id))
              outcome)
            have otherKey : other.key = action.key := by
              rw [sameKey, ReactBindingAction.key, ids.1, ids.2]
            rw [List.inj_on_of_nodup_map distinct.actions
              (List.mem_of_find?_eq_some outcome) isAction otherKey]
      refine ⟨marker, ?_, ?_⟩
      · exact (Table.mem_of_mem_setAll isMarker).elim id
          fun none => absurd none List.not_mem_nil
      · rw [Prototype.actionMarkerOf, prepares.isPrepared]
        rw [isFound, Option.bind_some]
        exact (congrArg _ found).trans
          (Option.filter_some_pos (decide_eq_true sameSource))

theorem Prepares.bound
    (unguarded : context.compilerEvidence.Unguarded) :
    Bound prepared := by
  constructor
  · intro node member
    obtain ⟨marker, isMarker, found⟩ := prepares.surfaceMarkerOf member
    exact ⟨marker, found, unguarded.nodes marker isMarker⟩
  · intro node member port isPort
    obtain ⟨marker, isMarker, found⟩ := prepares.actionMarkerOf member isPort
    exact ⟨marker, found, unguarded.actions marker isMarker⟩

end

/-! ## Surfaces that can be rendered -/

theorem mem_activeRuntimeSurfaceIds
    {id : JsString} :
    id ∈ activeRuntimeSurfaceIds snapshot ↔
      snapshot.IsActiveActionSurface id := by
  simp [activeRuntimeSurfaceIds, PrototypeRuntimeSnapshot.IsActiveActionSurface,
    List.mem_filterMap, eq_comm]

theorem PrototypeGraph.exists_node
    {id : JsString}
    {node : PrototypeNode}
    (found : graph.nodeById id = some node) :
    node ∈ graph.nodes ∧ node.id = id :=
  ⟨List.mem_of_find?_eq_some found, of_decide_eq_true
    (List.find?_some (p := fun node : PrototypeNode => decide (node.id = id))
      found)⟩

theorem WellFormed.exists_node
    (wellFormed : WellFormed graph snapshot)
    {id : JsString}
    (active : snapshot.IsActiveActionSurface id) :
    ∃ node ∈ graph.nodes, node.id = id := by
  suffices isNode : ∃ node, graph.nodeById id = some node by
    obtain ⟨node, found⟩ := isNode
    exact ⟨node, PrototypeGraph.exists_node found⟩
  rcases active with isNode | isState | isOverlay
  · have surface := wellFormed.activeNode
    rw [← isNode, PrototypeGraph.IsSurfaceId] at surface
    exact ((Option.any_eq_true _ _).mp surface).imp fun _ found => found.1
  · have state := wellFormed.state id isState.symm
    obtain ⟨node, found, _⟩ := Option.bind_eq_some_iff.mp state
    exact ⟨node, found⟩
  · have overlay := wellFormed.overlay id isOverlay.symm
    exact ((Option.any_eq_true _ _).mp overlay).imp fun _ found => found.1

section

variable (bound : Bound prepared)

include bound

/-- Without guards every well-formed snapshot has its surfaces rendered. -/
theorem Bound.surface
    (wellFormed : WellFormed prepared.graph snapshot) :
    assertPreparedRuntimeSurface prepared snapshot none = .ok () := by
  have nodes : ∀ id ∈ activeRuntimeSurfaceIds snapshot,
      id ∈ prepared.graph.nodeIds := by
    intro id active
    obtain ⟨node, member, rfl⟩ :=
      wellFormed.exists_node (mem_activeRuntimeSurfaceIds.mp active)
    exact List.mem_map_of_mem member
  have surfaces : (activeRuntimeSurfaceIds snapshot).forM
      (assertSurface prepared snapshot) = .ok () := by
    refine forM_eq_ok.mpr fun id active => ?_
    obtain ⟨node, member, rfl⟩ :=
      wellFormed.exists_node (mem_activeRuntimeSurfaceIds.mp active)
    obtain ⟨marker, found, unguarded⟩ := bound.surfaces node member
    rw [surfaceMarkerOf] at found
    rw [assertSurface, found]
    simp only [assertRuntimeGuards, unguarded]
    rfl
  rw [assertPreparedRuntimeSurface, check_of nodes, surfaces]
  rfl

theorem Bound.action
    (wiring : Wiring prepared.graph)
    (wellFormed : WellFormed prepared.graph snapshot)
    {transition : PrototypeTransition}
    (member : transition ∈ prepared.graph.transitions)
    (active : snapshot.IsActiveActionSurface transition.origin.nodeId) :
    assertPreparedRuntimeSurface prepared snapshot
      (some transition.origin) = .ok () := by
  obtain ⟨node, found, isPort⟩ := wiring.sources transition member
  obtain ⟨isNode, sameId⟩ := PrototypeGraph.exists_node found
  obtain ⟨port, inPorts, samePort⟩ := List.mem_map.mp isPort
  obtain ⟨marker, isMarker, unguarded⟩ := bound.actions node isNode port inPorts
  rw [sameId, samePort] at isMarker
  have surface := bound.surface wellFormed
  obtain ⟨nodes, surface⟩ := check_bind_eq_ok.mp surface
  obtain ⟨_, surfaces, _⟩ := bind_eq_ok.mp surface
  have isAction : assertAction prepared snapshot transition.origin = .ok () := by
    rw [assertAction, check_of (mem_activeRuntimeSurfaceIds.mpr active), check_of ⟨node, found, isPort⟩]
    rw [ok_bind, ok_bind, isMarker]
    simp only [assertRuntimeGuards, unguarded]
    rfl
  rw [assertPreparedRuntimeSurface, check_of nodes, ok_bind, surfaces, ok_bind]
  exact isAction

/-! ## Rendering a path -/

theorem renderStep_eq_ok
    {runtime next : PrototypeRuntime}
    (sameGraph : runtime.graph = prepared.graph)
    (typed : runtime.graph.Typed)
    (wiring : Wiring runtime.graph)
    (wellFormed : WellFormed runtime.graph runtime.snapshotValue)
    {transition : PrototypeTransition}
    {origin target : JsString}
    (isOnly : transitionsBetween runtime.graph origin target = [transition])
    (member : transition ∈ runtime.graph.transitions)
    (isOrigin : transition.origin.nodeId = origin)
    (active : runtime.snapshot.IsActiveActionSurface origin) :
    renderStep prepared runtime origin target = .ok next ↔
      Reaches runtime transition target ∧
        next = (runtime.dispatch (.trigger transition.origin.nodeId
          transition.origin.portId)).1 := by
  obtain ⟨succeeds, fails⟩ := dispatch_transition wiring member
  rw [sameGraph] at wiring wellFormed isOnly member typed
  have asserted : assertPreparedRuntimeSurface prepared runtime.snapshot
      (some transition.origin) = .ok () :=
    bound.action wiring wellFormed member (isOrigin ▸ active)
  rw [renderStep, check_of (mem_activeRuntimeSurfaceIds.mpr active), ok_bind,
    isOnly]
  simp only [asserted, ok_bind, Reaches]
  cases applied : runtime.snapshotValue.applySnapshotTransition runtime.graph
      transition with
  | error error =>
      rw [fails error applied]
      simp [Except.mapError]
  | ok following =>
      have nextWellFormed : WellFormed prepared.graph following := by
        rw [sameGraph] at applied
        exact wellFormed.applySnapshotTransition typed member applied
      rw [succeeds following applied]
      simp only [PrototypeRuntime.moveTo, PrototypeRuntime.snapshot,
        Except.mapError, ok_bind, true_and, check_bind_eq_ok,
        bound.surface nextWellFormed, mem_activeRuntimeSurfaceIds, pure,
        Except.pure, Except.ok.injEq]
      exact and_congr_right fun _ => eq_comm

theorem renderPath_iff
    {runtime : PrototypeRuntime}
    (sameGraph : runtime.graph = prepared.graph)
    (typed : runtime.graph.Typed)
    (wiring : Wiring runtime.graph)
    (wellFormed : WellFormed runtime.graph runtime.snapshotValue)
    {path : List JsString}
    (wired : runtime.graph.IsUniquelyWired path)
    (start : ∀ id ∈ path.head?, runtime.snapshot.IsActiveActionSurface id) :
    (∃ final, renderPath prepared runtime path = .ok final) ↔
      FollowsPath runtime path := by
  induction path generalizing runtime with
  | nil =>
      refine iff_of_true ⟨runtime, rfl⟩ ⟨start, fun index entry found => ?_⟩
      cases found
  | cons origin path inductionHypothesis =>
      cases path with
      | nil =>
          refine iff_of_true ⟨runtime, rfl⟩
            ⟨start, fun index entry found => ?_⟩
          cases found
      | cons target rest =>
          rw [PrototypeGraph.IsUniquelyWired, List.tail_cons,
            List.zip_cons_cons, List.forall_mem_cons] at wired
          obtain ⟨transition, isOnly, member, isOrigin, targeted⟩ :=
            transitionsBetween_eq_singleton wired.1
          have active := start origin rfl
          obtain ⟨nextGraph, nextWellFormed⟩ := wellFormed_dispatch typed
            wellFormed (.trigger transition.origin.nodeId
              transition.origin.portId)
          have step := @renderStep_eq_ok prepared bound runtime
          have later := @inductionHypothesis (runtime.dispatch
            (.trigger transition.origin.nodeId transition.origin.portId)).1
          rw [nextGraph] at later
          rw [followsPath_cons isOnly nextGraph, and_iff_right active]
          simp only [renderPath, bind_eq_ok]
          constructor
          · rintro ⟨final, next, stepped, rested⟩
            obtain ⟨reached, rfl⟩ := (step sameGraph typed wiring wellFormed
              isOnly member isOrigin active).mp stepped
            refine ⟨reached, (later sameGraph typed wiring nextWellFormed
              wired.2 ?_).mp ⟨final, rested⟩⟩
            rintro id ⟨⟩
            exact reached.2
          · rintro ⟨reached, follows⟩
            obtain ⟨final, rested⟩ := (later sameGraph typed wiring
              nextWellFormed wired.2 follows.start).mpr follows
            exact ⟨final, _, (step sameGraph typed wiring wellFormed isOnly
              member isOrigin active).mpr ⟨reached, rfl⟩, rested⟩

end

/-! ## Declared scenarios -/

theorem Wiring.find?_scenario
    (wiring : Wiring graph)
    (declared : scenario ∈ graph.scenarios) :
    (graph.scenarios.find? fun item => decide (item.id = scenario.id)) =
      some scenario := by
  cases found : graph.scenarios.find? fun item =>
      decide (item.id = scenario.id) with
  | none =>
      have absent := List.find?_eq_none.mp found scenario declared
      simp at absent
  | some other =>
      have sameId := of_decide_eq_true (List.find?_some
        (p := fun item : PrototypeScenario => decide (item.id = scenario.id))
        found)
      rw [List.inj_on_of_nodup_map wiring.scenarios
        (List.mem_of_find?_eq_some found) declared sameId]

/-- The runtime of a declared scenario starts on its path. -/
theorem exists_runtime
    {value graph : PrototypeGraph}
    (accepted : parsePrototypeGraph host value = .ok graph)
    (declared : scenario ∈ graph.scenarios) :
    ∃ runtime, createPrototypeRuntime host value (some scenario.id) =
        .ok runtime ∧ runtime.graph = graph ∧
      WellFormed graph runtime.snapshotValue ∧
      ∀ id ∈ scenario.expectedPath.head?,
        runtime.snapshot.IsActiveActionSurface id := by
  have wiring := wiring_of_parsePrototypeGraph accepted
  have found : scenarioFor graph (some scenario.id) = .ok (some scenario) := by
    simp only [scenarioFor, wiring.find?_scenario declared]
  have known : ∀ id ∈ some scenario.id,
      id ∈ graph.scenarios.map PrototypeScenario.id := by
    rintro id ⟨⟩
    exact List.mem_map_of_mem declared
  obtain ⟨snapshot, initial, starts⟩ : ∃ snapshot,
      initialRuntimeSnapshot graph (some scenario.id) = .ok snapshot ∧
        snapshot.activeNodeId = scenario.startNodeId := by
    rw [initialRuntimeSnapshot, found]
    exact ⟨_, rfl, rfl⟩
  refine ⟨⟨graph, snapshot⟩, ?_, rfl, ?_, ?_⟩
  · rw [createPrototypeRuntime, accepted]
    simp only [Except.mapError, ok_bind, check_of known, initial]
    rfl
  · exact (wellFormed_initialRuntimeSnapshot
      (typed_of_parsePrototypeGraph accepted) initial).1
  · intro id isFirst
    rw [wiring.starts scenario declared] at isFirst
    cases isFirst
    exact .inl starts.symm

theorem renderabilityFailure_ne
    {scenarioId otherId : JsString}
    {failure : BindingFailure} :
    renderabilityFailure scenarioId failure ≠ .renderable otherId := by
  unfold renderabilityFailure
  split <;> simp only [ne_eq, reduceCtorEq, not_false_eq_true]

/-- A scenario is renderable if nothing was thrown on the way. -/
theorem evaluate_eq_renderable
    {scenarioId : JsString} :
    evaluateReactScenarioRenderability host (some manifest) context
        scenarioId = .renderable scenarioId ↔
      renderScenario host manifest context scenarioId =
        .ok (.renderable scenarioId) := by
  rw [show evaluateReactScenarioRenderability host (some manifest) context
    scenarioId = caught scenarioId
      (renderScenario host manifest context scenarioId) from rfl]
  cases renderScenario host manifest context scenarioId with
  | ok result => simp [caught]
  | error failure => exact iff_of_false renderabilityFailure_ne (by simp)

theorem renderScenario_iff
    (done : prepareReactBinding host manifest context = .ok prepared)
    (found : (prepared.graph.scenarios.find? fun item =>
      decide (item.id = scenario.id)) = some scenario)
    {runtime : PrototypeRuntime}
    (created : createPrototypeRuntime host prepared.graph
      (some scenario.id) = .ok runtime)
    (surface : assertPreparedRuntimeSurface prepared runtime.snapshot none =
      .ok ()) :
    renderScenario host manifest context scenario.id =
        .ok (.renderable scenario.id) ↔
      ∃ final, renderPath prepared runtime scenario.expectedPath =
        .ok final := by
  rw [renderScenario, done]
  simp only [ok_bind, found, created, Except.mapError, surface]
  cases renderPath prepared runtime scenario.expectedPath with
  | ok final => simp [pure, Except.pure]
  | error failure => simp

/--
A declared scenario whose path is uniquely wired can be run, and rendered where
everything is bound without guards, exactly when no step closes an overlay.
-/
theorem declaredScenario_runs
    {host : GraphHost}
    {value graph : PrototypeGraph}
    (accepted : parsePrototypeGraph host value = .ok graph)
    {scenario : PrototypeScenario}
    (declared : scenario ∈ graph.scenarios)
    (wired : graph.IsUniquelyWired scenario.expectedPath) :
    (∃ runtime, createPrototypeRuntime host value (some scenario.id) =
          .ok runtime ∧ runtime.graph = graph ∧
        (FollowsPath runtime scenario.expectedPath ↔
          graph.NeverCloses scenario.expectedPath)) ∧
      ∀ manifest context prepared, context.graph = value →
        prepareReactBinding host manifest context = .ok prepared →
        context.compilerEvidence.Unguarded →
        (evaluateReactScenarioRenderability host (some manifest) context
            scenario.id = .renderable scenario.id ↔
          graph.NeverCloses scenario.expectedPath) := by
  have typed := typed_of_parsePrototypeGraph accepted
  have wiring := wiring_of_parsePrototypeGraph accepted
  have again := (parsePrototypeGraph_again accepted).2
  constructor
  · obtain ⟨runtime, created, rfl, wellFormed, start⟩ :=
      exists_runtime accepted declared
    exact ⟨runtime, created, rfl,
      followsPath_iff typed wiring wellFormed wired start⟩
  · rintro manifest context prepared rfl done unguarded
    have prepares := prepares_of_prepareReactBinding done
    cases Except.ok.inj (prepares.graph.symm.trans accepted)
    have bound := prepares.bound unguarded
    obtain ⟨runtime, created, sameGraph, wellFormed, start⟩ :=
      exists_runtime again declared
    have surface : assertPreparedRuntimeSurface prepared runtime.snapshot
        none = .ok () :=
      bound.surface wellFormed
    rw [evaluate_eq_renderable, renderScenario_iff done
      (wiring.find?_scenario declared) created surface]
    rw [← sameGraph] at typed wiring wellFormed wired
    rw [renderPath_iff bound sameGraph typed wiring wellFormed wired start,
      ← sameGraph]
    exact followsPath_iff typed wiring wellFormed wired start

/-! ### A path that dismisses its overlay -/

/-- A screen that opens an overlay, which dismisses itself. -/
def savedGraph : PrototypeGraph where
  id := js "orders-flow"
  name := js "Orders prototype"
  project := ⟨js "northstar", js "Mina"⟩
  revision := ⟨js "orders-r1", none, js "2026-07-24T05:00:00.000Z",
    js "Initial"⟩
  handoff := ⟨.draft, js "Mina", js "Ready"⟩
  initialNodeId := js "orders"
  nodes := [
    ⟨js "orders", js "Orders", ⟨⟨0, isDouble_zero⟩, ⟨0, isDouble_zero⟩⟩,
      [⟨js "save", js "Save", .click⟩], .screen (js "/orders")⟩,
    ⟨js "saved", js "Saved", ⟨⟨0, isDouble_zero⟩, ⟨0, isDouble_zero⟩⟩,
      [⟨js "dismiss", js "Dismiss", .click⟩], .overlay true⟩]
  transitions := [
    ⟨js "save-order", ⟨js "orders", js "save"⟩, .openOverlay (js "saved")⟩,
    ⟨js "dismiss-saved", ⟨js "saved", js "dismiss"⟩,
      .closeOverlay (js "saved")⟩]
  scenarios := [
    ⟨js "save", js "Save", js "orders", none, [js "orders", js "saved"]⟩,
    ⟨js "dismiss", js "Dismiss", js "orders", none,
      [js "orders", js "saved", js "saved"]⟩]
  fixtures := []
  viewState := none

/-- The runtime of its scenarios. -/
def savedRuntime (scenarioId : String) : PrototypeRuntime where
  graph := savedGraph
  snapshotValue := ⟨js "orders", none, none, some (js scenarioId),
    [js "orders"], [0], [], []⟩

theorem parse_savedGraph :
    parsePrototypeGraph sampleHost savedGraph = .ok savedGraph :=
  rfl

/-- The scenario that ends with the overlay closed is not followed. -/
theorem dismissed_not_followed :
    ∃ scenario ∈ savedGraph.scenarios,
      parsePrototypeGraph sampleHost savedGraph = .ok savedGraph ∧
        savedGraph.IsUniquelyWired scenario.expectedPath ∧
        ∀ runtime, createPrototypeRuntime sampleHost savedGraph
          (some scenario.id) = .ok runtime →
            ¬ FollowsPath runtime scenario.expectedPath := by
  refine ⟨⟨js "dismiss", js "Dismiss", js "orders", none,
    [js "orders", js "saved", js "saved"]⟩, ?_, parse_savedGraph, ?_, ?_⟩
  · exact List.mem_cons_of_mem _ List.mem_cons_self
  · decide
  · intro runtime created follows
    have started : createPrototypeRuntime sampleHost savedGraph
        (some (js "dismiss")) = .ok (savedRuntime "dismiss") := rfl
    cases Except.ok.inj (created.symm.trans started)
    have active := (follows.steps 1 _ rfl).2 (js "saved") rfl
    revert active
    decide

/-- A workspace with a component for each node of the graph. -/
def savedWorkspace : Proposal.ReviewedWorkspace where
  projectId := js "northstar"
  entrypoint := js "App.tsx"
  files := [⟨js "App.tsx", js "export const App = 1;", .tsx⟩]
  dependencies := []
  nodes := [⟨⟨js "orders-node", js "App.tsx"⟩, js "App"⟩,
    ⟨⟨js "saved-node", js "App.tsx"⟩, js "App"⟩]
  revision := ⟨js "source-r1", none, js "2026-07-24T05:00:00.000Z",
    js "Initial"⟩

/-- The binding of the graph to its workspace. -/
def savedManifest : ReactBindingManifest where
  projectId := js "northstar"
  sourceRevisionId := js "source-r1"
  graphId := js "orders-flow"
  graphRevision := 1
  nodeBindings := [⟨js "orders", js "orders-node"⟩, ⟨js "saved", js "saved-node"⟩]
  actionBindings := [⟨js "orders", js "save", js "orders-node"⟩,
    ⟨js "saved", js "dismiss", js "saved-node"⟩]

/-- What the compiler found. -/
def savedEvidence : ReactBindingCompilerEvidence where
  projectId := js "northstar"
  sourceRevisionId := js "source-r1"
  sourceSha256 := List.replicate 64 0x61
  outputSha256 := List.replicate 64 0x62
  entrypoint := js "App.tsx"
  reachableFiles := [js "App.tsx"]
  nodeMarkers := [⟨js "orders-node", js "App.tsx", js "App", []⟩,
    ⟨js "saved-node", js "App.tsx", js "App", []⟩]
  actionMarkers := [
    ⟨js "orders", js "save", js "orders-node", js "App.tsx", js "App", []⟩,
    ⟨js "saved", js "dismiss", js "saved-node", js "App.tsx", js "App", []⟩]

def savedContext : ReactBindingContext where
  graph := savedGraph
  graphRevision := 1
  workspace := savedWorkspace
  compilerEvidence := savedEvidence

theorem prepare_saved :
    (prepareReactBinding sampleHost savedManifest
      savedContext).toOption.isSome = true := by
  decide +kernel

/-- The scenario that opens the overlay is followed and rendered. -/
theorem saved_runs :
    FollowsPath (savedRuntime "save") [js "orders", js "saved"] ∧
      evaluateReactScenarioRenderability sampleHost (some savedManifest)
        savedContext (js "save") = .renderable (js "save") := by
  have member : (⟨js "save", js "Save", js "orders", none,
      [js "orders", js "saved"]⟩ : PrototypeScenario) ∈
        savedGraph.scenarios :=
    List.mem_cons_self
  obtain ⟨⟨runtime, created, _, follows⟩, rendered⟩ :=
    declaredScenario_runs parse_savedGraph member (by decide)
  have started : createPrototypeRuntime sampleHost savedGraph
      (some (js "save")) = .ok (savedRuntime "save") := rfl
  cases Except.ok.inj (created.symm.trans started)
  have never : savedGraph.NeverCloses [js "orders", js "saved"] := by decide
  have unguarded : savedEvidence.Unguarded := by
    constructor <;> decide
  exact ⟨follows.mpr never, (rendered savedManifest savedContext _ rfl
    (eq_ok_get prepare_saved) unguarded).mpr never⟩

end Selene.Prototype
