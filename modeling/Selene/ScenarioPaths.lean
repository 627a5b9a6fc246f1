import Selene.PrototypeRestore
import Selene.ReactBindingManifest

/-!
# Expected paths of scenarios

A scenario declares the path that its transitions are expected to take.  Where
each step of the path is wired by one transition, a runtime follows the path,
and a preview renders it, exactly when no step closes an overlay.
-/

namespace Selene.Prototype

open Js Generation

/-! ## Paths -/

/-- Whether a transition closes an overlay. -/
def TransitionKind.closesOverlay : TransitionKind → Bool
  | .closeOverlay _ => true
  | _ => false

namespace PrototypeGraph

variable (graph : PrototypeGraph)

/-- Each step of a path is wired by exactly one transition. -/
def IsUniquelyWired (path : List JsString) : Prop :=
  ∀ step ∈ path.zip path.tail,
    (transitionsBetween graph step.1 step.2).length = 1

instance (path : List JsString) : Decidable (graph.IsUniquelyWired path) := by
  unfold IsUniquelyWired
  infer_instance

/-- The transitions along a path. -/
def pathTransitions : List JsString → List PrototypeTransition
  | origin :: target :: rest =>
      transitionsBetween graph origin target ++ pathTransitions (target :: rest)
  | _ => []

/-- No step of a path closes an overlay. -/
def NeverCloses (path : List JsString) : Prop :=
  ∀ transition ∈ graph.pathTransitions path,
    transition.kind.closesOverlay = false

instance (path : List JsString) : Decidable (graph.NeverCloses path) := by
  unfold NeverCloses
  infer_instance

/-- The actions that take the transitions along a path. -/
def pathActions (path : List JsString) : List ActionValue :=
  (graph.pathTransitions path).map fun transition =>
    .trigger transition.origin.nodeId transition.origin.portId

end PrototypeGraph

/--
A runtime follows a path: it starts on it, no dispatch of its transitions
throws, and each of them makes the next node of the path an active surface.
-/
structure FollowsPath (runtime : PrototypeRuntime) (path : List JsString) :
    Prop where
  start : ∀ id ∈ path.head?, runtime.snapshot.IsActiveActionSurface id
  steps : ∀ index entry,
    (taken PrototypeRuntime.dispatch runtime
        (runtime.graph.pathActions path))[index]? = some entry →
      entry.answer = .ok entry.after.snapshot ∧
        ∀ id ∈ path[index + 1]?, entry.after.snapshot.IsActiveActionSurface id

/-! ## What an accepted graph promises about its wires -/

/-- The wires of a graph: each action port has one transition. -/
structure Wiring (graph : PrototypeGraph) : Prop where
  ports : graph.actionPorts.Nodup
  sources : ∀ transition ∈ graph.transitions,
    ∃ node, graph.nodeById transition.origin.nodeId = some node ∧
      transition.origin.portId ∈ node.ports.map PrototypeActionPort.id
  accepted : ∀ transition ∈ graph.transitions,
    idSchema transition.origin.nodeId = true ∧
      idSchema transition.origin.portId = true
  closes : ∀ transition ∈ graph.transitions, ∀ target,
    transition.kind = .closeOverlay target → graph.IsOverlayId target
  scenarios : (graph.scenarios.map PrototypeScenario.id).Nodup
  starts : ∀ scenario ∈ graph.scenarios,
    scenario.expectedPath.head? = some scenario.startNodeId

variable {graph : PrototypeGraph}

theorem wiring_of_parsePrototypeGraph
    {host : GraphHost}
    {value : PrototypeGraph}
    (accepted : parsePrototypeGraph host value = .ok graph) :
    Wiring graph := by
  obtain ⟨fields, rules⟩ :=
    List.append_eq_nil_iff.mp (graphIssues_of_parsePrototypeGraph accepted)
  simp only [fieldIssues, List.append_eq_nil_iff, List.flatMap_eq_nil_iff,
    fieldIssue_eq_nil] at fields
  obtain ⟨⟨⟨⟨⟨⟨⟨_, _⟩, _⟩, transitionFields⟩, _⟩, _⟩, _⟩, _⟩ := fields
  simp only [PrototypeGraph.ruleIssues, List.append_eq_nil_iff,
    issueUnless_eq_nil] at rules
  obtain ⟨⟨⟨⟨⟨⟨⟨_, ports⟩, _⟩, _⟩, _⟩, scenarioIds⟩, scenarios⟩,
    transitions⟩ := rules
  refine ⟨ports, ?_, ?_, ?_, scenarioIds, ?_⟩
  · intro transition member
    obtain ⟨index, rules⟩ := issuesOfEach_mem transitions member
    have source := (List.append_eq_nil_iff.mp rules).1
    rw [PrototypeGraph.sourceRules] at source
    cases found : graph.nodeById transition.origin.nodeId with
    | none =>
        rw [found] at source
        cases source
    | some node =>
        rw [found] at source
        exact ⟨node, rfl, issueUnless_eq_nil.mp source⟩
  · intro transition member
    obtain ⟨index, none⟩ := issuesOfEach_mem transitionFields member
    simp only [transitionIssues, List.append_eq_nil_iff,
      fieldIssue_eq_nil] at none
    exact ⟨none.1.1.2, none.1.2⟩
  · intro transition member target kind
    obtain ⟨index, rules⟩ := issuesOfEach_mem transitions member
    obtain ⟨node, path, found, rules⟩ :=
      PrototypeGraph.targetKindRules_of_transitionRules rules
        (show transition.kind.target? = some target by rw [kind]; rfl)
    rw [kind, PrototypeGraph.targetKindRules, issueUnless_eq_nil] at rules
    rw [PrototypeGraph.IsOverlayId, found]
    exact rules
  · intro scenario member
    obtain ⟨index, rules⟩ := issuesOfEach_mem scenarios member
    simp only [PrototypeGraph.scenarioRules, List.append_eq_nil_iff,
      issueUnless_eq_nil] at rules
    exact rules.1.2

variable {transition : PrototypeTransition}

theorem Wiring.transitionAt
    (wiring : Wiring graph)
    (member : transition ∈ graph.transitions) :
    PrototypeRuntime.transitionAt graph transition.origin.nodeId
      transition.origin.portId = some transition := by
  cases found : PrototypeRuntime.transitionAt graph transition.origin.nodeId
      transition.origin.portId with
  | none =>
      have absent := List.find?_eq_none.mp found transition member
      simp at absent
  | some other =>
      have same := List.find?_some found
      simp only [Bool.and_eq_true, decide_eq_true_eq] at same
      have otherMember := List.mem_of_find?_eq_some found
      have sameKey : other.origin.nodeId ++ 0 :: other.origin.portId =
          transition.origin.nodeId ++ 0 :: transition.origin.portId := by
        rw [same.1, same.2]
      rw [List.inj_on_of_nodup_map wiring.ports otherMember member sameKey]

/-! ## Following a path -/

theorem PrototypeGraph.IsOverlayId.elsewhere
    {id : JsString}
    (overlay : graph.IsOverlayId id) :
    ¬ graph.IsSurfaceId id ∧ ∀ parentId, ¬ graph.IsStateOf id parentId := by
  rw [IsOverlayId] at overlay
  rw [IsSurfaceId]
  simp only [IsStateOf]
  cases found : graph.nodeById id with
  | none => simp [found] at overlay
  | some node =>
      rw [found] at overlay
      cases kind : node.kind <;>
        simp_all [PrototypeNode.isOverlay, PrototypeNode.isSurface,
          NodeKind.route?, NodeKind.parentId?]

variable {target : JsString}

theorem followed_iff
    (wiring : Wiring graph)
    {snapshot : PrototypeRuntimeSnapshot}
    (wellFormed : WellFormed graph snapshot)
    (member : transition ∈ graph.transitions)
    (targeted : transition.kind.target? = some target)
    (source : snapshot.IsActiveActionSurface transition.origin.nodeId) :
    (∃ next, snapshot.applySnapshotTransition graph transition = .ok next ∧
        next.IsActiveActionSurface target) ↔
      transition.kind.closesOverlay = false := by
  rw [PrototypeRuntimeSnapshot.applySnapshotTransition, if_pos source]
  cases kind : transition.kind with
  | navigate other =>
      cases Option.some.inj ((kind ▸ targeted : _ = some target))
      exact iff_of_true ⟨_, rfl, .inl rfl⟩ rfl
  | back => cases (kind ▸ targeted : _ = some target)
  | setState other =>
      cases Option.some.inj ((kind ▸ targeted : _ = some target))
      exact iff_of_true ⟨_, rfl, .inr (.inl rfl)⟩ rfl
  | openOverlay other =>
      cases Option.some.inj ((kind ▸ targeted : _ = some target))
      exact iff_of_true ⟨_, rfl, .inr (.inr rfl)⟩ rfl
  | resetFlow => cases (kind ▸ targeted : _ = some target)
  | closeOverlay other =>
      cases Option.some.inj ((kind ▸ targeted : _ = some target))
      refine iff_of_false ?_ (by simp [TransitionKind.closesOverlay])
      rintro ⟨next, applied, active⟩
      have overlay := (wiring.closes transition member target kind).elsewhere
      simp only at applied
      split at applied
      · cases applied
        rcases active with isNode | isState | isOverlay
        · exact overlay.1 (isNode ▸ wellFormed.activeNode)
        · exact overlay.2 _ (wellFormed.state target isState.symm)
        · cases isOverlay
      · cases applied

variable {runtime : PrototypeRuntime}

theorem dispatch_transition
    (wiring : Wiring runtime.graph)
    (member : transition ∈ runtime.graph.transitions) :
    (∀ next, runtime.snapshotValue.applySnapshotTransition runtime.graph
          transition = .ok next →
        runtime.dispatch (.trigger transition.origin.nodeId
          transition.origin.portId) = runtime.moveTo next) ∧
      ∀ error, runtime.snapshotValue.applySnapshotTransition runtime.graph
          transition = .error error →
        runtime.dispatch (.trigger transition.origin.nodeId
          transition.origin.portId) = (runtime, .error error) := by
  have accepted := wiring.accepted transition member
  rw [PrototypeRuntime.dispatch, if_pos (by
    simp [ActionValue.isAccepted, accepted.1, accepted.2])]
  simp only [PrototypeRuntime.trigger, wiring.transitionAt member]
  constructor
  · intro next applied
    rw [applied]
  · intro error applied
    rw [applied]

/-- The dispatch of a transition along a path succeeds and gets there. -/
def Reaches (runtime : PrototypeRuntime) (transition : PrototypeTransition)
    (target : JsString) : Prop :=
  let dispatched := runtime.dispatch
    (.trigger transition.origin.nodeId transition.origin.portId)
  dispatched.2 = .ok dispatched.1.snapshot ∧
    dispatched.1.snapshot.IsActiveActionSurface target

theorem reaches_iff
    (wiring : Wiring runtime.graph)
    (wellFormed : WellFormed runtime.graph runtime.snapshotValue)
    (member : transition ∈ runtime.graph.transitions)
    (targeted : transition.kind.target? = some target)
    (source : runtime.snapshot.IsActiveActionSurface
      transition.origin.nodeId) :
    Reaches runtime transition target ↔
      transition.kind.closesOverlay = false := by
  rw [← followed_iff wiring wellFormed member targeted source, Reaches]
  obtain ⟨succeeds, fails⟩ := dispatch_transition wiring member
  cases applied : runtime.snapshotValue.applySnapshotTransition runtime.graph
      transition with
  | error error => simp [fails error applied]
  | ok next =>
      simp [succeeds next applied, PrototypeRuntime.moveTo,
        PrototypeRuntime.snapshot]

theorem transitionsBetween_eq_singleton
    {origin : JsString}
    (unique : (transitionsBetween graph origin target).length = 1) :
    ∃ transition, transitionsBetween graph origin target = [transition] ∧
      transition ∈ graph.transitions ∧ transition.origin.nodeId = origin ∧
        transition.kind.target? = some target := by
  obtain ⟨transition, isOnly⟩ := List.length_eq_one_iff.mp unique
  have member : transition ∈ transitionsBetween graph origin target := by
    rw [isOnly]
    exact List.mem_singleton_self transition
  obtain ⟨wired, between⟩ := List.mem_filter.mp member
  exact ⟨transition, isOnly, wired, of_decide_eq_true between⟩

theorem followsPath_cons
    {origin : JsString}
    {rest : List JsString}
    (isOnly : transitionsBetween runtime.graph origin target = [transition])
    (sameGraph : (runtime.dispatch (.trigger transition.origin.nodeId
      transition.origin.portId)).1.graph = runtime.graph) :
    FollowsPath runtime (origin :: target :: rest) ↔
      runtime.snapshot.IsActiveActionSurface origin ∧
        Reaches runtime transition target ∧
        FollowsPath (runtime.dispatch (.trigger transition.origin.nodeId
          transition.origin.portId)).1 (target :: rest) := by
  have actions : runtime.graph.pathActions (origin :: target :: rest) =
      .trigger transition.origin.nodeId transition.origin.portId ::
        runtime.graph.pathActions (target :: rest) := by
    rw [PrototypeGraph.pathActions, PrototypeGraph.pathTransitions, isOnly]
    rfl
  constructor
  · rintro ⟨start, steps⟩
    rw [actions] at steps
    obtain ⟨answered, active⟩ := steps 0 _ rfl
    have reached := active target rfl
    refine ⟨start origin rfl, ⟨answered, reached⟩, ?_, ?_⟩
    · rintro id ⟨⟩
      exact reached
    · intro index entry found
      rw [sameGraph] at found
      exact steps (index + 1) entry found
  · rintro ⟨start, ⟨answered, reached⟩, follows⟩
    refine ⟨?_, ?_⟩
    · rintro id ⟨⟩
      exact start
    · rw [actions]
      intro index entry found
      cases index with
      | zero =>
          cases found
          refine ⟨answered, ?_⟩
          rintro id ⟨⟩
          exact reached
      | succ index =>
          refine follows.steps index entry ?_
          rw [sameGraph]
          exact found

/-- A path that is wired is followed unless a step closes an overlay. -/
theorem followsPath_iff
    (typed : runtime.graph.Typed)
    (wiring : Wiring runtime.graph)
    (wellFormed : WellFormed runtime.graph runtime.snapshotValue)
    {path : List JsString}
    (wired : runtime.graph.IsUniquelyWired path)
    (start : ∀ id ∈ path.head?, runtime.snapshot.IsActiveActionSurface id) :
    FollowsPath runtime path ↔ runtime.graph.NeverCloses path := by
  induction path generalizing runtime with
  | nil =>
      refine iff_of_true ⟨start, fun index entry found => ?_⟩ ?_
      · cases found
      · exact fun _ member => absurd member List.not_mem_nil
  | cons origin path inductionHypothesis =>
      cases path with
      | nil =>
          refine iff_of_true ⟨start, fun index entry found => ?_⟩ ?_
          · cases found
          · exact fun _ member => absurd member List.not_mem_nil
      | cons target rest =>
          rw [PrototypeGraph.IsUniquelyWired, List.tail_cons,
            List.zip_cons_cons, List.forall_mem_cons] at wired
          obtain ⟨transition, isOnly, member, isOrigin, targeted⟩ :=
            transitionsBetween_eq_singleton wired.1
          have active := start origin rfl
          have reaches := reaches_iff wiring wellFormed member targeted
            (isOrigin ▸ active)
          obtain ⟨sameGraph, nextWellFormed⟩ := wellFormed_dispatch typed
            wellFormed (.trigger transition.origin.nodeId
              transition.origin.portId)
          rw [followsPath_cons isOnly sameGraph, PrototypeGraph.NeverCloses,
            PrototypeGraph.pathTransitions, isOnly, List.singleton_append,
            List.forall_mem_cons, ← reaches, and_iff_right active]
          refine and_congr_right fun reached => ?_
          have next := @inductionHypothesis (runtime.dispatch
            (.trigger transition.origin.nodeId transition.origin.portId)).1
          rw [sameGraph] at next
          refine next typed wiring nextWellFormed wired.2 ?_
          rintro id ⟨⟩
          exact reached.2

end Selene.Prototype
