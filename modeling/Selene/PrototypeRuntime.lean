import Selene.LoggedMachine
import Selene.PrototypeGraph

/-!
# The runtime of prototype graphs

The side-effect-free runtime of previews: a snapshot holds the active surfaces,
the history with the length of the path at each entry, and the path of
transitions.  Accepted graphs keep every snapshot well formed.
-/

namespace Selene.Prototype

open Js

/-! ## Snapshots -/

structure PrototypeRuntimeSnapshot where
  activeNodeId : JsString
  activeStateId : Option JsString
  activeOverlayId : Option JsString
  scenarioId : Option JsString
  history : List JsString
  historyPathLengths : List Nat
  activePathTransitionIds : List JsString
  fixtures : Record

/-- The message of a `PrototypeRuntimeError`. -/
abbrev PrototypeRuntimeError := JsString

def scenarioFor (graph : PrototypeGraph) :
    Option JsString → Except PrototypeRuntimeError (Option PrototypeScenario)
  | none => .ok none
  | some scenarioId =>
      match graph.scenarios.find? fun item => item.id = scenarioId with
      | some scenario => .ok (some scenario)
      | none =>
          .error (js "Invalid prototype runtime snapshot scenario")

def initialRuntimeSnapshot
    (graph : PrototypeGraph)
    (scenarioId : Option JsString) :
    Except PrototypeRuntimeError PrototypeRuntimeSnapshot := do
  let scenario ← scenarioFor graph scenarioId
  let activeNodeId :=
    (scenario.map PrototypeScenario.startNodeId).getD graph.initialNodeId
  pure {
    activeNodeId
    activeStateId := scenario.bind PrototypeScenario.initialStateId
    activeOverlayId := none
    scenarioId := scenario.map PrototypeScenario.id
    history := [activeNodeId]
    historyPathLengths := [0]
    activePathTransitionIds := []
    fixtures := graph.fixtures }

namespace PrototypeRuntimeSnapshot

def IsActiveActionSurface
    (snapshot : PrototypeRuntimeSnapshot)
    (nodeId : JsString) : Prop :=
  nodeId = snapshot.activeNodeId ∨
    some nodeId = snapshot.activeStateId ∨
    some nodeId = snapshot.activeOverlayId

instance (snapshot : PrototypeRuntimeSnapshot) (nodeId : JsString) :
    Decidable (snapshot.IsActiveActionSurface nodeId) := by
  unfold IsActiveActionSurface
  infer_instance

/-- Back to the history entry before the last, if there is one. -/
def backSnapshot (snapshot : PrototypeRuntimeSnapshot) :
    PrototypeRuntimeSnapshot :=
  if snapshot.history.length ≤ 1 then
    snapshot
  else
    let history := snapshot.history.dropLast
    { snapshot with
      activeNodeId := history.getLast?.getD []
      activeStateId := none
      activeOverlayId := none
      history
      historyPathLengths := snapshot.historyPathLengths.dropLast
      activePathTransitionIds := snapshot.activePathTransitionIds.take
        (snapshot.historyPathLengths.dropLast.getLast?.getD 0) }

/-- Applies a validated transition. -/
def applySnapshotTransition
    (graph : PrototypeGraph)
    (snapshot : PrototypeRuntimeSnapshot)
    (transition : PrototypeTransition) :
    Except PrototypeRuntimeError PrototypeRuntimeSnapshot :=
  if snapshot.IsActiveActionSurface transition.origin.nodeId then
    let activePathTransitionIds :=
      snapshot.activePathTransitionIds ++ [transition.id]
    match transition.kind with
    | .navigate target =>
        .ok { snapshot with
          activeNodeId := target
          activeStateId := none
          activeOverlayId := none
          history := snapshot.history ++ [target]
          historyPathLengths :=
            snapshot.historyPathLengths ++ [activePathTransitionIds.length]
          activePathTransitionIds }
    | .back => .ok snapshot.backSnapshot
    | .setState target =>
        .ok { snapshot with
          activeStateId := some target
          activePathTransitionIds }
    | .openOverlay target =>
        .ok { snapshot with
          activeOverlayId := some target
          activePathTransitionIds }
    | .closeOverlay target =>
        if snapshot.activeOverlayId = some target then
          .ok { snapshot with
            activeOverlayId := none
            activePathTransitionIds }
        else
          .error (js "Overlay is not active")
    | .resetFlow => do
        let initial ← initialRuntimeSnapshot graph snapshot.scenarioId
        pure { initial with
          historyPathLengths := [activePathTransitionIds.length]
          activePathTransitionIds }
  else
    .error (js "Action source is not active in this prototype snapshot")

end PrototypeRuntimeSnapshot

/-! ## Runtimes -/

structure PrototypeRuntime where
  graph : PrototypeGraph
  snapshotValue : PrototypeRuntimeSnapshot

/-- Why a runtime cannot be built. -/
inductive RuntimeFailure where
  | graph (issues : List GraphIssue)
  | runtime (error : PrototypeRuntimeError)
  deriving DecidableEq

def createPrototypeRuntime
    (host : GraphHost)
    (value : PrototypeGraph)
    (scenarioId : Option JsString) :
    Except RuntimeFailure PrototypeRuntime := do
  let graph ← (parsePrototypeGraph host value).mapError .graph
  check (∀ id ∈ scenarioId, id ∈ graph.scenarios.map PrototypeScenario.id)
    (.runtime (js "Unknown prototype scenario"))
  let snapshot ←
    (initialRuntimeSnapshot graph scenarioId).mapError .runtime
  pure ⟨graph, snapshot⟩

/-- A value given to `dispatch`: an action by its shape, or anything else. -/
inductive ActionValue where
  | trigger (nodeId portId : JsString)
  | back
  | malformed
  deriving DecidableEq

/-- Whether `prototypeRuntimeActionSchema` accepts a value. -/
def ActionValue.isAccepted : ActionValue → Bool
  | .trigger nodeId portId => idSchema nodeId && idSchema portId
  | .back => true
  | .malformed => false

namespace PrototypeRuntime

def snapshot (runtime : PrototypeRuntime) : PrototypeRuntimeSnapshot :=
  runtime.snapshotValue

/-- Sets the snapshot and answers with it. -/
def moveTo (runtime : PrototypeRuntime) (next : PrototypeRuntimeSnapshot) :
    PrototypeRuntime × Except PrototypeRuntimeError PrototypeRuntimeSnapshot :=
  ({ runtime with snapshotValue := next }, .ok next)

def back (runtime : PrototypeRuntime) :
    PrototypeRuntime × Except PrototypeRuntimeError PrototypeRuntimeSnapshot :=
  runtime.moveTo runtime.snapshotValue.backSnapshot

/-- The transition wired to an action port. -/
def transitionAt (graph : PrototypeGraph) (nodeId portId : JsString) :
    Option PrototypeTransition :=
  graph.transitions.find? fun candidate =>
    candidate.origin.nodeId = nodeId && candidate.origin.portId = portId

/-- The `trigger` branch of `dispatch`. -/
def trigger (runtime : PrototypeRuntime) (nodeId portId : JsString) :
    PrototypeRuntime × Except PrototypeRuntimeError PrototypeRuntimeSnapshot :=
  match transitionAt runtime.graph nodeId portId with
  | none =>
      (runtime, .error (js "No transition is wired to that action port"))
  | some transition =>
      match runtime.snapshotValue.applySnapshotTransition runtime.graph
          transition with
      | .error error => (runtime, .error error)
      | .ok next => runtime.moveTo next

/-- The runtime after a call of `dispatch`, with what the call answers. -/
def dispatch (runtime : PrototypeRuntime) (value : ActionValue) :
    PrototypeRuntime × Except PrototypeRuntimeError PrototypeRuntimeSnapshot :=
  if value.isAccepted then
    match value with
    | .trigger nodeId portId => runtime.trigger nodeId portId
    | _ => runtime.back
  else
    (runtime, .error (js "Invalid prototype runtime action"))

/-- What `dispatch` can do: reject, or move by a step of the snapshot. -/
inductive Dispatched (runtime : PrototypeRuntime) :
    PrototypeRuntime × Except PrototypeRuntimeError
      PrototypeRuntimeSnapshot → Prop where
  | rejected (error : PrototypeRuntimeError) :
      Dispatched runtime (runtime, .error error)
  | back :
      Dispatched runtime (runtime.moveTo runtime.snapshotValue.backSnapshot)
  | moved (transition : PrototypeTransition)
      (next : PrototypeRuntimeSnapshot)
      (wired : transition ∈ runtime.graph.transitions)
      (applied : runtime.snapshotValue.applySnapshotTransition runtime.graph
        transition = .ok next) :
      Dispatched runtime (runtime.moveTo next)

theorem dispatched
    (runtime : PrototypeRuntime)
    (value : ActionValue) :
    Dispatched runtime (runtime.dispatch value) := by
  unfold dispatch
  split
  · split
    · rename_i nodeId portId _
      unfold trigger
      split
      · exact .rejected _
      · rename_i transition found
        split
        · exact .rejected _
        · exact .moved transition _ (List.mem_of_find?_eq_some found) ‹_›
    · exact .back
  · exact .rejected _

end PrototypeRuntime

/-! ## Well-formed snapshots -/

/--
The surfaces of a snapshot: the last history entry is active, history entries
are screens and pages, the active state belongs to the active node, and every
history entry has the length of the path at which it was entered.
-/
structure WellFormed
    (graph : PrototypeGraph)
    (snapshot : PrototypeRuntimeSnapshot) : Prop where
  active : snapshot.history.getLast? = some snapshot.activeNodeId
  surfaces : ∀ id ∈ snapshot.history, graph.IsSurfaceId id
  state : ∀ id ∈ snapshot.activeStateId,
    graph.IsStateOf id snapshot.activeNodeId
  overlay : ∀ id ∈ snapshot.activeOverlayId, graph.IsOverlayId id
  lengths : snapshot.history.length = snapshot.historyPathLengths.length
  ordered : snapshot.historyPathLengths.Pairwise (· ≤ ·)
  bounded : ∀ length ∈ snapshot.historyPathLengths,
    length ≤ snapshot.activePathTransitionIds.length

namespace WellFormed

variable {graph : PrototypeGraph} {snapshot : PrototypeRuntimeSnapshot}

theorem activeNode (wellFormed : WellFormed graph snapshot) :
    graph.IsSurfaceId snapshot.activeNodeId :=
  wellFormed.surfaces _ (List.mem_of_getLast? wellFormed.active)

theorem history_ne_nil (wellFormed : WellFormed graph snapshot) :
    snapshot.history ≠ [] := by
  intro empty
  have active := wellFormed.active
  rw [empty] at active
  cases active

theorem bounded_append
    (wellFormed : WellFormed graph snapshot)
    (id : JsString) :
    ∀ length ∈ snapshot.historyPathLengths,
      length ≤ (snapshot.activePathTransitionIds ++ [id]).length := by
  intro length member
  rw [List.length_append]
  exact Nat.le_add_right_of_le (wellFormed.bounded length member)

theorem sourceParentId_eq
    (wellFormed : WellFormed graph snapshot)
    {nodeId parentId : JsString}
    (source : snapshot.IsActiveActionSurface nodeId)
    (owner : PrototypeGraph.sourceParentId (graph.nodeById nodeId) =
      some parentId) :
    parentId = snapshot.activeNodeId := by
  cases found : graph.nodeById nodeId with
  | none =>
      rw [found] at owner
      cases owner
  | some node =>
      rw [found] at owner
      have sameId : node.id = nodeId := by
        simpa using List.find?_some found
      rcases source with active | isState | isOverlay
      · have surface := wellFormed.activeNode
        rw [← active, PrototypeGraph.IsSurfaceId, found] at surface
        cases kind : node.kind <;>
          simp_all [PrototypeGraph.sourceParentId, PrototypeNode.isSurface,
            NodeKind.route?]
      · have owned := wellFormed.state nodeId isState.symm
        rw [PrototypeGraph.IsStateOf, found] at owned
        cases kind : node.kind <;>
          simp_all [PrototypeGraph.sourceParentId, NodeKind.parentId?]
      · have overlay := wellFormed.overlay nodeId isOverlay.symm
        rw [PrototypeGraph.IsOverlayId, found] at overlay
        cases kind : node.kind <;>
          simp_all [PrototypeGraph.sourceParentId, PrototypeNode.isOverlay]

theorem backSnapshot (wellFormed : WellFormed graph snapshot) :
    WellFormed graph snapshot.backSnapshot := by
  unfold PrototypeRuntimeSnapshot.backSnapshot
  split
  · exact wellFormed
  · rename_i long
    have lengths := wellFormed.lengths
    have shorter : snapshot.history.dropLast ≠ [] := by
      intro empty
      have size := congrArg List.length empty
      rw [List.length_dropLast, List.length_nil] at size
      omega
    have shorterLengths : snapshot.historyPathLengths.dropLast ≠ [] := by
      intro empty
      have size := congrArg List.length empty
      rw [List.length_dropLast, List.length_nil] at size
      omega
    have kept : ∀ length ∈ snapshot.historyPathLengths.dropLast,
        length ∈ snapshot.historyPathLengths :=
      fun length member => List.mem_of_mem_dropLast member
    have ordered : snapshot.historyPathLengths.dropLast.Pairwise (· ≤ ·) :=
      wellFormed.ordered.sublist (List.dropLast_sublist _)
    refine ⟨?_, ?_, by simp, by simp, ?_, ordered, ?_⟩
    · simp only [List.getLast?_eq_some_getLast shorter, Option.getD_some]
    · exact fun id member =>
        wellFormed.surfaces id (List.mem_of_mem_dropLast member)
    · simp only [List.length_dropLast, lengths]
    · intro length member
      have last := List.getLast?_eq_some_getLast shorterLengths
      have split := List.dropLast_append_getLast shorterLengths
      rw [← split] at ordered member
      have below : length ≤
          snapshot.historyPathLengths.dropLast.getLast shorterLengths := by
        rcases List.mem_append.mp member with early | isLast
        · exact (List.pairwise_append.mp ordered).2.2 length early _
            (List.mem_singleton_self _)
        · exact (List.mem_singleton.mp isLast).le
      have within := wellFormed.bounded _
        (kept _ (List.getLast_mem shorterLengths))
      simp only [last, Option.getD_some, List.length_take]
      omega

end WellFormed

theorem wellFormed_initialRuntimeSnapshot
    {graph : PrototypeGraph}
    (typed : graph.Typed)
    {scenarioId : Option JsString}
    {snapshot : PrototypeRuntimeSnapshot}
    (initial : initialRuntimeSnapshot graph scenarioId = .ok snapshot) :
    WellFormed graph snapshot ∧ snapshot.history.length = 1 := by
  obtain ⟨scenario, found, rest⟩ := bind_eq_ok.mp initial
  cases rest
  cases scenario with
  | none =>
      refine ⟨⟨rfl, ?_, by simp, by simp, rfl, ?_, ?_⟩, rfl⟩
      · simpa using typed.initialNode
      · exact List.pairwise_singleton _ _
      · simp
  | some scenario =>
      have member : scenario ∈ graph.scenarios := by
        cases scenarioId with
        | none => cases found
        | some id =>
            simp only [scenarioFor] at found
            split at found
            · rename_i other there
              cases found
              exact List.mem_of_find?_eq_some there
            · cases found
      refine ⟨⟨rfl, ?_, ?_, by simp, rfl, ?_, ?_⟩, rfl⟩
      · simpa using typed.starts scenario member
      · exact typed.initialStates scenario member
      · exact List.pairwise_singleton _ _
      · simp

/-- Every transition of a typed graph keeps a snapshot well formed. -/
theorem WellFormed.applySnapshotTransition
    {graph : PrototypeGraph}
    (typed : graph.Typed)
    {snapshot next : PrototypeRuntimeSnapshot}
    (wellFormed : WellFormed graph snapshot)
    {transition : PrototypeTransition}
    (wired : transition ∈ graph.transitions)
    (applied : snapshot.applySnapshotTransition graph transition =
      .ok next) :
    WellFormed graph next := by
  unfold PrototypeRuntimeSnapshot.applySnapshotTransition at applied
  split at applied
  · rename_i source
    cases kind : transition.kind with
    | navigate target =>
        rw [kind] at applied
        cases applied
        refine ⟨by simp, ?_, by simp, by simp, ?_, ?_, ?_⟩
        · rw [List.forall_mem_append, List.forall_mem_singleton]
          exact ⟨wellFormed.surfaces,
            typed.navigates transition wired target kind⟩
        · simp only [List.length_append, wellFormed.lengths,
            List.length_singleton]
        · rw [List.pairwise_append]
          refine ⟨wellFormed.ordered, List.pairwise_singleton _ _, ?_⟩
          intro length member added isLast
          rw [List.mem_singleton.mp isLast]
          exact wellFormed.bounded_append transition.id length member
        · rw [List.forall_mem_append, List.forall_mem_singleton]
          exact ⟨wellFormed.bounded_append transition.id, Nat.le_refl _⟩
    | back =>
        rw [kind] at applied
        cases applied
        exact wellFormed.backSnapshot
    | setState target =>
        rw [kind] at applied
        cases applied
        obtain ⟨parentId, owned, owner⟩ :=
          typed.setsStates transition wired target kind
        have parent := wellFormed.sourceParentId_eq source owner
        refine ⟨wellFormed.active, wellFormed.surfaces, ?_,
          wellFormed.overlay, wellFormed.lengths, wellFormed.ordered,
          wellFormed.bounded_append transition.id⟩
        rintro id ⟨⟩
        rw [← parent]
        exact owned
    | openOverlay target =>
        rw [kind] at applied
        cases applied
        refine ⟨wellFormed.active, wellFormed.surfaces, wellFormed.state, ?_,
          wellFormed.lengths, wellFormed.ordered,
          wellFormed.bounded_append transition.id⟩
        rintro id ⟨⟩
        exact typed.opensOverlays transition wired target kind
    | closeOverlay target =>
        rw [kind] at applied
        simp only at applied
        split at applied
        · cases applied
          exact ⟨wellFormed.active, wellFormed.surfaces, wellFormed.state,
            by simp, wellFormed.lengths, wellFormed.ordered,
            wellFormed.bounded_append transition.id⟩
        · cases applied
    | resetFlow =>
        rw [kind] at applied
        obtain ⟨initial, found, rest⟩ := bind_eq_ok.mp applied
        cases rest
        obtain ⟨fresh, single⟩ :=
          wellFormed_initialRuntimeSnapshot typed found
        refine ⟨fresh.active, fresh.surfaces, fresh.state, fresh.overlay,
          single, List.pairwise_singleton _ _, ?_⟩
        rw [List.forall_mem_singleton]
  · cases applied

/-! ## Runs -/

variable {runtime : PrototypeRuntime}

theorem dispatch_error
    {value : ActionValue}
    {error : PrototypeRuntimeError}
    (thrown : (runtime.dispatch value).2 = .error error) :
    (runtime.dispatch value).1 = runtime := by
  generalize outcome : runtime.dispatch value = after at thrown
  cases outcome ▸ runtime.dispatched value with
  | rejected error => rfl
  | back => cases thrown
  | moved transition next wired applied => cases thrown

theorem wellFormed_dispatch
    (typed : runtime.graph.Typed)
    (wellFormed : WellFormed runtime.graph runtime.snapshotValue)
    (value : ActionValue) :
    (runtime.dispatch value).1.graph = runtime.graph ∧
      WellFormed runtime.graph (runtime.dispatch value).1.snapshotValue := by
  generalize outcome : runtime.dispatch value = after
  cases outcome ▸ runtime.dispatched value with
  | rejected error => exact ⟨rfl, wellFormed⟩
  | back => exact ⟨rfl, wellFormed.backSnapshot⟩
  | moved transition next wired applied =>
      exact ⟨rfl, wellFormed.applySnapshotTransition typed wired applied⟩

theorem createPrototypeRuntime_eq_ok
    {host : GraphHost}
    {value : PrototypeGraph}
    {scenarioId : Option JsString}
    (created : createPrototypeRuntime host value scenarioId = .ok runtime) :
    parsePrototypeGraph host value = .ok runtime.graph ∧
      initialRuntimeSnapshot runtime.graph scenarioId =
        .ok runtime.snapshotValue := by
  unfold createPrototypeRuntime at created
  cases parsed : parsePrototypeGraph host value with
  | error issues =>
      rw [parsed] at created
      cases created
  | ok graph =>
      rw [parsed] at created
      obtain ⟨_, rest⟩ := check_bind_eq_ok.mp created
      cases first : initialRuntimeSnapshot graph scenarioId with
      | error message =>
          rw [first] at rest
          cases rest
      | ok snapshot =>
          rw [first] at rest
          cases rest
          exact ⟨rfl, first⟩

/--
Every runtime of an accepted graph, after every sequence of calls of
`dispatch`: the snapshot is well formed, and the calls that threw left it as it
was.
-/
theorem wellFormed_run
    {host : GraphHost}
    {value : PrototypeGraph}
    {scenarioId : Option JsString}
    {runtime : PrototypeRuntime}
    (created : createPrototypeRuntime host value scenarioId = .ok runtime)
    (actions : List ActionValue) :
    WellFormed runtime.graph
        (takeAll PrototypeRuntime.dispatch runtime actions).snapshot ∧
      ∀ entry ∈ taken PrototypeRuntime.dispatch runtime actions,
        ∀ error, entry.answer = .error error →
          entry.after.snapshot = entry.before.snapshot := by
  obtain ⟨parsed, first⟩ := createPrototypeRuntime_eq_ok created
  have typed := typed_of_parsePrototypeGraph parsed
  have start := (wellFormed_initialRuntimeSnapshot typed first).1
  have kept : (takeAll PrototypeRuntime.dispatch runtime actions).graph =
        runtime.graph ∧
      WellFormed runtime.graph
        (takeAll PrototypeRuntime.dispatch runtime actions).snapshotValue := by
    refine takeAll_invariant
      (fun state : PrototypeRuntime => state.graph = runtime.graph ∧
        WellFormed runtime.graph state.snapshotValue)
      (fun _ _ => True) ?_ ⟨rfl, start⟩ (fun _ _ => trivial)
    rintro state action ⟨sameGraph, wellFormed⟩ _
    rw [← sameGraph] at typed wellFormed ⊢
    exact wellFormed_dispatch typed wellFormed action
  refine ⟨kept.2, fun entry member error thrown => ?_⟩
  obtain ⟨_, isTaken⟩ := forall_taken (fun _ => True) (fun _ _ => True)
    (fun _ _ _ _ => trivial) trivial (fun _ _ => trivial) entry member
  rw [isTaken] at thrown ⊢
  exact congrArg PrototypeRuntime.snapshot (dispatch_error thrown)

/-! ### A graph with a state -/

/-- A host that knows the route and the date of the sample. -/
def sampleHost : GraphHost where
  urlOrigin := fun value =>
    if value = js "/orders" then some (js "https://selene.invalid") else none
  isoDatetime := fun value => value = js "2026-07-24T05:00:00.000Z"

/-- A screen with a state that its button sets. -/
def sampleGraph : PrototypeGraph where
  id := js "orders-flow"
  name := js "Orders prototype"
  project := ⟨js "northstar", js "Mina"⟩
  revision := ⟨js "orders-r1", none, js "2026-07-24T05:00:00.000Z",
    js "Initial"⟩
  handoff := ⟨.draft, js "Mina", js "Ready"⟩
  initialNodeId := js "orders"
  nodes := [
    ⟨js "orders", js "Orders", ⟨⟨0, isDouble_zero⟩, ⟨0, isDouble_zero⟩⟩,
      [⟨js "empty", js "Show empty", .click⟩], .screen (js "/orders")⟩,
    ⟨js "orders-empty", js "Empty",
      ⟨⟨0, isDouble_zero⟩, ⟨0, isDouble_zero⟩⟩,
      [], .state (js "orders")⟩]
  transitions := [
    ⟨js "show-empty", ⟨js "orders", js "empty"⟩,
      .setState (js "orders-empty")⟩]
  scenarios := [⟨js "default", js "Default", js "orders", none,
    [js "orders", js "orders-empty"]⟩]
  fixtures := []
  viewState := none

theorem parse_sampleGraph :
    parsePrototypeGraph sampleHost sampleGraph = .ok sampleGraph :=
  rfl

/-- The runtime of the sample without a scenario. -/
def sampleRuntime : PrototypeRuntime where
  graph := sampleGraph
  snapshotValue := ⟨js "orders", none, none, none, [js "orders"], [0], [], []⟩

/-- The state is set, and going back leaves the only history entry. -/
theorem wellFormed_run_sample :
    WellFormed sampleGraph
      (takeAll PrototypeRuntime.dispatch sampleRuntime
        [.trigger (js "orders") (js "empty"), .back, .malformed]).snapshot :=
  (wellFormed_run (show createPrototypeRuntime sampleHost sampleGraph none =
    .ok sampleRuntime from rfl) _).1

end Selene.Prototype
