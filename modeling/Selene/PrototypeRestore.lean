import Selene.PrototypeRuntime

/-!
# Restoring snapshots of prototype runtimes

A host keeps snapshots in the browser history and hands them back to `restore`.
`parsePrototypeRuntimeSnapshot` replays the path of a snapshot and accepts the
snapshot when the replay leads to it.  Going back to the first history entry
drops the initial state of the scenario, which the replay does not.
-/

namespace Selene.Prototype

open Js

/-! ## The text of fixtures -/

mutual

/-- `JSON.stringify`; what has no JSON text has none here. -/
def stringify (format : NumberFormat) : JsValue → Option JsString
  | .undefined => none
  | .exotic => none
  | .null => some (js "null")
  | .bool true => some (js "true")
  | .bool false => some (js "false")
  | .number value => some ((format.jsonText value).getD (js "null"))
  | .string value => some (quote value)
  | .array items => some (0x5B :: stringifyItems format true items)
  | .object entries => some (0x7B :: stringifyEntries format true entries)

/-- The items of an array and the closing bracket. -/
def stringifyItems (format : NumberFormat) (first : Bool) :
    List JsValue → JsString
  | [] => [0x5D]
  | item :: rest =>
      (if first then [] else [0x2C]) ++
        ((stringify format item).getD (js "null") ++
          stringifyItems format false rest)

/-- The entries of an object and the closing brace. -/
def stringifyEntries (format : NumberFormat) (first : Bool) :
    Record → JsString
  | [] => [0x7D]
  | (key, value) :: rest =>
      match stringify format value with
      | none => stringifyEntries format first rest
      | some text =>
          (if first then [] else [0x2C]) ++
            (quote key ++ 0x3A ::
              (text ++ stringifyEntries format false rest))

end

/-! ## Parsing snapshots -/

/-- `prototypeRuntimeSnapshotSchema`, on a value that has its fields. -/
def prototypeRuntimeSnapshotSchema (snapshot : PrototypeRuntimeSnapshot) :
    Bool :=
  idSchema snapshot.activeNodeId &&
    snapshot.activeStateId.all idSchema &&
    snapshot.activeOverlayId.all idSchema &&
    snapshot.scenarioId.all idSchema &&
    decide (1 ≤ snapshot.history.length ∧ snapshot.history.length ≤ 501) &&
    snapshot.history.all idSchema &&
    decide (1 ≤ snapshot.historyPathLengths.length ∧
      snapshot.historyPathLengths.length ≤ 501) &&
    snapshot.historyPathLengths.all (fun length => decide (length ≤ 2000)) &&
    decide (snapshot.activePathTransitionIds.length ≤ 2000) &&
    snapshot.activePathTransitionIds.all idSchema &&
    snapshot.fixtures.all fun entry => fixtureKeySchema entry.1

/-- One transition of a replay. -/
def replayTransition
    (graph : PrototypeGraph)
    (snapshot : PrototypeRuntimeSnapshot)
    (transitionId : JsString) :
    Except PrototypeRuntimeError PrototypeRuntimeSnapshot :=
  match graph.transitions.find? fun item => item.id = transitionId with
  | none => .error (js "Invalid prototype runtime snapshot path")
  | some transition => snapshot.applySnapshotTransition graph transition

def replayRuntimeSnapshot
    (graph : PrototypeGraph)
    (scenarioId : Option JsString)
    (transitionIds : List JsString) :
    Except PrototypeRuntimeError PrototypeRuntimeSnapshot := do
  let initial ← initialRuntimeSnapshot graph scenarioId
  transitionIds.foldlM (replayTransition graph) initial

/--
Whether a replay led to a snapshot.  Arrays of ids and of lengths have the same
JSON text exactly when they are equal.
-/
def LedTo (replayed snapshot : PrototypeRuntimeSnapshot) : Prop :=
  replayed.activeNodeId = snapshot.activeNodeId ∧
    replayed.activeStateId = snapshot.activeStateId ∧
    replayed.activeOverlayId = snapshot.activeOverlayId ∧
    replayed.scenarioId = snapshot.scenarioId ∧
    replayed.activePathTransitionIds = snapshot.activePathTransitionIds ∧
    replayed.history = snapshot.history ∧
    replayed.historyPathLengths = snapshot.historyPathLengths

instance (replayed snapshot : PrototypeRuntimeSnapshot) :
    Decidable (LedTo replayed snapshot) := by
  unfold LedTo
  infer_instance

def parsePrototypeRuntimeSnapshot
    (host : GraphHost)
    (format : NumberFormat)
    (value : PrototypeRuntimeSnapshot)
    (graphValue : PrototypeGraph) :
    Except RuntimeFailure PrototypeRuntimeSnapshot := do
  let graph ← (parsePrototypeGraph host graphValue).mapError .graph
  let snapshot : PrototypeRuntimeSnapshot :=
    { value with
      fixtures := value.fixtures.filter fun entry => entry.1 ≠ protoKey }
  check (prototypeRuntimeSnapshotSchema snapshot = true)
    (.runtime (js "Invalid prototype runtime snapshot"))
  check (fixtureIssue snapshot.fixtures = none)
    (.runtime (js "Invalid prototype runtime snapshot fixtures"))
  let replayed ←
    (replayRuntimeSnapshot graph snapshot.scenarioId
      snapshot.activePathTransitionIds).mapError .runtime
  check (LedTo replayed snapshot)
    (.runtime (js "Invalid prototype runtime snapshot history"))
  check (stringify format (.object snapshot.fixtures) =
      stringify format (.object graph.fixtures))
    (.runtime (js "Invalid prototype runtime snapshot fixtures"))
  pure snapshot

/-- `restore`: the snapshot that a runtime takes over. -/
def PrototypeRuntime.restore
    (host : GraphHost)
    (format : NumberFormat)
    (runtime : PrototypeRuntime)
    (value : PrototypeRuntimeSnapshot) :
    Except RuntimeFailure PrototypeRuntime := do
  let snapshot ←
    parsePrototypeRuntimeSnapshot host format value runtime.graph
  pure { runtime with snapshotValue := snapshot }

/-! ## Graphs parse again -/

namespace PrototypeGraph

theorem trimNode_trimNode (node : PrototypeNode) :
    trimNode (trimNode node) = trimNode node := by
  simp [trimNode, trimPort, Function.comp_def]

theorem trimScenario_trimScenario (scenario : PrototypeScenario) :
    trimScenario (trimScenario scenario) = trimScenario scenario := by
  simp [trimScenario]

theorem clean_clean (graph : PrototypeGraph) :
    graph.clean.clean = graph.clean := by
  have viewState :
      (graph.viewState.map cleanViewState).map cleanViewState =
        graph.viewState.map cleanViewState := by
    cases graph.viewState <;> simp [cleanViewState]
  simp only [clean, trim_trim, List.map_map, List.filter_filter,
    Bool.and_self, viewState]
  congr 1
  · exact List.map_congr_left fun node _ => trimNode_trimNode node
  · exact List.map_congr_left fun scenario _ =>
      trimScenario_trimScenario scenario

end PrototypeGraph

variable {host : GraphHost} {value graph : PrototypeGraph}

theorem parsePrototypeGraph_again
    (accepted : parsePrototypeGraph host value = .ok graph) :
    graph.clean = graph ∧ parsePrototypeGraph host graph = .ok graph := by
  have none := graphIssues_of_parsePrototypeGraph accepted
  have same : graph.clean = graph := by
    unfold parsePrototypeGraph at accepted
    split at accepted
    · cases accepted
      exact value.clean_clean
    · cases accepted
  refine ⟨same, ?_⟩
  rw [parsePrototypeGraph, same, if_pos none]

/-! ## Replays -/

/-- The initial state of a scenario. -/
def initialStateOf (graph : PrototypeGraph) (scenarioId : Option JsString) :
    Option JsString := do
  let id ← scenarioId
  let scenario ← graph.scenarios.find? fun item => item.id = id
  scenario.initialStateId

/-- A snapshot at the start of its scenario, but for its path. -/
structure AtStart
    (graph : PrototypeGraph)
    (snapshot : PrototypeRuntimeSnapshot) : Prop where
  state : snapshot.activeStateId = initialStateOf graph snapshot.scenarioId
  overlay : snapshot.activeOverlayId = none
  history : snapshot.history = [snapshot.activeNodeId]
  lengths : snapshot.historyPathLengths =
    [snapshot.activePathTransitionIds.length]
  fixtures : snapshot.fixtures = graph.fixtures

variable {scenarioId : Option JsString} {snapshot : PrototypeRuntimeSnapshot}

theorem initialRuntimeSnapshot_eq_ok
    (initial : initialRuntimeSnapshot graph scenarioId = .ok snapshot) :
    AtStart graph snapshot ∧ snapshot.scenarioId = scenarioId ∧
      snapshot.activePathTransitionIds = [] := by
  obtain ⟨scenario, found, rest⟩ := bind_eq_ok.mp initial
  cases rest
  cases scenarioId with
  | none =>
      cases found
      exact ⟨⟨rfl, rfl, rfl, rfl, rfl⟩, rfl, rfl⟩
  | some id =>
      simp only [scenarioFor] at found
      split at found
      · rename_i other there
        cases found
        have sameId : other.id = id := by
          simpa using List.find?_some there
        subst sameId
        refine ⟨⟨?_, rfl, rfl, rfl, rfl⟩, rfl, rfl⟩
        simp [initialStateOf, there]
      · cases found

variable {transition : PrototypeTransition}

theorem replayTransition_of_mem
    (typed : graph.Typed)
    (wired : transition ∈ graph.transitions)
    (snapshot : PrototypeRuntimeSnapshot) :
    replayTransition graph snapshot transition.id =
      snapshot.applySnapshotTransition graph transition := by
  have found : (graph.transitions.find? fun item =>
      item.id = transition.id) = some transition := by
    cases looked : graph.transitions.find? fun item =>
        item.id = transition.id with
    | none =>
        have missing := List.find?_eq_none.mp looked transition wired
        simp at missing
    | some other =>
        have sameId : other.id = transition.id := by
          simpa using List.find?_some looked
        exact congrArg some (List.inj_on_of_nodup_map typed.transitionIds
          (List.mem_of_find?_eq_some looked) wired sameId)
  rw [replayTransition, found]

theorem replayRuntimeSnapshot_append
    (graph : PrototypeGraph)
    (scenarioId : Option JsString)
    (transitionIds : List JsString)
    (transitionId : JsString) :
    replayRuntimeSnapshot graph scenarioId
        (transitionIds ++ [transitionId]) =
      replayRuntimeSnapshot graph scenarioId transitionIds >>=
        fun snapshot => replayTransition graph snapshot transitionId := by
  simp [replayRuntimeSnapshot]

/-- The snapshot that was active when a history entry was made. -/
def entrySnapshot
    (graph : PrototypeGraph)
    (snapshot : PrototypeRuntimeSnapshot)
    (place : Nat)
    (id : JsString)
    (length : Nat) :
    PrototypeRuntimeSnapshot where
  activeNodeId := id
  activeStateId :=
    if place = 0 then initialStateOf graph snapshot.scenarioId else none
  activeOverlayId := none
  scenarioId := snapshot.scenarioId
  history := snapshot.history.take (place + 1)
  historyPathLengths := snapshot.historyPathLengths.take (place + 1)
  activePathTransitionIds := snapshot.activePathTransitionIds.take length
  fixtures := snapshot.fixtures

/--
The path of a snapshot replays to the snapshot, and the part of it up to a
history entry replays to what was active at that entry.
-/
structure Replays
    (graph : PrototypeGraph)
    (snapshot : PrototypeRuntimeSnapshot) : Prop where
  wellFormed : WellFormed graph snapshot
  fixtures : snapshot.fixtures = graph.fixtures
  whole : replayRuntimeSnapshot graph snapshot.scenarioId
    snapshot.activePathTransitionIds = .ok snapshot
  entries : ∀ (place : Nat) (id : JsString) (length : Nat),
    snapshot.history[place]? = some id →
    snapshot.historyPathLengths[place]? = some length →
      replayRuntimeSnapshot graph snapshot.scenarioId
          (snapshot.activePathTransitionIds.take length) =
        .ok (entrySnapshot graph snapshot place id length)

theorem AtStart.entrySnapshot_zero
    (atStart : AtStart graph snapshot) :
    entrySnapshot graph snapshot 0 snapshot.activeNodeId
      snapshot.activePathTransitionIds.length = snapshot := by
  obtain ⟨state, overlay, history, lengths, _⟩ := atStart
  cases snapshot
  simp_all [entrySnapshot]

theorem AtStart.replays
    (atStart : AtStart graph snapshot)
    (wellFormed : WellFormed graph snapshot)
    (whole : replayRuntimeSnapshot graph snapshot.scenarioId
      snapshot.activePathTransitionIds = .ok snapshot) :
    Replays graph snapshot := by
  refine ⟨wellFormed, atStart.fixtures, whole, ?_⟩
  intro place id length isEntry isLength
  rw [atStart.history] at isEntry
  rw [atStart.lengths] at isLength
  cases place with
  | zero =>
      cases isEntry
      cases isLength
      rw [List.take_length, whole, atStart.entrySnapshot_zero]
  | succ place => simp at isEntry

theorem replays_initialRuntimeSnapshot
    (typed : graph.Typed)
    (initial : initialRuntimeSnapshot graph scenarioId = .ok snapshot) :
    Replays graph snapshot := by
  obtain ⟨atStart, sameScenario, emptyPath⟩ :=
    initialRuntimeSnapshot_eq_ok initial
  refine atStart.replays (wellFormed_initialRuntimeSnapshot typed initial).1 ?_
  rw [sameScenario, emptyPath, replayRuntimeSnapshot, initial]
  rfl

/-- Whether a transition is a step back. -/
def PrototypeTransition.IsBack (transition : PrototypeTransition) : Prop :=
  transition.kind = .back

instance (transition : PrototypeTransition) : Decidable transition.IsBack := by
  unfold PrototypeTransition.IsBack
  infer_instance

/-- The ways in which a transition other than a step back moves a snapshot. -/
inductive Moved
    (graph : PrototypeGraph)
    (snapshot next : PrototypeRuntimeSnapshot)
    (transitionId : JsString) : Prop where
  | entered (target : JsString)
      (shape : next = { snapshot with
        activeNodeId := target
        activeStateId := none
        activeOverlayId := none
        history := snapshot.history ++ [target]
        historyPathLengths := snapshot.historyPathLengths ++
          [snapshot.activePathTransitionIds.length + 1]
        activePathTransitionIds :=
          snapshot.activePathTransitionIds ++ [transitionId] })
  | stayed (activeStateId activeOverlayId : Option JsString)
      (shape : next = { snapshot with
        activeStateId
        activeOverlayId
        activePathTransitionIds :=
          snapshot.activePathTransitionIds ++ [transitionId] })
  | restarted
      (atStart : AtStart graph next)
      (scenario : next.scenarioId = snapshot.scenarioId)
      (path : next.activePathTransitionIds =
        snapshot.activePathTransitionIds ++ [transitionId])

variable {next : PrototypeRuntimeSnapshot}

theorem moved_of_applied
    (forward : ¬transition.IsBack)
    (applied : snapshot.applySnapshotTransition graph transition =
      .ok next) :
    Moved graph snapshot next transition.id := by
  unfold PrototypeRuntimeSnapshot.applySnapshotTransition at applied
  split at applied
  · cases kind : transition.kind with
    | navigate target =>
        rw [kind] at applied
        cases applied
        exact .entered target (by simp)
    | back => exact absurd kind forward
    | setState target =>
        rw [kind] at applied
        cases applied
        exact .stayed _ _ rfl
    | openOverlay target =>
        rw [kind] at applied
        cases applied
        exact .stayed _ _ rfl
    | closeOverlay target =>
        rw [kind] at applied
        simp only at applied
        split at applied
        · cases applied
          exact .stayed _ _ rfl
        · cases applied
    | resetFlow =>
        rw [kind] at applied
        obtain ⟨initial, found, rest⟩ := bind_eq_ok.mp applied
        obtain ⟨atStart, sameScenario, _⟩ :=
          initialRuntimeSnapshot_eq_ok found
        cases rest
        exact .restarted
          ⟨atStart.state, atStart.overlay, atStart.history, rfl,
            atStart.fixtures⟩
          sameScenario rfl
  · cases applied

theorem Moved.path
    {transitionId : JsString}
    (moved : Moved graph snapshot next transitionId) :
    next.activePathTransitionIds =
        snapshot.activePathTransitionIds ++ [transitionId] ∧
      next.scenarioId = snapshot.scenarioId := by
  cases moved with
  | entered target shape => exact ⟨by rw [shape], by rw [shape]⟩
  | stayed state overlay shape => exact ⟨by rw [shape], by rw [shape]⟩
  | restarted atStart scenario path => exact ⟨path, scenario⟩

theorem Replays.earlier_entry
    (replays : Replays graph snapshot)
    {transitionId : JsString}
    (history : snapshot.history <+: next.history)
    (pathLengths : snapshot.historyPathLengths <+: next.historyPathLengths)
    (path : next.activePathTransitionIds =
      snapshot.activePathTransitionIds ++ [transitionId])
    (scenario : next.scenarioId = snapshot.scenarioId)
    (fixtures : next.fixtures = snapshot.fixtures)
    {place : Nat}
    (bound : place < snapshot.history.length)
    {id : JsString}
    {length : Nat}
    (isEntry : next.history[place]? = some id)
    (isLength : next.historyPathLengths[place]? = some length) :
    replayRuntimeSnapshot graph next.scenarioId
        (next.activePathTransitionIds.take length) =
      .ok (entrySnapshot graph next place id length) := by
  have lengthBound : place < snapshot.historyPathLengths.length := by
    rw [← replays.wellFormed.lengths]
    exact bound
  obtain ⟨_, history⟩ := history
  obtain ⟨_, pathLengths⟩ := pathLengths
  rw [← history, List.getElem?_append_left bound] at isEntry
  rw [← pathLengths, List.getElem?_append_left lengthBound] at isLength
  have within := replays.wellFormed.bounded length
    (List.mem_of_getElem? isLength)
  have taken : next.activePathTransitionIds.take length =
      snapshot.activePathTransitionIds.take length := by
    rw [path, List.take_append_of_le_length within]
  have same : entrySnapshot graph next place id length =
      entrySnapshot graph snapshot place id length := by
    simp only [entrySnapshot, scenario, fixtures, taken, ← history, ← pathLengths,
      List.take_append_of_le_length (Nat.succ_le_of_lt bound),
      List.take_append_of_le_length (Nat.succ_le_of_lt lengthBound)]
  rw [same, taken, scenario]
  exact replays.entries place id length isEntry isLength

theorem Replays.applied
    (typed : graph.Typed)
    (replays : Replays graph snapshot)
    (wired : transition ∈ graph.transitions)
    (forward : ¬transition.IsBack)
    (applied : snapshot.applySnapshotTransition graph transition =
      .ok next) :
    Replays graph next := by
  have wellFormed :=
    replays.wellFormed.applySnapshotTransition typed wired applied
  have moved := moved_of_applied forward applied
  obtain ⟨path, scenario⟩ := moved.path
  have whole : replayRuntimeSnapshot graph next.scenarioId
      next.activePathTransitionIds = .ok next := by
    rw [path, scenario, replayRuntimeSnapshot_append, replays.whole, ok_bind,
      replayTransition_of_mem typed wired, applied]
  cases moved with
  | restarted atStart _ _ => exact atStart.replays wellFormed whole
  | stayed state overlay shape =>
      refine ⟨wellFormed, by rw [shape, ← replays.fixtures], whole, ?_⟩
      intro place id length isEntry isLength
      have bound : place < snapshot.history.length := by
        have there := (List.getElem?_eq_some_iff.mp isEntry).1
        rw [shape] at there
        exact there
      exact replays.earlier_entry (by rw [shape]) (by rw [shape])
        path scenario (by rw [shape]) bound isEntry isLength
  | entered target shape =>
      refine ⟨wellFormed, by rw [shape, ← replays.fixtures], whole, ?_⟩
      intro place id length isEntry isLength
      have history : next.history = snapshot.history ++ [target] := by
        rw [shape]
      have pathLengths : next.historyPathLengths =
          snapshot.historyPathLengths ++
            [snapshot.activePathTransitionIds.length + 1] := by
        rw [shape]
      rcases Nat.lt_or_ge place snapshot.history.length with bound | beyond
      · exact replays.earlier_entry ⟨_, history.symm⟩ ⟨_, pathLengths.symm⟩
          path scenario (by rw [shape]) bound isEntry isLength
      · have inside := (List.getElem?_eq_some_iff.mp isEntry).1
        rw [history, List.length_append, List.length_singleton] at inside
        have isLast : place = snapshot.history.length := by omega
        have sameLength : place = snapshot.historyPathLengths.length := by
          rw [← replays.wellFormed.lengths]
          exact isLast
        have positive : place ≠ 0 := by
          have some := List.length_pos_of_ne_nil
            replays.wellFormed.history_ne_nil
          omega
        rw [history, isLast, List.getElem?_concat_length] at isEntry
        rw [pathLengths, sameLength, List.getElem?_concat_length] at isLength
        cases isEntry
        cases isLength
        have all : next.activePathTransitionIds.take
            (snapshot.activePathTransitionIds.length + 1) =
              next.activePathTransitionIds :=
          List.take_of_length_le (by rw [path, List.length_append]; rfl)
        rw [all, whole, entrySnapshot, if_neg positive, all,
          List.take_of_length_le (by rw [history]; simp [isLast]),
          List.take_of_length_le (by rw [pathLengths]; simp [sameLength])]
        rw [shape]

theorem backSnapshot_eq
    (wellFormed : WellFormed graph snapshot)
    (long : 1 < snapshot.history.length) :
    ∃ id length,
      snapshot.history[snapshot.history.length - 2]? = some id ∧
      snapshot.historyPathLengths[snapshot.history.length - 2]? =
        some length ∧
      snapshot.backSnapshot = { snapshot with
        activeNodeId := id
        activeStateId := none
        activeOverlayId := none
        history := snapshot.history.take (snapshot.history.length - 1)
        historyPathLengths :=
          snapshot.historyPathLengths.take (snapshot.history.length - 1)
        activePathTransitionIds :=
          snapshot.activePathTransitionIds.take length } := by
  have lengths := wellFormed.lengths
  have inside : snapshot.history.length - 2 < snapshot.history.length := by
    omega
  have insideLengths : snapshot.history.length - 2 <
      snapshot.historyPathLengths.length := by omega
  refine ⟨snapshot.history[snapshot.history.length - 2],
    snapshot.historyPathLengths[snapshot.history.length - 2],
    List.getElem?_eq_getElem inside,
    List.getElem?_eq_getElem insideLengths, ?_⟩
  have short : ¬snapshot.history.length ≤ 1 := by omega
  simp only [PrototypeRuntimeSnapshot.backSnapshot, if_neg short,
    List.getLast?_dropLast, ← lengths,
    List.getElem?_eq_getElem inside, List.getElem?_eq_getElem insideLengths,
    Option.getD_some]
  simp only [List.dropLast_eq_take, ← lengths]

theorem Replays.replay_backSnapshot
    (replays : Replays graph snapshot)
    (long : 1 < snapshot.history.length) :
    replayRuntimeSnapshot graph snapshot.backSnapshot.scenarioId
        snapshot.backSnapshot.activePathTransitionIds =
      .ok { snapshot.backSnapshot with
        activeStateId :=
          if snapshot.history.length = 2 then
            initialStateOf graph snapshot.scenarioId
          else none } := by
  obtain ⟨id, length, isEntry, isLength, shape⟩ :=
    backSnapshot_eq replays.wellFormed long
  have replayed := replays.entries _ id length isEntry isLength
  have next : snapshot.history.length - 2 + 1 =
      snapshot.history.length - 1 := by omega
  have first : snapshot.history.length - 2 = 0 ↔
      snapshot.history.length = 2 := by omega
  rw [shape, replayed, entrySnapshot, next]
  simp only [first]

theorem WellFormed.ordered_getElem?
    (wellFormed : WellFormed graph snapshot)
    {earlier later first second : Nat}
    (before : earlier < later)
    (isFirst : snapshot.historyPathLengths[earlier]? = some first)
    (isSecond : snapshot.historyPathLengths[later]? = some second) :
    first ≤ second := by
  obtain ⟨firstBound, rfl⟩ := List.getElem?_eq_some_iff.mp isFirst
  obtain ⟨secondBound, rfl⟩ := List.getElem?_eq_some_iff.mp isSecond
  exact List.pairwise_iff_getElem.mp wellFormed.ordered earlier later
    firstBound secondBound before

/-- Steps back keep the replay unless they drop an initial state. -/
theorem Replays.backSnapshot
    (replays : Replays graph snapshot)
    (keeps : snapshot.history.length = 2 →
      initialStateOf graph snapshot.scenarioId = none) :
    Replays graph snapshot.backSnapshot := by
  rcases Nat.lt_or_ge 1 snapshot.history.length with long | short
  · have wellFormed := replays.wellFormed.backSnapshot
    have whole := replays.replay_backSnapshot long
    obtain ⟨id, length, isEntry, isLength, shape⟩ :=
      backSnapshot_eq replays.wellFormed long
    have noState : snapshot.backSnapshot.activeStateId = none := by rw [shape]
    have dropped : (if snapshot.history.length = 2 then
        initialStateOf graph snapshot.scenarioId else none) =
          snapshot.backSnapshot.activeStateId := by
      rw [noState]
      split
      · exact keeps ‹_›
      · rfl
    rw [dropped] at whole
    refine ⟨wellFormed, by rw [shape, ← replays.fixtures], whole, ?_⟩
    intro place otherId otherLength otherEntry isOtherLength
    have inside : place < snapshot.history.length - 1 := by
      have bound := (List.getElem?_eq_some_iff.mp otherEntry).1
      rw [shape, List.length_take] at bound
      omega
    have history : snapshot.backSnapshot.history =
        snapshot.history.take (snapshot.history.length - 1) := by rw [shape]
    have lengths : snapshot.backSnapshot.historyPathLengths =
        snapshot.historyPathLengths.take (snapshot.history.length - 1) := by
      rw [shape]
    have path : snapshot.backSnapshot.activePathTransitionIds =
        snapshot.activePathTransitionIds.take length := by rw [shape]
    rw [history, List.getElem?_take_of_lt inside] at otherEntry
    rw [lengths, List.getElem?_take_of_lt inside] at isOtherLength
    have below : otherLength ≤ length := by
      rcases Nat.lt_or_ge place (snapshot.history.length - 2) with
        before | last
      · exact replays.wellFormed.ordered_getElem? before isOtherLength isLength
      · obtain rfl : place = snapshot.history.length - 2 := by omega
        cases isOtherLength.symm.trans isLength
        exact Nat.le_refl _
    have replayed := replays.entries place otherId otherLength otherEntry
      isOtherLength
    have scenario : snapshot.backSnapshot.scenarioId = snapshot.scenarioId := by
      rw [shape]
    rw [path, scenario, List.take_take, Nat.min_eq_left below, replayed]
    simp only [entrySnapshot, history, lengths, path, scenario, List.take_take,
      Nat.min_eq_left below, Nat.min_eq_left (Nat.succ_le_of_lt inside)]
    rw [shape]
  · have same : snapshot.backSnapshot = snapshot :=
      if_pos short
    rw [same]
    exact replays

/-! ## Restoring -/

/-- The bounds on the snapshots that a host keeps. -/
def Fits (snapshot : PrototypeRuntimeSnapshot) : Prop :=
  snapshot.history.length ≤ 501 ∧
    snapshot.activePathTransitionIds.length ≤ 2000

instance (snapshot : PrototypeRuntimeSnapshot) : Decidable (Fits snapshot) := by
  unfold Fits
  infer_instance

/-- The runtime can restore its own snapshot. -/
def Restores
    (host : GraphHost)
    (format : NumberFormat)
    (runtime : PrototypeRuntime) : Prop :=
  ∃ restored,
    runtime.restore host format runtime.snapshot = .ok restored ∧
      LedTo restored.snapshot runtime.snapshot

theorem IdsAccepted.node
    (ids : IdsAccepted graph)
    {id : JsString}
    (known : (graph.nodeById id).isSome = true) :
    idSchema id = true := by
  obtain ⟨node, found⟩ := Option.isSome_iff_exists.mp known
  have sameId : node.id = id := by
    simpa using List.find?_some found
  rw [← sameId]
  exact ids.nodes node (List.mem_of_find?_eq_some found)

theorem mem_transitions_of_foldlM
    {transitionIds : List JsString}
    {initial : PrototypeRuntimeSnapshot}
    (replayed : transitionIds.foldlM (replayTransition graph) initial =
      .ok snapshot) :
    ∀ id ∈ transitionIds, ∃ transition ∈ graph.transitions,
      transition.id = id := by
  induction transitionIds generalizing initial with
  | nil => simp
  | cons first rest inductionHypothesis =>
      rw [List.foldlM_cons] at replayed
      obtain ⟨next, step, later⟩ := bind_eq_ok.mp replayed
      intro id member
      rcases List.mem_cons.mp member with rfl | inRest
      · unfold replayTransition at step
        split at step
        · cases step
        · rename_i transition found
          exact ⟨transition, List.mem_of_find?_eq_some found,
            by simpa using List.find?_some found⟩
      · exact inductionHypothesis later id inRest

theorem idSchema_scenarioId
    (ids : IdsAccepted graph)
    {scenario : Option PrototypeScenario}
    (found : scenarioFor graph scenarioId = .ok scenario) :
    scenarioId.all idSchema = true := by
  cases scenarioId with
  | none => rfl
  | some id =>
      simp only [scenarioFor] at found
      split at found
      · rename_i other there
        have sameId : other.id = id := by
          simpa using List.find?_some there
        rw [Option.all_some, ← sameId]
        exact ids.scenarios other (List.mem_of_find?_eq_some there)
      · cases found

theorem schema_of_replayed
    {replayed : PrototypeRuntimeSnapshot}
    (ids : IdsAccepted graph)
    (wellFormed : WellFormed graph snapshot)
    (fixtures : snapshot.fixtures = graph.fixtures)
    (whole : replayRuntimeSnapshot graph snapshot.scenarioId
      snapshot.activePathTransitionIds = .ok replayed)
    (fits : Fits snapshot) :
    prototypeRuntimeSnapshotSchema snapshot = true := by
  obtain ⟨initial, first, path⟩ := bind_eq_ok.mp whole
  obtain ⟨scenario, found, _⟩ := bind_eq_ok.mp first
  have surface (id : JsString) (isSurface : graph.IsSurfaceId id) :
      idSchema id = true := by
    refine ids.node ?_
    cases node : graph.nodeById id with
    | none => simp [PrototypeGraph.IsSurfaceId, node] at isSurface
    | some node => rfl
  have state : snapshot.activeStateId.all idSchema = true := by
    rw [Option.all_eq_true]
    intro id isState
    refine ids.node ?_
    have owned := wellFormed.state id isState
    cases node : graph.nodeById id with
    | none => simp [PrototypeGraph.IsStateOf, node] at owned
    | some node => rfl
  have overlay : snapshot.activeOverlayId.all idSchema = true := by
    rw [Option.all_eq_true]
    intro id isOverlay
    refine ids.node ?_
    have overlaid := wellFormed.overlay id isOverlay
    cases node : graph.nodeById id with
    | none => simp [PrototypeGraph.IsOverlayId, node] at overlaid
    | some node => rfl
  have history : snapshot.history.all idSchema = true :=
    List.all_eq_true.mpr fun id member =>
      surface id (wellFormed.surfaces id member)
  have lengths : (snapshot.historyPathLengths.all fun length =>
      decide (length ≤ 2000)) = true :=
    List.all_eq_true.mpr fun length member =>
      decide_eq_true ((wellFormed.bounded length member).trans fits.2)
  have pathIds : snapshot.activePathTransitionIds.all idSchema = true := by
    rw [List.all_eq_true]
    intro id member
    obtain ⟨transition, wired, rfl⟩ :=
      mem_transitions_of_foldlM path id member
    exact ids.transitions transition wired
  have keys : (snapshot.fixtures.all fun entry =>
      fixtureKeySchema entry.1) = true := by
    rw [fixtures, List.all_eq_true]
    exact ids.fixtureKeys
  have positive := List.length_pos_of_ne_nil wellFormed.history_ne_nil
  simp only [prototypeRuntimeSnapshotSchema, Bool.and_eq_true,
    decide_eq_true_eq]
  exact ⟨⟨⟨⟨⟨⟨⟨⟨⟨⟨surface _ wellFormed.activeNode, state⟩, overlay⟩,
    idSchema_scenarioId ids found⟩, positive, fits.1⟩, history⟩,
    by rw [← wellFormed.lengths]; exact ⟨positive, fits.1⟩⟩, lengths⟩,
    fits.2⟩, pathIds⟩, keys⟩

/-- A runtime restores its snapshot exactly when the replay leads to it. -/
theorem restores_iff_ledTo
    (format : NumberFormat)
    {replayed : PrototypeRuntimeSnapshot}
    (accepted : parsePrototypeGraph host value = .ok graph)
    (wellFormed : WellFormed graph snapshot)
    (fixtures : snapshot.fixtures = graph.fixtures)
    (whole : replayRuntimeSnapshot graph snapshot.scenarioId
      snapshot.activePathTransitionIds = .ok replayed)
    (fits : Fits snapshot) :
    Restores host format ⟨graph, snapshot⟩ ↔ LedTo replayed snapshot := by
  obtain ⟨clean, again⟩ := parsePrototypeGraph_again accepted
  have ids := idsAccepted_of_parsePrototypeGraph accepted
  have kept : (snapshot.fixtures.filter fun entry =>
      entry.1 ≠ protoKey) = snapshot.fixtures := by
    rw [fixtures]
    exact congrArg PrototypeGraph.fixtures clean
  have schema := schema_of_replayed ids wellFormed fixtures whole fits
  have noIssue : fixtureIssue snapshot.fixtures = none := by
    rw [fixtures]
    exact ids.fixtures
  have parsed : parsePrototypeRuntimeSnapshot host format
      snapshot graph =
        (check (LedTo replayed snapshot)
          (.runtime (js "Invalid prototype runtime snapshot history"))).map
            fun _ => snapshot := by
    have texts : stringify format (.object snapshot.fixtures) =
        stringify format (.object graph.fixtures) := by
      rw [fixtures]
    unfold parsePrototypeRuntimeSnapshot
    simp only [again, kept, Except.mapError, ok_bind, check_of schema,
      check_of noIssue, check_of texts, whole]
    by_cases led : LedTo replayed snapshot
    · rw [check_of led]
      rfl
    · rw [check_of_not led]
      rfl
  unfold Restores PrototypeRuntime.restore PrototypeRuntime.snapshot
  rw [parsed]
  by_cases led : LedTo replayed snapshot
  · rw [check_of led]
    refine iff_of_true ⟨⟨graph, snapshot⟩, rfl, ?_⟩ led
    exact ⟨rfl, rfl, rfl, rfl, rfl, rfl, rfl⟩
  · rw [check_of_not led]
    exact iff_of_false (by rintro ⟨_, ⟨⟩, _⟩) led

/-! ## Runs -/

/-- Whether a call steps back, by itself or through a wired port. -/
def PrototypeRuntime.GoesBack (runtime : PrototypeRuntime) :
    ActionValue → Prop
  | .back => True
  | .trigger nodeId portId =>
      ActionValue.isAccepted (.trigger nodeId portId) = true ∧
        ∃ transition ∈ PrototypeRuntime.transitionAt runtime.graph nodeId
            portId,
          transition.IsBack ∧
            runtime.snapshotValue.IsActiveActionSurface
              transition.origin.nodeId
  | .malformed => False

/--
A step back to the first history entry, in a scenario with an initial state.
-/
def PrototypeRuntime.DropsInitialState
    (runtime : PrototypeRuntime)
    (value : ActionValue) : Prop :=
  runtime.GoesBack value ∧
    runtime.snapshotValue.history.length = 2 ∧
    (initialStateOf runtime.graph
      runtime.snapshotValue.scenarioId).isSome = true

variable {runtime : PrototypeRuntime}

theorem dispatch_of_goesBack
    {value : ActionValue}
    (back : runtime.GoesBack value) :
    runtime.dispatch value =
      runtime.moveTo runtime.snapshotValue.backSnapshot := by
  cases value with
  | malformed => exact back.elim
  | back => rfl
  | trigger nodeId portId =>
      obtain ⟨isAccepted, transition, found, isBack, active⟩ := back
      have kind : transition.kind = .back := isBack
      rw [PrototypeRuntime.dispatch, if_pos isAccepted]
      simp only [PrototypeRuntime.trigger, Option.mem_def.mp found,
        PrototypeRuntimeSnapshot.applySnapshotTransition, if_pos active, kind]

theorem dispatch_of_not_goesBack
    {value : ActionValue}
    (forward : ¬runtime.GoesBack value) :
    (runtime.dispatch value).1 = runtime ∨
      ∃ transition ∈ runtime.graph.transitions, ∃ next,
        ¬transition.IsBack ∧
          runtime.snapshotValue.applySnapshotTransition runtime.graph
            transition = .ok next ∧
          runtime.dispatch value = runtime.moveTo next := by
  cases value with
  | malformed => exact .inl rfl
  | back => exact (forward trivial).elim
  | trigger nodeId portId =>
      by_cases isAccepted :
          ActionValue.isAccepted (.trigger nodeId portId) = true
      · rw [PrototypeRuntime.dispatch, if_pos isAccepted]
        simp only [PrototypeRuntime.trigger]
        cases found : PrototypeRuntime.transitionAt runtime.graph nodeId
            portId with
        | none => exact .inl rfl
        | some transition =>
            cases applied : runtime.snapshotValue.applySnapshotTransition
                runtime.graph transition with
            | error message => exact .inl (by simp only [applied])
            | ok next =>
                refine .inr ⟨transition, List.mem_of_find?_eq_some found,
                  next, ?_, applied, by simp only [applied]⟩
                intro isBack
                refine forward ⟨isAccepted, transition, found, isBack, ?_⟩
                by_contra inactive
                rw [PrototypeRuntimeSnapshot.applySnapshotTransition,
                  if_neg inactive] at applied
                cases applied
      · left
        rw [PrototypeRuntime.dispatch, if_neg isAccepted]

/-- What holds of a runtime before any initial state is dropped. -/
structure Kept (runtime : PrototypeRuntime) : Prop where
  typed : runtime.graph.Typed
  replays : Replays runtime.graph runtime.snapshotValue

theorem Kept.restores
    (format : NumberFormat)
    (kept : Kept runtime)
    (accepted : parsePrototypeGraph host value = .ok runtime.graph)
    (fits : Fits runtime.snapshotValue) :
    Restores host format runtime :=
  (restores_iff_ledTo format accepted kept.replays.wellFormed
    kept.replays.fixtures kept.replays.whole fits).mpr
    ⟨rfl, rfl, rfl, rfl, rfl, rfl, rfl⟩

theorem Kept.dispatch
    (kept : Kept runtime)
    {value : ActionValue}
    (keeps : ¬runtime.DropsInitialState value) :
    Kept (runtime.dispatch value).1 ∧
      (runtime.dispatch value).1.graph = runtime.graph := by
  by_cases back : runtime.GoesBack value
  · rw [dispatch_of_goesBack back]
    refine ⟨⟨kept.typed, kept.replays.backSnapshot fun two => ?_⟩, rfl⟩
    by_contra state
    exact keeps ⟨back, two, Option.isSome_iff_ne_none.mpr state⟩
  · rcases dispatch_of_not_goesBack back with
      same | ⟨transition, wired, next, forward, applied, moved⟩
    · rw [same]
      exact ⟨kept, rfl⟩
    · rw [moved]
      exact ⟨⟨kept.typed,
        kept.replays.applied kept.typed wired forward applied⟩, rfl⟩

section

variable (format : NumberFormat) (kept : Kept runtime)
  (accepted : parsePrototypeGraph host value = .ok runtime.graph)

include kept accepted

theorem Kept.not_restores
    {action : ActionValue}
    (drops : runtime.DropsInitialState action)
    (fits : Fits (runtime.dispatch action).1.snapshotValue) :
    ¬Restores host format (runtime.dispatch action).1 := by
  obtain ⟨back, two, state⟩ := drops
  rw [dispatch_of_goesBack back] at fits ⊢
  have long : 1 < runtime.snapshotValue.history.length := by omega
  have replayed := kept.replays.replay_backSnapshot long
  have wellFormed := kept.replays.wellFormed.backSnapshot
  obtain ⟨id, length, _, _, shape⟩ :=
    backSnapshot_eq kept.replays.wellFormed long
  have fixtures : runtime.snapshotValue.backSnapshot.fixtures =
      runtime.graph.fixtures := by
    rw [shape, ← kept.replays.fixtures]
  have noState : runtime.snapshotValue.backSnapshot.activeStateId = none := by
    rw [shape]
  intro restored
  obtain ⟨_, sameState, _⟩ :=
    (restores_iff_ledTo format accepted wellFormed fixtures replayed fits).mp
      restored
  rw [if_pos two] at sameState
  have noInitial :
      initialStateOf runtime.graph runtime.snapshotValue.scenarioId = none :=
    sameState.trans noState
  rw [noInitial] at state
  cases state

/-- The states after the calls of a run restore unless a call drops one. -/
theorem Kept.run
    {actions : List ActionValue}
    (fits : ∀ entry ∈ taken PrototypeRuntime.dispatch runtime actions,
      Fits entry.after.snapshotValue) :
    (∀ entry ∈ taken PrototypeRuntime.dispatch runtime actions,
        Restores host format entry.after) ↔
      ∀ entry ∈ taken PrototypeRuntime.dispatch runtime actions,
        ¬entry.before.DropsInitialState entry.call := by
  induction actions generalizing runtime with
  | nil => simp [taken]
  | cons action rest inductionHypothesis =>
      simp only [taken, List.forall_mem_cons] at fits ⊢
      by_cases drops : runtime.DropsInitialState action
      · exact iff_of_false
          (fun restores =>
            kept.not_restores format accepted drops fits.1 restores.1)
          (fun keeps => keeps.1 drops)
      · obtain ⟨keptNext, sameGraph⟩ := kept.dispatch drops
        have acceptedNext : parsePrototypeGraph host value =
            .ok (runtime.dispatch action).1.graph := by
          rw [sameGraph]
          exact accepted
        have restored := keptNext.restores format acceptedNext fits.1
        have later := inductionHypothesis keptNext acceptedNext fits.2
        exact ⟨fun restores => ⟨drops, later.mp restores.2⟩,
          fun keeps => ⟨restored, later.mpr keeps.2⟩⟩

end

/--
Runs of a runtime within the bounds of a host: every snapshot is restored as it
was, exactly when no call steps back to the first history entry in a scenario
with an initial state.
-/
theorem restores_run_iff
    {host : GraphHost}
    (format : NumberFormat)
    {value : PrototypeGraph}
    {scenarioId : Option JsString}
    {runtime : PrototypeRuntime}
    (created : createPrototypeRuntime host value scenarioId = .ok runtime)
    {actions : List ActionValue}
    (fits : ∀ entry ∈ taken PrototypeRuntime.dispatch runtime actions,
      Fits entry.after.snapshot) :
    (Restores host format runtime ∧
        ∀ entry ∈ taken PrototypeRuntime.dispatch runtime actions,
          Restores host format entry.after) ↔
      ∀ entry ∈ taken PrototypeRuntime.dispatch runtime actions,
        ¬entry.before.DropsInitialState entry.call := by
  obtain ⟨parsed, first⟩ := createPrototypeRuntime_eq_ok created
  have typed := typed_of_parsePrototypeGraph parsed
  have kept : Kept runtime :=
    ⟨typed, replays_initialRuntimeSnapshot typed first⟩
  obtain ⟨atStart, _, emptyPath⟩ := initialRuntimeSnapshot_eq_ok first
  have small : Fits runtime.snapshotValue := by
    rw [Fits, atStart.history, emptyPath]
    exact ⟨by simp, by simp⟩
  rw [← kept.run format parsed fits]
  exact and_iff_right (kept.restores format parsed small)

/-! ### A scenario with an initial state -/

/-- The sample, with a second page and a scenario that starts in the state. -/
def statefulGraph : PrototypeGraph :=
  { sampleGraph with
    nodes := [
      ⟨js "orders", js "Orders", ⟨⟨0, isDouble_zero⟩, ⟨0, isDouble_zero⟩⟩,
        [⟨js "open", js "Open", .click⟩], .screen (js "/orders")⟩,
      ⟨js "orders-empty", js "Empty",
        ⟨⟨0, isDouble_zero⟩, ⟨0, isDouble_zero⟩⟩, [], .state (js "orders")⟩]
    transitions := [
      ⟨js "open-orders", ⟨js "orders", js "open"⟩,
        .navigate (js "orders")⟩]
    scenarios := [⟨js "empty", js "Empty", js "orders",
      some (js "orders-empty"), [js "orders"]⟩] }

/-- The runtime of its scenario. -/
def statefulRuntime : PrototypeRuntime where
  graph := statefulGraph
  snapshotValue := ⟨js "orders", some (js "orders-empty"), none,
    some (js "empty"), [js "orders"], [0], [], []⟩

/-- Opening the page again is restored. -/
theorem restores_run_iff_sample :
    (Restores sampleHost exactNumerals statefulRuntime ∧
        ∀ entry ∈ taken PrototypeRuntime.dispatch statefulRuntime
            [.trigger (js "orders") (js "open")],
          Restores sampleHost exactNumerals entry.after) ↔
      ∀ entry ∈ taken PrototypeRuntime.dispatch statefulRuntime
          [.trigger (js "orders") (js "open")],
        ¬entry.before.DropsInitialState entry.call :=
  restores_run_iff exactNumerals
    (show createPrototypeRuntime sampleHost statefulGraph
      (some (js "empty")) = .ok statefulRuntime from rfl)
    (by decide +kernel)

/--
Opening the page and going back drops the state, and the host cannot restore
the snapshot that the runtime returns.
-/
theorem snapshot_after_back_refused :
    createPrototypeRuntime sampleHost statefulGraph (some (js "empty")) =
        .ok statefulRuntime ∧
      Fits (takeAll PrototypeRuntime.dispatch statefulRuntime
        [.trigger (js "orders") (js "open"), .back]).snapshot ∧
      ¬Restores sampleHost exactNumerals
        (takeAll PrototypeRuntime.dispatch statefulRuntime
          [.trigger (js "orders") (js "open"), .back]) := by
  refine ⟨rfl, by decide +kernel, ?_⟩
  have refused : (takeAll PrototypeRuntime.dispatch statefulRuntime
      [.trigger (js "orders") (js "open"), .back]).restore sampleHost
        exactNumerals (takeAll PrototypeRuntime.dispatch statefulRuntime
          [.trigger (js "orders") (js "open"), .back]).snapshot =
      .error (.runtime (js "Invalid prototype runtime snapshot history")) :=
    rfl
  rintro ⟨restored, accepted, _⟩
  cases refused.symm.trans accepted

end Selene.Prototype
