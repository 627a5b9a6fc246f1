import Selene.CanonicalData
import Selene.PrototypeGraphText
import Selene.Timeline

/-!
# The history of the canvas graph

The canvas keeps the graphs before and after the one it shows.  A change is
planned on the history, and the history moves once the host has acknowledged
this exact graph under the next revision; what the host answers or presents
otherwise starts the history anew.

Every history that is reached shows a `Timeline` of canonical texts, and a change
that is acknowledged is a move on it (`canvasHistory_shows`).
-/

namespace Selene.Canvas

open Js Canonical Prototype

structure CanvasGraphHistory where
  graph : PrototypeGraph
  revision : Nat
  past : List PrototypeGraph
  future : List PrototypeGraph

inductive CanvasGraphHistoryKind where
  | commit
  | undo
  | redo

inductive CanvasGraphHistoryChange where
  | commit (graph : PrototypeGraph)
  | undo
  | redo

def CanvasGraphHistoryChange.kind :
    CanvasGraphHistoryChange → CanvasGraphHistoryKind
  | .commit _ => .commit
  | .undo => .undo
  | .redo => .redo

structure CanvasGraphHistoryOperation where
  kind : CanvasGraphHistoryKind
  before : CanvasGraphHistory
  graph : PrototypeGraph

/-- What the host has saved. -/
structure SavedGraph where
  graph : PrototypeGraph
  revision : Nat

variable (format : NumberFormat)

def canonical (graph : PrototypeGraph) :
    Except CanonicalDataErrorCode JsString :=
  serializeCanonicalData format graph.toValue .undefined

def sameCanvasGraph (left right : PrototypeGraph) :
    Except CanonicalDataErrorCode Bool := do
  let leftText ← canonical format left
  let rightText ← canonical format right
  .ok (leftText = rightText)

def createCanvasGraphHistory (graph : PrototypeGraph) (revision : Nat) :
    CanvasGraphHistory :=
  ⟨graph, revision, [], []⟩

def reconcileCanvasGraphHistory
    (history : CanvasGraphHistory)
    (graph : PrototypeGraph)
    (revision : Nat) :
    Except CanonicalDataErrorCode CanvasGraphHistory := do
  let sameOwner :=
    history.graph.project.projectId = graph.project.projectId ∧
      history.graph.id = graph.id
  if sameOwner ∧ revision < history.revision then
    .ok history
  else if sameOwner ∧ revision = history.revision then
    if ← sameCanvasGraph format history.graph graph then
      .ok history
    else
      .ok (createCanvasGraphHistory graph revision)
  else
    .ok (createCanvasGraphHistory graph revision)

/-- The graph that a change leads to. -/
def CanvasGraphHistory.wanted? (history : CanvasGraphHistory) :
    CanvasGraphHistoryChange → Option PrototypeGraph
  | .commit graph => some graph
  | .undo => history.past.getLast?
  | .redo => history.future.head?

def planCanvasGraphHistory
    (history : CanvasGraphHistory)
    (change : CanvasGraphHistoryChange) :
    Except CanonicalDataErrorCode (Option CanvasGraphHistoryOperation) :=
  match history.wanted? change with
  | none => .ok none
  | some graph => do
      if ← sameCanvasGraph format graph history.graph then
        .ok none
      else
        .ok (some ⟨change.kind, history, graph⟩)

/-- How many graphs of the past are kept. -/
def maxPast : Nat := 64

/-- The history after an operation that is saved as planned. -/
def acknowledgedHistory
    (operation : CanvasGraphHistoryOperation)
    (saved : SavedGraph) :
    CanvasGraphHistory :=
  let before := operation.before
  match operation.kind with
  | .commit =>
      let past := before.past ++ [before.graph]
      ⟨saved.graph, saved.revision, past.drop (past.length - maxPast), []⟩
  | .undo =>
      ⟨saved.graph, saved.revision, before.past.dropLast,
        before.graph :: before.future⟩
  | .redo =>
      ⟨saved.graph, saved.revision, before.past ++ [before.graph],
        before.future.tail⟩

def acknowledgeCanvasGraphHistory
    (operation : CanvasGraphHistoryOperation)
    (saved : SavedGraph) :
    Except CanonicalDataErrorCode CanvasGraphHistory := do
  if saved.revision ≠ operation.before.revision + 1 then
    .ok (createCanvasGraphHistory saved.graph saved.revision)
  else if ← sameCanvasGraph format saved.graph operation.graph then
    .ok (acknowledgedHistory operation saved)
  else
    .ok (createCanvasGraphHistory saved.graph saved.revision)

/-! ## Calls -/

inductive CanvasCall where
  | reconcile (graph : PrototypeGraph) (revision : Nat)
  /-- `persistCanvasGraphHistory` of a plan; a save may reject. -/
  | persist (change : CanvasGraphHistoryChange)
      (save : PrototypeGraph → Option SavedGraph)

/-- What a call makes of a history, unless it throws. -/
def canvasCall (history : CanvasGraphHistory) :
    CanvasCall → Except CanonicalDataErrorCode CanvasGraphHistory
  | .reconcile graph revision =>
      reconcileCanvasGraphHistory format history graph revision
  | .persist change save => do
      match ← planCanvasGraphHistory format history change with
      | none => .ok history
      | some operation =>
          match save operation.graph with
          | none => .ok history
          | some saved => acknowledgeCanvasGraphHistory format operation saved

def canvasStep (history : CanvasGraphHistory) (call : CanvasCall) :
    CanvasGraphHistory :=
  match canvasCall format history call with
  | .error _ => history
  | .ok next => next

/-! ## The timeline that a history shows -/

abbrev GraphText := Except CanonicalDataErrorCode JsString

/-- The texts of the graphs, from the oldest to the one furthest ahead. -/
def CanvasGraphHistory.line (history : CanvasGraphHistory) : List GraphText :=
  (history.past ++ history.graph :: history.future).map (canonical format)

/-- A graph that has no text is alone. -/
structure Shows (history : CanvasGraphHistory)
    (timeline : Timeline GraphText maxPast) : Prop where
  states : timeline.states = history.line format
  place : timeline.place = history.past.length
  written : history.past ++ history.future = [] ∨
    ∀ state ∈ history.line format, ∃ text, state = .ok text

def CanvasGraphHistoryChange.move :
    CanvasGraphHistoryChange → TimelineMove GraphText
  | .commit graph => .record (canonical format graph)
  | .undo => .back
  | .redo => .forward

/-- The host answers a save with this graph, under the next revision. -/
def Acknowledges (operation : CanvasGraphHistoryOperation)
    (saved : SavedGraph) : Prop :=
  saved.revision = operation.before.revision + 1 ∧
    sameCanvasGraph format saved.graph operation.graph = .ok true

variable {format}

theorem sameCanvasGraph_eq_ok
    {left right : PrototypeGraph}
    {same : Bool} :
    sameCanvasGraph format left right = .ok same ↔
      ∃ leftText, canonical format left = .ok leftText ∧
        ∃ rightText, canonical format right = .ok rightText ∧
          decide (leftText = rightText) = same := by
  simp only [sameCanvasGraph, bind_eq_ok, Except.ok.injEq]

theorem plan_eq_ok
    {history : CanvasGraphHistory}
    {change : CanvasGraphHistoryChange}
    {operation : CanvasGraphHistoryOperation} :
    planCanvasGraphHistory format history change = .ok (some operation) ↔
      ∃ graph, history.wanted? change = some graph ∧
        sameCanvasGraph format graph history.graph = .ok false ∧
        operation = ⟨change.kind, history, graph⟩ := by
  constructor
  · intro planned
    unfold planCanvasGraphHistory at planned
    split at planned
    · cases planned
    · rename_i graph wanted
      obtain ⟨same, isSame, planned⟩ := bind_eq_ok.mp planned
      cases same <;> cases planned
      exact ⟨graph, wanted, isSame, rfl⟩
  · rintro ⟨graph, wanted, isSame, rfl⟩
    rw [planCanvasGraphHistory, wanted]
    exact bind_eq_ok.mpr ⟨false, isSame, rfl⟩

theorem reconcile_eq_ok
    {history next : CanvasGraphHistory}
    {graph : PrototypeGraph}
    {revision : Nat}
    (reconciled : reconcileCanvasGraphHistory format history graph revision =
      .ok next) :
    next = history ∨ next = createCanvasGraphHistory graph revision := by
  unfold reconcileCanvasGraphHistory at reconciled
  dsimp only at reconciled
  split at reconciled
  · exact .inl (Except.ok.inj reconciled).symm
  split at reconciled
  · obtain ⟨same, -, reconciled⟩ := bind_eq_ok.mp reconciled
    cases same
    · exact .inr (Except.ok.inj reconciled).symm
    · exact .inl (Except.ok.inj reconciled).symm
  · exact .inr (Except.ok.inj reconciled).symm

theorem acknowledge_eq_ok
    {operation : CanvasGraphHistoryOperation}
    {saved : SavedGraph}
    {next : CanvasGraphHistory}
    (result : acknowledgeCanvasGraphHistory format operation saved = .ok next) :
    Acknowledges format operation saved ∨
      next = createCanvasGraphHistory saved.graph saved.revision := by
  unfold acknowledgeCanvasGraphHistory at result
  split at result
  · exact .inr (Except.ok.inj result).symm
  · rename_i revision
    obtain ⟨same, isSame, result⟩ := bind_eq_ok.mp result
    cases same
    · exact .inr (Except.ok.inj result).symm
    · exact .inl ⟨not_not.mp revision, isSame⟩

theorem shows_create (graph : PrototypeGraph) (revision : Nat) :
    Shows format (createCanvasGraphHistory graph revision)
      (.start (canonical format graph)) :=
  ⟨rfl, rfl, .inl rfl⟩

section

variable {history : CanvasGraphHistory}
  {timeline : Timeline GraphText maxPast}
  (shows : Shows format history timeline)

include shows

theorem current_eq : timeline.current = canonical format history.graph := by
  have place := shows.place
  simp only [Timeline.current, List.get_eq_getElem, shows.states,
    CanvasGraphHistory.line, List.getElem_map, place]
  simp

theorem exists_plan
    {change : CanvasGraphHistoryChange}
    {graph : PrototypeGraph}
    (wanted : history.wanted? change = some graph)
    (moves : ∀ committed, change ≠ .commit committed) :
    sameCanvasGraph format graph history.graph = .ok false := by
  have chain := timeline.moving
  rw [shows.states, CanvasGraphHistory.line, List.isChain_map] at chain
  have neighbours : canonical format graph ≠ canonical format history.graph ∧
      graph ∈ history.past ++ history.future := by
    cases change with
    | commit committed => exact absurd rfl (moves committed)
    | undo =>
        obtain ⟨front, isPast⟩ := List.getLast?_eq_some_iff.mp wanted
        rw [isPast, List.append_assoc] at chain
        exact ⟨(List.isChain_append_cons_cons.mp chain).2.1, by simp [isPast]⟩
    | redo =>
        obtain ⟨rest, isFuture⟩ := List.head?_eq_some_iff.mp wanted
        rw [isFuture] at chain
        exact ⟨(List.isChain_append_cons_cons.mp chain).2.1.symm,
          by simp [isFuture]⟩
  obtain ⟨other, isNeighbour⟩ := neighbours
  rcases shows.written with alone | written
  · simp [alone] at isNeighbour
  simp only [CanvasGraphHistory.line, List.map_append, List.map_cons,
    List.mem_append, List.mem_cons] at written
  obtain ⟨text, isText⟩ := written (canonical format graph) (by
    rcases List.mem_append.mp isNeighbour with before | after
    · exact .inl (List.mem_map_of_mem before)
    · exact .inr (.inr (List.mem_map_of_mem after)))
  obtain ⟨shown, isShown⟩ :=
    written (canonical format history.graph) (.inr (.inl rfl))
  refine sameCanvasGraph_eq_ok.mpr ⟨text, isText, shown, isShown,
    decide_eq_false fun same => other ?_⟩
  rw [isText, isShown, same]

theorem shows_acknowledge
    {change : CanvasGraphHistoryChange}
    {operation : CanvasGraphHistoryOperation}
    {saved : SavedGraph}
    (planned : planCanvasGraphHistory format history change =
      .ok (some operation))
    (acknowledges : Acknowledges format operation saved) :
    ∃ next, acknowledgeCanvasGraphHistory format operation saved = .ok next ∧
      Shows format next (timeline.step (change.move format)) := by
  obtain ⟨graph, wanted, isSame, rfl⟩ := plan_eq_ok.mp planned
  obtain ⟨revision, isSaved⟩ := acknowledges
  obtain ⟨text, isText, shown, isShown, different⟩ :=
    sameCanvasGraph_eq_ok.mp isSame
  obtain ⟨savedText, isSavedText, _, again, equal⟩ :=
    sameCanvasGraph_eq_ok.mp isSaved
  have sameText : canonical format saved.graph = canonical format graph := by
    rw [isSavedText, again, of_decide_eq_true equal]
  have acknowledged (kind : CanvasGraphHistoryKind) :
      acknowledgeCanvasGraphHistory format ⟨kind, history, graph⟩ saved =
        .ok (acknowledgedHistory ⟨kind, history, graph⟩ saved) := by
    rw [acknowledgeCanvasGraphHistory, if_neg (not_not.mpr revision), isSaved]
    rfl
  refine ⟨_, acknowledged _, ?_⟩
  have texts : ∀ state ∈ history.line format, ∃ text, state = .ok text := by
    rcases shows.written with alone | written
    · obtain ⟨noPast, noFuture⟩ := List.append_eq_nil_iff.mp alone
      intro state member
      rw [CanvasGraphHistory.line, noPast, noFuture] at member
      exact ⟨shown, (List.mem_singleton.mp member).trans isShown⟩
    · exact written
  cases change with
  | commit _ =>
      cases wanted
      have new : timeline.current ≠ canonical format graph := by
        rw [current_eq shows, isText, isShown]
        exact fun same => of_decide_eq_false different
          (Except.ok.inj same).symm
      have step : timeline.step (CanvasGraphHistoryChange.move format
          (.commit graph)) = timeline.record new := dif_pos new
      have kept : timeline.kept = ((history.past ++ [history.graph]).drop
          (history.past.length + 1 - maxPast)).map (canonical format) := by
        rw [Timeline.kept, shows.states, shows.place, CanvasGraphHistory.line,
          ← List.map_take, ← List.map_drop, List.append_cons,
          List.take_left' (by simp)]
      have isKept : ∀ state ∈ timeline.kept, state ∈ timeline.states :=
        fun _ member => List.mem_of_mem_take (List.mem_of_mem_drop member)
      have line : (acknowledgedHistory ⟨.commit, history, graph⟩ saved).line
          format = timeline.kept ++ [canonical format graph] := by
        simp [acknowledgedHistory, CanvasGraphHistory.line, kept, sameText]
      rw [step]
      refine ⟨line.symm, ?_, .inr ?_⟩
      · simp [Timeline.record, kept, acknowledgedHistory,
          CanvasGraphHistoryChange.kind]
      · intro state member
        rcases List.mem_append.mp (line ▸ member) with old | isNew
        · exact texts state (shows.states ▸ isKept state old)
        · exact ⟨text, (List.mem_singleton.mp isNew).trans isText⟩
  | undo =>
      obtain ⟨front, isPast⟩ := List.getLast?_eq_some_iff.mp wanted
      have line : (acknowledgedHistory ⟨.undo, history, graph⟩ saved).line
          format = history.line format := by
        simp [acknowledgedHistory, CanvasGraphHistory.line, isPast, sameText]
      refine ⟨shows.states.trans line.symm, ?_, .inr (line ▸ texts)⟩
      simp [CanvasGraphHistoryChange.move, CanvasGraphHistoryChange.kind,
        Timeline.step, acknowledgedHistory, shows.place]
  | redo =>
      obtain ⟨rest, isFuture⟩ := List.head?_eq_some_iff.mp wanted
      have line : (acknowledgedHistory ⟨.redo, history, graph⟩ saved).line
          format = history.line format := by
        simp [acknowledgedHistory, CanvasGraphHistory.line, isFuture, sameText]
      refine ⟨shows.states.trans line.symm, ?_, .inr (line ▸ texts)⟩
      simp [CanvasGraphHistoryChange.move, CanvasGraphHistoryChange.kind,
        Timeline.step, acknowledgedHistory, shows.place, shows.states,
        CanvasGraphHistory.line, isFuture]

/-- Where nothing is planned the move goes nowhere. -/
theorem step_of_unplanned
    {change : CanvasGraphHistoryChange}
    (unplanned : planCanvasGraphHistory format history change = .ok none) :
    timeline.step (change.move format) = timeline := by
  have place := shows.place
  have unwanted (moves : ∀ committed, change ≠ .commit committed) :
      history.wanted? change = none := by
    by_contra wanted
    obtain ⟨graph, wanted⟩ := Option.ne_none_iff_exists'.mp wanted
    have planned := plan_eq_ok.mpr
      ⟨graph, wanted, exists_plan shows wanted moves, rfl⟩
    rw [unplanned] at planned
    cases planned
  cases change with
  | commit graph =>
      obtain ⟨same, isSame, planned⟩ := bind_eq_ok.mp unplanned
      cases same with
      | false => cases planned
      | true =>
          obtain ⟨text, isText, shown, isShown, equal⟩ :=
            sameCanvasGraph_eq_ok.mp isSame
          refine dif_neg (not_not.mpr ?_)
          rw [current_eq shows, isShown, isText, of_decide_eq_true equal]
  | undo =>
      rw [List.getLast?_eq_none_iff.mp (unwanted nofun)] at place
      exact Timeline.ext rfl (by
        simp [CanvasGraphHistoryChange.move, Timeline.step, place])
  | redo =>
      have empty := List.head?_eq_none_iff.mp (unwanted nofun)
      exact Timeline.ext rfl (by
        simp [CanvasGraphHistoryChange.move, Timeline.step, place,
          shows.states, CanvasGraphHistory.line, empty])

theorem shows_persist
    {change : CanvasGraphHistoryChange}
    {planned : Option CanvasGraphHistoryOperation}
    (isPlan : planCanvasGraphHistory format history change = .ok planned)
    {save : PrototypeGraph → Option SavedGraph}
    (acknowledged : ∀ operation ∈ planned, ∃ saved,
      save operation.graph = some saved ∧
        Acknowledges format operation saved) :
    Shows format (canvasStep format history (.persist change save))
      (timeline.step (change.move format)) := by
  cases planned with
  | none =>
      rw [step_of_unplanned shows isPlan, canvasStep, canvasCall, isPlan]
      exact shows
  | some operation =>
      obtain ⟨saved, isSaved, acknowledges⟩ := acknowledged operation rfl
      obtain ⟨next, isNext, moved⟩ :=
        shows_acknowledge shows isPlan acknowledges
      have result : canvasStep format history (.persist change save) =
          next := by
        rw [canvasStep, canvasCall, isPlan, ok_bind]
        simp only [isSaved, isNext]
      rw [result]
      exact moved

theorem shows_canvasStep (call : CanvasCall) :
    ∃ next, Shows format (canvasStep format history call) next := by
  rw [canvasStep]
  cases result : canvasCall format history call with
  | error _ => exact ⟨timeline, shows⟩
  | ok next =>
  cases call with
  | reconcile graph revision =>
      rcases reconcile_eq_ok result with rfl | rfl
      · exact ⟨timeline, shows⟩
      · exact ⟨_, shows_create graph revision⟩
  | persist change save =>
      obtain ⟨planned, isPlan, answered⟩ := bind_eq_ok.mp result
      cases planned with
      | none =>
          cases answered
          exact ⟨timeline, shows⟩
      | some operation =>
      dsimp only at answered
      split at answered
      · cases answered
        exact ⟨timeline, shows⟩
      rcases acknowledge_eq_ok answered with acknowledges | rfl
      · obtain ⟨_, again, moved⟩ := shows_acknowledge shows isPlan acknowledges
        cases answered.symm.trans again
        exact ⟨_, moved⟩
      · exact ⟨_, shows_create _ _⟩

end

/--
Whatever the host presents and answers, the history is a line of at most 64
graphs besides the one it shows, where neighbours have different texts.  Undo and
redo are planned wherever there is a graph to go to, and a change whose save is
acknowledged is a move on the timeline: a commit drops what lies ahead and then
the oldest graph, and undo and redo go to the neighbouring graph.
-/
theorem canvasHistory_shows
    (format : NumberFormat)
    (graph : PrototypeGraph)
    (revision : Nat)
    (calls : List CanvasCall) :
    ∃ history timeline,
      calls.foldl (canvasStep format)
        (createCanvasGraphHistory graph revision) = history ∧
      Shows format history timeline ∧
      (∀ change, (∀ committed, change ≠ .commit committed) →
        ∀ wanted, history.wanted? change = some wanted →
          planCanvasGraphHistory format history change =
            .ok (some ⟨change.kind, history, wanted⟩)) ∧
      ∀ change planned save,
        planCanvasGraphHistory format history change = .ok planned →
        (∀ operation ∈ planned, ∃ saved,
          save operation.graph = some saved ∧
            Acknowledges format operation saved) →
        Shows format (canvasStep format history (.persist change save))
          (timeline.step (change.move format)) := by
  have reached : ∃ timeline, Shows format (calls.foldl (canvasStep format)
      (createCanvasGraphHistory graph revision)) timeline := by
    refine List.foldlRecOn calls (canvasStep format)
      (motive := fun history => ∃ timeline, Shows format history timeline)
      ⟨_, shows_create graph revision⟩ ?_
    exact fun _ ⟨_, shows⟩ call _ => shows_canvasStep shows call
  obtain ⟨timeline, shows⟩ := reached
  refine ⟨_, timeline, rfl, shows, fun change moves wanted isWanted => ?_,
    fun _ _ _ isPlan => shows_persist shows isPlan⟩
  exact plan_eq_ok.mpr
    ⟨wanted, isWanted, exists_plan shows isWanted moves, rfl⟩

end Selene.Canvas
