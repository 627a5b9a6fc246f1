import Selene.Rejection
import Mathlib.Data.List.Chain
import Mathlib.Logic.Relation

/-!
# Depth-first ordering of a directed graph

A depth-first traversal orders a finite graph so that every node comes after
its successors, or stops at the first node that it meets again on its own path.
`orderFrom` is the traversal with two marks: `visiting` for the nodes of the
current path and `visited` for the finished ones.

The traversal of all nodes never runs out of fuel.  It finds a cycle exactly if
the graph has one (`orderFrom_stops_iff`), and otherwise lists every node
once, after its successors (`orderFrom_spec`).
-/

namespace Js

variable {κ : Type} [DecidableEq κ]

/-- What the traversal knows of a node that it has met. -/
inductive VisitStatus where
  | visiting
  | visited
  deriving DecidableEq

/-- The marks of the nodes met so far, and the finished nodes in order. -/
structure Search (κ : Type) where
  state : List (κ × VisitStatus)
  order : List κ

/-- Why a traversal stops early. -/
inductive SearchStop (κ : Type) where
  -- The path to a node of the path, with that node at its end.
  | cycle (path : List κ)
  | outOfFuel

namespace Search

/-- Nothing has been met. -/
def empty : Search κ := ⟨[], []⟩

/-- Mark a node as part of the current path. -/
def enter (search : Search κ) (id : κ) : Search κ :=
  { search with
    state := (id, .visiting) :: search.state }

/-- Mark a node as finished and list it. -/
def leave (search : Search κ) (id : κ) : Search κ where
  state := (id, .visited) :: search.state
  order := search.order ++ [id]

end Search

section Traversal

variable (successors : κ → List κ)

/-- Visit a node that was reached along a path. -/
def visit : Nat → List κ → Search κ → κ →
    Except (SearchStop κ) (Search κ)
  | 0, _, _, _ => .error .outOfFuel
  | fuel + 1, path, search, id =>
      match search.state.lookup id with
      | some .visited => .ok search
      | some .visiting => .error (.cycle (path ++ [id]))
      | none => do
          let after ← (successors id).foldlM
            (visit fuel (path ++ [id])) (search.enter id)
          .ok (after.leave id)

/-- Visit the nodes one after another and list them. -/
def orderFrom (nodes : List κ) : Except (SearchStop κ) (List κ) := do
  let search ← nodes.foldlM (visit successors (nodes.length + 1) []) .empty
  .ok search.order

/-! ## What is required of an order -/

/-- An edge to a successor. -/
def Edge (first second : κ) : Prop :=
  second ∈ successors first

/-- Some node reaches itself along edges. -/
def HasCycle : Prop :=
  ∃ node, Relation.TransGen (Edge successors) node node

/-- Every node is listed after its successors. -/
def Ordered (order : List κ) : Prop :=
  ∀ before node after, order = before ++ node :: after →
    ∀ successor ∈ successors node, successor ∈ before

omit [DecidableEq κ] in
theorem ordered_nil : Ordered successors [] := by
  intro before node after split
  simp at split

omit [DecidableEq κ] in
theorem Ordered.concat
    {successors : κ → List κ}
    {order : List κ}
    {node : κ}
    (ordered : Ordered successors order)
    (listed : ∀ successor ∈ successors node, successor ∈ order) :
    Ordered successors (order ++ [node]) := by
  intro before other after split
  rcases List.eq_nil_or_concat after with rfl | ⟨init, last, rfl⟩
  · obtain ⟨rfl, sameNode⟩ := List.append_inj' split rfl
    cases sameNode
    exact listed
  · rw [List.concat_eq_append, ← List.cons_append,
      ← List.append_assoc] at split
    obtain ⟨rfl, -⟩ := List.append_inj' split rfl
    exact ordered before other init rfl

theorem Ordered.idxOf_lt
    {successors : κ → List κ}
    {order : List κ}
    {first second : κ}
    (ordered : Ordered successors order)
    (member : first ∈ order)
    (edge : Edge successors first second) :
    second ∈ order ∧ order.idxOf second < order.idxOf first := by
  obtain ⟨before, after, rfl, fresh⟩ := List.eq_append_cons_of_mem member
  have earlier : second ∈ before := ordered before first after rfl second edge
  refine ⟨List.mem_append_left _ earlier, ?_⟩
  rw [List.idxOf_append_of_mem earlier, List.idxOf_append_of_notMem fresh]
  exact Nat.lt_add_right _ (List.idxOf_lt_length_of_mem earlier)

/-- A graph whose nodes can be listed after their successors has no cycle. -/
theorem Ordered.acyclic
    {successors : κ → List κ}
    {order : List κ}
    (ordered : Ordered successors order)
    (complete : ∀ node, successors node ≠ [] → node ∈ order) :
    ¬ HasCycle successors := by
  rintro ⟨node, cycle⟩
  have source :
      ∀ {first second}, Edge successors first second → first ∈ order := by
    intro first second edge
    exact complete first (List.ne_nil_of_mem edge)
  have decreases :
      ∀ {first second},
        Relation.TransGen (Edge successors) first second →
          order.idxOf second < order.idxOf first := by
    intro first second path
    induction path with
    | single edge => exact (ordered.idxOf_lt (source edge) edge).2
    | tail _ edge decreases =>
        exact Nat.lt_trans (ordered.idxOf_lt (source edge) edge).2 decreases
  exact Nat.lt_irrefl _ (decreases cycle)

/-! ## One visit -/

variable (nodes : List κ)

/-- What holds between visits, while a path is being followed. -/
structure Progress (path : List κ) (search : Search κ) : Prop where
  visiting : ∀ node,
    search.state.lookup node = some .visiting ↔ node ∈ path
  visited : ∀ node,
    search.state.lookup node = some .visited ↔ node ∈ search.order
  pathDistinct : path.Nodup
  pathKnown : path ⊆ nodes
  distinct : search.order.Nodup
  known : search.order ⊆ nodes
  ordered : Ordered successors search.order

/-- How a traversal of some nodes may end. -/
def Traversed (path : List κ) (search : Search κ) (visits : List κ) :
    Except (SearchStop κ) (Search κ) → Prop
  | .ok after =>
      Progress successors nodes path after ∧
        search.order ⊆ after.order ∧ visits ⊆ after.order
  | .error (.cycle _) => HasCycle successors
  | .error .outOfFuel => False

variable {successors nodes}

theorem progress_empty : Progress successors nodes [] .empty where
  visiting node := by simp [Search.empty]
  visited node := by simp [Search.empty]
  pathDistinct := .nil
  pathKnown := List.nil_subset _
  distinct := .nil
  known := List.nil_subset _
  ordered := ordered_nil successors

theorem lookup_marked
    (state : List (κ × VisitStatus))
    (id node : κ)
    (status : VisitStatus) :
    List.lookup node ((id, status) :: state) =
      if node = id then some status else state.lookup node := by
  rw [List.lookup_cons]
  by_cases same : node = id
  · simp [same]
  · rw [if_neg same, beq_false_of_ne same]

theorem Progress.enter
    {path : List κ}
    {search : Search κ}
    {id : κ}
    (progress : Progress successors nodes path search)
    (fresh : search.state.lookup id = none)
    (known : id ∈ nodes) :
    Progress successors nodes (path ++ [id]) (search.enter id) := by
  have notOnPath : id ∉ path := by
    rw [← progress.visiting, fresh]
    simp
  have notListed : id ∉ search.order := by
    rw [← progress.visited, fresh]
    simp
  refine ⟨?_, ?_, ?_, ?_, progress.distinct, progress.known,
    progress.ordered⟩
  · intro node
    rw [Search.enter, lookup_marked]
    by_cases same : node = id
    · simp [same]
    · simp [same, progress.visiting]
  · intro node
    rw [Search.enter, lookup_marked]
    by_cases same : node = id
    · simp [same, notListed]
    · simp [same, progress.visited]
  · refine List.nodup_append.mpr
      ⟨progress.pathDistinct, List.nodup_singleton id, ?_⟩
    rintro node onPath other isId rfl
    exact notOnPath (List.mem_singleton.mp isId ▸ onPath)
  · intro node member
    rcases List.mem_append.mp member with onPath | isId
    · exact progress.pathKnown onPath
    · exact List.mem_singleton.mp isId ▸ known

theorem Progress.leave
    {path : List κ}
    {search : Search κ}
    {id : κ}
    (progress : Progress successors nodes (path ++ [id]) search)
    (listed : successors id ⊆ search.order) :
    Progress successors nodes path (search.leave id) := by
  have onPath : id ∈ path ++ [id] :=
    List.mem_append_right _ (List.mem_singleton_self id)
  have pathDistinct := List.nodup_append.mp progress.pathDistinct
  have notBefore : id ∉ path := fun before =>
    pathDistinct.2.2 id before id (List.mem_singleton_self id) rfl
  have notListed : id ∉ search.order := by
    rw [← progress.visited, (progress.visiting id).mpr onPath]
    simp
  refine ⟨?_, ?_, pathDistinct.1, ?_, ?_, ?_, ?_⟩
  · intro node
    rw [Search.leave, lookup_marked]
    by_cases same : node = id
    · simp [same, notBefore]
    · simp [same, progress.visiting]
  · intro node
    rw [Search.leave, lookup_marked]
    by_cases same : node = id
    · simp [same]
    · simp [same, progress.visited]
  · exact fun node before =>
      progress.pathKnown (List.mem_append_left _ before)
  · refine List.nodup_append.mpr
      ⟨progress.distinct, List.nodup_singleton id, ?_⟩
    rintro node old other isId rfl
    exact notListed (List.mem_singleton.mp isId ▸ old)
  · intro node member
    rcases List.mem_append.mp member with old | isId
    · exact progress.known old
    · exact List.mem_singleton.mp isId ▸ progress.pathKnown onPath
  · exact progress.ordered.concat fun successor edge => listed edge

theorem traversed_foldlM
    {path visits : List κ}
    {step : Search κ → κ → Except (SearchStop κ) (Search κ)}
    (each : ∀ search, Progress successors nodes path search →
      ∀ id ∈ visits,
        Traversed successors nodes path search [id] (step search id))
    {search : Search κ}
    (progress : Progress successors nodes path search) :
    Traversed successors nodes path search visits
      (visits.foldlM step search) := by
  induction visits generalizing search with
  | nil => exact ⟨progress, List.Subset.refl _, List.nil_subset _⟩
  | cons id rest inductionHypothesis =>
      have first := each search progress id (List.mem_cons_self ..)
      rw [List.foldlM_cons]
      cases stepped : step search id with
      | error stop =>
          rw [stepped] at first
          cases stop with
          | cycle closed => exact first
          | outOfFuel => exact first
      | ok middle =>
          rw [stepped] at first
          obtain ⟨middleProgress, kept, visitedFirst⟩ := first
          have others := inductionHypothesis
            (fun search progress id member =>
              each search progress id (List.mem_cons_of_mem _ member))
            middleProgress
          rw [ok_bind]
          cases folded : rest.foldlM step middle with
          | error stop =>
              rw [folded] at others
              cases stop with
              | cycle closed => exact others
              | outOfFuel => exact others
          | ok after =>
              rw [folded] at others
              obtain ⟨afterProgress, keptLater, visitedLater⟩ := others
              refine ⟨afterProgress, List.Subset.trans kept keptLater, ?_⟩
              refine List.cons_subset.mpr ⟨?_, visitedLater⟩
              exact keptLater (visitedFirst (List.mem_singleton_self id))

section

variable (closed : ∀ node ∈ nodes, successors node ⊆ nodes)

include closed

/--
A visit of a node that every node of the path leads to.  The path holds
distinct nodes, so it never gets longer than the list of all nodes; that bounds
the fuel.
-/
theorem visit_spec
    {fuel : Nat}
    {path : List κ}
    {search : Search κ}
    {id : κ}
    (progress : Progress successors nodes path search)
    (known : id ∈ nodes)
    (leads : ∀ node ∈ path,
      Relation.TransGen (Edge successors) node id)
    (fueled : nodes.length < path.length + fuel) :
    Traversed successors nodes path search [id]
      (visit successors fuel path search id) := by
  induction fuel generalizing path search id with
  | zero =>
      have bounded : path.length ≤ nodes.length :=
        (List.subperm_of_subset progress.pathDistinct
          progress.pathKnown).length_le
      omega
  | succ fuel inductionHypothesis =>
      rw [visit]
      cases status : search.state.lookup id with
      | some mark =>
          cases mark with
          | visited =>
              refine ⟨progress, List.Subset.refl _, ?_⟩
              exact List.cons_subset.mpr
                ⟨(progress.visited id).mp status, List.nil_subset _⟩
          | visiting =>
              exact ⟨id, leads id ((progress.visiting id).mp status)⟩
      | none =>
          have entered := progress.enter status known
          have folded := @traversed_foldlM _ _ successors nodes
            (path ++ [id]) (successors id)
            (visit successors fuel (path ++ [id]))
            (fun search progress successor edge =>
              inductionHypothesis progress (closed id known edge)
                (by
                  intro node member
                  rcases List.mem_append.mp member with before | isId
                  · exact (leads node before).tail edge
                  · rw [List.mem_singleton.mp isId]
                    exact .single edge)
                (by simp only [List.length_append, List.length_singleton]
                    omega))
            _ entered
          dsimp only
          cases result : (successors id).foldlM
              (visit successors fuel (path ++ [id])) (search.enter id) with
          | error stop =>
              rw [result] at folded
              cases stop with
              | cycle closedPath => exact folded
              | outOfFuel => exact folded
          | ok after =>
              rw [result] at folded
              obtain ⟨afterProgress, kept, listed⟩ := folded
              refine ⟨afterProgress.leave listed, ?_, ?_⟩
              · exact fun node old => List.mem_append_left _ (kept old)
              · exact List.cons_subset.mpr
                  ⟨List.mem_append_right _ (List.mem_singleton_self id),
                    List.nil_subset _⟩

/-! ## The whole traversal -/

theorem orderFrom_traversed :
    Traversed successors nodes [] .empty nodes
      (nodes.foldlM (visit successors (nodes.length + 1) []) .empty) :=
  traversed_foldlM
    (fun _ progress _ member =>
      visit_spec closed progress member (by simp) (by simp))
    progress_empty

theorem orderFrom_spec
    {order : List κ}
    (listed : orderFrom successors nodes = .ok order) :
    order.Nodup ∧ (∀ node, node ∈ order ↔ node ∈ nodes) ∧
      Ordered successors order := by
  obtain ⟨after, traversal, same⟩ := bind_eq_ok.mp listed
  cases same
  have ended := orderFrom_traversed closed
  rw [traversal] at ended
  obtain ⟨progress, -, visitedAll⟩ := ended
  exact ⟨progress.distinct,
    fun node => ⟨fun old => progress.known old, fun old => visitedAll old⟩,
    progress.ordered⟩

/-- The traversal stops at a cycle exactly if the graph has one. -/
theorem orderFrom_stops_iff
    (complete : ∀ node, successors node ≠ [] → node ∈ nodes) :
    (∃ path, orderFrom successors nodes = .error (.cycle path)) ↔
      HasCycle successors := by
  constructor
  · rintro ⟨path, stopped⟩
    have ended := orderFrom_traversed closed
    rw [orderFrom] at stopped
    cases traversal :
        nodes.foldlM (visit successors (nodes.length + 1) []) .empty with
    | ok after =>
        rw [traversal] at stopped
        cases stopped
    | error stop =>
        rw [traversal] at stopped ended
        cases stopped
        exact ended
  · intro cycle
    have ended := orderFrom_traversed closed
    rw [orderFrom]
    cases traversal :
        nodes.foldlM (visit successors (nodes.length + 1) []) .empty with
    | ok after =>
        rw [traversal] at ended
        obtain ⟨progress, -, visitedAll⟩ := ended
        exact absurd cycle (progress.ordered.acyclic
          fun node edges => visitedAll (complete node edges))
    | error stop =>
        rw [traversal] at ended
        cases stop with
        | cycle path => exact ⟨path, rfl⟩
        | outOfFuel => exact ended.elim

theorem orderFrom_fueled :
    orderFrom successors nodes ≠ .error .outOfFuel := by
  intro stopped
  have ended := orderFrom_traversed closed
  rw [orderFrom] at stopped
  cases traversal :
      nodes.foldlM (visit successors (nodes.length + 1) []) .empty with
  | ok after =>
      rw [traversal] at stopped
      cases stopped
  | error stop =>
      rw [traversal] at stopped ended
      cases stopped
      exact ended

end

end Traversal

end Js
