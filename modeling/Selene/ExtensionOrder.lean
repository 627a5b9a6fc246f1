import Selene.ExtensionPlan

/-!
# The order of a plan

The declared dependencies of manifests are a graph between their ids.  The
topological order lists every manifest after its dependencies
(`topologicalOrder_spec`) and fails exactly if the graph has a cycle
(`topologicalOrder_fails_iff`).  Both depend on the manifests as a set only.
-/

namespace Selene.Extension

open Js Generation

/-- A manifest of the first id declares a dependency on a manifest that is there. -/
def DependsOn (manifests : List Record) (first second : JsString) : Prop :=
  ∃ manifest ∈ manifests, manifestId manifest = first ∧
    (∃ dependency ∈ dependenciesOf manifest,
      dependency.entries.get (js "id") = .string second) ∧
    second ∈ manifests.map manifestId

/-- The declared dependencies lead from some manifest back to it. -/
def HasDependencyCycle (manifests : List Record) : Prop :=
  ∃ id, Relation.TransGen (DependsOn manifests) id id

section Format

variable {format : NumberFormat}

/-! ## Manifests by id -/

variable {manifests : List Record}

theorem mem_of_find?_byId
    {manifest : Record}
    {id : JsString}
    (found : (byId manifests).find? id = some manifest) :
    manifest ∈ manifests ∧ manifestId manifest = id := by
  obtain ⟨row, isId⟩ := Table.find?_eq_some.mp found
  rcases Table.mem_of_mem_setAll row with member | inEmpty
  · exact ⟨member, isId⟩
  · cases inEmpty

theorem rows_byId
    (distinct : (manifests.map manifestId).Nodup) :
    (byId manifests).rows = manifests := by
  exact Table.rows_setAll_of_fresh distinct fun _ _ => rfl

theorem find?_byId
    {id : JsString}
    {manifest : Record}
    (distinct : (manifests.map manifestId).Nodup) :
    (byId manifests).find? id = some manifest ↔
      manifest ∈ manifests ∧ manifestId manifest = id := by
  rw [Table.find?_eq_some, rows_byId distinct]

variable {known : ManifestsById}

theorem findManifest_eq_some
    {id : JsValue}
    {manifest : Record}
    (found : findManifest known id = some manifest) :
    id = .string (manifestId manifest) ∧
      known.find? (manifestId manifest) = some manifest := by
  cases id with
  | string text =>
      have row : known.find? text = some manifest := found
      obtain ⟨-, rfl⟩ := Table.find?_eq_some.mp row
      exact ⟨rfl, row⟩
  | _ => cases found

theorem mem_sortByText
    {α : Type}
    {key : α → JsValue}
    {values : List α}
    {value : α} :
    value ∈ sortByText format key values ↔ value ∈ values :=
  List.mem_insertionSort _

theorem mem_presentDependencies
    {first second : JsString} :
    second ∈ presentDependencies format known first ↔
      ∃ manifest, known.find? first = some manifest ∧
        ∃ dependency ∈ dependenciesOf manifest,
          dependency.entries.get (js "id") = .string second ∧
            known.has second = true := by
  simp only [presentDependencies, List.mem_filterMap, mem_sortByText,
    List.mem_map]
  constructor
  · rintro ⟨id, ⟨dependency, declared, rfl⟩, found⟩
    obtain ⟨target, isTarget, rfl⟩ := Option.map_eq_some_iff.mp found
    obtain ⟨isText, row⟩ := findManifest_eq_some isTarget
    cases source : known.find? first with
    | none =>
        rw [source] at declared
        cases declared
    | some manifest =>
        rw [source] at declared
        exact ⟨manifest, rfl, dependency, declared, isText,
          Table.has_of_find? row⟩
  · rintro ⟨manifest, source, dependency, declared, isText, present⟩
    rw [Table.has_eq_isSome, Option.isSome_iff_exists] at present
    obtain ⟨target, row⟩ := present
    refine ⟨_, ⟨dependency, by rw [source]; exact declared, rfl⟩, ?_⟩
    rw [isText]
    exact Option.map_eq_some_iff.mpr
      ⟨target, row, (Table.find?_eq_some.mp row).2⟩

/-- The ids from which the traversal starts. -/
abbrev startIds (known : ManifestsById) : List JsString :=
  sortByKey id (known.rows.map manifestId)

theorem mem_startIds
    {id : JsString} :
    id ∈ startIds known ↔ known.has id = true := by
  rw [startIds, (sortByKey_perm _ _).mem_iff, Table.has_eq_true_iff,
    List.mem_map]

theorem presentDependencies_closed
    (id : JsString)
    (_ : id ∈ startIds known) :
    presentDependencies format known id ⊆ startIds known := by
  intro second member
  obtain ⟨_, _, _, _, _, present⟩ := mem_presentDependencies.mp member
  exact mem_startIds.mpr present

theorem presentDependencies_complete
    (id : JsString)
    (some : presentDependencies format known id ≠ []) :
    id ∈ startIds known := by
  obtain ⟨second, member⟩ := List.exists_mem_of_ne_nil _ some
  obtain ⟨manifest, found, _⟩ := mem_presentDependencies.mp member
  exact mem_startIds.mpr (Table.has_of_find? found)

theorem dependsOn_of_edge
    {first second : JsString}
    (edge : Edge (presentDependencies format (byId manifests)) first second) :
    DependsOn manifests first second := by
  rw [Edge, mem_presentDependencies] at edge
  obtain ⟨manifest, found, dependency, declared, isText, isPresent⟩ := edge
  obtain ⟨member, isFirst⟩ := mem_of_find?_byId found
  rw [Table.has_eq_isSome, Option.isSome_iff_exists] at isPresent
  obtain ⟨other, isOther⟩ := isPresent
  obtain ⟨isMember, isSecond⟩ := mem_of_find?_byId isOther
  exact ⟨manifest, member, isFirst, ⟨dependency, declared, isText⟩,
    List.mem_map.mpr ⟨other, isMember, isSecond⟩⟩

theorem edge_iff_dependsOn
    (distinct : (manifests.map manifestId).Nodup)
    {first second : JsString} :
    Edge (presentDependencies format (byId manifests)) first second ↔
      DependsOn manifests first second := by
  have present :
      (byId manifests).has second = true ↔
        second ∈ manifests.map manifestId := by
    rw [Table.has_eq_true_iff, rows_byId distinct, List.mem_map]
  refine ⟨dependsOn_of_edge, ?_⟩
  · rw [Edge, mem_presentDependencies]
    rintro ⟨manifest, member, isFirst, ⟨dependency, declared, isText⟩,
      isPresent⟩
    exact ⟨manifest, (find?_byId distinct).mpr ⟨member, isFirst⟩, dependency,
      declared, isText, present.mpr isPresent⟩

/-! ## The topological order -/

theorem topologicalOrder_eq_ok
    {order : List JsString}
    (ordered : topologicalOrder format known = .ok order) :
    orderFrom (presentDependencies format known) (startIds known) =
      .ok order := by
  have fueled := orderFrom_fueled
    (@presentDependencies_closed format known)
  rw [topologicalOrder] at ordered
  cases traversal :
      orderFrom (presentDependencies format known) (startIds known) with
  | ok listed =>
      rw [traversal] at ordered
      cases ordered
      rfl
  | error stop =>
      rw [traversal] at ordered
      cases stop with
      | cycle path => cases ordered
      | outOfFuel => exact absurd traversal fueled

/-- The order lists every id once, and every manifest after its dependencies. -/
theorem topologicalOrder_spec
    {order : List JsString}
    (ordered : topologicalOrder format known = .ok order) :
    order.Nodup ∧ (∀ id, id ∈ order ↔ known.has id = true) ∧
      Ordered (presentDependencies format known) order := by
  obtain ⟨distinct, members, after⟩ :=
    orderFrom_spec presentDependencies_closed (topologicalOrder_eq_ok ordered)
  exact ⟨distinct, fun id => (members id).trans mem_startIds, after⟩

theorem topologicalOrder_fails_iff_hasCycle :
    (∃ found, topologicalOrder format known = .error found) ↔
      HasCycle (presentDependencies format known) := by
  rw [← orderFrom_stops_iff (@presentDependencies_closed format known)
    presentDependencies_complete, topologicalOrder]
  cases traversal :
      orderFrom (presentDependencies format known) (startIds known) with
  | ok listed => simp
  | error stop =>
      cases stop with
      | cycle path => simp
      | outOfFuel =>
          exact absurd traversal (orderFrom_fueled presentDependencies_closed)

/-- The order fails exactly if the declared dependencies have a cycle. -/
theorem topologicalOrder_fails_iff
    (distinct : (manifests.map manifestId).Nodup) :
    (∃ found, topologicalOrder format (byId manifests) = .error found) ↔
      HasDependencyCycle manifests := by
  have edges :
      Edge (presentDependencies format (byId manifests)) =
        DependsOn manifests :=
    funext fun first => funext fun second =>
      propext (edge_iff_dependsOn distinct)
  rw [topologicalOrder_fails_iff_hasCycle, HasCycle, edges,
    HasDependencyCycle]

theorem hasDependencyCycle_of_fails
    {found : ExtensionIssue}
    (failed : topologicalOrder format (byId manifests) = .error found) :
    HasDependencyCycle manifests := by
  obtain ⟨id, cycle⟩ := topologicalOrder_fails_iff_hasCycle.mp ⟨found, failed⟩
  exact ⟨id, Relation.TransGen.mono (fun _ _ => dependsOn_of_edge) id id
    cycle⟩

theorem code_of_topologicalOrder
    {found : ExtensionIssue}
    (failed : topologicalOrder format known = .error found) :
    found.code = .cycle := by
  rw [topologicalOrder] at failed
  split at failed
  · cases failed
  · cases failed
    rfl
  · cases failed

/-! ## Manifests as a set -/

/-- The same manifests under the same ids. -/
structure SameManifests (first second : ManifestsById) : Prop where
  find? : ∀ id, first.find? id = second.find? id
  ids : (first.rows.map manifestId).Perm (second.rows.map manifestId)

theorem sameManifests_of_perm
    {others : List Record}
    (distinct : (manifests.map manifestId).Nodup)
    (reordered : manifests.Perm others) :
    SameManifests (byId manifests) (byId others) := by
  have othersDistinct : (others.map manifestId).Nodup :=
    (reordered.map manifestId).nodup_iff.mp distinct
  refine ⟨fun id => ?_, ?_⟩
  · apply Option.ext
    intro manifest
    rw [find?_byId distinct, find?_byId othersDistinct, reordered.mem_iff]
  · rw [rows_byId distinct, rows_byId othersDistinct]
    exact reordered.map manifestId

namespace SameManifests

variable {first second : ManifestsById}

theorem findManifest_eq
    (same : SameManifests first second) :
    findManifest first = findManifest second := by
  funext id
  cases id with
  | string text => exact same.find? text
  | _ => rfl

theorem topologicalOrder_eq
    (same : SameManifests first second) :
    topologicalOrder format first = topologicalOrder format second := by
  have starts :
      sortByKey id (first.rows.map manifestId) =
        sortByKey id (second.rows.map manifestId) := by
    refine sortByKey_eq_of_perm ?_ same.ids
    rw [List.map_id]
    exact first.distinct
  have successors :
      presentDependencies format first =
        presentDependencies format second := by
    funext id
    rw [presentDependencies, presentDependencies, same.find? id,
      same.findManifest_eq]
  rw [topologicalOrder, topologicalOrder, successors, starts]

end SameManifests

end Format

end Selene.Extension
