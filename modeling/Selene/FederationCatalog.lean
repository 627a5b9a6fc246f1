import Selene.Federation

/-!
# Catalogs of federations

`aggregateFederation` folds accepted manifests into one catalog.  Projects are
visited in the order of their ids, the shell before a child of its id, so the
order in which children of different ids are supplied changes neither the
catalog nor the issues (`aggregateFederation_perm`).  Two manifests of one id
are a conflict, and there the order shows: what both claim is reported in the
words of the first one.
-/

namespace Selene.Federation

open Js

/-! ## The catalog -/

/-- An entry of a manifest, with its project. -/
structure OfProject (α : Type) where
  entry : α
  projectId : ProjectId

structure FederationCatalog where
  schemaVersion : JsString
  shellProjectId : ProjectId
  overallStatus : ProjectState
  projects : List Project
  changelog : List (OfProject ChangelogEntry)
  routes : List (OfProject Route)
  storybook : List (OfProject StorybookReference)
  deployments : List (OfProject StaticDeployment)

def aggregateStatus (projects : List Project) : ProjectState :=
  let states := projects.map fun project => project.status.state
  if .blocked ∈ states then .blocked
  else if .active ∈ states then .active
  else if .planned ∈ states then .planned
  else .complete

/-- The entries of all projects in one list. -/
def entriesOf {α : Type} (entries : Project → List α)
    (projects : List Project) : List (OfProject α) :=
  projects.flatMap fun project =>
    (entries project).map fun entry => ⟨entry, project.projectId⟩

/-- The projects in the order of their ids. -/
def orderedProjects (shell : Project) (children : List Project) :
    List Project :=
  sortByKey (fun project : Project => project.projectId.val)
    (shell :: children)

def catalogOf (shell : Project) (children : List Project) :
    FederationCatalog :=
  let projects := orderedProjects shell children
  { schemaVersion := js "1.0"
    shellProjectId := shell.projectId
    overallStatus := aggregateStatus projects
    projects
    changelog := sortByKey
      (fun item => toLex (item.entry.at_.val,
        toLex (item.projectId.val, item.entry.id.val)))
      (entriesOf Project.changelog projects)
    routes := sortByKey
      (fun item => toLex (item.entry.path.val, item.projectId.val))
      (entriesOf Project.routes projects)
    storybook := sortByKey
      (fun item => toLex (item.projectId.val,
        toLex (item.entry.component.val, item.entry.url.val)))
      (entriesOf Project.storybook projects)
    deployments := sortByKey (fun item => item.projectId.val)
      (entriesOf (fun project => [project.deployment]) projects) }

/-- `aggregateFederation`; it throws the issues, if there are any. -/
def aggregateFederation (describe : JsValue → List JsString)
    (shellValue : JsValue) (childValues : List JsValue) :
    Except (List FederationIssue) FederationCatalog :=
  let parsed := parseFederation describe shellValue childValues
  match parsed.projects with
  | some (shell, children) =>
      if parsed.issues = [] then .ok (catalogOf shell children)
      else .error parsed.issues
  | none => .error parsed.issues

/-! ## Reordered children -/

variable {shell : Project} {children reordered : List Project}

theorem orderedProjects_perm
    (distinct : (children.map Project.projectId).Nodup)
    (permuted : reordered.Perm children) :
    orderedProjects shell reordered = orderedProjects shell children := by
  have ids : (children.map fun project => project.projectId.val).Nodup := by
    have texts := distinct.map Subtype.val_injective
    rwa [List.map_map] at texts
  exact congrArg (List.orderedInsert _ shell)
    (sortByKey_eq_of_perm ids permuted.symm).symm

theorem childrenIssues_of_distinct
    {seen : List JsString}
    (distinct : (children.map fun project => project.projectId.val).Nodup)
    (fresh : ∀ child ∈ children, child.projectId.val ∉ seen) :
    childrenIssues shell seen children =
      (children.flatMap (childIssue shell []),
        seen ++ children.map fun project => project.projectId.val) := by
  induction children generalizing seen with
  | nil => simp [childrenIssues]
  | cons child rest inductionHypothesis =>
      rw [List.map_cons, List.nodup_cons] at distinct
      have isNew := fresh child List.mem_cons_self
      have added : addId seen child.projectId.val =
          seen ++ [child.projectId.val] := if_neg isNew
      have later := @inductionHypothesis (seen ++ [child.projectId.val])
        distinct.2 fun other member isSeen => by
          rcases List.mem_append.mp isSeen with before | same
          · exact fresh other (List.mem_cons_of_mem _ member) before
          · rw [← List.mem_singleton.mp same] at distinct
            exact distinct.1 (List.mem_map_of_mem member)
      have own : childIssue shell seen child = childIssue shell [] child := by
        simp [childIssue, isNew]
      rw [childrenIssues, added, later, own]
      simp

theorem sortTexts_eq_of_perm
    {texts others : List JsString}
    (permuted : texts.Perm others) :
    sortTexts texts = sortTexts others := by
  have : Std.Total fun first second : JsString => first ≤ second :=
    ⟨fun first second => le_total first second⟩
  have : IsTrans JsString fun first second => first ≤ second :=
    ⟨fun _ _ _ before after => le_trans before after⟩
  have reordered : (sortTexts texts).Perm (sortTexts others) :=
    (sortTexts_perm texts).trans (permuted.trans (sortTexts_perm others).symm)
  exact reordered.eq_of_pairwise
    (fun _ _ _ _ before after => le_antisymm before after)
    (List.pairwise_insertionSort _ texts) (List.pairwise_insertionSort _ others)

theorem mem_validateParsedFederation_perm
    (distinct : (children.map Project.projectId).Nodup)
    (permuted : reordered.Perm children)
    (issue : FederationIssue) :
    issue ∈ validateParsedFederation shell reordered ↔
      issue ∈ validateParsedFederation shell children := by
  have ids : (children.map fun project => project.projectId.val).Nodup := by
    have texts := distinct.map Subtype.val_injective
    rwa [List.map_map] at texts
  have same := @orderedProjects_perm shell _ _ distinct permuted
  have sameIds := permuted.map fun project => project.projectId.val
  have declared := sortTexts_eq_of_perm sameIds
  unfold orderedProjects at same
  simp only [validateParsedFederation, sortedIssues, (sortByKey_perm _ _).mem_iff,
    List.mem_append, same, declarationIssues,
    childrenIssues_of_distinct ids (fun _ _ => List.not_mem_nil),
    childrenIssues_of_distinct (sameIds.nodup_iff.mpr ids)
      (fun _ _ => List.not_mem_nil), List.nil_append, declared,
    (permuted.flatMap_right (childIssue shell [])).mem_iff]

theorem parseFederation_of_parsed
    {describe : JsValue → List JsString}
    {shellValue : JsValue}
    {childValues : List JsValue}
    (shellRead : projectSchema shellValue = some shell)
    (childrenRead : childValues.mapM projectSchema = some children) :
    parseFederation describe shellValue childValues =
      ⟨some (shell, children), validateParsedFederation shell children⟩ := by
  have parsedShell : parseManifest describe shellValue (js "shell") =
      .ok shell := by
    rw [parseManifest, shellRead]
  have parsedChildren := (@mapM_parseManifest childValues
    (fun index child => parseManifest describe child (childLocation index))
    fun index value => toOption_parseManifest describe value
      (childLocation index)).trans childrenRead
  simp only [parseFederation, parsedShell, parsedChildren]

theorem mapM_some_perm
    {α β : Type}
    {read : α → Option β}
    {values others : List α}
    {results : List β}
    (each : values.mapM read = some results)
    (permuted : others.Perm values) :
    ∃ otherResults, others.mapM read = some otherResults ∧
      otherResults.Perm results := by
  induction permuted generalizing results with
  | nil => exact ⟨results, each, List.Perm.refl _⟩
  | cons value _ inductionHypothesis =>
      simp only [List.mapM_cons, Option.bind_eq_bind, Option.bind_eq_some_iff,
        Option.pure_def, Option.some.injEq] at each
      obtain ⟨first, firstRead, rest, restRead, rfl⟩ := each
      obtain ⟨otherRest, otherRead, same⟩ := inductionHypothesis restRead
      refine ⟨first :: otherRest, ?_, same.cons first⟩
      rw [List.mapM_cons, firstRead, otherRead]
      rfl
  | swap value other rest =>
      simp only [List.mapM_cons, Option.bind_eq_bind, Option.bind_eq_some_iff,
        Option.pure_def, Option.some.injEq] at each
      obtain ⟨first, firstRead, _, ⟨second, secondRead, later, laterRead, rfl⟩,
        rfl⟩ := each
      refine ⟨second :: first :: later, ?_, List.Perm.swap _ _ _⟩
      rw [List.mapM_cons, secondRead, List.mapM_cons, firstRead, laterRead]
      rfl
  | trans _ _ firstHypothesis secondHypothesis =>
      obtain ⟨middle, middleRead, middleSame⟩ := secondHypothesis each
      obtain ⟨outer, outerRead, outerSame⟩ := firstHypothesis middleRead
      exact ⟨outer, outerRead, outerSame.trans middleSame⟩

/--
The order of the children changes neither the catalog of a federation without
issues nor, for children of different ids, the issues of one that has some.
-/
theorem aggregateFederation_perm
    (describe : JsValue → List JsString)
    (shellValue : JsValue)
    (childValues reorderedValues : List JsValue)
    (permuted : reorderedValues.Perm childValues) :
    (validateFederation describe shellValue childValues = [] →
      ∃ catalog,
        aggregateFederation describe shellValue childValues = .ok catalog ∧
          aggregateFederation describe shellValue reorderedValues =
            .ok catalog) ∧
    ∀ shell children, projectSchema shellValue = some shell →
      childValues.mapM projectSchema = some children →
      (children.map Project.projectId).Nodup →
      ∀ issue,
        issue ∈ validateFederation describe shellValue reorderedValues ↔
          issue ∈ validateFederation describe shellValue childValues := by
  constructor
  · intro silent
    obtain ⟨shell, children, shellRead, childrenRead, noIssue⟩ :=
      parsed_of_silent silent
    have distinct := (compatible_of_silent noIssue).distinctChildren
    obtain ⟨reordered, reorderedRead, same⟩ :=
      mapM_some_perm childrenRead permuted
    have reorderedSilent : validateParsedFederation shell reordered = [] := by
      refine List.eq_nil_iff_forall_not_mem.mpr fun issue isIssue => ?_
      rw [mem_validateParsedFederation_perm distinct same, noIssue] at isIssue
      exact List.not_mem_nil isIssue
    have sameProjects := @orderedProjects_perm shell _ _ distinct same
    refine ⟨catalogOf shell children, ?_, ?_⟩
    · simp only [aggregateFederation,
        parseFederation_of_parsed shellRead childrenRead, noIssue, if_true]
    · simp only [aggregateFederation,
        parseFederation_of_parsed shellRead reorderedRead, reorderedSilent,
        if_true, catalogOf, sameProjects]
  · intro shell children shellRead childrenRead distinct issue
    obtain ⟨reordered, reorderedRead, same⟩ :=
      mapM_some_perm childrenRead permuted
    simp only [validateFederation,
      parseFederation_of_parsed shellRead childrenRead,
      parseFederation_of_parsed shellRead reorderedRead]
    exact mem_validateParsedFederation_perm distinct same issue

/-! ## Two children of one id -/

/-- A shell that lists these children. -/
def parentShell (ids : List String) : JsValue :=
  sampleManifest "shop" "shell" "frame"
    [(js "children", .array (ids.map fun child => .string (js child)))] ["/"]

/-- A child of the shell that owns one node. -/
def ownedChild (projectId node path : String) : JsValue :=
  sampleManifest projectId "child" node
    [(js "parentProjectId", .string (js "shop"))] [path]

theorem swapped_children :
    ∃ catalog,
      aggregateFederation (fun _ => []) (parentShell ["cart", "help"])
          [ownedChild "cart" "basket" "/cart", ownedChild "help" "faq" "/help"] =
          .ok catalog ∧
        aggregateFederation (fun _ => []) (parentShell ["cart", "help"])
          [ownedChild "help" "faq" "/help", ownedChild "cart" "basket" "/cart"] =
          .ok catalog :=
  (aggregateFederation_perm (fun _ => []) (parentShell ["cart", "help"])
    [ownedChild "cart" "basket" "/cart", ownedChild "help" "faq" "/help"]
    [ownedChild "help" "faq" "/help", ownedChild "cart" "basket" "/cart"]
    (List.Perm.swap _ _ _)).1 (by decide +kernel)

/-- A child that owns every node under a prefix, besides one node. -/
def prefixChild : JsValue :=
  match ownedChild "cart" "other" "/cart" with
  | .object fields =>
      .object (fields.map fun field =>
        if field.1 = js "ownership" then
          (field.1, .object
            [(js "nodeIds", .array [.string (js "other")]),
              (js "nodeIdPrefixes", .array [.string (js "bas")])])
        else field)
  | other => other

/--
Two manifests of one id that claim the same node: the issue names the claim of
the one supplied first before that of the other.
-/
theorem duplicated_children_differ :
    (projectSchema (parentShell ["cart"])).isSome ∧
      ([prefixChild, ownedChild "cart" "basket" "/cart"].mapM
        projectSchema).isSome ∧
      ¬ ∀ issue,
        issue ∈ validateFederation (fun _ => []) (parentShell ["cart"])
            [ownedChild "cart" "basket" "/cart", prefixChild] ↔
          issue ∈ validateFederation (fun _ => []) (parentShell ["cart"])
            [prefixChild, ownedChild "cart" "basket" "/cart"] := by
  refine ⟨by decide +kernel, by decide +kernel, fun same => ?_⟩
  have reported : ∀ issue ∈ validateFederation (fun _ => [])
      (parentShell ["cart"]) [ownedChild "cart" "basket" "/cart", prefixChild],
      issue ∈ validateFederation (fun _ => []) (parentShell ["cart"])
        [prefixChild, ownedChild "cart" "basket" "/cart"] :=
    fun issue => (same issue).mp
  revert reported
  decide +kernel

end Selene.Federation
