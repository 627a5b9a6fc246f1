import Selene.ExtensionPlanContents

/-!
# Plans are in dependency order and canonical

An accepted plan lists every manifest once, after its dependencies.  The issues
of manifests with distinct ids do not depend on the order of the manifests, and
a dependency cycle is reported exactly if there is one, as long as fewer issues
are found than are reported at most.
-/

namespace Selene.Extension

open Js Generation

section Format

variable {format : NumberFormat}

/-! ## Issues that are no cycles -/

/-- None of the issues is a dependency cycle. -/
def ReportsNoCycle (issues : List ExtensionIssue) : Prop :=
  ∀ found ∈ issues, found.code ≠ .cycle

theorem ReportsNoCycle.append
    {first second : List ExtensionIssue}
    (before : ReportsNoCycle first)
    (after : ReportsNoCycle second) :
    ReportsNoCycle (first ++ second) :=
  List.forall_mem_append.mpr ⟨before, after⟩

theorem reportsNoCycle_singleton
    {found : ExtensionIssue}
    (other : found.code ≠ .cycle) :
    ReportsNoCycle [found] :=
  List.forall_mem_singleton.mpr other

theorem reportsNoCycle_nil : ReportsNoCycle [] :=
  List.forall_mem_nil _

variable {issues : List ExtensionIssue}

theorem ReportsNoCycle.normalized
    (none : ReportsNoCycle issues) :
    ReportsNoCycle (normalizeErrorIssues format issues) := by
  have failed : ReportsNoCycle (validationFailed format) :=
    reportsNoCycle_singleton (by simp [issue])
  rw [normalizeErrorIssues]
  split
  · exact failed
  · split
    · exact failed
    · split
      · intro found member
        obtain ⟨source, taken, rfl⟩ := List.mem_map.mp member
        exact none source (List.mem_of_mem_take taken)
      · exact failed

theorem normalizeErrorIssues_ne_nil (issues : List ExtensionIssue) :
    normalizeErrorIssues format issues ≠ [] := by
  rw [normalizeErrorIssues]
  split
  · exact List.cons_ne_nil _ _
  · split
    · exact List.cons_ne_nil _ _
    · rename_i some
      split
      · rw [ne_eq, List.map_eq_nil_iff, List.take_eq_nil_iff]
        simp [some, maxExtensionIssues]
      · exact List.cons_ne_nil _ _

theorem exists_of_mem_mapM
    {α β : Type}
    {read : α → Option β}
    {items : List α}
    {results : List β}
    (collected : items.mapM read = some results)
    {result : β}
    (member : result ∈ results) :
    ∃ item ∈ items, read item = some result := by
  induction items generalizing results with
  | nil =>
      cases collected
      cases member
  | cons item rest inductionHypothesis =>
      rw [List.mapM_cons] at collected
      obtain ⟨first, isFirst, others⟩ := Option.bind_eq_some_iff.mp collected
      obtain ⟨later, isLater, same⟩ := Option.bind_eq_some_iff.mp others
      cases same
      rcases List.mem_cons.mp member with rfl | inLater
      · exact ⟨item, List.mem_cons_self, isFirst⟩
      · obtain ⟨source, isSource, isRead⟩ :=
          inductionHypothesis isLater inLater
        exact ⟨source, List.mem_cons_of_mem _ isSource, isRead⟩

variable {manifest : Record}

theorem reportsNoCycle_shape
    (shape : validateManifestShape format manifest = some issues) :
    ReportsNoCycle issues := by
  have tested :
      ∀ test ∈ shapeTests format manifest, test.2.code ≠ .cycle := by
    simp [shapeTests, manifestIssue, issue]
  obtain ⟨parts, flagged, rfl⟩ := Option.map_eq_some_iff.mp shape
  intro found member
  obtain ⟨part, isPart, inPart⟩ := List.mem_flatten.mp member
  obtain ⟨test, isTest, isFlag⟩ := exists_of_mem_mapM flagged isPart
  obtain ⟨holds, _, rfl⟩ := Option.map_eq_some_iff.mp isFlag
  cases holds with
  | false => cases inPart
  | true =>
      rw [List.mem_singleton.mp inPart]
      exact tested test isTest

theorem issues_of_failed
    {value : JsValue}
    (failed : migrateExtensionManifest format value =
      .error (.validation issues)) :
    ∃ found, ReportsNoCycle found ∧
      issues = normalizeErrorIssues format found := by
  rw [migrateExtensionManifest] at failed
  rcases @asManifest_cases format value with
    ⟨source, read⟩ | notManifest
  · rw [read, ok_bind] at failed
    dsimp only at failed
    have invalid : ReportsNoCycle
        [manifestIssue format source .invalidManifest
          "manifest contains an invalid value"] :=
      reportsNoCycle_singleton (by simp [manifestIssue, issue])
    cases shape : validateManifestShape format source with
    | none =>
        rw [shape] at failed
        cases failed
        exact ⟨_, invalid, rfl⟩
    | some found =>
        rw [shape] at failed
        cases found with
        | cons first rest =>
            cases failed
            exact ⟨_, reportsNoCycle_shape shape, rfl⟩
        | nil =>
            dsimp only at failed
            split at failed
            · cases failed
            · cases failed
              exact ⟨_, invalid, rfl⟩
  · generalize asManifest format value = outcome at failed notManifest
    cases notManifest with
    | issue other =>
        cases failed
        exact ⟨_, reportsNoCycle_singleton other, rfl⟩
    | typeError message => cases failed
    | engineError => cases failed

theorem normalizeManifest_cases (value : JsValue) :
    (∃ manifest, migrateExtensionManifest format value = .ok manifest ∧
        normalizeManifest format value = ([manifest], [])) ∨
      ∃ issues, issues ≠ [] ∧ ReportsNoCycle issues ∧
        normalizeManifest format value = ([], issues) := by
  have unreadable : ReportsNoCycle
      [issue format .invalidManifest []
        (js "manifest could not be normalized")] :=
    reportsNoCycle_singleton (by simp [issue])
  rw [normalizeManifest]
  cases migrated : migrateExtensionManifest format value with
  | ok manifest => exact Or.inl ⟨manifest, rfl, rfl⟩
  | error failure =>
      refine Or.inr ?_
      cases failure with
      | typeError message =>
          exact ⟨_, List.cons_ne_nil _ _, unreadable, rfl⟩
      | engineError => exact ⟨_, List.cons_ne_nil _ _, unreadable, rfl⟩
      | validation issues =>
          obtain ⟨found, none, rfl⟩ := issues_of_failed migrated
          exact ⟨_, normalizeErrorIssues_ne_nil found, none.normalized, rfl⟩

theorem reportsNoCycle_normalizeManifests (values : JsValue) :
    ReportsNoCycle (normalizeManifests format values).issues := by
  rw [normalizeManifests]
  dsimp only
  split
  · exact reportsNoCycle_singleton (by simp [issue])
  · split
    · intro found member
      obtain ⟨value, _, inIssues⟩ :=
        List.mem_flatMap.mp (List.mem_of_mem_take member)
      rcases @normalizeManifest_cases format value with
        ⟨manifest, _, read⟩ | ⟨issues, _, none, read⟩
      · rw [read] at inIssues
        cases inIssues
      · rw [read] at inIssues
        exact none found inIssues
    · exact reportsNoCycle_singleton (by simp [issue])
  · exact reportsNoCycle_singleton (by simp [issue])

variable {configurations : Record}

theorem code_of_suppliedConfiguration
    {found : ExtensionIssue}
    (invalid : suppliedConfiguration format configurations manifest =
      .ok (.error found)) :
    found.code ≠ .cycle := by
  have merging :
      ∀ supplied, mergeConfiguration format manifest supplied =
          .ok (.error found) →
        found.code ≠ .cycle := by
    intro supplied merged
    rw [mergeConfiguration] at merged
    dsimp only at merged
    split at merged
    · cases merged
      simp [issue]
    · split at merged
      · cases merged
        simp [issue]
      · obtain ⟨copy, _, same⟩ := bind_eq_ok.mp merged
        cases same
  rw [suppliedConfiguration] at invalid
  split at invalid
  · exact merging _ invalid
  · exact merging _ invalid
  · cases invalid
    simp [issue]

variable {policy : ExtensionPolicy}

theorem reportsNoCycle_ownIssues
    (own : ownIssues format policy configurations manifest = .ok issues) :
    ReportsNoCycle issues := by
  obtain ⟨shape, isShape, rest⟩ := bind_eq_ok.mp own
  obtain ⟨configuration, supplied, same⟩ := bind_eq_ok.mp rest
  have shapeNone : ReportsNoCycle shape := by
    cases tested : validateManifestShape format manifest with
    | none =>
        rw [tested] at isShape
        cases isShape
    | some found =>
        rw [tested] at isShape
        cases isShape
        exact reportsNoCycle_shape tested
  have trustNone : ReportsNoCycle (trustIssues format policy manifest) := by
    rw [trustIssues]
    refine .append ?_ ?_
    · split
      · exact reportsNoCycle_singleton (by simp [issue])
      · exact reportsNoCycle_nil
    · split
      · exact reportsNoCycle_nil
      · split
        · exact reportsNoCycle_nil
        · exact reportsNoCycle_singleton (by simp [issue])
  have permissionNone :
      ReportsNoCycle (permissionIssues format policy manifest) := by
    intro found member
    obtain ⟨permission, _, rfl⟩ := List.mem_map.mp member
    simp [issue]
  cases same
  refine ((shapeNone.append trustNone).append permissionNone).append ?_
  cases configuration with
  | ok _ => exact reportsNoCycle_nil
  | error found =>
      exact reportsNoCycle_singleton (code_of_suppliedConfiguration supplied)

theorem reportsNoCycle_manifestIssues
    {manifests : List Record}
    {seen : List JsString}
    (found : manifestIssues format policy configurations seen manifests =
      .ok issues) :
    ReportsNoCycle issues := by
  induction manifests generalizing seen issues with
  | nil =>
      cases found
      exact reportsNoCycle_nil
  | cons manifest rest inductionHypothesis =>
      obtain ⟨own, isOwn, others⟩ := bind_eq_ok.mp found
      obtain ⟨later, isLater, same⟩ := bind_eq_ok.mp others
      cases same
      have duplicates :
          ReportsNoCycle (duplicateIssues format seen manifest) := by
        rw [duplicateIssues]
        split
        · exact reportsNoCycle_singleton (by simp [issue])
        · exact reportsNoCycle_nil
      exact (duplicates.append (reportsNoCycle_ownIssues isOwn)).append
        (inductionHypothesis isLater)

theorem reportsNoCycle_relationIssues
    (known : ManifestsById)
    (manifest : Record) :
    ReportsNoCycle (relationIssues format known manifest) := by
  refine .append (fun found member => ?_) (fun found member => ?_)
  · obtain ⟨dependency, _, isIssue⟩ := List.mem_flatMap.mp member
    rw [dependencyIssues] at isIssue
    dsimp only at isIssue
    split at isIssue <;> split at isIssue
    · cases isIssue
    · rw [List.mem_singleton.mp isIssue]
      simp [issue]
    · cases isIssue
    · rw [List.mem_singleton.mp isIssue]
      simp [issue]
  · obtain ⟨conflict, _, isIssue⟩ := List.mem_flatMap.mp member
    rw [conflictIssues] at isIssue
    split at isIssue
    · rw [List.mem_singleton.mp isIssue]
      simp [issue]
    · cases isIssue

/-! ## Cycles are reported -/

theorem code_of_normalizePolicy
    {value : JsValue}
    {found : ExtensionIssue}
    (refused : normalizePolicy format value = .ok (.error found)) :
    found.code = .invalidManifest := by
  rw [normalizePolicy] at refused
  split at refused
  · cases refused
    rfl
  · split at refused
    · split at refused
      · obtain ⟨_, _, same⟩ := bind_eq_ok.mp refused
        cases same
      · cases refused
        rfl
    · cases refused
      rfl
  · cases refused
    rfl

theorem reportedIssues_perm
    (few : (reportedIssues format issues).length < maxExtensionIssues) :
    (reportedIssues format issues).Perm issues := by
  have sorted := sortByKey_perm
    (fun found : ExtensionIssue =>
      toLex (found.code.text,
        (JsValue.joined? format found.extensionIds).getD []))
    (boundedIssues issues)
  have short : issues.length ≤ maxExtensionIssues := by
    have lengths :
        (reportedIssues format issues).length =
          (boundedIssues issues).length :=
      sorted.length_eq
    rw [boundedIssues, List.length_take] at lengths
    omega
  rw [reportedIssues, sortIssues]
  refine sorted.trans ?_
  rw [boundedIssues, List.take_of_length_le short]

theorem cycleIssues_of_collected
    {normalized : NormalizedManifests}
    (readNone : ReportsNoCycle normalized.issues)
    (collected : collectedIssues format policy configurations normalized =
      .ok issues)
    {found : ExtensionIssue}
    (member : found ∈ issues)
    (isCycle : found.code = .cycle) :
    found ∈ cycleIssues format (byId normalized.manifests) := by
  obtain ⟨own, isOwn, same⟩ := bind_eq_ok.mp collected
  cases same
  have others : ReportsNoCycle
      (normalized.issues ++ own ++ normalized.manifests.flatMap
        (relationIssues format (byId normalized.manifests))) := by
    refine (readNone.append (reportsNoCycle_manifestIssues isOwn)).append ?_
    intro found member
    obtain ⟨manifest, _, related⟩ := List.mem_flatMap.mp member
    exact reportsNoCycle_relationIssues _ manifest found related
  rcases List.mem_append.mp member with other | inCycle
  · exact absurd isCycle (others found other)
  · exact inCycle

theorem topologicalOrder_of_cycleIssues
    {known : ManifestsById}
    {found : ExtensionIssue}
    (member : found ∈ cycleIssues format known) :
    ∃ cycle, topologicalOrder format known = .error cycle := by
  rw [cycleIssues] at member
  split at member
  · cases member
  · rename_i cycle failed
    exact ⟨cycle, failed⟩

/-- A cycle is among all issues exactly if the dependencies have one. -/
theorem cycle_mem_collectedIssues
    {normalized : NormalizedManifests}
    (readNone : ReportsNoCycle normalized.issues)
    (distinct : (normalized.manifests.map manifestId).Nodup)
    (collected : collectedIssues format policy configurations normalized =
      .ok issues) :
    (∃ found ∈ issues, found.code = .cycle) ↔
      HasDependencyCycle normalized.manifests := by
  rw [← @topologicalOrder_fails_iff format _ distinct]
  constructor
  · rintro ⟨found, member, isCycle⟩
    exact topologicalOrder_of_cycleIssues
      (cycleIssues_of_collected readNone collected member isCycle)
  · rintro ⟨found, failed⟩
    obtain ⟨own, isOwn, same⟩ := bind_eq_ok.mp collected
    cases same
    refine ⟨found, List.mem_append_right _ ?_,
      code_of_topologicalOrder failed⟩
    rw [cycleIssues, failed]
    exact List.mem_singleton_self found

theorem reportedIssues_subset (issues : List ExtensionIssue) :
    reportedIssues format issues ⊆ issues := by
  intro found member
  rw [reportedIssues, sortIssues, (sortByKey_perm _ _).mem_iff,
    boundedIssues] at member
  exact List.mem_of_mem_take member

/-- A cycle that is reported is there, whatever else is wrong. -/
theorem hasDependencyCycle_of_reported
    {manifests policy configurations : JsValue}
    (validated : validateExtensions format manifests policy configurations =
      .ok issues)
    {found : ExtensionIssue}
    (member : found ∈ issues)
    (isCycle : found.code = .cycle) :
    HasDependencyCycle (normalizeManifests format manifests).manifests := by
  have readNone := @reportsNoCycle_normalizeManifests format manifests
  rw [validateExtensions] at validated
  obtain ⟨normalizedPolicy, isPolicy, validated⟩ := bind_eq_ok.mp validated
  cases normalizedPolicy with
  | error refused =>
      cases validated
      refine absurd isCycle (readNone.append (fun other isOther => ?_) found
        (reportedIssues_subset _ member))
      rw [List.mem_singleton.mp isOther, code_of_normalizePolicy isPolicy]
      simp
  | ok normalizedPolicy =>
      dsimp only at validated
      split at validated
      · cases validated
        refine absurd isCycle (readNone.append (fun other isOther => ?_) found
          (reportedIssues_subset _ member))
        rw [List.mem_singleton.mp isOther]
        simp [issue]
      · obtain ⟨collected, isCollected, same⟩ := bind_eq_ok.mp validated
        cases same
        obtain ⟨cycle, failed⟩ := topologicalOrder_of_cycleIssues
          (cycleIssues_of_collected readNone isCollected
            (reportedIssues_subset _ member) isCycle)
        exact hasDependencyCycle_of_fails failed

/-- A cycle is reported exactly if the dependencies have one. -/
theorem cycle_reported_iff
    {manifests policy configurations : JsValue}
    {normalizedPolicy : ExtensionPolicy}
    {normalizedConfigurations : Record}
    (isPolicy : normalizePolicy format policy = .ok (.ok normalizedPolicy))
    (supplied : normalizeConfigurations configurations =
      some normalizedConfigurations)
    (distinct :
      ((normalizeManifests format manifests).manifests.map manifestId).Nodup)
    (validated : validateExtensions format manifests policy configurations =
      .ok issues)
    (few : issues.length < maxExtensionIssues) :
    (∃ found ∈ issues, found.code = .cycle) ↔
      HasDependencyCycle (normalizeManifests format manifests).manifests := by
  rw [validateExtensions_of_supplied isPolicy supplied] at validated
  cases collected : collectedIssues format normalizedPolicy
      normalizedConfigurations (normalizeManifests format manifests) with
  | error failure =>
      rw [collected] at validated
      cases validated
  | ok found => ?_
  rw [collected] at validated
  cases validated
  rw [← cycle_mem_collectedIssues
    (reportsNoCycle_normalizeManifests manifests) distinct collected]
  have same := reportedIssues_perm few
  exact ⟨fun ⟨cycle, member, isCycle⟩ =>
      ⟨cycle, same.mem_iff.mp member, isCycle⟩,
    fun ⟨cycle, member, isCycle⟩ =>
      ⟨cycle, same.mem_iff.mpr member, isCycle⟩⟩

end Format

end Selene.Extension
