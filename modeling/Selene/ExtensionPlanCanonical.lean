import Selene.ExtensionPlanOrder
import Selene.SemverAgreement

/-!
# Plans do not depend on the order of manifests

Manifests in another order are accepted alike and give the same plan.  As long
as the bound on issues is not reached and ids are distinct, manifests in another
order have the same issues.  Manifests of one id replace each other, so their
order decides what the others depend on.
-/

namespace Selene.Extension

open Js Generation

section Format

variable {format : NumberFormat}

/-! ## Normalized manifests -/

theorem migrateExtensionManifest_canonical
    {value : JsValue}
    (snapshotable : Snapshotable value) :
    migrateExtensionManifest format (canonical value) =
      migrateExtensionManifest format value := by
  have same : asManifest format (canonical value) = asManifest format value := by
    rw [asManifest, asManifest, snapshotData_canonical snapshotable,
      snapshotData_eq_ok.mpr ⟨snapshotable, rfl⟩]
  rw [migrateExtensionManifest, migrateExtensionManifest, same]

variable {values : List JsValue}

theorem normalizeManifests_of_fits
    (snapshotable : Snapshotable (.array values))
    (few : values.length ≤ maxExtensionManifests) :
    normalizeManifests format (.array values) =
      { manifests := values.flatMap fun value =>
          (normalizeManifest format value).1
        issues := boundedIssues (values.flatMap fun value =>
          (normalizeManifest format value).2) } := by
  have taken : snapshotData (.array values) =
      .ok (.array (values.map canonical)) := by
    rw [snapshotData_eq_ok.mpr ⟨snapshotable, rfl⟩, canonical,
      canonicalItems_eq_map]
  have same : ∀ value ∈ values,
      normalizeManifest format (canonical value) =
        normalizeManifest format value := by
    intro value member
    rw [normalizeManifest, normalizeManifest,
      migrateExtensionManifest_canonical (snapshotable.item member)]
  rw [normalizeManifests, taken]
  dsimp only
  rw [List.length_map, if_pos few, List.flatMap_map, List.flatMap_map]
  congr 1
  · exact List.flatMap_congr fun value member => by rw [same value member]
  · exact congrArg boundedIssues
      (List.flatMap_congr fun value member => by rw [same value member])

/-- What a list that is refused gives. -/
def refusedManifests (format : NumberFormat) (message : String) :
    NormalizedManifests where
  manifests := []
  issues := [issue format .invalidManifest [] (js message)]

theorem normalizeManifests_of_unbounded
    (unbounded : ¬Snapshotable (.array values)) :
    normalizeManifests format (.array values) =
      refusedManifests format "manifests must be bounded data" := by
  rw [normalizeManifests]
  dsimp only
  cases taken : snapshotData (.array values) with
  | error message => rfl
  | ok copy => exact absurd (snapshotData_eq_ok.mp taken).1 unbounded

theorem normalizeManifests_of_many
    (snapshotable : Snapshotable (.array values))
    (many : ¬values.length ≤ maxExtensionManifests) :
    normalizeManifests format (.array values) =
      refusedManifests format
        "at most 64 manifests may be planned at once" := by
  rw [normalizeManifests, snapshotData_eq_ok.mpr ⟨snapshotable, rfl⟩,
    canonical, canonicalItems_eq_map]
  dsimp only
  rw [List.length_map, if_neg many]
  rfl

theorem migrated_of_silent
    (silent : (normalizeManifests format (.array values)).issues = []) :
    values.mapM (migrateExtensionManifest format) =
      .ok (normalizeManifests format (.array values)).manifests := by
  by_cases snapshotable : Snapshotable (.array values)
  · by_cases few : values.length ≤ maxExtensionManifests
    · rw [normalizeManifests_of_fits snapshotable few] at silent ⊢
      dsimp only at silent ⊢
      rw [boundedIssues, List.take_eq_nil_iff, List.flatMap_eq_nil_iff]
        at silent
      have none := silent.resolve_left (by decide)
      clear silent snapshotable few
      induction values with
      | nil => rfl
      | cons value rest inductionHypothesis =>
          rw [List.mapM_cons, List.flatMap_cons,
            inductionHypothesis fun other member =>
              none other (List.mem_cons_of_mem _ member)]
          rcases @normalizeManifest_cases format value with
            ⟨manifest, migrated, read⟩ | ⟨issues, found, _, read⟩
          · rw [migrated, read]
            rfl
          · have nothing := none value List.mem_cons_self
            rw [read] at nothing
            exact absurd nothing found
    · rw [normalizeManifests_of_many snapshotable few] at silent
      cases silent
  · rw [normalizeManifests_of_unbounded snapshotable] at silent
    cases silent

variable {others : List JsValue}

theorem normalizeManifests_perm
    (reordered : values.Perm others) :
    (normalizeManifests format (.array values)).manifests.Perm
        (normalizeManifests format (.array others)).manifests ∧
      ((normalizeManifests format (.array values)).issues.length <
          maxExtensionIssues →
        (normalizeManifests format (.array values)).issues.Perm
          (normalizeManifests format (.array others)).issues) := by
  have sameLength := reordered.length_eq
  by_cases snapshotable : Snapshotable (.array values)
  · have othersFit := snapshotable.array_perm reordered
    by_cases few : values.length ≤ maxExtensionManifests
    · rw [normalizeManifests_of_fits snapshotable few,
        normalizeManifests_of_fits othersFit (sameLength ▸ few)]
      refine ⟨reordered.flatMap_right _, fun unfilled => ?_⟩
      have same := reordered.flatMap_right fun value =>
        (normalizeManifest format value).2
      dsimp only [boundedIssues] at unfilled ⊢
      have short := unfilled
      rw [List.length_take] at short
      rw [List.take_of_length_le (by omega),
        List.take_of_length_le (by rw [← same.length_eq]; omega)]
      exact same
    · rw [normalizeManifests_of_many snapshotable few,
        normalizeManifests_of_many othersFit (sameLength ▸ few)]
      exact ⟨.refl _, fun _ => .refl _⟩
  · have othersUnbounded : ¬Snapshotable (.array others) := fun othersFit =>
      snapshotable (othersFit.array_perm reordered.symm)
    rw [normalizeManifests_of_unbounded snapshotable,
      normalizeManifests_of_unbounded othersUnbounded]
    exact ⟨.refl _, fun _ => .refl _⟩

/-! ## Issues of manifests in another order -/

variable {policy : ExtensionPolicy} {configurations : Record}
   {manifests : List Record}

theorem manifestIssues_of_distinct
    {seen : List JsString}
    (distinct : (manifests.map manifestId).Nodup)
    (fresh : ∀ manifest ∈ manifests, manifestId manifest ∉ seen) :
    manifestIssues format policy configurations seen manifests =
      (manifests.mapM (ownIssues format policy configurations)).map
        List.flatten := by
  induction manifests generalizing seen with
  | nil => rfl
  | cons manifest rest inductionHypothesis =>
      rw [List.map_cons, List.nodup_cons] at distinct
      have later : ∀ other ∈ rest, manifestId other ∉
          manifestId manifest :: seen := by
        intro other member
        rw [List.mem_cons, not_or]
        refine ⟨fun same => ?_, fresh other (List.mem_cons_of_mem _ member)⟩
        exact distinct.1 (same ▸ List.mem_map_of_mem member)
      have none : duplicateIssues format seen manifest = [] :=
        if_neg (fresh manifest List.mem_cons_self)
      rw [manifestIssues, inductionHypothesis distinct.2 later, none,
        List.mapM_cons]
      cases ownIssues format policy configurations manifest with
      | error failure => rfl
      | ok own =>
          cases rest.mapM (ownIssues format policy configurations) with
          | error failure => rfl
          | ok others => rfl

theorem distinct_of_silent
    {seen : List JsString}
    (silent : manifestIssues format policy configurations seen manifests =
      .ok []) :
    (manifests.map manifestId).Nodup ∧
      ∀ manifest ∈ manifests, manifestId manifest ∉ seen := by
  induction manifests generalizing seen with
  | nil => exact ⟨.nil, by simp⟩
  | cons manifest rest inductionHypothesis =>
      obtain ⟨own, _, others⟩ := bind_eq_ok.mp silent
      obtain ⟨later, isLater, same⟩ := bind_eq_ok.mp others
      have none := List.append_eq_nil_iff.mp (Except.ok.inj same)
      have notDuplicate := (List.append_eq_nil_iff.mp none.1).1
      rw [none.2] at isLater
      obtain ⟨distinct, fresh⟩ := inductionHypothesis isLater
      have isFresh : manifestId manifest ∉ seen := by
        intro old
        rw [duplicateIssues, if_pos old] at notDuplicate
        cases notDuplicate
      refine ⟨List.nodup_cons.mpr ⟨?_, distinct⟩, ?_⟩
      · intro repeated
        obtain ⟨other, member, same⟩ := List.mem_map.mp repeated
        exact fresh other member (same ▸ List.mem_cons_self)
      · refine List.forall_mem_cons.mpr ⟨isFresh, fun other member old => ?_⟩
        exact fresh other member (List.mem_cons_of_mem _ old)

theorem relationIssues_congr
    {first second : ManifestsById}
    (same : SameManifests first second)
    (manifest : Record) :
    relationIssues format first manifest =
      relationIssues format second manifest := by
  have dependencies : dependencyIssues format first manifest =
      dependencyIssues format second manifest := by
    funext dependency
    rw [dependencyIssues, dependencyIssues, same.findManifest_eq]
  have conflicts : conflictIssues format first manifest =
      conflictIssues format second manifest := by
    funext conflict
    rw [conflictIssues, conflictIssues, same.findManifest_eq]
  rw [relationIssues, relationIssues, dependencies, conflicts]

variable {issues : List ExtensionIssue}

theorem collectedIssues_perm
    {normalized others : NormalizedManifests}
    (distinct : (normalized.manifests.map manifestId).Nodup)
    (reordered : normalized.manifests.Perm others.manifests)
    (sameIssues : normalized.issues.Perm others.issues)
    (collected : collectedIssues format policy configurations normalized =
      .ok issues) :
    ∃ otherIssues,
      collectedIssues format policy configurations others =
          .ok otherIssues ∧
        issues.Perm otherIssues := by
  have othersDistinct : (others.manifests.map manifestId).Nodup :=
    (reordered.map manifestId).nodup_iff.mp distinct
  have same := sameManifests_of_perm distinct reordered
  obtain ⟨own, isOwn, whole⟩ := bind_eq_ok.mp collected
  cases whole
  rw [manifestIssues_of_distinct distinct (by simp)] at isOwn
  cases each : normalized.manifests.mapM
      (ownIssues format policy configurations) with
  | error failure =>
      rw [each] at isOwn
      cases isOwn
  | ok parts =>
      rw [each] at isOwn
      cases isOwn
      obtain ⟨otherParts, otherEach, partsPerm⟩ := mapM_perm each reordered
      refine ⟨_, bind_eq_ok.mpr ⟨otherParts.flatten, ?_, rfl⟩, ?_⟩
      · rw [manifestIssues_of_distinct othersDistinct (by simp), otherEach]
        rfl
      · have relations := reordered.flatMap_right
          (relationIssues format (byId normalized.manifests))
        rw [funext (@relationIssues_congr format _ _ same)]
          at relations ⊢
        rw [cycleIssues, cycleIssues, same.topologicalOrder_eq]
        exact ((sameIssues.append partsPerm.flatten).append
          relations).append_right _

theorem validateExtensions_of_refused
    {manifests policy configurations : JsValue}
    {normalizedPolicy : ExtensionPolicy}
    (isPolicy : normalizePolicy format policy = .ok (.ok normalizedPolicy))
    (refused : normalizeConfigurations configurations = none) :
    validateExtensions format manifests policy configurations =
      .ok (reportedIssues format
        ((normalizeManifests format manifests).issues ++
          [issue format .invalidConfig []
            (js "configurations must be bounded plain JSON data")])) := by
  rw [validateExtensions, isPolicy, ok_bind]
  dsimp only
  rw [refused]

theorem validateExtensions_perm
    {policy configurations : JsValue}
    (reordered : values.Perm others)
    (distinct : ((normalizeManifests format (.array values)).manifests.map
      manifestId).Nodup)
    (validated : validateExtensions format (.array values) policy
      configurations = .ok issues)
    (few : issues.length < maxExtensionIssues) :
    ∃ otherIssues,
      validateExtensions format (.array others) policy configurations =
          .ok otherIssues ∧
        issues.Perm otherIssues := by
  obtain ⟨manifests, sameIssues⟩ :=
    @normalizeManifests_perm format _ _ reordered
  -- Few issues in all are few issues of the values.
  have reported :
      ∀ {first second : List ExtensionIssue},
        (reportedIssues format (first ++ second)).length <
            maxExtensionIssues →
          first.length < maxExtensionIssues := by
    intro first second short
    have lengths := (reportedIssues_perm short).length_eq
    rw [List.length_append] at lengths
    omega
  have transfer :
      ∀ {found otherFound : List ExtensionIssue},
        (reportedIssues format found).length < maxExtensionIssues →
          found.Perm otherFound →
            (reportedIssues format found).Perm
              (reportedIssues format otherFound) := by
    intro found otherFound short same
    have first := reportedIssues_perm short
    have bounded : boundedIssues otherFound = otherFound := by
      refine List.take_of_length_le ?_
      rw [← same.length_eq, ← first.length_eq]
      exact Nat.le_of_lt short
    refine first.trans (same.trans ?_)
    rw [reportedIssues, bounded]
    exact (sortByKey_perm _ _).symm
  obtain ⟨outcome, isPolicy, rest⟩ := bind_eq_ok.mp validated
  cases outcome with
  | error found =>
      cases rest
      refine ⟨_, bind_eq_ok.mpr ⟨_, isPolicy, rfl⟩, ?_⟩
      exact transfer few ((sameIssues (reported few)).append_right _)
  | ok normalizedPolicy =>
      dsimp only at rest
      cases supplied : normalizeConfigurations configurations with
      | none =>
          rw [supplied] at rest
          cases rest
          refine ⟨_, validateExtensions_of_refused isPolicy supplied, ?_⟩
          exact transfer few ((sameIssues (reported few)).append_right _)
      | some normalizedConfigurations =>
          rw [supplied] at rest
          obtain ⟨found, collected, same⟩ := bind_eq_ok.mp rest
          cases same
          have short : (normalizeManifests format
              (.array values)).issues.length < maxExtensionIssues := by
            obtain ⟨own, _, whole⟩ := bind_eq_ok.mp collected
            cases whole
            rw [List.append_assoc, List.append_assoc] at few
            exact reported few
          obtain ⟨otherFound, otherCollected, sameFound⟩ :=
            collectedIssues_perm distinct manifests (sameIssues short)
              collected
          refine ⟨reportedIssues format otherFound, ?_,
            transfer few sameFound⟩
          rw [validateExtensions_of_supplied isPolicy supplied,
            otherCollected]
          rfl

/-! ## Plans of manifests in another order -/

theorem planExtensions_perm
    {others : List Record}
    (policy : ExtensionPolicy)
    (configurations : Record)
    (distinct : (manifests.map manifestId).Nodup)
    (reordered : manifests.Perm others) :
    planExtensions format policy configurations manifests =
      planExtensions format policy configurations others := by
  have same := sameManifests_of_perm distinct reordered
  have resolve : resolveExtension format configurations (byId manifests) =
      resolveExtension format configurations (byId others) := by
    funext id
    rw [resolveExtension, resolveExtension, same.find? id]
  rw [planExtensions, planExtensions, same.topologicalOrder_eq, resolve]

theorem normalizeErrorIssues_perm
    {others : List ExtensionIssue}
    (reordered : issues.Perm others)
    (few : issues.length ≤ maxExtensionIssues) :
    (normalizeErrorIssues format issues).Perm
      (normalizeErrorIssues format others) := by
  have values := reordered.map ExtensionIssue.toJs
  have sameEmpty : issues = [] ↔ others = [] := by
    rw [← List.length_eq_zero_iff, ← List.length_eq_zero_iff,
      reordered.length_eq]
  have texts :
      (issues.all fun found => found.extensionIds.all JsValue.isString) =
        others.all fun found => found.extensionIds.all JsValue.isString := by
    rw [Bool.eq_iff_iff, List.all_eq_true, List.all_eq_true]
    exact ⟨fun every found member =>
        every found (reordered.mem_iff.mpr member),
      fun every found member =>
        every found (reordered.mem_iff.mp member)⟩
  rw [normalizeErrorIssues, normalizeErrorIssues,
    List.take_of_length_le few,
    List.take_of_length_le (reordered.length_eq ▸ few), texts]
  cases taken : snapshotData (.array (issues.map ExtensionIssue.toJs)) with
  | error message =>
      have refused :
          ∀ copy, snapshotData (.array (others.map ExtensionIssue.toJs)) ≠
            .ok copy := by
        intro copy otherTaken
        have fits := (snapshotData_eq_ok.mp otherTaken).1.array_perm
          values.symm
        rw [snapshotData_eq_ok.mpr ⟨fits, rfl⟩] at taken
        cases taken
      cases otherTaken :
          snapshotData (.array (others.map ExtensionIssue.toJs)) with
      | error otherMessage => exact .refl _
      | ok copy => exact absurd otherTaken (refused copy)
  | ok copy =>
      have fits := (snapshotData_eq_ok.mp taken).1.array_perm values
      rw [snapshotData_eq_ok.mpr ⟨fits, rfl⟩]
      dsimp only
      by_cases empty : issues = []
      · rw [if_pos empty, if_pos (sameEmpty.mp empty)]
      · rw [if_neg empty, if_neg (mt sameEmpty.mpr empty)]
        split
        · exact reordered.map _
        · exact .refl _

/-- Two calls give the same plan, or throw errors with the same issues. -/
inductive SameOutcome :
    Except ExtensionFailure PlanRecord →
      Except ExtensionFailure PlanRecord → Prop where
  | plan (record : PlanRecord) : SameOutcome (.ok record) (.ok record)
  | issues {first second : List ExtensionIssue} :
      first.Perm second →
      SameOutcome (.error (.validation first)) (.error (.validation second))
  | failure (failure : ExtensionFailure) :
      SameOutcome (.error failure) (.error failure)

theorem SameOutcome.of_eq
    (outcome : Except ExtensionFailure PlanRecord) :
    SameOutcome outcome outcome := by
  cases outcome with
  | ok record => exact .plan record
  | error failure => exact .failure failure

/-- Values without issues are planned alike in another order. -/
theorem createExtensionPlan_of_silent
    {policy configurations : JsValue}
    (reordered : values.Perm others)
    (silent : validateExtensions format (.array values) policy
      configurations = .ok []) :
    createExtensionPlan format (.array values) policy configurations =
      createExtensionPlan format (.array others) policy configurations := by
  obtain ⟨normalizedPolicy, normalizedConfigurations, isPolicy, supplied,
    collected⟩ := collected_of_silent silent
  obtain ⟨own, isOwn, whole⟩ := bind_eq_ok.mp collected
  simp only [Except.ok.injEq, List.append_eq_nil_iff] at whole
  obtain ⟨⟨⟨readNone, rfl⟩, -⟩, -⟩ := whole
  have distinct := (distinct_of_silent isOwn).1
  obtain ⟨manifests, sameIssues⟩ :=
    @normalizeManifests_perm format _ _ reordered
  have otherNone :
      (normalizeManifests format (.array others)).issues = [] := by
    have same := sameIssues (by rw [readNone]; decide)
    rw [readNone] at same
    exact same.symm.eq_nil
  obtain ⟨otherIssues, otherSilent, same⟩ :=
    validateExtensions_perm reordered distinct silent (by decide)
  rw [same.symm.eq_nil] at otherSilent
  rw [createExtensionPlan, createExtensionPlan, silent, otherSilent]
  simp only [ok_bind, ne_eq, not_true_eq_false, if_false, isPolicy, readNone,
    otherNone, supplied]
  exact planExtensions_perm _ _ distinct manifests

/-- Values in another order have the same outcome, if they have few issues. -/
theorem createExtensionPlan_perm
    {policy configurations : JsValue}
    (reordered : values.Perm others)
    (distinct : ((normalizeManifests format (.array values)).manifests.map
      manifestId).Nodup)
    (validated : validateExtensions format (.array values) policy
      configurations = .ok issues)
    (few : issues.length < maxExtensionIssues) :
    SameOutcome
      (createExtensionPlan format (.array values) policy configurations)
      (createExtensionPlan format (.array others) policy configurations) := by
  by_cases silent : issues = []
  · rw [silent] at validated
    rw [createExtensionPlan_of_silent reordered validated]
    exact .of_eq _
  · obtain ⟨otherIssues, otherValidated, same⟩ :=
      validateExtensions_perm reordered distinct validated few
    have otherSome : otherIssues ≠ [] := by
      rintro rfl
      exact silent same.eq_nil
    rw [createExtensionPlan, createExtensionPlan, validated, otherValidated,
      ok_bind, ok_bind, if_pos silent, if_pos otherSome]
    exact .issues (normalizeErrorIssues_perm same (Nat.le_of_lt few))

/-! ## Accepted plans -/

/-- Every manifest is listed after the manifests that it depends on. -/
def PrecededByDependencies (manifests : List Record) : Prop :=
  ∀ before manifest after, manifests = before ++ manifest :: after →
    ∀ dependency ∈ dependenciesOf manifest, ∀ other ∈ manifests,
      dependency.entries.get (js "id") = .string (manifestId other) →
        other ∈ before

/-- Dependencies that are not optional are there. -/
def RequiredArePresent (manifests : List Record) : Prop :=
  ∀ manifest ∈ manifests, ∀ dependency ∈ dependenciesOf manifest,
    (dependency.entries.get (js "optional")).truthy = false →
      ∃ other ∈ manifests,
        dependency.entries.get (js "id") = .string (manifestId other)

variable {order : List JsString} {record : PlanRecord}

section

variable
  (planned : Planned format policy configurations manifests order record)

include planned

theorem Planned.ids :
    (record.plan.extensions.map ResolvedExtension.manifest).map manifestId =
      order := by
  have related := planned.resolved
  generalize record.plan.extensions = extensions at related
  clear planned
  induction related with
  | nil => rfl
  | cons resolved _ inductionHypothesis =>
      rw [List.map_cons, List.map_cons, inductionHypothesis,
        (mem_of_find?_byId resolved.1).2]

theorem Planned.perm
    (distinct : (manifests.map manifestId).Nodup) :
    (record.plan.extensions.map ResolvedExtension.manifest).Perm
      manifests := by
  obtain ⟨orderDistinct, members, -⟩ := topologicalOrder_spec planned.ordered
  have listedDistinct :
      (record.plan.extensions.map ResolvedExtension.manifest).Nodup := by
    rw [← planned.ids] at orderDistinct
    exact orderDistinct.of_map _
  refine (List.perm_ext_iff_of_nodup listedDistinct
    (distinct.of_map _)).mpr fun manifest => ⟨fun listed => ?_, fun known => ?_⟩
  · obtain ⟨extension, member, rfl⟩ := List.mem_map.mp listed
    obtain ⟨id, _, found, _⟩ := exists_of_forall₂ planned.resolved.flip member
    exact (mem_of_find?_byId found).1
  · have isListed : manifestId manifest ∈ order := by
      rw [members, Table.has_eq_true_iff, rows_byId distinct]
      exact ⟨manifest, known, rfl⟩
    rw [← planned.ids] at isListed
    obtain ⟨other, listed, same⟩ := List.mem_map.mp isListed
    obtain ⟨extension, member, rfl⟩ := List.mem_map.mp listed
    obtain ⟨id, _, found, _⟩ := exists_of_forall₂ planned.resolved.flip member
    have isOther := (mem_of_find?_byId found).1
    rw [List.inj_on_of_nodup_map distinct known isOther same.symm]
    exact listed

theorem Planned.preceded
    (distinct : (manifests.map manifestId).Nodup) :
    PrecededByDependencies
      (record.plan.extensions.map ResolvedExtension.manifest) := by
  have same := planned.perm distinct
  have listedDistinct :
      ((record.plan.extensions.map ResolvedExtension.manifest).map
        manifestId).Nodup :=
    (same.map manifestId).nodup_iff.mpr distinct
  obtain ⟨-, -, ordered⟩ := topologicalOrder_spec planned.ordered
  intro before manifest after split dependency declared other listed isText
  have ids := planned.ids
  rw [split, List.map_append, List.map_cons] at ids
  have earlier := ordered _ _ _ ids.symm (manifestId other)
    (mem_presentDependencies.mpr ⟨manifest, ?_, dependency, declared, isText,
      ?_⟩)
  · obtain ⟨candidate, isBefore, sameId⟩ := List.mem_map.mp earlier
    have isListed : candidate ∈
        record.plan.extensions.map ResolvedExtension.manifest := by
      rw [split]
      exact List.mem_append_left _ isBefore
    rw [← List.inj_on_of_nodup_map listedDistinct isListed listed sameId]
    exact isBefore
  · refine (find?_byId distinct).mpr ⟨same.mem_iff.mp ?_, rfl⟩
    rw [split]
    exact List.mem_append_right _ List.mem_cons_self
  · rw [Table.has_eq_true_iff, rows_byId distinct]
    exact ⟨other, same.mem_iff.mp listed, rfl⟩

end

theorem requiredArePresent_of_silent
    (silent : manifests.flatMap (relationIssues format (byId manifests)) =
      []) :
    RequiredArePresent manifests := by
  intro manifest member dependency declared required
  have none := List.flatMap_eq_nil_iff.mp silent manifest member
  have noIssue := List.flatMap_eq_nil_iff.mp
    (List.append_eq_nil_iff.mp none).1 dependency declared
  rw [dependencyIssues] at noIssue
  dsimp only at noIssue
  cases found : findManifest (byId manifests)
      (dependency.entries.get (js "id")) with
  | none =>
      rw [found] at noIssue
      dsimp only at noIssue
      rw [required] at noIssue
      cases noIssue
  | some other =>
      obtain ⟨isText, row⟩ := findManifest_eq_some found
      exact ⟨other, (mem_of_find?_byId row).1, isText⟩

/--
A created plan lists every given manifest once, after its dependencies, and is
the plan of the manifests in any order.  A dependency cycle that is reported is
there.  With a policy, configurations, distinct ids and fewer issues than are
reported at most, one is reported exactly if the manifests have one.  With
distinct ids and so few issues, the issues and the outcome are the same in any
order.
-/
theorem createExtensionPlan_canonical
    (format : NumberFormat)
    (values : List JsValue)
    (policy configurations : JsValue) :
    (∀ record,
      createExtensionPlan format (.array values) policy configurations =
          .ok record →
        (∃ manifests,
          values.mapM (migrateExtensionManifest format) = .ok manifests ∧
            (manifests.map manifestId).Nodup ∧
            RequiredArePresent manifests ∧
            (record.plan.extensions.map ResolvedExtension.manifest).Perm
              manifests ∧
            PrecededByDependencies
              (record.plan.extensions.map ResolvedExtension.manifest)) ∧
        ∀ others, values.Perm others →
          createExtensionPlan format (.array others) policy configurations =
            .ok record) ∧
      (∀ issues,
        validateExtensions format (.array values) policy configurations =
            .ok issues →
          (∃ found ∈ issues, found.code = .cycle) →
          HasDependencyCycle
            (normalizeManifests format (.array values)).manifests) ∧
      ∀ issues,
        validateExtensions format (.array values) policy configurations =
            .ok issues →
          issues.length < maxExtensionIssues →
          ((normalizeManifests format (.array values)).manifests.map
            manifestId).Nodup →
          (∀ normalizedPolicy normalizedConfigurations,
            normalizePolicy format policy = .ok (.ok normalizedPolicy) →
            normalizeConfigurations configurations =
                some normalizedConfigurations →
              ((∃ found ∈ issues, found.code = .cycle) ↔
                HasDependencyCycle
                  (normalizeManifests format (.array values)).manifests)) ∧
          ∀ others, values.Perm others →
            (∃ otherIssues,
              validateExtensions format (.array others) policy
                    configurations = .ok otherIssues ∧
                issues.Perm otherIssues) ∧
              SameOutcome
                (createExtensionPlan format (.array values) policy
                  configurations)
                (createExtensionPlan format (.array others) policy
                  configurations) := by
  refine ⟨fun record created => ?_, ?_,
    fun issues validated few distinct => ?_⟩
  · obtain ⟨normalizedPolicy, normalizedConfigurations, order, isPolicy,
      supplied, collected, planned⟩ := planned_of_createExtensionPlan created
    have silent : validateExtensions format (.array values) policy
        configurations = .ok [] := by
      rw [validateExtensions_of_supplied isPolicy supplied, collected]
      rfl
    obtain ⟨own, isOwn, whole⟩ := bind_eq_ok.mp collected
    simp only [Except.ok.injEq, List.append_eq_nil_iff] at whole
    obtain ⟨⟨⟨readNone, rfl⟩, relations⟩, -⟩ := whole
    have distinct := (distinct_of_silent isOwn).1
    refine ⟨⟨_, migrated_of_silent readNone, distinct,
      requiredArePresent_of_silent relations, planned.perm distinct,
      planned.preceded distinct⟩, fun others reordered => ?_⟩
    rw [← createExtensionPlan_of_silent reordered silent]
    exact created
  · rintro issues validated ⟨found, member, isCycle⟩
    exact hasDependencyCycle_of_reported validated member isCycle
  · refine ⟨fun normalizedPolicy normalizedConfigurations isPolicy supplied =>
      cycle_reported_iff isPolicy supplied distinct validated few,
      fun others reordered => ⟨?_, ?_⟩⟩
    · exact validateExtensions_perm reordered distinct validated few
    · exact createExtensionPlan_perm reordered distinct validated few

end Format

/-! ## Samples -/

/-- A manifest of an id with required dependencies on a range of others. -/
def sampleManifestOn (range id : String) (dependencies : List String) :
    JsValue :=
  .object
    [(js "manifestVersion", .string (js "1.0")),
      (js "id", .string (js id)),
      (js "version", .string (js "1.2.3")),
      (js "kind", .string (js "validator")),
      (js "capabilities", .array []),
      (js "permissions", .array []),
      (js "trust", .object
        [(js "level", .string (js "verified")),
          (js "provenance", .object
            [(js "publisher", .string (js "selene")),
              (js "source", .string (js "npm:sample"))]),
          (js "integrity", .object
            [(js "sha256", .string (js
                "sha256-AAAAAAAAAAAAAAAAAAAAAAAAAAAAAAAAAAAAAAAAAAA=")),
              (js "source", .string (js "npm:sample"))])]),
      (js "dependencies", .array (dependencies.map fun dependency =>
        .object
          [(js "id", .string (js dependency)),
            (js "range", .string (js range))]))]

/-- No version satisfies a range with a leading zero. -/
def sampleManifest : String → List String → JsValue :=
  sampleManifestOn "01.0.0"

def samplePolicy : JsValue :=
  .object
    [(js "allowedPermissions", .array []),
      (js "minimumTrust", .string (js "verified"))]

/-- The codes of the issues of manifests. -/
def sampleCodes (format : NumberFormat) (values : List JsValue) :
    Option (List ExtensionIssueCode) :=
  (validateExtensions format (.array values) samplePolicy
    (.object [])).toOption.map fun issues => issues.map ExtensionIssue.code

/-- The ids of a plan, in order. -/
def plannedIds (record : PlanRecord) : List JsString :=
  record.plan.extensions.map fun extension => manifestId extension.manifest

/-- Two manifests have the same plan in both orders, the dependency first. -/
theorem sample_plan_canonical :
    let first := sampleManifest "z" []
    let second := sampleManifestOn "^1.2.0" "b" ["z"]
    ∃ record, plannedIds record = [js "z", js "b"] ∧
      createExtensionPlan digitNumerals (.array [second, first]) samplePolicy
            .undefined = .ok record ∧
        createExtensionPlan digitNumerals (.array [first, second]) samplePolicy
            .undefined = .ok record := by
  intro first second
  have accepted :
      (createExtensionPlan digitNumerals (.array [second, first]) samplePolicy
        .undefined).toOption.map plannedIds = some [js "z", js "b"] := by
    decide +kernel
  obtain ⟨record, isRecord, ids⟩ := Option.map_eq_some_iff.mp accepted
  have created : createExtensionPlan digitNumerals (.array [second, first])
      samplePolicy .undefined = .ok record := by
    cases outcome : createExtensionPlan digitNumerals
        (.array [second, first]) samplePolicy .undefined with
    | error failure =>
        rw [outcome] at isRecord
        cases isRecord
    | ok other =>
        rw [outcome] at isRecord
        exact congrArg Except.ok (Option.some.inj isRecord)
  have canonical := (createExtensionPlan_canonical digitNumerals
    [second, first] samplePolicy .undefined).1 record created
  exact ⟨record, ids, created, canonical.2 _ (List.Perm.swap ..)⟩

/--
Of two manifests with one id the later stays: whether the cycle of the first
and a third one is reported depends on their order.
-/
theorem repeated_id_hides_cycle :
    let first := sampleManifest "a" ["b"]
    let second := sampleManifest "a" []
    let third := sampleManifest "b" ["a"]
    [second, third, first].Perm [first, third, second] ∧
      sampleCodes exactNumerals [second, third, first] =
        some [.cycle, .duplicateExtension, .versionMismatch,
          .versionMismatch] ∧
      sampleCodes exactNumerals [first, third, second] =
        some [.duplicateExtension, .versionMismatch, .versionMismatch] := by
  refine ⟨?_, by decide +kernel, by decide +kernel⟩
  exact (List.Perm.cons _ (List.Perm.swap ..)).trans
    ((List.Perm.swap ..).trans (List.Perm.cons _ (List.Perm.swap ..)))

end Selene.Extension
