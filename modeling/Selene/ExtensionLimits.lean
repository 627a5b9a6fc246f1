import Selene.ExtensionPlanCanonical
import Selene.ExtensionRevalidation

/-!
# Limits of an extension request

Validation reports what is wrong with an extension request, and a plan is made or
refused with issues.  Two values are measured only after everything else was
checked: a merged configuration, which may have more keys than the defaults and
the supplied values each, and the plan, which holds everything at once.  Too
large, they throw a plain `TypeError`; nothing else does
(`validation_reports_iff`).
-/

namespace Selene.Extension

open Js Generation

/-! ## Parts of a snapshot -/

theorem Snapshotable.of_subset
    {record fields : Record}
    (snapshotable : Snapshotable (.object record))
    (distinct : fields.keys.Nodup)
    (entries : fields ⊆ record) :
    Snapshotable (.object fields) := by
  obtain ⟨admissible, fits⟩ := snapshotable
  have fewer : fields.Subperm record :=
    List.subperm_of_subset (List.Nodup.of_map Prod.fst distinct) entries
  obtain ⟨chosen, same, isSublist⟩ := fewer
  rw [Admissible, admissibleEntries_iff] at admissible
  refine ⟨?_, fits.within ?_⟩
  · rw [Admissible, admissibleEntries_iff]
    exact ⟨admissible.1,
      (same.length_eq ▸ isSublist.length_le).trans admissible.2.1,
      fun entry member => admissible.2.2 entry (entries member)⟩
  · rw [cost, cost, ← costEntries_perm same]
    refine SnapshotTotals.Within.add ⟨le_rfl, le_rfl, le_rfl⟩ ?_
    clear same admissible fits entries
    induction isSublist with
    | slnil => exact ⟨le_rfl, le_rfl, le_rfl⟩
    | cons entry _ inductionHypothesis =>
        exact inductionHypothesis.trans (SnapshotTotals.within_add_left _ _)
    | cons_cons entry _ inductionHypothesis =>
        exact SnapshotTotals.Within.add ⟨le_rfl, le_rfl, le_rfl⟩
          inductionHypothesis

section Format

variable {format : NumberFormat} {configurations manifest : Record}

theorem entry_of_get
    {record : Record}
    {name : JsString}
    {value : JsValue}
    (reads : record.get name = value)
    (isThere : value ≠ .undefined) :
    (name, value) ∈ record := by
  have member : name ∈ record.keys := by
    by_contra absent
    exact isThere (reads.symm.trans (Record.get_of_not_mem absent))
  exact reads ▸ Record.mem_of_get member

theorem policy_subset
    {record : Record}
    {policy : ExtensionPolicy}
    (allowed : asStringArray (record.get (js "allowedPermissions")) =
      some policy.allowedPermissions)
    (trust : record.get (js "minimumTrust") = .string policy.minimumTrust)
    (publishers : normalizePolicy.normalizePublishers format
      (record.get (js "requiredPublishers")) = some policy.requiredPublishers)
    (flag : normalizePolicy.normalizeFlag
      (record.get (js "requireIntegrity")) = some policy.requireIntegrity) :
    ∃ fields, policy.toJs = .object fields ∧ (Record.keys fields).Nodup ∧
      fields ⊆ record := by
  refine ⟨_, rfl, ?_, ?_⟩
  · have names : [js "allowedPermissions", js "minimumTrust",
        js "requiredPublishers", js "requireIntegrity"].Nodup := by
      decide
    refine names.sublist ?_
    have optional (name : JsString) (value : Option JsValue) :
        (Record.optionalEntry name value).keys.Sublist [name] := by
      cases value with
      | none => exact List.nil_sublist _
      | some _ => exact List.Sublist.refl _
    rw [Record.keys_append, Record.keys_append]
    exact @List.Sublist.append _ _ _ _ [js "requireIntegrity"]
      (@List.Sublist.append _ [_, _] [_, _] _ [js "requiredPublishers"]
        (.refl _) (optional _ _)) (optional _ _)
  · simp only [List.append_subset, List.cons_subset, List.nil_subset, and_true]
    refine ⟨⟨⟨?_, entry_of_get trust (by simp)⟩, ?_⟩, ?_⟩
    · exact entry_of_get (asStringArray_eq_some allowed).1 (by simp)
    · cases isSome : policy.requiredPublishers with
      | none => exact List.nil_subset _
      | some items =>
          rw [isSome] at publishers
          have same : record.get (js "requiredPublishers") = .array items := by
            revert publishers
            generalize record.get (js "requiredPublishers") = value
            intro publishers
            unfold normalizePolicy.normalizePublishers at publishers
            split at publishers
            · cases publishers
            · obtain ⟨others, areTexts, valid⟩ :=
                Option.bind_eq_some_iff.mp publishers
              rw [(asStringArray_eq_some areTexts).1]
              split at valid
              · cases valid
                rfl
              · cases valid
          exact List.cons_subset.mpr
            ⟨entry_of_get same (by simp), List.nil_subset _⟩
    · cases isSome : policy.requireIntegrity with
      | none => exact List.nil_subset _
      | some value =>
          rw [isSome] at flag
          have same : record.get (js "requireIntegrity") = .bool value := by
            revert flag
            generalize record.get (js "requireIntegrity") = value
            intro flag
            unfold normalizePolicy.normalizeFlag at flag
            split at flag
            · cases flag
            · cases flag
              rfl
            · cases flag
          exact List.cons_subset.mpr
            ⟨entry_of_get same (by simp), List.nil_subset _⟩

theorem normalizePolicy_total (value : JsValue) :
    ∃ outcome, normalizePolicy format value = .ok outcome := by
  rw [normalizePolicy]
  dsimp only
  split
  · exact ⟨_, rfl⟩
  · rename_i record taken
    split
    · rename_i allowed trust publishers flag hasAllowed hasTrust hasPublishers
        hasFlag
      split
      · obtain ⟨snapshotable, same⟩ := snapshotData_eq_ok.mp taken
        have copied : Snapshotable (.object record) :=
          (snapshotData_eq_ok.mp
            (same ▸ snapshotData_canonical snapshotable)).1
        obtain ⟨fields, isObject, distinct, entries⟩ :=
          @policy_subset format record ⟨allowed, trust, publishers, flag⟩
            hasAllowed hasTrust hasPublishers hasFlag
        have fits := copied.of_subset distinct entries
        rw [← isObject] at fits
        have snapped := snapshotData_eq_ok.mpr ⟨fits, rfl⟩
        exact ⟨_, by rw [snap_eq_ok.mpr snapped]; rfl⟩
      · exact ⟨_, rfl⟩
    · exact ⟨_, rfl⟩
  · exact ⟨_, rfl⟩

/-! ## Merged configurations -/

/-- What the host supplies for a manifest, which may be nothing. -/
def suppliedFor (configurations manifest : Record) : Option Record :=
  match configurations.get (manifestId manifest) with
  | .undefined => some []
  | .object supplied => some supplied
  | _ => none

/-- The configuration that a manifest is given, about which nothing is wrong. -/
def MergesTo (format : NumberFormat) (configurations manifest merged : Record) :
    Prop :=
  ∃ supplied, suppliedFor configurations manifest = some supplied ∧
    merged = mergedEntries manifest supplied ∧
    configurationError format manifest merged = none

theorem result_of_mem_mapM
    {α β : Type}
    {read : α → Option β}
    {items : List α}
    {results : List β}
    (each : items.mapM read = some results)
    {item : α}
    (member : item ∈ items) :
    ∃ result ∈ results, read item = some result := by
  induction items generalizing results with
  | nil => cases member
  | cons first rest inductionHypothesis =>
      simp only [List.mapM_cons, Option.bind_eq_bind, Option.bind_eq_some_iff,
        Option.pure_def, Option.some.injEq] at each
      obtain ⟨result, isResult, others, areOthers, rfl⟩ := each
      rcases List.mem_cons.mp member with rfl | later
      · exact ⟨result, List.mem_cons_self, isResult⟩
      · obtain ⟨other, listed, isOther⟩ := inductionHypothesis areOthers later
        exact ⟨other, List.mem_cons_of_mem _ listed, isOther⟩

theorem validConfiguration_of_shape
    (shape : validateManifestShape format manifest = some []) :
    (!IsUndefined (manifest.get (js "configuration")) &&
      !hasValidExtensionConfiguration
        (manifest.get (js "configuration"))) = false := by
  obtain ⟨found, each, none⟩ := Option.map_eq_some_iff.mp shape
  have listed : (some (!IsUndefined (manifest.get (js "configuration")) &&
        !hasValidExtensionConfiguration (manifest.get (js "configuration"))),
      manifestIssue format manifest .invalidManifest
        "configuration schema is invalid") ∈ shapeTests format manifest := by
    simp [shapeTests]
  obtain ⟨result, isResult, flagged⟩ := result_of_mem_mapM each listed
  rw [List.flatten_eq_nil_iff.mp none result isResult] at flagged
  generalize (!IsUndefined (manifest.get (js "configuration")) &&
    !hasValidExtensionConfiguration
      (manifest.get (js "configuration"))) = invalid at flagged
  cases invalid with
  | false => rfl
  | true => cases flagged

theorem suppliedConfiguration_of_some
    {supplied : Record}
    (isSupplied : suppliedFor configurations manifest = some supplied) :
    suppliedConfiguration format configurations manifest =
      mergeConfiguration format manifest supplied := by
  revert isSupplied
  unfold suppliedFor suppliedConfiguration
  cases configurations.get (manifestId manifest) with
  | undefined =>
      rintro ⟨⟩
      rfl
  | object entries =>
      rintro ⟨⟩
      rfl
  | _ => nofun

theorem suppliedConfiguration_of_none
    (notSupplied : suppliedFor configurations manifest = none) :
    ∃ found, suppliedConfiguration format configurations manifest =
      .ok (.error found) := by
  revert notSupplied
  unfold suppliedFor suppliedConfiguration
  cases configurations.get (manifestId manifest) with
  | undefined => nofun
  | object entries => nofun
  | _ => exact fun _ => ⟨_, rfl⟩

theorem suppliedConfiguration_ok_iff
    (shape : validateManifestShape format manifest = some []) :
    (∃ outcome, suppliedConfiguration format configurations manifest =
        .ok outcome) ↔
      ∀ merged, MergesTo format configurations manifest merged →
        Snapshotable (.object merged) := by
  have valid := validConfiguration_of_shape shape
  cases isSupplied : suppliedFor configurations manifest with
  | none =>
      obtain ⟨found, reported⟩ :=
        @suppliedConfiguration_of_none format _ _ isSupplied
      simp [MergesTo, isSupplied, reported]
  | some supplied =>
      rw [suppliedConfiguration_of_some isSupplied, mergeConfiguration]
      simp only [valid, Bool.false_eq_true, if_false, MergesTo, isSupplied,
        Option.some.injEq, exists_eq_left', and_imp, forall_eq]
      cases configurationError format manifest
          (mergedEntries manifest supplied) with
      | some message => simp
      | none =>
          simp only [true_implies]
          constructor
          · rintro ⟨outcome, merged⟩
            obtain ⟨copy, taken, -⟩ := bind_eq_ok.mp merged
            exact (snapshotData_eq_ok.mp (snap_eq_ok.mp taken)).1
          · intro fits
            have taken := snapshotData_eq_ok.mpr ⟨fits, rfl⟩
            exact ⟨_, by rw [snap_eq_ok.mpr taken]; rfl⟩

/-! ## Validation -/

variable {policy : ExtensionPolicy} {manifests : List Record}

theorem ownIssues_ok_iff
    (shape : validateManifestShape format manifest = some []) :
    (∃ own, ownIssues format policy configurations manifest = .ok own) ↔
      ∀ merged, MergesTo format configurations manifest merged →
        Snapshotable (.object merged) := by
  rw [← suppliedConfiguration_ok_iff shape, ownIssues, shape]
  cases suppliedConfiguration format configurations manifest with
  | ok outcome => simp [orThrow]
  | error failure => simp [orThrow]

theorem manifestIssues_ok_iff
    {seen : List JsString} :
    (∃ issues, manifestIssues format policy configurations seen manifests =
        .ok issues) ↔
      ∀ manifest ∈ manifests,
        ∃ own, ownIssues format policy configurations manifest = .ok own := by
  induction manifests generalizing seen with
  | nil => simp [manifestIssues]
  | cons manifest rest inductionHypothesis =>
      rw [List.forall_mem_cons,
        ← @inductionHypothesis (manifestId manifest :: seen), manifestIssues]
      cases ownIssues format policy configurations manifest with
      | error failure => simp
      | ok own =>
          cases manifestIssues format policy configurations
              (manifestId manifest :: seen) rest with
          | error failure => simp
          | ok others => simp

/-- The merged configurations of all manifests fit. -/
def ConfigurationsFit (format : NumberFormat) (configurations : Record)
    (manifests : List Record) : Prop :=
  ∀ manifest ∈ manifests, ∀ merged,
    MergesTo format configurations manifest merged →
      Snapshotable (.object merged)

variable {values policyValue configurationValues : JsValue}

theorem shape_of_normalized
    (member : manifest ∈ (normalizeManifests format values).manifests) :
    validateManifestShape format manifest = some [] := by
  obtain ⟨value, migrated⟩ := mem_normalizeManifests member
  exact (migrateExtensionManifest_migrated migrated).2

theorem collectedIssues_ok_iff :
    (∃ issues, collectedIssues format policy configurations
        (normalizeManifests format values) = .ok issues) ↔
      ConfigurationsFit format configurations
        (normalizeManifests format values).manifests := by
  have each : ∀ manifest ∈ (normalizeManifests format values).manifests,
      (∃ own, ownIssues format policy configurations manifest = .ok own) ↔
        ∀ merged, MergesTo format configurations manifest merged →
          Snapshotable (.object merged) :=
    fun manifest member => ownIssues_ok_iff (shape_of_normalized member)
  rw [ConfigurationsFit, ← forall₂_congr each,
    ← @manifestIssues_ok_iff format configurations policy _ [], collectedIssues]
  cases manifestIssues format policy configurations []
      (normalizeManifests format values).manifests with
  | error failure => simp
  | ok own => simp

theorem validateExtensions_ok_iff :
    (∃ issues, validateExtensions format values policyValue
        configurationValues = .ok issues) ↔
      ∀ policy configurations,
        normalizePolicy format policyValue = .ok (.ok policy) →
        normalizeConfigurations configurationValues = some configurations →
        ConfigurationsFit format configurations
          (normalizeManifests format values).manifests := by
  obtain ⟨outcome, normalized⟩ := @normalizePolicy_total format policyValue
  cases outcome with
  | error found =>
      refine ⟨fun _ policy _ isPolicy => ?_, fun _ => ?_⟩
      · rw [normalized] at isPolicy
        cases isPolicy
      · exact ⟨_, by rw [validateExtensions, normalized]; rfl⟩
  | ok policy =>
      cases supplied : normalizeConfigurations configurationValues with
      | none =>
          refine ⟨fun _ _ _ _ isSome => ?_, fun _ => ?_⟩
          · cases isSome
          · exact ⟨_, validateExtensions_of_refused normalized supplied⟩
      | some configurations =>
          rw [validateExtensions_of_supplied normalized supplied]
          constructor
          · rintro ⟨issues, validated⟩ other others isPolicy isSome
            cases isSome
            refine (@collectedIssues_ok_iff format _ policy values).mp ?_
            cases collected : collectedIssues format policy configurations
                (normalizeManifests format values) with
            | error failure =>
                rw [collected] at validated
                cases validated
            | ok found => exact ⟨found, rfl⟩
          · intro fits
            obtain ⟨issues, collected⟩ := collectedIssues_ok_iff.mpr
              (fits policy configurations normalized rfl)
            exact ⟨_, by rw [collected]; rfl⟩

/-! ## Plans -/

/-- A manifest with its merged configuration. -/
def plannedExtension (configurations manifest : Record) : ResolvedExtension where
  manifest
  configuration := (canonical (.object (mergedEntries manifest
    ((suppliedFor configurations manifest).getD [])))).entries

/-- The manifests as a plan would hold them, in the order given. -/
def plannedOf (format : NumberFormat) (configurations : Record)
    (manifests : List Record) : ExtensionPlan :=
  let extensions := manifests.map (plannedExtension configurations)
  { extensions, lifecycle := extensions.flatMap (lifecycleOf format) }

/-- Nothing is wrong with the manifests under a policy. -/
structure Faultless (format : NumberFormat) (policy : ExtensionPolicy)
    (configurations : Record) (normalized : NormalizedManifests) : Prop where
  read : normalized.issues = []
  distinct : (normalized.manifests.map manifestId).Nodup
  trusted : ∀ manifest ∈ normalized.manifests,
    trustIssues format policy manifest = [] ∧
      permissionIssues format policy manifest = []
  configured : ∀ manifest ∈ normalized.manifests,
    ∃ merged, MergesTo format configurations manifest merged
  related : ∀ manifest ∈ normalized.manifests,
    relationIssues format (byId normalized.manifests) manifest = []
  acyclic : ¬ HasDependencyCycle normalized.manifests

theorem resolved_eq_planned
    {configuration : Record}
    (resolved : suppliedConfiguration format configurations manifest =
      .ok (.ok configuration)) :
    plannedExtension configurations manifest = ⟨manifest, configuration⟩ ∧
      ∃ merged, MergesTo format configurations manifest merged := by
  cases isSupplied : suppliedFor configurations manifest with
  | none =>
      obtain ⟨found, reported⟩ :=
        @suppliedConfiguration_of_none format _ _ isSupplied
      rw [reported] at resolved
      cases resolved
  | some supplied =>
      rw [suppliedConfiguration_of_some isSupplied] at resolved
      obtain ⟨-, noError, taken⟩ := mergeConfiguration_eq_ok.mp resolved
      refine ⟨?_, _, supplied, isSupplied, rfl, noError⟩
      rw [plannedExtension, isSupplied, Option.getD_some,
        ← (snapshotData_eq_ok.mp taken).2]
      rfl

theorem resolved_of_mergesTo
    (shape : validateManifestShape format manifest = some [])
    {merged : Record}
    (merges : MergesTo format configurations manifest merged)
    (fits : Snapshotable (.object merged)) :
    suppliedConfiguration format configurations manifest =
      .ok (.ok (plannedExtension configurations manifest).configuration) := by
  obtain ⟨supplied, isSupplied, rfl, noError⟩ := merges
  rw [suppliedConfiguration_of_some isSupplied]
  refine mergeConfiguration_eq_ok.mpr ⟨?_, noError, ?_⟩
  · have valid := validConfiguration_of_shape shape
    cases isUndefined :
        decide (IsUndefined (manifest.get (js "configuration"))) with
    | true => exact Or.inl (of_decide_eq_true isUndefined)
    | false => exact Or.inr (by simpa [isUndefined] using valid)
  · refine snapshotData_eq_ok.mpr ⟨fits, ?_⟩
    rw [plannedExtension, isSupplied, Option.getD_some]
    rfl

theorem ownIssues_silent_iff
    (shape : validateManifestShape format manifest = some [])
    (fits : ∀ merged, MergesTo format configurations manifest merged →
      Snapshotable (.object merged)) :
    ownIssues format policy configurations manifest = .ok [] ↔
      (trustIssues format policy manifest = [] ∧
        permissionIssues format policy manifest = []) ∧
      ∃ merged, MergesTo format configurations manifest merged := by
  rw [ownIssues, shape]
  constructor
  · intro silent
    obtain ⟨_, ⟨⟩, rest⟩ := bind_eq_ok.mp silent
    obtain ⟨outcome, resolved, none⟩ := bind_eq_ok.mp rest
    have parts := Except.ok.inj none
    cases outcome with
    | error found => simp at parts
    | ok configuration =>
        simp only [List.append_eq_nil_iff] at parts
        exact ⟨⟨parts.1.1.2, parts.1.2⟩, (resolved_eq_planned resolved).2⟩
  · rintro ⟨⟨trusted, permitted⟩, merged, merges⟩
    rw [resolved_of_mergesTo shape merges (fits merged merges), trusted,
      permitted]
    rfl

theorem manifestIssues_silent_iff :
    manifestIssues format policy configurations [] manifests = .ok [] ↔
      (manifests.map manifestId).Nodup ∧
        ∀ manifest ∈ manifests,
          ownIssues format policy configurations manifest = .ok [] := by
  constructor
  · intro silent
    have distinct := (distinct_of_silent silent).1
    rw [manifestIssues_of_distinct distinct fun _ _ => List.not_mem_nil]
      at silent
    refine ⟨distinct, fun manifest member => ?_⟩
    cases collected : manifests.mapM
        (ownIssues format policy configurations) with
    | error failure =>
        rw [collected] at silent
        cases silent
    | ok results =>
        rw [collected] at silent
        have none := List.flatten_eq_nil_iff.mp (Except.ok.inj silent)
        obtain ⟨result, isResult, own⟩ :=
          exists_of_forall₂ (mapM_eq_ok.mp collected) member
        rw [own, none result isResult]
  · rintro ⟨distinct, each⟩
    have collected : manifests.mapM
        (ownIssues format policy configurations) =
          .ok (manifests.map fun _ => []) := by
      rw [mapM_eq_ok, List.forall₂_map_right_iff]
      exact List.forall₂_same.mpr each
    rw [manifestIssues_of_distinct distinct fun _ _ => List.not_mem_nil,
      collected]
    simp [Except.map]

theorem collectedIssues_silent_iff
    (fits : ConfigurationsFit format configurations
      (normalizeManifests format values).manifests) :
    collectedIssues format policy configurations
        (normalizeManifests format values) = .ok [] ↔
      Faultless format policy configurations
        (normalizeManifests format values) := by
  have own : ∀ manifest ∈ (normalizeManifests format values).manifests,
      ownIssues format policy configurations manifest = .ok [] ↔ _ :=
    fun manifest member => ownIssues_silent_iff (shape_of_normalized member)
      (fits manifest member)
  have cycles (distinct : ((normalizeManifests format values).manifests.map
      manifestId).Nodup) :
      cycleIssues format (byId (normalizeManifests format values).manifests) =
          [] ↔
        ¬ HasDependencyCycle (normalizeManifests format values).manifests := by
    rw [← @topologicalOrder_fails_iff format _ distinct, cycleIssues]
    cases topologicalOrder format
      (byId (normalizeManifests format values).manifests) <;> simp
  rw [collectedIssues]
  constructor
  · intro silent
    obtain ⟨found, isFound, whole⟩ := bind_eq_ok.mp silent
    simp only [Except.ok.injEq, List.append_eq_nil_iff] at whole
    obtain ⟨⟨⟨read, rfl⟩, related⟩, acyclic⟩ := whole
    obtain ⟨distinct, each⟩ := manifestIssues_silent_iff.mp isFound
    exact ⟨read, distinct,
      fun manifest member => ((own manifest member).mp (each _ member)).1,
      fun manifest member => ((own manifest member).mp (each _ member)).2,
      List.flatMap_eq_nil_iff.mp related, (cycles distinct).mp acyclic⟩
  · intro faultless
    have silent := manifestIssues_silent_iff.mpr ⟨faultless.distinct,
      fun manifest member => (own manifest member).mpr
        ⟨faultless.trusted manifest member,
          faultless.configured manifest member⟩⟩
    rw [silent, ok_bind, faultless.read,
      List.flatMap_eq_nil_iff.mpr faultless.related,
      (cycles faultless.distinct).mpr faultless.acyclic]
    rfl

/-! ## The size of a plan -/

theorem snapshotable_plan_perm
    {extensions others : List ResolvedExtension}
    (reordered : extensions.Perm others)
    (fits : Snapshotable (ExtensionPlan.toJs
      { extensions, lifecycle := extensions.flatMap (lifecycleOf format) })) :
    Snapshotable (ExtensionPlan.toJs
      { extensions := others
        lifecycle := others.flatMap (lifecycleOf format) }) := by
  have array {items moved : List JsValue} (same : items.Perm moved) (depth) :
      (Admissible (.array items) depth ↔ Admissible (.array moved) depth) ∧
        cost (.array items) = cost (.array moved) := by
    refine ⟨?_, by rw [cost, cost, costItems_perm same]⟩
    rw [Admissible, Admissible, same.length_eq, admissibleItems_iff,
      admissibleItems_iff]
    simp only [same.mem_iff]
  have listed := array (reordered.map ResolvedExtension.toJs)
  have events := array (reordered.flatMap_right (lifecycleOf format))
  obtain ⟨admissible, total⟩ := fits
  constructor
  · rw [ExtensionPlan.toJs, Admissible] at admissible ⊢
    simp only [AdmissibleEntries] at admissible ⊢
    rw [← (listed _).1, ← (events _).1]
    exact admissible
  · rw [ExtensionPlan.toJs, cost] at total ⊢
    simp only [costEntries] at total ⊢
    rw [← (listed 0).2, ← (events 0).2]
    exact total

/-- A call ends with a result or with issues, at least one. -/
def Reports {α : Type} : Except ExtensionFailure α → Prop
  | .ok _ => True
  | .error (.validation issues) => issues ≠ []
  | .error _ => False

theorem reports_issuedError {α : Type} (issues : List ExtensionIssue) :
    Reports (.error (issuedError format issues) :
      Except ExtensionFailure α) :=
  normalizeErrorIssues_ne_nil issues

section

variable (fits : ConfigurationsFit format configurations
    (normalizeManifests format values).manifests)
  (faultless : Faultless format policy configurations
    (normalizeManifests format values))

include fits faultless

/-- Faultless manifests are resolved, in an order of their own. -/
theorem planExtensions_of_faultless :
    ∃ extensions,
      extensions.Perm ((normalizeManifests format values).manifests.map
        (plannedExtension configurations)) ∧
      ∃ order,
        topologicalOrder format
            (byId (normalizeManifests format values).manifests) = .ok order ∧
          order.mapM (resolveExtension format configurations
            (byId (normalizeManifests format values).manifests)) =
              .ok extensions := by
  have distinct := faultless.distinct
  have shapes := fun manifest => @shape_of_normalized format manifest values
  have configured := faultless.configured
  have acyclic := faultless.acyclic
  generalize (normalizeManifests format values).manifests = manifests at *
  obtain ⟨order, ordered⟩ : ∃ order,
      topologicalOrder format (byId manifests) = .ok order := by
    cases ordered : topologicalOrder format (byId manifests) with
    | ok order => exact ⟨order, rfl⟩
    | error found =>
        exact absurd ((topologicalOrder_fails_iff distinct).mp ⟨_, ordered⟩)
          acyclic
  obtain ⟨orderDistinct, members, -⟩ := topologicalOrder_spec ordered
  have orderPerm : order.Perm (manifests.map manifestId) := by
    refine (List.perm_ext_iff_of_nodup orderDistinct distinct).mpr fun id => ?_
    rw [members, Table.has_eq_true_iff, rows_byId distinct, List.mem_map]
  let found (id : JsString) : Record := ((byId manifests).find? id).getD []
  have isFound : ∀ manifest ∈ manifests, found (manifestId manifest) = manifest :=
    fun manifest member => by
      simp only [found, (find?_byId distinct).mpr ⟨member, rfl⟩,
        Option.getD_some]
  have foundAll : (manifests.map manifestId).map found = manifests := by
    rw [List.map_map]
    exact (List.map_congr_left isFound).trans (List.map_id _)
  refine ⟨order.map fun id => plannedExtension configurations (found id), ?_,
    order, ordered, ?_⟩
  · have listed := (orderPerm.map found).map (plannedExtension configurations)
    rw [foundAll, List.map_map] at listed
    exact listed
  · rw [mapM_eq_ok, List.forall₂_map_right_iff]
    refine List.forall₂_same.mpr fun id member => ?_
    obtain ⟨manifest, known, rfl⟩ := List.mem_map.mp (orderPerm.mem_iff.mp member)
    obtain ⟨merged, merges⟩ := configured manifest known
    have resolved := resolved_of_mergesTo (shapes manifest known) merges
      (fits manifest known merged merges)
    rw [resolveExtension_eq_ok, isFound manifest known]
    refine ⟨(find?_byId distinct).mpr ⟨known, rfl⟩, ?_⟩
    exact resolved

/-- A plan of faultless manifests reports its end unless it is too large. -/
theorem planExtensions_reports_iff :
    let planned := plannedOf format configurations
      (normalizeManifests format values).manifests
    Reports (planExtensions format policy configurations
        (normalizeManifests format values).manifests) ↔
      (planned.lifecycle.length ≤ maxExtensionLifecycleEvents →
        Snapshotable planned.toJs) := by
  intro planned
  obtain ⟨extensions, same, order, ordered, resolved⟩ :=
    planExtensions_of_faultless fits faultless
  have events := same.flatMap_right (lifecycleOf format)
  have size : Snapshotable planned.toJs ↔ Snapshotable (ExtensionPlan.toJs
      { extensions, lifecycle := extensions.flatMap (lifecycleOf format) }) :=
    ⟨snapshotable_plan_perm same.symm, snapshotable_plan_perm same⟩
  rw [planExtensions, ordered]
  dsimp only
  rw [resolved, ok_bind, size, show planned.lifecycle.length = _ from
    events.length_eq.symm]
  split
  · rename_i many
    exact iff_of_true (reports_issuedError _) fun few =>
      absurd many (Nat.not_lt.mpr few)
  · rename_i few
    rw [imp_iff_right (Nat.le_of_not_lt few)]
    cases taken : snap (ExtensionPlan.toJs
        { extensions, lifecycle := extensions.flatMap (lifecycleOf format) }) with
    | ok copy =>
        exact iff_of_true trivial (snapshotData_eq_ok.mp (snap_eq_ok.mp taken)).1
    | error failure =>
        obtain ⟨message, rfl⟩ := snap_eq_error taken
        refine iff_of_false id fun snapshotable => ?_
        have snapped := snap_eq_ok.mpr (snapshotData_eq_ok.mpr
          ⟨snapshotable, rfl⟩)
        rw [taken] at snapped
        cases snapped

end

/--
What is measured last is within the limits: every merged configuration and, when
nothing else is wrong, the plan.
-/
def WithinLimits (format : NumberFormat)
    (manifests policy configurations : JsValue) : Prop :=
  let normalized := normalizeManifests format manifests
  ∀ normalizedPolicy normalizedConfigurations,
    normalizePolicy format policy = .ok (.ok normalizedPolicy) →
    normalizeConfigurations configurations = some normalizedConfigurations →
      ConfigurationsFit format normalizedConfigurations normalized.manifests ∧
        (Faultless format normalizedPolicy normalizedConfigurations normalized →
          let planned :=
            plannedOf format normalizedConfigurations normalized.manifests
          planned.lifecycle.length ≤ maxExtensionLifecycleEvents →
            Snapshotable planned.toJs)

/--
Validation returns issues, and a plan is made or refused with issues, exactly if
every merged configuration and the plan are within the limits of a snapshot.
-/
theorem validation_reports_iff
    (format : NumberFormat)
    (manifests policy configurations : JsValue) :
    ((∃ issues, validateExtensions format manifests policy configurations =
        .ok issues) ∧
      Reports (createExtensionPlan format manifests policy configurations)) ↔
      WithinLimits format manifests policy configurations := by
  have validated := @validateExtensions_ok_iff format manifests policy
    configurations
  unfold WithinLimits
  simp only [forall_and, ← validated]
  refine and_congr_right fun ⟨issues, isValid⟩ => ?_
  have fits := validated.mp ⟨issues, isValid⟩
  rw [createExtensionPlan, isValid, ok_bind]
  by_cases silent : issues = []
  · subst silent
    obtain ⟨normalizedPolicy, normalizedConfigurations, isPolicy, supplied,
      collected⟩ := collected_of_silent isValid
    have within := fits _ _ isPolicy supplied
    have faultless := (collectedIssues_silent_iff within).mp collected
    simp only [ne_eq, not_true_eq_false, if_false, isPolicy, ok_bind,
      faultless.read, supplied, Except.ok.injEq, Option.some.injEq]
    refine (planExtensions_reports_iff within faultless).trans
      ⟨?_, fun all => all _ _ rfl rfl faultless⟩
    rintro size _ _ rfl rfl -
    exact size
  · rw [if_pos silent]
    refine iff_of_true (reports_issuedError _) ?_
    intro normalizedPolicy normalizedConfigurations isPolicy supplied faultless
    have collected := (collectedIssues_silent_iff
      (fits _ _ isPolicy supplied)).mpr faultless
    rw [validateExtensions_of_supplied isPolicy supplied, collected] at isValid
    exact absurd (Except.ok.inj isValid).symm silent

end Format

/-! ## A merged configuration that is too large -/

/-- As many properties as asked for, under numbered names. -/
def numberedEntries (start : String) (count : Nat) : Record :=
  (List.range count).map fun index =>
    (js start ++ decimalDigits index, .null)

/-- A manifest with as many defaults, which takes any other property. -/
def manifestOfDefaults (count : Nat) : JsValue :=
  match sampleManifest "a" [] with
  | .object fields =>
      .object (fields ++ [(js "configuration", .object
        [(js "defaults", .object (numberedEntries "d" count)),
          (js "additionalProperties", .bool true)])])
  | other => other

/-- The defaults and what is supplied fit each, and are too many together. -/
theorem overfull_configuration_throws :
    ¬ ∃ issues, validateExtensions exactNumerals
      (.array [manifestOfDefaults 65]) samplePolicy
      (.object [(js "a", .object (numberedEntries "s" 64))]) = .ok issues := by
  have throws : (validateExtensions exactNumerals
      (.array [manifestOfDefaults 65]) samplePolicy
      (.object [(js "a", .object (numberedEntries "s" 64))])).toOption.isSome =
        false := by
    decide +kernel
  rintro ⟨issues, reported⟩
  rw [reported] at throws
  cases throws

end Selene.Extension
