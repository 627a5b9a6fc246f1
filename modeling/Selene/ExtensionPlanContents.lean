import Selene.ExtensionOrder

/-!
# What a created plan holds

A manifest that was migrated and a configuration that was merged are snapshots,
so the snapshot of a plan changes nothing in them: a created plan holds the
manifests and configurations that it was made from (`planExtensions_eq_ok`).
-/

namespace Selene.Extension

open Js Generation

/-- A record that a snapshot leaves as it is. -/
structure IsCopy (record : Record) : Prop where
  snapshotable : Snapshotable (.object record)
  same : canonical (.object record) = .object record

namespace IsCopy

theorem of_snapshot
    {value : JsValue}
    {record : Record}
    (taken : snapshotData value = .ok (.object record)) :
    IsCopy record := by
  obtain ⟨⟨admissible, fits⟩, same⟩ := snapshotData_eq_ok.mp taken
  refine ⟨⟨?_, ?_⟩, ?_⟩
  · rw [same]
    exact admissible_canonical.mpr admissible
  · rw [same, cost_canonical]
    exact fits
  · rw [same, canonical_canonical]

theorem snapshot
    {record : Record}
    (copy : IsCopy record) :
    snapshotData (.object record) = .ok (.object record) :=
  snapshotData_eq_ok.mpr ⟨copy.snapshotable, copy.same.symm⟩

end IsCopy

theorem entries_of_snapshot
    {entries : Record}
    {copy : JsValue}
    (taken : snapshotData (.object entries) = .ok copy) :
    copy = .object copy.entries := by
  obtain ⟨-, rfl⟩ := snapshotData_eq_ok.mp taken
  rfl

theorem snap_eq_ok
    {value copy : JsValue} :
    snap value = .ok copy ↔ snapshotData value = .ok copy := by
  rw [snap]
  cases snapshotData value with
  | ok taken => simp
  | error message => simp

theorem snap_eq_error
    {value : JsValue}
    {failure : ExtensionFailure}
    (failed : snap value = .error failure) :
    ∃ message, failure = .typeError message := by
  rw [snap] at failed
  split at failed
  · cases failed
  · cases failed
    exact ⟨_, rfl⟩

section Format

variable {format : NumberFormat}

/-! ## Migrated manifests -/

/-- How reading a manifest ends without a manifest. -/
inductive NotManifest :
    Except ExtensionFailure (OrIssue Record) → Prop where
  | issue {found : ExtensionIssue} :
      found.code ≠ .cycle → NotManifest (.ok (.error found))
  | typeError (message : String) :
      NotManifest (.error (.typeError message))
  | engineError : NotManifest (.error .engineError)

theorem snapped_cases (value : JsValue) :
    (∃ source,
      (do
        let manifest ← snap value
        .ok (.ok manifest.entries) :
        Except ExtensionFailure (OrIssue Record)) = .ok (.ok source)) ∨
      NotManifest (do
        let manifest ← snap value
        .ok (.ok manifest.entries)) := by
  cases taken : snap value with
  | ok copy => exact Or.inl ⟨_, rfl⟩
  | error failure =>
      obtain ⟨message, rfl⟩ := snap_eq_error taken
      exact Or.inr (.typeError message)

theorem asManifest_cases (value : JsValue) :
    (∃ source, asManifest format value = .ok (.ok source)) ∨
      NotManifest (asManifest format value) := by
  have refused : ∀ ids message,
      NotManifest (.ok (.error
        (issue format .invalidManifest ids message))) :=
    fun ids message => .issue (by simp [issue])
  rw [asManifest]
  cases snapshotData value with
  | error message => exact Or.inr (refused _ _)
  | ok copy =>
      cases copy with
      | object data =>
          dsimp only
          generalize (if IsText (Record.get data (js "manifestVersion"))
              (js "0.9") then Record.get data (js "type")
            else Record.get data (js "kind")) = kind
          cases Record.get data (js "id") with
          | string id =>
              dsimp only
              split
              · split
                · split
                  · exact snapped_cases _
                  · exact Or.inr (refused _ _)
                · exact Or.inr (refused _ _)
              · cases JsValue.toText? format
                    (Record.get data (js "manifestVersion")) with
                | some text => exact Or.inr (.issue (by simp [issue]))
                | none => exact Or.inr .engineError
          | _ => exact Or.inr (refused _ _)
      | _ => exact Or.inr (refused _ _)

variable {manifest : Record}

theorem migrateExtensionManifest_eq_ok
    {value : JsValue} :
    migrateExtensionManifest format value = .ok manifest ↔
      ∃ source, asManifest format value = .ok (.ok source) ∧
        validateManifestShape format source = some [] ∧
        snapshotData (.object (source.erase (js "type"))) =
          .ok (.object manifest) := by
  rw [migrateExtensionManifest, bind_eq_ok]
  constructor
  · rintro ⟨outcome, read, migrated⟩
    cases outcome with
    | error found => cases migrated
    | ok source =>
        refine ⟨source, read, ?_⟩
        dsimp only at migrated
        cases shape : validateManifestShape format source with
        | none =>
            rw [shape] at migrated
            cases migrated
        | some issues =>
            rw [shape] at migrated
            cases issues with
            | cons first rest => cases migrated
            | nil =>
                refine ⟨rfl, ?_⟩
                cases taken :
                    snapshotData (.object (source.erase (js "type"))) with
                | error message =>
                    rw [taken] at migrated
                    cases migrated
                | ok copy =>
                    rw [taken] at migrated
                    cases migrated
                    rw [← entries_of_snapshot taken]
  · rintro ⟨source, read, shape, taken⟩
    refine ⟨.ok source, read, ?_⟩
    dsimp only
    rw [shape, taken]
    rfl

theorem isCopy_of_migrated
    {value : JsValue}
    (migrated : migrateExtensionManifest format value = .ok manifest) :
    IsCopy manifest := by
  obtain ⟨_, _, _, taken⟩ := migrateExtensionManifest_eq_ok.mp migrated
  exact .of_snapshot taken

theorem mem_normalizeManifests
    {values : JsValue}
    (member : manifest ∈ (normalizeManifests format values).manifests) :
    ∃ value, migrateExtensionManifest format value = .ok manifest := by
  rw [normalizeManifests] at member
  dsimp only at member
  split at member
  · cases member
  · split at member
    · obtain ⟨value, _, migrated⟩ := List.mem_flatMap.mp member
      refine ⟨value, ?_⟩
      rw [normalizeManifest] at migrated
      split at migrated
      · rename_i other isMigrated
        rw [isMigrated, List.mem_singleton.mp migrated]
      · cases migrated
      · cases migrated
    · cases member
  · cases member

/-! ## Merged configurations -/

variable {configuration : Record}

theorem mergeConfiguration_eq_ok
    {supplied : Record} :
    mergeConfiguration format manifest supplied = .ok (.ok configuration) ↔
      (IsUndefined (manifest.get (js "configuration")) ∨
          hasValidExtensionConfiguration
            (manifest.get (js "configuration")) = true) ∧
        configurationError format manifest (mergedEntries manifest supplied) =
          none ∧
        snapshotData (.object (mergedEntries manifest supplied)) =
          .ok (.object configuration) := by
  rw [mergeConfiguration]
  dsimp only
  by_cases valid :
      IsUndefined (manifest.get (js "configuration")) ∨
        hasValidExtensionConfiguration
          (manifest.get (js "configuration")) = true
  · have notInvalid :
        ¬(!decide (IsUndefined (manifest.get (js "configuration"))) &&
          !hasValidExtensionConfiguration
            (manifest.get (js "configuration"))) = true := by
      rcases valid with isUndefined | isValid
      · simp [isUndefined]
      · simp [isValid]
    rw [if_neg notInvalid]
    cases wrong :
        configurationError format manifest
          (mergedEntries manifest supplied) with
    | some message => simp
    | none =>
        simp only [bind_eq_ok, snap_eq_ok, valid, true_and,
          Except.ok.injEq]
        constructor
        · rintro ⟨copy, taken, rfl⟩
          rw [taken, entries_of_snapshot taken]
          rfl
        · intro taken
          exact ⟨_, taken, rfl⟩
  · rw [not_or] at valid
    have isInvalid :
        (!decide (IsUndefined (manifest.get (js "configuration"))) &&
          !hasValidExtensionConfiguration
            (manifest.get (js "configuration"))) = true := by
      simp [valid.1, valid.2]
    rw [if_pos isInvalid]
    simp [valid.1, valid.2]

variable {configurations : Record}

section

variable (merged : suppliedConfiguration format configurations manifest =
    .ok (.ok configuration))

include merged

theorem merged_of_supplied :
    ∃ supplied,
      mergeConfiguration format manifest supplied = .ok (.ok configuration) := by
  rw [suppliedConfiguration] at merged
  split at merged
  · exact ⟨_, merged⟩
  · exact ⟨_, merged⟩
  · cases merged

theorem isCopy_of_supplied :
    IsCopy configuration := by
  obtain ⟨_, isMerged⟩ := merged_of_supplied merged
  exact .of_snapshot (mergeConfiguration_eq_ok.mp isMerged).2.2

end

/-! ## Plans -/

theorem elements?_canonical (items : List JsValue) :
    (canonical (.array items)).elements? = some (items.map canonical) := by
  rw [canonical, canonicalItems_eq_map]
  rfl

theorem ofJs_canonical
    {plan : ExtensionPlan}
    (copies : ∀ extension ∈ plan.extensions,
      IsCopy extension.manifest ∧ IsCopy extension.configuration) :
    ExtensionPlan.ofJs (canonical plan.toJs) =
      { plan with
        lifecycle := plan.lifecycle.map canonical } := by
  have extensions :
      ((plan.extensions.map ResolvedExtension.toJs).map canonical).map
        ResolvedExtension.ofJs = plan.extensions := by
    rw [List.map_map, List.map_map]
    refine (List.map_congr_left fun extension member => ?_).trans
      (List.map_id _)
    obtain ⟨manifest, configuration⟩ := copies extension member
    rw [Function.comp_apply, Function.comp_apply, ResolvedExtension.ofJs,
      ResolvedExtension.toJs, get_canonical, get_canonical]
    simp [manifest.same, configuration.same, JsValue.entries,
      js_injective.eq_iff]
  rw [ExtensionPlan.ofJs, ExtensionPlan.toJs, get_canonical,
    get_canonical]
  simp only [Record.get_cons, js_injective.eq_iff, reduceIte,
    elements?_canonical, Option.getD_some, extensions]
  simp [elements?_canonical]

theorem resolveExtension_eq_ok
    {known : ManifestsById}
    {id : JsString}
    {extension : ResolvedExtension} :
    resolveExtension format configurations known id = .ok extension ↔
      known.find? id = some extension.manifest ∧
        suppliedConfiguration format configurations extension.manifest =
          .ok (.ok extension.configuration) := by
  rw [resolveExtension]
  cases found : known.find? id with
  | none => simp [orThrow]
  | some manifest =>
      simp only [orThrow, ok_bind, bind_eq_ok, Option.some.injEq]
      constructor
      · rintro ⟨outcome, supplied, resolved⟩
        cases outcome with
        | error found => cases resolved
        | ok configuration =>
            cases resolved
            exact ⟨rfl, supplied⟩
      · rintro ⟨rfl, supplied⟩
        exact ⟨_, supplied, rfl⟩

/-- What a plan of normalized manifests is. -/
structure Planned (format : NumberFormat) (policy : ExtensionPolicy)
    (configurations : Record) (manifests : List Record)
    (order : List JsString) (record : PlanRecord) : Prop where
  ordered : topologicalOrder format (byId manifests) = .ok order
  resolved : List.Forall₂
    (fun id extension =>
      (byId manifests).find? id = some extension.manifest ∧
        suppliedConfiguration format configurations extension.manifest =
          .ok (.ok extension.configuration))
    order record.plan.extensions
  lifecycle : record.plan.lifecycle =
    (record.plan.extensions.flatMap (lifecycleOf format)).map canonical
  bounded : (record.plan.extensions.flatMap (lifecycleOf format)).length ≤
    maxExtensionLifecycleEvents
  snapshotable : Snapshotable (ExtensionPlan.toJs
    { extensions := record.plan.extensions
      lifecycle := record.plan.extensions.flatMap (lifecycleOf format) })
  policy_eq : record.policy = policy

theorem planned_of_planExtensions
    {policy : ExtensionPolicy}
    {manifests : List Record}
    {record : PlanRecord}
    (copies : ∀ manifest ∈ manifests, IsCopy manifest)
    (made : planExtensions format policy configurations manifests =
      .ok record) :
    ∃ order,
      Planned format policy configurations manifests order record := by
  rw [planExtensions] at made
  cases ordered : topologicalOrder format (byId manifests) with
  | error found =>
      rw [ordered] at made
      cases made
  | ok order =>
      rw [ordered] at made
      obtain ⟨extensions, resolved, rest⟩ := bind_eq_ok.mp made
      have eachResolved := (mapM_eq_ok.mp resolved).imp
        fun _ _ found => resolveExtension_eq_ok.mp found
      dsimp only at rest
      split at rest
      · cases rest
      · rename_i bounded
        obtain ⟨copy, taken, same⟩ := bind_eq_ok.mp rest
        cases same
        obtain ⟨snapshotable, rfl⟩ :=
          snapshotData_eq_ok.mp (snap_eq_ok.mp taken)
        have eachCopied : ∀ extension ∈ extensions,
            IsCopy extension.manifest ∧ IsCopy extension.configuration := by
          intro extension member
          obtain ⟨id, _, found, supplied⟩ :=
            exists_of_forall₂ eachResolved.flip member
          exact ⟨copies _ (mem_of_find?_byId found).1,
            isCopy_of_supplied supplied⟩
        have contents := @ofJs_canonical
          ⟨extensions, extensions.flatMap (lifecycleOf format)⟩ eachCopied
        refine ⟨order, ordered, ?_, ?_, ?_, ?_, rfl⟩
        · rw [contents]
          exact eachResolved
        · rw [contents]
        · rw [contents]
          exact Nat.le_of_not_lt bounded
        · rw [contents]
          exact snapshotable

theorem reportedIssues_eq_nil {issues : List ExtensionIssue} :
    reportedIssues format issues = [] ↔ issues = [] := by
  rw [reportedIssues, sortIssues, sortByKey_eq_nil, boundedIssues,
    List.take_eq_nil_iff]
  simp [maxExtensionIssues]

variable {manifests policy : JsValue}

theorem validateExtensions_of_supplied
    {configurations : JsValue}
    {normalizedPolicy : ExtensionPolicy}
    {normalizedConfigurations : Record}
    (isPolicy : normalizePolicy format policy = .ok (.ok normalizedPolicy))
    (supplied : normalizeConfigurations configurations =
      some normalizedConfigurations) :
    validateExtensions format manifests policy configurations =
      (collectedIssues format normalizedPolicy normalizedConfigurations
          (normalizeManifests format manifests)).map
        (reportedIssues format) := by
  rw [validateExtensions, isPolicy, ok_bind]
  dsimp only
  rw [supplied]
  dsimp only
  cases collectedIssues format normalizedPolicy normalizedConfigurations
      (normalizeManifests format manifests) with
  | error failure => rfl
  | ok issues => rfl

theorem collected_of_silent
    {configurations : JsValue}
    (silent : validateExtensions format manifests policy configurations =
      .ok []) :
    ∃ normalizedPolicy normalizedConfigurations,
      normalizePolicy format policy = .ok (.ok normalizedPolicy) ∧
        normalizeConfigurations configurations =
          some normalizedConfigurations ∧
        collectedIssues format normalizedPolicy normalizedConfigurations
          (normalizeManifests format manifests) = .ok [] := by
  obtain ⟨outcome, normalized, rest⟩ := bind_eq_ok.mp silent
  cases outcome with
  | error found =>
      have nothing := reportedIssues_eq_nil.mp (Except.ok.inj rest)
      simp at nothing
  | ok normalizedPolicy =>
      dsimp only at rest
      cases supplied : normalizeConfigurations configurations with
      | none =>
          rw [supplied] at rest
          have nothing := reportedIssues_eq_nil.mp (Except.ok.inj rest)
          simp at nothing
      | some normalizedConfigurations =>
          rw [supplied] at rest
          obtain ⟨issues, collected, reported⟩ := bind_eq_ok.mp rest
          have nothing := reportedIssues_eq_nil.mp (Except.ok.inj reported)
          exact ⟨_, _, normalized, rfl, nothing ▸ collected⟩

theorem planned_of_createExtensionPlan
    {configurations : JsValue}
    {record : PlanRecord}
    (created : createExtensionPlan format manifests policy configurations =
      .ok record) :
    ∃ normalizedPolicy normalizedConfigurations order,
      normalizePolicy format policy = .ok (.ok normalizedPolicy) ∧
        normalizeConfigurations configurations =
          some normalizedConfigurations ∧
        collectedIssues format normalizedPolicy normalizedConfigurations
          (normalizeManifests format manifests) = .ok [] ∧
        Planned format normalizedPolicy normalizedConfigurations
          (normalizeManifests format manifests).manifests order record := by
  obtain ⟨issues, validated, rest⟩ := bind_eq_ok.mp created
  split at rest
  · cases rest
  · rename_i silent
    rw [not_not.mp silent] at validated
    obtain ⟨normalizedPolicy, normalizedConfigurations, isPolicy, supplied,
      collected⟩ := collected_of_silent validated
    rw [isPolicy, ok_bind] at rest
    dsimp only at rest
    split at rest
    · cases rest
    · rw [supplied] at rest
      obtain ⟨order, planned⟩ := planned_of_planExtensions
        (fun manifest member => by
          obtain ⟨value, migrated⟩ := mem_normalizeManifests member
          exact isCopy_of_migrated migrated)
        rest
      exact ⟨_, _, order, isPolicy, supplied, collected, planned⟩

end Format

end Selene.Extension
