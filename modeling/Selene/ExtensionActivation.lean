import Selene.ExtensionRevalidation

/-!
# Activation of extension plans

`activateExtensionPlan` validates a plan of this kernel again, asks the host to
verify every extension, and only then emits the lifecycle events.  The host is
a parameter: its calls read and change a state of its own, and a run records
what was asked and emitted.
-/

namespace Selene.Extension

open Js Generation

/-! ## Ports of the host -/

/-- How a call of the host ends. -/
inductive HostOutcome where
  | returned (value : JsValue)
  | threw
  deriving Inhabited

/-- `verified === true`. -/
def HostOutcome.isTrue : HostOutcome → Bool
  | .returned value => value.strictEquals (.bool true)
  | .threw => false

def HostOutcome.succeeds : HostOutcome → Bool
  | .returned _ => true
  | .threw => false

/-- A call with a value, which reads and changes the state of the host. -/
abbrev HostCall (α σ : Type) := α → σ → HostOutcome × σ

/-- An own property of a host object. -/
inductive HostProperty (α : Type) where
  | absent
  -- An accessor or a hidden property.
  | inaccessible
  | data (value : α)

/-- The property `integrity` of the ports; `none` is a value that is no function. -/
inductive IntegrityPort (σ : Type) where
  | undefined
  | notPlain
  | plain (verify : HostProperty (Option (HostCall Record σ)))

/-- The ports that are passed to an activation. -/
inductive HostPorts (σ : Type) where
  | notPlain
  | plain (integrity : HostProperty (IntegrityPort σ))
      (emit : HostProperty (Option (HostCall JsValue σ)))

/-- The ports as they were captured. -/
structure CapturedPorts (σ : Type) where
  emit : HostCall JsValue σ
  verify : Option (HostCall Record σ)

/-- What an activation throws. -/
inductive ActivationFailure where
  | kernel (failure : ExtensionFailure)
  -- What the host threw while an event was emitted.
  | emission

/-- A run of an activation, with the calls that it made. -/
structure ActivationRun (σ : Type) where
  outcome : Except ActivationFailure Unit
  verified : List (Record × HostOutcome)
  emitted : List (JsValue × HostOutcome)
  state : σ

section Format

variable (format : NumberFormat)

/-- `invalidAgentBridge`. -/
def invalidAgentBridge (message : String) : ExtensionFailure :=
  issuedError format [issue format .invalidManifest [] (js message)]

/-- A property of a host object, which may be absent. -/
def bridgeDescriptor {α : Type} (message : String) :
    HostProperty α → Except ExtensionFailure (Option α)
  | .absent => .ok none
  | .inaccessible => .error (invalidAgentBridge format message)
  | .data value => .ok (some value)

/-- The function `verify` of an integrity port. -/
def captureVerify {σ : Type} :
    IntegrityPort σ → Except ExtensionFailure (Option (HostCall Record σ))
  | .undefined => .ok none
  | .notPlain => .error (invalidAgentBridge format
      "integrity host port must be a plain data object with verify")
  | .plain property => do
      let candidate ← bridgeDescriptor format
        "integrity host port must be a plain data object with verify" property
      match candidate with
      | some (some verify) => .ok (some verify)
      | _ => .error (invalidAgentBridge format
          "integrity host port must provide verify")

/-- `captureActivationPorts`. -/
def captureActivationPorts {σ : Type} :
    HostPorts σ → Except ExtensionFailure (CapturedPorts σ)
  | .notPlain => .error (invalidAgentBridge format
      "Extension activation ports must be a plain data object with known fields")
  | .plain integrityProperty emitProperty => do
      let message :=
        "Extension activation ports must be a plain data object with known fields"
      let integrity ← bridgeDescriptor format message integrityProperty
      let candidate ← bridgeDescriptor format message emitProperty
      match candidate with
      | some (some emit) => do
          let verify ← captureVerify format (integrity.getD .undefined)
          .ok { emit, verify }
      | _ => .error (invalidAgentBridge format "an event host port is required")

/-! ## Steps of an activation -/

/-- `policiesEqual`. -/
def policiesEqual (left right : ExtensionPolicy) : Bool :=
  decide (left.minimumTrust = right.minimumTrust) &&
    decide (left.requireIntegrity = right.requireIntegrity) &&
    decide (left.allowedPermissions.length = right.allowedPermissions.length) &&
    (left.allowedPermissions.zip right.allowedPermissions).all
      (fun pair => pair.1.strictEquals pair.2) &&
    decide (left.requiredPublishers.map List.length =
      right.requiredPublishers.map List.length) &&
    ((left.requiredPublishers.getD []).zip
        (right.requiredPublishers.getD [])).all
      fun pair => pair.1.strictEquals pair.2

/-- The manifests of a plan, in their order. -/
def planManifests (plan : ExtensionPlan) : JsValue :=
  .array (plan.extensions.map fun extension => .object extension.manifest)

/-- `Object.fromEntries` of the configurations by the ids of the manifests. -/
def planConfigurations (plan : ExtensionPlan) : JsValue :=
  .object (Record.ofEntries (plan.extensions.map fun extension =>
    (manifestId extension.manifest, .object extension.configuration)))

/-- What an activation checks before it calls the host. -/
def prepareActivation {σ : Type} (record : Option PlanRecord)
    (policy : JsValue) (ports : HostPorts σ) :
    Except ExtensionFailure (PlanRecord × ExtensionPolicy × CapturedPorts σ) :=
  match record with
  | none => .error (issuedError format [issue format .invalidManifest []
      (js "extension plan was not created by this kernel instance")])
  | some record => do
      match ← normalizePolicy format policy with
      | .error found => .error (issuedError format [found])
      | .ok normalizedPolicy =>
          if policiesEqual record.policy normalizedPolicy then do
            let issues ← validateExtensions format (planManifests record.plan)
              normalizedPolicy.toJs (planConfigurations record.plan)
            if issues ≠ [] then
              .error (issuedError format issues)
            else do
              let captured ← captureActivationPorts format ports
              if normalizedPolicy.requireIntegrity ≠ some false ∧
                  captured.verify.isNone then
                .error (issuedError format [issue format .integrityFailed []
                  (js "an integrity host port is required")])
              else
                .ok (record, normalizedPolicy, captured)
          else
            .error (issuedError format [issue format .permissionDenied []
              (js "activation policy must exactly match the plan policy")])

/-- Verify manifests one after another, up to the first that is not verified. -/
def verifyAll {σ : Type} (verify : HostCall Record σ) :
    List Record → σ →
      Except ExtensionFailure Unit × List (Record × HostOutcome) × σ
  | [], state => (.ok (), [], state)
  | manifest :: rest, state =>
      let called := verify manifest state
      if called.1.isTrue then
        let others := verifyAll verify rest called.2
        (others.1, (manifest, called.1) :: others.2.1, others.2.2)
      else
        (.error (issuedError format [issue format .integrityFailed
            [manifest.get (js "id")]
            (js "integrity verification failed for " ++ manifestId manifest)]),
          [(manifest, called.1)], called.2)

/-- Emit events one after another, up to the first that throws. -/
def emitAll {σ : Type} (emit : HostCall JsValue σ) :
    List JsValue → σ →
      Except ActivationFailure Unit × List (JsValue × HostOutcome) × σ
  | [], state => (.ok (), [], state)
  | event :: rest, state =>
      match emit event state with
      | (.threw, after) => (.error .emission, [(event, .threw)], after)
      | (.returned value, after) =>
          let others := emitAll emit rest after
          (others.1, (event, .returned value) :: others.2.1, others.2.2)

/-- What an activation asks the host to verify. -/
def verifiedManifests (record : PlanRecord) (policy : ExtensionPolicy) :
    List Record :=
  if policy.requireIntegrity = some false then []
  else record.plan.extensions.map ResolvedExtension.manifest

/-- Emit the events of a plan, once it was verified. -/
def finishActivation {σ : Type} (record : PlanRecord)
    (captured : CapturedPorts σ) :
    Except ExtensionFailure Unit × List (Record × HostOutcome) × σ →
      ActivationRun σ
  | (.error failure, verified, after) =>
      { outcome := .error (.kernel failure), verified, emitted := [],
        state := after }
  | (.ok (), verified, after) =>
      let emission := emitAll captured.emit record.plan.lifecycle after
      { outcome := emission.1, verified, emitted := emission.2.1,
        state := emission.2.2 }

/-- Activate a plan; `none` is a plan that this kernel did not create. -/
def activateExtensionPlan {σ : Type} (record : Option PlanRecord)
    (policy : JsValue) (ports : HostPorts σ) (state : σ) : ActivationRun σ :=
  match prepareActivation format record policy ports with
  | .error failure =>
      { outcome := .error (.kernel failure), verified := [], emitted := [],
        state }
  | .ok (known, normalizedPolicy, captured) =>
      -- The port is missing only if nothing is verified.
      let verify := captured.verify.getD fun _ state =>
        (.returned .undefined, state)
      finishActivation known captured
        (verifyAll format verify (verifiedManifests known normalizedPolicy)
          state)

/-! ## Parts of a plan -/

variable {format : NumberFormat}

theorem length_normalizeManifests_le (values : JsValue) :
    (normalizeManifests format values).manifests.length ≤
      maxExtensionManifests := by
  have each : ∀ items : List JsValue,
      (items.flatMap fun value =>
        (normalizeManifest format value).1).length ≤ items.length := by
    intro items
    induction items with
    | nil => exact le_rfl
    | cons value rest inductionHypothesis =>
        rw [List.flatMap_cons, List.length_append, List.length_cons,
          Nat.add_comm]
        refine Nat.add_le_add inductionHypothesis ?_
        rcases @normalizeManifest_cases format value with
          ⟨manifest, _, read⟩ | ⟨issues, _, _, read⟩
        · rw [read]
          exact le_rfl
        · rw [read]
          exact Nat.zero_le _
  rw [normalizeManifests]
  dsimp only
  split
  · exact Nat.zero_le _
  · split
    · rename_i few
      exact (each _).trans few
    · exact Nat.zero_le _
  · exact Nat.zero_le _

variable {policy : ExtensionPolicy} {plan : ExtensionPlan}

theorem extensions_of_snapshotable
    (snapshotable : Snapshotable plan.toJs) :
    (∀ extension ∈ plan.extensions,
        Admissible (.object extension.manifest) 1 ∧
          Admissible (.object extension.configuration) 1) ∧
      (SnapshotTotals.one +
        costItems (plan.extensions.map ResolvedExtension.toJs)).Fits := by
  obtain ⟨admissible, fits⟩ := snapshotable
  rw [ExtensionPlan.toJs, Admissible] at admissible
  have parts := admissible.2.2
  rw [AdmissibleEntries, Admissible] at parts
  refine ⟨fun extension member => ?_, ?_⟩
  · have item := admissibleItems_iff.mp parts.2.1.2.2 _
      (List.mem_map_of_mem member)
    rw [ResolvedExtension.toJs, Admissible] at item
    have properties := admissibleEntries_iff.mp item.2.2
    exact ⟨(properties (js "manifest", .object extension.manifest)
        (by simp)).2.mono (by decide),
      (properties (js "configuration", .object extension.configuration)
        (by simp)).2.mono (by decide)⟩
  · refine fits.within ?_
    rw [ExtensionPlan.toJs, cost, costEntries, cost]
    exact (SnapshotTotals.within_add_right _ _).trans
      (SnapshotTotals.within_add_left _ _)

theorem cost_of_resolved (extension : ResolvedExtension) :
    (cost (.object extension.manifest)).Within (cost extension.toJs) ∧
      (cost (.object extension.configuration)).Within
        (cost extension.toJs) := by
  have parts : ∀ entry ∈
      [(js "configuration", JsValue.object extension.configuration),
        (js "manifest", .object extension.manifest)],
      (cost entry.2).Within (cost extension.toJs) := by
    intro entry member
    rw [ResolvedExtension.toJs, cost.eq_def (.object [_, _])]
    exact (cost_within_entries member).trans
      (SnapshotTotals.within_add_left _ _)
  exact ⟨parts (js "manifest", .object extension.manifest) (by simp),
    parts (js "configuration", .object extension.configuration) (by simp)⟩

section

variable (snapshotable : Snapshotable plan.toJs)
  (few : plan.extensions.length ≤ maxExtensionManifests)

include snapshotable few

theorem snapshotable_manifests :
    Snapshotable (.array (plan.extensions.map fun extension =>
      .object extension.manifest)) := by
  obtain ⟨parts, fits⟩ := extensions_of_snapshotable snapshotable
  refine ⟨?_, fits.within ?_⟩
  · rw [Admissible, List.length_map]
    refine ⟨by decide, few.trans (by decide), admissibleItems_iff.mpr ?_⟩
    intro item member
    obtain ⟨extension, isListed, rfl⟩ := List.mem_map.mp member
    exact (parts extension isListed).1
  · rw [cost]
    refine SnapshotTotals.Within.add ⟨le_rfl, le_rfl, le_rfl⟩ ?_
    induction plan.extensions with
    | nil => exact ⟨le_rfl, le_rfl, le_rfl⟩
    | cons extension rest inductionHypothesis =>
        refine SnapshotTotals.Within.add ?_ inductionHypothesis
        exact (cost_of_resolved extension).1

theorem snapshotable_configurations
    (notReserved : ∀ extension ∈ plan.extensions,
      manifestId extension.manifest ∉ reservedDataKeys) :
    Snapshotable (.object (plan.extensions.map fun extension =>
      (manifestId extension.manifest, .object extension.configuration))) := by
  obtain ⟨parts, fits⟩ := extensions_of_snapshotable snapshotable
  refine ⟨?_, fits.within ?_⟩
  · rw [Admissible, List.length_map]
    refine ⟨by decide, few.trans (by decide), admissibleEntries_iff.mpr ?_⟩
    intro entry member
    obtain ⟨extension, isListed, rfl⟩ := List.mem_map.mp member
    exact ⟨notReserved extension isListed, (parts extension isListed).2⟩
  · rw [cost]
    refine SnapshotTotals.Within.add ⟨le_rfl, le_rfl, le_rfl⟩ ?_
    clear parts fits notReserved few snapshotable
    induction plan.extensions with
    | nil => exact ⟨le_rfl, le_rfl, le_rfl⟩
    | cons extension rest inductionHypothesis =>
        refine SnapshotTotals.Within.add ?_ inductionHypothesis
        exact (cost_of_resolved extension).2

end

/-! ## A plan is validated again -/

theorem ownIssues_of_silent
    {configurations : Record}
    {manifests : List Record}
    {seen : List JsString}
    (silent : manifestIssues format policy configurations seen manifests =
      .ok []) :
    ∀ manifest ∈ manifests,
      ownIssues format policy configurations manifest = .ok [] := by
  induction manifests generalizing seen with
  | nil => simp
  | cons manifest rest inductionHypothesis =>
      obtain ⟨own, isOwn, others⟩ := bind_eq_ok.mp silent
      obtain ⟨later, isLater, same⟩ := bind_eq_ok.mp others
      have none := List.append_eq_nil_iff.mp (Except.ok.inj same)
      rw [none.2] at isLater
      rw [(List.append_eq_nil_iff.mp none.1).2] at isOwn
      exact List.forall_mem_cons.mpr ⟨isOwn, inductionHypothesis isLater⟩

theorem manifestIssues_eq_nil
    {configurations : Record}
    {manifests : List Record}
    (distinct : (manifests.map manifestId).Nodup)
    (silent : ∀ manifest ∈ manifests,
      ownIssues format policy configurations manifest = .ok []) :
    manifestIssues format policy configurations [] manifests = .ok [] := by
  rw [manifestIssues_of_distinct distinct (by simp)]
  clear distinct
  induction manifests with
  | nil => rfl
  | cons manifest rest inductionHypothesis =>
      obtain ⟨first, later⟩ := List.forall_mem_cons.mp silent
      have others := inductionHypothesis later
      rw [List.mapM_cons, first, ok_bind]
      cases found : rest.mapM (ownIssues format policy configurations) with
      | error failure =>
          rw [found] at others
          cases others
      | ok parts =>
          rw [found] at others
          exact others

theorem mergeConfiguration_supplied
    {configurations manifest configuration : Record}
    (manifestSame : canonical (.object manifest) = .object manifest)
    (suppliedSame : canonical (.object configurations) =
      .object configurations)
    (supplied : suppliedConfiguration format configurations manifest =
      .ok (.ok configuration)) :
    mergeConfiguration format manifest configuration =
      .ok (.ok configuration) := by
  have same := canonical_get suppliedSame (manifestId manifest)
  rw [suppliedConfiguration] at supplied
  split at supplied
  · exact mergeConfiguration_merged manifestSame (by rfl) supplied
  · rename_i entries found
    rw [found] at same
    exact mergeConfiguration_merged manifestSame same supplied
  · cases supplied

theorem ownIssues_again
    {configurations others manifest configuration : Record}
    (silent : ownIssues format policy configurations manifest = .ok [])
    (supplied : others.get (manifestId manifest) = .object configuration)
    (merged : mergeConfiguration format manifest configuration =
      .ok (.ok configuration)) :
    ownIssues format policy others manifest = .ok [] := by
  obtain ⟨shape, isShape, rest⟩ := bind_eq_ok.mp silent
  obtain ⟨outcome, _, whole⟩ := bind_eq_ok.mp rest
  simp only [Except.ok.injEq, List.append_eq_nil_iff] at whole
  obtain ⟨⟨⟨rfl, trust⟩, granted⟩, -⟩ := whole
  have again : suppliedConfiguration format others manifest =
      .ok (.ok configuration) := by
    rw [suppliedConfiguration, supplied]
    exact merged
  rw [ownIssues, isShape, ok_bind, again, ok_bind, trust, granted]
  rfl

/-- What is known of a created plan. -/
structure Created (format : NumberFormat) (policy : ExtensionPolicy)
    (manifests : List Record) (record : PlanRecord) : Prop where
  policy_eq : record.policy = policy
  normal : normalizePolicy format policy.toJs = .ok (.ok policy)
  distinct : (manifests.map manifestId).Nodup
  listed :
    (record.plan.extensions.map ResolvedExtension.manifest).Perm manifests
  migrated : ∀ manifest ∈ manifests,
    migrateExtensionManifest format (.object manifest) = .ok manifest
  own : ∀ extension ∈ record.plan.extensions, ∀ others : Record,
    others.get (manifestId extension.manifest) =
        .object extension.configuration →
      ownIssues format policy others extension.manifest = .ok []
  copied : ∀ extension ∈ record.plan.extensions,
    canonical (.object extension.configuration) =
      .object extension.configuration
  relations : manifests.flatMap (relationIssues format (byId manifests)) = []
  acyclic : cycleIssues format (byId manifests) = []
  few : record.plan.extensions.length ≤ maxExtensionManifests
  manifestsFit : Snapshotable (.array
    (record.plan.extensions.map fun extension => .object extension.manifest))
  configurationsFit :
    (∀ extension ∈ record.plan.extensions,
        manifestId extension.manifest ∉ reservedDataKeys) →
      Snapshotable (.object (record.plan.extensions.map fun extension =>
        (manifestId extension.manifest, .object extension.configuration)))

theorem created_of_createExtensionPlan
    {values policy configurations : JsValue}
    {record : PlanRecord}
    (created : createExtensionPlan format values policy configurations =
      .ok record) :
    ∃ normalizedPolicy,
      normalizePolicy format policy = .ok (.ok normalizedPolicy) ∧
        Created format normalizedPolicy
          (normalizeManifests format values).manifests record := by
  obtain ⟨normalizedPolicy, normalizedConfigurations, order, isPolicy,
    supplied, collected, planned⟩ := planned_of_createExtensionPlan created
  obtain ⟨own, isOwn, whole⟩ := bind_eq_ok.mp collected
  simp only [Except.ok.injEq, List.append_eq_nil_iff] at whole
  obtain ⟨⟨⟨-, rfl⟩, relations⟩, acyclic⟩ := whole
  have distinct := (distinct_of_silent isOwn).1
  have listed := planned.perm distinct
  have few : record.plan.extensions.length ≤ maxExtensionManifests := by
    rw [← List.length_map ResolvedExtension.manifest, listed.length_eq]
    exact length_normalizeManifests_le _
  have configurationsSame : canonical (.object normalizedConfigurations) =
      .object normalizedConfigurations := by
    rw [normalizeConfigurations] at supplied
    split at supplied
    · rename_i snapshot taken
      cases supplied
      exact (IsCopy.of_snapshot taken).same
    · cases supplied
  have known : ∀ extension ∈ record.plan.extensions,
      extension.manifest ∈ (normalizeManifests format values).manifests :=
    fun extension member => listed.mem_iff.mp (List.mem_map_of_mem member)
  refine ⟨normalizedPolicy, isPolicy, planned.policy_eq,
    normalizePolicy_toJs isPolicy, distinct, listed, ?_, ?_, ?_, relations,
    acyclic, few, ?_, ?_⟩
  · intro manifest member
    obtain ⟨value, migrated⟩ := mem_normalizeManifests member
    exact (migrateExtensionManifest_migrated migrated).1
  · intro extension member others isSupplied
    obtain ⟨value, migrated⟩ := mem_normalizeManifests (known _ member)
    obtain ⟨id, _, _, merged⟩ := exists_of_forall₂ planned.resolved.flip member
    exact ownIssues_again (ownIssues_of_silent isOwn _ (known _ member))
      isSupplied (mergeConfiguration_supplied
        (isCopy_of_migrated migrated).same configurationsSame merged)
  · intro extension member
    obtain ⟨id, _, _, merged⟩ := exists_of_forall₂ planned.resolved.flip member
    exact (isCopy_of_supplied merged).same
  · have fits := snapshotable_manifests planned.snapshotable
    exact fits few
  · have fits := snapshotable_configurations planned.snapshotable
    exact fits few

namespace Created

variable {policy : ExtensionPolicy} {manifests : List Record}
  {record : PlanRecord}

section

variable (created : Created format policy manifests record)

include created

theorem normalizeManifests_eq :
    normalizeManifests format (planManifests record.plan) =
      { manifests := record.plan.extensions.map ResolvedExtension.manifest
        issues := [] } := by
  have each : ∀ extension ∈ record.plan.extensions,
      normalizeManifest format (.object extension.manifest) =
        ([extension.manifest], []) := by
    intro extension member
    rw [normalizeManifest, created.migrated _
      (created.listed.mem_iff.mp (List.mem_map_of_mem member))]
  rw [planManifests, normalizeManifests_of_fits created.manifestsFit
    (by rw [List.length_map]; exact created.few), List.flatMap_map,
    List.flatMap_map, List.flatMap_congr fun extension member =>
      congrArg Prod.fst (each extension member),
    List.flatMap_congr fun extension member =>
      congrArg Prod.snd (each extension member)]
  simp [boundedIssues, List.map_eq_flatMap]

theorem distinct_listed :
    ((record.plan.extensions.map ResolvedExtension.manifest).map
      manifestId).Nodup :=
  (created.listed.map manifestId).nodup_iff.mpr created.distinct

theorem planConfigurations_eq :
    planConfigurations record.plan =
      .object (record.plan.extensions.map fun extension =>
        (manifestId extension.manifest, .object extension.configuration)) := by
  rw [planConfigurations, Record.ofEntries_of_distinct]
  have distinct := created.distinct_listed
  rw [List.map_map] at distinct
  rw [Record.keys, List.map_map]
  exact distinct

section

variable (notReserved : ∀ extension ∈ record.plan.extensions,
    manifestId extension.manifest ∉ reservedDataKeys)

include notReserved

theorem normalizeConfigurations_eq :
    ∃ configurations,
      normalizeConfigurations (planConfigurations record.plan) =
          some configurations ∧
        ∀ extension ∈ record.plan.extensions,
          configurations.get (manifestId extension.manifest) =
            .object extension.configuration := by
  have taken := snapshotData_eq_ok.mpr
    ⟨created.configurationsFit notReserved, rfl⟩
  have distinct := created.distinct_listed
  rw [List.map_map] at distinct
  rw [created.planConfigurations_eq, normalizeConfigurations,
    givenConfigurations_object, taken]
  refine ⟨_, rfl, fun extension member => ?_⟩
  have isEntry :
      (manifestId extension.manifest,
          JsValue.object extension.configuration) ∈
        record.plan.extensions.map fun other =>
          (manifestId other.manifest, JsValue.object other.configuration) :=
    List.mem_map_of_mem member
  rw [get_sortByKey, get_canonicalEntries, Record.get_of_mem ?_ isEntry,
    created.copied extension member]
  rw [Record.keys, List.map_map]
  exact distinct

theorem validateExtensions_eq :
    validateExtensions format (planManifests record.plan) policy.toJs
      (planConfigurations record.plan) = .ok [] := by
  obtain ⟨configurations, supplied, configured⟩ :=
    created.normalizeConfigurations_eq notReserved
  have own := manifestIssues_eq_nil (created.distinct_listed)
    (List.forall_mem_map.mpr fun extension member =>
      created.own extension member _ (configured extension member))
  have same := sameManifests_of_perm created.distinct_listed created.listed
  have relations :
      (record.plan.extensions.map ResolvedExtension.manifest).flatMap
        (relationIssues format
          (byId (record.plan.extensions.map ResolvedExtension.manifest))) =
        [] := by
    rw [funext (relationIssues_congr same)]
    have reordered := created.listed.flatMap_right
      (relationIssues format (byId manifests))
    rw [created.relations] at reordered
    exact reordered.eq_nil
  have acyclic : cycleIssues format
      (byId (record.plan.extensions.map ResolvedExtension.manifest)) = [] := by
    rw [cycleIssues, same.topologicalOrder_eq]
    exact created.acyclic
  rw [validateExtensions_of_supplied created.normal supplied,
    created.normalizeManifests_eq, collectedIssues]
  dsimp only
  rw [own, ok_bind, relations, acyclic]
  rfl

end

theorem validateExtensions_of_reserved
    (reserved : ∃ extension ∈ record.plan.extensions,
      manifestId extension.manifest ∈ reservedDataKeys) :
    ∃ issues, issues ≠ [] ∧
      validateExtensions format (planManifests record.plan) policy.toJs
        (planConfigurations record.plan) = .ok issues := by
  obtain ⟨extension, member, isReserved⟩ := reserved
  have refused :
      normalizeConfigurations (planConfigurations record.plan) = none := by
    rw [created.planConfigurations_eq, normalizeConfigurations,
      givenConfigurations_object]
    split
    · rename_i snapshot taken
      have admissible := (snapshotData_eq_ok.mp taken).1.admissible
      rw [Admissible] at admissible
      exact absurd isReserved
        (admissibleEntries_iff.mp admissible.2.2 _
          (List.mem_map_of_mem member)).1
    · rfl
  refine ⟨_, ?_, validateExtensions_of_refused created.normal refused⟩
  rw [ne_eq, reportedIssues_eq_nil]
  simp

end

end Created

/-! ## Runs of an activation -/

theorem policiesEqual_self
    {value : JsValue}
    {policy : ExtensionPolicy}
    (normal : normalizePolicy format value = .ok (.ok policy)) :
    policiesEqual policy policy = true := by
  obtain ⟨allowed, -, ⟨publishers, hasPublishers⟩, -⟩ :=
    normalizePolicy_eq_ok normal
  have listed := (normalizePublishers_normal hasPublishers).2.2
  have same : ((policy.requiredPublishers.getD []).zip
      (policy.requiredPublishers.getD [])).all
        (fun pair => pair.1.strictEquals pair.2) = true := by
    cases found : policy.requiredPublishers with
    | none => rfl
    | some items => exact strictEquals_texts (listed items found)
  simp [policiesEqual, strictEquals_texts allowed, same]

/-- The ports that a plan needs are there. -/
def PortsSuffice {σ : Type} (format : NumberFormat) (record : PlanRecord)
    (ports : HostPorts σ) : Prop :=
  ∃ captured, captureActivationPorts format ports = .ok captured ∧
    (record.policy.requireIntegrity = some false ∨
      captured.verify.isSome = true)

/-- Every verification of a run returned `true`, and every emission succeeded. -/
structure HostAgrees {σ : Type} (run : ActivationRun σ) : Prop where
  verified : ∀ call ∈ run.verified, call.2.isTrue = true
  emitted : ∀ call ∈ run.emitted, call.2.succeeds = true

variable {σ : Type} {state : σ} {captured : CapturedPorts σ}
  {verify : HostCall Record σ}

theorem verifyAll_cases
    (verify : HostCall Record σ)
    (manifests : List Record)
    (state : σ) :
    ((verifyAll format verify manifests state).1 = .ok () ∧
        ∀ call ∈ (verifyAll format verify manifests state).2.1,
          call.2.isTrue = true) ∨
      (∃ failure,
          (verifyAll format verify manifests state).1 = .error failure) ∧
        ∃ call ∈ (verifyAll format verify manifests state).2.1,
          call.2.isTrue = false := by
  induction manifests generalizing state with
  | nil => exact Or.inl ⟨rfl, by simp [verifyAll]⟩
  | cons manifest rest inductionHypothesis =>
      rw [verifyAll]
      cases isTrue : (verify manifest state).1.isTrue with
      | false =>
          refine Or.inr ⟨⟨_, rfl⟩, _, List.mem_singleton_self _, ?_⟩
          exact isTrue
      | true =>
          rcases inductionHypothesis (verify manifest state).2 with
            ⟨succeeded, each⟩ | ⟨failed, call, member, isFalse⟩
          · exact Or.inl ⟨succeeded, List.forall_mem_cons.mpr ⟨isTrue, each⟩⟩
          · exact Or.inr ⟨failed, call, List.mem_cons_of_mem _ member, isFalse⟩

theorem emitAll_of_succeeds
    {emit : HostCall JsValue σ}
    {events : List JsValue}
    (each : ∀ call ∈ (emitAll emit events state).2.1,
      call.2.succeeds = true) :
    (emitAll emit events state).1 = .ok () ∧
      (emitAll emit events state).2.1.map Prod.fst = events := by
  induction events generalizing state with
  | nil => exact ⟨rfl, rfl⟩
  | cons event rest inductionHypothesis =>
      rw [emitAll] at each ⊢
      generalize emit event state = called at each ⊢
      obtain ⟨outcome, after⟩ := called
      cases outcome with
      | threw => cases each (event, .threw) (List.mem_singleton_self _)
      | returned value =>
          obtain ⟨succeeded, same⟩ := inductionHypothesis
            (List.forall_mem_cons.mp each).2
          exact ⟨succeeded, congrArg (event :: ·) same⟩

theorem finishActivation_of_refused
    {record : PlanRecord}
    {manifests : List Record}
    (refused : ∃ call ∈ (finishActivation record captured
      (verifyAll format verify manifests state)).verified,
        call.2.isTrue = false) :
    (∃ failure,
        (finishActivation record captured
          (verifyAll format verify manifests state)).outcome =
            .error failure) ∧
      (finishActivation record captured
        (verifyAll format verify manifests state)).emitted = [] := by
  have cases := @verifyAll_cases format _ verify manifests state
  generalize verifyAll format verify manifests state = performed
    at refused cases ⊢
  obtain ⟨outcome, verified, after⟩ := performed
  rcases cases with ⟨rfl, each⟩ | ⟨⟨failure, rfl⟩, _⟩
  · obtain ⟨call, member, isFalse⟩ := refused
    have isTrue := each call member
    rw [isFalse] at isTrue
    cases isTrue
  · exact ⟨⟨_, rfl⟩, rfl⟩

theorem finishActivation_of_agrees
    {record : PlanRecord}
    {manifests : List Record}
    (agrees : HostAgrees (finishActivation record captured
      (verifyAll format verify manifests state))) :
    (finishActivation record captured
          (verifyAll format verify manifests state)).outcome = .ok () ∧
      (finishActivation record captured
        (verifyAll format verify manifests state)).emitted.map Prod.fst =
          record.plan.lifecycle := by
  have cases := @verifyAll_cases format _ verify manifests state
  generalize verifyAll format verify manifests state = performed
    at agrees cases ⊢
  obtain ⟨outcome, verified, after⟩ := performed
  rcases cases with ⟨rfl, each⟩ | ⟨⟨failure, rfl⟩, call, member, isFalse⟩
  · exact emitAll_of_succeeds agrees.emitted
  · have isTrue := agrees.verified call member
    rw [isFalse] at isTrue
    cases isTrue

namespace Created

variable {σ : Type} {value : JsValue} {policy : ExtensionPolicy}
  {manifests : List Record} {record : PlanRecord} {ports : HostPorts σ}

/-- A created plan passes what an activation checks before it calls the host. -/
theorem prepareActivation_eq
    (created : Created format policy manifests record)
    (isPolicy : normalizePolicy format value = .ok (.ok policy))
    (suffice : PortsSuffice format record ports)
    (notReserved : ∀ extension ∈ record.plan.extensions,
      manifestId extension.manifest ∉ reservedDataKeys) :
    ∃ captured,
      prepareActivation format (some record) value ports =
        .ok (record, policy, captured) := by
  obtain ⟨captured, isCaptured, enough⟩ := suffice
  rw [created.policy_eq] at enough
  have notMissing : ¬(policy.requireIntegrity ≠ some false ∧
      captured.verify.isNone = true) := by
    rintro ⟨required, missing⟩
    rcases enough with waived | present
    · exact required waived
    · rw [Option.isNone_iff_eq_none.mp missing] at present
      cases present
  refine ⟨captured, ?_⟩
  rw [prepareActivation, isPolicy, ok_bind]
  dsimp only
  rw [created.policy_eq, if_pos (policiesEqual_self isPolicy),
    created.validateExtensions_eq notReserved, ok_bind, if_neg (by simp),
    isCaptured, ok_bind, if_neg notMissing]

theorem prepareActivation_of_reserved
    (created : Created format policy manifests record)
    (ports : HostPorts σ)
    (isPolicy : normalizePolicy format value = .ok (.ok policy))
    (reserved : ∃ extension ∈ record.plan.extensions,
      manifestId extension.manifest ∈ reservedDataKeys) :
    ∃ failure,
      prepareActivation format (some record) value ports =
        .error failure := by
  obtain ⟨issues, found, validated⟩ :=
    created.validateExtensions_of_reserved reserved
  refine ⟨issuedError format issues, ?_⟩
  rw [prepareActivation, isPolicy, ok_bind]
  dsimp only
  rw [created.policy_eq, if_pos (policiesEqual_self isPolicy), validated,
    ok_bind, if_pos found]

end Created

/--
A created plan is activated under its policy, by a host that verifies every
extension and emits every event, exactly if no id of the plan is a reserved key.
It then emits the lifecycle events in order.  Of any plan, under any policy, a
verification that does not return `true` makes the activation fail, with no
event emitted.
-/
theorem activateExtensionPlan_created
    (format : NumberFormat)
    {values policy configurations : JsValue}
    {record : PlanRecord}
    (created : createExtensionPlan format values policy configurations =
      .ok record) :
    (∀ {σ : Type} (ports : HostPorts σ) (state : σ),
        let run :=
          activateExtensionPlan format (some record) policy ports state
        PortsSuffice format record ports →
          HostAgrees run →
            (run.outcome = .ok () ∧
                run.emitted.map Prod.fst = record.plan.lifecycle ↔
              ∀ extension ∈ record.plan.extensions,
                manifestId extension.manifest ∉ reservedDataKeys)) ∧
      ∀ {σ : Type} (known : Option PlanRecord) (activationPolicy : JsValue)
          (ports : HostPorts σ) (state : σ),
        let run :=
          activateExtensionPlan format known activationPolicy ports state
        (∃ call ∈ run.verified, call.2.isTrue = false) →
          (∃ failure, run.outcome = .error failure) ∧ run.emitted = [] := by
  obtain ⟨normalizedPolicy, isPolicy, known⟩ :=
    created_of_createExtensionPlan created
  refine ⟨fun {σ} ports state suffice agrees => ⟨?_, fun notReserved => ?_⟩,
    fun {σ} other activationPolicy ports state refused => ?_⟩
  · rintro ⟨succeeded, -⟩ extension member isReserved
    obtain ⟨failure, refused⟩ := known.prepareActivation_of_reserved ports
      isPolicy ⟨extension, member, isReserved⟩
    rw [activateExtensionPlan, refused] at succeeded
    cases succeeded
  · obtain ⟨captured, prepared⟩ :=
      known.prepareActivation_eq isPolicy suffice notReserved
    rw [activateExtensionPlan, prepared] at agrees ⊢
    exact finishActivation_of_agrees agrees
  · rw [activateExtensionPlan] at refused ⊢
    cases prepared :
        prepareActivation format other activationPolicy ports with
    | error failure => exact ⟨⟨_, rfl⟩, rfl⟩
    | ok parts =>
        rw [prepared] at refused
        exact finishActivation_of_refused refused

end Format

/-! ## Samples -/

/-- A manifest with one lifecycle command. -/
def commanded (manifest : JsValue) : JsValue :=
  .object (manifest.entries ++
    [(js "lifecycle", .array
      [.object
        [(js "id", .string (js "start")),
          (js "event", .string (js "activate"))]])])

def sampleCommanded (id : String) : JsValue :=
  commanded (sampleManifest id [])

/-- A host that verifies everything and emits everything. -/
def agreeingPorts : HostPorts Unit :=
  .plain
    (.data (.plain (.data (some fun _ state =>
      (.returned (.bool true), state)))))
    (.data (some fun _ state => (.returned .undefined, state)))

/-- The plan of a manifest of an id with one lifecycle command. -/
def samplePlan (format : NumberFormat) (id : String) :
    Except ExtensionFailure PlanRecord :=
  createExtensionPlan format (.array [sampleCommanded id]) samplePolicy
    (.object [])

/-- The activation of such a plan by a host that agrees. -/
def sampleActivation (format : NumberFormat) (record : PlanRecord) :
    ActivationRun Unit :=
  activateExtensionPlan format (some record) samplePolicy agreeingPorts ()

theorem portsSuffice_agreeing
    (format : NumberFormat)
    (record : PlanRecord) :
    PortsSuffice format record agreeingPorts :=
  ⟨_, rfl, Or.inr rfl⟩

/-- A host that agrees, by evaluation. -/
def agreesIn (run : ActivationRun Unit) : Bool :=
  run.verified.all (fun call => call.2.isTrue) &&
    run.emitted.all fun call => call.2.succeeds

theorem hostAgrees_of_agreesIn
    {run : ActivationRun Unit}
    (agrees : agreesIn run = true) :
    HostAgrees run := by
  rw [agreesIn, Bool.and_eq_true, List.all_eq_true, List.all_eq_true] at agrees
  exact ⟨agrees.1, agrees.2⟩

/-- The plan of a manifest and of one that it depends on. -/
def samplePairPlan (format : NumberFormat) :
    Except ExtensionFailure PlanRecord :=
  createExtensionPlan format
    (.array [commanded (sampleManifestOn "^1.2.0" "b" ["z"]),
      sampleCommanded "z"]) samplePolicy .undefined

/-- The extension of a lifecycle event. -/
def eventExtension (event : JsValue) : JsValue :=
  event.entries.get (js "extensionId")

/-- The plan is activated; the event of the dependency is emitted first. -/
theorem sample_plan_activated :
    ∃ record, samplePairPlan digitNumerals = .ok record ∧
      (sampleActivation digitNumerals record).outcome = .ok () ∧
      (sampleActivation digitNumerals record).emitted.map Prod.fst =
        record.plan.lifecycle ∧
      List.Forall₂ (fun event id => IsText (eventExtension event) id)
        record.plan.lifecycle [js "z", js "b"] := by
  have accepted : (samplePairPlan digitNumerals).toOption.isSome = true := by
    decide +kernel
  obtain ⟨record, created⟩ : ∃ record,
      samplePairPlan digitNumerals = .ok record := ⟨_, eq_ok_get accepted⟩
  have agrees : ((samplePairPlan digitNumerals).toOption.map fun record =>
      agreesIn (sampleActivation digitNumerals record) &&
        decide (List.Forall₂ (fun event id => IsText (eventExtension event) id)
          record.plan.lifecycle [js "z", js "b"]) &&
        record.plan.extensions.all fun extension =>
          decide (manifestId extension.manifest ∉ reservedDataKeys)) =
            some true := by
    decide +kernel
  rw [created] at agrees
  simp only [Except.toOption, Option.map_some, Option.some.injEq,
    Bool.and_eq_true, decide_eq_true_eq, List.all_eq_true] at agrees
  have activated := ((activateExtensionPlan_created digitNumerals created).1
    agreeingPorts () (portsSuffice_agreeing _ _)
    (hostAgrees_of_agreesIn agrees.1.1)).mpr agrees.2
  exact ⟨_, created, activated.1, activated.2, agrees.1.2⟩

/-- The plan of a manifest with the id `constructor` cannot be activated. -/
theorem constructor_is_not_activated :
    ∃ record, samplePlan exactNumerals "constructor" = .ok record ∧
      PortsSuffice exactNumerals record agreeingPorts ∧
      HostAgrees (sampleActivation exactNumerals record) ∧
      (sampleActivation exactNumerals record).outcome ≠ .ok () := by
  have accepted :
      (samplePlan exactNumerals "constructor").toOption.isSome = true := by
    decide +kernel
  obtain ⟨record, created⟩ : ∃ record,
      samplePlan exactNumerals "constructor" = .ok record :=
    ⟨_, eq_ok_get accepted⟩
  have refused :
      ((samplePlan exactNumerals "constructor").toOption.map fun record =>
        agreesIn (sampleActivation exactNumerals record) &&
          !(sampleActivation exactNumerals record).outcome.toOption.isSome) =
            some true := by
    decide +kernel
  rw [created] at refused
  simp only [Except.toOption, Option.map_some, Option.some.injEq,
    Bool.and_eq_true, Bool.not_eq_true'] at refused
  refine ⟨_, created, portsSuffice_agreeing _ _,
    hostAgrees_of_agreesIn refused.1, fun succeeded => ?_⟩
  have isSome := refused.2
  rw [succeeded] at isSome
  cases isSome

end Selene.Extension
