import Selene.ExtensionPlanCanonical

/-!
# Plans are validated again

An activation validates the manifests of a plan once more, each with its merged
configuration as the one supplied, under the normal policy.  All three are fixed
points: a migrated manifest is migrated to itself, a merged configuration is
merged to itself, and a normal policy is normalized to itself.
-/

namespace Selene.Extension

open Js Generation

/-! ## Records that a snapshot leaves as they are -/

variable {record : Record}

theorem canonical_of_mem
    (same : canonical (.object record) = .object record)
    {entry : JsString × JsValue}
    (member : entry ∈ record) :
    canonical entry.2 = entry.2 := by
  rw [canonical, JsValue.object.injEq] at same
  rw [← same] at member
  have copied := (sortByKey_perm _ _).mem_iff.mp member
  rw [canonicalEntries_eq_map] at copied
  obtain ⟨other, _, rfl⟩ := List.mem_map.mp copied
  exact canonical_canonical _

theorem canonicalEntries_of_settled
    (settled : ∀ entry ∈ record, canonical entry.2 = entry.2) :
    canonicalEntries record = record := by
  rw [canonicalEntries_eq_map]
  refine (List.map_congr_left fun entry member => ?_).trans (List.map_id _)
  rw [settled entry member]
  rfl

theorem canonical_get
    (same : canonical (.object record) = .object record)
    (key : JsString) :
    canonical (record.get key) = record.get key := by
  rw [← get_canonical, same]
  rfl

theorem IsCopy.snapshot_perm
    {others : Record}
    (copy : IsCopy record)
    (distinct : record.keys.Nodup)
    (reordered : others.Perm record) :
    snapshotData (.object others) = .ok (.object record) := by
  obtain ⟨⟨admissible, fits⟩, same⟩ := copy
  have sorted := same
  rw [canonical, canonicalEntries_of_settled fun _ => canonical_of_mem same,
    JsValue.object.injEq] at sorted
  rw [Admissible] at admissible
  rw [cost] at fits
  refine snapshotData_eq_ok.mpr ⟨⟨?_, ?_⟩, ?_⟩
  · rw [Admissible, reordered.length_eq, admissibleEntries_perm reordered]
    exact admissible
  · rw [cost, costEntries_perm reordered]
    exact fits
  · rw [canonical, canonicalEntries_of_settled fun entry member =>
      canonical_of_mem same (reordered.mem_iff.mp member),
      ← sortByKey_eq_of_perm distinct reordered.symm, sorted]

theorem canonical_entries
    {value : JsValue}
    (same : canonical value = value) :
    canonical (.object value.entries) = .object value.entries := by
  cases value with
  | object entries => exact same
  | _ => rfl

theorem costEntries_filter_within
    (keep : JsString × JsValue → Bool)
    (entries : Record) :
    (costEntries (entries.filter keep)).Within (costEntries entries) := by
  induction entries with
  | nil => exact ⟨le_rfl, le_rfl, le_rfl⟩
  | cons entry rest inductionHypothesis =>
      rw [List.filter_cons]
      split
      · exact SnapshotTotals.Within.add ⟨le_rfl, le_rfl, le_rfl⟩
          inductionHypothesis
      · exact inductionHypothesis.trans (SnapshotTotals.within_add_left _ _)

theorem sortByKey_filter
    {α κ : Type}
    [LinearOrder κ]
    {key : α → κ}
    {items : List α}
    (sorted : sortByKey key items = items)
    (keep : α → Bool) :
    sortByKey key (items.filter keep) = items.filter keep := by
  have : Std.Total fun first second : α => key first ≤ key second :=
    ⟨fun first second => le_total (key first) (key second)⟩
  have : IsTrans α fun first second => key first ≤ key second :=
    ⟨fun _ _ _ before after => le_trans before after⟩
  have increasing : items.Pairwise fun first second => key first ≤ key second := by
    rw [← sorted]
    exact List.pairwise_insertionSort _ items
  exact (increasing.filter keep).insertionSort_eq

theorem IsCopy.erase
    (copy : IsCopy record)
    (name : JsString) :
    IsCopy (record.erase name) := by
  obtain ⟨⟨admissible, fits⟩, same⟩ := copy
  have subset : ∀ entry ∈ record.erase name, entry ∈ record :=
    fun _ member => (List.mem_filter.mp member).1
  refine ⟨⟨?_, ?_⟩, ?_⟩
  · rw [Admissible, admissibleEntries_iff] at admissible ⊢
    exact ⟨admissible.1,
      (List.length_filter_le _ _).trans admissible.2.1,
      fun entry member => admissible.2.2 entry (subset entry member)⟩
  · refine fits.within ?_
    rw [cost, cost]
    refine SnapshotTotals.Within.add ⟨le_rfl, le_rfl, le_rfl⟩ ?_
    exact costEntries_filter_within _ record
  · have sorted := same
    rw [canonical, canonicalEntries_of_settled fun _ => canonical_of_mem same,
      JsValue.object.injEq] at sorted
    rw [canonical, canonicalEntries_of_settled fun entry member =>
      canonical_of_mem same (subset entry member), Record.erase,
      sortByKey_filter sorted]

/-! ## Properties of one value -/

/-- A property is there, and has a value wherever it is. -/
structure Holds (record : Record) (name : JsString) (value : JsValue) :
    Prop where
  present : name ∈ record.keys
  only : ∀ entry ∈ record, entry.1 = name → entry.2 = value

namespace Holds

variable {record : Record} {name : JsString} {value : JsValue}

section

variable (holds : Holds record name value)

include holds

theorem get :
    record.get name = value :=
  holds.only _ (Record.mem_of_get holds.present) rfl

theorem define :
    record.define name value = record := by
  rw [Record.define, if_pos holds.present]
  refine (List.map_congr_left fun entry member => ?_).trans (List.map_id _)
  split
  · rename_i isName
    rw [← holds.only entry member isName, ← isName]
    rfl
  · rfl

omit holds in
theorem of_define (record : Record) (name : JsString) (value : JsValue) :
    Holds (record.define name value) name value := by
  refine ⟨?_, ?_⟩
  · rw [Record.keys_define]
    split
    · assumption
    · exact List.mem_append_right _ (List.mem_singleton_self name)
  · intro entry member isName
    rw [Record.define] at member
    split at member
    · obtain ⟨other, _, rfl⟩ := List.mem_map.mp member
      by_cases isOther : other.1 = name
      · rw [if_pos isOther]
      · rw [if_neg isOther] at isName
        exact absurd isName isOther
    · rename_i absent
      rcases List.mem_append.mp member with old | new
      · exact absurd (isName ▸ List.mem_map_of_mem old) absent
      · rw [List.mem_singleton.mp new]

theorem define_other
    {other : JsString}
    (different : other ≠ name)
    (more : JsValue) :
    Holds (record.define other more) name value := by
  refine ⟨?_, ?_⟩
  · rw [Record.keys_define]
    split
    · exact holds.present
    · exact List.mem_append_left _ holds.present
  · intro entry member isName
    rcases Record.mem_define member with rfl | old
    · exact absurd isName different
    · exact holds.only entry old isName

theorem erase
    {other : JsString}
    (different : name ≠ other) :
    Holds (record.erase other) name value := by
  obtain ⟨entry, member, isName⟩ := List.mem_map.mp holds.present
  refine ⟨List.mem_map.mpr ⟨entry, List.mem_filter.mpr ⟨member, ?_⟩, isName⟩,
    fun entry member => holds.only entry (List.mem_filter.mp member).1⟩
  rw [isName]
  exact decide_eq_true different

theorem snapshot
    {copy : Record}
    (taken : snapshotData (.object record) = .ok (.object copy)) :
    Holds copy name (canonical value) := by
  obtain ⟨-, same⟩ := snapshotData_eq_ok.mp taken
  rw [canonical, JsValue.object.injEq] at same
  subst same
  refine ⟨?_, ?_⟩
  · obtain ⟨entry, member, isName⟩ := List.mem_map.mp holds.present
    refine List.mem_map.mpr ⟨(entry.1, canonical entry.2),
      (sortByKey_perm _ _).mem_iff.mpr ?_, isName⟩
    rw [canonicalEntries_eq_map]
    exact List.mem_map_of_mem member
  · intro entry member isName
    have copied := (sortByKey_perm _ _).mem_iff.mp member
    rw [canonicalEntries_eq_map] at copied
    obtain ⟨other, isOther, rfl⟩ := List.mem_map.mp copied
    exact congrArg canonical (holds.only other isOther isName)

end

end Holds

section Format

variable {format : NumberFormat}

/-! ## Manifests -/

/-- The kind of a manifest, which version 0.9 calls its type. -/
def kindOf (data : Record) : JsValue :=
  if IsText (data.get (js "manifestVersion")) (js "0.9") then
    data.get (js "type")
  else
    data.get (js "kind")

/-- The fields that are required, beside the kind. -/
structure HasRequiredFields (data : Record) (kind : JsValue) : Prop where
  version : (data.get (js "version")).isString = true
  kind : kind.isString = true
  trust : (data.get (js "trust")).isRecord = true
  provenance :
    ((data.get (js "trust")).entries.get (js "provenance")).isRecord = true
  integrity :
    ((data.get (js "trust")).entries.get (js "integrity")).isRecord = true

variable {value : JsValue}

theorem asManifest_eq_ok
    {source : Record} :
    asManifest format value = .ok (.ok source) ↔
      ∃ data id capabilities declared,
        snapshotData value = .ok (.object data) ∧
          Record.get data (js "id") = .string id ∧
          isOneOf [js "1.0", js "0.9"]
            (Record.get data (js "manifestVersion")) = true ∧
          asStringArray (Record.get data (js "capabilities")) =
            some capabilities ∧
          asStringArray (Record.get data (js "permissions")) =
            some declared ∧
          HasRequiredFields data (kindOf data) ∧
          snapshotData (.object
              (withKind data (kindOf data) capabilities declared)) =
            .ok (.object source) := by
  constructor
  · intro read
    rw [asManifest] at read
    split at read
    · cases read
    · rename_i data taken
      split at read
      · rename_i id isId
        dsimp only at read
        split at read
        · rename_i supported
          split at read
          · rename_i capabilities declared hasCapabilities hasPermissions
            rw [← kindOf] at read
            split at read
            · rename_i required
              simp only [Bool.and_eq_true] at required
              obtain ⟨copy, taken', same⟩ := bind_eq_ok.mp read
              cases same
              have isSnapshot := snap_eq_ok.mp taken'
              rw [entries_of_snapshot isSnapshot] at isSnapshot
              exact ⟨data, id, capabilities, declared, taken, isId, supported,
                hasCapabilities, hasPermissions,
                ⟨required.1.1.1.1, required.1.1.1.2, required.1.1.2,
                  required.1.2, required.2⟩, isSnapshot⟩
            · cases read
          · cases read
        · obtain ⟨text, _, same⟩ := bind_eq_ok.mp read
          cases same
      · cases read
    · cases read
  · rintro ⟨data, id, capabilities, declared, taken, isId, supported,
      hasCapabilities, hasPermissions, required, isSnapshot⟩
    rw [asManifest, taken]
    dsimp only
    rw [isId]
    dsimp only
    rw [if_pos supported, hasCapabilities, hasPermissions]
    dsimp only
    rw [← kindOf, required.version, required.kind, required.trust,
      required.provenance, required.integrity]
    exact bind_eq_ok.mpr ⟨_, snap_eq_ok.mpr isSnapshot, rfl⟩

theorem asStringArray_eq_some
    {items : List JsValue}
    (isArray : asStringArray value = some items) :
    value = .array items ∧ canonical (.array items) = .array items ∧
      asStringArray (.array items) = some items := by
  cases value with
  | array others =>
      have same := isArray
      rw [asStringArray] at same
      split at same
      · rename_i valid
        cases same
        refine ⟨rfl, ?_, isArray⟩
        rw [canonical, canonicalItems_eq_map]
        refine congrArg JsValue.array ((List.map_congr_left
          fun item member => ?_).trans (List.map_id _))
        have isText := List.all_eq_true.mp valid.2 item member
        cases item with
        | string text => rfl
        | _ => cases isText
      · cases same
  | _ => cases isArray

/-- A record that is read as the manifest it is. -/
structure IsManifest (manifest : Record) : Prop where
  copy : IsCopy manifest
  id : ∃ id, manifest.get (js "id") = .string id
  version : Holds manifest (js "manifestVersion") (.string (js "1.0"))
  kind : ∃ kind, Holds manifest (js "kind") (.string kind)
  capabilities : ∃ items, asStringArray (.array items) = some items ∧
    Holds manifest (js "capabilities") (.array items)
  permissions : ∃ items, asStringArray (.array items) = some items ∧
    Holds manifest (js "permissions") (.array items)
  required : HasRequiredFields manifest (manifest.get (js "kind"))

theorem holds_withKind
    (data : Record)
    (kind : JsValue)
    (capabilities declared : List JsValue) :
    let manifest := withKind data kind capabilities declared
    Holds manifest (js "manifestVersion") (.string (js "1.0")) ∧
      Holds manifest (js "kind") kind ∧
      Holds manifest (js "capabilities") (.array capabilities) ∧
      Holds manifest (js "permissions") (.array declared) := by
  simp only [withKind, Record.spread, List.foldl_cons, List.foldl_nil]
  refine ⟨?_, ?_, ?_, .of_define _ _ _⟩
  · exact (((Holds.of_define _ _ _).define_other (by decide) _).define_other
      (by decide) _).define_other (by decide) _
  · exact ((Holds.of_define _ _ _).define_other (by decide) _).define_other
      (by decide) _
  · exact (Holds.of_define _ _ _).define_other (by decide) _

theorem get_withKind
    {data : Record}
    {kind : JsValue}
    {capabilities declared : List JsValue}
    {key : JsString}
    (other : key ∉ [js "manifestVersion", js "kind", js "capabilities",
      js "permissions"]) :
    (withKind data kind capabilities declared).get key = data.get key := by
  simp only [List.mem_cons, List.not_mem_nil, not_or, or_false] at other
  obtain ⟨notVersion, notKind, notCapabilities, notPermissions⟩ := other
  simp [withKind, Record.spread, Ne.symm notVersion, Ne.symm notKind,
    Ne.symm notCapabilities, Ne.symm notPermissions]

theorem IsManifest.of_asManifest
    {source : Record}
    (read : asManifest format value = .ok (.ok source)) :
    IsManifest source := by
  obtain ⟨data, id, capabilities, declared, taken, isId, -, hasCapabilities,
    hasPermissions, required, isSnapshot⟩ := asManifest_eq_ok.mp read
  obtain ⟨-, capabilitiesSame, areCapabilities⟩ :=
    asStringArray_eq_some hasCapabilities
  obtain ⟨-, permissionsSame, arePermissions⟩ :=
    asStringArray_eq_some hasPermissions
  obtain ⟨version, kind, hasCapabilities, hasPermissions⟩ :=
    holds_withKind data (kindOf data) capabilities declared
  have dataCopy := IsCopy.of_snapshot taken
  have kept : ∀ key, key ∉ [js "manifestVersion", js "kind",
      js "capabilities", js "permissions"] →
      source.get key = Record.get data key := by
    intro key other
    obtain ⟨-, same⟩ := snapshotData_eq_ok.mp isSnapshot
    have read := get_canonical
      (withKind data (kindOf data) capabilities declared) key
    rw [← same, get_withKind other, canonical_get dataCopy.same] at read
    exact read
  obtain ⟨kindText, isKind⟩ : ∃ text, kindOf data = .string text := by
    have isText := required.kind
    cases found : kindOf data with
    | string text => exact ⟨text, rfl⟩
    | _ =>
        rw [found] at isText
        cases isText
  rw [isKind] at kind
  have hasKind := kind.snapshot (isKind ▸ isSnapshot)
  have hasVersion := version.snapshot isSnapshot
  have listsCapabilities := hasCapabilities.snapshot isSnapshot
  have listsPermissions := hasPermissions.snapshot isSnapshot
  rw [capabilitiesSame] at listsCapabilities
  rw [permissionsSame] at listsPermissions
  refine ⟨.of_snapshot isSnapshot, ⟨id, ?_⟩, hasVersion, ⟨_, hasKind⟩,
    ⟨_, areCapabilities, listsCapabilities⟩,
    ⟨_, arePermissions, listsPermissions⟩, ?_⟩
  · rw [kept _ (by decide), isId]
  · refine ⟨?_, ?_, ?_, ?_, ?_⟩
    · rw [kept _ (by decide)]
      exact required.version
    · rw [hasKind.get]
      rfl
    · rw [kept _ (by decide)]
      exact required.trust
    · rw [kept _ (by decide)]
      exact required.provenance
    · rw [kept _ (by decide)]
      exact required.integrity

variable {manifest : Record}

theorem IsManifest.asManifest
    (isManifest : IsManifest manifest) :
    asManifest format (.object manifest) = .ok (.ok manifest) := by
  obtain ⟨copy, ⟨id, isId⟩, version, ⟨kind, hasKind⟩,
    ⟨capabilities, areCapabilities, hasCapabilities⟩,
    ⟨declared, arePermissions, hasPermissions⟩, required⟩ := isManifest
  have isKind : kindOf manifest = manifest.get (js "kind") := by
    rw [kindOf, version.get, if_neg (by decide)]
  refine asManifest_eq_ok.mpr ⟨manifest, id, capabilities, declared,
    copy.snapshot, isId, ?_, ?_, ?_, ?_, ?_⟩
  · rw [version.get]
    decide
  · rw [hasCapabilities.get, areCapabilities]
  · rw [hasPermissions.get, arePermissions]
  · rw [isKind]
    exact required
  · have unchanged :
        withKind manifest (kindOf manifest) capabilities declared =
          manifest := by
      rw [isKind, hasKind.get, withKind, Record.spread, List.foldl_cons,
        version.define, List.foldl_cons, hasKind.define, List.foldl_cons,
        hasCapabilities.define, List.foldl_cons, hasPermissions.define,
        List.foldl_nil]
    rw [unchanged]
    exact copy.snapshot

theorem IsManifest.erase_type
    (isManifest : IsManifest manifest) :
    IsManifest (manifest.erase (js "type")) := by
  obtain ⟨copy, ⟨id, isId⟩, version, ⟨kind, hasKind⟩,
    ⟨capabilities, areCapabilities, hasCapabilities⟩,
    ⟨declared, arePermissions, hasPermissions⟩, required⟩ := isManifest
  have kept : ∀ key, js "type" ≠ key →
      (manifest.erase (js "type")).get key = manifest.get key :=
    fun key different => Record.get_erase_of_ne different manifest
  refine ⟨copy.erase _, ⟨id, ?_⟩, version.erase (by decide),
    ⟨kind, hasKind.erase (by decide)⟩,
    ⟨capabilities, areCapabilities, hasCapabilities.erase (by decide)⟩,
    ⟨declared, arePermissions, hasPermissions.erase (by decide)⟩, ?_⟩
  · rw [kept _ (by decide), isId]
  · refine ⟨?_, ?_, ?_, ?_, ?_⟩
    · rw [kept _ (by decide)]
      exact required.version
    · rw [kept _ (by decide)]
      exact required.kind
    · rw [kept _ (by decide)]
      exact required.trust
    · rw [kept _ (by decide)]
      exact required.provenance
    · rw [kept _ (by decide)]
      exact required.integrity

theorem validateManifestShape_erase_type (manifest : Record) :
    validateManifestShape format (manifest.erase (js "type")) =
      validateManifestShape format manifest := by
  have kept : ∀ name : String, js "type" ≠ js name →
      (manifest.erase (js "type")).get (js name) = manifest.get (js name) :=
    fun name different => Record.get_erase_of_ne different manifest
  have tests : shapeTests format (manifest.erase (js "type")) =
      shapeTests format manifest := by
    simp only [shapeTests, manifestIssue, listProperty, designSystemOf]
    rw [kept "manifestVersion" (by decide), kept "id" (by decide),
      kept "version" (by decide), kept "kind" (by decide),
      kept "capabilities" (by decide), kept "permissions" (by decide),
      kept "trust" (by decide), kept "dependencies" (by decide),
      kept "conflicts" (by decide), kept "configuration" (by decide),
      kept "lifecycle" (by decide), kept "contributes" (by decide)]
  rw [validateManifestShape, validateManifestShape, tests]

/-- A migrated manifest is one, and is migrated to itself. -/
theorem migrateExtensionManifest_migrated
    (migrated : migrateExtensionManifest format value = .ok manifest) :
    migrateExtensionManifest format (.object manifest) = .ok manifest ∧
      validateManifestShape format manifest = some [] := by
  obtain ⟨source, read, shape, taken⟩ :=
    migrateExtensionManifest_eq_ok.mp migrated
  have isManifest := (IsManifest.of_asManifest read).erase_type
  have same : manifest = source.erase (js "type") := by
    rw [isManifest.copy.snapshot] at taken
    cases taken
    rfl
  rw [same]
  have erased : (source.erase (js "type")).erase (js "type") =
      source.erase (js "type") := by
    rw [Record.erase, Record.erase, List.filter_filter]
    simp
  rw [← validateManifestShape_erase_type] at shape
  refine ⟨migrateExtensionManifest_eq_ok.mpr
    ⟨_, isManifest.asManifest, shape, ?_⟩, shape⟩
  rw [erased]
  exact isManifest.copy.snapshot

/-! ## Configurations -/

variable {base more : Record}

theorem mem_keys_spread
    {key : JsString} :
    key ∈ (base.spread more).keys ↔ key ∈ base.keys ∨ key ∈ more.keys := by
  rw [Record.spread]
  induction more generalizing base with
  | nil => simp
  | cons entry rest inductionHypothesis =>
      have defined : key ∈ (base.define entry.1 entry.2).keys ↔
          key ∈ base.keys ∨ key = entry.1 := by
        rw [Record.keys_define]
        split
        · rename_i old
          exact ⟨Or.inl, fun either => either.elim id fun same => same ▸ old⟩
        · rw [List.mem_append, List.mem_singleton]
      rw [List.foldl_cons, inductionHypothesis, defined, or_assoc]
      obtain ⟨name, value⟩ := entry
      rw [Record.keys_cons, List.mem_cons]

theorem nodup_keys_spread
    (distinct : base.keys.Nodup)
    (more : Record) :
    (base.spread more).keys.Nodup := by
  rw [Record.spread]
  induction more generalizing base with
  | nil => exact distinct
  | cons entry rest inductionHypothesis =>
      refine inductionHypothesis ?_
      rw [Record.keys_define]
      split
      · exact distinct
      · rename_i absent
        refine List.nodup_append.mpr ⟨distinct, List.nodup_singleton _, ?_⟩
        rintro key old _ new rfl
        exact absent (List.mem_singleton.mp new ▸ old)

theorem mem_spread
    {entry : JsString × JsValue}
    (member : entry ∈ base.spread more) :
    entry ∈ base ∨ entry ∈ more := by
  rw [Record.spread] at member
  induction more generalizing base with
  | nil => exact Or.inl member
  | cons first rest inductionHypothesis =>
      rcases inductionHypothesis member with old | later
      · rcases Record.mem_define old with rfl | inBase
        · exact Or.inr List.mem_cons_self
        · exact Or.inl inBase
      · exact Or.inr (List.mem_cons_of_mem _ later)

theorem get_spread
    (distinct : more.keys.Nodup)
    (key : JsString) :
    (base.spread more).get key =
      if key ∈ more.keys then more.get key else base.get key := by
  rw [Record.spread]
  induction more generalizing base with
  | nil => rfl
  | cons entry rest inductionHypothesis =>
      obtain ⟨name, value⟩ := entry
      rw [Record.keys_cons, List.nodup_cons] at distinct
      rw [List.foldl_cons, inductionHypothesis distinct.2, Record.get_define,
        Record.keys_cons, Record.get_cons]
      by_cases isName : name = key
      · subst isName
        simp [distinct.1]
      · simp [isName, Ne.symm isName]

theorem nodup_keys_mergedEntries (manifest supplied : Record) :
    (mergedEntries manifest supplied).keys.Nodup :=
  nodup_keys_spread (nodup_keys_spread (by simp) _) _

theorem mergedEntries_perm
    {supplied configuration : Record}
    (merged : configuration.Perm (mergedEntries manifest supplied)) :
    (mergedEntries manifest configuration).Perm configuration := by
  have sameKeys := merged.map Prod.fst
  have distinct : configuration.keys.Nodup :=
    sameKeys.nodup_iff.mpr (nodup_keys_mergedEntries manifest supplied)
  refine (List.perm_ext_iff_of_nodup
    ((nodup_keys_mergedEntries manifest configuration).of_map _)
    (distinct.of_map _)).mpr fun entry => ?_
  obtain ⟨name, value⟩ := entry
  have isName : name ∈ (mergedEntries manifest configuration).keys ↔
      name ∈ configuration.keys := by
    rw [mergedEntries, mem_keys_spread, or_iff_right_iff_imp]
    intro isDefault
    refine sameKeys.mem_iff.mpr ?_
    exact mem_keys_spread.mpr (Or.inl isDefault)
  rw [Record.mem_iff (nodup_keys_mergedEntries manifest configuration),
    Record.mem_iff distinct, isName]
  refine and_congr_right fun isKey => ?_
  rw [mergedEntries, get_spread distinct, if_pos isKey]

theorem configurationError_perm
    {first second : Record}
    (distinct : first.keys.Nodup)
    (reordered : first.Perm second) :
    configurationError format manifest first =
      configurationError format manifest second := by
  have sameKeys : first.keys.Perm second.keys := reordered.map Prod.fst
  have contained : ∀ key,
      first.keys.contains key = second.keys.contains key := by
    intro key
    rw [Bool.eq_iff_iff, List.contains_iff_mem, List.contains_iff_mem,
      sameKeys.mem_iff]
  have read : ∀ key, first.get key = second.get key := by
    intro key
    by_cases isKey : key ∈ first.keys
    · refine (Record.get_of_mem (sameKeys.nodup_iff.mp distinct) ?_).symm
      exact reordered.mem_iff.mp (Record.mem_of_get isKey)
    · rw [Record.get_of_not_mem isKey,
        Record.get_of_not_mem (mt sameKeys.mem_iff.mpr isKey)]
  have some : ∀ test : JsString → Bool,
      first.keys.any test = second.keys.any test := by
    intro test
    rw [Bool.eq_iff_iff, List.any_eq_true, List.any_eq_true]
    simp only [sameKeys.mem_iff]
  have has : hasProperty first = hasProperty second := by
    funext key
    rw [hasProperty, hasProperty, contained]
  have reads : readProperty first = readProperty second := by
    funext key
    rw [readProperty, readProperty, contained, read]
  have schemas : ∀ schema,
      schemaError format schema first = schemaError format schema second := by
    intro schema
    rw [schemaError, schemaError, has, reads]
  rw [configurationError, configurationError, has]
  simp only [some, schemas]

theorem mergeConfiguration_merged
    {supplied configuration : Record}
    (manifestSame : canonical (.object manifest) = .object manifest)
    (suppliedSame : canonical (.object supplied) = .object supplied)
    (merged : mergeConfiguration format manifest supplied =
      .ok (.ok configuration)) :
    mergeConfiguration format manifest configuration =
      .ok (.ok configuration) := by
  obtain ⟨valid, correct, taken⟩ := mergeConfiguration_eq_ok.mp merged
  have copy := IsCopy.of_snapshot taken
  have settled : ∀ entry ∈ mergedEntries manifest supplied,
      canonical entry.2 = entry.2 := by
    intro entry member
    rcases mem_spread member with isDefault | isSupplied
    · rcases mem_spread isDefault with inEmpty | inDefaults
      · cases inEmpty
      · refine canonical_of_mem ?_ inDefaults
        exact canonical_entries (canonical_get
          (canonical_entries (canonical_get manifestSame _)) _)
    · exact canonical_of_mem suppliedSame isSupplied
  have reordered : configuration.Perm (mergedEntries manifest supplied) := by
    obtain ⟨-, same⟩ := snapshotData_eq_ok.mp taken
    rw [canonical, canonicalEntries_of_settled settled,
      JsValue.object.injEq] at same
    rw [same]
    exact sortByKey_perm _ _
  have again := mergedEntries_perm reordered
  refine mergeConfiguration_eq_ok.mpr ⟨valid, ?_, ?_⟩
  · rw [configurationError_perm (nodup_keys_mergedEntries _ _)
      (again.trans reordered)]
    exact correct
  · exact copy.snapshot_perm
      ((reordered.map Prod.fst).nodup_iff.mpr (nodup_keys_mergedEntries _ _))
      again

/-! ## Policies -/

theorem normalizePublishers_normal
    {publishers : Option (List JsValue)}
    (normal : normalizePolicy.normalizePublishers format value =
      some publishers) :
    canonical ((publishers.map JsValue.array).getD .undefined) =
        (publishers.map JsValue.array).getD .undefined ∧
      normalizePolicy.normalizePublishers format
        ((publishers.map JsValue.array).getD .undefined) =
          some publishers ∧
      ∀ items, publishers = some items →
        asStringArray (.array items) = some items := by
  cases publishers with
  | none => exact ⟨rfl, rfl, by simp⟩
  | some publishers =>
      cases value with
      | undefined => cases normal
      | array items =>
          rw [normalizePolicy.normalizePublishers] at normal
          · obtain ⟨others, areTexts, valid⟩ := Option.bind_eq_some_iff.mp normal
            obtain ⟨-, same, again⟩ := asStringArray_eq_some areTexts
            split at valid
            · rename_i holds
              cases valid
              refine ⟨same, ?_, ?_⟩
              · rw [Option.map_some, Option.getD_some,
                  normalizePolicy.normalizePublishers]
                · rw [again, Option.bind_some, if_pos holds]
                · simp
              · intro items isSame
                cases isSame
                exact again
            · cases valid
          · simp
      | _ =>
          rw [normalizePolicy.normalizePublishers] at normal
          · cases normal
          · simp

variable {policy : ExtensionPolicy}

theorem snapshotData_policy
    (snapshotable : Snapshotable policy.toJs) :
    ∃ fields : Record, snapshotData policy.toJs = .ok (.object fields) ∧
      fields.get (js "allowedPermissions") =
        canonical (.array policy.allowedPermissions) ∧
      fields.get (js "minimumTrust") = .string policy.minimumTrust ∧
      fields.get (js "requiredPublishers") =
        canonical
          ((policy.requiredPublishers.map JsValue.array).getD .undefined) ∧
      fields.get (js "requireIntegrity") =
        (policy.requireIntegrity.map JsValue.bool).getD .undefined := by
  obtain ⟨allowed, trust, publishers, flag⟩ := policy
  refine ⟨_, snapshotData_eq_ok.mpr ⟨snapshotable, rfl⟩, ?_, ?_, ?_, ?_⟩
  · refine (get_canonical _ _).trans ?_
    simp
  · refine (get_canonical _ _).trans ?_
    simp [js_injective.eq_iff, canonical]
  · refine (get_canonical _ _).trans ?_
    cases publishers <;> cases flag <;>
      simp [js_injective.eq_iff, Record.optionalEntry]
  · refine (get_canonical _ _).trans ?_
    cases publishers <;> cases flag <;>
      simp [js_injective.eq_iff, Record.optionalEntry, canonical]

theorem normalizePolicy_eq_ok
    (normal : normalizePolicy format value = .ok (.ok policy)) :
    asStringArray (.array policy.allowedPermissions) =
        some policy.allowedPermissions ∧
      canonical (.array policy.allowedPermissions) =
        .array policy.allowedPermissions ∧
      (∃ publishers, normalizePolicy.normalizePublishers format publishers =
        some policy.requiredPublishers) ∧
      (policy.allowedPermissions.all (isOneOf permissions) &&
        JsValue.allDistinct policy.allowedPermissions &&
        (trustRank.map Prod.fst).contains policy.minimumTrust) = true ∧
      ∃ copy, snap policy.toJs = .ok copy := by
  rw [normalizePolicy] at normal
  dsimp only at normal
  split at normal
  · cases normal
  · split at normal
    · rename_i allowed _ publishers _ hasAllowed _ hasPublishers _
      split at normal
      · rename_i valid
        obtain ⟨copy, taken, same⟩ := bind_eq_ok.mp normal
        cases same
        obtain ⟨-, allowedSame, again⟩ := asStringArray_eq_some hasAllowed
        exact ⟨again, allowedSame, ⟨_, hasPublishers⟩, valid, copy, taken⟩
      · cases normal
    · cases normal
  · cases normal

theorem normalizePolicy_toJs
    (normal : normalizePolicy format value = .ok (.ok policy)) :
    normalizePolicy format policy.toJs = .ok (.ok policy) := by
  obtain ⟨allowedAgain, allowedSame, ⟨publishers, hasPublishers⟩, valid, copy,
    taken⟩ := normalizePolicy_eq_ok normal
  obtain ⟨publishersSame, publishersAgain, -⟩ :=
    normalizePublishers_normal hasPublishers
  have flagAgain : normalizePolicy.normalizeFlag
      ((policy.requireIntegrity.map JsValue.bool).getD .undefined) =
        some policy.requireIntegrity := by
    cases policy.requireIntegrity <;> rfl
  obtain ⟨fields, isSnapshot, isAllowed, isTrust, arePublishers, isFlag⟩ :=
    snapshotData_policy (snapshotData_eq_ok.mp (snap_eq_ok.mp taken)).1
  rw [allowedSame] at isAllowed
  rw [publishersSame] at arePublishers
  rw [normalizePolicy, isSnapshot]
  dsimp only
  rw [isAllowed, isTrust, arePublishers, isFlag, allowedAgain,
    publishersAgain, flagAgain]
  dsimp only
  rw [if_pos valid, taken]
  rfl

theorem strictEquals_texts
    {items : List JsValue}
    (areTexts : asStringArray (.array items) = some items) :
    (items.zip items).all (fun pair => pair.1.strictEquals pair.2) = true := by
  rw [asStringArray] at areTexts
  split at areTexts
  · rename_i valid
    rw [List.zip_eq_zipWith, List.zipWith_self, List.all_map,
      List.all_eq_true]
    intro item member
    have isText := List.all_eq_true.mp valid.2 item member
    cases item with
    | string text => simp [JsValue.strictEquals]
    | _ => cases isText
  · cases areTexts

end Format

end Selene.Extension
