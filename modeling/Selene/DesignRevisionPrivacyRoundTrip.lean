import Selene.DesignRevisionBudget
import Selene.DesignRevisionPrivacyBinding
import Mathlib.Algebra.BigOperators.Ring.List

/-!
# Round trip of privacy records

A privacy record that is returned is accepted again, unchanged.  For the audit
this includes the snapshot that its parser takes, so the size of its document
is bounded first; the record itself is small when its terms have a binding.
-/

namespace Selene.Revision

open Js

/-! ## Single fields -/

theorem fits_literal
    {literal : String}
    (short : utf8Length (js literal) ≤ 64) :
    Document.Fits (.text (js literal)) 1 64 0 :=
  .text short

theorem Literal.fits
    {α : Type}
    [Literal α]
    (member : α) :
    Document.Fits (.text (Literal.text member)) 1 96 0 :=
  .text (Literal.utf8Length_le member)

theorem Identifier.fits (value : Identifier) :
    Document.Fits (Json.word value) 1 128 0 :=
  .text value.utf8Length_le

theorem Digest.fits (value : Digest) :
    Document.Fits (Json.word value) 1 192 0 :=
  .text value.utf8Length_le

theorem Instant.fits (value : Instant) :
    Document.Fits (Json.word value) 1 192 0 :=
  .text value.utf8Length_le

theorem fits_binding
    {limit : Nat}
    {prefixes : List String}
    (value : { text : JsString // IsBinding limit prefixes text }) :
    Document.Fits (Json.word value) 1 (3 * limit) 0 :=
  .text (utf8Length_binding_le value)

/-! ## The audit -/

variable (transition : DesignPrivacyTransition)

theorem DesignPrivacyTransition.fits :
    Document.Fits transition.toJson 10 21000 1 :=
  .mono
    (.object
      (.entry (by decide) (fits_literal (by decide))
      (.entry (by decide) (Literal.fits transition.fromLifecycle)
      (.entry (by decide) (Literal.fits transition.toLifecycle)
      (.entry (by decide) transition.occurredAt.fits
      (.entry (by decide) transition.auditCorrelationId.fits
      (.optional (by decide) Identifier.fits
      (.optional (by decide) fits_binding
      (.optional (by decide) fits_binding
      (.optional (by decide) Digest.fits
      .nil))))))))))
    (by decide) (by decide) (by decide)

@[simp] theorem parseDesignPrivacyTransition_toJs :
    parseDesignPrivacyTransition transition.toJson.toJs =
      .ok transition := by
  have captured :
      snapshot transition.toJson.toJs = .ok transition.toJson.toJs :=
    snapshot_toJs transition.fits (by decide) (by decide) (by decide)
  have shape :
      exact transition.toJson.toJs
          ["auditCorrelationId", "format", "from", "occurredAt", "to"]
          ["priorPrivacyBinding", "priorRevisionId", "priorTupleBinding",
            "tombstoneDigest"] =
        .ok _ :=
    exact_object
      (by
        simp only [Json.toJsEntries_cons, Json.toJsEntries_append,
          Json.toJsEntries_optionalEntry, Record.keys_cons,
          Record.keys_append, List.mem_cons, List.mem_append,
          Record.mem_keys_optionalEntry]
        simp
        grind)
      (by simp)
  rw [parseDesignPrivacyTransition, captured, ok_bind, shape, ok_bind]
  simp [-Option.map_subtype, optionally_word digest_val,
    optionally_word text_val, optionally_word tupleBinding_val,
    optionally_word privacyBinding_val,
    require_of transition.priorTogether,
    require_of transition.tombstoneMatches]

/-! ## Fields and telemetry -/

@[simp] theorem parseDesignPrivacyField_toJs (field : DesignPrivacyField) :
    parseDesignPrivacyField field.toJson.toJs = .ok field := by
  have shape :
      exact field.toJson.toJs ["category", "digest", "mode"] = .ok _ :=
    exact_object (by simp) (by simp)
  rw [parseDesignPrivacyField, shape, ok_bind]
  simp

theorem mapM_literal
    {α : Type}
    [Literal α]
    (members : List α)
    (code : ValidationCode) :
    (members.map fun member =>
        JsValue.string (Literal.text member)).mapM
        (fun value => orFail (Literal.parse value) code) =
      .ok members :=
  mapM_map_eq_ok (fun member => by simp) members

variable (policy : DesignRevisionTelemetryPolicy)

@[simp] theorem parseTelemetryPolicy_toJs :
    parseTelemetryPolicy policy.toJson.toJs = .ok policy := by
  have shape :
      exact policy.toJson.toJs
          ["consent", "export", "fields", "format", "mode"] =
        .ok _ :=
    exact_object (by simp) (by simp)
  have values :
      policy.fields.val.map
          (Json.toJs ∘ fun field => .text (Literal.text field)) =
        policy.fields.val.map fun field =>
          JsValue.string (Literal.text field) :=
    rfl
  rw [parseTelemetryPolicy, shape, ok_bind]
  simp [-List.mapM_map, values, mapM_literal, sortUnique_val]
  cases policy with
  | disabled =>
      simp [DesignRevisionTelemetryPolicy.mode,
        DesignRevisionTelemetryPolicy.consent,
        DesignRevisionTelemetryPolicy.fields, StrictlySorted.empty]
      rfl
  | localRedacted fields nonempty =>
      simp [DesignRevisionTelemetryPolicy.mode,
        DesignRevisionTelemetryPolicy.consent,
        DesignRevisionTelemetryPolicy.fields, require, nonempty]

/-! ## The record -/

@[simp] theorem privacy_toJs (record : DesignRevisionPrivacy) :
    privacy record.toJson.toJs = .ok record := by
  have shape :
      exact record.toJson.toJs
          ["auditCorrelationId", "classification", "contentDigest",
            "deletion", "exclusions", "exportPolicyDigest", "fields",
            "format", "lifecycle", "retention", "telemetry"]
          ["lifecycleAudit", "promptDigest"] =
        .ok _ :=
    exact_object (by simp; grind) (by simp)
  have retentionShape :
      exact (.object [(js "deleteAfter",
          .string record.deleteAfter.val)]) ["deleteAfter"] =
        .ok _ :=
    exact_object (by simp) (by simp)
  have deletionShape :
      exact (.object [(js "action", .string (js "tombstone")),
          (js "tombstoneDigest", .string record.tombstoneDigest.val)])
          ["action", "tombstoneDigest"] =
        .ok _ :=
    exact_object (by simp) (by simp)
  have fieldValues :
      (record.fields.val.map
          (Json.toJs ∘ DesignPrivacyField.toJson)).mapM
          parseDesignPrivacyField =
        .ok record.fields.val :=
    mapM_map_eq_ok parseDesignPrivacyField_toJs _
  have exclusionValues :
      (record.exclusions.val.map
          (Json.toJs ∘ Json.word)).mapM text =
        .ok record.exclusions.val :=
    mapM_map_eq_ok text_val _
  have audit :
      optionally parseDesignPrivacyTransition
          ((record.lifecycleAudit.map
            (Json.toJs ∘ DesignPrivacyTransition.toJson)).getD .undefined) =
        .ok record.lifecycleAudit :=
    optionally_getD (by simp [DesignPrivacyTransition.toJson])
      parseDesignPrivacyTransition_toJs _
  rw [privacy, shape, ok_bind]
  simp [-Option.map_subtype, -List.map_subtype, -List.mapM_map,
    optionally_word digest_val, audit, fieldValues, exclusionValues,
    retentionShape, deletionShape, sortUnique_val,
    require_of record.auditMatches, require_of record.requiredExclusions]

/-! ## Size of the record -/

theorem DesignPrivacyField.fits (field : DesignPrivacyField) :
    Document.Fits field.toJson 4 504 1 :=
  .mono
    (.object
      (.entry (by decide) (Literal.fits field.category)
      (.entry (by decide) (Literal.fits field.mode)
      (.entry (by decide) field.digest.fits
      .nil))))
    (by decide) (by decide) (by decide)

theorem LiteralSet.length_le
    {α : Type}
    [Literal α]
    (set : LiteralSet α) :
    set.val.length ≤ (Literal.members : List α).length := by
  have distinct : set.val.Nodup := set.nodup_keys.of_map _
  have listed : set.val ⊆ Literal.members :=
    fun member _ => Literal.complete member
  exact (List.subperm_of_subset distinct listed).length_le

theorem DesignRevisionTelemetryPolicy.fits :
    Document.Fits policy.toJson 12 900 2 := by
  have count : policy.fields.val.length ≤ 3 := LiteralSet.length_le _
  have mode : utf8Length policy.mode ≤ 96 := by
    have short := policy.modeText.2
    have bytes := Js.utf8Length_le policy.mode
    omega
  have consent : utf8Length policy.consent ≤ 96 := by
    have short := policy.consentText.2
    have bytes := Js.utf8Length_le policy.consent
    omega
  exact .mono
    (.object
      (.entry (by decide) (fits_literal (by decide))
      (.entry (by decide) (.text mode)
      (.entry (by decide) (.text consent)
      (.entry (by decide) (fits_literal (by decide))
      (.entry (by decide) (.array Literal.fits count)
      .nil))))))
    (by decide) (by decide) (by decide)

theorem DesignRevisionPrivacy.fits
    {record : DesignRevisionPrivacy}
    {binding : PrivacyBinding}
    (bound :
      createDesignRevisionPrivacyBindingFromParsed record = .ok binding) :
    Document.Fits record.toJson 3200 80000 3 := by
  have short :
      (Json.stringify decimal
          record.toDesignPrivacyTerms.bindingDocument).length ≤
        maxPrivacyBinding := by
    rw [← createDesignRevisionPrivacyBindingFromParsed_eq_ok.mp bound]
    exact binding.property.1
  have limit : maxPrivacyBinding = 4096 := rfl
  have fieldCount : record.fields.val.length ≤ 62 := by
    have bounded := DesignPrivacyTerms.length_fields_le short
    omega
  have exclusionTexts := DesignPrivacyTerms.length_exclusions_le short
  have exclusionCount : record.exclusions.val.length ≤ 1365 := by
    omega
  have exclusionBytes :
      (record.exclusions.val.map
        fun exclusion : Identifier =>
          3 * exclusion.val.length).sum ≤ 12288 := by
    rw [List.sum_map_mul_left]
    omega
  have exclusions :
      ∀ exclusion ∈ record.exclusions.val,
        Document.Fits (Json.word exclusion) 1
          (3 * exclusion.val.length) 0 :=
    fun exclusion _ => .text (Js.utf8Length_le _)
  exact .mono
    (.object
      (.entry (by decide) (fits_literal (by decide))
      (.entry (by decide) (Literal.fits record.classification)
      (.entry (by decide) record.contentDigest.fits
      (.optional (by decide) Digest.fits
      (.entry (by decide) (Literal.fits record.lifecycle)
      (.optional (by decide) DesignPrivacyTransition.fits
      (.entry (by decide) (.array DesignPrivacyField.fits fieldCount)
      (.entry (by decide)
        (.object (.entry (by decide) record.deleteAfter.fits .nil))
      (.entry (by decide)
        (.object
          (.entry (by decide) (fits_literal (by decide))
          (.entry (by decide) record.tombstoneDigest.fits .nil)))
      (.entry (by decide) record.exportPolicyDigest.fits
      (.entry (by decide) record.auditCorrelationId.fits
      (.entry (by decide)
        (.arrayOf exclusions exclusionCount exclusionBytes)
      (.entry (by decide) record.telemetry.fits
      .nil))))))))))))))
    (by decide) (by decide) (by decide)

end Selene.Revision
