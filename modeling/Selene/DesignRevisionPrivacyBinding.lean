import Selene.DesignRevisionPrivacy
import Mathlib.Algebra.BigOperators.Group.List.Basic

/-!
# The privacy binding

The binding of a privacy record is the canonical text of its terms.  Equal
bindings come from equal terms, and the 4096 units a binding may have bound
everything in the record that is not of bounded size by itself.
-/

namespace Selene.Revision

open Js

/-- A privacy field as the binding writes it. -/
def DesignPrivacyField.toTuple (field : DesignPrivacyField) : Json Nat :=
  .array [
    .text (Literal.text field.category),
    .text (Literal.text field.mode),
    .text field.digest.val]

/-- A telemetry policy as the binding writes it. -/
def DesignRevisionTelemetryPolicy.toTuple
    (policy : DesignRevisionTelemetryPolicy) : Json Nat :=
  .array [
    .text (js "selene-design-telemetry-policy/v1"),
    .text policy.mode,
    .text policy.consent,
    .text (js "denied"),
    .array (policy.fields.val.map fun field => .text (Literal.text field))]

/-- What the privacy binding commits to. -/
def DesignPrivacyTerms.bindingDocument
    (terms : DesignPrivacyTerms) : Json Nat :=
  .array [
    .text (js "selene-design-revision-privacy-binding/v2"),
    .text (Literal.text terms.classification),
    .text terms.contentDigest.val,
    .orNull (terms.promptDigest.map Subtype.val),
    .array (terms.fields.val.map DesignPrivacyField.toTuple),
    .text terms.deleteAfter.val,
    .text (js "tombstone"),
    .text terms.tombstoneDigest.val,
    .text terms.exportPolicyDigest.val,
    .text terms.auditCorrelationId.val,
    .array (terms.exclusions.val.map Json.word),
    terms.telemetry.toTuple]

/-- `createDesignRevisionPrivacyBindingFromParsed`. -/
def createDesignRevisionPrivacyBindingFromParsed
    (parsed : DesignRevisionPrivacy) : Checked PrivacyBinding :=
  privacyBinding
    (.string
      (Json.stringify decimal parsed.toDesignPrivacyTerms.bindingDocument))

/-! ## Equal bindings -/

theorem DesignPrivacyField.toTuple_injective :
    Function.Injective DesignPrivacyField.toTuple := by
  intro first second same
  simp only [toTuple, Json.array.injEq, List.cons.injEq, Json.text.injEq,
    Literal.text_injective.eq_iff, Subtype.val_inj, and_true] at same
  obtain ⟨sameCategory, sameMode, sameDigest⟩ := same
  cases first
  cases second
  simp_all

theorem DesignRevisionTelemetryPolicy.toTuple_injective :
    Function.Injective DesignRevisionTelemetryPolicy.toTuple := by
  intro first second same
  simp only [toTuple, Json.array.injEq, List.cons.injEq, Json.text.injEq,
    and_true, true_and] at same
  obtain ⟨sameMode, _, sameFields⟩ := same
  have injective :
      Function.Injective
        fun field : DesignTelemetryField =>
          (.text (Literal.text field) : Json Nat) :=
    fun _ _ sameText => Literal.text_injective (Json.text.inj sameText)
  have sameSets : first.fields = second.fields :=
    StrictlySorted.ext (injective.list_map sameFields)
  cases first with
  | disabled =>
      cases second with
      | disabled => rfl
      | localRedacted others nonempty => simp [mode] at sameMode
  | localRedacted fields nonempty =>
      cases second with
      | disabled => simp [mode] at sameMode
      | localRedacted others othersNonempty =>
          simp only [DesignRevisionTelemetryPolicy.fields] at sameSets
          simp only [sameSets]

theorem word_injective
    {valid : JsString → Prop} :
    Function.Injective
      (Json.word : { text // valid text } → Json Nat) :=
  fun _ _ same => Subtype.ext (Json.text.inj same)

theorem DesignPrivacyTerms.bindingDocument_injective :
    Function.Injective DesignPrivacyTerms.bindingDocument := by
  intro first second same
  simp only [bindingDocument, Json.array.injEq, List.cons.injEq,
    Json.text.injEq, Literal.text_injective.eq_iff, Subtype.val_inj,
    Json.orNull_inj, and_true, true_and,
    (Option.map_injective Subtype.val_injective).eq_iff,
    DesignPrivacyField.toTuple_injective.list_map.eq_iff,
    (@word_injective IsIdentifier).list_map.eq_iff,
    DesignRevisionTelemetryPolicy.toTuple_injective.eq_iff] at same
  obtain ⟨sameClassification, sameContent, samePrompt, sameFields,
    sameDelete, sameTombstone, sameExport, sameCorrelation, sameExclusions,
    sameTelemetry⟩ := same
  have sameFieldSets := StrictlySorted.ext sameFields
  have sameExclusionSets := StrictlySorted.ext sameExclusions
  cases first
  cases second
  simp_all

theorem prefix_stringify_array
    (head : JsString)
    (next : Json Nat)
    (rest : List (Json Nat)) :
    0x5B :: (quote head ++ [0x2C]) <+:
      Json.stringify decimal (.array (.text head :: next :: rest)) := by
  simp only [Json.stringify, Json.stringifyItems, ↓reduceIte,
    List.nil_append, Bool.false_eq_true, List.cons_append]
  refine List.cons_prefix_cons.mpr ⟨rfl, ?_⟩
  rw [List.prefix_append_right_inj]
  exact List.cons_prefix_cons.mpr ⟨rfl, List.nil_prefix⟩

theorem DesignPrivacyTerms.isBinding_iff (terms : DesignPrivacyTerms) :
    IsBinding maxPrivacyBinding privacyBindingPrefixes
        (Json.stringify decimal terms.bindingDocument) ↔
      (Json.stringify decimal terms.bindingDocument).length ≤
        maxPrivacyBinding := by
  have start :
      js "[\"selene-design-revision-privacy-binding/v2\"," <+:
        Json.stringify decimal terms.bindingDocument := by
    have quoted :
        js "[\"selene-design-revision-privacy-binding/v2\"," =
          0x5B :: (quote (js "selene-design-revision-privacy-binding/v2") ++
            [0x2C]) := by
      decide
    rw [quoted]
    exact prefix_stringify_array _ _ _
  constructor
  · exact And.left
  · intro short
    exact ⟨short, _, by simp [privacyBindingPrefixes], start⟩

theorem createDesignRevisionPrivacyBindingFromParsed_eq_ok
    {parsed : DesignRevisionPrivacy}
    {binding : PrivacyBinding} :
    createDesignRevisionPrivacyBindingFromParsed parsed = .ok binding ↔
      binding.val =
        Json.stringify decimal
          parsed.toDesignPrivacyTerms.bindingDocument := by
  unfold createDesignRevisionPrivacyBindingFromParsed privacyBinding
  rw [binding_eq_ok, JsValue.string.injEq]
  exact eq_comm

theorem terms_eq_of_binding_eq
    {first second : DesignRevisionPrivacy}
    {binding : PrivacyBinding}
    (firstBound :
      createDesignRevisionPrivacyBindingFromParsed first = .ok binding)
    (secondBound :
      createDesignRevisionPrivacyBindingFromParsed second = .ok binding) :
    first.toDesignPrivacyTerms = second.toDesignPrivacyTerms := by
  rw [createDesignRevisionPrivacyBindingFromParsed_eq_ok] at firstBound
  rw [createDesignRevisionPrivacyBindingFromParsed_eq_ok] at secondBound
  apply DesignPrivacyTerms.bindingDocument_injective
  apply Json.stringify_injective decimal
  rw [← firstBound, ← secondBound]

/-! ## Size of the terms -/

theorem DesignPrivacyTerms.plain_bindingDocument
    (terms : DesignPrivacyTerms) :
    terms.bindingDocument.Plain := by
  have plainFields :
      ∀ field ∈ terms.fields.val, field.toTuple.Plain := by
    intro field _
    simp only [DesignPrivacyField.toTuple, Json.Plain, Json.PlainItems,
      Literal.plain, Digest.plain, and_self]
  have plainTelemetry : terms.telemetry.toTuple.Plain := by
    have plainMode := terms.telemetry.modeText.1
    have plainConsent := terms.telemetry.consentText.1
    simp only [DesignRevisionTelemetryPolicy.toTuple, Json.Plain,
      Json.PlainItems, plainMode, plainConsent, Json.plainItems_iff,
      List.forall_mem_map, Literal.plain, implies_true, and_true, true_and]
    decide
  have plainPrompt :
      (Json.orNull (terms.promptDigest.map Subtype.val) :
        Json Nat).Plain := by
    cases terms.promptDigest with
    | none => trivial
    | some value => exact value.plain
  simp only [bindingDocument, Json.Plain, Json.PlainItems,
    Json.plainItems_iff, List.forall_mem_map, Json.word, Literal.plain,
    Digest.plain, Instant.plain, Identifier.plain, implies_true,
    plainPrompt, plainTelemetry, and_true, true_and]
  exact ⟨by decide, plainFields, by decide⟩

theorem DesignPrivacyTerms.nonempty_bindingDocument
    (terms : DesignPrivacyTerms) :
    terms.bindingDocument.NonemptyTexts := by
  have literalNonempty :
      ∀ {α : Type} [Literal α] (member : α), Literal.text member ≠ [] :=
    fun member => List.length_pos_iff.mp (Literal.length_bounds member).1
  have identifierNonempty (identifier : Identifier) :
      identifier.val ≠ [] :=
    List.length_pos_iff.mp identifier.length_bounds.1
  have digestNonempty (digest : Digest) : digest.val ≠ [] := by
    rw [← List.length_pos_iff, digest.length]
    decide
  have instantNonempty (instant : Instant) : instant.val ≠ [] := by
    rw [← List.length_pos_iff]
    rcases instant.length_cases with short | long <;> omega
  have nonemptyFields :
      ∀ field ∈ terms.fields.val, field.toTuple.NonemptyTexts := by
    intro field _
    simp only [DesignPrivacyField.toTuple, Json.NonemptyTexts,
      Json.NonemptyTextsItems, literalNonempty, digestNonempty,
      not_false_eq_true, ne_eq, and_self]
  have nonemptyTelemetry : terms.telemetry.toTuple.NonemptyTexts := by
    have nonemptyMode := List.length_pos_iff.mp terms.telemetry.modeText.2.1
    have nonemptyConsent :=
      List.length_pos_iff.mp terms.telemetry.consentText.2.1
    simp only [DesignRevisionTelemetryPolicy.toTuple, Json.NonemptyTexts,
      Json.NonemptyTextsItems, nonemptyMode, nonemptyConsent, ne_eq,
      Json.nonemptyTextsItems_iff, List.forall_mem_map, literalNonempty,
      not_false_eq_true, implies_true, and_true, true_and]
    decide
  have nonemptyPrompt :
      (Json.orNull (terms.promptDigest.map Subtype.val) :
        Json Nat).NonemptyTexts := by
    cases terms.promptDigest with
    | none => trivial
    | some value => exact digestNonempty value
  simp only [bindingDocument, Json.NonemptyTexts, Json.NonemptyTextsItems,
    Json.nonemptyTextsItems_iff, List.forall_mem_map, Json.word,
    literalNonempty, digestNonempty, instantNonempty, identifierNonempty,
    ne_eq, not_false_eq_true, implies_true, nonemptyPrompt,
    nonemptyTelemetry, and_true, true_and]
  exact ⟨by decide, nonemptyFields, by decide⟩

theorem DesignPrivacyTerms.length_fields_le
    {terms : DesignPrivacyTerms}
    (short :
      (Json.stringify decimal terms.bindingDocument).length ≤
        maxPrivacyBinding) :
    66 * terms.fields.val.length ≤ maxPrivacyBinding := by
  have inside :
      (Json.stringify decimal
          (.array (terms.fields.val.map DesignPrivacyField.toTuple))).length <
        (Json.stringify decimal terms.bindingDocument).length :=
    Json.length_le_length_stringify_array decimal (by simp)
  have fit :=
    @Json.sum_le_length_stringifyItems _ decimal _
      DesignPrivacyField.toTuple (fun _ => 65) terms.fields.val
      fun field _ => by
        simp only [DesignPrivacyField.toTuple, Json.length_stringify_array,
          Json.length_stringifyItems_cons, Json.length_stringify_text,
          field.digest.plain.escape, field.digest.length]
        omega
  rw [Json.length_stringify_array] at inside
  simp only [List.map_const', List.sum_replicate_nat] at fit
  omega

theorem DesignPrivacyTerms.length_exclusions_le
    {terms : DesignPrivacyTerms}
    (short :
      (Json.stringify decimal terms.bindingDocument).length ≤
        maxPrivacyBinding) :
    (terms.exclusions.val.map
        fun exclusion : Identifier => exclusion.val.length).sum +
      3 * terms.exclusions.val.length ≤ maxPrivacyBinding := by
  have inside :
      (Json.stringify decimal
          (.array (terms.exclusions.val.map Json.word))).length <
        (Json.stringify decimal terms.bindingDocument).length :=
    Json.length_le_length_stringify_array decimal (by simp)
  have fit :=
    @Json.sum_le_length_stringifyItems _ decimal _
      Json.word (fun exclusion : Identifier => exclusion.val.length + 2)
      terms.exclusions.val
      fun exclusion _ => by
        rw [Json.word, Json.length_stringify_text,
          (Identifier.plain exclusion).escape]
  rw [Json.length_stringify_array] at inside
  rw [List.sum_map_add] at fit
  simp only [List.map_const', List.sum_replicate_nat] at fit
  omega

end Selene.Revision
