import Selene.CollaborationBoundary

/-!
# Copies of collaboration records

`owned` returns every typed record unchanged, and a revision with its content
copied.  Bounded structural equality of two admitted records is equality.
-/

namespace Selene.Collaboration

open Js
open Baseline (DesignReadiness BaselineIntent BaselineCurrency
  DesignRevisionReference DesignBaseline DesignChangeScope VisualEvidence
  DesignChangeProvenance SemanticDesignChange)

/-! ## Records that are their own copies -/

@[simp] theorem inert_texts (values : List JsString) :
    Inert (Baseline.texts values) := by
  simp [Baseline.texts]

theorem inert_record
    (fields : List Record.Field)
    (names : (fields.map Prod.fst).all (· ≠ js "length") = true)
    (values : ∀ field ∈ fields, ∀ value ∈ field.2, Inert value) :
    Inert (.object (Record.ofFields fields)) := by
  refine inert_ofFields (fun field member => ?_) values
  have each := List.all_eq_true.mp names field.1 (List.mem_map_of_mem member)
  exact of_decide_eq_true each

section Inertness

attribute [local simp] textField optionalText textsField numberField
  countField js_inj

@[simp] theorem Viewport.inert (viewport : Viewport) : Inert viewport.toJs :=
  inert_record _ (by simp) (by simp)

@[simp] theorem RevisionEvidence.inert (evidence : RevisionEvidence) :
    Inert evidence.toJs :=
  inert_record _ (by simp) (by simp)

@[simp] theorem SpatialPoint.inert (point : SpatialPoint) :
    Inert point.toJs :=
  inert_record _ (by simp) (by simp)

@[simp] theorem SpatialRegion.inert (region : SpatialRegion) :
    Inert region.toJs :=
  inert_record _ (by simp) (by simp)

@[simp] theorem SpatialTarget.inert (target : SpatialTarget) :
    Inert target.toJs := by
  cases target with
  | point place => exact inert_record _ (by simp) (by simp)
  | region area => exact inert_record _ (by simp) (by simp)

@[simp] theorem SpatialAnchor.inert (anchor : SpatialAnchor) :
    Inert anchor.toJs :=
  inert_record _ (by simp) (by simp)

@[simp] theorem MessageReaction.inert (reaction : MessageReaction) :
    Inert reaction.toJs :=
  inert_record _ (by simp) (by simp)

@[simp] theorem ReviewThreadMessage.inert (message : ReviewThreadMessage) :
    Inert message.toJs :=
  inert_record _ (by simp) (by simp)

@[simp] theorem ReviewThreadBinding.inert (binding : ReviewThreadBinding) :
    Inert binding.toJs :=
  inert_record _ (by simp) (by simp)

@[simp] theorem ReviewThreadCompilerTargetProvenance.inert
    (provenance : ReviewThreadCompilerTargetProvenance) :
    Inert provenance.toJs :=
  inert_record _ (by simp) (by simp)

@[simp] theorem ReviewThread.inert (thread : ReviewThread) :
    Inert thread.toJs :=
  inert_record _ (by simp) (by simp)

@[simp] theorem AIChangeProviderSnapshot.inert
    (provider : AIChangeProviderSnapshot) :
    Inert provider.toJs :=
  inert_record _ (by simp) (by simp)

@[simp] theorem AIChangeRequestResult.inert (result : AIChangeRequestResult) :
    Inert result.toJs :=
  inert_record _ (by simp) (by simp)

@[simp] theorem inert_reference (reference : DesignRevisionReference) :
    Inert reference.toJs := by
  simp [Inert, DesignRevisionReference.toJs, inertCopy, inertCopyEntries]

end Inertness

/-! ## Records are values that can exist -/

theorem wellFormed_record
    (fields : List Record.Field)
    (names : (fields.map Prod.fst).Nodup)
    (values : ∀ field ∈ fields, ∀ value ∈ field.2, value.WellFormed) :
    (JsValue.object (Record.ofFields fields)).WellFormed := by
  refine .object (names.sublist (Record.keys_ofFields_sublist fields))
    fun entry member => ?_
  exact values _ (Record.mem_ofFields.mp member) entry.2 rfl

section Existence

attribute [local simp] textField optionalText textsField numberField
  countField js_inj JsValue.WellFormed.string JsValue.WellFormed.bool

@[simp] theorem wellFormed_number (number : OwnNumber) :
    (JsValue.number number.val).WellFormed :=
  .number number.property

@[simp] theorem wellFormed_count (count : Count) :
    (JsValue.number count.toNumber).WellFormed :=
  .number count.representable

@[simp] theorem wellFormed_texts (values : List JsString) :
    (Baseline.texts values).WellFormed := by
  refine .array fun item member => ?_
  obtain ⟨value, _, rfl⟩ := List.mem_map.mp member
  exact .string value

@[simp] theorem wellFormed_array
    {α : Type}
    {toJs : α → JsValue}
    (items : List α)
    (each : ∀ item, (toJs item).WellFormed) :
    (JsValue.array (items.map toJs)).WellFormed := by
  refine .array fun item member => ?_
  obtain ⟨record, _, rfl⟩ := List.mem_map.mp member
  exact each record

@[simp] theorem Viewport.wellFormed (viewport : Viewport) :
    viewport.toJs.WellFormed :=
  wellFormed_record _ (by simp) (by simp)

@[simp] theorem RevisionEvidence.wellFormed (evidence : RevisionEvidence) :
    evidence.toJs.WellFormed :=
  wellFormed_record _ (by simp) (by simp)

@[simp] theorem SpatialPoint.wellFormed (point : SpatialPoint) :
    point.toJs.WellFormed :=
  wellFormed_record _ (by simp) (by simp)

@[simp] theorem SpatialRegion.wellFormed (region : SpatialRegion) :
    region.toJs.WellFormed :=
  wellFormed_record _ (by simp) (by simp)

@[simp] theorem SpatialTarget.wellFormed (target : SpatialTarget) :
    target.toJs.WellFormed := by
  cases target with
  | point place => exact wellFormed_record _ (by simp) (by simp)
  | region area => exact wellFormed_record _ (by simp) (by simp)

@[simp] theorem SpatialAnchor.wellFormed (anchor : SpatialAnchor) :
    anchor.toJs.WellFormed :=
  wellFormed_record _ (by simp) (by simp)

@[simp] theorem MessageReaction.wellFormed (reaction : MessageReaction) :
    reaction.toJs.WellFormed :=
  wellFormed_record _ (by simp) (by simp)

@[simp] theorem ReviewThreadMessage.wellFormed (message : ReviewThreadMessage) :
    message.toJs.WellFormed :=
  wellFormed_record _ (by simp) (by simp)

@[simp] theorem ReviewThreadBinding.wellFormed (binding : ReviewThreadBinding) :
    binding.toJs.WellFormed :=
  wellFormed_record _ (by simp) (by simp)

@[simp] theorem ReviewThreadCompilerTargetProvenance.wellFormed
    (provenance : ReviewThreadCompilerTargetProvenance) :
    provenance.toJs.WellFormed :=
  wellFormed_record _ (by simp) (by simp)

@[simp] theorem ReviewThread.wellFormed (thread : ReviewThread) :
    thread.toJs.WellFormed :=
  wellFormed_record _ (by simp) (by simp)

end Existence

section Copying

attribute [local simp] textField optionalText textsField numberField
  countField js_inj

/-! ## Records that hold untyped content -/

/-- What `owned` returns of a revision. -/
def Revision.copy (revision : Revision) : Revision :=
  { revision with content :=
      ⟨inertCopy revision.content.val, revision.content.property.inertCopy⟩ }

/-- What `owned` returns of a snapshot. -/
def CollaborationSnapshot.copy (snapshot : CollaborationSnapshot) :
    CollaborationSnapshot :=
  { snapshot with revisions := snapshot.revisions.map Revision.copy }

theorem inertCopy_ofFields
    (fields : List Record.Field)
    (names : (fields.map Prod.fst).all (· ≠ js "length") = true) :
    inertCopy (.object (Record.ofFields fields)) =
      .object (Record.ofFields
        (fields.map fun field => (field.1, field.2.map inertCopy))) := by
  rw [inertCopy]
  congr 1
  induction fields with
  | nil => rfl
  | cons field rest inductionHypothesis =>
      obtain ⟨name, value⟩ := field
      simp only [List.map_cons, List.all_cons, Bool.and_eq_true,
        decide_eq_true_eq] at names
      have others := inductionHypothesis names.2
      cases value with
      | none => simpa [Record.ofFields_cons, Record.optionalEntry] using others
      | some value =>
          simp [Record.ofFields_cons, Record.optionalEntry, inertCopyEntries,
            names.1, others]

@[simp] theorem inertCopy_texts (values : List JsString) :
    inertCopy (Baseline.texts values) = Baseline.texts values :=
  inert_texts values

theorem Revision.toJs_copy (revision : Revision) :
    revision.copy.toJs = inertCopy revision.toJs := by
  rw [Revision.toJs, Revision.toJs, inertCopy_ofFields _ (by simp)]
  cases present : revision.parentRevisionId <;>
    simp [Revision.copy, inertCopy, present]

@[simp] theorem Revision.copy_copy (revision : Revision) :
    revision.copy.copy = revision.copy := by
  have same : inertCopy (inertCopy revision.content.val) =
      inertCopy revision.content.val := inert_inertCopy revision.content.val
  simp [Revision.copy, same]

theorem Revision.copy_eq_self_iff
    {revision : Revision} :
    revision.copy = revision ↔ Inert revision.content.val := by
  constructor
  · intro same
    exact congrArg (fun other => other.content.val) same
  · intro inert
    have content : (⟨inertCopy revision.content.val,
        revision.content.property.inertCopy⟩ : OwnValue) =
          revision.content := Subtype.ext inert
    rw [Revision.copy, content]

@[simp] theorem CollaborationSnapshot.copy_copy
    (snapshot : CollaborationSnapshot) :
    snapshot.copy.copy = snapshot.copy := by
  simp [CollaborationSnapshot.copy]

theorem CollaborationSnapshot.copy_eq_self_iff
    {snapshot : CollaborationSnapshot} :
    snapshot.copy = snapshot ↔
      ∀ revision ∈ snapshot.revisions, Inert revision.content.val := by
  constructor
  · intro same revision member
    have revisions : snapshot.revisions.map Revision.copy =
        snapshot.revisions :=
      congrArg CollaborationSnapshot.revisions same
    exact Revision.copy_eq_self_iff.mp
      (List.map_eq_map_iff.mp (revisions.trans (List.map_id _).symm)
        revision member)
  · intro inert
    have revisions : snapshot.revisions.map Revision.copy =
        snapshot.revisions := by
      conv => rhs; rw [← List.map_id snapshot.revisions]
      exact List.map_congr_left fun revision member =>
        Revision.copy_eq_self_iff.mpr (inert revision member)
    rw [CollaborationSnapshot.copy, revisions]

end Copying

/-! ## Equality of records -/

section Equality

attribute [local simp] textField optionalText numberField js_inj

@[simp] theorem sameField_text (first second : Option JsString) :
    sameField (first.map .string) (second.map .string) = true ↔
      first = second :=
  sameField_map (by simp) first second

theorem sameInert_reference (first second : DesignRevisionReference) :
    sameInert first.toJs second.toJs = true ↔ first = second := by
  cases first
  cases second
  simp [DesignRevisionReference.toJs, sameInert, sameInertEntries]

theorem AIChangeProviderSnapshot.sameInert_iff
    (first second : AIChangeProviderSnapshot) :
    sameInert first.toJs second.toJs = true ↔ first = second := by
  cases first
  cases second
  rw [toJs, toJs, sameInert_ofFields (by simp) (by simp)]
  simp

theorem AIChangeRequestResult.sameInert_iff
    (first second : AIChangeRequestResult) :
    sameInert first.toJs second.toJs = true ↔ first = second := by
  cases first
  cases second
  rw [toJs, toJs, sameInert_ofFields (by simp) (by simp)]
  simp

theorem Viewport.sameInert_iff (first second : Viewport) :
    sameInert first.toJs second.toJs = true ↔ first = second := by
  cases first
  cases second
  rw [toJs, toJs, sameInert_ofFields (by simp) (by simp)]
  simp [Subtype.val_inj]

theorem RevisionEvidence.sameInert_iff (first second : RevisionEvidence) :
    sameInert first.toJs second.toJs = true ↔ first = second := by
  cases first
  cases second
  rw [toJs, toJs, sameInert_ofFields (by simp) (by simp)]
  simp [Viewport.sameInert_iff]

theorem SpatialPoint.sameInert_iff (first second : SpatialPoint) :
    sameInert first.toJs second.toJs = true ↔ first = second := by
  cases first
  cases second
  rw [toJs, toJs, sameInert_ofFields (by simp) (by simp)]
  simp [Subtype.val_inj]

theorem SpatialRegion.sameInert_iff (first second : SpatialRegion) :
    sameInert first.toJs second.toJs = true ↔ first = second := by
  cases first
  cases second
  rw [toJs, toJs, sameInert_ofFields (by simp) (by simp)]
  simp [Subtype.val_inj]

theorem SpatialTarget.sameInert_iff (first second : SpatialTarget) :
    sameInert first.toJs second.toJs = true ↔ first = second := by
  cases first with
  | point place =>
      cases second with
      | point other =>
          rw [toJs, toJs, sameInert_ofFields (by simp) (by simp)]
          simp [SpatialPoint.sameInert_iff]
      | region area =>
          simp [toJs, Record.ofFields, Record.optionalEntry, sameInert,
            sameInertEntries]
  | region area =>
      cases second with
      | point place =>
          simp [toJs, Record.ofFields, Record.optionalEntry, sameInert,
            sameInertEntries]
      | region other =>
          rw [toJs, toJs, sameInert_ofFields (by simp) (by simp)]
          simp [SpatialRegion.sameInert_iff]

theorem AnchorLifecycle.text_injective :
    Function.Injective AnchorLifecycle.text := by
  intro first second
  cases first <;> cases second <;> simp [text, js_inj]

theorem SpatialAnchor.sameInert_iff (first second : SpatialAnchor) :
    sameInert first.toJs second.toJs = true ↔ first = second := by
  cases first
  cases second
  rw [toJs, toJs, sameInert_ofFields (by simp) (by simp)]
  simp [RevisionEvidence.sameInert_iff, SpatialTarget.sameInert_iff,
    AnchorLifecycle.text_injective.eq_iff,
    sameField_map RevisionEvidence.sameInert_iff]

end Equality

end Selene.Collaboration
