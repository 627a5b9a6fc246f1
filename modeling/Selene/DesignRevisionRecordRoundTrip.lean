import Selene.DesignRevisionPrivacyRoundTrip
import Selene.DesignRevisionRecord

/-!
# Round trip of design revisions

A revision that is returned is accepted again, unchanged, and its commitment
determines it.
-/

namespace Selene.Revision

open Js

/-! ## Commitments -/

theorem DeploymentIdentity.toTuple_append_inj
    {first second : DeploymentIdentity}
    {firstRest secondRest : List (Json Nat)}
    (same : first.toTuple ++ firstRest = second.toTuple ++ secondRest) :
    first = second ∧ firstRest = secondRest := by
  cases first <;> cases second <;>
    simp_all [DeploymentIdentity.toTuple, Subtype.val_inj]

theorem DesignRevisionTuple.bindingDocument_injective :
    Function.Injective DesignRevisionTuple.bindingDocument := by
  intro first second same
  simp only [bindingDocument, Json.array.injEq, List.cons.injEq,
    Json.text.injEq, Subtype.val_inj, true_and] at same
  obtain ⟨sameSource, sameGraph, sameBinding, sameLog, sameLock, sameRest⟩ :=
    same
  obtain ⟨sameDeployment, sameTail⟩ :=
    DeploymentIdentity.toTuple_append_inj sameRest
  simp only [List.cons.injEq, Json.text.injEq, Subtype.val_inj,
    and_true] at sameTail
  obtain ⟨sameBuild, samePreview, sameCompiler, sameCompilerDigest⟩ :=
    sameTail
  have samePreviews : first.preview = second.preview := by
    cases firstPreview : first.preview
    cases secondPreview : second.preview
    simp_all
  have sameCompilers : first.compiler = second.compiler := by
    cases firstCompiler : first.compiler
    cases secondCompiler : second.compiler
    simp_all
  cases first
  cases second
  simp_all

theorem createDesignRevisionTupleBindingFromParsed_eq_ok
    {tupleValue : DesignRevisionTuple}
    {binding : TupleBinding} :
    createDesignRevisionTupleBindingFromParsed tupleValue = .ok binding ↔
      binding.val = Json.stringify decimal tupleValue.bindingDocument := by
  unfold createDesignRevisionTupleBindingFromParsed tupleBinding
  rw [binding_eq_ok, JsValue.string.injEq]
  exact eq_comm

theorem tuple_eq_of_binding_eq
    {first second : UncommittedRevision}
    (sameBinding : first.tupleBinding = second.tupleBinding) :
    first.tuple = second.tuple := by
  have firstText :=
    createDesignRevisionTupleBindingFromParsed_eq_ok.mp first.tupleBinding_eq
  have secondText :=
    createDesignRevisionTupleBindingFromParsed_eq_ok.mp
      second.tupleBinding_eq
  apply DesignRevisionTuple.bindingDocument_injective
  apply Json.stringify_injective decimal
  rw [← firstText, ← secondText, sameBinding]

theorem DesignPrivacyTransition.toTuple_injective :
    Function.Injective DesignPrivacyTransition.toTuple := by
  intro first second same
  simp only [toTuple, Json.array.injEq, List.cons.injEq, Json.text.injEq,
    Literal.text_injective.eq_iff, Subtype.val_inj, Json.orNull_inj,
    (Option.map_injective Subtype.val_injective).eq_iff, and_true,
    true_and] at same
  cases first
  cases second
  simp_all

theorem createDesignRevisionCommitmentFromParsed_eq_ok
    {revision : UncommittedRevision}
    {commitment : RevisionCommitment} :
    createDesignRevisionCommitmentFromParsed revision = .ok commitment ↔
      ∃ privacyBinding,
        createDesignRevisionPrivacyBindingFromParsed revision.privacy =
            .ok privacyBinding ∧
          commitment.val =
            Json.stringify decimal
              (revision.commitmentDocument privacyBinding) := by
  unfold createDesignRevisionCommitmentFromParsed revisionCommitment
  simp only [bind_eq_ok, binding_eq_ok, JsValue.string.injEq]
  constructor <;>
  · rintro ⟨privacyBinding, bound, text⟩
    exact ⟨privacyBinding, bound, text.symm⟩

theorem DesignRevision.exists_privacyBinding (revision : DesignRevision) :
    ∃ privacyBinding,
      createDesignRevisionPrivacyBindingFromParsed revision.privacy =
        .ok privacyBinding := by
  obtain ⟨privacyBinding, bound, _⟩ :=
    createDesignRevisionCommitmentFromParsed_eq_ok.mp
      revision.revisionCommitment_eq
  exact ⟨privacyBinding, bound⟩

theorem DesignRevision.eq_of_commitment_eq
    {first second : DesignRevision}
    (sameCommitment :
      first.revisionCommitment = second.revisionCommitment) :
    first = second := by
  obtain ⟨firstBinding, firstBound, firstText⟩ :=
    createDesignRevisionCommitmentFromParsed_eq_ok.mp
      first.revisionCommitment_eq
  obtain ⟨secondBinding, secondBound, secondText⟩ :=
    createDesignRevisionCommitmentFromParsed_eq_ok.mp
      second.revisionCommitment_eq
  have sameDocument :
      first.commitmentDocument firstBinding =
        second.commitmentDocument secondBinding := by
    apply Json.stringify_injective decimal
    rw [← firstText, ← secondText, sameCommitment]
  simp only [UncommittedRevision.commitmentDocument, Json.array.injEq,
    List.cons.injEq, Json.text.injEq, Json.number.injEq, Json.orNull_inj,
    (Option.map_injective Subtype.val_injective).eq_iff, Subtype.val_inj,
    Literal.text_injective.eq_iff, and_true, true_and] at sameDocument
  obtain ⟨sameTenant, sameProject, sameId, sameParent, sameSequence,
    sameCreated, sameTupleBinding, samePrivacyBinding, sameLifecycle,
    sameAudit⟩ := sameDocument
  have sameTuple := tuple_eq_of_binding_eq sameTupleBinding
  have sameTerms :
      first.privacy.toDesignPrivacyTerms =
        second.privacy.toDesignPrivacyTerms :=
    terms_eq_of_binding_eq firstBound (samePrivacyBinding ▸ secondBound)
  have sameAudits :
      first.privacy.lifecycleAudit = second.privacy.lifecycleAudit := by
    revert sameAudit
    cases first.privacy.lifecycleAudit <;>
      cases second.privacy.lifecycleAudit <;>
      simp [DesignPrivacyTransition.toTuple_injective.eq_iff]
    all_goals simp [DesignPrivacyTransition.toTuple]
  have samePrivacy : first.privacy = second.privacy := by
    cases firstPrivacy : first.privacy
    cases secondPrivacy : second.privacy
    simp_all
  have sameFields :
      first.toUncommittedRevision = second.toUncommittedRevision := by
    cases firstFields : first.toUncommittedRevision
    cases secondFields : second.toUncommittedRevision
    simp_all
  cases first
  cases second
  simp_all

/-! ## Size of the documents -/

theorem DeploymentIdentity.fits (value : DeploymentIdentity) :
    Document.Fits value.toJson 5 700 1 := by
  cases value with
  | unpublished draftId manifestDigest =>
      exact .mono
        (.object
          (.entry (by decide) (fits_literal (by decide))
          (.entry (by decide) (fits_literal (by decide))
          (.entry (by decide) draftId.fits
          (.entry (by decide) manifestDigest.fits
          .nil)))))
        (by decide) (by decide) (by decide)
  | deployed deploymentId manifestDigest =>
      exact .mono
        (.object
          (.entry (by decide) (fits_literal (by decide))
          (.entry (by decide) (fits_literal (by decide))
          (.entry (by decide) deploymentId.fits
          (.entry (by decide) manifestDigest.fits
          .nil)))))
        (by decide) (by decide) (by decide)

theorem DesignRevisionTuple.fits (value : DesignRevisionTuple) :
    Document.Fits value.toJson 19 4000 2 :=
  .mono
    (.object
      (.entry (by decide) value.sourceDigest.fits
      (.entry (by decide) value.graphDigest.fits
      (.entry (by decide) value.bindingDigest.fits
      (.entry (by decide) value.commandLogDigest.fits
      (.entry (by decide) value.designSystemLockDigest.fits
      (.entry (by decide) value.deployment.fits
      (.entry (by decide)
        (.object
          (.entry (by decide) (fits_literal (by decide))
          (.entry (by decide) value.preview.buildId.fits
          (.entry (by decide) value.preview.previewDigest.fits
          .nil))))
      (.entry (by decide)
        (.object
          (.entry (by decide) (fits_literal (by decide))
          (.entry (by decide) value.compiler.compilerId.fits
          (.entry (by decide) value.compiler.compilerDigest.fits
          .nil))))
      .nil)))))))))
    (by decide) (by decide) (by decide)

theorem DesignRevision.fits (revision : DesignRevision) :
    Document.Fits revision.toJson 3400 120000 4 := by
  obtain ⟨privacyBinding, bound⟩ := revision.exists_privacyBinding
  exact .mono
    (.object
      (.entry (by decide) (fits_literal (by decide))
      (.entry (by decide) revision.tenantId.fits
      (.entry (by decide) revision.projectId.fits
      (.entry (by decide) revision.revisionId.fits
      (.optional (by decide) Identifier.fits
      (.entry (by decide) (.number revision.sequence.val)
      (.entry (by decide) revision.createdAt.fits
      (.entry (by decide) revision.tuple.fits
      (.entry (by decide) (fits_binding revision.tupleBinding)
      (.entry (by decide) (DesignRevisionPrivacy.fits bound)
      (.entry (by decide) (fits_binding revision.revisionCommitment)
      .nil))))))))))))
    (by decide) (by decide) (by decide)

/-! ## Round trip -/

@[simp] theorem deployment_toJs (value : DeploymentIdentity) :
    deployment value.toJson.toJs = .ok value := by
  cases value with
  | unpublished draftId manifestDigest =>
      have shape :
          exact (DeploymentIdentity.unpublished draftId
              manifestDigest).toJson.toJs
              ["format", "manifestDigest", "state"]
              ["deploymentId", "draftId"] =
            .ok _ :=
        exact_object (by simp) (by simp)
      rw [deployment, shape, ok_bind]
      simp
  | deployed deploymentId manifestDigest =>
      have shape :
          exact (DeploymentIdentity.deployed deploymentId
              manifestDigest).toJson.toJs
              ["format", "manifestDigest", "state"]
              ["deploymentId", "draftId"] =
            .ok _ :=
        exact_object (by simp) (by simp)
      rw [deployment, shape, ok_bind]
      simp

@[simp] theorem tuple_toJs (value : DesignRevisionTuple) :
    tuple value.toJson.toJs = .ok value := by
  have shape :
      exact value.toJson.toJs
          ["bindingDigest", "commandLogDigest", "compiler", "deployment",
            "designSystemLockDigest", "graphDigest", "preview",
            "sourceDigest"] =
        .ok _ :=
    exact_object (by simp) (by simp)
  have previewShape :
      exact (.object [
          (js "format",
            .string (js "selene-compiled-preview-identity/v1")),
          (js "buildId", .string value.preview.buildId.val),
          (js "previewDigest",
            .string value.preview.previewDigest.val)])
          ["buildId", "format", "previewDigest"] =
        .ok _ :=
    exact_object (by simp) (by simp)
  have compilerShape :
      exact (.object [
          (js "format", .string (js "selene-compiler-identity/v1")),
          (js "compilerId", .string value.compiler.compilerId.val),
          (js "compilerDigest",
            .string value.compiler.compilerDigest.val)])
          ["compilerDigest", "compilerId", "format"] =
        .ok _ :=
    exact_object (by simp) (by simp)
  rw [tuple, shape, ok_bind]
  simp [previewShape, compilerShape]

@[simp] theorem parseDesignRevision_toJs (revision : DesignRevision) :
    parseDesignRevision revision.toJson.toJs = .ok revision := by
  have captured :
      snapshot revision.toJson.toJs = .ok revision.toJson.toJs :=
    snapshot_toJs revision.fits (by decide) (by decide) (by decide)
  have shape :
      exact revision.toJson.toJs
          ["createdAt", "format", "privacy", "projectId", "revisionId",
            "sequence", "tenantId", "tuple"]
          ["parentRevisionId", "revisionCommitment", "tupleBinding"] =
        .ok _ :=
    exact_object (by simp; grind) (by simp)
  have givenBinding :
      optionally tupleBinding (.string revision.tupleBinding.val) =
        .ok (some revision.tupleBinding) :=
    optionally_of_ok (by simp) (tupleBinding_val _)
  have givenCommitment :
      optionally revisionCommitment
          (.string revision.revisionCommitment.val) =
        .ok (some revision.revisionCommitment) :=
    optionally_of_ok (by simp) (revisionCommitment_val _)
  rw [parseDesignRevision, captured, ok_bind, shape, ok_bind]
  simp [-Option.map_subtype, optionally_word text_val, givenBinding,
    givenCommitment, witnessed_of_ok revision.tupleBinding_eq,
    witnessed_of_ok revision.revisionCommitment_eq]

end Selene.Revision
