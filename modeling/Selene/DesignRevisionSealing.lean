import Selene.DesignRevisionRecordRoundTrip

/-!
# Sealing revisions

Every tuple has a binding, and a revision whose commitment is short enough can
be sealed with it.  A commitment that has no audit is always short enough; the
commitment of a lifecycle change contains the prior bindings as well, and
escapes them a second time.
-/

namespace Selene.Revision

open Js

/-! ## Tuple bindings -/

variable (value : DesignRevisionTuple)

theorem DesignRevisionTuple.plain_bindingDocument :
    value.bindingDocument.Plain := by
  cases deployment : value.deployment <;>
  · simp only [bindingDocument, deployment, DeploymentIdentity.toTuple,
      Json.Plain, List.cons_append, List.nil_append, Json.PlainItems,
      Digest.plain, Identifier.plain, and_true, true_and]
    decide

theorem DesignRevisionTuple.textCount_bindingDocument :
    value.bindingDocument.textCount = 13 := by
  cases deployment : value.deployment <;>
    simp [bindingDocument, deployment, DeploymentIdentity.toTuple,
      Json.textCount, Json.textCountItems]

theorem Identifier.length_stringify_le (identifier : Identifier) :
    (Json.stringify decimal (.text identifier.val)).length ≤ 130 := by
  have bounds := identifier.length_bounds
  rw [Json.length_stringify_plain decimal identifier.plain]
  omega

theorem Digest.length_stringify_le (digest : Digest) :
    (Json.stringify decimal (.text digest.val)).length ≤ 66 := by
  rw [Json.length_stringify_plain decimal digest.plain, digest.length]

theorem DeploymentIdentity.length_toTuple_le (value : DeploymentIdentity) :
    List.Forall₂
      (fun item bound => (Json.stringify decimal item).length ≤ bound)
      value.toTuple [13, 130, 66] := by
  cases value with
  | unpublished draftId manifestDigest =>
      exact .cons (by decide +kernel)
        (.cons draftId.length_stringify_le
        (.cons manifestDigest.length_stringify_le .nil))
  | deployed deploymentId manifestDigest =>
      exact .cons (by decide +kernel)
        (.cons deploymentId.length_stringify_le
        (.cons manifestDigest.length_stringify_le .nil))

theorem DesignRevisionTuple.length_bindingDocument_le :
    (Json.stringify decimal value.bindingDocument).length ≤ 992 :=
  le_trans
    (Json.length_stringify_array_le decimal
      (.cons (show _ ≤ 41 by decide +kernel)
      (.cons value.sourceDigest.length_stringify_le
      (.cons value.graphDigest.length_stringify_le
      (.cons value.bindingDigest.length_stringify_le
      (.cons value.commandLogDigest.length_stringify_le
      (.cons value.designSystemLockDigest.length_stringify_le
      (List.rel_append value.deployment.length_toTuple_le
        (.cons value.preview.buildId.length_stringify_le
        (.cons value.preview.previewDigest.length_stringify_le
        (.cons value.compiler.compilerId.length_stringify_le
        (.cons value.compiler.compilerDigest.length_stringify_le
        .nil))))))))))))
    (by decide)

theorem DesignRevisionTuple.isBinding (value : DesignRevisionTuple) :
    IsBinding maxTupleBinding tupleBindingPrefixes
      (Json.stringify decimal value.bindingDocument) := by
  have start :
      js "[\"selene-design-revision-tuple-binding/v1\"," <+:
        Json.stringify decimal value.bindingDocument := by
    have quoted :
        js "[\"selene-design-revision-tuple-binding/v1\"," =
          0x5B :: (quote (js "selene-design-revision-tuple-binding/v1") ++
            [0x2C]) := by
      decide
    rw [quoted]
    exact prefix_stringify_array _ _ _
  exact ⟨value.length_bindingDocument_le.trans (by decide), _,
    by simp [tupleBindingPrefixes], start⟩

/-- The binding of a tuple. -/
def DesignRevisionTuple.binding (value : DesignRevisionTuple) :
    TupleBinding :=
  ⟨Json.stringify decimal value.bindingDocument, value.isBinding⟩

theorem createDesignRevisionTupleBindingFromParsed_binding :
    createDesignRevisionTupleBindingFromParsed value = .ok value.binding :=
  createDesignRevisionTupleBindingFromParsed_eq_ok.mpr rfl

theorem DesignRevisionTuple.length_stringify_binding :
    (Json.stringify decimal (.text value.binding.val)).length =
      (Json.stringify decimal value.bindingDocument).length + 28 := by
  rw [Json.length_stringify_text]
  simp only [binding]
  rw [Json.length_escape_stringify decimal value.plain_bindingDocument,
    value.textCount_bindingDocument]

theorem UncommittedRevision.tupleBinding_eq_binding
    (revision : UncommittedRevision) :
    revision.tupleBinding = revision.tuple.binding := by
  have bound := revision.tupleBinding_eq
  rw [createDesignRevisionTupleBindingFromParsed_binding] at bound
  exact (Except.ok.inj bound).symm

/-! ## Commitments -/

/-- The units of a commitment. -/
def UncommittedRevision.commitmentLength (revision : UncommittedRevision)
    (privacyBinding : PrivacyBinding) : Nat :=
  (Json.stringify decimal (revision.commitmentDocument privacyBinding)).length

variable {privacyBinding : PrivacyBinding}

/-- The text of a revision is a commitment when it is short enough. -/
theorem UncommittedRevision.isBinding
    {revision : UncommittedRevision}
    (short :
      revision.commitmentLength privacyBinding ≤ maxRevisionCommitment) :
    IsBinding maxRevisionCommitment revisionCommitmentPrefixes
      (Json.stringify decimal
        (revision.commitmentDocument privacyBinding)) := by
  have start :
      js "[\"selene-design-revision-commitment/v1\"," <+:
        Json.stringify decimal
          (revision.commitmentDocument privacyBinding) := by
    have quoted :
        js "[\"selene-design-revision-commitment/v1\"," =
          0x5B :: (quote (js "selene-design-revision-commitment/v1") ++
            [0x2C]) := by
      decide
    rw [quoted]
    exact prefix_stringify_array _ _ _
  exact ⟨short, _, by simp [revisionCommitmentPrefixes], start⟩

/-- A revision with its commitment. -/
def UncommittedRevision.sealed (revision : UncommittedRevision)
    (privacyBinding : PrivacyBinding)
    (bound :
      createDesignRevisionPrivacyBindingFromParsed revision.privacy =
        .ok privacyBinding)
    (short :
      revision.commitmentLength privacyBinding ≤ maxRevisionCommitment) :
    DesignRevision where
  toUncommittedRevision := revision
  revisionCommitment :=
    ⟨Json.stringify decimal (revision.commitmentDocument privacyBinding),
      UncommittedRevision.isBinding short⟩
  revisionCommitment_eq :=
    createDesignRevisionCommitmentFromParsed_eq_ok.mpr
      ⟨privacyBinding, bound, rfl⟩

theorem DesignRevision.commitmentLength_le
    {revision : DesignRevision}
    (bound :
      createDesignRevisionPrivacyBindingFromParsed revision.privacy =
        .ok privacyBinding) :
    revision.commitmentLength privacyBinding ≤ maxRevisionCommitment := by
  obtain ⟨other, otherBound, text⟩ :=
    createDesignRevisionCommitmentFromParsed_eq_ok.mp
      revision.revisionCommitment_eq
  rw [bound] at otherBound
  cases otherBound
  rw [UncommittedRevision.commitmentLength, ← text]
  exact revision.revisionCommitment.property.1

theorem length_stringify_privacyBinding_le
    {parsed : DesignRevisionPrivacy}
    (bound :
      createDesignRevisionPrivacyBindingFromParsed parsed =
        .ok privacyBinding) :
    (Json.stringify decimal (.text privacyBinding.val)).length ≤ 6146 := by
  have text :=
    createDesignRevisionPrivacyBindingFromParsed_eq_ok.mp bound
  have short : privacyBinding.val.length ≤ 4096 :=
    privacyBinding.property.1
  rw [text] at short ⊢
  have escaped :=
    Json.length_escape_stringify_le decimal
      parsed.toDesignPrivacyTerms.plain_bindingDocument
      parsed.toDesignPrivacyTerms.nonempty_bindingDocument
  rw [Json.length_stringify_text]
  omega

theorem UncommittedRevision.commitmentLength_le
    {revision : UncommittedRevision}
    (bound :
      createDesignRevisionPrivacyBindingFromParsed revision.privacy =
        .ok privacyBinding)
    (unaudited : revision.privacy.lifecycleAudit = none) :
    revision.commitmentLength privacyBinding ≤ maxRevisionCommitment := by
  have parent :
      (Json.stringify decimal
        (.orNull (revision.parentRevisionId.map Subtype.val))).length ≤
          130 := by
    cases revision.parentRevisionId with
    | none => decide
    | some parentId => exact parentId.length_stringify_le
  have created :
      (Json.stringify decimal
        (.text revision.createdAt.val)).length ≤ 29 := by
    rw [Json.length_stringify_plain decimal revision.createdAt.plain]
    rcases revision.createdAt.length_cases with short | long <;> omega
  have tuple :
      (Json.stringify decimal
        (.text revision.tupleBinding.val)).length ≤ 1020 := by
    have size := revision.tuple.length_bindingDocument_le
    rw [revision.tupleBinding_eq_binding,
      revision.tuple.length_stringify_binding]
    omega
  have lifecycle :
      (Json.stringify decimal
        (.text (Literal.text revision.privacy.lifecycle))).length ≤ 34 := by
    have bounds := Literal.length_bounds revision.privacy.lifecycle
    rw [Json.length_stringify_plain decimal (Literal.plain _)]
    omega
  have sequence :
      (Json.stringify decimal (.number revision.sequence.val)).length ≤ 16 :=
    length_stringify_number_le (by decide)
      (lt_of_le_of_lt revision.sequence.property.2 (by decide))
  rw [commitmentLength, commitmentDocument, unaudited]
  exact le_trans
    (Json.length_stringify_array_le decimal
      (.cons (show _ ≤ 38 by decide +kernel)
      (.cons (show _ ≤ 27 by decide +kernel)
      (.cons revision.tenantId.length_stringify_le
      (.cons revision.projectId.length_stringify_le
      (.cons revision.revisionId.length_stringify_le
      (.cons parent
      (.cons sequence
      (.cons created
      (.cons tuple
      (.cons (length_stringify_privacyBinding_le bound)
      (.cons lifecycle
      (.cons (show _ ≤ 4 by decide)
      .nil)))))))))))))
    (by decide)

/-! ## First revisions -/

/-- The active privacy record with the given terms. -/
def DesignPrivacyTerms.active (terms : DesignPrivacyTerms) :
    DesignRevisionPrivacy where
  toDesignPrivacyTerms := terms
  lifecycle := .active
  lifecycleAudit := none
  auditMatches := rfl

/-- The sequence number of a first revision. -/
def firstSequence : PositiveInteger :=
  ⟨1, by decide⟩

/-- The first revision of a chain, before it is committed to. -/
def firstRevision (tenantId projectId revisionId : Identifier)
    (createdAt : Instant) (tuple : DesignRevisionTuple)
    (terms : DesignPrivacyTerms) : UncommittedRevision where
  tenantId := tenantId
  projectId := projectId
  revisionId := revisionId
  parentRevisionId := none
  sequence := firstSequence
  createdAt := createdAt
  tuple := tuple
  tupleBinding := tuple.binding
  privacy := terms.active
  tupleBinding_eq := createDesignRevisionTupleBindingFromParsed_binding tuple

/-- The identifier `a`. -/
def shortIdentifier : Identifier :=
  ⟨js "a", by decide⟩

/-- The digest of zeros. -/
def zeroDigest : Digest :=
  ⟨List.replicate 64 0x30, by decide⟩

/-- A tuple with the shortest binding. -/
def smallestTuple : DesignRevisionTuple where
  sourceDigest := zeroDigest
  graphDigest := zeroDigest
  bindingDigest := zeroDigest
  commandLogDigest := zeroDigest
  designSystemLockDigest := zeroDigest
  deployment := .deployed shortIdentifier zeroDigest
  preview := { buildId := shortIdentifier, previewDigest := zeroDigest }
  compiler :=
    { compilerId := shortIdentifier, compilerDigest := zeroDigest }

theorem length_stringify_plain_mono
    {first second : JsString}
    (firstPlain : PlainText first)
    (secondPlain : PlainText second)
    (shorter : first.length ≤ second.length) :
    (Json.stringify decimal (.text first)).length ≤
      (Json.stringify decimal (.text second)).length := by
  rw [Json.length_stringify_plain decimal firstPlain,
    Json.length_stringify_plain decimal secondPlain]
  omega

theorem length_shortIdentifier_le (identifier : Identifier) :
    (Json.stringify decimal (.text shortIdentifier.val)).length ≤
      (Json.stringify decimal (.text identifier.val)).length :=
  length_stringify_plain_mono shortIdentifier.plain identifier.plain
    identifier.length_bounds.1

theorem Digest.length_stringify_le_of (first second : Digest) :
    (Json.stringify decimal (.text first.val)).length ≤
      (Json.stringify decimal (.text second.val)).length :=
  length_stringify_plain_mono first.plain second.plain (by simp)

theorem length_smallestDeployment_le (value : DeploymentIdentity) :
    List.Forall₂
      (fun item other : Json Nat =>
        (Json.stringify decimal item).length ≤
          (Json.stringify decimal other).length)
      smallestTuple.deployment.toTuple value.toTuple := by
  cases value with
  | unpublished draftId manifestDigest =>
      exact .cons (by decide +kernel)
        (.cons (length_shortIdentifier_le draftId)
        (.cons (zeroDigest.length_stringify_le_of manifestDigest) .nil))
  | deployed deploymentId manifestDigest =>
      exact .cons (by decide +kernel)
        (.cons (length_shortIdentifier_le deploymentId)
        (.cons (zeroDigest.length_stringify_le_of manifestDigest) .nil))

theorem length_smallestTuple_le (value : DesignRevisionTuple) :
    (Json.stringify decimal (.text smallestTuple.binding.val)).length ≤
      (Json.stringify decimal (.text value.binding.val)).length := by
  rw [smallestTuple.length_stringify_binding,
    value.length_stringify_binding]
  apply Nat.add_le_add_right
  exact Json.length_stringify_array_mono decimal
    (.cons (le_refl _)
    (.cons (zeroDigest.length_stringify_le_of value.sourceDigest)
    (.cons (zeroDigest.length_stringify_le_of value.graphDigest)
    (.cons (zeroDigest.length_stringify_le_of value.bindingDigest)
    (.cons (zeroDigest.length_stringify_le_of value.commandLogDigest)
    (.cons (zeroDigest.length_stringify_le_of value.designSystemLockDigest)
    (List.rel_append (length_smallestDeployment_le value.deployment)
      (.cons (length_shortIdentifier_le value.preview.buildId)
      (.cons (zeroDigest.length_stringify_le_of value.preview.previewDigest)
      (.cons (length_shortIdentifier_le value.compiler.compilerId)
      (.cons
        (zeroDigest.length_stringify_le_of value.compiler.compilerDigest)
      .nil)))))))))))

/-- Terms with the required exclusions and nothing else. -/
def sampleTerms : DesignPrivacyTerms where
  classification := .internal
  contentDigest := zeroDigest
  promptDigest := none
  fields := .empty _
  deleteAfter := ⟨js "2030-01-01T00:00:00.000Z", by decide +kernel⟩
  tombstoneDigest := zeroDigest
  exportPolicyDigest := zeroDigest
  auditCorrelationId := shortIdentifier
  exclusions :=
    ⟨[⟨js "authorization-headers", by decide⟩, ⟨js "cookies", by decide⟩,
      ⟨js "customer-identifiers", by decide⟩,
      ⟨js "dom-snapshots", by decide⟩, ⟨js "local-paths", by decide⟩,
      ⟨js "page-content", by decide⟩, ⟨js "prompt-text", by decide⟩,
      ⟨js "prop-values", by decide⟩, ⟨js "source-text", by decide⟩,
      ⟨js "urls", by decide⟩], by decide +kernel⟩
  telemetry := .disabled
  requiredExclusions := by decide +kernel

/-- The binding of the sample terms. -/
def samplePrivacyBinding : PrivacyBinding :=
  ⟨Json.stringify decimal sampleTerms.bindingDocument,
    sampleTerms.isBinding_iff.mpr (by decide +kernel)⟩

theorem sample_bound :
    createDesignRevisionPrivacyBindingFromParsed sampleTerms.active =
      .ok samplePrivacyBinding :=
  createDesignRevisionPrivacyBindingFromParsed_eq_ok.mpr rfl

/-- The instant of the sample revision. -/
def sampleInstant : Instant :=
  ⟨js "2026-01-01T00:00:00.000Z", by decide +kernel⟩

/-- A first revision with the sample terms. -/
def sampleRevision : DesignRevision :=
  (firstRevision shortIdentifier shortIdentifier shortIdentifier
    sampleInstant smallestTuple sampleTerms).sealed samplePrivacyBinding sample_bound
      (UncommittedRevision.commitmentLength_le sample_bound rfl)

theorem sampleInstant_early : sampleInstant < sampleTerms.deleteAfter := by
  decide +kernel

end Selene.Revision
