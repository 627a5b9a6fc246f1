import Selene.RevisionDiffSound

/-!
# Merge plans

The changes that a plan compares, and which of them it reports: a change that is
also one of the target's is reported exactly if it is a removal.
-/

namespace Selene.History

open Js Collaboration

/-! ## Answers -/

/-- The changes of an answer of `diffRevisions`. -/
structure Answer (source target : Revision) (changes : List RevisionChange) :
    Prop where
  sourceTaken : Operand.Taken (.data (inertCopy source.content.val))
  targetTaken : Operand.Taken (.data (inertCopy target.content.val))
  changes_eq : changes = diffValue (inertCopy source.content.val)
    (.data (inertCopy target.content.val)) []
  settled : ∀ change ∈ changes, Settled change
  admitted : ∀ change ∈ changes, ∀ value ∈ change.after,
    collaborationBudgets.Admits value

theorem foldlM_appendChange_ok
    {changes before after : List RevisionChange}
    (appended : changes.foldlM appendChange before = .ok after) :
    after = before ++ changes := by
  induction changes generalizing before with
  | nil => simpa [pure, Except.pure] using appended.symm
  | cons change rest inductionHypothesis =>
      rw [List.foldlM_cons, appendChange] at appended
      split at appended
      · cases appended
      · simpa using inductionHypothesis appended

theorem admits_after
    {diff : RevisionDiff}
    (admitted : collaborationBudgets.Admits diff.toJs) :
    ∀ change ∈ diff.changes, ∀ value ∈ change.after,
      collaborationBudgets.Admits value := by
  intro change member value isAfter
  have list := admitted.entry
    (js "changes", .array (diff.changes.map RevisionChange.toJs))
    (Record.mem_ofFields.mpr (by simp))
    (by show js "changes" ≠ js "length"; decide)
  have item := list.item _ (List.mem_map_of_mem member)
  exact item.entry (js "after", value)
    (Record.mem_ofFields.mpr (by simp [Option.mem_def.mp isAfter]))
    (by show js "after" ≠ js "length"; decide)

theorem answer_of_diffRevisions
    {source target : Revision}
    {diff : RevisionDiff}
    (answered : diffRevisions source target = .ok diff) :
    Answer source target diff.changes := by
  rw [diffRevisions] at answered
  split at answered
  · cases answered
  · rename_i taken
    obtain ⟨sourceAdmitted, targetAdmitted⟩ := not_not.mp taken
    have sourceTaken := taken_content sourceAdmitted
    have targetTaken := taken_content targetAdmitted
    dsimp only at answered
    split at answered
    · cases answered
    · cases appended : (diffValue source.copy.content.val
          (.data target.copy.content.val) []).foldlM appendChange [] with
      | error error => rw [appended] at answered; cases answered
      | ok changes =>
          have isDiff := foldlM_appendChange_ok appended
          rw [List.nil_append] at isDiff
          rw [appended] at answered
          simp only [bind, Except.bind] at answered
          split at answered
          · rename_i admitted
            cases answered
            have settled : ∀ change ∈ changes, Settled change := by
              rw [isDiff]
              exact settled_value sourceTaken targetTaken []
            have copies : changes.map RevisionChange.copy = changes :=
              (List.map_congr_left fun change member =>
                (settled change member).copy).trans (List.map_id _)
            refine ⟨sourceTaken, targetTaken, ?_, ?_, ?_⟩
            · exact copies.trans isDiff
            · simpa only [copies] using settled
            · simpa only [copies] using admits_after admitted
          · cases answered

namespace Answer

variable {source target : Revision} {changes : List RevisionChange}

theorem pairwise (answer : Answer source target changes) :
    changes.Pairwise fun first second =>
      pathsOverlap first.path second.path = false := by
  rw [answer.changes_eq]
  exact pairwise_pathsOverlap answer.sourceTaken.1 _

theorem pathsOverlap_comm (first second : JsString) :
    pathsOverlap first second = pathsOverlap second first := by
  rw [pathsOverlap, pathsOverlap, Bool.or_assoc, Bool.or_assoc,
    Bool.or_comm (List.isPrefixOf _ first)]
  congr 1
  exact decide_eq_decide.mpr eq_comm

theorem eq_of_overlap
    (answer : Answer source target changes)
    {first second : RevisionChange}
    (isFirst : first ∈ changes)
    (isSecond : second ∈ changes)
    (overlap : pathsOverlap first.path second.path = true) :
    first = second := by
  have symmetric : Std.Symm fun first second : RevisionChange =>
      pathsOverlap first.path second.path = false :=
    ⟨fun first second apart =>
      (pathsOverlap_comm second.path first.path).trans apart⟩
  by_contra different
  rw [answer.pairwise.forall isFirst isSecond different] at overlap
  cases overlap

theorem conflictOf_twin
    (answer : Answer source target changes)
    {twin candidate : RevisionChange}
    (isTwin : twin ∈ changes)
    (samePath : twin.path = candidate.path) :
    conflictOf changes candidate =
      if sameAfter twin candidate then none
      else some ⟨candidate.path, twin, candidate⟩ := by
  have overlap : pathsOverlap twin.path candidate.path = true := by
    rw [samePath]
    exact pathsOverlap_self _
  rw [conflictOf]
  cases found : changes.find? fun change =>
      pathsOverlap change.path candidate.path with
  | none =>
      exact absurd overlap (List.find?_eq_none.mp found twin isTwin)
  | some colliding =>
      have overlaps : pathsOverlap colliding.path candidate.path = true := by
        simpa using List.find?_some found
      have same : colliding = twin :=
        answer.eq_of_overlap (List.mem_of_find?_eq_some found) isTwin
          (samePath ▸ overlaps)
      subst same
      rfl

end Answer

theorem sameAfter_iff
    {twin candidate : RevisionChange}
    (twinSettled : Settled twin)
    (settled : Settled candidate)
    (twinAdmitted : ∀ value ∈ twin.after,
      collaborationBudgets.Admits value)
    (admitted : ∀ value ∈ candidate.after,
      collaborationBudgets.Admits value)
    (sameResult : sameField twin.after candidate.after = true) :
    sameAfter twin candidate = true ↔ candidate.kind ≠ .remove := by
  rw [ne_eq, ← settled.removes, sameAfter]
  cases twinAfter : twin.after with
  | none =>
      cases after : candidate.after with
      | none => exact iff_of_false (by decide) (by simp)
      | some value => simp [twinAfter, after, sameField] at sameResult
  | some value =>
      cases after : candidate.after with
      | none => simp [twinAfter, after, sameField] at sameResult
      | some other =>
          rw [twinAfter, after] at sameResult
          have agree : equalCollaborationValues value other = true := by
            rw [equalCollaborationValues, Budgets.equalValues_of_inert
              (twinAdmitted value twinAfter) (admitted other after)
              (twinSettled.after value twinAfter) (settled.after other after)]
            exact sameResult
          exact iff_of_true agree (by simp)

/-! ## Plans -/

theorem diffRevisions_copy
    {source target : Revision}
    (sourceAdmitted : collaborationBudgets.Admits source.toJs)
    (targetAdmitted : collaborationBudgets.Admits target.toJs) :
    diffRevisions source.copy target.copy = diffRevisions source target := by
  have sourceCopy : source.copy.copy = source.copy := by
    rw [Revision.copy, Revision.copy]
    simp only [show ∀ value : JsValue,
      inertCopy (inertCopy value) = inertCopy value from inert_inertCopy]
  have targetCopy : target.copy.copy = target.copy := by
    rw [Revision.copy, Revision.copy]
    simp only [show ∀ value : JsValue,
      inertCopy (inertCopy value) = inertCopy value from inert_inertCopy]
  have sourceAgain : collaborationBudgets.Admits source.copy.toJs :=
    Revision.toJs_copy source ▸ sourceAdmitted.inertCopy
  have targetAgain : collaborationBudgets.Admits target.copy.toJs :=
    Revision.toJs_copy target ▸ targetAdmitted.inertCopy
  rw [diffRevisions, diffRevisions, sourceCopy, targetCopy]
  simp only [sourceAgain, targetAgain, sourceAdmitted, targetAdmitted]

theorem conflicts_of_plan
    {base target source : Revision}
    {plan : RevisionMergePlan}
    {targetDiff sourceDiff : RevisionDiff}
    (planned : planRevisionMerge base target source = .ok plan)
    (targetChanged : diffRevisions base target = .ok targetDiff)
    (sourceChanged : diffRevisions base source = .ok sourceDiff) :
    plan.conflicts =
      (sourceDiff.changes.filterMap (conflictOf targetDiff.changes)).map
        RevisionMergeConflict.copy := by
  rw [planRevisionMerge] at planned
  split at planned
  · cases planned
  · rename_i taken
    obtain ⟨baseAdmitted, targetAdmitted, sourceAdmitted⟩ := not_not.mp taken
    dsimp only at planned
    split at planned
    · cases planned
    · rw [diffRevisions_copy baseAdmitted targetAdmitted,
        diffRevisions_copy baseAdmitted sourceAdmitted, targetChanged,
        sourceChanged] at planned
      simp only [bind, Except.bind, pure, Except.pure] at planned
      split at planned
      · cases planned
        rfl
      · cases planned

/-- A conflict of a plan is a source change that the filter stops. -/
theorem mem_conflicts
    {targetChanges sourceChanges : List RevisionChange}
    {conflict : RevisionMergeConflict}
    (member : conflict ∈
      (sourceChanges.filterMap (conflictOf targetChanges)).map
        RevisionMergeConflict.copy) :
    ∃ candidate ∈ sourceChanges,
      (conflictOf targetChanges candidate).isSome ∧
        conflict.path = candidate.path := by
  obtain ⟨found, isFound, rfl⟩ := List.mem_map.mp member
  obtain ⟨candidate, isCandidate, stopped⟩ := List.mem_filterMap.mp isFound
  refine ⟨candidate, isCandidate, by rw [stopped]; rfl, ?_⟩
  rw [conflictOf] at stopped
  split at stopped
  · cases stopped
  · split at stopped
    · cases stopped
    · cases stopped
      rfl

section Identical

variable {base target source : Revision} {plan : RevisionMergePlan}
  {targetDiff sourceDiff : RevisionDiff}

/-- A change that is also one of the target's is reported if it is a removal. -/
theorem reported_iff
    (planned : planRevisionMerge base target source = .ok plan)
    (targetChanged : diffRevisions base target = .ok targetDiff)
    (sourceChanged : diffRevisions base source = .ok sourceDiff)
    {candidate twin : RevisionChange}
    (isCandidate : candidate ∈ sourceDiff.changes)
    (isTwin : twin ∈ targetDiff.changes)
    (samePath : twin.path = candidate.path)
    (sameResult : sameField twin.after candidate.after = true) :
    (∃ conflict ∈ plan.conflicts, conflict.path = candidate.path) ↔
      candidate.kind = .remove := by
  have targetAnswer := answer_of_diffRevisions targetChanged
  have sourceAnswer := answer_of_diffRevisions sourceChanged
  have agree := sameAfter_iff (targetAnswer.settled twin isTwin)
    (sourceAnswer.settled candidate isCandidate)
    (targetAnswer.admitted twin isTwin)
    (sourceAnswer.admitted candidate isCandidate) sameResult
  have found := targetAnswer.conflictOf_twin isTwin samePath
  rw [conflicts_of_plan planned targetChanged sourceChanged]
  constructor
  · rintro ⟨conflict, member, atPath⟩
    obtain ⟨other, isOther, stopped, otherPath⟩ := mem_conflicts member
    have same : other = candidate :=
      sourceAnswer.eq_of_overlap isOther isCandidate (by
        rw [← otherPath, atPath]
        exact pathsOverlap_self _)
    subst same
    by_contra kept
    rw [found, if_pos (agree.mpr kept)] at stopped
    cases stopped
  · intro removed
    have disagree : ¬ sameAfter twin candidate = true := fun same =>
      agree.mp same removed
    rw [if_neg disagree] at found
    exact ⟨_, List.mem_map_of_mem
      (List.mem_filterMap.mpr ⟨candidate, isCandidate, found⟩), rfl⟩

theorem alike_changes
    (targetChanged : diffRevisions base target = .ok targetDiff)
    (sourceChanged : diffRevisions base source = .ok sourceDiff)
    (sameContent : equalCollaborationValues target.content.val
      source.content.val = true) :
    AllAlike targetDiff.changes sourceDiff.changes := by
  have targetAnswer := answer_of_diffRevisions targetChanged
  have sourceAnswer := answer_of_diffRevisions sourceChanged
  rw [targetAnswer.changes_eq, sourceAnswer.changes_eq]
  rw [equalCollaborationValues, Budgets.equalValues, Bool.and_eq_true]
    at sameContent
  exact alike_value targetAnswer.sourceTaken
    ⟨targetAnswer.targetTaken, sourceAnswer.targetTaken, sameContent.2⟩ []

theorem Answer.isData
    {source target : Revision}
    {changes : List RevisionChange}
    (answer : Answer source target changes)
    {change : RevisionChange}
    (member : change ∈ changes) :
    change.after ≠ some .exotic := by
  intro isExotic
  cases answer.admitted change member .exotic isExotic

/--
Of the source changes that are also changes of the target, exactly the removals
are reported; with contents that are equal there are conflicts exactly if
something is removed.
-/
theorem planRevisionMerge_identical
    (planned : planRevisionMerge base target source = .ok plan)
    (targetChanged : diffRevisions base target = .ok targetDiff)
    (sourceChanged : diffRevisions base source = .ok sourceDiff) :
    (∀ candidate ∈ sourceDiff.changes, ∀ twin ∈ targetDiff.changes,
      twin.path = candidate.path →
      sameField twin.after candidate.after = true →
        ((∀ conflict ∈ plan.conflicts, conflict.path ≠ candidate.path) ↔
          candidate.kind ≠ .remove)) ∧
    (equalCollaborationValues target.content.val source.content.val = true →
      (plan.conflicts = [] ↔
        ∀ change ∈ targetDiff.changes, change.kind ≠ .remove)) := by
  have reported := @reported_iff _ _ _ _ _ _ planned targetChanged
    sourceChanged
  refine ⟨fun candidate isCandidate twin isTwin samePath sameResult => ?_,
    fun sameContent => ?_⟩
  · rw [ne_eq, ← reported isCandidate isTwin samePath sameResult]
    simp
  · have targetAnswer := answer_of_diffRevisions targetChanged
    have alike := alike_changes targetChanged sourceChanged sameContent
    constructor
    · intro none twin isTwin removed
      obtain ⟨candidate, isCandidate, same⟩ :=
        exists_of_forall₂ alike isTwin
      obtain ⟨conflict, isConflict, -⟩ :=
        (reported isCandidate isTwin same.path
          (same.after (targetAnswer.isData isTwin))).mpr
            (same.kind ▸ removed)
      rw [none] at isConflict
      cases isConflict
    · intro kept
      rw [List.eq_nil_iff_forall_not_mem]
      intro conflict isConflict
      have member := isConflict
      rw [conflicts_of_plan planned targetChanged sourceChanged] at member
      obtain ⟨candidate, isCandidate, -, atPath⟩ := mem_conflicts member
      obtain ⟨twin, isTwin, same⟩ :=
        exists_of_forall₂ alike.flip isCandidate
      have removed := (reported isCandidate isTwin same.path
        (same.after (targetAnswer.isData isTwin))).mp
          ⟨conflict, isConflict, atPath⟩
      exact kept twin isTwin (same.kind.trans removed)

end Identical

/-- The replacement of one content by another. -/
def sampleReplacement : RevisionChange :=
  replacement .null (.bool true) []

def sampleDiff : RevisionDiff :=
  ⟨js "r1", js "r1", [sampleReplacement]⟩

/-- A replacement that both revisions make is not reported. -/
theorem planRevisionMerge_identical_replaced :
    (planRevisionMerge (revisionOf nullContent) (revisionOf trueContent)
      (revisionOf trueContent)).toOption.map
        (fun plan => plan.conflicts.length) = some 0 := by
  have returned : (planRevisionMerge (revisionOf nullContent)
      (revisionOf trueContent) (revisionOf trueContent)).isOk = true := by
    decide +kernel
  have changed : diffRevisions (revisionOf nullContent)
      (revisionOf trueContent) = .ok sampleDiff := rfl
  cases planned : planRevisionMerge (revisionOf nullContent)
      (revisionOf trueContent) (revisionOf trueContent) with
  | error error =>
      rw [planned] at returned
      cases returned
  | ok plan =>
      have none : plan.conflicts = [] := by
        refine ((planRevisionMerge_identical planned changed changed).2
          (by decide)).mpr fun change member => ?_
        cases List.mem_singleton.mp member
        decide
      simp [Except.toOption, none]

def emptyContent : OwnValue :=
  ⟨.object [], .object List.nodup_nil (by simp)⟩

/-- A property that both revisions remove is reported. -/
theorem planRevisionMerge_removed :
    equalCollaborationValues (revisionOf emptyContent).content.val
        (revisionOf emptyContent).content.val ∧
      (planRevisionMerge (revisionOf (singleton (js "a") nullContent))
        (revisionOf emptyContent) (revisionOf emptyContent)).toOption.map
          (fun plan => plan.conflicts.map (·.path)) = some [js "/a"] := by
  decide +kernel

end Selene.History
