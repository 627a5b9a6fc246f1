import Selene.RevisionPatch

/-!
# Differences of revisions are patches

What `diffRevisions` answers for two revisions that the boundary takes
(`diffRevisions_eq`), and that the changes of its answer lead from the content
of the one revision to that of the other (`diffRevisions_patch`).
-/

namespace Selene.History

open Js Collaboration

/-! ## The answer -/

/-- The changes between the contents of two revisions. -/
def contentChanges (source target : Revision) : List RevisionChange :=
  difference source.content.val target.content.val []

/-- The answer that `diffRevisions` hands to the boundary. -/
def revisionDiff (source target : Revision) : RevisionDiff :=
  ⟨source.id, target.id, contentChanges source target⟩

theorem foldlM_appendChange
    {changes before : List RevisionChange}
    (few : before.length + changes.length ≤ collaborationBudgets.maxItems) :
    changes.foldlM appendChange before = .ok (before ++ changes) := by
  induction changes generalizing before with
  | nil => simp [pure, Except.pure]
  | cons change rest inductionHypothesis =>
      rw [List.length_cons] at few
      have fits : appendChange before change = .ok (before ++ [change]) := by
        rw [appendChange, if_neg (by omega)]
      have others := @inductionHypothesis (before ++ [change])
        (by rw [List.length_append, List.length_singleton]; omega)
      rw [List.foldlM_cons, fits]
      simpa using others

theorem admits_content
    {revision : Revision}
    (admitted : collaborationBudgets.Admits revision.toJs) :
    collaborationBudgets.Admits revision.content.val :=
  admitted.entry (js "content", revision.content.val)
    (Record.mem_ofFields.mpr (by simp))
    (by show js "content" ≠ js "length"; decide)

section

variable {revision : Revision}
  (admitted : collaborationBudgets.Admits revision.toJs)

include admitted

theorem held_content : Held revision.content.val :=
  ⟨revision.content.property, admits_content admitted⟩

theorem taken_content :
    Operand.Taken (.data (inertCopy revision.content.val)) := by
  have copied := (held_content admitted).copy
  exact ⟨copied.formed, inert_inertCopy _, copied.admitted⟩

end

variable {source target : Revision}

/-- What `diffRevisions` answers for revisions of one project. -/
theorem diffRevisions_eq
    (sourceAdmitted : collaborationBudgets.Admits source.toJs)
    (targetAdmitted : collaborationBudgets.Admits target.toJs)
    (sameProject : source.projectId = target.projectId)
    (few : (contentChanges source target).length ≤
      collaborationBudgets.maxItems) :
    diffRevisions source target =
      if collaborationBudgets.Admits (revisionDiff source target).toJs then
        .ok (revisionDiff source target)
      else .error .boundary := by
  have appended := @foldlM_appendChange (contentChanges source target) []
    (by simpa using few)
  have copies : (contentChanges source target).map RevisionChange.copy =
      contentChanges source target :=
    (List.map_congr_left fun change member =>
      (settled_value (taken_content sourceAdmitted)
        (taken_content targetAdmitted) [] change member).copy).trans
      (List.map_id _)
  rw [contentChanges] at appended
  rw [diffRevisions, if_neg (by simp [sourceAdmitted, targetAdmitted]),
    Revision.copy, Revision.copy]
  simp only [sameProject, ne_eq, not_true_eq_false, if_false, appended,
    bind, Except.bind, pure, Except.pure, List.nil_append]
  show (if collaborationBudgets.Admits (revisionDiff source target).toJs then
    Except.ok { revisionDiff source target with
      changes := (contentChanges source target).map RevisionChange.copy }
    else .error HistoryError.boundary) = _
  rw [copies]
  rfl

/--
What `diffRevisions` answers for two revisions of one project: the answer is
returned if the boundary takes it, and no two paths of its changes overlap.
Between contents that are patchable the changes, applied in order, lead from the
one to the other, and there are none exactly if the contents are equal.
-/
theorem diffRevisions_patch
    (sourceAdmitted : collaborationBudgets.Admits source.toJs)
    (targetAdmitted : collaborationBudgets.Admits target.toJs)
    (sameProject : source.projectId = target.projectId)
    (few : (contentChanges source target).length ≤
      collaborationBudgets.maxItems) :
    (diffRevisions source target =
      if collaborationBudgets.Admits (revisionDiff source target).toJs then
        .ok (revisionDiff source target)
      else .error .boundary) ∧
    ((revisionDiff source target).changes.Pairwise fun first second =>
      pathsOverlap first.path second.path = false) ∧
    (Patchable source.content.val target.content.val →
      (∃ result,
        applyChanges (revisionDiff source target).changes source.content.val =
            some result ∧
          sameInert result target.content.val = true) ∧
      ((revisionDiff source target).changes = [] ↔
        sameInert source.content.val target.content.val = true)) := by
  have sourceHeld := held_content sourceAdmitted
  have targetHeld := held_content targetAdmitted
  refine ⟨diffRevisions_eq sourceAdmitted targetAdmitted sameProject few,
    pairwise_pathsOverlap sourceHeld.copy.formed _, fun patchable => ⟨?_,
      patchable.difference_eq_nil_iff sourceHeld targetHeld⟩⟩
  exact (patchable.leads sourceHeld targetHeld []).2

/-! ## Revisions of one project -/

/-- A revision with this content. -/
def revisionOf (content : OwnValue) : Revision where
  id := js "r1"
  projectId := js "p1"
  sequence := Count.one
  parentRevisionId := none
  content
  contentSha256 := js "00"
  scenarioIds := []
  createdBy := js "u1"
  createdAt := js "now"

/-- An object with one property. -/
def singleton (name : JsString) (value : OwnValue) : OwnValue :=
  ⟨.object [(name, value.val)], .object (List.nodup_singleton name) fun _
    member => List.mem_singleton.mp member ▸ value.property⟩

/-- Arrays inside each other. -/
def nested : Nat → OwnValue
  | 0 => ⟨.array [], .array (by simp)⟩
  | depth + 1 => ⟨.array [(nested depth).val], .array fun _ member =>
      List.mem_singleton.mp member ▸ (nested depth).property⟩

def nullContent : OwnValue :=
  ⟨.null, .null⟩

def trueContent : OwnValue :=
  ⟨.bool true, .bool true⟩

/-- An object with these properties. -/
def objectOf (entries : List (JsString × OwnValue))
    (distinct : (entries.map Prod.fst).Nodup) : OwnValue :=
  ⟨.object (entries.map fun entry => (entry.1, entry.2.val)), by
    refine .object ?_ fun entry member => ?_
    · rw [Record.keys, List.map_map]
      exact distinct
    · obtain ⟨own, -, rfl⟩ := List.mem_map.mp member
      exact own.2.property⟩

def renamedSource : Revision :=
  revisionOf (objectOf [(js "toString", nullContent),
    (lengthName, nullContent), (js "a/b", nullContent)] (by decide))

def renamedTarget : Revision :=
  revisionOf (objectOf [(js "toString", trueContent),
    (lengthName, nullContent), ([], trueContent)] (by decide))

theorem patchable_renamed :
    Patchable renamedSource.content.val renamedTarget.content.val := by
  refine .objects (fun key shared => ?_) (by decide)
    (fun key isOther isNew => ?_) fun key isKey isOther kept => ?_
  · have notOld : key ≠ js "a/b" := by
      rintro rfl
      revert shared
      decide
    have notNew : key ≠ [] := by
      rintro rfl
      revert shared
      decide
    simp [Record.keys, notOld, notNew]
  · have isEmpty : key = [] := by
      simp [Record.keys] at isOther isNew
      grind
    rw [isEmpty]
    exact inert_bool true
  · have different : js "a/b" ≠ [] := by decide
    have isMethod : key = js "toString" := by
      simp [Record.keys] at isKey isOther
      grind
    rw [isMethod]
    exact .replaced rfl (by decide) (inert_bool true)

/--
One property takes the place of another whose name has a separator; an inherited
name and `length` are properties of both contents.
-/
theorem diffRevisions_patch_renamed :
    (diffRevisions renamedSource renamedTarget =
      .ok (revisionDiff renamedSource renamedTarget)) ∧
    ((revisionDiff renamedSource renamedTarget).changes.map
      RevisionChange.path = [js "/", js "/a~1b", js "/toString"]) ∧
    ∃ result,
      applyChanges (revisionDiff renamedSource renamedTarget).changes
          renamedSource.content.val = some result ∧
        sameInert result renamedTarget.content.val = true := by
  have patch := @diffRevisions_patch renamedSource renamedTarget
    (by decide +kernel) (by decide +kernel) rfl (by decide +kernel)
  refine ⟨?_, by decide +kernel, (patch.2.2 patchable_renamed).1⟩
  rw [patch.1, if_pos (by decide +kernel)]

/-- Whether the boundary refuses an answer. -/
def throwsBoundary {α : Type} : Except HistoryError α → Bool
  | .error .boundary => true
  | _ => false

/--
The boundary refuses the one change that brings a content of 63 levels, and the
change to a property that objects inherit; it leaves out a property `length`.
-/
theorem diffRevisions_refused :
    (collaborationBudgets.Admits (revisionOf (nested 62)).toJs ∧
      (contentChanges (revisionOf nullContent)
        (revisionOf (nested 62))).length = 1 ∧
      throwsBoundary (diffRevisions (revisionOf nullContent)
        (revisionOf (nested 62)))) ∧
    throwsBoundary (diffRevisions (revisionOf (singleton (js "a") nullContent))
      (revisionOf (singleton (js "toString") trueContent))) ∧
    (diffRevisions (revisionOf (singleton (js "length") nullContent))
      (revisionOf (singleton (js "length") trueContent))).toOption.map
        (fun diff => diff.changes.length) = some 0 := by
  decide +kernel

end Selene.History
