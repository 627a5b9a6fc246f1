import Selene.AIProposalReview
import Mathlib.Data.Set.Card

/-!
# Reviews show what a proposal changes

Patching the source with the diffs of a complete review gives the candidate,
and every review accounts for each path whose content differs.
-/

namespace Selene.Proposal

open Js Generation

variable {host : Host} {workspace : ReviewedWorkspace} {gathered : Gathered}
  {old new : List JsString} {same suffix : Nat} {remainingBytes : Nat}

/-! ## Lines -/

theorem splitLines_of_linesWithin
    {room : Nat}
    {content : JsString}
    {found : List JsString}
    (within : linesWithin room content = some found) :
    found = splitLines content := by
  induction room generalizing content found with
  | zero =>
      cases content with
      | nil => exact (Option.some.inj within).symm
      | cons unit rest => cases within
  | succ room inductionHypothesis =>
      cases content with
      | nil => exact (Option.some.inj within).symm
      | cons unit rest =>
          rw [linesWithin] at within
          · obtain ⟨later, isLater, rfl⟩ := Option.map_eq_some_iff.mp within
            rw [inductionHypothesis isLater,
              ← splitLines_eq_cons (List.cons_ne_nil unit rest)]
          · exact List.cons_ne_nil unit rest

theorem commonLength_spec
    (first second : List JsString) :
    commonLength first second ≤ first.length ∧
      commonLength first second ≤ second.length ∧
      first.take (commonLength first second) =
        second.take (commonLength first second) := by
  fun_induction commonLength first second with
  | case1 line rest others inductionHypothesis =>
      obtain ⟨short, otherShort, same⟩ := inductionHypothesis
      exact ⟨Nat.succ_le_succ short, Nat.succ_le_succ otherShort, by
        rw [List.take_succ_cons, List.take_succ_cons, same]⟩
  | case2 line rest other others different => simp
  | case3 first second notCons => simp

/-- Where two lists split: the same start, and the same end behind it. -/
structure CommonEnds (old new : List JsString) (same suffix : Nat) : Prop where
  oldRoom : same + suffix ≤ old.length
  newRoom : same + suffix ≤ new.length
  start : old.take same = new.take same
  ending : old.drop (old.length - suffix) = new.drop (new.length - suffix)

theorem commonEnds
    (old new : List JsString) :
    CommonEnds old new (commonLength old new)
      (commonLength (old.drop (commonLength old new)).reverse
        (new.drop (commonLength old new)).reverse) := by
  obtain ⟨short, otherShort, start⟩ := commonLength_spec old new
  generalize commonLength old new = same at *
  obtain ⟨oldRoom, newRoom, ending⟩ :=
    commonLength_spec (old.drop same).reverse (new.drop same).reverse
  generalize commonLength (old.drop same).reverse (new.drop same).reverse =
    suffix at *
  rw [List.length_reverse, List.length_drop] at oldRoom newRoom
  have oldEnd : old.length - same - suffix + same = old.length - suffix := by
    omega
  have newEnd : new.length - same - suffix + same = new.length - suffix := by
    omega
  refine ⟨by omega, by omega, start, ?_⟩
  rw [List.take_reverse, List.take_reverse, List.reverse_inj,
    List.drop_drop, List.drop_drop, List.length_drop, List.length_drop] at ending
  rw [Nat.add_comm, oldEnd, Nat.add_comm, newEnd] at ending
  exact ending

/-! ## The text of a diff -/

open Diff in
/-- The hunk between two lists of lines. -/
def sourceHunk (old new : List JsString) (same suffix : Nat) : Hunk :=
  let start := same - 3
  let tail := min 3 suffix
  let oldEnd := old.length - suffix
  let newEnd := new.length - suffix
  let oldCount := oldEnd + tail - start
  let newCount := newEnd + tail - start
  { oldStart := if oldCount = 0 then 0 else start + 1
    oldCount
    newStart := if newCount = 0 then 0 else start + 1
    newCount
    edits :=
      ((old.take same).drop start).map (Edit.mk .keep) ++
        ((old.take oldEnd).drop same).map (Edit.mk .delete) ++
        ((new.take newEnd).drop same).map (Edit.mk .insert) ++
        ((old.take (oldEnd + tail)).drop oldEnd).map (Edit.mk .keep) }

theorem parts_of_foldlM
    {mark : JsString}
    {added : List JsString}
    {diff final : DiffParts}
    (appended : added.foldlM (append remainingBytes mark) diff = some final) :
    final.parts = diff.parts ++ added.flatMap (diffLine mark) := by
  induction added generalizing diff with
  | nil =>
      cases Option.some.inj appended
      simp
  | cons line rest inductionHypothesis =>
      rw [List.foldlM_cons] at appended
      obtain ⟨next, first, later⟩ := Option.bind_eq_some_iff.mp appended
      rw [append] at first
      split at first
      · cases first
      · cases Option.some.inj first
        rw [inductionHypothesis later, List.flatMap_cons, List.append_assoc]

open Diff in
open Diff in
theorem flatMap_diffLine
    (kind : EditKind)
    (added : List JsString) :
    added.flatMap (diffLine [kind.mark]) =
      (added.map (Edit.mk kind)).flatMap Edit.text := by
  rw [List.flatMap_map]
  rfl

theorem diffHeader_eq
    (path : JsString)
    (hunk : Diff.Hunk)
    {start : Nat}
    (oldStart : hunk.oldStart = if hunk.oldCount = 0 then 0 else start + 1)
    (newStart : hunk.newStart = if hunk.newCount = 0 then 0 else start + 1) :
    diffHeader path start hunk.oldCount hunk.newCount =
      js "--- " ++ (js "a/" ++ path) ++ js "\n+++ " ++ (js "b/" ++ path) ++
        js "\n" ++ hunk.header := by
  have first : js "--- a/" = js "--- " ++ js "a/" := by decide
  have second : js "\n+++ b/" = js "\n+++ " ++ js "b/" := by decide
  have third : js "\n@@ -" = js "\n" ++ js "@@ -" := by decide
  rw [diffHeader, Diff.Hunk.header, first, second, third, oldStart, newStart]
  simp only [List.append_assoc]

variable {path before after diff : JsString} {oldFiles newFiles : FileTable}

theorem text_of_sourceDiff
    (shown : sourceDiff path before after remainingBytes = some diff) :
    ∃ same suffix,
      CommonEnds (splitLines before) (splitLines after) same suffix ∧
        diff = Diff.FileDiff.text ⟨js "a/" ++ path, js "b/" ++ path,
          [sourceHunk (splitLines before) (splitLines after) same suffix]⟩ := by
  simp only [sourceDiff, Option.bind_eq_bind, Option.bind_eq_some_iff] at shown
  obtain ⟨old, isOld, new, isNew, first, isFirst, second, isSecond, third,
    isThird, fourth, isFourth, isDiff⟩ := shown
  cases splitLines_of_linesWithin isOld
  cases splitLines_of_linesWithin isNew
  have isParts := (Option.some.inj (Option.ite_none_right_eq_some.mp isDiff).2)
  refine ⟨_, _, commonEnds _ _, ?_⟩
  rw [← isParts, parts_of_foldlM isFourth, parts_of_foldlM isThird,
    parts_of_foldlM isSecond, parts_of_foldlM isFirst]
  generalize splitLines before = old
  generalize splitLines after = new
  generalize commonLength old new = same
  generalize commonLength (old.drop same).reverse (new.drop same).reverse =
    suffix
  have marks : js " " = [Diff.EditKind.keep.mark] ∧
      js "-" = [Diff.EditKind.delete.mark] ∧
      js "+" = [Diff.EditKind.insert.mark] := ⟨rfl, rfl, rfl⟩
  have header := diffHeader_eq path (sourceHunk old new same suffix) rfl rfl
  rw [marks.1, marks.2.1, marks.2.2, flatMap_diffLine, flatMap_diffLine,
    flatMap_diffLine, flatMap_diffLine, Diff.FileDiff.text,
    List.flatMap_singleton, Diff.Hunk.text]
  simp only [sourceHunk] at header
  simp only [sourceHunk, header, List.flatMap_append, List.append_assoc]

/-! ## Patching with the hunk -/

open Diff in
theorem sides_map
    (kind : EditKind)
    (lines : List JsString) :
    oldSide (lines.map (Edit.mk kind)) =
        (if kind.onOld = 1 then lines else []) ∧
      newSide (lines.map (Edit.mk kind)) =
        (if kind.onNew = 1 then lines else []) := by
  cases kind <;>
    simp [oldSide, newSide, EditKind.onOld, EditKind.onNew,
      List.filter_map, Function.comp_def]

open Diff in
theorem sides_append
    (first second : List Edit) :
    oldSide (first ++ second) = oldSide first ++ oldSide second ∧
      newSide (first ++ second) = newSide first ++ newSide second := by
  simp [oldSide, newSide]

theorem drop_take_split
    (lines : List JsString)
    {start middle later stop : Nat}
    (first : start ≤ middle)
    (second : middle ≤ later)
    (third : later ≤ stop) :
    (lines.take middle).drop start ++ (lines.take later).drop middle ++
        (lines.take stop).drop later = (lines.take stop).drop start := by
  have join : ∀ {low mid high : Nat}, low ≤ mid → mid ≤ high →
      (lines.take mid).drop low ++ (lines.take high).drop mid =
        (lines.take high).drop low := by
    intro low mid high lowMid midHigh
    conv_rhs => rw [← List.take_append_drop (mid - low) ((lines.take high).drop low)]
    rw [List.drop_drop, Nat.add_sub_cancel' lowMid, List.take_drop,
      Nat.add_sub_cancel' lowMid, List.take_take, Nat.min_eq_left midHigh]
  rw [join first second, join (Nat.le_trans first second) third]

section

variable (ends : CommonEnds old new same suffix)

include ends

theorem oldSide_sourceHunk :
    Diff.oldSide (sourceHunk old new same suffix).edits =
      (old.take (old.length - suffix + min 3 suffix)).drop (same - 3) := by
  have room := ends.oldRoom
  simp only [sourceHunk, sides_append, sides_map, Diff.EditKind.onOld]
  simp only [↓reduceIte, Nat.zero_ne_one, List.append_nil]
  exact drop_take_split old (by omega) (by omega) (by omega)

theorem newSide_sourceHunk :
    Diff.newSide (sourceHunk old new same suffix).edits =
      (new.take (new.length - suffix + min 3 suffix)).drop (same - 3) := by
  have room := ends.newRoom
  have oldRoom := ends.oldRoom
  have tail : (old.take (old.length - suffix + min 3 suffix)).drop
        (old.length - suffix) =
      (new.take (new.length - suffix + min 3 suffix)).drop
        (new.length - suffix) := by
    rw [List.drop_take, List.drop_take, ends.ending, Nat.add_sub_cancel_left,
      Nat.add_sub_cancel_left]
  simp only [sourceHunk, sides_append, sides_map, Diff.EditKind.onNew]
  simp only [↓reduceIte, Nat.zero_ne_one, List.append_nil]
  rw [tail, ends.start]
  exact drop_take_split new (by omega) (by omega) (by omega)

theorem counts_sourceHunk :
    (sourceHunk old new same suffix).oldCount =
        (Diff.oldSide (sourceHunk old new same suffix).edits).length ∧
      (sourceHunk old new same suffix).newCount =
        (Diff.newSide (sourceHunk old new same suffix).edits).length := by
  have oldRoom := ends.oldRoom
  have newRoom := ends.newRoom
  rw [oldSide_sourceHunk ends, newSide_sourceHunk ends]
  simp only [sourceHunk, List.length_drop, List.length_take]
  omega

theorem linesBefore_sourceHunk :
    Diff.linesBefore (sourceHunk old new same suffix).oldStart
        (sourceHunk old new same suffix).oldCount = same - 3 ∧
      Diff.linesBefore (sourceHunk old new same suffix).newStart
        (sourceHunk old new same suffix).newCount = same - 3 := by
  have oldRoom := ends.oldRoom
  have newRoom := ends.newRoom
  simp only [Diff.linesBefore, sourceHunk]
  constructor
  · split <;> omega
  · split <;> omega

theorem applyHunks_sourceHunk :
    Diff.applyHunks 0 0 old [sourceHunk old new same suffix] = some new := by
  have oldRoom := ends.oldRoom
  have newRoom := ends.newRoom
  obtain ⟨oldCount, newCount⟩ := counts_sourceHunk ends
  obtain ⟨oldBefore, newBefore⟩ := linesBefore_sourceHunk ends
  have fits : (sourceHunk old new same suffix).Fits 0 0 old := by
    refine ⟨oldCount, newCount, Nat.zero_le _, ?_, Nat.zero_le _, ?_⟩
    · rw [oldBefore, newBefore]
    · rw [oldBefore, oldSide_sourceHunk ends, Nat.sub_zero, List.drop_take]
      exact List.take_prefix _ _
  have count : same - 3 + (sourceHunk old new same suffix).oldCount =
      old.length - suffix + min 3 suffix := by
    simp only [sourceHunk]
    omega
  have before : old.take (same - 3) = new.take (same - 3) := by
    have first := congrArg (List.take (same - 3)) ends.start
    rwa [List.take_take, List.take_take, Nat.min_eq_left (Nat.sub_le _ _)]
      at first
  have after : old.drop (old.length - suffix + min 3 suffix) =
      new.drop (new.length - suffix + min 3 suffix) := by
    rw [← List.drop_drop, ← List.drop_drop, ends.ending]
  have whole : new.take (same - 3) ++
      (new.take (new.length - suffix + min 3 suffix)).drop (same - 3) ++
        new.drop (new.length - suffix + min 3 suffix) = new := by
    have first := List.take_append_drop (same - 3)
      (new.take (new.length - suffix + min 3 suffix))
    rw [List.take_take, Nat.min_eq_left (by omega)] at first
    rw [first, List.take_append_drop]
  simp only [Diff.applyHunks, if_pos fits, Option.map_some]
  rw [oldBefore, Nat.sub_zero, count, before, after, newSide_sourceHunk ends,
    whole]

end

theorem sourceHunk_lines
    {before after : JsString}
    {same suffix : Nat} :
    ∀ edit ∈ (sourceHunk (splitLines before) (splitLines after)
      same suffix).edits, IsLine edit.line := by
  have old := (areLines_splitLines before).isLine
  have new := (areLines_splitLines after).isLine
  intro edit member
  simp only [sourceHunk, List.mem_append, List.mem_map] at member
  rcases member with ((member | member) | member) | member <;>
    obtain ⟨line, member, rfl⟩ := member
  · exact old line (List.mem_of_mem_take (List.mem_of_mem_drop member))
  · exact old line (List.mem_of_mem_take (List.mem_of_mem_drop member))
  · exact new line (List.mem_of_mem_take (List.mem_of_mem_drop member))
  · exact old line (List.mem_of_mem_take (List.mem_of_mem_drop member))

theorem apply_sourceDiff
    (oneLine : newline ∉ path)
    (shown : sourceDiff path before after remainingBytes = some diff) :
    Diff.apply diff before = some after := by
  obtain ⟨same, suffix, ends, rfl⟩ := text_of_sourceDiff shown
  have counts := counts_sourceHunk ends
  have name : ∀ side : JsString, newline ∉ side → newline ∉ side ++ path := by
    intro side plain member
    exact (List.mem_append.mp member).elim plain oneLine
  have wellFormed : Diff.FileDiff.WellFormed ⟨js "a/" ++ path,
      js "b/" ++ path,
      [sourceHunk (splitLines before) (splitLines after) same suffix]⟩ := by
    refine ⟨name _ (by decide), name _ (by decide), fun hunk member => ?_⟩
    rw [List.mem_singleton.mp member]
    exact ⟨counts.1, counts.2, sourceHunk_lines⟩
  rw [Diff.apply, Diff.parse_text wellFormed]
  simp only [Option.bind_eq_bind, Option.bind_some, applyHunks_sourceHunk ends,
    flatten_splitLines, Option.pure_def]

/-! ## Changed paths -/

/-- The content of the file with a path. -/
def contentAt (files : List SourceFile) (path : JsString) : Option JsString :=
  (files.find? fun file => decide (file.path = path)).map SourceFile.content

theorem nodup_of_filesDiagnostics
    {seen : List JsString}
    {files : List SourceFile}
    (none : filesDiagnostics seen files = []) :
    (files.map SourceFile.path).Nodup ∧ ∀ file ∈ files, file.path ∉ seen := by
  induction files generalizing seen with
  | nil => exact ⟨List.nodup_nil, by simp⟩
  | cons file rest inductionHypothesis =>
      simp only [filesDiagnostics, fileDiagnostics, List.append_eq_nil_iff,
        ite_eq_right_iff, List.cons_ne_nil, imp_false] at none
      obtain ⟨⟨⟨_, fresh⟩, _⟩, later⟩ := none
      exact nodup_unseen_cons fresh (inductionHypothesis later)

/-- What validation promises about the paths of a workspace. -/
structure PlainPaths (workspace : ReviewedWorkspace) : Prop where
  distinct : (workspace.files.map SourceFile.path).Nodup
  oneLine : ∀ file ∈ workspace.files, newline ∉ file.path

theorem plainPaths_of_validatedWorkspace
    (validated : validatedWorkspace workspace = .ok ()) :
    PlainPaths workspace := by
  obtain ⟨paths, accepted, valid⟩ := bind_eq_ok.mp validated
  have none := check_eq_ok.mp valid
  simp only [workspaceDiagnostics, List.append_eq_nil_iff] at none
  refine ⟨(nodup_of_filesDiagnostics none.1.1.1.1.2).1, ?_⟩
  intro file member isNewline
  obtain ⟨path, isPath⟩ := ok_of_mapM_eq_ok accepted member
  obtain ⟨plain, _⟩ := check_bind_eq_ok.mp isPath
  have allowed := List.all_eq_true.mp plain.2 newline isNewline
  exact absurd allowed (by decide)

theorem PlainPaths.of_contentAt
    (plain : PlainPaths workspace)
    {path content : JsString}
    (isContent : contentAt workspace.files path = some content) :
    newline ∉ path := by
  obtain ⟨file, found, _⟩ := Option.map_eq_some_iff.mp isContent
  have isPath := of_decide_eq_true
    (List.find?_some
      (p := fun file : SourceFile => decide (file.path = path)) found)
  exact isPath ▸ plain.oneLine file (List.mem_of_find?_eq_some found)

theorem contentOf_fileMap
    (distinct : (workspace.files.map SourceFile.path).Nodup)
    (path : JsString) :
    contentOf (fileMap workspace) path = contentAt workspace.files path := by
  have rows : (fileMap workspace).rows = workspace.files :=
    Table.rows_setAll_of_fresh distinct fun _ _ => rfl
  rw [contentOf, contentAt, Table.find?, rows]

theorem changedPaths_spec
    (oldFiles newFiles : FileTable) :
    (changedPaths oldFiles newFiles).Nodup ∧
      ∀ path, path ∈ changedPaths oldFiles newFiles ↔
        contentOf oldFiles path ≠ contentOf newFiles path := by
  have same := sortByKey_perm id
    (oldFiles.rows.map SourceFile.path ++
      newFiles.rows.map SourceFile.path).dedup
  refine ⟨(same.nodup_iff.mpr (List.nodup_dedup _)).filter _, fun path => ?_⟩
  rw [changedPaths, List.mem_filter, unique, same.mem_iff, List.mem_dedup,
    decide_eq_true_iff, and_iff_right_iff_imp]
  intro differs
  have absent : ∀ {files : FileTable},
      path ∉ files.rows.map SourceFile.path → contentOf files path = none := by
    intro files missing
    rw [contentOf, Table.find?_eq_none.mpr, Option.map_none]
    exact fun row member isPath =>
      missing (isPath ▸ List.mem_map_of_mem member)
  by_contra missing
  rw [List.mem_append, not_or] at missing
  exact differs ((absent missing.1).trans (absent missing.2).symm)

/-! ## Patching the source -/

/-- Apply a listed change to the contents under paths. -/
def applyChange (contents : JsString → Option JsString)
    (change : AIProposalSourceChange) :
    Option (JsString → Option JsString) :=
  match change.kind, contents change.path with
  | .added, none =>
      (Diff.apply change.diff []).map fun after =>
        Function.update contents change.path (some after)
  | .removed, some before =>
      if Diff.apply change.diff before = some [] then
        some (Function.update contents change.path none)
      else
        none
  | .modified, some before =>
      (Diff.apply change.diff before).map fun after =>
        Function.update contents change.path (some after)
  | _, _ => none

/-- The contents where some paths have their new content. -/
def mixed (old new : JsString → Option JsString) (shown : List JsString) :
    JsString → Option JsString :=
  fun path => if path ∈ shown then new path else old path

/-- What the loop over the changed paths keeps true of the paths done. -/
structure Gathers (old new : JsString → Option JsString)
    (done : List JsString) (gathered : Gathered) : Prop where
  shown : (gathered.sourceChanges.map AIProposalSourceChange.path).Sublist done
  counted : gathered.sourceChanges.length + gathered.omittedFiles = done.length
  patched : gathered.sourceChanges.foldlM applyChange old =
    some (mixed old new (gathered.sourceChanges.map AIProposalSourceChange.path))

/-- A change that is shown turns the old content into the new one. -/
theorem applyChange_shown
    {old new contents : JsString → Option JsString}
    {change : AIProposalSourceChange}
    (untouched : contents change.path = old change.path)
    (differs : old change.path ≠ new change.path)
    (oneLine : newline ∉ change.path)
    (isKind : change.kind = changeKind (old change.path) (new change.path))
    (isDiff : sourceDiff change.path ((old change.path).getD [])
      ((new change.path).getD []) remainingBytes = some change.diff) :
    applyChange contents change =
      some (Function.update contents change.path (new change.path)) := by
  have applied := apply_sourceDiff oneLine isDiff
  rw [applyChange, untouched, isKind]
  cases before : old change.path with
  | none =>
      cases after : new change.path with
      | none => exact absurd (before.trans after.symm) differs
      | some after =>
          simp_all [changeKind]
  | some before =>
      cases after : new change.path with
      | none => simp_all [changeKind]
      | some after => simp_all [changeKind]

theorem Gathers.gather
    {done : List JsString}
    {path : JsString}
    (gathers : Gathers (contentOf oldFiles) (contentOf newFiles) done gathered)
    (fresh : path ∉ done)
    (differs : contentOf oldFiles path ≠ contentOf newFiles path)
    (oneLine : newline ∉ path) :
    Gathers (contentOf oldFiles) (contentOf newFiles) (done ++ [path])
      (gather host oldFiles newFiles gathered path) := by
  obtain ⟨shown, counted, patched⟩ := gathers
  rw [Proposal.gather]
  split
  · refine ⟨shown.trans (List.sublist_append_left _ _), ?_, patched⟩
    simp only [List.length_append, List.length_singleton]
    omega
  · rename_i diff isDiff
    have isDiff := (Option.ite_none_left_eq_some.mp isDiff).2
    have unseen : path ∉
        gathered.sourceChanges.map AIProposalSourceChange.path := fun member =>
      fresh (shown.subset member)
    refine ⟨?_, ?_, ?_⟩
    · rw [List.map_append]
      exact shown.append (List.Sublist.refl [path])
    · simp only [List.length_append, List.length_singleton]
      omega
    · rw [List.foldlM_append, patched, Option.bind_eq_bind, Option.bind_some,
        List.foldlM_cons, applyChange_shown (if_neg unseen) differs oneLine rfl
          isDiff]
      simp only [List.foldlM_nil, Option.bind_eq_bind, Option.bind_some,
        Option.pure_def, Option.some.injEq]
      funext other
      by_cases same : other = path
      · subst same
        simp [mixed]
      · simp [mixed, same]

theorem Gathers.foldl
    {done paths : List JsString}
    (gathers : Gathers (contentOf oldFiles) (contentOf newFiles) done gathered)
    (distinct : (done ++ paths).Nodup)
    (differs : ∀ path ∈ paths,
      contentOf oldFiles path ≠ contentOf newFiles path)
    (oneLine : ∀ path ∈ paths, newline ∉ path) :
    Gathers (contentOf oldFiles) (contentOf newFiles) (done ++ paths)
      (paths.foldl (Proposal.gather host oldFiles newFiles) gathered) := by
  induction paths generalizing done gathered with
  | nil => rwa [List.append_nil]
  | cons path paths inductionHypothesis =>
      rw [List.forall_mem_cons] at differs oneLine
      rw [List.append_cons] at distinct ⊢
      have fresh : path ∉ done := fun member =>
        List.disjoint_of_nodup_append (List.nodup_append.mp distinct).1
          member (List.mem_singleton_self path)
      exact inductionHypothesis (gathers.gather fresh differs.1 oneLine.1)
        distinct differs.2 oneLine.2

theorem Gathers.faithful
    {old new : JsString → Option JsString}
    {done : List JsString}
    (gathers : Gathers old new done gathered)
    (distinct : done.Nodup)
    (changed : ∀ path, path ∈ done ↔ old path ≠ new path) :
    (gathered.omittedFiles = 0 →
        gathered.sourceChanges.foldlM applyChange old = some new) ∧
      gathered.sourceChanges.length + gathered.omittedFiles =
        Set.ncard {path | old path ≠ new path} := by
  obtain ⟨shown, counted, patched⟩ := gathers
  constructor
  · intro noneOmitted
    have all := shown.eq_of_length (by
      rw [List.length_map]
      omega)
    rw [patched, all]
    refine congrArg some (funext fun path => ?_)
    rw [mixed]
    split
    · rfl
    · rename_i unchanged
      exact not_not.mp fun differs => unchanged ((changed path).mpr differs)
  · rw [counted, ← List.toFinset_card_of_nodup distinct,
      ← Set.ncard_coe_finset]
    refine congrArg Set.ncard (Set.ext fun path => ?_)
    rw [List.coe_toFinset]
    exact changed path

/-- A review that shows what the proposal changes. -/
structure FaithfulReview (source candidate : List SourceFile)
    (review : AIProposalReview) : Prop where
  patches : review.coverage.complete = true →
    review.sourceChanges.foldlM applyChange (contentAt source) =
      some (contentAt candidate)
  listed : review.coverage.shownFiles = review.sourceChanges.length
  counted : review.coverage.shownFiles + review.coverage.omittedFiles =
    Set.ncard {path | contentAt source path ≠ contentAt candidate path}

/-- The review of a proposal that fits its source is faithful. -/
theorem faithful_currentReview
    {input : AIProposalReviewInput}
    {review : AIProposalReview}
    (sourcePaths : PlainPaths input.source)
    (candidatePaths : PlainPaths input.proposal.candidateWorkspace)
    (reviewed : currentReview host input = .ok review) :
    FaithfulReview input.source.files input.proposal.candidateWorkspace.files
      review := by
  obtain ⟨isMatch, _, isReview⟩ := bind_eq_ok.mp reviewed
  cases Except.ok.inj isReview
  have oldContent := contentOf_fileMap sourcePaths.distinct
  have newContent := contentOf_fileMap candidatePaths.distinct
  obtain ⟨distinct, changed⟩ := changedPaths_spec (fileMap input.source)
    (fileMap input.proposal.candidateWorkspace)
  have oneLine : ∀ path ∈ changedPaths (fileMap input.source)
      (fileMap input.proposal.candidateWorkspace), newline ∉ path := by
    intro path member
    have differs := (changed path).mp member
    rw [oldContent, newContent] at differs
    cases before : contentAt input.source.files path with
    | some content => exact sourcePaths.of_contentAt before
    | none =>
        cases after : contentAt input.proposal.candidateWorkspace.files path with
        | some content => exact candidatePaths.of_contentAt after
        | none => exact absurd (before.trans after.symm) differs
  have start : Gathers (contentOf (fileMap input.source))
      (contentOf (fileMap input.proposal.candidateWorkspace)) []
      ⟨[], [], 0, 0⟩ := ⟨.slnil, rfl, rfl⟩
  have gathers := @Gathers.foldl host _ _ _ []
    (changedPaths (fileMap input.source)
      (fileMap input.proposal.candidateWorkspace)) start distinct
    (fun path member => (changed path).mp member) oneLine
  obtain ⟨patched, counted⟩ := gathers.faithful distinct changed
  rw [funext oldContent, funext newContent] at patched counted
  exact ⟨fun complete => patched (of_decide_eq_true complete), rfl, counted⟩

/--
A current review is faithful: when it is complete, its diffs turn the source
into the candidate, and it always accounts for each path that differs.
-/
theorem faithful_review
    {host : Host}
    {input : AIProposalReviewInput}
    {pending : PendingAIProposal}
    (projected : projectPendingAIProposal host input = .ok pending)
    (current : pending.review.status = .current) :
    FaithfulReview input.source.files input.proposal.candidateWorkspace.files
      pending.review := by
  obtain ⟨review, reviewed, isPending⟩ := bind_eq_ok.mp projected
  cases Except.ok.inj isPending
  rw [reviewOf] at reviewed
  split at reviewed
  · cases Except.ok.inj reviewed
    cases current
  · split at reviewed
    · cases Except.ok.inj reviewed
      cases current
    · split at reviewed
      · cases Except.ok.inj reviewed
        cases current
      · rename_i validated
        obtain ⟨_, source, candidate⟩ := bind_eq_ok.mp validated
        exact faithful_currentReview (plainPaths_of_validatedWorkspace source)
          (plainPaths_of_validatedWorkspace candidate) reviewed

/-- A workspace of the proposal below. -/
def editedWorkspace (id : String) (parentId : Option JsString)
    (files : List (String × String)) : ReviewedWorkspace where
  projectId := js "project"
  entrypoint := js "App.ts"
  files := files.map fun (path, content) => ⟨js path, js content, .ts⟩
  dependencies := []
  nodes := []
  revision := ⟨js id, parentId, js "2026-01-01T00:00:00.000Z", js "Edit"⟩

/-- A proposal that changes a file, removes another one and adds a third. -/
def editingInput : AIProposalReviewInput where
  source := editedWorkspace "revision-1" none
    [("App.ts", "const a = 1;\nconst b = 2;\n"), ("Old.ts", "const c = 3;\n")]
  proposal := {
    requestId := js "request"
    agentId := js "agent"
    scenarioId := js "scenario"
    baseRevisionId := js "revision-1"
    baseFingerprint := js "revision-1"
    candidateWorkspace := editedWorkspace "revision-2" (some (js "revision-1"))
      [("App.ts", "const a = 1;\nconst b = 4;"), ("New.ts", "const d = 5;\n")]
    candidateFingerprint := js "revision-2"
    compileEvidence := none
    summary := js "Edit"
    createdAt := js "2026-01-02T00:00:00.000Z" }
  target := none

/-- A host whose texts name the revision. -/
def namingHost : Host where
  digest := id
  jsonText workspace := workspace.revision.id
  serializeCanonicalData workspace := .ok workspace.revision.id

theorem faithful_editingReview :
    ∃ pending, projectPendingAIProposal namingHost editingInput = .ok pending ∧
      pending.review.coverage.complete = true ∧
      pending.review.sourceChanges.length = 3 ∧
      FaithfulReview editingInput.source.files
        editingInput.proposal.candidateWorkspace.files pending.review := by
  have accepted :
      (projectPendingAIProposal namingHost editingInput).toOption.any
        (fun pending => decide (pending.review.status = .current ∧
          pending.review.coverage.complete = true ∧
          pending.review.sourceChanges.length = 3)) = true := by
    decide +kernel
  obtain ⟨pending, isPending, checked⟩ := Option.any_eq_true _ _ |>.mp accepted
  obtain ⟨current, complete, changes⟩ := of_decide_eq_true checked
  have projected : projectPendingAIProposal namingHost editingInput =
      .ok pending := by
    cases outcome : projectPendingAIProposal namingHost editingInput with
    | error reason =>
        rw [outcome] at isPending
        cases isPending
    | ok found =>
        rw [outcome] at isPending
        cases isPending
        rfl
  exact ⟨pending, projected, complete, changes,
    faithful_review projected current⟩

end Selene.Proposal
