import Selene.RevisionDiffPaths

/-!
# Identical edits in a merge

A merge plan compares the changes of its source with those of its target by what
they leave at a path.  A removal leaves nothing, and nothing equals nothing: of
identical changes exactly the removals are reported as conflicts
(`planRevisionMerge_identical`).
-/

namespace Selene.History

open Js Collaboration

/-! ## Operands of a copy -/

theorem inert_entry
    {entries : Record}
    (inert : Inert (.object entries)) :
    ∀ entry ∈ entries, entry.1 ≠ js "length" ∧ Inert entry.2 := by
  intro entry member
  rw [Inert, inertCopy, JsValue.object.injEq, inertCopyEntries_eq] at inert
  rw [← inert] at member
  obtain ⟨old, kept, rfl⟩ := List.mem_map.mp member
  exact ⟨of_decide_eq_true (List.mem_filter.mp kept).2, inert_inertCopy _⟩

/-- An operand of the difference of two copies that the boundary took. -/
def Operand.Taken : Operand → Prop
  | .data value =>
      value.WellFormed ∧ Inert value ∧ collaborationBudgets.Admits value
  | _ => True

namespace Operand

variable {key : JsString}

theorem Taken.get
    {entries : Record}
    (taken : Taken (.data (.object entries)))
    (isKey : key ∈ entries.keys) :
    Taken (.data (entries.get key)) := by
  obtain ⟨formed, inert, admitted⟩ := taken
  have member := Record.mem_of_get isKey
  obtain ⟨kept, inside⟩ := inert_entry inert _ member
  exact ⟨formed.get isKey, inside, admitted.entry _ member kept⟩

theorem taken_inherited
    {found : Operand}
    (read : inherited key = some found) :
    found.Taken := by
  rw [inherited] at read
  split at read
  · cases read
    trivial
  · split at read
    · cases read
      trivial
    · cases read

theorem taken_null : Taken (.data .null) :=
  ⟨.null, rfl, by decide⟩

variable {operand : Operand}

theorem Taken.read
    {found : Operand}
    (taken : operand.Taken)
    (read : operand.read? key = some found) :
    found.Taken := by
  cases operand with
  | method => cases read
  | objectPrototype =>
      rw [Operand.read?] at read
      split at read
      · cases read
        trivial
      · split at read
        · cases read
          exact taken_null
        · cases read
  | data value =>
      cases value with
      | object entries =>
          rw [Operand.read?] at read
          split at read
          · rename_i isKey
            cases read
            exact taken.get isKey
          · exact taken_inherited read
      | _ => cases read

theorem Taken.present
    (taken : operand.Taken) :
    ∃ value, operand.present? = some value ∧ Inert value := by
  cases operand with
  | data value =>
      cases value with
      | undefined => cases taken.2.2
      | _ => exact ⟨_, rfl, taken.2.1⟩
  | _ => exact ⟨.exotic, rfl, rfl⟩

theorem read_of_key
    (isKey : key ∈ operand.keys) :
    operand.read? key ≠ none := by
  cases operand with
  | data value =>
      cases value with
      | object entries =>
          have own : key ∈ Record.keys entries := isKey
          simp [read?, own]
      | _ => cases isKey
  | _ => cases isKey

end Operand

/-! ## What a change leaves -/

/-- A change of copies; it leaves nothing exactly if it is a removal. -/
structure Settled (change : RevisionChange) : Prop where
  removes : change.after = none ↔ change.kind = .remove
  before : ∀ value ∈ change.before, Inert value
  after : ∀ value ∈ change.after, Inert value

theorem Settled.copy
    {change : RevisionChange}
    (settled : Settled change) :
    change.copy = change := by
  obtain ⟨kind, path, before, after⟩ := change
  have same : ∀ value : Option JsValue,
      (∀ present ∈ value, Inert present) → value.map inertCopy = value := by
    intro value inert
    cases value with
    | none => rfl
    | some present => exact congrArg some (inert present rfl)
  simp only [RevisionChange.copy, same before settled.before,
    same after settled.after]

variable {left right : Operand}

section

variable (leftTaken : left.Taken) (rightTaken : right.Taken) (path : JsString)

include leftTaken rightTaken

theorem settled_whole :
    Settled (wholeChange left right path) := by
  obtain ⟨before, beforePresent, beforeInert⟩ := leftTaken.present
  obtain ⟨after, afterPresent, afterInert⟩ := rightTaken.present
  refine ⟨?_, ?_, ?_⟩
  · simp [wholeChange, beforePresent, afterPresent]
  · simp [wholeChange, beforePresent, beforeInert]
  · simp [wholeChange, afterPresent, afterInert]

theorem settled_leaf :
    ∀ change ∈ diffLeaf left right path, Settled change := by
  rw [diffLeaf]
  split
  · simp
  · simpa using settled_whole leftTaken rightTaken path

end

theorem settled_keys
    {inside : JsString → Operand → Operand → JsString → List RevisionChange}
    (insideSettled : ∀ key before after path,
      before.Taken → after.Taken →
        ∀ change ∈ inside key before after path, Settled change)
    (leftTaken : left.Taken)
    (rightTaken : right.Taken)
    (path : JsString) :
    ∀ change ∈ diffKeys inside left right path, Settled change := by
  intro change member
  obtain ⟨key, someKey, here⟩ := List.mem_flatMap.mp member
  split at here
  · rename_i notLeft
    have notKey : key ∉ left.keys := fun isKey =>
      Operand.read_of_key isKey notLeft
    have isKey := (mem_sortedKeys.mp someKey).resolve_left notKey
    obtain ⟨found, rightFound⟩ :=
      Option.ne_none_iff_exists'.mp (Operand.read_of_key isKey)
    obtain ⟨value, present, inert⟩ := (rightTaken.read rightFound).present
    rw [rightFound] at here
    cases List.mem_singleton.mp here
    exact ⟨by simp [present], by simp, by simp [present, inert]⟩
  · rename_i before leftFound notRight
    obtain ⟨value, present, inert⟩ := (leftTaken.read leftFound).present
    cases List.mem_singleton.mp here
    exact ⟨by simp, by simp [present, inert], by simp⟩
  · rename_i before after leftFound rightFound
    exact insideSettled key before after _ (leftTaken.read leftFound)
      (rightTaken.read rightFound) change here

theorem settled_inherited
    (leftTaken : left.Taken)
    (rightTaken : right.Taken)
    (path : JsString) :
    ∀ change ∈ diffInherited left right path, Settled change := by
  rw [diffInherited]
  split
  · simp
  · split
    · exact settled_keys (fun _ _ _ path leftTaken rightTaken =>
        settled_leaf leftTaken rightTaken path) leftTaken rightTaken path
    · simpa using settled_whole leftTaken rightTaken path

theorem settled_value
    {left : JsValue}
    (leftTaken : Operand.Taken (.data left))
    (rightTaken : right.Taken)
    (path : JsString) :
    ∀ change ∈ diffValue left right path, Settled change := by
  have formed := leftTaken.1
  induction formed generalizing right path with
  | @object entries distinct values inductionHypothesis =>
      rw [diffValue_object]
      split
      · simp
      · split
        · refine settled_keys (fun key before after path beforeTaken
            afterTaken => ?_) leftTaken rightTaken path
          rw [diffInside]
          split
          · rename_i isKey
            exact inductionHypothesis _ (Record.mem_of_get isKey)
              (leftTaken.get isKey) afterTaken path
          · exact settled_inherited beforeTaken afterTaken path
        · simpa using settled_whole leftTaken rightTaken path
  | _ => exact settled_leaf leftTaken rightTaken path

/-! ## Differences with equal values -/

/-- Two operands with the same content. -/
def Operand.Same : Operand → Operand → Prop
  | .data first, .data second => sameInert first second = true
  | .method, .method => True
  | .objectPrototype, .objectPrototype => True
  | _, _ => False

/-- Operands of two differences that have the same content. -/
structure Matching (first second : Operand) : Prop where
  taken : first.Taken
  otherTaken : second.Taken
  same : first.Same second

/-- Findings under one name. -/
def MatchingFound : Option Operand → Option Operand → Prop
  | none, none => True
  | some first, some second => Matching first second
  | _, _ => False

namespace Matching

theorem null : Matching (.data .null) (.data .null) :=
  ⟨Operand.taken_null, Operand.taken_null, rfl⟩

theorem method : Matching .method .method :=
  ⟨trivial, trivial, trivial⟩

theorem objectPrototype : Matching .objectPrototype .objectPrototype :=
  ⟨trivial, trivial, trivial⟩

theorem objects
    {first second : Record}
    (matching : Matching (.data (.object first)) (.data (.object second))) :
    (∀ key, key ∈ first.keys ↔ key ∈ second.keys) ∧
      ∀ key ∈ first.keys,
        Matching (.data (first.get key)) (.data (second.get key)) := by
  obtain ⟨sameKeys, values⟩ :=
    (sameInert_object_iff matching.taken.1.distinct
      matching.otherTaken.1.distinct).mp matching.same
  exact ⟨sameKeys, fun key isKey => ⟨matching.taken.get isKey,
    matching.otherTaken.get ((sameKeys key).mp isKey), values key isKey⟩⟩

theorem inherited (key : JsString) :
    MatchingFound (Operand.inherited key) (Operand.inherited key) := by
  rw [Operand.inherited]
  split
  · exact method
  · split
    · exact objectPrototype
    · trivial

variable {first second : Operand}

section

variable (matching : Matching first second)

include matching

theorem read
    (key : JsString) :
    MatchingFound (first.read? key) (second.read? key) := by
  have same := matching.same
  cases first with
  | method =>
      cases second with
      | method => trivial
      | _ => cases same
  | objectPrototype =>
      cases second with
      | objectPrototype =>
          rw [Operand.read?]
          split
          · exact method
          · split
            · exact null
            · trivial
      | _ => cases same
  | data value =>
      cases second with
      | data other =>
          cases value with
          | object entries =>
              cases other with
              | object others =>
                  obtain ⟨sameKeys, values⟩ := matching.objects
                  rw [Operand.read?, Operand.read?]
                  by_cases isKey : key ∈ Record.keys entries
                  · rw [if_pos isKey, if_pos ((sameKeys key).mp isKey)]
                    exact values key isKey
                  · rw [if_neg isKey,
                      if_neg (fun other => isKey ((sameKeys key).mpr other))]
                    exact inherited key
              | _ => cases same
          | _ =>
              cases other with
              | object others => cases same
              | _ => trivial
      | _ => cases same

theorem recordObject :
    first.recordObject = second.recordObject := by
  have same := matching.same
  cases first with
  | data value =>
      cases second with
      | data other => cases value <;> cases other <;> first | rfl | cases same
      | _ => cases same
  | _ => cases second <;> first | rfl | cases same

theorem mem_keys
    (key : JsString) :
    key ∈ first.keys ↔ key ∈ second.keys := by
  have same := matching.same
  cases first with
  | data value =>
      cases second with
      | data other =>
          cases value <;> cases other <;> first
            | exact matching.objects.1 key
            | exact Iff.rfl
            | cases same
      | _ => cases same
  | _ => cases second <;> first | exact Iff.rfl | cases same

theorem sortedKeys_eq
    (left : Operand) :
    sortedKeys left first = sortedKeys left second := by
  refine sortByKey_eq_of_perm (by simpa using List.nodup_dedup _) ?_
  refine (List.perm_ext_iff_of_nodup (List.nodup_dedup _)
    (List.nodup_dedup _)).mpr fun key => ?_
  simp only [List.mem_dedup, List.mem_append, matching.mem_keys key]

end

theorem equal
    {left : Operand}
    (leftTaken : left.Taken)
    (matching : Matching first second) :
    left.equal first = left.equal second := by
  obtain ⟨taken, otherTaken, same⟩ := matching
  cases left with
  | data value =>
      cases first with
      | data one =>
          cases second with
          | data two =>
              obtain ⟨formed, inert, admitted⟩ := leftTaken
              rw [Operand.equal, Operand.equal, equalCollaborationValues,
                equalCollaborationValues,
                Budgets.equalValues_of_inert admitted taken.2.2 inert
                  taken.2.1,
                Budgets.equalValues_of_inert admitted otherTaken.2.2 inert
                  otherTaken.2.1]
              exact sameInert_congr_right formed taken.1 otherTaken.1 same
          | _ => cases same
      | _ => cases second <;> first | rfl | cases same
  | _ => cases first <;> cases second <;> rfl

theorem present
    (matching : Matching first second) :
    first.present?.isNone = second.present?.isNone ∧
      (first.present? ≠ some .exotic →
        sameField first.present? second.present? = true) := by
  obtain ⟨value, isValue, -⟩ := matching.taken.present
  obtain ⟨other, isOther, -⟩ := matching.otherTaken.present
  refine ⟨by rw [isValue, isOther]; rfl, fun isData => ?_⟩
  have same := matching.same
  cases first with
  | data value =>
      cases second with
      | data other =>
          cases value <;> cases other <;> exact same
      | _ => cases same
  | _ => exact absurd rfl isData

end Matching

/-- Changes of one kind at one place that leave the same. -/
structure Alike (first second : RevisionChange) : Prop where
  path : first.path = second.path
  kind : first.kind = second.kind
  after : first.after ≠ some .exotic →
    sameField first.after second.after = true

/-- Lists of such changes, one by one. -/
abbrev AllAlike : List RevisionChange → List RevisionChange → Prop :=
  List.Forall₂ Alike

variable {left first second : Operand}

theorem alike_whole
    (matching : Matching first second)
    (path : JsString) :
    Alike (wholeChange left first path) (wholeChange left second path) := by
  obtain ⟨presence, same⟩ := matching.present
  exact ⟨rfl, by simp only [wholeChange, presence], same⟩

theorem alike_leaf
    (leftTaken : left.Taken)
    (matching : Matching first second)
    (path : JsString) :
    AllAlike (diffLeaf left first path) (diffLeaf left second path) := by
  rw [diffLeaf, diffLeaf, matching.equal leftTaken]
  split
  · exact .nil
  · exact .cons (alike_whole matching path) .nil

theorem alike_keys
    {inside : JsString → Operand → Operand → JsString → List RevisionChange}
    (insideAlike : ∀ key before first second path,
      before.Taken → Matching first second →
        AllAlike (inside key before first path)
          (inside key before second path))
    (leftTaken : left.Taken)
    (matching : Matching first second)
    (path : JsString) :
    AllAlike (diffKeys inside left first path)
      (diffKeys inside left second path) := by
  rw [diffKeys, diffKeys, matching.sortedKeys_eq left]
  refine List.rel_flatMap (List.forall₂_same.mpr fun key _ => rfl)
    fun key other sameKey => ?_
  subst sameKey
  have found := matching.read key
  cases leftRead : left.read? key with
  | none =>
      refine .cons ⟨rfl, rfl, fun isData => ?_⟩ .nil
      cases firstRead : first.read? key with
      | none =>
          cases secondRead : second.read? key with
          | none => rfl
          | some other => simp [firstRead, secondRead, MatchingFound] at found
      | some after =>
          cases secondRead : second.read? key with
          | none => simp [firstRead, secondRead, MatchingFound] at found
          | some other =>
              rw [firstRead, secondRead] at found
              rw [firstRead] at isData
              exact found.present.2 isData
  | some before =>
      cases firstRead : first.read? key with
      | none =>
          cases secondRead : second.read? key with
          | none => exact .cons ⟨rfl, rfl, fun _ => rfl⟩ .nil
          | some other => simp [firstRead, secondRead, MatchingFound] at found
      | some after =>
          cases secondRead : second.read? key with
          | none => simp [firstRead, secondRead, MatchingFound] at found
          | some other =>
              rw [firstRead, secondRead] at found
              exact insideAlike key before after other _
                (leftTaken.read leftRead) found

theorem alike_inherited
    (leftTaken : left.Taken)
    (matching : Matching first second)
    (path : JsString) :
    AllAlike (diffInherited left first path)
      (diffInherited left second path) := by
  rw [diffInherited, diffInherited, matching.equal leftTaken,
    matching.recordObject]
  split
  · exact .nil
  · split
    · exact alike_keys (fun _ _ _ _ path leftTaken matching =>
        alike_leaf leftTaken matching path) leftTaken matching path
    · exact .cons (alike_whole matching path) .nil

theorem alike_value
    {left : JsValue}
    (leftTaken : Operand.Taken (.data left))
    (matching : Matching first second)
    (path : JsString) :
    AllAlike (diffValue left first path) (diffValue left second path) := by
  have formed := leftTaken.1
  induction formed generalizing first second path with
  | @object entries distinct values inductionHypothesis =>
      rw [diffValue_object, diffValue_object, matching.equal leftTaken,
        matching.recordObject]
      split
      · exact .nil
      · split
        · refine alike_keys (fun key before after other path beforeTaken
            matching => ?_) leftTaken matching path
          rw [diffInside, diffInside]
          split
          · rename_i isKey
            exact inductionHypothesis _ (Record.mem_of_get isKey)
              (leftTaken.get isKey) matching path
          · exact alike_inherited beforeTaken matching path
        · exact .cons (alike_whole matching path) .nil
  | _ => exact alike_leaf leftTaken matching path

end Selene.History
