import Mathlib.Data.List.Perm.Basic
import Mathlib.Data.List.Nodup

/-!
# Insertion-ordered tables

A keyed collection that enumerates its rows in the order in which their keys
were first inserted, as the `Map` of the language does.  A row carries its own
key, so a table is a list of rows with distinct keys.
-/

namespace Js

variable {α κ : Type}

/-- Rows with distinct keys, in insertion order. -/
structure Table (keyOf : α → κ) where
  rows : List α
  distinct : (rows.map keyOf).Nodup

namespace Table

variable {keyOf : α → κ}

/-- The table without rows. -/
def empty : Table keyOf :=
  ⟨[], List.nodup_nil⟩

/-- The number of rows. -/
def size (table : Table keyOf) : Nat :=
  table.rows.length

/-- The rows that satisfy a predicate. -/
def keep (table : Table keyOf) (wanted : α → Bool) : Table keyOf where
  rows := table.rows.filter wanted
  distinct :=
    table.distinct.sublist (List.filter_sublist.map keyOf)

@[simp] theorem rows_keep
    (table : Table keyOf)
    (wanted : α → Bool) :
    (table.keep wanted).rows = table.rows.filter wanted :=
  rfl

variable {table : Table keyOf}

theorem eq_of_mem
    {first second : α}
    (firstMember : first ∈ table.rows)
    (secondMember : second ∈ table.rows)
    (sameKey : keyOf first = keyOf second) :
    first = second :=
  List.inj_on_of_nodup_map table.distinct firstMember secondMember sameKey

theorem size_keep_le
    (table : Table keyOf)
    (wanted : α → Bool) :
    (table.keep wanted).size ≤ table.size :=
  List.length_filter_le wanted table.rows

variable [DecidableEq κ]

/-- The row of a key. -/
def find? (table : Table keyOf) (key : κ) : Option α :=
  table.rows.find? fun row => decide (keyOf row = key)

/-- Whether a key has a row. -/
def has (table : Table keyOf) (key : κ) : Bool :=
  decide (key ∈ table.rows.map keyOf)

/-- Remove the row of a key. -/
def delete (table : Table keyOf) (key : κ) : Table keyOf :=
  table.keep fun row => decide (keyOf row ≠ key)

/-- Replace the row of the same key, or append a row of a new key. -/
def setRow (keyOf : α → κ) (row : α) : List α → List α
  | [] => [row]
  | other :: rest =>
      if keyOf other = keyOf row then row :: rest
      else other :: setRow keyOf row rest

theorem map_setRow
    (row : α)
    (rows : List α) :
    (setRow keyOf row rows).map keyOf =
      if keyOf row ∈ rows.map keyOf then rows.map keyOf
      else rows.map keyOf ++ [keyOf row] := by
  induction rows with
  | nil => simp [setRow]
  | cons other rest inductionHypothesis =>
      by_cases same : keyOf other = keyOf row
      · simp [setRow, same]
      · have different : keyOf row ≠ keyOf other := Ne.symm same
        rw [setRow, if_neg same, List.map_cons, inductionHypothesis]
        by_cases later : keyOf row ∈ rest.map keyOf
        · simp [later]
        · simp [later, different]

/-- Set a row under its key. -/
def set (table : Table keyOf) (row : α) : Table keyOf where
  rows := setRow keyOf row table.rows
  distinct := by
    rw [map_setRow]
    split
    · exact table.distinct
    · rename_i fresh
      exact List.nodup_append.mpr
        ⟨table.distinct, List.nodup_singleton _, by
          intro key old other isNew same
          cases List.mem_singleton.mp isNew
          cases same
          exact fresh old⟩

/-- Set rows one after another. -/
def setAll (table : Table keyOf) (rows : List α) : Table keyOf :=
  rows.foldl set table

/-! ## Reading -/

variable {key : κ}

theorem has_eq_true_iff :
    table.has key = true ↔ ∃ row ∈ table.rows, keyOf row = key := by
  simp [has]

variable {row : α}

theorem find?_eq_some :
    table.find? key = some row ↔ row ∈ table.rows ∧ keyOf row = key := by
  constructor
  · intro found
    exact ⟨List.mem_of_find?_eq_some found,
      of_decide_eq_true
        (List.find?_some (p := fun row => decide (keyOf row = key)) found)⟩
  · rintro ⟨member, rfl⟩
    cases found : table.find? (keyOf row) with
    | none =>
        have absent := List.find?_eq_none.mp found row member
        simp at absent
    | some other =>
        have otherMember := List.mem_of_find?_eq_some found
        have sameKey := of_decide_eq_true
          (List.find?_some
            (p := fun other => decide (keyOf other = keyOf row)) found)
        rw [eq_of_mem otherMember member sameKey]

theorem find?_eq_none :
    table.find? key = none ↔ ∀ row ∈ table.rows, keyOf row ≠ key := by
  simp [find?, List.find?_eq_none]

theorem has_eq_isSome
    (table : Table keyOf)
    (key : κ) :
    table.has key = (table.find? key).isSome := by
  rw [Bool.eq_iff_iff, has_eq_true_iff, Option.isSome_iff_exists]
  constructor
  · rintro ⟨row, member, isKey⟩
    exact ⟨row, find?_eq_some.mpr ⟨member, isKey⟩⟩
  · rintro ⟨row, found⟩
    exact ⟨row, find?_eq_some.mp found⟩

theorem has_of_find?
    (found : table.find? key = some row) :
    table.has key = true := by
  rw [has_eq_isSome, found]
  rfl

theorem find?_keyOf
    (member : row ∈ table.rows) :
    table.find? (keyOf row) = some row :=
  find?_eq_some.mpr ⟨member, rfl⟩

/-! ## Setting -/

variable {rows : List α}

theorem setRow_of_fresh
    (fresh : keyOf row ∉ rows.map keyOf) :
    setRow keyOf row rows = rows ++ [row] := by
  induction rows with
  | nil => rfl
  | cons other rest inductionHypothesis =>
      simp only [List.map_cons, List.mem_cons, not_or] at fresh
      rw [setRow, if_neg (Ne.symm fresh.1), inductionHypothesis fresh.2]
      rfl

theorem rows_set_of_fresh
    (fresh : table.has (keyOf row) = false) :
    (table.set row).rows = table.rows ++ [row] :=
  setRow_of_fresh (of_decide_eq_false fresh)

theorem mem_setRow
    {other : α}
    (distinct : (rows.map keyOf).Nodup) :
    other ∈ setRow keyOf row rows ↔
      other = row ∨ (other ∈ rows ∧ keyOf other ≠ keyOf row) := by
  induction rows with
  | nil => simp [setRow]
  | cons first rest inductionHypothesis =>
      rw [List.map_cons, List.nodup_cons] at distinct
      have later := inductionHypothesis distinct.2
      by_cases same : keyOf first = keyOf row
      · have others : ∀ other ∈ rest, keyOf other ≠ keyOf row := by
          intro other member sameOther
          exact distinct.1
            (same ▸ sameOther ▸ List.mem_map_of_mem member)
        rw [setRow, if_pos same]
        simp only [List.mem_cons]
        constructor
        · rintro (isRow | member)
          · exact Or.inl isRow
          · exact Or.inr ⟨Or.inr member, others other member⟩
        · rintro (isRow | ⟨rfl | member, different⟩)
          · exact Or.inl isRow
          · exact absurd same different
          · exact Or.inr member
      · rw [setRow, if_neg same]
        simp only [List.mem_cons, later]
        constructor
        · rintro (rfl | isRow | ⟨member, different⟩)
          · exact Or.inr ⟨Or.inl rfl, same⟩
          · exact Or.inl isRow
          · exact Or.inr ⟨Or.inr member, different⟩
        · rintro (isRow | ⟨rfl | member, different⟩)
          · exact Or.inr (Or.inl isRow)
          · exact Or.inl rfl
          · exact Or.inr (Or.inr ⟨member, different⟩)

theorem mem_set
    {other : α} :
    other ∈ (table.set row).rows ↔
      other = row ∨ (other ∈ table.rows ∧ keyOf other ≠ keyOf row) :=
  mem_setRow table.distinct

section

variable (table : Table keyOf) (row : α)

theorem find?_set
    (key : κ) :
    (table.set row).find? key =
      if keyOf row = key then some row else table.find? key := by
  split
  · rename_i isKey
    exact find?_eq_some.mpr ⟨mem_set.mpr (Or.inl rfl), isKey⟩
  · rename_i notKey
    cases found : table.find? key with
    | none =>
        have absent := find?_eq_none.mp found
        refine find?_eq_none.mpr fun other member => ?_
        rcases mem_set.mp member with rfl | ⟨old, _⟩
        · exact notKey
        · exact absent other old
    | some other =>
        obtain ⟨member, isKey⟩ := find?_eq_some.mp found
        refine find?_eq_some.mpr ⟨mem_set.mpr (Or.inr ⟨member, ?_⟩), isKey⟩
        intro same
        exact notKey (same ▸ isKey)

@[simp] theorem find?_set_self :
    (table.set row).find? (keyOf row) = some row := by
  rw [find?_set, if_pos rfl]

theorem size_set :
    (table.set row).size =
      if table.has (keyOf row) then table.size else table.size + 1 := by
  have lengths := congrArg List.length (@map_setRow _ _ keyOf _ row table.rows)
  by_cases old : keyOf row ∈ table.rows.map keyOf
  · simp only [old, ↓reduceIte, List.length_map] at lengths
    simpa [size, set, has, old] using lengths
  · simp only [old, ↓reduceIte, List.length_map, List.length_append,
      List.length_singleton] at lengths
    simpa [size, set, has, old] using lengths

end

theorem rows_setAll_of_fresh
    (distinct : (rows.map keyOf).Nodup)
    (fresh : ∀ row ∈ rows, table.has (keyOf row) = false) :
    (table.setAll rows).rows = table.rows ++ rows := by
  induction rows generalizing table with
  | nil => simp [setAll]
  | cons row rest inductionHypothesis =>
      rw [List.map_cons, List.nodup_cons] at distinct
      have first := rows_set_of_fresh (fresh row List.mem_cons_self)
      have later : ∀ other ∈ rest, (table.set row).has (keyOf other) = false := by
        intro other member
        have old := fresh other (List.mem_cons_of_mem _ member)
        have different : keyOf row ≠ keyOf other := by
          intro same
          exact distinct.1 (same ▸ List.mem_map_of_mem member)
        rw [has_eq_isSome, find?_set, if_neg different, ← has_eq_isSome]
        exact old
      have rested := inductionHypothesis distinct.2 later
      rw [setAll, List.foldl_cons, ← setAll, rested, first]
      simp

theorem mem_of_mem_setAll
    (member : row ∈ (table.setAll rows).rows) :
    row ∈ rows ∨ row ∈ table.rows := by
  induction rows generalizing table with
  | nil => exact Or.inr member
  | cons first rest inductionHypothesis =>
      rw [setAll, List.foldl_cons, ← setAll] at member
      rcases inductionHypothesis member with later | here
      · exact Or.inl (List.mem_cons_of_mem _ later)
      · rcases mem_set.mp here with rfl | ⟨old, _⟩
        · exact Or.inl List.mem_cons_self
        · exact Or.inr old

/-! ## Removing -/

theorem mem_delete :
    row ∈ (table.delete key).rows ↔ row ∈ table.rows ∧ keyOf row ≠ key := by
  simp [delete]

theorem find?_keep
    (table : Table keyOf)
    (wanted : α → Bool)
    (key : κ) :
    (table.keep wanted).find? key = (table.find? key).filter wanted := by
  cases found : table.find? key with
  | none =>
      have absent := find?_eq_none.mp found
      refine find?_eq_none.mpr fun row member => ?_
      exact absent row (List.mem_of_mem_filter member)
  | some row =>
      obtain ⟨member, isKey⟩ := find?_eq_some.mp found
      by_cases isWanted : wanted row
      · rw [Option.filter_some, if_pos isWanted]
        exact find?_eq_some.mpr
          ⟨List.mem_filter.mpr ⟨member, isWanted⟩, isKey⟩
      · rw [Option.filter_some, if_neg isWanted]
        refine find?_eq_none.mpr fun other otherMember sameKey => ?_
        obtain ⟨old, otherWanted⟩ := List.mem_filter.mp otherMember
        have same := eq_of_mem old member (sameKey.trans isKey.symm)
        exact isWanted (same ▸ otherWanted)

theorem find?_delete
    (table : Table keyOf)
    (key other : κ) :
    (table.delete key).find? other =
      if other = key then none else table.find? other := by
  rw [delete, find?_keep]
  cases found : table.find? other with
  | none => simp
  | some row =>
      have isOther := (find?_eq_some.mp found).2
      by_cases same : other = key
      · simp [same, isOther]
      · simp [same, isOther]

variable {kept : α → Bool}

theorem has_keep
    (found : table.find? key = some row)
    (isKept : kept row = true) :
    (table.keep kept).has key = true := by
  rw [has_eq_isSome, find?_keep, found, Option.filter_some, if_pos isKept]
  rfl

/-! ## Dropping the oldest rows -/

/-- Drop rows from the front until fewer than `limit` are left. -/
def dropOldest (limit : Nat) : List α → List α
  | [] => []
  | oldest :: rest =>
      if limit ≤ (oldest :: rest).length then dropOldest limit rest
      else oldest :: rest

omit [DecidableEq κ] in
theorem dropOldest_suffix
    (limit : Nat)
    (rows : List α) :
    dropOldest limit rows <:+ rows := by
  fun_induction dropOldest limit rows with
  | case1 => exact List.suffix_rfl
  | case2 oldest rest _ inductionHypothesis =>
      exact inductionHypothesis.trans (List.suffix_cons oldest rest)
  | case3 oldest rest _ => exact List.suffix_rfl

omit [DecidableEq κ] in
theorem length_dropOldest_lt
    {limit : Nat}
    (positive : 0 < limit)
    (rows : List α) :
    (dropOldest limit rows).length < limit := by
  fun_induction dropOldest limit rows with
  | case1 => exact positive
  | case2 oldest rest _ inductionHypothesis => exact inductionHypothesis
  | case3 oldest rest small => exact Nat.lt_of_not_le small

/-- Make room for one more row by dropping the oldest ones. -/
def makeRoom (limit : Nat) (table : Table keyOf) : Table keyOf where
  rows := dropOldest limit table.rows
  distinct :=
    table.distinct.sublist ((dropOldest_suffix limit table.rows).sublist.map keyOf)

omit [DecidableEq κ] in
theorem makeRoom_sublist
    (limit : Nat)
    (table : Table keyOf) :
    (table.makeRoom limit).rows.Sublist table.rows :=
  (dropOldest_suffix limit table.rows).sublist

omit [DecidableEq κ] in
theorem size_makeRoom_lt
    {limit : Nat}
    (positive : 0 < limit)
    (table : Table keyOf) :
    (table.makeRoom limit).size < limit :=
  length_dropOldest_lt positive table.rows

/-! ## Rows of one kind -/

theorem has_set
    (table : Table keyOf)
    (row : α)
    (key : κ) :
    (table.set row).has key = (decide (keyOf row = key) || table.has key) := by
  rw [has_eq_isSome, find?_set, has_eq_isSome]
  split
  · rename_i same
    simp [same]
  · rename_i different
    simp [different]

theorem has_setAll
    (table : Table keyOf)
    (rows : List α)
    (key : κ) :
    (table.setAll rows).has key =
      (decide (key ∈ rows.map keyOf) || table.has key) := by
  induction rows generalizing table with
  | nil => simp [setAll]
  | cons row rest inductionHypothesis =>
      rw [setAll, List.foldl_cons, ← setAll, inductionHypothesis, has_set]
      simp only [List.map_cons, List.mem_cons]
      by_cases first : keyOf row = key
      · simp [first]
      · simp [first, Ne.symm first]

variable {wanted : α → Bool}

theorem filter_setRow
    (newOut : wanted row = false)
    (oldOut : ∀ old ∈ rows, keyOf old = keyOf row → wanted old = false) :
    (setRow keyOf row rows).filter wanted = rows.filter wanted := by
  induction rows with
  | nil => simp [setRow, newOut]
  | cons other rest inductionHypothesis =>
      rw [List.forall_mem_cons] at oldOut
      by_cases same : keyOf other = keyOf row
      · rw [setRow, if_pos same]
        simp [newOut, oldOut.1 same]
      · rw [setRow, if_neg same, List.filter_cons, List.filter_cons,
          inductionHypothesis oldOut.2]

theorem filter_setAll
    (newOut : ∀ row ∈ rows, wanted row = false)
    (oldOut : ∀ old ∈ table.rows, ∀ row ∈ rows,
      keyOf old = keyOf row → wanted old = false) :
    (table.setAll rows).rows.filter wanted = table.rows.filter wanted := by
  induction rows generalizing table with
  | nil => rfl
  | cons row rest inductionHypothesis =>
      rw [List.forall_mem_cons] at newOut
      have first : (table.set row).rows.filter wanted =
          table.rows.filter wanted :=
        filter_setRow newOut.1 fun old member =>
          oldOut old member row List.mem_cons_self
      rw [setAll, List.foldl_cons, ← setAll, ← first]
      refine inductionHypothesis newOut.2 ?_
      intro old member later isLater sameKey
      rcases mem_set.mp member with rfl | ⟨stored, _⟩
      · exact newOut.1
      · exact oldOut old stored later (List.mem_cons_of_mem _ isLater) sameKey

omit [DecidableEq κ] in
theorem filter_keep
    (isKept : ∀ row ∈ table.rows, wanted row = true → kept row = true) :
    (table.keep kept).rows.filter wanted = table.rows.filter wanted := by
  rw [rows_keep, List.filter_filter]
  refine List.filter_congr fun row member => ?_
  cases isWanted : wanted row with
  | false => rfl
  | true => simp [isKept row member isWanted]

theorem filter_replaced_other
    (newOut : ∀ row ∈ rows, wanted row = false)
    (collides : ∀ row ∈ rows, ∀ old,
      table.find? (keyOf row) = some old → wanted old = false)
    (isKept : ∀ row ∈ table.rows, wanted row = true → kept row = true) :
    ((table.keep kept).setAll rows).rows.filter wanted =
      table.rows.filter wanted := by
  rw [filter_setAll newOut ?_, filter_keep isKept]
  intro old member row isRow sameKey
  refine collides row isRow old (find?_eq_some.mpr ⟨?_, sameKey⟩)
  exact List.mem_of_mem_filter member

theorem filter_replaced_own
    (distinct : (rows.map keyOf).Nodup)
    (newIn : ∀ row ∈ rows, wanted row = true)
    (collides : ∀ row ∈ rows, ∀ old,
      table.find? (keyOf row) = some old → kept old = false)
    (oldOut : ∀ row ∈ table.rows, kept row = true → wanted row = false) :
    ((table.keep kept).setAll rows).rows.filter wanted = rows := by
  have fresh : ∀ row ∈ rows, (table.keep kept).has (keyOf row) = false := by
    intro row member
    rw [has_eq_isSome, find?_keep]
    cases found : table.find? (keyOf row) with
    | none => rfl
    | some old => simp [collides row member old found]
  have noneOld : (table.keep kept).rows.filter wanted = [] := by
    rw [List.filter_eq_nil_iff]
    intro old member
    obtain ⟨stored, isKept⟩ := List.mem_filter.mp member
    simp [oldOut old stored isKept]
  rw [rows_setAll_of_fresh distinct fresh, List.filter_append, noneOld,
    List.nil_append]
  exact List.filter_eq_self.mpr newIn

end Table

end Js
