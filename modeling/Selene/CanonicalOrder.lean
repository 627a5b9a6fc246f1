import Mathlib.Data.List.Sort

/-!
# Canonical order

A set given as an array is stored sorted by a key, without two elements of the
same key.  `StrictlySorted key` is the type of such arrays and `sortUnique`
builds one or fails on a repeated key.  The result does not depend on the order
of the input, and a sorted array is its own canonical form.
-/

namespace Js

variable {α κ : Type} [LinearOrder κ]

/-- Arrays in strictly increasing order of `key`. -/
def StrictlySorted (key : α → κ) : Type :=
  { items : List α // items.Pairwise fun first second => key first < key second }

namespace StrictlySorted

variable {key : α → κ}

instance [DecidableEq α] : DecidableEq (StrictlySorted key) :=
  inferInstanceAs (DecidableEq (Subtype _))

@[ext] theorem ext
    {first second : StrictlySorted key}
    (same : first.val = second.val) :
    first = second :=
  Subtype.ext same

/-- The empty array is sorted. -/
def empty (key : α → κ) : StrictlySorted key :=
  ⟨[], List.Pairwise.nil⟩

theorem eq_of_perm
    {first second : StrictlySorted key}
    (permutation : first.val.Perm second.val) :
    first = second := by
  apply ext
  exact permutation.eq_of_pairwise
    (fun _ _ _ _ before after => (lt_asymm before after).elim)
    first.property second.property

end StrictlySorted

/-- Stable sort by key. -/
def sortByKey (key : α → κ) (items : List α) : List α :=
  items.insertionSort fun first second => key first ≤ key second

theorem sortByKey_perm
    (key : α → κ)
    (items : List α) :
    (sortByKey key items).Perm items :=
  List.perm_insertionSort _ items

@[simp] theorem sortByKey_eq_nil
    {key : α → κ}
    {items : List α} :
    sortByKey key items = [] ↔ items = [] := by
  constructor
  · intro sorted
    have reordered := sortByKey_perm key items
    rw [sorted] at reordered
    exact reordered.symm.eq_nil
  · rintro rfl
    rfl

theorem sortByKey_sortByKey
    (key : α → κ)
    (items : List α) :
    sortByKey key (sortByKey key items) = sortByKey key items := by
  have : Std.Total fun first second : α => key first ≤ key second :=
    ⟨fun first second => le_total (key first) (key second)⟩
  have : IsTrans α fun first second => key first ≤ key second :=
    ⟨fun _ _ _ before after => le_trans before after⟩
  exact (List.pairwise_insertionSort _ items).insertionSort_eq

theorem sortByKey_strict
    {key : α → κ}
    {items : List α}
    (distinct : (items.map key).Nodup) :
    (sortByKey key items).Pairwise
      fun first second => key first < key second := by
  have weak :
      (sortByKey key items).Pairwise
        fun first second => key first ≤ key second := by
    have : Std.Total fun first second : α => key first ≤ key second :=
      ⟨fun first second => le_total (key first) (key second)⟩
    have : IsTrans α fun first second => key first ≤ key second :=
      ⟨fun _ _ _ before after => le_trans before after⟩
    exact List.pairwise_insertionSort _ items
  have distinctSorted : ((sortByKey key items).map key).Nodup :=
    ((sortByKey_perm key items).map key).nodup_iff.mpr distinct
  have different :
      (sortByKey key items).Pairwise
        fun first second => key first ≠ key second :=
    List.pairwise_map.mp distinctSorted
  exact weak.imp₂ (fun _ _ le ne => lt_of_le_of_ne le ne) different

/-- Sort by key and fail if two elements have the same key. -/
def sortUnique (key : α → κ) (items : List α) :
    Option (StrictlySorted key) :=
  if distinct : (items.map key).Nodup then
    some ⟨sortByKey key items, sortByKey_strict distinct⟩
  else
    none

theorem sortUnique_eq_of_perm
    {key : α → κ}
    {items others : List α}
    (reordered : items.Perm others) :
    sortUnique key items = sortUnique key others := by
  have sameDistinct :
      (items.map key).Nodup ↔ (others.map key).Nodup :=
    (reordered.map key).nodup_iff
  unfold sortUnique
  by_cases distinct : (items.map key).Nodup
  · rw [dif_pos distinct, dif_pos (sameDistinct.mp distinct)]
    apply congrArg some
    apply StrictlySorted.eq_of_perm
    exact (sortByKey_perm key items).trans
      (reordered.trans (sortByKey_perm key others).symm)
  · rw [dif_neg distinct, dif_neg (mt sameDistinct.mpr distinct)]

theorem StrictlySorted.nodup_keys
    {key : α → κ}
    (sorted : StrictlySorted key) :
    (sorted.val.map key).Nodup := by
  apply List.pairwise_map.mpr
  exact sorted.property.imp fun before => ne_of_lt before

theorem sortUnique_val
    {key : α → κ}
    (sorted : StrictlySorted key) :
    sortUnique key sorted.val = some sorted := by
  unfold sortUnique
  rw [dif_pos sorted.nodup_keys]
  apply congrArg some
  exact StrictlySorted.eq_of_perm (sortByKey_perm key sorted.val)

theorem sortByKey_eq_of_perm
    {key : α → κ}
    {items others : List α}
    (distinct : (items.map key).Nodup)
    (reordered : items.Perm others) :
    sortByKey key items = sortByKey key others := by
  have othersDistinct : (others.map key).Nodup :=
    (reordered.map key).nodup_iff.mp distinct
  have sorted :
      (⟨sortByKey key items, sortByKey_strict distinct⟩ :
          StrictlySorted key) =
        ⟨sortByKey key others, sortByKey_strict othersDistinct⟩ :=
    StrictlySorted.eq_of_perm
      ((sortByKey_perm key items).trans
        (reordered.trans (sortByKey_perm key others).symm))
  exact congrArg Subtype.val sorted

theorem sortByKey_map
    {β : Type}
    {key : α → κ}
    {otherKey : β → κ}
    (change : α → β)
    (kept : ∀ item, otherKey (change item) = key item)
    (items : List α) :
    sortByKey otherKey (items.map change) =
      (sortByKey key items).map change := by
  unfold sortByKey
  exact (List.map_insertionSort
    (fun first second => key first ≤ key second)
    (fun first second => otherKey first ≤ otherKey second)
    change items (fun first _ second _ => by rw [kept, kept])).symm

end Js
