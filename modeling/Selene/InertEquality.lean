import Selene.InertCopy

/-!
# Structural equality of values that can exist

On values whose objects have distinct names, structural equality compares
objects as finite maps and is an equivalence.
-/

namespace Js

open JsValue (WellFormed)

theorem sameInertItems_iff
    {first second : List JsValue} :
    sameInertItems first second = true ↔
      List.Forall₂ (fun item other => sameInert item other = true)
        first second := by
  induction first generalizing second with
  | nil => cases second <;> simp [sameInertItems]
  | cons item rest inductionHypothesis =>
      cases second with
      | nil => simp [sameInertItems]
      | cons other others =>
          simp [sameInertItems, inductionHypothesis]

theorem sameInert_object_iff
    {first second : Record}
    (firstDistinct : first.keys.Nodup)
    (secondDistinct : second.keys.Nodup) :
    sameInert (.object first) (.object second) = true ↔
      (∀ key, key ∈ first.keys ↔ key ∈ second.keys) ∧
        ∀ key ∈ first.keys,
          sameInert (first.get key) (second.get key) = true := by
  have each : sameInertEntries first second = true ↔
      ∀ key ∈ first.keys, key ∈ second.keys ∧
        sameInert (first.get key) (second.get key) = true := by
    rw [sameInertEntries_iff]
    constructor
    · intro entries key isKey
      exact entries _ (Record.mem_of_get isKey)
    · rintro keys ⟨key, value⟩ member
      have isKey : key ∈ first.keys := List.mem_map_of_mem member
      have found := Record.get_of_mem firstDistinct member
      exact found ▸ keys key isKey
  have lengths : first.length = second.length ↔
      first.keys.length = second.keys.length := by
    rw [Record.keys, Record.keys, List.length_map, List.length_map]
  rw [sameInert, Bool.and_eq_true, decide_eq_true_eq, each, lengths]
  constructor
  · rintro ⟨sameLength, keys⟩
    have permuted : first.keys.Perm second.keys :=
      (List.subperm_of_subset firstDistinct fun key isKey =>
        (keys key isKey).1).perm_of_length_le sameLength.ge
    exact ⟨fun key => permuted.mem_iff, fun key isKey => (keys key isKey).2⟩
  · rintro ⟨sameKeys, values⟩
    have permuted : first.keys.Perm second.keys :=
      (List.perm_ext_iff_of_nodup firstDistinct secondDistinct).mpr sameKeys
    exact ⟨permuted.length_eq, fun key isKey =>
      ⟨(sameKeys key).mp isKey, values key isKey⟩⟩

theorem JsValue.WellFormed.get
    {entries : Record}
    (wellFormed : WellFormed (.object entries))
    {key : JsString}
    (isKey : key ∈ entries.keys) :
    (entries.get key).WellFormed := by
  cases wellFormed with
  | object _ values => exact values _ (Record.mem_of_get isKey)

theorem JsValue.WellFormed.distinct
    {entries : Record}
    (wellFormed : WellFormed (.object entries)) :
    entries.keys.Nodup := by
  cases wellFormed with
  | object distinct _ => exact distinct

variable {first second : JsValue}

theorem sameInert_symm
    (firstFormed : first.WellFormed)
    (secondFormed : second.WellFormed)
    (same : sameInert first second = true) :
    sameInert second first = true := by
  induction firstFormed generalizing second with
  | array _ inductionHypothesis =>
      cases secondFormed with
      | @array others othersFormed =>
          rw [sameInert, sameInertItems_iff, List.forall₂_iff_get] at same ⊢
          obtain ⟨sameLength, items⟩ := same
          refine ⟨sameLength.symm, fun index bound firstBound => ?_⟩
          exact inductionHypothesis _ (List.get_mem _ _)
            (othersFormed _ (List.get_mem _ _))
            (items index firstBound bound)
      | _ => cases same
  | @object entries distinct formed inductionHypothesis =>
      cases secondFormed with
      | @object others othersDistinct othersFormed =>
          rw [sameInert_object_iff distinct othersDistinct] at same
          rw [sameInert_object_iff othersDistinct distinct]
          refine ⟨fun key => (same.1 key).symm, fun key isKey => ?_⟩
          have isFirst := (same.1 key).mpr isKey
          exact inductionHypothesis _ (Record.mem_of_get isFirst)
            (othersFormed _ (Record.mem_of_get isKey)) (same.2 key isFirst)
      | _ => cases same
  | _ => cases secondFormed <;> simp_all [sameInert]

theorem sameInert_trans
    {third : JsValue}
    (firstFormed : first.WellFormed)
    (secondFormed : second.WellFormed)
    (thirdFormed : third.WellFormed)
    (before : sameInert first second = true)
    (after : sameInert second third = true) :
    sameInert first third = true := by
  induction firstFormed generalizing second third with
  | array _ inductionHypothesis =>
      cases secondFormed with
      | @array others othersFormed =>
          cases thirdFormed with
          | @array last lastFormed =>
              rw [sameInert, sameInertItems_iff, List.forall₂_iff_get]
                at before after ⊢
              obtain ⟨sameLength, early⟩ := before
              obtain ⟨lastLength, late⟩ := after
              refine ⟨sameLength.trans lastLength,
                fun index bound lastBound => ?_⟩
              have middle : index < others.length := sameLength ▸ bound
              exact inductionHypothesis _ (List.get_mem _ _)
                (othersFormed _ (List.get_mem _ _))
                (lastFormed _ (List.get_mem _ _))
                (early index bound middle) (late index middle lastBound)
          | _ => cases after
      | _ => cases before
  | @object entries distinct formed inductionHypothesis =>
      cases secondFormed with
      | @object others othersDistinct othersFormed =>
          cases thirdFormed with
          | @object last lastDistinct lastFormed =>
              rw [sameInert_object_iff distinct othersDistinct] at before
              rw [sameInert_object_iff othersDistinct lastDistinct] at after
              rw [sameInert_object_iff distinct lastDistinct]
              refine ⟨fun key => (before.1 key).trans (after.1 key),
                fun key isKey => ?_⟩
              have isOther := (before.1 key).mp isKey
              have isLast := (after.1 key).mp isOther
              exact inductionHypothesis _ (Record.mem_of_get isKey)
                (othersFormed _ (Record.mem_of_get isOther))
                (lastFormed _ (Record.mem_of_get isLast))
                (before.2 key isKey) (after.2 key isOther)
          | _ => cases after
      | _ => cases before
  | _ =>
      cases secondFormed <;> cases thirdFormed <;> simp_all [sameInert]

theorem sameInert_congr_right
    {value : JsValue}
    (valueFormed : value.WellFormed)
    (firstFormed : first.WellFormed)
    (secondFormed : second.WellFormed)
    (same : sameInert first second = true) :
    sameInert value first = sameInert value second := by
  rw [Bool.eq_iff_iff]
  constructor
  · intro equal
    exact sameInert_trans valueFormed firstFormed secondFormed equal same
  · intro equal
    exact sameInert_trans valueFormed secondFormed firstFormed equal
      (sameInert_symm firstFormed secondFormed same)

end Js
