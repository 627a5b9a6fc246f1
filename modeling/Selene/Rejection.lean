import Mathlib.Data.List.Forall2
import Mathlib.Data.List.Perm.Basic
import Mathlib.Data.Fintype.Basic

/-!
# Computations that reject

Validation code is a sequence of checks, each of which may reject with an error
code.  It is modelled in `Except`; this module holds the rules that take such a
sequence apart (`bind_eq_ok`) and the two forms of a check: `check`, and
`require`, which hands the checked fact to the rest of the computation.
-/

namespace Js

variable {ε α β : Type}

/-- Reject with `code` unless `condition` holds. -/
def check (condition : Prop) [Decidable condition] (code : ε) :
    Except ε Unit :=
  if condition then .ok () else .error code

variable {condition : Prop} {code : ε} {decision : Decidable condition}

@[simp] theorem check_eq_ok
    {passed : Unit} :
    check condition code = .ok passed ↔ condition := by
  unfold check
  split <;> simp_all

@[simp] theorem check_of
    (holds : condition) :
    check condition code = .ok () :=
  if_pos holds

theorem check_of_not
    (fails : ¬ condition) :
    check condition code = .error code :=
  if_neg fails

/-- A check whose result is used: it hands on the proof of its condition. -/
def require (condition : Prop) [Decidable condition] (code : ε) :
    Except ε (PLift condition) :=
  if holds : condition then .ok ⟨holds⟩ else .error code

@[simp] theorem require_of
    (holds : condition) :
    require condition code = .ok ⟨holds⟩ :=
  dif_pos holds

theorem bind_eq_ok
    {first : Except ε α}
    {next : α → Except ε β}
    {result : β} :
    (first >>= next) = .ok result ↔
      ∃ value, first = .ok value ∧ next value = .ok result := by
  cases first with
  | error code => simp [bind, Except.bind]
  | ok value => simp [bind, Except.bind]

@[simp] theorem ok_bind
    (value : α)
    (next : α → Except ε β) :
    (Except.ok value >>= next) = next value :=
  rfl

@[simp] theorem error_bind
    (code : ε)
    (next : α → Except ε β) :
    (Except.error code >>= next) = .error code :=
  rfl

theorem check_bind_eq_ok
    {next : Unit → Except ε β}
    {result : β} :
    (check condition code >>= next) = .ok result ↔
      condition ∧ next () = .ok result := by
  rw [bind_eq_ok]
  constructor
  · rintro ⟨_, passed, rest⟩
    exact ⟨check_eq_ok.mp passed, rest⟩
  · rintro ⟨holds, rest⟩
    exact ⟨(), check_of holds, rest⟩

theorem unit_bind_eq_ok
    {first : Except ε Unit}
    {next : Unit → Except ε β}
    {result : β} :
    (first >>= next) = .ok result ↔
      first = .ok () ∧ next () = .ok result := by
  rw [bind_eq_ok]
  constructor
  · rintro ⟨_, passed, rest⟩
    exact ⟨passed, rest⟩
  · rintro ⟨passed, rest⟩
    exact ⟨(), passed, rest⟩

theorem require_bind_eq_ok
    {next : PLift condition → Except ε β}
    {result : β} :
    (require condition code >>= next) = .ok result ↔
      ∃ holds : condition, next ⟨holds⟩ = .ok result := by
  rw [bind_eq_ok]
  constructor
  · rintro ⟨⟨holds⟩, _, rest⟩
    exact ⟨holds, rest⟩
  · rintro ⟨holds, rest⟩
    exact ⟨⟨holds⟩, require_of holds, rest⟩

theorem mapM_eq_ok
    {check : α → Except ε β}
    {items : List α}
    {results : List β} :
    items.mapM check = .ok results ↔
      List.Forall₂ (fun item result => check item = .ok result)
        items results := by
  induction items generalizing results with
  | nil =>
      simp [pure, Except.pure, eq_comm]
  | cons item rest inductionHypothesis =>
      rw [List.mapM_cons]
      simp only [bind_eq_ok, inductionHypothesis, List.forall₂_cons_left_iff,
        pure, Except.pure, Except.ok.injEq]
      constructor
      · rintro ⟨result, checked, others, restChecked, rfl⟩
        exact ⟨result, others, checked, restChecked, rfl⟩
      · rintro ⟨result, others, checked, restChecked, rfl⟩
        exact ⟨result, checked, others, restChecked, rfl⟩

theorem forM_eq_ok
    {check : α → Except ε Unit}
    {items : List α}
    {passed : Unit} :
    items.forM check = .ok passed ↔ ∀ item ∈ items, check item = .ok () := by
  induction items with
  | nil =>
      simp [List.forM, pure, Except.pure]
  | cons item rest inductionHypothesis =>
      change (check item >>= fun _ => rest.forM check) = _ ↔ _
      rw [bind_eq_ok, inductionHypothesis]
      simp only [List.mem_cons, forall_eq_or_imp]
      constructor
      · rintro ⟨_, first, others⟩
        exact ⟨first, others⟩
      · rintro ⟨first, others⟩
        exact ⟨(), first, others⟩

theorem mapM_map_eq_ok
    {check : α → Except ε β}
    {encode : β → α}
    (inverse : ∀ value, check (encode value) = .ok value)
    (values : List β) :
    (values.map encode).mapM check = .ok values := by
  rw [mapM_eq_ok, List.forall₂_map_left_iff]
  exact List.forall₂_same.mpr fun value _ => inverse value

/-- A successful check succeeds on every reordering, with reordered results. -/
theorem mapM_perm
    {check : α → Except ε β}
    {items others : List α}
    {results : List β}
    (checked : items.mapM check = .ok results)
    (reordered : items.Perm others) :
    ∃ otherResults,
      others.mapM check = .ok otherResults ∧
        results.Perm otherResults := by
  have related := mapM_eq_ok.mp checked
  obtain ⟨otherResults, otherRelated, permutation⟩ :=
    List.perm_comp_forall₂ reordered.symm related
  exact ⟨otherResults, mapM_eq_ok.mpr otherRelated, permutation.symm⟩

theorem exists_of_forall₂
    {α β : Type}
    {related : α → β → Prop}
    {items : List α}
    {others : List β}
    (each : List.Forall₂ related items others)
    {item : α}
    (member : item ∈ items) :
    ∃ other ∈ others, related item other := by
  induction each with
  | nil => cases member
  | cons first _ inductionHypothesis =>
      rcases List.mem_cons.mp member with rfl | later
      · exact ⟨_, List.mem_cons_self, first⟩
      · obtain ⟨other, isOther, same⟩ := inductionHypothesis later
        exact ⟨other, List.mem_cons_of_mem _ isOther, same⟩

theorem ok_of_mapM_eq_ok
    {check : α → Except ε β}
    {items : List α}
    {results : List β}
    (checked : items.mapM check = .ok results)
    {item : α}
    (member : item ∈ items) :
    ∃ result, check item = .ok result := by
  obtain ⟨result, _, isResult⟩ :=
    exists_of_forall₂ (mapM_eq_ok.mp checked) member
  exact ⟨result, isResult⟩

theorem mapError_eq_ok
    {δ : Type}
    {result : Except ε α}
    {change : ε → δ}
    {value : α} :
    result.mapError change = .ok value ↔ result = .ok value := by
  cases result <;> simp [Except.mapError]

theorem mapM_toOption_isSome
    {results : List (Except ε α)}
    (every : ∀ result ∈ results, ∃ value, result = .ok value) :
    ∃ values, results.mapM Except.toOption = some values := by
  induction results with
  | nil => exact ⟨[], rfl⟩
  | cons result rest inductionHypothesis =>
      obtain ⟨value, rfl⟩ := every result List.mem_cons_self
      obtain ⟨values, read⟩ := inductionHypothesis fun other member =>
        every other (List.mem_cons_of_mem _ member)
      exact ⟨value :: values, by rw [List.mapM_cons, read]; rfl⟩

theorem eq_ok_get
    {result : Except ε α}
    (succeeds : result.toOption.isSome = true) :
    result = .ok (result.toOption.get succeeds) := by
  cases result with
  | error code => cases succeeds
  | ok value => rfl

end Js
