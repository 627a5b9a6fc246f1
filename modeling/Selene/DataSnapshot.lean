import Selene.JsCoercion
import Selene.Rejection
import Mathlib.Algebra.BigOperators.Group.List.Basic

/-!
# Bounded snapshots of data

`snapshotData` copies foreign data before anything looks at it: the names of
every object are put in order, and values that are not plain data or exceed a
budget are refused.  The budgets of one call count values, code units and bytes
of all texts; the depth, the size of one array, object or text are bounded
separately.

The totals only grow, so a snapshot is taken exactly if every part is
admissible and the totals of the whole value fit (`snapshotData_eq_ok`).  That
makes it independent of the order of array elements, and what fits as part of
a larger value fits on its own.
-/

namespace Selene.Extension

open Js

def maxSnapshotDepth : Nat := 16

def maxSnapshotArrayItems : Nat := 256

def maxSnapshotObjectKeys : Nat := 128

def maxSnapshotStringLength : Nat := 16 * 1024

def maxSnapshotBytes : Nat := 64 * 1024

def maxSnapshotCodeUnits : Nat := 64 * 1024

def maxSnapshotValues : Nat := 4096

/-- `reservedDataKeys`. -/
def reservedDataKeys : List JsString :=
  [js "__proto__", js "constructor", js "prototype"]

/-! ## Names in order -/

mutual

/-- The copy of a value, with the names of every object in order. -/
def canonical : JsValue → JsValue
  | .array items => .array (canonicalItems items)
  | .object entries => .object (sortByKey Prod.fst (canonicalEntries entries))
  | value => value

def canonicalItems : List JsValue → List JsValue
  | [] => []
  | item :: rest => canonical item :: canonicalItems rest

def canonicalEntries : Record → Record
  | [] => []
  | (name, value) :: rest => (name, canonical value) :: canonicalEntries rest

end

/-! ## The traversal -/

/-- The running totals of one call. -/
@[ext] structure SnapshotTotals where
  values : Nat
  codeUnits : Nat
  bytes : Nat
  deriving DecidableEq

namespace SnapshotTotals

def zero : SnapshotTotals := ⟨0, 0, 0⟩

/-- What every value adds. -/
def one : SnapshotTotals := ⟨1, 0, 0⟩

instance : Add SnapshotTotals where
  add first second :=
    ⟨first.values + second.values, first.codeUnits + second.codeUnits,
      first.bytes + second.bytes⟩

/-- No budget is exceeded. -/
def Fits (totals : SnapshotTotals) : Prop :=
  totals.values ≤ maxSnapshotValues ∧
    totals.codeUnits ≤ maxSnapshotCodeUnits ∧
    totals.bytes ≤ maxSnapshotBytes

instance (totals : SnapshotTotals) : Decidable totals.Fits :=
  inferInstanceAs (Decidable (_ ∧ _))

@[simp] theorem values_add (first second : SnapshotTotals) :
    (first + second).values = first.values + second.values :=
  rfl

@[simp] theorem codeUnits_add (first second : SnapshotTotals) :
    (first + second).codeUnits = first.codeUnits + second.codeUnits :=
  rfl

@[simp] theorem bytes_add (first second : SnapshotTotals) :
    (first + second).bytes = first.bytes + second.bytes :=
  rfl

@[simp] theorem add_zero (totals : SnapshotTotals) :
    totals + zero = totals :=
  rfl

theorem add_assoc (first second third : SnapshotTotals) :
    first + second + third = first + (second + third) := by
  ext <;> simp [Nat.add_assoc]

theorem add_left_comm (first second third : SnapshotTotals) :
    first + (second + third) = second + (first + third) := by
  ext <;> simp [Nat.add_left_comm]

/-- No total is larger. -/
def Within (first second : SnapshotTotals) : Prop :=
  first.values ≤ second.values ∧ first.codeUnits ≤ second.codeUnits ∧
    first.bytes ≤ second.bytes

theorem Fits.within
    {first second : SnapshotTotals}
    (fits : second.Fits)
    (within : first.Within second) :
    first.Fits :=
  ⟨within.1.trans fits.1, within.2.1.trans fits.2.1,
    within.2.2.trans fits.2.2⟩

theorem within_add_right (first second : SnapshotTotals) :
    first.Within (first + second) :=
  ⟨Nat.le_add_right _ _, Nat.le_add_right _ _, Nat.le_add_right _ _⟩

theorem within_add_left (first second : SnapshotTotals) :
    second.Within (first + second) :=
  ⟨Nat.le_add_left _ _, Nat.le_add_left _ _, Nat.le_add_left _ _⟩

protected theorem Within.trans
    {first second third : SnapshotTotals}
    (before : first.Within second)
    (after : second.Within third) :
    first.Within third :=
  ⟨before.1.trans after.1, before.2.1.trans after.2.1,
    before.2.2.trans after.2.2⟩

theorem Within.add
    {first second third fourth : SnapshotTotals}
    (left : first.Within second)
    (right : third.Within fourth) :
    (first + third).Within (second + fourth) :=
  ⟨Nat.add_le_add left.1 right.1, Nat.add_le_add left.2.1 right.2.1,
    Nat.add_le_add left.2.2 right.2.2⟩

end SnapshotTotals

/-- Count one more value. -/
def countValue (totals : SnapshotTotals) : Except String SnapshotTotals := do
  check (totals.values + 1 ≤ maxSnapshotValues) "input value count exceeded"
  .ok { totals with
    values := totals.values + 1 }

/-- `countBytes`. -/
def countBytes (text : JsString) (totals : SnapshotTotals) :
    Except String SnapshotTotals := do
  check (text.length ≤ maxSnapshotStringLength) "input string limit exceeded"
  check (totals.codeUnits + text.length ≤ maxSnapshotCodeUnits)
    "input code-unit budget exceeded"
  check (utf8Length text ≤ maxSnapshotStringLength ∧
      totals.bytes + utf8Length text ≤ maxSnapshotBytes)
    "input string byte budget exceeded"
  .ok { totals with
    codeUnits := totals.codeUnits + text.length
    bytes := totals.bytes + utf8Length text }

mutual

/--
Traverse a value whose names are in order.  What an exotic value is refused
for depends on its kind, which the model does not distinguish.
-/
def chargeCopy : JsValue → Nat → SnapshotTotals →
    Except String SnapshotTotals
  | .null, _, totals => countValue totals
  | .bool _, _, totals => countValue totals
  | .number value, _, totals => do
      let counted ← countValue totals
      check (value.isFinite = true) "numbers must be finite"
      .ok counted
  | .string value, _, totals => do
      let counted ← countValue totals
      countBytes value counted
  | .undefined, depth, totals => do
      let _ ← countValue totals
      check (depth < maxSnapshotDepth) "input nesting exceeds limit"
      .error "input must contain JSON data only"
  | .exotic, depth, totals => do
      let _ ← countValue totals
      check (depth < maxSnapshotDepth) "input nesting exceeds limit"
      .error "input must contain JSON data only"
  | .array items, depth, totals => do
      let counted ← countValue totals
      check (depth < maxSnapshotDepth) "input nesting exceeds limit"
      check (items.length ≤ maxSnapshotArrayItems)
        "array length is outside limits"
      chargeItems items (depth + 1) counted
  | .object entries, depth, totals => do
      let counted ← countValue totals
      check (depth < maxSnapshotDepth) "input nesting exceeds limit"
      check (entries.length ≤ maxSnapshotObjectKeys)
        "object exceeds key limit"
      chargeEntries entries (depth + 1) counted

def chargeItems : List JsValue → Nat → SnapshotTotals →
    Except String SnapshotTotals
  | [], _, totals => .ok totals
  | item :: rest, depth, totals => do
      let next ← chargeCopy item depth totals
      chargeItems rest depth next

def chargeEntries : Record → Nat → SnapshotTotals →
    Except String SnapshotTotals
  | [], _, totals => .ok totals
  | (name, value) :: rest, depth, totals => do
      check (name ∉ reservedDataKeys) "reserved keys are not supported"
      let next ← chargeCopy value depth totals
      chargeEntries rest depth next

end

/-- Copy a value, or refuse it with a message. -/
def snapshotData (value : JsValue) : Except String JsValue := do
  let _ ← chargeCopy (canonical value) 0 .zero
  .ok (canonical value)

/-! ## What a traversal admits -/

mutual

/-- The bounds on the parts of a value at a depth. -/
def Admissible : JsValue → Nat → Prop
  | .null, _ => True
  | .bool _, _ => True
  | .number value, _ => value.isFinite = true
  | .string value, _ =>
      value.length ≤ maxSnapshotStringLength ∧
        utf8Length value ≤ maxSnapshotStringLength
  | .undefined, _ => False
  | .exotic, _ => False
  | .array items, depth =>
      depth < maxSnapshotDepth ∧ items.length ≤ maxSnapshotArrayItems ∧
        AdmissibleItems items (depth + 1)
  | .object entries, depth =>
      depth < maxSnapshotDepth ∧ entries.length ≤ maxSnapshotObjectKeys ∧
        AdmissibleEntries entries (depth + 1)

def AdmissibleItems : List JsValue → Nat → Prop
  | [], _ => True
  | item :: rest, depth => Admissible item depth ∧ AdmissibleItems rest depth

def AdmissibleEntries : Record → Nat → Prop
  | [], _ => True
  | (name, value) :: rest, depth =>
      name ∉ reservedDataKeys ∧ Admissible value depth ∧
        AdmissibleEntries rest depth

end

mutual

/-- What a value adds to the totals. -/
def cost : JsValue → SnapshotTotals
  | .string value => .one + ⟨0, value.length, utf8Length value⟩
  | .array items => SnapshotTotals.one + costItems items
  | .object entries => SnapshotTotals.one + costEntries entries
  | _ => SnapshotTotals.one

def costItems : List JsValue → SnapshotTotals
  | [] => .zero
  | item :: rest => cost item + costItems rest

def costEntries : Record → SnapshotTotals
  | [] => .zero
  | (_, value) :: rest => cost value + costEntries rest

end

variable {next : SnapshotTotals → Except String SnapshotTotals}
  {totals after : SnapshotTotals}

theorem countValue_eq_ok
    (fits : totals.Fits) :
    countValue totals = .ok after ↔
      after = totals + .one ∧ (totals + .one).Fits := by
  rw [countValue, check_bind_eq_ok]
  constructor
  · rintro ⟨room, same⟩
    cases same
    exact ⟨rfl, room, fits.2⟩
  · rintro ⟨rfl, room⟩
    exact ⟨room.1, rfl⟩

theorem countBytes_eq_ok
    {text : JsString}
    (fits : totals.Fits) :
    countBytes text totals = .ok after ↔
      (text.length ≤ maxSnapshotStringLength ∧
          utf8Length text ≤ maxSnapshotStringLength) ∧
        after = totals + ⟨0, text.length, utf8Length text⟩ ∧
        (totals + ⟨0, text.length, utf8Length text⟩).Fits := by
  rw [countBytes, check_bind_eq_ok, check_bind_eq_ok, check_bind_eq_ok]
  constructor
  · rintro ⟨short, units, ⟨shortBytes, bytes⟩, same⟩
    cases same
    exact ⟨⟨short, shortBytes⟩, rfl, fits.1, units, bytes⟩
  · rintro ⟨⟨short, shortBytes⟩, rfl, room⟩
    exact ⟨short, room.2.1, ⟨shortBytes, room.2.2⟩, rfl⟩

/-- Two steps of a traversal, each characterised by what it adds. -/
theorem charged_bind
    {first : Except String SnapshotTotals}
    {firstHolds nextHolds : Prop}
    {totals firstCost nextCost after : SnapshotTotals}
    (firstCharged : ∀ middle, first = .ok middle ↔
      firstHolds ∧ middle = totals + firstCost ∧ (totals + firstCost).Fits)
    (nextCharged : ∀ middle : SnapshotTotals, middle.Fits →
      (next middle = .ok after ↔
        nextHolds ∧ after = middle + nextCost ∧ (middle + nextCost).Fits)) :
    (first >>= next) = .ok after ↔
      (firstHolds ∧ nextHolds) ∧ after = totals + (firstCost + nextCost) ∧
        (totals + (firstCost + nextCost)).Fits := by
  rw [bind_eq_ok, ← SnapshotTotals.add_assoc]
  constructor
  · rintro ⟨middle, charged, others⟩
    obtain ⟨holds, rfl, fits⟩ := (firstCharged middle).mp charged
    obtain ⟨nextHolds, same, room⟩ := (nextCharged _ fits).mp others
    exact ⟨⟨holds, nextHolds⟩, same, room⟩
  · rintro ⟨⟨holds, nextHolds⟩, same, room⟩
    have fits := room.within (SnapshotTotals.within_add_right _ nextCost)
    exact ⟨_, (firstCharged _).mpr ⟨holds, rfl, fits⟩,
      (nextCharged _ fits).mpr ⟨nextHolds, same, room⟩⟩

theorem counted_bind
    {nextHolds : Prop}
    {totals nextCost after : SnapshotTotals}
    (fits : totals.Fits)
    (nextCharged : ∀ middle : SnapshotTotals, middle.Fits →
      (next middle = .ok after ↔
        nextHolds ∧ after = middle + nextCost ∧ (middle + nextCost).Fits)) :
    (countValue totals >>= next) = .ok after ↔
      nextHolds ∧ after = totals + (SnapshotTotals.one + nextCost) ∧
        (totals + (SnapshotTotals.one + nextCost)).Fits := by
  have counted : ∀ middle, countValue totals = .ok middle ↔
      True ∧ middle = totals + .one ∧ (totals + .one).Fits := fun middle => by
    rw [true_and]
    exact countValue_eq_ok fits
  rw [charged_bind counted nextCharged, true_and]

mutual

/--
A traversal succeeds exactly if the parts of the value are admissible and the
totals with the value fit.
-/
theorem chargeCopy_eq_ok :
    ∀ {value : JsValue} {depth : Nat} {totals after : SnapshotTotals},
      totals.Fits →
        (chargeCopy value depth totals = .ok after ↔
          Admissible value depth ∧ after = totals + cost value ∧
            (totals + cost value).Fits)
  | .null, depth, totals, after, fits => by
      rw [chargeCopy, Admissible, cost, true_and]
      · exact countValue_eq_ok fits
      all_goals simp
  | .bool value, depth, totals, after, fits => by
      rw [chargeCopy, Admissible, cost, true_and]
      · exact countValue_eq_ok fits
      all_goals simp
  | .undefined, depth, totals, after, fits => by
      rw [chargeCopy, Admissible, false_and, iff_false, bind_eq_ok]
      rintro ⟨middle, -, rest⟩
      exact absurd (check_bind_eq_ok.mp rest).2 (by simp)
  | .exotic, depth, totals, after, fits => by
      rw [chargeCopy, Admissible, false_and, iff_false, bind_eq_ok]
      rintro ⟨middle, -, rest⟩
      exact absurd (check_bind_eq_ok.mp rest).2 (by simp)
  | .number value, depth, totals, after, fits => by
      rw [chargeCopy, Admissible, cost]
      · have charged := @counted_bind
          (fun counted => do
            check (value.isFinite = true) "numbers must be finite"
            .ok counted)
          (value.isFinite = true) totals .zero after fits
          (fun middle middleFits => by
            rw [check_bind_eq_ok, SnapshotTotals.add_zero,
              Except.ok.injEq, and_iff_left middleFits,
              @eq_comm _ middle after])
        rw [SnapshotTotals.add_zero] at charged
        exact charged
      all_goals simp
  | .string value, depth, totals, after, fits => by
      rw [chargeCopy, Admissible, cost]
      exact counted_bind fits fun middle middleFits =>
        countBytes_eq_ok middleFits
  | .array items, depth, totals, after, fits => by
      rw [chargeCopy, Admissible, cost]
      exact counted_bind fits fun middle middleFits => by
        rw [check_bind_eq_ok, check_bind_eq_ok,
          chargeItems_eq_ok middleFits, and_assoc, and_assoc]
  | .object entries, depth, totals, after, fits => by
      rw [chargeCopy, Admissible, cost]
      exact counted_bind fits fun middle middleFits => by
        rw [check_bind_eq_ok, check_bind_eq_ok,
          chargeEntries_eq_ok middleFits, and_assoc, and_assoc]

theorem chargeItems_eq_ok :
    ∀ {items : List JsValue} {depth : Nat} {totals after : SnapshotTotals},
      totals.Fits →
        (chargeItems items depth totals = .ok after ↔
          AdmissibleItems items depth ∧ after = totals + costItems items ∧
            (totals + costItems items).Fits)
  | [], depth, totals, after, fits => by
      rw [chargeItems, AdmissibleItems, costItems, SnapshotTotals.add_zero]
      simp [fits, eq_comm]
  | item :: rest, depth, totals, after, fits => by
      rw [chargeItems, AdmissibleItems, costItems]
      exact charged_bind (fun middle => chargeCopy_eq_ok fits)
        (fun middle middleFits => chargeItems_eq_ok middleFits)

theorem chargeEntries_eq_ok :
    ∀ {entries : Record} {depth : Nat} {totals after : SnapshotTotals},
      totals.Fits →
        (chargeEntries entries depth totals = .ok after ↔
          AdmissibleEntries entries depth ∧
            after = totals + costEntries entries ∧
            (totals + costEntries entries).Fits)
  | [], depth, totals, after, fits => by
      rw [chargeEntries, AdmissibleEntries, costEntries,
        SnapshotTotals.add_zero]
      simp [fits, eq_comm]
  | (name, value) :: rest, depth, totals, after, fits => by
      rw [chargeEntries, AdmissibleEntries, costEntries, check_bind_eq_ok,
        charged_bind (fun middle => chargeCopy_eq_ok fits)
          (fun middle middleFits => chargeEntries_eq_ok middleFits),
        ← and_assoc]

end

/-! ## Parts of a value -/

theorem canonicalItems_eq_map (items : List JsValue) :
    canonicalItems items = items.map canonical :=
  eq_map_of_cons rfl (fun _ _ => rfl) items

theorem canonicalEntries_eq_map (entries : Record) :
    canonicalEntries entries =
      entries.map fun entry => (entry.1, canonical entry.2) :=
  eq_map_of_cons rfl (fun _ _ => rfl) entries

theorem admissibleItems_iff
    {items : List JsValue}
    {depth : Nat} :
    AdmissibleItems items depth ↔
      ∀ item ∈ items, Admissible item depth := by
  induction items with
  | nil => simp [AdmissibleItems]
  | cons item rest inductionHypothesis =>
      rw [AdmissibleItems, inductionHypothesis, List.forall_mem_cons]

theorem admissibleEntries_iff
    {entries : Record}
    {depth : Nat} :
    AdmissibleEntries entries depth ↔
      ∀ entry ∈ entries,
        entry.1 ∉ reservedDataKeys ∧ Admissible entry.2 depth := by
  induction entries with
  | nil => simp [AdmissibleEntries]
  | cons entry rest inductionHypothesis =>
      rw [AdmissibleEntries, inductionHypothesis, List.forall_mem_cons,
        and_assoc]

theorem costItems_perm
    {items others : List JsValue}
    (reordered : items.Perm others) :
    costItems items = costItems others := by
  induction reordered with
  | nil => rfl
  | cons item _ inductionHypothesis =>
      rw [costItems, costItems, inductionHypothesis]
  | swap first second rest =>
      simp only [costItems, SnapshotTotals.add_left_comm]
  | trans _ _ before after => exact before.trans after

theorem costEntries_perm
    {entries others : Record}
    (reordered : entries.Perm others) :
    costEntries entries = costEntries others := by
  induction reordered with
  | nil => rfl
  | cons entry _ inductionHypothesis =>
      rw [costEntries, costEntries, inductionHypothesis]
  | swap first second rest =>
      simp only [costEntries, SnapshotTotals.add_left_comm]
  | trans _ _ before after => exact before.trans after

theorem cost_within_items
    {items : List JsValue}
    {item : JsValue}
    (member : item ∈ items) :
    (cost item).Within (costItems items) := by
  induction items with
  | nil => cases member
  | cons other rest inductionHypothesis =>
      rw [costItems]
      rcases List.mem_cons.mp member with rfl | later
      · exact SnapshotTotals.within_add_right _ _
      · exact (inductionHypothesis later).trans
          (SnapshotTotals.within_add_left _ _)

theorem cost_within_entries
    {entries : Record}
    {entry : JsString × JsValue}
    (member : entry ∈ entries) :
    (cost entry.2).Within (costEntries entries) := by
  induction entries with
  | nil => cases member
  | cons other rest inductionHypothesis =>
      rw [costEntries]
      rcases List.mem_cons.mp member with rfl | later
      · exact SnapshotTotals.within_add_right _ _
      · exact (inductionHypothesis later).trans
          (SnapshotTotals.within_add_left _ _)

mutual

theorem Admissible.mono :
    ∀ {value : JsValue} {depth above : Nat},
      Admissible value depth → above ≤ depth → Admissible value above
  | .undefined, _, _, admissible, _ => admissible
  | .exotic, _, _, admissible, _ => admissible
  | .null, _, _, admissible, _ => admissible
  | .bool _, _, _, admissible, _ => admissible
  | .number _, _, _, admissible, _ => admissible
  | .string _, _, _, admissible, _ => admissible
  | .array items, depth, above, admissible, le => by
      rw [Admissible] at admissible ⊢
      exact ⟨le.trans_lt admissible.1, admissible.2.1,
        AdmissibleItems.mono admissible.2.2 (Nat.succ_le_succ le)⟩
  | .object entries, depth, above, admissible, le => by
      rw [Admissible] at admissible ⊢
      exact ⟨le.trans_lt admissible.1, admissible.2.1,
        AdmissibleEntries.mono admissible.2.2 (Nat.succ_le_succ le)⟩

theorem AdmissibleItems.mono :
    ∀ {items : List JsValue} {depth above : Nat},
      AdmissibleItems items depth → above ≤ depth →
        AdmissibleItems items above
  | [], _, _, _, _ => trivial
  | _ :: _, _, _, admissible, le =>
      ⟨admissible.1.mono le, AdmissibleItems.mono admissible.2 le⟩

theorem AdmissibleEntries.mono :
    ∀ {entries : Record} {depth above : Nat},
      AdmissibleEntries entries depth → above ≤ depth →
        AdmissibleEntries entries above
  | [], _, _, _, _ => trivial
  | _ :: _, _, _, admissible, le =>
      ⟨admissible.1, admissible.2.1.mono le,
        AdmissibleEntries.mono admissible.2.2 le⟩

end

theorem canonicalEntries_sortByKey (entries : Record) :
    canonicalEntries (sortByKey Prod.fst entries) =
      sortByKey Prod.fst (canonicalEntries entries) := by
  rw [canonicalEntries_eq_map, canonicalEntries_eq_map]
  exact (@sortByKey_map _ JsString _ _ Prod.fst Prod.fst
    (fun entry : JsString × JsValue => (entry.1, canonical entry.2))
    (fun _ => rfl) entries).symm

mutual

@[simp] theorem canonical_canonical :
    ∀ value : JsValue, canonical (canonical value) = canonical value
  | .undefined => rfl
  | .exotic => rfl
  | .null => rfl
  | .bool _ => rfl
  | .number _ => rfl
  | .string _ => rfl
  | .array items => by
      rw [canonical, canonical, canonicalItems_canonicalItems items]
  | .object entries => by
      rw [canonical, canonical, canonicalEntries_sortByKey,
        canonicalEntries_canonicalEntries entries, sortByKey_sortByKey]

theorem canonicalItems_canonicalItems :
    ∀ items : List JsValue,
      canonicalItems (canonicalItems items) = canonicalItems items
  | [] => rfl
  | item :: rest => by
      rw [canonicalItems, canonicalItems, canonical_canonical item,
        canonicalItems_canonicalItems rest]

theorem canonicalEntries_canonicalEntries :
    ∀ entries : Record,
      canonicalEntries (canonicalEntries entries) = canonicalEntries entries
  | [] => rfl
  | (name, value) :: rest => by
      rw [canonicalEntries, canonicalEntries, canonical_canonical value,
        canonicalEntries_canonicalEntries rest]

end

theorem admissibleEntries_perm
    {entries others : Record}
    {depth : Nat}
    (reordered : entries.Perm others) :
    AdmissibleEntries entries depth ↔ AdmissibleEntries others depth := by
  rw [admissibleEntries_iff, admissibleEntries_iff]
  exact ⟨fun each entry member => each entry (reordered.mem_iff.mpr member),
    fun each entry member => each entry (reordered.mem_iff.mp member)⟩

mutual

theorem admissible_canonical :
    ∀ {value : JsValue} {depth : Nat},
      Admissible (canonical value) depth ↔ Admissible value depth
  | .undefined, _ => Iff.rfl
  | .exotic, _ => Iff.rfl
  | .null, _ => Iff.rfl
  | .bool _, _ => Iff.rfl
  | .number _, _ => Iff.rfl
  | .string _, _ => Iff.rfl
  | .array items, depth => by
      rw [canonical, Admissible, Admissible, canonicalItems_eq_map,
        List.length_map, ← canonicalItems_eq_map, admissibleItems_canonical]
  | .object entries, depth => by
      rw [canonical, Admissible, Admissible,
        (sortByKey_perm _ _).length_eq,
        admissibleEntries_perm (sortByKey_perm _ _),
        canonicalEntries_eq_map, List.length_map, ← canonicalEntries_eq_map,
        admissibleEntries_canonical]

theorem admissibleItems_canonical :
    ∀ {items : List JsValue} {depth : Nat},
      AdmissibleItems (canonicalItems items) depth ↔
        AdmissibleItems items depth
  | [], _ => Iff.rfl
  | item :: rest, depth => by
      rw [canonicalItems, AdmissibleItems, AdmissibleItems,
        admissible_canonical, admissibleItems_canonical]

theorem admissibleEntries_canonical :
    ∀ {entries : Record} {depth : Nat},
      AdmissibleEntries (canonicalEntries entries) depth ↔
        AdmissibleEntries entries depth
  | [], _ => Iff.rfl
  | (name, value) :: rest, depth => by
      rw [canonicalEntries, AdmissibleEntries, AdmissibleEntries,
        admissible_canonical, admissibleEntries_canonical]

end

mutual

theorem cost_canonical :
    ∀ value : JsValue, cost (canonical value) = cost value
  | .undefined => rfl
  | .exotic => rfl
  | .null => rfl
  | .bool _ => rfl
  | .number _ => rfl
  | .string _ => rfl
  | .array items => by
      rw [canonical, cost, cost, costItems_canonical]
  | .object entries => by
      rw [canonical, cost, cost, costEntries_perm (sortByKey_perm _ _),
        costEntries_canonical]

theorem costItems_canonical :
    ∀ items : List JsValue,
      costItems (canonicalItems items) = costItems items
  | [] => rfl
  | item :: rest => by
      rw [canonicalItems, costItems, costItems, cost_canonical,
        costItems_canonical]

theorem costEntries_canonical :
    ∀ entries : Record,
      costEntries (canonicalEntries entries) = costEntries entries
  | [] => rfl
  | (name, value) :: rest => by
      rw [canonicalEntries, costEntries, costEntries, cost_canonical,
        costEntries_canonical]

end

theorem get_orderedInsert
    (entry : JsString × JsValue)
    (entries : Record)
    (key : JsString) :
    Record.get (entries.orderedInsert
        (fun first second => first.1 ≤ second.1) entry) key =
      Record.get (entry :: entries) key := by
  induction entries with
  | nil => rfl
  | cons other rest inductionHypothesis =>
      rw [List.orderedInsert_cons]
      by_cases before : entry.1 ≤ other.1
      · rw [if_pos before]
      · -- A property of the same name would not be passed.
        have different : entry.1 ≠ other.1 := fun same =>
          before same.le
        obtain ⟨name, value⟩ := other
        rw [if_neg before, Record.get_cons, inductionHypothesis,
          Record.get_cons, Record.get_cons, Record.get_cons]
        by_cases isName : name = key
        · rw [if_pos isName, if_neg (isName ▸ different), if_pos isName]
        · rw [if_neg isName, if_neg isName]

section

variable (entries : Record) (key : JsString)

theorem get_sortByKey :
    Record.get (sortByKey Prod.fst entries) key = entries.get key := by
  induction entries with
  | nil => rfl
  | cons entry rest inductionHypothesis =>
      rw [sortByKey, List.insertionSort_cons, get_orderedInsert,
        Record.get_cons, Record.get_cons, ← inductionHypothesis]
      rfl

theorem get_canonicalEntries :
    Record.get (canonicalEntries entries) key =
      canonical (entries.get key) := by
  induction entries with
  | nil => rfl
  | cons entry rest inductionHypothesis =>
      obtain ⟨name, value⟩ := entry
      rw [canonicalEntries, Record.get_cons, Record.get_cons,
        inductionHypothesis]
      split <;> rfl

theorem get_canonical :
    (canonical (.object entries)).entries.get key =
      canonical (entries.get key) := by
  rw [← get_canonicalEntries, canonical]
  exact get_sortByKey _ key

end

/-! ## Snapshots -/

/-- A snapshot can be taken of the value. -/
structure Snapshotable (value : JsValue) : Prop where
  admissible : Admissible value 0
  fits : (cost value).Fits

/-- A snapshot is the copy of a value whose parts and totals are in bounds. -/
theorem snapshotData_eq_ok
    {value copy : JsValue} :
    snapshotData value = .ok copy ↔
      Snapshotable value ∧ copy = canonical value := by
  have start : SnapshotTotals.zero.Fits := by decide
  have whole : SnapshotTotals.zero + cost value = cost value := by
    ext <;> simp [SnapshotTotals.zero]
  rw [snapshotData, bind_eq_ok]
  constructor
  · rintro ⟨after, charged, same⟩
    obtain ⟨admissible, -, fits⟩ := (chargeCopy_eq_ok start).mp charged
    rw [cost_canonical, whole] at fits
    exact ⟨⟨admissible_canonical.mp admissible, fits⟩,
      (Except.ok.inj same).symm⟩
  · rintro ⟨snapshotable, rfl⟩
    refine ⟨_, (chargeCopy_eq_ok start).mpr
      ⟨admissible_canonical.mpr snapshotable.admissible, rfl, ?_⟩, rfl⟩
    rw [cost_canonical, whole]
    exact snapshotable.fits

theorem snapshotData_canonical
    {value : JsValue}
    (snapshotable : Snapshotable value) :
    snapshotData (canonical value) = .ok (canonical value) := by
  refine snapshotData_eq_ok.mpr ⟨⟨?_, ?_⟩, (canonical_canonical value).symm⟩
  · exact admissible_canonical.mpr snapshotable.admissible
  · rw [cost_canonical]
    exact snapshotable.fits

theorem Snapshotable.array_perm
    {items others : List JsValue}
    (snapshotable : Snapshotable (.array items))
    (reordered : items.Perm others) :
    Snapshotable (.array others) := by
  obtain ⟨admissible, fits⟩ := snapshotable
  rw [Admissible] at admissible
  refine ⟨?_, ?_⟩
  · rw [Admissible, ← reordered.length_eq]
    refine ⟨admissible.1, admissible.2.1, ?_⟩
    rw [admissibleItems_iff]
    intro item member
    exact admissibleItems_iff.mp admissible.2.2 item
      (reordered.mem_iff.mpr member)
  · rw [cost, ← costItems_perm reordered]
    rwa [cost] at fits

theorem Snapshotable.item
    {items : List JsValue}
    {item : JsValue}
    (snapshotable : Snapshotable (.array items))
    (member : item ∈ items) :
    Snapshotable item := by
  obtain ⟨admissible, fits⟩ := snapshotable
  rw [Admissible] at admissible
  rw [cost] at fits
  exact ⟨(admissibleItems_iff.mp admissible.2.2 item member).mono
      (Nat.zero_le _),
    fits.within ((cost_within_items member).trans
      (SnapshotTotals.within_add_left _ _))⟩

end Selene.Extension
