import Selene.InertValue
import Selene.JsonData

/-!
# Inert copies

What a boundary keeps of a value it takes, and the structural equality of two
such values.  The copy leaves out every property named `length`; whatever the
boundary took, it takes the copy as well, at the same charge.

Typed records are written as values by `Record.ofFields`, a list of named
fields that may be absent.
-/

namespace Js

/-! ## Copying -/

mutual

/-- The copy of a value. -/
def inertCopy : JsValue → JsValue
  | .undefined => .undefined
  | .null => .null
  | .bool value => .bool value
  | .number value => .number value
  | .string value => .string value
  | .array items => .array (inertCopyItems items)
  | .object entries => .object (inertCopyEntries entries)
  | .exotic => .exotic

/-- The copies of the items of an array. -/
def inertCopyItems : List JsValue → List JsValue
  | [] => []
  | item :: rest => inertCopy item :: inertCopyItems rest

/-- The copies of the properties of an object. -/
def inertCopyEntries : Record → Record
  | [] => []
  | (name, value) :: rest =>
      if name = js "length" then inertCopyEntries rest
      else (name, inertCopy value) :: inertCopyEntries rest

end

theorem inertCopyItems_eq_map (items : List JsValue) :
    inertCopyItems items = items.map inertCopy :=
  eq_map_of_cons rfl (fun _ _ => rfl) items

theorem inertCopyEntries_eq (entries : Record) :
    inertCopyEntries entries =
      (entries.filter fun entry => decide (entry.1 ≠ js "length")).map
        fun entry => (entry.1, inertCopy entry.2) := by
  induction entries with
  | nil => rfl
  | cons entry rest inductionHypothesis =>
      obtain ⟨name, value⟩ := entry
      by_cases left : name = js "length"
      · simp [inertCopyEntries, left, inductionHypothesis]
      · simp [inertCopyEntries, left, inductionHypothesis]

theorem length_inertCopyEntries_le (entries : Record) :
    (inertCopyEntries entries).length ≤ entries.length := by
  rw [inertCopyEntries_eq, List.length_map]
  exact List.length_filter_le _ entries

namespace Budgets

mutual

theorem charge_inertCopy (budgets : Budgets) :
    ∀ {value : JsValue} {depth : Nat} {totals after : Totals},
      budgets.charge value depth totals = some after →
        budgets.charge (inertCopy value) depth totals = some after
  | .undefined, _, _, _, charged => charged
  | .null, _, _, _, charged => charged
  | .bool _, _, _, _, charged => charged
  | .number _, _, _, _, charged => charged
  | .string _, _, _, _, charged => charged
  | .exotic, _, _, _, charged => charged
  | .array items, depth, totals, after, charged => by
      rw [charge] at charged
      rw [inertCopy, charge]
      split at charged
      · rename_i shallow
        obtain ⟨entered, isEntered, inside⟩ :=
          Option.bind_eq_some_iff.mp charged
        rw [if_pos shallow, inertCopyItems_eq_map, List.length_map,
          isEntered, ← inertCopyItems_eq_map]
        exact chargeItems_inertCopy budgets inside
      · cases charged
  | .object entries, depth, totals, after, charged => by
      rw [charge] at charged
      rw [inertCopy, charge]
      split at charged
      · rename_i shallow
        obtain ⟨entered, isEntered, inside⟩ :=
          Option.bind_eq_some_iff.mp charged
        have fewer : budgets.addNode (inertCopyEntries entries).length totals =
            some entered := by
          have fewerProperties := length_inertCopyEntries_le entries
          rw [addNode] at isEntered ⊢
          split at isEntered
          · rename_i within
            rw [if_pos ⟨within.1, fewerProperties.trans within.2⟩]
            exact isEntered
          · cases isEntered
        rw [if_pos shallow, fewer]
        exact chargeEntries_inertCopy budgets inside
      · cases charged

theorem chargeItems_inertCopy (budgets : Budgets) :
    ∀ {items : List JsValue} {index depth : Nat} {totals after : Totals},
      budgets.chargeItems index items depth totals = some after →
        budgets.chargeItems index (inertCopyItems items) depth totals =
          some after
  | [], _, _, _, _, charged => charged
  | item :: rest, index, depth, totals, after, charged => by
      obtain ⟨named, isNamed, inside⟩ := Option.bind_eq_some_iff.mp charged
      obtain ⟨next, first, others⟩ := Option.bind_eq_some_iff.mp inside
      rw [inertCopyItems, chargeItems, isNamed, Option.bind_some,
        charge_inertCopy budgets first, Option.bind_some]
      exact chargeItems_inertCopy budgets others

theorem chargeEntries_inertCopy (budgets : Budgets) :
    ∀ {entries : Record} {depth : Nat} {totals after : Totals},
      budgets.chargeEntries entries depth totals = some after →
        budgets.chargeEntries (inertCopyEntries entries) depth totals =
          some after
  | [], _, _, _, charged => charged
  | (name, value) :: rest, depth, totals, after, charged => by
      rw [chargeEntries] at charged
      rw [inertCopyEntries]
      split at charged
      · rename_i left
        rw [if_pos left]
        exact chargeEntries_inertCopy budgets charged
      · rename_i kept
        obtain ⟨named, isNamed, inside⟩ := Option.bind_eq_some_iff.mp charged
        obtain ⟨next, first, others⟩ := Option.bind_eq_some_iff.mp inside
        rw [if_neg kept, chargeEntries, if_neg kept, isNamed,
          Option.bind_some, charge_inertCopy budgets first, Option.bind_some]
        exact chargeEntries_inertCopy budgets others

end

theorem Admits.inertCopy
    {budgets : Budgets}
    {value : JsValue}
    (admitted : budgets.Admits value) :
    budgets.Admits (inertCopy value) := by
  obtain ⟨after, charged⟩ := Option.isSome_iff_exists.mp admitted
  exact Option.isSome_iff_exists.mpr ⟨after, charge_inertCopy budgets charged⟩

end Budgets

theorem keys_inertCopyEntries_sublist (entries : Record) :
    (Record.keys (inertCopyEntries entries)).Sublist (Record.keys entries) := by
  rw [inertCopyEntries_eq, Record.keys, List.map_map]
  exact List.filter_sublist.map Prod.fst

theorem JsValue.WellFormed.inertCopy
    {value : JsValue}
    (wellFormed : value.WellFormed) :
    (inertCopy value).WellFormed := by
  induction wellFormed with
  | undefined => exact .undefined
  | null => exact .null
  | bool value => exact .bool value
  | number representable => exact .number representable
  | string value => exact .string value
  | exotic => exact .exotic
  | array _ inductionHypothesis =>
      rw [Js.inertCopy, inertCopyItems_eq_map]
      refine .array fun item member => ?_
      obtain ⟨other, old, rfl⟩ := List.mem_map.mp member
      exact inductionHypothesis other old
  | @object entries distinct _ inductionHypothesis =>
      rw [Js.inertCopy]
      refine .object
        (distinct.sublist (keys_inertCopyEntries_sublist entries))
        fun entry member => ?_
      rw [inertCopyEntries_eq] at member
      obtain ⟨other, kept, rfl⟩ := List.mem_map.mp member
      exact inductionHypothesis other (List.mem_of_mem_filter kept)

/-- A value that is its own copy. -/
def Inert (value : JsValue) : Prop :=
  inertCopy value = value

@[simp] theorem inert_string (text : JsString) : Inert (.string text) :=
  rfl

@[simp] theorem inert_number (number : JsNumber) : Inert (.number number) :=
  rfl

@[simp] theorem inert_bool (value : Bool) : Inert (.bool value) :=
  rfl

@[simp] theorem inert_array
    {items : List JsValue} :
    Inert (.array items) ↔ ∀ item ∈ items, Inert item := by
  simp only [Inert, inertCopy, inertCopyItems_eq_map, JsValue.array.injEq]
  constructor
  · intro same
    exact List.map_inj_left.mp (same.trans (List.map_id items).symm)
  · intro each
    exact (List.map_congr_left each).trans (List.map_id items)

mutual

theorem inert_inertCopy :
    ∀ value : JsValue, Inert (inertCopy value)
  | .undefined => rfl
  | .null => rfl
  | .bool _ => rfl
  | .number _ => rfl
  | .string _ => rfl
  | .exotic => rfl
  | .array items => congrArg JsValue.array (inertCopyItems_inertCopy items)
  | .object entries =>
      congrArg JsValue.object (inertCopyEntries_inertCopy entries)

theorem inertCopyItems_inertCopy :
    ∀ items : List JsValue,
      inertCopyItems (inertCopyItems items) = inertCopyItems items
  | [] => rfl
  | item :: rest => by
      rw [inertCopyItems, inertCopyItems, inert_inertCopy item,
        inertCopyItems_inertCopy rest]

theorem inertCopyEntries_inertCopy :
    ∀ entries : Record,
      inertCopyEntries (inertCopyEntries entries) = inertCopyEntries entries
  | [] => rfl
  | (name, value) :: rest => by
      rw [inertCopyEntries]
      split
      · exact inertCopyEntries_inertCopy rest
      · rename_i kept
        rw [inertCopyEntries, if_neg kept, inert_inertCopy value,
          inertCopyEntries_inertCopy rest]

end

/-! ## Structural equality -/

mutual

/-- Structural equality of copies; primitives are compared by `Object.is`. -/
def sameInert : JsValue → JsValue → Bool
  | .undefined, .undefined => true
  | .null, .null => true
  | .bool first, .bool second => decide (first = second)
  | .number first, .number second => decide (first = second)
  | .string first, .string second => decide (first = second)
  | .array first, .array second => sameInertItems first second
  | .object first, .object second =>
      decide (first.length = second.length) && sameInertEntries first second
  | _, _ => false

/-- Arrays are compared index by index. -/
def sameInertItems : List JsValue → List JsValue → Bool
  | [], [] => true
  | first :: rest, second :: others =>
      sameInert first second && sameInertItems rest others
  | _, _ => false

/-- The properties of one object as they are in another. -/
def sameInertEntries : Record → Record → Bool
  | [], _ => true
  | (name, value) :: rest, others =>
      decide (name ∈ Record.keys others) &&
        sameInert value (Record.get others name) &&
        sameInertEntries rest others

end

/-- Bounded structural equality; a value out of bounds equals nothing. -/
def Budgets.equalValues (budgets : Budgets) (left right : JsValue) : Bool :=
  decide (budgets.Admits left) && decide (budgets.Admits right) &&
    sameInert (inertCopy left) (inertCopy right)

theorem Budgets.equalValues_of_inert
    {budgets : Budgets}
    {left right : JsValue}
    (leftAdmitted : budgets.Admits left)
    (rightAdmitted : budgets.Admits right)
    (leftInert : Inert left)
    (rightInert : Inert right) :
    budgets.equalValues left right = sameInert left right := by
  rw [equalValues, leftInert, rightInert]
  simp [leftAdmitted, rightAdmitted]

@[simp] theorem sameInert_string (first second : JsString) :
    sameInert (.string first) (.string second) = decide (first = second) :=
  rfl

@[simp] theorem sameInert_number (first second : JsNumber) :
    sameInert (.number first) (.number second) = decide (first = second) :=
  rfl

/-! ## Fields -/

namespace Record

/-- A field of a typed record, which may be absent. -/
abbrev Field := JsString × Option JsValue

/-- The properties of a record with these fields. -/
def ofFields : List Field → Record
  | [] => []
  | (name, value) :: rest => optionalEntry name value ++ ofFields rest

@[simp] theorem ofFields_nil : ofFields [] = [] :=
  rfl

section

variable (name : JsString) (value : Option JsValue) (rest : List Field)

theorem ofFields_cons :
    ofFields ((name, value) :: rest) =
      optionalEntry name value ++ ofFields rest :=
  rfl

@[simp] theorem get_ofFields_cons
    (key : JsString) :
    (ofFields ((name, value) :: rest)).get key =
      if name = key then value.getD ((ofFields rest).get key)
      else (ofFields rest).get key :=
  get_optionalEntry_append name value (ofFields rest) key

end

theorem mem_ofFields
    {fields : List Field}
    {name : JsString}
    {value : JsValue} :
    (name, value) ∈ ofFields fields ↔ (name, some value) ∈ fields := by
  induction fields with
  | nil => simp
  | cons field rest inductionHypothesis =>
      obtain ⟨other, present⟩ := field
      rw [ofFields_cons, List.mem_append, inductionHypothesis, List.mem_cons]
      cases present with
      | none => simp [optionalEntry]
      | some present => simp [optionalEntry]

theorem mem_keys_ofFields
    {fields : List Field}
    {key : JsString} :
    key ∈ (ofFields fields).keys ↔
      ∃ value, (key, some value) ∈ fields := by
  simp only [keys, List.mem_map, Prod.exists, mem_ofFields]
  constructor
  · rintro ⟨name, value, member, rfl⟩
    exact ⟨value, member⟩
  · rintro ⟨value, member⟩
    exact ⟨key, value, member, rfl⟩

theorem keys_ofFields_sublist (fields : List Field) :
    (ofFields fields).keys.Sublist (fields.map Prod.fst) := by
  induction fields with
  | nil => simp
  | cons field rest inductionHypothesis =>
      obtain ⟨name, value⟩ := field
      rw [ofFields_cons, keys_append, List.map_cons]
      cases value with
      | none => exact inductionHypothesis.cons name
      | some value => exact inductionHypothesis.cons_cons name

end Record

theorem inert_ofFields
    {fields : List Record.Field}
    (names : ∀ field ∈ fields, field.1 ≠ js "length")
    (values : ∀ field ∈ fields, ∀ value ∈ field.2, Inert value) :
    Inert (.object (Record.ofFields fields)) := by
  unfold Inert
  rw [inertCopy]
  congr 1
  induction fields with
  | nil => rfl
  | cons field rest inductionHypothesis =>
      obtain ⟨name, value⟩ := field
      have others := inductionHypothesis
        (fun field member => names field (List.mem_cons_of_mem _ member))
        (fun field member => values field (List.mem_cons_of_mem _ member))
      cases value with
      | none => exact others
      | some value =>
          have kept : name ≠ js "length" := names _ List.mem_cons_self
          have inert : inertCopy value = value :=
            values _ List.mem_cons_self value rfl
          simp [Record.ofFields_cons, Record.optionalEntry, inertCopyEntries,
            kept, inert, others]

/-! ## Equality of typed records -/

/-- Two fields that are both absent or hold equal values. -/
def sameField : Option JsValue → Option JsValue → Bool
  | none, none => true
  | some first, some second => sameInert first second
  | _, _ => false

@[simp] theorem sameField_some (first second : JsValue) :
    sameField (some first) (some second) = sameInert first second :=
  rfl

theorem sameField_map
    {α : Type}
    {toJs : α → JsValue}
    (exact : ∀ first second,
      sameInert (toJs first) (toJs second) = true ↔ first = second)
    (first second : Option α) :
    sameField (first.map toJs) (second.map toJs) = true ↔
      first = second := by
  cases first with
  | none => cases second <;> simp [sameField]
  | some first =>
      cases second with
      | none => simp [sameField]
      | some second => simpa [sameField] using exact first second

theorem sameInertEntries_iff
    {entries others : Record} :
    sameInertEntries entries others = true ↔
      ∀ entry ∈ entries, entry.1 ∈ others.keys ∧
        sameInert entry.2 (others.get entry.1) = true := by
  induction entries with
  | nil => simp [sameInertEntries]
  | cons entry rest inductionHypothesis =>
      obtain ⟨name, value⟩ := entry
      simp [sameInertEntries, inductionHypothesis]

section Fields

variable {first second : List Record.Field}

private theorem field_unique
    {fields : List Record.Field}
    (distinct : (fields.map Prod.fst).Nodup)
    {name : JsString}
    {value other : Option JsValue}
    (member : (name, value) ∈ fields)
    (otherMember : (name, other) ∈ fields) :
    value = other :=
  congrArg Prod.snd
    (List.inj_on_of_nodup_map distinct member otherMember rfl)

private theorem get_ofFields
    {fields : List Record.Field}
    (distinct : (fields.map Prod.fst).Nodup)
    {name : JsString}
    {value : JsValue}
    (member : (name, some value) ∈ fields) :
    (Record.ofFields fields).get name = value :=
  Record.get_of_mem (distinct.sublist (Record.keys_ofFields_sublist fields))
    (Record.mem_ofFields.mpr member)

private theorem sameField_of_sameInert
    (distinct : (first.map Prod.fst).Nodup)
    (secondDistinct : (second.map Prod.fst).Nodup)
    (same :
      sameInert (.object (Record.ofFields first))
        (.object (Record.ofFields second)) = true)
    {name : JsString}
    {value other : Option JsValue}
    (member : (name, value) ∈ first)
    (otherMember : (name, other) ∈ second) :
    sameField value other = true := by
  simp only [sameInert, Bool.and_eq_true, decide_eq_true_eq] at same
  obtain ⟨sameLength, sameEntries⟩ := same
  have each := sameInertEntries_iff.mp sameEntries
  have subset :
      (Record.ofFields first).keys ⊆ (Record.ofFields second).keys := by
    intro key isKey
    obtain ⟨value, present⟩ := Record.mem_keys_ofFields.mp isKey
    exact (each _ (Record.mem_ofFields.mpr present)).1
  have permuted :
      (Record.ofFields first).keys.Perm (Record.ofFields second).keys := by
    have contained := List.subperm_of_subset
      (distinct.sublist (Record.keys_ofFields_sublist first)) subset
    refine contained.perm_of_length_le ?_
    simp only [Record.keys, List.length_map]
    exact sameLength.ge
  cases value with
  | some value =>
      obtain ⟨isKey, sameValue⟩ := each _ (Record.mem_ofFields.mpr member)
      obtain ⟨found, present⟩ := Record.mem_keys_ofFields.mp isKey
      cases field_unique secondDistinct otherMember present
      rw [get_ofFields secondDistinct otherMember] at sameValue
      exact sameValue
  | none =>
      cases other with
      | none => rfl
      | some other =>
          have isKey := permuted.mem_iff.mpr
            (Record.mem_keys_ofFields.mpr ⟨other, otherMember⟩)
          obtain ⟨found, present⟩ := Record.mem_keys_ofFields.mp isKey
          cases field_unique distinct member present

theorem sameInert_ofFields
    (names : first.map Prod.fst = second.map Prod.fst)
    (distinct : (first.map Prod.fst).Nodup) :
    sameInert (.object (Record.ofFields first))
        (.object (Record.ofFields second)) = true ↔
      List.Forall₂ (fun field other => sameField field.2 other.2 = true)
        first second := by
  have secondDistinct := names ▸ distinct
  have aligned :
      List.Forall₂ (fun (field other : Record.Field) => field.1 = other.1)
        first second := by
    rw [← List.forall₂_eq_eq_eq] at names
    exact List.forall₂_map_right_iff.mp (List.forall₂_map_left_iff.mp names)
  constructor
  · intro same
    rw [List.forall₂_iff_zip]
    refine ⟨aligned.length_eq, fun {field other} member => ?_⟩
    have sameName := (List.forall₂_iff_zip.mp aligned).2 member
    obtain ⟨name, value⟩ := field
    obtain ⟨otherName, otherValue⟩ := other
    cases sameName
    exact sameField_of_sameInert distinct secondDistinct same
      (List.of_mem_zip member).1 (List.of_mem_zip member).2
  · intro same
    simp only [sameInert, Bool.and_eq_true, decide_eq_true_eq]
    constructor
    · clear distinct secondDistinct aligned names
      induction same with
      | nil => rfl
      | @cons field other _ _ sameValue _ inductionHypothesis =>
          obtain ⟨name, value⟩ := field
          obtain ⟨otherName, otherValue⟩ := other
          rw [Record.ofFields_cons, Record.ofFields_cons, List.length_append,
            List.length_append, inductionHypothesis]
          cases value <;> cases otherValue <;>
            first
            | rfl
            | cases sameValue
    · refine sameInertEntries_iff.mpr fun entry member => ?_
      obtain ⟨name, value⟩ := entry
      have present := Record.mem_ofFields.mp member
      obtain ⟨index, bound, found⟩ := List.getElem_of_mem present
      have otherBound : index < second.length := same.length_eq ▸ bound
      have sameName := List.Forall₂.get aligned bound otherBound
      have sameValue := List.Forall₂.get same bound otherBound
      simp only [List.get_eq_getElem, found] at sameName sameValue
      cases otherField : second[index] with
      | mk otherName otherValue =>
          rw [otherField] at sameName sameValue
          cases sameName
          cases otherValue with
          | none => cases sameValue
          | some otherValue =>
              have otherMember : (otherName, some otherValue) ∈ second :=
                otherField ▸ List.getElem_mem otherBound
              exact ⟨Record.mem_keys_ofFields.mpr ⟨_, otherMember⟩,
                (get_ofFields secondDistinct otherMember).symm ▸ sameValue⟩

end Fields

end Js
