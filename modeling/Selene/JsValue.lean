import Selene.JsText
import Mathlib.Data.List.Forall2
import Mathlib.Data.List.Perm.Basic
import Mathlib.Data.Rat.Defs

/-!
# Untyped ECMAScript values

A boundary function receives an `unknown`.  `JsValue` is the data such a value
can carry: primitives, dense arrays and plain objects whose properties are
enumerable data properties.  Everything else a boundary can tell apart by
inspection (functions, symbols, accessors, foreign prototypes, sparse arrays,
cyclic structures) is `exotic`.

`Reordered` relates values that differ in the order of object keys and of array
elements, at any depth.
-/

namespace Js

/-- An IEEE double, with finite values read as rationals. -/
inductive JsNumber where
  | finite (value : ℚ)
  | negativeZero
  | infinite (negative : Bool)
  | nan
  deriving DecidableEq

namespace JsNumber

/-- The number of a natural-number literal. -/
def ofNat (value : Nat) : JsNumber :=
  .finite (Rat.ofInt value)

/-- `Number.MAX_SAFE_INTEGER`. -/
def maxSafeInteger : Nat :=
  2 ^ 53 - 1

/-- The integer a number stands for, if `Number.isSafeInteger` accepts it. -/
def safeInteger? : JsNumber → Option Int
  | .finite value =>
      if value.den = 1 ∧ value.num.natAbs ≤ maxSafeInteger then
        some value.num
      else
        none
  | .negativeZero => some 0
  | .infinite _ => none
  | .nan => none

/-- `Number.isFinite`. -/
def isFinite : JsNumber → Bool
  | .finite _ => true
  | .negativeZero => true
  | .infinite _ => false
  | .nan => false

@[simp] theorem isFinite_ofNat (value : Nat) :
    (ofNat value).isFinite = true :=
  rfl

theorem safeInteger?_ofNat
    {value : Nat}
    (bound : value ≤ maxSafeInteger) :
    (ofNat value).safeInteger? = some (value : Int) := by
  simp [ofNat, safeInteger?, bound]

end JsNumber

/-- An untyped value. -/
inductive JsValue where
  | undefined
  | null
  | bool (value : Bool)
  | number (value : JsNumber)
  | string (value : JsString)
  | array (items : List JsValue)
  | object (entries : List (JsString × JsValue))
  | exotic

/-- The own properties of a plain object, in property order. -/
abbrev Record := List (JsString × JsValue)

namespace Record

/-- Property access; a missing property reads as `undefined`. -/
def get : Record → JsString → JsValue
  | [], _ => .undefined
  | (name, value) :: rest, key =>
      if name = key then value else get rest key

/-- `Object.keys`. -/
def keys (record : Record) : List JsString :=
  record.map Prod.fst

/-- A property that is left out when the value is absent. -/
def optionalEntry (name : JsString) : Option JsValue → Record
  | none => []
  | some value => [(name, value)]

@[simp] theorem get_nil (key : JsString) :
    get [] key = .undefined :=
  rfl

variable (name : JsString)

@[simp] theorem get_cons
    (value : JsValue)
    (rest : Record)
    (key : JsString) :
    get ((name, value) :: rest) key =
      if name = key then value else get rest key :=
  rfl

@[simp] theorem keys_nil : keys [] = [] :=
  rfl

@[simp] theorem keys_cons
    (value : JsValue)
    (rest : Record) :
    keys ((name, value) :: rest) = name :: keys rest :=
  rfl

@[simp] theorem keys_append
    (first second : Record) :
    keys (first ++ second) = keys first ++ keys second :=
  List.map_append

theorem get_of_not_mem
    {record : Record}
    {key : JsString}
    (absent : key ∉ record.keys) :
    record.get key = .undefined := by
  induction record with
  | nil => rfl
  | cons entry rest inductionHypothesis =>
      obtain ⟨name, value⟩ := entry
      simp only [keys_cons, List.mem_cons, not_or] at absent
      rw [get_cons, if_neg (Ne.symm absent.1),
        inductionHypothesis absent.2]

theorem get_append
    (first second : Record)
    (key : JsString) :
    (first ++ second).get key =
      if key ∈ first.keys then first.get key else second.get key := by
  induction first with
  | nil => rfl
  | cons entry rest inductionHypothesis =>
      obtain ⟨name, value⟩ := entry
      simp only [List.cons_append, get_cons, keys_cons, List.mem_cons,
        inductionHypothesis]
      by_cases same : name = key
      · simp [same]
      · simp [same, Ne.symm same]

@[simp] theorem get_optionalEntry_append
    (value : Option JsValue)
    (rest : Record)
    (key : JsString) :
    (optionalEntry name value ++ rest).get key =
      if name = key then value.getD (rest.get key) else rest.get key := by
  cases value with
  | none => simp [optionalEntry]
  | some value => simp [optionalEntry]

@[simp] theorem get_optionalEntry
    (value : Option JsValue)
    (key : JsString) :
    (optionalEntry name value).get key =
      if name = key then value.getD .undefined else .undefined := by
  cases value with
  | none => simp [optionalEntry]
  | some value => simp [optionalEntry]

@[simp] theorem mem_keys_optionalEntry
    {name key : JsString}
    {value : Option JsValue} :
    key ∈ (optionalEntry name value).keys ↔
      key = name ∧ value.isSome := by
  cases value <;> simp [optionalEntry]

end Record

/--
Values that differ only in the order of object keys and array elements.  The
keys of an object are distinct, so exchanging two neighbours is stated for
different names.
-/
inductive Reordered : JsValue → JsValue → Prop where
  | refl (value : JsValue) :
      Reordered value value
  | trans {first second third : JsValue} :
      Reordered first second →
      Reordered second third →
      Reordered first third
  | swapItems (before : List JsValue) (first second : JsValue)
      (after : List JsValue) :
      Reordered
        (.array (before ++ first :: second :: after))
        (.array (before ++ second :: first :: after))
  | swapEntries (before : Record)
      (firstName secondName : JsString) (first second : JsValue)
      (after : Record) :
      firstName ≠ secondName →
      Reordered
        (.object (before ++ (firstName, first) ::
          (secondName, second) :: after))
        (.object (before ++ (secondName, second) ::
          (firstName, first) :: after))
  | item (before : List JsValue) {first second : JsValue}
      (after : List JsValue) :
      Reordered first second →
      Reordered
        (.array (before ++ first :: after))
        (.array (before ++ second :: after))
  | entry (before : Record) (name : JsString)
      {first second : JsValue} (after : Record) :
      Reordered first second →
      Reordered
        (.object (before ++ (name, first) :: after))
        (.object (before ++ (name, second) :: after))

namespace Reordered

protected theorem symm
    {first second : JsValue}
    (reordered : Reordered first second) :
    Reordered second first := by
  induction reordered with
  | refl value => exact .refl value
  | trans _ _ before after => exact .trans after before
  | swapItems before first second after =>
      exact .swapItems before second first after
  | swapEntries before firstName secondName first second after different =>
      exact .swapEntries before secondName firstName second first after
        different.symm
  | item before after _ inside => exact .item before after inside
  | entry before name after _ inside => exact .entry before name after inside

/-- Objects with the same names whose properties are reorderings. -/
structure RecordReordered (first second : Record) : Prop where
  keys : first.keys.Perm second.keys
  get : ∀ key, Reordered (first.get key) (second.get key)

/-- Arrays whose elements are reorderings, in some order. -/
def ItemsReordered (first second : List JsValue) : Prop :=
  ∃ middle, List.Forall₂ Reordered first middle ∧ middle.Perm second

namespace RecordReordered

protected theorem refl (record : Record) :
    RecordReordered record record where
  keys := .refl _
  get _ := .refl _

protected theorem trans
    {first second third : Record}
    (before : RecordReordered first second)
    (after : RecordReordered second third) :
    RecordReordered first third where
  keys := before.keys.trans after.keys
  get key := .trans (before.get key) (after.get key)

end RecordReordered

theorem ItemsReordered.trans
    {first second third : List JsValue}
    (before : ItemsReordered first second)
    (after : ItemsReordered second third) :
    ItemsReordered first third := by
  obtain ⟨firstMiddle, firstRelated, firstPerm⟩ := before
  obtain ⟨secondMiddle, secondRelated, secondPerm⟩ := after
  obtain ⟨middle, related, permutation⟩ :=
    List.perm_comp_forall₂ firstPerm secondRelated
  refine ⟨middle, ?_, permutation.trans secondPerm⟩
  clear firstPerm secondRelated permutation
  induction firstRelated generalizing middle with
  | nil => exact related
  | cons before _ inductionHypothesis =>
      cases related with
      | cons after restRelated =>
          exact .cons (.trans before after)
            (inductionHypothesis _ restRelated)

/-- What a reordering of a value looks like, by the value's constructor. -/
def Shape : JsValue → JsValue → Prop
  | .array first, other =>
      ∃ second, other = .array second ∧ ItemsReordered first second
  | .object first, other =>
      ∃ second, other = .object second ∧ RecordReordered first second
  | value, other => other = value

theorem Shape.refl (value : JsValue) :
    Shape value value := by
  cases value with
  | array items =>
      exact ⟨items, rfl, items,
        List.forall₂_same.mpr fun item _ => .refl item, .refl _⟩
  | object entries =>
      exact ⟨entries, rfl, .refl entries⟩
  | _ => rfl

theorem Shape.trans
    {first second third : JsValue}
    (before : Shape first second)
    (after : Shape second third) :
    Shape first third := by
  cases first with
  | array items =>
      obtain ⟨others, rfl, firstReordered⟩ := before
      obtain ⟨last, rfl, secondReordered⟩ := after
      exact ⟨last, rfl, firstReordered.trans secondReordered⟩
  | object entries =>
      obtain ⟨others, rfl, firstReordered⟩ := before
      obtain ⟨last, rfl, secondReordered⟩ := after
      exact ⟨last, rfl, firstReordered.trans secondReordered⟩
  | _ =>
      cases before
      exact after

theorem shape
    {first second : JsValue}
    (reordered : Reordered first second) :
    Shape first second := by
  induction reordered with
  | refl value => exact .refl value
  | trans _ _ before after => exact before.trans after
  | swapItems before first second after =>
      refine ⟨_, rfl, _,
        List.forall₂_same.mpr fun item _ => .refl item, ?_⟩
      exact (List.Perm.swap second first after).append_left before
  | swapEntries before firstName secondName first second after different =>
      refine ⟨_, rfl, ?_, ?_⟩
      · simp only [Record.keys_append, Record.keys_cons]
        exact (List.Perm.swap secondName firstName _).append_left _
      · intro key
        simp only [Record.get_append, Record.get_cons]
        split
        · exact .refl _
        · by_cases isFirst : firstName = key
          · have notSecond : secondName ≠ key :=
              fun isSecond => different (isFirst.trans isSecond.symm)
            simp only [isFirst, notSecond, ↓reduceIte]
            exact .refl _
          · simp only [isFirst, ↓reduceIte]
            exact .refl _
  | item before after reordered _ =>
      refine ⟨_, rfl, _, ?_, .refl _⟩
      exact List.rel_append
        (List.forall₂_same.mpr fun item _ => .refl item)
        (.cons reordered (List.forall₂_same.mpr fun item _ => .refl item))
  | entry before name after reordered _ =>
      refine ⟨_, rfl, ?_, ?_⟩
      · simp only [Record.keys_append, Record.keys_cons]
        exact .refl _
      · intro key
        simp only [Record.get_append, Record.get_cons]
        split
        · exact .refl _
        · split
          · exact reordered
          · exact .refl _

end Reordered

end Js
