import Selene.JsCoercion
import Selene.RevisionMerge

/-!
# Applying the changes of a difference

Changes are applied in order, each at the property that its path names: an added
property is new, a removed or replaced one is there.  The changes between two
contents lead from the one to the other (`applyBelow_difference`).

The difference is taken of copies.  It misses what the copies leave out, the
properties named `length`, and it takes an inherited name for a property of both
objects if one of them has it (`Patchable`).
-/

namespace Js.Record

/-! ## Properties of an object -/

theorem keys_erase (record : Record) (name : JsString) :
    (record.erase name).keys = record.keys.filter fun key => key ≠ name := by
  rw [keys, keys, erase, List.filter_map]
  rfl

variable {record : Record} {name : JsString}

theorem define_get
    (distinct : record.keys.Nodup)
    (isKey : name ∈ record.keys) :
    record.define name (record.get name) = record := by
  rw [define, if_pos isKey]
  refine (List.map_congr_left fun entry member => ?_).trans (List.map_id _)
  split
  · rename_i same
    rw [← same, get_of_mem distinct member]
    rfl
  · rfl

theorem define_define
    (isKey : name ∈ record.keys)
    (first second : JsValue) :
    (record.define name first).define name second =
      record.define name second := by
  have stays : name ∈ (record.define name first).keys := by
    rw [keys_define, if_pos isKey]
    exact isKey
  rw [define, if_pos stays, define, if_pos isKey, define, if_pos isKey,
    List.map_map]
  refine List.map_congr_left fun entry _ => ?_
  by_cases same : entry.1 = name
  · simp [same]
  · simp [same]

theorem nodup_define
    (distinct : record.keys.Nodup)
    (name : JsString)
    (value : JsValue) :
    (record.define name value).keys.Nodup := by
  rw [keys_define]
  split
  · exact distinct
  · rename_i fresh
    exact List.nodup_append.mpr ⟨distinct, List.nodup_singleton name, by
      rintro key old _ new rfl
      exact fresh (List.mem_singleton.mp new ▸ old)⟩

theorem mem_keys_define
    {key : JsString}
    {value : JsValue} :
    key ∈ (record.define name value).keys ↔
      key ∈ record.keys ∨ key = name := by
  rw [keys_define]
  split
  · rename_i isKey
    exact ⟨Or.inl, fun either => either.elim id fun same => same ▸ isKey⟩
  · rw [List.mem_append, List.mem_singleton]

end Js.Record

namespace Selene.History

open Js Collaboration

/-! ## Patches -/

/-- The value that a change leaves, at the property behind these names. -/
def RevisionChange.applyAt (change : RevisionChange) :
    List JsString → JsValue → Option JsValue
  | [], _ => if change.kind = .replace then change.after else none
  | key :: rest, .object entries =>
      if key ∈ Record.keys entries then
        if rest = [] ∧ change.kind = .remove then
          some (.object (Record.erase entries key))
        else
          (applyAt change rest (Record.get entries key)).map fun value =>
            .object (Record.define entries key value)
      else if rest = [] ∧ change.kind = .add then
        change.after.map fun value =>
          .object (Record.define entries key value)
      else
        none
  | _ :: _, _ => none

/-- Apply changes in order, from a property at this depth on. -/
def applyBelow (depth : Nat) (changes : List RevisionChange)
    (value : JsValue) : Option JsValue :=
  changes.foldlM (fun value change =>
    change.applyAt ((pointerNames change.path).drop depth) value) value

/-- Apply changes in order. -/
def applyChanges (changes : List RevisionChange) (value : JsValue) :
    Option JsValue :=
  applyBelow 0 changes value

theorem applyBelow_append
    (depth : Nat)
    (first second : List RevisionChange)
    (value : JsValue) :
    applyBelow depth (first ++ second) value =
      (applyBelow depth first value).bind (applyBelow depth second) := by
  rw [applyBelow, List.foldlM_append]
  rfl

/-- A change at or below a property; a property itself is replaced. -/
def Below (names : List JsString) (change : RevisionChange) : Prop :=
  ∃ place, change.path = pointer (names ++ place) ∧
    (place = [] → change.kind = .replace)

theorem Below.outside
    {names : List JsString}
    {key : JsString}
    {change : RevisionChange}
    (below : Below (names ++ [key]) change) :
    Below names change := by
  obtain ⟨place, path, -⟩ := below
  exact ⟨key :: place, by simp [path], by simp⟩

theorem applyBelow_inside
    {names : List JsString}
    {key : JsString}
    {entries : Record}
    (distinct : entries.keys.Nodup)
    (isKey : key ∈ entries.keys)
    {changes : List RevisionChange}
    (below : ∀ change ∈ changes, Below (names ++ [key]) change)
    {result : JsValue}
    (applied : applyBelow (names ++ [key]).length changes (entries.get key) =
      some result) :
    applyBelow names.length changes (.object entries) =
      some (.object (entries.define key result)) := by
  induction changes generalizing entries with
  | nil =>
      cases applied
      rw [Record.define_get distinct isKey]
      rfl
  | cons change rest inductionHypothesis =>
      rw [applyBelow, List.foldlM_cons] at applied ⊢
      obtain ⟨middle, first, others⟩ := Option.bind_eq_some_iff.mp applied
      obtain ⟨place, path, whole⟩ := below change List.mem_cons_self
      rw [path, pointerNames_pointer, List.drop_left] at first
      have kept : ¬ (place = [] ∧ change.kind = .remove) := by
        rintro ⟨empty, removed⟩
        cases (whole empty).symm.trans removed
      have stepped : change.applyAt
          ((pointerNames change.path).drop names.length) (.object entries) =
            some (.object (entries.define key middle)) := by
        rw [path, pointerNames_pointer, List.append_assoc, List.drop_left,
          List.singleton_append, RevisionChange.applyAt, if_pos isKey,
          if_neg kept, first]
        rfl
      have found : (entries.define key middle).get key = middle := by simp
      have next := @inductionHypothesis (entries.define key middle)
        (Record.nodup_define distinct key middle)
        (Record.mem_keys_define.mpr (Or.inl isKey))
        (fun other member => below other (List.mem_cons_of_mem _ member))
        (by rw [found]; exact others)
      rw [Record.define_define isKey] at next
      rw [stepped]
      exact next

/-! ## Copies of contents -/

/-- A content that the boundary takes. -/
structure Held (value : JsValue) : Prop where
  formed : value.WellFormed
  admitted : collaborationBudgets.Admits value

/-- The property that the boundary does not copy. -/
abbrev lengthName : JsString :=
  js "length"

theorem mem_keys_copy
    {entries : Record}
    {key : JsString} :
    key ∈ Record.keys (inertCopyEntries entries) ↔
      key ∈ entries.keys ∧ key ≠ lengthName := by
  rw [inertCopyEntries_eq, Record.keys, List.map_map]
  simp only [List.mem_map, List.mem_filter, Function.comp_apply,
    decide_eq_true_eq, Record.keys]
  constructor
  · rintro ⟨entry, ⟨member, kept⟩, rfl⟩
    exact ⟨⟨entry, member, rfl⟩, kept⟩
  · rintro ⟨⟨entry, member, rfl⟩, kept⟩
    exact ⟨entry, ⟨member, kept⟩, rfl⟩

theorem get_copy
    {key : JsString}
    (kept : key ≠ lengthName)
    (entries : Record) :
    Record.get (inertCopyEntries entries) key =
      inertCopy (entries.get key) := by
  induction entries with
  | nil => rfl
  | cons entry rest inductionHypothesis =>
      obtain ⟨name, value⟩ := entry
      rw [inertCopyEntries, Record.get_cons]
      split
      · rename_i isLength
        rw [inductionHypothesis,
          if_neg fun same => kept (same.symm.trans isLength)]
      · rw [Record.get_cons, inductionHypothesis]
        split <;> rfl

namespace Held

variable {entries : Record}

theorem get
    (held : Held (.object entries))
    {key : JsString}
    (isKey : key ∈ entries.keys)
    (kept : key ≠ lengthName) :
    Held (entries.get key) :=
  ⟨held.formed.get isKey,
    held.admitted.entry _ (Record.mem_of_get isKey) kept⟩

theorem item
    {items : List JsValue}
    (held : Held (.array items))
    {item : JsValue}
    (member : item ∈ items) :
    Held item := by
  cases held.formed with
  | array formed =>
      exact ⟨formed item member, held.admitted.item item member⟩

theorem copy
    {value : JsValue}
    (held : Held value) :
    Held (inertCopy value) :=
  ⟨held.formed.inertCopy, held.admitted.inertCopy⟩

theorem present?
    {value : JsValue}
    (held : Held value) :
    (Operand.data (inertCopy value)).present? = some (inertCopy value) := by
  cases value with
  | undefined => cases held.admitted
  | _ => rfl

theorem equal
    {left right : JsValue}
    (leftHeld : Held left)
    (rightHeld : Held right) :
    (Operand.data (inertCopy left)).equal (.data (inertCopy right)) =
      sameInert (inertCopy left) (inertCopy right) :=
  Budgets.equalValues_of_inert leftHeld.copy.admitted rightHeld.copy.admitted
    (inert_inertCopy left) (inert_inertCopy right)

theorem same_self
    {value : JsValue}
    (held : Held value)
    (inert : Inert value) :
    sameInert value value = true := by
  induction held.formed with
  | array _ inductionHypothesis =>
      rw [sameInert, sameInertItems_iff, List.forall₂_same]
      intro item member
      exact inductionHypothesis item member (held.item member)
        (inert_array.mp inert item member)
  | @object entries distinct _ inductionHypothesis =>
      rw [sameInert_object_iff distinct distinct]
      refine ⟨fun _ => Iff.rfl, fun key isKey => ?_⟩
      obtain ⟨kept, inside⟩ := inert_entry inert _ (Record.mem_of_get isKey)
      exact inductionHypothesis _ (Record.mem_of_get isKey)
        (held.get isKey kept) inside
  | exotic => cases held.admitted
  | _ => simp [sameInert]

end Held

/-- Whether a value is an object that is no array. -/
abbrev isRecord (value : JsValue) : Bool :=
  (Operand.data value).recordObject

/--
Contents between which a difference leads.  Where both are objects, they have
the same of the inherited names and the same `length`; what is added or put in
place of something else has no `length` at any depth.
-/
inductive Patchable : JsValue → JsValue → Prop where
  | same {left right : JsValue} :
      sameInert left right = true → Patchable left right
  | replaced {left right : JsValue} :
      (isRecord left && isRecord right) = false →
      sameInert (inertCopy left) (inertCopy right) = false →
      Inert right →
      Patchable left right
  | objects {entries others : Record} :
      (∀ key, (Operand.inherited key).isSome ∨ key = lengthName →
        (key ∈ entries.keys ↔ key ∈ others.keys)) →
      (lengthName ∈ entries.keys →
        sameInert (entries.get lengthName) (others.get lengthName) = true) →
      (∀ key ∈ others.keys, key ∉ entries.keys → Inert (others.get key)) →
      (∀ key ∈ entries.keys, key ∈ others.keys → key ≠ lengthName →
        Patchable (entries.get key) (others.get key)) →
      Patchable (.object entries) (.object others)

variable {left right : JsValue}

/-! ## Differences of contents -/

/-- The changes between the copies of two contents. -/
abbrev difference (left right : JsValue) (path : JsString) :
    List RevisionChange :=
  diffValue (inertCopy left) (.data (inertCopy right)) path

/-- The replacement of a content. -/
def replacement (left right : JsValue) (path : JsString) : RevisionChange :=
  ⟨.replace, path, some left, some right⟩

theorem difference_of_copies
    (leftHeld : Held left)
    (rightHeld : Held right)
    (copies : sameInert (inertCopy left) (inertCopy right) = true)
    (path : JsString) :
    difference left right path = [] := by
  have equal := (leftHeld.equal rightHeld).trans copies
  cases left with
  | object entries =>
      rw [difference, inertCopy, diffValue_object, ← inertCopy, equal]
      rfl
  | _ =>
      rw [difference, inertCopy, diffValue, diffLeaf, ← inertCopy, equal]
      · rfl
      · intro entries isObject
        cases isObject

theorem difference_otherwise
    (leftHeld : Held left)
    (rightHeld : Held right)
    (otherwise : (isRecord left && isRecord right) = false)
    (path : JsString) :
    difference left right path =
      if sameInert (inertCopy left) (inertCopy right) then []
      else [replacement (inertCopy left) (inertCopy right) path] := by
  have whole : wholeChange (.data (inertCopy left)) (.data (inertCopy right))
      path = replacement (inertCopy left) (inertCopy right) path := by
    rw [wholeChange, leftHeld.present?, rightHeld.present?]
    rfl
  have equal := leftHeld.equal rightHeld
  cases left with
  | object entries =>
      have leaf : ¬ (Operand.data (inertCopy right)).recordObject = true := by
        cases right <;> simp_all [Operand.recordObject, inertCopy]
      rw [difference, inertCopy, diffValue_object, ← inertCopy, equal, whole,
        if_neg leaf]
  | _ =>
      rw [difference, inertCopy, diffValue, diffLeaf, ← inertCopy, equal,
        whole]
      intro entries isObject
      cases isObject

/-- The changes under a name of two objects. -/
def keyChanges (entries others : Record) (names : List JsString)
    (key : JsString) : List RevisionChange :=
  if key ∈ entries.keys then
    if key ∈ others.keys then
      difference (entries.get key) (others.get key) (pointer (names ++ [key]))
    else
      [⟨.remove, pointer (names ++ [key]), some (inertCopy (entries.get key)),
        none⟩]
  else
    [⟨.add, pointer (names ++ [key]), none,
      some (inertCopy (others.get key))⟩]

/-- The names of the copies of two objects. -/
abbrev allKeys (entries others : Record) : List JsString :=
  sortedKeys (.data (inertCopy (.object entries)))
    (.data (inertCopy (.object others)))

theorem mem_allKeys
    {entries others : Record}
    {key : JsString} :
    key ∈ allKeys entries others ↔
      (key ∈ entries.keys ∨ key ∈ others.keys) ∧ key ≠ lengthName := by
  rw [mem_sortedKeys, inertCopy, inertCopy]
  simp only [Operand.keys, mem_keys_copy]
  tauto

theorem read?_copy
    {entries others : Record}
    {key : JsString}
    (kept : key ≠ lengthName)
    (owned : (Operand.inherited key).isSome →
      (key ∈ entries.keys ↔ key ∈ others.keys))
    (someKey : key ∈ entries.keys ∨ key ∈ others.keys) :
    (Operand.data (inertCopy (.object entries))).read? key =
      if key ∈ entries.keys then some (.data (inertCopy (entries.get key)))
      else none := by
  rw [inertCopy, Operand.read?, get_copy kept]
  by_cases isKey : key ∈ entries.keys
  · rw [if_pos (mem_keys_copy.mpr ⟨isKey, kept⟩), if_pos isKey]
  · rw [if_neg fun copied => isKey (mem_keys_copy.mp copied).1, if_neg isKey]
    cases found : Operand.inherited key with
    | none => rfl
    | some operand =>
        have both := owned (by rw [found]; rfl)
        exact absurd (someKey.elim id both.mpr) isKey

theorem difference_objects
    {entries others : Record}
    (leftHeld : Held (.object entries))
    (rightHeld : Held (.object others))
    (owned : ∀ key, (Operand.inherited key).isSome →
      (key ∈ entries.keys ↔ key ∈ others.keys))
    (names : List JsString) :
    difference (.object entries) (.object others) (pointer names) =
      if sameInert (inertCopy (.object entries)) (inertCopy (.object others))
      then []
      else (allKeys entries others).flatMap
        (keyChanges entries others names) := by
  have equal := leftHeld.equal rightHeld
  have unfolded : ∀ path, difference (.object entries) (.object others) path =
      if (Operand.data (inertCopy (.object entries))).equal
        (.data (inertCopy (.object others))) then []
      else diffKeys (diffInside (inertCopyEntries entries))
        (.data (inertCopy (.object entries)))
        (.data (inertCopy (.object others))) path := by
    intro path
    rw [difference, inertCopy, diffValue_object, inertCopy]
    rfl
  rw [unfolded, equal]
  split
  · rfl
  · rw [diffKeys]
    refine List.flatMap_congr fun key member => ?_
    obtain ⟨someKey, kept⟩ := mem_allKeys.mp member
    rw [read?_copy kept (owned key) someKey,
      read?_copy kept (fun inherits => (owned key inherits).symm) someKey.symm,
      nextPath_pointer, keyChanges]
    by_cases isKey : key ∈ entries.keys
    · rw [if_pos isKey, if_pos isKey]
      by_cases isOther : key ∈ others.keys
      · rw [if_pos isOther, if_pos isOther]
        dsimp only
        rw [diffInside, if_pos (mem_keys_copy.mpr ⟨isKey, kept⟩),
          get_copy kept]
      · rw [if_neg isOther, if_neg isOther]
        simp only [(leftHeld.get isKey kept).present?]
    · have isOther : key ∈ others.keys := someKey.resolve_left isKey
      rw [if_neg isKey, if_neg isKey, if_pos isOther]
      simp only [Option.bind_some, (rightHeld.get isOther kept).present?]

theorem Patchable.same_of_copies
    (patchable : Patchable left right)
    (leftHeld : Held left)
    (rightHeld : Held right)
    (same : sameInert (inertCopy left) (inertCopy right) = true) :
    sameInert left right = true := by
  induction patchable with
  | same alike => exact alike
  | replaced _ differ _ =>
      rw [differ] at same
      cases same
  | @objects entries others owned sameLength _ _ inductionHypothesis =>
      have copies := same
      rw [inertCopy, inertCopy, sameInert_object_iff
        (by simpa [inertCopy] using leftHeld.copy.formed.distinct)
        (by simpa [inertCopy] using rightHeld.copy.formed.distinct)] at copies
      obtain ⟨sameKeys, values⟩ := copies
      have keys : ∀ key, key ∈ entries.keys ↔ key ∈ others.keys := by
        intro key
        by_cases kept : key = lengthName
        · exact owned key (.inr kept)
        · have copied := sameKeys key
          rw [mem_keys_copy, mem_keys_copy] at copied
          simpa [kept] using copied
      rw [sameInert_object_iff leftHeld.formed.distinct
        rightHeld.formed.distinct]
      refine ⟨keys, fun key isKey => ?_⟩
      by_cases kept : key = lengthName
      · subst kept
        exact sameLength isKey
      · have isOther := (keys key).mp isKey
        refine inductionHypothesis key isKey isOther kept
          (leftHeld.get isKey kept) (rightHeld.get isOther kept) ?_
        have inside := values key (mem_keys_copy.mpr ⟨isKey, kept⟩)
        rwa [get_copy kept, get_copy kept] at inside

/-! ## The loop over the names -/

/--
An object on the way from one content to another: under the names that remain
it is as it was, elsewhere as it shall be.
-/
structure Reaches (entries others : Record) (remaining : List JsString)
    (current : Record) : Prop where
  distinct : current.keys.Nodup
  waiting : ∀ key ∈ remaining,
    (key ∈ current.keys ↔ key ∈ entries.keys) ∧
      current.get key = entries.get key
  settled : ∀ key ∉ remaining,
    (key ∈ current.keys ↔ key ∈ others.keys) ∧
      (key ∈ others.keys →
        sameInert (current.get key) (others.get key) = true)

namespace Reaches

variable {entries others : Record}

theorem start
    (distinct : entries.keys.Nodup)
    (both : lengthName ∈ entries.keys ↔ lengthName ∈ others.keys)
    (sameLength : lengthName ∈ entries.keys →
      sameInert (entries.get lengthName) (others.get lengthName) = true) :
    Reaches entries others (allKeys entries others) entries := by
  refine ⟨distinct, fun key _ => ⟨Iff.rfl, rfl⟩, fun key none => ?_⟩
  by_cases kept : key = lengthName
  · subst kept
    exact ⟨both, fun isKey => sameLength (both.mpr isKey)⟩
  · have neither := fun either => none (mem_allKeys.mpr ⟨either, kept⟩)
    have notKey : key ∉ entries.keys := fun isKey => neither (Or.inl isKey)
    have notOther : key ∉ others.keys := fun isKey => neither (Or.inr isKey)
    exact ⟨iff_of_false notKey notOther, fun isKey => absurd isKey notOther⟩

variable {current : Record} {key : JsString} {rest : List JsString}

section

variable (reaches : Reaches entries others (key :: rest) current)
  (fresh : key ∉ rest)

include reaches fresh

/-- One name is settled, and the others are left alone. -/
theorem settle
    {next : Record}
    (distinct : next.keys.Nodup)
    (frame : ∀ other, other ≠ key →
      (other ∈ next.keys ↔ other ∈ current.keys) ∧
        next.get other = current.get other)
    (there : key ∈ next.keys ↔ key ∈ others.keys)
    (same : key ∈ others.keys →
      sameInert (next.get key) (others.get key) = true) :
    Reaches entries others rest next := by
  refine ⟨distinct, fun other waits => ?_, fun other done => ?_⟩
  · have different : other ≠ key := fun isKey => fresh (isKey ▸ waits)
    obtain ⟨sameKey, sameValue⟩ :=
      reaches.waiting other (List.mem_cons_of_mem _ waits)
    exact ⟨(frame other different).1.trans sameKey,
      (frame other different).2.trans sameValue⟩
  · by_cases isKey : other = key
    · subst isKey
      exact ⟨there, same⟩
    · obtain ⟨sameKey, sameValue⟩ :=
        reaches.settled other (by simp [isKey, done])
      rw [(frame other isKey).1, (frame other isKey).2]
      exact ⟨sameKey, sameValue⟩

theorem define
    (isOther : key ∈ others.keys)
    {value : JsValue}
    (same : sameInert value (others.get key) = true) :
    Reaches entries others rest (current.define key value) := by
  refine reaches.settle fresh (Record.nodup_define reaches.distinct key value)
    (fun other different => ?_) ?_ fun _ => by simpa using same
  · rw [Record.mem_keys_define, Record.get_define, if_neg different.symm]
    simp [different]
  · rw [Record.mem_keys_define]
    simp [isOther]

theorem erase
    (notOther : key ∉ others.keys) :
    Reaches entries others rest (current.erase key) := by
  refine reaches.settle fresh ?_ (fun other different => ?_) ?_
    fun isOther => absurd isOther notOther
  · rw [Record.keys_erase]
    exact reaches.distinct.filter _
  · rw [Record.keys_erase, Record.get_erase_of_ne different.symm]
    simp [different]
  · rw [Record.keys_erase]
    simp [notOther]

end

end Reaches

/-- The changes are at or below a property and lead from its content to another. -/
def Leads (left right : JsValue) (names : List JsString) : Prop :=
  (∀ change ∈ difference left right (pointer names), Below names change) ∧
    ∃ result,
      applyBelow names.length (difference left right (pointer names)) left =
          some result ∧
        sameInert result right = true

theorem below_keyChanges
    {entries others : Record}
    {names : List JsString}
    {key : JsString}
    (inside : key ∈ entries.keys → key ∈ others.keys →
      Leads (entries.get key) (others.get key) (names ++ [key])) :
    ∀ change ∈ keyChanges entries others names key, Below names change := by
  intro change member
  rw [keyChanges] at member
  split at member
  · rename_i isKey
    split at member
    · rename_i isOther
      exact ((inside isKey isOther).1 change member).outside
    · cases List.mem_singleton.mp member
      exact ⟨[key], rfl, by simp⟩
  · cases List.mem_singleton.mp member
    exact ⟨[key], rfl, by simp⟩

theorem applyBelow_keyChanges
    {entries others : Record}
    {names : List JsString}
    {key : JsString}
    {rest : List JsString}
    {current : Record}
    (inside : key ∈ entries.keys → key ∈ others.keys →
      Leads (entries.get key) (others.get key) (names ++ [key]))
    (added : key ∈ others.keys → key ∉ entries.keys →
      Held (others.get key) ∧ Inert (others.get key))
    (someKey : key ∈ entries.keys ∨ key ∈ others.keys)
    (fresh : key ∉ rest)
    (reaches : Reaches entries others (key :: rest) current) :
    ∃ next,
      applyBelow names.length (keyChanges entries others names key)
          (.object current) = some (.object next) ∧
        Reaches entries others rest next := by
  obtain ⟨sameKey, sameValue⟩ := reaches.waiting key List.mem_cons_self
  rw [keyChanges]
  by_cases isKey : key ∈ entries.keys
  · have isCurrent := sameKey.mpr isKey
    rw [if_pos isKey]
    by_cases isOther : key ∈ others.keys
    · rw [if_pos isOther]
      obtain ⟨below, result, applied, same⟩ := inside isKey isOther
      refine ⟨current.define key result, ?_, reaches.define fresh isOther same⟩
      rw [← sameValue] at applied below ⊢
      exact applyBelow_inside reaches.distinct isCurrent below applied
    · rw [if_neg isOther]
      refine ⟨current.erase key, ?_, reaches.erase fresh isOther⟩
      simp [applyBelow, pointerNames_pointer, RevisionChange.applyAt,
        isCurrent]
  · have isOther := someKey.resolve_left isKey
    have notCurrent : key ∉ current.keys := fun old => isKey (sameKey.mp old)
    obtain ⟨held, inert⟩ := added isOther isKey
    have copied : inertCopy (others.get key) = others.get key := inert
    rw [if_neg isKey, copied]
    refine ⟨current.define key (others.get key), ?_,
      reaches.define fresh isOther (held.same_self inert)⟩
    simp [applyBelow, pointerNames_pointer, RevisionChange.applyAt, notCurrent]

theorem applyBelow_keys
    {entries others : Record}
    {names : List JsString}
    (inside : ∀ key ∈ allKeys entries others, key ∈ entries.keys →
      key ∈ others.keys →
        Leads (entries.get key) (others.get key) (names ++ [key]))
    (added : ∀ key ∈ allKeys entries others, key ∈ others.keys →
      key ∉ entries.keys → Held (others.get key) ∧ Inert (others.get key))
    {keys : List JsString}
    (distinct : keys.Nodup)
    (someKeys : ∀ key ∈ keys, key ∈ allKeys entries others)
    {current : Record}
    (reaches : Reaches entries others keys current) :
    ∃ final,
      applyBelow names.length (keys.flatMap (keyChanges entries others names))
          (.object current) = some (.object final) ∧
        Reaches entries others [] final := by
  induction keys generalizing current with
  | nil => exact ⟨current, rfl, reaches⟩
  | cons key rest inductionHypothesis =>
      obtain ⟨fresh, restDistinct⟩ := List.nodup_cons.mp distinct
      have isKey := someKeys key List.mem_cons_self
      obtain ⟨next, applied, nextReaches⟩ := applyBelow_keyChanges
        (inside key isKey) (added key isKey) (mem_allKeys.mp isKey).1 fresh
        reaches
      obtain ⟨final, restApplied, finalReaches⟩ :=
        inductionHypothesis restDistinct
          (fun other member => someKeys other (List.mem_cons_of_mem _ member))
          nextReaches
      refine ⟨final, ?_, finalReaches⟩
      rw [List.flatMap_cons, applyBelow_append, applied]
      exact restApplied

theorem Held.same_copies
    (leftHeld : Held left)
    (rightHeld : Held right)
    (same : sameInert left right = true) :
    sameInert (inertCopy left) (inertCopy right) = true := by
  induction leftHeld.formed generalizing right with
  | @array items _ inductionHypothesis =>
      cases rightHeld.formed with
      | @array others _ =>
          rw [sameInert, sameInertItems_iff, List.forall₂_iff_get] at same
          rw [inertCopy, inertCopy, inertCopyItems_eq_map,
            inertCopyItems_eq_map, sameInert, sameInertItems_iff,
            List.forall₂_map_left_iff, List.forall₂_map_right_iff,
            List.forall₂_iff_get]
          refine ⟨same.1, fun index bound otherBound => ?_⟩
          exact inductionHypothesis _ (List.get_mem _ _)
            (leftHeld.item (List.get_mem _ _))
            (rightHeld.item (List.get_mem _ _))
            (same.2 index bound otherBound)
      | _ => cases same
  | @object entries distinct _ inductionHypothesis =>
      cases rightHeld.formed with
      | @object others othersDistinct _ =>
          obtain ⟨sameKeys, values⟩ :=
            (sameInert_object_iff distinct othersDistinct).mp same
          rw [inertCopy, inertCopy, sameInert_object_iff
            leftHeld.copy.formed.distinct rightHeld.copy.formed.distinct]
          refine ⟨fun key => ?_, fun key copied => ?_⟩
          · rw [mem_keys_copy, mem_keys_copy, sameKeys key]
          · obtain ⟨isKey, kept⟩ := mem_keys_copy.mp copied
            rw [get_copy kept, get_copy kept]
            exact inductionHypothesis _ (Record.mem_of_get isKey)
              (leftHeld.get isKey kept)
              (rightHeld.get ((sameKeys key).mp isKey) kept) (values key isKey)
      | _ => cases same
  | _ => cases right <;> simp_all [sameInert, inertCopy]

theorem leads_of_same
    (leftHeld : Held left)
    (rightHeld : Held right)
    (same : sameInert left right = true)
    (names : List JsString) :
    Leads left right names := by
  rw [Leads, difference_of_copies leftHeld rightHeld
    (leftHeld.same_copies rightHeld same)]
  exact ⟨by simp, left, rfl, same⟩

/-- The changes of two objects lead to the other if those below do. -/
theorem leads_objects
    {entries others : Record}
    (leftHeld : Held (.object entries))
    (rightHeld : Held (.object others))
    (owned : ∀ key, (Operand.inherited key).isSome ∨ key = lengthName →
      (key ∈ entries.keys ↔ key ∈ others.keys))
    (sameLength : lengthName ∈ entries.keys →
      sameInert (entries.get lengthName) (others.get lengthName) = true)
    (added : ∀ key ∈ others.keys, key ∉ entries.keys →
      Inert (others.get key))
    (differ : ¬ sameInert (inertCopy (.object entries))
      (inertCopy (.object others)) = true)
    {names : List JsString}
    (inside : ∀ key ∈ allKeys entries others, key ∈ entries.keys →
      key ∈ others.keys →
        Leads (entries.get key) (others.get key) (names ++ [key])) :
    Leads (.object entries) (.object others) names := by
  obtain ⟨final, applied, reached⟩ := applyBelow_keys inside
    (fun key member isOther isNew =>
      ⟨rightHeld.get isOther (mem_allKeys.mp member).2,
        added key isOther isNew⟩)
    (nodup_sortedKeys _ _) (fun _ member => member)
    (Reaches.start leftHeld.formed.distinct (owned lengthName (.inr rfl))
      sameLength)
  rw [Leads, difference_objects leftHeld rightHeld
    (fun key inherits => owned key (.inl inherits)), if_neg differ]
  refine ⟨fun change member => ?_, .object final, applied, ?_⟩
  · obtain ⟨key, isKey, here⟩ := List.mem_flatMap.mp member
    exact below_keyChanges (inside key isKey) change here
  · have settled := fun key => reached.settled key (by simp)
    rw [sameInert_object_iff reached.distinct rightHeld.formed.distinct]
    exact ⟨fun key => (settled key).1,
      fun key isKey => (settled key).2 ((settled key).1.mp isKey)⟩

/-- The changes between patchable contents lead from the one to the other. -/
theorem Patchable.leads
    (patchable : Patchable left right)
    (leftHeld : Held left)
    (rightHeld : Held right)
    (names : List JsString) :
    Leads left right names := by
  induction patchable generalizing names with
  | same alike => exact leads_of_same leftHeld rightHeld alike names
  | @replaced left right otherwise differ inert =>
      have copied : inertCopy right = right := inert
      rw [Leads, difference_otherwise leftHeld rightHeld otherwise, differ]
      refine ⟨fun change member => ?_, right, ?_, rightHeld.same_self inert⟩
      · cases List.mem_singleton.mp member
        exact ⟨[], by simp [replacement], fun _ => rfl⟩
      · simp [applyBelow, replacement, pointerNames_pointer,
          RevisionChange.applyAt, copied]
  | @objects entries others owned sameLength added inside
      inductionHypothesis =>
      have whole := Patchable.objects owned sameLength added inside
      by_cases copies : sameInert (inertCopy (.object entries))
          (inertCopy (.object others)) = true
      · exact leads_of_same leftHeld rightHeld
          (whole.same_of_copies leftHeld rightHeld copies) names
      · refine leads_objects leftHeld rightHeld owned sameLength added copies
          fun key member isKey isOther => ?_
        have kept := (mem_allKeys.mp member).2
        exact inductionHypothesis key isKey isOther kept
          (leftHeld.get isKey kept) (rightHeld.get isOther kept) _

/-- There are no changes exactly between equal contents. -/
theorem Patchable.difference_eq_nil_iff
    (patchable : Patchable left right)
    (leftHeld : Held left)
    (rightHeld : Held right) :
    difference left right [] = [] ↔ sameInert left right = true := by
  constructor
  · intro none
    obtain ⟨-, result, applied, same⟩ :=
      patchable.leads leftHeld rightHeld []
    rw [show pointer [] = [] from rfl, none] at applied
    cases applied
    exact same
  · intro same
    exact difference_of_copies leftHeld rightHeld
      (leftHeld.same_copies rightHeld same) []

end Selene.History
