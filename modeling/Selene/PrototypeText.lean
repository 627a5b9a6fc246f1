import Selene.JsonData
import Selene.PrototypeRestore

/-!
# Texts that are read back

`JSON.parse` of the text that `JSON.stringify` writes for plain data without a
negative zero is that data, with its properties in the order they were written.
-/

namespace Selene.Prototype

open Js

/-- Plain JSON data whose numbers have one zero. -/
inductive IsExact : JsValue → Prop where
  | null : IsExact .null
  | bool (value : Bool) : IsExact (.bool value)
  | number {value : ℚ} : IsDouble value → IsExact (.number (.finite value))
  | string (value : JsString) : IsExact (.string value)
  | array {items : List JsValue} :
      (∀ item ∈ items, IsExact item) → IsExact (.array items)
  | object {entries : Record} :
      entries.keys.Nodup →
      (∀ entry ∈ entries, IsExact entry.2) →
      IsExact (.object entries)

mutual

/-- The document of a value, with its properties as they are. -/
noncomputable def plainDocument : JsValue → Json Double
  | .null => .null
  | .bool value => .bool value
  | .number value => .number value.toDouble
  | .string value => .text value
  | .array items => .array (plainItems items)
  | .object entries => .object (plainEntries entries)
  | .undefined => .null
  | .exotic => .null

/-- The documents of the items. -/
noncomputable def plainItems : List JsValue → List (Json Double)
  | [] => []
  | item :: rest => plainDocument item :: plainItems rest

/-- The documents of the entries. -/
noncomputable def plainEntries : Record → List (JsString × Json Double)
  | [] => []
  | (name, value) :: rest => (name, plainDocument value) :: plainEntries rest

end

theorem plainItems_eq_map (items : List JsValue) :
    plainItems items = items.map plainDocument :=
  eq_map_of_cons rfl (fun _ _ => rfl) items

theorem plainEntries_eq_map (entries : Record) :
    plainEntries entries =
      entries.map fun entry => (entry.1, plainDocument entry.2) :=
  eq_map_of_cons rfl (fun _ _ => rfl) entries

theorem stringifyItems_eq
    {format : NumberFormat}
    {items : List JsValue}
    (each : ∀ item ∈ items, stringify format item =
      some (Json.stringify format.doubles (plainDocument item)))
    (first : Bool) :
    stringifyItems format first items =
      Json.stringifyItems format.doubles first (plainItems items) := by
  induction items generalizing first with
  | nil => rfl
  | cons item rest inductionHypothesis =>
      rw [stringifyItems, plainItems, Json.stringifyItems,
        each item List.mem_cons_self, Option.getD_some,
        inductionHypothesis fun other member =>
          each other (List.mem_cons_of_mem _ member)]

theorem stringifyEntries_eq
    {format : NumberFormat}
    {entries : Record}
    (each : ∀ entry ∈ entries, stringify format entry.2 =
      some (Json.stringify format.doubles (plainDocument entry.2)))
    (first : Bool) :
    stringifyEntries format first entries =
      Json.stringifyEntries format.doubles first (plainEntries entries) := by
  induction entries generalizing first with
  | nil => rfl
  | cons entry rest inductionHypothesis =>
      obtain ⟨name, value⟩ := entry
      have written := each (name, value) List.mem_cons_self
      dsimp only at written
      rw [stringifyEntries, plainEntries, Json.stringifyEntries]
      simp only [written]
      rw [inductionHypothesis fun other member =>
        each other (List.mem_cons_of_mem _ member)]

variable {value : JsValue}

section

variable (format : NumberFormat) (exact_ : IsExact value)

include exact_

theorem stringify_eq :
    stringify format value =
      some (Json.stringify format.doubles (plainDocument value)) := by
  induction exact_ with
  | null => rfl
  | bool value =>
      cases value with
      | false => rfl
      | true => rfl
  | @number value double =>
      have asDouble := @toDouble_val (.finite value) _ rfl double
      rw [stringify, plainDocument, asDouble]
      rfl
  | string value => rfl
  | array _ inductionHypothesis =>
      rw [stringify, plainDocument, Json.stringify,
        stringifyItems_eq inductionHypothesis]
  | object _ _ inductionHypothesis =>
      rw [stringify, plainDocument, Json.stringify,
        stringifyEntries_eq inductionHypothesis]

theorem readBack_plainDocument :
    readBack format (plainDocument value) = value := by
  induction exact_ with
  | null => rfl
  | bool value => rfl
  | @number value double =>
      rw [plainDocument, @toDouble_val (.finite value) _ rfl double]
      exact congrArg JsValue.number (format.read_toText double)
  | string value => rfl
  | @array items _ inductionHypothesis =>
      rw [plainDocument, readBack_array, plainItems_eq_map, List.map_map]
      exact congrArg JsValue.array
        ((List.map_congr_left inductionHypothesis).trans
          (List.map_id' items))
  | @object entries distinct _ inductionHypothesis =>
      have same : ((plainEntries entries).map fun entry =>
          (entry.1, readBack format entry.2)) = entries := by
        rw [plainEntries_eq_map, List.map_map]
        refine (List.map_congr_left fun entry member => ?_).trans
          (List.map_id' entries)
        exact Prod.ext rfl (inductionHypothesis entry member)
      rw [plainDocument, readBack_object, same,
        Record.ofEntries_of_distinct distinct]

theorem jsonParse_stringify_exact :
    ∃ text, stringify format value = some text ∧
      jsonParse format text = some value :=
  ⟨_, stringify_eq format exact_, by
    rw [jsonParse_stringify, readBack_plainDocument format exact_]⟩

end

end Selene.Prototype
