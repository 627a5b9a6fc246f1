import Selene.JsonText
import Selene.JsValue

/-!
# Values of JSON documents

A typed record is written once, as a document; `Json.toJs` is the untyped value
that the document denotes.  `orNull` and `optionalEntry` are the two ways an
optional field is written: as `null` in a positional tuple, or not at all in an
object literal.
-/

namespace Js

namespace Json

mutual

/-- The value a document denotes. -/
def toJs : Json Nat → JsValue
  | .null => .null
  | .bool value => .bool value
  | .number value => .number (.ofNat value)
  | .text value => .string value
  | .array items => .array (toJsItems items)
  | .object entries => .object (toJsEntries entries)

/-- The values of the items. -/
def toJsItems : List (Json Nat) → List JsValue
  | [] => []
  | item :: rest => toJs item :: toJsItems rest

/-- The properties of the entries. -/
def toJsEntries : List (JsString × Json Nat) → Record
  | [] => []
  | (name, value) :: rest => (name, toJs value) :: toJsEntries rest

end

@[simp] theorem toJs_text (value : JsString) :
    toJs (.text value) = .string value :=
  rfl

@[simp] theorem toJs_number (value : Nat) :
    toJs (.number value) = .number (.ofNat value) :=
  rfl

@[simp] theorem toJs_object (entries : List (JsString × Json Nat)) :
    toJs (.object entries) = .object (toJsEntries entries) :=
  rfl

theorem toJsItems_eq_map (items : List (Json Nat)) :
    toJsItems items = items.map toJs :=
  eq_map_of_cons rfl (fun _ _ => rfl) items

@[simp] theorem toJs_array (items : List (Json Nat)) :
    toJs (.array items) = .array (items.map toJs) := by
  rw [toJs, toJsItems_eq_map]

@[simp] theorem toJsEntries_nil : toJsEntries [] = [] :=
  rfl

@[simp] theorem toJsEntries_cons
    (name : JsString)
    (value : Json Nat)
    (rest : List (JsString × Json Nat)) :
    toJsEntries ((name, value) :: rest) =
      (name, toJs value) :: toJsEntries rest :=
  rfl

@[simp] theorem toJsEntries_append
    (first second : List (JsString × Json Nat)) :
    toJsEntries (first ++ second) =
      toJsEntries first ++ toJsEntries second := by
  induction first with
  | nil => rfl
  | cons entry rest inductionHypothesis =>
      obtain ⟨name, value⟩ := entry
      simp [inductionHypothesis]

variable {ν : Type}

/-- `value ?? null`, for a text. -/
def orNull : Option JsString → Json ν
  | none => .null
  | some value => .text value

theorem orNull_injective :
    Function.Injective (orNull : Option JsString → Json ν) := by
  intro first second same
  cases first <;> cases second <;> simp_all [orNull]

@[simp] theorem orNull_inj {first second : Option JsString} :
    (orNull first : Json ν) = orNull second ↔ first = second :=
  orNull_injective.eq_iff

/-- The text of a checked string. -/
def word {valid : JsString → Prop} (value : { text // valid text }) :
    Json ν :=
  .text value.val

@[simp] theorem toJs_word
    {valid : JsString → Prop}
    (value : { text // valid text }) :
    toJs (word value) = .string value.val :=
  rfl

/-- A property that is left out when the value is absent. -/
def optionalEntry (name : JsString) :
    Option (Json ν) → List (JsString × Json ν)
  | none => []
  | some value => [(name, value)]

@[simp] theorem toJsEntries_optionalEntry
    (name : JsString)
    (value : Option (Json Nat)) :
    toJsEntries (optionalEntry name value) =
      Record.optionalEntry name (value.map toJs) := by
  cases value <;> rfl

end Json

end Js
