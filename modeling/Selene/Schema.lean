import Selene.Codec

/-!
# Schemas

A schema reads an untyped value and answers the data it stands for, or nothing
when the value is not accepted.  Checked texts and checked lists carry the check
they passed, so what is proved of a check holds of all data that was read.
-/

namespace Js

/-- A reader of untyped values. -/
abbrev Schema (α : Type) :=
  JsValue → Option α

/-- Texts that pass a check. -/
abbrev Checked (valid : JsString → Bool) : Type :=
  { text : JsString // valid text = true }

namespace Schema

variable {α : Type}

/-- Any string. -/
def string : Schema JsString
  | .string text => some text
  | _ => none

/-- Strings that pass a check. -/
def text (valid : JsString → Bool) : Schema (Checked valid)
  | .string text =>
      if holds : valid text = true then some ⟨text, holds⟩ else none
  | _ => none

/-- `boolean()`. -/
def boolean : Schema Bool
  | .bool value => some value
  | _ => none

/-- Members of an enumeration. -/
def choice (α : Type) [Literal α] : Schema α :=
  Literal.parse

/-- One string literal. -/
def literal (expected : String) : Schema Unit := fun value =>
  Codec.literal value expected

/-- `array(item)`. -/
def array (item : Schema α) : Schema (List α)
  | .array items => items.mapM item
  | _ => none

/-- `optional(schema)`. -/
def optional (schema : Schema α) : Schema (Option α)
  | .undefined => some none
  | value => (schema value).map some

/-- `_default(schema, () => value)`. -/
def orDefault (schema : Schema α) (default : α) : Schema α
  | .undefined => some default
  | value => schema value

/-- `strictObject`: an object without other properties than the named ones. -/
def strictObject (names : List String) (fields : Record → Option α) :
    Schema α := fun value => do
  let record ← Codec.strictObject value names
  fields record

end Schema

end Js
