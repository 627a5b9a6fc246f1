import Selene.JsLiteral

/-!
# Strict objects and literal properties

What a schema asks of an object before it reads its properties: no names beyond
the listed ones, and a property of one fixed text.
-/

namespace Js

namespace Codec

/-- An object that has no other properties than the named ones. -/
def strictObject (value : JsValue) (names : List String) : Option Record :=
  match value with
  | .object record =>
      if ∀ key ∈ Record.keys record, key ∈ names.map js then some record
      else none
  | _ => none

/-- A literal property. -/
def literal (value : JsValue) (expected : String) : Option Unit :=
  if IsText value (js expected) then some () else none

@[simp] theorem literal_js (expected : String) :
    literal (.string (js expected)) expected = some () :=
  if_pos rfl

end Codec

end Js
