import Selene.JsValue
import Selene.JsonTextSize

/-!
# Literals and enumerations

Tests of an untyped value against a string literal or against `undefined`, and
the class of enumerations whose members are string literals.  A value names a
member of an enumeration exactly when it is the text of that member.
-/

namespace Js

/-- The value is this string. -/
def IsText (value : JsValue) (expected : JsString) : Prop :=
  match value with
  | .string text => text = expected
  | _ => False

instance (value : JsValue) (expected : JsString) :
    Decidable (IsText value expected) := by
  unfold IsText
  split <;> infer_instance

@[simp] theorem isText_string
    {text expected : JsString} :
    IsText (.string text) expected ↔ text = expected :=
  Iff.rfl

theorem IsText.eq
    {value : JsValue}
    {expected : JsString}
    (isText : IsText value expected) :
    value = .string expected := by
  unfold IsText at isText
  split at isText
  · rw [isText]
  · exact isText.elim

/-- `value === undefined`. -/
def IsUndefined (value : JsValue) : Prop :=
  match value with
  | .undefined => True
  | _ => False

instance (value : JsValue) : Decidable (IsUndefined value) := by
  unfold IsUndefined
  split <;> infer_instance

@[simp] theorem isUndefined_undefined : IsUndefined .undefined :=
  trivial

@[simp] theorem not_isUndefined_string (text : JsString) :
    ¬ IsUndefined (.string text) :=
  id

/-- An enumeration of short, plain string literals. -/
class Literal (α : Type) where
  members : List α
  name : α → String
  complete : ∀ member, member ∈ members
  injective : Function.Injective name
  plainName : ∀ member, PlainText (js (name member))
  nameLength :
    ∀ member, 1 ≤ (js (name member)).length ∧ (js (name member)).length ≤ 32

namespace Literal

variable {α : Type} [Literal α]

/-- The text of a member. -/
def text (member : α) : JsString :=
  js (name member)

theorem text_injective :
    Function.Injective (text : α → JsString) :=
  js_injective.comp injective

theorem plain (member : α) : PlainText (text member) :=
  plainName member

theorem length_bounds (member : α) :
    1 ≤ (text member).length ∧ (text member).length ≤ 32 :=
  nameLength member

theorem utf8Length_le (member : α) : utf8Length (text member) ≤ 96 := by
  have bounds := length_bounds member
  have bytes := Js.utf8Length_le (text member)
  omega

/-- The member that a string names. -/
def parse (value : JsValue) : Option α :=
  members.find? fun member => IsText value (text member)

theorem parse_eq_some
    {value : JsValue}
    {member : α} :
    parse value = some member ↔ value = .string (text member) := by
  constructor
  · intro found
    have matched := List.find?_some found
    simp only [decide_eq_true_eq] at matched
    exact matched.eq
  · rintro rfl
    have isNamed :
        (parse (.string (text member)) : Option α).isSome := by
      rw [parse, List.find?_isSome]
      exact ⟨member, complete member, by simp⟩
    obtain ⟨other, found⟩ := Option.isSome_iff_exists.mp isNamed
    have matched := List.find?_some found
    simp only [isText_string, decide_eq_true_eq] at matched
    rw [found, text_injective matched]

@[simp] theorem parse_text (member : α) :
    parse (.string (text member)) = some member :=
  parse_eq_some.mpr rfl

end Literal

end Js
