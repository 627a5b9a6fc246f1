import Selene.JsLiteral
import Selene.JsonData

/-!
# Operators on plain data

What the operators of the language do with a value that may be of any type:
`===`, the members of a `Set`, property access, conversion to text, and the
order in which the properties of an object are enumerated.  The data is a copy
without prototypes, as boundary functions make it; an operation that throws
there is `none`.
-/

namespace Js

namespace JsNumber

/-- `first === second`. -/
def same : JsNumber → JsNumber → Bool
  | .nan, _ => false
  | _, .nan => false
  | .infinite first, .infinite second => first == second
  | first, second => first.finiteValue? == second.finiteValue?

/-- `first < second`. -/
def below : JsNumber → JsNumber → Bool
  | .nan, _ => false
  | _, .nan => false
  | .infinite true, second => second != .infinite true
  | _, .infinite true => false
  | .infinite false, _ => false
  | _, .infinite false => true
  | first, second =>
      decide (first.finiteValue?.getD 0 < second.finiteValue?.getD 0)

/-- `Number.isInteger`. -/
def isInteger (number : JsNumber) : Bool :=
  number.finiteValue?.any fun value => value.den == 1

end JsNumber

namespace JsValue

/-- `first === second`; two objects of a copy are never the same object. -/
def strictEquals : JsValue → JsValue → Bool
  | .undefined, .undefined => true
  | .null, .null => true
  | .bool first, .bool second => first == second
  | .number first, .number second => first.same second
  | .string first, .string second => decide (first = second)
  | _, _ => false

/-- `new Set(values).size === values.length`, for values other than `NaN`. -/
def allDistinct : List JsValue → Bool
  | [] => true
  | value :: rest => !rest.any value.strictEquals && allDistinct rest

/-- A value as a condition. -/
def truthy : JsValue → Bool
  | .undefined => false
  | .null => false
  | .bool value => value
  | .number value => !(value.same (.ofNat 0) || value == .nan)
  | .string value => !value.isEmpty
  | .array _ => true
  | .object _ => true
  | .exotic => true

/-- A plain object. -/
def isRecord : JsValue → Bool
  | .object _ => true
  | _ => false

/-- `typeof value === 'string'`. -/
def isString : JsValue → Bool
  | .string _ => true
  | _ => false

/-- `typeof value === 'boolean'`. -/
def isBoolean : JsValue → Bool
  | .bool _ => true
  | _ => false

/-- `Number.isFinite(value)`. -/
def isFiniteNumber : JsValue → Bool
  | .number value => value.isFinite
  | _ => false

/-- The properties of an object; other values have none of interest. -/
def entries : JsValue → Record
  | .object entries => entries
  | _ => []

/-- The elements, where only arrays have the methods that are called. -/
def elements? : JsValue → Option (List JsValue)
  | .array items => some items
  | _ => none

/-- `value ?? fallback`. -/
def orElse : JsValue → JsValue → JsValue
  | .undefined, fallback => fallback
  | .null, fallback => fallback
  | value, _ => value

/--
`value.name`.  Of the inherited members only the method `values` of arrays
shares its name with a property that is read; a method has the length zero.
-/
def property? (value : JsValue) (name : JsString) : Option JsValue :=
  match value with
  | .undefined => none
  | .null => none
  | .object entries => some (Record.get entries name)
  | .array items =>
      if name = js "length" then some (.number (.ofNat items.length))
      else if name = js "values" then some .exotic
      else some .undefined
  | .string text =>
      if name = js "length" then some (.number (.ofNat text.length))
      else some .undefined
  | .exotic =>
      if name = js "length" then some (.number (.ofNat 0))
      else some .undefined
  | _ => some .undefined

/-- `Object.keys(value)`. -/
def ownKeys? : JsValue → Option (List JsString)
  | .undefined => none
  | .null => none
  | .object entries => some (Record.keys entries)
  | .array items => some ((List.range items.length).map decimalDigits)
  | .string text => some ((List.range text.length).map decimalDigits)
  | _ => some []

section Text

variable (format : NumberFormat)

mutual

/-- `String(value)`; an object without a prototype cannot be converted. -/
def toText? : JsValue → Option JsString
  | .undefined => some (js "undefined")
  | .null => some (js "null")
  | .bool true => some (js "true")
  | .bool false => some (js "false")
  | .number value => some ((format.jsonText value).getD (js "NaN"))
  | .string value => some value
  | .array items => (itemTexts? items).map (js ",").intercalate
  | .object _ => none
  | .exotic => none

/-- The texts that `Array.prototype.join` joins. -/
def itemTexts? : List JsValue → Option (List JsString)
  | [] => some []
  | item :: rest =>
      (match item with
        | .undefined => some []
        | .null => some []
        | other => toText? other).bind fun text =>
          (itemTexts? rest).map (text :: ·)

end

/-- `values.join(separator)`. -/
def joined? (values : List JsValue) : Option JsString :=
  toText? format (.array values)

end Text

end JsValue

namespace Record

/-- `{ ...base, ...more }`. -/
def spread (base more : Record) : Record :=
  more.foldl (fun record entry => record.define entry.1 entry.2) base

/-- `delete record[name]`. -/
def erase (record : Record) (name : JsString) : Record :=
  record.filter fun entry => decide (entry.1 ≠ name)

/-- The number a canonical array index stands for. -/
def arrayIndex? (name : JsString) : Option Nat :=
  let value := name.foldl (fun value unit => value * 10 + (unit.val - 48)) 0
  if decimalDigits value = name ∧ value < 2 ^ 32 - 1 then some value else none

/-- `Object.entries`: indices in increasing order, then the other names. -/
def enumerated {α : Type} (entries : List (JsString × α)) :
    List (JsString × α) :=
  sortByKey (fun entry => (arrayIndex? entry.1).getD 0)
      (entries.filter fun entry => (arrayIndex? entry.1).isSome) ++
    entries.filter fun entry => (arrayIndex? entry.1).isNone

theorem get_erase_of_ne
    {name key : JsString}
    (different : name ≠ key)
    (record : Record) :
    (record.erase name).get key = record.get key := by
  induction record with
  | nil => rfl
  | cons entry rest inductionHypothesis =>
      obtain ⟨other, value⟩ := entry
      rw [erase, List.filter_cons]
      by_cases deleted : other = name
      · simp only [deleted, ne_eq, not_true, decide_false, Bool.false_eq_true,
          ↓reduceIte, get_cons, if_neg different]
        exact inductionHypothesis
      · simp only [deleted, ne_eq, not_false_eq_true, decide_true, ↓reduceIte,
          get_cons]
        split
        · rfl
        · exact inductionHypothesis

end Record

end Js
