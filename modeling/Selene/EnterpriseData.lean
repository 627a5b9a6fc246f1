import Selene.JsDate
import Selene.JsValue
import Selene.Rejection

/-!
# Public data of enterprise contracts

Values from outside are copied under budgets for their records, arrays and
texts before a contract reads them, and then checked field by field.
-/

namespace Selene.Enterprise

open Js

/-! ## Errors -/

/-- What is thrown: an `EnterpriseSecurityError`, or a `RangeError` of a date. -/
inductive Thrown where
  | security (message : JsString)
  | range
  deriving DecidableEq

/-- `throw enterpriseError(message)`. -/
def enterpriseError {α : Type} (message : JsString) : Except Thrown α :=
  .error (.security message)

/-! ## Copying under budgets -/

def maxTextBytes : Nat := 4096

def maxArrayItems : Nat := 64

def maxSignatureBytes : Nat := 16384

def maxRecordFields : Nat := 64

def maxAggregateDataItems : Nat := 512

def maxAggregateDataBytes : Nat := 1048576

def maxDataStringCodeUnits : Nat := 1048576

structure DataBudget where
  remaining : Nat
  remainingBytes : Nat
  deriving DecidableEq

/-- The budget of a call without one. -/
def DataBudget.full : DataBudget where
  remaining := maxAggregateDataItems
  remainingBytes := maxAggregateDataBytes

def consumeDataBudget (budget : DataBudget) : Except Thrown DataBudget :=
  if budget.remaining = 0 then
    enterpriseError (js "public data exceeds aggregate item bound")
  else
    .ok { budget with remaining := budget.remaining - 1 }

def consumeDataBytes (budget : DataBudget) (length : Nat) :
    Except Thrown DataBudget :=
  if budget.remainingBytes < length then
    enterpriseError (js "public data exceeds aggregate byte bound")
  else
    .ok { budget with remainingBytes := budget.remainingBytes - length }

mutual

/--
`dataValue`: the budget that is left.  The copy of plain data has the same
fields and elements.  Any other value is refused here; the source also copies a
`Uint8Array` and hands on an issued session, which this data does not have.
-/
def dataValue : JsValue → JsString → DataBudget → Except Thrown DataBudget
  | .null, _, budget => .ok budget
  | .bool _, _, budget => .ok budget
  | .string value, field, budget =>
      if maxDataStringCodeUnits < value.length then
        enterpriseError (field ++ js " exceeds code-unit bound")
      else
        consumeDataBytes budget (utf8Length value)
  | .number value, field, budget =>
      if value.isFinite then .ok budget
      else enterpriseError (field ++ js " must be finite")
  | .undefined, field, _ => enterpriseError (field ++ js " must be data")
  | .exotic, field, _ => enterpriseError (field ++ js " must be data")
  | .array items, field, budget => do
      let budget ← consumeDataBudget budget
      if maxArrayItems < items.length then
        enterpriseError (field ++ js " must contain at most 64 items")
      else
        dataItems items field 0 budget
  | .object entries, field, budget => do
      let budget ← consumeDataBudget budget
      if maxRecordFields < entries.length ∨
          ∃ entry ∈ entries, 256 < entry.1.length then
        enterpriseError (field ++ js " has too many fields")
      else
        dataEntries entries field budget

/-- The elements of an array from an index on. -/
def dataItems : List JsValue → JsString → Nat → DataBudget →
    Except Thrown DataBudget
  | [], _, _, budget => .ok budget
  | item :: rest, field, index, budget => do
      let budget ← dataValue item
        (field ++ js "[" ++ decimalDigits index ++ js "]") budget
      dataItems rest field (index + 1) budget

/-- The properties of a record. -/
def dataEntries : Record → JsString → DataBudget → Except Thrown DataBudget
  | [], _, budget => .ok budget
  | (key, value) :: rest, field, budget => do
      let budget ← dataValue value (field ++ js "." ++ key) budget
      dataEntries rest field budget

end

/-- `dataRecord` with the keys that are allowed. -/
def dataRecord (value : JsValue) (field : String)
    (allowedKeys : List JsString) : Except Thrown Record :=
  match value with
  | .object entries =>
      if ∃ entry ∈ entries, entry.1 ∉ allowedKeys then
        enterpriseError (js field ++ js " has too many fields")
      else do
        let _ ← dataValue (.object entries) (js field) .full
        pure entries
  | _ => enterpriseError (js field ++ js " must be an object")

/-- `dataArray`. -/
def dataArray (value : JsValue) (field : String) :
    Except Thrown (List JsValue) :=
  match value with
  | .array items => do
      let _ ← dataValue (.array items) (js field) .full
      pure items
  | _ => enterpriseError (js field ++ js " must be an array")

/-! ## Fields -/

/-- Whether a value is a string with the given content. -/
def isString (value : JsValue) (expected : String) : Prop :=
  match value with
  | .string content => content = js expected
  | _ => False

instance (value : JsValue) (expected : String) :
    Decidable (isString value expected) :=
  match value with
  | .string content => inferInstanceAs (Decidable (content = js expected))
  | .undefined | .null | .bool _ | .number _ | .array _ | .object _ | .exotic =>
      inferInstanceAs (Decidable False)

/-- Whether a value is an object or an array. -/
def isObject : JsValue → Bool
  | .object _ => true
  | .array _ => true
  | .exotic => true
  | _ => false

/-- The message of a text that is not accepted. -/
def textMessage (field : String) (maximum : Nat) : JsString :=
  js field ++ js " must be a non-blank UTF-8 string no larger than " ++
    decimalDigits maximum ++ js " bytes"

/-- Whether `text` takes a string. -/
def isText (maximum : Nat) (value : JsString) : Bool :=
  decide (value ≠ []) && decide (value.length ≤ maximum) &&
    decide (0 ∉ value) && decide (trim value ≠ []) &&
    decide (utf8Length value ≤ maximum)

def text (value : JsValue) (field : String) (maximum : Nat) :
    Except Thrown JsString :=
  match value with
  | .string value =>
      if isText maximum value then .ok value
      else enterpriseError (textMessage field maximum)
  | _ => enterpriseError (textMessage field maximum)

/-- `[a-z]`. -/
def isLowerLetter (unit : CodeUnit) : Bool :=
  decide (97 ≤ unit.val ∧ unit.val ≤ 122)

/-- `/^[a-z][a-z0-9._-]{0,255}$/`. -/
def isIdentifier : JsString → Bool
  | [] => false
  | first :: rest =>
      isLowerLetter first && decide (rest.length ≤ 255) &&
        rest.all fun unit =>
          isLowerLetter unit || isDecimalDigit unit ||
            (js "._-").contains unit

def identifier (value : JsValue) (field : String) : Except Thrown JsString := do
  let result ← text value field 256
  check (isIdentifier result = true)
    (.security (js field ++ js " is not a valid identifier"))
  pure result

/-- `\d{4}-\d{2}-\d{2}T\d{2}:\d{2}:\d{2}\.\d{3}Z`. -/
def instantTemplate : JsString :=
  js "0000-00-00T00:00:00.000Z"

def instantMessage (field : String) : Thrown :=
  .security (js field ++ js " must be a canonical UTC ISO-8601 instant")

def canonicalInstant (value : JsValue) (field : String) :
    Except Thrown JsString := do
  let result ← text value field 30
  check (matchesTemplate instantTemplate result = true) (instantMessage field)
  match dateParse result with
  | none => .error .range
  | some time =>
      check (toISOString time = result) (instantMessage field)
      pure result

/-- `Date.parse` of a canonical instant. -/
def instantMs (value : JsString) : Int :=
  (dateParse value).getD 0

/-- `Number.isSafeInteger(value)` within bounds. -/
def boundedInteger (value : JsValue) (field : String) (minimum maximum : Nat) :
    Except Thrown Nat :=
  match value with
  | .number number =>
      match number.safeInteger? with
      | some integer =>
          if (minimum : Int) ≤ integer ∧ integer ≤ maximum then
            .ok integer.toNat
          else
            .error (.security (js field ++ js " must be an integer from " ++
              decimalDigits minimum ++ js " to " ++ decimalDigits maximum))
      | none =>
          .error (.security (js field ++ js " must be an integer from " ++
            decimalDigits minimum ++ js " to " ++ decimalDigits maximum))
  | _ =>
      .error (.security (js field ++ js " must be an integer from " ++
        decimalDigits minimum ++ js " to " ++ decimalDigits maximum))

def boundedPositiveInteger (value : JsValue) (field : String) (maximum : Nat) :
    Except Thrown Nat :=
  boundedInteger value field 1 maximum

def sha256Digest (value : JsValue) (field : String) :
    Except Thrown JsString := do
  let digest ← text value field 64
  check (digest.length = 64 ∧ digest.all (fun unit =>
      isDecimalDigit unit || decide (97 ≤ unit.val ∧ unit.val ≤ 102)) = true)
    (.security (js field ++ js " must be a lowercase SHA-256 digest"))
  pure digest

end Selene.Enterprise
