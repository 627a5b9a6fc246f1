import Selene.CanonicalData
import Selene.JsDate
import Selene.JsValue
import Selene.Rejection
import Selene.SourceWorkspace
import Mathlib.Data.List.Sort

/-!
# Identifiers and text of local projects

The checks that records of local projects are read with, and the functions of
the platform that they call.
-/

namespace Selene.Lifecycle

open Js Canonical Generation

/-! ## Identifiers -/

/-- `/^[a-z][a-z0-9-]{0,63}$/`. -/
def projectIdPattern : JsString → Bool
  | [] => false
  | first :: rest =>
      isLower first && decide (rest.length ≤ 63) &&
        rest.all fun unit => isLower unit || isDigit unit || unit = 0x2D

/-- An admissible project id. -/
structure ProjectId where
  text : JsString
  admissible : projectIdPattern text = true
  deriving DecidableEq

/-- `:`. -/
def colon : CodeUnit := 0x3A

theorem ProjectId.colon_not_mem (id : ProjectId) :
    colon ∉ id.text := by
  obtain ⟨text, admissible⟩ := id
  cases text with
  | nil => exact List.not_mem_nil
  | cons first rest =>
      rw [projectIdPattern, Bool.and_eq_true, Bool.and_eq_true] at admissible
      obtain ⟨⟨lower, _⟩, others⟩ := admissible
      intro member
      rcases List.mem_cons.mp member with rfl | later
      · cases lower
      · have unit := List.all_eq_true.mp others colon later
        cases unit

/-- `MAX_VERSION_ID_LENGTH`. -/
def maxVersionIdLength : Nat := 256

/-- `[A-Za-z0-9._:-]`. -/
def isVersionIdUnit (unit : CodeUnit) : Bool :=
  isAlphanumeric unit || (js "._:-").contains unit

/-- `versionIdPattern`. -/
def versionIdPattern : JsString → Bool
  | [] => false
  | first :: rest =>
      (isUpper first || isLower first) &&
        decide (rest.length ≤ maxVersionIdLength - 1) &&
        rest.all isVersionIdUnit

/-! ## The platform -/

/--
What the service takes from its platform: Unicode normalization, SHA-256 digests
in hexadecimal, the text of numbers, the order of texts in the locale, absolute
paths, the text of an engine error, what the operators of the language make of a
workspace whose parts do not have their declared types, and how many turns of
the loop for a free id are followed.
-/
structure Platform where
  normalize : JsString → JsString
  sha256 : JsString → JsString
  numberFormat : NumberFormat
  localeCompare : JsString → JsString → Ordering
  isAbsolute : JsString → Bool
  engineError : JsValue → JsString
  validateUntyped : Record → Except JsString Unit
  attempts : Nat

/-! ## Checks -/

/-- Results with the message of an error. -/
abbrev Checked := Except JsString

/-- Object, or an error.  Of exotic values nothing is known; they are refused. -/
def record (value : JsValue) (name : JsString) : Checked Record :=
  match value with
  | .object entries => .ok entries
  | _ => .error (name ++ js " must be an object")

def text (value : JsValue) (name : JsString) : Checked JsString :=
  match value with
  | .string result => do
      check (trim result ≠ []) (name ++ js " is required")
      pure result
  | _ => .error (name ++ js " is required")

def normalizedText
    (platform : Platform)
    (value : JsValue)
    (name : JsString)
    (maximum : Nat) :
    Checked JsString := do
  let read ← text value name
  let result := platform.normalize (trim read)
  check (result.length ≤ maximum)
    (name ++ js " must be at most " ++ decimalDigits maximum ++
      js " characters")
  pure result

def timestamp (value : JsValue) (name : JsString) : Checked JsString := do
  let result ← text value name
  check (IsCanonicalDate result)
    (name ++ js " must be a canonical ISO timestamp")
  pure result

def projectId (value : JsValue) (name : JsString) : Checked ProjectId := do
  let result ← text value name
  let ⟨admissible⟩ ← require (projectIdPattern result = true)
    (name ++ js " must be a lowercase identifier up to 64 characters")
  pure ⟨result, admissible⟩

/-- `/^[a-f0-9]{64}$/`. -/
def isSha256 (digest : JsString) : Bool :=
  decide (digest.length = 64) &&
    digest.all fun unit =>
      isDigit unit || decide (97 ≤ unit.val ∧ unit.val ≤ 102)

/-- The keys of an object are exactly the given ones. -/
def exactReceiptKeys (input : Record) (keys : List JsString) (name : JsString) :
    Checked Unit :=
  check (input.keys.insertionSort (· ≤ ·) = keys.insertionSort (· ≤ ·))
    (name ++ js " keys are invalid")

/-! ## Time -/

/-- `new Date(Date.parse(previous) + 1).toISOString()`. -/
def nextInstant (previous : JsString) : Checked JsString :=
  match dateParse previous with
  | some time =>
      if time + 1 ≤ maxTime then .ok (toISOString (time + 1))
      else .error (js "Invalid time value")
  | none => .error (js "Invalid time value")

def monotonicTimestamp (candidate previous : JsString) : Checked JsString :=
  if previous < candidate then .ok candidate else nextInstant previous

def latestTimestamp (candidate : JsString) (minimums : List JsString) :
    Checked JsString :=
  minimums.foldlM monotonicTimestamp candidate

end Selene.Lifecycle
