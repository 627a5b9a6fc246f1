import Selene.JsonText
import Selene.ProjectText

/-!
# Bounded previews of untrusted values

What the quarantine keeps of a value, and the test that an import is small
enough: a structural preview under a budget of bytes, of at most eight levels,
128 elements of an array and the listed properties of an object.
-/

namespace Selene.Lifecycle

open Js

/-- `CAPTURE_KEYS`. -/
def captureKeys : List JsString :=
  [js "format", js "schemaVersion", js "project", js "current",
    js "workspace", js "versions", js "autosave", js "versionSequence",
    js "id", js "name", js "origin", js "status", js "createdAt",
    js "updatedAt", js "lastOpenedAt", js "savedAt", js "summary",
    js "parentId", js "projectId", js "revision", js "entrypoint",
    js "files", js "dependencies", js "nodes", js "path", js "language",
    js "content", js "nodeId", js "exportName"]

/-- The names that lead to a part of a value; an element has its index. -/
abbrev Position := List JsString

/--
A value as it is handed over.  Of the objects and arrays in it some can be the
same one: `object` names a position for each, equal ones for the same.
-/
structure RawValue where
  value : JsValue
  object : Position → Position

/--
The budget left, whether something was left out, and the objects that were seen.
-/
structure CaptureState where
  remaining : Int
  truncated : Bool
  seen : List Position
  deriving DecidableEq

/-- `marker`. -/
def marker (label : String) (state : CaptureState) : JsValue × CaptureState :=
  (.string (js label), { state with truncated := true })

/-- The longest start of a text with at most `budget` bytes. -/
def fittingPrefix (budget : Nat) (text : JsString) : JsString :=
  (((List.range (text.length + 1)).reverse.map text.take).find? fun start =>
    utf8Length start ≤ budget).getD []

/-- `consumeText`. -/
def consumeText (input : JsString) (state : CaptureState) :
    JsValue × CaptureState :=
  let candidate := input.take state.remaining.toNat
  let byteLength := utf8Length candidate
  if (input.length : Int) ≤ state.remaining ∧
      (byteLength : Int) ≤ state.remaining then
    (.string input, { state with remaining := state.remaining - byteLength })
  else
    let suffix := js "[truncated]"
    let budget := (state.remaining - utf8Length suffix).toNat
    (.string (fittingPrefix budget (candidate.take budget) ++ suffix),
      { state with remaining := 0, truncated := true })

/-- The elements of an array with their indices, while there is budget. -/
def captureItems
    (visit : JsString → JsValue → CaptureState → JsValue × CaptureState) :
    List (JsValue × Nat) → CaptureState → List JsValue × CaptureState
  | [], state => ([], state)
  | (item, index) :: rest, state =>
      if state.remaining ≤ 0 then
        ([], state)
      else
        let (value, next) := visit (decimalDigits index) item state
        let (values, last) := captureItems visit rest next
        (value :: values, last)

/-- The listed properties of an object, while there is budget. -/
def captureEntries
    (visit : JsString → JsValue → CaptureState → JsValue × CaptureState)
    (input : Record) :
    List JsString → CaptureState → Record × CaptureState
  | [], state => ([], state)
  | key :: rest, state =>
      if state.remaining ≤ 0 then
        ([], { state with truncated := true })
      else
        match input.get key with
        | .undefined => captureEntries visit input rest state
        | item =>
            let (value, next) := visit key item { state with
              remaining := state.remaining - utf8Length key }
            let (entries, last) := captureEntries visit input rest next
            ((key, value) :: entries, last)

/-- An object or array, unless it was seen before. -/
def captureOnce
    (object : Position)
    (inside : CaptureState → JsValue × CaptureState)
    (state : CaptureState) :
    JsValue × CaptureState :=
  if object ∈ state.seen then
    marker "[circular]" state
  else
    inside { state with seen := object :: state.seen }

/-- `visit`, with the levels that are left. -/
def captureValue (object : Position → Position) :
    Nat → Position → JsValue → CaptureState → JsValue × CaptureState
  | 0, _, _, state => marker "[truncated]" state
  | levels + 1, position, input, state =>
      let visit := fun name => captureValue object levels (position ++ [name])
      if state.remaining ≤ 0 then
        marker "[truncated]" state
      else
        match input with
        | .string text => consumeText text state
        | .null => (.null, { state with remaining := state.remaining - 16 })
        | .number value =>
            (.number value, { state with remaining := state.remaining - 16 })
        | .bool value =>
            (.bool value, { state with remaining := state.remaining - 16 })
        | .undefined =>
            marker "[unsupported]"
              { state with remaining := state.remaining - 16 }
        | .exotic => marker "[proxy]" state
        | .array items =>
            captureOnce (object position) (fun state =>
              let (values, next) := captureItems visit
                (items.take 128).zipIdx { state with
                  truncated := state.truncated || decide (128 < items.length) }
              (.array values, next)) state
        | .object entries =>
            captureOnce (object position) (fun state =>
              let (result, next) := captureEntries visit entries captureKeys
                state
              if result = [] then marker "[uninspectable object]" next
              else (.object result, next)) state

/-- `JSON.stringify` of a preview, with the levels that are left. -/
def jsonOf (platform : Platform) : Nat → JsValue → JsString
  | 0, _ => js "null"
  | levels + 1, value =>
      match value with
      | .string text => quote text
      | .number number =>
          (platform.numberFormat.jsonText number).getD (js "null")
      | .bool value => if value then js "true" else js "false"
      | .array items =>
          0x5B :: [0x2C].intercalate (items.map (jsonOf platform levels)) ++
            [0x5D]
      | .object entries =>
          0x7B :: [0x2C].intercalate (entries.map fun entry =>
            quote entry.1 ++ 0x3A :: jsonOf platform levels entry.2) ++
            [0x7D]
      | _ => js "null"

/-- A preview of a value, and whether something is missing from it. -/
def capture (platform : Platform) (raw : RawValue) (maximumBytes : Nat) :
    JsValue × Bool :=
  let (captured, state) := captureValue raw.object 9 [] raw.value
    ⟨maximumBytes, false, []⟩
  if utf8Length (jsonOf platform 10 captured) ≤ maximumBytes then
    (captured, state.truncated)
  else
    (.string (List.replicate (maximumBytes - 2) 0x78), true)

/-- `\p{Cc}`. -/
def isControl (unit : CodeUnit) : Bool :=
  decide (unit.val ≤ 0x1F ∨ 0x7F ≤ unit.val ∧ unit.val ≤ 0x9F)

/-- `replace(/\s+/g, ' ')`. -/
def collapseSpaces : JsString → JsString
  | [] => []
  | unit :: rest =>
      if isWhiteSpace unit then
        match rest with
        | next :: _ =>
            if isWhiteSpace next then collapseSpaces rest
            else 0x20 :: collapseSpaces rest
        | [] => [0x20]
      else
        unit :: collapseSpaces rest

def quarantineReason
    (platform : Platform)
    (value : JsString)
    (payloadTruncated : Bool) :
    JsString :=
  let sanitized := trim (collapseSpaces ((platform.normalize value).map
    fun unit => if isControl unit then 0x20 else unit))
  let suffix := if payloadTruncated then js " (payload truncated)" else []
  let base := if sanitized = [] then js "invalid project record" else sanitized
  base.take (1024 - suffix.length) ++ suffix

end Selene.Lifecycle
