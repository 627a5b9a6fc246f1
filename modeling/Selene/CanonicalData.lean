import Selene.JsonData
import Selene.Rejection

/-!
# Canonical data

`serializeCanonicalData` writes inert own-data as canonical text, under limits
that a caller may lower but not raise.  The serializer is a traversal with
running totals of entries and bytes; the visitors of the children of a node are
built first, so that those of an object can be sorted by name before they run.

On data the traversal writes the text of the canonical document
(`visit_writes`), which makes the encoding canonical and injective.
-/

namespace Selene.Canonical

open Js

inductive CanonicalDataErrorCode where
  | invalidData
  | limitExceeded
  | unsupportedData
  deriving DecidableEq

/-! ## Limits -/

structure CanonicalDataLimits where
  maxDepth : Nat
  maxEntries : Nat
  maxEncodedBytes : Nat
  maxStringBytes : Nat
  maxKeyBytes : Nat
  deriving DecidableEq

def hardLimits : CanonicalDataLimits where
  maxDepth := 32
  maxEntries := 32000
  maxEncodedBytes := 2000000
  maxStringBytes := 256000
  maxKeyBytes := 4096

/-- `Math.min` with a natural number. -/
def mathMin (number : JsNumber) (bound : Nat) : JsNumber :=
  match number with
  | .finite value => if value ≤ bound then .finite value else .ofNat bound
  | .infinite false => .ofNat bound
  | .infinite true => .infinite true
  | .negativeZero => .negativeZero
  | .nan => .nan

def requestedLimit (value : JsValue) (key : JsString) (fallback : Nat) :
    Except CanonicalDataErrorCode JsNumber :=
  match value with
  | .object entries =>
      if key ∈ Record.keys entries then
        match Record.get entries key with
        | .number number => .ok number
        | _ => .error .invalidData
      else
        .ok (.ofNat fallback)
  | _ => .error .invalidData

/-- A requested limit, capped by the hard limit, if it is large enough. -/
def effectiveLimit
    (value : JsValue)
    (key : JsString)
    (hard least : Nat) :
    Except CanonicalDataErrorCode Nat := do
  let number ← requestedLimit value key hard
  match (mathMin number hard).safeInteger? with
  | none => .error .invalidData
  | some limit =>
      if limit < least then .error .invalidData else .ok limit.toNat

/-- The limits in force for a request; a missing request asks for nothing. -/
def effectiveLimits (requested : JsValue) :
    Except CanonicalDataErrorCode CanonicalDataLimits := do
  let value :=
    match requested with
    | .undefined => .object []
    | other => other
  let maxDepth ←
    effectiveLimit value (js "maxDepth") hardLimits.maxDepth 0
  let maxEntries ←
    effectiveLimit value (js "maxEntries") hardLimits.maxEntries 1
  let maxEncodedBytes ←
    effectiveLimit value (js "maxEncodedBytes") hardLimits.maxEncodedBytes 2
  let maxStringBytes ←
    effectiveLimit value (js "maxStringBytes") hardLimits.maxStringBytes 1
  let maxKeyBytes ←
    effectiveLimit value (js "maxKeyBytes") hardLimits.maxKeyBytes 1
  .ok { maxDepth, maxEntries, maxEncodedBytes, maxStringBytes, maxKeyBytes }

/-! ## The traversal -/

/-- The running totals and the text written so far. -/
structure EncoderState where
  entries : Nat
  encodedBytes : Nat
  text : JsString
  deriving DecidableEq

/-- A part of the traversal. -/
abbrev Encoder :=
  EncoderState → Except CanonicalDataErrorCode EncoderState

/-- Write a chunk and charge its bytes. -/
def append (limits : CanonicalDataLimits) (chunk : JsString) : Encoder :=
  fun state => do
    let encodedBytes := state.encodedBytes + utf8Length chunk
    check (encodedBytes ≤ limits.maxEncodedBytes) .limitExceeded
    .ok { state with encodedBytes, text := state.text ++ chunk }

/-- Charge the own names of an object or array. -/
def chargeEntries (limits : CanonicalDataLimits) (count : Nat) : Encoder :=
  fun state => do
    let entries := state.entries + count
    check (entries ≤ limits.maxEntries) .limitExceeded
    .ok { state with entries }

/-- The separator before a child that is not the first. -/
def appendSeparator (limits : CanonicalDataLimits) (first : Bool) : Encoder :=
  fun state => if first then .ok state else append limits [0x2C] state

/-- Visit the items of an array in order. -/
def writeItems (limits : CanonicalDataLimits) (first : Bool) :
    List Encoder → Encoder
  | [] => .ok
  | item :: rest => fun state => do
      let separated ← appendSeparator limits first state
      let written ← item separated
      writeItems limits false rest written

/-- Visit the entries of an object in the given order. -/
def writeEntries (limits : CanonicalDataLimits) (first : Bool) :
    List (JsString × Encoder) → Encoder
  | [] => .ok
  | (key, value) :: rest => fun state => do
      check (utf8Length key ≤ limits.maxKeyBytes) .limitExceeded
      let separated ← appendSeparator limits first state
      let named ← append limits (quote key) separated
      let opened ← append limits [0x3A] named
      let written ← value opened
      writeEntries limits false rest written

mutual

/--
Visit a value.  An exotic value is refused as invalid, without telling
functions and symbols from foreign or cyclic objects.
-/
def visit (format : NumberFormat) (limits : CanonicalDataLimits) :
    JsValue → Nat → Encoder
  | .null, _ => append limits (js "null")
  | .string value, _ => fun state => do
      check (utf8Length value ≤ limits.maxStringBytes) .limitExceeded
      append limits (quote value) state
  | .bool value, _ =>
      append limits (if value then js "true" else js "false")
  | .number value, _ =>
      match format.jsonText value with
      | some text => append limits text
      | none => fun _ => .error .unsupportedData
  | .undefined, _ => fun _ => .error .unsupportedData
  | .exotic, _ => fun _ => .error .invalidData
  | .array items, depth => fun state => do
      check (depth ≤ limits.maxDepth) .invalidData
      -- The own names of an array are its indices and `length`.
      let charged ← chargeEntries limits (items.length + 1) state
      let opened ← append limits [0x5B] charged
      let written ←
        writeItems limits true
          (visitItems format limits items (depth + 1)) opened
      append limits [0x5D] written
  | .object entries, depth => fun state => do
      check (depth ≤ limits.maxDepth) .invalidData
      let charged ← chargeEntries limits entries.length state
      let opened ← append limits [0x7B] charged
      let written ←
        writeEntries limits true
          (sortByKey Prod.fst
            (visitEntries format limits entries (depth + 1))) opened
      append limits [0x7D] written

/-- The visitors of the items. -/
def visitItems (format : NumberFormat) (limits : CanonicalDataLimits) :
    List JsValue → Nat → List Encoder
  | [], _ => []
  | item :: rest, depth =>
      visit format limits item depth :: visitItems format limits rest depth

/-- The visitors of the entries, with their names. -/
def visitEntries (format : NumberFormat) (limits : CanonicalDataLimits) :
    Record → Nat → List (JsString × Encoder)
  | [], _ => []
  | (name, value) :: rest, depth =>
      (name, visit format limits value depth) ::
        visitEntries format limits rest depth

end

def serializeCanonicalData
    (format : NumberFormat)
    (value requested : JsValue) :
    Except CanonicalDataErrorCode JsString := do
  let limits ← effectiveLimits requested
  let final ← visit format limits value 0 ⟨0, 0, []⟩
  .ok final.text

/-! ## What the traversal writes -/

variable {limits : CanonicalDataLimits} {state next : EncoderState}

theorem append_writes
    {chunk : JsString}
    (written : append limits chunk state = .ok next) :
    next.text = state.text ++ chunk := by
  rw [append, check_bind_eq_ok] at written
  cases written.2
  rfl

theorem chargeEntries_writes
    {count : Nat}
    (charged : chargeEntries limits count state = .ok next) :
    next.text = state.text := by
  rw [chargeEntries, check_bind_eq_ok] at charged
  cases charged.2
  rfl

variable {first : Bool}

theorem appendSeparator_writes
    (written : appendSeparator limits first state = .ok next) :
    next.text = state.text ++ (if first then [] else [0x2C]) := by
  unfold appendSeparator at written
  split at written
  · cases written
    simp [*]
  · rw [append_writes written]
    simp [*]

theorem visitItems_eq_map
    (format : NumberFormat)
    (limits : CanonicalDataLimits)
    (items : List JsValue)
    (depth : Nat) :
    visitItems format limits items depth =
      items.map fun item => visit format limits item depth :=
  @eq_map_of_cons _ _ _ (visitItems format limits · depth) rfl
    (fun _ _ => rfl) items

theorem visitEntries_eq_map
    (format : NumberFormat)
    (limits : CanonicalDataLimits)
    (entries : Record)
    (depth : Nat) :
    visitEntries format limits entries depth =
      entries.map fun entry =>
        (entry.1, visit format limits entry.2 depth) :=
  @eq_map_of_cons _ _ _ (visitEntries format limits · depth) rfl
    (fun _ _ => rfl) entries

/-- A visited value is data, and its canonical text is written. -/
def Writes
    (format : NumberFormat)
    (limits : CanonicalDataLimits)
    (value : JsValue) :
    Prop :=
  ∀ depth state next,
    visit format limits value depth state = .ok next →
      value.IsData ∧
        next.text =
          state.text ++ Json.stringify format.doubles (document value)

variable {format : NumberFormat}

theorem writeItems_writes
    {items : List JsValue}
    (each : ∀ item ∈ items, Writes format limits item)
    (depth : Nat)
    (written :
      writeItems limits first
        (items.map fun item => visit format limits item depth) state =
          .ok next) :
    (∀ item ∈ items, item.IsData) ∧
      next.text ++ [0x5D] =
        state.text ++
          Json.stringifyItems format.doubles first (items.map document) := by
  induction items generalizing first state with
  | nil =>
      cases written
      exact ⟨by simp, by simp [Json.stringifyItems]⟩
  | cons item rest inductionHypothesis =>
      simp only [List.map_cons, writeItems, bind_eq_ok] at written
      obtain ⟨separated, separator, middle, visited, remaining⟩ := written
      obtain ⟨itemData, itemText⟩ :=
        each item (by simp) _ _ _ visited
      obtain ⟨restData, restText⟩ :=
        inductionHypothesis
          (fun other member => each other (List.mem_cons_of_mem _ member))
          remaining
      refine ⟨?_, ?_⟩
      · intro other member
        rcases List.mem_cons.mp member with rfl | later
        · exact itemData
        · exact restData other later
      · rw [restText, itemText, appendSeparator_writes separator]
        simp [Json.stringifyItems, List.append_assoc]

theorem writeEntries_writes
    {entries : Record}
    (each : ∀ entry ∈ entries, Writes format limits entry.2)
    (depth : Nat)
    (written :
      writeEntries limits first
        (entries.map fun entry =>
          (entry.1, visit format limits entry.2 depth)) state = .ok next) :
    (∀ entry ∈ entries, entry.2.IsData) ∧
      next.text ++ [0x7D] =
        state.text ++
          Json.stringifyEntries format.doubles first
            (entries.map fun entry => (entry.1, document entry.2)) := by
  induction entries generalizing first state with
  | nil =>
      cases written
      exact ⟨by simp, by simp [Json.stringifyEntries]⟩
  | cons entry rest inductionHypothesis =>
      simp only [List.map_cons, writeEntries, bind_eq_ok] at written
      obtain ⟨_, _, separated, separator, named, name, opened, colon, middle,
        visited, remaining⟩ := written
      obtain ⟨valueData, valueText⟩ :=
        each entry (by simp) _ _ _ visited
      obtain ⟨restData, restText⟩ :=
        inductionHypothesis
          (fun other member => each other (List.mem_cons_of_mem _ member))
          remaining
      refine ⟨?_, ?_⟩
      · intro other member
        rcases List.mem_cons.mp member with rfl | later
        · exact valueData
        · exact restData other later
      · rw [restText, valueText, append_writes colon, append_writes name,
          appendSeparator_writes separator]
        simp [Json.stringifyEntries, List.append_assoc]

theorem visit_writes
    (format : NumberFormat)
    (limits : CanonicalDataLimits)
    {value : JsValue}
    (wellFormed : value.WellFormed) :
    Writes format limits value := by
  induction wellFormed with
  | undefined => intro depth state next visited; cases visited
  | exotic => intro depth state next visited; cases visited
  | null =>
      intro depth state next visited
      exact ⟨.null, append_writes visited⟩
  | bool value =>
      intro depth state next visited
      refine ⟨.bool value, ?_⟩
      rw [append_writes visited]
      cases value <;> rfl
  | string value =>
      intro depth state next visited
      rw [visit, check_bind_eq_ok] at visited
      exact ⟨.string value, append_writes visited.2⟩
  | @number value representable =>
      intro depth state next visited
      rw [visit] at visited
      cases finite : value.finiteValue? with
      | none =>
          simp only [NumberFormat.jsonText, finite, Option.map_none]
            at visited
          cases visited
      | some exact =>
          have double := representable exact (by simp [finite])
          simp only [NumberFormat.jsonText, finite, Option.map_some]
            at visited
          refine ⟨.number finite double, ?_⟩
          rw [append_writes visited, document, toDouble_val finite double]
          rfl
  | @array items _ inductionHypothesis =>
      intro depth state next visited
      simp only [visit, bind_eq_ok, visitItems_eq_map] at visited
      obtain ⟨_, _, charged, charge, opened, opening, middle, written,
        closing⟩ := visited
      obtain ⟨itemsData, itemsText⟩ :=
        writeItems_writes inductionHypothesis (depth + 1) written
      refine ⟨.array itemsData, ?_⟩
      rw [append_writes closing, itemsText, append_writes opening,
        chargeEntries_writes charge, document, documentItems_eq_map]
      simp [Json.stringify]
  | @object entries distinct _ inductionHypothesis =>
      intro depth state next visited
      simp only [visit, bind_eq_ok, visitEntries_eq_map] at visited
      obtain ⟨_, _, charged, charge, opened, opening, middle, written,
        closing⟩ := visited
      have sorted := sortByKey_perm Prod.fst entries
      rw [sortByKey_map
        (fun entry : JsString × JsValue =>
          (entry.1, visit format limits entry.2 (depth + 1)))
        (fun _ => rfl)] at written
      obtain ⟨entriesData, entriesText⟩ :=
        writeEntries_writes
          (fun entry member =>
            inductionHypothesis entry (sorted.mem_iff.mp member))
          (depth + 1) written
      refine ⟨.object distinct fun entry member =>
        entriesData entry (sorted.mem_iff.mpr member), ?_⟩
      rw [append_writes closing, entriesText, append_writes opening,
        chargeEntries_writes charge, document, documentEntries_eq_map,
        sortByKey_map
          (fun entry : JsString × JsValue => (entry.1, document entry.2))
          (fun _ => rfl)]
      simp [Json.stringify]

/-- Accepted values are data, and their text is that of their document. -/
theorem serializeCanonicalData_writes
    {value : OwnValue}
    {requested : JsValue}
    {text : JsString}
    (accepted :
      serializeCanonicalData format value.val requested = .ok text) :
    value.val.IsData ∧
      text = Json.stringify format.doubles (document value.val) := by
  simp only [serializeCanonicalData, bind_eq_ok, Except.ok.injEq] at accepted
  obtain ⟨limits, _, final, visited, rfl⟩ := accepted
  obtain ⟨data, written⟩ :=
    visit_writes format limits value.property 0 _ _ visited
  exact ⟨data, by simpa using written⟩

/--
The encoding is canonical and injective: two accepted values have the same text
exactly when they are the same data, and `JSON.parse` of the text gives the
data back.
-/
theorem serializeCanonicalData_canonical
    (format : NumberFormat)
    (first second : OwnValue)
    (requested : JsValue)
    {firstText secondText : JsString}
    (firstAccepted :
      serializeCanonicalData format first.val requested = .ok firstText)
    (secondAccepted :
      serializeCanonicalData format second.val requested = .ok secondText) :
    (firstText = secondText ↔ first.val.SameData second.val) ∧
      ∃ parsed, jsonParse format firstText = some parsed ∧
        parsed.SameData first.val := by
  obtain ⟨firstData, rfl⟩ := serializeCanonicalData_writes firstAccepted
  obtain ⟨secondData, rfl⟩ := serializeCanonicalData_writes secondAccepted
  constructor
  · rw [(Json.stringify_injective format.doubles).eq_iff]
    exact document_eq_iff firstData secondData
  · exact ⟨_, jsonParse_stringify format _,
      sameData_readBack format firstData⟩

/-- An object with two properties, in either order. -/
def sampleEntries (swapped : Bool) : Record :=
  if swapped then
    [(js "a", .array [.bool true]), (js "b", .number (.ofNat 1))]
  else
    [(js "b", .number (.ofNat 1)), (js "a", .array [.bool true])]

/-- The object with two properties, as a value. -/
def sampleData (swapped : Bool) : OwnValue :=
  ⟨.object (sampleEntries swapped), by
    have one : (JsNumber.ofNat 1).IsRepresentable := by
      intro value isValue
      cases isValue
      exact @isDouble_natCast 1 (by decide)
    have flags : (JsValue.array [.bool true]).WellFormed :=
      .array (by simp [JsValue.WellFormed.bool])
    refine .object ?_ ?_
    · cases swapped <;> simp [sampleEntries]
    · cases swapped <;>
        simp [sampleEntries, flags, JsValue.WellFormed.number one]⟩

/-- The text of the object with two properties. -/
def sampleText : JsString :=
  js "\x7b\"a\":[true],\"b\":1\x7d"

theorem serializeCanonicalData_canonical_sample :
    (sampleData false).val.SameData (sampleData true).val ∧
      ∃ parsed,
        jsonParse exactNumerals sampleText = some parsed ∧
          parsed.SameData (sampleData false).val := by
  have encoded :
      ∀ swapped,
        serializeCanonicalData exactNumerals (sampleData swapped).val
            .undefined = .ok sampleText := by
    intro swapped
    cases swapped <;> decide +kernel
  have canonical :=
    serializeCanonicalData_canonical exactNumerals (sampleData false)
      (sampleData true) .undefined (encoded false) (encoded true)
  exact ⟨canonical.1.mp rfl, canonical.2⟩

end Selene.Canonical
