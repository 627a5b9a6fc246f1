import Selene.CanonicalOrder
import Selene.DoubleRounding

/-!
# JSON data

Values that are plain JSON data, what it means for two of them to be the same
data (objects as finite maps, arrays by index, one zero), and two ways between
data and documents: `document` is the canonical document of a value, with the
names of every object in order, and `jsonParse` is the value that `JSON.parse`
builds from a text.
-/

namespace Js

namespace JsValue

/--
Values that can exist: the names of an object are distinct and finite numbers
are doubles.
-/
inductive WellFormed : JsValue → Prop where
  | undefined : WellFormed .undefined
  | null : WellFormed .null
  | bool (value : Bool) : WellFormed (.bool value)
  | number {value : JsNumber} :
      value.IsRepresentable → WellFormed (.number value)
  | string (value : JsString) : WellFormed (.string value)
  | array {items : List JsValue} :
      (∀ item ∈ items, WellFormed item) → WellFormed (.array items)
  | object {entries : Record} :
      entries.keys.Nodup →
      (∀ entry ∈ entries, WellFormed entry.2) →
      WellFormed (.object entries)
  | exotic : WellFormed .exotic

/-- Plain JSON data. -/
inductive IsData : JsValue → Prop where
  | null : IsData .null
  | bool (value : Bool) : IsData (.bool value)
  | number {value : JsNumber} {finite : ℚ} :
      value.finiteValue? = some finite →
      IsDouble finite →
      IsData (.number value)
  | string (value : JsString) : IsData (.string value)
  | array {items : List JsValue} :
      (∀ item ∈ items, IsData item) → IsData (.array items)
  | object {entries : Record} :
      entries.keys.Nodup →
      (∀ entry ∈ entries, IsData entry.2) →
      IsData (.object entries)

/--
The same data: objects are compared as finite maps, arrays index by index, and
both zeros are one number.
-/
inductive SameData : JsValue → JsValue → Prop where
  | null : SameData .null .null
  | bool (value : Bool) : SameData (.bool value) (.bool value)
  | number {first second : JsNumber} {value : ℚ} :
      first.finiteValue? = some value →
      second.finiteValue? = some value →
      SameData (.number first) (.number second)
  | string (value : JsString) : SameData (.string value) (.string value)
  | array {first second : List JsValue} :
      first.length = second.length →
      (∀ pair ∈ first.zip second, SameData pair.1 pair.2) →
      SameData (.array first) (.array second)
  | object {first second : Record} :
      (∀ name, name ∈ first.keys ↔ name ∈ second.keys) →
      (∀ name ∈ first.keys, SameData (first.get name) (second.get name)) →
      SameData (.object first) (.object second)

end JsValue

/-- A value of the language. -/
abbrev OwnValue := { value : JsValue // value.WellFormed }

/-! ## Records with distinct names -/

namespace Record

variable {record : Record} {name : JsString}

theorem mem_of_get
    (member : name ∈ record.keys) :
    (name, record.get name) ∈ record := by
  induction record with
  | nil => cases member
  | cons entry rest inductionHypothesis =>
      obtain ⟨other, value⟩ := entry
      rw [get_cons]
      by_cases same : other = name
      · simp [same]
      · rw [if_neg same]
        rw [keys_cons, List.mem_cons] at member
        exact List.mem_cons_of_mem _
          (inductionHypothesis (member.resolve_left (Ne.symm same)))

variable {value : JsValue}

theorem get_of_mem
    (distinct : record.keys.Nodup)
    (member : (name, value) ∈ record) :
    record.get name = value := by
  induction record with
  | nil => cases member
  | cons entry rest inductionHypothesis =>
      obtain ⟨other, otherValue⟩ := entry
      rw [keys_cons, List.nodup_cons] at distinct
      rw [get_cons]
      rcases List.mem_cons.mp member with same | later
      · cases same
        exact if_pos rfl
      · have isKey : name ∈ Record.keys rest := List.mem_map_of_mem later
        have different : other ≠ name := by
          rintro rfl
          exact distinct.1 isKey
        rw [if_neg different]
        exact inductionHypothesis distinct.2 later

theorem mem_iff
    (distinct : record.keys.Nodup) :
    (name, value) ∈ record ↔
      name ∈ record.keys ∧ record.get name = value := by
  constructor
  · intro member
    exact ⟨List.mem_map_of_mem member, get_of_mem distinct member⟩
  · rintro ⟨isKey, rfl⟩
    exact mem_of_get isKey

/-- `CreateDataProperty`: a property that is there already is replaced. -/
def define (record : Record) (name : JsString) (value : JsValue) : Record :=
  if name ∈ record.keys then
    record.map fun entry => if entry.1 = name then (name, value) else entry
  else
    record ++ [(name, value)]

section

variable (record : Record) (name : JsString) (value : JsValue)

@[simp] theorem get_define
    (key : JsString) :
    (record.define name value).get key =
      if name = key then value else record.get key := by
  have replaced :
      ∀ entries : Record,
        Record.get (entries.map fun entry =>
            if entry.1 = name then (name, value) else entry) key =
          if name = key ∧ name ∈ Record.keys entries then value
          else Record.get entries key := by
    intro entries
    induction entries with
    | nil => simp
    | cons entry rest inductionHypothesis =>
        obtain ⟨other, old⟩ := entry
        rw [List.map_cons]
        by_cases isName : other = name
        · by_cases isKey : name = key
          · simp [isName, isKey]
          · simp [isName, isKey, inductionHypothesis]
        · by_cases isKey : other = key
          · subst isKey
            simp [isName, Ne.symm isName]
          · simp [isName, isKey, inductionHypothesis, Ne.symm isName]
  rw [define]
  split
  · rename_i old
    rw [replaced]
    simp [old]
  · rename_i fresh
    rw [get_append, get_cons, get_nil]
    by_cases isKey : name = key
    · subst isKey
      simp [fresh]
    · by_cases old : key ∈ record.keys
      · simp [isKey, old]
      · simp [isKey, old, get_of_not_mem old]

theorem keys_define :
    (record.define name value).keys =
      if name ∈ record.keys then record.keys else record.keys ++ [name] := by
  have kept :
      Record.keys (record.map fun entry =>
        if entry.1 = name then (name, value) else entry) = record.keys := by
    rw [keys, keys, List.map_map]
    refine List.map_congr_left fun entry _ => ?_
    by_cases isName : entry.1 = name
    · simp [isName]
    · simp [isName]
  rw [define]
  split
  · exact kept
  · rw [keys_append]
    rfl

end

theorem mem_define
    {entry : JsString × JsValue}
    (member : entry ∈ record.define name value) :
    entry = (name, value) ∨ entry ∈ record := by
  rw [define] at member
  split at member
  · obtain ⟨old, oldMember, same⟩ := List.mem_map.mp member
    split at same
    · exact Or.inl same.symm
    · exact Or.inr (same ▸ oldMember)
  · rcases List.mem_append.mp member with old | new
    · exact Or.inr old
    · exact Or.inl (List.mem_singleton.mp new)

/-- Define properties in order. -/
def ofEntries (entries : Record) : Record :=
  entries.foldl (fun record entry => record.define entry.1 entry.2) []

theorem ofEntries_of_distinct
    {entries : Record}
    (distinct : entries.keys.Nodup) :
    ofEntries entries = entries := by
  have general :
      ∀ (rest before : Record),
        (before ++ rest).keys.Nodup →
          rest.foldl (fun record entry => record.define entry.1 entry.2)
            before = before ++ rest := by
    intro rest
    induction rest with
    | nil => simp
    | cons entry others inductionHypothesis =>
        intro before allDistinct
        have fresh : entry.1 ∉ before.keys := by
          rw [keys_append, List.nodup_append] at allDistinct
          exact fun old =>
            allDistinct.2.2 _ old _ (by simp [keys]) rfl
        rw [List.foldl_cons, define, if_neg fresh,
          inductionHypothesis (before ++ [(entry.1, entry.2)])
            (by simpa using allDistinct)]
        simp
  exact general entries [] (by simpa using distinct)

end Record

theorem JsValue.WellFormed.define
    {record : Record}
    {value : JsValue}
    (wellFormed : (JsValue.object record).WellFormed)
    (name : JsString)
    (valueWellFormed : value.WellFormed) :
    (JsValue.object (record.define name value)).WellFormed := by
  cases wellFormed with
  | object distinct each =>
      refine .object ?_ fun entry member => ?_
      · rw [Record.keys_define]
        split
        · exact distinct
        · rename_i fresh
          exact List.nodup_append.mpr
            ⟨distinct, List.nodup_singleton name, by
              rintro key old _ new rfl
              exact fresh (List.mem_singleton.mp new ▸ old)⟩
      · rcases Record.mem_define member with rfl | old
        · exact valueWellFormed
        · exact each entry old

/-! ## Canonical documents -/

open Classical in
/-- The number of data; other numbers do not occur in data. -/
noncomputable def JsNumber.toDouble (number : JsNumber) : Double :=
  if finite : IsDouble (number.finiteValue?.getD 0) then ⟨_, finite⟩
  else ⟨0, isDouble_zero⟩

mutual

/-- The document of a value, with the names of every object in order. -/
noncomputable def document : JsValue → Json Double
  | .null => .null
  | .bool value => .bool value
  | .number value => .number value.toDouble
  | .string value => .text value
  | .array items => .array (documentItems items)
  | .object entries =>
      .object (sortByKey Prod.fst (documentEntries entries))
  | .undefined => .null
  | .exotic => .null

/-- The documents of the items. -/
noncomputable def documentItems : List JsValue → List (Json Double)
  | [] => []
  | item :: rest => document item :: documentItems rest

/-- The documents of the entries. -/
noncomputable def documentEntries :
    Record → List (JsString × Json Double)
  | [] => []
  | (name, value) :: rest => (name, document value) :: documentEntries rest

end

theorem documentItems_eq_map (items : List JsValue) :
    documentItems items = items.map document :=
  eq_map_of_cons rfl (fun _ _ => rfl) items

theorem documentEntries_eq_map (entries : Record) :
    documentEntries entries =
      entries.map fun entry => (entry.1, document entry.2) :=
  eq_map_of_cons rfl (fun _ _ => rfl) entries

theorem toDouble_val
    {number : JsNumber}
    {value : ℚ}
    (finite : number.finiteValue? = some value)
    (double : IsDouble value) :
    number.toDouble = ⟨value, double⟩ := by
  have isDouble : IsDouble (number.finiteValue?.getD 0) := by
    simpa [finite] using double
  rw [JsNumber.toDouble, dif_pos isDouble]
  exact Subtype.ext (by simp [finite])

theorem mem_documentEntries
    {entries : Record}
    (distinct : entries.keys.Nodup)
    {name : JsString}
    {written : Json Double} :
    (name, written) ∈ documentEntries entries ↔
      name ∈ entries.keys ∧ document (entries.get name) = written := by
  rw [documentEntries_eq_map, List.mem_map]
  constructor
  · rintro ⟨⟨other, value⟩, member, same⟩
    obtain ⟨rfl, rfl⟩ := Prod.mk.inj same
    obtain ⟨isKey, rfl⟩ := (Record.mem_iff distinct).mp member
    exact ⟨isKey, rfl⟩
  · rintro ⟨isKey, rfl⟩
    exact ⟨_, Record.mem_of_get isKey, rfl⟩

theorem map_fst_documentEntries (entries : Record) :
    (documentEntries entries).map Prod.fst = entries.keys := by
  rw [documentEntries_eq_map, List.map_map]
  rfl

variable {first second : JsValue}

theorem document_eq_of_sameData
    (same : first.SameData second)
    (firstData : first.IsData)
    (secondData : second.IsData) :
    document first = document second := by
  induction same with
  | null => rfl
  | bool value => rfl
  | string value => rfl
  | number firstValue secondValue =>
      cases firstData with
      | number finite double =>
          cases finite.symm.trans firstValue
          rw [document, document, toDouble_val firstValue double,
            toDouble_val secondValue double]
  | @array first second sameLength _ inductionHypothesis =>
      cases firstData with
      | array firstItems =>
      cases secondData with
      | array secondItems =>
      rw [document, document, documentItems_eq_map, documentItems_eq_map]
      apply congrArg Json.array
      apply List.ext_getElem (by simpa using sameLength)
      intro index firstBound secondBound
      simp only [List.length_map] at firstBound secondBound
      have member :
          (first[index], second[index]) ∈ first.zip second := by
        rw [← List.getElem_zip (h := by simp [firstBound, secondBound])]
        exact List.getElem_mem _
      simpa using inductionHypothesis _ member
        (firstItems _ (List.getElem_mem firstBound))
        (secondItems _ (List.getElem_mem secondBound))
  | @object first second sameNames _ inductionHypothesis =>
      cases firstData with
      | object firstDistinct firstEntries =>
      cases secondData with
      | object secondDistinct secondEntries =>
      rw [document, document]
      apply congrArg Json.object
      have firstNames := map_fst_documentEntries first
      have secondNames := map_fst_documentEntries second
      apply sortByKey_eq_of_perm (by rw [firstNames]; exact firstDistinct)
      have firstUnique : (documentEntries first).Nodup :=
        List.Nodup.of_map Prod.fst (by rw [firstNames]; exact firstDistinct)
      have secondUnique : (documentEntries second).Nodup :=
        List.Nodup.of_map Prod.fst
          (by rw [secondNames]; exact secondDistinct)
      rw [List.perm_ext_iff_of_nodup firstUnique secondUnique]
      rintro ⟨name, written⟩
      rw [mem_documentEntries firstDistinct,
        mem_documentEntries secondDistinct, ← sameNames name]
      refine and_congr_right fun isKey => ?_
      rw [inductionHypothesis name isKey
        (firstEntries _ (Record.mem_of_get isKey))
        (secondEntries _
          (Record.mem_of_get ((sameNames name).mp isKey)))]

/-- Data with the same canonical document is the same data. -/
theorem sameData_of_document_eq
    (firstData : first.IsData)
    (secondData : second.IsData)
    (same : document first = document second) :
    first.SameData second := by
  induction firstData generalizing second with
  | null =>
      cases secondData <;> simp [document] at same
      exact .null
  | bool value =>
      cases secondData <;> simp [document] at same
      exact same ▸ .bool value
  | string value =>
      cases secondData <;> simp [document] at same
      exact same ▸ .string value
  | number firstValue firstDouble =>
      cases secondData with
      | number secondValue secondDouble =>
          simp only [document, Json.number.injEq,
            toDouble_val firstValue firstDouble,
            toDouble_val secondValue secondDouble,
            Subtype.mk.injEq] at same
          exact .number firstValue (same ▸ secondValue)
      | _ => simp [document] at same
  | @array first _ inductionHypothesis =>
      cases secondData with
      | @array second secondItems =>
          simp only [document, Json.array.injEq, documentItems_eq_map]
            at same
          have sameLength : first.length = second.length := by
            simpa using congrArg List.length same
          refine .array sameLength fun pair member => ?_
          obtain ⟨index, bound, rfl⟩ := List.getElem_of_mem member
          simp only [List.length_zip, lt_min_iff] at bound
          have sameItem := List.getElem_of_eq same
            (i := index) (by simpa using bound.1)
          simp only [List.getElem_map] at sameItem
          simp only [List.getElem_zip]
          exact inductionHypothesis _ (List.getElem_mem bound.1)
            (secondItems _ (List.getElem_mem bound.2)) sameItem
      | _ => simp [document] at same
  | @object first firstDistinct _ inductionHypothesis =>
      cases secondData with
      | @object second secondDistinct secondEntries =>
          simp only [document, Json.object.injEq] at same
          have reordered :
              (documentEntries first).Perm (documentEntries second) := by
            have sorted := sortByKey_perm Prod.fst (documentEntries first)
            rw [same] at sorted
            exact sorted.symm.trans
              (sortByKey_perm Prod.fst (documentEntries second))
          have sameNames :
              ∀ name, name ∈ first.keys ↔ name ∈ second.keys := by
            intro name
            rw [← map_fst_documentEntries first,
              ← map_fst_documentEntries second]
            exact (reordered.map Prod.fst).mem_iff
          refine .object sameNames fun name isKey => ?_
          have written :
              (name, document (first.get name)) ∈ documentEntries second :=
            reordered.mem_iff.mp
              ((mem_documentEntries firstDistinct).mpr ⟨isKey, rfl⟩)
          have sameValue :=
            ((mem_documentEntries secondDistinct).mp written).2
          exact inductionHypothesis _ (Record.mem_of_get isKey)
            (secondEntries _
              (Record.mem_of_get ((sameNames name).mp isKey)))
            sameValue.symm
      | _ => simp [document] at same

theorem document_eq_iff
    (firstData : first.IsData)
    (secondData : second.IsData) :
    document first = document second ↔ first.SameData second :=
  ⟨sameData_of_document_eq firstData secondData,
    fun same => document_eq_of_sameData same firstData secondData⟩

/-! ## `JSON.parse` -/

mutual

/-- The value of a parsed document; a repeated name keeps its last value. -/
def treeValue (read : JsString → JsNumber) : Json JsString → JsValue
  | .null => .null
  | .bool value => .bool value
  | .number numeral => .number (read numeral)
  | .text value => .string value
  | .array items => .array (treeItems read items)
  | .object entries => .object (Record.ofEntries (treeEntries read entries))

/-- The values of the items. -/
def treeItems (read : JsString → JsNumber) : List (Json JsString) → List JsValue
  | [] => []
  | item :: rest => treeValue read item :: treeItems read rest

/-- The values of the entries. -/
def treeEntries (read : JsString → JsNumber) :
    List (JsString × Json JsString) → Record
  | [] => []
  | (name, value) :: rest =>
      (name, treeValue read value) :: treeEntries read rest

end

/-- `JSON.parse`; `none` is a syntax error. -/
def jsonParse (format : NumberFormat) (text : JsString) : Option JsValue :=
  (Json.parse text).map (treeValue format.read)

/-- The value that a document is read back as. -/
def readBack (format : NumberFormat) (written : Json Double) : JsValue :=
  treeValue format.read (Json.mapNumbers format.doubles.render written)

section

variable (format : NumberFormat)

theorem readBack_array
    (items : List (Json Double)) :
    readBack format (.array items) =
      .array (items.map (readBack format)) := by
  have inside :
      treeItems format.read (Json.mapItems format.doubles.render items) =
        items.map (readBack format) := by
    induction items with
    | nil => rfl
    | cons item rest inductionHypothesis =>
        rw [Json.mapItems, treeItems, inductionHypothesis]
        rfl
  rw [readBack, Json.mapNumbers, treeValue, inside]

theorem readBack_object
    (entries : List (JsString × Json Double)) :
    readBack format (.object entries) =
      .object (Record.ofEntries
        (entries.map fun entry => (entry.1, readBack format entry.2))) := by
  have inside :
      treeEntries format.read
          (Json.mapEntries format.doubles.render entries) =
        entries.map fun entry => (entry.1, readBack format entry.2) := by
    induction entries with
    | nil => rfl
    | cons entry rest inductionHypothesis =>
        obtain ⟨name, value⟩ := entry
        rw [Json.mapEntries, treeEntries, inductionHypothesis]
        rfl
  rw [readBack, Json.mapNumbers, treeValue, inside]

/-- The canonical document of data is read back as that data. -/
theorem sameData_readBack
    {value : JsValue}
    (data : value.IsData) :
    (readBack format (document value)).SameData value := by
  induction data with
  | null => exact .null
  | bool value => exact .bool value
  | string value => exact .string value
  | @number value finite isFinite double =>
      have read :
          readBack format (document (.number value)) =
            .number (.finite finite) := by
        rw [document, toDouble_val isFinite double]
        exact congrArg JsValue.number (format.read_toText double)
      rw [read]
      exact .number rfl isFinite
  | @array items _ inductionHypothesis =>
      rw [document, readBack_array, documentItems_eq_map, List.map_map]
      refine .array (by simp) fun pair member => ?_
      obtain ⟨index, bound, rfl⟩ := List.getElem_of_mem member
      simp only [List.length_zip, List.length_map, lt_min_iff] at bound
      simp only [List.getElem_zip, List.getElem_map, Function.comp_apply]
      exact inductionHypothesis _ (List.getElem_mem bound.2)
  | @object entries distinct _ inductionHypothesis =>
      have sorted := sortByKey_perm Prod.fst (documentEntries entries)
      have names := (sorted.map Prod.fst).trans
        (.of_eq (map_fst_documentEntries entries))
      have keys :
          Record.keys ((sortByKey Prod.fst (documentEntries entries)).map
            fun entry => (entry.1, readBack format entry.2)) =
          (sortByKey Prod.fst (documentEntries entries)).map Prod.fst := by
        rw [Record.keys, List.map_map]
        rfl
      have keysDistinct :
          (Record.keys ((sortByKey Prod.fst (documentEntries entries)).map
            fun entry => (entry.1, readBack format entry.2))).Nodup := by
        rw [keys]
        exact names.nodup_iff.mpr distinct
      rw [document, readBack_object, Record.ofEntries_of_distinct keysDistinct]
      refine .object (fun name => ?_) fun name isKey => ?_
      · rw [keys]
        exact names.mem_iff
      · rw [keys, names.mem_iff] at isKey
        have written :
            (name, document (entries.get name)) ∈
              sortByKey Prod.fst (documentEntries entries) :=
          sorted.mem_iff.mpr ((mem_documentEntries distinct).mpr ⟨isKey, rfl⟩)
        have readName :=
          Record.get_of_mem keysDistinct
            (List.mem_map.mpr ⟨_, written, rfl⟩)
        rw [readName]
        exact inductionHypothesis _ (Record.mem_of_get isKey)

theorem jsonParse_stringify
    (written : Json Double) :
    jsonParse format (Json.stringify format.doubles written) =
      some (readBack format written) := by
  rw [jsonParse, Json.parse_stringify format.doubles
    (fun number => format.numeral number.property)]
  rfl

end

end Js
