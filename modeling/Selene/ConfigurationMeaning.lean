import Selene.ExtensionPlanCanonical

/-!
# What a configuration schema means

A schema says of a value its kind and bounds, of an object which properties it
must have and may have, and the same of each property.  The kernel looks for
names with `in`, on objects that also have what every object inherits: a merged
configuration and, where a schema declares no properties, the empty object.  So
an inherited name counts as present or declared there (`accepts_iff`), and the
schema means what it says as long as no such name decides (`meansSchema_iff`).
-/

namespace Selene.Extension

open Js Generation

/-! ## Conforming values -/

/-- A value is of the kind that a schema names. -/
inductive HasKind : JsValue → JsString → Prop where
  | array (items : List JsValue) : HasKind (.array items) (js "array")
  | boolean (value : Bool) : HasKind (.bool value) (js "boolean")
  | integer {value : JsNumber} :
      value.isInteger = true → HasKind (.number value) (js "integer")
  | number {value : JsNumber} :
      value.isFinite = true → HasKind (.number value) (js "number")
  | null : HasKind .null (js "null")
  | object (entries : Record) : HasKind (.object entries) (js "object")
  | string (value : JsString) : HasKind (.string value) (js "string")

section Tolerance

-- Names that count as declared where a schema declares no properties.
variable (tolerated : JsString → Prop)

/-- A schema declares a property of a name. -/
def Declares (schema : Record) (name : JsString) : Prop :=
  match schema.get (js "properties") with
  | .object properties => name ∈ Record.keys properties
  | _ => tolerated name

/-- Every name is declared, unless the schema takes any. -/
def KnowsNames (schema entries : Record) : Prop :=
  schema.get (js "additionalProperties") = .bool true ∨
    ∀ name ∈ entries.keys, Declares tolerated schema name

/-- The schemas of the properties that a schema declares. -/
def declared (schema : Record) : Record :=
  (schema.get (js "properties")).entries

/-- A value is what a schema asks for. -/
inductive Conforms : Record → JsValue → Prop where
  | intro {schema : Record} {value : JsValue}
      (kind : ∃ kind, schema.get (js "type") = .string kind ∧
        HasKind value kind)
      (listed : ∀ candidates, schema.get (js "enum") = .array candidates →
        ∃ candidate ∈ candidates, candidate.strictEquals value = true)
      (atLeast : ∀ least number, schema.get (js "minimum") = .number least →
        value = .number number → number.below least = false)
      (items : ∀ values item child, value = .array values → item ∈ values →
        schema.get (js "items") = .object child → Conforms child item)
      (required : ∀ entries, value = .object entries →
        stringList (schema.get (js "required")) ⊆ Record.keys entries)
      (known : ∀ entries, value = .object entries →
        KnowsNames tolerated schema entries)
      (properties : ∀ entries name child, value = .object entries →
        name ∈ Record.keys entries → (name, .object child) ∈ declared schema →
          Conforms child (Record.get entries name)) :
      Conforms schema value

end Tolerance

theorem configurationTypeMatches_iff
    {value : JsValue}
    {kind : JsString} :
    configurationTypeMatches value (.string kind) = true ↔
      HasKind value kind := by
  constructor
  · intro same
    cases value with
    | array items =>
        obtain rfl : kind = js "array" := of_decide_eq_true same
        exact .array items
    | bool value =>
        obtain rfl : kind = js "boolean" := of_decide_eq_true same
        exact .boolean value
    | number value =>
        simp only [configurationTypeMatches, Bool.or_eq_true, Bool.and_eq_true,
          decide_eq_true_eq, isText_string] at same
        rcases same with ⟨rfl, isInteger⟩ | ⟨rfl, isFinite⟩
        · exact .integer isInteger
        · exact .number isFinite
    | null =>
        obtain rfl : kind = js "null" := of_decide_eq_true same
        exact .null
    | object entries =>
        obtain rfl : kind = js "object" := of_decide_eq_true same
        exact .object entries
    | string value =>
        obtain rfl : kind = js "string" := of_decide_eq_true same
        exact .string value
    | undefined => cases same
    | exotic => cases same
  · intro isKind
    cases isKind <;> simp [configurationTypeMatches, *]

/-- A name that every object inherits. -/
def Inherited (name : JsString) : Prop :=
  name ∈ inheritedNames

instance (name : JsString) : Decidable (Inherited name) :=
  inferInstanceAs (Decidable (name ∈ inheritedNames))

variable {schema : Record} {value : JsValue}

theorem isSchemaProperty_iff {name : JsString} :
    isSchemaProperty schema name = true ↔ Declares Inherited schema name := by
  rw [isSchemaProperty, Declares]
  cases schema.get (js "properties") <;> simp [Inherited]

theorem strictEquals_true_iff :
    value.strictEquals (.bool true) = true ↔ value = .bool true := by
  cases value <;> simp [JsValue.strictEquals]

theorem kind_of_valid
    (valid : hasValidSchemaFields schema = true) :
    (∃ kind, schema.get (js "type") = .string kind) ∧
      (schema.get (js "enum") = .undefined ∨
        ∃ candidates, schema.get (js "enum") = .array candidates) ∧
      (schema.get (js "minimum") = .undefined ∨
        ∃ least, schema.get (js "minimum") = .number least ∧
          ∃ kind ∈ [js "integer", js "number"],
            schema.get (js "type") = .string kind) := by
  simp only [hasValidSchemaFields, Bool.and_eq_true, Bool.or_eq_true] at valid
  obtain ⟨⟨⟨⟨⟨kind, listed⟩, least⟩, -⟩, -⟩, -⟩ := valid
  refine ⟨?_, ?_, ?_⟩
  · cases isKind : schema.get (js "type") with
    | string text => exact ⟨text, rfl⟩
    | _ => rw [isKind] at kind; cases kind
  · cases isEnum : schema.get (js "enum") with
    | undefined => exact Or.inl rfl
    | array items => exact Or.inr ⟨items, rfl⟩
    | _ => rw [isEnum] at listed; cases listed
  · rcases least with absent | ⟨isNumber, ofKind⟩
    · have isUndefined := of_decide_eq_true absent
      cases isLeast : schema.get (js "minimum") with
      | undefined => exact Or.inl rfl
      | _ => rw [isLeast] at isUndefined; exact isUndefined.elim
    · cases isLeast : schema.get (js "minimum") with
      | number value =>
          cases isKind : schema.get (js "type") with
          | string text =>
              rw [isKind] at ofKind
              exact Or.inr
                ⟨value, rfl, text, by simpa [isOneOf] using ofKind, rfl⟩
          | _ => rw [isKind] at ofKind; cases ofKind
      | _ => rw [isLeast] at isNumber; cases isNumber

variable {format : NumberFormat} {path : JsString}

theorem fieldError_eq_none
    (valid : hasValidSchemaFields schema = true) :
    fieldError format schema value path = none ↔
      (∃ kind, schema.get (js "type") = .string kind ∧ HasKind value kind) ∧
        (∀ candidates, schema.get (js "enum") = .array candidates →
          ∃ candidate ∈ candidates, candidate.strictEquals value = true) ∧
        ∀ least number, schema.get (js "minimum") = .number least →
          value = .number number → number.below least = false := by
  obtain ⟨⟨kind, isKind⟩, isEnum, isLeast⟩ := kind_of_valid valid
  have matched : configurationTypeMatches value (schema.get (js "type")) =
      true ↔ ∃ kind, schema.get (js "type") = .string kind ∧
        HasKind value kind := by
    rw [isKind, configurationTypeMatches_iff]
    simp
  have listed : fieldError.absentOrSome value (schema.get (js "enum")) =
      true ↔ ∀ candidates, schema.get (js "enum") = .array candidates →
        ∃ candidate ∈ candidates, candidate.strictEquals value = true := by
    rcases isEnum with none | ⟨candidates, some⟩
    · simp [none, fieldError.absentOrSome]
    · simp [some, fieldError.absentOrSome, JsValue.elements?]
  rw [fieldError, ← matched, ← listed]
  by_cases isMatched :
      configurationTypeMatches value (schema.get (js "type")) = true
  · have bounded : fieldError.belowMinimum value (schema.get (js "minimum")) =
        false ↔ ∀ least number, schema.get (js "minimum") = .number least →
          value = .number number → number.below least = false := by
      rcases isLeast with none | ⟨least, some, ofKind⟩
      · simp [none, fieldError.belowMinimum]
      · obtain ⟨other, sameKind, ofOther⟩ := matched.mp isMatched
        obtain ⟨text, isListed, isText⟩ := ofKind
        have same := JsValue.string.inj (isText.symm.trans sameKind)
        rw [same] at isListed
        have numeric : ∃ number, value = .number number := by
          cases ofOther <;>
            first
            | exact ⟨_, rfl⟩
            | exact absurd isListed (by decide)
        obtain ⟨number, rfl⟩ := numeric
        simp [some, fieldError.belowMinimum]
    rw [← bounded]
    cases fieldError.absentOrSome value (schema.get (js "enum")) <;>
      cases fieldError.belowMinimum value (schema.get (js "minimum")) <;>
        simp [isMatched]
  · simp [isMatched]

theorem namesError_eq_none
    (kind : ∃ kind, schema.get (js "type") = .string kind ∧
      HasKind value kind) :
    namesError schema value path = none ↔
      ∀ entries, value = .object entries →
        stringList (schema.get (js "required")) ⊆ Record.keys entries ∧
          KnowsNames Inherited schema entries := by
  obtain ⟨text, isKind, ofKind⟩ := kind
  cases ofKind with
  | object entries =>
      have missing : ((stringList (schema.get (js "required"))).any
          fun key => !(Record.keys entries).contains key) = true ↔
            ¬ stringList (schema.get (js "required")) ⊆ Record.keys entries := by
        simp [List.subset_def]
      have unknown : (!(schema.get (js "additionalProperties")).strictEquals
            (.bool true) && (Record.keys entries).any
              fun key => !isSchemaProperty schema key) = true ↔
            ¬ KnowsNames Inherited schema entries := by
        simp [KnowsNames, ← strictEquals_true_iff, ← isSchemaProperty_iff]
      simp only [namesError, isKind, isText_string, decide_true, Bool.not_true,
        Bool.false_eq_true, if_false, JsValue.object.injEq, forall_eq', missing,
        unknown]
      split
      · simp [*]
      · split <;> simp_all
  | _ => simp [namesError]

/-! ## Agreement -/

theorem mem_enumerated {α : Type} {entries : List (JsString × α)}
    {entry : JsString × α} :
    entry ∈ Record.enumerated entries ↔ entry ∈ entries := by
  rw [Record.enumerated, List.mem_append, (sortByKey_perm _ _).mem_iff,
    List.mem_filter, List.mem_filter, ← and_or_left]
  refine and_iff_left ?_
  cases Record.arrayIndex? entry.1 <;> simp

theorem forall_zipIdx {α : Type} {items : List α} {holds : α → Prop} :
    (∀ entry ∈ items.zipIdx, holds entry.1) ↔ ∀ item ∈ items, holds item := by
  constructor
  · intro each item member
    obtain ⟨index, isThere⟩ := List.mem_iff_getElem?.mp member
    exact each (item, index) (List.mk_mem_zipIdx_iff_getElem?.mpr isThere)
  · exact fun each entry member =>
      each entry.1 (List.fst_mem_of_mem_zipIdx member)

theorem object_of_valid
    {schema : JsValue}
    (valid : hasValidConfigurationSchema schema = true) :
    schema = .object schema.entries := by
  cases schema with
  | object entries => rfl
  | _ => cases valid

mutual

theorem validateConfigurationValue_eq_none :
    ∀ (schema value : JsValue) (path : JsString),
      hasValidConfigurationSchema schema = true →
        (validateConfigurationValue format schema value path = none ↔
          Conforms Inherited schema.entries value)
  | .object schema, value, path, valid => by
      rw [hasValidConfigurationSchema, Bool.and_eq_true] at valid
      obtain ⟨fields, parts⟩ := valid
      rw [validateConfigurationValue]
      simp only [Option.or_eq_none_iff, List.findSome?_eq_none_iff,
        mem_enumerated]
      rw [fieldError_eq_none fields,
        itemsError_eq_none _ schema value path parts,
        propertiesErrors_eq_none _ schema value path parts]
      constructor
      · rintro ⟨⟨kind, listed, atLeast⟩, items, names, properties⟩
        rw [namesError_eq_none kind] at names
        refine .intro kind listed atLeast ?_ (fun entries same =>
          (names entries same).1) (fun entries same => (names entries same).2) ?_
        · rintro values item child rfl member isChild
          exact items item member child isChild
        · rintro entries name child rfl member isChild
          exact properties name child member isChild
      · rintro ⟨kind, listed, atLeast, items, required, known, properties⟩
        refine ⟨⟨kind, listed, atLeast⟩, ?_,
          (namesError_eq_none kind).mpr fun entries same =>
            ⟨required entries same, known entries same⟩, ?_⟩
        · intro item member child isChild
          cases value with
          | array values => exact items values item child rfl member isChild
          | _ => cases member
        · intro name child member isChild
          cases value with
          | object entries =>
              exact properties entries name child rfl member isChild
          | _ => cases member

theorem itemsError_eq_none :
    ∀ (type : JsValue) (fields : Record) (value : JsValue) (path : JsString),
      hasValidParts type fields = true →
        (itemsError format fields value path = none ↔
          ∀ item ∈ value.elements?.getD [], ∀ child,
            fields.get (js "items") = .object child →
              Conforms Inherited child item)
  | _, [], value, path, _ => by simp [itemsError]
  | type, (name, schema) :: rest, value, path, valid => by
      rw [hasValidParts, Bool.and_eq_true] at valid
      have later := itemsError_eq_none type rest value path valid.2
      rw [itemsError]
      by_cases isItems : name = js "items"
      · have validSchema : hasValidConfigurationSchema schema = true := by
          have own := valid.1
          rw [if_pos isItems, Bool.and_eq_true] at own
          exact own.2
        have each := fun item path =>
          validateConfigurationValue_eq_none schema item path validSchema
        rw [if_pos isItems, List.findSome?_eq_none_iff]
        simp only [each, Record.get_cons, if_pos isItems]
        rw [@forall_zipIdx _ (value.elements?.getD [])
          fun item => Conforms Inherited schema.entries item]
        rw [object_of_valid validSchema]
        simp [JsValue.entries]
      · rw [if_neg isItems, later]
        simp only [Record.get_cons, if_neg isItems]

theorem propertiesErrors_eq_none :
    ∀ (type : JsValue) (fields : Record) (value : JsValue) (path : JsString),
      hasValidParts type fields = true →
        ((∀ entry ∈ propertiesErrors format fields value path,
            entry.2 = none) ↔
          ∀ name child, name ∈ value.entries.keys →
            (name, .object child) ∈ declared fields →
              Conforms Inherited child (value.entries.get name))
  | _, [], value, path, _ => by simp [propertiesErrors, declared, JsValue.entries]
  | type, (name, schemas) :: rest, value, path, valid => by
      rw [hasValidParts, Bool.and_eq_true] at valid
      have later := propertiesErrors_eq_none type rest value path valid.2
      rw [propertiesErrors]
      by_cases isProperties : name = js "properties"
      · have own := valid.1
        rw [if_neg (by rw [isProperties]; decide), if_pos isProperties,
          Bool.and_eq_true] at own
        have validSchemas := own.2
        rw [if_pos isProperties]
        cases schemas with
        | object properties =>
            have each := eachError_eq_none properties value path validSchemas
            simpa only [schemaErrors, declared, Record.get_cons,
              if_pos isProperties, JsValue.entries] using each
        | _ => cases validSchemas
      · rw [if_neg isProperties, later]
        simp only [declared, Record.get_cons, if_neg isProperties]

theorem eachError_eq_none :
    ∀ (properties : Record) (value : JsValue) (path : JsString),
      eachIsValidSchema properties = true →
        ((∀ entry ∈ eachError format properties value path,
            entry.2 = none) ↔
          ∀ name child, name ∈ value.entries.keys →
            (name, .object child) ∈ properties →
              Conforms Inherited child (value.entries.get name))
  | [], value, path, _ => by simp [eachError]
  | (key, schema) :: rest, value, path, valid => by
      rw [eachIsValidSchema, Bool.and_eq_true] at valid
      have own := validateConfigurationValue_eq_none schema
        (value.entries.get key) (path ++ js "." ++ key) valid.1
      have later := eachError_eq_none rest value path valid.2
      have here : (if value.entries.keys.contains key then
          validateConfigurationValue format schema (value.entries.get key)
            (path ++ js "." ++ key) else none) = none ↔
          (key ∈ value.entries.keys →
            Conforms Inherited schema.entries (value.entries.get key)) := by
        by_cases member : key ∈ value.entries.keys
        · rw [if_pos (List.contains_iff_mem.mpr member), own]
          exact (imp_iff_right member).symm
        · simp [member]
      rw [eachError, List.forall_mem_cons, later, here]
      constructor
      · rintro ⟨first, others⟩ name child member isChild
        rcases List.mem_cons.mp isChild with same | isLater
        · obtain ⟨rfl, rfl⟩ := Prod.mk.inj same
          exact first member
        · exact others name child member isLater
      · intro all
        refine ⟨fun member => all key schema.entries member ?_,
          fun name child member isChild =>
            all name child member (List.mem_cons_of_mem _ isChild)⟩
        rw [← object_of_valid valid.1]
        exact List.mem_cons_self

end

/-! ## Merged configurations -/

/-- A configuration is what its schema asks for, with some names tolerated. -/
structure MeansSchema (tolerated : JsString → Prop) (required : List JsString)
    (schema result : Record) : Prop where
  required : ∀ name ∈ required ++ stringList (schema.get (js "required")),
    name ∈ result.keys ∨ tolerated name
  known : KnowsNames tolerated schema result
  properties : ∀ name child, name ∈ result.keys →
    (name, .object child) ∈ declared schema →
      Conforms tolerated child (result.get name)

/-- No declared property has an inherited name that the configuration lacks. -/
def NoneHidden (schema result : Record) : Prop :=
  ∀ entry ∈ declared schema, Inherited entry.1 → entry.1 ∈ result.keys

theorem eachIsValidSchema_declared
    {type : JsValue}
    {fields : Record}
    (valid : hasValidParts type fields = true) :
    eachIsValidSchema (declared fields) = true := by
  induction fields with
  | nil => rfl
  | cons entry rest inductionHypothesis =>
      obtain ⟨name, value⟩ := entry
      rw [hasValidParts, Bool.and_eq_true] at valid
      rw [declared, Record.get_cons]
      split
      · rename_i isProperties
        have own := valid.1
        rw [if_neg (by rw [isProperties]; decide), if_pos isProperties,
          Bool.and_eq_true] at own
        cases value with
        | object properties => exact own.2
        | _ => cases own.2
      · exact inductionHypothesis valid.2

theorem valid_of_mem
    {properties : Record}
    (valid : eachIsValidSchema properties = true)
    {entry : JsString × JsValue}
    (member : entry ∈ properties) :
    hasValidConfigurationSchema entry.2 = true := by
  induction properties with
  | nil => cases member
  | cons first rest inductionHypothesis =>
      obtain ⟨name, value⟩ := first
      rw [eachIsValidSchema, Bool.and_eq_true] at valid
      rcases List.mem_cons.mp member with rfl | later
      · exact valid.1
      · exact inductionHypothesis valid.2 later

theorem not_conforms_exotic {tolerated : JsString → Prop} :
    ¬ Conforms tolerated schema .exotic := by
  rintro ⟨⟨_, _, ofKind⟩⟩
  cases ofKind

variable {result : Record}

theorem schemaError_eq_none
    (valid : hasValidConfigurationSchema (.object schema) = true) :
    schemaError format schema result = none ↔
      (∀ name child, name ∈ result.keys →
        (name, .object child) ∈ declared schema →
          Conforms Inherited child (result.get name)) ∧
        NoneHidden schema result := by
  rw [hasValidConfigurationSchema, Bool.and_eq_true] at valid
  have validEach := eachIsValidSchema_declared valid.2
  have each : ∀ entry ∈ declared schema,
      ((if hasProperty result entry.1 then
          validateConfigurationValue format entry.2
            (readProperty result entry.1) (js "configuration." ++ entry.1)
        else none) = none ↔
        (entry.1 ∈ result.keys →
          Conforms Inherited entry.2.entries (result.get entry.1)) ∧
        (Inherited entry.1 → entry.1 ∈ result.keys)) := by
    intro entry member
    have own := @validateConfigurationValue_eq_none format entry.2
      (readProperty result entry.1) (js "configuration." ++ entry.1)
      (valid_of_mem validEach member)
    by_cases isOwn : entry.1 ∈ result.keys
    · rw [if_pos (by simp [hasProperty, isOwn]), own, readProperty,
        if_pos (List.contains_iff_mem.mpr isOwn)]
      simp [isOwn]
    · by_cases inherited : Inherited entry.1
      · have reads : readProperty result entry.1 = .exotic := by
          rw [readProperty, if_neg (by simp [isOwn]),
            if_pos (List.contains_iff_mem.mpr inherited)]
        rw [reads] at own
        have present : hasProperty result entry.1 = true := by
          rw [hasProperty, Bool.or_eq_true]
          exact Or.inr (List.contains_iff_mem.mpr inherited)
        rw [if_pos present, reads, own]
        exact iff_of_false not_conforms_exotic
          fun both => isOwn (both.2 inherited)
      · have absent : hasProperty result entry.1 = false := by
          simp only [hasProperty, Bool.or_eq_false_iff]
          exact ⟨by simp [isOwn],
            Bool.eq_false_iff.mpr (mt List.contains_iff_mem.mp inherited)⟩
        simp [absent, isOwn, inherited]
  rw [schemaError, List.findSome?_eq_none_iff]
  simp only [mem_enumerated]
  refine (forall₂_congr each).trans ?_
  constructor
  · intro all
    refine ⟨fun name child isOwn isChild => ?_, fun entry member => ?_⟩
    · exact (all (name, .object child) isChild).1 isOwn
    · exact (all entry member).2
  · rintro ⟨properties, hidden⟩ entry member
    refine ⟨fun isOwn => properties entry.1 _ isOwn ?_, hidden entry member⟩
    rw [← object_of_valid (valid_of_mem validEach member)]
    exact member

/-- The configuration of a manifest as a record. -/
def configurationOf (manifest : Record) : Record :=
  (manifest.get (js "configuration")).entries

variable {manifest : Record}

theorem configurationError_eq_none
    (hasSchema : (configurationOf manifest).get (js "schema") =
      .object schema)
    (valid : hasValidConfigurationSchema (.object schema) = true) :
    configurationError format manifest result = none ↔
      MeansSchema Inherited
          (stringList ((configurationOf manifest).get (js "required")))
          schema result ∧
        NoneHidden schema result := by
  have lacks (names : List JsString) :
      (names.any fun name => !hasProperty result name) = true ↔
        ¬ ∀ name ∈ names, name ∈ result.keys ∨ Inherited name := by
    simp [hasProperty, Inherited]
  have unknown : (!(schema.get (js "additionalProperties")).strictEquals
        (.bool true) && result.keys.any
          fun key => !isSchemaProperty schema key) = true ↔
        ¬ KnowsNames Inherited schema result := by
    simp [KnowsNames, ← strictEquals_true_iff, ← isSchemaProperty_iff]
  have properties := @schemaError_eq_none schema format result valid
  have parts : MeansSchema Inherited
        (stringList ((configurationOf manifest).get (js "required")))
        schema result ∧ NoneHidden schema result ↔
      (∀ name ∈ stringList ((configurationOf manifest).get (js "required")),
          name ∈ result.keys ∨ Inherited name) ∧
        (∀ name ∈ stringList (schema.get (js "required")),
          name ∈ result.keys ∨ Inherited name) ∧
        KnowsNames Inherited schema result ∧
        schemaError format schema result = none := by
    rw [properties]
    constructor
    · rintro ⟨⟨required, known, conform⟩, hidden⟩
      exact ⟨fun name member => required name (List.mem_append_left _ member),
        fun name member => required name (List.mem_append_right _ member),
        known, conform, hidden⟩
    · rintro ⟨own, ofSchema, known, conform, hidden⟩
      refine ⟨⟨fun name member => ?_, known, conform⟩, hidden⟩
      exact (List.mem_append.mp member).elim (own name) (ofSchema name)
  rw [parts, configurationError]
  unfold configurationOf at hasSchema ⊢
  simp only [hasSchema]
  split
  · rename_i missing
    simp [(lacks _).mp missing]
  · rename_i present
    rw [lacks, not_not] at present
    split
    · rename_i missing
      simp [(lacks _).mp missing]
    · rename_i allPresent
      rw [lacks, not_not] at allPresent
      split
      · rename_i isUnknown
        simp [unknown.mp isUnknown]
      · rename_i known
        rw [unknown, not_not] at known
        exact ⟨fun none => ⟨present, allPresent, known, none⟩,
          fun all => all.2.2.2⟩

/-- The kernel takes a configuration for a manifest. -/
def Accepts (format : NumberFormat) (manifest supplied : Record) : Prop :=
  ∃ merged, mergeConfiguration format manifest supplied = .ok (.ok merged)

instance (format : NumberFormat) (manifest supplied : Record) :
    Decidable (Accepts format manifest supplied) :=
  match isMerged : mergeConfiguration format manifest supplied with
  | .ok (.ok merged) => isTrue ⟨merged, isMerged⟩
  | .ok (.error _) => isFalse (by
      rintro ⟨merged, accepted⟩
      rw [isMerged] at accepted
      cases accepted)
  | .error _ => isFalse (by
      rintro ⟨merged, accepted⟩
      rw [isMerged] at accepted
      cases accepted)

theorem accepts_iff
    {supplied : Record}
    (valid : hasValidExtensionConfiguration
      (manifest.get (js "configuration")) = true)
    (hasSchema : (configurationOf manifest).get (js "schema") =
      .object schema) :
    Accepts format manifest supplied ↔
      MeansSchema Inherited
          (stringList ((configurationOf manifest).get (js "required")))
          schema (mergedEntries manifest supplied) ∧
        NoneHidden schema (mergedEntries manifest supplied) ∧
        Snapshotable (.object (mergedEntries manifest supplied)) := by
  have validSchema : hasValidConfigurationSchema (.object schema) = true := by
    have isValid := valid
    cases isConfiguration : manifest.get (js "configuration") with
    | object configuration =>
        rw [isConfiguration, hasValidExtensionConfiguration] at isValid
        simp only [Bool.and_eq_true, Bool.or_eq_true] at isValid
        rw [configurationOf, isConfiguration] at hasSchema
        have read : Record.get configuration (js "schema") = .object schema :=
          hasSchema
        rw [read] at isValid
        exact isValid.2.resolve_left fun absent => of_decide_eq_true absent
    | _ => rw [isConfiguration] at isValid; cases isValid
  rw [← and_assoc, ← @configurationError_eq_none schema format _ manifest
    hasSchema validSchema]
  unfold Accepts
  simp only [mergeConfiguration_eq_ok, valid, or_true, true_and,
    snapshotData_eq_ok]
  constructor
  · rintro ⟨merged, noError, fits, -⟩
    exact ⟨noError, fits⟩
  · rintro ⟨noError, fits⟩
    exact ⟨_, noError, fits, rfl⟩

/-! ## When a schema means what it says -/

theorem KnowsNames.mono
    {tolerated more : JsString → Prop}
    (weaker : ∀ name, tolerated name → more name)
    {entries : Record}
    (knows : KnowsNames tolerated schema entries) :
    KnowsNames more schema entries := by
  refine knows.imp_right fun each name member => ?_
  have declares := each name member
  unfold Declares at declares ⊢
  split at declares <;> simp_all

theorem Conforms.mono
    {tolerated more : JsString → Prop}
    (weaker : ∀ name, tolerated name → more name)
    (conforms : Conforms tolerated schema value) :
    Conforms more schema value := by
  induction conforms with
  | intro kind listed atLeast _ required known _ items properties =>
      exact .intro kind listed atLeast items required
        (fun entries same => (known entries same).mono weaker) properties

/-- No name is tolerated. -/
def Strictly (_ : JsString) : Prop :=
  False

/--
A configuration that its schema takes is refused: a declared property with an
inherited name is absent, or the configuration is too large to be copied.
-/
def WronglyRefused (required : List JsString) (schema result : Record) : Prop :=
  MeansSchema Strictly required schema result ∧
    ¬ (NoneHidden schema result ∧ Snapshotable (.object result))

/--
A configuration that its schema does not take is accepted: all that is required
and missing, or there and not declared by a schema without properties, are
inherited names.
-/
def WronglyTaken (required : List JsString) (schema result : Record) : Prop :=
  ¬ MeansSchema Strictly required schema result ∧
    MeansSchema Inherited required schema result ∧
    NoneHidden schema result ∧ Snapshotable (.object result)

/--
The kernel accepts what a schema takes and nothing else, unless an inherited
name is taken for one that the data has, or the configuration is too large.
-/
theorem meansSchema_iff
    (format : NumberFormat)
    (manifest supplied schema : Record)
    (valid : hasValidExtensionConfiguration
      (manifest.get (js "configuration")) = true)
    (hasSchema : (configurationOf manifest).get (js "schema") =
      .object schema) :
    let required :=
      stringList ((configurationOf manifest).get (js "required"))
    let result := mergedEntries manifest supplied
    (Accepts format manifest supplied ↔
        MeansSchema Strictly required schema result) ↔
      ¬ WronglyRefused required schema result ∧
        ¬ WronglyTaken required schema result := by
  intro required result
  have accepted := @accepts_iff schema format manifest supplied valid hasSchema
  have tolerant (strict : MeansSchema Strictly required schema result) :
      MeansSchema Inherited required schema result :=
    ⟨fun name member => (strict.required name member).imp_right False.elim,
      strict.known.mono fun _ => False.elim,
      fun name child isOwn isChild =>
        (strict.properties name child isOwn isChild).mono fun _ => False.elim⟩
  rw [accepted, WronglyRefused, WronglyTaken]
  tauto

/-- A manifest with a configuration schema. -/
def manifestOfSchema (schema : Record) : Record :=
  (sampleManifest "a" []).entries ++
    [(js "configuration", .object [(js "schema", .object schema)])]

/-- A schema of an object that must have a label. -/
def labelSchema : Record :=
  [(js "properties", .object
      [(js "label", .object [(js "type", .string (js "string"))])]),
    (js "required", .array [.string (js "label")]),
    (js "type", .string (js "object"))]

theorem meansSchema_label :
    let result := mergedEntries (manifestOfSchema labelSchema)
      [(js "label", .string (js "Save"))]
    let required := stringList
      ((configurationOf (manifestOfSchema labelSchema)).get (js "required"))
    (Accepts exactNumerals (manifestOfSchema labelSchema)
        [(js "label", .string (js "Save"))] ↔
        MeansSchema Strictly required labelSchema result) ↔
      ¬ WronglyRefused required labelSchema result ∧
        ¬ WronglyTaken required labelSchema result :=
  meansSchema_iff exactNumerals (manifestOfSchema labelSchema)
    [(js "label", .string (js "Save"))] labelSchema
    (by decide +kernel) (by rfl)

/-- A schema of an object that must have a property `toString`. -/
def toStringSchema : Record :=
  [(js "required", .array [.string (js "toString")]),
    (js "type", .string (js "object"))]

/-- A manifest that is migrated takes the empty object for that schema. -/
theorem toString_is_taken :
    (migrateExtensionManifest exactNumerals
        (.object (manifestOfSchema toStringSchema))).toBool = true ∧
      ¬ (Accepts exactNumerals (manifestOfSchema toStringSchema) [] ↔
        MeansSchema Strictly [] toStringSchema
          (mergedEntries (manifestOfSchema toStringSchema) [])) := by
  refine ⟨by decide +kernel, fun same => ?_⟩
  have accepted : Accepts exactNumerals (manifestOfSchema toStringSchema) [] := by
    decide +kernel
  have required := (same.mp accepted).required (js "toString") (by decide +kernel)
  exact absurd (required.resolve_right id) (by decide +kernel)

end Selene.Extension
