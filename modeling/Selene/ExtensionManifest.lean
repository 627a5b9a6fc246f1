import Selene.AgentProtocol
import Selene.SemanticVersion
import Selene.SourcePatch
import Mathlib.Data.Prod.Lex

/-!
# Extension manifests

Manifests are foreign data.  `migrateExtensionManifest` takes a snapshot of one,
moves the `type` of version 0.9 to `kind`, and checks the shape of every part
that is read.  What a part of the wrong type does is what the language does
with it: a missing method throws, and a pattern is tested on the text of a
value.
-/

namespace Selene.Extension

open Js Generation

/-! ## Issues -/

inductive ExtensionIssueCode where
  | conflict
  | cycle
  | duplicateExtension
  | integrityFailed
  | invalidConfig
  | invalidManifest
  | missingDependency
  | permissionDenied
  | trustDenied
  | unsupportedVersion
  | versionMismatch
  deriving DecidableEq

def ExtensionIssueCode.text : ExtensionIssueCode → JsString
  | .conflict => js "conflict"
  | .cycle => js "cycle"
  | .duplicateExtension => js "duplicate-extension"
  | .integrityFailed => js "integrity-failed"
  | .invalidConfig => js "invalid-config"
  | .invalidManifest => js "invalid-manifest"
  | .missingDependency => js "missing-dependency"
  | .permissionDenied => js "permission-denied"
  | .trustDenied => js "trust-denied"
  | .unsupportedVersion => js "unsupported-version"
  | .versionMismatch => js "version-mismatch"

structure ExtensionIssue where
  code : ExtensionIssueCode
  extensionIds : List JsValue
  message : JsString

/-- What a call of the kernel throws. -/
inductive ExtensionFailure where
  -- A `TypeError` of the snapshot, with its message.
  | typeError (message : String)
  -- A `TypeError` of the language.
  | engineError
  -- An `ExtensionValidationError`.
  | validation (issues : List ExtensionIssue)

def maxExtensionManifests : Nat := 64

def maxExtensionLifecycleEvents : Nat := 256

def maxExtensionIssues : Nat := 64

def maxIssueMessageLength : Nat := 1024

def maxIssueExtensionIds : Nat := 16

/-- Take a snapshot, or throw. -/
def snap (value : JsValue) : Except ExtensionFailure JsValue :=
  match snapshotData value with
  | .ok copy => .ok copy
  | .error message => .error (.typeError message)

/-- An operation of the language that throws on some values. -/
def orThrow {α : Type} : Option α → Except ExtensionFailure α
  | some value => .ok value
  | none => .error .engineError

section Format

variable (format : NumberFormat)

/-- The text that `<` compares, of a value that is compared as a text. -/
def comparedText : JsValue → Option JsString
  | .string text => some text
  | .array items => JsValue.joined? format items
  | _ => none

/--
The number that `<` compares otherwise.  A text is an identifier here, which is
no numeral.
-/
def comparedNumber : JsValue → JsNumber
  | .null => .ofNat 0
  | .bool value => .ofNat value.toNat
  | .number value => value
  | _ => .nan

/-- `left < right`. -/
def precedes (left right : JsValue) : Bool :=
  match comparedText format left, comparedText format right with
  | some first, some second => decide (first < second)
  | _, _ => (comparedNumber left).below (comparedNumber right)

/-- `[...values].sort(compareText)` by a property, which moves no equals. -/
def sortByText {α : Type} (key : α → JsValue) (values : List α) : List α :=
  values.insertionSort fun first second =>
    precedes format (key second) (key first) = false

/-- `[...new Set(values)]`. -/
def distinctValues : List JsValue → List JsValue
  | [] => []
  | value :: rest =>
      value :: (distinctValues rest).filter fun other =>
        !value.strictEquals other

/-- `uniqueSorted`; `undefined` is sorted to the end. -/
def uniqueSorted (values : List JsValue) : List JsValue :=
  let distinct := distinctValues values
  sortByText format id (distinct.filter fun value => ¬ IsUndefined value) ++
    distinct.filter fun value => IsUndefined value

def issue (code : ExtensionIssueCode) (extensionIds : List JsValue)
    (message : JsString) : ExtensionIssue where
  code := code
  extensionIds := (uniqueSorted format extensionIds).take maxIssueExtensionIds
  message := message.take maxIssueMessageLength

def ExtensionIssue.toJs (found : ExtensionIssue) : JsValue :=
  .object
    [(js "code", .string found.code.text),
      (js "extensionIds", .array found.extensionIds),
      (js "message", .string found.message)]

def boundedIssues (issues : List ExtensionIssue) : List ExtensionIssue :=
  issues.take maxExtensionIssues

/-- `sortIssues`: by code and by the joined ids, which moves no equals. -/
def sortIssues (issues : List ExtensionIssue) : List ExtensionIssue :=
  sortByKey
    (fun found =>
      toLex (found.code.text,
        (JsValue.joined? format found.extensionIds).getD []))
    issues

def validationFailed : List ExtensionIssue :=
  [issue format .invalidManifest [] (js "validation failed")]

/-- `normalizeErrorIssues`, for issues that the kernel made itself. -/
def normalizeErrorIssues (issues : List ExtensionIssue) :
    List ExtensionIssue :=
  match snapshotData (.array (issues.map ExtensionIssue.toJs)) with
  | .error _ => validationFailed format
  | .ok _ =>
      if issues = [] then validationFailed format
      else if (issues.take maxExtensionIssues).all fun found =>
          found.extensionIds.all JsValue.isString then
        (issues.take maxExtensionIssues).map fun found =>
          issue format found.code found.extensionIds found.message
      else
        validationFailed format

/-- `issuedError`. -/
def issuedError (issues : List ExtensionIssue) : ExtensionFailure :=
  .validation (normalizeErrorIssues format issues)

/-! ## Patterns -/

/-- `[a-z][a-z0-9-]{0,62}`. -/
def isIdPart : JsString → Bool
  | [] => false
  | first :: rest =>
      isLower first && decide (rest.length ≤ 62) &&
        rest.all fun unit => isLower unit || isDigit unit || unit = hyphen

/-- `idPattern`. -/
def idPattern (text : JsString) : Bool :=
  (text.splitOn dot).all isIdPart

/-- `sriPattern`. -/
def sriPattern (text : JsString) : Bool :=
  let digest := text.drop 7
  decide (text.take 7 = js "sha256-") && decide (digest.length = 44) &&
    ((digest.take 43).all fun unit =>
      isAlphanumeric unit || unit = plus || unit = slash) &&
    decide (digest.drop 43 = js "=")

/-- `pattern.test(value)`. -/
def testPattern (pattern : JsString → Bool) (value : JsValue) :
    Option Bool :=
  (JsValue.toText? format value).map pattern

/-! ## Configuration schemas -/

/-- `configurationValueTypes`. -/
def configurationValueTypes : List JsString :=
  [js "array", js "boolean", js "integer", js "null", js "number",
    js "object", js "string"]

/-- A string of a list. -/
def isOneOf (texts : List JsString) : JsValue → Bool
  | .string text => texts.contains text
  | _ => false

/-- A value that a schema may enumerate. -/
def isEnumerable : JsValue → Bool
  | .null => true
  | .bool _ => true
  | .number value => value.isFinite
  | .string _ => true
  | _ => false

/-- Nothing, or an array of which each element passes a test. -/
def absentOrEach (test : JsValue → Bool) : JsValue → Bool
  | .undefined => true
  | .array items => items.all test
  | _ => false

/-- The fields of a schema that hold no other schema. -/
def hasValidSchemaFields (schema : Record) : Bool :=
  isOneOf configurationValueTypes (schema.get (js "type")) &&
    absentOrEach isEnumerable (schema.get (js "enum")) &&
    (IsUndefined (schema.get (js "minimum")) ||
      ((schema.get (js "minimum")).isFiniteNumber &&
        isOneOf [js "integer", js "number"] (schema.get (js "type")))) &&
    (IsUndefined (schema.get (js "required")) ||
      (IsText (schema.get (js "type")) (js "object") &&
        absentOrEach JsValue.isString (schema.get (js "required")) &&
        JsValue.allDistinct
          ((schema.get (js "required")).elements?.getD []))) &&
    (IsUndefined (schema.get (js "additionalProperties")) ||
      (schema.get (js "additionalProperties")).isBoolean) &&
    !schema.keys.contains (js "pattern")

mutual

def hasValidConfigurationSchema : JsValue → Bool
  | .object schema =>
      hasValidSchemaFields schema &&
        hasValidParts (Record.get schema (js "type")) schema
  | _ => false

/-- The schemas in the fields of a schema of some type. -/
def hasValidParts (type : JsValue) : Record → Bool
  | [] => true
  | (name, value) :: rest =>
      (if name = js "items" then
          IsText type (js "array") && hasValidConfigurationSchema value
        else if name = js "properties" then
          IsText type (js "object") && hasValidProperties value
        else
          true) &&
        hasValidParts type rest

def hasValidProperties : JsValue → Bool
  | .object properties => eachIsValidSchema properties
  | _ => false

def eachIsValidSchema : Record → Bool
  | [] => true
  | (_, schema) :: rest =>
      hasValidConfigurationSchema schema && eachIsValidSchema rest

end

def hasValidExtensionConfiguration : JsValue → Bool
  | .object configuration =>
      (IsUndefined (Record.get configuration (js "defaults")) ||
        (Record.get configuration (js "defaults")).isRecord) &&
      absentOrEach JsValue.isString
        (Record.get configuration (js "required")) &&
      (IsUndefined (Record.get configuration (js "additionalProperties")) ||
        (Record.get configuration (js "additionalProperties")).isBoolean) &&
      (IsUndefined (Record.get configuration (js "schema")) ||
        hasValidConfigurationSchema (Record.get configuration (js "schema")))
  | _ => false

/-! ## Shapes -/

/-- `first || second`, where either test may throw. -/
def orTest (first second : Option Bool) : Option Bool :=
  first.bind fun holds => if holds then some true else second

/-- The issue of a test that found something. -/
def flag (test : Option Bool) (found : ExtensionIssue) :
    Option (List ExtensionIssue) :=
  test.map fun holds => if holds then [found] else []

/-- `value.name` of every element. -/
def properties (values : List JsValue) (name : JsString) :
    Option (List JsValue) :=
  values.mapM fun value => value.property? name

/-- `value.length === 0`. -/
def lengthIsZero (value : JsValue) : Option Bool :=
  (value.property? (js "length")).map (JsValue.number (.ofNat 0)).strictEquals

/-- A text of which every code point occurs once is as long as its set. -/
def repeatsCodePoint (text : JsString) : Bool :=
  !decide text.Nodup ||
    (text.zip text.tail).any fun pair =>
      decide (pair.1.IsHighSurrogate ∧ pair.2.IsLowSurrogate)

/--
`new Set(values).size !== values.length || values.some(test)`.  A string can be
made a set but has no method `some`.
-/
def repeatsOr (values : JsValue) (test : JsValue → Option Bool) :
    Option Bool :=
  match values with
  | .array items =>
      orTest (some (!JsValue.allDistinct items)) (items.anyM test)
  | .string text => if repeatsCodePoint text then some true else none
  | _ => none

/-- `hasUniqueIds`. -/
def hasUniqueIds (values : JsValue) : Option Bool := do
  let items ← values.elements?
  let ids ← properties items (js "id")
  if JsValue.allDistinct ids then ids.allM (testPattern format idPattern)
  else some false

/-- `trustRank`. -/
def trustRank : List (JsString × Nat) :=
  [(js "untrusted", 0), (js "verified", 1), (js "trusted", 2)]

def extensionKinds : List JsString :=
  [js "agent", js "design-library", js "exporter", js "policy",
    js "preview-decorator", js "react-template", js "validator"]

def permissions : List JsString :=
  [js "agent.execute", js "design-input.read", js "export.write",
    js "preview.decorate"]

def lifecycleEvents : List JsString :=
  [js "install", js "configure", js "activate", js "deactivate"]

def designModeKinds : List JsString :=
  [js "brand", js "locale", js "theme", js "viewport"]

/-- `typeof value !== 'string' || value.trim().length === 0`. -/
def isBlankLabel : JsValue → Bool
  | .string text => (trim text).isEmpty
  | _ => true

/-- The test that a lifecycle command fails. -/
def isInvalidCommand (capabilities : List JsValue) (command : JsValue) :
    Option Bool := do
  let id ← command.property? (js "id")
  let event ← command.property? (js "event")
  let capability ← command.property? (js "capability")
  let input ← command.property? (js "input")
  let isId ← testPattern format idPattern id
  some (!isId || !isOneOf lifecycleEvents event ||
    (!IsUndefined capability && !capabilities.any capability.strictEquals) ||
    (!IsUndefined input && !input.isRecord))

/-- The test that a dependency fails. -/
def isInvalidDependency (dependency : JsValue) : Option Bool := do
  let id ← dependency.property? (js "id")
  let range ← dependency.property? (js "range")
  let isId ← testPattern format idPattern id
  some (!isId || !validRange range)

/-- The test that a mode of a token collection fails. -/
def isInvalidMode (mode : JsValue) : Option Bool := do
  let kind ← mode.property? (js "kind")
  let label ← mode.property? (js "label")
  some (!isOneOf designModeKinds kind || isBlankLabel label)

/-- The test that a token fails, beside tokens and modes with these ids. -/
def isInvalidToken (modeIds tokenIds : List JsValue) (token : JsValue) :
    Option Bool := do
  let value ← token.property? (js "value")
  let modes ← token.property? (js "modes")
  let aliases ← token.property? (js "aliases")
  let isValue := match value with
    | .bool _ => true
    | .number _ => true
    | .string _ => true
    | _ => false
  if !isValue then some true
  else
    orTest
      (if IsUndefined modes then some false
        else modes.ownKeys?.map fun keys =>
          keys.any fun mode => !modeIds.any (JsValue.string mode).strictEquals)
      ((aliases.orElse (.array [])).elements?.bind fun targets =>
        targets.anyM fun target => do
          let id ← target.property? (js "target")
          let isId ← testPattern format idPattern id
          some (!isId || !tokenIds.any id.strictEquals))

/-- The test that a token collection fails. -/
def isInvalidCollection (collection : JsValue) : Option Bool := do
  let modes ← collection.property? (js "modes")
  let tokens ← collection.property? (js "tokens")
  orTest ((hasUniqueIds format modes).map not) <|
    orTest ((hasUniqueIds format tokens).map not) do
      let modeItems ← modes.elements?
      let tokenItems ← tokens.elements?
      let modeIds ← properties modeItems (js "id")
      let tokenIds ← properties tokenItems (js "id")
      orTest (modeItems.anyM isInvalidMode)
        (tokenItems.anyM (isInvalidToken format modeIds tokenIds))

/-- The test that a component fails. -/
def isInvalidComponent (component : JsValue) : Option Bool := do
  let variants ← component.property? (js "variants")
  let slots ← component.property? (js "slots")
  let exportName ← component.property? (js "exportName")
  orTest ((hasUniqueIds format variants).map not) <|
    orTest ((hasUniqueIds format slots).map not) <|
      if isBlankLabel exportName then some true
      else
        variants.elements?.bind fun items =>
          items.anyM fun variant => do
            let values ← variant.property? (js "values")
            orTest (lengthIsZero values) <|
              repeatsOr values fun value =>
                match value with
                | .string text => some text.isEmpty
                | _ => some true

/-- The test that a design-system contribution fails. -/
def isInvalidDesignSystem (designSystem : JsValue) : Option Bool := do
  let tokenCollections ← designSystem.property? (js "tokenCollections")
  let components ← designSystem.property? (js "components")
  orTest ((hasUniqueIds format tokenCollections).map not) <|
    orTest ((hasUniqueIds format components).map not) <|
      orTest
        (tokenCollections.elements?.bind fun items =>
          items.anyM (isInvalidCollection format))
        (components.elements?.bind fun items =>
          items.anyM (isInvalidComponent format))

/-- The test that the trust of a manifest fails. -/
def isInvalidTrust (trust : JsValue) : Option Bool := do
  let level ← trust.property? (js "level")
  let provenance ← trust.property? (js "provenance")
  let integrity ← trust.property? (js "integrity")
  let levelText ← JsValue.toText? format level
  if !(trustRank.map Prod.fst).contains levelText then some true
  else do
    let publisher ← provenance.property? (js "publisher")
    let source ← provenance.property? (js "source")
    let sha256 ← integrity.property? (js "sha256")
    let integritySource ← integrity.property? (js "source")
    orTest ((testPattern format idPattern publisher).map not) <|
      orTest (lengthIsZero source) <|
        orTest ((testPattern format sriPattern sha256).map not)
          (lengthIsZero integritySource)

/-- An issue about a whole manifest. -/
def manifestIssue (manifest : Record) (code : ExtensionIssueCode)
    (message : String) : ExtensionIssue :=
  issue format code [manifest.get (js "id")] (js message)

/-- The elements of a list property of a manifest, which may be left out. -/
def listProperty (manifest : Record) (name : String) :
    Option (List JsValue) :=
  ((manifest.get (js name)).orElse (.array [])).elements?

/-- The property `designSystem` of what a manifest contributes. -/
def designSystemOf (manifest : Record) : Option JsValue :=
  ((manifest.get (js "contributes")).orElse (.object [])).property?
    (js "designSystem")

/-- `new Set(ids).size !== ids.length || values.some(test)`. -/
def repeatsIdOr (values : List JsValue) (test : JsValue → Option Bool) :
    Option Bool := do
  let ids ← properties values (js "id")
  orTest (some (!JsValue.allDistinct ids)) (values.anyM test)

/--
What a manifest is tested for, with the issue of a manifest that fails; a test
that throws is `none`.
-/
def shapeTests (manifest : Record) : List (Option Bool × ExtensionIssue) :=
  let found := manifestIssue format manifest
  let capabilities := ((manifest.get (js "capabilities")).elements?).getD []
  let granted := ((manifest.get (js "permissions")).elements?).getD []
  let configuration := manifest.get (js "configuration")
  [(some (!IsText (manifest.get (js "manifestVersion")) (js "1.0")),
      found .unsupportedVersion "manifestVersion must be \"1.0\""),
    ((testPattern format idPattern (manifest.get (js "id"))).map not,
      found .invalidManifest "id is invalid"),
    (some (parseVersion format (manifest.get (js "version"))).isNone,
      found .invalidManifest "version must be semantic versioning"),
    (some (!isOneOf extensionKinds (manifest.get (js "kind"))),
      found .invalidManifest "kind is not supported"),
    (orTest (some (!JsValue.allDistinct capabilities))
        ((capabilities.allM (testPattern format Agent.isCapability)).map not),
      found .invalidManifest
        "capabilities must be unique, valid identifiers"),
    (some (!JsValue.allDistinct granted ||
        !granted.all (isOneOf permissions)),
      found .invalidManifest "permissions must be unique and supported"),
    (isInvalidTrust format (manifest.get (js "trust")),
      found .invalidManifest
        "trust provenance and SHA-256 SRI integrity are required"),
    ((listProperty manifest "dependencies").bind fun dependencies =>
        repeatsIdOr dependencies (isInvalidDependency format),
      found .invalidManifest
        "dependencies must have unique ids and supported semver ranges"),
    (repeatsOr ((manifest.get (js "conflicts")).orElse (.array []))
        fun conflict => (testPattern format idPattern conflict).map not,
      found .invalidManifest "conflicts must be unique extension ids"),
    (some (!IsUndefined configuration &&
        !hasValidExtensionConfiguration configuration),
      found .invalidManifest "configuration schema is invalid"),
    ((listProperty manifest "lifecycle").bind fun lifecycle =>
        repeatsIdOr lifecycle (isInvalidCommand format capabilities),
      found .invalidManifest
        "lifecycle command ids must be unique and capabilities declared"),
    ((designSystemOf manifest).bind fun designSystem =>
        if IsUndefined designSystem then some false
        else isInvalidDesignSystem format designSystem,
      found .invalidManifest
        "design-system contributions need unique ids, declared modes, aliases, variants, and slots")]

/--
The shape issues of a manifest; `none` is a `TypeError` of the language on a
part of the wrong type.
-/
def validateManifestShape (manifest : Record) :
    Option (List ExtensionIssue) :=
  ((shapeTests format manifest).mapM fun test =>
    flag test.1 test.2).map List.flatten

/-! ## Migration -/

/-- `asStringArray`. -/
def asStringArray : JsValue → Option (List JsValue)
  | .array items =>
      if items.length ≤ maxSnapshotArrayItems ∧
          items.all (fun item => match item with
            | .string text => text.length ≤ maxSnapshotStringLength
            | _ => false) then
        some items
      else
        none
  | _ => none

/-- The value of a call that returns an issue or something else. -/
abbrev OrIssue (α : Type) := Except ExtensionIssue α

/-- The fields of a manifest of a supported version, with its kind. -/
def withKind (data : Record) (kind : JsValue)
    (capabilities declaredPermissions : List JsValue) : Record :=
  data.spread
    [(js "manifestVersion", .string (js "1.0")), (js "kind", kind),
      (js "capabilities", .array capabilities),
      (js "permissions", .array declaredPermissions)]

/-- A manifest of the current version, or the issue that it is none. -/
def asManifest (value : JsValue) :
    Except ExtensionFailure (OrIssue Record) :=
  match snapshotData value with
  | .error _ =>
      .ok (.error (issue format .invalidManifest []
        (js "manifest must be bounded plain JSON data")))
  | .ok (.object data) =>
      match Record.get data (js "id") with
      | .string id =>
          let version := Record.get data (js "manifestVersion")
          if isOneOf [js "1.0", js "0.9"] version then
            let kind :=
              if IsText version (js "0.9") then Record.get data (js "type")
              else Record.get data (js "kind")
            let trust := Record.get data (js "trust")
            match asStringArray (Record.get data (js "capabilities")),
                asStringArray (Record.get data (js "permissions")) with
            | some capabilities, some declaredPermissions =>
                if (Record.get data (js "version")).isString && kind.isString &&
                    trust.isRecord &&
                    (trust.entries.get (js "provenance")).isRecord &&
                    (trust.entries.get (js "integrity")).isRecord then do
                  let manifest ← snap (.object
                    (withKind data kind capabilities declaredPermissions))
                  .ok (.ok manifest.entries)
                else
                  .ok (.error (issue format .invalidManifest [.string id]
                    (js "manifest has invalid required fields")))
            | _, _ =>
                .ok (.error (issue format .invalidManifest [.string id]
                  (js "manifest has invalid required fields")))
          else do
            let text ← orThrow (JsValue.toText? format version)
            .ok (.error (issue format .unsupportedVersion [.string id]
              (js "unsupported manifest version: " ++ text)))
      | _ =>
          .ok (.error (issue format .invalidManifest []
            (js "manifest must be an object with an id")))
  | .ok _ =>
      .ok (.error (issue format .invalidManifest []
        (js "manifest must be a plain data object with an id")))

/-- Migrate a manifest and check its shape. -/
def migrateExtensionManifest (value : JsValue) :
    Except ExtensionFailure Record := do
  match ← asManifest format value with
  | .error found => .error (issuedError format [found])
  | .ok manifest =>
      let invalidValue := issuedError format
        [manifestIssue format manifest .invalidManifest
          "manifest contains an invalid value"]
      match validateManifestShape format manifest with
      | none => .error invalidValue
      | some [] =>
          match snapshotData (.object (manifest.erase (js "type"))) with
          | .ok migrated => .ok migrated.entries
          | .error _ => .error invalidValue
      | some issues => .error (issuedError format issues)

end Format

end Selene.Extension
