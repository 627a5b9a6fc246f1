import Selene.DepthFirst
import Selene.ExtensionManifest

/-!
# Validation of extensions

`validateExtensions` normalizes manifests, policy and configurations and
collects the issues of every manifest, of the dependencies and conflicts between
them, and of a dependency cycle.  The issues are cut to a bound and sorted.
`topologicalOrder` is the depth-first order of the manifests.
-/

namespace Selene.Extension

open Js Generation

section Format

variable (format : NumberFormat)

/-! ## Configurations -/

/-- `key in value`, of an object with the usual prototype. -/
def hasProperty (value : Record) (key : JsString) : Bool :=
  value.keys.contains key || inheritedNames.contains key

/-- `value[key]` of such an object; what is inherited is a function. -/
def readProperty (value : Record) (key : JsString) : JsValue :=
  if value.keys.contains key then value.get key
  else if inheritedNames.contains key then .exotic
  else .undefined

/-- `key in (schema.properties ?? {})`; only a copy has no prototype. -/
def isSchemaProperty (schema : Record) (key : JsString) : Bool :=
  match schema.get (js "properties") with
  | .object properties => (Record.keys properties).contains key
  | _ => inheritedNames.contains key

/-- The strings of a list property that was checked to hold strings. -/
def stringList (value : JsValue) : List JsString :=
  (value.elements?.getD []).filterMap fun item =>
    match item with
    | .string text => some text
    | _ => none

/-- `configurationTypeMatches`. -/
def configurationTypeMatches (value type : JsValue) : Bool :=
  match value with
  | .array _ => IsText type (js "array")
  | .bool _ => IsText type (js "boolean")
  | .number number =>
      IsText type (js "integer") && number.isInteger ||
        IsText type (js "number") && number.isFinite
  | .null => IsText type (js "null")
  | .object _ => IsText type (js "object")
  | .string _ => IsText type (js "string")
  | .undefined => false
  | .exotic => false

/-- The error of a value against the fields of a schema that hold no other. -/
def fieldError (schema : Record) (value : JsValue) (path : JsString) :
    Option JsString :=
  if !configurationTypeMatches value (schema.get (js "type")) then
    some (path ++ js " must be " ++
      (JsValue.toText? format (schema.get (js "type"))).getD [])
  else if !absentOrSome value (schema.get (js "enum")) then
    some (path ++ js " must be an allowed value")
  else if belowMinimum value (schema.get (js "minimum")) then
    some (path ++ js " is below its minimum")
  else
    none
where
  absentOrSome (value : JsValue) : JsValue → Bool
    | .undefined => true
    | candidates =>
        (candidates.elements?.getD []).any fun candidate =>
          candidate.strictEquals value
  belowMinimum (value minimum : JsValue) : Bool :=
    match minimum, value with
    | .undefined, _ => false
    | .number least, .number number => number.below least
    | _, _ => true

/-- The error of an object against the names that a schema knows. -/
def namesError (schema : Record) (value : JsValue) (path : JsString) :
    Option JsString :=
  match value with
  | .object entries =>
      if !IsText (schema.get (js "type")) (js "object") then none
      else if (stringList (schema.get (js "required"))).any fun key =>
          !(Record.keys entries).contains key then
        some (path ++ js " is missing required keys")
      else if !(schema.get (js "additionalProperties")).strictEquals
            (.bool true) &&
          (Record.keys entries).any fun key => !isSchemaProperty schema key then
        some (path ++ js " has unknown keys")
      else
        none
  | _ => none

mutual

/-- The first error of a value against a valid schema. -/
def validateConfigurationValue : JsValue → JsValue → JsString →
    Option JsString
  | .object schema, value, path =>
      (fieldError format schema value path).or <|
        (itemsError schema value path).or <|
          (namesError schema value path).or <|
            (Record.enumerated
              (propertiesErrors schema value path)).findSome? Prod.snd
  | _, _, _ => none

/-- The first error of an item against the schema in the field `items`. -/
def itemsError : Record → JsValue → JsString → Option JsString
  | [], _, _ => none
  | (name, schema) :: rest, value, path =>
      if name = js "items" then
        (value.elements?.getD []).zipIdx.findSome? fun item =>
          validateConfigurationValue schema item.1
            (path ++ js "[" ++ decimalDigits item.2 ++ js "]")
      else
        itemsError rest value path

/-- The errors against the schemas in the field `properties`. -/
def propertiesErrors : Record → JsValue → JsString →
    List (JsString × Option JsString)
  | [], _, _ => []
  | (name, schemas) :: rest, value, path =>
      if name = js "properties" then schemaErrors schemas value path
      else propertiesErrors rest value path

def schemaErrors : JsValue → JsValue → JsString →
    List (JsString × Option JsString)
  | .object schemas, value, path => eachError schemas value path
  | _, _, _ => []

/-- The error of each property that the value has. -/
def eachError : Record → JsValue → JsString →
    List (JsString × Option JsString)
  | [], _, _ => []
  | (key, schema) :: rest, value, path =>
      (key,
          if value.entries.keys.contains key then
            validateConfigurationValue schema (value.entries.get key)
              (path ++ js "." ++ key)
          else
            none) ::
        eachError rest value path

end

/-- The first error of a merged configuration against its schema. -/
def schemaError (schema result : Record) : Option JsString :=
  let properties := (schema.get (js "properties")).entries
  (Record.enumerated properties).findSome? fun entry =>
    if hasProperty result entry.1 then
      validateConfigurationValue format entry.2 (readProperty result entry.1)
        (js "configuration." ++ entry.1)
    else
      none

/-- The message of what is wrong with a merged configuration. -/
def configurationError (manifest : Record) (result : Record) :
    Option JsString :=
  let configuration := (manifest.get (js "configuration")).entries
  let id := (JsValue.toText? format (manifest.get (js "id"))).getD []
  let required := stringList (configuration.get (js "required"))
  let allowed :=
    (configuration.get (js "defaults")).entries.keys ++ required
  if required.any fun key => !hasProperty result key then
    some (js "configuration is missing required keys for " ++ id)
  else
    match configuration.get (js "schema") with
    | .object schema =>
        if (stringList (Record.get schema (js "required"))).any fun key =>
            !hasProperty result key then
          some (js "configuration is missing schema-required keys for " ++ id)
        else if !(Record.get schema (js "additionalProperties")).strictEquals
              (.bool true) &&
            result.keys.any fun key => !isSchemaProperty schema key then
          some (js "configuration has schema-unknown keys for " ++ id)
        else
          schemaError format schema result
    | _ =>
        if !(configuration.get (js "additionalProperties")).strictEquals
              (.bool true) &&
            result.keys.any fun key => !allowed.contains key then
          some (js "configuration has unknown keys for " ++ id)
        else
          none

/-- The defaults of a manifest with what the host supplies. -/
def mergedEntries (manifest supplied : Record) : Record :=
  Record.spread
    (Record.spread []
      ((manifest.get (js "configuration")).entries.get
        (js "defaults")).entries)
    supplied

/-- The configuration of a manifest, or the issue that it is invalid. -/
def mergeConfiguration (manifest supplied : Record) :
    Except ExtensionFailure (OrIssue Record) :=
  let invalid := issue format .invalidConfig [manifest.get (js "id")]
  let configuration := manifest.get (js "configuration")
  if !IsUndefined configuration &&
      !hasValidExtensionConfiguration configuration then
    .ok (.error (invalid (js "configuration schema is invalid for " ++
      (JsValue.toText? format (manifest.get (js "id"))).getD [])))
  else
    let result := mergedEntries manifest supplied
    match configurationError format manifest result with
    | some message => .ok (.error (invalid message))
    | none => do
        let merged ← snap (.object result)
        .ok (.ok merged.entries)

/-! ## Policies and lists of manifests -/

structure ExtensionPolicy where
  allowedPermissions : List JsValue
  minimumTrust : JsString
  requiredPublishers : Option (List JsValue)
  requireIntegrity : Option Bool

/-- The policy as a value. -/
def ExtensionPolicy.toJs (policy : ExtensionPolicy) : JsValue :=
  .object
    ([(js "allowedPermissions", .array policy.allowedPermissions),
        (js "minimumTrust", .string policy.minimumTrust)] ++
      Record.optionalEntry (js "requiredPublishers")
        (policy.requiredPublishers.map .array) ++
      Record.optionalEntry (js "requireIntegrity")
        (policy.requireIntegrity.map .bool))

/-- `normalizePolicy`. -/
def normalizePolicy (value : JsValue) :
    Except ExtensionFailure (OrIssue ExtensionPolicy) :=
  let invalid := fun message : String =>
    issue format .invalidManifest [] (js message)
  match snapshotData value with
  | .error _ => .ok (.error (invalid "policy must be bounded plain JSON data"))
  | .ok (.object policy) =>
      match asStringArray (Record.get policy (js "allowedPermissions")),
          Record.get policy (js "minimumTrust"),
          normalizePublishers (Record.get policy (js "requiredPublishers")),
          normalizeFlag (Record.get policy (js "requireIntegrity")) with
      | some allowedPermissions, .string minimumTrust,
          some requiredPublishers, some requireIntegrity =>
          if allowedPermissions.all (isOneOf permissions) &&
              JsValue.allDistinct allowedPermissions &&
              (trustRank.map Prod.fst).contains minimumTrust then do
            let normalized : ExtensionPolicy :=
              { allowedPermissions, minimumTrust, requiredPublishers,
                requireIntegrity }
            let _ ← snap normalized.toJs
            .ok (.ok normalized)
          else
            .ok (.error (invalid "policy has invalid fields"))
      | _, _, _, _ => .ok (.error (invalid "policy has invalid fields"))
  | .ok _ => .ok (.error (invalid "policy must be a plain data object"))
where
  normalizePublishers : JsValue → Option (Option (List JsValue))
    | .undefined => some none
    | value =>
        (asStringArray value).bind fun publishers =>
          if JsValue.allDistinct publishers &&
              publishers.all (fun publisher =>
                (testPattern format idPattern publisher).getD false) then
            some (some publishers)
          else
            none
  normalizeFlag : JsValue → Option (Option Bool)
    | .undefined => some none
    | .bool value => some (some value)
    | _ => none

structure NormalizedManifests where
  manifests : List Record
  issues : List ExtensionIssue

/-- The manifest or the issues of one value. -/
def normalizeManifest (value : JsValue) : List Record × List ExtensionIssue :=
  match migrateExtensionManifest format value with
  | .ok manifest => ([manifest], [])
  | .error (.validation issues) => ([], issues)
  | .error _ =>
      ([], [issue format .invalidManifest []
        (js "manifest could not be normalized")])

/-- `normalizeManifests`. -/
def normalizeManifests (values : JsValue) : NormalizedManifests :=
  let refused := fun message : String =>
    { manifests := [],
      issues := [issue format .invalidManifest [] (js message)] }
  match snapshotData values with
  | .error _ => refused "manifests must be bounded data"
  | .ok (.array snapshot) =>
      if snapshot.length ≤ maxExtensionManifests then
        { manifests := snapshot.flatMap fun value =>
            (normalizeManifest format value).1
          issues := boundedIssues (snapshot.flatMap fun value =>
            (normalizeManifest format value).2) }
      else
        refused "at most 64 manifests may be planned at once"
  | .ok _ => refused "manifests must be an array"

/-- The default of the parameter `configurations`. -/
def givenConfigurations : JsValue → JsValue
  | .undefined => .object []
  | configurations => configurations

@[simp]
theorem givenConfigurations_object (record : Record) :
    givenConfigurations (.object record) = .object record := rfl

/-- `configurations`, if it is bounded plain data. -/
def normalizeConfigurations (configurations : JsValue) : Option Record :=
  match snapshotData (givenConfigurations configurations) with
  | .ok (.object snapshot) => some snapshot
  | _ => none

/-! ## Dependencies -/

/-- The id of a manifest, which `asManifest` checks to be a string. -/
def manifestId (manifest : Record) : JsString :=
  match manifest.get (js "id") with
  | .string id => id
  | _ => []

/-- The manifests by id; of two with one id the later stays. -/
abbrev ManifestsById := Table manifestId

/-- `new Map(manifests.map((manifest) => [manifest.id, manifest]))`. -/
def byId (manifests : List Record) : ManifestsById :=
  Table.setAll .empty manifests

/-- `byId.get(id)`. -/
def findManifest (manifests : ManifestsById) (id : JsValue) : Option Record :=
  match id with
  | .string text => manifests.find? text
  | _ => none

/-- The dependencies of a manifest whose shape was checked. -/
def dependenciesOf (manifest : Record) : List JsValue :=
  (listProperty manifest "dependencies").getD []

/-- The ids of the dependencies among the manifests, in the order of visits. -/
def presentDependencies (manifests : ManifestsById) (id : JsString) :
    List JsString :=
  let dependencies := ((manifests.find? id).map dependenciesOf).getD []
  let ids := dependencies.map fun dependency =>
    dependency.entries.get (js "id")
  (sortByText format (fun id => id) ids).filterMap fun id =>
    (findManifest manifests id).map manifestId

/--
The ids in order, or the issue of a cycle.  The traversal has enough fuel
(`orderFrom_fueled`).
-/
def topologicalOrder (manifests : ManifestsById) :
    OrIssue (List JsString) :=
  let ids := sortByKey id (manifests.rows.map manifestId)
  match orderFrom (presentDependencies format manifests) ids with
  | .ok order => .ok order
  | .error (.cycle path) =>
      .error (issue format .cycle (path.map .string)
        (js "extension dependency cycle: " ++ (js " -> ").intercalate path))
  | .error .outOfFuel => .ok []

/-! ## Issues of one manifest -/

/-- The rank of a trust level whose name was checked. -/
def rankOf (level : JsValue) : Nat :=
  ((JsValue.toText? format level).bind fun text => List.lookup text trustRank).getD 0

/-- The level and the publisher of a manifest against the policy. -/
def trustIssues (policy : ExtensionPolicy) (manifest : Record) :
    List ExtensionIssue :=
  let trust := (manifest.get (js "trust")).entries
  let publisher :=
    (trust.get (js "provenance")).entries.get (js "publisher")
  let denied := fun message : String =>
    issue format .trustDenied [.string (manifestId manifest)]
      (js message ++ manifestId manifest)
  (if rankOf format (trust.get (js "level")) <
      rankOf format (.string policy.minimumTrust) then
    [denied "trust level is too low for "]
  else
    []) ++
  match policy.requiredPublishers with
  | none => []
  | some publishers =>
      if publishers.any publisher.strictEquals then []
      else [denied "publisher is not permitted for "]

/-- The permissions of a manifest that the policy does not allow. -/
def permissionIssues (policy : ExtensionPolicy) (manifest : Record) :
    List ExtensionIssue :=
  (((manifest.get (js "permissions")).elements?.getD []).filter
      fun permission =>
        !policy.allowedPermissions.any permission.strictEquals).map
    fun permission =>
      issue format .permissionDenied [.string (manifestId manifest)]
        (js "permission " ++ (JsValue.toText? format permission).getD [] ++
          js " is not permitted for " ++ manifestId manifest)

/-- The configuration of a manifest among the given ones. -/
def suppliedConfiguration (configurations manifest : Record) :
    Except ExtensionFailure (OrIssue Record) :=
  match configurations.get (manifestId manifest) with
  | .undefined => mergeConfiguration format manifest []
  | .object supplied => mergeConfiguration format manifest supplied
  | _ =>
      .ok (.error (issue format .invalidConfig
        [.string (manifestId manifest)]
        (js "configuration for " ++ manifestId manifest ++
          js " must be an object")))

/-- The issues of a manifest on its own. -/
def ownIssues (policy : ExtensionPolicy) (configurations manifest : Record) :
    Except ExtensionFailure (List ExtensionIssue) := do
  let shape ← orThrow (validateManifestShape format manifest)
  let configuration ← suppliedConfiguration format configurations manifest
  let configurationIssues := match configuration with
    | .ok _ => []
    | .error found => [found]
  .ok (shape ++ trustIssues format policy manifest ++
    permissionIssues format policy manifest ++ configurationIssues)

/-- The issue of a manifest whose id was met before. -/
def duplicateIssues (seen : List JsString) (manifest : Record) :
    List ExtensionIssue :=
  if manifestId manifest ∈ seen then
    [issue format .duplicateExtension [.string (manifestId manifest)]
      (js "duplicate extension: " ++ manifestId manifest)]
  else
    []

/-- The issues of the manifests one after another. -/
def manifestIssues (policy : ExtensionPolicy) (configurations : Record) :
    List JsString → List Record →
      Except ExtensionFailure (List ExtensionIssue)
  | _, [] => .ok []
  | seen, manifest :: rest => do
      let own ← ownIssues format policy configurations manifest
      let others ← manifestIssues policy configurations
        (manifestId manifest :: seen) rest
      .ok (duplicateIssues format seen manifest ++ own ++ others)

/-! ## Issues between manifests -/

/-- The issue of a dependency that is missing or of another version. -/
def dependencyIssues (manifests : ManifestsById) (manifest : Record)
    (dependency : JsValue) : List ExtensionIssue :=
  let id := dependency.entries.get (js "id")
  let range := dependency.entries.get (js "range")
  let ids := [.string (manifestId manifest), id]
  let requires := manifestId manifest ++ js " requires " ++
    (JsValue.toText? format id).getD []
  match findManifest manifests id with
  | none =>
      if (dependency.entries.get (js "optional")).truthy then []
      else [issue format .missingDependency ids requires]
  | some actual =>
      let version := Record.get actual (js "version")
      if satisfiesSemver format version range then []
      else
        [issue format .versionMismatch ids
          (requires ++ js " " ++ (JsValue.toText? format range).getD [] ++
            js ", found " ++ (JsValue.toText? format version).getD [])]

/-- The issue of a conflict with a manifest that is there. -/
def conflictIssues (manifests : ManifestsById) (manifest : Record)
    (conflict : JsValue) : List ExtensionIssue :=
  if (findManifest manifests conflict).isSome then
    [issue format .conflict [.string (manifestId manifest), conflict]
      (manifestId manifest ++ js " conflicts with " ++
        (JsValue.toText? format conflict).getD [])]
  else
    []

/-- The issues of a manifest with the others. -/
def relationIssues (manifests : ManifestsById) (manifest : Record) :
    List ExtensionIssue :=
  (dependenciesOf manifest).flatMap
      (dependencyIssues format manifests manifest) ++
    ((listProperty manifest "conflicts").getD []).flatMap
      (conflictIssues format manifests manifest)

/-- The issue of a dependency cycle. -/
def cycleIssues (manifests : ManifestsById) : List ExtensionIssue :=
  match topologicalOrder format manifests with
  | .ok _ => []
  | .error found => [found]

/-! ## Validation -/

/-- All issues of manifests with a policy and configurations. -/
def collectedIssues (policy : ExtensionPolicy) (configurations : Record)
    (normalized : NormalizedManifests) :
    Except ExtensionFailure (List ExtensionIssue) := do
  let manifests := byId normalized.manifests
  let own ← manifestIssues format policy configurations []
    normalized.manifests
  .ok (normalized.issues ++ own ++
    normalized.manifests.flatMap (relationIssues format manifests) ++
    cycleIssues format manifests)

/-- The issues that are reported of those that were found. -/
def reportedIssues (issues : List ExtensionIssue) : List ExtensionIssue :=
  sortIssues format (boundedIssues issues)

/-- Validate manifests with a policy and configurations. -/
def validateExtensions (manifests policy configurations : JsValue) :
    Except ExtensionFailure (List ExtensionIssue) := do
  let normalizedPolicy ← normalizePolicy format policy
  let normalized := normalizeManifests format manifests
  match normalizedPolicy with
  | .error found => .ok (reportedIssues format (normalized.issues ++ [found]))
  | .ok normalizedPolicy =>
      match normalizeConfigurations configurations with
      | none =>
          .ok (reportedIssues format (normalized.issues ++
            [issue format .invalidConfig []
              (js "configurations must be bounded plain JSON data")]))
      | some normalizedConfigurations => do
          let issues ← collectedIssues format normalizedPolicy
            normalizedConfigurations normalized
          .ok (reportedIssues format issues)

end Format

end Selene.Extension
