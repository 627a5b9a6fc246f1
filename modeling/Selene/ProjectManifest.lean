import Selene.ReactBindingManifest
import Selene.Schema

/-!
# Project manifests

The portable metadata of a project that takes part in a federation.
`projectSchema` reads it from an untyped value; the data it answers carries the
checks that it passed.
-/

namespace Selene.Federation

open Js

/-! ## Texts -/

abbrev ProjectId := Checked Prototype.projectIdSchema

abbrev NodeId := Checked Prototype.nodeIdSchema

/-- `string().check(minLength(1))`. -/
def nonEmptyString (text : JsString) : Bool :=
  decide (1 ≤ text.length)

abbrev NonEmptyString := Checked nonEmptyString

/-- `string().check(startsWith('/'))`. -/
def routePathSchema (text : JsString) : Bool :=
  (js "/").isPrefixOf text

abbrev RoutePath := Checked routePathSchema

abbrev Sha256 := Checked Lifecycle.isSha256

def projectIdText : Schema ProjectId := .text _

def nodeIdText : Schema NodeId := .text _

def nonEmptyText : Schema NonEmptyString := .text _

def routePathText : Schema RoutePath := .text _

def sha256Text : Schema Sha256 := .text _

/-! ## Status -/

inductive BaselineCurrency where
  | current
  | stale
  | none
  deriving DecidableEq

instance : Literal BaselineCurrency where
  members := [.current, .stale, .none]
  name
    | .current => "current"
    | .stale => "stale"
    | .none => "none"
  complete member := by cases member <;> simp
  injective first second same := by
    cases first <;> cases second <;> simp_all
  plainName member := by cases member <;> decide
  nameLength member := by cases member <;> decide

inductive RecheckKind where
  | source
  | designSystem
  | token
  | template
  | dependency
  | visual
  deriving DecidableEq

instance : Literal RecheckKind where
  members :=
    [.source, .designSystem, .token, .template, .dependency, .visual]
  name
    | .source => "source"
    | .designSystem => "design-system"
    | .token => "token"
    | .template => "template"
    | .dependency => "dependency"
    | .visual => "visual"
  complete member := by cases member <;> simp
  injective first second same := by
    cases first <;> cases second <;> simp_all
  plainName member := by cases member <;> decide
  nameLength member := by cases member <;> decide

/-- A change of a baseline that has to be checked again. -/
structure ExactChange where
  id : NonEmptyString
  kind : RecheckKind
  beforeRevisionId : NonEmptyString
  currentRevisionId : NonEmptyString
  projectId : ProjectId
  screenIds : List NonEmptyString
  routePaths : List RoutePath
  scenarioIds : List NonEmptyString
  componentIds : List NonEmptyString
  stableNodeIds : List NodeId
  reason : NonEmptyString
  deriving DecidableEq

def exactChangeSchema : Schema ExactChange :=
  .strictObject
    ["id", "kind", "beforeRevisionId", "currentRevisionId", "projectId",
      "screenIds", "routePaths", "scenarioIds", "componentIds",
      "stableNodeIds", "reason"]
    fun record => do
      let id ← nonEmptyText (record.get (js "id"))
      let kind ← Schema.choice RecheckKind (record.get (js "kind"))
      let beforeRevisionId ← nonEmptyText (record.get (js "beforeRevisionId"))
      let currentRevisionId ←
        nonEmptyText (record.get (js "currentRevisionId"))
      let projectId ← projectIdText (record.get (js "projectId"))
      let screenIds ←
        Schema.orDefault (.array nonEmptyText) [] (record.get (js "screenIds"))
      let routePaths ←
        Schema.orDefault (.array routePathText) []
          (record.get (js "routePaths"))
      let scenarioIds ←
        Schema.orDefault (.array nonEmptyText) []
          (record.get (js "scenarioIds"))
      let componentIds ←
        Schema.orDefault (.array nonEmptyText) []
          (record.get (js "componentIds"))
      let stableNodeIds ←
        Schema.orDefault (.array nodeIdText) []
          (record.get (js "stableNodeIds"))
      let reason ← nonEmptyText (record.get (js "reason"))
      some ⟨id, kind, beforeRevisionId, currentRevisionId, projectId, screenIds,
        routePaths, scenarioIds, componentIds, stableNodeIds, reason⟩

/-- Portable status of generated-design review. -/
structure DesignBaselineStatus where
  baselineId : Option NonEmptyString
  revisionId : Option NonEmptyString
  currency : BaselineCurrency
  approvalsStale : Bool
  exactChangesToRecheck : List ExactChange
  currentIsNamed :
    currency = .current → baselineId.isSome ∧ revisionId.isSome
  staleIsListed : currency = .stale → exactChangesToRecheck ≠ []

def designBaselineStatusSchema : Schema DesignBaselineStatus :=
  .strictObject
    ["baselineId", "revisionId", "currency", "approvalsStale",
      "exactChangesToRecheck"]
    fun record => do
      let baselineId ←
        Schema.optional nonEmptyText (record.get (js "baselineId"))
      let revisionId ←
        Schema.optional nonEmptyText (record.get (js "revisionId"))
      let currency ←
        Schema.choice BaselineCurrency (record.get (js "currency"))
      let approvalsStale ←
        Schema.boolean (record.get (js "approvalsStale"))
      let exactChangesToRecheck ←
        Schema.orDefault (.array exactChangeSchema) []
          (record.get (js "exactChangesToRecheck"))
      if consistent :
          (currency = .current → baselineId.isSome ∧ revisionId.isSome) ∧
            (currency = .stale → exactChangesToRecheck ≠ []) then
        some ⟨baselineId, revisionId, currency, approvalsStale,
          exactChangesToRecheck, consistent.1, consistent.2⟩
      else
        none

inductive ProjectState where
  | planned
  | active
  | blocked
  | complete
  deriving DecidableEq

instance : Literal ProjectState where
  members := [.planned, .active, .blocked, .complete]
  name
    | .planned => "planned"
    | .active => "active"
    | .blocked => "blocked"
    | .complete => "complete"
  complete member := by cases member <;> simp
  injective first second same := by
    cases first <;> cases second <;> simp_all
  plainName member := by cases member <;> decide
  nameLength member := by cases member <;> decide

/-- `string().check(maxLength(1024))`. -/
def summaryText (text : JsString) : Bool :=
  decide (text.length ≤ 1024)

structure ProjectStatus where
  state : ProjectState
  updatedAt : NonEmptyString
  summary : Option (Checked summaryText)
  designBaseline : Option DesignBaselineStatus

def projectStatusSchema : Schema ProjectStatus :=
  .strictObject ["state", "updatedAt", "summary", "designBaseline"]
    fun record => do
      let state ← Schema.choice ProjectState (record.get (js "state"))
      let updatedAt ← nonEmptyText (record.get (js "updatedAt"))
      let summary ← Schema.optional (.text _) (record.get (js "summary"))
      let designBaseline ←
        Schema.optional designBaselineStatusSchema
          (record.get (js "designBaseline"))
      some ⟨state, updatedAt, summary, designBaseline⟩

/-! ## Parts of a project -/

/-- The nodes that a project claims, exactly or by prefix. -/
structure Ownership where
  nodeIds : List NodeId
  nodeIdPrefixes : List NonEmptyString
  uniqueNodeIds : nodeIds.Nodup
  uniquePrefixes : nodeIdPrefixes.Nodup

/-- At most 10,000 items. -/
def boundedArray {α : Type} (item : Schema α) : Schema (List α) :=
  fun value => do
    let items ← Schema.array item value
    if items.length ≤ 10000 then some items else none

def ownershipSchema : Schema Ownership :=
  .strictObject ["nodeIds", "nodeIdPrefixes"] fun record => do
    let nodeIds ← boundedArray nodeIdText (record.get (js "nodeIds"))
    let nodeIdPrefixes ←
      Schema.orDefault (boundedArray nonEmptyText) []
        (record.get (js "nodeIdPrefixes"))
    if unique : nodeIds.Nodup ∧ nodeIdPrefixes.Nodup then
      some ⟨nodeIds, nodeIdPrefixes, unique.1, unique.2⟩
    else
      none

structure ChangelogEntry where
  id : NonEmptyString
  at_ : NonEmptyString
  summary : NonEmptyString

def changelogEntrySchema : Schema ChangelogEntry :=
  .strictObject ["id", "at", "summary"] fun record => do
    let id ← nonEmptyText (record.get (js "id"))
    let at_ ← nonEmptyText (record.get (js "at"))
    let summary ← nonEmptyText (record.get (js "summary"))
    some ⟨id, at_, summary⟩

structure StorybookReference where
  component : NonEmptyString
  url : NonEmptyString

def storybookReferenceSchema : Schema StorybookReference :=
  .strictObject ["component", "url"] fun record => do
    let component ← nonEmptyText (record.get (js "component"))
    let url ← nonEmptyText (record.get (js "url"))
    some ⟨component, url⟩

structure Screen where
  id : NonEmptyString
  name : NonEmptyString
  description : Option JsString

def screenSchema : Schema Screen :=
  .strictObject ["id", "name", "description"] fun record => do
    let id ← nonEmptyText (record.get (js "id"))
    let name ← nonEmptyText (record.get (js "name"))
    let description ←
      Schema.optional .string (record.get (js "description"))
    some ⟨id, name, description⟩

structure Route where
  path : RoutePath
  screenId : NonEmptyString
  title : Option JsString

def routeSchema : Schema Route :=
  .strictObject ["path", "screenId", "title"] fun record => do
    let path ← routePathText (record.get (js "path"))
    let screenId ← nonEmptyText (record.get (js "screenId"))
    let title ← Schema.optional .string (record.get (js "title"))
    some ⟨path, screenId, title⟩

structure DesignSystemReference where
  packageName : NonEmptyString
  version : NonEmptyString
  tokenSource : NonEmptyString
  documentationUrl : Option NonEmptyString

def designSystemReferenceSchema : Schema DesignSystemReference :=
  .strictObject ["packageName", "version", "tokenSource", "documentationUrl"]
    fun record => do
      let packageName ← nonEmptyText (record.get (js "packageName"))
      let version ← nonEmptyText (record.get (js "version"))
      let tokenSource ← nonEmptyText (record.get (js "tokenSource"))
      let documentationUrl ←
        Schema.optional nonEmptyText (record.get (js "documentationUrl"))
      some ⟨packageName, version, tokenSource, documentationUrl⟩

structure ReactSourcePointer where
  path : NonEmptyString
  exportName : Option JsString
  revision : NonEmptyString
  checksum : Option Sha256

def reactSourcePointerSchema : Schema ReactSourcePointer :=
  .strictObject ["path", "exportName", "revision", "checksum"]
    fun record => do
      let path ← nonEmptyText (record.get (js "path"))
      let exportName ← Schema.optional .string (record.get (js "exportName"))
      let revision ← nonEmptyText (record.get (js "revision"))
      let checksum ← Schema.optional sha256Text (record.get (js "checksum"))
      some ⟨path, exportName, revision, checksum⟩

structure StaticDeployment where
  baseUrl : NonEmptyString
  outputDirectory : NonEmptyString
  assetBaseUrl : Option NonEmptyString

def staticDeploymentSchema : Schema StaticDeployment :=
  .strictObject ["mode", "baseUrl", "outputDirectory", "assetBaseUrl"]
    fun record => do
      Schema.literal "static" (record.get (js "mode"))
      let baseUrl ← nonEmptyText (record.get (js "baseUrl"))
      let outputDirectory ← nonEmptyText (record.get (js "outputDirectory"))
      let assetBaseUrl ←
        Schema.optional nonEmptyText (record.get (js "assetBaseUrl"))
      some ⟨baseUrl, outputDirectory, assetBaseUrl⟩

structure AgentDownload where
  href : NonEmptyString
  checksum : Sha256
  instructions : NonEmptyString

def agentDownloadSchema : Schema AgentDownload :=
  .strictObject ["href", "mediaType", "checksum", "instructions"]
    fun record => do
      let href ← nonEmptyText (record.get (js "href"))
      Schema.literal "application/json" (record.get (js "mediaType"))
      let checksum ← sha256Text (record.get (js "checksum"))
      let instructions ← nonEmptyText (record.get (js "instructions"))
      some ⟨href, checksum, instructions⟩

/-- A list that is not empty. -/
def nonEmptyArray {α : Type} (item : Schema α) : Schema (List α) :=
  fun value => do
    let items ← Schema.array item value
    if 1 ≤ items.length then some items else none

structure HandoffDescriptor where
  href : NonEmptyString
  sha256 : Sha256
  expiresAt : Option NonEmptyString
  manifestPath : NonEmptyString
  reactSource : List ReactSourcePointer
  comments : List NonEmptyString
  developerDirections : List NonEmptyString
  agentDownload : AgentDownload

def handoffDescriptorSchema : Schema HandoffDescriptor :=
  .strictObject
    ["href", "sha256", "expiresAt", "manifestPath", "reactSource", "comments",
      "developerDirections", "agentDownload"]
    fun record => do
      let href ← nonEmptyText (record.get (js "href"))
      let sha256 ← sha256Text (record.get (js "sha256"))
      let expiresAt ←
        Schema.optional nonEmptyText (record.get (js "expiresAt"))
      let manifestPath ← nonEmptyText (record.get (js "manifestPath"))
      let reactSource ←
        nonEmptyArray reactSourcePointerSchema (record.get (js "reactSource"))
      let comments ←
        Schema.array nonEmptyText (record.get (js "comments"))
      let developerDirections ←
        nonEmptyArray nonEmptyText (record.get (js "developerDirections"))
      let agentDownload ←
        agentDownloadSchema (record.get (js "agentDownload"))
      some ⟨href, sha256, expiresAt, manifestPath, reactSource, comments,
        developerDirections, agentDownload⟩

/-! ## Projects -/

inductive ProjectRole where
  | shell
  | child
  deriving DecidableEq

instance : Literal ProjectRole where
  members := [.shell, .child]
  name
    | .shell => "shell"
    | .child => "child"
  complete member := by cases member <;> simp
  injective first second same := by
    cases first <;> cases second <;> simp_all
  plainName member := by cases member <;> decide
  nameLength member := by cases member <;> decide

structure Project where
  projectId : ProjectId
  parentProjectId : Option ProjectId
  role : ProjectRole
  status : ProjectStatus
  ownership : Ownership
  changelog : List ChangelogEntry
  designSystem : List DesignSystemReference
  screens : List Screen
  routes : List Route
  storybook : List StorybookReference
  reactSource : List ReactSourcePointer
  deployment : StaticDeployment
  children : List ProjectId
  handoff : Option HandoffDescriptor
  childHasParent : role = .child → parentProjectId.isSome
  routesNameScreens :
    ∀ route ∈ routes, route.screenId ∈ screens.map Screen.id

def projectSchema : Schema Project :=
  .strictObject
    ["schemaVersion", "projectId", "parentProjectId", "role", "status",
      "ownership", "changelog", "designSystem", "screens", "routes",
      "storybook", "reactSource", "deployment", "children", "handoff"]
    fun record => do
      Schema.literal "1.0" (record.get (js "schemaVersion"))
      let projectId ← projectIdText (record.get (js "projectId"))
      let parentProjectId ←
        Schema.optional projectIdText (record.get (js "parentProjectId"))
      let role ← Schema.choice ProjectRole (record.get (js "role"))
      let status ← projectStatusSchema (record.get (js "status"))
      let ownership ← ownershipSchema (record.get (js "ownership"))
      let changelog ←
        Schema.array changelogEntrySchema (record.get (js "changelog"))
      let designSystem ←
        nonEmptyArray designSystemReferenceSchema
          (record.get (js "designSystem"))
      let screens ← nonEmptyArray screenSchema (record.get (js "screens"))
      let routes ← nonEmptyArray routeSchema (record.get (js "routes"))
      let storybook ←
        nonEmptyArray storybookReferenceSchema (record.get (js "storybook"))
      let reactSource ←
        nonEmptyArray reactSourcePointerSchema (record.get (js "reactSource"))
      let deployment ←
        staticDeploymentSchema (record.get (js "deployment"))
      let children ←
        Schema.orDefault (.array projectIdText) []
          (record.get (js "children"))
      let handoff ←
        Schema.optional handoffDescriptorSchema (record.get (js "handoff"))
      if consistent :
          (role = .child → parentProjectId.isSome) ∧
            ∀ route ∈ routes, route.screenId ∈ screens.map Screen.id then
        some ⟨projectId, parentProjectId, role, status, ownership, changelog,
          designSystem, screens, routes, storybook, reactSource, deployment,
          children, handoff, consistent.1, consistent.2⟩
      else
        none

end Selene.Federation
