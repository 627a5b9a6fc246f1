import Selene.InertCopy
import Selene.JsCoercion
import Selene.ProjectText

/-!
# Local project records

The record that a local project is stored as, and the decoder that every read
passes: the current format, its bounds on the history, and the migration of the
first format.  `toValue` is what a store gives back of a committed record.

The validators of designer states are not embedded.  `DesignerStates` stands for
them: a designer state is the value that its decoder returns.
-/

namespace Selene.Lifecycle

open Js Generation

/-! ## Data model -/

inductive ProjectOrigin where
  | sample
  | template
  | created
  | imported
  | duplicated
  deriving DecidableEq

instance : Literal ProjectOrigin where
  members := [.sample, .template, .created, .imported, .duplicated]
  name
    | .sample => "sample"
    | .template => "template"
    | .created => "created"
    | .imported => "imported"
    | .duplicated => "duplicated"
  complete member := by cases member <;> simp
  injective first second same := by
    cases first <;> cases second <;> simp_all
  plainName member := by cases member <;> decide
  nameLength member := by cases member <;> decide

inductive ProjectStatus where
  | active
  | archived
  deriving DecidableEq

instance : Literal ProjectStatus where
  members := [.active, .archived]
  name
    | .active => "active"
    | .archived => "archived"
  complete member := by cases member <;> simp
  injective first second same := by
    cases first <;> cases second <;> simp_all
  plainName member := by cases member <;> decide
  nameLength member := by cases member <;> decide

instance : Literal SourceLanguage where
  members := [.css, .json, .ts, .tsx]
  name
    | .css => "css"
    | .json => "json"
    | .ts => "ts"
    | .tsx => "tsx"
  complete member := by cases member <;> simp
  injective first second same := by
    cases first <;> cases second <;> simp_all
  plainName member := by cases member <;> decide
  nameLength member := by cases member <;> decide

/-- An origin, inside the arrays of one element that it was given in. -/
structure GivenOrigin where
  origin : ProjectOrigin
  arrays : Nat
  deriving DecidableEq

/--
`{ ...base, id, createdAt, summary }`: a revision keeps the properties that the
service does not read.
-/
structure PortableRevision where
  base : Record
  id : JsString
  createdAt : JsString
  summary : JsString

/-- `{ ...base, revision }`. -/
structure PortableWorkspace where
  base : Record
  revision : PortableRevision

/-- A shell is the list of the projects that it claims. -/
structure LocalProductShell where
  childProjectIds : List ProjectId
  deriving DecidableEq

structure LocalProjectMetadata where
  id : ProjectId
  name : JsString
  origin : GivenOrigin
  status : ProjectStatus
  createdAt : JsString
  updatedAt : JsString
  lastOpenedAt : Option JsString
  productShell : Option LocalProductShell
  deriving DecidableEq

structure LocalProjectVersion where
  id : JsString
  createdAt : JsString
  summary : JsString
  workspace : PortableWorkspace

structure AutosaveDraft where
  savedAt : JsString
  workspace : PortableWorkspace

structure DesignLanguageGuidance where
  digest : JsString
  markdown : JsString
  sourceLocator : Option JsString
  deriving DecidableEq

structure LocalProjectRecord where
  versionSequence : Nat
  project : LocalProjectMetadata
  current : PortableWorkspace
  versions : List LocalProjectVersion
  autosave : Option AutosaveDraft
  designerState : Option JsValue
  designLanguageGuidance : Option (List DesignLanguageGuidance)

structure DecodedRecord where
  record : LocalProjectRecord
  migrated : Bool
  normalized : Bool

/--
The validators of designer states: `decodeDesignerState`,
`validateDesignerStateCurrent` and `decodePrototypeGraph`.
-/
structure DesignerStates where
  decode : JsValue → ProjectId → Checked JsValue
  validateCurrent : JsValue → PortableWorkspace → Checked Unit
  decodePrototypeGraph : JsValue → ProjectId → Checked JsValue

/-- A configured service: its platform, validators and limits. -/
structure Host where
  platform : Platform
  states : DesignerStates
  maxVersions : Nat
  maxQuarantineBytes : Nat
  maxImportBytes : Nat
  two_le_maxVersions : 2 ≤ maxVersions

/-! ## Values of workspaces -/

def readString : JsValue → Option JsString
  | .string text => some text
  | _ => none

def readArray {α : Type} (item : JsValue → Option α) :
    JsValue → Option (List α)
  | .array items => items.mapM item
  | _ => none

def readObject : JsValue → Option Record
  | .object entries => some entries
  | _ => none

def readSourceFile (value : JsValue) : Option SourceFile := do
  let input ← readObject value
  let path ← readString (input.get (js "path"))
  let content ← readString (input.get (js "content"))
  let language ← Literal.parse (input.get (js "language"))
  pure { path, content, language }

def readNodeMetadata (value : JsValue) : Option NodeMetadata := do
  let input ← readObject value
  let nodeId ← readString (input.get (js "nodeId"))
  let path ← readString (input.get (js "path"))
  pure { nodeId, path }

/-- A field that may be left out. -/
def readOptional {α : Type} (item : JsValue → Option α) :
    JsValue → Option (Option α)
  | .undefined => some none
  | value => (item value).map some

/-- The parts that validation reads, if they have their declared types. -/
def readSourceWorkspace (input : Record) : Option ReactSourceWorkspace := do
  let entrypoint ← readString (input.get (js "entrypoint"))
  let files ← readArray readSourceFile (input.get (js "files"))
  let dependencies ← readArray readString (input.get (js "dependencies"))
  let nodes ← readArray readNodeMetadata (input.get (js "nodes"))
  pure { entrypoint, files, dependencies, nodes }

namespace PortableRevision

/-- `parentId`, of any type. -/
def parentId (revision : PortableRevision) : JsValue :=
  revision.base.get (js "parentId")

def toValue (revision : PortableRevision) : JsValue :=
  .object (revision.base.spread [
    (js "id", .string revision.id),
    (js "createdAt", .string revision.createdAt),
    (js "summary", .string revision.summary)])

end PortableRevision

namespace PortableWorkspace

/-- `projectId`, of any type. -/
def projectId (workspace : PortableWorkspace) : JsValue :=
  workspace.base.get (js "projectId")

def toValue (workspace : PortableWorkspace) : JsValue :=
  .object (workspace.base.define (js "revision") workspace.revision.toValue)

end PortableWorkspace

mutual

/-- Whether `structuredClone` takes a value. -/
def isCloneable : JsValue → Bool
  | .array items => areCloneable items
  | .object entries => haveCloneable entries
  | .exotic => false
  | _ => true

def areCloneable : List JsValue → Bool
  | [] => true
  | item :: rest => isCloneable item && areCloneable rest

def haveCloneable : Record → Bool
  | [] => true
  | (_, value) :: rest => isCloneable value && haveCloneable rest

end

/-! ## Decoding parts -/

section

variable (platform : Platform)

/-- `validateReactSourceWorkspace`, with the dependencies that are declared. -/
def validateSource (input : Record) : Checked Unit :=
  match readSourceWorkspace input with
  | some source =>
      (validateReactSourceWorkspace source source.dependencies).mapError
        fun diagnostics =>
          [0x0A].intercalate (diagnostics.map SourceDiagnostic.message)
  | none => platform.validateUntyped input

/-- The properties of a revision; a primitive value or an array has none. -/
def revisionEntries : JsValue → Option Record
  | .undefined | .null => none
  | .object entries => some entries
  | _ => some []

/--
A portable workspace, with its revision checked and its summary normalized.  All
other properties stay as they are.
-/
def portableWorkspace (value : JsValue) : Checked PortableWorkspace := do
  check (isCloneable value = true) (platform.engineError value)
  let base ← match value with
    | .object base => .ok base
    | _ => .error (platform.engineError value)
  validateSource platform base
  let revision ← match revisionEntries (Record.get base (js "revision")) with
    | some revision => .ok revision
    | none => .error (platform.engineError value)
  let id ← text (revision.get (js "id")) (js "workspace.revision.id")
  check (versionIdPattern id = true) (js "workspace.revision.id is invalid")
  let createdAt ← timestamp (revision.get (js "createdAt"))
    (js "workspace.revision.createdAt")
  let summary ← normalizedText platform (revision.get (js "summary"))
    (js "workspace.revision.summary") 512
  pure { base, revision := { base := revision, id, createdAt, summary } }

def workspace (value : JsValue) (name : JsString) : Checked PortableWorkspace :=
  (portableWorkspace platform value).mapError fun message =>
    name ++ js " is not a valid portable React workspace: " ++ message

/-- A value that may be left out. -/
def optional {α : Type} (decode : JsValue → Checked α) :
    JsValue → Checked (Option α)
  | .undefined => .ok none
  | value => (decode value).map some

def productShell (value : JsValue) : Checked LocalProductShell := do
  let shell ← record value (js "project.productShell")
  exactReceiptKeys shell [js "format", js "childProjectIds"]
    (js "project.productShell")
  check (IsText (shell.get (js "format")) (js "selene-local-product-shell/v1"))
    (js "project.productShell is invalid")
  match shell.get (js "childProjectIds") with
  | .array items => do
      check (items.length ≠ 0 ∧ items.length ≤ 64)
        (js "project.productShell is invalid")
      let childProjectIds ← items.zipIdx.mapM fun child =>
        projectId child.1 (js "project.productShell.childProjectIds[" ++
          decimalDigits child.2 ++ js "]")
      check (childProjectIds.Nodup)
        (js "project.productShell child projects must be unique")
      pure ⟨childProjectIds.insertionSort fun first second =>
        first.text ≤ second.text⟩
  | _ => .error (js "project.productShell is invalid")

mutual

/-- `String(value)` names an origin; the text of an array joins its elements. -/
def readOrigin : JsValue → Option GivenOrigin
  | .array items => (readOnlyOrigin items).map fun given =>
      { given with arrays := given.arrays + 1 }
  | value => (Literal.parse value).map (⟨·, 0⟩)

def readOnlyOrigin : List JsValue → Option GivenOrigin
  | [item] => readOrigin item
  | _ => none

end

def metadata (value : JsValue) : Checked LocalProjectMetadata := do
  let input ← record value (js "project")
  let origin ← match readOrigin (input.get (js "origin")) with
    | some origin => .ok origin
    | none => .error (js "project.origin is invalid")
  let status ← match Literal.parse (input.get (js "status")) with
    | some status => .ok status
    | none => .error (js "project.status is invalid")
  let lastOpenedAt ← optional
    (fun value => timestamp value (js "project.lastOpenedAt"))
    (input.get (js "lastOpenedAt"))
  let productShell ← optional productShell (input.get (js "productShell"))
  let id ← projectId (input.get (js "id")) (js "project id")
  let name ← normalizedText platform (input.get (js "name"))
    (js "project.name") 120
  let createdAt ← timestamp (input.get (js "createdAt"))
    (js "project.createdAt")
  let updatedAt ← timestamp (input.get (js "updatedAt"))
    (js "project.updatedAt")
  pure { id, name, origin, status, createdAt, updatedAt, lastOpenedAt,
         productShell }

def version (value : JsValue) : Checked LocalProjectVersion := do
  let input ← record value (js "version")
  let id ← text (input.get (js "id")) (js "version.id")
  check (versionIdPattern id = true) (js "version.id is invalid")
  let createdAt ← timestamp (input.get (js "createdAt"))
    (js "version.createdAt")
  let summary ← normalizedText platform (input.get (js "summary"))
    (js "version.summary") 512
  let workspace ← workspace platform (input.get (js "workspace"))
    (js "version.workspace")
  pure { id, createdAt, summary, workspace }

def autosave (value : JsValue) : Checked AutosaveDraft := do
  let input ← record value (js "autosave")
  let savedAt ← timestamp (input.get (js "savedAt")) (js "autosave.savedAt")
  let workspace ← workspace platform (input.get (js "workspace"))
    (js "autosave.workspace")
  pure { savedAt, workspace }

/-- The bytes of guidance that a record may hold. -/
def maxGuidanceBytes : Nat := 256 * 1024

/-- A source locator that may be stored. -/
def isSourceLocator (locator : JsString) : Bool :=
  platform.isAbsolute locator && !locator.contains 0 &&
    decide (utf8Length locator ≤ 4096)

/-- One entry of guidance, after `total` bytes of earlier ones. -/
def guidanceEntry (total : Nat) (value : JsValue) :
    Checked DesignLanguageGuidance := do
  let item ← record value (js "design language guidance")
  exactReceiptKeys item
    ([js "digest", js "markdown"] ++
      if js "sourceLocator" ∈ item.keys then [js "sourceLocator"] else [])
    (js "design language guidance")
  match item.get (js "digest"), item.get (js "markdown"),
      readOptional readString (item.get (js "sourceLocator")) with
  | .string digest, .string markdown, some sourceLocator => do
      check (isSha256 digest = true ∧
          sourceLocator.all (isSourceLocator platform) = true)
        (js "design language guidance is invalid")
      check (total + utf8Length markdown ≠ 0 ∧
          total + utf8Length markdown ≤ maxGuidanceBytes ∧
          platform.sha256 markdown = digest)
        (js "design language guidance is invalid")
      pure { digest, markdown, sourceLocator }
  | _, _, _ => .error (js "design language guidance is invalid")

/-- Entries one after another. -/
def guidanceEntries : Nat → List JsValue → Checked (List DesignLanguageGuidance)
  | _, [] => pure []
  | total, value :: rest => do
      let entry ← guidanceEntry platform total value
      let others ← guidanceEntries (total + utf8Length entry.markdown) rest
      pure (entry :: others)

def guidance (value : JsValue) : Checked (List DesignLanguageGuidance) :=
  match value with
  | .array items => do
      check (items.length ≤ 32) (js "design language guidance is invalid")
      let entries ← guidanceEntries platform 0 items
      check ((entries.map DesignLanguageGuidance.digest).Nodup)
        (js "design language guidance is invalid")
      pure entries
  | _ => .error (js "design language guidance is invalid")

end

/-! ## Decoding records -/

/-- The rules that tie a project to its current workspace. -/
def checkProject (project : LocalProjectMetadata) (current : PortableWorkspace) :
    Checked Unit := do
  check (IsText current.projectId project.id.text)
    (js "project ID must match workspace project ID")
  check (∀ shell ∈ project.productShell, project.id ∉ shell.childProjectIds)
    (js "product shell cannot include its own project ID")
  check (¬project.updatedAt < project.createdAt)
    (js "project.createdAt cannot be after project.updatedAt")
  check (∀ opened ∈ project.lastOpenedAt,
      ¬opened < project.createdAt ∧ ¬project.updatedAt < opened)
    (js "project.lastOpenedAt must be within the project lifecycle")

/-- The rules for one version after the earlier ones, the latest first. -/
def checkVersion
    (project : LocalProjectMetadata)
    (earlier : List LocalProjectVersion)
    (entry : LocalProjectVersion) :
    Checked Unit := do
  check (entry.id ∉ earlier.map LocalProjectVersion.id)
    (js "version IDs must be unique")
  check (entry.workspace.revision.id ∉
      earlier.map fun before => before.workspace.revision.id)
    (js "version workspace revisions must be unique")
  check (∀ previous ∈ earlier.head?, previous.createdAt < entry.createdAt)
    (js "version timestamps must be strictly increasing")
  check (¬entry.createdAt < entry.workspace.revision.createdAt)
    (js "version timestamp cannot predate its workspace revision")
  check (¬entry.createdAt < project.createdAt ∧
      ¬entry.workspace.revision.createdAt < project.createdAt)
    (js "version history cannot predate project creation")
  check (¬project.updatedAt < entry.createdAt)
    (js "version timestamp cannot be after project.updatedAt")
  check (IsText entry.workspace.projectId project.id.text)
    (js "version workspace project ID must match project ID")

def checkVersions (project : LocalProjectMetadata) :
    List LocalProjectVersion → List LocalProjectVersion → Checked Unit
  | _, [] => pure ()
  | earlier, entry :: rest => do
      checkVersion project earlier entry
      checkVersions project (entry :: earlier) rest

/-- A property of a value, if it is an object. -/
def field (value : JsValue) (name : JsString) : JsValue :=
  match value with
  | .object entries => Record.get entries name
  | _ => .undefined

/-- `{ ...value, [name]: changed }`. -/
def setField (value : JsValue) (name : JsString) (changed : JsValue) : JsValue :=
  match value with
  | .object entries =>
      if name ∈ Record.keys entries then
        .object (entries.map fun entry =>
          if entry.1 = name then (name, changed) else entry)
      else
        .object (entries ++ [(name, changed)])
  | _ => .object [(name, changed)]

/-- The guidance digests that the receipts of a designer state name. -/
def receiptGuidance (designerState : JsValue) : List JsValue :=
  let setup := field designerState (js "setup")
  match field setup (js "designLanguages") with
  | .array entries => entries.map fun entry => field entry (js "id")
  | _ =>
      match field setup (js "designLanguage") with
      | .undefined => []
      | receipt => [field receipt (js "artifactDigest")]

/-- The receipts are the digests of the guidance, in order. -/
def ReceiptsMatch
    (designerState : JsValue)
    (guidance : Option (List DesignLanguageGuidance)) : Prop :=
  List.Forall₂ (fun receipt digest => IsText receipt digest)
    (receiptGuidance designerState)
    ((guidance.getD []).map DesignLanguageGuidance.digest)

instance (designerState : JsValue)
    (guidance : Option (List DesignLanguageGuidance)) :
    Decidable (ReceiptsMatch designerState guidance) := by
  unfold ReceiptsMatch
  infer_instance

/-- The rules for the times of an autosave. -/
def DraftFits
    (project : LocalProjectMetadata)
    (versions : List LocalProjectVersion)
    (draft : AutosaveDraft) : Prop :=
  ¬draft.workspace.revision.createdAt < project.createdAt ∧
    ¬draft.savedAt < draft.workspace.revision.createdAt ∧
    (∀ last ∈ versions.getLast?, ¬draft.savedAt < last.createdAt) ∧
    ¬project.updatedAt < draft.savedAt

instance (project : LocalProjectMetadata)
    (versions : List LocalProjectVersion)
    (draft : AutosaveDraft) :
    Decidable (DraftFits project versions draft) := by
  unfold DraftFits
  infer_instance

/-- `LOCAL_PROJECT_RECORD_FORMAT`. -/
def localProjectRecordFormat : JsString :=
  js "selene-local-project/v2"

/-- `LEGACY_PROJECT_RECORD_FORMAT`. -/
def legacyProjectRecordFormat : JsString :=
  js "selene-local-project/v1"

/-- A number property with a given value. -/
def IsNumber (value : JsValue) (expected : Nat) : Prop :=
  match value with
  | .number number => number = .ofNat expected
  | _ => False

instance (value : JsValue) (expected : Nat) :
    Decidable (IsNumber value expected) := by
  unfold IsNumber
  split <;> infer_instance

def versionSequence (value : JsValue) : Checked Nat := do
  let sequence ← match value with
    | .number number =>
        match number.safeInteger? with
        | some (.ofNat (sequence + 1)) => .ok (sequence + 1)
        | _ => .error (js "versionSequence must be a positive safe integer")
    | _ => .error (js "versionSequence must be a positive safe integer")
  check (sequence < JsNumber.maxSafeInteger)
    (js "versionSequence must remain below Number.MAX_SAFE_INTEGER")
  pure sequence

/-- The versions of a record, before any is dropped. -/
def allVersions (platform : Platform) (value : JsValue) :
    Checked (List LocalProjectVersion) :=
  match value with
  | .array items => do
      check (items.length ≠ 0)
        (js "project record must retain at least one version")
      items.mapM (version platform)
  | _ => .error (js "project record must retain at least one version")

/-- `list.slice(-count)`. -/
def lastOf {α : Type} (count : Nat) (items : List α) : List α :=
  items.drop (items.length - count)

/-- `isDeepStrictEqual`, of plain data. -/
abbrev isDeepStrictEqual : JsValue → JsValue → Bool :=
  sameInert

def decodeV2 (host : Host) (value : JsValue) : Checked DecodedRecord := do
  let input ← record value (js "project record")
  check (IsText (input.get (js "format")) localProjectRecordFormat ∧
      IsNumber (input.get (js "schemaVersion")) 2)
    (js "unsupported project record format")
  let current ← workspace host.platform (input.get (js "current"))
    (js "current")
  let project ← metadata host.platform (input.get (js "project"))
  let versionSequence ← versionSequence (input.get (js "versionSequence"))
  checkProject project current
  let allVersions ← allVersions host.platform (input.get (js "versions"))
  check (allVersions.length ≤ versionSequence)
    (js "versionSequence cannot be behind retained history")
  checkVersions project [] allVersions
  check (allVersions.getLast?.any (fun latest => isDeepStrictEqual
      latest.workspace.toValue current.toValue) = true)
    (js "latest version must match the last known-good workspace")
  let draft ← optional (autosave host.platform) (input.get (js "autosave"))
  let designerState ← optional (host.states.decode · project.id)
    (input.get (js "designerState"))
  designerState.forM (host.states.validateCurrent · current)
  let designLanguageGuidance ← optional (guidance host.platform)
    (input.get (js "designLanguageGuidance"))
  check (∀ state ∈ designerState, ReceiptsMatch state designLanguageGuidance)
    (js "designerState design language receipts must match complete guidance in order")
  check (∀ saved ∈ draft, IsText saved.workspace.projectId project.id.text)
    (js "autosave workspace project ID must match project ID")
  check (¬current.revision.createdAt < project.createdAt ∧
      ¬project.updatedAt < current.revision.createdAt)
    (js "current revision must be within the project lifecycle")
  check (∀ saved ∈ draft, DraftFits project allVersions saved)
    (js "autosave timestamp must follow the latest committed version")
  pure {
    record := {
      versionSequence, project, current,
      versions := lastOf host.maxVersions allVersions
      autosave := draft
      designerState, designLanguageGuidance }
    migrated := false
    normalized :=
      (lastOf host.maxVersions allVersions).length ≠ allVersions.length }

/-! ## Values of records -/

def LocalProductShell.toValue (shell : LocalProductShell) : JsValue :=
  .object [
    (js "format", .string (js "selene-local-product-shell/v1")),
    (js "childProjectIds",
      .array (shell.childProjectIds.map fun child => .string child.text))]

def GivenOrigin.toValue (given : GivenOrigin) : JsValue :=
  (fun value => JsValue.array [value])^[given.arrays]
    (.string (Literal.text given.origin))

def LocalProjectMetadata.toValue (project : LocalProjectMetadata) : JsValue :=
  .object ([
    (js "id", .string project.id.text),
    (js "name", .string project.name),
    (js "origin", project.origin.toValue),
    (js "status", .string (Literal.text project.status)),
    (js "createdAt", .string project.createdAt),
    (js "updatedAt", .string project.updatedAt)] ++
    (Record.optionalEntry (js "lastOpenedAt")
      (project.lastOpenedAt.map .string) ++
    Record.optionalEntry (js "productShell")
      (project.productShell.map LocalProductShell.toValue)))

def LocalProjectVersion.toValue (version : LocalProjectVersion) : JsValue :=
  .object [
    (js "id", .string version.id),
    (js "createdAt", .string version.createdAt),
    (js "summary", .string version.summary),
    (js "workspace", version.workspace.toValue)]

def AutosaveDraft.toValue (draft : AutosaveDraft) : JsValue :=
  .object [
    (js "savedAt", .string draft.savedAt),
    (js "workspace", draft.workspace.toValue)]

def DesignLanguageGuidance.toValue (entry : DesignLanguageGuidance) : JsValue :=
  .object ([
    (js "digest", .string entry.digest),
    (js "markdown", .string entry.markdown)] ++
    Record.optionalEntry (js "sourceLocator")
      (entry.sourceLocator.map .string))

/-- The parts of a record in the current format, as `decodeV2` reads them. -/
def recordValue
    (versionSequence : Nat)
    (project : LocalProjectMetadata)
    (current : PortableWorkspace)
    (versions : List LocalProjectVersion)
    (rest : Record) :
    JsValue :=
  .object ([
    (js "format", .string localProjectRecordFormat),
    (js "schemaVersion", .number (.ofNat 2)),
    (js "versionSequence", .number (.ofNat versionSequence)),
    (js "project", project.toValue),
    (js "current", current.toValue),
    (js "versions", .array (versions.map LocalProjectVersion.toValue))] ++
    rest)

/-- What a store gives back of a committed record. -/
def LocalProjectRecord.toValue (stored : LocalProjectRecord) : JsValue :=
  recordValue stored.versionSequence stored.project stored.current
    stored.versions
    (Record.optionalEntry (js "autosave")
      (stored.autosave.map AutosaveDraft.toValue) ++
    (Record.optionalEntry (js "designerState") stored.designerState ++
    Record.optionalEntry (js "designLanguageGuidance")
      (stored.designLanguageGuidance.map fun entries =>
        .array (entries.map DesignLanguageGuidance.toValue))))

/-! ## Free ids -/

/-- The id made with a digest, for one attempt. -/
def digestId
    (platform : Platform)
    (start sourceId discriminator : JsString)
    (attempt : Nat) :
    JsString :=
  let digest := (platform.sha256 (start ++ 0 :: sourceId ++ 0 ::
    discriminator ++ 0 :: decimalDigits attempt)).take 24
  let tail := if discriminator = [] then digest
    else discriminator ++ 0x2D :: digest
  let sourceLength := maxVersionIdLength - start.length - tail.length - 2
  start ++ 0x2D :: sourceId.take sourceLength ++ 0x2D :: tail

/-- The first attempt whose id is free, in the turns that are followed. -/
def firstFree (candidate : Nat → JsString) (occupied : List JsString) :
    Nat → Nat → Option JsString
  | 0, _ => none
  | turns + 1, attempt =>
      if candidate attempt ∈ occupied then
        firstFree candidate occupied turns (attempt + 1)
      else
        some (candidate attempt)

/-- The id made of the parts themselves. -/
def directId (start sourceId discriminator : JsString) : JsString :=
  start ++ 0x2D :: sourceId ++
    if discriminator = [] then [] else 0x2D :: discriminator

/-- The error of a run whose loop is not followed to its end. -/
def outOfAttempts : JsString :=
  js "no free id in the attempts that are followed"

def collisionFreeId
    (platform : Platform)
    (start sourceId discriminator : JsString)
    (occupied : List JsString) :
    Checked JsString :=
  let direct := directId start sourceId discriminator
  if direct.length ≤ maxVersionIdLength ∧ direct ∉ occupied then
    .ok direct
  else
    match firstFree (digestId platform start sourceId discriminator) occupied
        platform.attempts 0 with
    | some id => .ok id
    | none => .error outOfAttempts

def derivedVersionId (platform : Platform) (start revisionId : JsString) :
    Checked JsString :=
  collisionFreeId platform start revisionId [] []

/-! ## The first format -/

/-- The versions of a record in the first format. -/
def legacyVersions
    (platform : Platform)
    (value : JsValue)
    (current : PortableWorkspace) :
    Checked (List LocalProjectVersion) :=
  match value with
  | .array items => items.mapM (version platform)
  | _ => do
      let id ← derivedVersionId platform (js "initial") current.revision.id
      pure [{
        id
        createdAt := current.revision.createdAt
        summary := current.revision.summary
        workspace := current }]

/-- The current workspace becomes the last version, if it is not yet. -/
def withCurrentVersion
    (platform : Platform)
    (versions : List LocalProjectVersion)
    (current : PortableWorkspace) :
    Checked (List LocalProjectVersion) :=
  if versions.getLast?.map (fun latest => latest.workspace.revision.id) =
      some current.revision.id then
    pure versions
  else do
    let id ← derivedVersionId platform (js "migrated") current.revision.id
    let createdAt ← monotonicTimestamp current.revision.createdAt
      ((versions.getLast?.map LocalProjectVersion.createdAt).getD
        current.revision.createdAt)
    pure (versions ++ [{
      id, createdAt
      summary := current.revision.summary
      workspace := current }])

def migrateV1 (host : Host) (input : Record) : Checked DecodedRecord := do
  let project ← metadata host.platform (input.get (js "project"))
  let current ← workspace host.platform (input.get (js "workspace"))
    (js "legacy workspace")
  check (IsText current.projectId project.id.text)
    (js "legacy project ID must match workspace project ID")
  let versions ← legacyVersions host.platform (input.get (js "versions"))
    current
  let normalizedVersions ← withCurrentVersion host.platform versions current
  let draft ← optional (autosave host.platform) (input.get (js "autosave"))
  decodeV2 host (recordValue normalizedVersions.length project current
    normalizedVersions
    (Record.optionalEntry (js "autosave") (draft.map AutosaveDraft.toValue)))

def decode (host : Host) (value : JsValue) : Checked DecodedRecord := do
  let input ← record value (js "project record")
  if IsText (input.get (js "format")) localProjectRecordFormat then
    decodeV2 host value
  else if IsText (input.get (js "format")) legacyProjectRecordFormat ∧
      IsNumber (input.get (js "schemaVersion")) 1 then do
    let decoded ← migrateV1 host input
    pure { decoded with migrated := true }
  else
    .error (js "unsupported project record format")

end Selene.Lifecycle
