import Selene.FailingState
import Selene.InsertionTable
import Selene.ProjectCapture
import Selene.ProjectOperations

/-!
# The lifecycle service over its storage

Storage keeps one raw value for each project id and a log of quarantined values.
A commit replaces one value and may fail before or after the replacement is
published; a quarantine logs a value and removes the project of its id.  The
operations read through `readRecord`, which decodes what is stored, writes back
what it has migrated or shortened, and quarantines what it cannot read.
-/

namespace Selene.Lifecycle

open Js Generation

/-! ## Storage -/

/-- What is stored under a project id. -/
structure StoredProject where
  id : ProjectId
  raw : JsValue

structure ProjectQuarantineEntry where
  projectId : ProjectId
  detectedAt : JsString
  reason : JsString
  raw : JsValue

/-- Where a commit of the file storage can fail. -/
inductive CommitPhase where
  | byteLimit
  | directory
  | writeTemporary
  | rename
  | syncDirectory
  deriving DecidableEq

/-- Whether the new record is in place when the commit fails. -/
def CommitPhase.published : CommitPhase → Bool
  | .syncDirectory => true
  | _ => false

/-- Where a quarantine of the file storage can fail. -/
inductive QuarantinePhase where
  | byteLimit
  | directory
  | writeTemporary
  | rename
  | syncQuarantine
  | removeSource
  | syncProjects
  | prune
  deriving DecidableEq

/-- Whether the entry is in place when the quarantine fails. -/
def QuarantinePhase.published : QuarantinePhase → Bool
  | .byteLimit | .directory | .writeTemporary | .rename => false
  | _ => true

/-- Whether the project is gone when the quarantine fails. -/
def QuarantinePhase.removed : QuarantinePhase → Bool
  | .syncProjects | .prune => true
  | _ => false

/-- A canonical instant, as the clock of the service answers it. -/
abbrev Instant := { text : JsString // IsCanonicalDate text }

/--
What the surroundings answer: the clock, the ids `quarantine-<uuid>`, what
storage keeps of a value (a clone, or what its JSON text stands for), which
objects in it are the same, and where the commits and quarantines under each id
fail.  In-memory storage never fails.
-/
structure Surroundings where
  clock : Nat → Instant
  quarantineId : Nat → ProjectId
  kept : JsValue → JsValue
  object : JsValue → Position → Position
  commitFails : ProjectId → Nat → Option CommitPhase
  quarantineFails : ProjectId → Nat → Option QuarantinePhase

/-- Storage, and how often the surroundings have been asked. -/
structure World where
  records : Table StoredProject.id
  quarantined : List ProjectQuarantineEntry
  commits : ProjectId → Nat
  quarantines : ProjectId → Nat
  answers : Nat

/-- Nothing is stored. -/
def World.empty : World where
  records := .empty
  quarantined := []
  commits := fun _ => 0
  quarantines := fun _ => 0
  answers := 0

/-- What is stored under an id. -/
def World.stored (world : World) (id : ProjectId) : Option JsValue :=
  (world.records.find? id).map StoredProject.raw

/-- The computations of the service. -/
abbrev Service := FailingState Rejection World

section

variable (surroundings : Surroundings)

/-- `options.now()`. -/
def askClock : Service JsString := do
  let answers ← .read World.answers
  .modify fun world => { world with answers := answers + 1 }
  pure (surroundings.clock answers).val

/-- `quarantine-${randomUUID()}`. -/
def askQuarantineId : Service ProjectId := do
  let answers ← .read World.answers
  .modify fun world => { world with answers := answers + 1 }
  pure (surroundings.quarantineId answers)

/-- `storage.commit`. -/
def commit (id : ProjectId) (next : LocalProjectRecord) : Service Unit :=
  fun world =>
    let counted := { world with
      commits := Function.update world.commits id (world.commits id + 1) }
    let written := { counted with
      records := counted.records.set ⟨id, surroundings.kept next.toValue⟩ }
    match surroundings.commitFails id (world.commits id) with
    | none => (.ok (), written)
    | some phase =>
        (.error ⟨none, js "commit failed"⟩,
          if phase.published then written else counted)

/-- `storage.quarantine`. -/
def storeQuarantine (entry : ProjectQuarantineEntry) : Service Unit :=
  fun world =>
    let id := entry.projectId
    let counted := { world with
      quarantines :=
        Function.update world.quarantines id (world.quarantines id + 1) }
    let logged := { counted with quarantined := counted.quarantined ++ [entry] }
    let removed := { logged with records := logged.records.delete id }
    match surroundings.quarantineFails id (world.quarantines id) with
    | none => (.ok (), removed)
    | some phase =>
        (.error ⟨none, js "quarantine failed"⟩,
          if phase.removed then removed
          else if phase.published then logged else counted)

variable (host : Host)

/--
`quarantine`: a bounded preview goes to the log.  Of a value that was read from
a file, the file storage keeps the exact bytes instead.
-/
def quarantine (id : ProjectId) (reason : JsString) (raw : RawValue) :
    Service Unit := do
  let (captured, truncated) := capture host.platform raw host.maxQuarantineBytes
  let detectedAt ← askClock surroundings
  storeQuarantine surroundings {
    projectId := id
    detectedAt
    reason := quarantineReason host.platform reason truncated
    raw := captured }

/-! ## Reading -/

/-- The body of `readRecord` whose errors lead to the quarantine. -/
def decodeStored (id : ProjectId) (raw : JsValue) :
    Service LocalProjectRecord := do
  let decoded ← .lift (plain (decode host raw))
  if decoded.record.project.id = id then do
    if decoded.migrated || decoded.normalized then
      commit surroundings id decoded.record
    pure decoded.record
  else
    .fail ⟨none, js "stored project ID does not match its storage key"⟩

def readRecord (id : ProjectId) : Service LocalProjectRecord := do
  match ← .read (World.stored · id) with
  | none => .fail ⟨some .notFound, js "project does not exist: " ++ id.text⟩
  | some raw =>
      (decodeStored surroundings host id raw).onError fun error => do
        quarantine surroundings host id error.message
          ⟨raw, surroundings.object raw⟩
        .fail ⟨some .projectQuarantined,
          js "project was quarantined: " ++ error.message⟩

/-! ## Operations on one record -/

/-- The operations that read a record and commit the next one. -/
inductive RecordOperation where
  | «open»
  | setStatus (status : ProjectStatus)
  | autosave (draft : JsValue)
  | recoverAutosave
  | discardAutosave
  | restoreVersion (versionId : JsString)
  | saveDesignerState (state : JsValue)
  | saveDesignerStateWithGuidance
      (state : JsValue) (guidance : List GuidanceInput)
  | commitPrototypeGraph
      (expectedRevision legacyRevision : JsNumber) (graph state : JsValue)
  | storeDesignLanguageGuidanceBatch (entries : List GuidanceInput)
  | removeDesignLanguageGuidanceBatch (digests : List JsString)
  | commitDesignerRevision (nextWorkspace state : JsValue)

/-- The next record of each operation. -/
def RecordOperation.next (clock : JsString) (current : LocalProjectRecord) :
    RecordOperation → Except Rejection LocalProjectRecord
  | .«open» => openNext clock current
  | .setStatus status => setStatusNext status clock current
  | .autosave draft => autosaveNext host draft clock current
  | .recoverAutosave => recoverAutosaveNext host clock current
  | .discardAutosave => discardAutosaveNext current
  | .restoreVersion versionId => restoreVersionNext host versionId clock current
  | .saveDesignerState state => saveDesignerStateNext host state current
  | .saveDesignerStateWithGuidance state guidance =>
      saveDesignerStateWithGuidanceNext host state guidance current
  | .commitPrototypeGraph expectedRevision legacyRevision graph state =>
      commitPrototypeGraphNext host expectedRevision legacyRevision graph state
        current
  | .storeDesignLanguageGuidanceBatch entries =>
      storeDesignLanguageGuidanceNext host entries current
  | .removeDesignLanguageGuidanceBatch digests =>
      removeDesignLanguageGuidanceNext digests current
  | .commitDesignerRevision nextWorkspace state =>
      commitDesignerRevisionNext host nextWorkspace state clock current

/-- Read the record of a project, and commit the next one. -/
def change
    (id : ProjectId)
    (next : JsString → LocalProjectRecord →
      Except Rejection LocalProjectRecord) :
    Service LocalProjectRecord := do
  let current ← readRecord surroundings host id
  let clock ← askClock surroundings
  let changed ← .lift (next clock current)
  commit surroundings id changed
  pure changed

/-- An operation under the lock of its project. -/
def update (id : ProjectId) (operation : RecordOperation) :
    Service LocalProjectRecord :=
  change surroundings host id fun clock current =>
    operation.next host clock current

/-- `undo`: the record is read a second time by `restoreVersionLocked`. -/
def undo (id : ProjectId) : Service LocalProjectRecord := do
  let current ← readRecord surroundings host id
  let versionId ← .lift (undoTarget current)
  update surroundings host id (.restoreVersion versionId)

/-! ## New projects -/

structure CreateInput where
  id : ProjectId
  name : JsString
  origin : ProjectOrigin
  workspace : JsValue

/-- The record that `create` commits. -/
def createRecord (clock : JsString) (input : CreateInput) :
    Except Rejection LocalProjectRecord := do
  let current ← plain (workspace host.platform input.workspace
    (js "workspace"))
  check (IsText current.projectId input.id.text)
    (invalidProject "workspace project ID must match new project ID")
  let asked ← plain (now clock)
  let createdAt :=
    if current.revision.createdAt < asked then current.revision.createdAt
    else asked
  let versionCreatedAt ← plain (monotonicTimestamp createdAt
    current.revision.createdAt)
  let name ← plain (normalizedText host.platform (.string input.name)
    (js "project name") 120)
  let id ← plain (derivedVersionId host.platform (js "version")
    current.revision.id)
  let summary ← plain (normalizedText host.platform
    (.string current.revision.summary) (js "version.summary") 512)
  pure {
    versionSequence := 1
    project := {
      id := input.id
      name
      origin := ⟨input.origin, 0⟩
      status := .active
      createdAt
      updatedAt := versionCreatedAt
      lastOpenedAt := none
      productShell := none }
    current
    versions := [{
      id
      createdAt := versionCreatedAt
      summary
      workspace := current }]
    autosave := none
    designerState := none
    designLanguageGuidance := none }

/-- The error of a project id that is taken. -/
def alreadyExists (id : ProjectId) : Rejection :=
  ⟨some .alreadyExists, js "project already exists: " ++ id.text⟩

def create (input : CreateInput) : Service LocalProjectRecord := do
  let existing ← .read (World.stored · input.id)
  if existing.isSome then
    .fail (alreadyExists input.id)
  else do
    let clock ← askClock surroundings
    let next ← .lift (createRecord host clock input)
    commit surroundings input.id next
    pure next

/-- The workspace that `duplicate` creates a project with. -/
def copiedWorkspace
    (clock : JsString)
    (target : ProjectId)
    (source : LocalProjectRecord) :
    Except Rejection PortableWorkspace := do
  let id ← plain (derivedVersionId host.platform (js "copy")
    source.current.revision.id)
  pure {
    base := source.current.base.define (js "projectId") (.string target.text)
    revision := {
      base := source.current.revision.base.erase (js "parentId")
      id
      createdAt := clock
      summary := js "Copy of " ++ source.project.name } }

def duplicate (source target : ProjectId) (name : JsString) :
    Service LocalProjectRecord := do
  let read ← readRecord surroundings host source
  .lift (assertActive read)
  let existing ← .read (World.stored · target)
  if existing.isSome then
    .fail (alreadyExists target)
  else do
    let clock ← askClock surroundings
    let copied ← .lift (copiedWorkspace host clock target read)
    create surroundings host {
      id := target
      name
      origin := .duplicated
      workspace := copied.toValue }

/-! ## Imports -/

/-- The project id that the own data of a value names. -/
def ownProjectId (raw : JsValue) : Option ProjectId :=
  match field (field raw (js "project")) (js "id") with
  | .undefined => none
  | id => (projectId id (js "project id")).toOption

/-- The checks of an import before storage is looked at. -/
def importDecode (raw : RawValue) : Checked DecodedRecord := do
  check ((capture host.platform raw host.maxImportBytes).2 = false)
    (js "import exceeds the configured maximum size")
  decode host raw.value

/-- The record that an import commits. -/
def importedRecord (clock : JsString) (decoded : LocalProjectRecord) :
    Except Rejection LocalProjectRecord := do
  let asked ← plain (now clock)
  let updatedAt ← plain (monotonicTimestamp asked decoded.project.updatedAt)
  pure { decoded with
    project := { decoded.project with origin := ⟨.imported, 0⟩, updatedAt } }

def importRecord (raw : RawValue) : Service LocalProjectRecord := do
  match importDecode host raw with
  | .error message => do
      let id ← match ownProjectId raw.value with
        | some id => pure id
        | none => askQuarantineId surroundings
      quarantine surroundings host id (js "Import rejected: " ++ message) raw
      .fail ⟨some .projectQuarantined,
        js "import was quarantined: " ++ message⟩
  | .ok decoded => do
      let id := decoded.record.project.id
      let existing ← .read (World.stored · id)
      if existing.isSome then
        .fail (alreadyExists id)
      else do
        let clock ← askClock surroundings
        let imported ← .lift (importedRecord clock decoded.record)
        commit surroundings id imported
        pure imported

/-! ## Projects together -/

/-- The time that the list of projects is ordered by. -/
def recency (project : LocalProjectMetadata) : JsString :=
  project.lastOpenedAt.getD project.updatedAt

/-- The records that could be read; only quarantined ones are left out. -/
def listed : List (Except Rejection LocalProjectRecord) →
    Except Rejection (List LocalProjectRecord)
  | [] => .ok []
  | .ok found :: rest => (listed rest).map (found :: ·)
  | .error rejection :: rest =>
      if rejection.code = some .projectQuarantined then listed rest
      else .error rejection

/-- The projects of records, the most recent ones first. -/
def recentProjects
    (includeArchived : Bool)
    (entries : List LocalProjectRecord) :
    List LocalProjectMetadata :=
  ((entries.map LocalProjectRecord.project).filter fun project =>
    includeArchived || decide (project.status = .active)).insertionSort
      fun left right =>
        host.platform.localeCompare (recency right) (recency left) ≠ .gt

def listRecent (includeArchived : Bool) :
    Service (List LocalProjectMetadata) := do
  let ids ← .read fun world => world.records.rows.map StoredProject.id
  let results ← .each
    (fun id => (readRecord surroundings host id).settled) ids
  let entries ← .lift (listed results)
  pure (recentProjects host includeArchived entries)

/-- The shell that each project belongs to. -/
abbrev Memberships := ProjectId → Option ProjectId

/-- One child of a shell. -/
def claimChild (shell : ProjectId) (memberships : Memberships)
    (child : ProjectId) : Except Rejection Memberships := do
  check (∀ existing ∈ memberships child, existing = shell)
    ⟨some .invalidProject, js "project " ++ child.text ++
      js " is claimed by multiple product shells"⟩
  pure (Function.update memberships child (some shell))

/-- The children that a project claims; only a shell claims any. -/
def LocalProjectMetadata.children (project : LocalProjectMetadata) :
    List ProjectId :=
  (project.productShell.map LocalProductShell.childProjectIds).getD []

/-- One shell with its children. -/
def claimShell (memberships : Memberships) (shell : LocalProjectMetadata) :
    Except Rejection Memberships :=
  shell.children.foldlM (claimChild shell.id)
    (Function.update memberships shell.id (some shell.id))

/-- The memberships of all shells, in the order of the list. -/
def memberships (projects : List LocalProjectMetadata) :
    Except Rejection Memberships :=
  (projects.filter fun project => project.productShell.isSome).foldlM
    claimShell fun _ => none

inductive ProductRole where
  | shell
  | child
  | standalone
  deriving DecidableEq

structure ProductMapProject where
  projectId : ProjectId
  name : JsString
  role : ProductRole
  shellProjectId : Option ProjectId
  lifecycle : ProjectStatus
  readiness : JsValue
  currency : JsValue
  changesSinceBaseline : Nat

/-- A scope without a shell is the one of a standalone project. -/
structure DesktopProductMap where
  currentProjectId : ProjectId
  shellProjectId : Option ProjectId
  projects : List ProductMapProject

/-- `value ?? fallback`. -/
def orElse (value : JsValue) (fallback : JsString) : JsValue :=
  match value with
  | .undefined | .null => .string fallback
  | value => value

/-- The entry of one project. -/
def projectEntry
    (members : Memberships)
    (project : LocalProjectMetadata)
    (designerState : Option JsValue) :
    ProductMapProject :=
  let baseline := (designerState.map (field · (js "baseline"))).getD .undefined
  { projectId := project.id
    name := project.name
    role :=
      if project.productShell.isSome then .shell
      else if (members project.id).isSome then .child
      else .standalone
    shellProjectId := members project.id
    lifecycle := project.status
    readiness := orElse (field baseline (js "readiness")) (js "draft")
    currency := orElse (field baseline (js "currency")) (js "none")
    changesSinceBaseline :=
      match field baseline (js "changesSinceBaseline") with
      | .array changes => changes.length
      | _ => 0 }

/-- The error of a project that is not there. -/
def notFound (id : ProjectId) : Rejection :=
  ⟨some .notFound, js "project does not exist: " ++ id.text⟩

/-- The map of the listed projects with their designer states. -/
def projectedMap
    (currentId : ProjectId)
    (states : List (LocalProjectMetadata × Option JsValue)) :
    Except Rejection DesktopProductMap := do
  check (currentId ∈ states.map fun state => state.1.id) (notFound currentId)
  let members ← memberships (states.map Prod.fst)
  pure {
    currentProjectId := currentId
    shellProjectId := members currentId
    projects := states.map fun state => projectEntry members state.1 state.2 }

/-- A project with its designer state. -/
def withDesignerState (project : LocalProjectMetadata) :
    Service (LocalProjectMetadata × Option JsValue) := do
  let found ← readRecord surroundings host project.id
  pure (project, found.designerState)

def productMap (currentId : ProjectId) : Service DesktopProductMap := do
  let projects ← listRecent surroundings host false
  let states ← .each (withDesignerState surroundings host) projects
  .lift (projectedMap currentId states)

/-- The checks that `configureProductShell` makes of the active projects. -/
def checkShell
    (shellId : ProjectId)
    (childIds : List ProjectId)
    (projects : List LocalProjectMetadata) :
    Except Rejection Unit := do
  check (shellId ∈ projects.map LocalProjectMetadata.id) (notFound shellId)
  childIds.forM fun childId => do
    check (childId ∈ projects.map LocalProjectMetadata.id) (notFound childId)
    match projects.find? fun project =>
        project.id ≠ shellId ∧ childId ∈ project.children with
    | some claiming =>
        .error ⟨some .invalidProject, js "project " ++ childId.text ++
          js " already belongs to shell " ++ claiming.id.text⟩
    | none => .ok ()

def configureProductShell (shellId : ProjectId) (childIds : List ProjectId) :
    Service DesktopProductMap := do
  .lift (check (childIds.length ≤ 64 ∧ shellId ∉ childIds ∧ childIds.Nodup)
    (invalidProject "product shell child project IDs are invalid"))
  let projects ← listRecent surroundings host false
  .lift (checkShell shellId childIds projects)
  let _ ← change surroundings host shellId (configureProductShellNext childIds)
  productMap surroundings host shellId

structure LocalProductHandoffProject where
  projectId : ProjectId
  name : JsString
  workspace : PortableWorkspace
  designerState : Option JsValue

/-- What one member hands off. -/
def handoffProject (memberId : ProjectId) :
    Service LocalProductHandoffProject := do
  let found ← readRecord surroundings host memberId
  .lift (assertActive found)
  pure {
    projectId := memberId
    name := found.project.name
    workspace := found.current
    designerState := found.designerState }

def productHandoffProjects (shellId : ProjectId) :
    Service (List LocalProductHandoffProject) := do
  let map ← productMap surroundings host shellId
  .lift (check (map.shellProjectId = some shellId)
    (invalidProject "the current project is not a configured product shell"))
  let memberIds := ((map.projects.filter fun project =>
    project.shellProjectId = some shellId).map
      ProductMapProject.projectId).insertionSort fun first second =>
        first.text ≤ second.text
  .each (handoffProject surroundings host) memberIds

/-! ## Calls -/

/-- The calls of the service. -/
inductive ServiceCall where
  | look (id : ProjectId)
  | update (id : ProjectId) (operation : RecordOperation)
  | undo (id : ProjectId)
  | create (input : CreateInput)
  | duplicate (source target : ProjectId) (name : JsString)
  | importRecord (raw : RawValue)
  | listRecent (includeArchived : Bool)
  | productMap (currentId : ProjectId)
  | configureProductShell (shellId : ProjectId) (childIds : List ProjectId)
  | productHandoffProjects (shellId : ProjectId)

/-- A call, of whose result only a rejection is kept. -/
def ServiceCall.run : ServiceCall → Service Unit
  | .look id => discard (readRecord surroundings host id)
  | .update id operation =>
      discard (Lifecycle.update surroundings host id operation)
  | .undo id => discard (Lifecycle.undo surroundings host id)
  | .create input => discard (Lifecycle.create surroundings host input)
  | .duplicate source target name =>
      discard (Lifecycle.duplicate surroundings host source target name)
  | .importRecord raw =>
      discard (Lifecycle.importRecord surroundings host raw)
  | .listRecent includeArchived =>
      discard (Lifecycle.listRecent surroundings host includeArchived)
  | .productMap currentId =>
      discard (Lifecycle.productMap surroundings host currentId)
  | .configureProductShell shellId childIds => discard
      (Lifecycle.configureProductShell surroundings host shellId childIds)
  | .productHandoffProjects shellId => discard
      (Lifecycle.productHandoffProjects surroundings host shellId)

/-- The world after a list of calls. -/
def World.after (world : World) (calls : List ServiceCall) : World :=
  calls.foldl (fun world call => (call.run surroundings host world).2) world

end

end Selene.Lifecycle
