import Selene.ProjectRecord

/-!
# Operations on project records

Each operation of the lifecycle service reads the record of a project, computes
the next record and commits it.  Here are the next records; the clock's answer
is an argument, and is looked at where the source asks the clock.
-/

namespace Selene.Lifecycle

open Js Canonical Generation

/-! ## Rejections -/

inductive ProjectLifecycleErrorCode where
  | notFound
  | archived
  | alreadyExists
  | noAutosave
  | noUndo
  | versionNotFound
  | projectQuarantined
  | invalidProject
  | graphConflict
  deriving DecidableEq

/-- An error: a `ProjectLifecycleError` with its code, or a plain one. -/
structure Rejection where
  code : Option ProjectLifecycleErrorCode
  message : JsString
  deriving DecidableEq

/-- A plain error. -/
def plain {α : Type} (checked : Checked α) : Except Rejection α :=
  checked.mapError fun message => ⟨none, message⟩

/-- `new ProjectLifecycleError('INVALID_PROJECT', message)`. -/
def invalidProject (message : String) : Rejection :=
  ⟨some .invalidProject, js message⟩

/-- What the clock of the service answers. -/
def now (clock : JsString) : Checked JsString :=
  timestamp (.string clock) (js "clock")

def assertActive (current : LocalProjectRecord) : Except Rejection Unit :=
  check (current.project.status ≠ .archived)
    ⟨some .archived, js "restore this project before changing it"⟩

/-- The time of the latest version. -/
def latestCreatedAt (current : LocalProjectRecord) : List JsString :=
  (current.versions.getLast?.map LocalProjectVersion.createdAt).toList

/-! ## Versions -/

inductive VersionPrefix where
  | recovery
  | restore
  | commit
  deriving DecidableEq

def VersionPrefix.text : VersionPrefix → JsString
  | .recovery => js "recovery"
  | .restore => js "restore"
  | .commit => js "commit"

def nextVersion
    (host : Host)
    (current : LocalProjectRecord)
    (source : PortableWorkspace)
    (summary : JsString)
    (start : VersionPrefix)
    (createdAt : JsString) :
    Checked LocalProjectRecord := do
  check (current.versionSequence + 1 < JsNumber.maxSafeInteger)
    (js "versionSequence cannot be incremented safely")
  let versionCreatedAt ← latestTimestamp createdAt
    [source.revision.createdAt, ((current.versions.getLast?.map
      LocalProjectVersion.createdAt).getD createdAt)]
  let nextSequence := current.versionSequence + 1
  let revisionId ← collisionFreeId host.platform start.text source.revision.id
    (decimalDigits nextSequence)
    (current.current.revision.id ::
      current.versions.map fun entry => entry.workspace.revision.id)
  check (versionIdPattern revisionId = true)
    (js "generated revision ID is invalid")
  let revision ←
    if start = .commit then
      pure source.revision
    else do
      let summary ← normalizedText host.platform (.string summary)
        (js "version.summary") 512
      pure {
        base := source.revision.base.define (js "parentId")
          (.string current.current.revision.id)
        id := revisionId
        createdAt := versionCreatedAt
        summary }
  let next := { source with revision }
  let id ← collisionFreeId host.platform (js "version") revision.id
    (decimalDigits nextSequence)
    (current.versions.map LocalProjectVersion.id)
  pure { current with
    versionSequence := nextSequence
    project := { current.project with updatedAt := versionCreatedAt }
    current := next
    versions := lastOf host.maxVersions (current.versions ++ [{
      id
      createdAt := versionCreatedAt
      summary := revision.summary
      workspace := next }])
    autosave := none }

/-! ## Lifecycle of a project -/

/-- `open`. -/
def openNext (clock : JsString) (current : LocalProjectRecord) :
    Except Rejection LocalProjectRecord := do
  check (current.project.status ≠ .archived)
    ⟨some .archived, js "restore this project before opening it"⟩
  let asked ← plain (now clock)
  let openedAt ← plain (monotonicTimestamp asked current.project.updatedAt)
  pure { current with
    project := { current.project with
      lastOpenedAt := some openedAt
      updatedAt := openedAt } }

/-- `setStatus`, for `archive` and `restore`. -/
def setStatusNext
    (status : ProjectStatus)
    (clock : JsString)
    (current : LocalProjectRecord) :
    Except Rejection LocalProjectRecord := do
  let asked ← plain (now clock)
  let updatedAt ← plain (monotonicTimestamp asked current.project.updatedAt)
  pure { current with project := { current.project with status, updatedAt } }

/-- The record part of `configureProductShell`. -/
def configureProductShellNext
    (childIds : List ProjectId)
    (clock : JsString)
    (current : LocalProjectRecord) :
    Except Rejection LocalProjectRecord := do
  assertActive current
  let asked ← plain (now clock)
  let updatedAt ← plain (latestTimestamp asked [current.project.updatedAt])
  pure { current with
    project := { current.project with
      updatedAt
      productShell :=
        if childIds = [] then none
        else some ⟨childIds.insertionSort fun first second =>
          first.text ≤ second.text⟩ } }

/-! ## Drafts -/

/-- `autosave`. -/
def autosaveNext
    (host : Host)
    (draft : JsValue)
    (clock : JsString)
    (current : LocalProjectRecord) :
    Except Rejection LocalProjectRecord := do
  assertActive current
  let saved ← plain (workspace host.platform draft (js "autosave draft"))
  check (IsText saved.projectId current.project.id.text)
    (invalidProject "autosave project ID must match the current project")
  let asked ← plain (now clock)
  let savedAt ← plain (latestTimestamp asked
    ([current.project.updatedAt] ++ latestCreatedAt current ++
      [saved.revision.createdAt]))
  pure { current with
    project := { current.project with updatedAt := savedAt }
    autosave := some { savedAt, workspace := saved } }

/-- `recoverAutosave`. -/
def recoverAutosaveNext
    (host : Host)
    (clock : JsString)
    (current : LocalProjectRecord) :
    Except Rejection LocalProjectRecord := do
  assertActive current
  match current.autosave with
  | none =>
      .error ⟨some .noAutosave, js "no recoverable autosave exists"⟩
  | some draft => plain do
      let asked ← now clock
      nextVersion host current draft.workspace
        (js "Recovered autosave after interruption") .recovery asked

/-- `discardAutosave`. -/
def discardAutosaveNext (current : LocalProjectRecord) :
    Except Rejection LocalProjectRecord := do
  assertActive current
  pure { current with autosave := none }

/-- `restoreVersionLocked`. -/
def restoreVersionNext
    (host : Host)
    (versionId : JsString)
    (clock : JsString)
    (current : LocalProjectRecord) :
    Except Rejection LocalProjectRecord := do
  assertActive current
  match current.versions.find? fun entry => entry.id = versionId with
  | none =>
      .error ⟨some .versionNotFound, js "version does not exist: " ++ versionId⟩
  | some target => plain do
      let asked ← now clock
      nextVersion host current target.workspace
        (js "Safely restored " ++ versionId) .restore asked

/-- The version that `undo` restores. -/
def undoTarget (current : LocalProjectRecord) : Except Rejection JsString := do
  assertActive current
  match current.versions.reverse with
  | _ :: previous :: _ => .ok previous.id
  | _ =>
      .error ⟨some .noUndo,
        js "there is no earlier committed version to restore"⟩

/-! ## Designer states -/

/-- The text of a value in canonical form. -/
def canonicalText (platform : Platform) (value : JsValue) : Checked JsString :=
  (serializeCanonicalData platform.numberFormat value .undefined).mapError
    fun _ => platform.engineError value

/-- A number, if the value is one. -/
def numberOf : JsValue → Option JsNumber
  | .number number => some number
  | _ => none

/-- `'GRAPH_CONFLICT'`. -/
def graphConflict : Rejection :=
  ⟨some .graphConflict,
    js "The flow graph changed in another workspace. Reload and retry."⟩

/-- The flow graph of a designer state, with its revision. -/
def prototypeGraph (state : Option JsValue) : JsValue :=
  (state.map (field · (js "prototypeGraph"))).getD .undefined

def validateDesignerStateGraphFence
    (platform : Platform)
    (state : JsValue)
    (current : Option JsValue) :
    Except Rejection Unit := do
  let graph := prototypeGraph current
  let next := prototypeGraph (some state)
  if IsUndefined graph then
    pure ()
  else do
    check (¬IsUndefined next ∧
        numberOf (field graph (js "revision")) =
          numberOf (field next (js "revision")))
      graphConflict
    let before ← plain (canonicalText platform (field graph (js "graph")))
    let after ← plain (canonicalText platform (field next (js "graph")))
    check (before = after) graphConflict

/-- `saveDesignerState`. -/
def saveDesignerStateNext
    (host : Host)
    (state : JsValue)
    (current : LocalProjectRecord) :
    Except Rejection LocalProjectRecord := do
  assertActive current
  let designerState ← plain (host.states.decode state current.project.id)
  validateDesignerStateGraphFence host.platform designerState
    current.designerState
  plain (host.states.validateCurrent designerState current.current)
  pure { current with designerState := some designerState }

/-- Guidance as the callers give it. -/
abbrev GuidanceInput := DesignLanguageGuidance

/-- The checks that both guidance operations make of one entry. -/
def IsGuidance (platform : Platform) (entry : GuidanceInput) : Prop :=
  isSha256 entry.digest = true ∧
    utf8Length entry.markdown ≠ 0 ∧
    platform.sha256 entry.markdown = entry.digest ∧
    entry.sourceLocator.all (isSourceLocator platform) = true

instance (platform : Platform) (entry : GuidanceInput) :
    Decidable (IsGuidance platform entry) := by
  unfold IsGuidance
  infer_instance

/-- The bytes of all entries. -/
def guidanceBytes (entries : List DesignLanguageGuidance) : Nat :=
  (entries.map fun entry => utf8Length entry.markdown).sum

/-- The entries of `saveDesignerStateWithGuidance`, after `total` bytes. -/
def checkGuidance (platform : Platform) : Nat → List GuidanceInput →
    Except Rejection Unit
  | _, [] => pure ()
  | total, entry :: rest => do
      check (IsGuidance platform entry)
        (invalidProject "design language guidance is invalid")
      check (total + utf8Length entry.markdown ≤ maxGuidanceBytes)
        (invalidProject "design language guidance exceeds its bounded limit")
      checkGuidance platform (total + utf8Length entry.markdown) rest

/-- `saveDesignerStateWithGuidance`. -/
def saveDesignerStateWithGuidanceNext
    (host : Host)
    (state : JsValue)
    (guidance : List GuidanceInput)
    (current : LocalProjectRecord) :
    Except Rejection LocalProjectRecord := do
  assertActive current
  let designerState ← plain (host.states.decode state current.project.id)
  validateDesignerStateGraphFence host.platform designerState
    current.designerState
  plain (host.states.validateCurrent designerState current.current)
  check (ReceiptsMatch designerState (some guidance))
    (invalidProject "design language receipts must match complete guidance in order")
  check (guidance.length ≤ 32)
    (invalidProject "design language guidance exceeds its bounded limit")
  checkGuidance host.platform 0 guidance
  check ((guidance.map DesignLanguageGuidance.digest).Nodup)
    (invalidProject "design language guidance is invalid")
  pure { current with
    designerState := some designerState
    designLanguageGuidance := if guidance = [] then none else some guidance }

/-- `commitPrototypeGraph`. -/
def commitPrototypeGraphNext
    (host : Host)
    (expectedRevision legacyRevision : JsNumber)
    (graph state : JsValue)
    (current : LocalProjectRecord) :
    Except Rejection LocalProjectRecord := do
  assertActive current
  let revision :=
    (numberOf (field (prototypeGraph current.designerState)
      (js "revision"))).getD legacyRevision
  match expectedRevision.safeInteger? with
  | some (.ofNat expected) => do
      check (revision = expectedRevision ∧ expected < JsNumber.maxSafeInteger)
        graphConflict
      let decoded ← plain (host.states.decodePrototypeGraph
        (.object [(js "revision", .number (.ofNat (expected + 1))),
          (js "graph", graph)]) current.project.id)
      let designerState ← plain (host.states.decode
        (setField state (js "prototypeGraph") decoded) current.project.id)
      plain (host.states.validateCurrent designerState current.current)
      pure { current with designerState := some designerState }
  | _ => .error graphConflict

/-- `storeDesignLanguageGuidanceBatch`. -/
def storeDesignLanguageGuidanceNext
    (host : Host)
    (entries : List GuidanceInput)
    (current : LocalProjectRecord) :
    Except Rejection LocalProjectRecord := do
  assertActive current
  check (entries.length ≠ 0 ∧ entries.length ≤ 32)
    (invalidProject "design language guidance is invalid")
  check (∀ entry ∈ entries, IsGuidance host.platform entry ∧
      utf8Length entry.markdown ≤ maxGuidanceBytes)
    (invalidProject "design language guidance is invalid")
  check ((entries.map DesignLanguageGuidance.digest).Nodup)
    (invalidProject "design language guidance is invalid")
  let next := ((current.designLanguageGuidance.getD []).filter fun entry =>
    entry.digest ∉ entries.map DesignLanguageGuidance.digest) ++ entries
  check (next.length ≤ 32 ∧ guidanceBytes next ≤ maxGuidanceBytes)
    (invalidProject "design language guidance exceeds its bounded limit")
  pure { current with designLanguageGuidance := some next }

/-- `removeDesignLanguageGuidanceBatch`. -/
def removeDesignLanguageGuidanceNext
    (digests : List JsString)
    (current : LocalProjectRecord) :
    Except Rejection LocalProjectRecord := do
  assertActive current
  check (digests ≠ [] ∧ ∀ digest ∈ digests, isSha256 digest = true)
    (invalidProject "guidance digest is invalid")
  let next := (current.designLanguageGuidance.getD []).filter fun entry =>
    entry.digest ∉ digests
  pure { current with
    designLanguageGuidance := if next = [] then none else some next }

/-- `commitDesignerRevision`. -/
def commitDesignerRevisionNext
    (host : Host)
    (nextWorkspace state : JsValue)
    (clock : JsString)
    (current : LocalProjectRecord) :
    Except Rejection LocalProjectRecord := do
  assertActive current
  let saved ← plain (workspace host.platform nextWorkspace
    (js "designer revision"))
  check (IsText saved.projectId current.project.id.text)
    (invalidProject
      "designer revision project ID must match the current project")
  check (saved.revision.id ≠ current.current.revision.id ∧
      saved.revision.id ∉
        current.versions.map fun entry => entry.workspace.revision.id)
    (invalidProject "designer revision ID must be new")
  check (IsText saved.revision.parentId current.current.revision.id)
    (invalidProject
      "designer revision parent must be the current lifecycle revision")
  check (∀ latest ∈ latestCreatedAt current, latest < saved.revision.createdAt)
    (invalidProject "designer revision timestamp must be strictly newer than the current lifecycle revision")
  let asked ← plain (now clock)
  let next ← plain (nextVersion host current saved saved.revision.summary
    .commit asked)
  check (next.current.revision.id = saved.revision.id)
    (invalidProject
      "lifecycle commit changed the proposed designer revision identity")
  let designerState ← plain (host.states.decode state current.project.id)
  validateDesignerStateGraphFence host.platform designerState
    current.designerState
  plain (host.states.validateCurrent designerState next.current)
  pure { next with designerState := some designerState }

end Selene.Lifecycle
