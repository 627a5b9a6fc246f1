import Selene.CanonicalOrder
import Selene.ProjectText
import Selene.SourcePatch
import Selene.UnifiedDiff
import Mathlib.Data.Prod.Lex

/-!
# Reviews of pending AI proposals

`projectPendingAIProposal` shows what a pending proposal would change: a diff of
each changed file within the limits, the nodes and components that may be
affected, and the checks that were made.  A proposal that no longer fits its
source, or that cannot be validated, has a review that says so.
-/

namespace Selene.Proposal

open Js Generation

/-! ## Data -/

/-- Node metadata with the name that the node is exported under. -/
structure MappedNode extends NodeMetadata where
  exportName : JsString
  deriving DecidableEq

/-- A workspace with everything that a review reads. -/
structure ReviewedWorkspace where
  projectId : JsString
  entrypoint : JsString
  files : List SourceFile
  dependencies : List JsString
  nodes : List MappedNode
  revision : WorkspaceRevision
  deriving DecidableEq

/-- The part that validation reads. -/
def ReviewedWorkspace.toSource (workspace : ReviewedWorkspace) :
    ReactSourceWorkspace where
  entrypoint := workspace.entrypoint
  files := workspace.files
  dependencies := workspace.dependencies
  nodes := workspace.nodes.map MappedNode.toNodeMetadata

/-- `ManualReactEditCompilerEvidence`. -/
structure CompileEvidence where
  projectId : JsString
  sourceRevisionId : JsString
  sourceDigest : JsString
  bindingDigest : JsString
  compilerId : JsString
  compilerDigest : JsString
  previewDigest : JsString
  deriving DecidableEq

structure LocalPendingAIProposal where
  requestId : JsString
  agentId : JsString
  scenarioId : JsString
  baseRevisionId : JsString
  baseFingerprint : JsString
  candidateWorkspace : ReviewedWorkspace
  candidateFingerprint : JsString
  compileEvidence : Option CompileEvidence
  summary : JsString
  createdAt : JsString
  deriving DecidableEq

/-- The part of an `AIChangeHistoryTarget` that a review reads. -/
structure ChangeTarget where
  screenId : JsString
  scenarioId : JsString
  revisionId : JsString
  deriving DecidableEq

structure AIProposalReviewInput where
  source : ReviewedWorkspace
  proposal : LocalPendingAIProposal
  target : Option ChangeTarget
  deriving DecidableEq

inductive ReviewStatus where
  | current
  | stale
  | unavailable
  deriving DecidableEq

inductive ChangeKind where
  | added
  | removed
  | modified
  deriving DecidableEq

structure AIProposalSourceChange where
  path : JsString
  kind : ChangeKind
  beforeDigest : Option JsString
  afterDigest : Option JsString
  diff : JsString
  deriving DecidableEq

structure ReviewIdentity where
  projectId : JsString
  sourceRevisionId : JsString
  sourceDigest : Option JsString
  baseRevisionId : JsString
  baseDigest : JsString
  candidateRevisionId : JsString
  candidateDigest : Option JsString
  deriving DecidableEq

structure ReviewCoverage where
  totalChangedFiles : Nat
  shownFiles : Nat
  omittedFiles : Nat
  omittedPaths : List JsString
  diffBytes : Nat
  complete : Bool
  deriving DecidableEq

structure MetadataChanges where
  entrypoint : Option (JsString × JsString)
  dependenciesAdded : List JsString
  dependenciesRemoved : List JsString
  nodeMappingsChanged : Nat
  deriving DecidableEq

structure ReviewedComponent where
  path : JsString
  exportName : JsString
  deriving DecidableEq

structure AffectedParts where
  components : List ReviewedComponent
  sourceNodeIds : List JsString
  screenIds : List JsString
  scenarioIds : List JsString
  mappingsComplete : Bool
  deriving DecidableEq

inductive CheckId where
  | identity
  | sourceValidation
  | compilation
  | runtime
  | accessibility
  | visual
  deriving DecidableEq

inductive CheckStatus where
  | passed
  | failed
  | notRecorded
  | notRun
  deriving DecidableEq

structure ReviewCheck where
  id : CheckId
  status : CheckStatus
  description : JsString
  deriving DecidableEq

structure AIProposalReview where
  status : ReviewStatus
  identity : ReviewIdentity
  sourceChanges : List AIProposalSourceChange
  coverage : ReviewCoverage
  metadataChanges : MetadataChanges
  affected : AffectedParts
  compilationEvidence : Option CompileEvidence
  checks : List ReviewCheck
  warnings : List JsString
  deriving DecidableEq

structure PendingAIProposal where
  requestId : JsString
  agentId : JsString
  baseRevisionId : JsString
  candidateRevisionId : JsString
  summary : JsString
  createdAt : JsString
  review : AIProposalReview
  deriving DecidableEq

/--
What the host provides: SHA-256 in hexadecimal, `JSON.stringify` of a workspace
and its canonical text, which is limited and may fail.
-/
structure Host where
  digest : JsString → JsString
  jsonText : ReviewedWorkspace → JsString
  serializeCanonicalData : ReviewedWorkspace → Except JsString JsString

/-! ## Limits -/

def maxWorkspaceFiles : Nat := 512

def maxWorkspaceBytes : Nat := 8 * 1024 * 1024

def maxSourceNodes : Nat := 4096

def maxDependencies : Nat := 128

def maxChangedFiles : Nat := 32

def maxDiffBytes : Nat := 64 * 1024

def maxLinesPerFile : Nat := 20000

def maxAffectedMappings : Nat := 128

def workspaceWithinBudget (workspace : ReviewedWorkspace) : Bool :=
  decide (workspace.files.length ≤ maxWorkspaceFiles) &&
    decide (workspace.nodes.length ≤ maxSourceNodes) &&
    decide (workspace.dependencies.length ≤ maxDependencies) &&
    workspace.dependencies.all
      (fun dependency => decide (dependency.length ≤ 256)) &&
    decide ((workspace.files.map fun file => utf8Length file.content).sum ≤
      maxWorkspaceBytes)

/-- A path that a review may show. -/
def sourcePath (path : JsString) : Except (List SourceDiagnostic) JsString := do
  check (0x3A ∉ path ∧
      path.all (fun unit => decide (31 < unit.val ∧ unit.val ≠ 127)) = true)
    [⟨.invalidPath, js "Source paths must be relative workspace paths.", none⟩]
  normalizeSourcePath path

/-! ## Diffs -/

/-- `lines` when there is room for so many. -/
def linesWithin : Nat → JsString → Option (List JsString)
  | _, [] => some []
  | 0, _ :: _ => none
  | room + 1, content =>
      (linesWithin room (content.drop (firstLine content).length)).map
        fun rest => firstLine content :: rest

def lines (content : JsString) : Option (List JsString) :=
  linesWithin maxLinesPerFile content

def diffLine (mark content : JsString) : JsString :=
  mark ++ content ++
    if content.getLast? = some newline then []
    else js "\n\\ No newline at end of file\n"

/-- How many elements two lists have in common at the start. -/
def commonLength : List JsString → List JsString → Nat
  | first :: rest, other :: others =>
      if first = other then commonLength rest others + 1 else 0
  | _, _ => 0

/-- The parts of a diff so far and their bytes. -/
structure DiffParts where
  bytes : Nat
  parts : JsString

/-- Append a line if there are bytes left for it. -/
def append (remainingBytes : Nat) (mark : JsString) (diff : DiffParts)
    (content : JsString) : Option DiffParts :=
  let line := diffLine mark content
  let bytes := diff.bytes + utf8Length line
  if remainingBytes < bytes then none else some ⟨bytes, diff.parts ++ line⟩

/-- The first part of a diff. -/
def diffHeader (path : JsString) (start oldCount newCount : Nat) : JsString :=
  js "--- a/" ++ path ++ js "\n+++ b/" ++ path ++ js "\n@@ -" ++
    decimalDigits (if oldCount = 0 then 0 else start + 1) ++ js "," ++
    decimalDigits oldCount ++ js " +" ++
    decimalDigits (if newCount = 0 then 0 else start + 1) ++ js "," ++
    decimalDigits newCount ++ js " @@\n"

def sourceDiff (path before after : JsString) (remainingBytes : Nat) :
    Option JsString := do
  let oldLines ← lines before
  let newLines ← lines after
  let same := commonLength oldLines newLines
  -- The loop over the suffix stays behind the lines of the prefix.
  let suffix := commonLength (oldLines.drop same).reverse
    (newLines.drop same).reverse
  let start := same - 3
  let tail := min 3 suffix
  let oldEnd := oldLines.length - suffix
  let newEnd := newLines.length - suffix
  let header := diffHeader path start (oldEnd + tail - start)
    (newEnd + tail - start)
  let diff ← ((oldLines.take same).drop start).foldlM
    (append remainingBytes (js " ")) ⟨utf8Length header, header⟩
  let diff ← ((oldLines.take oldEnd).drop same).foldlM
    (append remainingBytes (js "-")) diff
  let diff ← ((newLines.take newEnd).drop same).foldlM
    (append remainingBytes (js "+")) diff
  let diff ← ((oldLines.take (oldEnd + tail)).drop oldEnd).foldlM
    (append remainingBytes (js " ")) diff
  if utf8Length diff.parts ≤ remainingBytes then some diff.parts else none

/-! ## Changes of the files -/

/-- `unique`: without repetitions, in the order of code units. -/
def unique (values : List JsString) : List JsString :=
  sortByKey id values.dedup

/-- The files by path. -/
def fileMap (workspace : ReviewedWorkspace) : FileTable :=
  Table.empty.setAll workspace.files

/-- The content under a path. -/
def contentOf (files : FileTable) (path : JsString) : Option JsString :=
  (files.find? path).map SourceFile.content

def changedPaths (oldFiles newFiles : FileTable) : List JsString :=
  (unique (oldFiles.rows.map SourceFile.path ++
    newFiles.rows.map SourceFile.path)).filter fun path =>
      contentOf oldFiles path ≠ contentOf newFiles path

/-- What the loop over the changed paths has gathered. -/
structure Gathered where
  sourceChanges : List AIProposalSourceChange
  omittedPaths : List JsString
  diffBytes : Nat
  omittedFiles : Nat

def changeKind (before after : Option JsString) : ChangeKind :=
  if before.isNone then .added else if after.isNone then .removed else .modified

/-- One turn of the loop over the changed paths. -/
def gather (host : Host) (oldFiles newFiles : FileTable) (gathered : Gathered)
    (path : JsString) : Gathered :=
  let before := contentOf oldFiles path
  let after := contentOf newFiles path
  let diff :=
    if maxChangedFiles ≤ gathered.sourceChanges.length then none
    else sourceDiff path (before.getD []) (after.getD [])
      (maxDiffBytes - gathered.diffBytes)
  match diff with
  | none =>
      { gathered with
        omittedFiles := gathered.omittedFiles + 1
        omittedPaths :=
          if gathered.omittedPaths.length < maxAffectedMappings then
            gathered.omittedPaths ++ [path]
          else
            gathered.omittedPaths }
  | some diff =>
      { gathered with
        diffBytes := gathered.diffBytes + utf8Length diff
        sourceChanges := gathered.sourceChanges ++ [{
          path
          kind := changeKind before after
          beforeDigest := before.map host.digest
          afterDigest := after.map host.digest
          diff }] }

/-! ## What may be affected -/

/-- `JSON.stringify` of a path and an exported name. -/
def ReviewedComponent.key (component : ReviewedComponent) : JsString :=
  Json.stringify decimal
    (.array [.text component.path, .text component.exportName])

def MappedNode.component (node : MappedNode) : ReviewedComponent :=
  ⟨node.path, node.exportName⟩

abbrev NodeTable := Table fun node : MappedNode => node.nodeId

def nodeMap (workspace : ReviewedWorkspace) : NodeTable :=
  Table.empty.setAll workspace.nodes

/-- The key of the node with an id. -/
def nodeKey (nodes : NodeTable) (id : JsString) : Option JsString :=
  (nodes.find? id).map fun node => node.component.key

def changedNodeIds (oldNodes newNodes : NodeTable) : List JsString :=
  (unique (oldNodes.rows.map (fun node => node.nodeId) ++
    newNodes.rows.map fun node => node.nodeId)).filter fun id =>
      (nodeKey oldNodes id).isNone || (nodeKey newNodes id).isNone ||
        decide (nodeKey oldNodes id ≠ nodeKey newNodes id)

def affectedNodes (source candidate : ReviewedWorkspace)
    (changedPaths changedNodeIds : List JsString) : List MappedNode :=
  (source.nodes ++ candidate.nodes).filter fun node =>
    decide (node.path ∈ changedPaths) || decide (node.nodeId ∈ changedNodeIds)

/-- The components of nodes, each once, by path and exported name. -/
def componentsOf (nodes : List MappedNode) : List ReviewedComponent :=
  sortByKey (fun component => toLex (component.path, component.exportName))
    ((Table.empty : Table ReviewedComponent.key).setAll
      (nodes.map MappedNode.component)).rows

/-- The target is a place in the proposal's base and scenario. -/
def targetCurrent (proposal : LocalPendingAIProposal)
    (target : Option ChangeTarget) : Option ChangeTarget :=
  target.filter fun place =>
    decide (place.revisionId = proposal.baseRevisionId ∧
      place.scenarioId = proposal.scenarioId)

/-- The compiler evidence is about the candidate. -/
def compilationMatches (host : Host) (candidate : ReviewedWorkspace) :
    Option CompileEvidence → Except JsString Bool
  | none => .ok false
  | some evidence =>
      if evidence.projectId = candidate.projectId ∧
          evidence.sourceRevisionId = candidate.revision.id then do
        let canonical ← host.serializeCanonicalData candidate
        pure (decide (evidence.sourceDigest = host.digest canonical) &&
          decide (0 < evidence.compilerId.length) &&
          decide (evidence.compilerId.length ≤ 128) &&
          Lifecycle.isSha256 evidence.bindingDigest &&
          Lifecycle.isSha256 evidence.compilerDigest &&
          Lifecycle.isSha256 evidence.previewDigest)
      else
        .ok false

/-! ## Reviews -/

/-- The warning of a review that shows nothing. -/
def unavailableReview (input : AIProposalReviewInput) (status : ReviewStatus)
    (warning : String) (sourceDigest candidateDigest : Option JsString) :
    AIProposalReview where
  status
  identity := {
    projectId := input.source.projectId
    sourceRevisionId := input.source.revision.id
    sourceDigest
    baseRevisionId := input.proposal.baseRevisionId
    baseDigest := input.proposal.baseFingerprint
    candidateRevisionId := input.proposal.candidateWorkspace.revision.id
    candidateDigest }
  sourceChanges := []
  coverage := {
    totalChangedFiles := 0
    shownFiles := 0
    omittedFiles := 0
    omittedPaths := []
    diffBytes := 0
    complete := false }
  metadataChanges := {
    entrypoint := none
    dependenciesAdded := []
    dependenciesRemoved := []
    nodeMappingsChanged := 0 }
  affected := {
    components := []
    sourceNodeIds := []
    screenIds := []
    scenarioIds := []
    mappingsComplete := false }
  compilationEvidence := none
  checks := [⟨.identity, .failed, js warning⟩]
  warnings := [js warning]

def compilationCheck (evidence : Option CompileEvidence) (isMatch : Bool) :
    ReviewCheck where
  id := .compilation
  status :=
    if evidence.isNone then .notRecorded else if isMatch then .passed else .failed
  description :=
    if evidence.isNone then
      js "No current compiler receipt is attached to this review."
    else if isMatch then
      js ("The staging compiler evidence names this exact candidate source " ++
        "and records binding and preview digests.")
    else
      js "The stored compiler evidence does not match this candidate."

/-- The checks of a current review. -/
def reviewChecks (evidence : Option CompileEvidence) (isMatch : Bool) :
    List ReviewCheck := [
  ⟨.identity, .passed, js ("Current source and candidate match the stored " ++
    "revision and SHA-256 fingerprints.")⟩,
  ⟨.sourceValidation, .passed, js ("Workspace paths, declared imports, " ++
    "dependencies and stable node metadata passed source validation.")⟩,
  compilationCheck evidence isMatch,
  ⟨.runtime, .notRun, js ("Scenario interactions and dependent screen " ++
    "behavior have not been checked.")⟩,
  ⟨.accessibility, .notRun, js ("Keyboard, focus and accessibility " ++
    "acceptance have not been checked.")⟩,
  ⟨.visual, .notRun, js "Visual acceptance has not been checked."⟩]

/-- The warnings of a current review. -/
def reviewWarnings (evidence : Option CompileEvidence)
    (isMatch mappingsComplete isTargeted : Bool)
    (omittedFiles changedFiles : Nat) : List JsString :=
  [js ("Source-mapped components and nodes identify possible impact; " ++
      "dependent components and runtime behavior have not been checked."),
    js ("Interaction, accessibility and visual acceptance checks have not " ++
      "run for this review.")] ++
  (if evidence.isNone then
    [js ("No compiler result is attached to this review. Preview the " ++
      "proposal to run the current compiler.")]
  else if isMatch then
    []
  else
    [js ("The stored compiler evidence does not match this candidate. " ++
      "Request a new proposal before accepting it.")]) ++
  (if 0 < omittedFiles then
    [decimalDigits omittedFiles ++ js (" changed source file(s) exceed the " ++
      "review limits; their diffs are omitted.")]
  else
    []) ++
  (if mappingsComplete then
    []
  else
    [js ("Affected source mappings exceed the review limit; only the first " ++
      "128 entries are shown.")]) ++
  (if isTargeted then
    []
  else
    [js ("No current screen target is attached; affected screens cannot be " ++
      "inferred from source alone.")]) ++
  (if changedFiles = 0 then
    [js ("This candidate changes no source-file bytes. Review its workspace " ++
      "metadata changes.")]
  else
    [])

/-- The review of a proposal that fits its source. -/
def currentReview (host : Host) (input : AIProposalReviewInput) :
    Except JsString AIProposalReview := do
  let source := input.source
  let candidate := input.proposal.candidateWorkspace
  let oldFiles := fileMap source
  let newFiles := fileMap candidate
  let changed := changedPaths oldFiles newFiles
  let gathered := changed.foldl (gather host oldFiles newFiles) ⟨[], [], 0, 0⟩
  let changedNodes := changedNodeIds (nodeMap source) (nodeMap candidate)
  let nodes := affectedNodes source candidate changed changedNodes
  let components := componentsOf nodes
  let sourceNodeIds := unique (nodes.map fun node => node.nodeId)
  let mappingsComplete :=
    decide (components.length ≤ maxAffectedMappings) &&
      decide (sourceNodeIds.length ≤ maxAffectedMappings)
  let evidence := input.proposal.compileEvidence
  let target := targetCurrent input.proposal input.target
  let isMatch ← compilationMatches host candidate evidence
  pure {
    status := .current
    identity := {
      projectId := source.projectId
      sourceRevisionId := source.revision.id
      sourceDigest := some (host.digest (host.jsonText source))
      baseRevisionId := input.proposal.baseRevisionId
      baseDigest := input.proposal.baseFingerprint
      candidateRevisionId := candidate.revision.id
      candidateDigest := some (host.digest (host.jsonText candidate)) }
    sourceChanges := gathered.sourceChanges
    coverage := {
      totalChangedFiles := changed.length
      shownFiles := gathered.sourceChanges.length
      omittedFiles := gathered.omittedFiles
      omittedPaths := gathered.omittedPaths
      diffBytes := gathered.diffBytes
      complete := decide (gathered.omittedFiles = 0) }
    metadataChanges := {
      entrypoint :=
        if source.entrypoint = candidate.entrypoint then none
        else some (source.entrypoint, candidate.entrypoint)
      dependenciesAdded := unique (candidate.dependencies.filter
        fun dependency => decide (dependency ∉ source.dependencies))
      dependenciesRemoved := unique (source.dependencies.filter
        fun dependency => decide (dependency ∉ candidate.dependencies))
      nodeMappingsChanged := changedNodes.length }
    affected := {
      components := components.take maxAffectedMappings
      sourceNodeIds := sourceNodeIds.take maxAffectedMappings
      screenIds := target.toList.map ChangeTarget.screenId
      scenarioIds := unique [input.proposal.scenarioId]
      mappingsComplete }
    compilationEvidence := if isMatch then evidence else none
    checks := reviewChecks evidence isMatch
    warnings := reviewWarnings evidence isMatch mappingsComplete target.isSome
      gathered.omittedFiles changed.length }

/-- The paths and the source of a workspace are accepted. -/
def validatedWorkspace (workspace : ReviewedWorkspace) :
    Except (List SourceDiagnostic) Unit := do
  let _ ← workspace.files.mapM fun file => sourcePath file.path
  validateReactSourceWorkspace workspace.toSource workspace.dependencies

/-- The proposal was made from this source, and nothing has changed since. -/
def FitsSource (host : Host) (input : AIProposalReviewInput) : Prop :=
  let source := input.source
  let candidate := input.proposal.candidateWorkspace
  input.proposal.baseRevisionId = source.revision.id ∧
    input.proposal.baseFingerprint = host.digest (host.jsonText source) ∧
    candidate.projectId = source.projectId ∧
    candidate.revision.parentId = some source.revision.id ∧
    input.proposal.candidateFingerprint =
      host.digest (host.jsonText candidate)

instance (host : Host) (input : AIProposalReviewInput) :
    Decidable (FitsSource host input) :=
  inferInstanceAs (Decidable (_ ∧ _))

/-- The review of a proposal. -/
def reviewOf (host : Host) (input : AIProposalReviewInput) :
    Except JsString AIProposalReview :=
  let source := input.source
  let candidate := input.proposal.candidateWorkspace
  let sourceDigest := some (host.digest (host.jsonText source))
  let candidateDigest := some (host.digest (host.jsonText candidate))
  if workspaceWithinBudget source = false ∨
      workspaceWithinBudget candidate = false then
    .ok (unavailableReview input .unavailable
      "The workspace exceeds the bounded proposal review limits." none none)
  else if ¬ FitsSource host input then
    .ok (unavailableReview input .stale
      ("The proposal source or candidate identity has changed. Request a " ++
        "new proposal before accepting it.") sourceDigest candidateDigest)
  else
    match validatedWorkspace source >>= fun _ => validatedWorkspace candidate with
    | .error _ =>
        .ok (unavailableReview input .unavailable
          ("Source validation failed. This proposal cannot be reviewed or " ++
            "accepted.") sourceDigest candidateDigest)
    | .ok _ => currentReview host input

def projectPendingAIProposal (host : Host) (input : AIProposalReviewInput) :
    Except JsString PendingAIProposal := do
  let review ← reviewOf host input
  pure {
    requestId := input.proposal.requestId
    agentId := input.proposal.agentId
    baseRevisionId := input.proposal.baseRevisionId
    candidateRevisionId := input.proposal.candidateWorkspace.revision.id
    summary := input.proposal.summary
    createdAt := input.proposal.createdAt
    review }

end Selene.Proposal
