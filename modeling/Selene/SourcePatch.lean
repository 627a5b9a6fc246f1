import Selene.InsertionTable
import Selene.SourceWorkspace
import Mathlib.Data.List.Sort

/-!
# Agent patches of source workspaces

`applyAgentSourcePatch` writes and deletes files, extracts the stable node ids
again from the patched texts, and validates the next workspace.  A node id that
disappears must be mapped; the check looks the id up in the mapping as
JavaScript does, and does not look at the target of the mapping.
-/

namespace Selene.Generation

open Js

/-! ## Data model -/

structure WorkspaceRevision where
  id : JsString
  parentId : Option JsString
  createdAt : JsString
  summary : JsString
  deriving DecidableEq

/-- A workspace with its project and revision. -/
structure RevisedWorkspace extends ReactSourceWorkspace where
  projectId : JsString
  revision : WorkspaceRevision
  deriving DecidableEq

inductive AgentFileOperation where
  | write (path content : JsString)
  | delete (path : JsString)
  deriving DecidableEq

/--
A mapping of node ids.  Objects inherit the properties of `Object.prototype`
unless they were made without a prototype.
-/
structure NodeIdMapping where
  entries : List (JsString × JsString)
  inherits : Bool
  deriving DecidableEq

structure AgentSourcePatch where
  operations : List AgentFileOperation
  dependencies : Option (List JsString)
  nodeIdMapping : Option NodeIdMapping
  summary : JsString
  deriving DecidableEq

/-- The fields of a revision that the caller provides. -/
structure NewRevision where
  id : JsString
  createdAt : JsString
  deriving DecidableEq

/-- The names that every plain object inherits. -/
def inheritedNames : List JsString :=
  [js "constructor", js "hasOwnProperty", js "isPrototypeOf",
    js "propertyIsEnumerable", js "toLocaleString", js "toString",
    js "valueOf", js "__proto__", js "__defineGetter__",
    js "__defineSetter__", js "__lookupGetter__", js "__lookupSetter__"]

namespace NodeIdMapping

/-- The target that the mapping itself gives to an id. -/
def own (mapping : NodeIdMapping) (id : JsString) : Option JsString :=
  mapping.entries.lookup id

/-- Whether an id reads as an inherited property. -/
def Inherits (mapping : NodeIdMapping) (id : JsString) : Prop :=
  mapping.inherits = true ∧ id ∈ inheritedNames

instance (mapping : NodeIdMapping) (id : JsString) :
    Decidable (mapping.Inherits id) := by
  unfold Inherits
  infer_instance

/-- `mapping[id] === undefined`. -/
def IsUndefined (mapping : NodeIdMapping) (id : JsString) : Prop :=
  mapping.own id = none ∧ ¬mapping.Inherits id

instance (mapping : NodeIdMapping) (id : JsString) :
    Decidable (mapping.IsUndefined id) := by
  unfold IsUndefined
  infer_instance

end NodeIdMapping

/-- `patch.nodeIdMapping ?? {}`. -/
def AgentSourcePatch.mapping (patch : AgentSourcePatch) : NodeIdMapping :=
  patch.nodeIdMapping.getD ⟨[], true⟩

/-! ## Extracting node ids -/

/-- The attribute that marks a node. -/
def nodeIdAttribute : JsString :=
  js "data-selene-node-id"

/-- `\\s*` takes all the white space there is. -/
def dropSpaces (source : JsString) : JsString :=
  source.dropWhile isWhiteSpace

/-- A unit that is optional. -/
def dropOptional (unit : CodeUnit) : JsString → JsString
  | [] => []
  | first :: rest => if first = unit then rest else first :: rest

/-- Quotes of an attribute value. -/
def isAttributeQuote (unit : CodeUnit) : Bool :=
  specifierQuotes.contains unit

/--
The pattern of node ids at the start of a text, with the text after the match:
the attribute, an equals sign, an optional brace, and a quoted text.
-/
def matchNodeId (source : JsString) : Option (JsString × JsString) :=
  match (source.drop nodeIdAttribute.length).dropWhile isWhiteSpace with
  | 0x3D :: afterEquals =>
      if nodeIdAttribute <+: source then
        match dropSpaces (dropOptional 0x7B (dropSpaces afterEquals)) with
        | [] => none
        | quote :: body =>
            let nodeId := body.takeWhile fun unit => !isAttributeQuote unit
            match body.dropWhile fun unit => !isAttributeQuote unit with
            | [] => none
            | _ :: rest =>
                if isAttributeQuote quote ∧ nodeId ≠ [] then
                  some (nodeId, dropOptional 0x7D (dropSpaces rest))
                else
                  none
      else
        none
  | _ => none

theorem length_dropOptional_le
    (unit : CodeUnit)
    (source : JsString) :
    (dropOptional unit source).length ≤ source.length := by
  unfold dropOptional
  split
  · exact Nat.le_refl _
  · split
    · exact Nat.le_succ _
    · exact Nat.le_refl _

theorem length_matchNodeId_lt
    {source nodeId rest : JsString}
    (found : matchNodeId source = some (nodeId, rest)) :
    rest.length < source.length := by
  unfold matchNodeId at found
  split at found
  · rename_i equalsCase afterEquals equalsLeft
    split at found
    · split at found
      · cases found
      · rename_i quote body quoted
        simp only at found
        split at found
        · cases found
        · rename_i closing left closed
          split at found
          · cases found
            have equals := length_dropWhile_le isWhiteSpace
              (source.drop nodeIdAttribute.length)
            have spaces := length_dropWhile_le isWhiteSpace
              (dropOptional 0x7B (dropSpaces afterEquals))
            have brace := length_dropOptional_le 0x7B (dropSpaces afterEquals)
            have more := length_dropWhile_le isWhiteSpace afterEquals
            have text := length_dropWhile_le
              (fun unit => !isAttributeQuote unit) body
            have last := length_dropOptional_le 0x7D (dropSpaces left)
            have spacesLeft := length_dropWhile_le isWhiteSpace left
            have dropped := List.length_drop (i := nodeIdAttribute.length)
              (l := source)
            rw [equalsLeft] at equals
            rw [closed] at text
            simp only [dropSpaces, List.length_cons] at *
            rw [quoted] at spaces
            simp only [List.length_cons] at spaces
            omega
          · cases found
    · cases found
  · cases found

/-- One turn of the scan of a file: a match, or one unit further. -/
def nodeIdTurn (state : List JsString × JsString) :
    (List JsString × JsString) ⊕ List JsString :=
  match state.2 with
  | [] => .inr state.1
  | first :: rest =>
      match matchNodeId (first :: rest) with
      | some (nodeId, left) => .inl (state.1 ++ [nodeId], left)
      | none => .inl (state.1, rest)

/-- The scan of a file with the global pattern. -/
def nodeIdLoop : Loop (List JsString × JsString) (List JsString) where
  turn := nodeIdTurn
  measure := fun state => state.2.length
  decreases := by
    rintro ⟨ids, source⟩ next continues
    unfold nodeIdTurn at continues
    cases source with
    | nil => cases continues
    | cons first rest =>
        simp only at continues
        split at continues
        · rename_i nodeId left found
          cases continues
          exact length_matchNodeId_lt found
        · cases continues
          exact Nat.lt_succ_self _

/-- The ids that a file marks, in order. -/
def markedIds (file : SourceFile) : List JsString :=
  if file.language = .tsx then
    (nodeIdLoop.run ([], file.content)).filter nodeIdPattern
  else
    []

/-- Every extracted node is exported as `default`. -/
def extractNodeMetadata
    (localeCompare : JsString → JsString → Ordering)
    (files : List SourceFile) :
    List NodeMetadata :=
  (files.flatMap fun file =>
    (markedIds file).map fun nodeId => ⟨nodeId, file.path⟩).insertionSort
      fun left right => localeCompare left.nodeId right.nodeId ≠ .gt

/-! ## Applying patches -/

/-- The files of a workspace by path, as a `Map`. -/
abbrev FileTable := Table SourceFile.path

/-- One operation of a patch. -/
def applyOperation (files : FileTable) :
    AgentFileOperation → Except (List SourceDiagnostic) FileTable
  | .write path content => do
      let path ← normalizeSourcePath path
      let language ← languageFor path
      pure (files.set ⟨path, content, language⟩)
  | .delete path => do
      let path ← normalizeSourcePath path
      pure (files.delete path)

/-- The files after the operations of a patch. -/
def patchedFiles (workspace : RevisedWorkspace) (patch : AgentSourcePatch) :
    Except (List SourceDiagnostic) FileTable :=
  patch.operations.foldlM applyOperation
    (Table.empty.setAll workspace.files)

/-- The nodes that are gone without a mapping. -/
def missingNodes
    (workspace : RevisedWorkspace)
    (nextNodeIds : List JsString)
    (mapping : NodeIdMapping) :
    List NodeMetadata :=
  workspace.nodes.filter fun node =>
    node.nodeId ∉ nextNodeIds ∧ mapping.IsUndefined node.nodeId

/-- The diagnostic of a node that is gone without a mapping. -/
def missingDiagnostic (node : NodeMetadata) : SourceDiagnostic :=
  ⟨.missingNodeMapping,
    js "Stable node ID was removed without a mapping: " ++ node.nodeId,
    some node.path⟩

/-- The workspace that a patch proposes. -/
def nextWorkspace
    (localeCompare : JsString → JsString → Ordering)
    (workspace : RevisedWorkspace)
    (patch : AgentSourcePatch)
    (revision : NewRevision)
    (files : FileTable) :
    RevisedWorkspace :=
  let nextFiles := files.rows.insertionSort fun left right =>
    localeCompare left.path right.path ≠ .gt
  { workspace with
    files := nextFiles
    dependencies := (patch.dependencies.getD workspace.dependencies).insertionSort
      fun left right => left ≤ right
    nodes := extractNodeMetadata localeCompare nextFiles
    revision := {
      id := revision.id
      parentId := some workspace.revision.id
      createdAt := revision.createdAt
      summary := patch.summary } }

def applyAgentSourcePatch
    (localeCompare : JsString → JsString → Ordering)
    (workspace : RevisedWorkspace)
    (patch : AgentSourcePatch)
    (revision : NewRevision) :
    Except (List SourceDiagnostic) RevisedWorkspace := do
  validateReactSourceWorkspace workspace.toReactSourceWorkspace []
  let files ← patchedFiles workspace patch
  let next := nextWorkspace localeCompare workspace patch revision files
  let missing := missingNodes workspace
    (next.nodes.map NodeMetadata.nodeId) patch.mapping
  check (missing = []) (missing.map missingDiagnostic)
  validateReactSourceWorkspace next.toReactSourceWorkspace []
  pure next

/-! ## What acceptance promises -/

theorem nodup_unseen_cons
    {α : Type}
    {key : α → JsString}
    {seen : List JsString}
    {first : α}
    {rest : List α}
    (fresh : key first ∉ seen)
    (later : (rest.map key).Nodup ∧
      ∀ other ∈ rest, key other ∉ key first :: seen) :
    ((first :: rest).map key).Nodup ∧
      ∀ other ∈ first :: rest, key other ∉ seen := by
  obtain ⟨distinct, unseen⟩ := later
  refine ⟨?_, ?_⟩
  · rw [List.map_cons, List.nodup_cons]
    refine ⟨fun repeated => ?_, distinct⟩
    obtain ⟨other, member, same⟩ := List.mem_map.mp repeated
    exact unseen other member (same ▸ List.mem_cons_self)
  · rw [List.forall_mem_cons]
    exact ⟨fresh, fun other member seenBefore =>
      unseen other member (List.mem_cons_of_mem _ seenBefore)⟩

theorem nodup_of_nodesDiagnostics
    {paths seen : List JsString}
    {nodes : List NodeMetadata}
    (none : nodesDiagnostics paths seen nodes = []) :
    (nodes.map NodeMetadata.nodeId).Nodup ∧
      ∀ node ∈ nodes, node.nodeId ∉ seen := by
  induction nodes generalizing seen with
  | nil => exact ⟨List.nodup_nil, by simp⟩
  | cons node rest inductionHypothesis =>
      simp only [nodesDiagnostics, List.append_eq_nil_iff, ite_eq_right_iff,
        List.cons_ne_nil, imp_false] at none
      obtain ⟨⟨_, fresh⟩, later⟩ := none
      exact nodup_unseen_cons fresh (inductionHypothesis later)

theorem nodup_of_validate
    {workspace : ReactSourceWorkspace}
    {policyDependencies : List JsString}
    (valid : validateReactSourceWorkspace workspace policyDependencies =
      .ok ()) :
    (workspace.nodes.map NodeMetadata.nodeId).Nodup := by
  have none := check_eq_ok.mp valid
  simp only [workspaceDiagnostics, List.append_eq_nil_iff] at none
  exact (nodup_of_nodesDiagnostics none.2).1

/-- What an accepted patch has passed. -/
structure AcceptedPatch
    (localeCompare : JsString → JsString → Ordering)
    (workspace : RevisedWorkspace)
    (patch : AgentSourcePatch)
    (revision : NewRevision)
    (next : RevisedWorkspace)
    (files : FileTable) : Prop where
  patched : patchedFiles workspace patch = .ok files
  isNext : next = nextWorkspace localeCompare workspace patch revision files
  mapped : ∀ node ∈ workspace.nodes,
    node.nodeId ∉ next.nodes.map NodeMetadata.nodeId →
      ¬patch.mapping.IsUndefined node.nodeId
  valid : validateReactSourceWorkspace next.toReactSourceWorkspace [] = .ok ()

variable {localeCompare : JsString → JsString → Ordering}

theorem acceptedPatch
    {workspace next : RevisedWorkspace}
    {patch : AgentSourcePatch}
    {revision : NewRevision}
    (accepted : applyAgentSourcePatch localeCompare workspace patch revision =
      .ok next) :
    ∃ files, AcceptedPatch localeCompare workspace patch revision next
      files := by
  unfold applyAgentSourcePatch at accepted
  obtain ⟨_, rest⟩ := unit_bind_eq_ok.mp accepted
  obtain ⟨files, patched, rest⟩ := bind_eq_ok.mp rest
  obtain ⟨missing, rest⟩ := check_bind_eq_ok.mp rest
  obtain ⟨valid, rest⟩ := unit_bind_eq_ok.mp rest
  cases rest
  refine ⟨files, patched, rfl, ?_, valid⟩
  intro node member gone undefined
  have kept := List.filter_eq_nil_iff.mp missing node member
  exact kept (decide_eq_true ⟨gone, undefined⟩)

theorem mem_extractNodeMetadata
    {files : List SourceFile}
    {id : JsString} :
    id ∈ (extractNodeMetadata localeCompare files).map
        NodeMetadata.nodeId ↔
      ∃ file ∈ files, id ∈ markedIds file := by
  rw [extractNodeMetadata,
    ((List.perm_insertionSort _ _).map NodeMetadata.nodeId).mem_iff]
  simp

theorem AcceptedPatch.mem_nodes
    {workspace next : RevisedWorkspace}
    {patch : AgentSourcePatch}
    {revision : NewRevision}
    {files : FileTable}
    (accepted : AcceptedPatch localeCompare workspace patch revision next
      files)
    {id : JsString} :
    id ∈ next.nodes.map NodeMetadata.nodeId ↔
      ∃ file ∈ files.rows, id ∈ markedIds file := by
  rw [accepted.isNext, nextWorkspace]
  simp only [mem_extractNodeMetadata,
    (List.perm_insertionSort _ files.rows).mem_iff]

/--
For every id that the patched files no longer mark: the target that the mapping
gives to it, if any, is an id that they do mark, and the id is not read as an
inherited property.
-/
def MappingIsSound
    (workspace : RevisedWorkspace)
    (patch : AgentSourcePatch)
    (files : FileTable) : Prop :=
  ∀ node ∈ workspace.nodes,
    (∀ file ∈ files.rows, node.nodeId ∉ markedIds file) →
      match patch.mapping.own node.nodeId with
      | some target => ∃ file ∈ files.rows, target ∈ markedIds file
      | none => ¬patch.mapping.Inherits node.nodeId

/--
Accepted patches link the revisions and give a valid workspace with distinct
node ids; every earlier id is kept or mapped to an id of the next workspace
exactly when the mapping is sound for the patched files.
-/
theorem applyAgentSourcePatch_iff
    {localeCompare : JsString → JsString → Ordering}
    {workspace next : RevisedWorkspace}
    {patch : AgentSourcePatch}
    {revision : NewRevision}
    (accepted : applyAgentSourcePatch localeCompare workspace patch revision =
      .ok next) :
    ((∀ node ∈ workspace.nodes,
        node.nodeId ∈ next.nodes.map NodeMetadata.nodeId ∨
          ∃ target ∈ patch.mapping.own node.nodeId,
            target ∈ next.nodes.map NodeMetadata.nodeId) ∧
      validateReactSourceWorkspace next.toReactSourceWorkspace [] = .ok () ∧
      (next.nodes.map NodeMetadata.nodeId).Nodup ∧
      next.revision.parentId = some workspace.revision.id) ↔
    ∀ files, patchedFiles workspace patch = .ok files →
      MappingIsSound workspace patch files := by
  obtain ⟨files, accepted⟩ := acceptedPatch accepted
  have valid := accepted.valid
  have linked : next.revision.parentId = some workspace.revision.id := by
    rw [accepted.isNext]
    rfl
  have onlyFiles : (∀ files, patchedFiles workspace patch = .ok files →
        MappingIsSound workspace patch files) ↔
      MappingIsSound workspace patch files := by
    refine ⟨fun sound => sound files accepted.patched, ?_⟩
    rintro sound others same
    cases accepted.patched.symm.trans same
    exact sound
  rw [onlyFiles, and_iff_left ⟨valid, nodup_of_validate valid, linked⟩]
  refine forall₂_congr fun node member => ?_
  have mapped := accepted.mapped node member
  rw [accepted.mem_nodes] at mapped ⊢
  by_cases kept : ∃ file ∈ files.rows, node.nodeId ∈ markedIds file
  · refine iff_of_true (.inl kept) fun gone => ?_
    obtain ⟨file, there, marked⟩ := kept
    exact absurd marked (gone file there)
  · have gone : ∀ file ∈ files.rows, node.nodeId ∉ markedIds file :=
      fun file there marked => kept ⟨file, there, marked⟩
    have known := mapped kept
    rw [or_iff_right kept]
    cases target : patch.mapping.own node.nodeId with
    | none =>
        refine iff_of_false (by simp) fun sound => ?_
        exact known ⟨target, sound gone⟩
    | some name =>
        simp only [Option.mem_some_iff, exists_eq_left', accepted.mem_nodes]
        exact ⟨fun present _ => present, fun sound => sound gone⟩

/-- Text order by code units. -/
def compareUnits (left right : JsString) : Ordering :=
  compareOfLessAndEq left right

/-- A workspace of one file with the given nodes. -/
def patchedWorkspace (content : JsString) (nodeIds : List JsString) :
    RevisedWorkspace where
  entrypoint := js "A.tsx"
  files := [⟨js "A.tsx", content, .tsx⟩]
  dependencies := []
  nodes := nodeIds.map fun nodeId => ⟨nodeId, js "A.tsx"⟩
  projectId := js "p"
  revision := ⟨js "r1", none, js "t1", js ""⟩

/-- A patch that writes the file anew and maps `a` to a target. -/
def renamingPatch (target : JsString) : AgentSourcePatch where
  operations := [.write (js "A.tsx") (js "<a data-selene-node-id='b'/>")]
  dependencies := none
  nodeIdMapping := some ⟨[(js "a", target)], true⟩
  summary := js "s"

/-- The workspace after it. -/
def renamedWorkspace : RevisedWorkspace where
  entrypoint := js "A.tsx"
  files := [⟨js "A.tsx", js "<a data-selene-node-id='b'/>", .tsx⟩]
  dependencies := []
  nodes := [⟨js "b", js "A.tsx"⟩]
  projectId := js "p"
  revision := ⟨js "r2", some (js "r1"), js "t2", js "s"⟩

theorem renamingPatch_accepted :
    applyAgentSourcePatch compareUnits (patchedWorkspace [] [js "a"])
        (renamingPatch (js "b")) ⟨js "r2", js "t2"⟩ = .ok renamedWorkspace ∧
      ∀ files, patchedFiles (patchedWorkspace [] [js "a"])
          (renamingPatch (js "b")) = .ok files →
        MappingIsSound (patchedWorkspace [] [js "a"])
          (renamingPatch (js "b")) files := by
  have accepted : applyAgentSourcePatch compareUnits
      (patchedWorkspace [] [js "a"]) (renamingPatch (js "b"))
      ⟨js "r2", js "t2"⟩ = .ok renamedWorkspace := by
    decide +kernel
  refine ⟨accepted, (applyAgentSourcePatch_iff accepted).mp ⟨?_, ?_⟩⟩
  · decide +kernel
  · decide +kernel

/--
A mapped target that no file marks is accepted, and `constructor` may go without
any mapping.
-/
theorem renamingPatch_drops_nodes :
    applyAgentSourcePatch compareUnits
        (patchedWorkspace [] [js "a", js "constructor"])
        (renamingPatch (js "c")) ⟨js "r2", js "t2"⟩ = .ok renamedWorkspace ∧
      ¬∀ node ∈ (patchedWorkspace [] [js "a", js "constructor"]).nodes,
        node.nodeId ∈ renamedWorkspace.nodes.map NodeMetadata.nodeId ∨
          ∃ target ∈ (renamingPatch (js "c")).mapping.own node.nodeId,
            target ∈ renamedWorkspace.nodes.map NodeMetadata.nodeId := by
  decide +kernel

end Selene.Generation
