import Selene.CanonicalOrder
import Selene.ProjectManifest
import Mathlib.Data.Prod.Lex

/-!
# Federations of projects

`validateFederation` reads the manifests of a shell and of its children and
reports what keeps them apart: wrong roles and parents, children that the shell
does not declare, nodes and routes that two projects claim, and packages of a
design system that resolve differently.  `validateFederation_accepts` says what
holds of manifests about which nothing is reported.
-/

namespace Selene.Federation

open Js

/-! ## First values of keys -/

section FirstValues

variable {α β ι : Type} [DecidableEq β]

/--
A walk over items with a key and a value: the first item of a key is recorded,
and a later one whose value differs from the recorded one is an issue.
-/
def disagreements
    (key : α → JsString)
    (value : α → β)
    (issue : α → α → ι) : List α → List α → List ι
  | _, [] => []
  | recorded, item :: rest =>
      match recorded.find? fun other => decide (key other = key item) with
      | none => disagreements key value issue (recorded ++ [item]) rest
      | some existing =>
          if value existing = value item then
            disagreements key value issue recorded rest
          else
            issue existing item ::
              disagreements key value issue recorded rest

variable {key : α → JsString} {value : α → β} {issue : α → α → ι}

variable {recorded : List α}

/--
An item without issue has a recorded item of its key and its value; what was
recorded stays recorded.
-/
theorem recorded_of_silent
    {rest : List α}
    {item : α}
    (silent : disagreements key value issue recorded (item :: rest) = [])
    (distinct : (recorded.map key).Nodup) :
    ∃ kept : List α, disagreements key value issue kept rest = [] ∧
      (kept.map key).Nodup ∧ (∀ other ∈ recorded, other ∈ kept) ∧
      ∃ representative ∈ kept, key representative = key item ∧
        value representative = value item := by
  rw [disagreements] at silent
  cases found : recorded.find? fun other =>
      decide (key other = key item) with
  | none =>
      rw [found] at silent
      refine ⟨recorded ++ [item], silent, ?_,
        fun other member => List.mem_append_left _ member,
        item, by simp, rfl, rfl⟩
      have isNew : key item ∉ recorded.map key := by
        intro isOld
        obtain ⟨other, member, same⟩ := List.mem_map.mp isOld
        exact List.find?_eq_none.mp found other member (by simpa using same)
      rw [List.map_append, List.map_singleton, ← List.concat_eq_append]
      exact distinct.concat isNew
  | some existing =>
      rw [found] at silent
      by_cases same : value existing = value item
      · simp only [same, if_true] at silent
        exact ⟨recorded, silent, distinct, fun other member => member,
          existing, List.mem_of_find?_eq_some found,
          by simpa using List.find?_some found, same⟩
      · simp [same] at silent

theorem recorded_agrees
    {items : List α}
    (silent : disagreements key value issue recorded items = [])
    (distinct : (recorded.map key).Nodup)
    {first second : α}
    (isRecorded : first ∈ recorded)
    (isLater : second ∈ items)
    (sameKey : key first = key second) :
    value first = value second := by
  induction items generalizing recorded with
  | nil => exact absurd isLater List.not_mem_nil
  | cons item rest inductionHypothesis =>
      obtain ⟨kept, silentRest, keptDistinct, stays, representative, isKept,
        keyKept, valueKept⟩ := recorded_of_silent silent distinct
      rcases List.mem_cons.mp isLater with rfl | inRest
      · have same : first = representative :=
          List.inj_on_of_nodup_map keptDistinct (stays first isRecorded)
            isKept (sameKey.trans keyKept.symm)
        rw [same, valueKept]
      · exact inductionHypothesis silentRest keptDistinct
          (stays first isRecorded) inRest

theorem values_agree
    {items : List α}
    (silent : disagreements key value issue recorded items = [])
    (distinct : (recorded.map key).Nodup)
    {first second : α}
    (firstMember : first ∈ items)
    (secondMember : second ∈ items)
    (sameKey : key first = key second) :
    value first = value second := by
  induction items generalizing recorded with
  | nil => exact absurd firstMember List.not_mem_nil
  | cons item rest inductionHypothesis =>
      obtain ⟨kept, silentRest, keptDistinct, -, representative, isKept,
        keyKept, valueKept⟩ := recorded_of_silent silent distinct
      have headAgrees :
          ∀ other ∈ rest, key item = key other → value item = value other :=
        fun other inRest same =>
          valueKept.symm.trans (recorded_agrees silentRest keptDistinct isKept
            inRest (keyKept.trans same))
      rcases List.mem_cons.mp firstMember with rfl | firstInRest
      · rcases List.mem_cons.mp secondMember with rfl | secondInRest
        · rfl
        · exact headAgrees second secondInRest sameKey
      · rcases List.mem_cons.mp secondMember with rfl | secondInRest
        · exact (headAgrees first firstInRest sameKey.symm).symm
        · exact inductionHypothesis silentRest keptDistinct firstInRest
            secondInRest

end FirstValues

/-! ## Issues -/

inductive FederationIssueCode where
  | duplicateChild
  | invalidManifest
  | ownershipConflict
  | parentMismatch
  | roleMismatch
  | routeConflict
  | shellChildrenMismatch
  | designSystemConflict
  deriving DecidableEq

/-- The text of a code. -/
def FederationIssueCode.text : FederationIssueCode → JsString
  | .duplicateChild => js "duplicate-child"
  | .invalidManifest => js "invalid-manifest"
  | .ownershipConflict => js "ownership-conflict"
  | .parentMismatch => js "parent-mismatch"
  | .roleMismatch => js "role-mismatch"
  | .routeConflict => js "route-conflict"
  | .shellChildrenMismatch => js "shell-children-mismatch"
  | .designSystemConflict => js "design-system-conflict"

structure FederationIssue where
  code : FederationIssueCode
  message : JsString
  projectIds : List JsString
  deriving DecidableEq

/-- `texts.join(separator)`. -/
def joinTexts (separator : String) (texts : List JsString) : JsString :=
  (js separator).intercalate texts

/-- `[...texts].sort(compareText)`. -/
def sortTexts (texts : List JsString) : List JsString :=
  sortByKey id texts

def sortedIssues (issues : List FederationIssue) : List FederationIssue :=
  sortByKey
    (fun issue =>
      toLex (issue.code.text,
        toLex (joinTexts "," issue.projectIds, issue.message)))
    issues

/-! ## Ownership -/

def ownershipClaims (project : Project) : List JsString :=
  sortTexts
    (project.ownership.nodeIds.map (fun nodeId => js "node:" ++ nodeId.val) ++
      project.ownership.nodeIdPrefixes.map fun start =>
        js "prefix:" ++ start.val)

/-- `text.indexOf(':')`, absent when there is no colon. -/
def colonIndex (text : JsString) : Option Nat :=
  text.findIdx? (· = 0x3A)

def claimsOverlap (left right : JsString) : Bool :=
  match colonIndex left, colonIndex right with
  | some leftSeparator, some rightSeparator =>
      let leftType := left.take leftSeparator
      let leftValue := left.drop (leftSeparator + 1)
      let rightType := right.take rightSeparator
      let rightValue := right.drop (rightSeparator + 1)
      if leftType = js "node" ∧ rightType = js "node" then
        decide (leftValue = rightValue)
      else if leftType = js "prefix" ∧ rightType = js "prefix" then
        rightValue.isPrefixOf leftValue || leftValue.isPrefixOf rightValue
      else if leftType = js "prefix" then
        leftValue.isPrefixOf rightValue
      else
        rightValue.isPrefixOf leftValue
  | _, _ => false

/-- What two projects both claim, in the words of an issue. -/
def overlaps (left right : Project) : List JsString :=
  sortTexts ((ownershipClaims left).flatMap fun leftClaim =>
    ((ownershipClaims right).filter (claimsOverlap leftClaim)).map
      fun rightClaim => leftClaim ++ js " overlaps " ++ rightClaim)

/-- The issue of a pair of projects. -/
def ownershipIssue (left right : Project) : Option FederationIssue :=
  (overlaps left right).head?.map fun overlap =>
    { code := .ownershipConflict
      message :=
        js "projects " ++ left.projectId.val ++ js " and " ++
          right.projectId.val ++ js " have conflicting ownership: " ++ overlap
      projectIds := [left.projectId.val, right.projectId.val] }

/-- Every project is compared with those after it. -/
def ownershipIssues : List Project → List FederationIssue
  | [] => []
  | left :: rest =>
      rest.filterMap (ownershipIssue left) ++ ownershipIssues rest

/-! ## Routes and design systems -/

/-- A route and its project, in the order in which they are visited. -/
def declaredRoutes (projects : List Project) : List (Project × Route) :=
  projects.flatMap fun project => project.routes.map fun route =>
    (project, route)

/--
A path that another project has declared already; setting the owner of a path
once more changes nothing.
-/
def routeIssues (projects : List Project) : List FederationIssue :=
  disagreements
    (fun declared => declared.2.path.val)
    (fun declared => declared.1.projectId)
    (fun existing declared =>
      { code := .routeConflict
        message :=
          js "route " ++ declared.2.path.val ++ js " is declared by both " ++
            existing.1.projectId.val ++ js " and " ++ declared.1.projectId.val
        projectIds :=
          sortTexts [existing.1.projectId.val, declared.1.projectId.val] })
    [] (declaredRoutes projects)

/-- A design-system reference and its project. -/
def usedPackages (projects : List Project) :
    List (Project × DesignSystemReference) :=
  projects.flatMap fun project => project.designSystem.map fun reference =>
    (project, reference)

def designSystemIssues (projects : List Project) : List FederationIssue :=
  disagreements
    (fun used => used.2.packageName.val)
    (fun used => (used.2.version, used.2.tokenSource))
    (fun existing used =>
      { code := .designSystemConflict
        message :=
          js "design system " ++ used.2.packageName.val ++
            js " differs between " ++ existing.1.projectId.val ++ js " and " ++
            used.1.projectId.val
        projectIds :=
          sortTexts [existing.1.projectId.val, used.1.projectId.val] })
    [] (usedPackages projects)

/-! ## Validation -/

def shellIssues (shell : Project) : List FederationIssue :=
  if shell.role = .shell then []
  else
    [{ code := .roleMismatch
       message :=
        js "shell manifest " ++ shell.projectId.val ++
          js " must have role shell"
       projectIds := [shell.projectId.val] }]

/-- The issues of one child, after the children whose ids were seen. -/
def childIssue (shell : Project) (seen : List JsString) (child : Project) :
    List FederationIssue :=
  (if child.role = .child then []
   else
    [{ code := .roleMismatch
       message :=
        js "child manifest " ++ child.projectId.val ++
          js " must have role child"
       projectIds := [child.projectId.val] }]) ++
  (if child.projectId.val ∈ seen then
    [{ code := .duplicateChild
       message :=
        js "child project " ++ child.projectId.val ++
          js " appears more than once"
       projectIds := [child.projectId.val] }]
   else []) ++
  if child.parentProjectId = some shell.projectId then []
  else
    [{ code := .parentMismatch
       message :=
        js "child " ++ child.projectId.val ++ js " must name " ++
          shell.projectId.val ++ js " as parent"
       projectIds :=
        sortTexts [child.projectId.val, shell.projectId.val] }]

/-- `childIds.add(projectId)`. -/
def addId (seen : List JsString) (projectId : JsString) : List JsString :=
  if projectId ∈ seen then seen else seen ++ [projectId]

/-- The issues of the children and the set of their ids. -/
def childrenIssues (shell : Project) :
    List JsString → List Project → List FederationIssue × List JsString
  | seen, [] => ([], seen)
  | seen, child :: rest =>
      let later := childrenIssues shell (addId seen child.projectId.val) rest
      (childIssue shell seen child ++ later.1, later.2)

def declarationIssues (shell : Project) (childIds : List JsString) :
    List FederationIssue :=
  let declaredChildren :=
    sortTexts (shell.children.map fun projectId => projectId.val)
  let actualChildren := sortTexts childIds
  if joinTexts "," declaredChildren = joinTexts "," actualChildren then []
  else
    [{ code := .shellChildrenMismatch
       message :=
        js "shell " ++ shell.projectId.val ++
          js " children must exactly match supplied child manifests"
       projectIds := sortTexts (shell.projectId.val :: actualChildren) }]

def validateParsedFederation (shell : Project) (children : List Project) :
    List FederationIssue :=
  let ofChildren := childrenIssues shell [] children
  let projects :=
    sortByKey (fun project : Project => project.projectId.val)
      (shell :: children)
  sortedIssues
    (shellIssues shell ++ ofChildren.1 ++
      declarationIssues shell ofChildren.2 ++ ownershipIssues projects ++
      routeIssues projects ++ designSystemIssues projects)

/--
`parseManifest`; `describe` stands for the issue texts of the schema library
for a value, each a path and a message.
-/
def parseManifest (describe : JsValue → List JsString) (value : JsValue)
    (location : JsString) : Except FederationIssue Project :=
  match projectSchema value with
  | some project => .ok project
  | none =>
      .error
        { code := .invalidManifest
          message :=
            location ++ js " is not a valid project manifest: " ++
              joinTexts "; " (sortTexts (describe value))
          projectIds := [location] }

/-- `child[index]`. -/
def childLocation (index : Nat) : JsString :=
  js "child[" ++ decimalDigits index ++ js "]"

structure ParsedFederation where
  /-- The shell and the children, when every manifest is valid. -/
  projects : Option (Project × List Project)
  issues : List FederationIssue

def parseFederation (describe : JsValue → List JsString)
    (shellValue : JsValue) (childValues : List JsValue) : ParsedFederation :=
  let parsedShell := parseManifest describe shellValue (js "shell")
  let parsedChildren := childValues.mapIdx fun index child =>
    parseManifest describe child (childLocation index)
  let parseIssues := (parsedShell :: parsedChildren).filterMap fun parsed =>
    match parsed with
    | .error issue => some issue
    | .ok _ => none
  match parsedShell, parsedChildren.mapM Except.toOption with
  | .ok shell, some children =>
      ⟨some (shell, children), validateParsedFederation shell children⟩
  | _, _ => ⟨none, sortedIssues parseIssues⟩

def validateFederation (describe : JsValue → List JsString)
    (shell : JsValue) (children : List JsValue) : List FederationIssue :=
  (parseFederation describe shell children).issues

/-! ## Sorted issues and texts -/

@[simp] theorem sortedIssues_eq_nil {issues : List FederationIssue} :
    sortedIssues issues = [] ↔ issues = [] :=
  sortByKey_eq_nil

theorem sortTexts_perm (texts : List JsString) :
    (sortTexts texts).Perm texts :=
  sortByKey_perm id texts

theorem projectId_plain (projectId : ProjectId) :
    projectId.val ≠ [] ∧ (0x2C : CodeUnit) ∉ projectId.val := by
  obtain ⟨text, valid⟩ := projectId
  cases text with
  | nil => exact absurd valid (by decide)
  | cons first rest =>
      simp only [Prototype.projectIdSchema, Bool.and_eq_true,
        decide_eq_true_eq, List.all_eq_true, Bool.or_eq_true] at valid
      refine ⟨List.cons_ne_nil _ _, fun member => ?_⟩
      rcases List.mem_cons.mp member with isFirst | inRest
      · rw [← isFirst] at valid
        exact absurd valid.1.1 (by decide)
      · exact absurd (valid.2 _ inRest) (by decide)

theorem joinTexts_injective
    {first second : List JsString}
    (firstPlain : ∀ text ∈ first, text ≠ [] ∧ (0x2C : CodeUnit) ∉ text)
    (secondPlain : ∀ text ∈ second, text ≠ [] ∧ (0x2C : CodeUnit) ∉ text)
    (same : joinTexts "," first = joinTexts "," second) :
    first = second := by
  have joined : ∀ texts : List JsString,
      joinTexts "," texts = [0x2C].intercalate texts := fun _ => rfl
  have notEmpty : ∀ texts : List JsString,
      (∀ text ∈ texts, text ≠ [] ∧ (0x2C : CodeUnit) ∉ text) →
        texts ≠ [] → joinTexts "," texts ≠ [] := by
    intro texts plain nonempty empty
    obtain ⟨text, rest, rfl⟩ := List.exists_cons_of_ne_nil nonempty
    have isEmpty : text = [] := by
      cases rest with
      | nil => simpa [joined] using empty
      | cons next others =>
          rw [joined, List.intercalate_cons_cons] at empty
          exact (List.append_eq_nil_iff.mp
            (List.append_eq_nil_iff.mp empty).1).1
    exact (plain text List.mem_cons_self).1 isEmpty
  by_cases firstEmpty : first = []
  · by_cases secondEmpty : second = []
    · rw [firstEmpty, secondEmpty]
    · rw [firstEmpty] at same
      exact absurd same.symm (notEmpty second secondPlain secondEmpty)
  · by_cases secondEmpty : second = []
    · rw [secondEmpty] at same
      exact absurd same (notEmpty first firstPlain firstEmpty)
    · rw [joined, joined] at same
      rw [← List.splitOn_intercalate 0x2C
          (fun text member => (firstPlain text member).2) firstEmpty, same,
        List.splitOn_intercalate 0x2C
          (fun text member => (secondPlain text member).2) secondEmpty]

/-! ## Children -/

variable {shell : Project} {children : List Project}

theorem childrenIssues_silent
    {seen : List JsString}
    (silent : (childrenIssues shell seen children).1 = [])
    (distinct : seen.Nodup) :
    (seen ++ children.map fun child => child.projectId.val).Nodup ∧
      (childrenIssues shell seen children).2 =
        seen ++ children.map fun child => child.projectId.val := by
  induction children generalizing seen with
  | nil => simpa [childrenIssues] using distinct
  | cons child rest inductionHypothesis =>
      simp only [childrenIssues, List.append_eq_nil_iff] at silent
      have isNew : child.projectId.val ∉ seen := by
        intro isOld
        simp [childIssue, isOld] at silent
      have added : addId seen child.projectId.val =
          seen ++ [child.projectId.val] :=
        if_neg isNew
      rw [added] at silent
      have stillDistinct : (seen ++ [child.projectId.val]).Nodup := by
        rw [← List.concat_eq_append]
        exact distinct.concat isNew
      have kept := inductionHypothesis silent.2 stillDistinct
      rw [List.append_assoc] at kept
      simp only [childrenIssues, added]
      exact kept

theorem declaration_silent
    (silent :
      declarationIssues shell
        (children.map fun child => child.projectId.val) = []) :
    (children.map Project.projectId).Perm shell.children := by
  have same : joinTexts ","
        (sortTexts (shell.children.map fun projectId => projectId.val)) =
      joinTexts ","
        (sortTexts (children.map fun child => child.projectId.val)) := by
    by_contra different
    rw [declarationIssues, if_neg different] at silent
    exact absurd silent (List.cons_ne_nil _ _)
  have plainIds : ∀ (ids : List ProjectId) (text : JsString),
      text ∈ sortTexts (ids.map fun projectId => projectId.val) →
        text ≠ [] ∧ (0x2C : CodeUnit) ∉ text := by
    intro ids text member
    obtain ⟨projectId, -, rfl⟩ :=
      List.mem_map.mp ((sortTexts_perm _).mem_iff.mp member)
    exact projectId_plain projectId
  have asIds : (children.map fun child => child.projectId.val) =
      (children.map Project.projectId).map fun projectId => projectId.val := by
    rw [List.map_map]
    rfl
  rw [asIds] at same
  have sorted := joinTexts_injective (plainIds _) (plainIds _) same
  have reordered :
      ((children.map Project.projectId).map fun projectId =>
          projectId.val).Perm
        (shell.children.map fun projectId => projectId.val) :=
    (sortTexts_perm _).symm.trans (sorted ▸ sortTexts_perm _)
  exact (List.map_perm_map_iff Subtype.val_injective).mp reordered

/-! ## Nodes -/

/-- A project owns the nodes that it claims exactly or by prefix. -/
def Project.Owns (project : Project) (node : JsString) : Prop :=
  (∃ nodeId ∈ project.ownership.nodeIds, nodeId.val = node) ∨
    ∃ start ∈ project.ownership.nodeIdPrefixes, start.val.isPrefixOf node

theorem claimsOverlap_node_node (left right : JsString) :
    claimsOverlap (js "node:" ++ left) (js "node:" ++ right) =
      decide (left = right) :=
  rfl

theorem claimsOverlap_starts (left right : JsString) :
    claimsOverlap (js "prefix:" ++ left) (js "prefix:" ++ right) =
      (right.isPrefixOf left || left.isPrefixOf right) :=
  rfl

theorem claimsOverlap_prefix_node (left right : JsString) :
    claimsOverlap (js "prefix:" ++ left) (js "node:" ++ right) =
      left.isPrefixOf right :=
  rfl

theorem claimsOverlap_node_start (left right : JsString) :
    claimsOverlap (js "node:" ++ left) (js "prefix:" ++ right) =
      right.isPrefixOf left :=
  rfl

theorem claim_of_owns
    {project : Project}
    {node : JsString}
    (owned : project.Owns node) :
    js "node:" ++ node ∈ ownershipClaims project ∨
      ∃ start : JsString, js "prefix:" ++ start ∈ ownershipClaims project ∧
        start <+: node := by
  simp only [ownershipClaims, (sortTexts_perm _).mem_iff]
  rcases owned with ⟨nodeId, member, rfl⟩ | ⟨start, member, starts⟩
  · exact .inl (List.mem_append_left _
      (List.mem_map.mpr ⟨nodeId, member, rfl⟩))
  · exact .inr ⟨start.val, List.mem_append_right _
      (List.mem_map.mpr ⟨start, member, rfl⟩),
      List.isPrefixOf_iff_prefix.mp starts⟩

theorem overlap_of_owns
    {left right : Project}
    {node : JsString}
    (ownedLeft : left.Owns node)
    (ownedRight : right.Owns node) :
    ∃ leftClaim ∈ ownershipClaims left, ∃ rightClaim ∈ ownershipClaims right,
      claimsOverlap leftClaim rightClaim = true := by
  rcases claim_of_owns ownedLeft with leftNode | ⟨leftStart, leftClaim, starts⟩
  · rcases claim_of_owns ownedRight with
      rightNode | ⟨rightStart, rightClaim, starts⟩
    · exact ⟨_, leftNode, _, rightNode,
        by rw [claimsOverlap_node_node, decide_eq_true_eq]⟩
    · exact ⟨_, leftNode, _, rightClaim, by
        rw [claimsOverlap_node_start, List.isPrefixOf_iff_prefix]
        exact starts⟩
  · rcases claim_of_owns ownedRight with
      rightNode | ⟨rightStart, rightClaim, alsoStarts⟩
    · exact ⟨_, leftClaim, _, rightNode, by
        rw [claimsOverlap_prefix_node, List.isPrefixOf_iff_prefix]
        exact starts⟩
    · refine ⟨_, leftClaim, _, rightClaim, ?_⟩
      rw [claimsOverlap_starts, Bool.or_eq_true,
        List.isPrefixOf_iff_prefix, List.isPrefixOf_iff_prefix]
      exact (List.prefix_or_prefix_of_prefix alsoStarts starts)

theorem exclusive_of_silent
    {left right : Project}
    (silent : ownershipIssue left right = none)
    (node : JsString) :
    ¬ (left.Owns node ∧ right.Owns node) := by
  rintro ⟨ownedLeft, ownedRight⟩
  obtain ⟨leftClaim, leftMember, rightClaim, rightMember, overlap⟩ :=
    overlap_of_owns ownedLeft ownedRight
  have none : overlaps left right = [] := by
    simpa [ownershipIssue] using silent
  have listed :
      leftClaim ++ js " overlaps " ++ rightClaim ∈ overlaps left right := by
    rw [overlaps, (sortTexts_perm _).mem_iff]
    exact List.mem_flatMap.mpr ⟨leftClaim, leftMember,
      List.mem_map.mpr ⟨rightClaim,
        List.mem_filter.mpr ⟨rightMember, overlap⟩, rfl⟩⟩
  rw [none] at listed
  exact List.not_mem_nil listed

theorem pairwise_of_silent
    {projects : List Project}
    (silent : ownershipIssues projects = []) :
    projects.Pairwise fun left right =>
      ∀ node, ¬ (left.Owns node ∧ right.Owns node) := by
  induction projects with
  | nil => exact List.Pairwise.nil
  | cons left rest inductionHypothesis =>
      rw [ownershipIssues, List.append_eq_nil_iff,
        List.filterMap_eq_nil_iff] at silent
      exact List.Pairwise.cons
        (fun right member => exclusive_of_silent (silent.1 right member))
        (inductionHypothesis silent.2)

/-! ## Accepted federations -/

/-- What holds of a shell and children about which nothing is reported. -/
structure Compatible (shell : Project) (children : List Project) : Prop where
  distinctChildren : (children.map Project.projectId).Nodup
  exclusiveNodes :
    (shell :: children).Pairwise fun left right =>
      ∀ node, ¬ (left.Owns node ∧ right.Owns node)
  oneOwner :
    ∀ first ∈ declaredRoutes (shell :: children),
      ∀ second ∈ declaredRoutes (shell :: children),
        first.2.path = second.2.path → first.1.projectId = second.1.projectId
  oneResolution :
    ∀ first ∈ usedPackages (shell :: children),
      ∀ second ∈ usedPackages (shell :: children),
        first.2.packageName = second.2.packageName →
          first.2.version = second.2.version ∧
            first.2.tokenSource = second.2.tokenSource
  declaredChildren : (children.map Project.projectId).Perm shell.children

theorem compatible_of_silent
    (silent : validateParsedFederation shell children = []) :
    Compatible shell children := by
  simp only [validateParsedFederation, sortedIssues_eq_nil,
    List.append_eq_nil_iff] at silent
  obtain ⟨⟨⟨⟨⟨-, ofChildren⟩, declaration⟩, ownership⟩, routes⟩, packages⟩ :=
    silent
  have reordered := sortByKey_perm
    (fun project : Project => project.projectId.val) (shell :: children)
  have ids := childrenIssues_silent ofChildren List.nodup_nil
  rw [List.nil_append] at ids
  rw [ids.2] at declaration
  refine ⟨?_, ?_, ?_, ?_, declaration_silent declaration⟩
  · have distinct := ids.1
    rw [← Function.comp_def, ← List.map_map] at distinct
    exact distinct.of_map _
  · refine (reordered.pairwise_iff ?_).mp (pairwise_of_silent ownership)
    exact fun exclusive node both => exclusive node both.symm
  · intro first firstMember second secondMember samePath
    exact values_agree routes List.nodup_nil
      ((reordered.flatMap_right _).mem_iff.mpr firstMember)
      ((reordered.flatMap_right _).mem_iff.mpr secondMember)
      (congrArg Subtype.val samePath)
  · intro first firstMember second secondMember samePackage
    have same := values_agree packages List.nodup_nil
      ((reordered.flatMap_right _).mem_iff.mpr firstMember)
      ((reordered.flatMap_right _).mem_iff.mpr secondMember)
      (congrArg Subtype.val samePackage)
    exact Prod.mk.inj same

theorem toOption_parseManifest
    (describe : JsValue → List JsString)
    (value : JsValue)
    (location : JsString) :
    (parseManifest describe value location).toOption = projectSchema value := by
  unfold parseManifest
  cases projectSchema value <;> rfl

theorem mapM_parseManifest
    {values : List JsValue}
    {parse : Nat → JsValue → Except FederationIssue Project}
    (reads : ∀ index value, (parse index value).toOption = projectSchema value) :
    (values.mapIdx parse).mapM Except.toOption = values.mapM projectSchema := by
  induction values generalizing parse with
  | nil => rfl
  | cons value rest inductionHypothesis =>
      rw [List.mapIdx_cons, List.mapM_cons, List.mapM_cons, reads,
        inductionHypothesis fun index => reads (index + 1)]

theorem parsed_of_silent
    {describe : JsValue → List JsString}
    {shellValue : JsValue}
    {childValues : List JsValue}
    (silent : validateFederation describe shellValue childValues = []) :
    ∃ shell children, projectSchema shellValue = some shell ∧
      childValues.mapM projectSchema = some children ∧
      validateParsedFederation shell children = [] := by
  unfold validateFederation parseFederation at silent
  dsimp only at silent
  split at silent
  · rename_i shell children parsedShell parsedChildren
    refine ⟨shell, children, ?_, ?_, silent⟩
    · rw [← toOption_parseManifest describe shellValue (js "shell"),
        parsedShell]
      rfl
    · rw [← parsedChildren]
      exact (mapM_parseManifest fun index value =>
        toOption_parseManifest describe value (childLocation index)).symm
  · rename_i failed
    rw [sortedIssues_eq_nil, List.filterMap_eq_nil_iff] at silent
    have every : ∀ parsed ∈ parseManifest describe shellValue (js "shell") ::
        childValues.mapIdx (fun index child =>
          parseManifest describe child (childLocation index)),
        ∃ project, parsed = .ok project := by
      intro parsed member
      have noIssue := silent parsed member
      cases parsed with
      | ok project => exact ⟨project, rfl⟩
      | error issue => cases noIssue
    obtain ⟨shell, parsedShell⟩ := every _ List.mem_cons_self
    obtain ⟨children, parsedChildren⟩ := mapM_toOption_isSome
      fun parsed member => every parsed (List.mem_cons_of_mem _ member)
    exact (failed shell children parsedShell parsedChildren).elim

/-- What holds of every federation about which nothing is reported. -/
theorem validateFederation_accepts
    (describe : JsValue → List JsString)
    (shellValue : JsValue)
    (childValues : List JsValue)
    (silent : validateFederation describe shellValue childValues = []) :
    ∃ shell children, projectSchema shellValue = some shell ∧
      childValues.mapM projectSchema = some children ∧
      Compatible shell children := by
  obtain ⟨shell, children, shellRead, childrenRead, noIssue⟩ :=
    parsed_of_silent silent
  exact ⟨shell, children, shellRead, childrenRead, compatible_of_silent noIssue⟩

/-! ## Two manifests of one id -/

/-- A manifest with one screen and these routes. -/
def sampleManifest (projectId role node : String) (links : Record)
    (paths : List String) : JsValue :=
  let text (value : String) := JsValue.string (js value)
  let entry (name value : String) := (js name, text value)
  .object
    ([entry "schemaVersion" "1.0", entry "projectId" projectId,
      entry "role" role,
      (js "status", .object [entry "state" "active", entry "updatedAt" "now"]),
      (js "ownership", .object [(js "nodeIds", .array [text node])]),
      (js "changelog", .array []),
      (js "designSystem", .array [.object
        [entry "packageName" "tokens", entry "version" "1",
          entry "tokenSource" "tokens.json"]]),
      (js "screens", .array [.object [entry "id" "home", entry "name" "Home"]]),
      (js "routes", .array (paths.map fun path =>
        .object [entry "path" path, entry "screenId" "home"])),
      (js "storybook", .array [.object
        [entry "component" "Home", entry "url" "home.html"]]),
      (js "reactSource", .array [.object
        [entry "path" "home.tsx", entry "revision" "1"]]),
      (js "deployment", .object
        [entry "mode" "static", entry "baseUrl" "/",
          entry "outputDirectory" "out"])] ++ links)

/-- A shell that lists its own id as a child. -/
def sharedShell : JsValue :=
  sampleManifest "shop" "shell" "frame"
    [(js "children", .array [.string (js "shop")])] ["/"]

/-- A child under the id of its shell, which declares one path twice. -/
def sharedChild : JsValue :=
  sampleManifest "shop" "child" "cart"
    [(js "parentProjectId", .string (js "shop"))] ["/cart", "/cart"]

/-- Nothing is reported about a child under the id of its shell. -/
theorem shared_compatible :
    ∃ shell children, projectSchema sharedShell = some shell ∧
      [sharedChild].mapM projectSchema = some children ∧
      Compatible shell children :=
  validateFederation_accepts (fun _ => []) sharedShell [sharedChild]
    (by decide +kernel)

/--
An accepted federation in which a child has the id of the shell and a path is
declared twice.
-/
theorem accepted_with_shared_id :
    validateFederation (fun _ => []) sharedShell [sharedChild] = [] ∧
      ∃ shell child, projectSchema sharedShell = some shell ∧
        projectSchema sharedChild = some child ∧
        ¬ ([shell, child].map Project.projectId).Nodup ∧
        ¬ ((declaredRoutes [shell, child]).map fun declared =>
          declared.2.path).Nodup := by
  refine ⟨by decide +kernel, ?_⟩
  have shellData :
      (projectSchema sharedShell).map (fun shell => shell.projectId.val) =
        some (js "shop") := by
    decide +kernel
  have childData :
      (projectSchema sharedChild).map (fun child =>
          (child.projectId.val, child.routes.map fun route => route.path.val)) =
        some (js "shop", [js "/cart", js "/cart"]) := by
    decide +kernel
  obtain ⟨shell, shellRead, shellId⟩ := Option.map_eq_some_iff.mp shellData
  obtain ⟨child, childRead, childFields⟩ := Option.map_eq_some_iff.mp childData
  obtain ⟨childId, childPaths⟩ := Prod.mk.inj childFields
  refine ⟨shell, child, shellRead, childRead, ?_, ?_⟩
  · have same : shell.projectId = child.projectId :=
      Subtype.val_injective (shellId.trans childId.symm)
    simp [same]
  · intro distinct
    have declared :
        (declaredRoutes [shell, child]).map (fun declared => declared.2.path) =
          shell.routes.map Route.path ++ child.routes.map Route.path := by
      simp [declaredRoutes, Function.comp_def]
    rw [declared] at distinct
    have ofChild := (distinct.sublist
      (List.sublist_append_right _ _)).map Subtype.val_injective
    rw [List.map_map, Function.comp_def, childPaths] at ofChild
    exact absurd ofChild (by decide)

end Selene.Federation
