import Selene.BoundedLoop
import Selene.JsText
import Selene.Rejection

/-!
# React source workspaces

The headless source-generation model: source files, node metadata and the
workspace that an agent proposes, the scanner for static import declarations,
the resolution of relative imports, and `validateReactSourceWorkspace`, which
collects diagnostics and rejects a workspace that has any.

The scanners of the source advance an index into a text; here they return what
is left of the text from that index on.
-/

namespace Selene.Generation

open Js

/-! ## Code units -/

/-- `/`. -/
def slash : CodeUnit := 0x2F

/-- `\`. -/
def backslash : CodeUnit := 0x5C

/-- `.`. -/
def dot : CodeUnit := 0x2E

/-- `*`. -/
def asterisk : CodeUnit := 0x2A

/-- `'`, `"` and the backquote. -/
def quotes : List CodeUnit := [0x27, 0x22, 0x60]

/-- The quotes a module specifier can stand in. -/
def specifierQuotes : List CodeUnit := [0x27, 0x22]

/-- A digit. -/
def isDigit (unit : CodeUnit) : Bool :=
  decide (48 ≤ unit.val ∧ unit.val ≤ 57)

/-- A lower-case letter. -/
def isLower (unit : CodeUnit) : Bool :=
  decide (97 ≤ unit.val ∧ unit.val ≤ 122)

/-- An upper-case letter. -/
def isUpper (unit : CodeUnit) : Bool :=
  decide (65 ≤ unit.val ∧ unit.val ≤ 90)

/-- `[A-Za-z0-9]`. -/
def isAlphanumeric (unit : CodeUnit) : Bool :=
  isUpper unit || isLower unit || isDigit unit

/-! ## Data model -/

inductive SourceLanguage where
  | css
  | json
  | ts
  | tsx
  deriving DecidableEq

structure SourceFile where
  path : JsString
  content : JsString
  language : SourceLanguage
  deriving DecidableEq

/-- Node metadata, as far as validation reads it. -/
structure NodeMetadata where
  nodeId : JsString
  path : JsString
  deriving DecidableEq

/-- A workspace, as far as validation reads it. -/
structure ReactSourceWorkspace where
  entrypoint : JsString
  files : List SourceFile
  dependencies : List JsString
  nodes : List NodeMetadata
  deriving DecidableEq

inductive DiagnosticCode where
  | dependencyNotAllowed
  | duplicateNodeId
  | invalidEntrypoint
  | invalidImport
  | invalidPath
  | missingImport
  | missingNodeMapping
  | missingSource
  | unsupportedFile
  deriving DecidableEq

structure SourceDiagnostic where
  code : DiagnosticCode
  message : JsString
  path : Option JsString
  deriving DecidableEq

/-! ## Paths -/

/-- `sourceExtensions`. -/
def sourceExtensions : List (JsString × SourceLanguage) :=
  [(js ".css", .css), (js ".json", .json), (js ".ts", .ts), (js ".tsx", .tsx)]

/-- `path.slice(path.lastIndexOf('.'))`; `slice(-1)` is the last unit. -/
def sliceFromLastDot (path : JsString) : JsString :=
  if dot ∈ path then
    dot :: (path.reverse.takeWhile fun unit => unit ≠ dot).reverse
  else
    path.drop (path.length - 1)

/-- The segments between slashes. -/
def segments (path : JsString) : List JsString :=
  path.splitOn slash

/-- Segments joined by slashes. -/
def joinSegments (parts : List JsString) : JsString :=
  [slash].intercalate parts

/-- Segments that a source path must not have. -/
def reservedSegments : List JsString :=
  [js "", js ".", js ".."]

/-- The paths that `normalizeSourcePath` refuses as invalid. -/
def IsInvalidPath (path : JsString) : Prop :=
  path.length = 0 ∨
    512 < path.length ∨
    0 ∈ path ∨
    path.head? = some slash ∨
    path.head? = some backslash ∨
    backslash ∈ path ∨
    ∃ segment ∈ segments path, segment ∈ reservedSegments

instance (path : JsString) : Decidable (IsInvalidPath path) := by
  unfold IsInvalidPath
  infer_instance

def normalizeSourcePath (path : JsString) :
    Except (List SourceDiagnostic) JsString :=
  if IsInvalidPath path then
    .error [⟨.invalidPath, js "Invalid source path: " ++ path, none⟩]
  else if (sourceExtensions.lookup (sliceFromLastDot path)).isNone then
    .error [⟨.unsupportedFile, js "Unsupported source file: " ++ path,
      some path⟩]
  else
    .ok path

def languageFor (path : JsString) :
    Except (List SourceDiagnostic) SourceLanguage :=
  match sourceExtensions.lookup (sliceFromLastDot path) with
  | some language => .ok language
  | none =>
      .error [⟨.unsupportedFile, js "Unsupported source file: " ++ path,
        some path⟩]

/-! ## Relative imports -/

/-- One part of a specifier: `parts.pop()` of an empty array does nothing. -/
def followPart (parts : List JsString) (part : JsString) : List JsString :=
  if part = js "." ∨ part = js "" then parts
  else if part = js ".." then parts.dropLast
  else parts ++ [part]

/-- `/\.[A-Za-z0-9]+$/`. -/
def hasExtension (path : JsString) : Bool :=
  !(path.reverse.takeWhile isAlphanumeric).isEmpty &&
    (path.reverse.dropWhile isAlphanumeric).head? = some dot

/-- The extensions tried for a specifier without one. -/
def guessedExtensions : List JsString :=
  [js ".tsx", js ".ts", js ".css", js ".json"]

/-- The files tried in the directory a specifier names. -/
def indexFiles : List JsString :=
  [js "index.tsx", js "index.ts"]

def resolveRelativeImport (origin specifier : JsString) : List JsString :=
  let parts := (segments specifier).foldl followPart (segments origin).dropLast
  let raw := joinSegments parts
  if hasExtension raw then
    [raw]
  else
    (guessedExtensions.map fun extension => raw ++ extension) ++
      indexFiles.map fun index => raw ++ slash :: index

/-! ## Scanning for static imports -/

def isIdentifierStart (value : CodeUnit) : Bool :=
  isUpper value || isLower value || value = 0x5F || value = 0x24

def isIdentifierPart (value : CodeUnit) : Bool :=
  isIdentifierStart value || isDigit value

def skipWhitespace (source : JsString) : JsString :=
  source.dropWhile fun unit => decide (unit.val ≤ 32)

/-- What follows the quoted text whose opening quote was just read. -/
def skipQuotedBody (quote : CodeUnit) : JsString → JsString
  | [] => []
  | value :: rest =>
      if value = backslash then
        match rest with
        | [] => []
        | _ :: later => skipQuotedBody quote later
      else if value = quote then rest
      else skipQuotedBody quote rest

def skipQuotedText : JsString → JsString
  | [] => []
  | quote :: rest => skipQuotedBody quote rest

/-- What a scan for a specifier returns: the text left and the specifier. -/
structure Scanned where
  next : JsString
  specifier : Option JsString
  deriving DecidableEq

/--
The quoted specifier whose opening quote was just read.  Escapes stay as they
are written; an unterminated text has no specifier.
-/
def readQuotedBody (quote : CodeUnit) : JsString → Scanned
  | [] => ⟨[], none⟩
  | value :: rest =>
      if value = backslash then
        match rest with
        | [] => ⟨[], none⟩
        | escaped :: later =>
            let scanned := readQuotedBody quote later
            ⟨scanned.next,
              scanned.specifier.map fun text => value :: escaped :: text⟩
      else if value = quote then ⟨rest, some []⟩
      else
        let scanned := readQuotedBody quote rest
        ⟨scanned.next, scanned.specifier.map fun text => value :: text⟩

def readQuotedSpecifier : JsString → Scanned
  | [] => ⟨[], none⟩
  | quote :: rest => readQuotedBody quote rest

/-- Whether a comment starts here. -/
def startsComment : JsString → Bool
  | first :: second :: _ =>
      first = slash && (second = slash || second = asterisk)
  | _ => false

/-- What follows the first `*/`. -/
def skipBlockComment : JsString → JsString
  | [] => []
  | value :: rest =>
      if value = asterisk ∧ rest.head? = some slash then rest.tail
      else skipBlockComment rest

def skipComment : JsString → JsString
  | first :: second :: rest =>
      if second = slash then
        rest.dropWhile fun unit => unit ≠ 0x0A && unit ≠ 0x0D
      else if second = asterisk then skipBlockComment rest
      else first :: second :: rest
  | source => source

/-- The rest of an identifier, and what follows it. -/
def identifierRest (source : JsString) : JsString × JsString :=
  (source.takeWhile isIdentifierPart, source.dropWhile isIdentifierPart)

/-- Whether the text starts with a quote a specifier can stand in. -/
def startsSpecifier : JsString → Bool
  | [] => false
  | unit :: _ => specifierQuotes.contains unit

/-- What `scanModuleSpecifier` does after an identifier. -/
def fromClause (word source : JsString) : JsString ⊕ Scanned :=
  if word = js "from" then
    let specifierStart := skipWhitespace source
    if startsSpecifier specifierStart then
      .inr (readQuotedSpecifier specifierStart)
    else
      .inl specifierStart
  else
    .inl source

/-- One turn of the loop of `scanModuleSpecifier`. -/
def moduleSpecifierTurn : JsString → JsString ⊕ Scanned
  | [] => .inr ⟨[], none⟩
  | value :: rest =>
      if value = 0x3B then
        .inr ⟨value :: rest, none⟩
      else if startsComment (value :: rest) then
        .inl (skipComment (value :: rest))
      else if quotes.contains value then
        .inl (skipQuotedText (value :: rest))
      else if isIdentifierStart value = false then
        .inl rest
      else
        fromClause (value :: (identifierRest rest).1) (identifierRest rest).2

/-! ### Progress of the scanners -/

theorem length_skipQuotedBody_le
    (quote : CodeUnit)
    (source : JsString) :
    (skipQuotedBody quote source).length ≤ source.length := by
  fun_induction skipQuotedBody quote source with
  | case1 => exact Nat.le_refl 0
  | case2 => exact Nat.zero_le _
  | case3 unit later inductionHypothesis =>
      exact Nat.le_succ_of_le (Nat.le_succ_of_le inductionHypothesis)
  | case4 rest notEscape => exact Nat.le_succ _
  | case5 value rest notEscape notQuote inductionHypothesis =>
      exact Nat.le_succ_of_le inductionHypothesis

theorem length_readQuotedBody_le
    (quote : CodeUnit)
    (source : JsString) :
    (readQuotedBody quote source).next.length ≤ source.length := by
  fun_induction readQuotedBody quote source with
  | case1 => exact Nat.le_refl 0
  | case2 => exact Nat.zero_le _
  | case3 unit later scanned inductionHypothesis =>
      exact Nat.le_succ_of_le (Nat.le_succ_of_le inductionHypothesis)
  | case4 rest notEscape => exact Nat.le_succ _
  | case5 value rest notEscape notQuote scanned inductionHypothesis =>
      exact Nat.le_succ_of_le inductionHypothesis

theorem length_skipBlockComment_le (source : JsString) :
    (skipBlockComment source).length ≤ source.length := by
  induction source with
  | nil => exact Nat.le_refl 0
  | cons value rest inductionHypothesis =>
      rw [skipBlockComment]
      split
      · simp only [List.length_tail, List.length_cons]
        omega
      · exact Nat.le_succ_of_le inductionHypothesis

theorem length_dropWhile_le
    (keep : CodeUnit → Bool)
    (source : JsString) :
    (source.dropWhile keep).length ≤ source.length :=
  (List.dropWhile_suffix keep).length_le

theorem length_skipComment_lt
    {source : JsString}
    (comment : startsComment source = true) :
    (skipComment source).length < source.length := by
  match source with
  | [] => cases comment
  | [unit] => cases comment
  | first :: second :: rest =>
      simp only [startsComment, Bool.and_eq_true, Bool.or_eq_true,
        decide_eq_true_eq] at comment
      rw [skipComment]
      have line := length_dropWhile_le
        (fun unit => unit ≠ 0x0A && unit ≠ 0x0D) rest
      have block := length_skipBlockComment_le rest
      split
      · simp only [List.length_cons]
        omega
      · rw [if_pos (comment.2.resolve_left ‹_›)]
        simp only [List.length_cons]
        omega

theorem length_skipWhitespace_le (source : JsString) :
    (skipWhitespace source).length ≤ source.length :=
  length_dropWhile_le _ source

theorem length_readQuotedSpecifier_le (source : JsString) :
    (readQuotedSpecifier source).next.length ≤ source.length := by
  cases source with
  | nil => exact Nat.le_refl 0
  | cons quote rest =>
      exact Nat.le_succ_of_le (length_readQuotedBody_le quote rest)

theorem length_identifierRest_le (source : JsString) :
    (identifierRest source).2.length ≤ source.length :=
  length_dropWhile_le isIdentifierPart source

theorem fromClause_cases
    (word source : JsString) :
    (∃ next, fromClause word source = .inl next ∧
        next.length ≤ source.length) ∨
      ∃ scanned, fromClause word source = .inr scanned ∧
        scanned.next.length ≤ source.length := by
  have spaces := length_skipWhitespace_le source
  unfold fromClause
  by_cases isFrom : word = js "from"
  · rw [if_pos isFrom]
    by_cases quoted : startsSpecifier (skipWhitespace source) = true
    · exact .inr ⟨_, if_pos quoted,
        (length_readQuotedSpecifier_le _).trans spaces⟩
    · exact .inl ⟨_, if_neg quoted, spaces⟩
  · exact .inl ⟨source, if_neg isFrom, Nat.le_refl _⟩

theorem moduleSpecifierTurn_decreases
    (source next : JsString)
    (continues : moduleSpecifierTurn source = .inl next) :
    next.length < source.length := by
  cases source with
  | nil => cases continues
  | cons value rest =>
      rw [moduleSpecifierTurn] at continues
      have word := length_identifierRest_le rest
      split at continues
      · cases continues
      · split at continues
        · cases continues
          exact length_skipComment_lt ‹_›
        · split at continues
          · cases continues
            exact Nat.lt_succ_of_le (length_skipQuotedBody_le value rest)
          · split at continues
            · cases continues
              exact Nat.lt_succ_self _
            · rcases fromClause_cases (value :: (identifierRest rest).1)
                  (identifierRest rest).2 with
                ⟨found, taken, bound⟩ | ⟨scanned, taken, _⟩
              · cases taken.symm.trans continues
                exact Nat.lt_succ_of_le (bound.trans word)
              · cases taken.symm.trans continues

theorem moduleSpecifierTurn_stops
    {source : JsString}
    {scanned : Scanned}
    (stops : moduleSpecifierTurn source = .inr scanned) :
    scanned.next.length ≤ source.length := by
  cases source with
  | nil =>
      cases stops
      exact Nat.le_refl 0
  | cons value rest =>
      rw [moduleSpecifierTurn] at stops
      have word := length_identifierRest_le rest
      split at stops
      · cases stops
        exact Nat.le_refl _
      · split at stops
        · cases stops
        · split at stops
          · cases stops
          · split at stops
            · cases stops
            · rcases fromClause_cases (value :: (identifierRest rest).1)
                  (identifierRest rest).2 with
                ⟨next, taken, _⟩ | ⟨found, taken, bound⟩
              · cases taken.symm.trans stops
              · cases taken.symm.trans stops
                exact Nat.le_succ_of_le (bound.trans word)

/-- The loop of `scanModuleSpecifier`. -/
def moduleSpecifierLoop : Loop JsString Scanned where
  turn := moduleSpecifierTurn
  measure := List.length
  decreases := moduleSpecifierTurn_decreases

def scanModuleSpecifier (source : JsString) (allowsDirectSpecifier : Bool) :
    Scanned :=
  let source := skipWhitespace source
  if allowsDirectSpecifier && startsSpecifier source then
    readQuotedSpecifier source
  else if allowsDirectSpecifier && source.head? = some 0x28 then
    ⟨source.tail, none⟩
  else
    moduleSpecifierLoop.run source

theorem length_scanModuleSpecifier_le
    (source : JsString)
    (allowsDirectSpecifier : Bool) :
    (scanModuleSpecifier source allowsDirectSpecifier).next.length ≤
      source.length := by
  have spaces := length_skipWhitespace_le source
  simp only [scanModuleSpecifier]
  split
  · exact (length_readQuotedSpecifier_le _).trans spaces
  · split
    · simp only [List.length_tail]
      omega
    · refine le_trans ?_ spaces
      exact Loop.run_rule
        (fun rest : JsString =>
          rest.length ≤ (skipWhitespace source).length)
        (fun scanned : Scanned =>
          scanned.next.length ≤ (skipWhitespace source).length)
        (fun rest next bound continues =>
          (moduleSpecifierTurn_decreases rest next continues).le.trans bound)
        (fun rest scanned bound stops =>
          (moduleSpecifierTurn_stops stops).trans bound)
        (Nat.le_refl _)

/-- The specifiers found so far and the text still to be scanned. -/
abbrev ImportScan := List JsString × JsString

/-- One turn of the loop of `importedSpecifiers`. -/
def importedSpecifiersTurn : ImportScan → ImportScan ⊕ List JsString
  | (values, []) => .inr values
  | (values, value :: rest) =>
      if startsComment (value :: rest) then
        .inl (values, skipComment (value :: rest))
      else if quotes.contains value then
        .inl (values, skipQuotedText (value :: rest))
      else if isIdentifierStart value = false then
        .inl (values, rest)
      else
        let word := identifierRest rest
        let keyword := value :: word.1
        if keyword = js "import" ∨ keyword = js "export" then
          let scanned := scanModuleSpecifier word.2 (keyword = js "import")
          .inl (values ++ scanned.specifier.toList, scanned.next)
        else
          .inl (values, word.2)

theorem importedSpecifiersTurn_decreases
    (state next : ImportScan)
    (continues : importedSpecifiersTurn state = .inl next) :
    next.2.length < state.2.length := by
  obtain ⟨values, source⟩ := state
  cases source with
  | nil => cases continues
  | cons value rest =>
      rw [importedSpecifiersTurn] at continues
      have word := length_identifierRest_le rest
      split at continues
      · cases continues
        exact length_skipComment_lt ‹_›
      · split at continues
        · cases continues
          exact Nat.lt_succ_of_le (length_skipQuotedBody_le value rest)
        · split at continues
          · cases continues
            exact Nat.lt_succ_self _
          · simp only at continues
            split at continues
            · cases continues
              exact Nat.lt_succ_of_le
                ((length_scanModuleSpecifier_le _ _).trans word)
            · cases continues
              exact Nat.lt_succ_of_le word

/-- The loop of `importedSpecifiers`. -/
def importedSpecifiersLoop : Loop ImportScan (List JsString) where
  turn := importedSpecifiersTurn
  measure := fun state => state.2.length
  decreases := importedSpecifiersTurn_decreases

def importedSpecifiers (source : SourceFile) : List JsString :=
  importedSpecifiersLoop.run ([], source.content)

/-! ## Validation -/

/-- `[._-]`, allowed in package names beside letters and digits. -/
def isPackagePunctuation (unit : CodeUnit) : Bool :=
  unit = dot || unit = 0x5F || unit = 0x2D

/-- `[a-z0-9][a-z0-9._-]*`. -/
def isPackageName : JsString → Bool
  | [] => false
  | first :: rest =>
      (isLower first || isDigit first) &&
        rest.all fun unit =>
          isLower unit || isDigit unit || isPackagePunctuation unit

/-- `[A-Za-z0-9._-]+`. -/
def isPackageSubpath (part : JsString) : Bool :=
  !part.isEmpty &&
    part.all fun unit => isAlphanumeric unit || isPackagePunctuation unit

/--
`governedBareDependency`: an optional scope, a package name and subpaths,
between slashes.
-/
def governedBareDependency (dependency : JsString) : Bool :=
  match segments dependency with
  | [] => false
  | first :: rest =>
      if first.head? = some 0x40 then
        match rest with
        | [] => false
        | name :: subpaths =>
            isPackageName first.tail && isPackageName name &&
              subpaths.all isPackageSubpath
      else
        isPackageName first && rest.all isPackageSubpath

/-- Host policy entries that make the policy invalid. -/
def isInvalidPolicyDependency (dependency : JsString) : Bool :=
  !governedBareDependency dependency ||
    decide (js "/./" <:+: dependency) || decide (js "/../" <:+: dependency)

/-- `allowedBareDependencies`. -/
def allowedBareDependencies : List JsString :=
  [js "react", js "react-dom", js "react-dom/client"]

/-- `nodeIdPattern`. -/
def nodeIdPattern : JsString → Bool
  | [] => false
  | first :: rest =>
      isAlphanumeric first && decide (rest.length ≤ 127) &&
        rest.all fun unit =>
          isAlphanumeric unit || isPackagePunctuation unit || unit = 0x3A

/-- Diagnostics of the host policy. -/
def policyDiagnostics (policyDependencies : List JsString) :
    List SourceDiagnostic :=
  if policyDependencies.any isInvalidPolicyDependency then
    [⟨.dependencyNotAllowed, js "Host dependency policy is invalid", none⟩]
  else
    []

/-- Diagnostics of the path and language of a file. -/
def pathDiagnostics (file : SourceFile) : List SourceDiagnostic :=
  match normalizeSourcePath file.path with
  | .error diagnostics => diagnostics
  | .ok path =>
      (if path ≠ file.path then
        [⟨.invalidPath, js "Path must be normalized", some file.path⟩]
      else
        []) ++
        match languageFor file.path with
        | .error diagnostics => diagnostics
        | .ok language =>
            if language ≠ file.language then
              [⟨.unsupportedFile,
                js "File language does not match its extension",
                some file.path⟩]
            else
              []

/-- Diagnostics of one file, after files with the given paths. -/
def fileDiagnostics (paths : List JsString) (file : SourceFile) :
    List SourceDiagnostic :=
  pathDiagnostics file ++
    (if file.path ∈ paths then
      [⟨.invalidPath, js "Duplicate source path: " ++ file.path,
        some file.path⟩]
    else
      []) ++
    (if 1000000 < file.content.length then
      [⟨.invalidPath, js "Source file exceeds 1 MB: " ++ file.path,
        some file.path⟩]
    else
      [])

/-- Diagnostics of the files, collecting their paths. -/
def filesDiagnostics : List JsString → List SourceFile → List SourceDiagnostic
  | _, [] => []
  | paths, file :: rest =>
      fileDiagnostics paths file ++ filesDiagnostics (file.path :: paths) rest

/-- Diagnostics of one import of a file. -/
def importDiagnostics
    (workspace : ReactSourceWorkspace)
    (paths : List JsString)
    (file : SourceFile)
    (specifier : JsString) :
    List SourceDiagnostic :=
  if specifier.head? = some dot then
    if (resolveRelativeImport file.path specifier).any
        fun candidate => candidate ∈ paths then
      []
    else
      [⟨.missingImport,
        js "Cannot resolve " ++ specifier ++ js " from " ++ file.path,
        some file.path⟩]
  else if specifier ∈ workspace.dependencies then
    []
  else
    [⟨.invalidImport, js "Import is not a declared dependency: " ++ specifier,
      some file.path⟩]

/-- Diagnostics of the nodes, collecting their ids. -/
def nodesDiagnostics (paths : List JsString) :
    List JsString → List NodeMetadata → List SourceDiagnostic
  | _, [] => []
  | seen, node :: rest =>
      (if nodeIdPattern node.nodeId = false ∨ node.path ∉ paths then
        [⟨.invalidPath, js "Invalid node metadata: " ++ node.nodeId,
          some node.path⟩]
      else
        []) ++
      (if node.nodeId ∈ seen then
        [⟨.duplicateNodeId, js "Duplicate stable node ID: " ++ node.nodeId,
          some node.path⟩]
      else
        []) ++
      nodesDiagnostics paths (node.nodeId :: seen) rest

/-- The diagnostics of a workspace, in the order they are found. -/
def workspaceDiagnostics
    (workspace : ReactSourceWorkspace)
    (policyDependencies : List JsString) :
    List SourceDiagnostic :=
  let paths := workspace.files.map SourceFile.path
  let allowedDependencies :=
    allowedBareDependencies ++ policyDependencies.filter governedBareDependency
  policyDiagnostics policyDependencies ++
    filesDiagnostics [] workspace.files ++
    (if workspace.entrypoint ∈ paths then
      []
    else
      [⟨.invalidEntrypoint,
        js "Entrypoint does not exist: " ++ workspace.entrypoint,
        some workspace.entrypoint⟩]) ++
    (workspace.dependencies.flatMap fun dependency =>
      if dependency ∈ allowedDependencies then
        []
      else
        [⟨.dependencyNotAllowed,
          js "Dependency is not allowlisted: " ++ dependency, none⟩]) ++
    (workspace.files.flatMap fun file =>
      (importedSpecifiers file).flatMap
        (importDiagnostics workspace paths file)) ++
    nodesDiagnostics paths [] workspace.nodes

/-- Validation against the dependencies a host allows, by default none. -/
def validateReactSourceWorkspace
    (workspace : ReactSourceWorkspace)
    (policyDependencies : List JsString) :
    Except (List SourceDiagnostic) Unit :=
  check (workspaceDiagnostics workspace policyDependencies = [])
    (workspaceDiagnostics workspace policyDependencies)

end Selene.Generation
