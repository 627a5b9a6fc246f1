import Selene.PosixPath
import Selene.SourceWorkspace

/-!
# Relative imports and the workspace root

A relative specifier is a POSIX path from the directory of the importing file.
`resolveRelativeImport` follows the same path but forgets how far it has gone
above the root (`foldl_followPart`), so a workspace is accepted although one of
its files reaches out of it.  An accepted import resolves inside the workspace
exactly when its `..` segments are covered by the directories on the way.
-/

namespace Selene.Generation

open Js

/-! ## Where a specifier leads -/

/-- The component of a path that a segment stands for. -/
def moveOf (segment : JsString) : Posix.Move JsString :=
  if segment = js "." ∨ segment = js "" then .stay
  else if segment = js ".." then .up
  else .down segment

/-- The components of a specifier. -/
def moves (specifier : JsString) : List (Posix.Move JsString) :=
  (segments specifier).map moveOf

/-- The directories above a file, from the root of the workspace. -/
def directories (path : JsString) : List JsString :=
  (segments path).dropLast

/-- Where a specifier leads from the directory of a file. -/
def destination (path specifier : JsString) : Posix.Location JsString :=
  Posix.walk ⟨0, directories path⟩ (moves specifier)

/-- A file of the workspace lies at this place below the root. -/
def HasFileAt
    (workspace : ReactSourceWorkspace)
    (names : List JsString) :
    Prop :=
  ∃ file ∈ workspace.files, segments file.path = names

instance
    (workspace : ReactSourceWorkspace)
    (names : List JsString) :
    Decidable (HasFileAt workspace names) :=
  inferInstanceAs (Decidable (∃ _ ∈ _, _))

/--
The places at which a path is looked up: itself if it has an extension, else
with a guessed extension, or as a directory with an index file.  The root
directory has no name to extend.
-/
def candidateLocations (names : List JsString) : List (List JsString) :=
  match names.getLast? with
  | none => indexFiles.map fun index => [index]
  | some last =>
      if hasExtension last then
        [names]
      else
        (guessedExtensions.map fun extension =>
          names.dropLast ++ [last ++ extension]) ++
        indexFiles.map fun index => names ++ [index]

/--
The specifier never climbs above the workspace root, and the path it resolves
to is a file of the workspace.
-/
def ResolvesInside
    (workspace : ReactSourceWorkspace)
    (path specifier : JsString) :
    Prop :=
  Posix.NeverAbove ⟨0, directories path⟩ (moves specifier) ∧
    ∃ names ∈ candidateLocations (destination path specifier).names,
      HasFileAt workspace names

/--
In every initial part of the specifier the `..` segments are at most the
directories above the file and the names entered; and a specifier that uses
all of them up, which names the root directory, finds an index file there.
-/
def IsCoveredImport
    (workspace : ReactSourceWorkspace)
    (path specifier : JsString) :
    Prop :=
  Posix.Covered (directories path).length (moves specifier) ∧
    (Posix.upsIn (moves specifier) =
        (directories path).length + Posix.downsIn (moves specifier) →
      ∃ index ∈ indexFiles, HasFileAt workspace [index])

instance
    (workspace : ReactSourceWorkspace)
    (path specifier : JsString) :
    Decidable (ResolvesInside workspace path specifier) :=
  inferInstanceAs (Decidable (_ ∧ _))

instance
    (workspace : ReactSourceWorkspace)
    (path specifier : JsString) :
    Decidable (IsCoveredImport workspace path specifier) :=
  inferInstanceAs (Decidable (_ ∧ _))

/-- The parts of the source are the names passed; the levels are forgotten. -/
theorem foldl_followPart
    (parts : List JsString)
    (start : Posix.Location JsString) :
    parts.foldl followPart start.names =
      (Posix.walk start (parts.map moveOf)).names := by
  induction parts generalizing start with
  | nil => rfl
  | cons part rest inductionHypothesis =>
      have step :
          followPart start.names part = (start.move (moveOf part)).names := by
        unfold followPart moveOf
        by_cases stays : part = js "." ∨ part = js ""
        · rw [if_pos stays, if_pos stays]
          rfl
        · rw [if_neg stays, if_neg stays]
          by_cases climbs : part = js ".."
          · rw [if_pos climbs, if_pos climbs]
            obtain ⟨above, names⟩ := start
            cases names <;> rfl
          · rw [if_neg climbs, if_neg climbs]
            rfl
      rw [List.foldl_cons, step, inductionHypothesis, List.map_cons,
        Posix.walk_cons]

/-! ## Segments and their text -/

theorem slash_not_mem_segments
    {path segment : JsString}
    (member : segment ∈ segments path) :
    slash ∉ segment := by
  unfold segments at member
  induction path generalizing segment with
  | nil =>
      simp only [List.splitOn_nil, List.mem_singleton] at member
      simp [member]
  | cons unit rest inductionHypothesis =>
      rw [List.splitOn_cons_eq_if_modifyHead] at member
      split at member
      · rcases List.mem_cons.mp member with rfl | later
        · simp
        · exact inductionHypothesis later
      · rename_i different
        cases parts : rest.splitOn slash with
        | nil => exact absurd parts (List.splitOn_ne_nil _ _)
        | cons first others =>
            rw [parts, List.modifyHead_cons] at member
            rcases List.mem_cons.mp member with rfl | later
            · have inFirst : slash ∉ first :=
                inductionHypothesis (by rw [parts]; simp)
              simp only [List.mem_cons, not_or]
              exact ⟨fun same => different (by simp [same]), inFirst⟩
            · exact inductionHypothesis (by rw [parts]; simp [later])

/-- Names that `joinSegments` keeps apart. -/
def AreNames (names : List JsString) : Prop :=
  ∀ name ∈ names, slash ∉ name

variable {names : List JsString}

theorem segments_joinSegments
    (areNames : AreNames names)
    (nonempty : names ≠ []) :
    segments (joinSegments names) = names :=
  List.splitOn_intercalate slash areNames nonempty

theorem joinSegments_concat
    (nonempty : names ≠ [])
    (last : JsString) :
    joinSegments (names ++ [last]) =
      joinSegments names ++ slash :: last := by
  induction names with
  | nil => exact absurd rfl nonempty
  | cons name rest inductionHypothesis =>
      cases rest with
      | nil => simp [joinSegments, List.intercalate]
      | cons next others =>
          have tail := inductionHypothesis (List.cons_ne_nil next others)
          simp only [joinSegments, List.cons_append,
            List.intercalate_cons_cons] at tail ⊢
          rw [tail]
          simp [List.append_assoc]

theorem joinSegments_extend
    (names : List JsString)
    (last extension : JsString) :
    joinSegments (names ++ [last ++ extension]) =
      joinSegments (names ++ [last]) ++ extension := by
  by_cases nonempty : names = []
  · simp [nonempty, joinSegments]
  · rw [joinSegments_concat nonempty, joinSegments_concat nonempty]
    simp

theorem hasExtension_append_slash
    (directory last : JsString) :
    hasExtension (directory ++ slash :: last) = hasExtension last := by
  have stops : isAlphanumeric slash = false := by decide
  have reversed :
      (directory ++ slash :: last).reverse =
        last.reverse ++ slash :: directory.reverse := by
    simp
  unfold hasExtension
  rw [reversed]
  cases left : last.reverse.dropWhile isAlphanumeric with
  | nil =>
      -- The run of letters and digits ends at the slash, which is no dot.
      have whole : last.reverse.takeWhile isAlphanumeric = last.reverse := by
        simpa [left] using
          List.takeWhile_append_dropWhile (p := isAlphanumeric)
            (l := last.reverse)
      have notDot : slash ≠ dot := by decide
      rw [List.takeWhile_append, List.dropWhile_append, left, whole]
      simp [stops, notDot]
  | cons unit rest =>
      have shorter :
          (last.reverse.takeWhile isAlphanumeric).length ≠
            last.reverse.length := by
        have whole := congrArg List.length
          (List.takeWhile_append_dropWhile (p := isAlphanumeric)
            (l := last.reverse))
        rw [left, List.length_append, List.length_cons] at whole
        omega
      rw [List.takeWhile_append, List.dropWhile_append, left,
        if_neg shorter]
      simp

/-! ## Candidates of the source and places -/

variable {specifier : JsString}

/-- The texts the source tries are the texts of the candidate places. -/
theorem resolveRelativeImport_eq
    {path : JsString}
    (nonempty : (destination path specifier).names ≠ []) :
    resolveRelativeImport path specifier =
      (candidateLocations (destination path specifier).names).map
        joinSegments := by
  have parts :
      (segments specifier).foldl followPart (segments path).dropLast =
        (destination path specifier).names :=
    foldl_followPart (segments specifier) ⟨0, directories path⟩
  unfold resolveRelativeImport
  rw [parts]
  generalize (destination path specifier).names = names at nonempty ⊢
  obtain ⟨init, last, rfl⟩ : ∃ init last, names = init ++ [last] :=
    ⟨names.dropLast, names.getLast nonempty,
      (List.dropLast_append_getLast nonempty).symm⟩
  have extension :
      hasExtension (joinSegments (init ++ [last])) = hasExtension last := by
    by_cases inRoot : init = []
    · simp [inRoot, joinSegments]
    · rw [joinSegments_concat inRoot, hasExtension_append_slash]
  unfold candidateLocations
  simp only [List.getLast?_append, List.getLast?_singleton, Option.some_or,
    extension]
  by_cases complete : hasExtension last = true
  · simp [complete]
  · simp only [complete, Bool.false_eq_true, ↓reduceIte, List.map_append,
      List.map_map, List.dropLast_concat]
    congr 1
    · exact List.map_congr_left fun guess _ =>
        (joinSegments_extend init last guess).symm
    · exact List.map_congr_left fun index _ =>
        (joinSegments_concat (by simp) index).symm

theorem candidateLocations_areNames
    {candidate : List JsString}
    (areNames : AreNames names)
    (member : candidate ∈ candidateLocations names) :
    AreNames candidate ∧ candidate ≠ [] := by
  have plainIndex : ∀ index ∈ indexFiles, slash ∉ index := by
    simp only [indexFiles, List.mem_cons, List.not_mem_nil, or_false]
    rintro index (rfl | rfl) <;> decide +kernel
  have plainExtension :
      ∀ extension ∈ guessedExtensions, slash ∉ extension := by
    simp only [guessedExtensions, List.mem_cons, List.not_mem_nil, or_false]
    rintro extension (rfl | rfl | rfl | rfl) <;> decide +kernel
  unfold candidateLocations at member
  cases last : names.getLast? with
  | none =>
      simp only [last] at member
      obtain ⟨index, isIndex, rfl⟩ := List.mem_map.mp member
      exact ⟨by simpa [AreNames] using plainIndex index isIndex, by simp⟩
  | some name =>
      simp only [last] at member
      have plainName : slash ∉ name :=
        areNames name (List.mem_of_getLast? last)
      split at member
      · rw [List.mem_singleton.mp member]
        exact ⟨areNames, by rintro rfl; cases last⟩
      · rcases List.mem_append.mp member with extended | inside
        · obtain ⟨extension, isExtension, rfl⟩ := List.mem_map.mp extended
          refine ⟨?_, by simp⟩
          intro other otherMember
          rcases List.mem_append.mp otherMember with before | same
          · exact areNames other (List.mem_of_mem_dropLast before)
          · rw [List.mem_singleton.mp same, List.mem_append]
            exact not_or.mpr
              ⟨plainName, plainExtension extension isExtension⟩
        · obtain ⟨index, isIndex, rfl⟩ := List.mem_map.mp inside
          refine ⟨?_, by simp⟩
          intro other otherMember
          rcases List.mem_append.mp otherMember with before | same
          · exact areNames other before
          · rw [List.mem_singleton.mp same]
            exact plainIndex index isIndex

theorem destination_areNames
    (path specifier : JsString) :
    AreNames (destination path specifier).names := by
  apply Posix.forall_names_walk
  · intro name member
    exact slash_not_mem_segments (List.mem_of_mem_dropLast member)
  · intro name entered
    obtain ⟨segment, isSegment, isMove⟩ := List.mem_map.mp entered
    unfold moveOf at isMove
    split at isMove
    · cases isMove
    · split at isMove
      · cases isMove
      · cases isMove
        exact slash_not_mem_segments isSegment

/-! ## What validation guarantees -/

variable {workspace : ReactSourceWorkspace} {policy : List JsString}
   {file : SourceFile}

section

variable (accepted : validateReactSourceWorkspace workspace policy = .ok ())
  (member : file ∈ workspace.files)
  (imported : specifier ∈ importedSpecifiers file)

include accepted member imported

theorem importDiagnostics_of_accepted :
    importDiagnostics workspace (workspace.files.map SourceFile.path)
      file specifier = [] := by
  have none := check_eq_ok.mp accepted
  simp only [workspaceDiagnostics, List.append_eq_nil_iff,
    List.flatMap_eq_nil_iff] at none
  obtain ⟨⟨_, imports⟩, _⟩ := none
  exact imports file member specifier imported

theorem resolved_of_accepted
    (relative : specifier.head? = some dot) :
    ∃ candidate ∈ resolveRelativeImport file.path specifier,
      ∃ found ∈ workspace.files, found.path = candidate := by
  have none := importDiagnostics_of_accepted accepted member imported
  rw [importDiagnostics, if_pos relative] at none
  split at none
  · rename_i found
    obtain ⟨candidate, isCandidate, isPath⟩ := List.any_eq_true.mp found
    have inPaths := of_decide_eq_true isPath
    obtain ⟨target, isFile, samePath⟩ := List.mem_map.mp inPaths
    exact ⟨candidate, isCandidate, target, isFile, samePath⟩
  · cases none

theorem hasFileAt_of_accepted
    (relative : specifier.head? = some dot)
    (belowRoot : (destination file.path specifier).names ≠ []) :
    ∃ names ∈ candidateLocations (destination file.path specifier).names,
      HasFileAt workspace names := by
  obtain ⟨candidate, isCandidate, target, isFile, samePath⟩ :=
    resolved_of_accepted accepted member imported relative
  rw [resolveRelativeImport_eq belowRoot] at isCandidate
  obtain ⟨names, isPlace, rfl⟩ := List.mem_map.mp isCandidate
  obtain ⟨areNames, nonempty⟩ :=
    candidateLocations_areNames (destination_areNames _ _) isPlace
  refine ⟨names, isPlace, target, isFile, ?_⟩
  rw [samePath, segments_joinSegments areNames nonempty]

end

/--
A relative import of an accepted workspace resolves inside it exactly when its
`..` segments are covered and, should it name the root, there is an index file.
-/
theorem resolvesInside_iff
    {workspace : ReactSourceWorkspace}
    {policy : List JsString}
    (accepted : validateReactSourceWorkspace workspace policy = .ok ())
    {file : SourceFile}
    (member : file ∈ workspace.files)
    {specifier : JsString}
    (imported : specifier ∈ importedSpecifiers file)
    (relative : specifier.head? = some dot) :
    ResolvesInside workspace file.path specifier ↔
      IsCoveredImport workspace file.path specifier := by
  unfold ResolvesInside IsCoveredImport
  rw [Posix.neverAbove_iff_covered]
  refine and_congr_right fun covered => ?_
  have balance := Posix.length_walk
    ((Posix.neverAbove_iff_covered _ _).mpr covered)
  have atRoot :
      Posix.upsIn (moves specifier) =
          (directories file.path).length + Posix.downsIn (moves specifier) ↔
        (destination file.path specifier).names = [] := by
    rw [← List.length_eq_zero_iff]
    unfold destination
    omega
  rw [atRoot]
  constructor
  · rintro ⟨names, isPlace, found⟩ isRoot
    rw [isRoot] at isPlace
    obtain ⟨index, isIndex, rfl⟩ := List.mem_map.mp isPlace
    exact ⟨index, isIndex, found⟩
  · intro rootIndex
    by_cases isRoot : (destination file.path specifier).names = []
    · obtain ⟨index, isIndex, found⟩ := rootIndex isRoot
      refine ⟨[index], ?_, found⟩
      rw [isRoot]
      exact List.mem_map.mpr ⟨index, isIndex, rfl⟩
    · exact hasFileAt_of_accepted accepted member imported relative isRoot

/-! ## An import that leaves the workspace -/

/-- A workspace of two files in its root directory. -/
def twoFiles (content : JsString) : ReactSourceWorkspace where
  entrypoint := js "App.tsx"
  files := [⟨js "App.tsx", content, .tsx⟩, ⟨js "theme.ts", [], .ts⟩]
  dependencies := []
  nodes := []

/-- The entry file imports its neighbour. -/
def neighbourImport : ReactSourceWorkspace :=
  twoFiles (js "import './theme';")

/-- The entry file imports a file beside the workspace. -/
def climbingImport : ReactSourceWorkspace :=
  twoFiles (js "import '../theme';")

theorem resolvesInside_iff_neighbour :
    ResolvesInside neighbourImport (js "App.tsx") (js "./theme") ↔
      IsCoveredImport neighbourImport (js "App.tsx") (js "./theme") :=
  @resolvesInside_iff neighbourImport []
    (by decide +kernel)
    ⟨js "App.tsx", js "import './theme';", .tsx⟩
    (by simp [neighbourImport, twoFiles])
    (js "./theme") (by decide +kernel) (by decide +kernel)

/-- A workspace is accepted although its import climbs above the root. -/
theorem climbing_import_accepted :
    ¬ ∀ (workspace : ReactSourceWorkspace) (policy : List JsString),
      validateReactSourceWorkspace workspace policy = .ok () →
        ∀ file ∈ workspace.files, ∀ specifier ∈ importedSpecifiers file,
          specifier.head? = some dot →
            ResolvesInside workspace file.path specifier := by
  intro claimed
  have inside := claimed climbingImport [] (by decide +kernel)
    ⟨js "App.tsx", js "import '../theme';", .tsx⟩
    (by simp [climbingImport, twoFiles])
    (js "../theme") (by decide +kernel) (by decide +kernel)
  exact absurd inside (by decide +kernel)

end Selene.Generation
