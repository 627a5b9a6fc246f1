import Selene.SemanticVersion
import Selene.SemverPrecedence
import Selene.UnifiedDiff

/-!
# Comparators and the precedence of versions

`satisfiesSemver` reads the numbers of a version as doubles and compares
prereleases as texts.  All comparators with one version agree with precedence
exactly when numbers that differ are told apart, or what follows them happens to
be ordered alike, and when the first identifiers that differ are ordered as texts
as they are in precedence (`comparators_agree_iff`).
-/

namespace Selene.Extension

open Js Generation Diff

/-! ## The text of a version -/

theorem isPrerelease_of_versionTail
    {rest prerelease : JsString}
    (tail : versionTail rest = some (some prerelease)) :
    isPrerelease prerelease = true := by
  unfold versionTail at tail
  split at tail
  · cases tail
  · split at tail
    · dsimp only at tail
      split at tail
      · rename_i valid
        cases tail
        exact (Bool.and_eq_true _ _ ▸ valid).1
      · cases tail
    · split at tail
      · cases tail
      · cases tail

/-- The groups of `versionPattern` in a text that matches it. -/
structure VersionText where
  major : JsString
  minor : JsString
  patch : JsString
  prerelease : Option JsString
  isMajor : isVersionNumber major = true
  isMinor : isVersionNumber minor = true
  isPatch : isVersionNumber patch = true
  isTag : ∀ text ∈ prerelease, isPrerelease text = true

def readVersionText (text : JsString) : Option VersionText :=
  let parts := splitBefore (fun unit => unit = hyphen || unit = plus) text
  match parts.1.splitOn dot with
  | [major, minor, patch] =>
      if numbers : isVersionNumber major = true ∧ isVersionNumber minor = true ∧
          isVersionNumber patch = true then
        match tail : versionTail parts.2 with
        | none => none
        | some prerelease => some
            { major, minor, patch, prerelease
              isMajor := numbers.1
              isMinor := numbers.2.1
              isPatch := numbers.2.2
              isTag := by
                rintro text isText
                rw [Option.mem_def.mp isText] at tail
                exact isPrerelease_of_versionTail tail }
      else none
  | _ => none

namespace VersionText

/-- The version as it is compared by the code. -/
def semver (format : NumberFormat) (version : VersionText) : Semver :=
  ⟨format.read version.major, format.read version.minor,
    format.read version.patch, version.prerelease⟩

end VersionText

theorem matchVersion_eq
    (format : NumberFormat)
    (text : JsString) :
    matchVersion format text =
      (readVersionText text).map (·.semver format) := by
  rw [matchVersion, readVersionText]
  generalize List.splitOn dot (splitBefore
    (fun unit => unit = hyphen || unit = plus) text).1 = numbers
  match numbers with
  | [] => rfl
  | [_] => rfl
  | [_, _] => rfl
  | _ :: _ :: _ :: _ :: _ => rfl
  | [major, minor, patch] =>
      simp only [Bool.and_eq_true, and_assoc]
      split
      · split
        · rename_i tail
          exact congrArg (Option.map _) tail
        · rename_i tail
          exact congrArg (Option.map _) tail
      · rfl

/-- A text in the limits of the code that is a version. -/
def versionText (value : JsValue) : Option VersionText :=
  (boundedText value).bind readVersionText

theorem parseVersion_eq
    (format : NumberFormat)
    (value : JsValue) :
    parseVersion format value =
      (versionText value).map (·.semver format) := by
  rw [parseVersion, versionText]
  cases boundedText value with
  | none => rfl
  | some text => exact matchVersion_eq format text

/-! ## What precedence compares -/

/-- Identifiers of digits only are numbers. -/
def identifierOf (text : JsString) : Semantic.Identifier JsString :=
  if text.all isDigit then .numeric (digitsValue text) else .alphanumeric text

/-- The version that a text denotes. -/
def VersionText.version (version : VersionText) : Semantic.Version JsString :=
  ⟨digitsValue version.major, digitsValue version.minor,
    digitsValue version.patch,
    version.prerelease.map fun text => (text.splitOn dot).map identifierOf⟩

/-- Whether a comparator holds under precedence. -/
def IsWithin (operator : RangeOperator)
    (version wanted : Semantic.Version JsString) : Prop :=
  match operator with
  | .caret => version.precedence compareText wanted ≠ .lt ∧
      version.precedence compareText wanted.caretBound = .lt
  | .tilde => version.precedence compareText wanted ≠ .lt ∧
      version.precedence compareText wanted.tildeBound = .lt
  | .atLeast => version.precedence compareText wanted ≠ .lt
  | .atMost => version.precedence compareText wanted ≠ .gt
  | .above => version.precedence compareText wanted = .gt
  | .below => version.precedence compareText wanted = .lt
  | .exact => version.precedence compareText wanted = .eq

instance (operator : RangeOperator)
    (version wanted : Semantic.Version JsString) :
    Decidable (IsWithin operator version wanted) :=
  match operator with
  | .caret => inferInstanceAs (Decidable (_ ∧ _))
  | .tilde => inferInstanceAs (Decidable (_ ∧ _))
  | .atLeast => inferInstanceAs (Decidable (_ ≠ _))
  | .atMost => inferInstanceAs (Decidable (_ ≠ _))
  | .above => inferInstanceAs (Decidable (_ = _))
  | .below => inferInstanceAs (Decidable (_ = _))
  | .exact => inferInstanceAs (Decidable (_ = _))

/-! ## Comparators by the orders of their parts -/

/-- Whether a comparator holds, by the orders of what is compared. -/
def comparatorHolds
    (operator : RangeOperator)
    (major minor patch rest : Ordering)
    (changesMajor changesMinor : Bool) : Bool :=
  let relation := major.then (minor.then (patch.then rest))
  match operator with
  | .caret => relation != .lt && (major == .eq && (changesMajor ||
      minor == .eq && (changesMinor || patch == .eq)))
  | .tilde => relation != .lt && (major == .eq && minor == .eq)
  | .atLeast => relation != .lt
  | .atMost => relation != .gt
  | .above => relation == .gt
  | .below => relation == .lt
  | .exact => relation == .eq

variable {changesMajor changesMinor : Bool}
  {major minor patch rest otherMajor otherMinor otherPatch otherRest : Ordering}

theorem comparatorHolds_major
    (differs : major ≠ .eq)
    (operator : RangeOperator) :
    comparatorHolds operator major minor patch rest changesMajor changesMinor =
      comparatorHolds operator major otherMinor otherPatch otherRest
        changesMajor changesMinor := by
  cases major with
  | eq => exact absurd rfl differs
  | lt => cases operator <;> rfl
  | gt => cases operator <;> rfl

theorem comparatorHolds_minor
    (differs : minor ≠ .eq)
    (operator : RangeOperator) :
    comparatorHolds operator .eq minor patch rest changesMajor changesMinor =
      comparatorHolds operator .eq minor otherPatch otherRest changesMajor
        changesMinor := by
  cases minor with
  | eq => exact absurd rfl differs
  | lt => cases operator <;> rfl
  | gt => cases operator <;> rfl

theorem comparatorHolds_patch
    (differs : patch ≠ .eq)
    (operator : RangeOperator) :
    comparatorHolds operator .eq .eq patch rest changesMajor changesMinor =
      comparatorHolds operator .eq .eq patch otherRest changesMajor
        changesMinor := by
  cases patch with
  | eq => exact absurd rfl differs
  | lt => cases operator <;> rfl
  | gt => cases operator <;> rfl

theorem comparators_agree_lt
    (relation : otherMajor.then (otherMinor.then (otherPatch.then otherRest)) =
      .lt) :
    (∀ operator, comparatorHolds operator major minor patch rest changesMajor
        changesMinor = comparatorHolds operator otherMajor otherMinor
          otherPatch otherRest changesMajor changesMinor) ↔
      major.then (minor.then (patch.then rest)) = .lt := by
  constructor
  · intro agree
    have below := agree .below
    simp only [comparatorHolds, relation] at below
    simpa using below
  · intro same operator
    cases operator <;> simp [comparatorHolds, relation, same]

theorem relation_of_agree
    (agree : ∀ operator, comparatorHolds operator major minor patch rest
        changesMajor changesMinor = comparatorHolds operator otherMajor
          otherMinor otherPatch otherRest changesMajor changesMinor) :
    major.then (minor.then (patch.then rest)) =
      otherMajor.then (otherMinor.then (otherPatch.then otherRest)) := by
  have below := agree .below
  have above := agree .above
  simp only [comparatorHolds] at below above
  generalize major.then (minor.then (patch.then rest)) = left at below above
  generalize otherMajor.then (otherMinor.then (otherPatch.then otherRest)) =
    right at below above
  cases left <;> cases right <;>
    first | rfl | exact absurd below (by decide) |
      exact absurd above (by decide)

theorem not_agree_major_gt :
    ¬ ∀ operator, comparatorHolds operator .eq minor patch rest true
        changesMinor = comparatorHolds operator .gt otherMinor otherPatch
          otherRest true changesMinor := by
  intro agree
  have caret := agree .caret
  have relation := relation_of_agree agree
  simp only [comparatorHolds, relation] at caret
  cases caret

theorem not_agree_minor_gt :
    ¬ ∀ operator, comparatorHolds operator .eq .eq patch rest changesMajor
        changesMinor = comparatorHolds operator .eq .gt otherPatch otherRest
          changesMajor changesMinor := by
  intro agree
  have tilde := agree .tilde
  have relation := relation_of_agree agree
  simp only [comparatorHolds, relation] at tilde
  cases tilde

theorem agree_patch_gt_iff :
    (∀ operator, comparatorHolds operator .eq .eq .eq rest changesMajor
        changesMinor = comparatorHolds operator .eq .eq .gt otherRest
          changesMajor changesMinor) ↔
      (changesMajor || changesMinor) = true ∧ rest = .gt := by
  constructor
  · intro agree
    have caret := agree .caret
    have relation : rest = .gt := relation_of_agree agree
    subst relation
    refine ⟨?_, rfl⟩
    simpa [comparatorHolds] using caret
  · rintro ⟨changes, rfl⟩ operator
    cases operator with
    | caret => simpa [comparatorHolds] using changes
    | _ => rfl

theorem agree_rest_iff :
    (∀ operator, comparatorHolds operator .eq .eq .eq rest changesMajor
        changesMinor = comparatorHolds operator .eq .eq .eq otherRest
          changesMajor changesMinor) ↔
      rest = otherRest := by
  constructor
  · exact relation_of_agree
  · rintro rfl operator
    rfl

/-! ## Prereleases as texts -/

theorem compareText_self (text : JsString) : compareText text text = .eq := by
  rw [compareText, if_neg (lt_irrefl text), if_neg (lt_irrefl text)]

theorem compareText_cons (unit : CodeUnit) (left right : JsString) :
    compareText (unit :: left) (unit :: right) = compareText left right := by
  simp only [compareText, List.cons_lt_cons_self]

theorem compareText_cons_of_ne
    {first second : CodeUnit}
    (differ : first ≠ second)
    (left right otherLeft otherRight : JsString) :
    compareText (first :: left) (second :: right) =
      compareText (first :: otherLeft) (second :: otherRight) := by
  rcases lt_or_gt_of_ne differ with below | above
  · simp [compareText, List.cons_lt_cons_iff, below]
  · simp [compareText, List.cons_lt_cons_iff, above, above.not_gt, differ,
      differ.symm]

theorem compareText_append (text left right : JsString) :
    compareText (text ++ left) (text ++ right) = compareText left right := by
  induction text with
  | nil => rfl
  | cons unit rest inductionHypothesis =>
      rw [List.cons_append, List.cons_append, compareText_cons,
        inductionHypothesis]

@[simp] theorem compareText_nil_cons (unit : CodeUnit) (text : JsString) :
    compareText [] (unit :: text) = .lt := by
  simp [compareText]

@[simp] theorem compareText_cons_nil (unit : CodeUnit) (text : JsString) :
    compareText (unit :: text) [] = .gt := by
  simp [compareText]

/-- The dot that follows an identifier, if another one does. -/
def following : List JsString → JsString
  | [] => []
  | _ :: _ => [dot]

/-- All that follows an identifier. -/
def remaining : List JsString → JsString
  | [] => []
  | next :: more => dot :: [dot].intercalate (next :: more)

theorem intercalate_cons (first : JsString) (rest : List JsString) :
    [dot].intercalate (first :: rest) = first ++ remaining rest := by
  cases rest with
  | nil => simp [remaining]
  | cons next more => simp [remaining, List.intercalate_cons_cons]

theorem compareText_remaining
    {first second : JsString}
    (differ : first ≠ second)
    (noDot : dot ∉ first)
    (noOtherDot : dot ∉ second)
    (rest others : List JsString) :
    compareText (first ++ remaining rest) (second ++ remaining others) =
      compareText (first ++ following rest) (second ++ following others) := by
  induction first generalizing second with
  | nil =>
      cases second with
      | nil => exact absurd rfl differ
      | cons unit text =>
          have unlike : dot ≠ unit := fun same =>
            noOtherDot (same ▸ List.mem_cons_self)
          cases rest with
          | nil => simp [remaining, following]
          | cons next more => exact compareText_cons_of_ne unlike _ _ _ _
  | cons unit text inductionHypothesis =>
      cases second with
      | nil =>
          have unlike : unit ≠ dot := fun same =>
            noDot (same ▸ List.mem_cons_self)
          cases others with
          | nil => simp [remaining, following]
          | cons next more => exact compareText_cons_of_ne unlike _ _ _ _
      | cons other otherText =>
          simp only [List.cons_append]
          by_cases same : unit = other
          · subst same
            rw [compareText_cons, compareText_cons]
            exact inductionHypothesis (fun equal => differ (by rw [equal]))
              (fun inside => noDot (List.mem_cons_of_mem _ inside))
              (fun inside => noOtherDot (List.mem_cons_of_mem _ inside))
          · exact compareText_cons_of_ne same _ _ _ _

/-- The order of two lists of identifiers. -/
def compareIdentifiers (left right : List JsString) : Ordering :=
  List.compareLex (Semantic.Identifier.compare compareText)
    (left.map identifierOf) (right.map identifierOf)

/-- The first identifiers that differ, each with the dot that follows it, are
ordered as texts as all identifiers from there on are. -/
def TextOrderFits : List JsString → List JsString → Prop
  | first :: rest, second :: others =>
      if first = second then TextOrderFits rest others
      else
        compareText (first ++ following rest) (second ++ following others) =
          compareIdentifiers (first :: rest) (second :: others)
  | _, _ => True

theorem compare_identifierOf_self (text : JsString) :
    (identifierOf text).compare compareText (identifierOf text) = .eq := by
  unfold identifierOf
  split
  · exact Nat.compare_eq_eq.mpr rfl
  · exact compareText_self text

theorem compareText_intercalate_iff
    {left right : List JsString}
    (noDot : ∀ text ∈ left, dot ∉ text)
    (noOtherDot : ∀ text ∈ right, dot ∉ text)
    (nonempty : left ≠ [])
    (otherNonempty : right ≠ []) :
    compareText ([dot].intercalate left) ([dot].intercalate right) =
        compareIdentifiers left right ↔
      TextOrderFits left right := by
  induction left generalizing right with
  | nil => exact absurd rfl nonempty
  | cons first rest inductionHypothesis =>
      cases right with
      | nil => exact absurd rfl otherNonempty
      | cons second others =>
          rw [TextOrderFits, intercalate_cons, intercalate_cons]
          rw [List.forall_mem_cons] at noDot noOtherDot
          by_cases same : first = second
          · subst same
            rw [if_pos rfl, compareText_append, compareIdentifiers,
              List.map_cons, List.map_cons, List.compareLex_cons_cons,
              compare_identifierOf_self, Ordering.eq_then]
            cases rest with
            | nil =>
                cases others with
                | nil => exact iff_of_true rfl trivial
                | cons next more =>
                    exact iff_of_true (compareText_nil_cons _ _) trivial
            | cons next more =>
                cases others with
                | nil => exact iff_of_true (compareText_cons_nil _ _) trivial
                | cons otherNext otherMore =>
                    rw [remaining, remaining, compareText_cons]
                    exact inductionHypothesis noDot.2 noOtherDot.2
                      (List.cons_ne_nil _ _) (List.cons_ne_nil _ _)
          · rw [if_neg same,
              compareText_remaining same noDot.1 noOtherDot.1]

/-- Prereleases are ordered as texts as they are under precedence. -/
def PrereleasesFit : Option JsString → Option JsString → Prop
  | some left, some right =>
      TextOrderFits (left.splitOn dot) (right.splitOn dot)
  | _, _ => True

theorem noDot_of_isPrerelease
    {text : JsString}
    (isTag : isPrerelease text = true) :
    ∀ part ∈ text.splitOn dot, dot ∉ part := by
  intro part member inside
  have valid := List.all_eq_true.mp isTag part member
  rw [Bool.and_eq_true] at valid
  exact absurd (List.all_eq_true.mp valid.2 dot inside) (by decide)

section Agreement

variable {version wanted : VersionText}

theorem comparePrereleases_iff :
    comparePrereleases version.prerelease wanted.prerelease =
        Semantic.comparePrerelease compareText version.version.prerelease
          wanted.version.prerelease ↔
      PrereleasesFit version.prerelease wanted.prerelease := by
  have isTag := version.isTag
  have isOtherTag := wanted.isTag
  unfold VersionText.version
  cases shape : version.prerelease with
  | none =>
      cases wanted.prerelease with
      | none => exact iff_of_true rfl trivial
      | some right => exact iff_of_true rfl trivial
  | some left =>
      cases otherShape : wanted.prerelease with
      | none => exact iff_of_true rfl trivial
      | some right =>
          have agree := compareText_intercalate_iff
            (noDot_of_isPrerelease (isTag left shape))
            (noDot_of_isPrerelease (isOtherTag right otherShape))
            (List.splitOn_ne_nil dot left) (List.splitOn_ne_nil dot right)
          rwa [List.intercalate_splitOn, List.intercalate_splitOn] at agree

theorem prerelease_nonempty :
    version.version.prerelease ≠ some [] := by
  intro empty
  obtain ⟨text, -, isEmpty⟩ := Option.map_eq_some_iff.mp empty
  exact List.splitOn_ne_nil dot text (List.map_eq_nil_iff.mp isEmpty)

/-! ## Numbers as doubles -/

/-- Digits are read in order, and none but zero is read as zero. -/
structure ReadsDigits (format : NumberFormat) : Prop where
  ordered : ∀ {left right}, isVersionNumber left = true →
    isVersionNumber right = true → digitsValue left ≤ digitsValue right →
      (format.read right).below (format.read left) = false
  comparable : ∀ {left right}, isVersionNumber left = true →
    isVersionNumber right = true →
      (format.read left).same (format.read right) = true ∨
        (format.read left).below (format.read right) = true ∨
        (format.read right).below (format.read left) = true
  positive : ∀ {digits}, isVersionNumber digits = true →
    (JsNumber.ofNat 0).below (format.read digits) =
      decide (0 < digitsValue digits)

variable (format : NumberFormat)

/-- The order of two numbers as they are read. -/
def readOrder (left right : JsString) : Ordering :=
  compareNumbers [(format.read left, format.read right)]

theorem compareNumbers_read
    (left right : JsString)
    (rest : List (JsNumber × JsNumber)) :
    compareNumbers ((format.read left, format.read right) :: rest) =
      (readOrder format left right).then (compareNumbers rest) := by
  simp only [readOrder, compareNumbers]
  split
  · rfl
  · split
    · rfl
    · rfl

theorem readOrder_beq_eq (left right : JsString) :
    (readOrder format left right == .eq) =
      (format.read left).same (format.read right) := by
  simp only [readOrder, compareNumbers]
  split
  · rename_i same
    rw [same]
    rfl
  · rename_i differ
    rw [Bool.not_eq_true] at differ
    rw [differ]
    split
    · rfl
    · rfl

variable {format} {left right : JsString}

theorem readOrder_cases
    (reads : ReadsDigits format)
    (isLeft : isVersionNumber left = true)
    (isRight : isVersionNumber right = true) :
    readOrder format left right = .eq ∨
      readOrder format left right =
        compare (digitsValue left) (digitsValue right) := by
  simp only [readOrder, compareNumbers]
  split
  · exact Or.inl rfl
  · rename_i differ
    rcases Nat.lt_trichotomy (digitsValue left) (digitsValue right) with
      below | same | above
    · have isBelow := (reads.comparable isLeft isRight).resolve_left differ
      rw [reads.ordered isLeft isRight below.le, or_iff_left
        Bool.false_ne_true] at isBelow
      rw [if_pos isBelow, Nat.compare_eq_lt.mpr below]
      exact Or.inr rfl
    · have apart := (reads.comparable isLeft isRight).resolve_left differ
      rw [reads.ordered isLeft isRight same.le,
        reads.ordered isRight isLeft same.ge] at apart
      simp at apart
    · rw [reads.ordered isRight isLeft above.le,
        if_neg Bool.false_ne_true, Nat.compare_eq_gt.mpr above]
      exact Or.inr rfl

theorem below_of_same
    {number other : JsNumber}
    (same : number.same other = true) :
    (JsNumber.ofNat 0).below number = (JsNumber.ofNat 0).below other := by
  cases number <;> cases other <;>
    simp_all [JsNumber.same, JsNumber.below, JsNumber.finiteValue?,
      JsNumber.ofNat]

theorem satisfiesOperator_eq
    (reads : ReadsDigits format)
    (operator : RangeOperator) :
    satisfiesOperator operator
        (compareVersion (version.semver format) (wanted.semver format))
        (version.semver format) (wanted.semver format) =
      comparatorHolds operator (readOrder format version.major wanted.major)
        (readOrder format version.minor wanted.minor)
        (readOrder format version.patch wanted.patch)
        (comparePrereleases version.prerelease wanted.prerelease)
        (decide (0 < digitsValue wanted.major))
        (decide (0 < digitsValue wanted.minor)) := by
  have relation : compareVersion (version.semver format)
      (wanted.semver format) = (readOrder format version.major
        wanted.major).then ((readOrder format version.minor
          wanted.minor).then ((readOrder format version.patch
            wanted.patch).then
              (comparePrereleases version.prerelease wanted.prerelease))) := by
    dsimp only [compareVersion, VersionText.semver]
    rw [compareNumbers_read, compareNumbers_read]
    exact (Ordering.then_assoc _ _ _).trans
      (congrArg _ (Ordering.then_assoc _ _ _))
  rw [relation]
  cases operator with
  | caret =>
      simp only [satisfiesOperator, comparatorHolds, readOrder_beq_eq,
        VersionText.semver, reads.positive wanted.isMajor,
        reads.positive wanted.isMinor]
      split
      · grind
      · grind
  | tilde =>
      simp only [satisfiesOperator, comparatorHolds, readOrder_beq_eq,
        VersionText.semver, Bool.and_assoc]
  | _ => simp [satisfiesOperator, comparatorHolds, bne, Bool.beq_eq_decide_eq]

theorem holds_iff (operator : RangeOperator) :
    IsWithin operator version.version wanted.version ↔
      comparatorHolds operator
        (compare (digitsValue version.major) (digitsValue wanted.major))
        (compare (digitsValue version.minor) (digitsValue wanted.minor))
        (compare (digitsValue version.patch) (digitsValue wanted.patch))
        (Semantic.comparePrerelease compareText version.version.prerelease
          wanted.version.prerelease)
        (decide (0 < digitsValue wanted.major))
        (decide (0 < digitsValue wanted.minor)) = true := by
  cases operator with
  | caret =>
      rw [IsWithin, and_congr_right fun notBefore =>
        Semantic.Version.precedes_caretBound_iff prerelease_nonempty notBefore]
      simp [comparatorHolds, Semantic.Version.precedence, VersionText.version]
  | tilde =>
      rw [IsWithin, and_congr_right fun notBefore =>
        Semantic.Version.precedes_tildeBound_iff prerelease_nonempty notBefore]
      simp [comparatorHolds, Semantic.Version.precedence, VersionText.version]
  | _ => simp [IsWithin, comparatorHolds, Semantic.Version.precedence,
      VersionText.version]

end Agreement

/-! ## When comparators follow precedence -/

/--
The first number that differs is read as another double, or what follows it is
ordered alike and no comparator asks for the number itself; without such a
number, the prereleases are ordered as texts as they should be.
-/
def FollowsPrecedence (format : NumberFormat) (version wanted : VersionText) :
    Prop :=
  let prereleases :=
    comparePrereleases version.prerelease wanted.prerelease
  if digitsValue version.major ≠ digitsValue wanted.major then
    readOrder format version.major wanted.major ≠ .eq ∨
      (digitsValue version.major < digitsValue wanted.major ∧
        (readOrder format version.minor wanted.minor).then
          ((readOrder format version.patch wanted.patch).then prereleases) =
            .lt)
  else if digitsValue version.minor ≠ digitsValue wanted.minor then
    readOrder format version.minor wanted.minor ≠ .eq ∨
      (digitsValue version.minor < digitsValue wanted.minor ∧
        (readOrder format version.patch wanted.patch).then prereleases = .lt)
  else if digitsValue version.patch ≠ digitsValue wanted.patch then
    readOrder format version.patch wanted.patch ≠ .eq ∨
      (digitsValue version.patch < digitsValue wanted.patch ∧
        prereleases = .lt) ∨
      (digitsValue wanted.patch < digitsValue version.patch ∧
        (0 < digitsValue wanted.major ∨ 0 < digitsValue wanted.minor) ∧
        prereleases = .gt)
  else PrereleasesFit version.prerelease wanted.prerelease

section Pairs

variable {format : NumberFormat} {version wanted : VersionText}

theorem readOrder_of_eq
    {left right : JsString}
    (reads : ReadsDigits format)
    (isLeft : isVersionNumber left = true)
    (isRight : isVersionNumber right = true)
    (same : digitsValue left = digitsValue right) :
    readOrder format left right = .eq := by
  have cases := readOrder_cases reads isLeft isRight
  rwa [Nat.compare_eq_eq.mpr same, or_self] at cases

theorem positive_of_readOrder_eq
    {left right : JsString}
    (reads : ReadsDigits format)
    (isLeft : isVersionNumber left = true)
    (isRight : isVersionNumber right = true)
    (alike : readOrder format left right = .eq)
    (above : digitsValue right < digitsValue left) :
    0 < digitsValue right := by
  have same : (format.read left).same (format.read right) = true := by
    rw [← readOrder_beq_eq, alike]
    rfl
  have positive := below_of_same same
  rw [reads.positive isLeft, reads.positive isRight,
    decide_eq_true (Nat.zero_lt_of_lt above)] at positive
  exact of_decide_eq_true positive.symm

theorem satisfies_iff_holds
    (reads : ReadsDigits format) :
    (∀ operator, satisfiesOperator operator
        (compareVersion (version.semver format) (wanted.semver format))
        (version.semver format) (wanted.semver format) = true ↔
          IsWithin operator version.version wanted.version) ↔
      FollowsPrecedence format version wanted := by
  simp only [satisfiesOperator_eq reads, holds_iff, ← Bool.eq_iff_iff]
  have majors := readOrder_cases reads version.isMajor wanted.isMajor
  have minors := readOrder_cases reads version.isMinor wanted.isMinor
  have patches := readOrder_cases reads version.isPatch wanted.isPatch
  unfold FollowsPrecedence
  dsimp only
  by_cases sameMajor : digitsValue version.major = digitsValue wanted.major
  · rw [if_neg (not_not.mpr sameMajor), Nat.compare_eq_eq.mpr sameMajor,
      readOrder_of_eq reads version.isMajor wanted.isMajor sameMajor]
    by_cases sameMinor : digitsValue version.minor = digitsValue wanted.minor
    · rw [if_neg (not_not.mpr sameMinor), Nat.compare_eq_eq.mpr sameMinor,
        readOrder_of_eq reads version.isMinor wanted.isMinor sameMinor]
      by_cases samePatch : digitsValue version.patch = digitsValue wanted.patch
      · rw [if_neg (not_not.mpr samePatch), Nat.compare_eq_eq.mpr samePatch,
          readOrder_of_eq reads version.isPatch wanted.isPatch samePatch,
          agree_rest_iff, comparePrereleases_iff]
      · rw [if_pos samePatch]
        by_cases alike : readOrder format version.patch wanted.patch = .eq
        · rw [alike]
          rcases Nat.lt_or_gt_of_ne samePatch with below | above
          · rw [Nat.compare_eq_lt.mpr below, comparators_agree_lt rfl]
            simp [below, below.not_gt]
          · rw [Nat.compare_eq_gt.mpr above, agree_patch_gt_iff]
            simp [above, above.not_gt]
        · have isOrder := patches.resolve_left alike
          rw [isOrder] at alike ⊢
          exact iff_of_true (comparatorHolds_patch alike) (Or.inl alike)
    · rw [if_pos sameMinor]
      by_cases alike : readOrder format version.minor wanted.minor = .eq
      · rw [alike]
        rcases Nat.lt_or_gt_of_ne sameMinor with below | above
        · rw [Nat.compare_eq_lt.mpr below, comparators_agree_lt rfl]
          simp [below]
        · rw [Nat.compare_eq_gt.mpr above]
          exact iff_of_false not_agree_minor_gt (by simp [above.not_gt])
      · have isOrder := minors.resolve_left alike
        rw [isOrder] at alike ⊢
        exact iff_of_true (comparatorHolds_minor alike) (Or.inl alike)
  · rw [if_pos sameMajor]
    by_cases alike : readOrder format version.major wanted.major = .eq
    · rw [alike]
      rcases Nat.lt_or_gt_of_ne sameMajor with below | above
      · rw [Nat.compare_eq_lt.mpr below, comparators_agree_lt rfl]
        simp [below]
      · rw [Nat.compare_eq_gt.mpr above, decide_eq_true
          (positive_of_readOrder_eq reads version.isMajor wanted.isMajor alike
            above)]
        exact iff_of_false not_agree_major_gt (by simp [above.not_gt])
    · have isOrder := majors.resolve_left alike
      rw [isOrder] at alike ⊢
      exact iff_of_true (comparatorHolds_major alike) (Or.inl alike)

/-! ## Ranges -/

/-- The comparators of a range, by operator and version. -/
def comparators (range : JsValue) : List (RangeOperator × JsString) :=
  ((rangeText range).toList.flatMap rangeTokens).map splitOperator

/-- A version that a range compares with. -/
def Compares (range : JsValue) (wanted : VersionText) : Prop :=
  ∃ comparator ∈ comparators range,
    versionText (.string comparator.2) = some wanted

/-- All comparators with the versions of a range agree with precedence exactly
when those versions follow it, and the range is then the conjunction of its
comparators under precedence; what is no version satisfies no comparator. -/
theorem comparators_agree_iff
    {value range : JsValue}
    (reads : ReadsDigits format)
    (isVersion : versionText value = some version)
    (isRange : validRange range = true) :
    ((∀ wanted, Compares range wanted → ∀ operator, satisfiesOperator operator
        (compareVersion (version.semver format) (wanted.semver format))
        (version.semver format) (wanted.semver format) = true ↔
          IsWithin operator version.version wanted.version) ↔
      ∀ wanted, Compares range wanted →
        FollowsPrecedence format version wanted) ∧
    ((∀ wanted, Compares range wanted →
        FollowsPrecedence format version wanted) →
      (satisfiesSemver format value range = true ↔
        ∀ comparator ∈ comparators range, ∃ wanted,
          versionText (.string comparator.2) = some wanted ∧
            IsWithin comparator.1 version.version wanted.version)) := by
  refine ⟨forall₂_congr fun wanted _ => satisfies_iff_holds reads,
    fun follows => ?_⟩
  rw [validRange] at isRange
  split at isRange
  · rename_i text isText
    have tokens : comparators range = (rangeTokens text).map splitOperator := by
      simp [comparators, isText]
    have parsed : parseVersion format value = some (version.semver format) := by
      rw [parseVersion_eq, isVersion]
      rfl
    rw [satisfiesSemver, parsed, isText]
    dsimp only
    rw [List.all_eq_true, tokens, List.forall_mem_map]
    refine forall₂_congr fun token member => ?_
    rw [satisfiesToken, parseVersion_eq]
    cases isWanted : versionText (.string (splitOperator token).2) with
    | none => simp
    | some wanted =>
        have compared : Compares range wanted :=
          ⟨_, tokens ▸ List.mem_map_of_mem member, isWanted⟩
        have agree := (satisfies_iff_holds reads).mpr (follows wanted compared)
          (splitOperator token).1
        simpa using agree
  · cases isRange

end Pairs

/-! ## A format that reads digits -/

theorem isDigit_of_isVersionNumber
    {text : JsString}
    (isNumber : isVersionNumber text = true) :
    ∀ unit ∈ text, isDigit unit = true := by
  unfold isVersionNumber at isNumber
  split at isNumber
  · cases isNumber
  · simpa using isNumber
  · simp only [Bool.and_eq_true, List.all_eq_true] at isNumber
    rw [List.forall_mem_cons]
    exact ⟨isNumber.1.1, isNumber.2⟩

theorem finite_digitsValue
    {value : ℚ}
    (double : IsDouble value)
    (isNumber : isVersionNumber (exactNumeral value) = true) :
    JsNumber.ofNat (digitsValue (exactNumeral value)) = .finite value := by
  have digits := isDigit_of_isVersionNumber isNumber
  have den := den_of_isDouble double
  rw [exactNumeral] at digits ⊢
  have unsigned : ¬ value.num < 0 := by
    intro negative
    rw [if_pos negative] at digits
    exact absurd (digits 0x2D (by simp)) (by decide)
  have whole : binaryPlaces value = 0 := by
    by_contra fraction
    rw [if_neg fraction] at digits
    exact absurd (digits 0x65 (by simp)) (by decide)
  rw [if_neg unsigned, if_pos whole, whole, List.nil_append, List.append_nil,
    pow_zero, Nat.mul_one, digitsValue_decimalDigits, JsNumber.ofNat]
  rw [whole, pow_zero] at den
  congr 1
  rw [Int.natAbs_of_nonneg (not_lt.mp unsigned)]
  exact Rat.ext rfl den.symm

/-- Digits are read exactly. -/
noncomputable def digitNumerals : NumberFormat where
  toText := exactNumeral
  read text :=
    if isVersionNumber text then .ofNat (digitsValue text)
    else exactNumerals.read text
  numeral := exactNumerals.numeral
  read_toText := by
    intro value double
    split
    · exact finite_digitsValue double ‹_›
    · exact exactNumerals.read_toText double

theorem readsDigits_digitNumerals : ReadsDigits digitNumerals := by
  have read : ∀ {text}, isVersionNumber text = true →
      digitNumerals.read text = .ofNat (digitsValue text) :=
    fun isNumber => if_pos isNumber
  have below : ∀ left right : Nat,
      (JsNumber.ofNat left).below (JsNumber.ofNat right) =
        decide (left < right) := by
    intro left right
    simp [JsNumber.ofNat, JsNumber.below, JsNumber.finiteValue?]
  refine ⟨fun isLeft isRight least => ?_, fun isLeft isRight => ?_,
    fun isNumber => ?_⟩
  · rw [read isLeft, read isRight, below, decide_eq_false least.not_gt]
  · rw [read isLeft, read isRight, below, below, decide_eq_true_eq,
      decide_eq_true_eq]
    refine or_iff_not_imp_left.mpr fun differ =>
      Nat.lt_or_gt_of_ne fun same => differ ?_
    rw [same]
    simp [JsNumber.same, JsNumber.ofNat]
  · rw [read isNumber, below]

/-- A version with a prerelease of one digit or two. -/
def sampleVersion (tag : String)
    (isTag : isPrerelease (js tag) = true) : VersionText where
  major := js "1"
  minor := js "0"
  patch := js "0"
  prerelease := some (js tag)
  isMajor := rfl
  isMinor := rfl
  isPatch := rfl
  isTag := by
    rintro text isText
    cases isText
    exact isTag

/-- One digit each, prereleases are ordered as they should be. -/
theorem comparators_agree_digit :
    satisfiesSemver digitNumerals (.string (js "1.0.0-2"))
      (.string (js ">=1.0.0-1")) = true := by
  have isWanted : versionText (.string (js "1.0.0-1")) =
      some (sampleVersion "1" rfl) := rfl
  have comparator : comparators (.string (js ">=1.0.0-1")) =
      [(.atLeast, js "1.0.0-1")] := rfl
  refine ((comparators_agree_iff readsDigits_digitNumerals
    (show versionText (.string (js "1.0.0-2")) = some (sampleVersion "2" rfl)
      from rfl) (by decide)).2 ?_).mpr ?_
  · rintro wanted ⟨entry, member, isEntry⟩
    rw [comparator, List.mem_singleton] at member
    subst member
    cases isWanted.symm.trans isEntry
    change TextOrderFits [js "2"] [js "1"]
    rw [TextOrderFits, if_neg (by decide)]
    decide
  · rw [comparator, List.forall_mem_singleton]
    exact ⟨_, isWanted, by decide⟩

/-- The tenth prerelease is not above the ninth one. -/
theorem tenth_not_above_ninth :
    satisfiesSemver digitNumerals (.string (js "1.0.0-10"))
        (.string (js ">1.0.0-9")) = false ∧
      validRange (.string (js ">1.0.0-9")) = true ∧
      IsWithin .above (sampleVersion "10" rfl).version
        (sampleVersion "9" rfl).version := by
  refine ⟨?_, by decide, by decide⟩
  have tenth : versionText (.string (js "1.0.0-10")) =
      some (sampleVersion "10" rfl) := rfl
  have ninth : versionText (.string (js "1.0.0-9")) =
      some (sampleVersion "9" rfl) := rfl
  have text : rangeText (.string (js ">1.0.0-9")) = some (js ">1.0.0-9") := rfl
  have tokens : rangeTokens (js ">1.0.0-9") = [js ">1.0.0-9"] := rfl
  have token : splitOperator (js ">1.0.0-9") = (.above, js "1.0.0-9") := rfl
  have orders : ∀ digits : JsString, isVersionNumber digits = true →
      readOrder digitNumerals digits digits = .eq := fun digits isNumber =>
    readOrder_of_eq readsDigits_digitNumerals isNumber isNumber rfl
  rw [satisfiesSemver, parseVersion_eq, tenth, text]
  dsimp only [Option.map_some]
  rw [tokens, List.all_cons, satisfiesToken, parseVersion_eq, token, ninth]
  dsimp only [Option.map_some]
  rw [satisfiesOperator_eq readsDigits_digitNumerals]
  dsimp only [sampleVersion]
  rw [orders _ rfl, orders _ rfl]
  decide

end Selene.Extension
