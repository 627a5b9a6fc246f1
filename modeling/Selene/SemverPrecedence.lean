import Mathlib.Data.Nat.Notation
import Mathlib.Tactic.Common

/-!
# Precedence of semantic versions

A version has three numbers and may have a prerelease, a list of identifiers.
Numbers are compared first; a version precedes the one it is a prerelease of, and
prereleases are compared identifier by identifier: numeric ones as numbers, the
others as texts, and numeric ones come first.  The least prerelease of a version
bounds what comes before the version and its prereleases (`precedes_least_iff`).
-/

namespace Semantic

variable {τ : Type} (order : τ → τ → Ordering)

/-- An identifier of a prerelease. -/
inductive Identifier (τ : Type) where
  | numeric (value : Nat)
  | alphanumeric (text : τ)
  deriving DecidableEq

def Identifier.compare : Identifier τ → Identifier τ → Ordering
  | .numeric left, .numeric right => Ord.compare left right
  | .numeric _, .alphanumeric _ => .lt
  | .alphanumeric _, .numeric _ => .gt
  | .alphanumeric left, .alphanumeric right => order left right

structure Version (τ : Type) where
  major : Nat
  minor : Nat
  patch : Nat
  prerelease : Option (List (Identifier τ))
  deriving DecidableEq

/-- A shorter prerelease precedes its extensions. -/
def comparePrerelease :
    Option (List (Identifier τ)) → Option (List (Identifier τ)) → Ordering
  | none, none => .eq
  | none, some _ => .gt
  | some _, none => .lt
  | some left, some right => List.compareLex (Identifier.compare order) left right

namespace Version

/-- The order of two versions. -/
def precedence (left right : Version τ) : Ordering :=
  (compare left.major right.major).then
    ((compare left.minor right.minor).then
      ((compare left.patch right.patch).then
        (comparePrerelease order left.prerelease right.prerelease)))

/-- The least prerelease of a version. -/
def least (major minor patch : Nat) : Version τ :=
  ⟨major, minor, patch, some [.numeric 0]⟩

/-- What `^` keeps a version before: a change of the first number that is not
zero, or of the last one. -/
def caretBound (wanted : Version τ) : Version τ :=
  if 0 < wanted.major then least (wanted.major + 1) 0 0
  else if 0 < wanted.minor then least 0 (wanted.minor + 1) 0
  else least 0 0 (wanted.patch + 1)

/-- What `~` keeps a version before. -/
def tildeBound (wanted : Version τ) : Version τ :=
  least wanted.major (wanted.minor + 1) 0

variable {order} {version wanted : Version τ}

theorem comparePrerelease_least
    (nonempty : version.prerelease ≠ some []) :
    comparePrerelease order version.prerelease (some [.numeric 0]) ≠ .lt := by
  cases shape : version.prerelease with
  | none => exact Ordering.noConfusion
  | some identifiers =>
      cases identifiers with
      | nil => exact absurd shape nonempty
      | cons first rest =>
          rw [comparePrerelease, List.compareLex_cons_cons]
          cases first with
          | alphanumeric text => exact Ordering.noConfusion
          | numeric value =>
              rw [Identifier.compare, ne_eq, Ordering.then_eq_lt,
                Nat.compare_eq_lt]
              rintro (below | ⟨-, shorter⟩)
              · exact Nat.not_lt_zero _ below
              · cases rest with
                | nil => cases shorter
                | cons next others => cases shorter

theorem precedes_least_iff
    (nonempty : version.prerelease ≠ some [])
    (major minor patch : Nat) :
    version.precedence order (least major minor patch) = .lt ↔
      version.major < major ∨ version.major = major ∧
        (version.minor < minor ∨ version.minor = minor ∧
          version.patch < patch) := by
  simp only [precedence, least, Ordering.then_eq_lt, Nat.compare_eq_lt,
    Nat.compare_eq_eq, comparePrerelease_least nonempty, and_false, or_false]

theorem numbers_of_not_precedes
    (notBefore : version.precedence order wanted ≠ .lt) :
    ¬ (version.major < wanted.major ∨ version.major = wanted.major ∧
      (version.minor < wanted.minor ∨ version.minor = wanted.minor ∧
        version.patch < wanted.patch)) := by
  intro lesser
  apply notBefore
  simp only [precedence, Ordering.then_eq_lt, Nat.compare_eq_lt,
    Nat.compare_eq_eq]
  exact lesser.imp_right (And.imp_right (Or.imp_right (And.imp_right .inl)))

section

variable (nonempty : version.prerelease ≠ some [])
  (notBefore : version.precedence order wanted ≠ .lt)

include nonempty notBefore

/-- A version that is not before another one is within its `^` as long as the
first number that is not zero stays. -/
theorem precedes_caretBound_iff :
    version.precedence order wanted.caretBound = .lt ↔
      version.major = wanted.major ∧ (0 < wanted.major ∨
        version.minor = wanted.minor ∧ (0 < wanted.minor ∨
          version.patch = wanted.patch)) := by
  have numbers := numbers_of_not_precedes notBefore
  rw [caretBound]
  split
  · rw [precedes_least_iff nonempty]
    omega
  · split
    · rw [precedes_least_iff nonempty]
      omega
    · rw [precedes_least_iff nonempty]
      omega

theorem precedes_tildeBound_iff :
    version.precedence order wanted.tildeBound = .lt ↔
      version.major = wanted.major ∧ version.minor = wanted.minor := by
  have numbers := numbers_of_not_precedes notBefore
  rw [tildeBound, precedes_least_iff nonempty]
  omega

end

end Version

end Semantic
