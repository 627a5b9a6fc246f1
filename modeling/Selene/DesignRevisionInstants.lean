import Selene.DesignRevisionSuccessor
import Selene.JsDateOrder

/-!
# Instants are compared as strings

`instant` accepts every string that `toISOString` writes, also those with a year
that has a sign.  The guards of a commit compare the strings.  Exactly where the
years are written comparably this is the order of the times.
-/

namespace Selene.Revision

open Js

/-- The time of an instant. -/
def Instant.time (value : Instant) : Int :=
  timeOf value.val

theorem Instant.lt_iff_of_comparable
    {first second : Instant}
    (years : ComparableYears first.val second.val) :
    first < second ↔ first.time < second.time :=
  (first.property.2.lt_iff second.property.2).mpr years

theorem Instant.le_iff_of_comparable
    {first second : Instant}
    (years : ComparableYears first.val second.val) :
    first ≤ second ↔ first.time ≤ second.time := by
  have reversed := (lt_iff_of_comparable years.symm).not
  exact (not_lt (α := JsString)).symm.trans (reversed.trans not_lt)

/-- Instants are in the order of their times exactly if the years allow it. -/
theorem instants_chronological_iff (left right : Instant) :
    (left < right ↔ left.time < right.time) ↔
      ComparableYears left.val right.val :=
  left.property.2.lt_iff right.property.2

/-- The year 10000 is before the year 2026. -/
theorem expanded_year_reversed :
    ∃ first second : Instant,
      instant (.string (js "2026-07-25T22:01:00.000Z")) = .ok first ∧
        instant (.string (js "+010000-01-01T00:00:00.000Z")) = .ok second ∧
        ¬ (first < second ↔ first.time < second.time) := by
  have short : (js "2026-07-25T22:01:00.000Z").length ≤ 64 ∧
      IsCanonicalDate (js "2026-07-25T22:01:00.000Z") := by
    decide +kernel
  have expanded : (js "+010000-01-01T00:00:00.000Z").length ≤ 64 ∧
      IsCanonicalDate (js "+010000-01-01T00:00:00.000Z") := by
    decide +kernel
  have notComparable : ¬ ComparableYears (js "2026-07-25T22:01:00.000Z")
      (js "+010000-01-01T00:00:00.000Z") := by
    decide
  exact ⟨⟨_, short⟩, ⟨_, expanded⟩, instant_val ⟨_, short⟩,
    instant_val ⟨_, expanded⟩, fun same =>
      notComparable ((short.2.lt_iff expanded.2).mp same)⟩

/-! ## What a commit has checked -/

/-- The instants that a commit compares. -/
def comparedInstants (command : CommitDesignRevisionCommand)
    (atInstant : Instant) : List Instant :=
  [atInstant, command.authority.issuedAt, command.authority.expiresAt,
    command.revision.createdAt, command.revision.privacy.deleteAfter] ++
    command.authority.revokedAt.toList

/-- An accepted command is in time, where all years are written comparably. -/
theorem commitParsed_in_time
    {state next : DesignRevisionState}
    {command : CommitDesignRevisionCommand}
    {atInstant : Instant}
    (accepted : commitParsed state command atInstant = .ok next)
    (years : ∀ first ∈ comparedInstants command atInstant,
      ∀ second ∈ comparedInstants command atInstant,
        ComparableYears first.val second.val) :
    command.authority.issuedAt.time ≤ command.revision.createdAt.time ∧
      command.authority.issuedAt.time ≤ atInstant.time ∧
      atInstant.time ≤ command.authority.expiresAt.time ∧
      command.revision.createdAt.time ≤ command.authority.expiresAt.time ∧
      command.revision.createdAt.time <
        command.revision.privacy.deleteAfter.time ∧
      atInstant.time < command.revision.privacy.deleteAfter.time ∧
      ∀ revokedAt ∈ command.authority.revokedAt,
        atInstant.time < revokedAt.time := by
  have allowed := (commitParsed_eq_ok.mp accepted).1
  obtain ⟨revoked, issued, expires, createdAfter, createdBefore⟩ :=
    allowed.unexpired
  obtain ⟨createdKept, kept⟩ := allowed.retained
  have le : ∀ {first second : Instant}, first ≤ second →
      first ∈ comparedInstants command atInstant →
      second ∈ comparedInstants command atInstant →
        first.time ≤ second.time :=
    fun ordered one other =>
      (Instant.le_iff_of_comparable (years _ one _ other)).mp ordered
  have lt : ∀ {first second : Instant}, first < second →
      first ∈ comparedInstants command atInstant →
      second ∈ comparedInstants command atInstant →
        first.time < second.time :=
    fun ordered one other =>
      (Instant.lt_iff_of_comparable (years _ one _ other)).mp ordered
  refine ⟨le createdAfter ?_ ?_, le issued ?_ ?_, le expires ?_ ?_,
    le createdBefore ?_ ?_, lt createdKept ?_ ?_, lt kept ?_ ?_,
    fun revokedAt isRevoked => lt (revoked revokedAt isRevoked) ?_ ?_⟩
  all_goals simp [comparedInstants]
  exact .inr (.inr (.inr (.inr (.inr isRevoked))))

theorem commitParsed_in_time_sample :
    sampleInstant.time < sampleRevision.privacy.deleteAfter.time := by
  have years : ∀ first ∈ comparedInstants sampleCommand sampleInstant,
      ∀ second ∈ comparedInstants sampleCommand sampleInstant,
        ComparableYears first.val second.val := by
    decide
  have inTime := commitParsed_in_time commitParsed_sample years
  exact inTime.2.2.2.2.2.1

end Selene.Revision
