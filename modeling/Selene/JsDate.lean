import Selene.JsonParse
import Selene.JsonTextSize
import Mathlib.Algebra.Order.Ring.Int

/-!
# Date strings

`Date.prototype.toISOString` and the part of `Date.parse` that reads what
`toISOString` writes.  A time value is a number of milliseconds since the
epoch.  The calendar is the proleptic Gregorian one, computed in years that
begin in March, so that the leap day is the last day of its year.
-/

namespace Js

/-- Milliseconds of a day. -/
def msPerDay : Int := 86400000

/-- The largest magnitude of a time value. -/
def maxTime : Int := 8640000000000000

/-- Day number, relative to the epoch, of a calendar date. -/
def daysFromCivil (year month day : Int) : Int :=
  let marchYear := if month ≤ 2 then year - 1 else year
  let era := marchYear / 400
  let yearOfEra := marchYear % 400
  let marchMonth := if month > 2 then month - 3 else month + 9
  let dayOfYear := (153 * marchMonth + 2) / 5 + day - 1
  era * 146097 + yearOfEra * 365 + yearOfEra / 4 - yearOfEra / 100 +
    dayOfYear - 719468

/-- A calendar date. -/
structure CivilDate where
  year : Int
  month : Int
  day : Int

/-- Calendar date of a day number. -/
def civilFromDays (days : Int) : CivilDate :=
  let shifted := days + 719468
  let era := shifted / 146097
  let dayOfEra := shifted % 146097
  let yearOfEra :=
    (dayOfEra - dayOfEra / 1460 + dayOfEra / 36524 - dayOfEra / 146096) / 365
  let dayOfYear :=
    dayOfEra - (365 * yearOfEra + yearOfEra / 4 - yearOfEra / 100)
  let marchMonth := (5 * dayOfYear + 2) / 153
  let month := if marchMonth < 10 then marchMonth + 3 else marchMonth - 9
  { year := yearOfEra + era * 400 + (if month ≤ 2 then 1 else 0)
    month
    day := dayOfYear - (153 * marchMonth + 2) / 5 + 1 }

/-- One decimal digit. -/
def digitUnit (value : Nat) : CodeUnit :=
  Fin.ofNat 65536 (0x30 + value % 10)

/-- The last `width` decimal digits of a number. -/
def padded : Nat → Nat → JsString
  | 0, _ => []
  | width + 1, value => padded width (value / 10) ++ [digitUnit value]

/-- Four digits for the years 0 to 9999, otherwise a sign and six digits. -/
def yearText (year : Int) : JsString :=
  if 0 ≤ year ∧ year ≤ 9999 then
    padded 4 year.toNat
  else
    (if year < 0 then 0x2D else 0x2B) :: padded 6 year.natAbs

/-- `Date.prototype.toISOString` of a time value. -/
def toISOString (time : Int) : JsString :=
  let date := civilFromDays (time / msPerDay)
  let inDay := (time % msPerDay).toNat
  yearText date.year ++
    0x2D :: (padded 2 date.month.toNat ++
    0x2D :: (padded 2 date.day.toNat ++
    0x54 :: (padded 2 (inDay / 3600000) ++
    0x3A :: (padded 2 (inDay / 60000 % 60) ++
    0x3A :: (padded 2 (inDay / 1000 % 60) ++
    0x2E :: (padded 3 (inDay % 1000) ++ [0x5A]))))))

/-- Read a number of exactly `width` digits. -/
def readDigits : Nat → JsString → Nat → Option (Nat × JsString)
  | 0, text, value => some (value, text)
  | _ + 1, [], _ => none
  | width + 1, unit :: rest, value =>
      if 0x30 ≤ unit.val ∧ unit.val ≤ 0x39 then
        readDigits width rest (value * 10 + (unit.val - 0x30))
      else
        none

/-- Read one expected unit. -/
def readUnit (expected : CodeUnit) : JsString → Option JsString
  | [] => none
  | unit :: rest => if unit = expected then some rest else none

/-- Read a year; the year zero has no negative form. -/
def readYear : JsString → Option (Int × JsString)
  | [] => none
  | unit :: rest =>
      if unit = 0x2B then
        (readDigits 6 rest 0).map fun read => ((read.1 : Int), read.2)
      else if unit = 0x2D then
        match readDigits 6 rest 0 with
        | some (0, _) => none
        | some (year, after) => some (-(year : Int), after)
        | none => none
      else
        (readDigits 4 (unit :: rest) 0).map fun read =>
          ((read.1 : Int), read.2)

/--
`Date.parse` of a string in the full format of `toISOString`.  Other formats
are left out: whatever they denote, `toISOString` does not write it that way.
-/
def dateParse (text : JsString) : Option Int := do
  let (year, text) ← readYear text
  let text ← readUnit 0x2D text
  let (month, text) ← readDigits 2 text 0
  let text ← readUnit 0x2D text
  let (day, text) ← readDigits 2 text 0
  let text ← readUnit 0x54 text
  let (hour, text) ← readDigits 2 text 0
  let text ← readUnit 0x3A text
  let (minute, text) ← readDigits 2 text 0
  let text ← readUnit 0x3A text
  let (second, text) ← readDigits 2 text 0
  let text ← readUnit 0x2E text
  let (milli, text) ← readDigits 3 text 0
  let text ← readUnit 0x5A text
  let inRange :=
    1 ≤ month ∧ month ≤ 12 ∧ 1 ≤ day ∧ day ≤ 31 ∧
      minute ≤ 59 ∧ second ≤ 59 ∧
      (hour ≤ 23 ∨ (hour = 24 ∧ minute = 0 ∧ second = 0 ∧ milli = 0))
  let time :=
    daysFromCivil year month day * msPerDay + hour * 3600000 +
      minute * 60000 + second * 1000 + milli
  if text = [] ∧ inRange ∧ -maxTime ≤ time ∧ time ≤ maxTime then
    some time
  else
    none

/-- `new Date(text).toISOString() === text`. -/
def IsCanonicalDate (text : JsString) : Prop :=
  (dateParse text).map toISOString = some text

instance (text : JsString) : Decidable (IsCanonicalDate text) :=
  inferInstanceAs (Decidable (_ = _))

variable {text : JsString}

theorem IsCanonicalDate.exists_time
    (canonical : IsCanonicalDate text) :
    ∃ time, dateParse text = some time ∧ toISOString time = text := by
  simpa [IsCanonicalDate] using canonical

theorem digitUnit_numeric (value : Nat) :
    (digitUnit value).IsNumeric := by
  left
  have digit : value % 10 < 10 := Nat.mod_lt _ (by decide)
  simp only [digitUnit, Fin.val_ofNat]
  omega

variable (width value : Nat)

@[simp] theorem length_padded :
    (padded width value).length = width := by
  induction width generalizing value with
  | zero => rfl
  | succ width inductionHypothesis =>
      simp [padded, inductionHypothesis]

theorem padded_numeric :
    ∀ unit ∈ padded width value, unit.IsNumeric := by
  induction width generalizing value with
  | zero => simp [padded]
  | succ width inductionHypothesis =>
      simp only [padded, List.mem_append, List.mem_singleton]
      rintro unit (inside | rfl)
      · exact inductionHypothesis _ unit inside
      · exact digitUnit_numeric value

theorem plainText_padded :
    PlainText (padded width value) :=
  fun unit member => (padded_numeric width value unit member).isPlain

private theorem padded_head :
    ∃ unit ∈ (padded (width + 1) value).head?,
      0x30 ≤ unit.val := by
  induction width generalizing value with
  | zero =>
      refine ⟨digitUnit value, by simp [padded], ?_⟩
      have digit : value % 10 < 10 := Nat.mod_lt _ (by decide)
      simp only [digitUnit, Fin.val_ofNat]
      omega
  | succ width inductionHypothesis =>
      obtain ⟨unit, head, digit⟩ := inductionHypothesis (value / 10)
      refine ⟨unit, ?_, digit⟩
      rw [padded, List.head?_append]
      simp [Option.mem_def.mp head]

/--
What a date string looks like: a plain text of 24 units that starts with a
digit, or of 27 units that starts with a sign.
-/
structure DateShape (text : JsString) : Prop where
  plain : PlainText text
  form :
    (text.length = 24 ∧ ∃ unit ∈ text.head?, 0x30 ≤ unit.val) ∨
      (text.length = 27 ∧ ∃ unit ∈ text.head?, unit.val ≤ 0x2D)

private theorem yearText_shape
    (year : Int) :
    PlainText (yearText year) ∧
      (((yearText year).length = 4 ∧
          ∃ unit ∈ (yearText year).head?, 0x30 ≤ unit.val) ∨
        ((yearText year).length = 7 ∧
          ∃ unit ∈ (yearText year).head?, unit.val ≤ 0x2D)) := by
  unfold yearText
  split
  · exact ⟨plainText_padded _ _, Or.inl ⟨by simp, padded_head 3 _⟩⟩
  · refine ⟨?_, Or.inr ⟨by simp, ?_⟩⟩
    · intro unit member
      rcases List.mem_cons.mp member with rfl | inside
      · split <;> decide
      · exact plainText_padded _ _ unit inside
    · refine ⟨_, List.head?_cons, ?_⟩
      split <;> decide

theorem dateShape_toISOString
    (time : Int) :
    DateShape (toISOString time) := by
  obtain ⟨yearPlain, yearForm⟩ :=
    yearText_shape (civilFromDays (time / msPerDay)).year
  constructor
  · intro unit member
    simp only [toISOString, List.mem_append, List.mem_cons,
      List.not_mem_nil, or_false] at member
    rcases member with inYear | rfl | inMonth | rfl | inDay | rfl |
      inHour | rfl | inMinute | rfl | inSecond | rfl | inMilli | rfl
    · exact yearPlain unit inYear
    · decide
    · exact plainText_padded _ _ unit inMonth
    · decide
    · exact plainText_padded _ _ unit inDay
    · decide
    · exact plainText_padded _ _ unit inHour
    · decide
    · exact plainText_padded _ _ unit inMinute
    · decide
    · exact plainText_padded _ _ unit inSecond
    · decide
    · exact plainText_padded _ _ unit inMilli
    · decide
  · rcases yearForm with ⟨width, unit, head, digit⟩ |
      ⟨width, unit, head, sign⟩
    · left
      refine ⟨by simp [toISOString, width], unit, ?_, digit⟩
      simp [toISOString, List.head?_append, Option.mem_def.mp head]
    · right
      refine ⟨by simp [toISOString, width], unit, ?_, sign⟩
      simp [toISOString, List.head?_append, Option.mem_def.mp head]

theorem IsCanonicalDate.shape
    (canonical : IsCanonicalDate text) :
    DateShape text := by
  obtain ⟨time, _, written⟩ := canonical.exists_time
  rw [← written]
  exact dateShape_toISOString time

theorem DateShape.length_le_of_le
    {first second : JsString}
    (firstShape : DateShape first)
    (secondShape : DateShape second)
    (ordered : first ≤ second) :
    second.length ≤ first.length := by
  rcases firstShape.form with ⟨short, unit, head, digit⟩ | ⟨long, _⟩
  · rcases secondShape.form with ⟨other, _⟩ | ⟨_, other, otherHead, sign⟩
    · omega
    · obtain ⟨rest, rfl⟩ := List.head?_eq_some_iff.mp head
      obtain ⟨otherRest, rfl⟩ := List.head?_eq_some_iff.mp otherHead
      have earlier : (other :: otherRest) < unit :: rest :=
        List.Lex.rel (Fin.lt_def.mpr (by omega))
      exact (not_lt.mpr ordered earlier).elim
  · rcases secondShape.form with ⟨other, _⟩ | ⟨other, _⟩ <;> omega

example : IsCanonicalDate (js "2026-07-25T22:01:00.000Z") := by
  decide +kernel

/-! ## Timestamps -/

/-- `\d{4}-\d{2}-\d{2}T\d{2}:\d{2}:\d{2}`; a zero stands for any digit. -/
def secondsTemplate : JsString :=
  js "0000-00-00T00:00:00"

/-- Whether a text has digits and separators where the template has them. -/
def matchesTemplate : JsString → JsString → Bool
  | [], [] => true
  | expected :: template, unit :: rest =>
      (if expected = 0x30 then isDecimalDigit unit else unit = expected) &&
        matchesTemplate template rest
  | _, _ => false

theorem length_of_matchesTemplate
    {template text : JsString}
    (fits : matchesTemplate template text = true) :
    text.length = template.length := by
  induction template generalizing text with
  | nil =>
      cases text with
      | nil => rfl
      | cons unit rest => cases fits
  | cons expected template inductionHypothesis =>
      cases text with
      | nil => cases fits
      | cons unit rest =>
          rw [matchesTemplate, Bool.and_eq_true] at fits
          rw [List.length_cons, List.length_cons, inductionHypothesis fits.2]

/-- The fraction digits in `(?:\.(\d{1,3}))?Z`. -/
def fractionDigits : JsString → Option JsString
  | [] => none
  | unit :: rest =>
      if unit = 0x5A then
        if rest = [] then some [] else none
      else if unit = 0x2E ∧ rest.getLast? = some 0x5A ∧
          2 ≤ rest.length ∧ rest.length ≤ 4 ∧
          rest.dropLast.all isDecimalDigit then
        some rest.dropLast
      else
        none

/--
The time value of a timestamp with at most three fraction digits, if it is
written as `toISOString` writes it up to zeros at the end of the fraction.
`Date.parse` reads a shorter fraction like the padded one.
-/
def timestampTime? (text : JsString) : Option Int := do
  let seconds := text.take 19
  let digits ← fractionDigits (text.drop 19)
  let padded := digits ++ List.replicate (3 - digits.length) 0x30
  let full := seconds ++ 0x2E :: (padded ++ [0x5A])
  let time ← dateParse full
  if matchesTemplate secondsTemplate seconds ∧ toISOString time = full then
    some time
  else
    none

theorem length_of_fractionDigits
    {digits : JsString}
    (isFraction : fractionDigits text = some digits) :
    text.length ≤ 5 := by
  cases text with
  | nil => exact Nat.zero_le 5
  | cons unit rest =>
      rw [fractionDigits] at isFraction
      split at isFraction
      · split at isFraction
        · rename_i isEnd
          simp [isEnd]
        · cases isFraction
      · split at isFraction
        · rename_i shape
          exact Nat.succ_le_succ shape.2.2.2.1
        · cases isFraction

theorem length_of_timestampTime?
    {time : Int}
    (isTime : timestampTime? text = some time) :
    text.length ≤ 24 := by
  obtain ⟨digits, isFraction, _⟩ := Option.bind_eq_some_iff.mp isTime
  have short := length_of_fractionDigits isFraction
  rw [List.length_drop] at short
  omega

example :
    (timestampTime? (js "2026-07-25T22:01:00Z")).isSome ∧
      timestampTime? (js "2026-07-25T22:01:00.5Z") =
        timestampTime? (js "2026-07-25T22:01:00.500Z") ∧
      timestampTime? (js "2026-02-30T22:01:00Z") = none := by
  decide +kernel

end Js
