import Selene.JsDate

/-!
# The order of date strings

Date strings are compared unit by unit.  In one year the fields of a date have
fixed widths and follow each other from the largest to the smallest, so the order
is that of the times.  The years are written in three ways: a year with four
digits comes after every year with a sign, a plus sign comes before a minus sign,
and under a minus sign later years come first.
-/

namespace Js

variable {first second : Int}

/-! ## The calendar is in order -/

/-- The year, counted from March, of a day of a cycle of 400 years. -/
def yearOfEra (dayOfEra : Int) : Int :=
  (dayOfEra - dayOfEra / 1460 + dayOfEra / 36524 - dayOfEra / 146096) / 365

theorem yearOfEra_of_lt
    {dayOfEra : Int}
    (low : 0 ≤ dayOfEra)
    (high : dayOfEra < 146096) :
    0 ≤ yearOfEra dayOfEra ∧ yearOfEra dayOfEra ≤ 399 ∧
      0 ≤ dayOfEra - (365 * yearOfEra dayOfEra +
        yearOfEra dayOfEra / 4 - yearOfEra dayOfEra / 100) ∧
      dayOfEra - (365 * yearOfEra dayOfEra +
        yearOfEra dayOfEra / 4 - yearOfEra dayOfEra / 100) ≤ 365 := by
  have last : dayOfEra / 146096 = 0 := by omega
  have isYear : yearOfEra dayOfEra =
      (dayOfEra - dayOfEra / 1460 + dayOfEra / 36524) / 365 := by
    rw [yearOfEra, last, Int.sub_zero]
  generalize yearOfEra dayOfEra = year at isYear ⊢
  -- the centuries, and the leap years in the century, are known apart
  obtain ⟨century, isCentury⟩ : ∃ century, century = dayOfEra / 36524 :=
    ⟨_, rfl⟩
  obtain ⟨leap, isLeap⟩ :
      ∃ leap, leap = (dayOfEra - 36524 * century) / 1461 := ⟨_, rfl⟩
  have centuries :
      century = 0 ∨ century = 1 ∨ century = 2 ∨ century = 3 := by omega
  rw [← isCentury] at isYear
  have leapYear : leap = (year - 100 * century) / 4 := by
    rcases centuries with rfl | rfl | rfl | rfl <;> omega
  have inCentury : 100 * century ≤ year ∧ year < 100 * century + 100 := by
    rcases centuries with rfl | rfl | rfl | rfl <;> omega
  have isHundred : year / 100 = century := by omega
  rw [isHundred]
  rcases centuries with rfl | rfl | rfl | rfl <;> omega

theorem yearOfEra_bounds
    {dayOfEra : Int}
    (low : 0 ≤ dayOfEra)
    (high : dayOfEra < 146097) :
    0 ≤ yearOfEra dayOfEra ∧ yearOfEra dayOfEra ≤ 399 ∧
      0 ≤ dayOfEra - (365 * yearOfEra dayOfEra +
        yearOfEra dayOfEra / 4 - yearOfEra dayOfEra / 100) ∧
      dayOfEra - (365 * yearOfEra dayOfEra +
        yearOfEra dayOfEra / 4 - yearOfEra dayOfEra / 100) ≤ 365 := by
  by_cases last : dayOfEra = 146096
  · rw [last]
    decide
  · exact yearOfEra_of_lt low (by omega)

theorem yearOfEra_mono
    (low : 0 ≤ first)
    (ordered : first ≤ second)
    (high : second < 146097) :
    yearOfEra first ≤ yearOfEra second := by
  have days : first - first / 1460 ≤ second - second / 1460 := by omega
  have centuries : first / 36524 - first / 146096 ≤
      second / 36524 - second / 146096 := by
    omega
  exact Int.ediv_le_ediv (by decide) (by omega)

/-- A day in its year from March on, and its cycle of 400 years. -/
structure MarchDay where
  era : Int
  year : Int
  day : Int

/-- The year from March on of a day number. -/
def marchDay (days : Int) : MarchDay :=
  let dayOfEra := (days + 719468) % 146097
  let year := yearOfEra dayOfEra
  { era := (days + 719468) / 146097
    year
    day := dayOfEra - (365 * year + year / 4 - year / 100) }

namespace MarchDay

/-- The month of a day, counted from March. -/
def month (date : MarchDay) : Int :=
  (5 * date.day + 2) / 153

/-- The fields of a day are in their ranges. -/
structure Proper (date : MarchDay) : Prop where
  yearLow : 0 ≤ date.year
  yearHigh : date.year ≤ 399
  dayLow : 0 ≤ date.day
  dayHigh : date.day ≤ 365

end MarchDay

theorem proper_marchDay (days : Int) : (marchDay days).Proper := by
  obtain ⟨yearLow, yearHigh, dayLow, dayHigh⟩ :=
    @yearOfEra_bounds ((days + 719468) % 146097) (by omega) (by omega)
  exact ⟨yearLow, yearHigh, dayLow, dayHigh⟩

theorem marchDay_lt
    (earlier : first < second) :
    (marchDay first).era * 400 + (marchDay first).year <
        (marchDay second).era * 400 + (marchDay second).year ∨
      ((marchDay first).era = (marchDay second).era ∧
        (marchDay first).year = (marchDay second).year ∧
        (marchDay first).day < (marchDay second).day) := by
  have firstProper := proper_marchDay first
  have secondProper := proper_marchDay second
  by_cases sameEra : (marchDay first).era = (marchDay second).era
  · have era : (first + 719468) / 146097 = (second + 719468) / 146097 := sameEra
    have years : (marchDay first).year ≤ (marchDay second).year :=
      yearOfEra_mono (by omega) (by omega) (by omega)
    rcases lt_or_eq_of_le years with less | same
    · exact .inl (by omega)
    · right
      refine ⟨sameEra, same, ?_⟩
      have days : (first + 719468) % 146097 < (second + 719468) % 146097 := by
        omega
      change _ - (365 * (marchDay first).year + (marchDay first).year / 4 -
          (marchDay first).year / 100) <
        _ - (365 * (marchDay second).year + (marchDay second).year / 4 -
          (marchDay second).year / 100)
      rw [same]
      omega
  · have era : (first + 719468) / 146097 ≤ (second + 719468) / 146097 := by
      omega
    have later : (marchDay first).era < (marchDay second).era :=
      lt_of_le_of_ne era sameEra
    have := firstProper.yearHigh
    have := secondProper.yearLow
    exact .inl (by omega)

theorem civilFromDays_eq (days : Int) :
    civilFromDays days =
      { year := (marchDay days).year + (marchDay days).era * 400 +
          (if (marchDay days).month < 10 then 0 else 1)
        month := if (marchDay days).month < 10 then (marchDay days).month + 3
          else (marchDay days).month - 9
        day := (marchDay days).day -
          (153 * (marchDay days).month + 2) / 5 + 1 } := by
  have proper := proper_marchDay days
  have low := proper.dayLow
  have high := proper.dayHigh
  have isMonth : (marchDay days).month = (5 * (marchDay days).day + 2) / 153 :=
    rfl
  have unfolded : civilFromDays days =
      { year := (marchDay days).year + (marchDay days).era * 400 +
          (if (if (marchDay days).month < 10 then (marchDay days).month + 3
            else (marchDay days).month - 9) ≤ 2 then 1 else 0)
        month := if (marchDay days).month < 10 then (marchDay days).month + 3
          else (marchDay days).month - 9
        day := (marchDay days).day -
          (153 * (marchDay days).month + 2) / 5 + 1 } := rfl
  rw [unfolded]
  by_cases early : (marchDay days).month < 10
  · have late : ¬ (marchDay days).month + 3 ≤ 2 := by omega
    simp only [if_pos early, if_neg late]
  · have late : (marchDay days).month - 9 ≤ 2 := by omega
    simp only [if_neg early, if_pos late]

/-- The fields of a date have two digits, and its year has at most six. -/
structure CivilDate.Proper (date : CivilDate) : Prop where
  month : 1 ≤ date.month ∧ date.month ≤ 12
  day : 1 ≤ date.day ∧ date.day ≤ 31

theorem proper_civilFromDays (days : Int) : (civilFromDays days).Proper := by
  have proper := proper_marchDay days
  have low := proper.dayLow
  have high := proper.dayHigh
  have isMonth : (marchDay days).month = (5 * (marchDay days).day + 2) / 153 :=
    rfl
  rw [civilFromDays_eq]
  constructor
  · simp only
    split <;> omega
  · simp only
    omega

theorem year_civilFromDays_bounds
    {days : Int}
    (low : -100000000 ≤ days)
    (high : days ≤ 100000000) :
    -1000000 < (civilFromDays days).year ∧
      (civilFromDays days).year < 1000000 := by
  have proper := proper_marchDay days
  have yearLow := proper.yearLow
  have yearHigh := proper.yearHigh
  have era : (marchDay days).era = (days + 719468) / 146097 := rfl
  rw [civilFromDays_eq]
  simp only
  split <;> omega

theorem civilFromDays_lt
    (earlier : first < second) :
    (civilFromDays first).year < (civilFromDays second).year ∨
      ((civilFromDays first).year = (civilFromDays second).year ∧
        ((civilFromDays first).month < (civilFromDays second).month ∨
          ((civilFromDays first).month = (civilFromDays second).month ∧
            (civilFromDays first).day < (civilFromDays second).day))) := by
  have firstProper := proper_marchDay first
  have secondProper := proper_marchDay second
  have firstLow := firstProper.dayLow
  have firstHigh := firstProper.dayHigh
  have secondLow := secondProper.dayLow
  have secondHigh := secondProper.dayHigh
  have firstMonth : (marchDay first).month =
      (5 * (marchDay first).day + 2) / 153 := rfl
  have secondMonth : (marchDay second).month =
      (5 * (marchDay second).day + 2) / 153 := rfl
  rw [civilFromDays_eq, civilFromDays_eq]
  simp only
  rcases marchDay_lt earlier with laterYear | ⟨sameEra, sameYear, laterDay⟩
  · split <;> split <;> omega
  · split <;> split <;> omega

/-! ## The fields are in order -/

theorem cons_lt_cons
    {unit : CodeUnit}
    {first second : JsString}
    (less : first < second) :
    unit :: first < unit :: second :=
  List.cons_lt_cons_iff.mpr (.inr ⟨rfl, less⟩)

theorem padded_append_lt
    {width first second : Nat}
    (less : first < second)
    (fits : second < 10 ^ width)
    (rest other : JsString) :
    padded width first ++ rest < padded width second ++ other := by
  induction width generalizing first second rest other with
  | zero => omega
  | succ width inductionHypothesis =>
      rw [padded, padded, List.append_assoc, List.append_assoc]
      have tens : second / 10 < 10 ^ width := by
        rw [Nat.pow_succ] at fits
        omega
      rcases Nat.lt_or_ge (first / 10) (second / 10) with lessTens | geTens
      · exact inductionHypothesis lessTens tens _ _
      · have sameTens : first / 10 = second / 10 := by omega
        rw [sameTens]
        refine List.append_left_lt (List.cons_lt_cons_iff.mpr (.inl ?_))
        rw [Fin.lt_def, digitUnit, digitUnit, Fin.val_ofNat, Fin.val_ofNat]
        omega

theorem padded_append_lt_of
    {width first second : Nat}
    {rest other : JsString}
    (fits : second < 10 ^ width)
    (less : first < second ∨ first = second ∧ rest < other) :
    padded width first ++ rest < padded width second ++ other := by
  rcases less with less | ⟨rfl, less⟩
  · exact padded_append_lt less fits rest other
  · exact List.append_left_lt less

/-- What `toISOString` writes after the date, for a time in the day. -/
def clockText (inDay : Nat) : JsString :=
  padded 2 (inDay / 3600000) ++
    0x3A :: (padded 2 (inDay / 60000 % 60) ++
    0x3A :: (padded 2 (inDay / 1000 % 60) ++
    0x2E :: (padded 3 (inDay % 1000) ++ [0x5A])))

theorem clockText_lt
    {first second : Nat}
    (less : first < second)
    (inDay : second < 86400000) :
    clockText first < clockText second := by
  refine padded_append_lt_of (by omega) ?_
  refine (Nat.lt_or_eq_of_le (by omega)).imp_right fun hours => ⟨hours, ?_⟩
  refine cons_lt_cons (padded_append_lt_of (by omega) ?_)
  refine (Nat.lt_or_eq_of_le (by omega)).imp_right fun minutes => ⟨minutes, ?_⟩
  refine cons_lt_cons (padded_append_lt_of (by omega) ?_)
  refine (Nat.lt_or_eq_of_le (by omega)).imp_right fun seconds => ⟨seconds, ?_⟩
  exact cons_lt_cons (padded_append_lt (by omega) (by omega) _ _)

/-- What `toISOString` writes after the year. -/
def afterYear (time : Int) : JsString :=
  0x2D :: (padded 2 (civilFromDays (time / msPerDay)).month.toNat ++
    0x2D :: (padded 2 (civilFromDays (time / msPerDay)).day.toNat ++
    0x54 :: clockText (time % msPerDay).toNat))

/-- The year of a time. -/
def yearOf (time : Int) : Int :=
  (civilFromDays (time / msPerDay)).year

theorem toISOString_eq (time : Int) :
    toISOString time = yearText (yearOf time) ++ afterYear time :=
  rfl

theorem yearOf_lt_or
    (earlier : first < second) :
    yearOf first < yearOf second ∨
      yearOf first = yearOf second ∧ afterYear first < afterYear second := by
  have firstProper := proper_civilFromDays (first / msPerDay)
  have secondProper := proper_civilFromDays (second / msPerDay)
  have inDay : (second % msPerDay).toNat < 86400000 := by
    rw [msPerDay]
    omega
  have days : first / msPerDay ≤ second / msPerDay :=
    Int.ediv_le_ediv (by decide) earlier.le
  rcases lt_or_eq_of_le days with laterDay | sameDay
  · refine (civilFromDays_lt laterDay).imp_right fun sameYear => ?_
    have := firstProper.month
    have := secondProper.month
    have := firstProper.day
    have := secondProper.day
    refine ⟨sameYear.1, cons_lt_cons (padded_append_lt_of (by omega) ?_)⟩
    rcases sameYear.2 with month | ⟨month, day⟩
    · exact .inl (by omega)
    · refine .inr ⟨by rw [month], cons_lt_cons ?_⟩
      exact padded_append_lt (by omega) (by omega) _ _
  · refine .inr ⟨by rw [yearOf, yearOf, sameDay], ?_⟩
    rw [afterYear, afterYear, sameDay]
    refine cons_lt_cons (List.append_left_lt (cons_lt_cons
      (List.append_left_lt (cons_lt_cons (clockText_lt ?_ inDay)))))
    rw [msPerDay] at sameDay ⊢
    omega

/-! ## The years are in order for the most part -/

/-- Both years or neither are after 9999, and not both are before the year 0. -/
def InWrittenOrder (first second : Int) : Prop :=
  (9999 < first ↔ 9999 < second) ∧ (first < 0 → second < 0 → first = second)

/-- A later year is written behind an earlier one, or before it. -/
theorem yearText_lt_or
    (earlier : first < second)
    (low : -1000000 < first)
    (high : second < 1000000)
    (rest other : JsString) :
    (InWrittenOrder first second ∧
        yearText first ++ rest < yearText second ++ other) ∨
      (¬ InWrittenOrder first second ∧
        yearText second ++ other < yearText first ++ rest) := by
  -- a sign is before every digit, and the plus sign is before the minus sign
  have digits : ∀ (year : Int) (behind front : JsString) (sign : CodeUnit),
      0 ≤ year → year ≤ 9999 → sign.val < 0x30 →
        sign :: front < yearText year ++ behind := by
    intro year behind front sign nonnegative short isSign
    rw [yearText, if_pos ⟨nonnegative, short⟩]
    refine List.cons_lt_cons_iff.mpr (.inl ?_)
    rw [Fin.lt_def, digitUnit, Fin.val_ofNat]
    omega
  unfold InWrittenOrder
  by_cases expanded : 9999 < second
  · have secondText : yearText second = 0x2B :: padded 6 second.natAbs := by
      rw [yearText, if_neg (by omega), if_neg (by omega)]
    rw [secondText, List.cons_append]
    by_cases firstExpanded : 9999 < first
    · left
      refine ⟨⟨by omega, by omega⟩, ?_⟩
      rw [yearText, if_neg (by omega), if_neg (by omega)]
      exact cons_lt_cons (padded_append_lt (by omega) (by omega) _ _)
    · right
      refine ⟨by omega, ?_⟩
      by_cases negative : first < 0
      · rw [yearText, if_neg (by omega), if_pos negative]
        exact List.cons_lt_cons_iff.mpr (.inl (by decide))
      · exact digits first _ _ _ (by omega) (by omega) (by decide)
  · by_cases negative : first < 0
    · have firstText : yearText first = 0x2D :: padded 6 first.natAbs := by
        rw [yearText, if_neg (by omega), if_pos negative]
      rw [firstText, List.cons_append]
      by_cases secondNegative : second < 0
      · right
        refine ⟨by omega, ?_⟩
        rw [yearText, if_neg (by omega), if_pos secondNegative]
        exact cons_lt_cons (padded_append_lt (by omega) (by omega) _ _)
      · left
        refine ⟨⟨by omega, by omega⟩, ?_⟩
        exact digits second _ _ _ (by omega) (by omega) (by decide)
    · left
      refine ⟨⟨by omega, by omega⟩, ?_⟩
      rw [yearText, yearText, if_pos ⟨by omega, by omega⟩,
        if_pos ⟨by omega, by omega⟩]
      exact padded_append_lt (by omega) (by omega) _ _

theorem yearOf_bounds
    {time : Int}
    (low : -maxTime ≤ time)
    (high : time ≤ maxTime) :
    -1000000 < yearOf time ∧ yearOf time < 1000000 := by
  rw [maxTime] at low high
  exact year_civilFromDays_bounds (by rw [msPerDay]; omega)
    (by rw [msPerDay]; omega)

/-- Of two times the strings are in order exactly if the years are. -/
theorem toISOString_lt_or
    (earlier : first < second)
    (low : -maxTime ≤ first)
    (high : second ≤ maxTime) :
    (InWrittenOrder (yearOf first) (yearOf second) ∧
        toISOString first < toISOString second) ∨
      (¬ InWrittenOrder (yearOf first) (yearOf second) ∧
        toISOString second < toISOString first) := by
  have firstYear := yearOf_bounds low (earlier.le.trans high)
  have secondYear := yearOf_bounds (low.trans earlier.le) high
  rw [toISOString_eq, toISOString_eq]
  rcases yearOf_lt_or earlier with laterYear | ⟨sameYear, later⟩
  · exact yearText_lt_or laterYear firstYear.1 secondYear.2 _ _
  · left
    rw [sameYear]
    exact ⟨⟨Iff.rfl, fun _ _ => rfl⟩, List.append_left_lt later⟩

/-! ## Canonical strings -/

/-- `Date.parse` of a text that it reads. -/
def timeOf (text : JsString) : Int :=
  (dateParse text).getD 0

/--
Both years or neither have a plus sign, and years with a minus sign are the same.
The first seven units are the sign and the digits of such a year.
-/
def ComparableYears (first second : JsString) : Prop :=
  (first.head? = some 0x2B ↔ second.head? = some 0x2B) ∧
    (first.head? = some 0x2D → second.head? = some 0x2D →
      first.take 7 = second.take 7)

instance (first second : JsString) : Decidable (ComparableYears first second) :=
  inferInstanceAs (Decidable (_ ∧ _))

theorem ComparableYears.symm
    {first second : JsString}
    (years : ComparableYears first second) :
    ComparableYears second first :=
  ⟨years.1.symm, fun second first => (years.2 first second).symm⟩

theorem dateParse_bounds
    {text : JsString}
    {time : Int}
    (parsed : dateParse text = some time) :
    -maxTime ≤ time ∧ time ≤ maxTime := by
  -- the fields and the separators are read one after the other
  iterate 14 obtain ⟨_, _, parsed⟩ := Option.bind_eq_some_iff.mp parsed
  obtain ⟨inRange, isTime⟩ := Option.ite_none_right_eq_some.mp parsed
  cases isTime
  exact inRange.2.2

theorem IsCanonicalDate.toISOString_timeOf
    {text : JsString}
    (canonical : IsCanonicalDate text) :
    -maxTime ≤ timeOf text ∧ timeOf text ≤ maxTime ∧
      toISOString (timeOf text) = text := by
  obtain ⟨time, parsed, written⟩ := canonical.exists_time
  have isTime : timeOf text = time := by rw [timeOf, parsed, Option.getD_some]
  obtain ⟨low, high⟩ := dateParse_bounds parsed
  rw [isTime]
  exact ⟨low, high, written⟩

theorem head?_toISOString (time : Int) :
    ((toISOString time).head? = some 0x2B ↔ 9999 < yearOf time) ∧
      ((toISOString time).head? = some 0x2D ↔ yearOf time < 0) := by
  rw [toISOString_eq]
  by_cases short : 0 ≤ yearOf time ∧ yearOf time ≤ 9999
  · have notSign : ∀ sign : CodeUnit, sign.val < 0x30 →
        (yearText (yearOf time) ++ afterYear time).head? ≠ some sign := by
      intro sign isSign same
      rw [yearText, if_pos short] at same
      have isDigit := Fin.ext_iff.mp (Option.some.inj same)
      rw [digitUnit, Fin.val_ofNat] at isDigit
      omega
    exact ⟨iff_of_false (notSign _ (by decide)) (by omega),
      iff_of_false (notSign _ (by decide)) (by omega)⟩
  · rw [yearText, if_neg short, List.cons_append, List.head?_cons]
    by_cases negative : yearOf time < 0
    · rw [if_pos negative]
      exact ⟨iff_of_false (by decide) (by omega), iff_of_true rfl negative⟩
    · rw [if_neg negative]
      exact ⟨iff_of_true rfl (by omega), iff_of_false (by decide) negative⟩

theorem take_toISOString
    {time : Int}
    (negative : yearOf time < 0) :
    (toISOString time).take 7 = yearText (yearOf time) := by
  have width : (yearText (yearOf time)).length = 7 := by
    rw [yearText, if_neg (by omega), List.length_cons, length_padded]
  rw [toISOString_eq, List.take_append_of_le_length width.ge,
    List.take_of_length_le width.le]

theorem yearText_inj
    (firstBounds : -1000000 < first ∧ first < 1000000)
    (secondBounds : -1000000 < second ∧ second < 1000000) :
    yearText first = yearText second ↔ first = second := by
  refine ⟨fun same => ?_, congrArg yearText⟩
  rcases lt_trichotomy first second with earlier | equal | later
  · rcases yearText_lt_or earlier firstBounds.1 secondBounds.2 [] [] with
      ⟨_, less⟩ | ⟨_, less⟩
    · exact absurd (same ▸ less) (lt_irrefl _)
    · exact absurd (same ▸ less) (lt_irrefl _)
  · exact equal
  · rcases yearText_lt_or later secondBounds.1 firstBounds.2 [] [] with
      ⟨_, less⟩ | ⟨_, less⟩
    · exact absurd (same ▸ less) (lt_irrefl _)
    · exact absurd (same ▸ less) (lt_irrefl _)

/-- What the years of two date strings look like tells how they are compared. -/
theorem inWrittenOrder_iff
    (firstBounds : -maxTime ≤ first ∧ first ≤ maxTime)
    (secondBounds : -maxTime ≤ second ∧ second ≤ maxTime) :
    InWrittenOrder (yearOf first) (yearOf second) ↔
      ComparableYears (toISOString first) (toISOString second) := by
  obtain ⟨firstPlus, firstMinus⟩ := head?_toISOString first
  obtain ⟨secondPlus, secondMinus⟩ := head?_toISOString second
  rw [InWrittenOrder, ComparableYears, firstPlus, secondPlus, firstMinus,
    secondMinus]
  refine and_congr_right fun _ => forall_congr' fun firstNegative =>
    forall_congr' fun secondNegative => ?_
  rw [take_toISOString firstNegative, take_toISOString secondNegative,
    yearText_inj (yearOf_bounds firstBounds.1 firstBounds.2)
      (yearOf_bounds secondBounds.1 secondBounds.2)]

theorem InWrittenOrder.symm
    (ordered : InWrittenOrder first second) :
    InWrittenOrder second first :=
  ⟨ordered.1.symm, fun second first => (ordered.2 first second).symm⟩

/-- Canonical strings are compared as their times exactly if the years allow it. -/
theorem IsCanonicalDate.lt_iff
    {first second : JsString}
    (firstCanonical : IsCanonicalDate first)
    (secondCanonical : IsCanonicalDate second) :
    (first < second ↔ timeOf first < timeOf second) ↔
      ComparableYears first second := by
  obtain ⟨firstLow, firstHigh, firstText⟩ := firstCanonical.toISOString_timeOf
  obtain ⟨secondLow, secondHigh, secondText⟩ :=
    secondCanonical.toISOString_timeOf
  have years := inWrittenOrder_iff ⟨firstLow, firstHigh⟩
    ⟨secondLow, secondHigh⟩
  rw [firstText, secondText] at years
  rw [← years]
  rcases lt_trichotomy (timeOf first) (timeOf second) with
    earlier | same | later
  · rcases toISOString_lt_or earlier firstLow secondHigh with
      ⟨ordered, less⟩ | ⟨reversed, less⟩
    · rw [firstText, secondText] at less
      exact iff_of_true (iff_of_true less earlier) ordered
    · rw [firstText, secondText] at less
      exact iff_of_false (fun claim => lt_asymm less (claim.mpr earlier))
        reversed
  · have sameText : first = second := by rw [← firstText, same, secondText]
    rw [sameText]
    exact iff_of_true (iff_of_false (lt_irrefl _) (lt_irrefl _))
      ⟨Iff.rfl, fun _ _ => rfl⟩
  · rcases toISOString_lt_or later secondLow firstHigh with
      ⟨ordered, less⟩ | ⟨reversed, less⟩
    · rw [firstText, secondText] at less
      exact iff_of_true (iff_of_false (lt_asymm less) (lt_asymm later))
        ordered.symm
    · rw [firstText, secondText] at less
      exact iff_of_false (fun claim => lt_asymm later (claim.mp less))
        fun ordered => reversed ordered.symm

end Js
