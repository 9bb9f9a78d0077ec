import EntitySearch.Schema.Timestamp

/-!
# The calendar

A day has its place in an era of four centuries: some whole centuries, then some whole spans of four
years, then some whole years, then some days.  Years begin in March, so the last day of a leap year
is the last of its span, and the last span of a century has none, but for the last century of all.
Every day has a place, and the date is read off it.

Main statements: `exists_place`, `dateFromDays_fromEpoch`, `daysFromDate_of_dateFromDays`,
`isDate_of_dateFromDays`.
-/
set_option autoImplicit false
namespace EntitySearch
namespace Calendar

/-- The place of a day: its era, and in it the whole centuries, spans, years and days before it. -/
structure Place where
  era : Int
  centuries : Int
  spans : Int
  years : Int
  days : Int
  centuries_range : 0 ≤ centuries ∧ centuries ≤ 3
  spans_range : 0 ≤ spans ∧ spans ≤ 24
  years_range : 0 ≤ years ∧ years ≤ 3
  days_range : 0 ≤ days ∧ (days ≤ 364 ∨ days = 365 ∧ years = 3 ∧ (spans ≠ 24 ∨ centuries = 3))

namespace Place

def yearOfEra (place : Place) : Int := 100 * place.centuries + 4 * place.spans + place.years

def dayOfEra (place : Place) : Int :=
  36524 * place.centuries + 1461 * place.spans + 365 * place.years + place.days

def fromEpoch (place : Place) : Int := 146097 * place.era + place.dayOfEra - 719468

def monthFromMarch (place : Place) : Int := (5 * place.days + 2) / 153

def month (place : Place) : Int :=
  if place.monthFromMarch < 10 then place.monthFromMarch + 3 else place.monthFromMarch - 9

def dayOfMonth (place : Place) : Int := place.days - (153 * place.monthFromMarch + 2) / 5 + 1

/-- The year of the calendar: January and February belong to the year before. -/
def year (place : Place) : Int :=
  place.yearOfEra + place.era * 400 + if place.month ≤ 2 then 1 else 0

variable (place : Place)

theorem dayOfEra_range : 0 ≤ place.dayOfEra ∧ place.dayOfEra < 146097 := by
  obtain ⟨era, c, q, s, d, cs, qs, ss, ds⟩ := place
  simp only [dayOfEra]
  omega

theorem yearOfEra_range : 0 ≤ place.yearOfEra ∧ place.yearOfEra < 400 := by
  obtain ⟨era, c, q, s, d, cs, qs, ss, ds⟩ := place
  simp only [yearOfEra]
  omega

theorem dayOfEra_eq : place.dayOfEra =
    365 * place.yearOfEra + place.yearOfEra / 4 - place.yearOfEra / 100 + place.days := by
  obtain ⟨era, c, q, s, d, cs, qs, ss, ds⟩ := place
  simp only [dayOfEra, yearOfEra]
  omega

theorem monthFromMarch_range : 0 ≤ place.monthFromMarch ∧ place.monthFromMarch ≤ 11 := by
  obtain ⟨low, high⟩ := place.days_range
  unfold monthFromMarch
  omega

theorem month_range : 1 ≤ place.month ∧ place.month ≤ 12 := by
  have range := place.monthFromMarch_range
  unfold month
  split <;> omega

theorem dayOfMonth_pos : 1 ≤ place.dayOfMonth := by
  obtain ⟨low, high⟩ := place.days_range
  unfold dayOfMonth monthFromMarch
  omega

end Place

theorem exists_place (days : Int) : ∃ place : Place, place.fromEpoch = days := by
  obtain ⟨d, isDay⟩ : ∃ d, d = (days + 719468) % 146097 := ⟨_, rfl⟩
  -- The last day of an era would begin a fifth century, and the last one of a span a fifth year.
  obtain ⟨c, cLow, cHigh, cBelow, cAbove⟩ : ∃ c : Int, 0 ≤ c ∧ c ≤ 3 ∧ 36524 * c ≤ d ∧
      (d < 36524 * c + 36524 ∨ c = 3 ∧ d = 146096) := by
    by_cases last : d = 146096
    · exact ⟨3, by omega⟩
    · exact ⟨d / 36524, by omega⟩
  obtain ⟨q, isSpan⟩ : ∃ q, q = (d - 36524 * c) / 1461 := ⟨_, rfl⟩
  obtain ⟨s, sLow, sHigh, sBelow, sAbove⟩ : ∃ s : Int, 0 ≤ s ∧ s ≤ 3 ∧
      365 * s ≤ d - 36524 * c - 1461 * q ∧
      (d - 36524 * c - 1461 * q < 365 * s + 365 ∨ s = 3 ∧ d - 36524 * c - 1461 * q = 1460) := by
    by_cases last : d - 36524 * c - 1461 * q = 1460
    · exact ⟨3, by omega⟩
    · exact ⟨(d - 36524 * c - 1461 * q) / 365, by omega⟩
  refine ⟨⟨(days + 719468) / 146097, c, q, s, d - 36524 * c - 1461 * q - 365 * s, ⟨cLow, cHigh⟩,
    by omega, ⟨sLow, sHigh⟩, by omega⟩, ?_⟩
  simp only [Place.fromEpoch, Place.dayOfEra]
  omega

variable (place : Place)

/-- The year of the era is told by its days: the four corrections make all years equally long. -/
theorem yearOfEra_of_dayOfEra :
    (place.dayOfEra - place.dayOfEra / 1460 + place.dayOfEra / 36524 - place.dayOfEra / 146096) /
      365 = place.yearOfEra := by
  obtain ⟨era, c, q, s, d, cs, qs, ss, ds⟩ := place
  simp only [Place.dayOfEra, Place.yearOfEra]
  obtain ⟨e, isDay⟩ : ∃ e, e = 36524 * c + 1461 * q + 365 * s + d := ⟨_, rfl⟩
  rw [← isDay]
  have centuries : e / 36524 - e / 146096 = c := by
    by_cases last : e = 146096
    · subst last
      omega
    · have below : e < 36524 * c + 36524 := by omega
      omega
  have corrected : e / 1460 = 25 * c + q + (24 * c + q + 365 * s + d) / 1460 := by omega
  omega

theorem dateFromDays_fromEpoch :
    dateFromDays place.fromEpoch = (place.year, place.month.toNat, place.dayOfMonth.toNat) := by
  obtain ⟨low, high⟩ := place.dayOfEra_range
  have era : (place.fromEpoch + 719468) / 146097 = place.era := by
    unfold Place.fromEpoch
    omega
  have dayOfEra : place.fromEpoch + 719468 - place.era * 146097 = place.dayOfEra := by
    unfold Place.fromEpoch
    omega
  have days : place.dayOfEra - (365 * place.yearOfEra + place.yearOfEra / 4 -
      place.yearOfEra / 100) = place.days := by
    have whole := place.dayOfEra_eq
    omega
  unfold dateFromDays
  simp (disch := decide) only [Int.fdiv_eq_ediv_of_nonneg, era, dayOfEra, yearOfEra_of_dayOfEra,
    days]
  rfl

theorem daysFromDate_of_place :
    daysFromDate place.year place.month.toNat place.dayOfMonth.toNat = place.fromEpoch := by
  obtain ⟨monthLow, monthHigh⟩ := place.month_range
  have dayPos := place.dayOfMonth_pos
  have month : ((place.month.toNat : Nat) : Int) = place.month := Int.toNat_of_nonneg (by omega)
  have day : ((place.dayOfMonth.toNat : Nat) : Int) = place.dayOfMonth :=
    Int.toNat_of_nonneg (by omega)
  have early : place.month.toNat ≤ 2 ↔ place.month ≤ 2 := by omega
  have fromMarch : (if place.month ≤ 2 then place.month + 9 else place.month - 3) =
      place.monthFromMarch := by
    have range := place.monthFromMarch_range
    unfold Place.month
    split <;> split <;> omega
  have year : (if place.month ≤ 2 then place.year - 1 else place.year) =
      place.yearOfEra + place.era * 400 := by
    unfold Place.year
    split <;> omega
  have era : (place.yearOfEra + place.era * 400) / 400 = place.era := by
    have range := place.yearOfEra_range
    omega
  have ofEra : place.yearOfEra + place.era * 400 - place.era * 400 = place.yearOfEra := by omega
  have whole := place.dayOfEra_eq
  have ofMonth : place.dayOfMonth = place.days - (153 * place.monthFromMarch + 2) / 5 + 1 := rfl
  unfold daysFromDate
  simp (disch := decide) only [Int.fdiv_eq_ediv_of_nonneg, early, month, day, fromMarch, year, era,
    ofEra]
  unfold Place.fromEpoch
  omega

/-! ## Dates -/

theorem isLeapYear_of_last (last : place.days = 365) : isLeapYear place.year = true := by
  obtain ⟨era, c, q, s, d, cs, qs, ss, ds⟩ := place
  subst last
  have year : Place.year ⟨era, c, q, s, 365, cs, qs, ss, ds⟩ =
      100 * c + 4 * q + s + era * 400 + 1 := rfl
  rw [year]
  unfold isLeapYear
  simp only [Bool.and_eq_true, Bool.or_eq_true, beq_iff_eq, bne_iff_ne]
  omega

theorem dayOfMonth_le : place.dayOfMonth ≤ daysInMonth place.year place.month.toNat := by
  obtain ⟨low, high⟩ := place.days_range
  have range := place.monthFromMarch_range
  have ofMonth : place.dayOfMonth = place.days - (153 * place.monthFromMarch + 2) / 5 + 1 := rfl
  have fromMarch : place.monthFromMarch = (5 * place.days + 2) / 153 := rfl
  have month : place.month =
      if place.monthFromMarch < 10 then place.monthFromMarch + 3 else place.monthFromMarch - 9 := rfl
  unfold daysInMonth
  split
  · next february =>
    have beforeMarch : place.monthFromMarch = 11 := by
      split at month <;> omega
    split
    · omega
    · next common =>
      have notLast : place.days ≠ 365 := fun last => common (isLeapYear_of_last place last)
      omega
  · split
    · next short =>
      simp only [List.mem_cons, List.not_mem_nil, or_false] at short
      split at month <;> omega
    · omega

theorem daysFromDate_ends :
    daysFromDate minYear 1 1 = -96465292 ∧ daysFromDate maxYear 12 31 = 95026236 := by
  decide +kernel

theorem year_range (low : daysFromDate minYear 1 1 ≤ place.fromEpoch)
    (high : place.fromEpoch ≤ daysFromDate maxYear 12 31) :
    minYear ≤ place.year ∧ place.year ≤ maxYear := by
  rw [daysFromDate_ends.1] at low
  rw [daysFromDate_ends.2] at high
  have dayRange := place.dayOfEra_range
  have yearRange := place.yearOfEra_range
  have whole := place.dayOfEra_eq
  have fromEpoch : place.fromEpoch = 146097 * place.era + place.dayOfEra - 719468 := rfl
  obtain ⟨daysLow, daysHigh⟩ := place.days_range
  have fromMarch : place.monthFromMarch = (5 * place.days + 2) / 153 := rfl
  have inside : place.era = -656 ∨ (-656 < place.era ∧ place.era < 655) ∨ place.era = 655 := by
    omega
  unfold Place.year Place.month minYear maxYear
  rcases inside with first | between | last
  · rw [first] at fromEpoch ⊢
    split <;> split <;> omega
  · split <;> split <;> omega
  · rw [last] at fromEpoch ⊢
    split <;> split <;> omega

variable {days : Int} {year : Int} {month day : Nat}

/-- The date of a day gives the day back. -/
theorem daysFromDate_of_dateFromDays (date : dateFromDays days = (year, month, day)) :
    daysFromDate year month day = days := by
  obtain ⟨place, rfl⟩ := exists_place days
  rw [dateFromDays_fromEpoch] at date
  cases date
  exact daysFromDate_of_place place

theorem isDate_of_dateFromDays (date : dateFromDays days = (year, month, day))
    (low : daysFromDate minYear 1 1 ≤ days) (high : days ≤ daysFromDate maxYear 12 31) :
    isDate year month day = true := by
  obtain ⟨place, rfl⟩ := exists_place days
  rw [dateFromDays_fromEpoch] at date
  cases date
  obtain ⟨monthLow, monthHigh⟩ := place.month_range
  have dayLow := place.dayOfMonth_pos
  have dayHigh := dayOfMonth_le place
  obtain ⟨yearLow, yearHigh⟩ := year_range place low high
  simp only [isDate, Bool.and_eq_true, decide_eq_true_eq]
  omega

end Calendar
end EntitySearch
