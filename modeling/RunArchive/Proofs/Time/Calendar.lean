import Mathlib.Tactic.ByContra
import Mathlib.Tactic.IntervalCases
import RunArchive.Time.Instant

/-!
# The calendar in both directions

Every day has a date, and the number of the day can be recovered from it.

An era is counted in years that begin in March.  Which of them a day lies in is settled at its
edges: the division that finds the year gives the right one for the first and the last day of each
of the 400 years (`yearOfEra_edges`), and it never goes back from one day to the next
(`yearOfEra_mono`).
-/

namespace RunArchive.Date

/-! ## Years of an era -/

/-- The days of an era that come before one of its years. -/
def daysBefore (year : Int) : Int := year * 365 + year / 4 - year / 100 + year / 400

/-- The year of an era in which a day of it lies. -/
def yearOfEra (day : Int) : Int := (day - day / 1460 + day / 36524 - day / 146096) / 365

theorem yearOfEra_edges :
    ∀ year : Fin 400,
      yearOfEra (daysBefore year) = year ∧ yearOfEra (daysBefore (year + 1) - 1) = year := by
  decide +kernel

theorem yearOfEra_mono {earlier later : Int} (ordered : earlier ≤ later) :
    yearOfEra earlier ≤ yearOfEra later := by
  apply Int.ediv_le_ediv (by decide)
  omega

section Era

variable {day : Int} (low : 0 ≤ day) (high : day < daysInEra)

include low high

theorem yearOfEra_range : 0 ≤ yearOfEra day ∧ yearOfEra day < 400 := by
  simp only [yearOfEra, daysInEra] at *
  omega

/-- A day lies in its year. -/
theorem daysBefore_yearOfEra :
    daysBefore (yearOfEra day) ≤ day ∧ day < daysBefore (yearOfEra day + 1) := by
  rcases yearOfEra_range low high with ⟨notBefore, notAfter⟩
  have edges (year : Int) (first : 0 ≤ year) (last : year < 400) :
      yearOfEra (daysBefore year) = year ∧ yearOfEra (daysBefore (year + 1) - 1) = year := by
    have table := yearOfEra_edges ⟨year.toNat, by omega⟩
    simpa only [Int.toNat_of_nonneg first] using table
  constructor
  · by_contra early
    by_cases first : yearOfEra day = 0
    · rw [first] at early
      exact early low
    · have before := (edges (yearOfEra day - 1) (by omega) (by omega)).2
      rw [Int.sub_add_cancel] at before
      have back : yearOfEra day ≤ yearOfEra (daysBefore (yearOfEra day) - 1) :=
        yearOfEra_mono (by omega)
      omega
  · by_contra late
    by_cases last : yearOfEra day = 399
    · rw [last] at late
      exact late high
    · have after := (edges (yearOfEra day + 1) (by omega) (by omega)).1
      have forth : yearOfEra (daysBefore (yearOfEra day + 1)) ≤ yearOfEra day :=
        yearOfEra_mono (by omega)
      omega

theorem dayOfYear_range :
    0 ≤ day - daysBefore (yearOfEra day) ∧ day - daysBefore (yearOfEra day) ≤ 365 := by
  rcases daysBefore_yearOfEra low high with ⟨notBefore, notAfter⟩
  have length : daysBefore (yearOfEra day + 1) - daysBefore (yearOfEra day) ≤ 366 := by
    simp only [daysBefore]
    omega
  omega

end Era

/-! ## Months of a year -/

/-- The days of a year that come before one of its months, March having the number 0. -/
def daysBeforeMonth (month : Int) : Int := (153 * month + 2) / 5

/-- A day lies in its month. -/
theorem daysBeforeMonth_le {day : Int} (low : 0 ≤ day) (high : day ≤ 365) :
    0 ≤ (5 * day + 2) / 153 ∧ (5 * day + 2) / 153 ≤ 11 ∧
      daysBeforeMonth ((5 * day + 2) / 153) ≤ day ∧
      day < daysBeforeMonth ((5 * day + 2) / 153 + 1) := by
  simp only [daysBeforeMonth]
  omega

/-! ## Days and dates -/

/--
A day with its place: its era, the year of the era, the month of the year and the day of the month.
-/
structure Place (days era year month day : Int) : Prop where
  year_range : 0 ≤ year ∧ year < 400
  month_range : 0 ≤ month ∧ month ≤ 11
  first : 1 ≤ day
  inMonth : daysBeforeMonth month + day ≤ daysBeforeMonth (month + 1)
  inYear : daysBefore year + daysBeforeMonth month + day ≤ daysBefore (year + 1)
  days_eq :
    days + epochDay =
      era * daysInEra + daysBefore year + daysBeforeMonth month + day - 1

/-- The date with a place: January and February belong to the next year. -/
def ofPlace (era year month day : Int) : Date where
  year := if month < 10 then year + era * 400 else year + era * 400 + 1
  month := (if month < 10 then month + 3 else month - 9).toNat
  day := day.toNat

/-- The parts of the computation of a date are those of a place. -/
theorem ofDays_eq
    {days era dayOfEra year dayOfYear month : Int}
    (eraIs : (days + epochDay) / daysInEra = era)
    (dayOfEraIs : (days + epochDay) % daysInEra = dayOfEra)
    (yearIs : yearOfEra dayOfEra = year)
    (dayOfYearIs : dayOfEra - daysBefore year = dayOfYear)
    (monthIs : (5 * dayOfYear + 2) / 153 = month)
    (yearRange : 0 ≤ year ∧ year < 400) (monthRange : 0 ≤ month ∧ month ≤ 11) :
    ofDays days = ofPlace era year month (dayOfYear - daysBeforeMonth month + 1) := by
  have inEra : dayOfEra - (365 * year + year / 4 - year / 100) = dayOfYear := by
    rw [daysBefore] at dayOfYearIs
    omega
  rw [yearOfEra] at yearIs
  simp only [ofDays, eraIs, dayOfEraIs, yearIs, inEra, monthIs, ofPlace, daysBeforeMonth]
  by_cases early : month < 10
  · have march : ¬ month + 3 ≤ 2 := by omega
    simp only [if_pos early, if_neg march]
  · have february : month - 9 ≤ 2 := by omega
    simp only [if_neg early, if_pos february]

/-- Every day has a place. -/
theorem place_ofDays (days : Int) :
    ∃ era year month day,
      Place days era year month day ∧ ofDays days = ofPlace era year month day := by
  have low : 0 ≤ (days + epochDay) % daysInEra := Int.emod_nonneg _ (by decide)
  have high : (days + epochDay) % daysInEra < daysInEra := Int.emod_lt_of_pos _ (by decide)
  have split := Int.mul_ediv_add_emod (days + epochDay) daysInEra
  have yearRange := yearOfEra_range low high
  have inYear := (daysBefore_yearOfEra low high).2
  rcases dayOfYear_range low high with ⟨first, last⟩
  rcases daysBeforeMonth_le first last with ⟨march, february, inMonth, notAfter⟩
  refine ⟨_, _, _, _, ?_, ofDays_eq rfl rfl rfl rfl rfl yearRange ⟨march, february⟩⟩
  exact {
    year_range := yearRange
    month_range := ⟨march, february⟩
    first := by omega
    inMonth := by omega
    inYear := by omega
    days_eq := by
      rw [Int.mul_comm] at split
      omega }

/-- What the number of a day is computed from, by the place of the day. -/
theorem marchYear_ofPlace
    {days era year month day : Int} (place : Place days era year month day) :
    let date := ofPlace era year month day
    (if date.month ≤ 2 then date.year - 1 else date.year) = year + era * 400 ∧
      ((date.month : Int) + 9) % 12 = month ∧ (date.day : Int) = day := by
  rcases place with ⟨-, ⟨march, february⟩, first, -, -, -⟩
  by_cases early : month < 10
  · simp only [ofPlace, if_pos early]
    split <;> omega
  · simp only [ofPlace, if_neg early]
    split <;> omega

theorem toDays_ofPlace
    {days era year month day : Int} (place : Place days era year month day) :
    (ofPlace era year month day).toDays = days := by
  rcases marchYear_ofPlace place with ⟨yearIs, monthIs, dayIs⟩
  rcases place with ⟨⟨yearFirst, yearLast⟩, -, -, -, -, split⟩
  have eraIs : (year + era * 400) / 400 = era := by omega
  have yearOfEraIs : (year + era * 400) % 400 = year := by omega
  simp only [toDays, yearIs, monthIs, dayIs, eraIs, yearOfEraIs]
  simp only [daysBefore, daysBeforeMonth] at split
  omega

/-- The number of a day can be recovered from its date. -/
theorem toDays_ofDays (days : Int) : (ofDays days).toDays = days := by
  rcases place_ofDays days with ⟨era, year, month, day, place, dated⟩
  rw [dated, toDays_ofPlace place]

/-! ## Dates that exist -/

/-- A year from March on has the length of the calendar year in which it ends. -/
theorem length_of_year (year : Int) :
    daysBefore (year + 1) - daysBefore year = if isLeapYear (year + 1) then 366 else 365 := by
  by_cases leap : isLeapYear (year + 1) = true
  · rw [if_pos leap]
    rw [isLeapYear, decide_eq_true_eq] at leap
    simp only [daysBefore]
    omega
  · rw [if_neg leap]
    rw [isLeapYear, decide_eq_true_eq] at leap
    simp only [daysBefore]
    omega

theorem isLeapYear_era (year era : Int) : isLeapYear (year + era * 400) = isLeapYear year := by
  have byFour : (year + era * 400) % 4 = year % 4 := by omega
  have byHundred : (year + era * 400) % 100 = year % 100 := by omega
  have byFourHundred : (year + era * 400) % 400 = year % 400 := by omega
  simp only [isLeapYear, byFour, byHundred, byFourHundred]

/-- The month of a place has its day. -/
theorem day_le_daysInMonth
    {days era year month day : Int} (place : Place days era year month day) :
    (ofPlace era year month day).day ≤
      daysInMonth (ofPlace era year month day).year (ofPlace era year month day).month := by
  rcases place with ⟨-, ⟨march, february⟩, first, inMonth, inYear, -⟩
  simp only [daysBeforeMonth] at inMonth inYear
  by_cases last : month = 11
  · subst last
    have length := length_of_year year
    have sameLength : isLeapYear (year + era * 400 + 1) = isLeapYear (year + 1) := by
      rw [← isLeapYear_era (year + 1) era]
      congr 1
      omega
    change day.toNat ≤ if isLeapYear (year + era * 400 + 1) then 29 else 28
    rw [sameLength]
    by_cases leap : isLeapYear (year + 1) = true
    · rw [if_pos leap]
      omega
    · rw [if_neg leap] at length ⊢
      omega
  · interval_cases month <;> simp [ofPlace, daysInMonth] at * <;> omega

/-- The first day of the first year that is kept. -/
def firstKept : Int := -96465292

/-- The last day of the last year that is kept. -/
def lastKept : Int := 95026236

theorem daysBefore_era (year era : Int) :
    daysBefore (year + era * 400) = era * daysInEra + daysBefore year := by
  simp only [daysBefore, daysInEra]
  omega

theorem daysBefore_mono {earlier later : Int} (ordered : earlier ≤ later) :
    daysBefore earlier ≤ daysBefore later := by
  simp only [daysBefore]
  omega

/-- A day that is kept lies in a year that is kept. -/
theorem year_range
    {days era year month day : Int} (place : Place days era year month day)
    (low : firstKept ≤ days) (high : days ≤ lastKept) :
    firstYear ≤ (ofPlace era year month day).year ∧
      (ofPlace era year month day).year ≤ lastYear := by
  rcases place with ⟨-, ⟨march, february⟩, first, inMonth, inYear, split⟩
  have start := daysBefore_era year era
  have stop := daysBefore_era (year + 1) era
  have started : 0 ≤ daysBeforeMonth month := by
    rw [daysBeforeMonth]
    omega
  simp only [firstKept, lastKept, epochDay] at low high split
  have notBefore : -262144 ≤ year + era * 400 := by
    by_contra early
    have passed : daysBefore (year + 1 + era * 400) ≤ daysBefore (-262144) :=
      daysBefore_mono (by omega)
    have value : daysBefore (-262144) = -95746130 := rfl
    omega
  have notAfter : year + era * 400 ≤ 262142 := by
    by_contra late
    have ahead : daysBefore 262143 ≤ daysBefore (year + era * 400) :=
      daysBefore_mono (by omega)
    have value : daysBefore 262143 = 95745764 := rfl
    omega
  -- In the two years at the edges, the months from March to December decide.
  have spring : year + era * 400 = -262144 → ¬ month < 10 := by
    intro edge early
    rw [edge] at start
    have value : daysBefore (-262144) = -95746130 := rfl
    simp only [daysBeforeMonth] at inMonth split
    omega
  have winter : year + era * 400 = 262142 → month < 10 := by
    intro edge
    rw [edge] at start
    have value : daysBefore 262142 = 95745399 := rfl
    simp only [daysBeforeMonth] at split
    omega
  simp only [ofPlace, firstYear, lastYear]
  split_ifs <;> omega

/-- The date of a day that is kept exists. -/
theorem exists_ofDays {days : Int} (low : firstKept ≤ days) (high : days ≤ lastKept) :
    (ofDays days).Exists := by
  rcases place_ofDays days with ⟨era, year, month, day, place, dated⟩
  rw [dated]
  have positive : 1 ≤ day.toNat := by
    have first := place.first
    omega
  rcases year_range place low high with ⟨notBefore, notAfter⟩
  exact ⟨notBefore, notAfter, positive, day_le_daysInMonth place⟩

end RunArchive.Date
