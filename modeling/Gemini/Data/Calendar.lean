import Mathlib.Tactic.NormNum
import Mathlib.Tactic.IntervalCases

/-!
# The Gregorian calendar

The proleptic Gregorian calendar over all integers. `dayNumber` counts the days from the first of
January of the year 1, `next` is the day after a date, and `ofDayNumber` finds the date of a day.
-/

namespace Gemini.Data.Calendar

/-- A day of a month of a year. -/
structure Date where
  year : ℤ
  month : ℕ
  day : ℕ
deriving DecidableEq

/-- The years with a leap day. -/
def isLeap (year : ℤ) : Bool := year % 4 = 0 && (year % 100 ≠ 0 || year % 400 = 0)

/-- The days of a month. -/
def monthLength (year : ℤ) : ℕ → ℕ
  | 2 => if isLeap year then 29 else 28
  | 4 | 6 | 9 | 11 => 30
  | _ => 31

/-- The date exists. -/
structure Date.Valid (date : Date) : Prop where
  firstMonth : 1 ≤ date.month
  lastMonth : date.month ≤ 12
  firstDay : 1 ≤ date.day
  lastDay : date.day ≤ monthLength date.year date.month

/-! ## Counting days -/

/-- The days before a year. -/
def yearStart (year : ℤ) : ℤ :=
  365 * (year - 1) + (year - 1) / 4 - (year - 1) / 100 + (year - 1) / 400

/-- The days of a year before a month. -/
def monthStart (year : ℤ) : ℕ → ℕ
  | 0 | 1 => 0
  | month + 2 => monthStart year (month + 1) + monthLength year (month + 1)

/-- The number of a day, counted from the first day of year 1. -/
def dayNumber (date : Date) : ℤ :=
  yearStart date.year + monthStart date.year date.month + date.day - 1

/-- The days of a year. -/
def yearLength (year : ℤ) : ℕ := if isLeap year then 366 else 365

/-- The day after a date. -/
def next (date : Date) : Date :=
  if date.day < monthLength date.year date.month then { date with day := date.day + 1 }
  else if date.month < 12 then { date with month := date.month + 1, day := 1 }
  else { year := date.year + 1, month := 1, day := 1 }

/-- A year starts where the one before it ends. -/
theorem yearStart_succ (year : ℤ) : yearStart (year + 1) = yearStart year + yearLength year := by
  unfold yearStart yearLength isLeap
  split
  · next leap =>
      simp only [ne_eq, Bool.and_eq_true, Bool.or_eq_true, decide_eq_true_eq] at leap
      omega
  · next common =>
      simp only [ne_eq, Bool.and_eq_true, Bool.or_eq_true, decide_eq_true_eq] at common
      omega

/-- No month is empty. -/
theorem monthLength_pos (year : ℤ) (month : ℕ) : 1 ≤ monthLength year month := by
  unfold monthLength
  split
  · split <;> decide
  · decide
  · decide
  · decide
  · decide
  · decide

/-- No month has more than 31 days. -/
theorem monthLength_le (year : ℤ) (month : ℕ) : monthLength year month ≤ 31 := by
  unfold monthLength
  split
  · split <;> decide
  · decide
  · decide
  · decide
  · decide
  · decide

/-- A month starts where the one before it ends. -/
theorem monthStart_succ (year : ℤ) {month : ℕ} (first : 1 ≤ month) :
    monthStart year (month + 1) = monthStart year month + monthLength year month := by
  obtain ⟨before, rfl⟩ := Nat.exists_eq_add_of_le' first
  rfl

/-- December ends with the year. -/
theorem yearLength_eq (year : ℤ) : monthStart year 12 + monthLength year 12 = yearLength year := by
  simp only [monthStart, monthLength, yearLength]
  split <;> rfl

/-- A day is counted after the day before it. -/
theorem dayNumber_next {date : Date} (valid : date.Valid) :
    (next date).Valid ∧ dayNumber (next date) = dayNumber date + 1 := by
  obtain ⟨firstMonth, lastMonth, firstDay, lastDay⟩ := valid
  unfold next
  split
  · next sameMonth =>
      refine ⟨⟨firstMonth, lastMonth, Nat.le_add_left 1 _, sameMonth⟩, ?_⟩
      simp only [dayNumber]
      omega
  · split
    · next notLast sameYear =>
        refine ⟨⟨Nat.le_add_left 1 _, sameYear, le_rfl, monthLength_pos _ _⟩, ?_⟩
        simp only [dayNumber, monthStart_succ date.year firstMonth]
        omega
    · next notLast notSameYear =>
        refine ⟨⟨le_rfl, Nat.le_add_left 1 11, le_rfl, monthLength_pos _ _⟩, ?_⟩
        have december : date.month = 12 := by omega
        have lengths := yearLength_eq date.year
        simp only [dayNumber, yearStart_succ, december, monthStart] at lengths notLast lastDay ⊢
        omega

/-! ## The date of a day -/

/-- A month ends before every later one. -/
theorem monthStart_le {year : ℤ} {month other : ℕ} (first : 1 ≤ month) (later : month < other) :
    monthStart year month + monthLength year month ≤ monthStart year other := by
  induction other, later using Nat.le_induction with
  | base => exact (monthStart_succ year first).ge
  | succ other later inductionHypothesis =>
      rw [monthStart_succ year (first.trans (by omega))]
      omega

/-- A year ends before every later one. -/
theorem yearStart_le {year other : ℤ} (later : year < other) :
    yearStart year + yearLength year ≤ yearStart other := by
  induction other, later using Int.leInduction with
  | base => exact (yearStart_succ year).ge
  | succ other later inductionHypothesis =>
      rw [yearStart_succ]
      omega

/-- A date is in its year. -/
theorem Date.Valid.inYear {date : Date} (valid : date.Valid) :
    monthStart date.year date.month + date.day ≤ yearLength date.year := by
  obtain ⟨firstMonth, lastMonth, firstDay, lastDay⟩ := valid
  have lengths := yearLength_eq date.year
  rcases Nat.lt_or_eq_of_le lastMonth with before | december
  · have start := @monthStart_le date.year date.month 12 firstMonth before
    omega
  · rw [december] at lastDay ⊢
    omega

/-- Different dates are counted differently. -/
theorem dayNumber_injective {date other : Date} (valid : date.Valid) (otherValid : other.Valid)
    (same : dayNumber date = dayNumber other) : date = other := by
  have inYear := valid.inYear
  have otherInYear := otherValid.inYear
  obtain ⟨firstMonth, lastMonth, firstDay, lastDay⟩ := valid
  obtain ⟨otherFirstMonth, otherLastMonth, otherFirstDay, otherLastDay⟩ := otherValid
  obtain ⟨year, month, day⟩ := date
  obtain ⟨otherYear, otherMonth, otherDay⟩ := other
  simp only [dayNumber] at *
  have sameYear : year = otherYear := by
    rcases lt_trichotomy year otherYear with before | isSame | after
    · have starts := yearStart_le before
      omega
    · exact isSame
    · have starts := yearStart_le after
      omega
  subst sameYear
  have sameMonth : month = otherMonth := by
    rcases lt_trichotomy month otherMonth with before | isSame | after
    · have starts := @monthStart_le year month otherMonth firstMonth before
      omega
    · exact isSame
    · have starts := @monthStart_le year otherMonth month otherFirstMonth after
      omega
  subst sameMonth
  have sameDay : day = otherDay := by omega
  rw [sameDay]

/-- The year of a day, up to one. -/
def yearBound (number : ℤ) : ℤ := 400 * number / 146097 + 1

/-- The year of a day. -/
def yearOf (number : ℤ) : ℤ :=
  if yearStart (yearBound number + 1) ≤ number then yearBound number + 1 else yearBound number

/-- A day is in its year. -/
theorem yearOf_spec (number : ℤ) :
    yearStart (yearOf number) ≤ number ∧ number < yearStart (yearOf number + 1) := by
  have low : yearStart (yearBound number) ≤ number := by
    unfold yearStart yearBound
    omega
  have high : number < yearStart (yearBound number + 1 + 1) := by
    unfold yearStart yearBound
    omega
  unfold yearOf
  split
  · next reached => exact ⟨reached, high⟩
  · next notReached => exact ⟨low, not_le.mp notReached⟩

/-- The month in which a day of a year is, looked for from a month on. -/
def monthFrom (year : ℤ) (offset : ℕ) : ℕ → ℕ → ℕ
  | 0, month => month
  | fuel + 1, month =>
      if monthStart year (month + 1) ≤ offset then monthFrom year offset fuel (month + 1) else month

/-- The date of a day. -/
def ofDayNumber (number : ℤ) : Date :=
  let year := yearOf number
  let offset := (number - yearStart year).toNat
  let month := monthFrom year offset 11 1
  { year, month, day := offset - monthStart year month + 1 }

/-- The search finds the month of a day of the year. -/
theorem monthFrom_spec {year : ℤ} {offset fuel month : ℕ} (first : 1 ≤ month)
    (reached : monthStart year month ≤ offset)
    (inside : offset < monthStart year (month + fuel + 1)) :
    month ≤ monthFrom year offset fuel month ∧ monthFrom year offset fuel month ≤ month + fuel ∧
      monthStart year (monthFrom year offset fuel month) ≤ offset ∧
      offset < monthStart year (monthFrom year offset fuel month + 1) := by
  induction fuel generalizing month with
  | zero => exact ⟨le_rfl, le_rfl, reached, inside⟩
  | succ fuel inductionHypothesis =>
      unfold monthFrom
      split
      · next goesOn =>
          have later := inductionHypothesis (Nat.le_add_left 1 month) goesOn
            (by rwa [show month + 1 + fuel + 1 = month + (fuel + 1) + 1 by omega])
          exact ⟨by omega, by omega, later.2.2⟩
      · next stops => exact ⟨le_rfl, by omega, reached, not_le.mp stops⟩

/-- Every day has its date. -/
theorem ofDayNumber_spec (number : ℤ) :
    (ofDayNumber number).Valid ∧ dayNumber (ofDayNumber number) = number := by
  obtain ⟨reached, inside⟩ := yearOf_spec number
  rw [yearStart_succ] at inside
  have lengths := yearLength_eq (yearOf number)
  rw [← monthStart_succ _ (by decide)] at lengths
  have month := @monthFrom_spec (yearOf number) (number - yearStart (yearOf number)).toNat 11 1
    le_rfl (by simp [monthStart]) (by rw [lengths]; omega)
  obtain ⟨firstMonth, lastMonth, started, notEnded⟩ := month
  rw [monthStart_succ _ firstMonth] at notEnded
  refine ⟨⟨firstMonth, lastMonth, Nat.le_add_left 1 _, ?_⟩, ?_⟩
  · simp only [ofDayNumber]
    omega
  · simp only [ofDayNumber, dayNumber]
    omega

/-- A date comes back from its number. -/
theorem ofDayNumber_dayNumber {date : Date} (valid : date.Valid) :
    ofDayNumber (dayNumber date) = date :=
  dayNumber_injective (ofDayNumber_spec _).1 valid (ofDayNumber_spec _).2

end Gemini.Data.Calendar
