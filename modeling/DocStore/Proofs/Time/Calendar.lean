import DocStore.Time.Calendar
import Mathlib.Algebra.BigOperators.Group.List.Basic
import Mathlib.Algebra.Ring.Int.Defs
import Mathlib.Tactic.IntervalCases

namespace DocStore.Calendar

def IsLeap (year : Nat) : Prop := year % 4 = 0 ∧ (year % 100 ≠ 0 ∨ year % 400 = 0)

instance (year : Nat) : Decidable (IsLeap year) := inferInstanceAs (Decidable (_ ∧ _))

def yearLength (year : Nat) : Nat := if IsLeap year then 366 else 365

def monthLengths (year : Nat) : List Nat :=
  [31, if IsLeap year then 29 else 28, 31, 30, 31, 30, 31, 31, 30, 31, 30, 31]

-- The days between the first of January of the year 0 and a date, counted by years and by months.
def daysBefore (year month day : Nat) : Nat :=
  ((List.range year).map yearLength).sum + ((monthLengths year).take (month - 1)).sum + (day - 1)

-- Whether a year has that month and the month that day.
structure IsDate (year month day : Nat) : Prop where
  ofYear : 1 ≤ month ∧ month ≤ 12
  ofMonth : 1 ≤ day ∧ day ≤ (monthLengths year).getD (month - 1) 0

theorem isLeapYear_iff (year : Nat) : isLeapYear year = true ↔ IsLeap year := by
  simp only [isLeapYear, IsLeap, Bool.and_eq_true, Bool.or_eq_true, beq_iff_eq, bne_iff_ne]
  omega

theorem daysInMonth_eq (year : Nat) {month : Nat} (h : 1 ≤ month ∧ month ≤ 12) :
    daysInMonth year month = (monthLengths year).getD (month - 1) 0 := by
  obtain ⟨m, rfl⟩ : ∃ m, month = m + 1 := ⟨month - 1, by omega⟩
  have hm : m < 12 := by omega
  have hfebruary : (isLeapYear year = true) = IsLeap year := propext (isLeapYear_iff year)
  interval_cases m <;> simp [daysInMonth, monthLengths, hfebruary]

theorem isValid_iff (year month day : Nat) :
    Date.isValid ⟨year, month, day⟩ = true ↔ IsDate year month day := by
  unfold Date.isValid
  rw [decide_eq_true_iff]
  constructor
  · rintro ⟨hfirst, hlast, hday, hdays⟩
    have hmonth : 1 ≤ month ∧ month ≤ 12 := ⟨hfirst, hlast⟩
    exact ⟨hmonth, hday, by rw [← daysInMonth_eq year hmonth]; exact hdays⟩
  · rintro ⟨hmonth, hday, hdays⟩
    exact ⟨hmonth.1, hmonth.2, hday, by rw [daysInMonth_eq year hmonth]; exact hdays⟩

-- A leap day every fourth year, but for the centuries, of which one in four has one.
def leapDays (year : Int) : Int := year / 4 - year / 100 + year / 400

theorem leapDays_eq (year : Nat) : leapDays year = leapDays (year - 1) + (yearLength year - 365) := by
  have hfour : (year : Int) / 4 = (year - 1) / 4 + if year % 4 = 0 then 1 else 0 := by split <;> omega
  have hcentury : (year : Int) / 100 = (year - 1) / 100 + if year % 100 = 0 then 1 else 0 := by split <;> omega
  have hera : (year : Int) / 400 = (year - 1) / 400 + if year % 400 = 0 then 1 else 0 := by split <;> omega
  rw [leapDays, leapDays, hfour, hcentury, hera]
  by_cases hleap : IsLeap year
  · rw [yearLength, if_pos hleap, if_pos hleap.1]
    unfold IsLeap at hleap
    split <;> split <;> omega
  · rw [yearLength, if_neg hleap]
    unfold IsLeap at hleap
    split <;> split <;> split <;> omega

-- The year 0 is a leap year.
theorem sum_yearLength (year : Nat) :
    (((List.range year).map yearLength).sum : Int) = 365 * year + leapDays (year - 1) + 1 := by
  induction year with
  | zero => rfl
  | succ year ih =>
      have hbefore : ((year + 1 : Nat) : Int) - 1 = year := by omega
      rw [List.range_succ, List.map_append, List.sum_append, List.map_singleton, List.sum_singleton,
        hbefore, leapDays_eq]
      omega

theorem sum_monthLengths (year : Nat) : (monthLengths year).sum = yearLength year := by
  by_cases hleap : IsLeap year
  · simp only [monthLengths, yearLength, if_pos hleap]
    rfl
  · simp only [monthLengths, yearLength, if_neg hleap]
    rfl

-- From March on, the lengths of the months return every five months.
theorem sum_take_monthLengths (year : Nat) {m : Nat} (hm : m < 12) :
    ((monthLengths year).take m).sum + 306 =
      (153 * ((m + 10) % 12) + 2) / 5 + if m < 2 then 0 else yearLength year := by
  by_cases hleap : IsLeap year
  · simp only [monthLengths, yearLength, if_pos hleap]
    interval_cases m <;> rfl
  · simp only [monthLengths, yearLength, if_neg hleap]
    interval_cases m <;> rfl

theorem daysBefore_epoch : (daysBefore 1970 1 1 : Int) = 719528 := by
  have hyears := sum_yearLength 1970
  have hleap : leapDays ((1970 : Nat) - 1) = 477 := by decide
  rw [daysBefore, List.take_zero, List.sum_nil]
  omega

-- The days of an era of 400 years.
theorem era_eq (year : Int) :
    year / 400 * 146097 + ((year - year / 400 * 400) * 365 + (year - year / 400 * 400) / 4 -
      (year - year / 400 * 400) / 100) = 365 * year + leapDays year := by
  unfold leapDays
  omega

theorem toDays_era (d : Date) : d.toDays =
    let year := if d.month ≤ 2 then d.year - 1 else d.year
    365 * year + leapDays year + (153 * ((d.month + 9) % 12 : Nat) + 2) / 5 + d.day - 719469 := by
  unfold Date.toDays epochShift daysPerEra
  dsimp only
  rw [Int.fdiv_eq_ediv_of_nonneg _ (by decide), ← era_eq]
  push_cast
  omega

-- The count by eras of 400 years that start in March is the count by years and months.
theorem toDays_eq {year month day : Nat} (h : IsDate year month day) :
    Date.toDays ⟨year, month, day⟩ = (daysBefore year month day : Int) - daysBefore 1970 1 1 := by
  obtain ⟨⟨hfirst, hlast⟩, hday, -⟩ := h
  obtain ⟨m, rfl⟩ : ∃ m, month = m + 1 := ⟨month - 1, by omega⟩
  have hyears := sum_yearLength year
  have hmonths := sum_take_monthLengths year (show m < 12 by omega)
  have hleap := leapDays_eq year
  rw [toDays_era, daysBefore_epoch, daysBefore, Nat.add_sub_cancel]
  dsimp only
  rw [show m + 1 + 9 = m + 10 from rfl]
  by_cases hearly : m < 2
  · rw [if_pos hearly] at hmonths
    rw [if_pos (by omega)]
    omega
  · rw [if_neg hearly] at hmonths
    rw [if_neg (by omega)]
    omega

theorem daysBefore_le {year month day : Nat} (h : IsDate year month day) :
    daysBefore year month day ≤ 366 * year + 396 := by
  have hday : day ≤ 31 := by
    have hlast := h.ofMonth.2
    rw [← daysInMonth_eq year h.ofYear] at hlast
    refine hlast.trans ?_
    unfold daysInMonth
    split
    · split <;> decide
    all_goals decide
  have hmonths : ((monthLengths year).take (month - 1)).sum ≤ 366 := by
    have hsplit := List.sum_take_add_sum_drop (monthLengths year) (month - 1)
    have hlength : yearLength year ≤ 366 := by
      unfold yearLength
      split <;> decide
    rw [sum_monthLengths] at hsplit
    omega
  have hyears := sum_yearLength year
  unfold leapDays at hyears
  unfold daysBefore
  omega

end DocStore.Calendar
