import Mathlib.Order.Monotone.Basic
import ResourceFilter.DateLiteral

/-!
The calendar that dates are checked against, and the order of its days: the one in which they pass
is the one by year, month and day.
-/

namespace ResourceFilter

def IsLeapYear (year : Nat) : Prop :=
  (4 ∣ year ∧ ¬100 ∣ year) ∨ 400 ∣ year

inductive MonthLength (year : Nat) : (month length : Nat) → Prop
  | long {month : Nat} : month ∈ [1, 3, 5, 7, 8, 10, 12] → MonthLength year month 31
  | short {month : Nat} : month ∈ [4, 6, 9, 11] → MonthLength year month 30
  | february : ¬IsLeapYear year → MonthLength year 2 28
  | leapFebruary : IsLeapYear year → MonthLength year 2 29

def CalendarDate.InCalendar (date : CalendarDate) : Prop :=
  ∃ length, MonthLength date.year date.month length ∧ 1 ≤ date.day ∧ date.day ≤ length

theorem isLeapYear_iff {year : Nat} : isLeapYear year = true ↔ IsLeapYear year := by
  simp only [isLeapYear, IsLeapYear, Bool.or_eq_true, Bool.and_eq_true, bne_iff_ne, beq_iff_eq,
    Nat.dvd_iff_mod_eq_zero]

theorem monthLength_iff {year month length : Nat} :
    MonthLength year month length ↔
      1 ≤ month ∧ month ≤ 12 ∧ length = daysInMonth year month := by
  constructor
  · intro isLength
    cases isLength with
    | long member | short member =>
        simp only [List.mem_cons, List.not_mem_nil, or_false] at member
        rw [daysInMonth, if_neg (by omega)]
        refine ⟨by omega, by omega, ?_⟩
        split <;> omega
    | february common =>
        have notLeap := isLeapYear_iff.not.mpr common
        simp [daysInMonth, notLeap]
    | leapFebruary leap =>
        have isLeap := isLeapYear_iff.mpr leap
        simp [daysInMonth, isLeap]
  · rintro ⟨above, below, rfl⟩
    rw [daysInMonth]
    split
    · rename_i february
      subst february
      split
      · rename_i leap
        exact .leapFebruary (isLeapYear_iff.mp leap)
      · rename_i common
        exact .february (isLeapYear_iff.not.mp common)
    · split
      · rename_i short
        refine .short ?_
        simp only [List.mem_cons, List.not_mem_nil, or_false]
        exact short
      · refine .long ?_
        simp only [List.mem_cons, List.not_mem_nil, or_false]
        omega

theorem CalendarDate.isValid_iff {date : CalendarDate} :
    date.IsValid ↔ date.year ≤ 9999 ∧ date.InCalendar := by
  simp only [IsValid, InCalendar, monthLength_iff]
  constructor
  · rintro ⟨year, fromJanuary, toDecember, fromFirst, toLast⟩
    exact ⟨year, _, ⟨fromJanuary, toDecember, rfl⟩, fromFirst, toLast⟩
  · rintro ⟨year, _, ⟨fromJanuary, toDecember, rfl⟩, fromFirst, toLast⟩
    exact ⟨year, fromJanuary, toDecember, fromFirst, toLast⟩

theorem daysInMonth_le (year month : Nat) : daysInMonth year month ≤ 31 := by
  rw [daysInMonth]
  split
  · split <;> omega
  · split <;> omega

def daysOfMonths (year : Nat) : Nat → Nat
  | 0 => 0
  | month + 1 => daysOfMonths year month + daysInMonth year (month + 1)

def daysOfYears : Nat → Nat
  | 0 => 0
  | year + 1 => daysOfYears year + daysOfMonths year 12

theorem daysOfMonths_mono (year : Nat) : Monotone (daysOfMonths year) :=
  monotone_nat_of_le_succ fun month => Nat.le_add_right (daysOfMonths year month) _

theorem daysOfYears_mono : Monotone daysOfYears :=
  monotone_nat_of_le_succ fun year => Nat.le_add_right (daysOfYears year) _

namespace CalendarDate

variable {date other : CalendarDate}

/-- The days that have come since the year 0 began, the date included. -/
def elapsed (date : CalendarDate) : Nat :=
  daysOfYears date.year + daysOfMonths date.year (date.month - 1) + date.day

def Before (earlier later : CalendarDate) : Prop :=
  earlier.elapsed < later.elapsed

theorem InCalendar.bounds (inCalendar : date.InCalendar) :
    1 ≤ date.month ∧ date.month ≤ 12 ∧ 1 ≤ date.day ∧
      date.day ≤ daysInMonth date.year date.month := by
  obtain ⟨length, isLength, fromFirst, toLast⟩ := inCalendar
  obtain ⟨fromJanuary, toDecember, rfl⟩ := monthLength_iff.mp isLength
  exact ⟨fromJanuary, toDecember, fromFirst, toLast⟩

theorem InCalendar.le_daysOfMonths (inCalendar : date.InCalendar) :
    daysOfMonths date.year (date.month - 1) + date.day ≤ daysOfMonths date.year date.month := by
  obtain ⟨fromJanuary, _, _, toLast⟩ := inCalendar.bounds
  obtain ⟨before, month⟩ := Nat.exists_eq_add_of_le' fromJanuary
  rw [month] at toLast ⊢
  exact Nat.add_le_add_left toLast _

theorem before_of_year_lt (inCalendar : date.InCalendar) (alsoInCalendar : other.InCalendar)
    (year : date.year < other.year) : date.Before other := by
  have inMonth := inCalendar.le_daysOfMonths
  have inYear := daysOfMonths_mono date.year inCalendar.bounds.2.1
  have earlier : daysOfYears date.year + daysOfMonths date.year 12 ≤ daysOfYears other.year :=
    daysOfYears_mono (Nat.succ_le_of_lt year)
  have fromFirst := alsoInCalendar.bounds.2.2.1
  rw [Before, elapsed, elapsed]
  omega

theorem before_of_month_lt (inCalendar : date.InCalendar) (alsoInCalendar : other.InCalendar)
    (year : date.year = other.year) (month : date.month < other.month) : date.Before other := by
  have inMonth := inCalendar.le_daysOfMonths
  have earlier : daysOfMonths date.year date.month ≤ daysOfMonths date.year (other.month - 1) :=
    daysOfMonths_mono date.year (by omega)
  have fromFirst := alsoInCalendar.bounds.2.2.1
  rw [Before, elapsed, elapsed, ← year]
  omega

/-- Days pass by year, then by month, then by day. -/
theorem before_iff (inCalendar : date.InCalendar) (alsoInCalendar : other.InCalendar) :
    date.Before other ↔
      date.year < other.year ∨ date.year = other.year ∧
        (date.month < other.month ∨ date.month = other.month ∧ date.day < other.day) := by
  rcases Nat.lt_trichotomy date.year other.year with year | year | year
  · simp [before_of_year_lt inCalendar alsoInCalendar year, year]
  · rcases Nat.lt_trichotomy date.month other.month with month | month | month
    · simp [before_of_month_lt inCalendar alsoInCalendar year month, year, month]
    · rw [Before, elapsed, elapsed, year, month]
      simp
    · have after := before_of_month_lt alsoInCalendar inCalendar year.symm month
      rw [Before] at after ⊢
      omega
  · have after := before_of_year_lt alsoInCalendar inCalendar year
    rw [Before] at after ⊢
    omega

end CalendarDate

end ResourceFilter
