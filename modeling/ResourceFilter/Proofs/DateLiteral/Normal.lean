import ResourceFilter.Proofs.DateLiteral.Recognition

/-!
Dates in full. A date that is written in part is continued to the first of the days that it leaves
open, and dates in full stand in the order of the calendar.
-/

namespace ResourceFilter

namespace CalendarDate

theorem digit_lastDigit (number : Nat) :
    ('0' ≤ lastDigit number ∧ lastDigit number ≤ '9') ∧
      digitValue (lastDigit number) = number % 10 := by
  have all : ∀ digit < 10, ('0' ≤ Nat.digitChar digit ∧ Nat.digitChar digit ≤ '9') ∧
      digitValue (Nat.digitChar digit) = digit := by decide
  exact all (number % 10) (Nat.mod_lt _ (by decide))

theorem writesNumber_twoDigits (number : Nat) :
    WritesNumber 2 (twoDigits number) (number % 100) := by
  obtain ⟨isTens, tens⟩ := digit_lastDigit (number / 10)
  obtain ⟨isOnes, ones⟩ := digit_lastDigit number
  refine ⟨rfl, ?_, ?_⟩
  · simp [twoDigits, isTens, isOnes]
  · simp [twoDigits, tens, ones, Nat.ofDigits_cons]
    omega

theorem writesNumber_fourDigits (number : Nat) :
    WritesNumber 4 (fourDigits number) (number % 10000) := by
  have writes := (writesNumber_twoDigits (number / 100)).append (writesNumber_twoDigits number)
  have whole : number / 100 % 100 * 10 ^ 2 + number % 100 = number % 10000 := by omega
  rwa [whole] at writes

theorem writes_iso {date : CalendarDate} (year : date.year < 10000)
    (inCalendar : date.InCalendar) : DateLiteral.Writes date.iso.toList date .day := by
  have bounds := inCalendar.bounds
  have short := daysInMonth_le date.year date.month
  have writesYear := writesNumber_fourDigits date.year
  have writesMonth := writesNumber_twoDigits date.month
  have writesDay := writesNumber_twoDigits date.day
  rw [Nat.mod_eq_of_lt (by omega)] at writesYear writesMonth writesDay
  rw [iso, String.toList_ofList]
  exact .day writesYear writesMonth writesDay

end CalendarDate

namespace DateLiteral

variable {text full : List Char} {date other : CalendarDate} {precision : DatePrecision}

theorem Writes.eq_first (writes : Writes text date precision) :
    (precision = .year → date.month = 1) ∧ (precision ≠ .day → date.day = 1) := by
  cases writes <;> simp

/-- A date in full continues the dates that agree with it as far as they are given. -/
theorem Writes.prefix_iff (writes : Writes text date precision)
    (writesFull : Writes full other .day) :
    text <+: full ↔
      date.year = other.year ∧ (precision ≠ .year → date.month = other.month) ∧
        (precision = .day → date.day = other.day) := by
  cases writesFull with
  | day otherYear otherMonth otherDay =>
      rw [List.append_assoc, List.cons_append]
      cases writes with
      | year year =>
          rw [year.prefix_append_iff otherYear]
          simp
      | month year month =>
          rw [year.append_prefix_append_iff otherYear, List.cons_prefix_cons,
            month.prefix_append_iff otherMonth]
          simp
      | day year month day =>
          have ends := day.prefix_append_iff otherDay []
          rw [List.append_nil] at ends
          rw [List.append_assoc, List.cons_append, year.append_prefix_append_iff otherYear,
            List.cons_prefix_cons, month.append_prefix_append_iff otherMonth,
            List.cons_prefix_cons, ends]
          simp

theorem Writes.length_day (writes : Writes text date .day) : text.length = 10 := by
  cases writes with
  | day year month day => simp [year.length, month.length, day.length]

theorem Writes.lt_iff (writes : Writes text date .day) (alsoWrites : Writes full other .day)
    (inCalendar : date.InCalendar) (alsoInCalendar : other.InCalendar) :
    text < full ↔ date.Before other := by
  rw [CalendarDate.before_iff inCalendar alsoInCalendar]
  cases writes with
  | day year month day =>
      cases alsoWrites with
      | day otherYear otherMonth otherDay =>
          rw [List.append_assoc, List.cons_append, List.append_assoc, List.cons_append,
            year.append_lt_append_iff otherYear, List.cons_lt_cons_iff,
            month.append_lt_append_iff otherMonth, List.cons_lt_cons_iff, day.lt_iff otherDay]
          simp

theorem Writes.eq_iff (writes : Writes text date .day) (alsoWrites : Writes full other .day) :
    text = full ↔ date = other := by
  have sameLength : text.length = full.length := by
    rw [writes.length_day, alsoWrites.length_day]
  have continued : text = full ↔ text <+: full :=
    ⟨fun same => same ▸ List.prefix_rfl, fun start => start.eq_of_length sameLength⟩
  rw [continued, writes.prefix_iff alsoWrites, CalendarDate.ext_iff]
  simp

/-- Of the days that a date leaves open, it stands for the first. -/
theorem Writes.first (writes : Writes text date precision) (writesFull : Writes full other .day)
    (inCalendar : date.InCalendar) (alsoInCalendar : other.InCalendar)
    (continued : text <+: full) : date = other ∨ date.Before other := by
  obtain ⟨sameYear, sameMonth, sameDay⟩ := (writes.prefix_iff writesFull).mp continued
  obtain ⟨firstMonth, firstDay⟩ := writes.eq_first
  obtain ⟨fromJanuary, _, fromFirst, _⟩ := alsoInCalendar.bounds
  rw [CalendarDate.before_iff inCalendar alsoInCalendar, CalendarDate.ext_iff]
  cases precision with
  | year =>
      have month := firstMonth rfl
      have day := firstDay (by simp)
      omega
  | month =>
      have month := sameMonth (by simp)
      have day := firstDay (by simp)
      omega
  | day => exact .inl ⟨sameYear, sameMonth (by simp), sameDay rfl⟩

theorem writes_of_parse {text : String} {literal : DateLiteral}
    (read : parse text = .ok literal) :
    literal.text = text ∧ Writes text.toList literal.date literal.precision ∧
      literal.date.InCalendar ∧ Writes literal.date.iso.toList literal.date .day := by
  obtain ⟨same, writes, inCalendar⟩ := parse?_eq_some_iff.mp (parse_eq_ok_iff.mp read)
  exact ⟨same, writes, inCalendar, CalendarDate.writes_iso (year_lt_of_writes writes) inCalendar⟩

/-- Holds of a text that reads as a date and of the date in full that it is normalized to. -/
structure NormalizesTo (text : String) (literal : DateLiteral) (full : String) : Prop where
  shape : Writes full.toList literal.date .day
  continues : ∃ rest, full = text ++ rest
  accepted : parse full = .ok ⟨full, literal.date, .day⟩
  settled : ∀ again, parse full = .ok again → again.date.iso = full
  whole : literal.precision = .day → full = text
  least : ∀ other otherLiteral, parse other = .ok otherLiteral → otherLiteral.precision = .day →
    (∃ rest, other = text ++ rest) →
    (literal.date = otherLiteral.date ∨ literal.date.Before otherLiteral.date) ∧ full ≤ other

theorem normalizesTo_iso {text : String} {literal : DateLiteral}
    (read : parse text = .ok literal) : NormalizesTo text literal literal.date.iso := by
  obtain ⟨_, writes, inCalendar, writesFull⟩ := writes_of_parse read
  have accepted : parse literal.date.iso = .ok ⟨literal.date.iso, literal.date, .day⟩ :=
    parse_eq_ok_iff.mpr (parse?_eq_some_iff.mpr ⟨rfl, writesFull, inCalendar⟩)
  refine ⟨writesFull, ?_, accepted, ?_, ?_, ?_⟩
  · obtain ⟨rest, whole⟩ := (writes.prefix_iff writesFull).mpr (by simp)
    refine ⟨String.ofList rest, String.toList_inj.mp ?_⟩
    rw [String.toList_append, String.toList_ofList, whole]
  · intro again readAgain
    rw [accepted] at readAgain
    cases readAgain
    rfl
  · intro isDay
    rw [isDay] at writes
    exact String.toList_inj.mp ((writesFull.eq_iff writes).mpr rfl)
  · rintro other otherLiteral readOther isDay ⟨rest, rfl⟩
    obtain ⟨_, writesOther, otherInCalendar, _⟩ := writes_of_parse readOther
    rw [isDay] at writesOther
    have start : text.toList <+: (text ++ rest).toList := ⟨rest.toList, by simp⟩
    have first := writes.first writesOther inCalendar otherInCalendar start
    refine ⟨first, ?_⟩
    rw [← String.not_lt, String.lt_iff, writesOther.lt_iff writesFull otherInCalendar inCalendar]
    rcases first with same | before
    · rw [same]
      exact Nat.lt_irrefl _
    · exact Nat.lt_asymm before

/-- A date is normalized to the first of the days in full that continue it, and the order of these
texts is the order of the calendar. -/
theorem iso_normalizes_in_order (text : String) (literal : DateLiteral)
    (read : parse text = .ok literal) :
    NormalizesTo text literal literal.date.iso ∧
      ∀ other otherLiteral, parse other = .ok otherLiteral →
        (literal.date.iso < otherLiteral.date.iso ↔ literal.date.Before otherLiteral.date) ∧
        (literal.date.iso = otherLiteral.date.iso ↔ literal.date = otherLiteral.date) := by
  refine ⟨normalizesTo_iso read, ?_⟩
  intro other otherLiteral readOther
  obtain ⟨_, _, inCalendar, writesFull⟩ := writes_of_parse read
  obtain ⟨_, _, otherInCalendar, otherWritesFull⟩ := writes_of_parse readOther
  constructor
  · rw [String.lt_iff]
    exact writesFull.lt_iff otherWritesFull inCalendar otherInCalendar
  · rw [← String.toList_inj]
    exact writesFull.eq_iff otherWritesFull

theorem iso_normalizes_in_order_february :
    parse "0400-02" = .ok ⟨"0400-02", ⟨400, 2, 1⟩, .month⟩ ∧
      NormalizesTo "0400-02" ⟨"0400-02", ⟨400, 2, 1⟩, .month⟩ "0400-02-01" ∧
      parse "0400-02-29" = .ok ⟨"0400-02-29", ⟨400, 2, 29⟩, .day⟩ ∧
      ("0400-02-01" < "0400-02-29" ↔
        CalendarDate.Before ⟨400, 2, 1⟩ ⟨400, 2, 29⟩) :=
  have read : parse "0400-02" = .ok ⟨"0400-02", ⟨400, 2, 1⟩, .month⟩ := by rfl
  have readLast : parse "0400-02-29" = .ok ⟨"0400-02-29", ⟨400, 2, 29⟩, .day⟩ := by rfl
  have general := iso_normalizes_in_order "0400-02" _ read
  ⟨read, general.1, readLast, (general.2 "0400-02-29" _ readLast).1⟩

end DateLiteral

end ResourceFilter
