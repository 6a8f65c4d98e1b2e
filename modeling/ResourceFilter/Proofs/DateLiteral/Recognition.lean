import ResourceFilter.Proofs.DateLiteral.Calendar
import ResourceFilter.Proofs.Text.Numeral

/-!
Which texts are read as dates. They are the years of four digits, with a month and a day of two
digits each where these are given, on which the Gregorian calendar has a day; every other text is
refused as it stands.
-/

namespace ResourceFilter

namespace DateLiteral

/-- Holds of the texts in the shape of a date, of the day that they stand for and of their
precision. A month or day that is not given is the first. -/
inductive Writes : List Char → CalendarDate → DatePrecision → Prop
  | year {yearText : List Char} {year : Nat} :
      WritesNumber 4 yearText year → Writes yearText ⟨year, 1, 1⟩ .year
  | month {yearText monthText : List Char} {year month : Nat} :
      WritesNumber 4 yearText year → WritesNumber 2 monthText month →
      Writes (yearText ++ '-' :: monthText) ⟨year, month, 1⟩ .month
  | day {yearText monthText dayText : List Char} {year month day : Nat} :
      WritesNumber 4 yearText year → WritesNumber 2 monthText month →
      WritesNumber 2 dayText day →
      Writes (yearText ++ '-' :: monthText ++ '-' :: dayText) ⟨year, month, day⟩ .day

def IsDate (text : String) : Prop :=
  ∃ date precision, Writes text.toList date precision ∧ date.InCalendar

theorem number?_eq_some_iff {count number : Nat} {digits : List Char}
    (length : digits.length = count) :
    number? digits = some number ↔ WritesNumber count digits number := by
  have folded : number? digits =
      if digits.all Char.isDigit then
        some (Nat.ofDigits 10 (digits.reverse.map digitValue)) else none := by
    rw [WritesNumber.ofDigits_eq_foldl]
    rfl
  have allDigits : digits.all Char.isDigit = true ↔
      ∀ digit ∈ digits, '0' ≤ digit ∧ digit ≤ '9' := by
    simp only [List.all_eq_true, isDigit_iff]
  rw [folded]
  constructor
  · intro read
    obtain ⟨isDigit, value⟩ := Option.ite_none_right_eq_some.mp read
    exact ⟨length, allDigits.mp isDigit, Option.some.inj value⟩
  · intro writes
    rw [if_pos (allDigits.mpr writes.isDigit), writes.value]

theorem writes_of_shape? {text : List Char} {date : CalendarDate} {precision : DatePrecision}
    (shaped : shape? text = some (date, precision)) : Writes text date precision := by
  rw [shape?.eq_def] at shaped
  simp only [Option.bind_eq_bind, Option.pure_def] at shaped
  split at shaped
  · simp only [Option.bind_eq_some_iff, Option.some.injEq, Prod.mk.injEq] at shaped
    obtain ⟨year, readYear, rfl, rfl⟩ := shaped
    exact .year ((number?_eq_some_iff rfl).mp readYear)
  · simp only [Option.bind_eq_some_iff, Option.some.injEq, Prod.mk.injEq] at shaped
    obtain ⟨year, readYear, month, readMonth, rfl, rfl⟩ := shaped
    exact .month ((number?_eq_some_iff rfl).mp readYear) ((number?_eq_some_iff rfl).mp readMonth)
  · simp only [Option.bind_eq_some_iff, Option.some.injEq, Prod.mk.injEq] at shaped
    obtain ⟨year, readYear, month, readMonth, day, readDay, rfl, rfl⟩ := shaped
    exact .day ((number?_eq_some_iff rfl).mp readYear) ((number?_eq_some_iff rfl).mp readMonth)
      ((number?_eq_some_iff rfl).mp readDay)
  · contradiction

theorem exists_four_digits {digits : List Char} {number : Nat}
    (writes : WritesNumber 4 digits number) :
    ∃ first second third fourth, digits = [first, second, third, fourth] ∧
      number? [first, second, third, fourth] = some number := by
  obtain ⟨first, later, _, rfl, _, more, _⟩ := writes.exists_cons
  obtain ⟨second, third, fourth, rfl⟩ := List.length_eq_three.mp more.length
  exact ⟨first, second, third, fourth, rfl, (number?_eq_some_iff rfl).mpr writes⟩

theorem exists_two_digits {digits : List Char} {number : Nat}
    (writes : WritesNumber 2 digits number) :
    ∃ first second, digits = [first, second] ∧ number? [first, second] = some number := by
  obtain ⟨first, second, rfl⟩ := List.length_eq_two.mp writes.length
  exact ⟨first, second, rfl, (number?_eq_some_iff rfl).mpr writes⟩

theorem shape?_of_writes {text : List Char} {date : CalendarDate} {precision : DatePrecision}
    (writes : Writes text date precision) : shape? text = some (date, precision) := by
  cases writes with
  | year year =>
      obtain ⟨y1, y2, y3, y4, rfl, readYear⟩ := exists_four_digits year
      simp [shape?, readYear]
  | month year month =>
      obtain ⟨y1, y2, y3, y4, rfl, readYear⟩ := exists_four_digits year
      obtain ⟨m1, m2, rfl, readMonth⟩ := exists_two_digits month
      simp [shape?, readYear, readMonth]
  | day year month day =>
      obtain ⟨y1, y2, y3, y4, rfl, readYear⟩ := exists_four_digits year
      obtain ⟨m1, m2, rfl, readMonth⟩ := exists_two_digits month
      obtain ⟨d1, d2, rfl, readDay⟩ := exists_two_digits day
      simp [shape?, readYear, readMonth, readDay]

theorem year_lt_of_writes {text : List Char} {date : CalendarDate} {precision : DatePrecision}
    (writes : Writes text date precision) : date.year < 10 ^ 4 := by
  cases writes with
  | year year => exact year.number_lt
  | month year _ => exact year.number_lt
  | day year _ _ => exact year.number_lt

theorem parse?_eq_some_iff {text : String} {literal : DateLiteral} :
    parse? text = some literal ↔
      literal.text = text ∧ Writes text.toList literal.date literal.precision ∧
        literal.date.InCalendar := by
  rw [parse?]
  constructor
  · intro read
    split at read
    · rename_i date precision shaped
      obtain ⟨valid, same⟩ := Option.ite_none_right_eq_some.mp read
      cases same
      exact ⟨rfl, writes_of_shape? shaped, (CalendarDate.isValid_iff.mp valid).2⟩
    · contradiction
  · rintro ⟨rfl, writes, inCalendar⟩
    have year := year_lt_of_writes writes
    have valid := CalendarDate.isValid_iff.mpr ⟨by omega, inCalendar⟩
    rw [shape?_of_writes writes]
    exact if_pos valid

theorem parse?_eq_none_iff {text : String} : parse? text = none ↔ ¬IsDate text := by
  rw [Option.eq_none_iff_forall_ne_some, IsDate]
  constructor
  · rintro unread ⟨date, precision, writes, inCalendar⟩
    exact unread ⟨text, date, precision⟩ (parse?_eq_some_iff.mpr ⟨rfl, writes, inCalendar⟩)
  · intro notDate literal read
    obtain ⟨_, writes, inCalendar⟩ := parse?_eq_some_iff.mp read
    exact notDate ⟨_, _, writes, inCalendar⟩

/-- The texts of the three shapes that write a day of the calendar are read as that day; all others
are refused, and the error names them as they are. -/
theorem parse_recognizes_dates (text : String) :
    (∀ literal, parse text = .ok literal ↔
      literal.text = text ∧ Writes text.toList literal.date literal.precision ∧
        literal.date.InCalendar) ∧
    ∀ error, parse text = .error error ↔ ¬IsDate text ∧ error = .invalidDate text := by
  constructor
  · intro literal
    rw [parse_eq_ok_iff, parse?_eq_some_iff]
  · intro error
    rw [parse_eq_error_iff, parse?_eq_none_iff]

end DateLiteral

end ResourceFilter
