import ResourceFilter.FilterError

/-!
Dates as filters write them: a year, a month of a year, or a day. A year or a month stands for
its first day.
-/

namespace ResourceFilter

@[ext]
structure CalendarDate where
  year : Nat
  month : Nat
  day : Nat
  deriving DecidableEq, Repr

def isLeapYear (year : Nat) : Bool :=
  (year % 4 == 0 && year % 100 != 0) || year % 400 == 0

def daysInMonth (year month : Nat) : Nat :=
  if month = 2 then if isLeapYear year then 29 else 28
  else if month = 4 ∨ month = 6 ∨ month = 9 ∨ month = 11 then 30
  else 31

namespace CalendarDate

def IsValid (date : CalendarDate) : Prop :=
  date.year ≤ 9999 ∧ 1 ≤ date.month ∧ date.month ≤ 12 ∧ 1 ≤ date.day ∧
    date.day ≤ daysInMonth date.year date.month

instance (date : CalendarDate) : Decidable date.IsValid := by
  unfold IsValid
  infer_instance

def lastDigit (number : Nat) : Char :=
  Nat.digitChar (number % 10)

def twoDigits (number : Nat) : List Char :=
  [lastDigit (number / 10), lastDigit number]

def fourDigits (number : Nat) : List Char :=
  twoDigits (number / 100) ++ twoDigits number

def iso (date : CalendarDate) : String :=
  String.ofList
    (fourDigits date.year ++ '-' :: twoDigits date.month ++ '-' :: twoDigits date.day)

end CalendarDate

inductive DatePrecision
  | year
  | month
  | day
  deriving DecidableEq, Repr

def DatePrecision.label : DatePrecision → String
  | .year => "year"
  | .month => "month"
  | .day => "day"

structure DateLiteral where
  text : String
  date : CalendarDate
  precision : DatePrecision
  deriving DecidableEq, Repr

namespace DateLiteral

def number? (digits : List Char) : Option Nat :=
  if digits.all Char.isDigit then
    some (digits.foldl (fun number digit => 10 * number + (digit.toNat - '0'.toNat)) 0)
  else none

/-- The date and the precision that a text of one of the three shapes writes; the date need not
be one that the calendar has. -/
def shape? : List Char → Option (CalendarDate × DatePrecision)
  | [y1, y2, y3, y4] => do
      return (⟨← number? [y1, y2, y3, y4], 1, 1⟩, .year)
  | [y1, y2, y3, y4, '-', m1, m2] => do
      return (⟨← number? [y1, y2, y3, y4], ← number? [m1, m2], 1⟩, .month)
  | [y1, y2, y3, y4, '-', m1, m2, '-', d1, d2] => do
      return (⟨← number? [y1, y2, y3, y4], ← number? [m1, m2], ← number? [d1, d2]⟩, .day)
  | _ => none

def parse? (text : String) : Option DateLiteral :=
  match shape? text.toList with
  | some (date, precision) => if date.IsValid then some ⟨text, date, precision⟩ else none
  | none => none

def parse (text : String) : Except FilterError DateLiteral :=
  match parse? text with
  | some literal => .ok literal
  | none => .error (.invalidDate text)

theorem parse_eq_ok_iff {text : String} {literal : DateLiteral} :
    parse text = .ok literal ↔ parse? text = some literal := by
  rw [parse]
  cases parse? text <;> simp

theorem parse_eq_error_iff {text : String} {error : FilterError} :
    parse text = .error error ↔ parse? text = none ∧ error = .invalidDate text := by
  rw [parse]
  cases parse? text <;> simp [eq_comm]

end DateLiteral

end ResourceFilter
