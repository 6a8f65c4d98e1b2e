import ResourceFilter.DateLiteral
import ResourceFilter.Toml.Number

/-!
Dates and times as a TOML document writes them.
-/

namespace ResourceFilter.Toml

structure TimeOfDay where
  hour : Nat
  minute : Nat
  second : Nat
  nanosecond : Nat
  deriving DecidableEq, Repr

inductive Offset
  | zero
  | minutes (count : Int)
  deriving DecidableEq, Repr

inductive Moment
  | date (day : CalendarDate)
  | time (clock : TimeOfDay)
  | dateTime (day : CalendarDate) (clock : TimeOfDay) (offset : Option Offset)
  deriving DecidableEq, Repr

namespace TimeOfDay

def fractionDigits (nanosecond : Nat) : List Char :=
  ((((List.range 9).map fun place =>
    CalendarDate.lastDigit (nanosecond / Nat.pow 10 place)).dropWhile (· == '0')).reverse)

def text (time : TimeOfDay) : List Char :=
  let fraction := fractionDigits time.nanosecond
  CalendarDate.twoDigits time.hour ++ ':' :: CalendarDate.twoDigits time.minute ++
    ':' :: CalendarDate.twoDigits time.second ++
    if fraction.isEmpty then [] else '.' :: fraction

end TimeOfDay

def Offset.text : Offset → List Char
  | zero => ['Z']
  | minutes count =>
      (if count < 0 then '-' else '+') :: CalendarDate.twoDigits (count.natAbs / 60) ++
        ':' :: CalendarDate.twoDigits (count.natAbs % 60)

def Moment.text : Moment → String
  | date day => day.iso
  | time clock => String.ofList clock.text
  | dateTime day clock offset =>
      day.iso ++ String.ofList ('T' :: clock.text ++ (offset.map Offset.text).getD [])

def pair? (bound : Nat) (first second : Char) : Option Nat :=
  (DateLiteral.number? [first, second]).filter (· ≤ bound)

def readDate? : List Char → Option (CalendarDate × List Char)
  | y1 :: y2 :: y3 :: y4 :: '-' :: m1 :: m2 :: '-' :: d1 :: d2 :: rest =>
      match DateLiteral.shape? [y1, y2, y3, y4, '-', m1, m2, '-', d1, d2] with
      | some (date, _) => if date.IsValid then some (date, rest) else none
      | none => none
  | _ => none

/-- The nanoseconds that the digits of a fraction of a second write; those after the ninth digit
are dropped. -/
def nanoseconds (digits : List Char) : Nat :=
  numberOf 10 ((digits ++ List.replicate 9 '0').take 9)

def readTime? : List Char → Option (TimeOfDay × List Char)
  | h1 :: h2 :: ':' :: m1 :: m2 :: ':' :: s1 :: s2 :: rest => do
      let hour ← pair? 23 h1 h2
      let minute ← pair? 59 m1 m2
      let second ← pair? 60 s1 s2
      match rest with
      | '.' :: more =>
          let digits := more.takeWhile Char.isDigit
          if digits.isEmpty then none
          else some (⟨hour, minute, second, nanoseconds digits⟩, more.dropWhile Char.isDigit)
      | _ => some (⟨hour, minute, second, 0⟩, rest)
  | _ => none

def offset? : List Char → Option (Option Offset)
  | [] => some none
  | ['Z'] | ['z'] => some (some .zero)
  | [sign, h1, h2, ':', m1, m2] => do
      let hours ← pair? 23 h1 h2
      let minutes ← pair? 59 m1 m2
      let count : Int := (60 * hours + minutes : Nat)
      if sign = '+' then some (some (.minutes count))
      else if sign = '-' then some (some (.minutes (-count)))
      else none
  | _ => none

def Moment.read? (text : List Char) : Option Moment :=
  match readDate? text with
  | some (day, []) => some (.date day)
  | some (day, mark :: rest) =>
      if mark == 'T' || mark == 't' || mark == ' ' then do
        let (clock, rest) ← readTime? rest
        let offset ← offset? rest
        return .dateTime day clock offset
      else none
  | none =>
      match readTime? text with
      | some (clock, []) => some (.time clock)
      | _ => none

end ResourceFilter.Toml
