/-!
Numbers as a TOML document writes them.
-/

namespace ResourceFilter.Toml

def plainDigits? (isDigit : Char → Bool) : List Char → Option (List Char)
  | [] => none
  | [char] => if isDigit char then some [char] else none
  | char :: '_' :: rest =>
      if isDigit char then (plainDigits? isDigit rest).map (char :: ·) else none
  | char :: rest => if isDigit char then (plainDigits? isDigit rest).map (char :: ·) else none

def isBinaryDigit (char : Char) : Bool :=
  char == '0' || char == '1'

def isOctalDigit (char : Char) : Bool :=
  '0' ≤ char && char ≤ '7'

def isHexDigit (char : Char) : Bool :=
  char.isDigit || ('a' ≤ char && char ≤ 'f') || ('A' ≤ char && char ≤ 'F')

def digitValue (char : Char) : Nat :=
  if char.isDigit then char.toNat - '0'.toNat
  else char.toLower.toNat - 'a'.toNat + 10

def numberOf (base : Nat) (digits : List Char) : Nat :=
  digits.foldl (fun number digit => base * number + digitValue digit) 0

def splitSign : List Char → Bool × List Char
  | '+' :: rest => (false, rest)
  | '-' :: rest => (true, rest)
  | text => (false, text)

def wholeDigits? (text : List Char) : Option (List Char) :=
  match plainDigits? Char.isDigit text with
  | some ('0' :: _ :: _) => none
  | digits => digits

def inRange? (value : Int) : Option Int :=
  if -0x8000000000000000 ≤ value ∧ value < 0x8000000000000000 then some value else none

def integer? (text : List Char) : Option Int :=
  let unsigned (base : Nat) (isDigit : Char → Bool) (digits : List Char) : Option Int :=
    (plainDigits? isDigit digits).bind fun plain => inRange? (numberOf base plain)
  match text with
  | '0' :: 'x' :: rest => unsigned 16 isHexDigit rest
  | '0' :: 'o' :: rest => unsigned 8 isOctalDigit rest
  | '0' :: 'b' :: rest => unsigned 2 isBinaryDigit rest
  | _ =>
      let (negative, rest) := splitSign text
      (wholeDigits? rest).bind fun digits =>
        let number : Int := numberOf 10 digits
        inRange? (if negative then -number else number)

inductive FloatNumber
  /-- The digits of a number, and the place of its point, counted from the first digit. -/
  | finite (negative : Bool) (digits : List Char) (point : Int)
  | infinite (negative : Bool)
  | notANumber
  deriving DecidableEq, Repr

def splitAt (stops : Char → Bool) (text : List Char) : List Char × Option (List Char) :=
  match text.dropWhile fun char => !stops char with
  | _ :: rest => (text.takeWhile fun char => !stops char, some rest)
  | [] => (text, none)

def fraction? : Option (List Char) → Option (List Char)
  | none => some []
  | some text => plainDigits? Char.isDigit text

/-- The exponent of a number, zero if it has none. Digits that follow after the exponent has
reached 65536 do not count, as it is then beyond all bounds. -/
def exponent? : Option (List Char) → Option Int
  | none => some 0
  | some text =>
      let (negative, rest) := splitSign text
      (plainDigits? Char.isDigit rest).map fun digits =>
        let size : Nat := digits.foldl
          (fun size digit => if size < 0x10000 then 10 * size + digitValue digit else size) 0
        if negative then -(size : Int) else size

/-- The halfway point between the greatest double and the next power of two. From it on, numbers
are rounded to infinity. -/
def infinityThreshold : Nat := 0x3fffffffffffff <<< 970

namespace FloatNumber

def overflows : FloatNumber → Bool
  | finite _ digits point =>
      let significant := digits.dropWhile (· == '0')
      let places := point - (digits.length - significant.length : Nat)
      let leading := (significant ++ List.replicate 309 '0').take 309
      !significant.isEmpty &&
        (309 < places || (places == 309 && infinityThreshold ≤ numberOf 10 leading))
  | infinite _ | notANumber => false

/-- Reads a float: a decimal number with a fraction, an exponent or both, or one of the special
values. Infinity must be written as such, except that numbers far below zero may stand for it. -/
def read? (text : List Char) : Option FloatNumber :=
  let (negative, number) := splitSign text
  if number = ['i', 'n', 'f'] then some (infinite negative)
  else if number = ['n', 'a', 'n'] then some notANumber
  else
    let (mantissa, exponent) := splitAt (fun char => char == 'e' || char == 'E') number
    let (whole, fraction) := splitAt (· == '.') mantissa
    if exponent.isNone && fraction.isNone then none
    else do
      let wholeDigits ← wholeDigits? whole
      let fractionDigits ← fraction? fraction
      let exponent ← exponent? exponent
      let value := finite negative (wholeDigits ++ fractionDigits) (wholeDigits.length + exponent)
      if value.overflows && !negative then none else some value

end FloatNumber

end ResourceFilter.Toml
