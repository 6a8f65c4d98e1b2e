import ResourceFilter.Toml.Value

/-!
Values written without quotes: booleans, numbers, dates and times.
-/

namespace ResourceFilter.Toml

def scalar? (text : List Char) : Option Value :=
  if text = ['t', 'r', 'u', 'e'] then some (.boolean true)
  else if text = ['f', 'a', 'l', 's', 'e'] then some (.boolean false)
  else match integer? text with
    | some value => some (.integer value)
    | none =>
        match FloatNumber.read? text with
        | some value => some (.float value)
        | none => (Moment.read? text).map .moment

def isScalarChar (char : Char) : Bool :=
  char.isAlphanum || char == '_' || char == '+' || char == '-' || char == '.' || char == ':'

def readScalar? (text : List Char) : Option (Value × List Char) :=
  let word := text.takeWhile isScalarChar
  let rest := text.dropWhile isScalarChar
  let alone := (scalar? word).map fun value => (value, rest)
  match readDate? word, rest with
  | some (_, []), ' ' :: more =>
      match Moment.read? (word ++ ' ' :: more.takeWhile isScalarChar) with
      | some moment => some (.moment moment, more.dropWhile isScalarChar)
      | none => alone
  | _, _ => alone

end ResourceFilter.Toml
