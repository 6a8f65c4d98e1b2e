/-!
JSON values and their text over several lines. The members of an object are written in the
order in which they are given.
-/

namespace ResourceFilter

inductive Json
  | string (text : String)
  | number (value : Nat)
  | boolean (value : Bool)
  | array (items : List Json)
  | object (members : List (String × Json))

namespace Json

def strings (texts : List String) : Json :=
  array (texts.map string)

def hexDigit (number : Nat) : Char :=
  Nat.digitChar number

def escapeChar (char : Char) : List Char :=
  if char = '\x22' then ['\\', '\x22']
  else if char = '\\' then ['\\', '\\']
  else if char = '\x08' then ['\\', 'b']
  else if char = '\t' then ['\\', 't']
  else if char = '\n' then ['\\', 'n']
  else if char = '\x0c' then ['\\', 'f']
  else if char = '\r' then ['\\', 'r']
  else if char.toNat < 0x20 then
    ['\\', 'u', '0', '0', hexDigit (char.toNat / 16), hexDigit (char.toNat % 16)]
  else [char]

def quoted (text : String) : List Char :=
  '\x22' :: text.toList.flatMap escapeChar ++ ['\x22']

def newLine (depth : Nat) : List Char :=
  '\n' :: List.replicate (2 * depth) ' '

mutual

def write (depth : Nat) : Json → List Char
  | string text => quoted text
  | number value => Nat.toDigits 10 value
  | boolean true => ['t', 'r', 'u', 'e']
  | boolean false => ['f', 'a', 'l', 's', 'e']
  | array [] => ['[', ']']
  | array (item :: rest) =>
      '[' :: newLine (depth + 1) ++ write (depth + 1) item ++ writeItems (depth + 1) rest ++
        newLine depth ++ [']']
  | object [] => ['\x7b', '\x7d']
  | object ((name, value) :: rest) =>
      '\x7b' :: newLine (depth + 1) ++ quoted name ++ ':' :: ' ' :: write (depth + 1) value ++
        writeMembers (depth + 1) rest ++ newLine depth ++ ['\x7d']

def writeItems (depth : Nat) : List Json → List Char
  | [] => []
  | item :: rest => ',' :: newLine depth ++ write depth item ++ writeItems depth rest

def writeMembers (depth : Nat) : List (String × Json) → List Char
  | [] => []
  | (name, value) :: rest =>
      ',' :: newLine depth ++ quoted name ++ ':' :: ' ' :: write depth value ++
        writeMembers depth rest

end

def pretty (value : Json) : String :=
  String.ofList (value.write 0)

end Json

end ResourceFilter
