import ResourceFilter.Json

/-!
A reader of JSON texts. It takes one character after the other, and keeps what it has read of the
arrays and objects that are not complete yet.
-/

namespace ResourceFilter

inductive JsonTree
  | null
  | boolean (value : Bool)
  | number (numeral : String)
  | string (text : String)
  | array (items : List JsonTree)
  | object (members : List (String × JsonTree))
  deriving BEq, Repr

namespace JsonTree

inductive Frame
  | array (items : List JsonTree)
  | object (members : List (String × JsonTree))
  | member (members : List (String × JsonTree)) (name : String)

inductive Escape
  | none
  | backslash
  /-- Behind `\u`: the first half of a surrogate pair, if this is the second one, how many digits
  are to come behind the next one, and the number that those so far write. -/
  | code (first : Option Nat) (left : Nat) (sofar : Nat)
  | half (first : Nat)
  | halfBackslash (first : Nat)
  deriving DecidableEq, Repr

inductive Stage
  | value (closes : Bool)
  | name (closes : Bool)
  | afterName (name : String)
  | inside (isName : Bool) (chars : List Char) (escape : Escape)
  | atom (chars : List Char)
  | complete (tree : JsonTree)

structure Reader where
  frames : List Frame
  stage : Stage

def isSpace (char : Char) : Bool :=
  char = ' ' || char = '\t' || char = '\n' || char = '\r'

def isAtomChar (char : Char) : Bool :=
  char.isAlphanum || char = '-' || char = '+' || char = '.'

def isWhole (digits : List Char) : Bool :=
  digits = ['0'] || (digits ≠ [] && digits.head? ≠ some '0')

def isExponent : List Char → Bool
  | [] => true
  | mark :: rest =>
      let digits := if rest.head? = some '+' ∨ rest.head? = some '-' then rest.tail else rest
      (mark = 'e' || mark = 'E') && digits ≠ [] && digits.all Char.isDigit

def isFraction (chars : List Char) : Bool :=
  if chars.head? = some '.' then
    chars.tail.takeWhile Char.isDigit ≠ [] && isExponent (chars.tail.dropWhile Char.isDigit)
  else isExponent chars

def isNumeral (chars : List Char) : Bool :=
  let unsigned := if chars.head? = some '-' then chars.tail else chars
  isWhole (unsigned.takeWhile Char.isDigit) && isFraction (unsigned.dropWhile Char.isDigit)

def atom? (chars : List Char) : Option JsonTree :=
  if chars = "null".toList then some null
  else if chars = "true".toList then some (boolean true)
  else if chars = "false".toList then some (boolean false)
  else if isNumeral chars then some (number (String.ofList chars))
  else none

def escaped? (char : Char) : Option Char :=
  if char = 'b' then some '\x08'
  else if char = 't' then some '\t'
  else if char = 'n' then some '\n'
  else if char = 'f' then some '\x0c'
  else if char = 'r' then some '\r'
  else if char = '\x22' ∨ char = '\\' ∨ char = '/' then some char
  else none

def hexValue? (char : Char) : Option Nat :=
  if '0' ≤ char ∧ char ≤ '9' then some (char.toNat - '0'.toNat)
  else if 'a' ≤ char ∧ char ≤ 'f' then some (char.toNat - 'a'.toNat + 10)
  else if 'A' ≤ char ∧ char ≤ 'F' then some (char.toNat - 'A'.toNat + 10)
  else none

/-- Goes on behind the four digits of an escape. The halves of a surrogate pair write one character
together, and nothing alone. -/
def unit? (chars : List Char) (first : Option Nat) (number : Nat) : Option (List Char × Escape) :=
  let isFirst := 0xD800 ≤ number ∧ number < 0xDC00
  let isSecond := 0xDC00 ≤ number ∧ number < 0xE000
  match first with
  | none =>
      if isFirst then some (chars, .half number)
      else if isSecond then none
      else some (chars ++ [Char.ofNat number], .none)
  | some half =>
      if isSecond then
        let code := 0x10000 + 0x400 * (half - 0xD800) + (number - 0xDC00)
        some (chars ++ [Char.ofNat code], .none)
      else none

def Escape.next? (chars : List Char) (escape : Escape) (char : Char) :
    Option (List Char × Escape) :=
  match escape with
  | .none =>
      if char = '\\' then some (chars, .backslash)
      else if char.toNat < 0x20 then Option.none
      else some (chars ++ [char], .none)
  | .backslash =>
      if char = 'u' then some (chars, .code Option.none 3 0)
      else (escaped? char).map fun meant => (chars ++ [meant], .none)
  | .code first left sofar =>
      (hexValue? char).bind fun digit =>
        match left with
        | 0 => unit? chars first (16 * sofar + digit)
        | left + 1 => some (chars, .code first left (16 * sofar + digit))
  | .half first => if char = '\\' then some (chars, .halfBackslash first) else Option.none
  | .halfBackslash first =>
      if char = 'u' then some (chars, .code (some first) 3 0) else Option.none

namespace Reader

def startValue (frames : List Frame) (closes : Bool) (char : Char) : Option Reader :=
  if char = '[' then some ⟨.array [] :: frames, .value true⟩
  else if char = '\x7b' then some ⟨.object [] :: frames, .name true⟩
  else if char = '\x22' then some ⟨frames, .inside false [] .none⟩
  else if isAtomChar char then some ⟨frames, .atom [char]⟩
  else if closes ∧ char = ']' then
    match frames with
    | .array items :: outer => some ⟨outer, .complete (.array items)⟩
    | _ => none
  else none

def startName (frames : List Frame) (closes : Bool) (char : Char) : Option Reader :=
  if char = '\x22' then some ⟨frames, .inside true [] .none⟩
  else if closes ∧ char = '\x7d' then
    match frames with
    | .object members :: outer => some ⟨outer, .complete (.object members)⟩
    | _ => none
  else none

def afterName (frames : List Frame) (name : String) (char : Char) : Option Reader :=
  match frames with
  | .object members :: outer =>
      if char = ':' then some ⟨.member members name :: outer, .value false⟩ else none
  | _ => none

def afterValue (frames : List Frame) (tree : JsonTree) (char : Char) : Option Reader :=
  match frames with
  | .array items :: outer =>
      if char = ',' then some ⟨.array (items ++ [tree]) :: outer, .value false⟩
      else if char = ']' then some ⟨outer, .complete (.array (items ++ [tree]))⟩
      else none
  | .member members name :: outer =>
      if char = ',' then some ⟨.object (members ++ [(name, tree)]) :: outer, .name false⟩
      else if char = '\x7d' then some ⟨outer, .complete (.object (members ++ [(name, tree)]))⟩
      else none
  | _ => none

def step (reader : Reader) (char : Char) : Option Reader :=
  match reader.stage with
  | .value closes =>
      if isSpace char then some reader else startValue reader.frames closes char
  | .name closes => if isSpace char then some reader else startName reader.frames closes char
  | .afterName name => if isSpace char then some reader else afterName reader.frames name char
  | .complete tree => if isSpace char then some reader else afterValue reader.frames tree char
  | .atom chars =>
      if isAtomChar char then some { reader with stage := .atom (chars ++ [char]) }
      else
        (atom? chars).bind fun tree =>
          if isSpace char then some { reader with stage := .complete tree }
          else afterValue reader.frames tree char
  | .inside isName chars escape =>
      if escape = .none ∧ char = '\x22' then
        let text := String.ofList chars
        some { reader with stage := if isName then .afterName text else .complete (.string text) }
      else
        (escape.next? chars char).map fun (chars, escape) =>
          { reader with stage := .inside isName chars escape }

def finish (reader : Reader) : Option JsonTree :=
  match reader.frames, reader.stage with
  | [], .complete tree => some tree
  | [], .atom chars => atom? chars
  | _, _ => none

def run : Reader → List Char → Option JsonTree
  | reader, [] => reader.finish
  | reader, char :: rest => (reader.step char).bind fun next => run next rest

end Reader

def read? (text : String) : Option JsonTree :=
  Reader.run ⟨[], .value false⟩ text.toList

example : read? " [1.5e3, \x7b\x22a\\u00e9\\ud83d\\ude00\x22: null\x7d]\n" =
    some (.array [.number "1.5e3", .object [("aé😀", .null)]]) := by rfl

end JsonTree

end ResourceFilter
