import ResourceFilter.Toml.Scalar

/-!
Quoted text: basic strings, in which a backslash starts an escape, and literal strings, in which
it does not. Both have a form over several lines between triple quotes. Every reader starts
behind the opening quotes.
-/

namespace ResourceFilter.Toml

def isTextChar (char : Char) : Bool :=
  char == '\t' || (0x20 ≤ char.toNat && char.toNat != 0x7F)

def charOfHex? (digits : List Char) : Option Char :=
  let code := numberOf 16 digits
  if digits.all isHexDigit ∧ code.isValidChar then some (Char.ofNat code) else none

def escaped? (char : Char) : Option Char :=
  if char = 'b' then some '\x08'
  else if char = 't' then some '\t'
  else if char = 'n' then some '\n'
  else if char = 'f' then some '\x0c'
  else if char = 'r' then some '\r'
  else if char = '\x22' then some '\x22'
  else if char = '\\' then some '\\'
  else none

def push (char : Char) (read : List Char × List Char) : List Char × List Char :=
  (char :: read.1, read.2)

def readBasic? : List Char → Option (List Char × List Char)
  | [] => none
  | '\x22' :: rest => some ([], rest)
  | '\\' :: 'u' :: a :: b :: c :: d :: rest => do
      let char ← charOfHex? [a, b, c, d]
      push char <$> readBasic? rest
  | '\\' :: 'U' :: a :: b :: c :: d :: e :: f :: g :: h :: rest => do
      let char ← charOfHex? [a, b, c, d, e, f, g, h]
      push char <$> readBasic? rest
  | '\\' :: letter :: rest => do
      let char ← escaped? letter
      push char <$> readBasic? rest
  | char :: rest => if isTextChar char && char != '\\' then push char <$> readBasic? rest else none

def breaksLine (text : List Char) : Bool :=
  match text.dropWhile fun char => char == ' ' || char == '\t' with
  | '\n' :: _ => true
  | '\r' :: '\n' :: _ => true
  | _ => false

/-- Reads a basic string over several lines. A backslash at the end of a line takes away the line
break and all white space after it; it sets `skipping` for as long as that lasts. -/
def readLongBasic? (skipping : Bool) : List Char → Option (List Char × List Char)
  | [] => none
  | '\x22' :: '\x22' :: '\x22' :: '\x22' :: '\x22' :: rest => some (['\x22', '\x22'], rest)
  | '\x22' :: '\x22' :: '\x22' :: '\x22' :: rest => some (['\x22'], rest)
  | '\x22' :: '\x22' :: '\x22' :: rest => some ([], rest)
  | '\\' :: 'u' :: a :: b :: c :: d :: rest => do
      let char ← charOfHex? [a, b, c, d]
      push char <$> readLongBasic? false rest
  | '\\' :: 'U' :: a :: b :: c :: d :: e :: f :: g :: h :: rest => do
      let char ← charOfHex? [a, b, c, d, e, f, g, h]
      push char <$> readLongBasic? false rest
  | '\\' :: letter :: rest =>
      if breaksLine (letter :: rest) then readLongBasic? true rest
      else do
        let char ← escaped? letter
        push char <$> readLongBasic? false rest
  | '\r' :: '\n' :: rest =>
      if skipping then readLongBasic? true rest else push '\n' <$> readLongBasic? false rest
  | char :: rest =>
      if skipping && (char == ' ' || char == '\t' || char == '\n') then readLongBasic? true rest
      else if char == '\n' || (isTextChar char && char != '\\') then
        push char <$> readLongBasic? false rest
      else none

def readLiteral? : List Char → Option (List Char × List Char)
  | [] => none
  | '\x27' :: rest => some ([], rest)
  | char :: rest => if isTextChar char then push char <$> readLiteral? rest else none

def readLongLiteral? : List Char → Option (List Char × List Char)
  | [] => none
  | '\x27' :: '\x27' :: '\x27' :: '\x27' :: '\x27' :: rest => some (['\x27', '\x27'], rest)
  | '\x27' :: '\x27' :: '\x27' :: '\x27' :: rest => some (['\x27'], rest)
  | '\x27' :: '\x27' :: '\x27' :: rest => some ([], rest)
  | '\r' :: '\n' :: rest => push '\n' <$> readLongLiteral? rest
  | char :: rest =>
      if char == '\n' || isTextChar char then push char <$> readLongLiteral? rest else none

def dropLineBreak : List Char → List Char
  | '\n' :: rest => rest
  | '\r' :: '\n' :: rest => rest
  | text => text

def readString? : List Char → Option (String × List Char)
  | '\x22' :: '\x22' :: '\x22' :: rest => finish (readLongBasic? false (dropLineBreak rest))
  | '\x27' :: '\x27' :: '\x27' :: rest => finish (readLongLiteral? (dropLineBreak rest))
  | '\x22' :: rest => finish (readBasic? rest)
  | '\x27' :: rest => finish (readLiteral? rest)
  | _ => none
where
  finish (read : Option (List Char × List Char)) : Option (String × List Char) :=
    read.map fun (text, rest) => (String.ofList text, rest)

end ResourceFilter.Toml
