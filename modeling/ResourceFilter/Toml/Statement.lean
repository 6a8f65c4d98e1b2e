import ResourceFilter.Toml.Quoted

/-!
The statements of a TOML document: headers, and keys with their values.
-/

namespace ResourceFilter.Toml

abbrev Key := List String

inductive Statement
  | header (key : Key)
  | listHeader (key : Key)
  | assignment (key : Key) (value : Value)

abbrev Reader (α : Type) := List Char → Option (α × List Char)

def skipSpaces (text : List Char) : List Char :=
  text.dropWhile fun char => char == ' ' || char == '\t'

/-- Drops spaces, line breaks and comments. Fails at a control character in a comment, and at a
carriage return that is not part of a line break. -/
def skipBlank? (inComment : Bool) : List Char → Option (List Char)
  | [] => some []
  | '\r' :: '\n' :: rest => skipBlank? false rest
  | '\n' :: rest => skipBlank? false rest
  | char :: rest =>
      if inComment then if isTextChar char then skipBlank? true rest else none
      else if char == '#' then skipBlank? true rest
      else if char == ' ' || char == '\t' then skipBlank? false rest
      else if char == '\r' then none
      else some (char :: rest)

def readSeparated? {α : Type} (item : Reader α) (separator : Char) : Nat → Reader (List α)
  | 0, _ => none
  | count + 1, text => do
      let (first, rest) ← item text
      match rest with
      | char :: more =>
          if char = separator then do
            let (others, rest) ← readSeparated? item separator count more
            return (first :: others, rest)
          else return ([first], rest)
      | [] => return ([first], [])

def isKeyChar (char : Char) : Bool :=
  char.isAlphanum || char == '_' || char == '-'

def readName? (text : List Char) : Option (String × List Char) := do
  let text := skipSpaces text
  let (name, rest) ←
    match text with
    | '\x22' :: rest => readBasic? rest
    | '\x27' :: rest => readLiteral? rest
    | _ =>
        let name := text.takeWhile isKeyChar
        if name.isEmpty then none else some (name, text.dropWhile isKeyChar)
  return (String.ofList name, skipSpaces rest)

/-- One more than the greatest number of names in a key, and than the greatest depth of nested
values. -/
def nestingLimit : Nat := 80

def readKey? : Reader Key :=
  readSeparated? readName? '.' (nestingLimit - 1)

def readAssignment? (value : Reader Value) (text : List Char) :
    Option ((Key × Value) × List Char) := do
  let (key, rest) ← readKey? text
  match rest with
  | '=' :: rest => do
      let (held, rest) ← value (skipSpaces rest)
      return ((key, held), skipSpaces rest)
  | _ => none

def readItems? (value : Reader Value) : Nat → Reader (List Value)
  | 0, _ => none
  | count + 1, text => do
      match ← skipBlank? false text with
      | ']' :: rest => return ([], rest)
      | text => do
          let (item, rest) ← value text
          match ← skipBlank? false rest with
          | ',' :: rest => do
              let (others, rest) ← readItems? value count rest
              return (item :: others, rest)
          | ']' :: rest => return ([item], rest)
          | _ => none

/-- Puts a value where a key with dots leads to. The tables on the way are made, or must have
been made, by keys with dots alone; `open?` tells whether the table at hand may take the value. -/
def assign? (value : Value) : Bool → Key → Members → Option Members
  | _, [], _ => none
  | open?, [name], members => if open? then members.add? name value else none
  | _, name :: rest, members =>
      match members.lookup name with
      | none => (assign? value true rest []).map fun inner => members.set name (.table .dotted inner)
      | some (.table .dotted inner) =>
          (assign? value true rest inner).map fun inner => members.set name (.table .dotted inner)
      | some (.table .parent inner) =>
          (assign? value false rest inner).map fun inner => members.set name (.table .parent inner)
      | some (.array true items) =>
          match items.getLast? with
          | some (.table origin inner) =>
              (assign? value false rest inner).map fun inner =>
                members.set name (.array true (items.dropLast ++ [.table origin inner]))
          | _ => none
      | some _ => none

def assignAll? (members : Members) (assignments : List (Key × Value)) : Option Members :=
  assignments.foldlM (fun members (key, value) => assign? value true key members) members

def readValue? : Nat → Reader Value
  | depth, text =>
      match text with
      | '\x22' :: _ | '\x27' :: _ =>
          (readString? text).map fun (string, rest) => (.string string, rest)
      | '[' :: rest =>
          match depth with
          | 0 => none
          | depth + 1 =>
              (readItems? (readValue? depth) (rest.length + 1) rest).map fun (items, rest) =>
                (.array false items, rest)
      | '\x7b' :: rest =>
          match depth with
          | 0 => none
          | depth + 1 =>
              match skipSpaces rest with
              | '\x7d' :: rest => some (.table .inline [], rest)
              | text => do
                  let (assignments, rest) ←
                    readSeparated? (readAssignment? (readValue? depth)) ',' text.length text
                  let members ← assignAll? [] assignments
                  match rest with
                  | '\x7d' :: rest => some (.table .inline members, rest)
                  | _ => none
      | _ => readScalar? text

def readHeader? : Reader Statement
  | '[' :: '[' :: rest => do
      match ← readKey? rest with
      | (key, ']' :: ']' :: rest) => return (.listHeader key, rest)
      | _ => none
  | '[' :: rest => do
      match ← readKey? rest with
      | (key, ']' :: rest) => return (.header key, rest)
      | _ => none
  | _ => none

def readStatement? (text : List Char) : Option (Statement × List Char) :=
  match text with
  | '[' :: _ => readHeader? text
  | _ => (readAssignment? (readValue? (nestingLimit - 1)) text).map fun ((key, value), rest) =>
      (.assignment key value, rest)

def endsLine (text : List Char) : Bool :=
  match skipSpaces text with
  | [] => true
  | '#' :: _ => true
  | '\n' :: _ => true
  | '\r' :: '\n' :: _ => true
  | _ => false

def readStatements? : Nat → List Char → Option (List Statement)
  | 0, _ => none
  | count + 1, text => do
      match ← skipBlank? false text with
      | [] => return []
      | text => do
          let (statement, rest) ← readStatement? text
          if endsLine rest then
            let others ← readStatements? count rest
            return statement :: others
          else none

def statements? (text : List Char) : Option (List Statement) :=
  let text :=
    match text with
    | '\ufeff' :: rest => rest
    | _ => text
  readStatements? (text.length + 1) text

end ResourceFilter.Toml
