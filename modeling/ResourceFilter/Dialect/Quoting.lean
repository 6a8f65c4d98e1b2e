/-!
String literals between single quotes.
-/

namespace ResourceFilter

inductive QuoteStyle
  | backslash
  | doubled
  deriving DecidableEq, Repr

namespace QuoteStyle

def mark : Char := '\x27'

def escapeChar : QuoteStyle → Char → List Char
  | backslash, char => if char = '\\' ∨ char = mark then ['\\', char] else [char]
  | doubled, char => if char = mark then [mark, mark] else [char]

def escape (style : QuoteStyle) (text : List Char) : List Char :=
  text.flatMap style.escapeChar

def quote (style : QuoteStyle) (value : String) : String :=
  String.ofList (mark :: style.escape value.toList ++ [mark])

end QuoteStyle

end ResourceFilter
