/-!
Columns of text, and emphasis for terminals.
-/

namespace ResourceFilter

/-- Fills a text with spaces on the right up to a width, counted in characters. A longer text
stays as it is. -/
def padRight (width : Nat) (text : String) : List Char :=
  text.toList ++ List.replicate (width - text.length) ' '

inductive Emphasis
  | dimmed
  | bold
  | heading
  deriving DecidableEq, Repr

namespace Emphasis

def opening : Emphasis → String
  | dimmed => "\x1b[2m"
  | bold => "\x1b[1m"
  | heading => "\x1b[1m\x1b[32m"

def closing : Emphasis → String
  | dimmed | bold => "\x1b[0m"
  | heading => "\x1b[39m\x1b[0m"

def apply (emphasis : Emphasis) (colors : Bool) (text : String) : String :=
  if colors then emphasis.opening ++ text ++ emphasis.closing else text

end Emphasis

end ResourceFilter
