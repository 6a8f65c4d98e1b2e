/-!
Patterns that match every text containing a given one.
-/

namespace ResourceFilter

inductive PatternStyle
  | regex
  | sqlWildcard
  deriving DecidableEq, Repr

namespace PatternStyle

def specials : PatternStyle → List Char
  | regex => "\\.*+?()[]\x7b\x7d|^$".toList
  | sqlWildcard => "\\_%*+?()[]\x7b\x7d|".toList

def anything : PatternStyle → List Char
  | regex => ".*".toList
  | sqlWildcard => "%".toList

def escape (style : PatternStyle) (text : List Char) : List Char :=
  text.flatMap fun char => if style.specials.contains char then ['\\', char] else [char]

def wrap (style : PatternStyle) (value : String) : String :=
  String.ofList (style.anything ++ style.escape value.toList ++ style.anything)

end PatternStyle

end ResourceFilter
