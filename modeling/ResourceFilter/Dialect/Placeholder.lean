/-!
Marks that stand in a fragment for bound values.
-/

namespace ResourceFilter

inductive PlaceholderStyle
  | dollar
  | atSign
  deriving DecidableEq, Repr

namespace PlaceholderStyle

def lead : PlaceholderStyle → String
  | dollar => "$"
  | atSign => "@v"

def placeholder (style : PlaceholderStyle) (position : Nat) : String :=
  style.lead ++ toString position

end PlaceholderStyle

end ResourceFilter
