/-!
The two combinators that join a clause to the next one.
-/

namespace ResourceFilter

inductive Combinator
  | or
  | and
  deriving DecidableEq, Repr

namespace Combinator

def symbol : Combinator → Char
  | or => ','
  | and => ';'

def keyword : Combinator → String
  | or => "OR"
  | and => "AND"

def label : Combinator → String
  | or => "or"
  | and => "and"

def ofChar? (char : Char) : Option Combinator :=
  if char = ',' then some or else if char = ';' then some and else none

theorem ofChar?_eq_some_iff {char : Char} {combinator : Combinator} :
    ofChar? char = some combinator ↔ char = combinator.symbol := by
  by_cases comma : char = ','
  · cases combinator <;> simp [ofChar?, Combinator.symbol, comma]
  · by_cases semicolon : char = ';' <;>
      cases combinator <;> simp [ofChar?, Combinator.symbol, comma, semicolon]

end Combinator

end ResourceFilter
