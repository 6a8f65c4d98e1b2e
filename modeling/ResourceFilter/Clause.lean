import ResourceFilter.Combinator
import ResourceFilter.Operator

/-!
A filter is a list of clauses; a clause compares one field with one value.
-/

namespace ResourceFilter

structure Clause where
  field : String
  operator : Operator
  value : String
  combinator : Option Combinator
  deriving DecidableEq, Repr

namespace Clause

def text (clause : Clause) : String :=
  clause.field ++ clause.operator.symbol ++ clause.value ++
    match clause.combinator with
    | some combinator => String.singleton combinator.symbol
    | none => ""

def textOf (clauses : List Clause) : String :=
  String.join (clauses.map text)

end Clause

end ResourceFilter
