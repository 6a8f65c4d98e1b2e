import ResourceFilter.Clause
import ResourceFilter.Json
import ResourceFilter.Report.Layout
import ResourceFilter.Text.Blank

/-!
Listings of the clauses of a filter.
-/

namespace ResourceFilter

namespace Clause

def tableLine (number field operator value next : String) : List Char :=
  padRight 3 number ++ ' ' :: padRight 20 field ++ ' ' :: padRight 5 operator ++
    ' ' :: padRight 25 value ++ ' ' :: next.toList

def tableHeader : String :=
  String.ofList (tableLine "#" "Field" "Op" "Value" "Then")

def tableRow (number : Nat) (clause : Clause) : String :=
  String.ofList <| trimEnd <|
    tableLine (toString number) clause.field clause.operator.symbol clause.value
      ((clause.combinator.map Combinator.keyword).getD "")

def tableRows : Nat → List Clause → String
  | _, [] => ""
  | number, clause :: rest => tableRow number clause ++ "\n" ++ tableRows (number + 1) rest

def table (colors : Bool) : List Clause → String
  | [] => "No clauses.\n"
  | clauses => Emphasis.dimmed.apply colors tableHeader ++ "\n" ++ tableRows 1 clauses

def toJson (clause : Clause) : Json :=
  .object <|
    [("field", .string clause.field), ("operator", .string clause.operator.symbol),
      ("value", .string clause.value)] ++
    match clause.combinator with
    | some combinator => [("logic", .string combinator.label)]
    | none => []

def listing (dialectName : String) (clauses : List Clause) : Json :=
  .object [("dialect", .string dialectName), ("clauses", .array (clauses.map toJson))]

end Clause

end ResourceFilter
