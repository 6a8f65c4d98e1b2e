import ResourceFilter.Dialect
import ResourceFilter.Json
import ResourceFilter.Report.Layout

/-!
Listings of the operators of a dialect.
-/

namespace ResourceFilter

namespace Dialect

def tableLine (symbol kind token : String) : String :=
  String.ofList (padRight 6 symbol ++ ' ' :: padRight 12 kind ++ ' ' :: token.toList)

def operatorTable (dialect : Dialect) (colors : Bool) : String :=
  Emphasis.dimmed.apply colors (tableLine "Op" "Kind" "Token") ++ "\n" ++
    String.join (dialect.table.map fun (operator, token) =>
      tableLine operator.symbol operator.kind.label token ++ "\n")

def operatorListing (dialect : Dialect) : Json :=
  .object
    [("dialect", .string dialect.name), ("keyword", .string dialect.keyword),
      ("operators", .array (dialect.table.map fun (operator, token) =>
        .object
          [("symbol", .string operator.symbol), ("kind", .string operator.kind.label),
            ("token", .string token)]))]

end Dialect

end ResourceFilter
