import ResourceFilter.AllowList
import ResourceFilter.Clause.Parsing
import ResourceFilter.Condition

/-!
Compiling filters: from clauses to the fragment of a query, and from the text of a filter through
the allow-list of a resource to the fragment.
-/

namespace ResourceFilter

structure CompiledFilter where
  fragment : String
  binds : List String
  deriving DecidableEq, Repr

namespace CompiledFilter

def empty : CompiledFilter where
  fragment := ""
  binds := []

def isEmpty (compiled : CompiledFilter) : Bool :=
  compiled.fragment.isEmpty

def ofConditions (dialect : Dialect) (mode : Mode) : List Condition → CompiledFilter
  | [] => empty
  | condition :: rest =>
      { fragment := dialect.keyword ++ " " ++ Condition.join dialect mode 1 (condition :: rest)
        binds :=
          match mode with
          | .inline => []
          | .placeholder => (condition :: rest).map Condition.value }

def ofClauses? (dialect : Dialect) (mode : Mode) (columns : FieldMap) (clauses : List Clause) :
    Except FilterError CompiledFilter :=
  (Condition.ofClauses? dialect columns clauses).map (ofConditions dialect mode)

/-- Reads a filter, checks its fields against a schema and compiles it in the dialect's mode. -/
def build (dialect : Dialect) (schema : Schema) (filter : String) :
    Except FilterError CompiledFilter := do
  let clauses ← Clause.parse dialect filter
  AllowList.check schema.fields clauses
  ofClauses? dialect dialect.mode schema.columnMap clauses

end CompiledFilter

end ResourceFilter
