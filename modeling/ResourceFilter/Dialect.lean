import ResourceFilter.Dialect.Pattern
import ResourceFilter.Dialect.Placeholder
import ResourceFilter.Dialect.Quoting
import ResourceFilter.Operator

/-!
A dialect says how the query language of one backend writes conditions. There are two built-in
dialects; others are derived from them by taking operators away and by changing the mode.
-/

namespace ResourceFilter

inductive Mode
  | inline
  | placeholder
  deriving DecidableEq, Repr

def Mode.label : Mode → String
  | .inline => "inline"
  | .placeholder => "placeholder"

inductive DateStyle
  | function (name : String)
  | cast (type : String)
  deriving DecidableEq, Repr

structure Dialect where
  name : String
  keyword : String
  table : List (Operator × String)
  mode : Mode
  placeholders : PlaceholderStyle
  patterns : PatternStyle
  dates : DateStyle
  quotes : QuoteStyle
  deriving DecidableEq, Repr

namespace Dialect

def aql : Dialect where
  name := "aql"
  keyword := "FILTER"
  table :=
    [(.equal, "=="), (.strictEqual, "=="), (.notEqual, "!="), (.strictNotEqual, "!="),
      (.greater, ">"), (.less, "<"), (.greaterOrEqual, ">="), (.lessOrEqual, "<="),
      (.matching, "=~"), (.notMatching, "!~"), (.containing, "=~"), (.notContaining, "!~"),
      (.dateEqual, "=="), (.dateGreater, ">"), (.dateLess, "<"),
      (.dateGreaterOrEqual, ">="), (.dateLessOrEqual, "<=")]
  mode := .inline
  placeholders := .atSign
  patterns := .regex
  dates := .function "DATE_ISO8601"
  quotes := .backslash

def postgres : Dialect where
  name := "postgres"
  keyword := "WHERE"
  table :=
    [(.equal, "="), (.strictEqual, "="), (.notEqual, "!="), (.strictNotEqual, "!="),
      (.greater, ">"), (.less, "<"), (.greaterOrEqual, ">="), (.lessOrEqual, "<="),
      (.matching, "SIMILAR TO"), (.notMatching, "NOT SIMILAR TO"),
      (.containing, "SIMILAR TO"), (.notContaining, "NOT SIMILAR TO"),
      (.dateEqual, "="), (.dateGreater, ">"), (.dateLess, "<"),
      (.dateGreaterOrEqual, ">="), (.dateLessOrEqual, "<=")]
  mode := .placeholder
  placeholders := .dollar
  patterns := .sqlWildcard
  dates := .cast "date"
  quotes := .doubled

def builtin : List Dialect := [aql, postgres]

def names : List (String × Dialect) :=
  [("aql", aql), ("arangodb", aql), ("postgres", postgres), ("postgresql", postgres),
    ("pg", postgres)]

def ofName? (name : String) : Option Dialect :=
  names.lookup name.toLower

def token? (dialect : Dialect) (operator : Operator) : Option String :=
  dialect.table.lookup operator

def supports (dialect : Dialect) (operator : Operator) : Bool :=
  (dialect.token? operator).isSome

def operator? (dialect : Dialect) (symbol : String) : Option Operator :=
  (Operator.ofSymbol? symbol).filter dialect.supports

def without (dialect : Dialect) (operators : List Operator) : Dialect :=
  { dialect with table := dialect.table.filter fun entry => !operators.contains entry.1 }

def withMode (dialect : Dialect) (mode : Mode) : Dialect :=
  { dialect with mode }

inductive Change
  | without (operators : List Operator)
  | mode (mode : Mode)
  deriving DecidableEq, Repr

def change (dialect : Dialect) : Change → Dialect
  | .without operators => dialect.without operators
  | .mode mode => dialect.withMode mode

def derive (dialect : Dialect) (changes : List Change) : Dialect :=
  changes.foldl change dialect

theorem mem_table_of_token? {dialect : Dialect} {operator : Operator} {token : String}
    (known : dialect.token? operator = some token) : (operator, token) ∈ dialect.table := by
  obtain ⟨earlier, later, split, _⟩ := List.lookup_eq_some_iff.mp known
  simp [split]

theorem token?_eq_none_iff {dialect : Dialect} {operator : Operator} :
    dialect.token? operator = none ↔ operator ∉ dialect.table.map Prod.fst := by
  rw [token?, List.lookup_eq_none_iff, List.mem_map]
  grind

theorem supports_of_mem_builtin {dialect : Dialect} (member : dialect ∈ builtin)
    (operator : Operator) : dialect.supports operator = true := by
  rw [builtin, List.mem_cons, List.mem_singleton] at member
  rcases member with rfl | rfl <;> cases operator <;> rfl

def removed (changes : List Change) : List Operator :=
  changes.flatMap fun
    | .without operators => operators
    | .mode _ => []

def lastMode? (changes : List Change) : Option Mode :=
  (changes.filterMap fun
    | .without _ => none
    | .mode mode => some mode).getLast?

/-- Of the changes that a dialect is derived by, only the operators that they take away and the mode
that they end with count. -/
theorem derive_eq (base : Dialect) (changes : List Change) :
    base.derive changes =
      { base with
        table := base.table.filter fun entry => !(removed changes).contains entry.1
        mode := (lastMode? changes).getD base.mode } := by
  induction changes generalizing base with
  | nil =>
      have whole : base.table.filter (fun _ => true) = base.table :=
        List.filter_eq_self.mpr fun _ _ => rfl
      simp only [removed, lastMode?, List.flatMap_nil, List.contains_nil, Bool.not_false, whole]
      rfl
  | cons first later ih =>
      have step : base.derive (first :: later) = (base.change first).derive later := rfl
      rw [step, ih]
      cases first with
      | mode mode => simp [change, withMode, removed, lastMode?, List.getLast?_cons]
      | without operators =>
          simp [change, without, removed, lastMode?, List.filter_filter, Bool.and_comm]

end Dialect

end ResourceFilter
