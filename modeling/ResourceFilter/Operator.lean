/-!
The seventeen comparison operators a filter may use, their symbols and their kinds.
-/

namespace ResourceFilter

inductive Operator
  | equal
  | strictEqual
  | notEqual
  | strictNotEqual
  | greater
  | less
  | greaterOrEqual
  | lessOrEqual
  | matching
  | notMatching
  | containing
  | notContaining
  | dateEqual
  | dateGreater
  | dateLess
  | dateGreaterOrEqual
  | dateLessOrEqual
  deriving DecidableEq, Repr

namespace Operator

inductive Kind
  | comparison
  | string
  | pattern
  | date
  deriving DecidableEq, Repr

def Kind.label : Kind → String
  | .comparison => "comparison"
  | .string => "string"
  | .pattern => "pattern"
  | .date => "date"

def all : List Operator :=
  [equal, strictEqual, notEqual, strictNotEqual, greater, less, greaterOrEqual, lessOrEqual,
    matching, notMatching, containing, notContaining,
    dateEqual, dateGreater, dateLess, dateGreaterOrEqual, dateLessOrEqual]

def symbol : Operator → String
  | equal => "=="
  | strictEqual => "==="
  | notEqual => "!="
  | strictNotEqual => "!=="
  | greater => ">"
  | less => "<"
  | greaterOrEqual => ">="
  | lessOrEqual => "<="
  | matching => "~"
  | notMatching => "!~"
  | containing => "=@"
  | notContaining => "!@"
  | dateEqual => "$=="
  | dateGreater => "$>"
  | dateLess => "$<"
  | dateGreaterOrEqual => "$>="
  | dateLessOrEqual => "$<="

def kind : Operator → Kind
  | strictEqual | strictNotEqual => .string
  | matching | notMatching | containing | notContaining => .pattern
  | dateEqual | dateGreater | dateLess | dateGreaterOrEqual | dateLessOrEqual => .date
  | _ => .comparison

def ofSymbol? (text : String) : Option Operator :=
  all.find? fun operator => operator.symbol == text

def rank (operator : Operator) : Nat :=
  all.idxOf operator

def arrange (operators : List Operator) : List Operator :=
  operators.mergeSort fun left right => left.rank ≤ right.rank

theorem ofSymbol?_symbol (operator : Operator) : ofSymbol? operator.symbol = some operator := by
  cases operator <;> decide

theorem ofSymbol?_eq_some_iff {text : String} {operator : Operator} :
    ofSymbol? text = some operator ↔ operator.symbol = text := by
  constructor
  · intro found
    have hit := List.find?_some found
    exact beq_iff_eq.mp hit
  · intro same
    rw [← same]
    exact ofSymbol?_symbol operator

end Operator

end ResourceFilter
