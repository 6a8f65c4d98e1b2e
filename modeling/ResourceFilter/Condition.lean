import ResourceFilter.Clause
import ResourceFilter.DateLiteral
import ResourceFilter.Dialect
import ResourceFilter.FilterError
import ResourceFilter.Schema
import ResourceFilter.Token

/-!
The condition that a clause becomes in a query. A condition is the same in both modes up to its
operand, which is a literal in the one and a placeholder in the other.
-/

namespace ResourceFilter

structure Condition where
  column : String
  token : String
  opening : String
  value : String
  bare : Bool
  closing : String
  joint : Combinator
  deriving DecidableEq, Repr

def isBareWord (value : String) : Bool :=
  !value.isEmpty && value.toList.all isWordChar

namespace Condition

def ofOperand? (dialect : Dialect) (column token : String) (clause : Clause) :
    Except FilterError Condition :=
  let joint := clause.combinator.getD .and
  match clause.operator.kind with
  | .comparison => .ok ⟨column, token, "", clause.value, true, "", joint⟩
  | .string => .ok ⟨column, token, "", clause.value, false, "", joint⟩
  | .pattern => .ok ⟨column, token, "", dialect.patterns.wrap clause.value, false, "", joint⟩
  | .date =>
      match DateLiteral.parse clause.value with
      | .error error => .error error
      | .ok literal =>
          match dialect.dates with
          | .function name => .ok ⟨column, token, name ++ "(", literal.text, false, ")", joint⟩
          | .cast type => .ok ⟨column, token, "", literal.date.iso, false, "::" ++ type, joint⟩

/-- The condition of a clause. A missing column is reported before a missing token, and a
missing token before a bad date. -/
def ofClause? (dialect : Dialect) (columns : FieldMap) (clause : Clause) :
    Except FilterError Condition :=
  match columns.get? clause.field with
  | none => .error (.unmappedField clause.field)
  | some column =>
      match dialect.token? clause.operator with
      | none => .error (.unsupportedOperator clause.operator.symbol)
      | some token => ofOperand? dialect column token clause

def ofClauses? (dialect : Dialect) (columns : FieldMap) :
    List Clause → Except FilterError (List Condition)
  | [] => .ok []
  | clause :: rest =>
      match ofClause? dialect columns clause with
      | .error error => .error error
      | .ok condition => (ofClauses? dialect columns rest).map (condition :: ·)

def literal (quotes : QuoteStyle) (condition : Condition) : String :=
  if condition.bare && isBareWord condition.value then condition.value
  else quotes.quote condition.value

def operand (dialect : Dialect) (mode : Mode) (position : Nat) (condition : Condition) : String :=
  match mode with
  | .inline => condition.literal dialect.quotes
  | .placeholder => dialect.placeholders.placeholder position

def text (dialect : Dialect) (mode : Mode) (position : Nat) (condition : Condition) : String :=
  condition.column ++ " " ++ condition.token ++ " " ++ condition.opening ++
    condition.operand dialect mode position ++ condition.closing

/-- Conditions joined by their combinators, the first of them at the given position. The
combinator of the last one is left out. -/
def join (dialect : Dialect) (mode : Mode) : Nat → List Condition → String
  | _, [] => ""
  | position, [condition] => condition.text dialect mode position
  | position, condition :: next :: rest =>
      condition.text dialect mode position ++ " " ++ condition.joint.keyword ++ " " ++
        join dialect mode (position + 1) (next :: rest)

end Condition

end ResourceFilter
