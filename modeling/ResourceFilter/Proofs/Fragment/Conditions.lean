import Mathlib.Data.List.Forall2
import ResourceFilter.CompiledFilter
import ResourceFilter.Proofs.DateLiteral.Recognition

/-!
What the conditions of clauses are: where their columns and tokens come from, which text their
operands carry, and what stands around it.
-/

namespace ResourceFilter

/-- The text that the operand of a clause carries, if the value of the clause can be read: the
value itself, the pattern for it, or the date that it writes. -/
def Clause.carried? (dialect : Dialect) (clause : Clause) : Option String :=
  match clause.operator.kind with
  | .comparison | .string => some clause.value
  | .pattern => some (dialect.patterns.wrap clause.value)
  | .date =>
      (DateLiteral.parse? clause.value).map fun literal =>
        match dialect.dates with
        | .function _ => clause.value
        | .cast _ => literal.date.iso

namespace Dialect

def opening (dialect : Dialect) : Operator.Kind → String
  | .comparison | .string | .pattern => ""
  | .date =>
      match dialect.dates with
      | .function name => name ++ "("
      | .cast _ => ""

def closing (dialect : Dialect) : Operator.Kind → String
  | .comparison | .string | .pattern => ""
  | .date =>
      match dialect.dates with
      | .function _ => ")"
      | .cast type => "::" ++ type

end Dialect

namespace Condition

structure States (dialect : Dialect) (columns : FieldMap) (clause : Clause)
    (condition : Condition) : Prop where
  column : columns.get? clause.field = some condition.column
  token : dialect.token? clause.operator = some condition.token
  opening : condition.opening = dialect.opening clause.operator.kind
  value : clause.carried? dialect = some condition.value
  bare : condition.bare = true ↔ clause.operator.kind = .comparison
  closing : condition.closing = dialect.closing clause.operator.kind
  joint : condition.joint = clause.combinator.getD .and

abbrev StateAll (dialect : Dialect) (columns : FieldMap) : List Clause → List Condition → Prop :=
  List.Forall₂ fun clause condition => condition.States dialect columns clause

variable {dialect : Dialect} {columns : FieldMap}

theorem ofOperand?_states {column token : String} {clause : Clause} {condition : Condition}
    (hasColumn : columns.get? clause.field = some column)
    (hasToken : dialect.token? clause.operator = some token)
    (made : ofOperand? dialect column token clause = .ok condition) :
    condition.States dialect columns clause := by
  rw [ofOperand?] at made
  cases kind : clause.operator.kind with
  | comparison | string | pattern =>
      rw [kind] at made
      cases made
      constructor <;> simp [hasColumn, hasToken, Clause.carried?, kind, Dialect.opening,
        Dialect.closing]
  | date =>
      rw [kind] at made
      cases parsed : DateLiteral.parse clause.value with
      | error error => simp [parsed] at made
      | ok literal =>
          have read := DateLiteral.parse_eq_ok_iff.mp parsed
          have written := (DateLiteral.parse?_eq_some_iff.mp read).1
          cases dates : dialect.dates <;> simp only [parsed, dates] at made <;> cases made <;>
            constructor <;> simp [hasColumn, hasToken, Clause.carried?, kind, read, dates, written,
              Dialect.opening, Dialect.closing]

theorem states_of_ofClause? {clause : Clause} {condition : Condition}
    (made : ofClause? dialect columns clause = .ok condition) :
    condition.States dialect columns clause := by
  rw [ofClause?] at made
  cases hasColumn : columns.get? clause.field with
  | none => simp [hasColumn] at made
  | some column =>
      cases hasToken : dialect.token? clause.operator with
      | none => simp [hasColumn, hasToken] at made
      | some token =>
          rw [hasColumn] at made
          simp only [hasToken] at made
          exact ofOperand?_states hasColumn hasToken made

theorem states_of_ofClauses? {clauses : List Clause} {conditions : List Condition}
    (made : ofClauses? dialect columns clauses = .ok conditions) :
    StateAll dialect columns clauses conditions := by
  induction clauses generalizing conditions with
  | nil =>
      cases made
      exact .nil
  | cons clause rest ih =>
      rw [ofClauses?] at made
      cases first : ofClause? dialect columns clause with
      | error error => simp [first] at made
      | ok condition =>
          cases later : ofClauses? dialect columns rest with
          | error error => simp [first, later, Except.map] at made
          | ok conditions =>
              rw [first, later] at made
              cases made
              exact .cons (states_of_ofClause? first) (ih later)

theorem forall_mem_of_stateAll {clauses : List Clause} {conditions : List Condition}
    {holds : Clause → Prop} (states : StateAll dialect columns clauses conditions)
    (each : ∀ clause condition, States dialect columns clause condition → holds clause) :
    ∀ clause ∈ clauses, holds clause := by
  have both := states.imp fun clause condition stated =>
    And.intro (each clause condition stated) stated
  exact ((List.forall₂_and_left clauses conditions).mp both).1

end Condition

theorem CompiledFilter.exists_conditions {dialect : Dialect} {mode : Mode} {columns : FieldMap}
    {clauses : List Clause} {compiled : CompiledFilter}
    (accepted : ofClauses? dialect mode columns clauses = .ok compiled) :
    ∃ conditions, compiled = ofConditions dialect mode conditions ∧
      Condition.StateAll dialect columns clauses conditions := by
  rw [ofClauses?] at accepted
  cases made : Condition.ofClauses? dialect columns clauses with
  | error error => simp [made, Except.map] at accepted
  | ok conditions =>
      rw [made] at accepted
      exact ⟨conditions, (Except.ok.inj accepted).symm, Condition.states_of_ofClauses? made⟩

end ResourceFilter
