import ResourceFilter.Proofs.Clause.Viable
import ResourceFilter.Proofs.Dialect.Derivation

/-!
Reading under a dialect that operators were taken away from. A filter is read as under the base, up
to the first operator that is gone; there it is refused.
-/

namespace ResourceFilter

namespace TermStage

def operators : TermStage → List Operator
  | start | afterField _ => []
  | afterOperator _ operator | afterValue _ operator _ => [operator]

def accepted? : TermStage → Option Operator
  | afterOperator _ operator => some operator
  | _ => none

/-- The operators that are accepted as lexemes are read, until the end or the first error. -/
def operatorsRead (dialect : Dialect) : TermStage → List Lexeme → List Operator
  | _, [] => []
  | stage, lexeme :: rest =>
      match stage.next? dialect lexeme with
      | none => []
      | some (next, _) => next.accepted?.toList ++ operatorsRead dialect next rest

variable {dialect : Dialect} {stage next last : TermStage} {clauses : List Clause}

theorem Steps.operators {lexeme : Lexeme} {complete : Option Clause}
    (steps : Steps dialect stage lexeme next complete) :
    stage.operators ++ next.accepted?.toList =
      complete.toList.map Clause.operator ++ next.operators := by
  cases steps <;> rfl

theorem operatorsRead_of_run? {read : List Lexeme}
    (ran : stage.run? dialect read = some (last, clauses)) :
    stage.operators ++ operatorsRead dialect stage read =
      clauses.map Clause.operator ++ last.operators := by
  induction read generalizing stage clauses with
  | nil =>
      simp only [run?, Option.some.injEq, Prod.mk.injEq] at ran
      obtain ⟨rfl, rfl⟩ := ran
      simp [operatorsRead]
  | cons lexeme rest ih =>
      obtain ⟨next, complete, later, steps, ranRest, rfl⟩ := run?_cons.mp ran
      rw [operatorsRead, next?_eq_some_iff.mpr steps]
      simp only
      rw [← List.append_assoc, steps.operators, List.append_assoc, ih ranRest, List.map_append,
        List.append_assoc]

end TermStage

def Clause.operatorsRead (dialect : Dialect) (filter : String) : List Operator :=
  TermStage.operatorsRead dialect .start (ResourceFilter.lexemes filter.toList)

section Denying

variable {base : Dialect} {changes : List Dialect.Change} {stage next : TermStage} {token : Token}

theorem TermStage.step_derive_of_error {error : FilterError}
    (failed : stage.step base token = .error error) :
    stage.step (base.derive changes) token = .error error := by
  obtain ⟨position, lexeme⟩ := token
  cases stage with
  | start | afterOperator | afterValue => cases lexeme <;> exact failed
  | afterField field =>
      cases lexeme with
      | word | combinator => exact failed
      | symbol symbol =>
          cases known : base.operator? symbol with
          | some operator => simp [step, known] at failed
          | none =>
              simp only [step, known] at failed
              simp only [step, Dialect.operator?_derive, known, Option.filter_none, failed]

/-- A step that accepts an operator that is gone fails; every other step is made as before. -/
theorem TermStage.step_derive_of_ok {complete : Option Clause}
    (stepped : stage.step base token = .ok (next, complete)) :
    stage.step (base.derive changes) token =
      match next.accepted?.toList.find? (· ∈ Dialect.removed changes) with
      | some operator => .error (.unsupportedOperator operator.symbol)
      | none => .ok (next, complete) := by
  obtain ⟨position, lexeme⟩ := token
  have steps := next?_eq_some_iff.mp (step_eq_ok_iff.mp stepped)
  cases steps with
  | field isField => simp [step, isField, accepted?]
  | value | combinator => rfl
  | @operator field symbol operator known =>
      have written := (Dialect.operator?_eq_some_iff.mp known).1
      simp only [step, Dialect.operator?_derive, known, accepted?, Option.toList_some,
        List.find?_singleton]
      by_cases denied : operator ∈ Dialect.removed changes
      · simp [Option.filter, denied, written]
      · simp [Option.filter, denied]

/-- The first operator that is read and gone is reported; without one, what is read is the same. -/
theorem Clause.ofTokens?_derive (stop : Nat) (tokens : List Token) :
    ofTokens? (base.derive changes) stop stage tokens =
      match (stage.operatorsRead base (tokens.map Token.lexeme)).find?
          (· ∈ Dialect.removed changes) with
      | some operator => .error (.unsupportedOperator operator.symbol)
      | none => ofTokens? base stop stage tokens := by
  -- Up to the first operator that is gone both readers go through the same stages.
  induction tokens generalizing stage with
  | nil => rfl
  | cons token rest ih =>
      rw [List.map_cons, TermStage.operatorsRead, ofTokens?, ofTokens?]
      cases stepped : stage.step base token with
      | error error =>
          have stuck : stage.next? base token.lexeme = none := by
            rw [Option.eq_none_iff_forall_ne_some]
            intro result made
            rw [TermStage.step_eq_ok_iff.mpr made] at stepped
            contradiction
          rw [TermStage.step_derive_of_error stepped, stuck]
          rfl
      | ok result =>
          obtain ⟨next, complete⟩ := result
          rw [TermStage.step_derive_of_ok stepped, TermStage.step_eq_ok_iff.mp stepped,
            List.find?_append]
          cases next.accepted?.toList.find? (· ∈ Dialect.removed changes) with
          | some operator => rfl
          | none =>
              simp only [ih, Option.none_or]
              cases (next.operatorsRead base (rest.map Token.lexeme)).find?
                (· ∈ Dialect.removed changes) <;> rfl

theorem Clause.parse_derive_of_stray {filter : String} (dirty : ¬NoStray filter.toList) :
    parse (base.derive changes) filter = parse base filter := by
  rw [← Stray.scan_eq_nil_iff] at dirty
  obtain ⟨stray, later, strays⟩ := List.exists_cons_of_ne_nil dirty
  rw [parse, parse, strays]

theorem Clause.parse_derive {filter : String} (clean : NoStray filter.toList) :
    parse (base.derive changes) filter =
      match (operatorsRead base filter).find? (· ∈ Dialect.removed changes) with
      | some operator => .error (.unsupportedOperator operator.symbol)
      | none => parse base filter := by
  rw [parse, parse, (Stray.scan_eq_nil_iff _).mpr clean, operatorsRead, ← Token.map_lexeme_scan]
  exact ofTokens?_derive _ _

theorem Clause.parse_derive_of_spared {filter : String}
    (spared : ∀ operator ∈ operatorsRead base filter, operator ∉ Dialect.removed changes) :
    parse (base.derive changes) filter = parse base filter := by
  by_cases clean : NoStray filter.toList
  · have nothing : (operatorsRead base filter).find? (· ∈ Dialect.removed changes) = none := by
      rw [List.find?_eq_none]
      simpa using spared
    rw [parse_derive clean, nothing]
  · exact parse_derive_of_stray clean

theorem Clause.parse_derive_of_denied {filter : String} {before after : List Operator}
    {operator : Operator} (clean : NoStray filter.toList)
    (accepted : operatorsRead base filter = before ++ operator :: after)
    (kept : ∀ earlier ∈ before, earlier ∉ Dialect.removed changes)
    (denied : operator ∈ Dialect.removed changes) :
    parse (base.derive changes) filter = .error (.unsupportedOperator operator.symbol) := by
  have first : (operatorsRead base filter).find? (· ∈ Dialect.removed changes) = some operator := by
    rw [accepted, List.find?_eq_some_iff_append]
    exact ⟨by simpa using denied, before, after, rfl, by simpa using kept⟩
  rw [parse_derive clean, first]

theorem Clause.operatorsRead_of_parse {filter : String} {clauses : List Clause}
    (read : parse base filter = .ok clauses) :
    operatorsRead base filter = clauses.map Clause.operator := by
  obtain ⟨last, complete, ran⟩ := run?_of_parse read
  have same := TermStage.operatorsRead_of_run? ran
  rw [parse_of_run? (parse_eq_ok_iff_lexemes.mp read).1 ran] at read
  rw [operatorsRead, ← List.nil_append (TermStage.operatorsRead _ _ _)]
  refine same.trans ?_
  cases last with
  | start =>
      simp only [TermStage.finish, Except.map, List.append_nil, Except.ok.injEq] at read
      simp [TermStage.operators, read]
  | afterValue field operator value =>
      simp only [TermStage.finish, Except.map, Except.ok.injEq] at read
      simp [TermStage.operators, ← read]
  | afterField | afterOperator => simp [TermStage.finish, Except.map] at read

end Denying

end ResourceFilter
