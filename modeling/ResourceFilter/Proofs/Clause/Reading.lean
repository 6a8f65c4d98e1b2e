import ResourceFilter.Clause.Parsing
import ResourceFilter.Proofs.Token.Scan

/-!
What a run over lexemes reads: the lexemes of the clauses it completes and of the term it is in the
midst of, and nothing else.
-/

namespace ResourceFilter

namespace Operator

theorem symbol_ne_nil (operator : Operator) : operator.symbol.toList ≠ [] := by
  cases operator <;> decide

theorem isSymbolChar_symbol (operator : Operator) :
    ∀ char ∈ operator.symbol.toList, isSymbolChar char = true := by
  apply List.all_eq_true.mp
  cases operator <;> decide

end Operator

namespace Dialect

theorem supports_iff_mem_table (dialect : Dialect) (operator : Operator) :
    dialect.supports operator = true ↔ ∃ written, (operator, written) ∈ dialect.table := by
  rw [supports, token?, List.lookup_isSome_iff]
  simp

theorem operator?_eq_some_iff {dialect : Dialect} {symbol : String} {operator : Operator} :
    dialect.operator? symbol = some operator ↔
      operator.symbol = symbol ∧ dialect.supports operator = true := by
  rw [operator?, Option.filter_eq_some_iff, Operator.ofSymbol?_eq_some_iff]

end Dialect

namespace Clause

def lexemes (clause : Clause) : List Lexeme :=
  [.word clause.field, .symbol clause.operator.symbol, .word clause.value] ++
    clause.combinator.toList.map .combinator

def Admissible (dialect : Dialect) (clause : Clause) : Prop :=
  isFieldWord clause.field = true ∧ dialect.supports clause.operator = true

end Clause

namespace TermStage

def lexemes : TermStage → List Lexeme
  | start => []
  | afterField field => [.word field]
  | afterOperator field operator => [.word field, .symbol operator.symbol]
  | afterValue field operator value => [.word field, .symbol operator.symbol, .word value]

def Admissible (dialect : Dialect) : TermStage → Prop
  | start => True
  | afterField field => isFieldWord field = true
  | afterOperator field operator | afterValue field operator _ =>
      isFieldWord field = true ∧ dialect.supports operator = true

def next? (dialect : Dialect) (stage : TermStage) (lexeme : Lexeme) :
    Option (TermStage × Option Clause) :=
  (stage.step dialect ⟨0, lexeme⟩).toOption

theorem step_eq_ok_iff {dialect : Dialect} {stage : TermStage} {token : Token}
    {result : TermStage × Option Clause} :
    stage.step dialect token = .ok result ↔ stage.next? dialect token.lexeme = some result := by
  obtain ⟨position, lexeme⟩ := token
  unfold next? step
  cases stage <;> cases lexeme <;> simp only [Except.toOption] <;> grind

inductive Steps (dialect : Dialect) : TermStage → Lexeme → TermStage → Option Clause → Prop
  | field {field} : isFieldWord field = true →
      Steps dialect start (.word field) (afterField field) none
  | operator {field symbol operator} : dialect.operator? symbol = some operator →
      Steps dialect (afterField field) (.symbol symbol) (afterOperator field operator) none
  | value {field operator value} :
      Steps dialect (afterOperator field operator) (.word value)
        (afterValue field operator value) none
  | combinator {field operator value which} :
      Steps dialect (afterValue field operator value) (.combinator which) start
        (some ⟨field, operator, value, some which⟩)

theorem next?_eq_some_iff {dialect : Dialect} {stage next : TermStage} {lexeme : Lexeme}
    {complete : Option Clause} :
    stage.next? dialect lexeme = some (next, complete) ↔
      Steps dialect stage lexeme next complete := by
  constructor
  · intro stepped
    rw [next?] at stepped
    cases stage with
    | start =>
        cases lexeme with
        | word word =>
            by_cases isField : isFieldWord word = true
            · simp only [step, isField, if_true, Except.toOption, Option.some.injEq,
                Prod.mk.injEq] at stepped
              obtain ⟨rfl, rfl⟩ := stepped
              exact .field isField
            · simp [step, isField, Except.toOption] at stepped
        | symbol | combinator => simp [step, Except.toOption] at stepped
    | afterField field =>
        cases lexeme with
        | symbol symbol =>
            cases known : dialect.operator? symbol with
            | none => simp [step, known, Except.toOption] at stepped
            | some operator =>
                simp only [step, known, Except.toOption, Option.some.injEq,
                  Prod.mk.injEq] at stepped
                obtain ⟨rfl, rfl⟩ := stepped
                exact .operator known
        | word | combinator => simp [step, Except.toOption] at stepped
    | afterOperator field operator =>
        cases lexeme with
        | word word =>
            simp only [step, Except.toOption, Option.some.injEq, Prod.mk.injEq] at stepped
            obtain ⟨rfl, rfl⟩ := stepped
            exact .value
        | symbol | combinator => simp [step, Except.toOption] at stepped
    | afterValue field operator value =>
        cases lexeme with
        | combinator which =>
            simp only [step, Except.toOption, Option.some.injEq, Prod.mk.injEq] at stepped
            obtain ⟨rfl, rfl⟩ := stepped
            exact .combinator
        | word | symbol => simp [step, Except.toOption] at stepped
  · intro steps
    cases steps with
    | field isField => simp [next?, step, isField, Except.toOption]
    | operator known => simp [next?, step, known, Except.toOption]
    | value => rfl
    | combinator => rfl

theorem Steps.lexemes {dialect : Dialect} {stage next : TermStage} {lexeme : Lexeme}
    {complete : Option Clause} (steps : Steps dialect stage lexeme next complete) :
    stage.lexemes ++ [lexeme] = complete.toList.flatMap Clause.lexemes ++ next.lexemes := by
  cases steps with
  | operator known => simp [TermStage.lexemes, (Dialect.operator?_eq_some_iff.mp known).1]
  | field | value | combinator => simp [TermStage.lexemes, Clause.lexemes]

theorem Steps.admissible {dialect : Dialect} {stage next : TermStage} {lexeme : Lexeme}
    {complete : Option Clause} (steps : Steps dialect stage lexeme next complete)
    (admissible : stage.Admissible dialect) :
    next.Admissible dialect ∧ ∀ clause ∈ complete,
      clause.Admissible dialect ∧ clause.combinator.isSome = true := by
  cases steps with
  | field isField => exact ⟨isField, by simp⟩
  | operator known => exact ⟨⟨admissible, (Dialect.operator?_eq_some_iff.mp known).2⟩, by simp⟩
  | value => exact ⟨admissible, by simp⟩
  | combinator =>
      refine ⟨trivial, ?_⟩
      intro clause completed
      cases completed
      exact ⟨admissible, rfl⟩

/-- The stage that lexemes lead to, with the clauses they complete on the way. -/
def run? (dialect : Dialect) : TermStage → List Lexeme → Option (TermStage × List Clause)
  | stage, [] => some (stage, [])
  | stage, lexeme :: rest =>
      match stage.next? dialect lexeme with
      | none => none
      | some (next, complete) =>
          (run? dialect next rest).map fun (last, clauses) => (last, complete.toList ++ clauses)

variable {dialect : Dialect} {stage last : TermStage} {clauses : List Clause}

theorem run?_cons {lexeme : Lexeme} {rest : List Lexeme} :
    stage.run? dialect (lexeme :: rest) = some (last, clauses) ↔
      ∃ next complete later, Steps dialect stage lexeme next complete ∧
        next.run? dialect rest = some (last, later) ∧ clauses = complete.toList ++ later := by
  rw [run?]
  cases stepped : stage.next? dialect lexeme with
  | none =>
      simp only [reduceCtorEq, false_iff]
      rintro ⟨next, complete, later, steps, _⟩
      rw [next?_eq_some_iff.mpr steps] at stepped
      contradiction
  | some result =>
      obtain ⟨next, complete⟩ := result
      have steps := next?_eq_some_iff.mp stepped
      simp only [Option.map_eq_some_iff, Prod.mk.injEq]
      constructor
      · rintro ⟨⟨final, later⟩, ran, rfl, rfl⟩
        exact ⟨next, complete, later, steps, ran, rfl⟩
      · rintro ⟨other, otherComplete, later, otherSteps, ran, rfl⟩
        have same := stepped.symm.trans (next?_eq_some_iff.mpr otherSteps)
        simp only [Option.some.injEq, Prod.mk.injEq] at same
        obtain ⟨rfl, rfl⟩ := same
        exact ⟨(last, later), ran, rfl, rfl⟩

theorem run?_append {first second : List Lexeme} :
    stage.run? dialect (first ++ second) = some (last, clauses) ↔
      ∃ middle before after, stage.run? dialect first = some (middle, before) ∧
        middle.run? dialect second = some (last, after) ∧ clauses = before ++ after := by
  induction first generalizing stage clauses with
  | nil => simp [run?]
  | cons lexeme rest ih =>
      simp only [List.cons_append, run?_cons, ih]
      constructor
      · rintro ⟨next, complete, later, steps, ⟨middle, before, after, ranFirst, ranSecond, rfl⟩,
          rfl⟩
        exact ⟨middle, complete.toList ++ before, after,
          ⟨next, complete, before, steps, ranFirst, rfl⟩,
          ranSecond, by simp⟩
      · rintro ⟨middle, before, after, ⟨next, complete, later, steps, ranFirst, rfl⟩, ranSecond,
          rfl⟩
        exact ⟨next, complete, later ++ after, steps,
          ⟨middle, later, after, ranFirst, ranSecond, rfl⟩,
          by simp⟩

theorem run?_lexemes {read : List Lexeme} (ran : stage.run? dialect read = some (last, clauses)) :
    stage.lexemes ++ read = clauses.flatMap Clause.lexemes ++ last.lexemes := by
  induction read generalizing stage clauses with
  | nil =>
      simp only [run?, Option.some.injEq, Prod.mk.injEq] at ran
      obtain ⟨rfl, rfl⟩ := ran
      simp
  | cons lexeme rest ih =>
      obtain ⟨next, complete, later, steps, ranRest, rfl⟩ := run?_cons.mp ran
      calc stage.lexemes ++ lexeme :: rest
          = (stage.lexemes ++ [lexeme]) ++ rest := by simp
        _ = complete.toList.flatMap Clause.lexemes ++ (next.lexemes ++ rest) := by
            rw [steps.lexemes, List.append_assoc]
        _ = (complete.toList ++ later).flatMap Clause.lexemes ++ last.lexemes := by
            rw [ih ranRest, List.flatMap_append, List.append_assoc]

theorem run?_admissible {read : List Lexeme}
    (ran : stage.run? dialect read = some (last, clauses))
    (admissible : stage.Admissible dialect) :
    last.Admissible dialect ∧ ∀ clause ∈ clauses,
      clause.Admissible dialect ∧ clause.combinator.isSome = true := by
  induction read generalizing stage clauses with
  | nil =>
      simp only [run?, Option.some.injEq, Prod.mk.injEq] at ran
      obtain ⟨rfl, rfl⟩ := ran
      exact ⟨admissible, by simp⟩
  | cons lexeme rest ih =>
      obtain ⟨next, complete, later, steps, ranRest, rfl⟩ := run?_cons.mp ran
      obtain ⟨nextAdmissible, completed⟩ := steps.admissible admissible
      obtain ⟨lastAdmissible, others⟩ := ih ranRest nextAdmissible
      refine ⟨lastAdmissible, ?_⟩
      intro clause member
      rcases List.mem_append.mp member with here | there
      · exact completed clause (Option.mem_toList.mp here)
      · exact others clause there

theorem run?_clause {clause : Clause} (admissible : clause.Admissible dialect) :
    start.run? dialect clause.lexemes =
      if clause.combinator.isSome then some (start, [clause])
      else some (afterValue clause.field clause.operator clause.value, []) := by
  obtain ⟨field, operator, value, combinator⟩ := clause
  have read : start.run? dialect [.word field, .symbol operator.symbol, .word value] =
      some (afterValue field operator value, []) := by
    simp only [run?_cons]
    have known := Dialect.operator?_eq_some_iff.mpr ⟨rfl, admissible.2⟩
    exact ⟨_, _, _, .field admissible.1,
      ⟨_, _, _, .operator known, ⟨_, _, _, .value, rfl, rfl⟩, rfl⟩,
      rfl⟩
  cases combinator with
  | none => exact read
  | some which =>
      refine run?_append.mpr ⟨_, _, _, read, ?_, (List.nil_append _).symm⟩
      exact run?_cons.mpr ⟨_, _, _, .combinator, rfl, rfl⟩

theorem run?_clauses {clauses : List Clause}
    (admissible : ∀ clause ∈ clauses, clause.Admissible dialect)
    (joined : ∀ clause ∈ clauses, clause.combinator.isSome = true) :
    start.run? dialect (clauses.flatMap Clause.lexemes) = some (start, clauses) := by
  induction clauses with
  | nil => rfl
  | cons clause rest ih =>
      rw [List.flatMap_cons, run?_append]
      refine ⟨start, [clause], rest, ?_, ?_, rfl⟩
      · rw [run?_clause (admissible clause (by simp)), if_pos (joined clause (by simp))]
      · exact ih (fun other member => admissible other (by simp [member]))
          (fun other member => joined other (by simp [member]))

theorem ofTokens?_of_run? {stop : Nat} {done later : List Token}
    (ran : stage.run? dialect (done.map Token.lexeme) = some (last, clauses)) :
    Clause.ofTokens? dialect stop stage (done ++ later) =
      (Clause.ofTokens? dialect stop last later).map (clauses ++ ·) := by
  induction done generalizing stage clauses with
  | nil =>
      simp only [List.map_nil, run?, Option.some.injEq, Prod.mk.injEq] at ran
      obtain ⟨rfl, rfl⟩ := ran
      rw [List.nil_append]
      cases Clause.ofTokens? dialect stop stage later <;> rfl
  | cons token rest ih =>
      obtain ⟨next, complete, others, steps, ranRest, rfl⟩ := run?_cons.mp ran
      have stepped := step_eq_ok_iff.mpr (next?_eq_some_iff.mpr steps)
      rw [List.cons_append, Clause.ofTokens?, stepped]
      simp only [ih ranRest]
      cases Clause.ofTokens? dialect stop last later with
      | error error => rfl
      | ok found => simp [Except.map]

/-- A run over tokens gets to the end of them or to a first token that it cannot go on with. -/
theorem run?_or_stuck (dialect : Dialect) (stage : TermStage) (tokens : List Token) :
    (∃ last clauses, stage.run? dialect (tokens.map Token.lexeme) = some (last, clauses)) ∨
    ∃ done token later middle clauses error, tokens = done ++ token :: later ∧
      stage.run? dialect (done.map Token.lexeme) = some (middle, clauses) ∧
      middle.step dialect token = .error error := by
  induction tokens generalizing stage with
  | nil => exact .inl ⟨stage, [], rfl⟩
  | cons token rest ih =>
      cases stepped : stage.step dialect token with
      | error error => exact .inr ⟨[], token, rest, stage, [], error, rfl, rfl, stepped⟩
      | ok result =>
          obtain ⟨next, complete⟩ := result
          have steps := next?_eq_some_iff.mp (step_eq_ok_iff.mp stepped)
          rcases ih next with
            ⟨last, clauses, ran⟩ | ⟨done, stuck, later, middle, clauses, error, split, ran, failed⟩
          · exact .inl ⟨last, _, run?_cons.mpr ⟨next, complete, clauses, steps, ran, rfl⟩⟩
          · have ranOn := run?_cons.mpr ⟨next, complete, clauses, steps, ran, rfl⟩
            exact .inr ⟨token :: done, stuck, later, middle, _, error, by rw [split]; rfl, ranOn,
              failed⟩

end TermStage

namespace Clause

open TermStage

variable {dialect : Dialect} {stop : Nat} {clauses : List Clause}

theorem ofTokens?_stuck {stage middle : TermStage} {done later : List Token} {token : Token}
    {error : FilterError}
    (ran : stage.run? dialect (done.map Token.lexeme) = some (middle, clauses))
    (failed : middle.step dialect token = .error error) :
    ofTokens? dialect stop stage (done ++ token :: later) = .error error := by
  rw [ofTokens?_of_run? ran, ofTokens?, failed]
  rfl

theorem ofTokens?_end {stage last : TermStage} {tokens : List Token}
    (ran : stage.run? dialect (tokens.map Token.lexeme) = some (last, clauses)) :
    ofTokens? dialect stop stage tokens = (last.finish stop).map (clauses ++ ·) := by
  rw [← List.append_nil tokens]
  exact ofTokens?_of_run? ran

/-- Reading is refused at the first token that cannot stand where it stands, or at the end of a
text that stops in the midst of a term. -/
theorem ofTokens?_eq_error_iff {stage : TermStage} {tokens : List Token} {error : FilterError} :
    ofTokens? dialect stop stage tokens = .error error ↔
      (∃ last clauses, stage.run? dialect (tokens.map Token.lexeme) = some (last, clauses) ∧
        last.finish stop = .error error) ∨
      ∃ done token later middle clauses, tokens = done ++ token :: later ∧
        stage.run? dialect (done.map Token.lexeme) = some (middle, clauses) ∧
        middle.step dialect token = .error error := by
  constructor
  · intro refused
    rcases run?_or_stuck dialect stage tokens with
      ⟨last, clauses, ran⟩ | ⟨done, token, later, middle, clauses, other, rfl, ran, failed⟩
    · rw [ofTokens?_end ran] at refused
      cases finished : last.finish stop with
      | error other =>
          rw [finished] at refused
          cases refused
          exact .inl ⟨last, clauses, ran, finished⟩
      | ok found =>
          rw [finished] at refused
          cases refused
    · rw [ofTokens?_stuck ran failed] at refused
      cases refused
      exact .inr ⟨done, token, later, middle, clauses, rfl, ran, failed⟩
  · rintro (⟨last, clauses, ran, finished⟩ |
      ⟨done, token, later, middle, clauses, rfl, ran, failed⟩)
    · rw [ofTokens?_end ran, finished]
      rfl
    · exact ofTokens?_stuck ran failed

/-- Holds of the lists of clauses that a filter of the dialect may have, apart from the characters
of their texts: only the last clause may have no combinator. -/
structure Readable (dialect : Dialect) (clauses : List Clause) : Prop where
  admissible : ∀ clause ∈ clauses, clause.Admissible dialect
  joined : ∀ clause ∈ clauses.dropLast, clause.combinator.isSome = true

theorem readable_of_ofTokens? {tokens : List Token}
    (accepted : ofTokens? dialect stop .start tokens = .ok clauses) :
    Readable dialect clauses ∧ tokens.map Token.lexeme = clauses.flatMap lexemes := by
  rcases run?_or_stuck dialect .start tokens with
    ⟨last, complete, ran⟩ | ⟨done, token, later, middle, complete, error, rfl, ran, failed⟩
  · obtain ⟨lastAdmissible, completed⟩ := run?_admissible ran trivial
    have kept := run?_lexemes ran
    rw [ofTokens?_end ran] at accepted
    cases last with
    | start =>
        simp only [finish, Except.map, List.append_nil, Except.ok.injEq] at accepted
        subst accepted
        refine ⟨⟨fun clause member => (completed clause member).1, ?_⟩, ?_⟩
        · exact fun clause member => (completed clause (List.dropLast_subset _ member)).2
        · simpa [TermStage.lexemes] using kept
    | afterValue field operator value =>
        simp only [finish, Except.map, Except.ok.injEq] at accepted
        subst accepted
        refine ⟨⟨?_, ?_⟩, by simpa [TermStage.lexemes, lexemes] using kept⟩
        · intro clause member
          rcases List.mem_append.mp member with before | here
          · exact (completed clause before).1
          · rw [List.mem_singleton.mp here]
            exact lastAdmissible
        · intro clause member
          rw [List.dropLast_concat] at member
          exact (completed clause member).2
    | afterField | afterOperator => simp [finish, Except.map] at accepted
  · rw [ofTokens?_stuck ran failed] at accepted
    contradiction

theorem ofTokens?_of_readable {tokens : List Token} (readable : Readable dialect clauses)
    (same : tokens.map Token.lexeme = clauses.flatMap lexemes) :
    ofTokens? dialect stop .start tokens = .ok clauses := by
  obtain ⟨admissible, joined⟩ := readable
  rcases List.eq_nil_or_concat clauses with rfl | ⟨before, final, rfl⟩
  · rw [List.flatMap_nil, List.map_eq_nil_iff] at same
    rw [same]
    rfl
  · rw [List.concat_eq_append] at admissible joined same ⊢
    rw [List.dropLast_concat] at joined
    have ranBefore :=
      run?_clauses (fun clause member => admissible clause (by simp [member])) joined
    have ranFinal := run?_clause (admissible final (by simp))
    rw [List.flatMap_append, List.flatMap_singleton] at same
    cases combinator : final.combinator with
    | none =>
        rw [combinator, if_neg (by simp)] at ranFinal
        have ran := run?_append.mpr ⟨_, _, _, ranBefore, ranFinal, rfl⟩
        rw [← same] at ran
        rw [ofTokens?_end ran, finish, ← combinator]
        simp [Except.map]
    | some which =>
        rw [combinator, if_pos (by simp)] at ranFinal
        have ran := run?_append.mpr ⟨_, _, _, ranBefore, ranFinal, rfl⟩
        rw [← same] at ran
        rw [ofTokens?_end ran, finish]
        simp [Except.map]

theorem parse_eq_ok_iff_lexemes {filter : String} :
    parse dialect filter = .ok clauses ↔ NoStray filter.toList ∧ Readable dialect clauses ∧
      ResourceFilter.lexemes filter.toList = clauses.flatMap lexemes := by
  rw [parse]
  cases strays : Stray.scan filter.toList with
  | nil =>
      have clean := (Stray.scan_eq_nil_iff _).mp strays
      rw [← Token.map_lexeme_scan]
      constructor
      · exact fun accepted => ⟨clean, readable_of_ofTokens? accepted⟩
      · rintro ⟨_, readable, same⟩
        exact ofTokens?_of_readable readable same
  | cons stray later =>
      have dirty : ¬NoStray filter.toList := by
        rw [← Stray.scan_eq_nil_iff, strays]
        simp
      simp [dirty]

end Clause

end ResourceFilter
