import ResourceFilter.Proofs.Clause.Grammar
import ResourceFilter.Proofs.Dialect.Literal
import ResourceFilter.Proofs.Fragment.Conditions

/-!
Fragments with inline values. Whatever the values are, nothing of them is read outside of their
literals, and a reader of a literal gets back what it carries.
-/

namespace ResourceFilter

/-- Holds of the operands that carry the value of a clause, when `rest` stands behind them. A
reader that starts at the literal of an operand stops at the end of the literal. -/
inductive Carries (dialect : Dialect) (clause : Clause) : (operand rest : String) → Prop
  | bare {rest : String} :
      clause.operator.kind = .comparison → IsValueText clause.value →
      Carries dialect clause clause.value rest
  | quoted {literal carried rest : String} :
      ¬(clause.operator.kind = .comparison ∧ IsValueText clause.value) →
      clause.carried? dialect = some carried →
      dialect.quotes.readLiteral?
          (literal ++ (dialect.closing clause.operator.kind ++ rest)).toList =
        some (carried, (dialect.closing clause.operator.kind ++ rest).toList) →
      Carries dialect clause
        (dialect.opening clause.operator.kind ++ literal ++ dialect.closing clause.operator.kind)
        rest

inductive StatedInline (dialect : Dialect) (columns : FieldMap) : List Clause → String → Prop
  | last {clause : Clause} {column token operand : String} :
      columns.get? clause.field = some column → dialect.token? clause.operator = some token →
      Carries dialect clause operand "" →
      StatedInline dialect columns [clause] (column ++ " " ++ token ++ " " ++ operand)
  | more {clause next : Clause} {later : List Clause} {column token operand rest : String} :
      columns.get? clause.field = some column → dialect.token? clause.operator = some token →
      Carries dialect clause operand
        (" " ++ (clause.combinator.getD .and).keyword ++ " " ++ rest) →
      StatedInline dialect columns (next :: later) rest →
      StatedInline dialect columns (clause :: next :: later)
        (column ++ " " ++ token ++ " " ++ operand ++
          (" " ++ (clause.combinator.getD .and).keyword ++ " " ++ rest))

theorem isBareWord_iff {value : String} : isBareWord value = true ↔ IsValueText value := by
  rw [isValueText_iff, isBareWord, Bool.and_eq_true, Bool.not_eq_true', List.all_eq_true,
    String.isEmpty_eq_false_iff, ne_eq, ne_eq, String.toList_eq_nil_iff]

theorem head?_closing_append {dialect : Dialect} {rest : String}
    (notMark : rest.toList.head? ≠ some QuoteStyle.mark) (kind : Operator.Kind) :
    (dialect.closing kind ++ rest).toList.head? ≠ some QuoteStyle.mark := by
  cases kind with
  | comparison | string | pattern => simpa [Dialect.closing] using notMark
  | date => cases dates : dialect.dates <;> simp [Dialect.closing, dates, QuoteStyle.mark]

section Stating

variable {dialect : Dialect} {columns : FieldMap} {clause : Clause} {condition : Condition}

theorem carries_of_states (states : condition.States dialect columns clause) (position : Nat)
    {rest : String} (notMark : rest.toList.head? ≠ some QuoteStyle.mark) :
    Carries dialect clause
      (condition.opening ++ condition.operand dialect .inline position ++ condition.closing)
      rest := by
  rw [states.opening, states.closing, Condition.operand, Condition.literal]
  by_cases isBare : condition.bare && isBareWord condition.value
  · rw [if_pos isBare]
    rw [Bool.and_eq_true] at isBare
    have kind := states.bare.mp isBare.1
    have same : clause.value = condition.value := by
      simpa [Clause.carried?, kind] using states.value
    have plain := isBareWord_iff.mp isBare.2
    rw [← same] at plain ⊢
    have whole : dialect.opening clause.operator.kind ++ clause.value ++
        dialect.closing clause.operator.kind = clause.value := by
      simp [kind, Dialect.opening, Dialect.closing]
    rw [whole]
    exact .bare kind plain
  · rw [if_neg isBare]
    refine .quoted ?_ states.value ?_
    · rintro ⟨kind, plain⟩
      have same : clause.value = condition.value := by
        simpa [Clause.carried?, kind] using states.value
      rw [same, ← isBareWord_iff] at plain
      exact isBare (by simp [states.bare.mpr kind, plain])
    · rw [String.toList_append]
      exact QuoteStyle.readLiteral?_quote_append _ _ (head?_closing_append notMark _)

theorem statedInline_join {clauses : List Clause} {conditions : List Condition}
    (states : Condition.StateAll dialect columns clauses conditions) (nonempty : clauses ≠ [])
    (position : Nat) :
    StatedInline dialect columns clauses (Condition.join dialect .inline position conditions) := by
  induction states generalizing position with
  | nil => contradiction
  | @cons clause condition clauses conditions first later ih =>
      cases later with
      | nil =>
          have ends : "".toList.head? ≠ some QuoteStyle.mark := by decide
          have carries := carries_of_states first position ends
          have stated := StatedInline.last first.column first.token carries
          simpa [Condition.join, Condition.text, String.append_assoc] using stated
      | @cons next nextCondition clauses conditions second later =>
          have stated := ih (by simp) (position + 1)
          have blank : ∀ rest : String, (" " ++ (clause.combinator.getD .and).keyword ++ " " ++
              rest).toList.head? ≠ some QuoteStyle.mark := by
            intro rest
            simp [QuoteStyle.mark]
          have carries := carries_of_states first position
            (blank (Condition.join dialect .inline (position + 1) (nextCondition :: conditions)))
          have whole := StatedInline.more first.column first.token carries stated
          rw [← first.joint] at whole
          simpa [Condition.join, Condition.text, String.append_assoc] using whole

/-- A filter that compiles to a fragment with inline values is stated by the text behind the
keyword; the filter without clauses has an empty fragment. -/
theorem fragment_statedInline (dialect : Dialect) (columns : FieldMap) (clauses : List Clause)
    (compiled : CompiledFilter)
    (accepted : CompiledFilter.ofClauses? dialect .inline columns clauses = .ok compiled) :
    (clauses = [] ∧ compiled.fragment = "") ∨
      ∃ text, compiled.fragment = dialect.keyword ++ " " ++ text ∧
        StatedInline dialect columns clauses text := by
  obtain ⟨conditions, rfl, states⟩ := CompiledFilter.exists_conditions accepted
  cases conditions with
  | nil =>
      cases states
      exact .inl ⟨rfl, rfl⟩
  | cons condition conditions =>
      have nonempty : clauses ≠ [] := by
        rintro rfl
        cases states
      exact .inr ⟨_, rfl, statedInline_join states nonempty 1⟩

end Stating

theorem fragment_statedInline_quote :
    CompiledFilter.ofClauses? .postgres .inline (.ofList [("title", "t.title")])
        [⟨"title", .equal, "it's", none⟩] = .ok ⟨"WHERE t.title = 'it''s'", []⟩ ∧
      ∃ text, "WHERE t.title = 'it''s'" = "WHERE" ++ " " ++ text ∧
        StatedInline .postgres (.ofList [("title", "t.title")]) [⟨"title", .equal, "it's", none⟩]
          text :=
  ⟨by rfl, (fragment_statedInline .postgres _ _ ⟨_, []⟩ (by rfl)).resolve_left (by simp)⟩

end ResourceFilter
