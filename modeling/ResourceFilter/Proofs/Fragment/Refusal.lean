import ResourceFilter.Proofs.Fragment.Conditions

/-!
Clauses that no condition can be made of. A list of clauses is refused for the first of them.
-/

namespace ResourceFilter

def Clause.IsMisdated (clause : Clause) : Prop :=
  clause.operator.kind = .date ∧ DateLiteral.parse? clause.value = none

namespace Condition

inductive Refused (dialect : Dialect) (columns : FieldMap) (clause : Clause) : FilterError → Prop
  | unmapped : columns.get? clause.field = none →
      Refused dialect columns clause (.unmappedField clause.field)
  | unsupported {column : String} : columns.get? clause.field = some column →
      dialect.token? clause.operator = none →
      Refused dialect columns clause (.unsupportedOperator clause.operator.symbol)
  | misdated {column token : String} : columns.get? clause.field = some column →
      dialect.token? clause.operator = some token → clause.IsMisdated →
      Refused dialect columns clause (.invalidDate clause.value)

variable {dialect : Dialect} {columns : FieldMap} {clause : Clause} {clauses : List Clause}
  {error : FilterError}

theorem ofOperand?_eq_error_iff {column token : String} :
    ofOperand? dialect column token clause = .error error ↔
      clause.IsMisdated ∧ error = .invalidDate clause.value := by
  rw [ofOperand?, Clause.IsMisdated]
  cases kind : clause.operator.kind with
  | comparison | string | pattern => simp
  | date =>
      rw [eq_self, true_and, ← DateLiteral.parse_eq_error_iff]
      cases DateLiteral.parse clause.value with
      | error other => simp
      | ok literal => cases dialect.dates <;> simp

theorem ofClause?_eq_error_iff :
    ofClause? dialect columns clause = .error error ↔ Refused dialect columns clause error := by
  constructor
  · intro made
    rw [ofClause?] at made
    cases hasColumn : columns.get? clause.field with
    | none =>
        rw [hasColumn] at made
        cases made
        exact .unmapped hasColumn
    | some column =>
        cases hasToken : dialect.token? clause.operator with
        | none =>
            simp only [hasColumn, hasToken] at made
            cases made
            exact .unsupported hasColumn hasToken
        | some token =>
            simp only [hasColumn, hasToken] at made
            obtain ⟨isMisdated, rfl⟩ := ofOperand?_eq_error_iff.mp made
            exact .misdated hasColumn hasToken isMisdated
  · intro refused
    cases refused with
    | unmapped unmapped => simp only [ofClause?, unmapped]
    | unsupported mapped unsupported => simp only [ofClause?, mapped, unsupported]
    | misdated mapped supported isMisdated =>
        simp [ofClause?, mapped, supported, ofOperand?_eq_error_iff, isMisdated]

theorem States.not_isMisdated {condition : Condition}
    (states : condition.States dialect columns clause) : ¬clause.IsMisdated := by
  rintro ⟨isDate, unread⟩
  have carried := states.value
  simp [Clause.carried?, isDate, unread] at carried

theorem ofClauses?_cons_eq_error_iff {first : Clause} {rest : List Clause} :
    ofClauses? dialect columns (first :: rest) = .error error ↔
      Refused dialect columns first error ∨
        (∀ other, ¬Refused dialect columns first other) ∧
          ofClauses? dialect columns rest = .error error := by
  simp only [ofClauses?, ← ofClause?_eq_error_iff]
  cases ofClause? dialect columns first with
  | error other => simp
  | ok condition => cases ofClauses? dialect columns rest <;> simp [Except.map]

theorem ofClauses?_eq_error_iff :
    ofClauses? dialect columns clauses = .error error ↔
      ∃ before clause after, clauses = before ++ clause :: after ∧
        (∀ earlier ∈ before, ∀ other, ¬Refused dialect columns earlier other) ∧
        Refused dialect columns clause error := by
  induction clauses with
  | nil => simp [ofClauses?]
  | cons first rest ih =>
      rw [ofClauses?_cons_eq_error_iff, ih]
      constructor
      · rintro (refused | ⟨firstAccepted, before, clause, after, rfl, accepted, refused⟩)
        · exact ⟨[], first, rest, rfl, by simp, refused⟩
        · refine ⟨first :: before, clause, after, rfl, ?_, refused⟩
          exact List.forall_mem_cons.mpr ⟨firstAccepted, accepted⟩
      · rintro ⟨before, clause, after, split, accepted, refused⟩
        cases before with
        | nil =>
            obtain ⟨rfl, _⟩ := List.cons.inj split
            exact .inl refused
        | cons head before =>
            obtain ⟨rfl, rfl⟩ := List.cons.inj split
            obtain ⟨firstAccepted, others⟩ := List.forall_mem_cons.mp accepted
            exact .inr ⟨firstAccepted, before, clause, after, rfl, others, refused⟩

end Condition

end ResourceFilter
