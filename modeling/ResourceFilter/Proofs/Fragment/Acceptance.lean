import ResourceFilter.Proofs.DateLiteral.Recognition
import ResourceFilter.Proofs.Fragment.Building
import ResourceFilter.Proofs.Fragment.Refusal
import ResourceFilter.Proofs.Fragment.Sequence

/-!
Which lists of clauses compile. They are the lists of which every clause can be rendered; all other
lists are refused for the first clause that cannot, whatever stands behind it.
-/

namespace ResourceFilter

namespace Clause

/-- Holds of the clauses that can be rendered: the field has a column, the operator is in the table
of the dialect, and a date operator has a date to compare with. -/
structure IsRenderable (dialect : Dialect) (columns : FieldMap) (clause : Clause) : Prop where
  mapped : clause.field ∈ columns.names
  registered : clause.operator ∈ dialect.table.map Prod.fst
  dated : clause.operator.kind = .date → DateLiteral.IsDate clause.value

/-- What is wrong with a clause that cannot be rendered. The column is looked at first, and the
value last. -/
def defect (dialect : Dialect) (columns : FieldMap) (clause : Clause) : FilterError :=
  if clause.field ∉ columns.names then .unmappedField clause.field
  else if clause.operator ∉ dialect.table.map Prod.fst then
    .unsupportedOperator clause.operator.symbol
  else .invalidDate clause.value

variable {dialect : Dialect} {columns : FieldMap} {clause : Clause}

theorem isMisdated_iff :
    clause.IsMisdated ↔ clause.operator.kind = .date ∧ ¬DateLiteral.IsDate clause.value := by
  rw [IsMisdated, DateLiteral.parse?_eq_none_iff]

theorem isRenderable_iff_forall_not_refused :
    clause.IsRenderable dialect columns ↔
      ∀ error, ¬Condition.Refused dialect columns clause error := by
  constructor
  · rintro renderable error refused
    cases refused with
    | unmapped unmapped => exact NameMap.get?_eq_none_iff.mp unmapped renderable.mapped
    | unsupported _ unsupported =>
        exact Dialect.token?_eq_none_iff.mp unsupported renderable.registered
    | misdated _ _ misdated =>
        obtain ⟨isDate, undated⟩ := isMisdated_iff.mp misdated
        exact undated (renderable.dated isDate)
  · intro accepted
    have mapped : columns.get? clause.field ≠ none := fun unmapped =>
      accepted _ (.unmapped unmapped)
    obtain ⟨column, hasColumn⟩ := Option.ne_none_iff_exists'.mp mapped
    have registered : dialect.token? clause.operator ≠ none := fun unsupported =>
      accepted _ (.unsupported hasColumn unsupported)
    obtain ⟨token, hasToken⟩ := Option.ne_none_iff_exists'.mp registered
    refine ⟨?_, ?_, ?_⟩
    · exact Classical.not_not.mp (NameMap.get?_eq_none_iff.not.mp mapped)
    · exact Classical.not_not.mp (Dialect.token?_eq_none_iff.not.mp registered)
    · intro isDate
      by_contra undated
      exact accepted _ (.misdated hasColumn hasToken (isMisdated_iff.mpr ⟨isDate, undated⟩))

theorem eq_defect_of_refused {error : FilterError}
    (refused : Condition.Refused dialect columns clause error) :
    error = clause.defect dialect columns := by
  have has : ∀ {column}, columns.get? clause.field = some column →
      ¬clause.field ∉ columns.names := by
    intro column hasColumn
    rw [← NameMap.get?_eq_none_iff, hasColumn]
    simp
  cases refused with
  | unmapped unmapped => rw [defect, if_pos (NameMap.get?_eq_none_iff.mp unmapped)]
  | unsupported hasColumn unsupported =>
      rw [defect, if_neg (has hasColumn), if_pos (Dialect.token?_eq_none_iff.mp unsupported)]
  | misdated hasColumn hasToken _ =>
      have registered : ¬clause.operator ∉ dialect.table.map Prod.fst := by
        rw [← Dialect.token?_eq_none_iff, hasToken]
        simp
      rw [defect, if_neg (has hasColumn), if_neg registered]

theorem refused_iff {error : FilterError} :
    Condition.Refused dialect columns clause error ↔
      ¬clause.IsRenderable dialect columns ∧ error = clause.defect dialect columns := by
  rw [isRenderable_iff_forall_not_refused]
  constructor
  · intro refused
    exact ⟨fun accepted => accepted error refused, eq_defect_of_refused refused⟩
  · rintro ⟨notAccepted, rfl⟩
    obtain ⟨other, refused⟩ := not_forall_not.mp notAccepted
    exact eq_defect_of_refused refused ▸ refused

end Clause

theorem Condition.States.isRenderable {dialect : Dialect} {columns : FieldMap} {clause : Clause}
    {condition : Condition} (states : condition.States dialect columns clause) :
    clause.IsRenderable dialect columns := by
  rw [Clause.isRenderable_iff_forall_not_refused]
  intro error refused
  cases refused with
  | unmapped unmapped => simp [states.column] at unmapped
  | unsupported _ unsupported => simp [states.token] at unsupported
  | misdated _ _ misdated => exact states.not_isMisdated misdated

namespace CompiledFilter

variable {dialect : Dialect} {mode : Mode} {columns : FieldMap} {clauses : List Clause}

theorem refuses_iff_first_defect {error : FilterError} :
    ofClauses? dialect mode columns clauses = .error error ↔
      ∃ before clause after, clauses = before ++ clause :: after ∧
        (∀ earlier ∈ before, earlier.IsRenderable dialect columns) ∧
        ¬clause.IsRenderable dialect columns ∧ error = clause.defect dialect columns := by
  rw [ofClauses?_eq_error_iff, Condition.ofClauses?_eq_error_iff]
  simp only [← Clause.isRenderable_iff_forall_not_refused]
  simp only [Clause.refused_iff]

theorem exists_ok_iff_renderable :
    (∃ compiled, ofClauses? dialect mode columns clauses = .ok compiled) ↔
      ∀ clause ∈ clauses, clause.IsRenderable dialect columns := by
  constructor
  · rintro ⟨compiled, accepted⟩
    obtain ⟨conditions, _, states⟩ := exists_conditions accepted
    exact Condition.forall_mem_of_stateAll states fun _ _ stated => stated.isRenderable
  · intro renderable
    cases outcome : ofClauses? dialect mode columns clauses with
    | ok compiled => exact ⟨compiled, rfl⟩
    | error error =>
        obtain ⟨before, clause, after, rfl, _, notRenderable, _⟩ :=
          refuses_iff_first_defect.mp outcome
        exact absurd (renderable clause (by simp)) notRenderable

/-- A list of clauses compiles if every clause can be rendered, and is otherwise refused for what is
wrong with the first that cannot. Only the empty list has an empty fragment, and it binds nothing. -/
theorem ofClauses?_compiles_renderable (dialect : Dialect) (mode : Mode) (columns : FieldMap)
    (clauses : List Clause) :
    ((∃ compiled, ofClauses? dialect mode columns clauses = .ok compiled) ↔
      ∀ clause ∈ clauses, clause.IsRenderable dialect columns) ∧
    (∀ error, ofClauses? dialect mode columns clauses = .error error ↔
      ∃ before clause after, clauses = before ++ clause :: after ∧
        (∀ earlier ∈ before, earlier.IsRenderable dialect columns) ∧
        ¬clause.IsRenderable dialect columns ∧ error = clause.defect dialect columns) ∧
    ∀ compiled, ofClauses? dialect mode columns clauses = .ok compiled →
      (compiled.fragment = "" ↔ clauses = []) ∧ (clauses = [] → compiled.binds = []) := by
  refine ⟨exists_ok_iff_renderable, fun error => refuses_iff_first_defect, ?_⟩
  intro compiled accepted
  obtain ⟨conditions, rfl, states⟩ := exists_conditions accepted
  refine ⟨fragment_ofConditions_eq_empty_iff states, ?_⟩
  rintro rfl
  cases states
  rfl

theorem ofClauses?_compiles_renderable_date :
    ofClauses? (.without .aql [.less]) .placeholder (.ofList [("age", "age"), ("born", "birth")])
        [⟨"age", .equal, "3", none⟩, ⟨"born", .dateLess, "2023-02-29", some .or⟩,
          ⟨"name", .less, "x", none⟩] = .error (.invalidDate "2023-02-29") ∧
      ofClauses? (.without .aql [.less]) .placeholder (.ofList []) [] = .ok empty ∧
      empty.binds = [] := by
  have undated : ¬DateLiteral.IsDate "2023-02-29" := DateLiteral.parse?_eq_none_iff.mp (by rfl)
  constructor
  · refine ((ofClauses?_compiles_renderable _ _ _ _).2.1 _).mpr
      ⟨[⟨"age", .equal, "3", none⟩], ⟨"born", .dateLess, "2023-02-29", some .or⟩,
        [⟨"name", .less, "x", none⟩], rfl, ?_, fun renderable => undated (renderable.dated rfl),
        by decide⟩
    rw [List.forall_mem_singleton]
    exact ⟨by decide, by decide, by simp [Operator.kind]⟩
  · have accepted : ofClauses? (.without .aql [.less]) .placeholder (.ofList []) [] = .ok empty :=
      rfl
    exact ⟨accepted, ((ofClauses?_compiles_renderable _ _ _ _).2.2 empty accepted).2 rfl⟩

end CompiledFilter

end ResourceFilter
