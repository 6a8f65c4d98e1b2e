import ResourceFilter.Proofs.Clause.Denial
import ResourceFilter.Proofs.Fragment.Building
import ResourceFilter.Proofs.Fragment.Sequence

/-!
What is built under a dialect that operators were taken away from. A filter that uses none of them
is built as under the base; every other filter is refused.
-/

namespace ResourceFilter

section Compiling

variable {base : Dialect} {changes : List Dialect.Change}

theorem Condition.join_derive (mode : Mode) (position : Nat) (conditions : List Condition) :
    join (base.derive changes) mode position conditions = join base mode position conditions := by
  have sameText : ∀ (place : Nat) (condition : Condition),
      condition.text (base.derive changes) mode place = condition.text base mode place := by
    intro place condition
    rw [base.derive_eq]
    rfl
  induction conditions generalizing position with
  | nil => rfl
  | cons condition rest ih =>
      cases rest with
      | nil => exact sameText position condition
      | cons next rest => rw [join, join, sameText, ih]

theorem CompiledFilter.ofConditions_derive (mode : Mode) (conditions : List Condition) :
    ofConditions (base.derive changes) mode conditions = ofConditions base mode conditions := by
  have sameKeyword : (base.derive changes).keyword = base.keyword := by
    rw [base.derive_eq]
  by_cases empty : conditions = []
  · rw [empty]
    rfl
  · rw [ofConditions_of_ne_nil _ _ empty, ofConditions_of_ne_nil _ _ empty, sameKeyword,
      Condition.join_derive]

theorem Condition.ofClause?_derive {columns : FieldMap} {clause : Clause}
    (kept : clause.operator ∉ Dialect.removed changes) :
    ofClause? (base.derive changes) columns clause = ofClause? base columns clause := by
  have sameOperand : ∀ column token,
      ofOperand? (base.derive changes) column token clause =
        ofOperand? base column token clause := by
    intro column token
    rw [base.derive_eq]
    rfl
  rw [ofClause?, ofClause?, Dialect.token?_derive, if_neg kept]
  simp only [sameOperand]

theorem CompiledFilter.ofClauses?_derive {mode : Mode} {columns : FieldMap} {clauses : List Clause}
    (kept : ∀ clause ∈ clauses, clause.operator ∉ Dialect.removed changes) :
    ofClauses? (base.derive changes) mode columns clauses =
      ofClauses? base mode columns clauses := by
  have same : Condition.ofClauses? (base.derive changes) columns clauses =
      Condition.ofClauses? base columns clauses :=
    Condition.ofClauses?_congr fun clause member => Condition.ofClause?_derive (kept clause member)
  rw [ofClauses?, ofClauses?, same]
  congr 1
  funext conditions
  exact ofConditions_derive mode conditions

end Compiling

section Denying

variable {base : Dialect} {changes : List Dialect.Change} {filter : String}

theorem Clause.parse_derive_of_kept {clauses : List Clause}
    (read : parse base filter = .ok clauses)
    (kept : ∀ clause ∈ clauses, clause.operator ∉ Dialect.removed changes) :
    parse (base.derive changes) filter = .ok clauses := by
  rw [parse_derive_of_spared, read]
  rw [operatorsRead_of_parse read]
  exact List.forall_mem_map.mpr kept

theorem CompiledFilter.build_derive_of_kept (schema : Schema) {clauses : List Clause}
    (read : Clause.parse base filter = .ok clauses)
    (kept : ∀ clause ∈ clauses, clause.operator ∉ Dialect.removed changes) :
    build (base.derive changes) schema filter =
      (AllowList.check schema.fields clauses).bind fun _ =>
        ofClauses? base ((Dialect.lastMode? changes).getD base.mode) schema.columnMap clauses := by
  have sameMode : (base.derive changes).mode = (Dialect.lastMode? changes).getD base.mode := by
    rw [base.derive_eq]
  rw [← sameMode, ← ofClauses?_derive kept, build, Clause.parse_derive_of_kept read kept]
  rfl

theorem CompiledFilter.build_derive_eq_withMode (schema : Schema) {clauses : List Clause}
    (read : Clause.parse base filter = .ok clauses)
    (kept : ∀ clause ∈ clauses, clause.operator ∉ Dialect.removed changes) :
    build (base.derive changes) schema filter =
      build (base.withMode ((Dialect.lastMode? changes).getD base.mode)) schema filter := by
  -- Changing the mode is itself a derivation, one that takes no operator away.
  have onlyMode : ∀ mode, build (base.withMode mode) schema filter =
      (AllowList.check schema.fields clauses).bind fun _ =>
        ofClauses? base mode schema.columnMap clauses := by
    intro mode
    have nothing : ∀ clause ∈ clauses, clause.operator ∉ Dialect.removed [.mode mode] := by
      simp [Dialect.removed]
    exact build_derive_of_kept schema read nothing
  rw [build_derive_of_kept schema read kept, onlyMode]

/-- Filters that use no operator that was taken away are built as under the base in the last mode;
the others are refused for the first such operator. A filter that the base refuses stays refused,
for the first operator that is read before its error and gone, or else for the same error. Nothing
else about the changes counts. -/
theorem parse_build_derive (base : Dialect) (changes : List Dialect.Change) (schema : Schema)
    (filter : String) :
    (∀ clauses, Clause.parse base filter = .ok clauses →
      (∀ clause ∈ clauses, clause.operator ∉ Dialect.removed changes) →
      Clause.parse (base.derive changes) filter = .ok clauses ∧
      CompiledFilter.build (base.derive changes) schema filter =
        CompiledFilter.build (base.withMode ((Dialect.lastMode? changes).getD base.mode)) schema
          filter) ∧
    (∀ before clause after, Clause.parse base filter = .ok (before ++ clause :: after) →
      (∀ earlier ∈ before, earlier.operator ∉ Dialect.removed changes) →
      clause.operator ∈ Dialect.removed changes →
      Clause.parse (base.derive changes) filter =
        .error (.unsupportedOperator clause.operator.symbol) ∧
      CompiledFilter.build (base.derive changes) schema filter =
        .error (.unsupportedOperator clause.operator.symbol)) ∧
    (∀ error, Clause.parse base filter = .error error →
      ((∃ char ∈ filter.toList, IsForeign char) ∨
          (∀ operator ∈ Clause.operatorsRead base filter, operator ∉ Dialect.removed changes) →
        Clause.parse (base.derive changes) filter = .error error) ∧
      ∀ before operator after, (∀ char ∈ filter.toList, ¬IsForeign char) →
        Clause.operatorsRead base filter = before ++ operator :: after →
        (∀ earlier ∈ before, earlier ∉ Dialect.removed changes) →
        operator ∈ Dialect.removed changes →
        Clause.parse (base.derive changes) filter =
          .error (.unsupportedOperator operator.symbol)) ∧
    ∀ others,
      (∀ operator, operator ∈ Dialect.removed others ↔ operator ∈ Dialect.removed changes) →
      (Dialect.lastMode? others).getD base.mode = (Dialect.lastMode? changes).getD base.mode →
      base.derive others = base.derive changes := by
  refine ⟨?_, ?_, ?_, ?_⟩
  · intro clauses read kept
    exact ⟨Clause.parse_derive_of_kept read kept,
      CompiledFilter.build_derive_eq_withMode schema read kept⟩
  · intro before clause after read kept denied
    have accepted : Clause.operatorsRead base filter =
        before.map Clause.operator ++ clause.operator :: after.map Clause.operator := by
      rw [Clause.operatorsRead_of_parse read, List.map_append, List.map_cons]
    have refused := Clause.parse_derive_of_denied (Clause.parse_eq_ok_iff_lexemes.mp read).1
      accepted (List.forall_mem_map.mpr kept) denied
    exact ⟨refused, build_of_unread refused⟩
  · intro error refused
    constructor
    · rintro (⟨char, member, foreign⟩ | spared)
      · have dirty : ¬NoStray filter.toList := fun clean => noStray_iff.mp clean char member foreign
        rw [Clause.parse_derive_of_stray dirty, refused]
      · rw [Clause.parse_derive_of_spared spared, refused]
    · intro before operator after clean accepted kept denied
      exact Clause.parse_derive_of_denied (noStray_iff.mpr clean) accepted kept denied
  · intro others sameRemoved sameMode
    have sameKept : ∀ entry : Operator × String,
        (!(Dialect.removed others).contains entry.1) =
          !(Dialect.removed changes).contains entry.1 := by
      intro entry
      simp [sameRemoved]
    rw [base.derive_eq, base.derive_eq, sameMode]
    simp only [sameKept]

theorem parse_build_derive_greater :
    CompiledFilter.build (.derive .postgres [.without [.greater], .mode .inline]) ⟨["a"], .empty⟩
        "a==1" =
      CompiledFilter.build (.withMode .postgres .inline) ⟨["a"], .empty⟩ "a==1" ∧
    Clause.parse .postgres "a==1;b>2" =
      .ok [⟨"a", .equal, "1", some .and⟩, ⟨"b", .greater, "2", none⟩] ∧
    CompiledFilter.build (.derive .postgres [.without [.greater], .mode .inline]) ⟨["a"], .empty⟩
        "a==1;b>2" = .error (.unsupportedOperator ">") ∧
    Clause.parse .postgres "a>1;b" = .error (.malformed 5 "an operator" "end of input") ∧
    Clause.parse (.derive .postgres [.without [.greater], .mode .inline]) "a>1;b" =
      .error (.unsupportedOperator ">") ∧
    Clause.parse (.derive .postgres [.without [.greater], .mode .inline]) "a==1;b" =
      .error (.malformed 6 "an operator" "end of input") ∧
    Dialect.derive .postgres [.mode .inline, .without [.greater, .greater]] =
      .derive .postgres [.without [.greater], .mode .inline] := by
  have kept : Clause.parse .postgres "a==1" = .ok [⟨"a", .equal, "1", none⟩] := by rfl
  have denied : Clause.parse .postgres "a==1;b>2" =
      .ok ([⟨"a", .equal, "1", some .and⟩] ++ ⟨"b", .greater, "2", none⟩ :: []) := by rfl
  have refused : Clause.parse .postgres "a>1;b" =
      .error (.malformed 5 "an operator" "end of input") := by rfl
  have spared : Clause.parse .postgres "a==1;b" =
      .error (.malformed 6 "an operator" "end of input") := by rfl
  have clean : ∀ char ∈ "a>1;b".toList, ¬IsForeign char :=
    noStray_iff.mp ((Stray.scan_eq_nil_iff _).mp (by rfl))
  have general := parse_build_derive .postgres [.without [.greater], .mode .inline]
    ⟨["a"], .empty⟩
  refine ⟨((general "a==1").1 _ kept (by simp [Dialect.removed])).2, denied,
    ((general "a==1;b>2").2.1 _ _ _ denied (by simp [Dialect.removed])
      (by simp [Dialect.removed])).2, refused,
    ((general "a>1;b").2.2.1 _ refused).2 [] .greater [] clean (by rfl) (by simp)
      (by simp [Dialect.removed]),
    ((general "a==1;b").2.2.1 _ spared).1 (.inr ?_),
    (general "").2.2.2 _ (by simp [Dialect.removed]) rfl⟩
  have read : Clause.operatorsRead .postgres "a==1;b" = [.equal] := by rfl
  simp [read, Dialect.removed]

end Denying

end ResourceFilter
