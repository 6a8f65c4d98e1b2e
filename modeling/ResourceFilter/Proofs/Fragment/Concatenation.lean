import ResourceFilter.Proofs.Fragment.Frame
import ResourceFilter.Proofs.Fragment.Sequence

/-!
Two lists of clauses that are compiled as one. The fragment of the second stands behind that of the
first, with its placeholders numbered on, and the first of the two errors is the error of both.
-/

namespace ResourceFilter

/-- Holds of the text behind the keyword of a fragment, and of the text that it becomes behind so
many other conditions: placeholders are numbered on, and nothing else changes. -/
inductive Renumbers (dialect : Dialect) (columns : FieldMap) (clauses : List Clause)
    (shift : Nat) : Mode → (body renumbered : String) → Prop
  | inline {body : String} : Renumbers dialect columns clauses shift .inline body body
  | placeholder :
      Renumbers dialect columns clauses shift .placeholder
        (Frame.fill (Frame.join dialect columns.column (clauses.map Clause.outline))
          ((List.range' 1 clauses.length).map fun position =>
            dialect.placeholders.placeholder position))
        (Frame.fill (Frame.join dialect columns.column (clauses.map Clause.outline))
          ((List.range' 1 clauses.length).map fun position =>
            dialect.placeholders.placeholder (shift + position)))

section Joining

variable {dialect : Dialect} {columns : FieldMap} {clauses : List Clause}
  {conditions : List Condition}

theorem renumbers_join (states : Condition.StateAll dialect columns clauses conditions)
    (mode : Mode) (shift : Nat) :
    Renumbers dialect columns clauses shift mode (Condition.join dialect mode 1 conditions)
      (Condition.join dialect mode (shift + 1) conditions) := by
  have filled := fill_join states (mapped_of_stateAll states) mode
  rw [← filled 1, ← filled (shift + 1)]
  cases mode with
  | inline => exact .inline
  | placeholder =>
      have moved : List.range' (shift + 1) clauses.length =
          (List.range' 1 clauses.length).map (shift + ·) :=
        (List.map_add_range' 1 clauses.length 1).symm
      rw [Clause.operands, Clause.operands, moved, List.map_map]
      exact .placeholder

theorem CompiledFilter.ofConditions_append (mode : Mode) {first second : List Condition}
    (last : Condition) (nonempty : second ≠ []) :
    ofConditions dialect mode (first ++ [last] ++ second) =
      { fragment :=
          (ofConditions dialect mode (first ++ [last])).fragment ++ " " ++ last.joint.keyword ++
            " " ++ Condition.join dialect mode (first.length + 1 + 1) second
        binds :=
          (ofConditions dialect mode (first ++ [last])).binds ++
            (ofConditions dialect mode second).binds } := by
  rw [ofConditions_of_ne_nil _ _ (List.append_ne_nil_of_right_ne_nil _ nonempty),
    ofConditions_of_ne_nil _ _ (List.append_ne_nil_of_right_ne_nil first (List.cons_ne_nil _ _)),
    ofConditions_of_ne_nil _ _ nonempty, Condition.join_append _ nonempty, Condition.lead_concat,
    List.length_append, Nat.add_comm 1]
  cases mode <;> simp [String.append_assoc]

theorem CompiledFilter.ofConditions_concat_joint (mode : Mode) (first : List Condition)
    (last : Condition) (joint : Combinator) :
    ofConditions dialect mode (first ++ [{ last with joint }]) =
      ofConditions dialect mode (first ++ [last]) := by
  have nonempty : ∀ other : Condition, first ++ [other] ≠ [] := fun other =>
    List.append_ne_nil_of_right_ne_nil first (List.cons_ne_nil other [])
  rw [ofConditions_of_ne_nil _ _ (nonempty _), ofConditions_of_ne_nil _ _ (nonempty _),
    Condition.join_append _ (List.cons_ne_nil _ _), Condition.join_append _ (List.cons_ne_nil _ _)]
  cases mode <;> simp [Condition.join, Condition.text, Condition.operand, Condition.literal]

theorem Condition.ofClause?_combinator (clause : Clause) (combinator : Option Combinator) :
    ofClause? dialect columns { clause with combinator } =
      (ofClause? dialect columns clause).map fun condition =>
        { condition with joint := combinator.getD .and } := by
  rw [ofClause?, ofClause?]
  cases columns.get? clause.field with
  | none => rfl
  | some column =>
      cases dialect.token? clause.operator with
      | none => rfl
      | some token =>
          simp only [ofOperand?]
          cases clause.operator.kind with
          | comparison | string | pattern => rfl
          | date =>
              cases DateLiteral.parse clause.value with
              | error error => rfl
              | ok literal => cases dialect.dates <;> rfl

theorem Condition.ofClauses?_singleton (clause : Clause) :
    ofClauses? dialect columns [clause] = (ofClause? dialect columns clause).map ([·]) := by
  rw [ofClauses?]
  cases ofClause? dialect columns clause <;> rfl

theorem Condition.ofClauses?_concat_eq_ok {before : List Clause} {last : Clause} :
    ofClauses? dialect columns (before ++ [last]) = .ok conditions ↔
      ∃ first condition, ofClauses? dialect columns before = .ok first ∧
        ofClause? dialect columns last = .ok condition ∧ conditions = first ++ [condition] := by
  rw [ofClauses?_append_eq_ok, ofClauses?_singleton]
  cases ofClause? dialect columns last <;> simp [Except.map]

theorem CompiledFilter.ofClauses?_concat_combinator (mode : Mode) (before : List Clause)
    (last : Clause) (combinator : Option Combinator) :
    ofClauses? dialect mode columns (before ++ [{ last with combinator }]) =
      ofClauses? dialect mode columns (before ++ [last]) := by
  rw [ofClauses?, ofClauses?, Condition.ofClauses?_append, Condition.ofClauses?_append,
    Condition.ofClauses?_singleton, Condition.ofClauses?_singleton,
    Condition.ofClause?_combinator]
  cases Condition.ofClauses? dialect columns before with
  | error error => rfl
  | ok first =>
      cases Condition.ofClause? dialect columns last with
      | error error => rfl
      | ok condition =>
          exact congrArg Except.ok (ofConditions_concat_joint mode first condition _)

/-- Two lists of clauses are compiled as one: what refuses the first refuses both, and then what
refuses the second; else the fragments are joined by the combinator of the last clause of the first,
and the binds are those of both in order. The combinator of a clause that none follows does not
count. -/
theorem CompiledFilter.ofClauses?_append_joins (dialect : Dialect) (mode : Mode)
    (columns : FieldMap) (before : List Clause) (last next : Clause) (after : List Clause) :
    (∀ error, ofClauses? dialect mode columns (before ++ [last]) = .error error →
      ofClauses? dialect mode columns (before ++ [last] ++ next :: after) = .error error) ∧
    (∀ first error, ofClauses? dialect mode columns (before ++ [last]) = .ok first →
      ofClauses? dialect mode columns (next :: after) = .error error →
      ofClauses? dialect mode columns (before ++ [last] ++ next :: after) = .error error) ∧
    (∀ first second, ofClauses? dialect mode columns (before ++ [last]) = .ok first →
      ofClauses? dialect mode columns (next :: after) = .ok second →
      ∃ body renumbered,
        second.fragment = dialect.keyword ++ " " ++ body ∧
        Renumbers dialect columns (next :: after) (before ++ [last]).length mode body renumbered ∧
        ofClauses? dialect mode columns (before ++ [last] ++ next :: after) =
          .ok
            { fragment :=
                first.fragment ++ " " ++ (last.combinator.getD .and).keyword ++ " " ++ renumbered
              binds := first.binds ++ second.binds }) ∧
    ∀ combinator, ofClauses? dialect mode columns (before ++ [{ last with combinator }]) =
      ofClauses? dialect mode columns (before ++ [last]) := by
  refine ⟨?_, ?_, ?_, ofClauses?_concat_combinator mode before last⟩
  · intro error refused
    rw [ofClauses?_eq_error_iff] at refused ⊢
    rw [Condition.ofClauses?_append, refused]
    rfl
  · intro first error accepted refused
    obtain ⟨conditions, made, _⟩ := ofClauses?_eq_ok_iff.mp accepted
    rw [ofClauses?_eq_error_iff] at refused ⊢
    rw [Condition.ofClauses?_append, made, refused]
    rfl
  · intro first second accepted alsoAccepted
    obtain ⟨_, made, rfl⟩ := ofClauses?_eq_ok_iff.mp accepted
    obtain ⟨later, madeLater, rfl⟩ := ofClauses?_eq_ok_iff.mp alsoAccepted
    obtain ⟨earlier, condition, madeEarlier, madeLast, rfl⟩ :=
      Condition.ofClauses?_concat_eq_ok.mp made
    have states := Condition.states_of_ofClauses? madeLater
    have sameLength := (Condition.states_of_ofClauses? made).length_eq
    have joint := (Condition.states_of_ofClause? madeLast).joint
    have nonempty : later ≠ [] := by
      rintro rfl
      cases states
    have whole : Condition.ofClauses? dialect columns (before ++ [last] ++ next :: after) =
        .ok (earlier ++ [condition] ++ later) :=
      Condition.ofClauses?_append_eq_ok.mpr ⟨_, later, made, madeLater, rfl⟩
    refine ⟨Condition.join dialect mode 1 later, _, ?_,
      renumbers_join states mode (before ++ [last]).length, ?_⟩
    · rw [ofConditions_of_ne_nil _ _ nonempty]
    · refine ofClauses?_eq_ok_iff.mpr ⟨_, whole, ?_⟩
      rw [ofConditions_append mode condition nonempty, joint, sameLength, List.length_append]
      rfl

end Joining

theorem CompiledFilter.ofClauses?_append_joins_dates :
    ofClauses? .postgres .placeholder (.ofList [("age", "age"), ("born", "birth")])
        [⟨"age", .less, "9", some .or⟩] = .ok ⟨"WHERE age < $1", ["9"]⟩ ∧
      ofClauses? .postgres .placeholder (.ofList [("age", "age"), ("born", "birth")])
        [⟨"born", .dateEqual, "2020", none⟩] = .ok ⟨"WHERE birth = $1::date", ["2020-01-01"]⟩ ∧
      ∃ body renumbered, "WHERE birth = $1::date" = "WHERE" ++ " " ++ body ∧
        Renumbers .postgres (.ofList [("age", "age"), ("born", "birth")])
          [⟨"born", .dateEqual, "2020", none⟩] 1 .placeholder body renumbered ∧
        ofClauses? .postgres .placeholder (.ofList [("age", "age"), ("born", "birth")])
          [⟨"age", .less, "9", some .or⟩, ⟨"born", .dateEqual, "2020", none⟩] =
          .ok ⟨"WHERE age < $1" ++ " " ++ "OR" ++ " " ++ renumbered, ["9"] ++ ["2020-01-01"]⟩ :=
  ⟨by rfl, by rfl,
    (ofClauses?_append_joins .postgres .placeholder (.ofList [("age", "age"), ("born", "birth")])
      [] ⟨"age", .less, "9", some .or⟩ ⟨"born", .dateEqual, "2020", none⟩ []).2.2.1
      ⟨"WHERE age < $1", ["9"]⟩ ⟨"WHERE birth = $1::date", ["2020-01-01"]⟩ (by rfl) (by rfl)⟩

end ResourceFilter
