import ResourceFilter.Proofs.Fragment.Conditions

/-!
Clauses that stand behind others. They become the same conditions as on their own, and their text
stands behind the text of the others and the combinator of the last one of these.
-/

namespace ResourceFilter

namespace Condition

variable {dialect : Dialect} {mode : Mode} {columns : FieldMap}

theorem ofClauses?_cons_eq_ok {clause : Clause} {rest : List Clause} {conditions : List Condition} :
    ofClauses? dialect columns (clause :: rest) = .ok conditions ↔
      ∃ condition later, ofClause? dialect columns clause = .ok condition ∧
        ofClauses? dialect columns rest = .ok later ∧ conditions = condition :: later := by
  rw [ofClauses?]
  cases ofClause? dialect columns clause with
  | error error => simp
  | ok condition => cases ofClauses? dialect columns rest <;> simp [Except.map, eq_comm]

theorem ofClauses?_congr {other : Dialect} {otherColumns : FieldMap} {clauses : List Clause}
    (same : ∀ clause ∈ clauses,
      ofClause? dialect columns clause = ofClause? other otherColumns clause) :
    ofClauses? dialect columns clauses = ofClauses? other otherColumns clauses := by
  induction clauses with
  | nil => rfl
  | cons clause rest ih =>
      obtain ⟨here, later⟩ := List.forall_mem_cons.mp same
      rw [ofClauses?, ofClauses?, here, ih later]

theorem ofClauses?_append (first second : List Clause) :
    ofClauses? dialect columns (first ++ second) =
      (ofClauses? dialect columns first).bind fun before =>
        (ofClauses? dialect columns second).map (before ++ ·) := by
  induction first with
  | nil =>
      rw [List.nil_append, ofClauses?]
      cases ofClauses? dialect columns second <;> rfl
  | cons clause rest ih =>
      rw [List.cons_append, ofClauses?, ofClauses?, ih]
      cases ofClause? dialect columns clause with
      | error error => rfl
      | ok condition =>
          cases ofClauses? dialect columns rest with
          | error error => rfl
          | ok before => cases ofClauses? dialect columns second <;> rfl

theorem ofClauses?_append_eq_ok {first second : List Clause} {conditions : List Condition} :
    ofClauses? dialect columns (first ++ second) = .ok conditions ↔
      ∃ before after, ofClauses? dialect columns first = .ok before ∧
        ofClauses? dialect columns second = .ok after ∧ conditions = before ++ after := by
  rw [ofClauses?_append]
  cases ofClauses? dialect columns first with
  | error error => simp [Except.bind]
  | ok before =>
      cases ofClauses? dialect columns second <;> simp [Except.bind, Except.map, eq_comm]

def lead (dialect : Dialect) (mode : Mode) : Nat → List Condition → String
  | _, [] => ""
  | position, condition :: rest =>
      condition.text dialect mode position ++ " " ++ condition.joint.keyword ++ " " ++
        lead dialect mode (position + 1) rest

theorem join_append (first : List Condition) {second : List Condition} (nonempty : second ≠ [])
    (position : Nat) :
    join dialect mode position (first ++ second) =
      lead dialect mode position first ++ join dialect mode (position + first.length) second := by
  induction first generalizing position with
  | nil => simp [lead]
  | cons condition rest ih =>
      have more := ih (position + 1)
      obtain ⟨next, others, split⟩ := List.exists_cons_of_ne_nil (List.append_ne_nil_of_right_ne_nil
        rest nonempty)
      rw [List.cons_append, split, join, ← split, more, lead, List.length_cons,
        Nat.add_assoc position 1, Nat.add_comm 1]
      simp only [String.append_assoc]

theorem lead_concat (before : List Condition) (last : Condition) (position : Nat) :
    lead dialect mode position (before ++ [last]) =
      join dialect mode position (before ++ [last]) ++ " " ++ last.joint.keyword ++ " " := by
  rw [join_append before (List.cons_ne_nil _ _)]
  induction before generalizing position with
  | nil => simp [lead, join]
  | cons condition rest ih =>
      rw [List.cons_append, lead, ih, lead, List.length_cons, Nat.add_assoc position 1,
        Nat.add_comm 1]
      simp only [String.append_assoc]

end Condition

namespace CompiledFilter

theorem ofClauses?_eq_ok_iff {dialect : Dialect} {mode : Mode} {columns : FieldMap}
    {clauses : List Clause} {compiled : CompiledFilter} :
    ofClauses? dialect mode columns clauses = .ok compiled ↔
      ∃ conditions, Condition.ofClauses? dialect columns clauses = .ok conditions ∧
        compiled = ofConditions dialect mode conditions := by
  rw [ofClauses?]
  cases Condition.ofClauses? dialect columns clauses <;> simp [Except.map, eq_comm]

theorem ofClauses?_eq_error_iff {dialect : Dialect} {mode : Mode} {columns : FieldMap}
    {clauses : List Clause} {error : FilterError} :
    ofClauses? dialect mode columns clauses = .error error ↔
      Condition.ofClauses? dialect columns clauses = .error error := by
  rw [ofClauses?]
  cases Condition.ofClauses? dialect columns clauses <;> simp [Except.map]

theorem ofConditions_of_ne_nil (dialect : Dialect) (mode : Mode) {conditions : List Condition}
    (nonempty : conditions ≠ []) :
    ofConditions dialect mode conditions =
      { fragment := dialect.keyword ++ " " ++ Condition.join dialect mode 1 conditions
        binds :=
          match mode with
          | .inline => []
          | .placeholder => conditions.map Condition.value } := by
  cases conditions with
  | nil => contradiction
  | cons condition rest => rfl

end CompiledFilter

end ResourceFilter
