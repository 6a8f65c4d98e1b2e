import ResourceFilter.Proofs.AllowList.Nearest
import ResourceFilter.Proofs.Fragment.Building
import ResourceFilter.Proofs.Fragment.Sequence

/-!
Schemas that cannot be told apart by what is built under them: their lists of allowed fields and
their columns differ in nothing that a filter can reach.
-/

namespace ResourceFilter

/-- The same fields are allowed, in any order and any number of times, and they have the same
columns. -/
structure Schema.SameSurface (schema other : Schema) : Prop where
  fields (field : String) : field ∈ schema.fields ↔ field ∈ other.fields
  columns : ∀ field ∈ schema.fields, schema.columnMap.get? field = other.columnMap.get? field

section Building

variable {dialect : Dialect} {schema other : Schema} {filter : String} {clauses : List Clause}

theorem Condition.ofClause?_eq_of_get? {columns otherColumns : FieldMap} {clause : Clause}
    (same : columns.get? clause.field = otherColumns.get? clause.field) :
    ofClause? dialect columns clause = ofClause? dialect otherColumns clause := by
  rw [ofClause?, ofClause?, same]

theorem build_eq_of_allowed (surface : schema.SameSurface other)
    (read : Clause.parse dialect filter = .ok clauses)
    (allowed : ∀ clause ∈ clauses, clause.field ∈ schema.fields) :
    CompiledFilter.build dialect schema filter = CompiledFilter.build dialect other filter := by
  have otherAllowed : ∀ clause ∈ clauses, clause.field ∈ other.fields :=
    fun clause member => (surface.fields _).mp (allowed clause member)
  have sameConditions : Condition.ofClauses? dialect schema.columnMap clauses =
      Condition.ofClauses? dialect other.columnMap clauses :=
    Condition.ofClauses?_congr fun clause member =>
      Condition.ofClause?_eq_of_get? (surface.columns _ (allowed clause member))
  rw [build_of_read read allowed, build_of_read read otherAllowed, CompiledFilter.ofClauses?,
    CompiledFilter.ofClauses?, sameConditions]

/-- Two schemas that offer filters the same build the same. Only the name suggested for a field that
is not allowed may differ, and then both names come equally close to the field. -/
theorem build_eq_of_sameSurface (dialect : Dialect) (filter : String)
    (surface : schema.SameSurface other) :
    CompiledFilter.build dialect schema filter = CompiledFilter.build dialect other filter ∨
      ∃ field suggested otherSuggested,
        CompiledFilter.build dialect schema filter =
          .error (.disallowedField field suggested) ∧
        CompiledFilter.build dialect other filter =
          .error (.disallowedField field otherSuggested) ∧
        suggested.map (AllowList.distance field) =
          otherSuggested.map (AllowList.distance field) := by
  cases read : Clause.parse dialect filter with
  | error error =>
      left
      rw [build_of_unread read, build_of_unread read]
  | ok clauses =>
      cases checked : AllowList.check schema.fields clauses with
      | ok _ =>
          left
          exact build_eq_of_allowed surface read (AllowList.check_eq_ok_iff.mp checked)
      | error error =>
          -- Membership alone decides which clause is refused, and so both lists refuse the same.
          right
          obtain ⟨before, clause, after, rfl, allowed, notAllowed, _⟩ :=
            AllowList.check_eq_error_iff.mp checked
          have otherAllowed : ∀ earlier ∈ before, earlier.field ∈ other.fields :=
            fun earlier member => (surface.fields _).mp (allowed earlier member)
          have otherNotAllowed : clause.field ∉ other.fields :=
            mt (surface.fields _).mpr notAllowed
          exact ⟨clause.field, _, _, build_of_disallowed read allowed notAllowed,
            build_of_disallowed read otherAllowed otherNotAllowed,
            AllowList.suggestion?_map_distance_congr surface.fields⟩

theorem build_eq_of_sameSurface_order :
    Schema.SameSurface ⟨["name", "NAME"], .ofList [("secret", "hash")]⟩
      ⟨["NAME", "name", "NAME"], .ofList [("name", "name")]⟩ ∧
    CompiledFilter.build .postgres ⟨["name", "NAME"], .ofList [("secret", "hash")]⟩ "Nam==x" =
      .error (.disallowedField "Nam" (some "name")) ∧
    CompiledFilter.build .postgres ⟨["NAME", "name", "NAME"], .ofList [("name", "name")]⟩ "Nam==x" =
      .error (.disallowedField "Nam" (some "NAME")) ∧
    AllowList.distance "Nam" "name" = AllowList.distance "Nam" "NAME" := by
  have surface : Schema.SameSurface ⟨["name", "NAME"], .ofList [("secret", "hash")]⟩
      ⟨["NAME", "name", "NAME"], .ofList [("name", "name")]⟩ := by
    constructor
    · simp [or_comm]
    · intro field member
      rcases List.mem_pair.mp member with rfl | rfl <;> rfl
  have first : CompiledFilter.build .postgres ⟨["name", "NAME"], .ofList [("secret", "hash")]⟩
      "Nam==x" = .error (.disallowedField "Nam" (some "name")) := by rfl
  have second : CompiledFilter.build .postgres
      ⟨["NAME", "name", "NAME"], .ofList [("name", "name")]⟩ "Nam==x" =
        .error (.disallowedField "Nam" (some "NAME")) := by rfl
  refine ⟨surface, first, second, ?_⟩
  rcases build_eq_of_sameSurface .postgres "Nam==x" surface with
    same | ⟨_, _, _, built, other, near⟩
  · rw [first, second] at same
    simp at same
  · rw [first] at built
    rw [second] at other
    cases built
    cases other
    exact Option.some.inj near

end Building

end ResourceFilter
