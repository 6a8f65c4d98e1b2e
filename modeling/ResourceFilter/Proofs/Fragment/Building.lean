import ResourceFilter.Proofs.Clause.Offence
import ResourceFilter.Proofs.Fragment.Frame
import ResourceFilter.Proofs.Fragment.Refusal

/-!
What a filter is built into. Reading comes before the allow-list and the allow-list before the
dates, and nothing else refuses a filter: an allowed field has a column, and what reads as an
operator can be written.
-/

namespace ResourceFilter

inductive BuildsTo (dialect : Dialect) (schema : Schema) (filter : String) :
    Except FilterError CompiledFilter → Prop
  | unread {error : FilterError} : Clause.parse dialect filter = .error error →
      BuildsTo dialect schema filter (.error error)
  | disallowed {before after : List Clause} {clause : Clause} :
      Clause.parse dialect filter = .ok (before ++ clause :: after) →
      (∀ earlier ∈ before, earlier.field ∈ schema.fields) → clause.field ∉ schema.fields →
      BuildsTo dialect schema filter
        (.error (.disallowedField clause.field
          (AllowList.suggestion? schema.fields clause.field)))
  | misdated {before after : List Clause} {clause : Clause} :
      Clause.parse dialect filter = .ok (before ++ clause :: after) →
      (∀ other ∈ before ++ clause :: after, other.field ∈ schema.fields) →
      (∀ earlier ∈ before, ¬earlier.IsMisdated) → clause.IsMisdated →
      BuildsTo dialect schema filter (.error (.invalidDate clause.value))
  /-- Every clause has a frame of its own, and its operand is all that its value gets into. -/
  | built {clauses : List Clause} {carried : List String} {compiled : CompiledFilter} :
      Clause.parse dialect filter = .ok clauses →
      (∀ clause ∈ clauses, clause.field ∈ schema.fields) →
      (∀ clause ∈ clauses, ¬clause.IsMisdated) →
      List.Forall₂ (fun clause text => clause.carried? dialect = some text) clauses carried →
      compiled = .ofCarried dialect dialect.mode
        (fun field => (schema.columns.get? field).getD field) clauses carried →
      (compiled.fragment = "" ↔ clauses = []) →
      BuildsTo dialect schema filter (.ok compiled)

namespace Clause

variable {dialect : Dialect} {filter : String}

theorem parse_eq_error {error : FilterError} (refused : parse dialect filter = .error error) :
    (∃ position expected found, error = .malformed position expected found) ∨
      ∃ symbol, error = .unsupportedOperator symbol := by
  rw [parse] at refused
  cases strays : Stray.scan filter.toList with
  | cons stray later =>
      rw [strays] at refused
      cases refused
      exact .inl ⟨_, _, _, rfl⟩
  | nil =>
      rw [strays] at refused
      rcases ofTokens?_eq_error_iff.mp refused with
        ⟨last, clauses, _, finished⟩ | ⟨done, token, later, middle, clauses, _, _, failed⟩
      · cases last with
        | start | afterValue => simp [TermStage.finish] at finished
        | afterField | afterOperator =>
            cases finished
            exact .inl ⟨_, _, _, rfl⟩
      · rcases TermStage.step_eq_error failed with
          ⟨rfl, _⟩ | ⟨field, symbol, _, _, _, rfl⟩
        · exact .inl ⟨_, _, _, rfl⟩
        · exact .inr ⟨symbol, rfl⟩

theorem supports_of_parse {clauses : List Clause} (read : parse dialect filter = .ok clauses) :
    ∀ clause ∈ clauses, dialect.token? clause.operator ≠ none := by
  obtain ⟨_, readable, _⟩ := parse_eq_ok_iff_lexemes.mp read
  intro clause member
  have supported := (readable.admissible clause member).2
  rwa [Dialect.supports, Option.isSome_iff_ne_none] at supported

end Clause

section Building

variable {dialect : Dialect} {schema : Schema} {filter : String} {clauses : List Clause}

theorem build_of_unread {error : FilterError}
    (unread : Clause.parse dialect filter = .error error) :
    CompiledFilter.build dialect schema filter = .error error := by
  simp only [CompiledFilter.build, unread, bind, Except.bind]

theorem build_of_read (read : Clause.parse dialect filter = .ok clauses)
    (allowed : ∀ clause ∈ clauses, clause.field ∈ schema.fields) :
    CompiledFilter.build dialect schema filter =
      CompiledFilter.ofClauses? dialect dialect.mode schema.columnMap clauses := by
  have checked := AllowList.check_eq_ok_iff.mpr allowed
  simp only [CompiledFilter.build, read, checked, bind, Except.bind]

theorem build_of_disallowed {before after : List Clause} {clause : Clause}
    (read : Clause.parse dialect filter = .ok (before ++ clause :: after))
    (allowed : ∀ earlier ∈ before, earlier.field ∈ schema.fields)
    (notAllowed : clause.field ∉ schema.fields) :
    CompiledFilter.build dialect schema filter =
      .error (.disallowedField clause.field
        (AllowList.suggestion? schema.fields clause.field)) := by
  have refused := AllowList.check_eq_error_iff.mpr
    ⟨before, clause, after, rfl, allowed, notAllowed, rfl⟩
  simp only [CompiledFilter.build, read, refused, bind, Except.bind]

theorem fragment_ofConditions_eq_empty_iff {mode : Mode} {columns : FieldMap}
    {conditions : List Condition}
    (states : Condition.StateAll dialect columns clauses conditions) :
    (CompiledFilter.ofConditions dialect mode conditions).fragment = "" ↔ clauses = [] := by
  cases states with
  | nil => simp [CompiledFilter.ofConditions, CompiledFilter.empty]
  | cons first later => simp [CompiledFilter.ofConditions, ← String.toList_eq_nil_iff]

theorem buildsTo_of_allowed (read : Clause.parse dialect filter = .ok clauses)
    (allowed : ∀ clause ∈ clauses, clause.field ∈ schema.fields) :
    BuildsTo dialect schema filter (CompiledFilter.build dialect schema filter) := by
  have supported := Clause.supports_of_parse read
  have mapped : ∀ clause ∈ clauses,
      schema.columnMap.get? clause.field = some (schema.column clause.field) := by
    intro clause member
    rw [Schema.get?_columnMap, if_pos (allowed clause member)]
  rw [build_of_read read allowed, CompiledFilter.ofClauses?]
  cases made : Condition.ofClauses? dialect schema.columnMap clauses with
  | error error =>
      obtain ⟨before, clause, after, rfl, accepted, refused⟩ :=
        Condition.ofClauses?_eq_error_iff.mp made
      have member : clause ∈ before ++ clause :: after := by simp
      cases refused with
      | unmapped unmapped => simp [mapped clause member] at unmapped
      | unsupported _ unsupported => exact absurd unsupported (supported clause member)
      | misdated _ _ isMisdated =>
          refine .misdated read allowed ?_ isMisdated
          intro earlier earlierMember earlierMisdated
          have among : earlier ∈ before ++ clause :: after := by simp [earlierMember]
          obtain ⟨token, written⟩ := Option.ne_none_iff_exists'.mp (supported earlier among)
          exact accepted earlier earlierMember _
            (.misdated (mapped earlier among) written earlierMisdated)
  | ok conditions =>
      have states := Condition.states_of_ofClauses? made
      have dated : ∀ clause ∈ clauses, ¬clause.IsMisdated :=
        Condition.forall_mem_of_stateAll states fun _ _ stated => stated.not_isMisdated
      refine .built read allowed dated ?_ (ofConditions_eq_ofCarried states mapped dialect.mode)
        (fragment_ofConditions_eq_empty_iff states)
      rw [List.forall₂_map_right_iff]
      exact states.imp fun clause condition stated => stated.value

theorem buildsTo_build (dialect : Dialect) (schema : Schema) (filter : String) :
    BuildsTo dialect schema filter (CompiledFilter.build dialect schema filter) := by
  cases read : Clause.parse dialect filter with
  | error error =>
      rw [build_of_unread read]
      exact .unread read
  | ok clauses =>
      cases checked : AllowList.check schema.fields clauses with
      | ok _ => exact buildsTo_of_allowed read (AllowList.check_eq_ok_iff.mp checked)
      | error error =>
          obtain ⟨before, clause, after, rfl, allowed, notAllowed, _⟩ :=
            AllowList.check_eq_error_iff.mp checked
          rw [build_of_disallowed read allowed notAllowed]
          exact .disallowed read allowed notAllowed

/-- Nothing but its text, its fields and its dates makes a filter fail, in this order. -/
theorem build_failsClosed (dialect : Dialect) (schema : Schema) (filter : String) :
    BuildsTo dialect schema filter (CompiledFilter.build dialect schema filter) ∧
      (∀ field, CompiledFilter.build dialect schema filter ≠ .error (.unmappedField field)) ∧
      ∀ symbol,
        CompiledFilter.build dialect schema filter = .error (.unsupportedOperator symbol) ↔
          Clause.parse dialect filter = .error (.unsupportedOperator symbol) := by
  have outcome := buildsTo_build dialect schema filter
  refine ⟨outcome, ?_, ?_⟩
  · intro field failed
    rw [failed] at outcome
    cases outcome with
    | unread refused =>
        rcases Clause.parse_eq_error refused with ⟨_, _, _, same⟩ | ⟨_, same⟩
        · contradiction
        · contradiction
  · intro symbol
    constructor
    · intro failed
      rw [failed] at outcome
      cases outcome with
      | unread refused => exact refused
    · exact build_of_unread

end Building

end ResourceFilter
