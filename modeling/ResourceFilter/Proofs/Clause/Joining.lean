import ResourceFilter.Proofs.Clause.Text
import ResourceFilter.Proofs.Token.Position

/-!
Filters that are read one behind the other. What is read from a text does not depend on the filter
in front of it, as long as the clauses of that filter are all joined to a next one; errors move by
the length of that filter.
-/

namespace ResourceFilter

def FilterError.shift (offset : Nat) : FilterError → FilterError
  | malformed position expected found => malformed (offset + position) expected found
  | error => error

namespace TermStage

variable (dialect : Dialect) (offset : Nat)

theorem step_shift (stage : TermStage) (token : Token) :
    stage.step dialect (token.shift offset) =
      (stage.step dialect token).mapError (FilterError.shift offset) := by
  obtain ⟨position, lexeme⟩ := token
  cases stage with
  | start =>
      cases lexeme with
      | word word =>
          simp only [step, Token.shift]
          split <;> rfl
      | symbol | combinator => rfl
  | afterField field =>
      cases lexeme with
      | symbol symbol =>
          simp only [step, Token.shift]
          split <;> rfl
      | word | combinator => rfl
  | afterOperator | afterValue => cases lexeme <;> rfl

theorem finish_shift (stage : TermStage) (stop : Nat) :
    stage.finish (offset + stop) = (stage.finish stop).mapError (FilterError.shift offset) := by
  cases stage <;> rfl

end TermStage

namespace Clause

theorem ofTokens?_shift (dialect : Dialect) (offset stop : Nat) (stage : TermStage)
    (tokens : List Token) :
    ofTokens? dialect (offset + stop) stage (tokens.map (Token.shift offset)) =
      (ofTokens? dialect stop stage tokens).mapError (FilterError.shift offset) := by
  induction tokens generalizing stage with
  | nil => exact stage.finish_shift offset stop
  | cons token rest ih =>
      rw [List.map_cons, ofTokens?, ofTokens?, stage.step_shift dialect offset token]
      cases stage.step dialect token with
      | error error => rfl
      | ok result =>
          obtain ⟨next, complete⟩ := result
          simp only [Except.mapError, ih next]
          cases ofTokens? dialect stop next rest <;> rfl

variable {dialect : Dialect} {first : String} {clauses : List Clause}

theorem isClosed_of_parse (read : parse dialect first = .ok clauses)
    (joined : ∀ last ∈ clauses.getLast?, last.combinator.isSome = true) :
    IsClosed first.toList := by
  obtain ⟨⟨terms, tail, whole, _, _, tailBlank⟩, rfl⟩ := exists_division_of_parse read
  change ∀ last ∈ (terms.map WrittenTerm.clause).getLast?, last.combinator.isSome = true at joined
  refine ⟨terms.flatMap WrittenTerm.chars, tail, whole.symm, tailBlank, ?_⟩
  intro last isLast
  rcases List.eq_nil_or_concat terms with rfl | ⟨before, term, rfl⟩
  · cases isLast
  · -- But for blanks the text ends in the combinator of the last clause, a token on its own.
    rw [List.concat_eq_append] at isLast joined
    obtain ⟨which, isJoined⟩ := Option.isSome_iff_exists.mp (joined term.clause (by simp))
    have ending : term.chars.getLast? = some which.symbol := by
      simp [WrittenTerm.chars, isJoined]
    rw [List.flatMap_append, List.flatMap_singleton, List.getLast?_append, ending] at isLast
    cases isLast
    rw [CharClass.of_eq_combinator_iff.mpr rfl]
    simp [CharClass.IsRun]

theorem run?_of_joined (readable : Readable dialect clauses)
    (joined : ∀ last ∈ clauses.getLast?, last.combinator.isSome = true) :
    TermStage.start.run? dialect (clauses.flatMap lexemes) = some (.start, clauses) := by
  refine TermStage.run?_clauses readable.admissible ?_
  intro clause member
  rcases List.eq_nil_or_concat clauses with rfl | ⟨before, last, rfl⟩
  · cases member
  · have others := readable.joined clause
    rw [List.concat_eq_append] at member joined others
    rcases List.mem_append.mp member with earlier | final
    · exact others (by rwa [List.dropLast_concat])
    · exact joined clause (by simp_all)

theorem parse_append_of_joined (read : parse dialect first = .ok clauses)
    (joined : ∀ last ∈ clauses.getLast?, last.combinator.isSome = true) (second : String) :
    parse dialect (first ++ second) =
      ((parse dialect second).mapError (FilterError.shift first.utf8ByteSize)).map
        (clauses ++ ·) := by
  have closed := isClosed_of_parse read joined
  obtain ⟨clean, readable, same⟩ := parse_eq_ok_iff_lexemes.mp read
  have size : first.utf8ByteSize = byteLength first.toList := by
    rw [← utf8ByteSize_ofList, String.ofList_toList]
  rw [parse, parse, String.toList_append, Stray.scan_append closed,
    (Stray.scan_eq_nil_iff _).mpr clean, List.nil_append, size]
  -- A stray is reported before any token is read, also one that stands behind an error.
  cases strays : Stray.scan second.toList with
  | cons stray later => rfl
  | nil =>
      have ran := run?_of_joined readable joined
      rw [← same, ← Token.map_lexeme_scan] at ran
      rw [List.map_nil, byteLength_append, Token.scan_append closed,
        TermStage.ofTokens?_of_run? ran, ofTokens?_shift]

theorem parse_append_combinator {before : List Clause} {last : Clause}
    (read : parse dialect first = .ok (before ++ [last])) (ends : last.combinator = none)
    (which : Combinator) :
    parse dialect (first ++ String.singleton which.symbol) =
      .ok (before ++ [{ last with combinator := some which }]) := by
  obtain ⟨clean, ⟨admissible, joined⟩, same⟩ := parse_eq_ok_iff_lexemes.mp read
  have read : ResourceFilter.lexemes (first.toList ++ [which.symbol]) =
      ResourceFilter.lexemes first.toList ++ [.combinator which] := by
    rw [lexemes_append, lexemes_combinator_cons]
    · rfl
    · intro final _ symbol isSymbol same
      cases isSymbol
      rw [same, CharClass.of_eq_combinator_iff.mpr rfl]
      simp [CharClass.IsRun]
  rw [parse_eq_ok_iff_lexemes, String.toList_append, String.toList_singleton, noStray_append, read,
    same]
  refine ⟨⟨clean, ?_⟩, ⟨?_, ?_⟩, ?_⟩
  · intro char member
    rw [List.mem_singleton.mp member, CharClass.of_eq_combinator_iff.mpr rfl]
    simp
  · intro clause member
    rcases List.mem_append.mp member with earlier | final
    · exact admissible clause (List.mem_append_left _ earlier)
    · rw [List.mem_singleton.mp final]
      exact admissible last (by simp)
  · rw [List.dropLast_concat] at joined ⊢
    exact joined
  · simp [lexemes, ends]

/-- What is read behind a filter is what is read on its own, behind the clauses of the filter; an
error tells the same, further behind by the bytes of the filter. Where the last clause is not joined
to a next one, a combinator joins it. -/
theorem parse_append_eq (dialect : Dialect) (first : String) (clauses : List Clause)
    (read : parse dialect first = .ok clauses) :
    ((∀ last ∈ clauses.getLast?, last.combinator.isSome = true) → ∀ second,
      parse dialect (first ++ second) =
        match parse dialect second with
        | .ok more => .ok (clauses ++ more)
        | .error (.malformed position expected found) =>
            .error (.malformed (first.utf8ByteSize + position) expected found)
        | .error error => .error error) ∧
    ∀ before last, clauses = before ++ [last] → last.combinator = none → ∀ which,
      parse dialect (first ++ String.singleton which.symbol) =
        .ok (before ++ [{ last with combinator := some which }]) := by
  constructor
  · intro joined second
    rw [parse_append_of_joined read joined]
    cases parse dialect second with
    | ok more => rfl
    | error error => cases error <;> rfl
  · rintro before last rfl ends which
    exact parse_append_combinator read ends which

theorem parse_append_eq_wide_blank :
    parse .postgres "a == 1;\u00a0" = .ok [⟨"a", .equal, "1", some .and⟩] ∧
      parse .postgres "b c" = .error (.malformed 2 "an operator" "'c'") ∧
      parse .postgres ("a == 1;\u00a0" ++ "b c") = .error (.malformed 11 "an operator" "'c'") ∧
      parse .postgres "b != 2" = .ok [⟨"b", .notEqual, "2", none⟩] ∧
      parse .postgres ("b != 2" ++ ",") = .ok [⟨"b", .notEqual, "2", some .or⟩] := by
  have joined : parse .postgres "a == 1;\u00a0" = .ok [⟨"a", .equal, "1", some .and⟩] := by rfl
  have refused : parse .postgres "b c" = .error (.malformed 2 "an operator" "'c'") := by rfl
  have ended : parse .postgres "b != 2" = .ok [⟨"b", .notEqual, "2", none⟩] := by rfl
  have whole := (parse_append_eq _ _ _ joined).1 (by simp) "b c"
  rw [refused] at whole
  exact ⟨joined, refused, whole, ended, (parse_append_eq _ _ _ ended).2 [] _ rfl rfl .or⟩

end Clause

end ResourceFilter
