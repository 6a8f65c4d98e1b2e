import ResourceFilter.Proofs.Clause.Reading

/-!
The grammar of filters. A filter is read as clauses exactly if its text divides into terms that say
the clauses, with white space wherever two parts meet.
-/

namespace ResourceFilter

def IsFieldText (text : String) : Prop :=
  text ≠ "" ∧ ∀ char ∈ text.toList, char.isAlphanum = true ∨ char = '_'

def IsValueText (text : String) : Prop :=
  text ≠ "" ∧ ∀ char ∈ text.toList, char.isAlphanum = true ∨ char = '_' ∨ char = '-'

structure WrittenTerm where
  beforeField : List Char
  beforeOperator : List Char
  beforeValue : List Char
  beforeCombinator : List Char
  clause : Clause

namespace WrittenTerm

def chars (term : WrittenTerm) : List Char :=
  term.beforeField ++ (term.clause.field.toList ++ (term.beforeOperator ++
    (term.clause.operator.symbol.toList ++ (term.beforeValue ++ (term.clause.value.toList ++
      (term.beforeCombinator ++ term.clause.combinator.toList.map Combinator.symbol))))))

structure WellFormed (dialect : Dialect) (term : WrittenTerm) : Prop where
  beforeField : ∀ char ∈ term.beforeField, isBlank char = true
  field : IsFieldText term.clause.field
  beforeOperator : ∀ char ∈ term.beforeOperator, isBlank char = true
  operator : ∃ written, (term.clause.operator, written) ∈ dialect.table
  beforeValue : ∀ char ∈ term.beforeValue, isBlank char = true
  value : IsValueText term.clause.value
  beforeCombinator : ∀ char ∈ term.beforeCombinator, isBlank char = true

end WrittenTerm

/-- A division of a text into terms, with white space after the last of them. Every term but the
last one ends with a combinator. -/
structure Division (dialect : Dialect) (text : List Char) where
  terms : List WrittenTerm
  tail : List Char
  whole : terms.flatMap WrittenTerm.chars ++ tail = text
  wellFormed : ∀ term ∈ terms, term.WellFormed dialect
  joined : ∀ term ∈ terms.dropLast, term.clause.combinator.isSome = true
  tailBlank : ∀ char ∈ tail, isBlank char = true

def Division.clauses {dialect : Dialect} {text : List Char} (division : Division dialect text) :
    List Clause :=
  division.terms.map WrittenTerm.clause

theorem isFieldText_iff {text : String} :
    IsFieldText text ↔ text.toList ≠ [] ∧ (∀ char ∈ text.toList, isWordChar char = true) ∧
      isFieldWord text = true := by
  simp only [IsFieldText, ne_eq, String.toList_eq_nil_iff, isFieldWord, Bool.not_eq_true',
    List.contains_eq_mem, decide_eq_false_iff_not]
  constructor
  · rintro ⟨nonempty, chars⟩
    refine ⟨nonempty, ?_, ?_⟩
    · intro char member
      rcases chars char member with alphanumeric | rfl
      · simp [isWordChar, alphanumeric]
      · rfl
    · intro hyphen
      rcases chars '-' hyphen with alphanumeric | same
      · exact absurd alphanumeric (by decide)
      · exact absurd same (by decide)
  · rintro ⟨nonempty, words, hyphens⟩
    refine ⟨nonempty, ?_⟩
    intro char member
    have isWord := words char member
    simp only [isWordChar, Bool.or_eq_true, beq_iff_eq] at isWord
    rcases isWord with (alphanumeric | underscore) | rfl
    · exact .inl alphanumeric
    · exact .inr underscore
    · exact absurd member hyphens

theorem isValueText_iff {text : String} :
    IsValueText text ↔ text.toList ≠ [] ∧ ∀ char ∈ text.toList, isWordChar char = true := by
  simp only [IsValueText, ne_eq, String.toList_eq_nil_iff, isWordChar, Bool.or_eq_true, beq_iff_eq,
    or_assoc]

section Written

variable {dialect : Dialect} {term : WrittenTerm} {rest : List Char}

theorem WrittenTerm.lexemes_chars_append (wellFormed : term.WellFormed dialect)
    (ends : term.clause.combinator = none → ∀ first ∈ rest.head?, CharClass.of first ≠ .word) :
    lexemes (term.chars ++ rest) = term.clause.lexemes ++ lexemes rest := by
  obtain ⟨beforeField, field, beforeOperator, _, beforeValue, value, beforeCombinator⟩ := wellFormed
  obtain ⟨fieldNonempty, fieldWords, _⟩ := isFieldText_iff.mp field
  obtain ⟨valueNonempty, valueWords⟩ := isValueText_iff.mp value
  have symbolNonempty := term.clause.operator.symbol_ne_nil
  have symbols := term.clause.operator.isSymbolChar_symbol
  simp only [chars, List.append_assoc]
  rw [lexemes_blank_append beforeField, lexemes_word_append fieldNonempty fieldWords,
    lexemes_blank_append beforeOperator, lexemes_symbol_append symbolNonempty symbols,
    lexemes_blank_append beforeValue, lexemes_word_append valueNonempty valueWords,
    lexemes_blank_append beforeCombinator]
  · cases combinator : term.clause.combinator with
    | none => simp [Clause.lexemes, combinator]
    | some which => simp [Clause.lexemes, combinator, lexemes_combinator_cons]
  · apply head?_blank_append beforeCombinator (by simp)
    cases combinator : term.clause.combinator with
    | none => exact ends combinator
    | some which =>
        intro first isFirst
        cases isFirst
        rw [CharClass.of_eq_combinator_iff.mpr rfl]
        simp
  · apply head?_blank_append beforeValue (by simp)
    exact head?_run_append valueNonempty
      (fun char member => CharClass.of_eq_word_iff.mpr (valueWords char member)) (by simp)
  · apply head?_blank_append beforeOperator (by simp)
    exact head?_run_append symbolNonempty
      (fun char member => CharClass.of_eq_symbol_iff.mpr (symbols char member)) (by simp)

theorem WrittenTerm.noStray_chars (wellFormed : term.WellFormed dialect) : NoStray term.chars := by
  simp only [chars, noStray_append]
  refine ⟨noStray_of_blank wellFormed.beforeField,
    noStray_of_words (isFieldText_iff.mp wellFormed.field).2.1,
    noStray_of_blank wellFormed.beforeOperator, ?_, noStray_of_blank wellFormed.beforeValue,
    noStray_of_words (isValueText_iff.mp wellFormed.value).2,
    noStray_of_blank wellFormed.beforeCombinator, ?_⟩
  · intro char member
    rw [CharClass.of_eq_symbol_iff.mpr (Operator.isSymbolChar_symbol _ char member)]
    simp
  · intro char member
    obtain ⟨which, _, rfl⟩ := List.mem_map.mp member
    rw [CharClass.of_eq_combinator_iff.mpr rfl]
    simp

theorem lexemes_flatMap_chars {terms : List WrittenTerm} {tail : List Char}
    (wellFormed : ∀ term ∈ terms, term.WellFormed dialect)
    (joined : ∀ term ∈ terms.dropLast, term.clause.combinator.isSome = true)
    (tailBlank : ∀ char ∈ tail, isBlank char = true) :
    NoStray (terms.flatMap WrittenTerm.chars ++ tail) ∧
      lexemes (terms.flatMap WrittenTerm.chars ++ tail) =
        (terms.map WrittenTerm.clause).flatMap Clause.lexemes := by
  induction terms with
  | nil =>
      refine ⟨noStray_of_blank tailBlank, ?_⟩
      rw [List.flatMap_nil, List.nil_append, ← List.append_nil tail]
      exact lexemes_blank_append tailBlank
  | cons term rest ih =>
      have here := wellFormed term (by simp)
      obtain ⟨clean, read⟩ := ih (fun other member => wellFormed other (by simp [member])) <| by
        intro other member
        apply joined
        cases rest with
        | nil => contradiction
        | cons next more => exact List.mem_cons_of_mem _ member
      rw [List.flatMap_cons, List.append_assoc, noStray_append, List.map_cons, List.flatMap_cons]
      refine ⟨⟨term.noStray_chars here, clean⟩, ?_⟩
      rw [term.lexemes_chars_append here, read]
      intro combinator
      cases rest with
      | nil =>
          intro first isFirst
          rw [CharClass.of_eq_blank_iff.mpr (tailBlank first (List.mem_of_head? isFirst))]
          simp
      | cons next more =>
          have impossible := joined term (by simp)
          rw [combinator] at impossible
          contradiction

theorem exists_writtenTerm {text : List Char} {clause : Clause} {later : List Lexeme}
    (clean : NoStray text) (admissible : clause.Admissible dialect)
    (read : lexemes text = clause.lexemes ++ later) :
    ∃ (term : WrittenTerm) (rest : List Char), text = term.chars ++ rest ∧ term.clause = clause ∧
      term.WellFormed dialect ∧ NoStray rest ∧ lexemes rest = later := by
  simp only [Clause.lexemes, List.cons_append, List.nil_append] at read
  obtain ⟨beforeField, field, afterField, rfl, blankField, validField, isField, cleanField, read⟩ :=
    lexemes_eq_cons clean read
  obtain ⟨beforeOperator, operator, afterOperator, rfl, blankOperator, _, isOperator,
    cleanOperator, read⟩ := lexemes_eq_cons cleanField read
  obtain ⟨beforeValue, value, afterValue, rfl, blankValue, validValue, isValue, cleanValue, read⟩ :=
    lexemes_eq_cons cleanOperator read
  have operatorChars : operator.chars = clause.operator.symbol.toList :=
    (Piece.text_of_lexeme? isOperator).symm
  obtain ⟨fieldChars, fieldNonempty, fieldWords⟩ := chars_of_word validField isField
  obtain ⟨valueChars, valueNonempty, valueWords⟩ := chars_of_word validValue isValue
  have fieldText := isFieldText_iff.mpr ⟨fieldNonempty, fieldWords, admissible.1⟩
  have valueText := isValueText_iff.mpr ⟨valueNonempty, valueWords⟩
  have registered := (dialect.supports_iff_mem_table _).mp admissible.2
  rw [fieldChars, operatorChars, valueChars]
  cases combinator : clause.combinator with
  | none =>
      rw [combinator] at read
      refine ⟨⟨beforeField, beforeOperator, beforeValue, [], clause⟩, afterValue, ?_, rfl,
        ⟨blankField, fieldText, blankOperator, registered, blankValue, valueText, by simp⟩,
        cleanValue, read⟩
      simp [WrittenTerm.chars, combinator]
  | some which =>
      rw [combinator] at read
      obtain ⟨beforeCombinator, piece, rest, rfl, blankCombinator, _, isCombinator, cleanRest,
          read⟩ :=
        lexemes_eq_cons cleanValue read
      have combinatorChars : piece.chars = [which.symbol] := by
        rw [← Piece.text_of_lexeme? isCombinator]
        simp [Lexeme.text]
      refine ⟨⟨beforeField, beforeOperator, beforeValue, beforeCombinator, clause⟩, rest, ?_, rfl,
        ⟨blankField, fieldText, blankOperator, registered, blankValue, valueText, blankCombinator⟩,
        cleanRest, read⟩
      simp [WrittenTerm.chars, combinator, combinatorChars]

end Written

theorem exists_division {dialect : Dialect} {text : List Char} {clauses : List Clause}
    (clean : NoStray text) (readable : Clause.Readable dialect clauses)
    (read : lexemes text = clauses.flatMap Clause.lexemes) :
    ∃ division : Division dialect text, division.clauses = clauses := by
  induction clauses generalizing text with
  | nil =>
      exact ⟨⟨[], text, rfl, by simp, by simp, lexemes_eq_nil clean read⟩, rfl⟩
  | cons clause later ih =>
      obtain ⟨term, rest, rfl, rfl, wellFormed, cleanRest, readRest⟩ :=
        exists_writtenTerm clean (readable.admissible clause (by simp)) read
      have readableLater : Clause.Readable dialect later := by
        refine ⟨fun other member => readable.admissible other (by simp [member]), ?_⟩
        intro other member
        apply readable.joined
        cases later with
        | nil => contradiction
        | cons next more => exact List.mem_cons_of_mem _ member
      obtain ⟨⟨terms, tail, whole, formed, joined, blank⟩, rfl⟩ :=
        ih cleanRest readableLater readRest
      refine ⟨⟨term :: terms, tail, ?_, ?_, ?_, blank⟩, rfl⟩
      · rw [List.flatMap_cons, List.append_assoc, whole]
      · simpa using ⟨wellFormed, formed⟩
      · intro other member
        cases terms with
        | nil => contradiction
        | cons next more =>
            rcases List.mem_cons.mp member with rfl | there
            · exact readable.joined _ (by simp [Division.clauses])
            · exact joined other there

theorem parse_of_division {dialect : Dialect} {filter : String}
    (division : Division dialect filter.toList) :
    Clause.parse dialect filter = .ok division.clauses := by
  obtain ⟨terms, tail, whole, wellFormed, joined, tailBlank⟩ := division
  obtain ⟨clean, read⟩ := lexemes_flatMap_chars wellFormed joined tailBlank
  rw [whole] at clean read
  refine Clause.parse_eq_ok_iff_lexemes.mpr ⟨clean, ⟨?_, ?_⟩, read⟩
  · intro clause member
    obtain ⟨term, among, rfl⟩ := List.mem_map.mp member
    have formed := wellFormed term among
    exact ⟨(isFieldText_iff.mp formed.field).2.2,
      (dialect.supports_iff_mem_table _).mpr formed.operator⟩
  · intro clause member
    rw [Division.clauses, ← List.map_dropLast] at member
    obtain ⟨term, among, rfl⟩ := List.mem_map.mp member
    exact joined term among

/-- A filter is read as the clauses that its text divides into, in their order, and all divisions
of it have the same clauses. -/
theorem parse_eq_ok_iff_divides (dialect : Dialect) (filter : String) (clauses : List Clause) :
    (Clause.parse dialect filter = .ok clauses ↔
      ∃ division : Division dialect filter.toList, division.clauses = clauses) ∧
    ((∃ division : Division dialect filter.toList, division.clauses = clauses) ↔
      Nonempty (Division dialect filter.toList) ∧
        ∀ division : Division dialect filter.toList, division.clauses = clauses) := by
  have reads : Clause.parse dialect filter = .ok clauses ↔
      ∃ division : Division dialect filter.toList, division.clauses = clauses := by
    constructor
    · intro accepted
      obtain ⟨clean, readable, read⟩ := Clause.parse_eq_ok_iff_lexemes.mp accepted
      exact exists_division clean readable read
    · rintro ⟨division, rfl⟩
      exact parse_of_division division
  refine ⟨reads, ?_⟩
  constructor
  · intro divides
    refine ⟨⟨divides.choose⟩, ?_⟩
    intro division
    have accepted := reads.mpr divides
    rw [parse_of_division division] at accepted
    exact Except.ok.inj accepted
  · rintro ⟨⟨division⟩, same⟩
    exact ⟨division, same division⟩

end ResourceFilter
