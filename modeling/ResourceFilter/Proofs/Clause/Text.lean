import ResourceFilter.Proofs.Clause.Grammar

/-!
The text of clauses, read as a filter. It is a filter without white space: the clauses that are
read from it are the same ones exactly if every part of them can stand in a filter.
-/

namespace ResourceFilter

structure Clause.Writable (dialect : Dialect) (clauses : List Clause) : Prop where
  field : ∀ clause ∈ clauses, IsFieldText clause.field
  operator : ∀ clause ∈ clauses, ∃ written, (clause.operator, written) ∈ dialect.table
  value : ∀ clause ∈ clauses, IsValueText clause.value
  joined : ∀ clause ∈ clauses.dropLast, clause.combinator.isSome = true

def withoutBlanks (text : List Char) : List Char :=
  text.filter fun char => !isBlank char

theorem withoutBlanks_append (left right : List Char) :
    withoutBlanks (left ++ right) = withoutBlanks left ++ withoutBlanks right :=
  List.filter_append left right

theorem withoutBlanks_of_blank {gap : List Char} (blank : ∀ char ∈ gap, isBlank char = true) :
    withoutBlanks gap = [] := by
  rw [withoutBlanks, List.filter_eq_nil_iff]
  intro char member
  simp [blank char member]

theorem withoutBlanks_of_token {run : List Char}
    (token : ∀ char ∈ run, CharClass.of char ≠ .blank) : withoutBlanks run = run := by
  rw [withoutBlanks, List.filter_eq_self]
  intro char member
  have notBlank := token char member
  rw [ne_eq, CharClass.of_eq_blank_iff, Bool.not_eq_true] at notBlank
  rw [notBlank]
  rfl

theorem withoutBlanks_of_words {run : List Char}
    (words : ∀ char ∈ run, isWordChar char = true) : withoutBlanks run = run := by
  apply withoutBlanks_of_token
  intro char member
  rw [CharClass.of_eq_word_iff.mpr (words char member)]
  simp

theorem Clause.toList_text (clause : Clause) :
    clause.text.toList = clause.field.toList ++ (clause.operator.symbol.toList ++
      (clause.value.toList ++ clause.combinator.toList.map Combinator.symbol)) := by
  cases combinator : clause.combinator <;> simp [text, combinator]

theorem Clause.toList_textOf (clauses : List Clause) :
    (textOf clauses).toList = clauses.flatMap fun clause => clause.text.toList := by
  rw [textOf, String.toList_join, List.flatMap_map]

namespace WrittenTerm

def ofClause (clause : Clause) : WrittenTerm where
  beforeField := []
  beforeOperator := []
  beforeValue := []
  beforeCombinator := []
  clause

theorem chars_ofClause (clause : Clause) : (ofClause clause).chars = clause.text.toList :=
  clause.toList_text.symm

theorem withoutBlanks_chars {dialect : Dialect} {term : WrittenTerm}
    (wellFormed : term.WellFormed dialect) :
    withoutBlanks term.chars = term.clause.text.toList := by
  obtain ⟨beforeField, field, beforeOperator, _, beforeValue, value, beforeCombinator⟩ := wellFormed
  have fieldKept := withoutBlanks_of_words (isFieldText_iff.mp field).2.1
  have valueKept := withoutBlanks_of_words (isValueText_iff.mp value).2
  have operatorKept : withoutBlanks term.clause.operator.symbol.toList =
      term.clause.operator.symbol.toList := by
    apply withoutBlanks_of_token
    intro char member
    rw [CharClass.of_eq_symbol_iff.mpr (term.clause.operator.isSymbolChar_symbol char member)]
    simp
  have combinatorKept : withoutBlanks (term.clause.combinator.toList.map Combinator.symbol) =
      term.clause.combinator.toList.map Combinator.symbol := by
    apply withoutBlanks_of_token
    intro char member
    obtain ⟨which, _, rfl⟩ := List.mem_map.mp member
    rw [CharClass.of_eq_combinator_iff.mpr rfl]
    simp
  simp only [chars, withoutBlanks_append, withoutBlanks_of_blank beforeField,
    withoutBlanks_of_blank beforeOperator, withoutBlanks_of_blank beforeValue,
    withoutBlanks_of_blank beforeCombinator, List.nil_append]
  rw [fieldKept, operatorKept, valueKept, combinatorKept, Clause.toList_text]

end WrittenTerm

section Stating

variable {dialect : Dialect} {text : List Char} {clauses : List Clause}

theorem Division.writable (division : Division dialect text) :
    Clause.Writable dialect division.clauses := by
  obtain ⟨terms, tail, whole, wellFormed, joined, tailBlank⟩ := division
  constructor
  · intro clause member
    obtain ⟨term, among, rfl⟩ := List.mem_map.mp member
    exact (wellFormed term among).field
  · intro clause member
    obtain ⟨term, among, rfl⟩ := List.mem_map.mp member
    exact (wellFormed term among).operator
  · intro clause member
    obtain ⟨term, among, rfl⟩ := List.mem_map.mp member
    exact (wellFormed term among).value
  · intro clause member
    rw [Division.clauses, ← List.map_dropLast] at member
    obtain ⟨term, among, rfl⟩ := List.mem_map.mp member
    exact joined term among

theorem withoutBlanks_flatMap_chars {terms : List WrittenTerm}
    (wellFormed : ∀ term ∈ terms, term.WellFormed dialect) :
    withoutBlanks (terms.flatMap WrittenTerm.chars) =
      (Clause.textOf (terms.map WrittenTerm.clause)).toList := by
  rw [Clause.toList_textOf, List.flatMap_map]
  induction terms with
  | nil => rfl
  | cons term later ih =>
      have here := wellFormed term List.mem_cons_self
      have others : ∀ other ∈ later, other.WellFormed dialect :=
        fun other member => wellFormed other (List.mem_cons_of_mem _ member)
      rw [List.flatMap_cons, withoutBlanks_append, term.withoutBlanks_chars here, ih others]
      rfl

theorem Division.withoutBlanks_eq (division : Division dialect text) :
    withoutBlanks text = (Clause.textOf division.clauses).toList := by
  have kept := withoutBlanks_flatMap_chars division.wellFormed
  have whole := congrArg withoutBlanks division.whole
  rw [withoutBlanks_append, withoutBlanks_of_blank division.tailBlank, List.append_nil] at whole
  exact whole.symm.trans kept

theorem parse_textOf_of_writable (writable : Clause.Writable dialect clauses) :
    Clause.parse dialect (Clause.textOf clauses) = .ok clauses := by
  obtain ⟨field, operator, value, joined⟩ := writable
  have whole : (clauses.map WrittenTerm.ofClause).flatMap WrittenTerm.chars ++ [] =
      (Clause.textOf clauses).toList := by
    rw [List.append_nil, List.flatMap_map, Clause.toList_textOf]
    simp only [WrittenTerm.chars_ofClause]
  have wellFormed : ∀ term ∈ clauses.map WrittenTerm.ofClause, term.WellFormed dialect := by
    intro term member
    obtain ⟨clause, among, rfl⟩ := List.mem_map.mp member
    have blank : ∀ char ∈ ([] : List Char), isBlank char = true := by simp
    exact ⟨blank, field clause among, blank, operator clause among, blank, value clause among,
      blank⟩
  have termsJoined : ∀ term ∈ (clauses.map WrittenTerm.ofClause).dropLast,
      term.clause.combinator.isSome = true := by
    intro term member
    rw [← List.map_dropLast] at member
    obtain ⟨clause, among, rfl⟩ := List.mem_map.mp member
    exact joined clause among
  have same : (clauses.map WrittenTerm.ofClause).map WrittenTerm.clause = clauses := by
    rw [List.map_map]
    exact List.map_id clauses
  have accepted := parse_of_division
    ⟨clauses.map WrittenTerm.ofClause, [], whole, wellFormed, termsJoined, by simp⟩
  rwa [Division.clauses, same] at accepted

theorem exists_division_of_parse {filter : String}
    (accepted : Clause.parse dialect filter = .ok clauses) :
    ∃ division : Division dialect filter.toList, division.clauses = clauses := by
  obtain ⟨clean, readable, read⟩ := Clause.parse_eq_ok_iff_lexemes.mp accepted
  exact exists_division clean readable read

/-- Clauses are read back from their text exactly if a filter can state them. The clauses of a
filter can be, and their text is the filter without its white space. -/
theorem parse_textOf_eq_ok_iff_writable (dialect : Dialect) :
    (∀ clauses, Clause.parse dialect (Clause.textOf clauses) = .ok clauses ↔
      Clause.Writable dialect clauses) ∧
    ∀ filter clauses, Clause.parse dialect filter = .ok clauses →
      (Clause.textOf clauses).toList = withoutBlanks filter.toList ∧
      Clause.parse dialect (Clause.textOf clauses) = .ok clauses := by
  constructor
  · intro clauses
    constructor
    · intro accepted
      obtain ⟨division, same⟩ := exists_division_of_parse accepted
      rw [← same]
      exact division.writable
    · exact parse_textOf_of_writable
  · intro filter clauses accepted
    obtain ⟨division, rfl⟩ := exists_division_of_parse accepted
    exact ⟨division.withoutBlanks_eq.symm, parse_textOf_of_writable division.writable⟩

theorem parse_textOf_spaced :
    Clause.parse .postgres " name == bob ;\tage>30" =
        .ok [⟨"name", .equal, "bob", some .and⟩, ⟨"age", .greater, "30", none⟩] ∧
      "name==bob;age>30".toList = withoutBlanks " name == bob ;\tage>30".toList ∧
      Clause.parse .postgres "name==bob;age>30" =
        .ok [⟨"name", .equal, "bob", some .and⟩, ⟨"age", .greater, "30", none⟩] := by
  have spaced : Clause.parse .postgres " name == bob ;\tage>30" =
      .ok [⟨"name", .equal, "bob", some .and⟩, ⟨"age", .greater, "30", none⟩] := by rfl
  exact ⟨spaced, (parse_textOf_eq_ok_iff_writable .postgres).2 _ _ spaced⟩

end Stating

end ResourceFilter
