import ResourceFilter.Proofs.Clause.Grammar

/-!
The texts that filters start with. A text that the lexemes of a filter can be read from up to its
end can be completed to a filter, by any of the tokens that may stand next.
-/

namespace ResourceFilter

def Viable (dialect : Dialect) (text : String) : Prop :=
  ∃ more clauses, Clause.parse dialect (text ++ more) = .ok clauses

def Awaited (dialect : Dialect) (expected token : String) : Prop :=
  (expected = "a field name" ∧ IsFieldText token) ∨
  (expected = "an operator" ∧ ∃ entry ∈ dialect.table, token = entry.1.symbol) ∨
  (expected = "a value" ∧ IsValueText token) ∨
  (expected = "',' or ';'" ∧ (token = "," ∨ token = ";"))

/-- Holds if a text could be completed to a filter, and still can behind each of the tokens that an
error names; there are such tokens. -/
structure Expects (dialect : Dialect) (text expected : String) : Prop where
  viable : Viable dialect text
  named : ∃ token, Awaited dialect expected token
  goesOn : ∀ token, Awaited dialect expected token → Viable dialect (text ++ token)

def Lexeme.runClass : Lexeme → Option CharClass
  | word _ => some .word
  | symbol _ => some .symbol
  | combinator _ => none

theorem Piece.runClass_of_lexeme? {piece : Piece} {lexeme : Lexeme}
    (read : piece.lexeme? = some lexeme) (isRun : piece.charClass.IsRun) :
    lexeme.runClass = some piece.charClass := by
  cases piece <;> cases read
  · rfl
  · rfl
  · simp [charClass, CharClass.IsRun] at isRun

namespace TermStage

def awaitedClass : TermStage → Option CharClass
  | start | afterOperator _ _ => some .word
  | afterField _ => some .symbol
  | afterValue _ _ _ => none

theorem Steps.runClass_eq {dialect : Dialect} {stage next : TermStage} {lexeme : Lexeme}
    {complete : Option Clause} (steps : Steps dialect stage lexeme next complete) :
    lexeme.runClass = stage.awaitedClass := by
  cases steps <;> rfl

theorem Steps.awaitedClass_ne {dialect : Dialect} {stage next : TermStage} {lexeme : Lexeme}
    {complete : Option Clause} (steps : Steps dialect stage lexeme next complete) :
    next.awaitedClass = none ∨ next.awaitedClass ≠ lexeme.runClass := by
  cases steps <;> simp [awaitedClass, Lexeme.runClass]

theorem isRun_of_awaitedClass {stage : TermStage} {charClass : CharClass}
    (awaited : stage.awaitedClass = some charClass) : charClass = .word ∨ charClass = .symbol := by
  cases stage <;> simp_all [awaitedClass]

end TermStage

section Running

variable {dialect : Dialect} {text : String} {middle : TermStage} {clauses : List Clause}

theorem viable_of_append {more : String} (viable : Viable dialect (text ++ more)) :
    Viable dialect text := by
  obtain ⟨rest, clauses, accepted⟩ := viable
  rw [String.append_assoc] at accepted
  exact ⟨more ++ rest, clauses, accepted⟩

theorem run?_of_parse (accepted : Clause.parse dialect text = .ok clauses) :
    ∃ last complete,
      TermStage.start.run? dialect (lexemes text.toList) = some (last, complete) := by
  obtain ⟨clean, readable, same⟩ := Clause.parse_eq_ok_iff_lexemes.mp accepted
  rw [← Token.map_lexeme_scan] at same ⊢
  have reads : Clause.ofTokens? dialect 0 .start (Token.scan text.toList) = .ok clauses :=
    Clause.ofTokens?_of_readable readable same
  rcases TermStage.run?_or_stuck dialect .start (Token.scan text.toList) with
    reached | ⟨done, token, later, middle, complete, error, split, ran, failed⟩
  · exact reached
  · rw [split, Clause.ofTokens?_stuck ran failed] at reads
    contradiction

theorem parse_of_run? (clean : NoStray text.toList)
    (ran : TermStage.start.run? dialect (lexemes text.toList) = some (middle, clauses)) :
    Clause.parse dialect text =
      (middle.finish (byteLength text.toList)).map (clauses ++ ·) := by
  rw [Clause.parse, (Stray.scan_eq_nil_iff _).mpr clean]
  rw [← Token.map_lexeme_scan] at ran
  exact Clause.ofTokens?_end ran

theorem apart_of_run?
    (ran : TermStage.start.run? dialect (lexemes text.toList) = some (middle, clauses)) :
    ∀ last ∈ text.toList.getLast?, middle.awaitedClass ≠ some (CharClass.of last) := by
  intro last isLast awaited
  have ends := Piece.getLast?_cut text.toList
  rw [isLast] at ends
  obtain ⟨piece, isPiece, sameClass⟩ := Option.map_eq_some_iff.mp ends
  obtain ⟨before, split⟩ := List.getLast?_eq_some_iff.mp isPiece
  rw [lexemes, split, List.filterMap_append] at ran
  obtain ⟨earlier, done, rest, _, ranPiece, _⟩ := TermStage.run?_append.mp ran
  rw [← sameClass] at awaited
  have isRun := TermStage.isRun_of_awaitedClass awaited
  cases read : piece.lexeme? with
  | none => cases piece <;> simp [Piece.lexeme?, Piece.charClass] at read isRun
  | some lexeme =>
      rw [List.filterMap_cons, read] at ranPiece
      obtain ⟨next, complete, later, steps, ranNil, _⟩ := TermStage.run?_cons.mp ranPiece
      simp only [List.filterMap_nil, TermStage.run?, Option.some.injEq, Prod.mk.injEq] at ranNil
      obtain ⟨rfl, _⟩ := ranNil
      -- No step waits for a token of the class that it has just read.
      have sameRun := Piece.runClass_of_lexeme? read (.inr isRun)
      rw [← awaited] at sameRun
      rcases steps.awaitedClass_ne with none | different
      · simp [none] at awaited
      · exact different sameRun.symm

theorem exists_piece_of_awaited {token : String} (awaited : Awaited dialect middle.expected token) :
    ∃ (piece : Piece) (lexeme : Lexeme) (next : TermStage) (complete : Option Clause),
      piece.Valid ∧ piece.chars = token.toList ∧ piece.lexeme? = some lexeme ∧
      TermStage.Steps dialect middle lexeme next complete := by
  cases middle with
  | start =>
      simp only [Awaited, TermStage.expected, true_and, String.reduceEq, false_and,
        or_false] at awaited
      obtain ⟨nonempty, wordChars, isField⟩ := isFieldText_iff.mp awaited
      refine ⟨.word token.toList, _, _, _, ⟨nonempty, ?_⟩, rfl, rfl, .field ?_⟩
      · exact fun char member => CharClass.of_eq_word_iff.mpr (wordChars char member)
      · rwa [String.ofList_toList]
  | afterField field =>
      simp only [Awaited, TermStage.expected, true_and, String.reduceEq, false_and, or_false,
        false_or] at awaited
      obtain ⟨⟨operator, written⟩, member, rfl⟩ := awaited
      have supported := (dialect.supports_iff_mem_table operator).mpr ⟨written, member⟩
      have known : dialect.operator? (String.ofList operator.symbol.toList) = some operator :=
        Dialect.operator?_eq_some_iff.mpr ⟨String.ofList_toList.symm, supported⟩
      refine ⟨.symbol operator.symbol.toList, _, _, _, ⟨operator.symbol_ne_nil, ?_⟩, rfl, rfl,
        .operator known⟩
      intro char among
      exact CharClass.of_eq_symbol_iff.mpr (operator.isSymbolChar_symbol char among)
  | afterOperator field operator =>
      simp only [Awaited, TermStage.expected, true_and, String.reduceEq, false_and, or_false,
        false_or] at awaited
      obtain ⟨nonempty, wordChars⟩ := isValueText_iff.mp awaited
      refine ⟨.word token.toList, _, _, _, ⟨nonempty, ?_⟩, rfl, rfl, .value⟩
      exact fun char member => CharClass.of_eq_word_iff.mpr (wordChars char member)
  | afterValue field operator value =>
      simp only [Awaited, TermStage.expected, true_and, String.reduceEq, false_and,
        false_or] at awaited
      have isCombinator : ∃ which : Combinator, token = String.singleton which.symbol := by
        rcases awaited with rfl | rfl
        · exact ⟨.or, rfl⟩
        · exact ⟨.and, rfl⟩
      obtain ⟨which, rfl⟩ := isCombinator
      refine ⟨.combinator which, _, _, _, ⟨by simp [Piece.chars], ?_⟩, ?_, rfl, .combinator⟩
      · intro char member
        rw [List.mem_singleton.mp member]
        exact CharClass.of_eq_combinator_iff.mpr rfl
      · simp [Piece.chars]

theorem run?_append_awaited {token : String} (clean : NoStray text.toList)
    (ran : TermStage.start.run? dialect (lexemes text.toList) = some (middle, clauses))
    (awaited : Awaited dialect middle.expected token) :
    NoStray (text ++ token).toList ∧ ∃ lexeme next complete,
      TermStage.Steps dialect middle lexeme next complete ∧
      TermStage.start.run? dialect (lexemes (text ++ token).toList) =
        some (next, clauses ++ complete.toList) := by
  obtain ⟨piece, lexeme, next, complete, valid, same, read, steps⟩ :=
    exists_piece_of_awaited awaited
  rw [String.toList_append, ← same, noStray_append]
  refine ⟨⟨clean, ?_⟩, lexeme, next, complete, steps, ?_⟩
  · intro char member
    rw [valid.uniform char member]
    cases piece <;> simp [Piece.charClass, Piece.lexeme?] at read ⊢
  · rw [lexemes_append, lexemes_chars valid, read, Option.toList_some]
    · refine TermStage.run?_append.mpr ⟨_, _, _, ran, ?_, rfl⟩
      exact TermStage.run?_cons.mpr ⟨_, _, _, steps, rfl, by simp⟩
    · intro last isLast first isFirst touching isRun
      rw [valid.uniform first (List.mem_of_head? isFirst)] at touching
      rw [touching] at isRun
      apply apart_of_run? ran last isLast
      rw [touching, ← steps.runClass_eq, Piece.runClass_of_lexeme? read isRun]

theorem exists_awaited (table : dialect.table ≠ []) (stage : TermStage) :
    ∃ token, Awaited dialect stage.expected token := by
  have letter : ∀ char ∈ "x".toList, char.isAlphanum = true := List.forall_mem_singleton.mpr rfl
  cases stage with
  | start => exact ⟨"x", .inl ⟨rfl, by decide, fun char member => .inl (letter char member)⟩⟩
  | afterField =>
      obtain ⟨entry, member⟩ := List.exists_mem_of_ne_nil _ table
      exact ⟨entry.1.symbol, .inr (.inl ⟨rfl, entry, member, rfl⟩)⟩
  | afterOperator =>
      have isValue : IsValueText "x" := ⟨by decide, fun char member => .inl (letter char member)⟩
      exact ⟨"x", .inr (.inr (.inl ⟨rfl, isValue⟩))⟩
  | afterValue => exact ⟨",", .inr (.inr (.inr ⟨rfl, .inl rfl⟩))⟩

theorem viable_of_finish {found : List Clause} (clean : NoStray text.toList)
    (ran : TermStage.start.run? dialect (lexemes text.toList) = some (middle, clauses))
    (finished : middle.finish (byteLength text.toList) = .ok found) : Viable dialect text := by
  refine ⟨"", clauses ++ found, ?_⟩
  rw [String.append_empty, parse_of_run? clean ran, finished]
  rfl

theorem viable_afterOperator {field : String} {operator : Operator} (table : dialect.table ≠ [])
    (clean : NoStray text.toList)
    (ran : TermStage.start.run? dialect (lexemes text.toList) =
      some (.afterOperator field operator, clauses)) : Viable dialect text := by
  obtain ⟨token, awaited⟩ := exists_awaited table (.afterOperator field operator)
  obtain ⟨cleanAll, lexeme, next, complete, steps, ranAll⟩ := run?_append_awaited clean ran awaited
  cases steps
  exact viable_of_append (viable_of_finish cleanAll ranAll rfl)

/-- A text that a run gets to the end of can be completed by what its last stage waits for. -/
theorem viable_of_run? (table : dialect.table ≠ []) (clean : NoStray text.toList)
    (ran : TermStage.start.run? dialect (lexemes text.toList) = some (middle, clauses)) :
    Viable dialect text := by
  cases middle with
  | start => exact viable_of_finish clean ran rfl
  | afterValue => exact viable_of_finish clean ran rfl
  | afterOperator => exact viable_afterOperator table clean ran
  | afterField field =>
      obtain ⟨token, awaited⟩ := exists_awaited table (.afterField field)
      obtain ⟨cleanAll, lexeme, next, complete, steps, ranAll⟩ :=
        run?_append_awaited clean ran awaited
      cases steps
      exact viable_of_append (viable_afterOperator table cleanAll ranAll)

theorem expects_of_run? (table : dialect.table ≠ []) (clean : NoStray text.toList)
    (ran : TermStage.start.run? dialect (lexemes text.toList) = some (middle, clauses)) :
    Expects dialect text middle.expected := by
  refine ⟨viable_of_run? table clean ran, exists_awaited table middle, ?_⟩
  intro token awaited
  obtain ⟨cleanAll, lexeme, next, complete, _, ranAll⟩ := run?_append_awaited clean ran awaited
  exact viable_of_run? table cleanAll ranAll

theorem parse_ne_ok_of_stuck {read later : List Lexeme} {lexeme : Lexeme} {found : List Clause}
    (ran : TermStage.start.run? dialect read = some (middle, clauses))
    (stuck : middle.next? dialect lexeme = none)
    (split : lexemes text.toList = read ++ lexeme :: later) :
    Clause.parse dialect text ≠ .ok found := by
  intro accepted
  obtain ⟨last, complete, whole⟩ := run?_of_parse accepted
  rw [split] at whole
  obtain ⟨other, before, after, ranRead, ranLater, _⟩ := TermStage.run?_append.mp whole
  rw [ran] at ranRead
  cases ranRead
  obtain ⟨next, done, rest, steps, _⟩ := TermStage.run?_cons.mp ranLater
  rw [TermStage.next?_eq_some_iff.mpr steps] at stuck
  contradiction

end Running

end ResourceFilter
