import ResourceFilter.Proofs.Clause.Viable

/-!
What the error of a refused filter says about the filter. Everything before the place that the
error points at could have been completed to a filter, and nothing that goes on as the filter does
there can.
-/

namespace ResourceFilter

def IsForeign (char : Char) : Prop :=
  isBlank char = false ∧ char ≠ ',' ∧ char ≠ ';' ∧ isWordChar char = false ∧
    isSymbolChar char = false

/-- What an error says about the filter that it refuses. -/
inductive PointsAtOffence (dialect : Dialect) (filter : String) : FilterError → Prop
  /-- The first foreign character is reported, whatever stands before it. -/
  | foreign {before after : String} {char : Char} :
      filter = before ++ String.singleton char ++ after → IsForeign char →
      (∀ earlier ∈ before.toList, ¬IsForeign earlier) →
      PointsAtOffence dialect filter
        (.malformed before.utf8ByteSize "a field, operator, value or combinator"
          ("'" ++ String.singleton char ++ "'"))
  | ended {expected : String} :
      (∀ char ∈ filter.toList, ¬IsForeign char) → Expects dialect filter expected →
      PointsAtOffence dialect filter (.malformed filter.utf8ByteSize expected "end of input")
  /-- Nothing that goes on with the reported token is a filter. -/
  | misplaced {before after expected : String} {token : Token} :
      (∀ char ∈ filter.toList, ¬IsForeign char) → filter = before ++ token.lexeme.text ++ after →
      token ∈ Token.scan filter.toList → token.position = before.utf8ByteSize →
      Expects dialect before expected → ¬Viable dialect (before ++ token.lexeme.text) →
      PointsAtOffence dialect filter
        (.malformed before.utf8ByteSize expected ("'" ++ token.lexeme.text ++ "'"))
  /-- The reported symbol is a whole run of symbol characters where an operator belongs, and
  nothing that goes on with this run is a filter. -/
  | unregistered {before symbol after : String} :
      (∀ char ∈ filter.toList, ¬IsForeign char) → filter = before ++ symbol ++ after →
      symbol ≠ "" → (∀ char ∈ symbol.toList, isSymbolChar char = true) →
      (∀ last ∈ before.toList.getLast?, isSymbolChar last = false) →
      (∀ first ∈ after.toList.head?, isSymbolChar first = false) →
      Expects dialect before "an operator" → ¬Awaited dialect "an operator" symbol →
      (∀ more clauses, (∀ first ∈ more.toList.head?, isSymbolChar first = false) →
        Clause.parse dialect (before ++ symbol ++ more) ≠ .ok clauses) →
      PointsAtOffence dialect filter (.unsupportedOperator symbol)

theorem isForeign_iff {char : Char} : IsForeign char ↔ CharClass.of char = .stray := by
  rw [IsForeign, CharClass.of_eq_stray_iff, ofChar?_eq_none_iff]
  simp only [ne_eq, ← Char.toNat_inj, Char.reduceToNat]
  tauto

theorem noStray_iff {text : List Char} : NoStray text ↔ ∀ char ∈ text, ¬IsForeign char := by
  simp only [NoStray, isForeign_iff, ne_eq]

/-- Holds if a token could be read as the second lexeme, had it not ended with the first one. -/
def Lexeme.IsStartOf : Lexeme → Lexeme → Prop
  | word text, word longer | symbol text, symbol longer => text.toList <+: longer.toList
  | combinator which, combinator other => which = other
  | _, _ => False

theorem Lexeme.IsStartOf.runClass_eq {lexeme longer : Lexeme} (starts : lexeme.IsStartOf longer) :
    longer.runClass = lexeme.runClass := by
  cases lexeme <;> cases longer <;> first | rfl | exact starts.elim

theorem Piece.lexeme?_of_prefix {piece longer : Piece} {lexeme : Lexeme}
    (read : piece.lexeme? = some lexeme) (sameClass : longer.charClass = piece.charClass)
    (within : piece.chars <+: longer.chars) :
    ∃ other, longer.lexeme? = some other ∧ lexeme.IsStartOf other := by
  cases piece <;> cases longer <;>
    simp_all only [charClass, chars, lexeme?, reduceCtorEq, Option.some.injEq,
      CharClass.combinator.injEq] <;> subst read <;> simp [Lexeme.IsStartOf, within]

namespace TermStage

theorem next?_eq_none {dialect : Dialect} {stage : TermStage} {lexeme : Lexeme}
    (barred : ∀ next complete, ¬Steps dialect stage lexeme next complete) :
    stage.next? dialect lexeme = none := by
  cases stepped : stage.next? dialect lexeme with
  | none => rfl
  | some result => exact absurd (next?_eq_some_iff.mp stepped) (barred _ _)

theorem next?_eq_none_of_start {dialect : Dialect} {word : String} {longer : Lexeme}
    (hyphenated : isFieldWord word = false) (starts : (Lexeme.word word).IsStartOf longer) :
    start.next? dialect longer = none := by
  apply next?_eq_none
  intro next complete steps
  cases steps with
  | field longerIsField =>
      simp only [isFieldWord, Bool.not_eq_true', Bool.not_eq_false', List.contains_eq_mem,
        decide_eq_false_iff_not, decide_eq_true_eq] at hyphenated longerIsField
      exact longerIsField (starts.subset hyphenated)

theorem step_eq_misplaced {dialect : Dialect} {stage : TermStage} {token : Token}
    (otherKind : token.lexeme.runClass ≠ stage.awaitedClass) :
    stage.step dialect token = .error (token.misplaced stage) := by
  obtain ⟨position, lexeme⟩ := token
  cases stage <;> cases lexeme <;> first | rfl | exact absurd rfl otherKind

/-- A token that may not stand where it stands could not be lengthened to one that may, unless it is
a symbol where an operator belongs. -/
theorem step_eq_error {dialect : Dialect} {stage : TermStage} {token : Token} {error : FilterError}
    (failed : stage.step dialect token = .error error) :
    (error = token.misplaced stage ∧
      ∀ longer, token.lexeme.IsStartOf longer → stage.next? dialect longer = none) ∨
    ∃ field symbol, stage = afterField field ∧ token.lexeme = .symbol symbol ∧
      dialect.operator? symbol = none ∧ error = .unsupportedOperator symbol := by
  by_cases sameKind : token.lexeme.runClass = stage.awaitedClass
  · obtain ⟨position, lexeme⟩ := token
    cases stage with
    | start =>
        cases lexeme with
        | symbol | combinator => cases sameKind
        | word word =>
            by_cases isField : isFieldWord word = true
            · simp [step, isField] at failed
            · simp only [step, isField, Bool.false_eq_true, if_false, Except.error.injEq] at failed
              rw [Bool.not_eq_true] at isField
              exact .inl ⟨failed.symm, fun longer => next?_eq_none_of_start isField⟩
    | afterField field =>
        cases lexeme with
        | word | combinator => cases sameKind
        | symbol symbol =>
            cases known : dialect.operator? symbol with
            | some operator => simp [step, known] at failed
            | none =>
                simp only [step, known, Except.error.injEq] at failed
                exact .inr ⟨field, symbol, rfl, rfl, known, failed.symm⟩
    | afterOperator field operator =>
        cases lexeme with
        | word word => cases failed
        | symbol | combinator => cases sameKind
    | afterValue field operator value =>
        cases lexeme with
        | combinator which => cases failed
        | word | symbol => cases sameKind
  -- Lengthening a token does not change its kind.
  · rw [step_eq_misplaced sameKind] at failed
    refine .inl ⟨(Except.error.inj failed).symm, fun longer starts => next?_eq_none ?_⟩
    intro next complete steps
    exact sameKind (starts.runClass_eq.symm.trans steps.runClass_eq)

end TermStage

section Refusing

variable {dialect : Dialect} {filter : String} {middle : TermStage} {clauses : List Clause}
  {before after : List Piece} {piece : Piece}

theorem lexemes_of_longer {lexeme : Lexeme}
    (divided : Piece.cut filter.toList = before ++ piece :: after)
    (read : piece.lexeme? = some lexeme) (more : List Char) :
    ∃ longer later, lexeme.IsStartOf longer ∧
      lexemes (before.flatMap Piece.chars ++ (piece.chars ++ more)) =
        lexemes (before.flatMap Piece.chars) ++ longer :: later := by
  have valid := (Piece.canonical_cut filter.toList).valid piece (by simp [divided])
  obtain ⟨longer, rest, whole, sameClass, within⟩ := Piece.cut_chars_append valid more
  obtain ⟨other, readLonger, starts⟩ := Piece.lexeme?_of_prefix read sameClass within
  refine ⟨other, rest.filterMap Piece.lexeme?, starts, ?_⟩
  rw [lexemes_append]
  · rw [lexemes, lexemes, whole, List.filterMap_cons, readLonger]
  · intro last isLast first isFirst
    have head := Piece.head?_cut (piece.chars ++ more)
    rw [whole, isFirst] at head
    simp only [List.head?_cons, Option.map_some, Option.some.injEq] at head
    rw [← head, sameClass]
    exact (Piece.apart_of_cut divided).1 last isLast

theorem lexemes_of_whole {lexeme : Lexeme} {more : List Char}
    (divided : Piece.cut filter.toList = before ++ piece :: after)
    (read : piece.lexeme? = some lexeme)
    (ends : ∀ first ∈ more.head?, piece.charClass.Apart (CharClass.of first)) :
    lexemes (before.flatMap Piece.chars ++ (piece.chars ++ more)) =
      lexemes (before.flatMap Piece.chars) ++ lexeme :: lexemes more := by
  have valid := (Piece.canonical_cut filter.toList).valid piece (by simp [divided])
  rw [lexemes_append, lexemes_chars_append piece valid ends, read]
  · rfl
  · intro last isLast first isFirst
    rw [List.head?_append_of_ne_nil _ valid.nonempty] at isFirst
    rw [valid.uniform first (List.mem_of_head? isFirst)]
    exact (Piece.apart_of_cut divided).1 last isLast

theorem eq_append_of_cut (divided : Piece.cut filter.toList = before ++ piece :: after) :
    filter = String.ofList (before.flatMap Piece.chars) ++ String.ofList piece.chars ++
      String.ofList (after.flatMap Piece.chars) := by
  have whole := (Piece.cut_eq_append divided).2.2
  rw [List.flatMap_cons] at whole
  rw [← String.ofList_append, ← String.ofList_append, List.append_assoc, ← whole,
    String.ofList_toList]

theorem expects_of_cut (table : dialect.table ≠ []) (clean : NoStray filter.toList)
    (divided : Piece.cut filter.toList = before ++ piece :: after)
    (ran : TermStage.start.run? dialect (lexemes (before.flatMap Piece.chars)) =
      some (middle, clauses)) :
    Expects dialect (String.ofList (before.flatMap Piece.chars)) middle.expected := by
  have cleanBefore : NoStray (String.ofList (before.flatMap Piece.chars)).toList := by
    rw [eq_append_of_cut divided, String.toList_append, String.toList_append, noStray_append,
      noStray_append] at clean
    exact clean.1.1
  exact expects_of_run? table cleanBefore (by rwa [String.toList_ofList])

theorem pointsAtOffence_of_misplaced {token : Token} (table : dialect.table ≠ [])
    (clean : NoStray filter.toList) (member : token ∈ Token.scan filter.toList)
    (divided : Piece.cut filter.toList = before ++ piece :: after)
    (position : token.position = byteLength (before.flatMap Piece.chars))
    (read : piece.lexeme? = some token.lexeme)
    (ran : TermStage.start.run? dialect (lexemes (before.flatMap Piece.chars)) =
      some (middle, clauses))
    (stuck : ∀ longer, token.lexeme.IsStartOf longer → middle.next? dialect longer = none) :
    PointsAtOffence dialect filter (token.misplaced middle) := by
  have sameText : token.lexeme.text = String.ofList piece.chars := by
    rw [← Piece.text_of_lexeme? read, String.ofList_toList]
  have whole := eq_append_of_cut divided
  rw [← utf8ByteSize_ofList] at position
  rw [← sameText] at whole
  rw [Token.misplaced, position]
  refine .misplaced (noStray_iff.mp clean) whole member position
    (expects_of_cut table clean divided ran) ?_
  rintro ⟨more, found, accepted⟩
  obtain ⟨longer, later, starts, split⟩ := lexemes_of_longer divided read more.toList
  have lexed : lexemes (String.ofList (before.flatMap Piece.chars) ++ token.lexeme.text ++
      more).toList = lexemes (before.flatMap Piece.chars) ++ longer :: later := by
    rw [← split, sameText]
    simp
  exact parse_ne_ok_of_stuck ran (stuck longer starts) lexed accepted

theorem pointsAtOffence_of_unregistered {field symbol : String} (table : dialect.table ≠ [])
    (clean : NoStray filter.toList)
    (divided : Piece.cut filter.toList = before ++ piece :: after)
    (read : piece.lexeme? = some (.symbol symbol))
    (ran : TermStage.start.run? dialect (lexemes (before.flatMap Piece.chars)) =
      some (.afterField field, clauses))
    (unknown : dialect.operator? symbol = none) :
    PointsAtOffence dialect filter (.unsupportedOperator symbol) := by
  have valid := (Piece.canonical_cut filter.toList).valid piece (by simp [divided])
  have symbolic : piece.charClass = .symbol := by
    cases piece <;> simp [Piece.lexeme?] at read
    rfl
  have sameText : String.ofList piece.chars = symbol := by
    rw [← Piece.text_of_lexeme? read, String.ofList_toList]
    rfl
  have sameChars : piece.chars = symbol.toList := by
    rw [← sameText, String.toList_ofList]
  have symbols : ∀ char ∈ symbol.toList, isSymbolChar char = true := by
    intro char member
    rw [← sameChars] at member
    exact CharClass.of_eq_symbol_iff.mp ((valid.uniform char member).trans symbolic)
  have notSymbol {char : Char} (different : CharClass.of char ≠ .symbol) :
      isSymbolChar char = false := by
    rw [ne_eq, CharClass.of_eq_symbol_iff, Bool.not_eq_true] at different
    exact different
  obtain ⟨apartBefore, apartAfter⟩ := Piece.apart_of_cut divided
  rw [symbolic] at apartBefore apartAfter
  have whole := eq_append_of_cut divided
  rw [sameText] at whole
  refine .unregistered (noStray_iff.mp clean) whole ?_ symbols ?_ ?_
    (expects_of_cut table clean divided ran) ?_ ?_
  · rintro rfl
    exact valid.nonempty sameChars
  · intro last isLast
    rw [String.toList_ofList] at isLast
    exact notSymbol fun same => apartBefore last isLast same (by simp [same, CharClass.IsRun])
  · intro first isFirst
    rw [String.toList_ofList] at isFirst
    exact notSymbol fun same => apartAfter first isFirst same.symm (by simp [CharClass.IsRun])
  · simp only [Awaited, String.reduceEq, false_and, true_and, or_false, false_or]
    rintro ⟨⟨operator, written⟩, member, rfl⟩
    have supported := (dialect.supports_iff_mem_table operator).mpr ⟨written, member⟩
    rw [Dialect.operator?_eq_some_iff.mpr ⟨rfl, supported⟩] at unknown
    cases unknown
  · intro more found ends
    have stuck : TermStage.next? dialect (.afterField field) (.symbol symbol) = none := by
      simp [TermStage.next?, TermStage.step, unknown, Except.toOption]
    have separate : ∀ first ∈ more.toList.head?, piece.charClass.Apart (CharClass.of first) := by
      intro first isFirst same
      have symbolFirst := CharClass.of_eq_symbol_iff.mp (same.symm.trans symbolic)
      rw [ends first isFirst] at symbolFirst
      cases symbolFirst
    have lexed : lexemes (String.ofList (before.flatMap Piece.chars) ++ symbol ++ more).toList =
        lexemes (before.flatMap Piece.chars) ++ .symbol symbol :: lexemes more.toList := by
      rw [← lexemes_of_whole divided read separate, sameChars]
      simp
    exact parse_ne_ok_of_stuck ran stuck lexed

end Refusing

/-- The error of a refused filter points at the leftmost place where the filter went wrong. -/
theorem parse_eq_error_pointsAtOffence (dialect : Dialect) (filter : String) (error : FilterError)
    (table : dialect.table ≠ []) (refused : Clause.parse dialect filter = .error error) :
    PointsAtOffence dialect filter error := by
  rw [Clause.parse] at refused
  cases strays : Stray.scan filter.toList with
  | cons stray later =>
      rw [strays] at refused
      cases refused
      obtain ⟨before, after, split, clean, position, isStray⟩ := Stray.scan_eq_cons strays
      rw [Clause.strayError, position, ← utf8ByteSize_ofList]
      have whole : filter =
          String.ofList before ++ String.singleton stray.char ++ String.ofList after := by
        rw [← String.toList_inj, split]
        simp
      refine .foreign whole (isForeign_iff.mpr isStray) ?_
      rw [String.toList_ofList]
      exact noStray_iff.mp clean
  | nil =>
      have clean := (Stray.scan_eq_nil_iff _).mp strays
      rw [strays] at refused
      rcases Clause.ofTokens?_eq_error_iff.mp refused with
        ⟨last, clauses, ran, finished⟩ | ⟨done, token, later, middle, clauses, split, ran, failed⟩
      · rw [Token.map_lexeme_scan] at ran
        have expects := expects_of_run? table clean ran
        have length : byteLength filter.toList = filter.utf8ByteSize := by
          rw [← utf8ByteSize_ofList, String.ofList_toList]
        rw [length] at finished
        cases last with
        | start | afterValue => simp [TermStage.finish] at finished
        | afterField | afterOperator =>
            cases finished
            exact .ended (noStray_iff.mp clean) expects
      · obtain ⟨before, piece, after, divided, position, read, lexed⟩ := Token.scan_split split
        rw [← lexed] at ran
        rcases TermStage.step_eq_error failed with
          ⟨rfl, stuck⟩ | ⟨field, symbol, rfl, isSymbol, unknown, rfl⟩
        · have member : token ∈ Token.scan filter.toList := by simp [split]
          exact pointsAtOffence_of_misplaced table clean member divided position read ran stuck
        · rw [isSymbol] at read
          exact pointsAtOffence_of_unregistered table clean divided read ran unknown

theorem pointsAtOffence_second_value :
    Dialect.postgres.table ≠ [] ∧
      Clause.parse .postgres "a == b c" = .error (.malformed 7 "',' or ';'" "'c'") ∧
      PointsAtOffence .postgres "a == b c" (.malformed 7 "',' or ';'" "'c'") :=
  ⟨by decide, by rfl, parse_eq_error_pointsAtOffence _ _ _ (by decide) (by rfl)⟩

end ResourceFilter
