import ResourceFilter.Proofs.Token.Cut

/-!
The lexemes of a text, which are what its tokens are apart from their positions, and the places in
the text that tokens and stray characters stand at.
-/

namespace ResourceFilter

theorem byteLength_append (left right : List Char) :
    byteLength (left ++ right) = byteLength left + byteLength right := by
  induction left with
  | nil => simp [byteLength]
  | cons char rest ih =>
      simp only [List.cons_append, byteLength, ih]
      omega

theorem utf8ByteSize_ofList (text : List Char) :
    (String.ofList text).utf8ByteSize = byteLength text := by
  induction text with
  | nil => rfl
  | cons char rest ih =>
      rw [String.ofList_cons, String.utf8ByteSize_append, ih, String.utf8ByteSize_singleton,
        byteLength]

def NoStray (text : List Char) : Prop :=
  ∀ char ∈ text, CharClass.of char ≠ .stray

theorem noStray_append {left right : List Char} :
    NoStray (left ++ right) ↔ NoStray left ∧ NoStray right := by
  simp only [NoStray, List.mem_append]
  constructor
  · intro clean
    exact ⟨fun char member => clean char (.inl member), fun char member => clean char (.inr member)⟩
  · rintro ⟨cleanLeft, cleanRight⟩ char (member | member)
    · exact cleanLeft char member
    · exact cleanRight char member

theorem noStray_of_blank {gap : List Char} (blank : ∀ char ∈ gap, isBlank char = true) :
    NoStray gap := by
  intro char member
  rw [CharClass.of_eq_blank_iff.mpr (blank char member)]
  simp

theorem noStray_of_words {run : List Char} (words : ∀ char ∈ run, isWordChar char = true) :
    NoStray run := by
  intro char member
  rw [CharClass.of_eq_word_iff.mpr (words char member)]
  simp

namespace Piece

def lexeme? : Piece → Option Lexeme
  | word run => some (.word (String.ofList run))
  | symbol run => some (.symbol (String.ofList run))
  | combinator which => some (.combinator which)
  | _ => none

theorem text_of_lexeme? {piece : Piece} {lexeme : Lexeme} (read : piece.lexeme? = some lexeme) :
    lexeme.text.toList = piece.chars := by
  cases piece <;> simp only [lexeme?, Option.some.injEq, reduceCtorEq] at read <;> subst read <;>
    simp [Lexeme.text, chars]

theorem filterMap_locate_split {Item : Type} (pick : Nat × Piece → Option Item) (position : Nat)
    (pieces : List Piece) (done : List Item) (item : Item) (later : List Item)
    (picked : (locate position pieces).filterMap pick = done ++ item :: later) :
    ∃ before piece after, pieces = before ++ piece :: after ∧
      pick (position + byteLength (before.flatMap chars), piece) = some item ∧
      (locate position before).filterMap pick = done := by
  induction pieces generalizing position done with
  | nil => simp [locate] at picked
  | cons first rest ih =>
      rw [locate, List.filterMap_cons] at picked
      cases here : pick (position, first) with
      | none =>
          simp only [here] at picked
          obtain ⟨before, piece, after, split, found, passed⟩ := ih _ _ picked
          refine ⟨first :: before, piece, after, by simp [split], ?_, ?_⟩
          · rw [List.flatMap_cons, byteLength_append, ← Nat.add_assoc]
            exact found
          · simp [locate, here, passed]
      | some kept =>
          simp only [here] at picked
          cases done with
          | nil =>
              obtain ⟨rfl, _⟩ := List.cons.inj picked
              exact ⟨[], first, rest, rfl, by simpa [byteLength] using here, rfl⟩
          | cons other more =>
              obtain ⟨rfl, moved⟩ := List.cons.inj picked
              obtain ⟨before, piece, after, split, found, passed⟩ := ih _ _ moved
              refine ⟨first :: before, piece, after, by simp [split], ?_, ?_⟩
              · rw [List.flatMap_cons, byteLength_append, ← Nat.add_assoc]
                exact found
              · simp [locate, here, passed]

theorem map_snd_locate (position : Nat) (pieces : List Piece) :
    (locate position pieces).map Prod.snd = pieces := by
  induction pieces generalizing position with
  | nil => rfl
  | cons first rest ih => rw [locate, List.map_cons, ih]

theorem lexeme_of_ofPiece? (place : Nat × Piece) :
    (Token.ofPiece? place).map Token.lexeme = place.2.lexeme? := by
  obtain ⟨position, piece⟩ := place
  cases piece <;> rfl

theorem map_lexeme_locate (position : Nat) (pieces : List Piece) :
    ((locate position pieces).filterMap Token.ofPiece?).map Token.lexeme =
      pieces.filterMap lexeme? := by
  rw [List.map_filterMap]
  simp only [lexeme_of_ofPiece?]
  rw [← map_snd_locate position pieces, List.filterMap_map, map_snd_locate]
  rfl

end Piece

def lexemes (text : List Char) : List Lexeme :=
  (Piece.cut text).filterMap Piece.lexeme?

namespace Token

theorem map_lexeme_scan (text : List Char) : (scan text).map lexeme = lexemes text :=
  Piece.map_lexeme_locate 0 (Piece.cut text)

/-- A token is cut out of the text behind the tokens before it. -/
theorem scan_split {text : List Char} {done later : List Token} {token : Token}
    (scanned : scan text = done ++ token :: later) :
    ∃ before piece after, Piece.cut text = before ++ piece :: after ∧
      token.position = byteLength (before.flatMap Piece.chars) ∧
      piece.lexeme? = some token.lexeme ∧
      lexemes (before.flatMap Piece.chars) = done.map lexeme := by
  obtain ⟨before, piece, after, split, found, passed⟩ :=
    Piece.filterMap_locate_split ofPiece? 0 _ _ _ _ scanned
  rw [Nat.zero_add] at found
  refine ⟨before, piece, after, split, ?_, ?_, ?_⟩
  · cases piece <;> simp only [ofPiece?, Option.some.injEq, reduceCtorEq] at found <;>
      exact (congrArg position found).symm
  · rw [← Piece.lexeme_of_ofPiece? (byteLength (before.flatMap Piece.chars), piece), found]
    rfl
  · rw [lexemes, (Piece.cut_eq_append split).1, ← Piece.map_lexeme_locate 0, passed]

end Token

namespace Stray

theorem ofPiece?_eq_some {place : Nat × Piece} {found : Stray}
    (picked : ofPiece? place = some found) :
    place = (found.position, .stray found.char) := by
  obtain ⟨position, piece⟩ := place
  cases piece <;> simp only [ofPiece?, Option.some.injEq, reduceCtorEq] at picked
  subst picked
  rfl

theorem filterMap_locate_eq_nil_iff (position : Nat) {pieces : List Piece}
    (valid : ∀ piece ∈ pieces, piece.Valid) :
    (Piece.locate position pieces).filterMap ofPiece? = [] ↔
      NoStray (pieces.flatMap Piece.chars) := by
  induction pieces generalizing position with
  | nil => simp [Piece.locate, NoStray]
  | cons first rest ih =>
      have firstValid := valid first (by simp)
      have restValid : ∀ piece ∈ rest, piece.Valid :=
        fun piece member => valid piece (by simp [member])
      rw [Piece.locate, List.filterMap_cons, List.flatMap_cons, noStray_append]
      cases here : ofPiece? (position, first) with
      | some found =>
          have isStray : first = .stray found.char := (Prod.mk.inj (ofPiece?_eq_some here)).2
          simp only [List.cons_ne_nil, false_iff]
          rintro ⟨clean, _⟩
          subst isStray
          exact clean found.char (by simp [Piece.chars])
            (firstValid.uniform _ (by simp [Piece.chars]))
      | none =>
          simp only [ih _ restValid, iff_and_self]
          intro _ char member isStray
          have sameClass := firstValid.uniform char member
          rw [isStray] at sameClass
          cases first <;> simp [Piece.charClass, ofPiece?] at sameClass here

theorem scan_eq_nil_iff (text : List Char) : scan text = [] ↔ NoStray text := by
  rw [scan, filterMap_locate_eq_nil_iff 0 (Piece.canonical_cut text).valid, Piece.chars_cut]

/-- The first stray character stands behind text that has none. -/
theorem scan_eq_cons {text : List Char} {first : Stray} {later : List Stray}
    (scanned : scan text = first :: later) :
    ∃ before after, text = before ++ first.char :: after ∧ NoStray before ∧
      first.position = byteLength before ∧ CharClass.of first.char = .stray := by
  obtain ⟨before, piece, after, split, found, passed⟩ :=
    Piece.filterMap_locate_split ofPiece? 0 _ [] _ _ scanned
  have valid := (Piece.canonical_cut text).valid
  rw [split] at valid
  obtain ⟨samePosition, rfl⟩ := Prod.mk.inj (ofPiece?_eq_some found)
  refine ⟨before.flatMap Piece.chars, after.flatMap Piece.chars, ?_, ?_, ?_, ?_⟩
  · rw [← Piece.chars_cut text, split, List.flatMap_append, List.flatMap_cons]
    rfl
  · have passedValid : ∀ piece ∈ before, piece.Valid :=
      fun piece member => valid piece (by simp [member])
    exact (filterMap_locate_eq_nil_iff 0 passedValid).mp passed
  · rw [← samePosition, Nat.zero_add]
  · exact (valid (.stray first.char) (by simp)).uniform _ (by simp [Piece.chars])

end Stray

section Reading

variable {rest : List Char}

theorem lexemes_append {left right : List Char}
    (apart : ∀ last ∈ left.getLast?, ∀ first ∈ right.head?,
      (CharClass.of last).Apart (CharClass.of first)) :
    lexemes (left ++ right) = lexemes left ++ lexemes right := by
  rw [lexemes, Piece.cut_append left right apart, List.filterMap_append]
  rfl

theorem head?_blank_append {gap : List Char} {charClass : CharClass}
    (blank : ∀ char ∈ gap, isBlank char = true) (different : charClass ≠ .blank)
    (apart : ∀ first ∈ rest.head?, CharClass.of first ≠ charClass) :
    ∀ first ∈ (gap ++ rest).head?, CharClass.of first ≠ charClass := by
  cases gap with
  | nil => exact apart
  | cons char more =>
      intro first isFirst
      cases isFirst
      rw [CharClass.of_eq_blank_iff.mpr (blank char (by simp))]
      exact different.symm

theorem head?_run_append {run : List Char} {charClass other : CharClass} (nonempty : run ≠ [])
    (uniform : ∀ char ∈ run, CharClass.of char = charClass) (different : charClass ≠ other) :
    ∀ first ∈ (run ++ rest).head?, CharClass.of first ≠ other := by
  cases run with
  | nil => contradiction
  | cons char more =>
      intro first isFirst
      cases isFirst
      rw [uniform char (by simp)]
      exact different

theorem lexemes_blank_cons {char : Char} (blank : isBlank char = true) :
    lexemes (char :: rest) = lexemes rest := by
  have unread : ∀ piece : Piece, piece.charClass = .blank → piece.lexeme? = none := by
    intro piece sameClass
    cases piece <;> simp [Piece.charClass, Piece.lexeme?] at sameClass ⊢
  have classified := CharClass.of_eq_blank_iff.mpr blank
  rw [lexemes, lexemes, Piece.cut]
  rcases Piece.attach_cases char (Piece.cut rest) with
    ⟨first, longer, more, split, attached, same, _, kept, _⟩ | ⟨single, attached, same, _⟩
  · rw [attached, split, List.filterMap_cons, List.filterMap_cons,
      unread first (same.trans classified),
      unread longer (kept.trans (same.trans classified))]
  · rw [attached, List.filterMap_cons, unread single (same.trans classified)]

theorem lexemes_blank_append {gap : List Char} (blank : ∀ char ∈ gap, isBlank char = true) :
    lexemes (gap ++ rest) = lexemes rest := by
  induction gap with
  | nil => rfl
  | cons char more ih =>
      rw [List.cons_append, lexemes_blank_cons (blank char (by simp)),
        ih fun other member => blank other (by simp [member])]

theorem lexemes_chars {piece : Piece} (valid : piece.Valid) :
    lexemes piece.chars = piece.lexeme?.toList := by
  rw [lexemes, Piece.cut_chars valid]
  cases read : piece.lexeme? <;> simp [read]

theorem lexemes_chars_append (piece : Piece) (valid : piece.Valid)
    (apart : ∀ first ∈ rest.head?, piece.charClass.Apart (CharClass.of first)) :
    lexemes (piece.chars ++ rest) = piece.lexeme?.toList ++ lexemes rest := by
  rw [lexemes_append, lexemes_chars valid]
  intro last isLast first isFirst
  rw [valid.uniform last (List.mem_of_getLast? isLast)]
  exact apart first isFirst

theorem lexemes_word_append {run : List Char} (nonempty : run ≠ [])
    (words : ∀ char ∈ run, isWordChar char = true)
    (apart : ∀ first ∈ rest.head?, CharClass.of first ≠ .word) :
    lexemes (run ++ rest) = .word (String.ofList run) :: lexemes rest :=
  lexemes_chars_append (.word run)
    ⟨nonempty, fun char member => CharClass.of_eq_word_iff.mpr (words char member)⟩
    fun first isFirst same => absurd same.symm (apart first isFirst)

theorem lexemes_symbol_append {run : List Char} (nonempty : run ≠ [])
    (symbols : ∀ char ∈ run, isSymbolChar char = true)
    (apart : ∀ first ∈ rest.head?, CharClass.of first ≠ .symbol) :
    lexemes (run ++ rest) = .symbol (String.ofList run) :: lexemes rest :=
  lexemes_chars_append (.symbol run)
    ⟨nonempty, fun char member => CharClass.of_eq_symbol_iff.mpr (symbols char member)⟩
    fun first isFirst same => absurd same.symm (apart first isFirst)

theorem lexemes_combinator_cons (which : Combinator) :
    lexemes (which.symbol :: rest) = .combinator which :: lexemes rest := by
  apply lexemes_chars_append (.combinator which)
  · refine ⟨by simp [Piece.chars], ?_⟩
    intro char member
    rw [List.mem_singleton.mp member]
    exact CharClass.of_eq_combinator_iff.mpr rfl
  · intro first _ _ isRun
    simp [Piece.charClass, CharClass.IsRun] at isRun

end Reading

theorem lexemes_eq_nil {text : List Char} (clean : NoStray text) (read : lexemes text = []) :
    ∀ char ∈ text, isBlank char = true := by
  intro char member
  rw [← Piece.chars_cut text] at member
  obtain ⟨piece, among, inside⟩ := List.mem_flatMap.mp member
  have unread := List.filterMap_eq_nil_iff.mp read piece among
  have classified := ((Piece.canonical_cut text).valid piece among).uniform char inside
  have notStray := clean char (by rw [← Piece.chars_cut text]; exact member)
  cases piece with
  | blank => exact CharClass.of_eq_blank_iff.mp classified
  | stray => exact absurd classified notStray
  | word | symbol | combinator => simp [Piece.lexeme?] at unread

/-- In front of the piece that the first lexeme is read from there is only white space. -/
theorem lexemes_eq_cons {text : List Char} {lexeme : Lexeme} {later : List Lexeme}
    (clean : NoStray text) (read : lexemes text = lexeme :: later) :
    ∃ (gap : List Char) (piece : Piece) (rest : List Char), text = gap ++ (piece.chars ++ rest) ∧
      (∀ char ∈ gap, isBlank char = true) ∧ piece.Valid ∧ piece.lexeme? = some lexeme ∧
      NoStray rest ∧ lexemes rest = later := by
  obtain ⟨before, piece, after, split, unread, here, there⟩ := List.filterMap_eq_cons_iff.mp read
  have valid := (Piece.canonical_cut text).valid piece (by simp [split])
  obtain ⟨cutBefore, _, whole⟩ := Piece.cut_eq_append split
  rw [← List.singleton_append, ← List.append_assoc] at split
  obtain ⟨_, cutAfter, _⟩ := Piece.cut_eq_append split
  rw [List.flatMap_cons] at whole
  rw [whole, noStray_append, noStray_append] at clean
  refine ⟨before.flatMap Piece.chars, piece, after.flatMap Piece.chars, whole, ?_, valid, here,
    clean.2.2, ?_⟩
  · apply lexemes_eq_nil clean.1
    rw [lexemes, cutBefore]
    exact List.filterMap_eq_nil_iff.mpr unread
  · rw [lexemes, cutAfter, there]

theorem chars_of_word {piece : Piece} {word : String} (valid : piece.Valid)
    (read : piece.lexeme? = some (.word word)) :
    piece.chars = word.toList ∧ word.toList ≠ [] ∧
      ∀ char ∈ word.toList, isWordChar char = true := by
  have same : piece.chars = word.toList := (Piece.text_of_lexeme? read).symm
  rw [← same]
  refine ⟨rfl, valid.nonempty, ?_⟩
  intro char member
  have classified := valid.uniform char member
  cases piece <;> simp [Piece.lexeme?] at read
  exact CharClass.of_eq_word_iff.mp classified

end ResourceFilter
