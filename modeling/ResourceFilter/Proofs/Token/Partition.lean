import ResourceFilter.Proofs.Token.Position

/-!
Tokens and stray characters share out a text. What is in none of them is white space, and no two of
them have a byte in common.
-/

namespace ResourceFilter

theorem utf8ByteSize_eq_byteLength (text : String) :
    text.utf8ByteSize = byteLength text.toList := by
  rw [← utf8ByteSize_ofList, String.ofList_toList]

theorem byteLength_pos {text : List Char} (nonempty : text ≠ []) : 0 < byteLength text := by
  cases text with
  | nil => contradiction
  | cons char rest =>
      rw [byteLength]
      exact Nat.add_pos_left char.utf8Size_pos _

theorem mem_of_byteLength {before middle after left right : List Char} {char : Char}
    (same : before ++ (middle ++ after) = left ++ char :: right)
    (starts : byteLength before ≤ byteLength left)
    (stops : byteLength left < byteLength before + byteLength middle) : char ∈ middle := by
  rcases List.append_eq_append_iff.mp same with ⟨inside, rfl, rest⟩ | ⟨behind, rfl, rest⟩
  · rcases List.append_eq_append_iff.mp rest with ⟨beyond, rfl, _⟩ | ⟨ending, rfl, last⟩
    · simp only [byteLength_append] at stops
      omega
    · cases ending with
      | nil =>
          simp only [byteLength_append, List.append_nil] at stops
          omega
      | cons first more =>
          obtain ⟨rfl, _⟩ := List.cons.inj last
          simp
  · have nothing : behind = [] := by
      by_contra nonempty
      have size := byteLength_pos nonempty
      simp only [byteLength_append] at starts
      omega
    subst nothing
    cases middle with
    | nil => simp [byteLength] at stops
    | cons first more =>
        obtain ⟨rfl, _⟩ := List.cons.inj rest
        simp

namespace Piece

theorem le_of_mem_locate {position : Nat} {pieces : List Piece} {place : Nat × Piece}
    (member : place ∈ locate position pieces) : position ≤ place.1 := by
  induction pieces generalizing position with
  | nil => simp [locate] at member
  | cons piece rest ih =>
      rw [locate] at member
      rcases List.mem_cons.mp member with rfl | later
      · exact Nat.le_refl _
      · exact Nat.le_trans (Nat.le_add_right _ _) (ih later)

theorem pairwise_locate (position : Nat) {pieces : List Piece}
    (nonempty : ∀ piece ∈ pieces, piece.chars ≠ []) :
    (locate position pieces).Pairwise fun left right =>
      left.1 < right.1 ∧ left.1 + byteLength left.2.chars ≤ right.1 := by
  induction pieces generalizing position with
  | nil => exact .nil
  | cons piece rest ih =>
      obtain ⟨here, others⟩ := List.forall_mem_cons.mp nonempty
      have size := byteLength_pos here
      rw [locate]
      refine .cons ?_ (ih _ others)
      intro place later
      have behind := le_of_mem_locate later
      exact ⟨by omega, behind⟩

theorem mem_locate_of_cut {text : List Char} {before after : List Piece} {piece : Piece}
    (divided : cut text = before ++ piece :: after) :
    (byteLength (before.flatMap chars), piece) ∈ locate 0 (cut text) := by
  rw [divided, locate_append, locate, Nat.zero_add]
  simp

theorem exists_piece_of_split {pieces : List Piece} {before after : List Char} {char : Char}
    (split : pieces.flatMap chars = before ++ char :: after) :
    ∃ front piece back inside behind, pieces = front ++ piece :: back ∧
      before = front.flatMap chars ++ inside ∧ piece.chars = inside ++ char :: behind := by
  induction pieces generalizing before with
  | nil => simp at split
  | cons piece rest ih =>
      rw [List.flatMap_cons] at split
      rcases List.append_eq_append_iff.mp split with ⟨inside, rfl, later⟩ | ⟨inside, here, last⟩
      · obtain ⟨front, found, back, within, behind, rfl, rfl, chars⟩ := ih later
        exact ⟨piece :: front, found, back, within, behind, rfl, by simp, chars⟩
      · cases inside with
        | nil =>
            rw [List.append_nil] at here
            have later : rest.flatMap chars = [] ++ char :: after := last.symm
            obtain ⟨front, found, back, within, behind, rfl, start, chars⟩ := ih later
            refine ⟨piece :: front, found, back, within, behind, rfl, ?_, chars⟩
            rw [List.flatMap_cons, List.append_assoc, ← start, List.append_nil, here]
        | cons first behind =>
            obtain ⟨rfl, _⟩ := List.cons.inj last
            exact ⟨[], piece, rest, before, behind, rfl, rfl, here⟩

theorem valid_of_cut {text : List Char} {before after : List Piece} {piece : Piece}
    (divided : cut text = before ++ piece :: after) : piece.Valid := by
  apply (canonical_cut text).valid
  rw [divided]
  simp

theorem lexeme?_eq_none_iff {piece : Piece} :
    piece.lexeme? = none ↔ piece.charClass = .blank ∨ piece.charClass = .stray := by
  cases piece <;> simp [lexeme?, charClass]

end Piece

namespace Token

def stop (token : Token) : Nat :=
  token.position + token.lexeme.text.utf8ByteSize

def Covers (token : Token) (position : Nat) : Prop :=
  token.position ≤ position ∧ position < token.stop

theorem ofPiece?_eq_some {place : Nat × Piece} {token : Token}
    (picked : ofPiece? place = some token) :
    token.position = place.1 ∧ place.2.lexeme? = some token.lexeme := by
  obtain ⟨position, piece⟩ := place
  cases piece <;> simp only [ofPiece?, Option.some.injEq, reduceCtorEq] at picked <;>
    subst picked <;> exact ⟨rfl, rfl⟩

theorem mem_scan_iff {text : List Char} {token : Token} :
    token ∈ scan text ↔ ∃ before piece after, Piece.cut text = before ++ piece :: after ∧
      token.position = byteLength (before.flatMap Piece.chars) ∧
      piece.lexeme? = some token.lexeme := by
  constructor
  · intro member
    obtain ⟨done, later, scanned⟩ := List.append_of_mem member
    obtain ⟨before, piece, after, divided, position, read, _⟩ := scan_split scanned
    exact ⟨before, piece, after, divided, position, read⟩
  · rintro ⟨before, piece, after, divided, position, read⟩
    refine List.mem_filterMap.mpr ⟨_, Piece.mem_locate_of_cut divided, ?_⟩
    obtain ⟨_, lexeme⟩ := token
    cases piece <;> simp_all [Piece.lexeme?, ofPiece?]

theorem stop_eq {token : Token} {piece : Piece} (read : piece.lexeme? = some token.lexeme) :
    token.stop = token.position + byteLength piece.chars := by
  rw [stop, utf8ByteSize_eq_byteLength, Piece.text_of_lexeme? read]

/-- A character is in a token just if it is neither white space nor stray. -/
theorem exists_covers_iff {before after : List Char} {char : Char} :
    (∃ token ∈ scan (before ++ char :: after), token.Covers (byteLength before)) ↔
      CharClass.of char ≠ .blank ∧ CharClass.of char ≠ .stray := by
  have whole := Piece.chars_cut (before ++ char :: after)
  constructor
  · rintro ⟨token, member, starts, stops⟩
    obtain ⟨front, piece, back, divided, position, read⟩ := mem_scan_iff.mp member
    rw [stop_eq read] at stops
    rw [position] at starts stops
    rw [divided, List.flatMap_append, List.flatMap_cons] at whole
    have inside := mem_of_byteLength whole starts stops
    have sameClass := (Piece.valid_of_cut divided).uniform char inside
    have notUnread : ¬(piece.charClass = .blank ∨ piece.charClass = .stray) := by
      rw [← Piece.lexeme?_eq_none_iff, read]
      simp
    rw [sameClass]
    exact not_or.mp notUnread
  · intro readable
    obtain ⟨front, piece, back, inside, behind, divided, rfl, chars⟩ :=
      Piece.exists_piece_of_split whole
    have sameClass := (Piece.valid_of_cut divided).uniform char (by simp [chars])
    have isRead : piece.lexeme? ≠ none := by
      rw [ne_eq, Piece.lexeme?_eq_none_iff, ← sameClass]
      exact not_or.mpr readable
    obtain ⟨lexeme, read⟩ := Option.ne_none_iff_exists'.mp isRead
    have found : ⟨byteLength (front.flatMap Piece.chars), lexeme⟩ ∈
        scan (front.flatMap Piece.chars ++ inside ++ char :: after) :=
      mem_scan_iff.mpr ⟨front, piece, back, divided, rfl, read⟩
    have size := char.utf8Size_pos
    refine ⟨_, found, ?_, ?_⟩
    · rw [byteLength_append]
      exact Nat.le_add_right _ _
    · rw [stop_eq read, chars, byteLength_append, byteLength_append, byteLength]
      dsimp only
      omega

theorem pairwise_scan (text : List Char) :
    (scan text).Pairwise fun left right =>
      left.position < right.position ∧ left.stop ≤ right.position := by
  have nonempty : ∀ piece ∈ Piece.cut text, piece.chars ≠ [] :=
    fun piece member => ((Piece.canonical_cut text).valid piece member).nonempty
  refine (Piece.pairwise_locate 0 nonempty).filterMap ofPiece? ?_
  intro first second apart token picked other pickedOther
  obtain ⟨position, read⟩ := ofPiece?_eq_some picked
  obtain ⟨otherPosition, _⟩ := ofPiece?_eq_some pickedOther
  rw [stop_eq read, position, otherPosition]
  exact apart

end Token

namespace Stray

theorem mem_scan_iff {text : List Char} {stray : Stray} :
    stray ∈ scan text ↔ ∃ before after, Piece.cut text = before ++ .stray stray.char :: after ∧
      stray.position = byteLength (before.flatMap Piece.chars) := by
  constructor
  · intro member
    obtain ⟨done, later, scanned⟩ := List.append_of_mem member
    obtain ⟨before, piece, after, divided, picked, _⟩ :=
      Piece.filterMap_locate_split ofPiece? 0 _ _ _ _ scanned
    obtain ⟨position, rfl⟩ := Prod.mk.inj (ofPiece?_eq_some picked)
    exact ⟨before, after, divided, by rw [← position, Nat.zero_add]⟩
  · rintro ⟨before, after, divided, position⟩
    refine List.mem_filterMap.mpr ⟨_, Piece.mem_locate_of_cut divided, ?_⟩
    rw [ofPiece?, ← position]

/-- A character is recorded as stray just if it is one. -/
theorem exists_position_iff {before after : List Char} {char : Char} :
    (∃ stray ∈ scan (before ++ char :: after), stray.position = byteLength before) ↔
      CharClass.of char = .stray := by
  have whole := Piece.chars_cut (before ++ char :: after)
  constructor
  · rintro ⟨stray, member, here⟩
    obtain ⟨front, back, divided, position⟩ := mem_scan_iff.mp member
    have valid := Piece.valid_of_cut divided
    have size := byteLength_pos valid.nonempty
    rw [divided, List.flatMap_append, List.flatMap_cons] at whole
    have inside := mem_of_byteLength whole (by omega) (by omega)
    exact valid.uniform char inside
  · intro isStray
    obtain ⟨front, piece, back, inside, behind, divided, rfl, chars⟩ :=
      Piece.exists_piece_of_split whole
    have sameClass := (Piece.valid_of_cut divided).uniform char (by simp [chars])
    rw [isStray] at sameClass
    cases piece <;> simp only [Piece.charClass, reduceCtorEq] at sameClass
    rcases List.append_eq_singleton_iff.mp chars.symm with ⟨rfl, alone⟩ | ⟨_, impossible⟩
    · obtain ⟨rfl, rfl⟩ := List.cons.inj alone
      rw [List.append_nil] at divided ⊢
      exact ⟨⟨_, char⟩, mem_scan_iff.mpr ⟨front, back, divided, rfl⟩, rfl⟩
    · cases impossible

theorem pairwise_scan (text : List Char) :
    (scan text).Pairwise fun left right => left.position < right.position := by
  have nonempty : ∀ piece ∈ Piece.cut text, piece.chars ≠ [] :=
    fun piece member => ((Piece.canonical_cut text).valid piece member).nonempty
  refine (Piece.pairwise_locate 0 nonempty).filterMap ofPiece? ?_
  intro first second apart stray picked other pickedOther
  rw [ofPiece?_eq_some picked, ofPiece?_eq_some pickedOther] at apart
  exact apart.1

end Stray

/-- Holds of a run of characters of one class that is not empty and could not be longer. -/
structure IsWholeRun (inClass : Char → Bool) (before run after : String) : Prop where
  nonempty : run ≠ ""
  inside : ∀ char ∈ run.toList, inClass char = true
  start : ∀ last ∈ before.toList.getLast?, inClass last = false
  stop : ∀ first ∈ after.toList.head?, inClass first = false

def Lexeme.StandsWhole (before after : String) : Lexeme → Prop
  | .word run => IsWholeRun isWordChar before run after
  | .symbol run => IsWholeRun isSymbolChar before run after
  | .combinator which => String.singleton which.symbol = "," ∨ String.singleton which.symbol = ";"

theorem isWholeRun_of_cut {text : List Char} {before after : List Piece} {piece : Piece}
    {inClass : Char → Bool} (divided : Piece.cut text = before ++ piece :: after)
    (classes : ∀ char, CharClass.of char = piece.charClass ↔ inClass char = true)
    (isRun : piece.charClass.IsRun) :
    IsWholeRun inClass (String.ofList (before.flatMap Piece.chars)) (String.ofList piece.chars)
      (String.ofList (after.flatMap Piece.chars)) := by
  have valid := Piece.valid_of_cut divided
  obtain ⟨apartBefore, apartAfter⟩ := Piece.apart_of_cut divided
  have outside : ∀ char, CharClass.of char ≠ piece.charClass → inClass char = false := by
    intro char different
    rwa [ne_eq, classes, Bool.not_eq_true] at different
  constructor
  · rw [ne_eq, ← String.toList_eq_nil_iff, String.toList_ofList]
    exact valid.nonempty
  · rw [String.toList_ofList]
    exact fun char member => (classes char).mp (valid.uniform char member)
  · rw [String.toList_ofList]
    intro last isLast
    apply outside
    intro same
    exact apartBefore last isLast same (same ▸ isRun)
  · rw [String.toList_ofList]
    intro first isFirst
    apply outside
    intro same
    exact apartAfter first isFirst same.symm isRun

theorem Lexeme.standsWhole_of_cut {text : List Char} {before after : List Piece} {piece : Piece}
    {lexeme : Lexeme} (divided : Piece.cut text = before ++ piece :: after)
    (read : piece.lexeme? = some lexeme) :
    lexeme.StandsWhole (String.ofList (before.flatMap Piece.chars))
      (String.ofList (after.flatMap Piece.chars)) := by
  cases piece with
  | blank run => cases read
  | stray char => cases read
  | word run =>
      cases read
      exact isWholeRun_of_cut divided (fun _ => CharClass.of_eq_word_iff) (.inr (.inl rfl))
  | symbol run =>
      cases read
      exact isWholeRun_of_cut divided (fun _ => CharClass.of_eq_symbol_iff) (.inr (.inr rfl))
  | combinator which =>
      cases read
      cases which
      · exact .inl rfl
      · exact .inr rfl

def ExactlyOne (first second third : Prop) : Prop :=
  (first ∨ second ∨ third) ∧ ¬(first ∧ second) ∧ ¬(first ∧ third) ∧ ¬(second ∧ third)

/-- Every character of a text is in a token, stray or white space, and never two of these. Tokens
and stray characters stand in the text where their positions say, one behind the other, and no
token could be longer than it is. -/
theorem scan_partitions (text : String) :
    (∀ (before after : String) (char : Char), text = before ++ String.singleton char ++ after →
      ExactlyOne (∃ token ∈ Token.scan text.toList, token.Covers before.utf8ByteSize)
        (∃ stray ∈ Stray.scan text.toList, stray.position = before.utf8ByteSize)
        (isBlank char = true)) ∧
    ((Token.scan text.toList).Pairwise fun left right =>
      left.position < right.position ∧ left.stop ≤ right.position) ∧
    ((Stray.scan text.toList).Pairwise fun left right => left.position < right.position) ∧
    (∀ token ∈ Token.scan text.toList, ∃ before after,
      text = before ++ token.lexeme.text ++ after ∧ token.position = before.utf8ByteSize ∧
        token.lexeme.StandsWhole before after) ∧
    ∀ stray ∈ Stray.scan text.toList,
      (∃ before after, text = before ++ String.singleton stray.char ++ after ∧
        stray.position = before.utf8ByteSize) ∧
      isBlank stray.char = false ∧ Combinator.ofChar? stray.char = none ∧
        isWordChar stray.char = false ∧ isSymbolChar stray.char = false := by
  refine ⟨?_, Token.pairwise_scan _, Stray.pairwise_scan _, ?_, ?_⟩
  · intro before after char whole
    have chars : text.toList = before.toList ++ char :: after.toList := by
      rw [whole]
      simp
    rw [chars, utf8ByteSize_eq_byteLength, Token.exists_covers_iff, Stray.exists_position_iff,
      ← CharClass.of_eq_blank_iff]
    have apart : ¬(CharClass.of char = .stray ∧ CharClass.of char = .blank) := by
      rintro ⟨isStray, blank⟩
      rw [isStray] at blank
      cases blank
    exact ⟨by tauto, by tauto, by tauto, apart⟩
  · intro token member
    obtain ⟨before, piece, after, divided, position, read⟩ := Token.mem_scan_iff.mp member
    refine ⟨String.ofList (before.flatMap Piece.chars), String.ofList (after.flatMap Piece.chars),
      ?_, ?_, Lexeme.standsWhole_of_cut divided read⟩
    · rw [← String.toList_inj, (Piece.cut_eq_append divided).2.2]
      simp [Piece.text_of_lexeme? read]
    · rw [position, utf8ByteSize_ofList]
  · intro stray member
    obtain ⟨before, after, divided, position⟩ := Stray.mem_scan_iff.mp member
    refine ⟨⟨String.ofList (before.flatMap Piece.chars), String.ofList (after.flatMap Piece.chars),
      ?_, ?_⟩, CharClass.of_eq_stray_iff.mp ?_⟩
    · rw [← String.toList_inj, (Piece.cut_eq_append divided).2.2]
      simp [Piece.chars]
    · rw [position, utf8ByteSize_ofList]
    · exact (Piece.valid_of_cut divided).uniform _ (by simp [Piece.chars])

theorem scan_partitions_wide_blank :
    "x\u2003é<=-1" = "x\u2003" ++ String.singleton 'é' ++ "<=-1" ∧
      Token.scan "x\u2003é<=-1".toList = [⟨0, .word "x"⟩, ⟨6, .symbol "<="⟩, ⟨8, .word "-1"⟩] ∧
      Stray.scan "x\u2003é<=-1".toList = [⟨4, 'é'⟩] ∧
      ExactlyOne (∃ token ∈ Token.scan "x\u2003é<=-1".toList, token.Covers 4)
        (∃ stray ∈ Stray.scan "x\u2003é<=-1".toList, stray.position = 4) (isBlank 'é' = true) :=
  ⟨by decide, by decide, by decide,
    (scan_partitions "x\u2003é<=-1").1 "x\u2003" "<=-1" 'é' (by decide)⟩

end ResourceFilter
