import ResourceFilter.Proofs.Token.Scan

/-!
Where the tokens and stray characters of a joined text stand. Those of the second text move by the
byte length of the first one, unless a token runs across the seam.
-/

namespace ResourceFilter

def IsClosed (text : List Char) : Prop :=
  ∃ body gap, text = body ++ gap ∧ (∀ char ∈ gap, isBlank char = true) ∧
    ∀ last ∈ body.getLast?, ¬(CharClass.of last).IsRun

namespace Piece

theorem locate_append (position : Nat) (first second : List Piece) :
    locate position (first ++ second) =
      locate position first ++ locate (position + byteLength (first.flatMap chars)) second := by
  induction first generalizing position with
  | nil => simp [locate, byteLength]
  | cons piece rest ih =>
      rw [List.cons_append, locate, locate, ih, List.flatMap_cons, byteLength_append,
        Nat.add_assoc]
      rfl

theorem locate_add (offset position : Nat) (pieces : List Piece) :
    locate (offset + position) pieces =
      (locate position pieces).map fun place => (offset + place.1, place.2) := by
  induction pieces generalizing position with
  | nil => rfl
  | cons piece rest ih => rw [locate, locate, Nat.add_assoc, ih, List.map_cons]

end Piece

def scanFrom {Item : Type} (pick : Nat × Piece → Option Item) (position : Nat) (text : List Char) :
    List Item :=
  (Piece.locate position (Piece.cut text)).filterMap pick

section Picking

variable {Item : Type} {pick : Nat × Piece → Option Item}

theorem scanFrom_append_of_apart (position : Nat) {left right : List Char}
    (apart : ∀ last ∈ left.getLast?, ∀ first ∈ right.head?,
      (CharClass.of last).Apart (CharClass.of first)) :
    scanFrom pick position (left ++ right) =
      scanFrom pick position left ++ scanFrom pick (position + byteLength left) right := by
  rw [scanFrom, Piece.cut_append left right apart, Piece.locate_append, Piece.chars_cut,
    List.filterMap_append]
  rfl

theorem scanFrom_blank_cons (skips : ∀ place run, pick (place, .blank run) = none) (position : Nat)
    {char : Char} (blank : isBlank char = true) (rest : List Char) :
    scanFrom pick position (char :: rest) = scanFrom pick (position + char.utf8Size) rest := by
  have skipsBlank : ∀ place (piece : Piece),
      piece.charClass = .blank → pick (place, piece) = none := by
    intro place piece isBlank
    cases piece <;> simp only [Piece.charClass, reduceCtorEq] at isBlank
    exact skips place _
  have classified := CharClass.of_eq_blank_iff.mpr blank
  rw [scanFrom, scanFrom, Piece.cut]
  rcases Piece.attach_cases char (Piece.cut rest) with
    ⟨first, longer, more, split, attached, same, _, kept, longerChars⟩ |
    ⟨single, attached, same, singleChars, _⟩
  · rw [attached, split, Piece.locate, Piece.locate, List.filterMap_cons, List.filterMap_cons,
      skipsBlank _ first (same.trans classified),
      skipsBlank _ longer (kept.trans (same.trans classified)), longerChars, byteLength,
      Nat.add_assoc]
  · rw [attached, Piece.locate, List.filterMap_cons, skipsBlank _ single (same.trans classified),
      singleChars]
    rfl

theorem scanFrom_blank_append (skips : ∀ place run, pick (place, .blank run) = none)
    (position : Nat) {gap : List Char} (blank : ∀ char ∈ gap, isBlank char = true)
    (rest : List Char) :
    scanFrom pick position (gap ++ rest) = scanFrom pick (position + byteLength gap) rest := by
  induction gap generalizing position with
  | nil => rfl
  | cons char more ih =>
      obtain ⟨here, later⟩ := List.forall_mem_cons.mp blank
      rw [List.cons_append, scanFrom_blank_cons skips position here, ih _ later, byteLength,
        Nat.add_assoc]

theorem scanFrom_append (skips : ∀ place run, pick (place, .blank run) = none) (position : Nat)
    {left : List Char} (closed : IsClosed left) (right : List Char) :
    scanFrom pick position (left ++ right) =
      scanFrom pick position left ++ scanFrom pick (position + byteLength left) right := by
  -- Only the blanks at the end of a closed text can run on into the next text, and no item is picked
  -- from blanks, so that it does not matter to which of the two texts they are counted.
  obtain ⟨body, gap, rfl, blank, ends⟩ := closed
  have apart : ∀ rest : List Char, ∀ last ∈ body.getLast?, ∀ first ∈ rest.head?,
      (CharClass.of last).Apart (CharClass.of first) :=
    fun rest last isLast _ _ _ => ends last isLast
  have unread : scanFrom pick (position + byteLength body) gap = [] := by
    rw [← List.append_nil gap, scanFrom_blank_append skips _ blank]
    rfl
  rw [List.append_assoc, scanFrom_append_of_apart position (apart (gap ++ right)),
    scanFrom_append_of_apart position (apart gap), unread, List.append_nil,
    scanFrom_blank_append skips _ blank, byteLength_append, Nat.add_assoc]

theorem scanFrom_add {move : Item → Item} {offset : Nat}
    (moves : ∀ position piece,
      pick (offset + position, piece) = (pick (position, piece)).map move)
    (position : Nat) (text : List Char) :
    scanFrom pick (offset + position) text = (scanFrom pick position text).map move := by
  rw [scanFrom, scanFrom, Piece.locate_add, List.filterMap_map, List.map_filterMap]
  congr 1
  funext place
  exact moves place.1 place.2

theorem scanFrom_append_move {move : Item → Item} {left : List Char}
    (skips : ∀ place run, pick (place, .blank run) = none)
    (moves : ∀ position piece,
      pick (byteLength left + position, piece) = (pick (position, piece)).map move)
    (closed : IsClosed left) (right : List Char) :
    scanFrom pick 0 (left ++ right) =
      scanFrom pick 0 left ++ (scanFrom pick 0 right).map move := by
  rw [scanFrom_append skips 0 closed, ← scanFrom_add moves, Nat.zero_add, Nat.add_zero]

end Picking

def Token.shift (offset : Nat) (token : Token) : Token :=
  { token with position := offset + token.position }

def Stray.shift (offset : Nat) (stray : Stray) : Stray :=
  { stray with position := offset + stray.position }

theorem Token.scan_append {left : List Char} (closed : IsClosed left) (right : List Char) :
    Token.scan (left ++ right) =
      Token.scan left ++ (Token.scan right).map (Token.shift (byteLength left)) := by
  refine scanFrom_append_move (fun _ _ => rfl) ?_ closed right
  intro position piece
  cases piece <;> rfl

theorem Stray.scan_append {left : List Char} (closed : IsClosed left) (right : List Char) :
    Stray.scan (left ++ right) =
      Stray.scan left ++ (Stray.scan right).map (Stray.shift (byteLength left)) := by
  refine scanFrom_append_move (fun _ _ => rfl) ?_ closed right
  intro position piece
  cases piece <;> rfl

end ResourceFilter
