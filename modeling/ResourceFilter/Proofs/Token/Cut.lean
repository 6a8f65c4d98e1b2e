import ResourceFilter.Proofs.Token.CharClass

/-!
The cut of a text is the only way to divide it into pieces that could not be longer: every piece
holds characters of one class, and no two neighbours belong together.
-/

namespace ResourceFilter

namespace Piece

def charClass : Piece → CharClass
  | blank _ => .blank
  | word _ => .word
  | symbol _ => .symbol
  | combinator which => .combinator which
  | stray _ => .stray

structure Valid (piece : Piece) : Prop where
  nonempty : piece.chars ≠ []
  uniform : ∀ char ∈ piece.chars, CharClass.of char = piece.charClass

theorem eq_of_charClass_of_chars {left right : Piece}
    (sameClass : left.charClass = right.charClass) (sameChars : left.chars = right.chars) :
    left = right := by
  cases left <;> cases right <;> simp_all [charClass, chars]

theorem attach_cases (char : Char) (pieces : List Piece) :
    (∃ first longer rest, pieces = first :: rest ∧ attach char pieces = longer :: rest ∧
      first.charClass = CharClass.of char ∧ (CharClass.of char).IsRun ∧
      longer.charClass = first.charClass ∧ longer.chars = char :: first.chars) ∨
    ∃ single, attach char pieces = single :: pieces ∧
      single.charClass = CharClass.of char ∧ single.chars = [char] ∧
      ∀ first ∈ pieces.head?, (CharClass.of char).Apart first.charClass := by
  unfold attach
  generalize classified : CharClass.of char = found
  cases found with
  | combinator which =>
      refine .inr ⟨combinator which, rfl, rfl, ?_, ?_⟩
      · simp [chars, CharClass.of_eq_combinator_iff.mp classified]
      · simp [CharClass.Apart, CharClass.IsRun]
  | stray =>
      refine .inr ⟨stray char, rfl, rfl, rfl, ?_⟩
      simp [CharClass.Apart, CharClass.IsRun]
  | blank | word | symbol =>
      rcases pieces with _ | ⟨_ | _ | _ | _ | _, rest⟩ <;>
        simp [charClass, chars, CharClass.Apart, CharClass.IsRun]

theorem attach_ne_nil (char : Char) (pieces : List Piece) : attach char pieces ≠ [] := by
  rcases attach_cases char pieces with
    ⟨_, _, _, _, attached, _⟩ | ⟨_, attached, _⟩ <;> simp [attached]

theorem attach_append (char : Char) {pieces : List Piece} (more : List Piece)
    (nonempty : pieces ≠ []) : attach char (pieces ++ more) = attach char pieces ++ more := by
  cases pieces with
  | nil => contradiction
  | cons first rest =>
      rw [List.cons_append]
      unfold attach
      cases CharClass.of char <;> cases first <;> rfl

theorem cut_ne_nil {text : List Char} (nonempty : text ≠ []) : cut text ≠ [] := by
  cases text with
  | nil => contradiction
  | cons char rest => exact attach_ne_nil char (cut rest)

theorem head?_cut (text : List Char) :
    (cut text).head?.map charClass = text.head?.map CharClass.of := by
  cases text with
  | nil => rfl
  | cons char rest =>
      rw [cut]
      rcases attach_cases char (cut rest) with
        ⟨first, longer, more, _, attached, same, _, kept, _⟩ | ⟨single, attached, same, _⟩
      · simp [attached, kept, same]
      · simp [attached, same]

theorem cut_append (left right : List Char)
    (apart : ∀ last ∈ left.getLast?, ∀ first ∈ right.head?,
      (CharClass.of last).Apart (CharClass.of first)) :
    cut (left ++ right) = cut left ++ cut right := by
  induction left with
  | nil => rfl
  | cons char rest ih =>
      rw [List.cons_append, cut, cut]
      by_cases empty : rest = []
      · subst empty
        rw [List.nil_append]
        have head := head?_cut right
        rcases attach_cases char (cut right) with
          ⟨first, longer, more, pieces, _, same, run, _⟩ |
            ⟨single, attached, sameClass, sameChars, _⟩
        · rw [pieces] at head
          cases right with
          | nil => simp at head
          | cons next later =>
              simp only [List.head?_cons, Option.map_some, Option.some.injEq] at head
              have separate := apart char (by simp) next (by simp)
              exact absurd run (separate (by rw [← same, head]))
        · rw [attached]
          rcases attach_cases char (cut []) with
            ⟨first, longer, more, impossible, _⟩ | ⟨other, attachedOther, otherClass, otherChars, _⟩
          · simp [cut] at impossible
          · rw [attachedOther, eq_of_charClass_of_chars (sameClass.trans otherClass.symm)
              (sameChars.trans otherChars.symm)]
            rfl
      · have separate : ∀ last ∈ rest.getLast?, ∀ first ∈ right.head?,
            (CharClass.of last).Apart (CharClass.of first) := by
          intro last isLast
          apply apart last
          cases rest with
          | nil => contradiction
          | cons next later => simpa [List.getLast?_cons_cons] using isLast
        rw [ih separate, attach_append char _ (cut_ne_nil empty)]

/-- Pieces that could not be longer: they hold characters of their own class only, and no two
neighbours belong together. -/
structure Canonical (pieces : List Piece) : Prop where
  valid : ∀ piece ∈ pieces, piece.Valid
  apart : pieces.IsChain fun left right => left.charClass.Apart right.charClass

theorem canonical_attach (char : Char) {pieces : List Piece} (canonical : Canonical pieces) :
    Canonical (attach char pieces) := by
  rcases attach_cases char pieces with
    ⟨first, longer, rest, split, attached, same, _, sameClass, longerChars⟩ |
    ⟨single, attached, singleClass, singleChars, apart⟩
  · subst split
    rw [attached]
    constructor
    · intro piece member
      rcases List.mem_cons.mp member with here | there
      · subst here
        refine ⟨by simp [longerChars], ?_⟩
        intro other among
        rw [longerChars] at among
        rcases List.mem_cons.mp among with new | old
        · rw [new, sameClass, same]
        · rw [sameClass]
          exact (canonical.valid first (by simp)).uniform other old
      · exact canonical.valid piece (by simp [there])
    · have chain := canonical.apart
      rw [List.isChain_cons] at chain ⊢
      rwa [sameClass]
  · rw [attached]
    constructor
    · intro piece member
      rcases List.mem_cons.mp member with here | there
      · subst here
        exact ⟨by simp [singleChars], by simp [singleChars, singleClass]⟩
      · exact canonical.valid piece there
    · rw [List.isChain_cons]
      exact ⟨by rwa [singleClass], canonical.apart⟩

theorem canonical_cut (text : List Char) : Canonical (cut text) := by
  induction text with
  | nil => exact ⟨by simp [cut], by simp [cut]⟩
  | cons char rest ih => exact canonical_attach char ih

theorem isRun_or_length (piece : Piece) :
    piece.charClass.IsRun ∨ piece.chars.length = 1 := by
  cases piece <;> simp [charClass, chars, CharClass.IsRun]

theorem cut_run_append {charClass : CharClass} {run : List Char} (more : List Char)
    (nonempty : run ≠ []) (uniform : ∀ char ∈ run, CharClass.of char = charClass)
    (together : charClass.IsRun ∨ run.length = 1) :
    ∃ piece rest, cut (run ++ more) = piece :: rest ∧ piece.charClass = charClass ∧
      run <+: piece.chars := by
  induction run with
  | nil => contradiction
  | cons char rest ih =>
      have here : CharClass.of char = charClass := uniform char (by simp)
      rw [List.cons_append, cut]
      by_cases empty : rest = []
      · subst empty
        rcases attach_cases char (cut ([] ++ more)) with
          ⟨first, longer, others, _, attached, same, _, kept, longerChars⟩ |
          ⟨single, attached, singleClass, singleChars, _⟩
        · exact ⟨longer, others, attached, by rw [kept, same, here], by simp [longerChars]⟩
        · exact ⟨single, _, attached, by rw [singleClass, here], by simp [singleChars]⟩
      · have isRun : charClass.IsRun := by
          rcases together with isRun | alone
          · exact isRun
          · simp [empty] at alone
        obtain ⟨piece, others, whole, sameClass, within⟩ :=
          ih empty (fun other member => uniform other (by simp [member])) (.inl isRun)
        rw [whole]
        rcases attach_cases char (piece :: others) with
          ⟨first, longer, later, split, attached, _, _, kept, longerChars⟩ |
            ⟨single, _, _, _, apart⟩
        · obtain ⟨rfl, rfl⟩ := List.cons.inj split
          refine ⟨longer, others, attached, by rw [kept, sameClass], ?_⟩
          rw [longerChars]
          exact List.cons_prefix_cons.mpr ⟨rfl, within⟩
        · have separate := apart piece (by simp)
          rw [sameClass, here] at separate
          exact absurd isRun (separate rfl)

/-- What follows a piece may lengthen it and changes nothing else about it. -/
theorem cut_chars_append {piece : Piece} (valid : piece.Valid) (more : List Char) :
    ∃ longer rest, cut (piece.chars ++ more) = longer :: rest ∧
      longer.charClass = piece.charClass ∧ piece.chars <+: longer.chars :=
  cut_run_append more valid.nonempty valid.uniform piece.isRun_or_length

theorem cut_chars {piece : Piece} (valid : piece.Valid) : cut piece.chars = [piece] := by
  obtain ⟨longer, rest, whole, sameClass, within⟩ := cut_chars_append valid []
  rw [List.append_nil] at whole
  have kept := chars_cut piece.chars
  rw [whole, List.flatMap_cons] at kept
  have sameChars : longer.chars = piece.chars :=
    List.IsPrefix.eq_of_length_le ⟨rest.flatMap chars, kept⟩ within.length_le
  have nothing : rest.flatMap chars = [] := by simpa [sameChars] using kept
  have noRest : rest = [] := by
    cases rest with
    | nil => rfl
    | cons next later =>
        have nextValid := (canonical_cut piece.chars).valid next (by simp [whole])
        simp [nextValid.nonempty] at nothing
  rw [whole, noRest, eq_of_charClass_of_chars sameClass sameChars]

theorem cut_flatMap_chars {pieces : List Piece} (canonical : Canonical pieces) :
    cut (pieces.flatMap chars) = pieces := by
  induction pieces with
  | nil => rfl
  | cons piece rest ih =>
      have valid := canonical.valid piece (by simp)
      have chain := List.isChain_cons.mp canonical.apart
      have later : Canonical rest :=
        ⟨fun other member => canonical.valid other (by simp [member]), chain.2⟩
      rw [List.flatMap_cons, cut_append, cut_chars valid, ih later]
      · rfl
      · intro last isLast first isFirst
        have lastClass := valid.uniform last (List.mem_of_getLast? isLast)
        have head := head?_cut (rest.flatMap chars)
        rw [ih later, isFirst] at head
        obtain ⟨next, isNext, nextClass⟩ := Option.map_eq_some_iff.mp head
        rw [lastClass, ← nextClass]
        exact chain.1 next isNext

/-- The cut of a text is the only way to divide the text into pieces that could not be longer. -/
theorem cut_eq_iff (text : List Char) (pieces : List Piece) :
    cut text = pieces ↔ Canonical pieces ∧ pieces.flatMap chars = text := by
  constructor
  · rintro rfl
    exact ⟨canonical_cut text, chars_cut text⟩
  · rintro ⟨canonical, rfl⟩
    exact cut_flatMap_chars canonical

theorem cut_eq_append {text : List Char} {before after : List Piece}
    (divided : cut text = before ++ after) :
    cut (before.flatMap chars) = before ∧ cut (after.flatMap chars) = after ∧
      text = before.flatMap chars ++ after.flatMap chars := by
  obtain ⟨⟨valid, apart⟩, whole⟩ := (cut_eq_iff _ _).mp divided
  obtain ⟨apartBefore, apartAfter, _⟩ := List.isChain_append.mp apart
  refine ⟨cut_flatMap_chars ⟨?_, apartBefore⟩, cut_flatMap_chars ⟨?_, apartAfter⟩, ?_⟩
  · exact fun piece member => valid piece (by simp [member])
  · exact fun piece member => valid piece (by simp [member])
  · rw [← whole, List.flatMap_append]

theorem getLast?_cut (text : List Char) :
    (cut text).getLast?.map charClass = text.getLast?.map CharClass.of := by
  rcases List.eq_nil_or_concat (cut text) with empty | ⟨before, piece, split⟩
  · have whole := chars_cut text
    rw [empty] at whole ⊢
    rw [← whole]
    rfl
  · rw [List.concat_eq_append] at split
    have valid := (canonical_cut text).valid piece (by simp [split])
    have whole := chars_cut text
    rw [split, List.flatMap_append, List.flatMap_singleton] at whole
    rw [split, ← whole, List.getLast?_append_of_ne_nil _ valid.nonempty]
    obtain ⟨last, isLast⟩ : ∃ last, piece.chars.getLast? = some last :=
      ⟨_, List.getLast?_eq_some_getLast valid.nonempty⟩
    rw [isLast]
    simp [valid.uniform last (List.mem_of_getLast? isLast)]

theorem apart_of_cut {text : List Char} {before after : List Piece} {piece : Piece}
    (divided : cut text = before ++ piece :: after) :
    (∀ last ∈ (before.flatMap chars).getLast?, (CharClass.of last).Apart piece.charClass) ∧
      ∀ first ∈ (after.flatMap chars).head?, piece.charClass.Apart (CharClass.of first) := by
  have chain := (canonical_cut text).apart
  rw [divided] at chain
  obtain ⟨_, chainAfter, touching⟩ := List.isChain_append.mp chain
  have cutBefore := (cut_eq_append divided).1
  rw [← List.singleton_append, ← List.append_assoc] at divided
  have cutAfter := (cut_eq_append divided).2.1
  constructor
  · intro last isLast
    have ends := getLast?_cut (before.flatMap chars)
    rw [cutBefore, isLast] at ends
    obtain ⟨other, isOther, sameClass⟩ := Option.map_eq_some_iff.mp ends
    rw [← sameClass]
    exact touching other isOther piece rfl
  · intro first isFirst
    have starts := head?_cut (after.flatMap chars)
    rw [cutAfter, isFirst] at starts
    obtain ⟨other, isOther, sameClass⟩ := Option.map_eq_some_iff.mp starts
    rw [← sameClass]
    exact (List.isChain_cons.mp chainAfter).1 other isOther

end Piece

end ResourceFilter
