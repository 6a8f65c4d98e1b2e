import ResourceFilter.Dialect.Quoting

/-!
Reading literals. A reader that starts at the opening mark of a literal gets the quoted value back
and stops directly behind the closing mark.
-/

namespace ResourceFilter

namespace QuoteStyle

def Escapes : QuoteStyle → Char → Char → Prop
  | backslash, char, _ => char = '\\'
  | doubled, char, next => char = mark ∧ next = mark

instance : (style : QuoteStyle) → (char next : Char) → Decidable (style.Escapes char next)
  | backslash, char, _ => inferInstanceAs (Decidable (char = '\\'))
  | doubled, char, next => inferInstanceAs (Decidable (char = mark ∧ next = mark))

/-- Reads on inside a literal, up to the first mark that ends it: the text that the literal stands
for, and what stands behind that mark. -/
def readInside? (style : QuoteStyle) : List Char → Option (List Char × List Char)
  | [] => none
  | [char] => if char = mark then some ([], []) else none
  | char :: next :: rest =>
      if style.Escapes char next then (readInside? style rest).map (Prod.map (next :: ·) id)
      else if char = mark then some ([], next :: rest)
      else (readInside? style (next :: rest)).map (Prod.map (char :: ·) id)

def readLiteral? (style : QuoteStyle) : List Char → Option (String × List Char)
  | [] => none
  | char :: rest =>
      if char = mark then (style.readInside? rest).map (Prod.map String.ofList id) else none

theorem readInside?_of_not_escapes {style : QuoteStyle} {char : Char} (notMark : char ≠ mark)
    (alone : ∀ next, ¬style.Escapes char next) (rest : List Char) :
    style.readInside? (char :: rest) = (style.readInside? rest).map (Prod.map (char :: ·) id) := by
  cases rest with
  | nil => rw [readInside?, readInside?, if_neg notMark, Option.map_none]
  | cons next rest => rw [readInside?, if_neg (alone next), if_neg notMark]

theorem readInside?_of_escapes {style : QuoteStyle} {char next : Char}
    (escapes : style.Escapes char next) (rest : List Char) :
    style.readInside? (char :: next :: rest) =
      (style.readInside? rest).map (Prod.map (next :: ·) id) := by
  rw [readInside?, if_pos escapes]

theorem readInside?_escapeChar_append (style : QuoteStyle) (char : Char) (rest : List Char) :
    style.readInside? (style.escapeChar char ++ rest) =
      (style.readInside? rest).map (Prod.map (char :: ·) id) := by
  cases style with
  | backslash =>
      by_cases special : char = '\\' ∨ char = mark
      · rw [escapeChar, if_pos special]
        have escapes : backslash.Escapes '\\' char := rfl
        exact readInside?_of_escapes escapes rest
      · rw [escapeChar, if_neg special]
        obtain ⟨notBackslash, notMark⟩ := not_or.mp special
        have alone : ∀ next, ¬backslash.Escapes char next := fun _ => notBackslash
        exact readInside?_of_not_escapes notMark alone rest
  | doubled =>
      by_cases special : char = mark
      · rw [escapeChar, if_pos special, special]
        have escapes : doubled.Escapes mark mark := ⟨rfl, rfl⟩
        exact readInside?_of_escapes escapes rest
      · rw [escapeChar, if_neg special]
        have alone : ∀ next, ¬doubled.Escapes char next := fun _ both => special both.1
        exact readInside?_of_not_escapes special alone rest

theorem not_escapes_mark {style : QuoteStyle} {next : Char} (notMark : next ≠ mark) :
    ¬style.Escapes mark next := by
  intro escapes
  cases style with
  | backslash =>
      have different : mark ≠ '\\' := by decide
      exact different escapes
  | doubled => exact notMark escapes.2

theorem readInside?_escape_append (style : QuoteStyle) (text : List Char) {rest : List Char}
    (notMark : rest.head? ≠ some mark) :
    style.readInside? (style.escape text ++ mark :: rest) = some (text, rest) := by
  induction text with
  | nil =>
      cases rest with
      | nil => rfl
      | cons first rest =>
          have ends : ¬style.Escapes mark first := by
            apply not_escapes_mark
            intro same
            exact notMark (by simp [same])
          rw [escape, List.flatMap_nil, List.nil_append, readInside?, if_neg ends, if_pos rfl]
  | cons char text ih =>
      rw [escape] at ih ⊢
      rw [List.flatMap_cons, List.append_assoc, readInside?_escapeChar_append, ih]
      rfl

/-- The literal of a value is read as the value, up to its own end, unless a mark stands behind. -/
theorem readLiteral?_quote_append (style : QuoteStyle) (value : String) {rest : List Char}
    (notMark : rest.head? ≠ some mark) :
    style.readLiteral? ((style.quote value).toList ++ rest) = some (value, rest) := by
  rw [quote, String.toList_ofList, List.append_assoc, List.singleton_append, List.cons_append,
    readLiteral?, if_pos rfl, readInside?_escape_append style value.toList notMark]
  simp

end QuoteStyle

end ResourceFilter
