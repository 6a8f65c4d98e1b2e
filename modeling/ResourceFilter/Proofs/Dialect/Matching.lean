import ResourceFilter.Dialect.Pattern

/-!
What patterns match. A pattern is read as a list of items, each of which stands for one character
or for any text; the pattern that a value is wrapped into matches the texts that contain the value.
-/

namespace ResourceFilter

inductive PatternItem
  | anything
  | literal (char : Char)
  deriving DecidableEq, Repr

def PatternItem.Matches : List PatternItem → List Char → Prop
  | [], text => text = []
  | literal char :: items, text => ∃ rest, text = char :: rest ∧ Matches items rest
  | anything :: items, text => ∃ skipped rest, text = skipped ++ rest ∧ Matches items rest

namespace PatternStyle

def reserved : PatternStyle → List Char
  | regex => ['\\', '.', '*', '+', '?', '(', ')', '[', ']', '{', '}', '|', '^', '$']
  | sqlWildcard => ['\\', '_', '%', '*', '+', '?', '(', ')', '[', ']', '{', '}', '|']

/-- Reads a pattern. There are no items if a reserved character stands in it other than behind a
backslash or as part of what matches any text. -/
def items? : PatternStyle → List Char → Option (List PatternItem)
  | _, [] => some []
  | style, '\\' :: char :: rest => (items? style rest).map (.literal char :: ·)
  | regex, '.' :: '*' :: rest => (items? regex rest).map (.anything :: ·)
  | sqlWildcard, '%' :: rest => (items? sqlWildcard rest).map (.anything :: ·)
  | style, char :: rest =>
      if char ∈ style.reserved then none else (items? style rest).map (.literal char :: ·)

theorem specials_eq_reserved (style : PatternStyle) : style.specials = style.reserved := by
  cases style <;> rfl

theorem items?_anything_append (style : PatternStyle) (rest : List Char) :
    style.items? (style.anything ++ rest) = (style.items? rest).map (.anything :: ·) := by
  cases style <;> rfl

theorem items?_cons_of_not_reserved {style : PatternStyle} {char : Char}
    (plain : char ∉ style.reserved) (rest : List Char) :
    style.items? (char :: rest) = (style.items? rest).map (.literal char :: ·) := by
  rw [items?, if_neg plain]
  · rintro next later rfl _
    cases style <;> exact plain (by decide)
  · rintro later rfl rfl _
    exact plain (by decide)
  · rintro rfl rfl
    exact plain (by decide)

theorem items?_escape_append (style : PatternStyle) (text rest : List Char) :
    style.items? (style.escape text ++ rest) =
      (style.items? rest).map (text.map .literal ++ ·) := by
  induction text with
  | nil => simp [escape]
  | cons char text ih =>
      have later : ((style.items? rest).map (text.map .literal ++ ·)).map (.literal char :: ·) =
          (style.items? rest).map ((char :: text).map .literal ++ ·) := by
        rw [Option.map_map]
        rfl
      rw [← later, ← ih, escape, List.flatMap_cons, List.append_assoc]
      by_cases special : char ∈ style.reserved
      · rw [if_pos (by simpa [specials_eq_reserved] using special)]
        rfl
      · rw [if_neg (by simpa [specials_eq_reserved] using special)]
        exact items?_cons_of_not_reserved special _

theorem items?_wrap (style : PatternStyle) (value : String) :
    style.items? (style.wrap value).toList =
      some (.anything :: (value.toList.map .literal ++ [.anything])) := by
  have ending : style.items? style.anything = some [.anything] := by
    cases style <;> rfl
  rw [wrap, String.toList_ofList, List.append_assoc, items?_anything_append, items?_escape_append,
    ending]
  rfl

end PatternStyle

namespace PatternItem

theorem matches_literals_append {items : List PatternItem} {text whole : List Char} :
    Matches (text.map .literal ++ items) whole ↔
      ∃ rest, whole = text ++ rest ∧ Matches items rest := by
  induction text generalizing whole with
  | nil => simp
  | cons char text ih =>
      simp only [List.map_cons, List.cons_append, Matches, ih]
      constructor
      · rintro ⟨_, rfl, rest, rfl, matched⟩
        exact ⟨rest, rfl, matched⟩
      · rintro ⟨rest, rfl, matched⟩
        exact ⟨text ++ rest, rfl, rest, rfl, matched⟩

theorem matches_anything (text : List Char) : Matches [anything] text := by
  refine ⟨text, [], ?_, rfl⟩
  rw [List.append_nil]

theorem matches_containing_iff {value text : List Char} :
    Matches (anything :: (value.map literal ++ [anything])) text ↔ value <:+: text := by
  simp only [Matches, matches_literals_append]
  constructor
  · rintro ⟨before, _, rfl, after, rfl, _⟩
    exact ⟨before, after, by rw [List.append_assoc]⟩
  · rintro ⟨before, after, rfl⟩
    exact ⟨before, value ++ after, by rw [List.append_assoc], after, rfl, matches_anything after⟩

end PatternItem

namespace PatternStyle

def Matches (style : PatternStyle) (pattern text : String) : Prop :=
  ∃ items, style.items? pattern.toList = some items ∧ PatternItem.Matches items text.toList

theorem wrap_matches_iff (style : PatternStyle) (value text : String) :
    style.Matches (style.wrap value) text ↔ value.toList <:+: text.toList := by
  rw [Matches, items?_wrap, ← PatternItem.matches_containing_iff]
  constructor
  · rintro ⟨items, read, matched⟩
    cases read
    exact matched
  · intro matched
    exact ⟨_, rfl, matched⟩

end PatternStyle

end ResourceFilter
