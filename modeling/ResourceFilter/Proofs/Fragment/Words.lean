import ResourceFilter.Dialect.Quoting

/-!
The words of a fragment: what blanks separate, save for the blanks inside literals.
-/

namespace ResourceFilter

inductive Place
  | outside
  | inside
  | escaped
  deriving DecidableEq, Repr

namespace Place

def next (quotes : QuoteStyle) (place : Place) (char : Char) : Place :=
  match place with
  | outside => if char = QuoteStyle.mark then inside else outside
  | inside =>
      if quotes = .backslash ∧ char = '\\' then escaped
      else if char = QuoteStyle.mark then outside
      else inside
  | escaped => inside

def behind (quotes : QuoteStyle) (place : Place) (text : List Char) : Place :=
  text.foldl (next quotes) place

/-- The words of a text; the first of them goes on from what stands before the text. -/
def words (quotes : QuoteStyle) : Place → List Char → List (List Char)
  | _, [] => [[]]
  | place, char :: rest =>
      if place = outside ∧ char = ' ' then [] :: words quotes outside rest
      else (words quotes (place.next quotes char) rest).modifyHead (char :: ·)

variable {quotes : QuoteStyle} {start stop : Place}

theorem words_ne_nil (quotes : QuoteStyle) (place : Place) (text : List Char) :
    words quotes place text ≠ [] := by
  induction text generalizing place with
  | nil => simp [words]
  | cons char rest ih =>
      rw [words]
      split
      · simp
      · rw [ne_eq, List.modifyHead_eq_nil_iff]
        exact ih _

theorem modifyHead_append_of_ne_nil {α : Type} {first second : List α} (nonempty : first ≠ [])
    (change : α → α) : (first ++ second).modifyHead change = first.modifyHead change ++ second := by
  cases first with
  | nil => contradiction
  | cons head tail => rfl

theorem words_append_blank {text : List Char} (ends : start.behind quotes text = outside)
    (rest : List Char) :
    words quotes start (text ++ ' ' :: rest) =
      words quotes start text ++ words quotes outside rest := by
  induction text generalizing start with
  | nil =>
      have outside : start = .outside := ends
      simp [words, outside]
  | cons char text ih =>
      rw [behind, List.foldl_cons] at ends
      rw [List.cons_append, words, words]
      split
      · rename_i separates
        obtain ⟨rfl, rfl⟩ := separates
        have stays : next quotes outside ' ' = outside := rfl
        rw [stays] at ends
        rw [ih ends, List.cons_append]
      · rw [ih ends, modifyHead_append_of_ne_nil (words_ne_nil quotes _ _)]

theorem intercalate_words (quotes : QuoteStyle) (place : Place) (text : List Char) :
    [' '].intercalate (words quotes place text) = text := by
  induction text generalizing place with
  | nil => rfl
  | cons char rest ih =>
      rw [words]
      split
      · rename_i separates
        rw [List.intercalate_cons_of_ne_nil (words_ne_nil quotes _ _), ih, separates.2]
        rfl
      · have whole := ih (place.next quotes char)
        cases split : words quotes (place.next quotes char) rest with
        | nil => exact absurd split (words_ne_nil quotes _ _)
        | cons first more =>
            rw [split] at whole
            rw [← whole, List.modifyHead_cons, List.intercalate_cons_cons_left]

/-- Holds of the texts that are part of one word, for a reader that is at one place before them
and at another one behind. -/
structure Unbroken (quotes : QuoteStyle) (start : Place) (text : List Char) (stop : Place) :
    Prop where
  words_append : ∀ rest, words quotes start (text ++ rest) =
    (words quotes stop rest).modifyHead (text ++ ·)

namespace Unbroken

theorem nil (quotes : QuoteStyle) (place : Place) : Unbroken quotes place [] place := by
  constructor
  intro rest
  cases split : words quotes place rest with
  | nil => exact absurd split (words_ne_nil quotes _ _)
  | cons first more => simp [split]

theorem append {first second : List Char} {middle : Place}
    (before : Unbroken quotes start first middle) (after : Unbroken quotes middle second stop) :
    Unbroken quotes start (first ++ second) stop := by
  constructor
  intro rest
  rw [List.append_assoc, before.words_append, after.words_append, List.modifyHead_modifyHead]
  simp only [Function.comp_def, List.append_assoc]

theorem cons {char : Char} {text : List Char} (goesOn : ¬(start = outside ∧ char = ' '))
    (after : Unbroken quotes (start.next quotes char) text stop) :
    Unbroken quotes start (char :: text) stop := by
  constructor
  intro rest
  rw [List.cons_append, words, if_neg goesOn, after.words_append, List.modifyHead_modifyHead]
  rfl

theorem of_plain (quotes : QuoteStyle) {text : List Char}
    (plain : ∀ char ∈ text, char ≠ ' ' ∧ char ≠ QuoteStyle.mark) :
    Unbroken quotes outside text outside := by
  induction text with
  | nil => exact nil quotes outside
  | cons char text ih =>
      obtain ⟨notBlank, notMark⟩ := plain char List.mem_cons_self
      have stays : outside.next quotes char = outside := if_neg notMark
      refine cons (fun separates => notBlank separates.2) ?_
      rw [stays]
      exact ih fun other member => plain other (List.mem_cons_of_mem _ member)

theorem escapeChar (quotes : QuoteStyle) (char : Char) :
    Unbroken quotes inside (quotes.escapeChar char) inside := by
  have within {place : Place} {char : Char} (elsewhere : place ≠ outside) :
      ¬(place = outside ∧ char = ' ') := fun separates => elsewhere separates.1
  have isInside : inside ≠ outside := by decide
  have isEscaped : escaped ≠ outside := by decide
  cases quotes with
  | backslash =>
      by_cases special : char = '\\' ∨ char = QuoteStyle.mark
      · rw [QuoteStyle.escapeChar, if_pos special]
        exact cons (within isInside) (cons (within isEscaped) (nil _ _))
      · obtain ⟨notBackslash, notMark⟩ := not_or.mp special
        rw [QuoteStyle.escapeChar, if_neg special]
        have stays : inside.next .backslash char = inside := by
          simp [next, notBackslash, notMark]
        refine cons (within isInside) ?_
        rw [stays]
        exact nil _ _
  | doubled =>
      by_cases special : char = QuoteStyle.mark
      · rw [QuoteStyle.escapeChar, if_pos special]
        have closes : ¬(outside = outside ∧ QuoteStyle.mark = ' ') := by decide
        exact cons (within isInside) (cons closes (nil _ _))
      · rw [QuoteStyle.escapeChar, if_neg special]
        have stays : inside.next .doubled char = inside := by
          simp [next, special]
        refine cons (within isInside) ?_
        rw [stays]
        exact nil _ _

theorem escape (quotes : QuoteStyle) (text : List Char) :
    Unbroken quotes inside (quotes.escape text) inside := by
  induction text with
  | nil => exact nil quotes inside
  | cons char text ih =>
      rw [QuoteStyle.escape, List.flatMap_cons]
      exact append (escapeChar quotes char) ih

theorem quote (quotes : QuoteStyle) (value : String) :
    Unbroken quotes outside (quotes.quote value).toList outside := by
  have opens : ¬(outside = outside ∧ QuoteStyle.mark = ' ') := by decide
  have closes : ¬(inside = outside ∧ QuoteStyle.mark = ' ') := by decide
  rw [QuoteStyle.quote, String.toList_ofList, List.cons_append]
  apply cons opens
  apply append (escape quotes value.toList)
  apply cons closes
  cases quotes <;> exact nil _ _

theorem words_append_blank {text : List Char} (unbroken : Unbroken quotes outside text outside)
    (rest : List Char) :
    words quotes outside (text ++ ' ' :: rest) = text :: words quotes outside rest := by
  rw [unbroken.words_append, words, if_pos ⟨rfl, rfl⟩, List.modifyHead_cons, List.append_nil]

theorem words_eq {text : List Char} (unbroken : Unbroken quotes outside text outside) :
    words quotes outside text = [text] := by
  have alone := unbroken.words_append []
  rwa [List.append_nil, words, List.modifyHead_cons, List.append_nil] at alone

end Unbroken

end Place

end ResourceFilter
