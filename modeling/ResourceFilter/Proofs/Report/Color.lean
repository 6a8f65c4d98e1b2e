import Mathlib.Data.List.Basic
import ResourceFilter.Proofs.Text.Decimal
import ResourceFilter.Report.Layout

/-!
Color sequences in a text, and the text without them.
-/

namespace ResourceFilter

/-- What stands behind a color sequence that a text starts with: an escape sign, a bracket, digits
and the letter `m`. -/
def colorRest? : List Char → Option (List Char)
  | '\x1b' :: '[' :: digit :: rest =>
      if digit.isDigit then
        match rest.dropWhile Char.isDigit with
        | 'm' :: behind => some behind
        | _ => none
      else none
  | _ => none

theorem length_lt_of_colorRest? {text behind : List Char}
    (found : colorRest? text = some behind) : behind.length < text.length := by
  unfold colorRest? at found
  split at found
  · rename_i digit rest
    split at found
    · split at found
      · rename_i more whole
        cases found
        have shorter := (List.dropWhile_suffix Char.isDigit (l := rest)).length_le
        rw [whole, List.length_cons] at shorter
        simp only [List.length_cons]
        omega
      · cases found
    · cases found
  · cases found

def dropColors : List Char → List Char
  | [] => []
  | char :: rest =>
      match _ : colorRest? (char :: rest) with
      | some behind => dropColors behind
      | none => char :: dropColors rest
termination_by text => text.length
decreasing_by
  · exact length_lt_of_colorRest? (by assumption)
  · simp

def withoutColors (text : String) : String :=
  String.ofList (dropColors text.toList)

def IsColorless (text : String) : Prop :=
  '\x1b' ∉ text.toList

instance (text : String) : Decidable (IsColorless text) :=
  inferInstanceAs (Decidable ('\x1b' ∉ text.toList))

namespace IsColorless

@[simp]
theorem append_iff {first second : String} :
    IsColorless (first ++ second) ↔ IsColorless first ∧ IsColorless second := by
  simp [IsColorless]

@[simp]
theorem ofList_iff {chars : List Char} : IsColorless (String.ofList chars) ↔ '\x1b' ∉ chars := by
  rw [IsColorless, String.toList_ofList]

@[simp]
theorem join_iff {texts : List String} :
    IsColorless (String.join texts) ↔ ∀ text ∈ texts, IsColorless text := by
  simp [IsColorless, String.toList_join]

theorem intercalate {separator : String} {texts : List String} (between : IsColorless separator)
    (each : ∀ text ∈ texts, IsColorless text) : IsColorless (separator.intercalate texts) := by
  induction texts with
  | nil => simp [IsColorless]
  | cons text rest ih =>
      obtain ⟨first, later⟩ := List.forall_mem_cons.mp each
      cases rest with
      | nil => simpa using first
      | cons next rest =>
          rw [String.intercalate_cons_cons, append_iff, append_iff]
          exact ⟨⟨first, between⟩, ih later⟩

@[simp]
theorem toString (number : Nat) : IsColorless (toString number) := by
  rw [IsColorless, toList_toString]
  intro member
  exact absurd (isDigit_of_mem_toDigits member) (by decide)

theorem of_isPart {part text : String} (colorless : IsColorless text)
    (within : part.toList <:+: text.toList) : IsColorless part :=
  fun member => colorless (within.subset member)

end IsColorless

theorem colorRest?_cons_of_ne {char : Char} (differs : char ≠ '\x1b') (rest : List Char) :
    colorRest? (char :: rest) = none := by
  unfold colorRest?
  split
  · rename_i same
    exact absurd (List.cons.inj same).1 differs
  · rfl

theorem dropColors_of_colorRest? {text behind : List Char}
    (found : colorRest? text = some behind) : dropColors text = dropColors behind := by
  cases text with
  | nil => cases found
  | cons char rest =>
      rw [dropColors]
      split
      · rename_i other same
        rw [found] at same
        cases same
        rfl
      · rename_i nothing
        rw [found] at nothing
        cases nothing

theorem dropColors_cons_of_ne {char : Char} (differs : char ≠ '\x1b') (rest : List Char) :
    dropColors (char :: rest) = char :: dropColors rest := by
  rw [dropColors]
  split
  · rename_i found
    rw [colorRest?_cons_of_ne differs] at found
    cases found
  · rfl

theorem dropColors_append {text : List Char} (clean : '\x1b' ∉ text) (rest : List Char) :
    dropColors (text ++ rest) = text ++ dropColors rest := by
  induction text with
  | nil => rfl
  | cons char text ih =>
      obtain ⟨differs, cleanRest⟩ := List.ne_and_not_mem_of_not_mem_cons clean
      rw [List.cons_append, dropColors_cons_of_ne (Ne.symm differs), ih cleanRest,
        List.cons_append]

/-- Holds of two texts, the second of which is the first one without its colors, wherever they
stand. -/
def Fades (colored plain : String) : Prop :=
  ∀ rest, dropColors (colored.toList ++ rest) = plain.toList ++ dropColors rest

namespace Fades

variable {first second firstPlain secondPlain text : String}

theorem append (before : Fades first firstPlain) (after : Fades second secondPlain) :
    Fades (first ++ second) (firstPlain ++ secondPlain) := by
  intro rest
  rw [String.toList_append, List.append_assoc, before, after, String.toList_append,
    List.append_assoc]

theorem of_isColorless (colorless : IsColorless text) : Fades text text :=
  dropColors_append colorless

theorem withoutColors_eq (fades : Fades first firstPlain) : withoutColors first = firstPlain := by
  have alone := fades []
  have nothing : dropColors [] = [] := by rw [dropColors]
  rw [nothing, List.append_nil, List.append_nil] at alone
  rw [withoutColors, alone, String.ofList_toList]

theorem of_colorRest? {mark : String}
    (found : ∀ rest, colorRest? (mark.toList ++ rest) = some rest) : Fades mark "" := by
  intro rest
  rw [dropColors_of_colorRest? (found rest)]
  rfl

theorem emphasis (emphasis : Emphasis) (colors : Bool) (colorless : IsColorless text) :
    Fades (emphasis.apply colors text) text := by
  have around : Fades emphasis.opening "" ∧ Fades emphasis.closing "" := by
    have reset : Fades "\x1b[0m" "" := of_colorRest? fun rest => by simp [colorRest?]
    have bold : Fades "\x1b[1m" "" := of_colorRest? fun rest => by simp [colorRest?]
    cases emphasis with
    | dimmed => exact ⟨of_colorRest? fun rest => by simp [Emphasis.opening, colorRest?], reset⟩
    | bold => exact ⟨bold, reset⟩
    | heading =>
        have green : Fades "\x1b[32m" "" := of_colorRest? fun rest => by simp [colorRest?]
        have normal : Fades "\x1b[39m" "" := of_colorRest? fun rest => by simp [colorRest?]
        exact ⟨bold.append green, normal.append reset⟩
  cases colors with
  | false => exact of_isColorless colorless
  | true =>
      have whole := (around.1.append (of_isColorless colorless)).append around.2
      rwa [String.empty_append, String.append_empty] at whole

end Fades

example : withoutColors "\x1b[1m\x1b[32mname\x1b[39m\x1b[0m [2m" = "name [2m" := by cbv

end ResourceFilter
