import Mathlib.Data.List.Chain
import ResourceFilter.Token

/-!
The classes of token characters do not overlap, so the order in which they are tested does not
matter.
-/

namespace ResourceFilter

theorem toNat_of_isWordChar {char : Char} (isWord : isWordChar char = true) :
    (48 ≤ char.toNat ∧ char.toNat ≤ 57) ∨ (65 ≤ char.toNat ∧ char.toNat ≤ 90) ∨
      (97 ≤ char.toNat ∧ char.toNat ≤ 122) ∨ char.toNat = 95 ∨ char.toNat = 45 := by
  have upper : char.isUpper = true → 65 ≤ char.toNat ∧ char.toNat ≤ 90 :=
    fun held => of_decide_eq_true held
  have lower : char.isLower = true → 97 ≤ char.toNat ∧ char.toNat ≤ 122 := by
    intro held
    obtain ⟨above, below⟩ := Bool.and_eq_true_iff.mp held
    exact ⟨of_decide_eq_true above, of_decide_eq_true below⟩
  have digit : char.isDigit = true → 48 ≤ char.toNat ∧ char.toNat ≤ 57 :=
    Char.isDigit_iff_toNat.mp
  have alphanumeric : char.isAlphanum = ((char.isUpper || char.isLower) || char.isDigit) := rfl
  rw [isWordChar, alphanumeric] at isWord
  simp only [Bool.or_eq_true, beq_iff_eq] at isWord
  rcases isWord with (((isUpper | isLower) | isDigit) | rfl) | rfl
  · exact .inr (.inl (upper isUpper))
  · exact .inr (.inr (.inl (lower isLower)))
  · exact .inl (digit isDigit)
  · simp
  · simp

theorem toNat_of_isBlank {char : Char} (blank : isBlank char = true) :
    (9 ≤ char.toNat ∧ char.toNat ≤ 13) ∨ char.toNat = 32 ∨ 133 ≤ char.toNat := by
  simp only [isBlank, Bool.or_eq_true, Bool.and_eq_true, decide_eq_true_eq, beq_iff_eq] at blank
  omega

theorem toNat_of_isSymbolChar {char : Char} (symbolic : isSymbolChar char = true) :
    ((33 ≤ char.toNat ∧ char.toNat ≤ 47) ∨ (58 ≤ char.toNat ∧ char.toNat ≤ 64) ∨
      (91 ≤ char.toNat ∧ char.toNat ≤ 96) ∨ (123 ≤ char.toNat ∧ char.toNat ≤ 126)) ∧
      char.toNat ≠ 44 ∧ char.toNat ≠ 59 ∧ char.toNat ≠ 45 ∧ char.toNat ≠ 95 := by
  simp only [isSymbolChar, Bool.and_eq_true, Bool.or_eq_true, decide_eq_true_eq,
    Bool.not_eq_true', Bool.or_eq_false_iff, beq_eq_false_iff_ne, ne_eq, ← Char.toNat_inj,
    Char.reduceToNat] at symbolic
  omega

theorem ofChar?_eq_none_iff {char : Char} :
    Combinator.ofChar? char = none ↔ char.toNat ≠ 44 ∧ char.toNat ≠ 59 := by
  rw [Combinator.ofChar?]
  simp only [← Char.toNat_inj, Char.reduceToNat]
  split
  · simp_all
  · split <;> simp_all

namespace CharClass

def IsRun (charClass : CharClass) : Prop :=
  charClass = .blank ∨ charClass = .word ∨ charClass = .symbol

/-- Holds of the classes of two neighbours that do not belong to one piece. -/
def Apart (left right : CharClass) : Prop :=
  left = right → ¬left.IsRun

theorem of_eq_blank_iff {char : Char} : of char = .blank ↔ isBlank char = true := by
  unfold of
  split
  · simp_all
  · split
    · simp_all
    · split
      · simp_all
      · split <;> simp_all

theorem of_eq_combinator_iff {char : Char} {which : Combinator} :
    of char = .combinator which ↔ char = which.symbol := by
  constructor
  · intro classified
    unfold of at classified
    grind [Combinator.ofChar?_eq_some_iff]
  · rintro rfl
    cases which <;> rfl

theorem of_eq_word_iff {char : Char} : of char = .word ↔ isWordChar char = true := by
  constructor
  · intro classified
    unfold of at classified
    grind
  · intro isWord
    have range := toNat_of_isWordChar isWord
    have notBlank : isBlank char = false := by
      by_contra blank
      have other := toNat_of_isBlank (Bool.of_not_eq_false blank)
      omega
    have notCombinator : Combinator.ofChar? char = none :=
      ofChar?_eq_none_iff.mpr (by omega)
    simp [of, notBlank, notCombinator, isWord]

theorem of_eq_symbol_iff {char : Char} : of char = .symbol ↔ isSymbolChar char = true := by
  constructor
  · intro classified
    unfold of at classified
    grind
  · intro symbolic
    have range := toNat_of_isSymbolChar symbolic
    have notBlank : isBlank char = false := by
      by_contra blank
      have other := toNat_of_isBlank (Bool.of_not_eq_false blank)
      omega
    have notCombinator : Combinator.ofChar? char = none :=
      ofChar?_eq_none_iff.mpr (by omega)
    have notWord : isWordChar char = false := by
      by_contra isWord
      have other := toNat_of_isWordChar (Bool.of_not_eq_false isWord)
      omega
    simp [of, notBlank, notCombinator, notWord, symbolic]

theorem of_eq_stray_iff {char : Char} :
    of char = .stray ↔ isBlank char = false ∧ Combinator.ofChar? char = none ∧
      isWordChar char = false ∧ isSymbolChar char = false := by
  unfold of
  grind

end CharClass

end ResourceFilter
