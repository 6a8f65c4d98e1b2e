import Mathlib.Data.Nat.Digits.Lemmas
import Mathlib.Tactic.Tauto

/-!
Numbers that are written with a fixed count of decimal digits. Such texts stand in the order of
their numbers, so that a number has one of them only.
-/

namespace ResourceFilter

def digitValue (digit : Char) : Nat :=
  digit.toNat - '0'.toNat

/-- Holds of a text of so many ASCII digits and the number that it writes. -/
structure WritesNumber (count : Nat) (digits : List Char) (number : Nat) : Prop where
  length : digits.length = count
  isDigit : ∀ digit ∈ digits, '0' ≤ digit ∧ digit ≤ '9'
  value : Nat.ofDigits 10 (digits.reverse.map digitValue) = number

theorem isDigit_iff {char : Char} : char.isDigit = true ↔ '0' ≤ char ∧ char ≤ '9' :=
  Char.isDigit_iff_toNat

theorem toNat_of_isDigit {digit : Char} (isDigit : '0' ≤ digit ∧ digit ≤ '9') :
    48 ≤ digit.toNat ∧ digit.toNat ≤ 57 :=
  Char.isDigit_iff_toNat.mp (isDigit_iff.mpr isDigit)

theorem digitValue_lt {digit : Char} (isDigit : '0' ≤ digit ∧ digit ≤ '9') :
    digitValue digit < 10 := by
  have bounds := toNat_of_isDigit isDigit
  have zero : '0'.toNat = 48 := rfl
  rw [digitValue]
  omega

theorem lt_iff_digitValue_lt {left right : Char} (isDigit : '0' ≤ left ∧ left ≤ '9')
    (alsoDigit : '0' ≤ right ∧ right ≤ '9') :
    left < right ↔ digitValue left < digitValue right := by
  have bounds := toNat_of_isDigit isDigit
  have alsoBounds := toNat_of_isDigit alsoDigit
  have order : left < right ↔ left.toNat < right.toNat := Iff.rfl
  have zero : '0'.toNat = 48 := rfl
  rw [digitValue, digitValue, order]
  omega

/-- Texts with a first part of the same length are ordered by this part, then by the rest. -/
theorem append_lt_append_iff_of_length_eq {first second firstRest secondRest : List Char}
    (sameLength : first.length = second.length) :
    first ++ firstRest < second ++ secondRest ↔
      first < second ∨ first = second ∧ firstRest < secondRest := by
  induction first generalizing second with
  | nil =>
      obtain rfl := List.length_eq_zero_iff.mp sameLength.symm
      simp
  | cons char first ih =>
      obtain ⟨other, second, rfl⟩ := List.exists_cons_of_length_eq_add_one sameLength.symm
      have sameRest : first.length = second.length := by simpa using sameLength
      rw [List.cons_append, List.cons_append, List.cons_lt_cons_iff, List.cons_lt_cons_iff,
        ih sameRest, List.cons.injEq]
      tauto

namespace WritesNumber

variable {count number other : Nat} {digits others : List Char}

theorem ofDigits_eq_foldl (digits : List Char) :
    Nat.ofDigits 10 (digits.reverse.map digitValue) =
      digits.foldl (fun number digit => 10 * number + digitValue digit) 0 := by
  rw [Nat.ofDigits_eq_foldr, List.foldr_map, List.foldr_reverse]
  simp only [Nat.cast_id, Nat.add_comm]

theorem number_lt (writes : WritesNumber count digits number) : number < 10 ^ count := by
  have small : ∀ value ∈ digits.reverse.map digitValue, value < 10 := by
    intro value member
    obtain ⟨digit, digitMember, rfl⟩ := List.mem_map.mp member
    exact digitValue_lt (writes.isDigit digit (List.mem_reverse.mp digitMember))
  have bound := Nat.ofDigits_lt_base_pow_length (by decide) small
  rwa [writes.value, List.length_map, List.length_reverse, writes.length] at bound

theorem cons_iff {digit : Char} :
    WritesNumber (count + 1) (digit :: digits) number ↔
      ('0' ≤ digit ∧ digit ≤ '9') ∧
        ∃ rest, WritesNumber count digits rest ∧ number = rest + 10 ^ count * digitValue digit := by
  have split : Nat.ofDigits 10 ((digit :: digits).reverse.map digitValue) =
      Nat.ofDigits 10 (digits.reverse.map digitValue) +
        10 ^ digits.length * digitValue digit := by
    simpa using Nat.ofDigits_reverse_cons (b := 10) (digits.map digitValue) (digitValue digit)
  constructor
  · rintro ⟨length, isDigit, value⟩
    obtain ⟨first, later⟩ := List.forall_mem_cons.mp isDigit
    have same : digits.length = count := by simpa using length
    refine ⟨first, _, ⟨same, later, rfl⟩, ?_⟩
    rw [← value, split, same]
  · rintro ⟨first, rest, ⟨length, isDigit, value⟩, rfl⟩
    refine ⟨by rw [List.length_cons, length], List.forall_mem_cons.mpr ⟨first, isDigit⟩, ?_⟩
    rw [split, value, length]

theorem exists_cons (writes : WritesNumber (count + 1) digits number) :
    ∃ digit later rest, digits = digit :: later ∧ ('0' ≤ digit ∧ digit ≤ '9') ∧
      WritesNumber count later rest ∧ number = rest + 10 ^ count * digitValue digit := by
  obtain ⟨digit, later, rfl⟩ := List.exists_cons_of_length_eq_add_one writes.length
  obtain ⟨first, rest, writesRest, split⟩ := cons_iff.mp writes
  exact ⟨digit, later, rest, rfl, first, writesRest, split⟩

theorem lt_iff (writes : WritesNumber count digits number)
    (alsoWrites : WritesNumber count others other) : digits < others ↔ number < other := by
  induction count generalizing digits others number other with
  | zero =>
      obtain rfl := List.length_eq_zero_iff.mp writes.length
      obtain rfl := List.length_eq_zero_iff.mp alsoWrites.length
      rw [← writes.value, ← alsoWrites.value]
      simp
  | succ count ih =>
      obtain ⟨digit, later, rest, rfl, isDigit, writesRest, rfl⟩ := writes.exists_cons
      obtain ⟨alsoDigit, alsoLater, alsoRest, rfl, isAlsoDigit, alsoWritesRest, rfl⟩ :=
        alsoWrites.exists_cons
      have below := writesRest.number_lt
      have alsoBelow := alsoWritesRest.number_lt
      rw [List.cons_lt_cons_iff, ih writesRest alsoWritesRest,
        lt_iff_digitValue_lt isDigit isAlsoDigit]
      rcases Nat.lt_trichotomy (digitValue digit) (digitValue alsoDigit) with
        less | equal | more
      · have step := Nat.mul_le_mul_left (10 ^ count) (Nat.succ_le_of_lt less)
        rw [Nat.mul_succ] at step
        constructor
        · intro
          omega
        · intro
          exact .inl less
      · have same : digit = alsoDigit := by
          have notLess := (lt_iff_digitValue_lt isDigit isAlsoDigit).not.mpr (by omega)
          have notMore := (lt_iff_digitValue_lt isAlsoDigit isDigit).not.mpr (by omega)
          exact Char.le_antisymm (Char.not_lt.mp notMore) (Char.not_lt.mp notLess)
        subst same
        simp
      · have step := Nat.mul_le_mul_left (10 ^ count) (Nat.succ_le_of_lt more)
        rw [Nat.mul_succ] at step
        constructor
        · rintro (less | ⟨rfl, _⟩)
          · omega
          · omega
        · intro
          omega

theorem eq_iff (writes : WritesNumber count digits number)
    (alsoWrites : WritesNumber count others other) : digits = others ↔ number = other := by
  constructor
  · rintro rfl
    rw [← writes.value, alsoWrites.value]
  · rintro rfl
    have notLess := (writes.lt_iff alsoWrites).not.mpr (Nat.lt_irrefl number)
    have notMore := (alsoWrites.lt_iff writes).not.mpr (Nat.lt_irrefl number)
    exact List.le_antisymm (List.not_lt.mp notMore) (List.not_lt.mp notLess)

theorem append {more : Nat} (writes : WritesNumber count digits number)
    (alsoWrites : WritesNumber more others other) :
    WritesNumber (count + more) (digits ++ others) (number * 10 ^ more + other) where
  length := by rw [List.length_append, writes.length, alsoWrites.length]
  isDigit := List.forall_mem_append.mpr ⟨writes.isDigit, alsoWrites.isDigit⟩
  value := by
    rw [List.reverse_append, List.map_append, Nat.ofDigits_append, List.length_map,
      List.length_reverse, writes.value, alsoWrites.value, alsoWrites.length]
    ring

theorem append_prefix_append_iff (writes : WritesNumber count digits number)
    (alsoWrites : WritesNumber count others other) (rest otherRest : List Char) :
    digits ++ rest <+: others ++ otherRest ↔ number = other ∧ rest <+: otherRest := by
  rw [← writes.eq_iff alsoWrites]
  constructor
  · rintro ⟨more, whole⟩
    rw [List.append_assoc] at whole
    obtain ⟨rfl, behind⟩ := List.append_inj whole (by rw [writes.length, alsoWrites.length])
    exact ⟨rfl, more, behind⟩
  · rintro ⟨rfl, continued⟩
    exact (List.prefix_append_right_inj digits).mpr continued

theorem prefix_append_iff (writes : WritesNumber count digits number)
    (alsoWrites : WritesNumber count others other) (rest : List Char) :
    digits <+: others ++ rest ↔ number = other := by
  have ended := writes.append_prefix_append_iff alsoWrites [] rest
  simpa using ended

theorem append_lt_append_iff (writes : WritesNumber count digits number)
    (alsoWrites : WritesNumber count others other) (rest otherRest : List Char) :
    digits ++ rest < others ++ otherRest ↔
      number < other ∨ number = other ∧ rest < otherRest := by
  rw [← writes.lt_iff alsoWrites, ← writes.eq_iff alsoWrites]
  exact append_lt_append_iff_of_length_eq (by rw [writes.length, alsoWrites.length])

end WritesNumber

end ResourceFilter
