import ResourceFilter.Text.EditDistance

/-!
What the edit distance counts. An edit inserts, deletes or replaces one character anywhere in a
text; the distance of two texts is the least number of edits that lead from one to the other.
-/

namespace ResourceFilter

inductive Edit : List Char → List Char → Prop
  | insert (before after : List Char) (char : Char) :
      Edit (before ++ after) (before ++ char :: after)
  | delete (before after : List Char) (char : Char) :
      Edit (before ++ char :: after) (before ++ after)
  | replace (before after : List Char) (char other : Char) :
      Edit (before ++ char :: after) (before ++ other :: after)

inductive Edits : Nat → List Char → List Char → Prop
  | none (text : List Char) : Edits 0 text text
  | step {count : Nat} {source middle target : List Char} : Edit source middle →
      Edits count middle target → Edits (count + 1) source target

variable {source target : List Char}

namespace EditDistance

def row (source target : List Char) : List Nat :=
  source.foldr (fun char below => nextRow char target below) (firstRow target)

theorem row_cons_left (char : Char) (source target : List Char) :
    row (char :: source) target = nextRow char target (row source target) :=
  rfl

theorem tail_row (source : List Char) (char : Char) (target : List Char) :
    (row source (char :: target)).tail = row source target := by
  induction source with
  | nil => rfl
  | cons first source ih =>
      rw [row_cons_left, row_cons_left, nextRow, List.tail_cons, ih]

end EditDistance

open EditDistance

theorem editDistance_nil_left (target : List Char) : editDistance [] target = target.length := by
  cases target <;> rfl

theorem editDistance_nil_right (source : List Char) : editDistance source [] = source.length := by
  induction source with
  | nil => rfl
  | cons char source ih =>
      have step : editDistance (char :: source) [] = editDistance source [] + 1 := rfl
      rw [step, ih, List.length_cons]

theorem editDistance_cons_cons (char other : Char) (source target : List Char) :
    editDistance (char :: source) (other :: target) =
      if char = other then editDistance source target
      else 1 + min (editDistance source target)
        (min (editDistance source (other :: target)) (editDistance (char :: source) target)) := by
  have whole (left right : List Char) : editDistance left right = (row left right).headD 0 := rfl
  simp only [whole, row_cons_left, nextRow, List.headD_cons, tail_row]

theorem editDistance_self (text : List Char) : editDistance text text = 0 := by
  induction text with
  | nil => rfl
  | cons char text ih => rw [editDistance_cons_cons, if_pos rfl, ih]

theorem editDistance_comm (source target : List Char) :
    editDistance source target = editDistance target source := by
  induction source generalizing target with
  | nil => rw [editDistance_nil_left, editDistance_nil_right]
  | cons char source outer =>
      induction target with
      | nil => rw [editDistance_nil_left, editDistance_nil_right]
      | cons other target inner =>
          rw [editDistance_cons_cons, editDistance_cons_cons, outer target,
            outer (other :: target), inner]
          by_cases same : char = other
          · rw [if_pos same, if_pos same.symm]
          · rw [if_neg same, if_neg (Ne.symm same)]
            omega

theorem editDistance_cons_right_le (source : List Char) (char : Char) (target : List Char)
    (shorter : ∀ (first : Char) (rest : List Char),
      editDistance rest target ≤ editDistance (first :: rest) target + 1) :
    editDistance source (char :: target) ≤ editDistance source target + 1 := by
  cases source with
  | nil => simp only [editDistance_nil_left, List.length_cons, Nat.le_refl]
  | cons first rest =>
      rw [editDistance_cons_cons]
      split
      · exact shorter first rest
      · omega

theorem editDistance_le_cons (char : Char) (source target : List Char) :
    editDistance source target ≤ editDistance (char :: source) target + 1 := by
  induction target generalizing char source with
  | nil =>
      simp only [editDistance_nil_right, List.length_cons]
      omega
  | cons other target ih =>
      have grows := editDistance_cons_right_le source other target ih
      have shrinks := ih char source
      rw [editDistance_cons_cons]
      split <;> omega

theorem editDistance_cons_le (char : Char) (source target : List Char) :
    editDistance (char :: source) target ≤ editDistance source target + 1 := by
  rw [editDistance_comm, editDistance_comm source]
  exact editDistance_cons_right_le target char source fun first rest =>
    editDistance_le_cons first rest source

theorem editDistance_replace_le (char other : Char) (source target : List Char) :
    editDistance (char :: source) target ≤ editDistance (other :: source) target + 1 := by
  induction target with
  | nil => simp only [editDistance_nil_right, List.length_cons, Nat.le_succ]
  | cons first target ih =>
      have without : editDistance source target ≤ editDistance source (first :: target) + 1 := by
        rw [editDistance_comm source, editDistance_comm source]
        exact editDistance_le_cons first target source
      have dropped := editDistance_le_cons other source target
      rw [editDistance_cons_cons, editDistance_cons_cons]
      split <;> split <;> omega

theorem editDistance_cons_le_cons {middle : List Char} (char : Char)
    (near : ∀ target, editDistance source target ≤ editDistance middle target + 1) :
    editDistance (char :: source) target ≤ editDistance (char :: middle) target + 1 := by
  induction target with
  | nil =>
      have lengths := near []
      simp only [editDistance_nil_right, List.length_cons] at lengths ⊢
      omega
  | cons other target ih =>
      have kept := near target
      have whole := near (other :: target)
      rw [editDistance_cons_cons, editDistance_cons_cons]
      split <;> omega

theorem editDistance_append_le_append {middle : List Char} (before : List Char)
    (near : ∀ target, editDistance source target ≤ editDistance middle target + 1)
    (target : List Char) :
    editDistance (before ++ source) target ≤ editDistance (before ++ middle) target + 1 := by
  induction before generalizing target with
  | nil => exact near target
  | cons char before ih => exact editDistance_cons_le_cons char ih

theorem Edit.editDistance_le {middle : List Char} (edit : Edit source middle)
    (target : List Char) : editDistance source target ≤ editDistance middle target + 1 := by
  cases edit with
  | insert before after char =>
      exact editDistance_append_le_append before (editDistance_le_cons char after) target
  | delete before after char =>
      exact editDistance_append_le_append before (editDistance_cons_le char after) target
  | replace before after char other =>
      exact editDistance_append_le_append before (editDistance_replace_le char other after) target

theorem Edits.editDistance_le {count : Nat} (edits : Edits count source target) :
    editDistance source target ≤ count := by
  induction edits with
  | none text => exact Nat.le_of_eq (editDistance_self text)
  | step edit later ih => exact Nat.le_trans (edit.editDistance_le _) (Nat.succ_le_succ ih)

theorem Edit.cons {middle : List Char} (char : Char) (edit : Edit source middle) :
    Edit (char :: source) (char :: middle) := by
  cases edit with
  | insert before after added => exact .insert (char :: before) after added
  | delete before after removed => exact .delete (char :: before) after removed
  | replace before after old new => exact .replace (char :: before) after old new

theorem Edits.cons {count : Nat} (char : Char) (edits : Edits count source target) :
    Edits count (char :: source) (char :: target) := by
  induction edits with
  | none text => exact .none (char :: text)
  | step edit _ ih => exact .step (edit.cons char) ih

/-- The way along which the distance is computed is a way of edits. -/
theorem edits_editDistance (source target : List Char) :
    Edits (editDistance source target) source target := by
  induction source generalizing target with
  | nil =>
      induction target with
      | nil => exact .none []
      | cons other target inner =>
          rw [editDistance_nil_left] at inner ⊢
          exact .step (.insert [] [] other) (inner.cons other)
  | cons char source outer =>
      induction target with
      | nil =>
          have deleted := outer []
          rw [editDistance_nil_right] at deleted ⊢
          exact .step (.delete [] source char) deleted
      | cons other target inner =>
          rw [editDistance_cons_cons]
          split
          · rename_i same
            exact same ▸ (outer target).cons char
          · rw [Nat.add_comm]
            -- Each of the three entries at hand is one edit away; the least of them is taken.
            have replaced : Edits (editDistance source target + 1) (char :: source)
                (other :: target) :=
              .step (.replace [] source char other) ((outer target).cons other)
            have deleted : Edits (editDistance source (other :: target) + 1) (char :: source)
                (other :: target) :=
              .step (.delete [] source char) (outer (other :: target))
            have inserted : Edits (editDistance (char :: source) target + 1) (char :: source)
                (other :: target) :=
              .step (.insert [] (char :: source) other) (inner.cons other)
            rcases Nat.le_total (editDistance source target)
              (min (editDistance source (other :: target)) (editDistance (char :: source) target))
              with replacing | moving
            · rwa [Nat.min_eq_left replacing]
            · rw [Nat.min_eq_right moving]
              rcases Nat.le_total (editDistance source (other :: target))
                (editDistance (char :: source) target) with deleting | inserting
              · rwa [Nat.min_eq_left deleting]
              · rwa [Nat.min_eq_right inserting]

/-- No shorter way of edits leads from one text to the other than one of as many edits as the
distance, and there is such a way. -/
theorem editDistance_eq_iff {count : Nat} :
    editDistance source target = count ↔
      Edits count source target ∧ ∀ other, Edits other source target → count ≤ other := by
  constructor
  · rintro rfl
    exact ⟨edits_editDistance source target, fun _ edits => edits.editDistance_le⟩
  · rintro ⟨edits, least⟩
    exact Nat.le_antisymm edits.editDistance_le (least _ (edits_editDistance source target))

end ResourceFilter
