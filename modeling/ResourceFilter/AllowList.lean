import ResourceFilter.Clause
import ResourceFilter.FilterError
import ResourceFilter.Text.EditDistance
import ResourceFilter.Text.Lowercase

/-!
Checking the fields of a filter against an allow-list. For a field that is not on the list, the
error suggests the allowed name that comes closest, letter case apart.
-/

namespace ResourceFilter

namespace AllowList

def reach : Nat := 3

def distance (left right : String) : Nat :=
  editDistance (lowercase left.toList) (lowercase right.toList)

/-- The first of the names that come closest to a field, with its distance. -/
def nearest? (field : String) : List String → Option (String × Nat)
  | [] => none
  | name :: rest =>
      let here := distance field name
      match nearest? field rest with
      | some (other, there) => if there < here then some (other, there) else some (name, here)
      | none => some (name, here)

def suggestion? (allowed : List String) (field : String) : Option String :=
  match nearest? field (allowed.filter fun name => !name.isEmpty) with
  | some (name, apart) => if apart ≤ reach then some name else none
  | none => none

def check (allowed : List String) (clauses : List Clause) : Except FilterError Unit :=
  match clauses.find? fun clause => !allowed.contains clause.field with
  | some clause => .error (.disallowedField clause.field (suggestion? allowed clause.field))
  | none => .ok ()

theorem check_eq_ok_iff {allowed : List String} {clauses : List Clause} :
    check allowed clauses = .ok () ↔ ∀ clause ∈ clauses, clause.field ∈ allowed := by
  rw [check]
  cases found : clauses.find? fun clause => !allowed.contains clause.field with
  | none => simpa using found
  | some clause =>
      simp only [reduceCtorEq, false_iff]
      intro all
      have offends := List.find?_some found
      have listed := all clause (List.mem_of_find?_eq_some found)
      simp [listed] at offends

theorem check_eq_error_iff {allowed : List String} {clauses : List Clause} {error : FilterError} :
    check allowed clauses = .error error ↔
      ∃ before clause after, clauses = before ++ clause :: after ∧
        (∀ earlier ∈ before, earlier.field ∈ allowed) ∧ clause.field ∉ allowed ∧
        error = .disallowedField clause.field (suggestion? allowed clause.field) := by
  rw [check]
  cases found : clauses.find? fun clause => !allowed.contains clause.field with
  | none =>
      have allAllowed : ∀ clause ∈ clauses, clause.field ∈ allowed := by simpa using found
      simp only [reduceCtorEq, false_iff]
      rintro ⟨before, clause, after, rfl, _, notAllowed, _⟩
      exact notAllowed (allAllowed clause (by simp))
  | some first =>
      obtain ⟨offends, before, after, split, passed⟩ := List.find?_eq_some_iff_append.mp found
      have firstOffends : first.field ∉ allowed := by simpa using offends
      have earlierAllowed : ∀ earlier ∈ before, earlier.field ∈ allowed := by simpa using passed
      constructor
      · intro refused
        cases refused
        exact ⟨before, first, after, split, earlierAllowed, firstOffends, rfl⟩
      · rintro ⟨others, clause, later, sameSplit, othersAllowed, notAllowed, rfl⟩
        have same : clauses.find? (fun clause => !allowed.contains clause.field) = some clause := by
          refine List.find?_eq_some_iff_append.mpr ⟨?_, others, later, sameSplit, ?_⟩
          · simpa using notAllowed
          · simpa using othersAllowed
        rw [found] at same
        cases same
        rfl

end AllowList

end ResourceFilter
