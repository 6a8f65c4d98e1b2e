import ResourceFilter.Dialect

/-!
The operators of derived dialects: those of the base that no change has taken away.
-/

namespace ResourceFilter

namespace Dialect

theorem lookup_filter {Value : Type} (kept : Operator → Bool) (entries : List (Operator × Value))
    (operator : Operator) :
    (entries.filter fun entry => kept entry.1).lookup operator =
      if kept operator = true then entries.lookup operator else none := by
  induction entries with
  | nil => simp
  | cons entry rest ih =>
      obtain ⟨other, value⟩ := entry
      rw [List.filter_cons]
      by_cases same : operator = other
      · subst same
        by_cases isKept : kept operator = true <;> simp [isKept, ih]
      · have differs : (operator == other) = false := beq_eq_false_iff_ne.mpr same
        rw [List.lookup_cons, differs, ← ih]
        by_cases isKept : kept other = true <;> simp [isKept, List.lookup_cons, differs]

variable (base : Dialect) (changes : List Change)

theorem token?_derive (operator : Operator) :
    (base.derive changes).token? operator =
      if operator ∈ removed changes then none else base.token? operator := by
  rw [derive_eq, token?, lookup_filter fun other => !(removed changes).contains other]
  by_cases denied : operator ∈ removed changes <;> simp [denied, token?]

theorem operator?_derive (symbol : String) :
    (base.derive changes).operator? symbol =
      (base.operator? symbol).filter fun operator => operator ∉ removed changes := by
  rw [operator?, operator?, Option.filter_filter]
  congr 1
  funext operator
  by_cases denied : operator ∈ removed changes <;> simp [supports, token?_derive, denied]

end Dialect

end ResourceFilter
