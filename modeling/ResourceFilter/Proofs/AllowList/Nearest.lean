import ResourceFilter.AllowList

/-!
The name that is suggested for a field. How close it comes depends on which names are allowed, and
not on their order.
-/

namespace ResourceFilter

namespace AllowList

variable {field : String} {names others : List String}

theorem nearest?_eq_none_iff : nearest? field names = none ↔ names = [] := by
  cases names with
  | nil => simp [nearest?]
  | cons name rest =>
      simp only [nearest?, reduceCtorEq, iff_false]
      cases nearest? field rest with
      | none => simp
      | some found =>
          simp only
          split <;> simp

theorem nearest?_eq_some {name : String} {apart : Nat}
    (found : nearest? field names = some (name, apart)) :
    name ∈ names ∧ distance field name = apart ∧
      ∀ other ∈ names, apart ≤ distance field other := by
  induction names generalizing name apart with
  | nil => simp [nearest?] at found
  | cons first rest ih =>
      cases later : nearest? field rest with
      | none =>
          rw [nearest?_eq_none_iff] at later
          subst later
          simp only [nearest?, Option.some.injEq, Prod.mk.injEq] at found
          obtain ⟨rfl, rfl⟩ := found
          simp
      | some closest =>
          obtain ⟨closestName, there⟩ := closest
          obtain ⟨member, exact, least⟩ := ih later
          simp only [nearest?, later] at found
          split at found
          · rename_i closer
            cases found
            refine ⟨List.mem_cons_of_mem _ member, exact, ?_⟩
            intro other among
            rcases List.mem_cons.mp among with rfl | among
            · exact Nat.le_of_lt closer
            · exact least other among
          · rename_i further
            cases found
            refine ⟨List.mem_cons_self, rfl, ?_⟩
            intro other among
            rcases List.mem_cons.mp among with rfl | among
            · exact Nat.le_refl _
            · exact Nat.le_trans (Nat.not_lt.mp further) (least other among)

theorem nearest?_map_snd_congr (same : ∀ name, name ∈ names ↔ name ∈ others) :
    (nearest? field names).map Prod.snd = (nearest? field others).map Prod.snd := by
  cases found : nearest? field names with
  | none =>
      have empty : others = [] := by
        rw [List.eq_nil_iff_forall_not_mem]
        intro name member
        rw [nearest?_eq_none_iff.mp found] at same
        exact List.not_mem_nil ((same name).mpr member)
      rw [nearest?_eq_none_iff.mpr empty]
  | some closest =>
      obtain ⟨member, exact, least⟩ := nearest?_eq_some found
      cases otherFound : nearest? field others with
      | none =>
          rw [nearest?_eq_none_iff] at otherFound
          rw [same, otherFound] at member
          exact absurd member List.not_mem_nil
      | some otherClosest =>
          obtain ⟨otherMember, otherExact, otherLeast⟩ := nearest?_eq_some otherFound
          have notAbove := least _ ((same _).mpr otherMember)
          have notBelow := otherLeast _ ((same _).mp member)
          rw [otherExact] at notAbove
          rw [exact] at notBelow
          exact congrArg some (Nat.le_antisymm notAbove notBelow)

theorem suggestion?_map_distance (allowed : List String) :
    (suggestion? allowed field).map (distance field) =
      ((nearest? field (allowed.filter fun name => !name.isEmpty)).map Prod.snd).filter
        (· ≤ reach) := by
  rw [suggestion?]
  cases found : nearest? field (allowed.filter fun name => !name.isEmpty) with
  | none => rfl
  | some closest =>
      have exact := (nearest?_eq_some found).2.1
      by_cases near : closest.2 ≤ reach <;> simp [Option.filter, near, exact]

theorem suggestion?_map_distance_congr (same : ∀ name, name ∈ names ↔ name ∈ others) :
    (suggestion? names field).map (distance field) =
      (suggestion? others field).map (distance field) := by
  rw [suggestion?_map_distance, suggestion?_map_distance]
  congr 1
  apply nearest?_map_snd_congr
  intro name
  rw [List.mem_filter, List.mem_filter, same]

end AllowList

end ResourceFilter
