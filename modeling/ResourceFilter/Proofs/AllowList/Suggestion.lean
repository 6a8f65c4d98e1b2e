import ResourceFilter.Proofs.AllowList.Nearest
import ResourceFilter.Proofs.Text.Edits

/-!
The check of fields as a whole: which clause is refused, and which name is suggested for its field.
-/

namespace ResourceFilter

namespace AllowList

variable {allowed names : List String} {field name : String}

theorem nearest?_append_cons {before after : List String}
    (further : ∀ other ∈ before, distance field name < distance field other)
    (least : ∀ other ∈ after, distance field name ≤ distance field other) :
    nearest? field (before ++ name :: after) = some (name, distance field name) := by
  induction before with
  | nil =>
      rw [List.nil_append, nearest?]
      cases found : nearest? field after with
      | none => rfl
      | some closest =>
          obtain ⟨member, exact, _⟩ := nearest?_eq_some found
          have notCloser := least _ member
          rw [exact] at notCloser
          simp only [Nat.not_lt.mpr notCloser, if_false]
  | cons first before ih =>
      obtain ⟨firstFurther, othersFurther⟩ := List.forall_mem_cons.mp further
      rw [List.cons_append, nearest?, ih othersFurther]
      simp only [firstFurther, if_true]

theorem exists_split_of_nearest? {apart : Nat}
    (found : nearest? field names = some (name, apart)) :
    ∃ before after, names = before ++ name :: after ∧
      (∀ other ∈ before, apart < distance field other) ∧
      ∀ other ∈ after, apart ≤ distance field other := by
  induction names generalizing name apart with
  | nil => simp [nearest?] at found
  | cons first rest ih =>
      cases later : nearest? field rest with
      | none =>
          rw [nearest?_eq_none_iff] at later
          subst later
          cases found
          exact ⟨[], [], rfl, by simp, by simp⟩
      | some closest =>
          obtain ⟨_, _, least⟩ := nearest?_eq_some later
          simp only [nearest?, later] at found
          split at found
          · rename_i closer
            cases found
            obtain ⟨before, after, rfl, further, others⟩ := ih later
            exact ⟨first :: before, after, rfl, List.forall_mem_cons.mpr ⟨closer, further⟩, others⟩
          · rename_i notCloser
            cases found
            refine ⟨[], rest, rfl, by simp, ?_⟩
            intro other member
            exact Nat.le_trans (Nat.not_lt.mp notCloser) (least other member)

theorem exists_split_of_filter {keeps : String → Bool} {before after : List String}
    (split : names.filter keeps = before ++ name :: after) :
    ∃ front back, names = front ++ name :: back ∧ keeps name = true ∧
      front.filter keeps = before ∧ back.filter keeps = after := by
  obtain ⟨front, rest, rfl, kept, others⟩ := List.filter_eq_append_iff.mp split
  obtain ⟨skipped, back, rfl, none, keepsName, others⟩ := List.filter_eq_cons_iff.mp others
  have nothing : skipped.filter keeps = [] := List.filter_eq_nil_iff.mpr none
  refine ⟨front ++ skipped, back, by simp, keepsName, ?_, others⟩
  rw [List.filter_append, kept, nothing, List.append_nil]

/-- Holds of the first of the non-empty names that come closest to a field, if it is in reach. -/
structure Suggests (allowed : List String) (field name : String) : Prop where
  notEmpty : name ≠ ""
  near : distance field name ≤ 3
  first : ∃ before after, allowed = before ++ name :: after ∧
    (∀ other ∈ before, other ≠ "" → distance field name < distance field other) ∧
    ∀ other ∈ after, other ≠ "" → distance field name ≤ distance field other

theorem Suggests.mem (suggests : Suggests allowed field name) : name ∈ allowed := by
  obtain ⟨before, after, rfl, _⟩ := suggests.first
  simp

theorem mem_filter_notEmpty : name ∈ names.filter (fun name => !name.isEmpty) ↔
    name ∈ names ∧ name ≠ "" := by
  simp

theorem suggestion?_eq_some_iff : suggestion? allowed field = some name ↔
    Suggests allowed field name := by
  rw [suggestion?]
  constructor
  · intro suggested
    cases found : nearest? field (allowed.filter fun name => !name.isEmpty) with
    | none => simp [found] at suggested
    | some closest =>
        obtain ⟨closestName, apart⟩ := closest
        simp only [found, Option.ite_none_right_eq_some] at suggested
        obtain ⟨near, same⟩ := suggested
        cases same
        have exact := (nearest?_eq_some found).2.1
        obtain ⟨before, after, split, further, least⟩ := exists_split_of_nearest? found
        obtain ⟨front, back, rfl, kept, rfl, rfl⟩ := exists_split_of_filter split
        rw [← exact] at near further least
        refine ⟨by simpa using kept, near, front, back, rfl, ?_, ?_⟩
        · intro other member otherNotEmpty
          exact further other (mem_filter_notEmpty.mpr ⟨member, otherNotEmpty⟩)
        · intro other member otherNotEmpty
          exact least other (mem_filter_notEmpty.mpr ⟨member, otherNotEmpty⟩)
  · intro suggests
    obtain ⟨before, after, rfl, further, least⟩ := suggests.first
    have kept : (!name.isEmpty) = true := by simpa using suggests.notEmpty
    have found : nearest? field ((before ++ name :: after).filter fun name => !name.isEmpty) =
        some (name, distance field name) := by
      rw [List.filter_append, List.filter_cons, if_pos kept]
      apply nearest?_append_cons
      · intro other member
        obtain ⟨inside, otherNotEmpty⟩ := mem_filter_notEmpty.mp member
        exact further other inside otherNotEmpty
      · intro other member
        obtain ⟨inside, otherNotEmpty⟩ := mem_filter_notEmpty.mp member
        exact least other inside otherNotEmpty
    rw [found]
    exact if_pos suggests.near

theorem suggestion?_eq_none_iff : suggestion? allowed field = none ↔
    ∀ name ∈ allowed, name ≠ "" → 3 < distance field name := by
  rw [suggestion?]
  cases found : nearest? field (allowed.filter fun name => !name.isEmpty) with
  | none =>
      simp only [true_iff]
      intro name member notEmpty
      have kept := mem_filter_notEmpty.mpr ⟨member, notEmpty⟩
      rw [nearest?_eq_none_iff.mp found] at kept
      exact absurd kept List.not_mem_nil
  | some closest =>
      obtain ⟨member, exact, least⟩ := nearest?_eq_some found
      obtain ⟨listed, closestNotEmpty⟩ := mem_filter_notEmpty.mp member
      simp only [ite_eq_right_iff, reduceCtorEq, imp_false, Nat.not_le]
      constructor
      · intro far name nameListed notEmpty
        exact Nat.lt_of_lt_of_le far
          (least name (mem_filter_notEmpty.mpr ⟨nameListed, notEmpty⟩))
      · intro far
        have closestFar := far closest.1 listed closestNotEmpty
        rwa [exact] at closestFar

theorem distance_congr {other : String}
    (same : lowercase field.toList = lowercase other.toList) (name : String) :
    distance field name = distance other name := by
  rw [distance, distance, same]

theorem suggestion?_congr {other : String}
    (same : lowercase field.toList = lowercase other.toList) :
    suggestion? allowed field = suggestion? allowed other := by
  have sameNearest (names : List String) : nearest? field names = nearest? other names := by
    induction names with
    | nil => rfl
    | cons name names ih => simp only [nearest?, ih, distance_congr same]
  rw [suggestion?, suggestion?, sameNearest]

theorem check_append_of_allowed {before after : List Clause}
    (listed : ∀ clause ∈ before, clause.field ∈ allowed) :
    check allowed (before ++ after) = check allowed after := by
  have passed : before.find? (fun clause => !allowed.contains clause.field) = none := by
    simpa using listed
  rw [check, List.find?_append, passed, Option.none_or, check]

theorem suggestion_of_check {allowed : List String} {clauses : List Clause}
    {field : String} {suggestion : Option String}
    (refused : check allowed clauses = .error (.disallowedField field suggestion)) :
    suggestion = suggestion? allowed field := by
  obtain ⟨_, _, _, _, _, _, same⟩ := check_eq_error_iff.mp refused
  cases same
  rfl

/-- The first clause whose field is not allowed is refused, with the first of the closest names as
its suggestion. The distance of two names is the least number of edits between their lower-case
forms, so that letter case does not count. -/
theorem check_suggests_nearest (allowed : List String) (clauses : List Clause) :
    (check allowed clauses = .ok () ↔ ∀ clause ∈ clauses, clause.field ∈ allowed) ∧
      (∀ before clause after, clauses = before ++ clause :: after →
        (∀ earlier ∈ before, earlier.field ∈ allowed) → clause.field ∉ allowed →
        ∃ suggestion,
          check allowed clauses = .error (.disallowedField clause.field suggestion) ∧
          (∀ name, suggestion = some name ↔ Suggests allowed clause.field name) ∧
          (suggestion = none ↔ ∀ name ∈ allowed, name ≠ "" → 3 < distance clause.field name) ∧
          ∀ name, suggestion = some name →
            name ∈ allowed ∧ name ≠ clause.field ∧
              check allowed (before ++ { clause with field := name } :: after) =
                check allowed after) ∧
      (∀ others field otherField suggestion otherSuggestion,
        check allowed clauses = .error (.disallowedField field suggestion) →
        check allowed others = .error (.disallowedField otherField otherSuggestion) →
        lowercase field.toList = lowercase otherField.toList → suggestion = otherSuggestion) ∧
      ∀ field name count, distance field name = count ↔
        Edits count (lowercase field.toList) (lowercase name.toList) ∧
          ∀ more, Edits more (lowercase field.toList) (lowercase name.toList) → count ≤ more := by
  refine ⟨check_eq_ok_iff, ?_, ?_, fun field name count => editDistance_eq_iff⟩
  · rintro before clause after rfl listed notListed
    have refused : check allowed (before ++ clause :: after) =
        .error (.disallowedField clause.field (suggestion? allowed clause.field)) :=
      check_eq_error_iff.mpr ⟨before, clause, after, rfl, listed, notListed, rfl⟩
    refine ⟨_, refused, fun name => suggestion?_eq_some_iff, suggestion?_eq_none_iff, ?_⟩
    intro name suggested
    have member := (suggestion?_eq_some_iff.mp suggested).mem
    refine ⟨member, fun same => notListed (same ▸ member), ?_⟩
    rw [List.append_cons]
    apply check_append_of_allowed
    intro passed among
    rcases List.mem_append.mp among with earlier | replaced
    · exact listed passed earlier
    · rw [List.mem_singleton.mp replaced]
      exact member
  · intro others field otherField suggestion otherSuggestion refused otherRefused same
    rw [suggestion_of_check refused, suggestion_of_check otherRefused, suggestion?_congr same]

/-- Letter case apart, the last two names are the field itself: with its final sigma the field is
nearer to them than to the first name, and the capital of the last one does not count. -/
theorem check_suggests_nearest_tie :
    "ΤΟΣ" ∉ ["", "τοσ", "τος", "Τος"] ∧
      check ["", "τοσ", "τος", "Τος"] [⟨"ΤΟΣ", .equal, "bob", none⟩] =
        .error (.disallowedField "ΤΟΣ" (some "τος")) := by
  have notListed : "ΤΟΣ" ∉ ["", "τοσ", "τος", "Τος"] := by decide
  obtain ⟨_, refuses, _⟩ := check_suggests_nearest ["", "τοσ", "τος", "Τος"]
    [⟨"ΤΟΣ", .equal, "bob", none⟩]
  obtain ⟨suggestion, refused, suggested, _⟩ := refuses [] _ [] rfl (by simp) notListed
  refine ⟨notListed, ?_⟩
  have first : Suggests ["", "τοσ", "τος", "Τος"] "ΤΟΣ" "τος" :=
    ⟨by decide, by decide +kernel, ["", "τοσ"], ["Τος"], rfl, by decide +kernel,
      by decide +kernel⟩
  rw [refused, (suggested "τος").mpr first]

end AllowList

end ResourceFilter
