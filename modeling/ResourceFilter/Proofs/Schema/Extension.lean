import Mathlib.Data.List.Perm.Basic
import ResourceFilter.Schema

/-!
Extending a schema by more fields and columns. New fields stand behind the old ones, in the order
in which they first occur, and the last column given to a field counts.
-/

namespace ResourceFilter

namespace NameMap

variable {α : Type}

theorem get?_foldl_insert_entries (entries : List (String × α)) (map : NameMap α) (name : String) :
    (entries.foldl (fun map entry => map.insert entry.1 entry.2) map).get? name =
      (entries.reverse.lookup name).or (map.get? name) := by
  induction entries generalizing map with
  | nil => rfl
  | cons entry rest ih =>
      rw [List.foldl_cons, ih, get?_insert, List.reverse_cons, List.lookup_append, Option.or_assoc]
      have single : [entry].lookup name = if name = entry.1 then some entry.2 else none :=
        lookup_cons_eq name entry.1 entry.2 []
      rw [single]
      split <;> rfl

theorem lookup_eq_some_iff_mem {entries : List (String × α)} {name : String} {value : α}
    (sorted : entries.Pairwise fun left right => left.1 < right.1) :
    entries.lookup name = some value ↔ (name, value) ∈ entries := by
  induction entries with
  | nil => simp
  | cons first rest ih =>
      obtain ⟨held, old⟩ := first
      obtain ⟨above, below⟩ := List.pairwise_cons.mp sorted
      rw [lookup_cons_eq, List.mem_cons, Prod.mk.injEq]
      by_cases here : name = held
      · have elsewhere : (name, value) ∉ rest := by
          intro member
          have increases := above _ member
          rw [here] at increases
          exact String.lt_irrefl _ increases
        simp [here ▸ elsewhere, here, eq_comm]
      · simp [here, ih below]

theorem ext_get? {left right : NameMap α} (same : ∀ name, left.get? name = right.get? name) :
    left = right := by
  have nodup (map : NameMap α) : map.entries.Nodup := by
    refine map.sorted.imp ?_
    rintro first _ below rfl
    exact String.lt_irrefl _ below
  -- Sorted lists without repetitions are the same as soon as they have the same entries.
  have perm : left.entries.Perm right.entries := by
    rw [List.perm_ext_iff_of_nodup (nodup left) (nodup right)]
    intro entry
    rw [← lookup_eq_some_iff_mem left.sorted, ← lookup_eq_some_iff_mem right.sorted]
    exact Iff.of_eq (congrArg (· = some entry.2) (same entry.1))
  have antisymmetric : ∀ first second : String × α, first ∈ left.entries → second ∈ right.entries →
      first.1 < second.1 → second.1 < first.1 → first = second :=
    fun first second _ _ below above => absurd (String.lt_trans below above) (String.lt_irrefl _)
  have entries := perm.eq_of_pairwise antisymmetric left.sorted right.sorted
  cases left
  cases right
  cases entries
  rfl

end NameMap

namespace Schema

theorem fields_foldl_allow (schema : Schema) (names : List String) :
    (names.foldl allow schema).fields =
      schema.fields ++ (names.filter fun name => name ∉ schema.fields).eraseDups := by
  induction names generalizing schema with
  | nil => simp
  | cons name rest ih =>
      rw [List.foldl_cons, ih]
      by_cases listed : name ∈ schema.fields
      · have same : schema.allow name = schema := by simp [allow, listed]
        rw [same, List.filter_cons_of_neg (by simpa using listed)]
      · have more : (schema.allow name).fields = schema.fields ++ [name] := by
          simp [allow, listed]
        rw [more, List.filter_cons_of_pos (by simpa using listed), List.eraseDups_cons,
          List.filter_filter, List.append_assoc, List.singleton_append]
        simp [Bool.beq_eq_decide_eq, Bool.and_comm]

theorem fields_foldl_allowAs (schema : Schema) (columns : List (String × String)) :
    (columns.foldl (fun schema entry => schema.allowAs entry.1 entry.2) schema).fields =
      ((columns.map Prod.fst).foldl allow schema).fields := by
  induction columns generalizing schema with
  | nil => rfl
  | cons entry rest ih =>
      rw [List.foldl_cons, ih, List.map_cons, List.foldl_cons, fields_foldl_allow,
        fields_foldl_allow]
      rfl

theorem fields_extend (schema : Schema) (fields : List String) (columns : List (String × String)) :
    (schema.extend fields columns).fields =
      schema.fields ++
        ((fields ++ columns.map Prod.fst).filter fun name => name ∉ schema.fields).eraseDups := by
  rw [extend, fields_foldl_allowAs, ← List.foldl_append, fields_foldl_allow]

theorem mem_fields_extend {schema : Schema} {fields : List String}
    {columns : List (String × String)} {name : String} :
    name ∈ (schema.extend fields columns).fields ↔
      name ∈ schema.fields ∨ name ∈ fields ∨ name ∈ columns.map Prod.fst := by
  rw [fields_extend, List.mem_append, List.mem_eraseDups, List.mem_filter, List.mem_append]
  by_cases listed : name ∈ schema.fields <;> simp [listed]

theorem columns_allow (schema : Schema) (field : String) :
    (schema.allow field).columns = schema.columns := by
  rw [allow]
  split <;> rfl

theorem columns_extend (schema : Schema) (fields : List String)
    (columns : List (String × String)) :
    (schema.extend fields columns).columns =
      columns.foldl (fun map entry => map.insert entry.1 entry.2) schema.columns := by
  have allowed : (fields.foldl allow schema).columns = schema.columns := by
    induction fields generalizing schema with
    | nil => rfl
    | cons field rest ih => rw [List.foldl_cons, ih, columns_allow]
  rw [extend, ← allowed]
  generalize fields.foldl allow schema = start
  induction columns generalizing start with
  | nil => rfl
  | cons entry rest ih =>
      have step : (start.allowAs entry.1 entry.2).columns =
          start.columns.insert entry.1 entry.2 := by
        rw [allowAs, setColumn, columns_allow]
      rw [List.foldl_cons, ih, step]
      rfl

theorem get?_columns_extend (schema : Schema) (fields : List String)
    (columns : List (String × String)) (name : String) :
    (schema.extend fields columns).columns.get? name =
      (columns.reverse.lookup name).or (schema.columns.get? name) := by
  rw [columns_extend, NameMap.get?_foldl_insert_entries]

theorem extend_extend (schema : Schema) (fields : List String)
    (columns : List (String × String)) :
    (schema.extend fields columns).extend fields columns = schema.extend fields columns := by
  have sameFields : ((schema.extend fields columns).extend fields columns).fields =
      (schema.extend fields columns).fields := by
    have nothing : (fields ++ columns.map Prod.fst).filter
        (fun name => name ∉ (schema.extend fields columns).fields) = [] := by
      rw [List.filter_eq_nil_iff]
      intro name member
      have listed : name ∈ (schema.extend fields columns).fields :=
        mem_fields_extend.mpr (.inr (List.mem_append.mp member))
      simpa using listed
    rw [fields_extend (schema.extend fields columns), nothing]
    exact List.append_nil _
  have sameColumns : ((schema.extend fields columns).extend fields columns).columns =
      (schema.extend fields columns).columns := by
    apply NameMap.ext_get?
    intro name
    rw [get?_columns_extend (schema.extend fields columns), get?_columns_extend,
      ← Option.or_assoc, Option.or_self]
  generalize (schema.extend fields columns).extend fields columns = again at sameFields sameColumns
  generalize schema.extend fields columns = once at sameFields sameColumns
  cases again
  cases once
  cases sameFields
  cases sameColumns
  rfl

theorem column_extend (schema : Schema) (fields : List String)
    (columns : List (String × String)) (name : String) :
    (schema.extend fields columns).column name =
      (columns.reverse.lookup name).getD ((schema.columns.get? name).getD name) := by
  rw [column, get?_columns_extend]
  cases columns.reverse.lookup name <;> rfl

theorem lookup_reverse_eq_getLast? (columns : List (String × String)) (name : String) :
    columns.reverse.lookup name =
      (columns.filter fun entry => entry.1 = name).getLast?.map Prod.snd := by
  rw [List.getLast?_eq_head?_reverse, ← List.filter_reverse]
  generalize columns.reverse = entries
  induction entries with
  | nil => rfl
  | cons entry rest ih =>
      obtain ⟨held, value⟩ := entry
      rw [NameMap.lookup_cons_eq]
      by_cases same : held = name
      · simp [same]
      · simp [same, Ne.symm same, ih]

theorem columnMap_extend_congr {schema : Schema} {fields : List String}
    {columns others : List (String × String)}
    (same : ∀ name, (others.filter fun entry => entry.1 = name) =
      columns.filter fun entry => entry.1 = name) :
    (schema.extend fields others).columnMap = (schema.extend fields columns).columnMap := by
  have named (entries : List (String × String)) (name : String) :
      name ∈ entries.map Prod.fst ↔ (entries.filter fun entry => entry.1 = name) ≠ [] := by
    simp [List.filter_eq_nil_iff]
  apply NameMap.ext_get?
  intro name
  have listed : name ∈ (schema.extend fields others).fields ↔
      name ∈ (schema.extend fields columns).fields := by
    rw [mem_fields_extend, mem_fields_extend, named, named, same]
  simp only [get?_columnMap, listed, column_extend, lookup_reverse_eq_getLast?, same]

theorem filter_eq_of_perm {columns others : List (String × String)}
    (perm : others.Perm columns) (distinct : (columns.map Prod.fst).Nodup) (name : String) :
    (others.filter fun entry => entry.1 = name) = columns.filter fun entry => entry.1 = name := by
  have reordered := perm.filter fun entry => entry.1 = name
  have single : ((columns.filter fun entry => entry.1 = name).map Prod.fst).Nodup :=
    distinct.sublist (List.filter_sublist.map Prod.fst)
  have named : ∀ entry ∈ columns.filter (fun entry => entry.1 = name), entry.1 = name :=
    fun entry member => by simpa using (List.mem_filter.mp member).2
  -- At most one pair has the name, so that no order is left to be kept.
  cases kept : columns.filter fun entry => entry.1 = name with
  | nil =>
      rw [kept] at reordered
      exact reordered.eq_nil
  | cons first rest =>
      rw [kept] at reordered single named
      cases rest with
      | nil => exact List.perm_singleton.mp reordered
      | cons second rest =>
          have same : first.1 = second.1 := by
            rw [named first List.mem_cons_self, named second (by simp)]
          rw [List.map_cons, List.map_cons, same] at single
          exact absurd List.mem_cons_self (List.nodup_cons.mp single).1

/-- The extended schema lists the old fields and then the new ones, each once and in the order in
which they first occur. Its map gives every listed field the column last given to it, or else the
column that it had before, or else its own name. -/
theorem extend_keeps_and_adds (schema : Schema) (fields : List String)
    (columns : List (String × String)) :
    (schema.extend fields columns).fields =
        schema.fields ++
          ((fields ++ columns.map Prod.fst).filter fun name => name ∉ schema.fields).eraseDups ∧
      (∀ name, name ∈ (schema.extend fields columns).columnMap.names ↔
        name ∈ (schema.extend fields columns).fields) ∧
      (∀ name ∈ (schema.extend fields columns).fields,
        (schema.extend fields columns).columnMap.get? name =
          some ((columns.reverse.lookup name).getD ((schema.columns.get? name).getD name))) ∧
      (schema.extend fields columns).extend fields columns = schema.extend fields columns ∧
      (∀ others : List (String × String),
        (∀ name, (others.filter fun entry => entry.1 = name) =
          columns.filter fun entry => entry.1 = name) →
        (schema.extend fields others).columnMap = (schema.extend fields columns).columnMap) ∧
      ∀ others : List (String × String), others.Perm columns → (columns.map Prod.fst).Nodup →
        (schema.extend fields others).columnMap = (schema.extend fields columns).columnMap := by
  refine ⟨fields_extend schema fields columns, ?_, ?_, extend_extend schema fields columns,
    fun others same => columnMap_extend_congr same, ?_⟩
  · intro name
    rw [← not_iff_not, ← NameMap.get?_eq_none_iff, get?_columnMap]
    by_cases listed : name ∈ (schema.extend fields columns).fields <;> simp [listed]
  · intro name listed
    rw [get?_columnMap, if_pos listed, column_extend]
  · intro others perm distinct
    exact columnMap_extend_congr (filter_eq_of_perm perm distinct)

theorem extend_keeps_and_adds_dormant :
    (extend ⟨["name", "age"], .ofList [("name", "full_name"), ("born", "birth")]⟩
        ["born", "age", "born"] [("tag", "a"), ("age", "years"), ("tag", "b")]).fields =
      ["name", "age", "born", "tag"] ∧
    (extend ⟨["name", "age"], .ofList [("name", "full_name"), ("born", "birth")]⟩
        ["born", "age", "born"] [("tag", "a"), ("age", "years"), ("tag", "b")]).columnMap.get?
      "born" = some "birth" ∧
    (extend ⟨["name", "age"], .ofList [("name", "full_name"), ("born", "birth")]⟩
        ["born", "age", "born"] [("tag", "a"), ("age", "years"), ("tag", "b")]).columnMap.get?
      "tag" = some "b" ∧
    [("age", "years"), ("tag", "b")].Perm [("tag", "b"), ("age", "years")] ∧
    (["tag", "age"] : List String).Nodup ∧
    (extend .empty [] [("age", "years"), ("tag", "b")]).columnMap =
      (extend .empty [] [("tag", "b"), ("age", "years")]).columnMap := by
  obtain ⟨listed, _, mapped, _⟩ :=
    extend_keeps_and_adds ⟨["name", "age"], .ofList [("name", "full_name"), ("born", "birth")]⟩
      ["born", "age", "born"] [("tag", "a"), ("age", "years"), ("tag", "b")]
  have swapped : [("age", "years"), ("tag", "b")].Perm [("tag", "b"), ("age", "years")] :=
    .swap _ _ []
  have distinct : (["tag", "age"] : List String).Nodup := by decide
  refine ⟨listed, ?_, ?_, swapped, distinct, ?_⟩
  · exact mapped "born" (by decide)
  · exact mapped "tag" (by decide)
  · exact (extend_keeps_and_adds .empty [] _).2.2.2.2.2 _ swapped distinct

end Schema

end ResourceFilter
