/-!
Finite maps from names, kept in the order of their names. Names are ordered by code points,
which is also the order of their UTF-8 bytes.
-/

namespace ResourceFilter

structure NameMap (α : Type) where
  entries : List (String × α)
  sorted : entries.Pairwise fun left right => left.1 < right.1

namespace NameMap

variable {α : Type}

def empty : NameMap α where
  entries := []
  sorted := .nil

def size (map : NameMap α) : Nat :=
  map.entries.length

def isEmpty (map : NameMap α) : Bool :=
  map.entries.isEmpty

def names (map : NameMap α) : List String :=
  map.entries.map Prod.fst

def get? (map : NameMap α) (name : String) : Option α :=
  map.entries.lookup name

def insertEntry (name : String) (value : α) : List (String × α) → List (String × α)
  | [] => [(name, value)]
  | (other, held) :: rest =>
      if name < other then (name, value) :: (other, held) :: rest
      else if name = other then (name, value) :: rest
      else (other, held) :: insertEntry name value rest

theorem mem_insertEntry {name : String} {value : α} {entry : String × α}
    {entries : List (String × α)} (member : entry ∈ insertEntry name value entries) :
    entry = (name, value) ∨ entry ∈ entries := by
  induction entries with
  | nil => simpa [insertEntry] using member
  | cons first rest ih =>
      obtain ⟨other, held⟩ := first
      rw [insertEntry] at member
      split at member
      · simpa using member
      · split at member
        · rcases List.mem_cons.mp member with here | there
          · exact .inl here
          · exact .inr (List.mem_cons_of_mem _ there)
        · rcases List.mem_cons.mp member with here | there
          · exact .inr (here ▸ List.mem_cons_self)
          · rcases ih there with same | old
            · exact .inl same
            · exact .inr (List.mem_cons_of_mem _ old)

theorem sorted_insertEntry (name : String) (value : α) {entries : List (String × α)}
    (sorted : entries.Pairwise fun left right => left.1 < right.1) :
    (insertEntry name value entries).Pairwise fun left right => left.1 < right.1 := by
  induction entries with
  | nil => simp [insertEntry]
  | cons first rest ih =>
      obtain ⟨other, held⟩ := first
      obtain ⟨above, below⟩ := List.pairwise_cons.mp sorted
      rw [insertEntry]
      split
      · rename_i smaller
        refine List.pairwise_cons.mpr ⟨?_, sorted⟩
        intro entry member
        rcases List.mem_cons.mp member with same | later
        · exact same ▸ smaller
        · exact String.lt_trans smaller (above entry later)
      · split
        · rename_i same
          subst same
          exact List.pairwise_cons.mpr ⟨above, below⟩
        · rename_i notSmaller different
          refine List.pairwise_cons.mpr ⟨?_, ih below⟩
          intro entry member
          rcases mem_insertEntry member with same | later
          · subst same
            grind
          · exact above entry later

def insert (map : NameMap α) (name : String) (value : α) : NameMap α where
  entries := insertEntry name value map.entries
  sorted := sorted_insertEntry name value map.sorted

/-- The map of a list of entries; of two entries with one name, the later one counts. -/
def ofList (entries : List (String × α)) : NameMap α :=
  entries.foldl (fun map entry => map.insert entry.1 entry.2) empty

theorem lookup_cons_eq (name held : String) (value : α) (rest : List (String × α)) :
    ((held, value) :: rest).lookup name = if name = held then some value else rest.lookup name := by
  by_cases same : name = held
  · simp [same]
  · simp [List.lookup_cons, same, beq_eq_false_iff_ne.mpr same]

theorem lookup_insertEntry (name other : String) (value : α) (entries : List (String × α)) :
    (insertEntry name value entries).lookup other =
      if other = name then some value else entries.lookup other := by
  induction entries with
  | nil => simp [insertEntry, lookup_cons_eq]
  | cons first rest ih =>
      obtain ⟨held, old⟩ := first
      rw [insertEntry]
      split
      · simp only [lookup_cons_eq]
      · split
        · rename_i equal
          subst equal
          simp only [lookup_cons_eq]
          grind
        · simp only [lookup_cons_eq, ih]
          grind

theorem get?_insert (map : NameMap α) (name other : String) (value : α) :
    (map.insert name value).get? other = if other = name then some value else map.get? other :=
  lookup_insertEntry name other value map.entries

theorem get?_eq_none_iff {map : NameMap α} {name : String} :
    map.get? name = none ↔ name ∉ map.names := by
  rw [get?, List.lookup_eq_none_iff, names, List.mem_map]
  grind

theorem get?_foldl_insert (value : String → α) (names : List String) (map : NameMap α)
    (name : String) :
    ((names.map fun name => (name, value name)).foldl
        (fun map entry => map.insert entry.1 entry.2) map).get? name =
      if name ∈ names then some (value name) else map.get? name := by
  induction names generalizing map with
  | nil => simp
  | cons first rest ih =>
      rw [List.map_cons, List.foldl_cons, ih, get?_insert]
      by_cases later : name ∈ rest
      · simp [later]
      · by_cases here : name = first
        · simp [here]
        · simp [later, here]

theorem get?_ofList_map (value : String → α) (names : List String) (name : String) :
    (ofList (names.map fun name => (name, value name))).get? name =
      if name ∈ names then some (value name) else none :=
  get?_foldl_insert value names empty name

end NameMap

end ResourceFilter
