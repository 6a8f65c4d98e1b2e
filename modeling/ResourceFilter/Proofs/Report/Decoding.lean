import ResourceFilter.Proofs.Json.RoundTrip
import ResourceFilter.Report.Clauses
import ResourceFilter.Report.Compiled

/-!
Decoding listings. A reader of JSON gets back all that the listings of clauses and of compiled
filters say, so that two listings differ wherever what they list differs.
-/

namespace ResourceFilter

namespace JsonTree

def member? (name : String) : JsonTree → Option JsonTree
  | object members => members.lookup name
  | _ => none

def text? : JsonTree → Option String
  | string text => some text
  | _ => none

def items? : JsonTree → Option (List JsonTree)
  | array items => some items
  | _ => none

def textMember? (name : String) (tree : JsonTree) : Option String :=
  (tree.member? name).bind text?

end JsonTree

def Combinator.ofLabel? (label : String) : Option Combinator :=
  if label = "or" then some or else if label = "and" then some and else none

def Mode.ofLabel? (label : String) : Option Mode :=
  if label = "inline" then some inline
  else if label = "placeholder" then some placeholder
  else none

theorem mapM_map_eq_some {α β : Type} {write : α → β} {read : β → Option α}
    (readBack : ∀ item, read (write item) = some item) (items : List α) :
    (items.map write).mapM read = some items := by
  have each : (read ∘ write) = fun item => pure (id item) := funext readBack
  rw [List.mapM_map, each, List.mapM_pure, List.map_id]
  rfl

namespace Clause

/-- The combinator that a listed clause names. A clause without one has no such member. -/
def combinatorOf? (tree : JsonTree) : Option (Option Combinator) :=
  match tree.member? "logic" with
  | none => some none
  | some label => (label.text?.bind Combinator.ofLabel?).map some

def ofTree? (tree : JsonTree) : Option Clause := do
  let field ← tree.textMember? "field"
  let symbol ← tree.textMember? "operator"
  let operator ← Operator.ofSymbol? symbol
  let value ← tree.textMember? "value"
  let combinator ← combinatorOf? tree
  return ⟨field, operator, value, combinator⟩

def ofListing? (tree : JsonTree) : Option (String × List Clause) := do
  let name ← tree.textMember? "dialect"
  let items ← (tree.member? "clauses").bind JsonTree.items?
  let clauses ← items.mapM ofTree?
  return (name, clauses)

theorem tree_toJson (clause : Clause) :
    clause.toJson.tree =
      .object ([("field", .string clause.field), ("operator", .string clause.operator.symbol),
        ("value", .string clause.value)] ++
          (clause.combinator.map fun which => ("logic", .string which.label)).toList) := by
  rw [toJson]
  cases clause.combinator <;> rfl

theorem combinatorOf?_toJson (clause : Clause) :
    combinatorOf? clause.toJson.tree = some clause.combinator := by
  rw [tree_toJson]
  rcases clause.combinator with _ | _ | _ <;> rfl

theorem ofTree?_toJson (clause : Clause) : ofTree? clause.toJson.tree = some clause := by
  have field : clause.toJson.tree.textMember? "field" = some clause.field := by
    rw [tree_toJson]
    rfl
  have symbol : clause.toJson.tree.textMember? "operator" = some clause.operator.symbol := by
    rw [tree_toJson]
    rfl
  have value : clause.toJson.tree.textMember? "value" = some clause.value := by
    rw [tree_toJson]
    rfl
  rw [ofTree?, field, symbol, value, combinatorOf?_toJson]
  simp only [bind, Option.bind, Operator.ofSymbol?_symbol, pure]

theorem ofListing?_listing (name : String) (clauses : List Clause) :
    ofListing? (listing name clauses).tree = some (name, clauses) := by
  have dialect : (listing name clauses).tree.textMember? "dialect" = some name := rfl
  have items : ((listing name clauses).tree.member? "clauses").bind JsonTree.items? =
      some ((clauses.map toJson).map Json.tree) := by
    rw [← Json.treeItems_eq_map]
    rfl
  have read : ((clauses.map toJson).map Json.tree).mapM ofTree? = some clauses := by
    rw [List.map_map]
    exact mapM_map_eq_some ofTree?_toJson clauses
  rw [ofListing?, dialect, items]
  simp only [bind, Option.bind, read, pure]

end Clause

namespace CompiledFilter

def ofListing? (tree : JsonTree) : Option (String × Mode × CompiledFilter) := do
  let name ← tree.textMember? "dialect"
  let label ← tree.textMember? "mode"
  let mode ← Mode.ofLabel? label
  let fragment ← tree.textMember? "fragment"
  let items ← (tree.member? "binds").bind JsonTree.items?
  let binds ← items.mapM JsonTree.text?
  return (name, mode, ⟨fragment, binds⟩)

theorem ofListing?_listing (name : String) (mode : Mode) (compiled : CompiledFilter) :
    ofListing? (listing name mode compiled).tree = some (name, mode, compiled) := by
  have dialect : (listing name mode compiled).tree.textMember? "dialect" = some name := rfl
  have label : (listing name mode compiled).tree.textMember? "mode" = some mode.label := rfl
  have known : Mode.ofLabel? mode.label = some mode := by cases mode <;> rfl
  have fragment : (listing name mode compiled).tree.textMember? "fragment" =
      some compiled.fragment := rfl
  have items : ((listing name mode compiled).tree.member? "binds").bind JsonTree.items? =
      some ((compiled.binds.map Json.string).map Json.tree) := by
    rw [← Json.treeItems_eq_map]
    rfl
  have read : ((compiled.binds.map Json.string).map Json.tree).mapM JsonTree.text? =
      some compiled.binds := by
    rw [List.map_map]
    exact mapM_map_eq_some (fun text => by rw [Function.comp_apply, Json.tree]; rfl) compiled.binds
  rw [ofListing?, dialect, label, fragment, items]
  simp only [bind, Option.bind, known, read, pure]

end CompiledFilter

/-- Reading a listing gives back what it lists, whatever characters its texts have. -/
theorem listings_decode :
    (∀ name clauses, (JsonTree.read? (Clause.listing name clauses).pretty).bind
      Clause.ofListing? = some (name, clauses)) ∧
    (∀ name mode compiled, (JsonTree.read? (CompiledFilter.listing name mode compiled).pretty).bind
      CompiledFilter.ofListing? = some (name, mode, compiled)) ∧
    (∀ name other clauses others,
      (Clause.listing name clauses).pretty = (Clause.listing other others).pretty ↔
        name = other ∧ clauses = others) ∧
    ∀ name other mode otherMode compiled otherCompiled,
      (CompiledFilter.listing name mode compiled).pretty =
          (CompiledFilter.listing other otherMode otherCompiled).pretty ↔
        name = other ∧ mode = otherMode ∧ compiled = otherCompiled := by
  have clausesRead : ∀ name clauses, (JsonTree.read? (Clause.listing name clauses).pretty).bind
      Clause.ofListing? = some (name, clauses) := by
    intro name clauses
    rw [Json.read?_pretty, Option.bind_some, Clause.ofListing?_listing]
  have compiledRead : ∀ name mode compiled,
      (JsonTree.read? (CompiledFilter.listing name mode compiled).pretty).bind
        CompiledFilter.ofListing? = some (name, mode, compiled) := by
    intro name mode compiled
    rw [Json.read?_pretty, Option.bind_some, CompiledFilter.ofListing?_listing]
  refine ⟨clausesRead, compiledRead, ?_, ?_⟩
  · intro name other clauses others
    constructor
    · intro same
      have read := clausesRead name clauses
      rw [same, clausesRead, Option.some.injEq, Prod.mk.injEq] at read
      exact ⟨read.1.symm, read.2.symm⟩
    · rintro ⟨rfl, rfl⟩
      rfl
  · intro name other mode otherMode compiled otherCompiled
    constructor
    · intro same
      have read := compiledRead name mode compiled
      rw [same, compiledRead, Option.some.injEq, Prod.mk.injEq, Prod.mk.injEq] at read
      exact ⟨read.1.symm, read.2.1.symm, read.2.2.symm⟩
    · rintro ⟨rfl, rfl, rfl⟩
      rfl

end ResourceFilter
