import ResourceFilter.Toml.Statement

/-!
The document that the statements of a text describe. No table may be opened twice, and no value
may be given twice.
-/

namespace ResourceFilter.Toml

def splitAssignments : List Statement → List (Key × Value) × List Statement
  | .assignment key value :: rest =>
      let (assignments, others) := splitAssignments rest
      ((key, value) :: assignments, others)
  | statements => ([], statements)

/-- Changes the value where a header leads to, or makes it there. The tables on the way are made
if need be; of a list of tables, the last one lies on the way. -/
def alter? (change : Option Value → Option Value) : Key → Members → Option Members
  | [], _ => none
  | [name], members => (change (members.lookup name)).map fun value => members.set name value
  | name :: rest, members =>
      match members.lookup name with
      | none => (alter? change rest []).map fun inner => members.set name (.table .parent inner)
      | some (.table .inline _) => none
      | some (.table origin inner) =>
          (alter? change rest inner).map fun inner => members.set name (.table origin inner)
      | some (.array true items) =>
          match items.getLast? with
          | some (.table origin inner) =>
              (alter? change rest inner).map fun inner =>
                members.set name (.array true (items.dropLast ++ [.table origin inner]))
          | _ => none
      | some _ => none

/-- Opens a table with assignments. A table that so far only lay on the way to others may still
be opened. -/
def openTable? (assignments : List (Key × Value)) : Option Value → Option Value
  | none => (assignAll? [] assignments).map (.table .header)
  | some (.table .parent inner) => (assignAll? inner assignments).map (.table .header)
  | some _ => none

def openListTable? (assignments : List (Key × Value)) : Option Value → Option Value
  | none => (assignAll? [] assignments).map fun inner => .array true [.table .header inner]
  | some (.array true items) =>
      (assignAll? [] assignments).map fun inner => .array true (items ++ [.table .header inner])
  | some _ => none

def addSections? : Nat → List Statement → Members → Option Members
  | _, [], members => some members
  | count + 1, .header key :: rest, members => do
      let (assignments, others) := splitAssignments rest
      addSections? count others (← alter? (openTable? assignments) key members)
  | count + 1, .listHeader key :: rest, members => do
      let (assignments, others) := splitAssignments rest
      addSections? count others (← alter? (openListTable? assignments) key members)
  | _, _, _ => none

def ofStatements? (statements : List Statement) : Option Members := do
  let (assignments, sections) := splitAssignments statements
  addSections? sections.length sections (← assignAll? [] assignments)

def parse? (text : String) : Option Members := do
  ofStatements? (← statements? text.toList)

end ResourceFilter.Toml
