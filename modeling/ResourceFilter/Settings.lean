import ResourceFilter.Schema
import ResourceFilter.Toml.Document

/-!
The settings of the command line: a default dialect, and the resources that filters may be
checked against. Settings are kept as a TOML document.
-/

namespace ResourceFilter

structure Settings where
  version : Nat
  dialect : Option String
  resources : NameMap Schema

namespace Settings

def currentVersion : Nat := 1

def default : Settings where
  version := currentVersion
  dialect := none
  resources := .empty

def defaultText : String :=
  String.join
    ["# afq - filter compiler configuration\n",
      "\n",
      "# Config schema version (do not modify)\n",
      "version = 1\n",
      "\n",
      "# Default backend: \"postgres\" or \"aql\"\n",
      "# dialect = \"postgres\"\n",
      "\n",
      "# One table per exposed resource. `fields` is the filter allow-list;\n",
      "# `columns` maps a field to a storage column when the names differ.\n",
      "#\n",
      "# [resources.gene]\n",
      "# fields = [\"name\", \"organism\", \"created_at\"]\n",
      "#\n",
      "# [resources.gene.columns]\n",
      "# name = \"gene_name\"\n"]

def readAll? {α β : Type} (read : α → Option β) : List α → Option (List β)
  | [] => some []
  | item :: rest => do
      let value ← read item
      let values ← readAll? read rest
      return value :: values

def readString? : Toml.Value → Option String
  | .string text => some text
  | _ => none

def readStrings? : Toml.Value → Option (List String)
  | .array _ items => readAll? readString? items
  | _ => none

def readMap? {α : Type} (read : Toml.Value → Option α) (value : Toml.Value) :
    Option (NameMap α) := do
  let members ← value.members?
  let entries ← readAll? (fun (name, value) => (read value).map fun held => (name, held)) members
  return NameMap.ofList entries

def readOr? {α : Type} (missing : α) (read : Toml.Value → Option α) (value : Option Toml.Value) :
    Option α :=
  match value with
  | some value => read value
  | none => some missing

/-- Reads a schema: a table with the members `fields` and `columns`, either of which may be
missing, or a list that gives the two in this order. -/
def readSchema? (value : Toml.Value) : Option Schema :=
  let read (fields columns : Option Toml.Value) : Option Schema := do
    let fields ← readOr? [] readStrings? fields
    let columns ← readOr? .empty (readMap? readString?) columns
    return ⟨fields, columns⟩
  match value with
  | .array _ items => read items[0]? items[1]?
  | value => do
      let members ← value.members?
      read (members.lookup "fields") (members.lookup "columns")

def readVersion? : Toml.Value → Option Nat
  | .integer (.ofNat number) => if number < 0x100000000 then some number else none
  | _ => none

def ofMembers? (members : Toml.Members) : Option Settings := do
  let version ← readOr? currentVersion readVersion? (members.lookup "version")
  let dialect ← readOr? none (fun value => (readString? value).map some) (members.lookup "dialect")
  let resources ← readOr? .empty (readMap? readSchema?) (members.lookup "resources")
  return ⟨version, dialect, resources⟩

def parse? (text : String) : Option Settings :=
  (Toml.parse? text).bind ofMembers?

def migrate (settings : Settings) : Settings :=
  { settings with version := currentVersion }

def unknownResource (settings : Settings) (name : String) : String :=
  let hint :=
    if settings.resources.isEmpty then "no resources are configured"
    else "known resources: " ++ ", ".intercalate settings.resources.names
  "unknown resource '" ++ name ++ "' (" ++ hint ++ ")"

end Settings

end ResourceFilter
