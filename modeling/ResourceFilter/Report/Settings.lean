import ResourceFilter.Json
import ResourceFilter.Report.Layout
import ResourceFilter.Settings

/-!
Listings of the settings. The members of JSON objects are in alphabetical order here.
-/

namespace ResourceFilter

def Schema.toJson (schema : Schema) : Json :=
  let columns :=
    if schema.columns.isEmpty then []
    else [("columns",
      Json.object (schema.columns.entries.map fun (field, column) => (field, .string column)))]
  .object (columns ++ [("fields", .strings schema.fields)])

namespace Settings

def toJson (settings : Settings) : Json :=
  let dialect :=
    match settings.dialect with
    | some name => [("dialect", Json.string name)]
    | none => []
  .object <| dialect ++
    [("resources",
        .object (settings.resources.entries.map fun (name, schema) => (name, schema.toJson))),
      ("version", .number settings.version)]

def resourceText (name : String) (schema : Schema) : String :=
  "\n[resources." ++ name ++ "]\n" ++
    "  fields: " ++ ", ".intercalate schema.fields ++ "\n" ++
    String.join (schema.columns.entries.map fun (field, column) =>
      "  " ++ field ++ " -> " ++ column ++ "\n")

def text (settings : Settings) : String :=
  "Settings:\n" ++
    (match settings.dialect with
      | some name => "  dialect: " ++ name ++ "\n"
      | none => "") ++
    String.join (settings.resources.entries.map fun (name, schema) => resourceText name schema)

def report (settings : Settings) (colors : Bool) (path : String) (fileExists : Bool) : String :=
  Emphasis.heading.apply colors "Configuration" ++ "\n\n" ++
    "File: " ++ path ++ "\n" ++
    "Exists: " ++ (if fileExists then "true" else "false") ++ "\n\n" ++
    if fileExists then settings.text
    else "(No config file exists. Run 'afq config init' to create one.)\n"

def listing (settings : Settings) (path : String) (fileExists : Bool) : Json :=
  .object
    [("config", settings.toJson), ("exists", .boolean fileExists), ("path", .string path)]

end Settings

end ResourceFilter
