import ResourceFilter.CompiledFilter
import ResourceFilter.Json
import ResourceFilter.Report.Layout

/-!
Listings of a compiled filter.
-/

namespace ResourceFilter

namespace CompiledFilter

def bindLine (dialect : Dialect) (colors : Bool) (position : Nat) (value : String) : String :=
  let label := String.ofList (padRight 5 (dialect.placeholders.placeholder position))
  "  " ++ Emphasis.dimmed.apply colors label ++ " " ++ value ++ "\n"

def bindLines (dialect : Dialect) (colors : Bool) : Nat → List String → String
  | _, [] => ""
  | position, value :: rest =>
      bindLine dialect colors position value ++ bindLines dialect colors (position + 1) rest

def text (dialect : Dialect) (colors : Bool) (compiled : CompiledFilter) : String :=
  if compiled.isEmpty then "(empty filter)\n"
  else
    Emphasis.bold.apply colors compiled.fragment ++ "\n" ++
      bindLines dialect colors 1 compiled.binds

def listing (dialectName : String) (mode : Mode) (compiled : CompiledFilter) : Json :=
  .object
    [("dialect", .string dialectName), ("mode", .string mode.label),
      ("fragment", .string compiled.fragment), ("binds", .strings compiled.binds)]

end CompiledFilter

end ResourceFilter
