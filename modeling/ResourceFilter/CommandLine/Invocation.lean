import ResourceFilter.Dialect

/-!
What the command line can be asked to do.
-/

namespace ResourceFilter

inductive Backend
  | aql
  | postgres
  deriving DecidableEq, Repr

namespace Backend

def ofName? (name : String) : Option Backend :=
  if name = "aql" then some aql else if name = "postgres" then some postgres else none

def dialect : Backend → Dialect
  | aql => .aql
  | postgres => .postgres

end Backend

def Mode.ofName? (name : String) : Option Mode :=
  if name = "inline" then some .inline else if name = "placeholder" then some .placeholder else none

inductive Shell
  | bash
  | zsh
  | fish
  | powershell
  deriving DecidableEq, Repr

def Shell.ofName? (name : String) : Option Shell :=
  if name = "bash" then some .bash
  else if name = "zsh" then some .zsh
  else if name = "fish" then some .fish
  else if name = "powershell" then some .powershell
  else none

inductive SettingsAction
  | show
  | init
  | path
  deriving DecidableEq, Repr

structure FilterRequest where
  filter : String
  dialect : Option Backend
  resource : Option String
  allow : List String
  deriving DecidableEq, Repr

structure CompileOptions where
  columns : List (String × String)
  mode : Option Mode
  deny : List String
  deriving DecidableEq, Repr

inductive Command
  | parse (filter : String) (dialect : Option Backend)
  | check (request : FilterRequest)
  | compile (request : FilterRequest) (options : CompileOptions)
  | operators (dialect : Option Backend)
  | config (action : SettingsAction)
  | completions (shell : Shell)
  deriving DecidableEq, Repr

inductive Switch
  | verbose
  | quiet
  | json
  | noColor
  deriving DecidableEq, Repr

structure Flags where
  verbose : Bool
  quiet : Bool
  json : Bool
  noColor : Bool
  deriving DecidableEq, Repr

namespace Flags

def none : Flags where
  verbose := false
  quiet := false
  json := false
  noColor := false

def get (flags : Flags) : Switch → Bool
  | .verbose => flags.verbose
  | .quiet => flags.quiet
  | .json => flags.json
  | .noColor => flags.noColor

def set (flags : Flags) : Switch → Flags
  | .verbose => { flags with verbose := true }
  | .quiet => { flags with quiet := true }
  | .json => { flags with json := true }
  | .noColor => { flags with noColor := true }

def union (left right : Flags) : Flags where
  verbose := left.verbose || right.verbose
  quiet := left.quiet || right.quiet
  json := left.json || right.json
  noColor := left.noColor || right.noColor

end Flags

structure Invocation where
  flags : Flags
  command : Command
  deriving DecidableEq, Repr

inductive Refusal
  | help
  | version
  | noArguments
  | missingCommand
  | unknownCommand
  | missingOperand
  | unknownArgument
  | invalidValue
  | invalidColumn
  | conflict
  | needlessValue
  deriving DecidableEq, Repr

def Refusal.exitCode : Refusal → Nat
  | .help | .version => 0
  | _ => 2

end ResourceFilter
