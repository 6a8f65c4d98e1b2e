import ResourceFilter.CommandLine.Invocation

/-!
What may be written at each level of a command line. The root level ends at the word of a
command, and the level of `config` at the word of an action.
-/

namespace ResourceFilter

inductive Parameter
  | dialect
  | resource
  | allow
  | column
  | mode
  | deny
  deriving DecidableEq, Repr

inductive Setting
  | dialect (backend : Backend)
  | resource (name : String)
  | allow (field : String)
  | column (field column : String)
  | mode (mode : Mode)
  | deny (symbol : String)
  deriving DecidableEq, Repr

def Setting.parameter : Setting → Parameter
  | .dialect _ => .dialect
  | .resource _ => .resource
  | .allow _ => .allow
  | .column _ _ => .column
  | .mode _ => .mode
  | .deny _ => .deny

def splitEquals? (text : String) : Option (String × String) :=
  match text.toList.dropWhile (· != '=') with
  | _ :: rest => some (String.ofList (text.toList.takeWhile (· != '=')), String.ofList rest)
  | [] => none

namespace Parameter

def isSingle : Parameter → Bool
  | dialect | resource | mode => true
  | allow | column | deny => false

def read (value : String) : Parameter → Except Refusal Setting
  | dialect =>
      match Backend.ofName? value with
      | some backend => .ok (.dialect backend)
      | none => .error .invalidValue
  | resource => .ok (.resource value)
  | allow => .ok (.allow value)
  | column =>
      match splitEquals? value with
      | some (field, name) =>
          if field.isEmpty || name.isEmpty then .error .invalidColumn
          else .ok (.column field name)
      | none => .error .invalidColumn
  | mode =>
      match Mode.ofName? value with
      | some found => .ok (.mode found)
      | none => .error .invalidValue
  | deny => .ok (.deny value)

end Parameter

inductive Operand
  | filter (text : String)
  | shell (shell : Shell)
  deriving DecidableEq, Repr

inductive OperandKind
  | filter
  | shell
  deriving DecidableEq, Repr

def OperandKind.read (value : String) : OperandKind → Except Refusal Operand
  | .filter => .ok (.filter value)
  | .shell =>
      match Shell.ofName? value with
      | some found => .ok (.shell found)
      | none => .error .invalidValue

inductive Mark
  | help
  | version
  | switch (switch : Switch)
  | parameter (parameter : Parameter)
  deriving DecidableEq, Repr

inductive Level
  | root
  | parse
  | check
  | compile
  | operators
  | config
  | completions
  | action (action : SettingsAction)
  | help
  deriving DecidableEq, Repr

namespace Level

def sub? (level : Level) (word : String) : Option Level :=
  match level with
  | root =>
      if word = "parse" ∨ word = "p" then some parse
      else if word = "check" then some check
      else if word = "compile" ∨ word = "c" then some compile
      else if word = "operators" ∨ word = "ops" then some operators
      else if word = "config" then some config
      else if word = "completions" then some completions
      else if word = "help" then some help
      else none
  | config =>
      if word = "show" then some (action .show)
      else if word = "init" then some (action .init)
      else if word = "path" then some (action .path)
      else if word = "help" then some help
      else none
  | _ => none

def hasSubs : Level → Bool
  | root | config => true
  | _ => false

def parameters : Level → List Parameter
  | parse | operators => [.dialect]
  | check => [.dialect, .resource, .allow]
  | compile => [.dialect, .resource, .allow, .column, .mode, .deny]
  | _ => []

def operand? : Level → Option OperandKind
  | parse | check | compile => some .filter
  | completions => some .shell
  | _ => none

def parameter? (level : Level) (parameter : Parameter) : Option Mark :=
  if level.parameters.contains parameter then some (.parameter parameter) else none

def long? (level : Level) (name : String) : Option Mark :=
  if name = "help" then some .help
  else if name = "version" then some .version
  else if name = "verbose" then some (.switch .verbose)
  else if name = "quiet" then some (.switch .quiet)
  else if name = "json" then some (.switch .json)
  else if name = "no-color" then some (.switch .noColor)
  else if name = "dialect" then level.parameter? .dialect
  else if name = "resource" then level.parameter? .resource
  else if name = "allow" then level.parameter? .allow
  else if name = "column" then level.parameter? .column
  else if name = "mode" then level.parameter? .mode
  else if name = "deny" then level.parameter? .deny
  else none

def letter? (level : Level) (letter : Char) : Option Mark :=
  if letter = 'h' then some .help
  else if letter = 'V' then some .version
  else if letter = 'v' then some (.switch .verbose)
  else if letter = 'q' then some (.switch .quiet)
  else if letter = 'd' then level.parameter? .dialect
  else if letter = 'r' then level.parameter? .resource
  else if letter = 'a' then level.parameter? .allow
  else if letter = 'm' then level.parameter? .mode
  else none

/-- The answer to words after the word `help`: they must lead from level to level. -/
def helpAnswer : Level → List String → Refusal
  | _, [] => .help
  | level, word :: rest =>
      match level.sub? word with
      | some next => helpAnswer next rest
      | none => .unknownCommand

end Level

end ResourceFilter
