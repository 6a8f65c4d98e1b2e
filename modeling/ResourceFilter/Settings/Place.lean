import ResourceFilter.Settings

/-!
Where settings are kept, and what is found there.
-/

namespace ResourceFilter

structure Environment where
  afqConfig : Option String
  configHome : Option String
  home : Option String
  noColor : Bool
  deriving DecidableEq, Repr

def joinPath (base tail : String) : String :=
  if base.isEmpty || base.endsWith "/" then base ++ tail else base ++ "/" ++ tail

def Environment.settingsPath? (environment : Environment) : Option String :=
  match environment.afqConfig, environment.configHome,
    environment.home.filter fun home => !home.isEmpty with
  | some path, _, _ => some path
  | none, some directory, _ => some (joinPath directory "afq/config.toml")
  | none, none, some home => some (joinPath home ".config/afq/config.toml")
  | none, none, none => none

inductive Creation
  | possible
  | noDirectory (reason : String)
  | noFile (reason : String)
  deriving DecidableEq, Repr

inductive SettingsFile
  | missing (creation : Creation)
  | text (content : String)
  | unreadable (reason : String)
  deriving DecidableEq, Repr

def SettingsFile.exists : SettingsFile → Bool
  | missing _ => false
  | text _ | unreadable _ => true

inductive SettingsError
  | noPath
  | unreadable (reason : String)
  | malformed (reason : String)
  | noDirectory (reason : String)
  | noFile (reason : String)
  | unknownDialect (name : String)
  | unknownResource (settings : Settings) (name : String)
  | unknownOperator (symbol : String)

namespace SettingsError

def message : SettingsError → String
  | noPath => "Could not determine config directory"
  | unreadable reason => "Failed to read config: " ++ reason
  | malformed reason => "Failed to parse config: " ++ reason
  | noDirectory reason => "Failed to create config directory: " ++ reason
  | noFile reason => "Failed to create config file: " ++ reason
  | unknownDialect name => "unknown dialect '" ++ name ++ "'"
  | unknownResource settings name => settings.unknownResource name
  | unknownOperator symbol => "unknown operator '" ++ symbol ++ "'"

end SettingsError

def Settings.resource (settings : Settings) (name : String) : Except SettingsError Schema :=
  match settings.resources.get? name with
  | some schema => .ok schema
  | none => .error (.unknownResource settings name)

structure SettingsPlace where
  path : Option String
  file : SettingsFile
  deriving DecidableEq, Repr

namespace SettingsPlace

def path? (place : SettingsPlace) : Except SettingsError String :=
  match place.path with
  | some path => .ok path
  | none => .error .noPath

/-- The settings in force: those of the file, or the default ones if there is no file. What is
wrong with a text that holds none is told by `fault`. -/
def load (place : SettingsPlace) (fault : String → String) : Except SettingsError Settings :=
  match place.path, place.file with
  | none, _ => .error .noPath
  | some _, .missing _ => .ok .default
  | some _, .unreadable reason => .error (.unreadable reason)
  | some _, .text content =>
      match Settings.parse? content with
      | some settings => .ok settings.migrate
      | none => .error (.malformed (fault content))

/-- Makes the file with the default text, unless a file exists; tells whether it did. -/
def init (place : SettingsPlace) : Except SettingsError (Bool × SettingsFile) :=
  match place.file with
  | .missing .possible => .ok (true, .text Settings.defaultText)
  | .missing (.noDirectory reason) => .error (.noDirectory reason)
  | .missing (.noFile reason) => .error (.noFile reason)
  | file => .ok (false, file)

end SettingsPlace

end ResourceFilter
