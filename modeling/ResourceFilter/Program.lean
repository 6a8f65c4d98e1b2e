import ResourceFilter.CommandLine.Arguments
import ResourceFilter.Report.Clauses
import ResourceFilter.Report.Compiled
import ResourceFilter.Report.Operators
import ResourceFilter.Report.Settings
import ResourceFilter.Settings.Place

/-!
What a command line does: the text it prints, the error it may end with, and the settings file it
leaves.
-/

namespace ResourceFilter

inductive CommandError
  | filter (error : FilterError)
  | settings (error : SettingsError)

namespace CommandError

def message : CommandError → String
  | filter error => "filter error: " ++ error.message
  | settings error => "configuration error: " ++ error.message

def code : CommandError → String
  | filter error => error.code
  | settings _ => "CONFIG_ERROR"

def exitCode : CommandError → Nat
  | filter _ => 1
  | settings _ => 5

def report (error : CommandError) (json : Bool) : String :=
  if json then
    let members := [("code", .string error.code), ("message", .string error.message)]
    (Json.object [("error", .object members)]).pretty
  else "Error: " ++ error.message

end CommandError

structure Progress where
  output : String
  file : SettingsFile
  deriving DecidableEq, Repr

/-- A part of a run. An error takes back nothing of what was done before it. -/
abbrev Action := ExceptT CommandError (StateM Progress)

namespace Action

def write (text : String) : Action Unit :=
  modify fun progress => { progress with output := progress.output ++ text }

def leave (file : SettingsFile) : Action Unit :=
  modify fun progress => { progress with file }

end Action

/-- Texts that the program takes from the libraries it is linked with: the report on a command
line that is not run, what is wrong with a text that holds no settings, and the script that
completes commands in a shell. -/
structure Library where
  report : List String → Refusal → String
  fault : String → String
  script : Shell → String

/-- Texts for a program that is linked with no libraries: it names itself and its usage, and its
scripts are a comment that completes nothing. -/
def Library.bare : Library where
  report _ refusal :=
    if refusal = .version then "afq 0.1.0\n" else "Usage: afq [OPTIONS] <COMMAND>\n"
  fault _ := "invalid TOML"
  script _ := "# no completions\n"

structure Context where
  library : Library
  flags : Flags
  colors : Bool
  place : SettingsPlace

namespace Context

def find (library : Library) (environment : Environment) (file : SettingsFile) (flags : Flags) :
    Context where
  library := library
  flags := flags
  colors := !(flags.noColor || environment.noColor)
  place := ⟨environment.settingsPath?, file⟩

def shown (context : Context) (listing : Json) (text : String) : String :=
  if context.flags.json then listing.pretty ++ "\n"
  else if context.flags.quiet then ""
  else text

def print (context : Context) (listing : Json) (text : String) : Action Unit :=
  Action.write (context.shown listing text)

def load (context : Context) : Except CommandError Settings :=
  (context.place.load context.library.fault).mapError .settings

def dialect (context : Context) (given : Option Backend) : Except CommandError Dialect :=
  match given with
  | some backend => .ok backend.dialect
  | none =>
      match context.load with
      | .error error => .error error
      | .ok settings =>
          match settings.dialect with
          | none => .ok .postgres
          | some name =>
              match Dialect.ofName? name with
              | some dialect => .ok dialect
              | none => .error (.settings (.unknownDialect name))

def resource (context : Context) (name : Option String) : Except CommandError Schema :=
  match name with
  | none => .ok .empty
  | some name =>
      match context.load with
      | .error error => .error error
      | .ok settings => (settings.resource name).mapError .settings

def parse (context : Context) (filter : String) (backend : Option Backend) : Action Unit := do
  let dialect ← context.dialect backend
  let clauses ← (Clause.parse dialect filter).mapError CommandError.filter
  context.print (Clause.listing dialect.name clauses) (Clause.table context.colors clauses)

def checkListing (clauses : List Clause) : Json :=
  .object
    [("valid", .boolean true), ("clauses", .number clauses.length),
      ("fields", .strings (clauses.map Clause.field))]

def checkText (clauses : List Clause) : String :=
  "ok (" ++ toString clauses.length ++ " clauses)\n"

def accepted (context : Context) (request : FilterRequest) :
    Except CommandError (List Clause) := do
  let dialect ← context.dialect request.dialect
  let base ← context.resource request.resource
  let schema := base.extend request.allow []
  let clauses ← (Clause.parse dialect request.filter).mapError .filter
  (AllowList.check schema.fields clauses).mapError .filter
  return clauses

def check (context : Context) (request : FilterRequest) : Action Unit := do
  let clauses ← context.accepted request
  context.print (checkListing clauses) (checkText clauses)

def operators : List String → Except CommandError (List Operator)
  | [] => .ok []
  | symbol :: rest =>
      match Operator.ofSymbol? symbol with
      | none => .error (.settings (.unknownOperator symbol))
      | some operator => (operators rest).map (operator :: ·)

def adapt (dialect : Dialect) (denied : List Operator) (mode : Option Mode) : Dialect :=
  let narrowed := dialect.without denied
  match mode with
  | some mode => narrowed.withMode mode
  | none => narrowed

def compiled (context : Context) (request : FilterRequest) (options : CompileOptions) :
    Except CommandError (Dialect × CompiledFilter) := do
  let base ← context.resource request.resource
  let schema := base.extend request.allow options.columns
  let given ← context.dialect request.dialect
  let denied ← operators options.deny
  let dialect := adapt given denied options.mode
  let compiled ← (CompiledFilter.build dialect schema request.filter).mapError .filter
  return (dialect, compiled)

def compile (context : Context) (request : FilterRequest) (options : CompileOptions) :
    Action Unit := do
  let (dialect, compiled) ← context.compiled request options
  context.print (compiled.listing dialect.name dialect.mode)
    (compiled.text dialect context.colors)

def listOperators (context : Context) (backend : Option Backend) : Action Unit := do
  let dialect ← context.dialect backend
  context.print dialect.operatorListing (dialect.operatorTable context.colors)

def path (context : Context) : Except CommandError String :=
  context.place.path?.mapError .settings

def showSettings (context : Context) : Action Unit := do
  let settings ← context.load
  let path ← context.path
  let fileExists := context.place.file.exists
  context.print (settings.listing path fileExists)
    (settings.report context.colors path fileExists)

def creationListing (path : String) (created : Bool) : Json :=
  .object [("created", .boolean created), ("path", .string path)]

def creationText (path : String) (created : Bool) : String :=
  if created then "Created default config at: " ++ path ++ "\n"
  else "Config already exists at: " ++ path ++ "\n"

def initSettings (context : Context) : Action Unit := do
  let path ← context.path
  let (created, file) ← context.place.init.mapError CommandError.settings
  Action.leave file
  context.print (creationListing path created) (creationText path created)

def pathListing (path : String) (fileExists : Bool) : Json :=
  .object [("exists", .boolean fileExists), ("path", .string path)]

/-- Prints the path of the settings, whether or not output is wanted. -/
def showPath (context : Context) : Action Unit := do
  let path ← context.path
  Action.write <|
    if context.flags.json then (pathListing path context.place.file.exists).pretty ++ "\n"
    else path ++ "\n"

def execute (context : Context) : Command → Action Unit
  | .parse filter backend => context.parse filter backend
  | .check request => context.check request
  | .compile request options => context.compile request options
  | .operators backend => context.listOperators backend
  | .config .show => context.showSettings
  | .config .init => context.initSettings
  | .config .path => context.showPath
  | .completions shell => Action.write (context.library.script shell)

end Context

structure Failure where
  error : CommandError
  output : String

namespace Failure

def code (failure : Failure) : String :=
  failure.error.code

def message (failure : Failure) : String :=
  failure.error.message

def exitCode (failure : Failure) : Nat :=
  failure.error.exitCode

end Failure

inductive Outcome
  | refused (refusal : Refusal) (report : String)
  | failed (failure : Failure)
  | done (output : String)

namespace Outcome

/-- The output of a run, which the report on a faulty command line is no part of. -/
def output : Outcome → String
  | refused refusal report => if refusal.exitCode = 0 then report else ""
  | failed failure => failure.output
  | done text => text

def exitCode : Outcome → Nat
  | refused refusal _ => refusal.exitCode
  | failed failure => failure.exitCode
  | done _ => 0

end Outcome

namespace Program

def perform (library : Library) (environment : Environment) (file : SettingsFile)
    (invocation : Invocation) : Outcome × SettingsFile :=
  let context := Context.find library environment file invocation.flags
  match context.execute invocation.command ⟨"", file⟩ with
  | (.error error, progress) => (.failed ⟨error, progress.output⟩, progress.file)
  | (.ok _, progress) => (.done progress.output, progress.file)

/-- Runs a command line: how the run ends, and the settings file it leaves. -/
def run (library : Library) (environment : Environment) (file : SettingsFile)
    (arguments : List String) : Outcome × SettingsFile :=
  match Invocation.read arguments with
  | .error refusal => (.refused refusal (library.report arguments refusal), file)
  | .ok invocation => perform library environment file invocation

def runAll (library : Library) (environment : Environment) :
    SettingsFile → List (List String) → List Outcome × SettingsFile
  | file, [] => ([], file)
  | file, arguments :: rest =>
      let (outcome, next) := run library environment file arguments
      let (outcomes, last) := runAll library environment next rest
      (outcome :: outcomes, last)

end Program

end ResourceFilter
