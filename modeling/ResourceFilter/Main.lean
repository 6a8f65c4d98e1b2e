import ResourceFilter.Program

/-!
The command-line program. It looks at the environment and at the settings file, runs the command
line, prints what the run prints, and writes the settings file if the run makes one.
-/

namespace ResourceFilter

def systemErrorNumber (code : UInt32) : UInt32 :=
  if code < 0x80000000 then code else 0 - code

def accessReason : IO.Error → String
  | .inappropriateType _ code details | .permissionDenied _ code details
  | .noFileOrDirectory _ code details | .resourceExhausted _ code details
  | .alreadyExists _ code details | .noSuchThing _ code details =>
      details.capitalize ++ " (os error " ++ toString (systemErrorNumber code) ++ ")"
  | error => toString error

/-- Looks at the settings file; a file that is not there is taken to be one that can be made. -/
def findSettings (path : String) : IO SettingsFile := do
  if let .error _ ← (IO.FS.realPath path).toBaseIO then
    return .missing .possible
  match ← (IO.FS.readBinFile path).toBaseIO with
  | .error error => return .unreadable (accessReason error)
  | .ok bytes =>
      match String.fromUTF8? bytes with
      | some content => return .text content
      | none => return .unreadable "stream did not contain valid UTF-8"

def directoryOf (path : String) : String :=
  let name := path.toList.reverse.dropWhile (· == '/')
  String.ofList ((name.dropWhile (· != '/')).dropWhile (· == '/')).reverse

def makeDirectory (directory : String) : IO Unit := do
  try
    IO.FS.createDir directory
  catch
    | .noFileOrDirectory _ _ _ => IO.FS.createDirAll directory
    | error =>
        match ← (IO.FS.realPath directory).toBaseIO with
        | .ok found => unless ← found.isDir do throw error
        | .error _ => throw error

def makeSettings (path content : String) : IO Creation := do
  let directory := directoryOf path
  unless directory.isEmpty do
    if let .error error ← (makeDirectory directory).toBaseIO then
      return .noDirectory (accessReason error)
  match ← (IO.FS.writeFile path content).toBaseIO with
  | .error error => return .noFile (accessReason error)
  | .ok _ => return .possible

/-- Runs a command line; if a settings file cannot be made, the run ends as it does without the
possibility of making one. -/
def runProgram (library : Library) (environment : Environment) (arguments : List String) :
    IO Outcome := do
  let path := environment.settingsPath?.getD ""
  let file ← findSettings path
  let (outcome, left) := Program.run library environment file arguments
  match file, left with
  | .missing _, .text content =>
      let creation ← makeSettings path content
      match creation with
      | .possible => return outcome
      | failure => return (Program.run library environment (.missing failure) arguments).1
  | _, _ => return outcome

end ResourceFilter

open ResourceFilter in
def main (arguments : List String) : IO UInt32 := do
  let environment : Environment :=
    ⟨← IO.getEnv "AFQ_CONFIG", ← IO.getEnv "XDG_CONFIG_HOME", ← IO.getEnv "HOME",
      (← IO.getEnv "NO_COLOR").isSome⟩
  let outcome ← runProgram .bare environment arguments
  match outcome with
  | .done output => IO.print output
  | .refused refusal report =>
      if refusal.exitCode = 0 then IO.print report else IO.eprint report
  | .failed failure =>
      IO.print failure.output
      let json :=
        match Invocation.read arguments with
        | .ok invocation => invocation.flags.json
        | .error _ => false
      IO.eprintln (failure.error.report json)
  return UInt32.ofNat outcome.exitCode
