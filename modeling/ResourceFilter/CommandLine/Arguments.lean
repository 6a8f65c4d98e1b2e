import ResourceFilter.CommandLine.Level

/-!
Reading a command line. A value is looked at only when the next option or value is met, or the
level ends; so a fault of the next argument itself may be found first.
-/

namespace ResourceFilter

inductive ArgumentForm
  | stop
  | long (name : String) (value : Option String)
  | letters (letters : List Char)
  | word
  deriving DecidableEq, Repr

def ArgumentForm.of (argument : String) : ArgumentForm :=
  match argument.toList with
  | ['-', '-'] => .stop
  | '-' :: '-' :: rest =>
      match splitEquals? (String.ofList rest) with
      | some (name, value) => .long name (some value)
      | none => .long (String.ofList rest) none
  | '-' :: letter :: rest => .letters (letter :: rest)
  | _ => .word

inductive Pending
  | nothing
  | setting (parameter : Parameter) (value : Option String)
  | operand (kind : OperandKind) (value : String)
  deriving DecidableEq, Repr

structure Given where
  flags : Flags
  settings : List Setting
  operand : Option Operand
  pending : Pending
  deriving DecidableEq, Repr

namespace Given

def empty : Given where
  flags := .none
  settings := []
  operand := none
  pending := .nothing

def store (given : Given) (parameter : Parameter) (value : String) : Except Refusal Given :=
  if parameter.isSingle && given.settings.any fun setting => setting.parameter == parameter then
    .error .conflict
  else
    (parameter.read value).map fun setting =>
      { given with settings := given.settings ++ [setting] }

def settle (given : Given) : Except Refusal Given :=
  match given.pending with
  | .nothing => .ok given
  | .setting _ none => .error .invalidValue
  | .setting parameter (some value) =>
      { given with pending := .nothing }.store parameter value
  | .operand kind value =>
      (kind.read value).map fun operand =>
        { given with operand := some operand, pending := .nothing }

def turnOn (given : Given) (switch : Switch) : Except Refusal Given :=
  match given.settle with
  | .error refusal => .error refusal
  | .ok given =>
      if given.flags.get switch then .error .conflict
      else .ok { given with flags := given.flags.set switch }

def stopAt (given : Given) (refusal : Refusal) : Except Refusal Given :=
  match given.settle with
  | .error other => .error other
  | .ok _ => .error refusal

def meet (given : Given) (parameter : Parameter) (value : Option String) : Except Refusal Given :=
  match given.settle with
  | .error refusal => .error refusal
  | .ok given =>
      match value with
      | some value => given.store parameter value
      | none => .ok { given with pending := .setting parameter none }

def long (given : Given) (level : Level) (name : String) (value : Option String) :
    Except Refusal Given :=
  match level.long? name, value with
  | none, _ => .error .unknownArgument
  | some (.parameter parameter), value => given.meet parameter value
  | some _, some _ => .error .needlessValue
  | some .help, none => given.stopAt .help
  | some .version, none => given.stopAt .version
  | some (.switch switch), none => given.turnOn switch

/-- Meets single-letter options. What follows a letter that takes a value is the value; an equals
sign may stand between them. -/
def letters (level : Level) : Given → List Char → Except Refusal Given
  | given, [] => .ok given
  | given, letter :: rest =>
      match level.letter? letter with
      | none => .error .unknownArgument
      | some .help => given.stopAt .help
      | some .version => given.stopAt .version
      | some (.switch switch) =>
          match given.turnOn switch with
          | .error refusal => .error refusal
          | .ok given => letters level given rest
      | some (.parameter parameter) =>
          match rest with
          | [] => given.meet parameter none
          | '=' :: value => given.meet parameter (some (String.ofList value))
          | value => given.meet parameter (some (String.ofList value))

def hasOperand (given : Given) : Bool :=
  given.operand.isSome ||
    match given.pending with
    | .operand _ _ => true
    | _ => false

/-- Meets a value that stands by itself; `stopped` tells whether two hyphens came before it. -/
def takeOperand (given : Given) (level : Level) (stopped : Bool) (value : String) :
    Except Refusal Given :=
  match level.operand?, given.hasOperand with
  | some kind, false =>
      given.settle.map fun given => { given with pending := .operand kind value }
  | _, _ =>
      if level.hasSubs && !(stopped && (level.sub? value).isSome) then .error .unknownCommand
      else .error .unknownArgument

def takeWord (given : Given) (level : Level) (value : String) : Except Refusal Given :=
  match given.pending with
  | .setting parameter none => .ok { given with pending := .setting parameter (some value) }
  | _ => given.takeOperand level false value

def take (given : Given) (level : Level) (argument : String) : Except Refusal Given :=
  match ArgumentForm.of argument with
  | .stop => .ok given
  | .long name value => given.long level name value
  | .letters letters => Given.letters level given letters
  | .word => given.takeWord level argument

def scan (level : Level) (stopped : Bool) (given : Given) :
    List String → Except Refusal (Given × Option (Level × List String))
  | [] => .ok (given, none)
  | argument :: rest =>
      if stopped then
        match given.takeOperand level true argument with
        | .error refusal => .error refusal
        | .ok given => scan level true given rest
      else
        match level.sub? argument with
        | some .help => .error (level.helpAnswer rest)
        | some next => .ok (given, some (next, rest))
        | none =>
            match given.take level argument with
            | .error refusal => .error refusal
            | .ok given => scan level (ArgumentForm.of argument == .stop) given rest

def finish (given : Given) : Except Refusal Given :=
  match given.settle with
  | .error refusal => .error refusal
  | .ok given =>
      if given.flags.quiet && given.flags.verbose then .error .conflict else .ok given

def dialect (given : Given) : Option Backend :=
  given.settings.findSome? fun
    | .dialect backend => some backend
    | _ => none

def resource (given : Given) : Option String :=
  given.settings.findSome? fun
    | .resource name => some name
    | _ => none

def mode (given : Given) : Option Mode :=
  given.settings.findSome? fun
    | .mode mode => some mode
    | _ => none

def allow (given : Given) : List String :=
  given.settings.filterMap fun
    | .allow field => some field
    | _ => none

def columns (given : Given) : List (String × String) :=
  given.settings.filterMap fun
    | .column field column => some (field, column)
    | _ => none

def deny (given : Given) : List String :=
  given.settings.filterMap fun
    | .deny symbol => some symbol
    | _ => none

def filter (given : Given) : Except Refusal String :=
  match given.operand with
  | some (.filter text) => .ok text
  | _ => .error .missingOperand

def request (given : Given) : Except Refusal FilterRequest :=
  given.filter.map fun filter => ⟨filter, given.dialect, given.resource, given.allow⟩

def command (given : Given) : Level → Except Refusal Command
  | .root | .help =>
      if given.flags = .none then .error .noArguments else .error .missingCommand
  | .parse => given.filter.map fun filter => .parse filter given.dialect
  | .check => given.request.map .check
  | .compile => given.request.map fun request =>
      .compile request ⟨given.columns, given.mode, given.deny⟩
  | .operators => .ok (.operators given.dialect)
  | .config => .ok (.config .show)
  | .action action => .ok (.config action)
  | .completions =>
      match given.operand with
      | some (.shell shell) => .ok (.completions shell)
      | _ => .error .missingOperand

/-- The invocation that a level ends as. A missing command is reported before a conflict of
switches. -/
def complete (given : Given) (level : Level) : Except Refusal Invocation :=
  match level with
  | .root => (given.command .root).map fun command => ⟨given.flags, command⟩
  | level =>
      match given.finish with
      | .error refusal => .error refusal
      | .ok given => (given.command level).map fun command => ⟨given.flags, command⟩

end Given

namespace Invocation

def readLevel (below : Level → List String → Except Refusal Invocation) (level : Level)
    (arguments : List String) : Except Refusal Invocation :=
  match Given.scan level false .empty arguments with
  | .error refusal => .error refusal
  | .ok (given, none) => given.complete level
  | .ok (given, some (next, rest)) =>
      match below next rest with
      | .error refusal => .error refusal
      | .ok invocation =>
          given.finish.map fun given =>
            { invocation with flags := given.flags.union invocation.flags }

def readLast : Level → List String → Except Refusal Invocation :=
  readLevel fun _ _ => .error .unknownCommand

def readCommand : Level → List String → Except Refusal Invocation :=
  readLevel readLast

def read (arguments : List String) : Except Refusal Invocation :=
  readLevel readCommand .root arguments

end Invocation

end ResourceFilter
