import ResourceFilter.Proofs.Run.History

/-!
What settings have an influence on. The commands that work on filters and dialects take a dialect
and a schema from them, and each only where the command line leaves it open.
-/

namespace ResourceFilter

/-- The dialect and the resource that a command line gives to a command that looks them up. -/
def Command.lookups? : Command → Option (Option Backend × Option String)
  | .parse _ backend => some (backend, none)
  | .check request => some (request.dialect, request.resource)
  | .compile request _ => some (request.dialect, request.resource)
  | .operators backend => some (backend, none)
  | .config _ | .completions _ => none

namespace Context

variable {context other : Context} {command : Command} {backend : Option Backend}
  {resource : Option String}

theorem print_congr (flags : context.flags = other.flags) (listing : Json) (text : String) :
    context.print listing text = other.print listing text := by
  rw [print, print, shown, shown, flags]

theorem execute_congr (lookups : command.lookups? = some (backend, resource))
    (flags : context.flags = other.flags) (colors : context.colors = other.colors)
    (sameDialect : context.dialect backend = other.dialect backend)
    (sameSchema : context.resource resource = other.resource resource) :
    context.execute command = other.execute command := by
  cases command with
  | parse filter given =>
      cases lookups
      simp only [execute, parse, sameDialect, colors, print_congr flags]
  | check request =>
      cases lookups
      simp only [execute, check, accepted, sameDialect, sameSchema, print_congr flags]
  | compile request options =>
      cases lookups
      simp only [execute, compile, compiled, sameDialect, sameSchema, colors, print_congr flags]
  | operators given =>
      cases lookups
      simp only [execute, listOperators, sameDialect, colors, print_congr flags]
  | config action => cases lookups
  | completions shell => cases lookups

theorem dialect_none : context.dialect none =
    context.load.map Settings.dialect >>= fun
      | none => .ok .postgres
      | some name =>
          match Dialect.ofName? name with
          | some dialect => .ok dialect
          | none => .error (.settings (.unknownDialect name)) := by
  rw [dialect]
  cases context.load <;> rfl

theorem resource_some (name : String) : context.resource (some name) =
    context.load >>= fun settings => (settings.resource name).mapError .settings := by
  rw [Context.resource]
  cases context.load <;> rfl

theorem dialect_congr (same : backend = none →
      context.load.map Settings.dialect = other.load.map Settings.dialect) :
    context.dialect backend = other.dialect backend := by
  cases backend with
  | some given => rfl
  | none => rw [dialect_none, dialect_none, same rfl]

theorem resource_congr (same : ∀ name, resource = some name →
      context.resource (some name) = other.resource (some name)) :
    context.resource resource = other.resource resource := by
  cases resource with
  | none => rfl
  | some name => exact same name rfl

end Context

theorem Settings.parse?_defaultText : parse? defaultText = some default := by
  have read : ∃ chars, defaultText.toList = chars ∧
      Toml.statements? chars = some [.assignment ["version"] (.integer 1)] := by
    refine ⟨?_, ?_, ?_⟩
    rotate_left
    -- Line by line, since the characters of the joined text cannot be computed at once.
    · simp only [defaultText, String.join, List.foldl, String.toList_append, String.reduceToList]
      rfl
    · set_option maxRecDepth 10000 in rfl
  obtain ⟨chars, whole, statements⟩ := read
  rw [parse?, Toml.parse?, whole, statements]
  rfl

namespace SettingsPlace

variable {fault : String → String}

theorem load_of_parse? {path content : String} {settings : Settings}
    (parsed : Settings.parse? content = some settings) :
    load ⟨some path, .text content⟩ fault = .ok settings.migrate := by
  simp only [load, parsed]

theorem load_defaultText (path : Option String) (creation : Creation) :
    load ⟨path, .missing creation⟩ fault = load ⟨path, .text Settings.defaultText⟩ fault := by
  cases path with
  | none => rfl
  | some path =>
      rw [load_of_parse? Settings.parse?_defaultText]
      rfl

end SettingsPlace

namespace Program

variable {library : Library} {environment other : Environment} {file otherFile : SettingsFile}
  {arguments : List String} {flags : Flags} {command : Command} {backend : Option Backend}
  {resource : Option String}

theorem run_congr (read : Invocation.read arguments = .ok ⟨flags, command⟩)
    (lookups : command.lookups? = some (backend, resource))
    (noColor : environment.noColor = other.noColor)
    (sameDialect : backend = none →
      (Context.find library environment file flags).load.map Settings.dialect =
        (Context.find library other otherFile flags).load.map Settings.dialect)
    (sameSchema : ∀ name, resource = some name →
      (Context.find library environment file flags).resource (some name) =
        (Context.find library other otherFile flags).resource (some name)) :
    (run library environment file arguments).1 = (run library other otherFile arguments).1 := by
  have notInit : command ≠ .config .init := by
    rintro rfl
    cases lookups
  have colors : (Context.find library environment file flags).colors =
      (Context.find library other otherFile flags).colors := by
    simp only [Context.find, noColor]
  have same : (Context.find library environment file flags).execute command =
      (Context.find library other otherFile flags).execute command :=
    Context.execute_congr lookups rfl colors (Context.dialect_congr sameDialect)
      (Context.resource_congr sameSchema)
  -- Both runs are the same answer, each on its own file.
  obtain ⟨result, answers, _⟩ := (Context.find library environment file flags).exists_answer notInit
  rw [run_of_answers read answers]
  rw [same] at answers
  rw [run_of_answers read answers]

theorem load_made {init : List String} (creation : Creation) (asks : AsksInit init) :
    SettingsPlace.load ⟨environment.settingsPath?, .missing creation⟩ library.fault =
      SettingsPlace.load ⟨environment.settingsPath?,
        (run library environment (.missing .possible) init).2⟩ library.fault := by
  cases found : environment.settingsPath? with
  | none => rfl
  | some path =>
      rw [(runStep_run found).made_eq asks]
      exact SettingsPlace.load_defaultText _ creation

/-- The settings have an influence on a command only through the default dialect, if none is given,
and through the resource that is asked for. -/
theorem run_influenced (library : Library)
    (read : Invocation.read arguments = .ok ⟨flags, command⟩)
    (lookups : command.lookups? = some (backend, resource)) :
    (backend ≠ none → resource = none → ∀ environment other file otherFile,
      environment.noColor = other.noColor →
      (run library environment file arguments).1 = (run library other otherFile arguments).1) ∧
    (∀ environment other file otherFile settings others,
      environment.noColor = other.noColor →
      SettingsPlace.load ⟨environment.settingsPath?, file⟩ library.fault = .ok settings →
      SettingsPlace.load ⟨other.settingsPath?, otherFile⟩ library.fault = .ok others →
      (backend = none → settings.dialect = others.dialect) →
      (∀ name, resource = some name → ∃ schema,
        settings.resources.get? name = some schema ∧ others.resources.get? name = some schema) →
      (run library environment file arguments).1 = (run library other otherFile arguments).1) ∧
    ∀ environment creation init, AsksInit init →
      (run library environment (.missing creation) arguments).1 =
        (run library environment (run library environment (.missing .possible) init).2
          arguments).1 := by
  refine ⟨?_, ?_, ?_⟩
  · rintro given rfl environment other file otherFile noColor
    exact run_congr read lookups noColor (fun notGiven => absurd notGiven given)
      (fun _ asked => nomatch asked)
  · intro environment other file otherFile settings others noColor loaded otherLoaded sameDialect
      sameSchema
    have found : (Context.find library environment file flags).load = .ok settings :=
      Context.load_eq_ok_iff.mpr loaded
    have otherFound : (Context.find library other otherFile flags).load = .ok others :=
      Context.load_eq_ok_iff.mpr otherLoaded
    apply run_congr read lookups noColor
    · intro notGiven
      rw [found, otherFound, Except.map, Except.map, sameDialect notGiven]
    · intro name asked
      obtain ⟨schema, held, otherHeld⟩ := sameSchema name asked
      rw [Context.resource_some, Context.resource_some, found, otherFound]
      simp only [bind, Except.bind, Settings.resource, held, otherHeld]
  · intro environment creation init asks
    have same : (Context.find library environment (.missing creation) flags).load =
        (Context.find library environment (run library environment (.missing .possible) init).2
          flags).load :=
      congrArg (Except.mapError CommandError.settings) (load_made creation asks)
    apply run_congr read lookups rfl
    · intro _
      rw [same]
    · intro name _
      rw [Context.resource_some, Context.resource_some, same]

/-- A resource that is added and a version that is changed are not noticed by a command that asks
for another resource. -/
theorem run_influenced_resource :
    let environment : Environment := ⟨some "afq.toml", none, none, false⟩
    let file : SettingsFile := .text "[resources.gene]\nfields = [\"a\"]\n"
    let otherFile : SettingsFile :=
      .text "version = 7\n[resources]\ncell = \x7b\x7d\ngene.fields = [\"a\"]\n"
    Invocation.read ["check", "a==1", "-r", "gene"] =
        .ok ⟨.none, .check ⟨"a==1", none, some "gene", []⟩⟩ ∧
      (∃ settings others,
        SettingsPlace.load ⟨some "afq.toml", file⟩ Library.bare.fault = .ok settings ∧
        SettingsPlace.load ⟨some "afq.toml", otherFile⟩ Library.bare.fault = .ok others ∧
        settings.resources.names = ["gene"] ∧ others.resources.names = ["cell", "gene"]) ∧
      (run .bare environment file ["check", "a==1", "-r", "gene"]).1 =
        (run .bare environment otherFile ["check", "a==1", "-r", "gene"]).1 := by
  intro environment file otherFile
  have read : Invocation.read ["check", "a==1", "-r", "gene"] =
      .ok ⟨.none, .check ⟨"a==1", none, some "gene", []⟩⟩ := rfl
  have loaded : SettingsPlace.load ⟨some "afq.toml", file⟩ Library.bare.fault =
      .ok ⟨1, none, .ofList [("gene", ⟨["a"], .empty⟩)]⟩ := rfl
  have otherLoaded : SettingsPlace.load ⟨some "afq.toml", otherFile⟩ Library.bare.fault =
      .ok ⟨1, none, .ofList [("gene", ⟨["a"], .empty⟩), ("cell", .empty)]⟩ := rfl
  refine ⟨read, ⟨_, _, loaded, otherLoaded, rfl, rfl⟩, ?_⟩
  obtain ⟨_, ofLoaded, _⟩ := run_influenced .bare read rfl
  refine ofLoaded environment environment file otherFile _ _ rfl loaded otherLoaded
    (fun _ => rfl) ?_
  rintro name ⟨⟩
  exact ⟨⟨["a"], .empty⟩, rfl, rfl⟩

end Program

end ResourceFilter
