import ResourceFilter.Proofs.Run.Answer

/-!
What a command comes to before any switch is looked at. The switches choose only the form in which
it is printed.
-/

namespace ResourceFilter

inductive Page
  | result (listing : Json) (text : Bool → String)
  | path (listing : Json) (text : String)
  | script (text : String)

def Page.shown (flags : Flags) (colors : Bool) : Page → String
  | result listing text =>
      if flags.json then listing.pretty ++ "\n" else if flags.quiet then "" else text colors
  | path listing text => if flags.json then listing.pretty ++ "\n" else text
  | script text => text

namespace Context

/-- What a command comes to: its page and the settings file it leaves, or the error that it fails
with. -/
def page (context : Context) : Command → Except CommandError (Page × SettingsFile)
  | .parse filter backend => do
      let dialect ← context.dialect backend
      let clauses ← (Clause.parse dialect filter).mapError .filter
      return (.result (Clause.listing dialect.name clauses) (Clause.table · clauses),
        context.place.file)
  | .check request => do
      let clauses ← context.accepted request
      return (.result (checkListing clauses) fun _ => checkText clauses, context.place.file)
  | .compile request options => do
      let (dialect, compiled) ← context.compiled request options
      return (.result (compiled.listing dialect.name dialect.mode) (compiled.text dialect ·),
        context.place.file)
  | .operators backend => do
      let dialect ← context.dialect backend
      return (.result dialect.operatorListing dialect.operatorTable, context.place.file)
  | .config .show => do
      let settings ← context.load
      let path ← context.path
      return (.result (settings.listing path context.place.file.exists)
        (settings.report · path context.place.file.exists), context.place.file)
  | .config .init => do
      let path ← context.path
      let (created, file) ← context.place.init.mapError .settings
      return (.result (creationListing path created) fun _ => creationText path created, file)
  | .config .path => do
      let path ← context.path
      return (.path (pathListing path context.place.file.exists) (path ++ "\n"),
        context.place.file)
  | .completions shell => .ok (.script (context.library.script shell), context.place.file)

theorem page_congr {context other : Context} (sameLibrary : context.library = other.library)
    (samePlace : context.place = other.place) (command : Command) :
    context.page command = other.page command := by
  obtain ⟨library, flags, colors, place⟩ := context
  obtain ⟨otherLibrary, otherFlags, otherColors, otherPlace⟩ := other
  cases sameLibrary
  cases samePlace
  rfl

inductive Shows (context : Context) : Command → Page → Prop
  | clauses {filter : String} {backend : Option Backend} {dialect : Dialect}
      {clauses : List Clause} :
      Clause.parse dialect filter = .ok clauses →
      Shows context (.parse filter backend)
        (.result (Clause.listing dialect.name clauses) (Clause.table · clauses))
  | verdict {request : FilterRequest} {clauses : List Clause} :
      context.accepted request = .ok clauses →
      Shows context (.check request) (.result (checkListing clauses) fun _ => checkText clauses)
  | compiled {request : FilterRequest} {options : CompileOptions} {dialect : Dialect}
      {compiled : CompiledFilter} :
      context.compiled request options = .ok (dialect, compiled) →
      Shows context (.compile request options)
        (.result (compiled.listing dialect.name dialect.mode) (compiled.text dialect ·))
  | operators {backend : Option Backend} {dialect : Dialect} :
      context.dialect backend = .ok dialect →
      Shows context (.operators backend) (.result dialect.operatorListing dialect.operatorTable)
  | settings {settings : Settings} {path : String} :
      context.load = .ok settings → context.path = .ok path →
      Shows context (.config .show) (.result (settings.listing path context.place.file.exists)
        (settings.report · path context.place.file.exists))
  | creation {path : String} (created : Bool) :
      context.path = .ok path →
      Shows context (.config .init)
        (.result (creationListing path created) fun _ => creationText path created)
  | path {path : String} :
      context.path = .ok path →
      Shows context (.config .path)
        (.path (pathListing path context.place.file.exists) (path ++ "\n"))
  | script (shell : Shell) :
      Shows context (.completions shell) (.script (context.library.script shell))

theorem shows_of_page {context : Context} {command : Command} {page : Page} {next : SettingsFile}
    (found : context.page command = .ok (page, next)) : context.Shows command page := by
  cases command with
  | parse filter backend =>
      obtain ⟨dialect, _, found⟩ := Except.bind_eq_ok found
      obtain ⟨clauses, read, found⟩ := Except.bind_eq_ok found
      cases found
      exact .clauses (Except.mapError_eq_ok_iff.mp read)
  | check request =>
      obtain ⟨clauses, accepted, found⟩ := Except.bind_eq_ok found
      cases found
      exact .verdict accepted
  | compile request options =>
      obtain ⟨⟨dialect, compiled⟩, made, found⟩ := Except.bind_eq_ok found
      cases found
      exact .compiled made
  | operators backend =>
      obtain ⟨dialect, isDialect, found⟩ := Except.bind_eq_ok found
      cases found
      exact .operators isDialect
  | config action =>
      cases action with
      | «show» =>
          obtain ⟨settings, loaded, found⟩ := Except.bind_eq_ok found
          obtain ⟨path, isPath, found⟩ := Except.bind_eq_ok found
          cases found
          exact .settings loaded isPath
      | init =>
          obtain ⟨path, isPath, found⟩ := Except.bind_eq_ok found
          obtain ⟨⟨created, file⟩, _, found⟩ := Except.bind_eq_ok found
          cases found
          exact .creation created isPath
      | path =>
          obtain ⟨path, isPath, found⟩ := Except.bind_eq_ok found
          cases found
          exact .path isPath
  | completions shell =>
      cases found
      exact .script shell

def Ends (context : Context) (action : Action Unit)
    (result : Except CommandError (Page × SettingsFile)) : Prop :=
  action ⟨"", context.place.file⟩ =
    match result with
    | .error error => (.error error, ⟨"", context.place.file⟩)
    | .ok (page, file) => (.ok (), ⟨page.shown context.flags context.colors, file⟩)

variable (context : Context)

theorem ends_bind {Value : Type} (found : Except CommandError Value) {next : Value → Action Unit}
    {answer : Value → Except CommandError (Page × SettingsFile)}
    (ends : ∀ value, context.Ends (next value) (answer value)) :
    context.Ends (liftM found >>= next) (found >>= answer) := by
  cases found with
  | error error => rfl
  | ok value => exact ends value

theorem ends_write (page : Page) :
    context.Ends (Action.write (page.shown context.flags context.colors))
      (.ok (page, context.place.file)) := by
  have ran : Action.write (page.shown context.flags context.colors) ⟨"", context.place.file⟩ =
      (.ok (), ⟨"" ++ page.shown context.flags context.colors, context.place.file⟩) := rfl
  rw [Ends, ran, String.empty_append]

theorem ends_print (listing : Json) (text : Bool → String) :
    context.Ends (context.print listing (text context.colors))
      (.ok (.result listing text, context.place.file)) :=
  context.ends_write (.result listing text)

theorem ends_execute (command : Command) :
    context.Ends (context.execute command) (context.page command) := by
  cases command with
  | parse filter backend =>
      apply ends_bind
      intro dialect
      apply ends_bind
      intro clauses
      exact context.ends_print _ (Clause.table · clauses)
  | check request =>
      apply ends_bind
      intro clauses
      exact context.ends_print _ fun _ => checkText clauses
  | compile request options =>
      apply ends_bind
      rintro ⟨dialect, compiled⟩
      exact context.ends_print _ (compiled.text dialect ·)
  | operators backend =>
      apply ends_bind
      intro dialect
      exact context.ends_print _ dialect.operatorTable
  | config action =>
      cases action with
      | «show» =>
          apply ends_bind
          intro settings
          apply ends_bind
          intro path
          exact context.ends_print _ (settings.report · path context.place.file.exists)
      | init =>
          apply ends_bind
          intro path
          apply ends_bind
          rintro ⟨created, file⟩
          -- The file is left before anything is printed.
          have ran : (Action.leave file >>= fun _ => context.print (creationListing path created)
              (creationText path created)) ⟨"", context.place.file⟩ =
              (.ok (), ⟨"" ++ context.shown (creationListing path created)
                (creationText path created), file⟩) := rfl
          exact ran.trans (by rw [String.empty_append]; rfl)
      | path =>
          apply ends_bind
          intro path
          exact context.ends_write
            (.path (pathListing path context.place.file.exists) (path ++ "\n"))
  | completions shell => exact context.ends_write (.script (context.library.script shell))

end Context

def Outcome.ofResult (flags : Flags) (colors : Bool) (file : SettingsFile) :
    Except CommandError (Page × SettingsFile) → Outcome × SettingsFile
  | .error error => (failed ⟨error, ""⟩, file)
  | .ok (page, next) => (done (page.shown flags colors), next)

theorem Program.run_eq_ofResult {library : Library} {environment : Environment}
    {file : SettingsFile} {arguments : List String} {flags : Flags} {command : Command}
    (read : Invocation.read arguments = .ok ⟨flags, command⟩) :
    run library environment file arguments =
      Outcome.ofResult flags (Context.find library environment file flags).colors file
        ((Context.find library environment file flags).page command) := by
  have ended : (Context.find library environment file flags).execute command ⟨"", file⟩ = _ :=
    (Context.find library environment file flags).ends_execute command
  rw [run, read]
  simp only [perform, ended]
  cases (Context.find library environment file flags).page command <;> rfl

end ResourceFilter
