import ResourceFilter.Program

/-!
Commands that only answer: they print one text, or they fail and have done nothing. All commands
are of this kind, except for the one that makes the settings file.
-/

namespace ResourceFilter

namespace Except

variable {Error Other Value Result : Type} {found : Except Error Value}

theorem bind_eq_ok {next : Value → Except Error Result} {result : Result}
    (made : (found >>= next) = .ok result) :
    ∃ value, found = .ok value ∧ next value = .ok result := by
  cases found with
  | error error => cases made
  | ok value => exact ⟨value, rfl, made⟩

theorem map_eq_ok {change : Value → Result} {result : Result}
    (made : found.map change = .ok result) :
    ∃ value, found = .ok value ∧ change value = result := by
  cases found with
  | error error => cases made
  | ok value => exact ⟨value, rfl, Except.ok.inj made⟩

@[simp]
theorem mapError_ok (change : Error → Other) (value : Value) :
    (.ok value : Except Error Value).mapError change = .ok value :=
  rfl

@[simp]
theorem mapError_error (change : Error → Other) (error : Error) :
    (.error error : Except Error Value).mapError change = .error (change error) :=
  rfl

theorem mapError_eq_ok_iff {change : Error → Other} {value : Value} :
    found.mapError change = .ok value ↔ found = .ok value := by
  cases found <;> simp

theorem mapError_eq_error_iff {change : Error → Other} {error : Other} :
    found.mapError change = .error error ↔
      ∃ cause, found = .error cause ∧ change cause = error := by
  cases found <;> simp

end Except

theorem Context.load_eq_ok_iff {context : Context} {settings : Settings} :
    context.load = .ok settings ↔ context.place.load context.library.fault = .ok settings :=
  Except.mapError_eq_ok_iff

namespace Action

/-- Holds of an action that prints the text of a result and does nothing else, or fails with the
error of the result and does nothing at all. -/
def Answers (action : Action Unit) (result : Except CommandError String) : Prop :=
  ∀ progress, action progress =
    match result with
    | .error error => (.error error, progress)
    | .ok text => (.ok (), { progress with output := progress.output ++ text })

theorem answers_write (text : String) : (write text).Answers (.ok text) :=
  fun _ => rfl

theorem answers_bind {Value : Type} (found : Except CommandError Value)
    {next : Value → Action Unit} {answer : Value → Except CommandError String}
    (answers : ∀ value, (next value).Answers (answer value)) :
    Answers (liftM found >>= next) (found >>= answer) := by
  intro progress
  cases found with
  | error error => rfl
  | ok value => exact answers value progress

end Action

def Outcome.ofAnswer : Except CommandError String → Outcome
  | .error error => .failed ⟨error, ""⟩
  | .ok text => .done text

theorem Outcome.output_of_ofAnswer_eq_failed {result : Except CommandError String}
    {failure : Failure} (failed : ofAnswer result = .failed failure) : failure.output = "" := by
  cases result with
  | error error =>
      cases failed
      rfl
  | ok text => cases failed

namespace Context

variable (context : Context)

theorem answers_print (listing : Json) (text : String) :
    (context.print listing text).Answers (.ok (context.shown listing text)) :=
  Action.answers_write _

theorem answers_parse (filter : String) (backend : Option Backend) :
    (context.parse filter backend).Answers (do
      let dialect ← context.dialect backend
      let clauses ← (Clause.parse dialect filter).mapError .filter
      return context.shown (Clause.listing dialect.name clauses)
        (Clause.table context.colors clauses)) := by
  apply Action.answers_bind
  intro dialect
  apply Action.answers_bind
  intro clauses
  exact context.answers_print _ _

theorem answers_check (request : FilterRequest) :
    (context.check request).Answers (do
      let clauses ← context.accepted request
      return context.shown (checkListing clauses) (checkText clauses)) := by
  apply Action.answers_bind
  intro clauses
  exact context.answers_print _ _

theorem answers_compile (request : FilterRequest) (options : CompileOptions) :
    (context.compile request options).Answers (do
      let (dialect, compiled) ← context.compiled request options
      return context.shown (compiled.listing dialect.name dialect.mode)
        (compiled.text dialect context.colors)) := by
  apply Action.answers_bind
  intro made
  exact context.answers_print _ _

theorem answers_listOperators (backend : Option Backend) :
    (context.listOperators backend).Answers (do
      let dialect ← context.dialect backend
      return context.shown dialect.operatorListing (dialect.operatorTable context.colors)) := by
  apply Action.answers_bind
  intro dialect
  exact context.answers_print _ _

theorem answers_showSettings :
    context.showSettings.Answers (do
      let settings ← context.load
      let path ← context.path
      return context.shown (settings.listing path context.place.file.exists)
        (settings.report context.colors path context.place.file.exists)) := by
  apply Action.answers_bind
  intro settings
  apply Action.answers_bind
  intro path
  exact context.answers_print _ _

theorem answers_showPath :
    context.showPath.Answers (do
      let path ← context.path
      return if context.flags.json then
        (pathListing path context.place.file.exists).pretty ++ "\n"
      else path ++ "\n") := by
  apply Action.answers_bind
  intro path
  exact Action.answers_write _

end Context

theorem Program.run_of_answers {library : Library} {environment : Environment}
    {file : SettingsFile} {arguments : List String} {flags : Flags} {command : Command}
    {result : Except CommandError String}
    (read : Invocation.read arguments = .ok ⟨flags, command⟩)
    (answers : ((Context.find library environment file flags).execute command).Answers result) :
    run library environment file arguments = (.ofAnswer result, file) := by
  have ran := answers ⟨"", file⟩
  rw [run, read]
  cases result with
  | error error => simp only [perform, ran, Outcome.ofAnswer]
  | ok text => simp only [perform, ran, Outcome.ofAnswer, String.empty_append]

end ResourceFilter
