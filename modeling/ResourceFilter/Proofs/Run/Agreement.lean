import ResourceFilter.Proofs.Clause.Denial
import ResourceFilter.Proofs.Fragment.Building
import ResourceFilter.Proofs.Run.Answer

/-!
Checking a filter and compiling it. The two look up dialect and resource in different orders, and
only one of them makes conditions; dates apart, they refuse the same filters.
-/

namespace ResourceFilter

namespace Context

variable {context : Context} {request : FilterRequest} {error : CommandError}

theorem load_eq_error (failed : context.load = .error error) :
    ∃ cause, error = .settings cause := by
  obtain ⟨cause, _, rfl⟩ := Except.mapError_eq_error_iff.mp failed
  exact ⟨cause, rfl⟩

theorem dialect_eq_error {given : Option Backend} (failed : context.dialect given = .error error) :
    given = none ∧ (context.load = .error error ∨
      ∃ settings name, context.load = .ok settings ∧ settings.dialect = some name ∧
        Dialect.ofName? name = none ∧ error = .settings (.unknownDialect name)) := by
  cases given with
  | some backend => cases failed
  | none =>
      refine ⟨rfl, ?_⟩
      rw [dialect] at failed
      cases loaded : context.load with
      | error cause =>
          simp only [loaded] at failed
          cases failed
          exact .inl rfl
      | ok settings =>
          simp only [loaded] at failed
          cases named : settings.dialect with
          | none => simp [named] at failed
          | some name =>
              cases known : Dialect.ofName? name with
              | some dialect => simp [named, known] at failed
              | none =>
                  simp only [named, known, Except.error.injEq] at failed
                  exact .inr ⟨settings, name, rfl, named, known, failed.symm⟩

theorem resource_eq_error {name : Option String} (failed : context.resource name = .error error) :
    ∃ wanted, name = some wanted ∧ (context.load = .error error ∨
      ∃ settings, context.load = .ok settings ∧ settings.resources.get? wanted = none ∧
        error = .settings (.unknownResource settings wanted)) := by
  cases name with
  | none => cases failed
  | some wanted =>
      refine ⟨wanted, rfl, ?_⟩
      rw [resource] at failed
      cases loaded : context.load with
      | error cause =>
          simp only [loaded] at failed
          cases failed
          exact .inl rfl
      | ok settings =>
          simp only [loaded, Settings.resource] at failed
          cases known : settings.resources.get? wanted with
          | some schema => simp [known] at failed
          | none =>
              simp only [known, Except.mapError_error, Except.error.injEq] at failed
              exact .inr ⟨settings, rfl, known, failed.symm⟩

theorem exists_cause_of_dialect {given : Option Backend}
    (failed : context.dialect given = .error error) : ∃ cause, error = .settings cause := by
  obtain ⟨_, unloaded | ⟨_, _, _, _, _, rfl⟩⟩ := dialect_eq_error failed
  · exact load_eq_error unloaded
  · exact ⟨_, rfl⟩

theorem exists_cause_of_resource {name : Option String}
    (failed : context.resource name = .error error) : ∃ cause, error = .settings cause := by
  obtain ⟨_, _, unloaded | ⟨_, _, _, rfl⟩⟩ := resource_eq_error failed
  · exact load_eq_error unloaded
  · exact ⟨_, rfl⟩

end Context

/-- The settings name an unknown dialect, which is in use, and a resource is asked for that they do
not have. -/
def SettingsPlace.LacksBoth (place : SettingsPlace) (fault : String → String)
    (request : FilterRequest) : Prop :=
  ∃ settings name wanted, place.load fault = .ok settings ∧
    request.dialect = none ∧ settings.dialect = some name ∧ Dialect.ofName? name = none ∧
    request.resource = some wanted ∧ settings.resources.get? wanted = none

inductive Agrees (context : Context) (request : FilterRequest) :
    Except CommandError (List Clause) → Except CommandError (Dialect × CompiledFilter) → Prop
  | made {clauses : List Clause} {made : Dialect × CompiledFilter} :
      Agrees context request (.ok clauses) (.ok made)
  | misdated {clauses : List Clause} {value : String} :
      Agrees context request (.ok clauses) (.error (.filter (.invalidDate value)))
  | refused {error : CommandError} : error.code ≠ "INVALID_DATE_LITERAL" →
      Agrees context request (.error error) (.error error)
  | lost {cause other : SettingsError} : context.place.LacksBoth context.library.fault request →
      Agrees context request (.error (.settings cause)) (.error (.settings other))

theorem Context.adapt_nil (dialect : Dialect) (mode : Option Mode) :
    adapt dialect [] mode = dialect.derive (.without [] :: mode.toList.map .mode) := by
  cases mode <;> rfl

theorem Clause.parse_adapt_nil (dialect : Dialect) (mode : Option Mode) (filter : String) :
    parse (Context.adapt dialect [] mode) filter = parse dialect filter := by
  rw [Context.adapt_nil]
  apply parse_derive_of_spared
  intro operator _
  cases mode <;> simp [Dialect.removed]

section Agreeing

variable {context : Context} {request : FilterRequest} {mode : Option Mode}

theorem agrees_of_settings {cause : SettingsError} :
    Agrees context request (.error (.settings cause)) (.error (.settings cause)) :=
  .refused (by simp [CommandError.code])

/-- Dialects are looked up first by one command and resources by the other, so that the two may find
different failures if the settings lack both. -/
theorem agrees_of_lookups {error resourceError : CommandError}
    (noDialect : context.dialect request.dialect = .error error)
    (noResource : context.resource request.resource = .error resourceError) :
    Agrees context request (.error error) (.error resourceError) := by
  obtain ⟨notGiven, dialectCause⟩ := Context.dialect_eq_error noDialect
  obtain ⟨wanted, asked, resourceCause⟩ := Context.resource_eq_error noResource
  rcases dialectCause with unloaded | ⟨settings, name, loaded, named, unknown, rfl⟩
  · rcases resourceCause with sameUnloaded | ⟨settings, loaded, _⟩
    · rw [unloaded] at sameUnloaded
      cases sameUnloaded
      obtain ⟨cause, rfl⟩ := Context.load_eq_error unloaded
      exact agrees_of_settings
    · rw [unloaded] at loaded
      cases loaded
  · rcases resourceCause with unloaded | ⟨sameSettings, sameLoaded, missing, rfl⟩
    · rw [loaded] at unloaded
      cases unloaded
    · rw [loaded] at sameLoaded
      cases sameLoaded
      exact .lost ⟨settings, name, wanted, Context.load_eq_ok_iff.mp loaded, notGiven, named,
        unknown, asked, missing⟩

theorem code_ne_of_parse {dialect : Dialect} {filter : String} {error : FilterError}
    (refused : Clause.parse dialect filter = .error error) :
    (CommandError.filter error).code ≠ "INVALID_DATE_LITERAL" := by
  rcases Clause.parse_eq_error refused with ⟨_, _, _, rfl⟩ | ⟨_, rfl⟩ <;>
    simp [CommandError.code, FilterError.code]

section Found

variable {dialect : Dialect} {base : Schema}
  (hasDialect : context.dialect request.dialect = .ok dialect)
  (hasResource : context.resource request.resource = .ok base)
include hasDialect hasResource

theorem accepted_of_found : context.accepted request = (do
    let clauses ← (Clause.parse dialect request.filter).mapError .filter
    (AllowList.check (base.extend request.allow []).fields clauses).mapError .filter
    return clauses) := by
  rw [Context.accepted, hasDialect, hasResource]
  rfl

theorem compiled_of_found : context.compiled request ⟨[], mode, []⟩ =
    ((CompiledFilter.build (Context.adapt dialect [] mode) (base.extend request.allow [])
      request.filter).mapError CommandError.filter).map
        fun compiled => (Context.adapt dialect [] mode, compiled) := by
  simp only [Context.compiled, hasDialect, hasResource, Context.operators, bind, Except.bind]
  cases CompiledFilter.build (Context.adapt dialect [] mode) (base.extend request.allow [])
    request.filter <;> rfl

theorem agrees_of_found : Agrees context request (context.accepted request)
    (context.compiled request ⟨[], mode, []⟩) := by
  have read := Clause.parse_adapt_nil dialect mode request.filter
  rw [accepted_of_found hasDialect hasResource, compiled_of_found hasDialect hasResource]
  cases parsed : Clause.parse dialect request.filter with
  | error error =>
      rw [build_of_unread (read.trans parsed)]
      exact .refused (code_ne_of_parse parsed)
  | ok clauses =>
      cases checked : AllowList.check (base.extend request.allow []).fields clauses with
      | error error =>
          obtain ⟨before, clause, after, rfl, allowed, notAllowed, rfl⟩ :=
            AllowList.check_eq_error_iff.mp checked
          rw [build_of_disallowed (read.trans parsed) allowed notAllowed]
          simp only [Except.mapError_ok, Except.mapError_error, bind, Except.bind, checked]
          exact .refused (by simp [CommandError.code, FilterError.code])
      | ok _ =>
          have allowed := AllowList.check_eq_ok_iff.mp checked
          have built := buildsTo_build (Context.adapt dialect [] mode)
            (base.extend request.allow []) request.filter
          simp only [Except.mapError_ok, bind, Except.bind, checked]
          cases made : CompiledFilter.build (Context.adapt dialect [] mode)
            (base.extend request.allow []) request.filter with
          | ok compiled => exact .made
          | error error =>
              -- Clauses that are read and allowed can fail to be built only for a date.
              rw [made] at built
              cases built with
              | unread unread =>
                  rw [read, parsed] at unread
                  cases unread
              | disallowed sameRead _ notAllowed =>
                  rw [read, parsed] at sameRead
                  cases sameRead
                  exact absurd (allowed _ (by simp)) notAllowed
              | misdated _ _ _ _ => exact .misdated

end Found

theorem agrees (context : Context) (request : FilterRequest) (mode : Option Mode) :
    Agrees context request (context.accepted request)
      (context.compiled request ⟨[], mode, []⟩) := by
  cases foundDialect : context.dialect request.dialect with
  | error error =>
      have refused : context.accepted request = .error error := by
        simp only [Context.accepted, foundDialect, bind, Except.bind]
      rw [refused]
      cases foundResource : context.resource request.resource with
      | error resourceError =>
          have fails : context.compiled request ⟨[], mode, []⟩ = .error resourceError := by
            simp only [Context.compiled, foundResource, bind, Except.bind]
          rw [fails]
          exact agrees_of_lookups foundDialect foundResource
      | ok base =>
          have fails : context.compiled request ⟨[], mode, []⟩ = .error error := by
            simp only [Context.compiled, foundResource, foundDialect, bind, Except.bind]
          obtain ⟨cause, rfl⟩ := Context.exists_cause_of_dialect foundDialect
          rw [fails]
          exact agrees_of_settings
  | ok dialect =>
      cases foundResource : context.resource request.resource with
      | error error =>
          have refused : context.accepted request = .error error := by
            simp only [Context.accepted, foundDialect, foundResource, bind, Except.bind]
          have fails : context.compiled request ⟨[], mode, []⟩ = .error error := by
            simp only [Context.compiled, foundResource, bind, Except.bind]
          obtain ⟨cause, rfl⟩ := Context.exists_cause_of_resource foundResource
          rw [refused, fails]
          exact agrees_of_settings
      | ok base => exact agrees_of_found foundDialect foundResource

end Agreeing

/-- Checking a filter and compiling it, in any mode, agree: what one refuses the other one refuses
in the same way, except for values that are no dates, which only count when a filter is compiled. -/
theorem check_agrees_compile (library : Library) (environment : Environment)
    (file : SettingsFile)
    {checking compiling : List String} {flags otherFlags : Flags} {request : FilterRequest}
    {mode : Option Mode}
    (asksCheck : Invocation.read checking = .ok ⟨flags, .check request⟩)
    (asksCompile : Invocation.read compiling =
      .ok ⟨otherFlags, .compile request ⟨[], mode, []⟩⟩) :
    let checked := (Program.run library environment file checking).1
    let compiled := (Program.run library environment file compiling).1
    ((∃ output, checked = .done output) ↔
      (∃ output, compiled = .done output) ∨
        ∃ failure, compiled = .failed failure ∧ failure.code = "INVALID_DATE_LITERAL") ∧
    ∀ failure, checked = .failed failure →
      ∃ other, compiled = .failed other ∧ other.code = failure.code ∧
        other.exitCode = failure.exitCode ∧
        (¬SettingsPlace.LacksBoth ⟨environment.settingsPath?, file⟩ library.fault request →
          other.message = failure.message) := by
  have agreed := agrees (Context.find library environment file flags) request mode
  have checks := Program.run_of_answers asksCheck
    ((Context.find library environment file flags).answers_check request)
  have compiles := Program.run_of_answers asksCompile
    ((Context.find library environment file otherFlags).answers_compile request ⟨[], mode, []⟩)
  -- The switches do not matter for what is compiled, only for how it is shown.
  have sameCompiled :
      (Context.find library environment file otherFlags).compiled request ⟨[], mode, []⟩ =
        (Context.find library environment file flags).compiled request ⟨[], mode, []⟩ := rfl
  intro checked compiled
  simp only [checked, compiled, checks, compiles, sameCompiled]
  generalize (Context.find library environment file flags).accepted request = accepted at agreed
  generalize (Context.find library environment file flags).compiled request ⟨[], mode, []⟩ = made
    at agreed
  cases agreed with
  | made => simp [Outcome.ofAnswer, bind, Except.bind, pure, Except.pure]
  | misdated =>
      simp [Outcome.ofAnswer, bind, Except.bind, pure, Except.pure, Failure.code,
        CommandError.code, FilterError.code]
  | @refused error ordinary =>
      constructor
      · simp [Outcome.ofAnswer, bind, Except.bind, Failure.code, ordinary]
      · rintro failure ⟨⟩
        exact ⟨⟨error, ""⟩, rfl, rfl, rfl, fun _ => rfl⟩
  | @lost cause other both =>
      constructor
      · simp [Outcome.ofAnswer, bind, Except.bind, Failure.code, CommandError.code]
      · rintro failure ⟨⟩
        exact ⟨⟨.settings other, ""⟩, rfl, rfl, rfl, fun notBoth => absurd both notBoth⟩

theorem check_agrees_compile_unknown :
    let environment : Environment := ⟨some "afq.toml", none, none, false⟩
    let request : FilterRequest := ⟨"a==1", none, some "gene", []⟩
    Invocation.read ["check", "a==1", "-r", "gene"] = .ok ⟨.none, .check request⟩ ∧
      Invocation.read ["compile", "a==1", "-r", "gene", "-m", "inline"] =
        .ok ⟨.none, .compile request ⟨[], some .inline, []⟩⟩ ∧
      (Program.run .bare environment (.missing .possible) ["check", "a==1", "-r", "gene"]).1 =
        .failed ⟨.settings (.unknownResource .default "gene"), ""⟩ ∧
      ∃ failure,
        (Program.run .bare environment (.missing .possible)
          ["compile", "a==1", "-r", "gene", "-m", "inline"]).1 = .failed failure ∧
        failure.code = "CONFIG_ERROR" ∧ failure.exitCode = 5 ∧
        failure.message =
          "configuration error: unknown resource 'gene' (no resources are configured)" := by
  intro environment request
  have asksCheck : Invocation.read ["check", "a==1", "-r", "gene"] =
      .ok ⟨.none, .check request⟩ := rfl
  have asksCompile : Invocation.read ["compile", "a==1", "-r", "gene", "-m", "inline"] =
      .ok ⟨.none, .compile request ⟨[], some .inline, []⟩⟩ := rfl
  have refused :
      (Program.run .bare environment (.missing .possible) ["check", "a==1", "-r", "gene"]).1 =
        .failed ⟨.settings (.unknownResource .default "gene"), ""⟩ := rfl
  -- Without a default dialect the settings do not lack both.
  have notBoth : ¬SettingsPlace.LacksBoth ⟨some "afq.toml", .missing .possible⟩ Library.bare.fault
      request := by
    rintro ⟨settings, name, _, loaded, _, named, _⟩
    cases loaded
    cases named
  obtain ⟨_, ofFailure⟩ :=
    check_agrees_compile .bare environment (.missing .possible) asksCheck asksCompile
  obtain ⟨failure, failed, code, exitCode, message⟩ := ofFailure _ refused
  exact ⟨asksCheck, asksCompile, refused, failure, failed, code, exitCode, message notBoth⟩

end ResourceFilter
