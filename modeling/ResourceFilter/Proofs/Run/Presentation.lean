import ResourceFilter.Proofs.CommandLine.Switch
import ResourceFilter.Proofs.CommandLine.Texts
import ResourceFilter.Proofs.Fragment.Colorless
import ResourceFilter.Proofs.Run.Influence
import ResourceFilter.Proofs.Run.Page

/-!
The switches for quiet and for plain output. They change what is printed and nothing else, and
plain output is the output in colors without its color sequences.
-/

namespace ResourceFilter

def Outcome.error? : Outcome → Option CommandError
  | failed failure => some failure.error
  | refused _ _ | done _ => none

def Command.heedsQuiet : Command → Bool
  | .parse _ _ | .check _ | .compile _ _ | .operators _ | .config .show | .config .init => true
  | .config .path | .completions _ => false

/-- Holds of the libraries whose scripts have no colors. -/
def Library.IsPlain (library : Library) : Prop :=
  ∀ shell, IsColorless (library.script shell)

theorem Library.isPlain_bare : bare.IsPlain := by
  have script : IsColorless "# no completions\n" := by decide
  exact fun _ => script

def Environment.texts (environment : Environment) : List String :=
  environment.afqConfig.toList ++ environment.configHome.toList ++ environment.home.toList

namespace Page

def heedsQuiet : Page → Bool
  | result _ _ => true
  | path _ _ | script _ => false

def IsFading : Page → Prop
  | result _ text => ∀ colors, Fades (text colors) (text false)
  | path _ text | script text => IsColorless text

variable {page : Page} {flags : Flags}

theorem shown_set_of_json (json : flags.json = true) (switch : Switch)
    (colors otherColors : Bool) :
    page.shown (flags.set switch) colors = page.shown flags otherColors := by
  cases page <;> cases switch <;> simp [shown, Flags.set, json]

theorem shown_quiet (notJson : flags.json = false) (colors : Bool) :
    page.shown (flags.set .quiet) colors =
      if page.heedsQuiet then "" else page.shown flags colors := by
  cases page <;> simp [shown, heedsQuiet, Flags.set, notJson]

theorem IsFading.fades_shown (fading : page.IsFading) (flags : Flags) (colors : Bool) :
    Fades (page.shown flags colors) (page.shown (flags.set .noColor) false) := by
  have listed (listing : Json) : Fades (listing.pretty ++ "\n") (listing.pretty ++ "\n") := by
    apply Fades.of_isColorless
    rw [IsColorless.append_iff]
    exact ⟨listing.isColorless_pretty, by decide⟩
  obtain ⟨verbose, quiet, json, noColor⟩ := flags
  cases page with
  | result listing text =>
      cases json with
      | true => exact listed listing
      | false =>
          cases quiet with
          | true =>
              have nothing : IsColorless "" := by decide
              exact .of_isColorless nothing
          | false => exact fading colors
  | path listing text =>
      cases json with
      | true => exact listed listing
      | false => exact .of_isColorless fading
  | script text => exact .of_isColorless fading

end Page

theorem Environment.isColorless_settingsPath {environment : Environment}
    (colorless : ∀ text ∈ environment.texts, IsColorless text) :
    ∀ path ∈ environment.settingsPath?, IsColorless path := by
  have joined {base tail : String} (front : IsColorless base) (back : IsColorless tail) :
      IsColorless (joinPath base tail) := by
    rw [joinPath]
    split
    · simp [front, back]
    · simp only [IsColorless.append_iff, front, back]
      decide
  simp only [texts, List.forall_mem_append, Option.mem_toList] at colorless
  obtain ⟨⟨afqConfig, configHome⟩, home⟩ := colorless
  intro path found
  rw [settingsPath?] at found
  split at found
  · rename_i given
    cases found
    exact afqConfig path given
  · rename_i directory _ given
    cases found
    exact joined (configHome directory given) (by decide)
  · rename_i directory _ _ given
    cases found
    exact joined (home directory (Option.filter_eq_some_iff.mp given).1) (by decide)
  · cases found

theorem Schema.isColorless_column_extend {schema : Schema} {fields : List String}
    {columns : List (String × String)} (known : ∀ text ∈ schema.texts, IsColorless text)
    (given : ∀ entry ∈ columns, IsColorless entry.2) {field : String}
    (colorless : IsColorless field) :
    IsColorless ((schema.extend fields columns).column field) := by
  rw [column_extend]
  cases found : columns.reverse.lookup field with
  | some column =>
      obtain ⟨earlier, later, split, _⟩ := List.lookup_eq_some_iff.mp found
      have member : (field, column) ∈ columns.reverse := by simp [split]
      exact given _ (List.mem_reverse.mp member)
  | none =>
      cases held : schema.columns.get? field with
      | none => exact colorless
      | some column =>
          have member := (NameMap.lookup_eq_some_iff_mem schema.columns.sorted).mp held
          apply known
          exact List.mem_append_right _ (List.mem_flatMap.mpr ⟨_, member, by simp⟩)

namespace Context

variable {context : Context}

theorem Shows.heedsQuiet_eq {command : Command} {page : Page}
    (shows : context.Shows command page) : page.heedsQuiet = command.heedsQuiet := by
  cases shows <;> rfl

section Colorless

variable (settingsColorless : ∀ settings, context.load = .ok settings →
  ∀ text ∈ settings.texts, IsColorless text)
include settingsColorless

theorem isColorless_of_resource {name : Option String} {schema : Schema}
    (found : context.resource name = .ok schema) :
    ∀ text ∈ schema.texts, IsColorless text := by
  cases name with
  | none =>
      cases found
      simp [Schema.texts, Schema.empty, NameMap.empty]
  | some name =>
      rw [resource_some] at found
      obtain ⟨settings, loaded, found⟩ := Except.bind_eq_ok found
      rw [Except.mapError_eq_ok_iff, Settings.resource] at found
      cases held : settings.resources.get? name with
      | none => simp [held] at found
      | some other =>
          simp only [held, Except.ok.injEq] at found
          subst found
          have member := (NameMap.lookup_eq_some_iff_mem settings.resources.sorted).mp held
          intro text isText
          apply settingsColorless settings loaded
          exact List.mem_append_right _ (List.mem_flatMap.mpr ⟨_, member, by simp [isText]⟩)

theorem isUncolored_of_compiled {request : FilterRequest} {options : CompileOptions}
    {dialect : Dialect} {compiled : CompiledFilter}
    (given : ∀ entry ∈ options.columns, IsColorless entry.2)
    (made : context.compiled request options = .ok (dialect, compiled)) :
    compiled.IsUncolored := by
  obtain ⟨base, found, made⟩ := Except.bind_eq_ok made
  obtain ⟨other, isBuiltin, made⟩ := Except.bind_eq_ok made
  obtain ⟨denied, _, made⟩ := Except.bind_eq_ok made
  obtain ⟨result, built, made⟩ := Except.bind_eq_ok made
  cases made
  have words := (Dialect.isUncolored_builtin other (dialect_mem_builtin isBuiltin)).adapt denied
    options.mode
  have known := isColorless_of_resource settingsColorless found
  exact CompiledFilter.isUncolored_of_build words
    (fun _ colorless => Schema.isColorless_column_extend known given colorless)
    (Except.mapError_eq_ok_iff.mp built)

theorem Shows.isFading (plain : context.library.IsPlain)
    (pathColorless : ∀ path ∈ context.place.path, IsColorless path)
    {command : Command} (given : ∀ text ∈ command.texts, IsColorless text) {page : Page}
    (shows : context.Shows command page) : page.IsFading := by
  have colorlessPath {path : String} (found : context.path = .ok path) : IsColorless path := by
    rw [Context.path, Except.mapError_eq_ok_iff, SettingsPlace.path?] at found
    split at found
    · rename_i known
      cases found
      exact pathColorless path known
    · cases found
  cases shows with
  | clauses read => exact Clause.fades_table (Clause.isUncolored_of_parse read)
  | verdict _ => exact fun _ => .of_isColorless (isColorless_checkText _)
  | @compiled request options _ _ made =>
      -- Of the texts that the command is given only the columns get into its page unread.
      have columns : ∀ entry ∈ options.columns, IsColorless entry.2 := by
        intro entry member
        apply given
        apply List.mem_append_right
        exact List.mem_append_left _ (List.mem_flatMap.mpr ⟨entry, member, by simp⟩)
      exact CompiledFilter.fades_text (isUncolored_of_compiled settingsColorless columns made)
  | operators isDialect =>
      have words := Dialect.isUncolored_builtin _ (dialect_mem_builtin isDialect)
      exact Dialect.fades_operatorTable words
  | settings loaded isPath =>
      exact fun colors => Settings.fades_report (settingsColorless _ loaded)
        (colorlessPath isPath) colors _
  | creation created isPath =>
      exact fun _ => .of_isColorless (isColorless_creationText (colorlessPath isPath) created)
  | path isPath => exact IsColorless.append_iff.mpr ⟨colorlessPath isPath, by decide⟩
  | script shell => exact plain shell

end Colorless

end Context

namespace Program

variable {library : Library} {environment : Environment} {file : SettingsFile}
  {arguments : List String} {flags : Flags} {command : Command}

/-- A switch in front of a command line leaves what the command comes to. -/
theorem run_argument_cons (switch : Switch)
    (read : Invocation.read arguments = .ok ⟨flags, command⟩) (off : flags.get switch = false)
    (compatible : ((flags.set switch).quiet && (flags.set switch).verbose) = false) :
    run library environment file (switch.argument :: arguments) =
      Outcome.ofResult (flags.set switch)
        (Context.find library environment file (flags.set switch)).colors file
        ((Context.find library environment file flags).page command) := by
  have same : (Context.find library environment file (flags.set switch)).page command =
      (Context.find library environment file flags).page command :=
    Context.page_congr rfl rfl command
  rw [← same]
  exact run_eq_ofResult (Invocation.read_argument_cons read off compatible)

/-- Switches for quiet and for plain output leave everything as it is but the text that is
printed. Without JSON, quiet drops the text of a result, and the plain text is the one in colors
without its color sequences, unless some come with the texts that are shown. -/
theorem run_presents (library : Library) (environment : Environment) (file : SettingsFile)
    {arguments : List String} {flags : Flags} {command : Command}
    (read : Invocation.read arguments = .ok ⟨flags, command⟩) (notQuiet : flags.quiet = false)
    (notVerbose : flags.verbose = false) (notPlain : flags.noColor = false) :
    let ran := run library environment file arguments
    let quiet := run library environment file ("--quiet" :: arguments)
    let plain := run library environment file ("--no-color" :: arguments)
    (∀ other ∈ [quiet, plain],
      other.1.exitCode = ran.1.exitCode ∧ other.1.error? = ran.1.error? ∧ other.2 = ran.2 ∧
        (flags.json = true → other.1.output = ran.1.output)) ∧
    (flags.json = false → quiet.1.output = if command.heedsQuiet then "" else ran.1.output) ∧
    (library.IsPlain → (∀ argument ∈ arguments, IsColorless argument) →
      (∀ text ∈ environment.texts, IsColorless text) →
      (∀ settings,
        SettingsPlace.load ⟨environment.settingsPath?, file⟩ library.fault = .ok settings →
        ∀ text ∈ settings.texts, IsColorless text) →
      withoutColors ran.1.output = plain.1.output) := by
  intro ran quiet plain
  have ranEq : ran = _ := run_eq_ofResult read
  have quietEq : quiet = _ := run_argument_cons .quiet read notQuiet
    (by simp [Flags.set, notVerbose])
  have plainEq : plain = _ := run_argument_cons .noColor read notPlain
    (by simp [Flags.set, notQuiet])
  rw [ranEq, quietEq, plainEq]
  cases found : (Context.find library environment file flags).page command with
  | error error =>
      have nothing : withoutColors "" = "" := Fades.withoutColors_eq (.of_isColorless (by decide))
      simp [Outcome.ofResult, Outcome.exitCode, Outcome.error?, Outcome.output, nothing]
  | ok made =>
      obtain ⟨page, next⟩ := made
      have shows := Context.shows_of_page found
      simp only [Outcome.ofResult, Outcome.output]
      refine ⟨?_, ?_, ?_⟩
      · rw [List.forall_mem_cons, List.forall_mem_singleton]
        exact ⟨⟨rfl, rfl, rfl, fun json => Page.shown_set_of_json json .quiet _ _⟩,
          ⟨rfl, rfl, rfl, fun json => Page.shown_set_of_json json .noColor _ _⟩⟩
      · intro notJson
        rw [← shows.heedsQuiet_eq]
        exact Page.shown_quiet notJson _
      · intro libraryPlain argumentsColorless environmentColorless settingsColorless
        have commandColorless : ∀ text ∈ command.texts, IsColorless text := by
          intro text isText
          obtain ⟨argument, member, within⟩ := Invocation.isPartOf_of_read read text isText
          exact (argumentsColorless argument member).of_isPart within
        have fading := shows.isFading
          (fun settings loaded => settingsColorless settings (Context.load_eq_ok_iff.mp loaded))
          libraryPlain (Environment.isColorless_settingsPath environmentColorless) commandColorless
        exact (fading.fades_shown flags _).withoutColors_eq

theorem run_presents_compile :
    let environment : Environment := ⟨some "afq.toml", none, none, false⟩
    let file : SettingsFile :=
      .text "[resources.gene]\nfields = [\"name\"]\ncolumns.name = \"gene_name\"\n"
    let arguments := ["compile", "name==tp53", "-r", "gene"]
    Library.bare.IsPlain ∧
      Invocation.read arguments =
        .ok ⟨.none, .compile ⟨"name==tp53", none, some "gene", []⟩ ⟨[], none, []⟩⟩ ∧
      (run .bare environment file arguments).1.output =
        "\x1b[1mWHERE gene_name = $1\x1b[0m\n  \x1b[2m$1   \x1b[0m tp53\n" ∧
      (run .bare environment file ("--quiet" :: arguments)).1.output = "" ∧
      (run .bare environment file ("--no-color" :: arguments)).1.output =
        withoutColors (run .bare environment file arguments).1.output := by
  intro environment file arguments
  have read : Invocation.read arguments =
      .ok ⟨.none, .compile ⟨"name==tp53", none, some "gene", []⟩ ⟨[], none, []⟩⟩ := rfl
  have loaded : SettingsPlace.load ⟨environment.settingsPath?, file⟩ Library.bare.fault =
      .ok ⟨1, none, .ofList [("gene", ⟨["name"], .ofList [("name", "gene_name")]⟩)]⟩ := rfl
  obtain ⟨_, silent, plain⟩ := run_presents .bare environment file read rfl rfl rfl
  refine ⟨Library.isPlain_bare, read, rfl, silent rfl, ?_⟩
  refine (plain Library.isPlain_bare (by decide) (by decide) ?_).symm
  intro settings sameLoaded
  rw [loaded] at sameLoaded
  cases sameLoaded
  decide

end Program

end ResourceFilter
