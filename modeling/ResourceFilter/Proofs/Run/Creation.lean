import ResourceFilter.Proofs.Fragment.Conditions
import ResourceFilter.Proofs.Run.Answer

/-!
Which output tells that the settings file was made. No command prints this but the one that makes
the file.
-/

namespace ResourceFilter

namespace Json

theorem toList_pretty_object (name : String) (value : Json) (rest : List (String × Json)) :
    (object ((name, value) :: rest)).pretty.toList =
      ['\x7b', '\n', ' ', ' '] ++ (quoted name ++ ':' :: ' ' :: (write 1 value ++
        writeMembers 1 rest ++ ['\n', '\x7d'])) := by
  simp [pretty, write, newLine]

theorem escapeChar_ne_nil (char : Char) : escapeChar char ≠ [] := by
  unfold escapeChar
  repeat' split
  all_goals simp

theorem length_le_quoted (text : String) : text.toList.length ≤ (quoted text).length := by
  have longer (chars : List Char) : chars.length ≤ (chars.flatMap escapeChar).length := by
    induction chars with
    | nil => simp
    | cons char chars ih =>
        have some := List.length_pos_of_ne_nil (escapeChar_ne_nil char)
        rw [List.flatMap_cons, List.length_append, List.length_cons]
        omega
  have inner := longer text.toList
  rw [quoted, List.length_append, List.length_cons]
  omega

end Json

/-- Holds of the outputs that tell that a file was made, in either form. -/
def ReportsCreation (path output : String) : Prop :=
  output = (Context.creationListing path true).pretty ++ "\n" ∨
    output = Context.creationText path true

namespace ReportsCreation

variable {path output : String}

theorem take_two (reports : ReportsCreation path output) :
    output.toList.take 2 = ['\x7b', '\n'] ∨ output.toList.take 2 = ['C', 'r'] := by
  rcases reports with rfl | rfl
  · left
    rw [String.toList_append, Context.creationListing, Json.toList_pretty_object]
    rfl
  · right
    simp [Context.creationText]

theorem not_object {name : String} {value : Json} {rest : List (String × Json)}
    (differs : ∀ behind, (Json.quoted name ++ behind).take 3 ≠ ['\x22', 'c', 'r']) :
    ¬ReportsCreation path ((Json.object ((name, value) :: rest)).pretty ++ "\n") := by
  rintro (same | same)
  · have inner := congrArg (fun text => (text.toList.drop 4).take 3) same
    simp only [String.toList_append, Context.creationListing, Json.toList_pretty_object,
      List.append_assoc] at inner
    exact differs _ inner
  · have front := congrArg (fun text => text.toList.take 1) same
    simp [Json.toList_pretty_object, Context.creationText] at front

theorem not_existing : ¬ReportsCreation path
    ((Context.creationListing path false).pretty ++ "\n") := by
  rintro (same | same)
  · -- The value of `created` starts behind fifteen characters.
    have value := congrArg (fun text => (text.toList.drop 15).take 1) same
    simp only [String.toList_append, Context.creationListing, Json.toList_pretty_object] at value
    have letters : ['f'] = ['t'] := value
    simp at letters
  · have front := congrArg (fun text => text.toList.take 1) same
    simp [Context.creationListing, Json.toList_pretty_object, Context.creationText] at front

theorem not_path : ¬ReportsCreation path (path ++ "\n") := by
  rintro (same | same)
  · -- The listing holds the path in quotes, and so is longer than a line with the path.
    have lengths := congrArg (fun text => text.toList.length) same
    have longer := Json.length_le_quoted path
    simp [Context.creationListing, Json.toList_pretty_object, Json.writeMembers, Json.write]
      at lengths
    omega
  · have lengths := congrArg (fun text => text.toList.length) same
    simp [Context.creationText] at lengths

theorem not_of_take (first second : Char) (front : output.toList.take 2 = [first, second])
    (notListing : first ≠ '\x7b') (notText : second ≠ 'r') : ¬ReportsCreation path output := by
  intro reports
  rcases reports.take_two with listing | text
  · rw [front] at listing
    simp [notListing] at listing
  · rw [front] at text
    simp [notText] at text

theorem not_empty : ¬ReportsCreation path "" := by
  intro reports
  rcases reports.take_two with listing | text
  · simp at listing
  · simp at text

theorem not_shown {context : Context} {listing : Json} {text : String}
    (notListing : ¬ReportsCreation path (listing.pretty ++ "\n"))
    (notText : ¬ReportsCreation path text) :
    ¬ReportsCreation path (context.shown listing text) := by
  rw [Context.shown]
  split
  · exact notListing
  · split
    · exact not_empty
    · exact notText

theorem not_emphasis (emphasis : Emphasis) (colors : Bool) (text rest : String)
    (plain : ¬ReportsCreation path (text ++ rest)) :
    ¬ReportsCreation path (emphasis.apply colors text ++ rest) := by
  cases colors with
  | false => exact plain
  | true =>
      refine not_of_take '\x1b' '[' ?_ (by decide) (by decide)
      cases emphasis <;> simp [Emphasis.apply, Emphasis.opening]

theorem not_table (colors : Bool) (clauses : List Clause) :
    ¬ReportsCreation path (Clause.table colors clauses) := by
  cases clauses with
  | nil => exact not_of_take 'N' 'o' (by simp [Clause.table]) (by decide) (by decide)
  | cons clause rest =>
      simp only [Clause.table, String.append_assoc]
      apply not_emphasis
      exact not_of_take '#' ' ' (by simp [Clause.tableHeader]; rfl) (by decide) (by decide)

theorem not_checkText (clauses : List Clause) :
    ¬ReportsCreation path (Context.checkText clauses) :=
  not_of_take 'o' 'k' (by simp [Context.checkText]) (by decide) (by decide)

theorem not_operatorTable (colors : Bool) (dialect : Dialect) :
    ¬ReportsCreation path (dialect.operatorTable colors) := by
  rw [Dialect.operatorTable, String.append_assoc]
  apply not_emphasis
  exact not_of_take 'O' 'p' (by simp [Dialect.tableLine]; rfl) (by decide) (by decide)

theorem not_report (colors : Bool) (settings : Settings) (file : String) (fileExists : Bool) :
    ¬ReportsCreation path (settings.report colors file fileExists) := by
  simp only [Settings.report, String.append_assoc]
  apply not_emphasis
  exact not_of_take 'C' 'o' (by simp) (by decide) (by decide)

theorem not_existingText : ¬ReportsCreation path (Context.creationText path false) :=
  not_of_take 'C' 'o' (by simp [Context.creationText]) (by decide) (by decide)

theorem not_compiledText (colors : Bool) {dialect : Dialect} {compiled : CompiledFilter}
    (keyword : dialect.keyword = "FILTER" ∨ dialect.keyword = "WHERE")
    (starts : compiled.fragment = "" ∨
      ∃ rest, compiled.fragment = dialect.keyword ++ " " ++ rest) :
    ¬ReportsCreation path (compiled.text dialect colors) := by
  rcases starts with empty | ⟨rest, starts⟩
  · have nothing : compiled.isEmpty = true := by rw [CompiledFilter.isEmpty, empty]; rfl
    rw [CompiledFilter.text, if_pos nothing]
    exact not_of_take '(' 'e' (by simp) (by decide) (by decide)
  · rw [CompiledFilter.text]
    split
    · exact not_of_take '(' 'e' (by simp) (by decide) (by decide)
    · rw [String.append_assoc, starts]
      apply not_emphasis
      rcases keyword with filter | whereWord
      · rw [filter]
        exact not_of_take 'F' 'I' (by simp) (by decide) (by decide)
      · rw [whereWord]
        exact not_of_take 'W' 'H' (by simp) (by decide) (by decide)

end ReportsCreation

/-- Holds of the libraries with no text that tells that a file was made at the path. -/
structure Library.IsSilent (library : Library) (path : String) : Prop where
  report : ∀ arguments refusal, ¬ReportsCreation path (library.report arguments refusal)
  script : ∀ shell, ¬ReportsCreation path (library.script shell)

theorem Library.isSilent_bare (path : String) : bare.IsSilent path := by
  constructor
  · intro arguments refusal
    by_cases isVersion : refusal = .version
    · have front : (bare.report arguments refusal).toList.take 2 = ['a', 'f'] := by
        simp [bare, isVersion]
      exact ReportsCreation.not_of_take 'a' 'f' front (by decide) (by decide)
    · have front : (bare.report arguments refusal).toList.take 2 = ['U', 's'] := by
        simp [bare, isVersion]
      exact ReportsCreation.not_of_take 'U' 's' front (by decide) (by decide)
  · intro shell
    exact ReportsCreation.not_of_take '#' ' ' (by simp [bare]) (by decide) (by decide)

theorem Dialect.mem_builtin_of_ofName? {name : String} {dialect : Dialect}
    (known : ofName? name = some dialect) : dialect ∈ builtin := by
  obtain ⟨earlier, later, split, _⟩ := List.lookup_eq_some_iff.mp known
  have member : (name.toLower, dialect) ∈ names := by simp [split]
  simp only [names, List.mem_cons, Prod.mk.injEq, List.not_mem_nil, or_false] at member
  rcases member with ⟨_, rfl⟩ | ⟨_, rfl⟩ | ⟨_, rfl⟩ | ⟨_, rfl⟩ | ⟨_, rfl⟩ <;> simp [builtin]

theorem CompiledFilter.fragment_of_build {dialect : Dialect} {schema : Schema} {filter : String}
    {compiled : CompiledFilter} (built : build dialect schema filter = .ok compiled) :
    compiled.fragment = "" ∨ ∃ rest, compiled.fragment = dialect.keyword ++ " " ++ rest := by
  obtain ⟨clauses, _, checked⟩ := Except.bind_eq_ok built
  obtain ⟨_, _, made⟩ := Except.bind_eq_ok checked
  obtain ⟨conditions, rfl, _⟩ := exists_conditions made
  cases conditions with
  | nil => exact .inl rfl
  | cons condition rest => exact .inr ⟨_, rfl⟩

namespace Context

variable {context : Context}

theorem dialect_mem_builtin {given : Option Backend} {dialect : Dialect}
    (found : context.dialect given = .ok dialect) : dialect ∈ Dialect.builtin := by
  cases given with
  | some backend =>
      cases found
      cases backend <;> simp [Backend.dialect, Dialect.builtin]
  | none =>
      rw [Context.dialect] at found
      cases loaded : context.load with
      | error error => simp [loaded] at found
      | ok settings =>
          cases named : settings.dialect with
          | none =>
              simp only [loaded, named, Except.ok.injEq] at found
              simp [← found, Dialect.builtin]
          | some name =>
              cases known : Dialect.ofName? name with
              | none => simp [loaded, named, known] at found
              | some other =>
                  simp only [loaded, named, known, Except.ok.injEq] at found
                  exact found ▸ Dialect.mem_builtin_of_ofName? known

theorem not_reportsCreation_of_compiled {path : String} {request : FilterRequest}
    {options : CompileOptions} {dialect : Dialect} {compiled : CompiledFilter} (colors : Bool)
    (made : context.compiled request options = .ok (dialect, compiled)) :
    ¬ReportsCreation path (compiled.text dialect colors) := by
  obtain ⟨base, _, made⟩ := Except.bind_eq_ok made
  obtain ⟨given, found, made⟩ := Except.bind_eq_ok made
  obtain ⟨denied, _, made⟩ := Except.bind_eq_ok made
  obtain ⟨other, built, made⟩ := Except.bind_eq_ok made
  cases made
  have keyword : (adapt given denied options.mode).keyword = given.keyword := by
    cases options.mode <;> rfl
  apply ReportsCreation.not_compiledText
  · rw [keyword]
    have builtin := dialect_mem_builtin found
    rw [Dialect.builtin, List.mem_pair] at builtin
    rcases builtin with rfl | rfl
    · exact .inl rfl
    · exact .inr rfl
  · exact CompiledFilter.fragment_of_build (Except.mapError_eq_ok_iff.mp built)

open ReportsCreation in
/-- No command but the one that makes the settings file does anything but answer, and no answer
tells that the file was made. -/
theorem exists_answer (context : Context) {command : Command} (notInit : command ≠ .config .init) :
    ∃ result, (context.execute command).Answers result ∧
      ∀ path text, context.library.IsSilent path → context.path = .ok path →
        result = .ok text → ¬ReportsCreation path text := by
  cases command with
  | parse filter backend =>
      refine ⟨_, context.answers_parse filter backend, ?_⟩
      intro path text _ _ made
      obtain ⟨dialect, _, made⟩ := Except.bind_eq_ok made
      obtain ⟨clauses, _, made⟩ := Except.bind_eq_ok made
      cases made
      exact not_shown (not_object fun _ => by simp [Json.quoted, Json.escapeChar])
        (not_table _ _)
  | check request =>
      refine ⟨_, context.answers_check request, ?_⟩
      intro path text _ _ made
      obtain ⟨clauses, _, made⟩ := Except.bind_eq_ok made
      cases made
      exact not_shown (not_object fun _ => by simp [Json.quoted, Json.escapeChar])
        (not_checkText _)
  | compile request options =>
      refine ⟨_, context.answers_compile request options, ?_⟩
      intro path text _ _ made
      obtain ⟨⟨dialect, compiled⟩, found, made⟩ := Except.bind_eq_ok made
      cases made
      exact not_shown (not_object fun _ => by simp [Json.quoted, Json.escapeChar])
        (not_reportsCreation_of_compiled _ found)
  | operators backend =>
      refine ⟨_, context.answers_listOperators backend, ?_⟩
      intro path text _ _ made
      obtain ⟨dialect, _, made⟩ := Except.bind_eq_ok made
      cases made
      exact not_shown (not_object fun _ => by simp [Json.quoted, Json.escapeChar])
        (not_operatorTable _ _)
  | completions shell =>
      refine ⟨_, Action.answers_write (context.library.script shell), ?_⟩
      rintro path text silent _ ⟨⟩
      exact silent.script shell
  | config action =>
      cases action with
      | init => exact absurd rfl notInit
      | «show» =>
          refine ⟨_, context.answers_showSettings, ?_⟩
          intro path text _ _ made
          obtain ⟨settings, _, made⟩ := Except.bind_eq_ok made
          obtain ⟨place, _, made⟩ := Except.bind_eq_ok made
          cases made
          exact not_shown (not_object fun _ => by simp [Json.quoted, Json.escapeChar])
            (not_report _ _ _ _)
      | path =>
          refine ⟨_, context.answers_showPath, ?_⟩
          intro path text _ known made
          obtain ⟨same, found, made⟩ := Except.bind_eq_ok made
          rw [known] at found
          cases found
          cases made
          split
          · exact not_object fun _ => by simp [Json.quoted, Json.escapeChar]
          · exact not_path

end Context

def AsksInit (arguments : List String) : Prop :=
  ∃ flags, Invocation.read arguments = .ok ⟨flags, .config .init⟩

/-- What one run does whose settings are kept at a path: it makes the file, or leaves it. -/
inductive RunStep (library : Library) (path : String) (arguments : List String) :
    SettingsFile → Outcome → SettingsFile → Prop
  | made {output : String} : AsksInit arguments →
      RunStep library path arguments (.missing .possible) (.done output)
        (.text Settings.defaultText)
  | left {file : SettingsFile} {outcome : Outcome} :
      (AsksInit arguments → file ≠ .missing .possible) →
      (library.IsSilent path → ¬ReportsCreation path outcome.output) →
      (∀ failure, outcome = .failed failure → failure.output = "") →
      RunStep library path arguments file outcome file

namespace Program

variable {library : Library} {environment : Environment} {file next : SettingsFile}
  {path : String} {arguments : List String} {flags : Flags}

theorem path_find (found : environment.settingsPath? = some path) :
    (Context.find library environment file flags).path = .ok path := by
  simp only [Context.path, Context.find, SettingsPlace.path?, found, Except.mapError_ok]

theorem run_init {created : Bool} (found : environment.settingsPath? = some path)
    (read : Invocation.read arguments = .ok ⟨flags, .config .init⟩)
    (made : (Context.find library environment file flags).place.init = .ok (created, next)) :
    run library environment file arguments =
      (.done ((Context.find library environment file flags).shown
        (Context.creationListing path created) (Context.creationText path created)), next) := by
  have ran : (Context.find library environment file flags).initSettings ⟨"", file⟩ =
      (.ok (), ⟨"" ++ (Context.find library environment file flags).shown
        (Context.creationListing path created) (Context.creationText path created), next⟩) := by
    rw [Context.initSettings, path_find found, made]
    rfl
  simp only [run, read, perform, Context.execute, ran, String.empty_append]

theorem run_init_error {cause : SettingsError} (found : environment.settingsPath? = some path)
    (read : Invocation.read arguments = .ok ⟨flags, .config .init⟩)
    (failed : (Context.find library environment file flags).place.init = .error cause) :
    run library environment file arguments = (.failed ⟨.settings cause, ""⟩, file) := by
  have ran : (Context.find library environment file flags).initSettings ⟨"", file⟩ =
      (.error (.settings cause), ⟨"", file⟩) := by
    rw [Context.initSettings, path_find found, failed]
    rfl
  simp only [run, read, perform, Context.execute, ran]

theorem runStep_of_present (found : environment.settingsPath? = some path)
    (read : Invocation.read arguments = .ok ⟨flags, .config .init⟩)
    (present : (Context.find library environment file flags).place.init = .ok (false, file))
    (notMissing : file ≠ .missing .possible) :
    RunStep library path arguments file (run library environment file arguments).1
      (run library environment file arguments).2 := by
  rw [run_init found read present]
  refine .left (fun _ => notMissing) (fun _ => ?_) (by rintro _ ⟨⟩)
  exact ReportsCreation.not_shown ReportsCreation.not_existing ReportsCreation.not_existingText

theorem runStep_of_impossible {cause : SettingsError}
    (found : environment.settingsPath? = some path)
    (read : Invocation.read arguments = .ok ⟨flags, .config .init⟩)
    (failed : (Context.find library environment file flags).place.init = .error cause)
    (notPossible : file ≠ .missing .possible) :
    RunStep library path arguments file (run library environment file arguments).1
      (run library environment file arguments).2 := by
  rw [run_init_error found read failed]
  refine .left (fun _ => notPossible) (fun _ => ReportsCreation.not_empty) ?_
  rintro failure ⟨⟩
  rfl

theorem runStep_of_init (found : environment.settingsPath? = some path)
    (read : Invocation.read arguments = .ok ⟨flags, .config .init⟩) :
    RunStep library path arguments file (run library environment file arguments).1
      (run library environment file arguments).2 := by
  cases file with
  | text content => exact runStep_of_present found read rfl (by simp)
  | unreadable reason => exact runStep_of_present found read rfl (by simp)
  | missing creation =>
      cases creation with
      | possible =>
          rw [run_init found read rfl]
          exact .made ⟨flags, read⟩
      | noDirectory reason => exact runStep_of_impossible found read rfl (by simp)
      | noFile reason => exact runStep_of_impossible found read rfl (by simp)

theorem runStep_run (found : environment.settingsPath? = some path) :
    RunStep library path arguments file (run library environment file arguments).1
      (run library environment file arguments).2 := by
  cases read : Invocation.read arguments with
  | error refusal =>
      have refused : run library environment file arguments =
          (.refused refusal (library.report arguments refusal), file) := by
        rw [run, read]
      have notInit : AsksInit arguments → file ≠ .missing .possible := by
        rintro ⟨flags, asks⟩
        rw [read] at asks
        cases asks
      rw [refused]
      refine .left notInit (fun silent => ?_) (by rintro _ ⟨⟩)
      rw [Outcome.output]
      split
      · exact silent.report arguments refusal
      · exact ReportsCreation.not_empty
  | ok invocation =>
      obtain ⟨flags, command⟩ := invocation
      by_cases isInit : command = .config .init
      · subst isInit
        exact runStep_of_init found read
      · obtain ⟨result, answers, notReported⟩ :=
          (Context.find library environment file flags).exists_answer isInit
        have notInit : AsksInit arguments → file ≠ .missing .possible := by
          rintro ⟨others, asks⟩
          rw [read] at asks
          cases asks
          exact absurd rfl isInit
        rw [run_of_answers read answers]
        refine .left notInit ?_ ?_
        · intro silent
          cases result with
          | error error => exact ReportsCreation.not_empty
          | ok text => exact notReported path text silent (path_find found) rfl
        · intro failure failed
          exact Outcome.output_of_ofAnswer_eq_failed failed

end Program

end ResourceFilter
