import ResourceFilter.Proofs.Run.Creation

/-!
Sequences of runs. The settings file is made at most once, by the first command line that asks for
it, and what stands in it is never changed.
-/

namespace ResourceFilter

namespace RunStep

variable {library : Library} {path : String} {arguments : List String}
  {file next : SettingsFile} {outcome : Outcome}

theorem next_eq (step : RunStep library path arguments file outcome next)
    (notMade : file = .missing .possible → ¬AsksInit arguments) : next = file := by
  cases step with
  | made asks => exact absurd asks (notMade rfl)
  | left _ _ _ => rfl

theorem made_eq (step : RunStep library path arguments (.missing .possible) outcome next)
    (asks : AsksInit arguments) : next = .text Settings.defaultText := by
  cases step with
  | made _ => rfl
  | left notMissing _ _ => exact absurd rfl (notMissing asks)

theorem missing_of_reports (step : RunStep library path arguments file outcome next)
    (silent : library.IsSilent path) (reports : ReportsCreation path outcome.output) :
    file = .missing .possible ∧ AsksInit arguments := by
  cases step with
  | made asks => exact ⟨rfl, asks⟩
  | left _ notReported _ => exact absurd reports (notReported silent)

theorem of_failed {failure : Failure}
    (step : RunStep library path arguments file (.failed failure) next) :
    failure.output = "" ∧ next = file := by
  cases step with
  | left _ _ silent => exact ⟨silent failure rfl, rfl⟩

end RunStep

namespace Program

variable {library : Library} {environment : Environment} {path : String} {start : SettingsFile}

theorem runAll_append (library : Library) (environment : Environment) (start : SettingsFile)
    (earlier later : List (List String)) :
    runAll library environment start (earlier ++ later) =
      ((runAll library environment start earlier).1 ++
          (runAll library environment (runAll library environment start earlier).2 later).1,
        (runAll library environment (runAll library environment start earlier).2 later).2) := by
  induction earlier generalizing start with
  | nil => rfl
  | cons line earlier ih => simp only [List.cons_append, runAll, ih]

theorem length_runAll (library : Library) (environment : Environment) (start : SettingsFile)
    (lines : List (List String)) :
    (runAll library environment start lines).1.length = lines.length := by
  induction lines generalizing start with
  | nil => rfl
  | cons line lines ih => simp only [runAll, List.length_cons, ih]

theorem runAll_cons (library : Library) (environment : Environment) (start : SettingsFile)
    (line : List String) (lines : List (List String)) :
    (runAll library environment start (line :: lines)).2 =
      (runAll library environment (run library environment start line).2 lines).2 :=
  rfl

theorem runAll_leaves (found : environment.settingsPath? = some path)
    {lines : List (List String)}
    (noInit : start = .missing .possible → ∀ line ∈ lines, ¬AsksInit line) :
    (runAll library environment start lines).2 = start := by
  induction lines with
  | nil => rfl
  | cons line lines ih =>
      have left : (run library environment start line).2 = start :=
        (runStep_run found).next_eq fun missing => noInit missing line List.mem_cons_self
      rw [runAll_cons, left]
      exact ih fun missing other member => noInit missing other (List.mem_cons_of_mem _ member)

theorem runAll_makes (found : environment.settingsPath? = some path)
    {lines : List (List String)} (asked : ∃ line ∈ lines, AsksInit line) :
    (runAll library environment (.missing .possible) lines).2 = .text Settings.defaultText := by
  induction lines with
  | nil => simp at asked
  | cons line lines ih =>
      rw [runAll_cons]
      by_cases asks : AsksInit line
      · have made : (run library environment (.missing .possible) line).2 =
            .text Settings.defaultText := (runStep_run found).made_eq asks
        rw [made]
        exact runAll_leaves found (by simp)
      · have left : (run library environment (.missing .possible) line).2 = .missing .possible :=
          (runStep_run found).next_eq fun _ => asks
        rw [left]
        apply ih
        simpa [asks] using asked

/-- Where no file stands in the end, none stood there before, and none was asked for. -/
theorem missing_of_runAll (found : environment.settingsPath? = some path)
    {lines : List (List String)}
    (missing : (runAll library environment start lines).2 = .missing .possible) :
    start = .missing .possible ∧ ∀ line ∈ lines, ¬AsksInit line := by
  have startMissing : start = .missing .possible := by
    by_contra present
    rw [runAll_leaves found fun absent => absurd absent present] at missing
    exact present missing
  subst startMissing
  refine ⟨rfl, fun line member asks => ?_⟩
  rw [runAll_makes found ⟨line, member, asks⟩] at missing
  cases missing

/-- A settings file that exists stays as it is, however many command lines are run. Where none
exists, the first command line that asks for one makes it with the default text and tells so; no
other one does. A run that fails has printed nothing and changed nothing. -/
theorem runAll_keeps_settings (library : Library) (path : String)
    (configHome home : Option String) (noColor : Bool) (start : SettingsFile)
    (earlier later : List (List String)) (line : List String) :
    let environment : Environment := ⟨some path, configHome, home, noColor⟩
    let before := (runAll library environment start earlier).2
    let after := (runAll library environment start (earlier ++ [line])).2
    ∃ outcome,
      (runAll library environment start (earlier ++ line :: later)).1[earlier.length]? =
        some outcome ∧
      (start.exists = true → after = start) ∧
      (start = .missing .possible →
        ((∀ other ∈ earlier ++ [line], ¬AsksInit other) → after = start) ∧
        ((∃ other ∈ earlier ++ [line], AsksInit other) → after = .text Settings.defaultText)) ∧
      (library.IsSilent path → ReportsCreation path outcome.output →
        start = .missing .possible ∧ AsksInit line ∧ ∀ other ∈ earlier, ¬AsksInit other) ∧
      (start = .missing .possible → (∀ other ∈ earlier, ¬AsksInit other) →
        ∀ flags, Invocation.read line = .ok ⟨flags, .config .init⟩ →
          outcome = .done ((Context.find library environment start flags).shown
            (Context.creationListing path true) (Context.creationText path true))) ∧
      ∀ failure, outcome = .failed failure → outcome.output = "" ∧ after = before := by
  intro environment before after
  have found : environment.settingsPath? = some path := rfl
  have step : RunStep library path line before (run library environment before line).1
      (run library environment before line).2 := runStep_run found
  have next : after = (run library environment before line).2 := by
    simp only [after, runAll_append]
    rfl
  refine ⟨(run library environment before line).1, ?_, ?_, ?_, ?_, ?_, ?_⟩
  · rw [runAll_append, List.getElem?_append_right (Nat.le_of_eq (length_runAll _ _ _ _)),
      length_runAll, Nat.sub_self]
    rfl
  · intro present
    apply runAll_leaves found
    rintro rfl
    simp [SettingsFile.exists] at present
  · rintro rfl
    exact ⟨fun none => runAll_leaves found fun _ => none, runAll_makes found⟩
  · intro silent reports
    obtain ⟨missing, asks⟩ := step.missing_of_reports silent reports
    obtain ⟨startMissing, none⟩ := missing_of_runAll found missing
    exact ⟨startMissing, asks, none⟩
  · rintro rfl none flags read
    have same : before = .missing .possible := runAll_leaves found fun _ => none
    rw [same, run_init found read rfl]
  · intro failure failed
    rw [next]
    rw [failed] at step ⊢
    exact step.of_failed

theorem runAll_keeps_settings_second_init :
    let environment : Environment := ⟨some "afq.toml", none, none, false⟩
    let lines := [["--version"], ["--json", "config", "init"], ["config", "init", "-v"]]
    Library.bare.IsSilent "afq.toml" ∧
      AsksInit ["--json", "config", "init"] ∧ AsksInit ["config", "init", "-v"] ∧
      (runAll .bare environment (.missing .possible) lines).2 = .text Settings.defaultText ∧
      ∃ outcome,
        (runAll .bare environment (.missing .possible) lines).1[2]? = some outcome ∧
        ¬ReportsCreation "afq.toml" outcome.output := by
  intro environment lines
  have silent : Library.bare.IsSilent "afq.toml" := Library.isSilent_bare "afq.toml"
  have first : AsksInit ["--json", "config", "init"] := ⟨_, rfl⟩
  have second : AsksInit ["config", "init", "-v"] := ⟨_, rfl⟩
  obtain ⟨outcome, ran, _, fromMissing, reported, _⟩ := runAll_keeps_settings .bare "afq.toml"
    none none false (.missing .possible) [["--version"], ["--json", "config", "init"]] []
    ["config", "init", "-v"]
  refine ⟨silent, first, second, (fromMissing rfl).2 ⟨_, by simp, second⟩, outcome, ran, ?_⟩
  intro reports
  exact (reported silent reports).2.2 _ (by simp) first

end Program

end ResourceFilter
