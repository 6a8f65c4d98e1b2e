import ResourceFilter.Proofs.CommandLine.Step
import ResourceFilter.Proofs.Run.Answer

/-!
Switches in front of a command line. Such a switch changes nothing else in what the command line
asks for.
-/

namespace ResourceFilter

def Switch.argument : Switch → String
  | .verbose => "--verbose"
  | .quiet => "--quiet"
  | .json => "--json"
  | .noColor => "--no-color"

namespace Flags

variable (flags other : Flags) (switch : Switch)

theorem get_set_self : (flags.set switch).get switch = true := by
  cases switch <;> rfl

theorem get_set_of_ne {switch another : Switch} (different : another ≠ switch) :
    (flags.set switch).get another = flags.get another := by
  cases switch <;> cases another <;> first | rfl | contradiction

theorem set_comm (another : Switch) :
    (flags.set switch).set another = (flags.set another).set switch := by
  cases switch <;> cases another <;> rfl

theorem set_union : (flags.set switch).union other = (flags.union other).set switch := by
  cases switch <;> simp [set, union]

theorem get_union : (flags.union other).get switch = (flags.get switch || other.get switch) := by
  cases switch <;> rfl

end Flags

namespace Given

def turned (given : Given) (switch : Switch) : Given :=
  { given with flags := given.flags.set switch }

/-- Holds of the steps that do not notice a switch unless they turn it on. -/
def Passes (switch : Switch) (step : Given → Except Refusal Given) : Prop :=
  ∀ given next, step given = .ok next → next.flags.get switch = false →
    given.flags.get switch = false ∧ step (given.turned switch) = .ok (next.turned switch)

variable {switch : Switch}

theorem passes_store (parameter : Parameter) (value : String) :
    Passes switch (·.store parameter value) := by
  intro given next made off
  simp only [store] at made ⊢
  split at made
  · cases made
  · rename_i free
    obtain ⟨setting, read, rfl⟩ := Except.map_eq_ok made
    refine ⟨off, ?_⟩
    rw [read]
    exact (if_neg free).trans rfl

theorem passes_settle : Passes switch settle := by
  rintro ⟨flags, settings, operand, pending⟩ next made off
  cases pending with
  | nothing =>
      cases made
      exact ⟨off, rfl⟩
  | setting parameter value =>
      cases value with
      | none => cases made
      | some value => exact passes_store parameter value _ next made off
  | operand kind value =>
      obtain ⟨found, read, rfl⟩ := Except.map_eq_ok made
      refine ⟨off, ?_⟩
      simp only [settle, turned, read]
      rfl

theorem passes_raise (other : Switch) : Passes switch (raise other) := by
  intro given next made off
  rw [raise] at made ⊢
  split at made
  · cases made
  · rename_i free
    cases made
    by_cases same : other = switch
    · subst same
      rw [Flags.get_set_self] at off
      cases off
    · rw [Flags.get_set_of_ne _ (Ne.symm same)] at off
      refine ⟨off, ?_⟩
      rw [turned, Flags.get_set_of_ne _ same, if_neg free]
      simp only [turned, Flags.set_comm]

theorem IsStep.passes {argument : String} {step : Given → Except Refusal Given}
    (isStep : IsStep argument step) : Passes switch step := by
  induction isStep with
  | fails refuses => exact fun given next made _ => absurd made (refuses given next)
  | stays =>
      rintro given next ⟨⟩ off
      exact ⟨off, rfl⟩
  | settles => exact passes_settle
  | raises other => exact passes_raise other
  | stores parameter _ => exact passes_store parameter _
  | pends _ =>
      rintro given next ⟨⟩ off
      exact ⟨off, rfl⟩
  | depends choice _ same ih =>
      intro given next made off
      rw [same] at made ⊢
      exact ih given.pending given.operand given next made off
  | follows _ _ same before after =>
      intro given next made off
      rw [same] at made ⊢
      obtain ⟨middle, here, later⟩ := Except.bind_eq_ok made
      -- No step turns a switch off, so one that is off in the end was off between the steps.
      obtain ⟨offBetween, laterTurned⟩ := after middle next later off
      obtain ⟨offBefore, hereTurned⟩ := before given middle here offBetween
      refine ⟨offBefore, ?_⟩
      rw [hereTurned]
      exact laterTurned

/-- The arguments of a level are read the same way behind a switch that they do not turn on. -/
theorem scan_turned {level : Level} {stopped : Bool} {given next : Given}
    {arguments : List String} {below : Option (Level × List String)}
    (made : scan level stopped given arguments = .ok (next, below))
    (off : next.flags.get switch = false) :
    given.flags.get switch = false ∧
      scan level stopped (given.turned switch) arguments = .ok (next.turned switch, below) := by
  induction arguments generalizing stopped given with
  | nil =>
      cases made
      exact ⟨off, rfl⟩
  | cons argument rest ih =>
      rcases scan_cons level stopped argument rest with
        refuses | ⟨sub, ends⟩ | ⟨step, after, isStep, goesOn⟩
      · exact absurd made (refuses given _)
      · rw [ends] at made ⊢
        cases made
        exact ⟨off, rfl⟩
      · rw [goesOn] at made ⊢
        obtain ⟨middle, taken, later⟩ := Except.bind_eq_ok made
        obtain ⟨offBetween, laterTurned⟩ := ih later
        obtain ⟨offBefore, takenTurned⟩ := isStep.passes given middle taken offBetween
        refine ⟨offBefore, ?_⟩
        rw [takenTurned]
        exact laterTurned

end Given

namespace Invocation

variable {switch : Switch} {arguments : List String} {flags : Flags} {command : Command}

theorem take_argument (switch : Switch) :
    Given.empty.take .root switch.argument = .ok (Given.empty.turned switch) := by
  cases switch <;> rfl

theorem scan_argument_cons (switch : Switch) (arguments : List String) :
    Given.scan .root false .empty (switch.argument :: arguments) =
      Given.scan .root false (Given.empty.turned switch) arguments := by
  have notSub : Level.root.sub? switch.argument = none := by cases switch <;> rfl
  have goesOn : (ArgumentForm.of switch.argument == .stop) = false := by cases switch <;> rfl
  rw [Given.scan, if_neg (by simp), notSub]
  simp only [take_argument, goesOn]

theorem finish_turned {given next : Given} (finished : given.finish = .ok next)
    (off : next.flags.get switch = false)
    (compatible : ((next.flags.set switch).quiet && (next.flags.set switch).verbose) = false) :
    given.flags.get switch = false ∧ (given.turned switch).finish = .ok (next.turned switch) := by
  rw [Given.finish] at finished ⊢
  cases settled : given.settle with
  | error refusal => simp [settled] at finished
  | ok middle =>
      simp only [settled] at finished
      split at finished
      · cases finished
      · cases finished
        obtain ⟨offBefore, settles⟩ := Given.passes_settle given _ settled off
        refine ⟨offBefore, ?_⟩
        simp only [settles]
        rw [if_neg]
        simpa [Given.turned] using compatible

theorem complete_root_ne_ok (given : Given) (invocation : Invocation) :
    given.complete .root ≠ .ok invocation := by
  rw [Given.complete, Given.command]
  split <;> rintro ⟨⟩

/-- A command line asks for the same with a switch in front of it, save for the switch. -/
theorem read_argument_cons (asks : read arguments = .ok ⟨flags, command⟩)
    (off : flags.get switch = false)
    (compatible : ((flags.set switch).quiet && (flags.set switch).verbose) = false) :
    read (switch.argument :: arguments) = .ok ⟨flags.set switch, command⟩ := by
  -- The switch is met at the root level, whose switches count along with those of the levels below.
  rw [read, readLevel] at asks ⊢
  rw [scan_argument_cons]
  cases scanned : Given.scan .root false .empty arguments with
  | error refusal => simp [scanned] at asks
  | ok result =>
      obtain ⟨given, _ | ⟨next, rest⟩⟩ := result
      · rw [scanned] at asks
        exact absurd asks (complete_root_ne_ok given _)
      · simp only [scanned] at asks
        cases lower : readCommand next rest with
        | error refusal => simp [lower] at asks
        | ok invocation =>
            simp only [lower] at asks
            cases finished : given.finish with
            | error refusal => simp [finished, Except.map] at asks
            | ok last =>
                rw [finished] at asks
                cases asks
                rw [Flags.get_union, Bool.or_eq_false_iff] at off
                have compatibleLast :
                    ((last.flags.set switch).quiet && (last.flags.set switch).verbose) = false := by
                  rw [← Flags.set_union] at compatible
                  simp only [Flags.union] at compatible
                  grind
                obtain ⟨offGiven, finishes⟩ := finish_turned finished off.1 compatibleLast
                obtain ⟨_, scans⟩ := Given.scan_turned scanned offGiven
                simp only [scans, lower, finishes, Except.map]
                rw [Given.turned, Flags.set_union]

end Invocation

end ResourceFilter
