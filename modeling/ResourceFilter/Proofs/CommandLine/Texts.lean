import ResourceFilter.Proofs.CommandLine.Step
import ResourceFilter.Proofs.Run.Answer

/-!
Where the texts of a command come from: each of them is part of one argument.
-/

namespace ResourceFilter

def FilterRequest.texts (request : FilterRequest) : List String :=
  request.filter :: request.resource.toList ++ request.allow

def CompileOptions.texts (options : CompileOptions) : List String :=
  options.columns.flatMap (fun (field, column) => [field, column]) ++ options.deny

def Command.texts : Command → List String
  | .parse filter _ => [filter]
  | .check request => request.texts
  | .compile request options => request.texts ++ options.texts
  | .operators _ | .config _ | .completions _ => []

def Setting.texts : Setting → List String
  | .dialect _ | .mode _ => []
  | .resource name => [name]
  | .allow field => [field]
  | .column field name => [field, name]
  | .deny symbol => [symbol]

def Operand.texts : Operand → List String
  | .filter text => [text]
  | .shell _ => []

def IsPartOf (texts : List String) (part : String) : Prop :=
  ∃ text ∈ texts, part.toList <:+: text.toList

variable {arguments : List String}

theorem IsPartOf.trans {text part : String} (whole : IsPartOf arguments text)
    (within : part.toList <:+: text.toList) : IsPartOf arguments part := by
  obtain ⟨argument, member, inside⟩ := whole
  exact ⟨argument, member, within.trans inside⟩

theorem IsPartOf.mono {others : List String} {part : String} (whole : IsPartOf arguments part)
    (among : arguments ⊆ others) : IsPartOf others part := by
  obtain ⟨argument, member, inside⟩ := whole
  exact ⟨argument, among member, inside⟩

theorem Parameter.infix_of_read {parameter : Parameter} {value : String} {setting : Setting}
    (made : parameter.read value = .ok setting) :
    ∀ text ∈ setting.texts, text.toList <:+: value.toList := by
  cases parameter with
  | resource | allow | deny =>
      cases made
      simp [Setting.texts]
  | dialect =>
      rw [read] at made
      split at made
      · cases made
        simp [Setting.texts]
      · cases made
  | mode =>
      rw [read] at made
      split at made
      · cases made
        simp [Setting.texts]
      · cases made
  | column =>
      rw [read] at made
      split at made
      · rename_i field name split
        have whole := splitEquals?_eq_some split
        split at made
        · cases made
        · cases made
          simp only [Setting.texts, List.forall_mem_cons, whole]
          exact ⟨⟨[], _, rfl⟩, ⟨field.toList ++ ['='], [], by simp⟩, by simp⟩
      · cases made

theorem OperandKind.infix_of_read {kind : OperandKind} {value : String} {operand : Operand}
    (made : kind.read value = .ok operand) :
    ∀ text ∈ operand.texts, text.toList <:+: value.toList := by
  cases kind with
  | filter =>
      cases made
      simp [Operand.texts]
  | shell =>
      rw [read] at made
      split at made
      · cases made
        simp [Operand.texts]
      · cases made

namespace Given

structure WrittenIn (arguments : List String) (given : Given) : Prop where
  settings : ∀ setting ∈ given.settings, ∀ text ∈ setting.texts, IsPartOf arguments text
  operand : ∀ operand ∈ given.operand, ∀ text ∈ operand.texts, IsPartOf arguments text
  pending : ∀ text ∈ given.pending.text?, IsPartOf arguments text

theorem writtenIn_empty : empty.WrittenIn arguments := by
  constructor <;> simp [empty, Pending.text?]

namespace WrittenIn

variable {given next : Given}

theorem store (written : given.WrittenIn arguments) {parameter : Parameter} {value : String}
    (isPart : IsPartOf arguments value) (made : given.store parameter value = .ok next) :
    next.WrittenIn arguments := by
  rw [Given.store] at made
  split at made
  · cases made
  · obtain ⟨setting, read, rfl⟩ := Except.map_eq_ok made
    refine ⟨?_, written.operand, written.pending⟩
    intro other member
    rcases List.mem_append.mp member with earlier | new
    · exact written.settings other earlier
    · cases List.mem_singleton.mp new
      exact fun text isText => isPart.trans (Parameter.infix_of_read read text isText)

theorem settle (written : given.WrittenIn arguments) (made : given.settle = .ok next) :
    next.WrittenIn arguments := by
  obtain ⟨flags, settings, operand, pending⟩ := given
  have settled : (⟨flags, settings, operand, .nothing⟩ : Given).WrittenIn arguments :=
    ⟨written.settings, written.operand, by simp [Pending.text?]⟩
  cases pending with
  | nothing =>
      cases made
      exact written
  | setting parameter value =>
      cases value with
      | none => cases made
      | some value => exact settled.store (written.pending value rfl) made
  | operand kind value =>
      obtain ⟨found, read, rfl⟩ := Except.map_eq_ok made
      refine ⟨written.settings, ?_, settled.pending⟩
      rintro _ ⟨⟩ text isText
      exact (written.pending value rfl).trans (OperandKind.infix_of_read read text isText)

end WrittenIn

theorem IsStep.writtenIn {argument : String} {step : Given → Except Refusal Given}
    (isStep : IsStep argument step) (member : argument ∈ arguments) :
    ∀ given next : Given, given.WrittenIn arguments → step given = .ok next →
      next.WrittenIn arguments := by
  induction isStep with
  | fails refuses => exact fun given next _ made => absurd made (refuses given next)
  | stays =>
      rintro given next written ⟨⟩
      exact written
  | settles => exact fun given next written made => written.settle made
  | raises switch =>
      intro given next written made
      rw [raise] at made
      split at made
      · cases made
      · cases made
        exact ⟨written.settings, written.operand, written.pending⟩
  | stores parameter within =>
      exact fun given next written made => written.store ⟨argument, member, within⟩ made
  | pends within =>
      rintro given next written ⟨⟩
      refine ⟨written.settings, written.operand, ?_⟩
      exact fun text waits => ⟨argument, member, within text waits⟩
  | depends choice _ same ih =>
      intro given next written made
      rw [same] at made
      exact ih given.pending given.operand given next written made
  | follows _ _ same before after =>
      intro given next written made
      rw [same] at made
      obtain ⟨middle, here, later⟩ := Except.bind_eq_ok made
      exact after middle next (before given middle written here) later

/-- All that a level is given is part of its arguments, and what is left over are arguments. -/
theorem WrittenIn.scan {level : Level} {stopped : Bool} {given next : Given}
    {rest : List String} {below : Option (Level × List String)}
    (written : given.WrittenIn arguments) (among : rest ⊆ arguments)
    (made : scan level stopped given rest = .ok (next, below)) :
    next.WrittenIn arguments ∧ ∀ left ∈ below, left.2 ⊆ arguments := by
  induction rest generalizing stopped given with
  | nil =>
      cases made
      exact ⟨written, by simp⟩
  | cons argument rest ih =>
      obtain ⟨member, amongRest⟩ := List.cons_subset.mp among
      rcases scan_cons level stopped argument rest with
        refuses | ⟨sub, ends⟩ | ⟨step, after, isStep, goesOn⟩
      · exact absurd made (refuses given _)
      · rw [ends] at made
        cases made
        exact ⟨written, by simpa using amongRest⟩
      · rw [goesOn] at made
        obtain ⟨middle, taken, later⟩ := Except.bind_eq_ok made
        exact ih (isStep.writtenIn member given middle written taken) amongRest later

theorem WrittenIn.finish {given next : Given} (written : given.WrittenIn arguments)
    (made : given.finish = .ok next) : next.WrittenIn arguments := by
  rw [Given.finish] at made
  cases settled : given.settle with
  | error refusal => simp [settled] at made
  | ok middle =>
      simp only [settled] at made
      split at made
      · cases made
      · cases made
        exact written.settle settled

variable {given : Given}

theorem WrittenIn.filter {text : String} (written : given.WrittenIn arguments)
    (made : given.filter = .ok text) : IsPartOf arguments text := by
  rw [Given.filter] at made
  split at made
  · rename_i isFilter
    cases made
    exact written.operand _ isFilter _ (by simp [Operand.texts])
  · cases made

theorem WrittenIn.request {request : FilterRequest} (written : given.WrittenIn arguments)
    (made : given.request = .ok request) : ∀ text ∈ request.texts, IsPartOf arguments text := by
  obtain ⟨filter, found, rfl⟩ := Except.map_eq_ok made
  have resource : ∀ name ∈ given.resource, IsPartOf arguments name := by
    intro name found
    obtain ⟨setting, member, isResource⟩ := List.exists_of_findSome?_eq_some found
    cases setting <;> simp at isResource
    subst isResource
    exact written.settings _ member _ (by simp [Setting.texts])
  have allow : ∀ field ∈ given.allow, IsPartOf arguments field := by
    intro field found
    obtain ⟨setting, member, isAllow⟩ := List.mem_filterMap.mp found
    cases setting <;> simp at isAllow
    subst isAllow
    exact written.settings _ member _ (by simp [Setting.texts])
  simp only [FilterRequest.texts, List.cons_append, List.forall_mem_cons, List.forall_mem_append,
    Option.mem_toList]
  exact ⟨written.filter found, resource, allow⟩

theorem WrittenIn.options (written : given.WrittenIn arguments) :
    ∀ text ∈ (⟨given.columns, given.mode, given.deny⟩ : CompileOptions).texts,
      IsPartOf arguments text := by
  intro text isText
  rcases List.mem_append.mp isText with ofColumn | ofDenied
  · obtain ⟨entry, found, isText⟩ := List.mem_flatMap.mp ofColumn
    obtain ⟨setting, member, isColumn⟩ := List.mem_filterMap.mp found
    cases setting <;> simp at isColumn
    subst isColumn
    exact written.settings _ member _ isText
  · obtain ⟨setting, member, isDenied⟩ := List.mem_filterMap.mp ofDenied
    cases setting <;> simp at isDenied
    subst isDenied
    exact written.settings _ member _ (by simp [Setting.texts])

theorem WrittenIn.command {level : Level} {command : Command}
    (written : given.WrittenIn arguments) (made : given.command level = .ok command) :
    ∀ text ∈ command.texts, IsPartOf arguments text := by
  cases level with
  | root | help =>
      rw [Given.command] at made
      split at made <;> cases made
  | parse =>
      obtain ⟨filter, found, rfl⟩ := Except.map_eq_ok made
      simpa [Command.texts] using written.filter found
  | check =>
      obtain ⟨request, found, rfl⟩ := Except.map_eq_ok made
      exact written.request found
  | compile =>
      obtain ⟨request, found, rfl⟩ := Except.map_eq_ok made
      exact List.forall_mem_append.mpr ⟨written.request found, written.options⟩
  | operators | config | action =>
      cases made
      simp [Command.texts]
  | completions =>
      rw [Given.command] at made
      split at made
      · cases made
        simp [Command.texts]
      · cases made

theorem WrittenIn.complete {level : Level} {invocation : Invocation}
    (written : given.WrittenIn arguments) (made : given.complete level = .ok invocation) :
    ∀ text ∈ invocation.command.texts, IsPartOf arguments text := by
  cases level with
  | root =>
      obtain ⟨command, found, rfl⟩ := Except.map_eq_ok made
      exact written.command found
  | _ =>
      simp only [Given.complete] at made
      split at made
      · cases made
      · rename_i last finished
        obtain ⟨command, found, rfl⟩ := Except.map_eq_ok made
        exact (written.finish finished).command found

end Given

namespace Invocation

def Writes (reader : Level → List String → Except Refusal Invocation) : Prop :=
  ∀ level arguments invocation, reader level arguments = .ok invocation →
    ∀ text ∈ invocation.command.texts, IsPartOf arguments text

theorem writes_readLevel {below : Level → List String → Except Refusal Invocation}
    (lower : Writes below) : Writes (readLevel below) := by
  intro level arguments invocation made text isText
  rw [readLevel] at made
  cases scanned : Given.scan level false .empty arguments with
  | error refusal => simp [scanned] at made
  | ok result =>
      obtain ⟨given, left⟩ := result
      obtain ⟨written, among⟩ := Given.writtenIn_empty.scan (List.Subset.refl arguments) scanned
      cases left with
      | none =>
          simp only [scanned] at made
          exact written.complete made text isText
      | some left =>
          simp only [scanned] at made
          cases inner : below left.1 left.2 with
          | error refusal => simp [inner] at made
          | ok lowest =>
              simp only [inner] at made
              obtain ⟨last, _, rfl⟩ := Except.map_eq_ok made
              exact (lower _ _ _ inner text isText).mono (among left rfl)

/-- Every text of a command is part of an argument. -/
theorem isPartOf_of_read {flags : Flags} {command : Command}
    (asks : read arguments = .ok ⟨flags, command⟩) :
    ∀ text ∈ command.texts, IsPartOf arguments text := by
  have last : Writes readLast := writes_readLevel fun _ _ _ made => by cases made
  exact writes_readLevel (writes_readLevel last) _ _ _ asks

end Invocation

end ResourceFilter
