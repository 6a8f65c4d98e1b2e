import ResourceFilter.CommandLine.Arguments

/-!
What one argument of a command line can do to what is given so far. Whatever its form is, it is
taken in steps of a few kinds, and all that an argument gives is part of its text.
-/

namespace ResourceFilter

theorem splitEquals?_eq_some {text name value : String}
    (split : splitEquals? text = some (name, value)) :
    text.toList = name.toList ++ '=' :: value.toList := by
  rw [splitEquals?] at split
  cases rest : text.toList.dropWhile (· != '=') with
  | nil => simp [rest] at split
  | cons char behind =>
      simp only [rest, Option.some.injEq, Prod.mk.injEq] at split
      obtain ⟨rfl, rfl⟩ := split
      have isEquals : char = '=' := by
        have nonempty : text.toList.dropWhile (· != '=') ≠ [] := by simp [rest]
        have stops := List.head_dropWhile_not (· != '=') nonempty
        simpa [rest] using stops
      subst isEquals
      rw [String.toList_ofList, String.toList_ofList, ← rest, List.takeWhile_append_dropWhile]

theorem ArgumentForm.infix_of_long {argument name value : String}
    (form : of argument = .long name (some value)) : value.toList <:+: argument.toList := by
  rw [of] at form
  split at form
  · cases form
  · rename_i rest _ chars
    split at form
    · rename_i split
      cases form
      have whole := splitEquals?_eq_some split
      rw [String.toList_ofList] at whole
      rw [chars, whole]
      exact ⟨'-' :: '-' :: name.toList ++ ['='], [], by simp⟩
    · cases form
  · cases form
  · cases form

theorem ArgumentForm.infix_of_letters {argument : String} {group : List Char}
    (form : of argument = .letters group) : group <:+: argument.toList := by
  rw [of] at form
  split at form
  · cases form
  · split at form <;> cases form
  · rename_i chars
    cases form
    rw [chars]
    exact (List.suffix_cons _ _).isInfix
  · cases form

namespace Pending

def text? : Pending → Option String
  | nothing => none
  | setting _ value => value
  | operand _ value => some value

def awaited? : Pending → Option Parameter
  | setting parameter none => some parameter
  | _ => none

def isOperand : Pending → Bool
  | operand _ _ => true
  | _ => false

end Pending

namespace Given

def raise (switch : Switch) (given : Given) : Except Refusal Given :=
  if given.flags.get switch then .error .conflict
  else .ok { given with flags := given.flags.set switch }

def pend (pending : Pending) (given : Given) : Except Refusal Given :=
  .ok { given with pending }

inductive IsStep (argument : String) : (Given → Except Refusal Given) → Prop
  | fails {step : Given → Except Refusal Given} :
      (∀ given next, step given ≠ .ok next) → IsStep argument step
  | stays : IsStep argument .ok
  | settles : IsStep argument settle
  | raises (switch : Switch) : IsStep argument (raise switch)
  | stores (parameter : Parameter) {value : String} :
      value.toList <:+: argument.toList → IsStep argument (·.store parameter value)
  | pends {pending : Pending} :
      (∀ text ∈ pending.text?, text.toList <:+: argument.toList) → IsStep argument (pend pending)
  /-- What is done may depend on what came just before and on whether there is an operand. -/
  | depends {step : Given → Except Refusal Given}
      (choice : Pending → Option Operand → Given → Except Refusal Given) :
      (∀ pending operand, IsStep argument (choice pending operand)) →
      (∀ given, step given = choice given.pending given.operand given) → IsStep argument step
  | follows {step first second : Given → Except Refusal Given} :
      IsStep argument first → IsStep argument second →
      (∀ given, step given = first given >>= second) → IsStep argument step

variable {argument : String}

theorem isStep_turnOn (switch : Switch) : IsStep argument (·.turnOn switch) := by
  apply IsStep.follows .settles (.raises switch)
  intro given
  rw [turnOn]
  cases given.settle <;> rfl

theorem isStep_meet (parameter : Parameter) {value : Option String}
    (within : ∀ text ∈ value, text.toList <:+: argument.toList) :
    IsStep argument (·.meet parameter value) := by
  cases value with
  | none =>
      have pends : IsStep argument (pend (.setting parameter none)) :=
        .pends (by simp [Pending.text?])
      apply IsStep.follows .settles pends
      intro given
      rw [meet]
      cases given.settle <;> rfl
  | some value =>
      apply IsStep.follows .settles (.stores parameter (within value rfl))
      intro given
      rw [meet]
      cases given.settle <;> rfl

theorem isStep_stopAt (refusal : Refusal) : IsStep argument (·.stopAt refusal) := by
  apply IsStep.fails
  intro given next
  rw [stopAt]
  cases given.settle <;> simp

theorem isStep_long (level : Level) (name : String) {value : Option String}
    (within : ∀ text ∈ value, text.toList <:+: argument.toList) :
    IsStep argument (·.long level name value) := by
  unfold long
  generalize level.long? name = mark
  rcases mark with _ | _ | _ | switch | parameter
  · exact .fails (by simp)
  · cases value with
    | none => exact isStep_stopAt .help
    | some value => exact .fails (by simp)
  · cases value with
    | none => exact isStep_stopAt .version
    | some value => exact .fails (by simp)
  · cases value with
    | none => exact isStep_turnOn switch
    | some value => exact .fails (by simp)
  · exact isStep_meet parameter within

theorem letters_parameter {level : Level} {letter : Char} {parameter : Parameter}
    (found : level.letter? letter = some (.parameter parameter)) (rest : List Char) :
    ∃ value, (∀ given, letters level given (letter :: rest) = given.meet parameter value) ∧
      ∀ text ∈ value, text.toList <:+: rest := by
  cases rest with
  | nil => exact ⟨none, fun given => by simp only [letters, found], by simp⟩
  | cons char more =>
      by_cases equals : char = '='
      · subst equals
        refine ⟨some (String.ofList more), fun given => by simp only [letters, found], ?_⟩
        simpa using (List.suffix_cons '=' more).isInfix
      · refine ⟨some (String.ofList (char :: more)), fun given => ?_, by simp⟩
        simp [letters, found, equals]

theorem isStep_letters (level : Level) {group : List Char} (within : group <:+: argument.toList) :
    IsStep argument (letters level · group) := by
  induction group with
  | nil => exact .stays
  | cons letter rest ih =>
      have withinRest := (List.suffix_cons letter rest).isInfix.trans within
      cases found : level.letter? letter with
      | none => exact .fails (by simp [letters, found])
      | some mark =>
          cases mark with
          | help =>
              simp only [letters, found]
              exact isStep_stopAt .help
          | version =>
              simp only [letters, found]
              exact isStep_stopAt .version
          | switch switch =>
              apply IsStep.follows (isStep_turnOn switch) (ih withinRest)
              intro given
              simp only [letters, found]
              cases given.turnOn switch <;> rfl
          | parameter parameter =>
              obtain ⟨value, meets, withinValue⟩ := letters_parameter found rest
              simp only [meets]
              exact isStep_meet parameter fun text isValue =>
                (withinValue text isValue).trans withinRest

theorem isStep_takeOperand (level : Level) (stopped : Bool) :
    IsStep argument (·.takeOperand level stopped argument) := by
  have refuses : IsStep argument fun _ =>
      if level.hasSubs && !(stopped && (level.sub? argument).isSome) then .error .unknownCommand
      else .error .unknownArgument := by
    apply IsStep.fails
    intro given next
    split <;> simp
  unfold takeOperand
  cases level.operand? with
  | none => exact refuses
  | some kind =>
      have waits : IsStep argument fun given =>
          given.settle.map fun given => { given with pending := .operand kind argument } := by
        have pends : IsStep argument (pend (.operand kind argument)) :=
          .pends (by simp [Pending.text?])
        apply IsStep.follows .settles pends
        intro given
        cases given.settle <;> rfl
      apply IsStep.depends fun pending operand =>
        if operand.isSome || pending.isOperand then _ else _
      · intro pending operand
        cases operand.isSome || pending.isOperand
        · exact waits
        · exact refuses
      · rintro ⟨flags, settings, operand, pending⟩
        cases operand <;> cases pending <;> rfl

theorem isStep_takeWord (level : Level) : IsStep argument (·.takeWord level argument) := by
  have operand : IsStep argument (·.takeOperand level false argument) :=
    isStep_takeOperand level false
  apply IsStep.depends fun pending _ =>
    pending.awaited?.elim (·.takeOperand level false argument) fun parameter =>
      pend (.setting parameter (some argument))
  · intro pending _
    cases pending.awaited? with
    | none => exact operand
    | some parameter => exact .pends (by simp [Pending.text?])
  · rintro ⟨flags, settings, operand, pending⟩
    rcases pending with _ | ⟨parameter, _ | value⟩ | ⟨kind, value⟩ <;> rfl

theorem isStep_take (level : Level) (argument : String) :
    IsStep argument (·.take level argument) := by
  unfold take
  cases form : ArgumentForm.of argument with
  | stop => exact .stays
  | long name value =>
      apply isStep_long level name
      rintro text ⟨⟩
      exact ArgumentForm.infix_of_long form
  | letters group => exact isStep_letters level (ArgumentForm.infix_of_letters form)
  | word => exact isStep_takeWord level

/-- An argument ends the level, or it is taken in a step; or else nothing can be read. -/
theorem scan_cons (level : Level) (stopped : Bool) (argument : String) (rest : List String) :
    (∀ given result, scan level stopped given (argument :: rest) ≠ .ok result) ∨
      (∃ next, ∀ given,
        scan level stopped given (argument :: rest) = .ok (given, some (next, rest))) ∨
      ∃ step after, IsStep argument step ∧ ∀ given,
        scan level stopped given (argument :: rest) =
          step given >>= fun next => scan level after next rest := by
  cases stopped with
  | true =>
      refine .inr (.inr ⟨_, true, isStep_takeOperand level true, fun given => ?_⟩)
      rw [scan, if_pos rfl]
      cases given.takeOperand level true argument <;> rfl
  | false =>
      simp only [scan, Bool.false_eq_true, if_false]
      cases level.sub? argument with
      | none =>
          refine .inr (.inr ⟨_, ArgumentForm.of argument == .stop, isStep_take level argument,
            fun given => ?_⟩)
          cases given.take level argument <;> rfl
      | some next =>
          cases next with
          | help => exact .inl fun given result => by simp
          | _ => exact .inr (.inl ⟨_, fun given => rfl⟩)

end Given

end ResourceFilter
