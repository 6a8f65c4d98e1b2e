import ResourceFilter.Proofs.Fragment.Inline

/-!
What stands around the operands of a fragment. It depends on no value and is the same in both modes:
a fragment with inline values and one with placeholders differ in their operands only.
-/

namespace ResourceFilter

structure Outline where
  field : String
  operator : Operator
  combinator : Option Combinator
  deriving DecidableEq, Repr

def Clause.outline (clause : Clause) : Outline where
  field := clause.field
  operator := clause.operator
  combinator := clause.combinator

structure Frame where
  before : String
  after : String
  deriving DecidableEq, Repr

namespace Frame

variable (dialect : Dialect) (column : String → String)

def ofOutline (outline : Outline) : Frame where
  before :=
    column outline.field ++ " " ++ (dialect.token? outline.operator).getD "" ++ " " ++
      dialect.opening outline.operator.kind
  after := dialect.closing outline.operator.kind

def join : List Outline → List Frame
  | [] => []
  | [outline] => [ofOutline dialect column outline]
  | outline :: next :: rest =>
      { before := (ofOutline dialect column outline).before
        after :=
          (ofOutline dialect column outline).after ++ " " ++
            (outline.combinator.getD .and).keyword ++ " " } :: join (next :: rest)

def ofOutlines (outlines : List Outline) : List Frame :=
  (join dialect column outlines).modifyHead fun first =>
    { first with before := dialect.keyword ++ " " ++ first.before }

def fill (frames : List Frame) (operands : List String) : String :=
  String.join (List.zipWith (fun frame operand => frame.before ++ operand ++ frame.after)
    frames operands)

theorem length_join (outlines : List Outline) :
    (join dialect column outlines).length = outlines.length := by
  induction outlines with
  | nil => rfl
  | cons outline rest ih =>
      cases rest with
      | nil => rfl
      | cons next rest => rw [join, List.length_cons, ih]; rfl

theorem length_ofOutlines (outlines : List Outline) :
    (ofOutlines dialect column outlines).length = outlines.length := by
  rw [ofOutlines, List.length_modifyHead, length_join]

theorem fill_cons (frame : Frame) (frames : List Frame) (operand : String)
    (operands : List String) :
    fill (frame :: frames) (operand :: operands) =
      frame.before ++ operand ++ frame.after ++ fill frames operands := by
  rw [fill, List.zipWith_cons_cons, String.join_cons]
  rfl

theorem fill_modifyHead {frames : List Frame} {operands : List String} (nonempty : frames ≠ [])
    (filled : operands ≠ []) (text : String) :
    fill (frames.modifyHead fun first => { first with before := text ++ first.before }) operands =
      text ++ fill frames operands := by
  cases frames with
  | nil => contradiction
  | cons frame frames =>
      cases operands with
      | nil => contradiction
      | cons operand operands => simp [fill_cons, String.append_assoc]

end Frame

instance (text : String) : Decidable (IsValueText text) :=
  decidable_of_iff (isBareWord text = true) isBareWord_iff

def Clause.inlineOperand (dialect : Dialect) (clause : Clause) (carried : String) : String :=
  if clause.operator.kind = .comparison ∧ IsValueText carried then carried
  else dialect.quotes.quote carried

def Clause.operands (dialect : Dialect) (mode : Mode) (position : Nat) (clauses : List Clause)
    (carried : List String) : List String :=
  match mode with
  | .inline => List.zipWith (inlineOperand dialect) clauses carried
  | .placeholder => (List.range' position clauses.length).map dialect.placeholders.placeholder

def CompiledFilter.ofCarried (dialect : Dialect) (mode : Mode) (column : String → String)
    (clauses : List Clause) (carried : List String) : CompiledFilter where
  fragment :=
    Frame.fill (Frame.ofOutlines dialect column (clauses.map Clause.outline))
      (Clause.operands dialect mode 1 clauses carried)
  binds :=
    match mode with
    | .inline => []
    | .placeholder => carried

def FieldMap.column (columns : FieldMap) (field : String) : String :=
  (columns.get? field).getD ""

section Filling

variable {dialect : Dialect} {columns : FieldMap} {column : String → String}
  {clauses : List Clause} {conditions : List Condition}

theorem operands_cons {clause : Clause} {condition : Condition}
    (states : condition.States dialect columns clause) (mode : Mode) (position : Nat)
    (clauses : List Clause) (carried : List String) :
    Clause.operands dialect mode position (clause :: clauses) (condition.value :: carried) =
      condition.operand dialect mode position ::
        Clause.operands dialect mode (position + 1) clauses carried := by
  cases mode with
  | placeholder => rw [Clause.operands, List.length_cons, List.range'_succ]; rfl
  | inline =>
      have bare : (condition.bare && isBareWord condition.value) = true ↔
          clause.operator.kind = .comparison ∧ IsValueText condition.value := by
        rw [Bool.and_eq_true, states.bare, isBareWord_iff]
      have same : Clause.inlineOperand dialect clause condition.value =
          condition.literal dialect.quotes := by
        simp only [Clause.inlineOperand, Condition.literal, bare]
      rw [Clause.operands, List.zipWith_cons_cons, same]
      rfl

theorem fill_join (states : Condition.StateAll dialect columns clauses conditions)
    (mapped : ∀ clause ∈ clauses, columns.get? clause.field = some (column clause.field))
    (mode : Mode) (position : Nat) :
    Frame.fill (Frame.join dialect column (clauses.map Clause.outline))
        (Clause.operands dialect mode position clauses (conditions.map Condition.value)) =
      Condition.join dialect mode position conditions := by
  induction states generalizing position with
  | nil => rfl
  | @cons clause condition clauses conditions first later ih =>
      have sameColumn : column clause.field = condition.column := by
        have here := mapped clause List.mem_cons_self
        rw [first.column] at here
        exact (Option.some.inj here).symm
      have laterMapped : ∀ other ∈ clauses, columns.get? other.field = some (column other.field) :=
        fun other member => mapped other (List.mem_cons_of_mem _ member)
      have frame : Frame.ofOutline dialect column clause.outline =
          ⟨condition.column ++ " " ++ condition.token ++ " " ++ condition.opening,
            condition.closing⟩ := by
        rw [first.opening, first.closing, ← sameColumn]
        simp [Frame.ofOutline, Clause.outline, first.token]
      rw [List.map_cons, List.map_cons, operands_cons first]
      cases later with
      | nil =>
          rw [List.map_nil, Frame.join, Frame.fill_cons, frame]
          simp [Frame.fill, Condition.join, Condition.text]
      | @cons next nextCondition clauses conditions second later =>
          have joint : (clause.outline.combinator.getD .and) = condition.joint := first.joint.symm
          have rest := ih laterMapped (position + 1)
          rw [List.map_cons, List.map_cons] at rest ⊢
          rw [Frame.join, Frame.fill_cons, rest, frame, joint, Condition.join, Condition.text]
          simp only [String.append_assoc]

theorem ofConditions_eq_ofCarried
    (states : Condition.StateAll dialect columns clauses conditions)
    (mapped : ∀ clause ∈ clauses, columns.get? clause.field = some (column clause.field))
    (mode : Mode) :
    CompiledFilter.ofConditions dialect mode conditions =
      .ofCarried dialect mode column clauses (conditions.map Condition.value) := by
  have joined := fill_join states mapped mode 1
  cases states with
  | nil => cases mode <;> rfl
  | @cons clause condition clauses conditions first later =>
      have nonempty : Frame.join dialect column ((clause :: clauses).map Clause.outline) ≠ [] := by
        rw [ne_eq, ← List.length_eq_zero_iff, Frame.length_join]
        simp
      have filled : Clause.operands dialect mode 1 (clause :: clauses)
          ((condition :: conditions).map Condition.value) ≠ [] := by
        rw [List.map_cons, operands_cons first]
        simp
      cases mode <;>
        simp only [CompiledFilter.ofConditions, CompiledFilter.ofCarried, Frame.ofOutlines,
          Frame.fill_modifyHead nonempty filled, joined]

theorem mapped_of_stateAll (states : Condition.StateAll dialect columns clauses conditions) :
    ∀ clause ∈ clauses, columns.get? clause.field = some (columns.column clause.field) := by
  refine Condition.forall_mem_of_stateAll states ?_
  intro clause condition stated
  rw [FieldMap.column, stated.column, Option.getD_some]

theorem refused_or_ofCarried (dialect : Dialect) (columns : FieldMap) (clauses : List Clause) :
    (∃ error, ∀ mode, CompiledFilter.ofClauses? dialect mode columns clauses = .error error) ∨
      ∃ carried : List String, carried.length = clauses.length ∧
        ∀ mode, CompiledFilter.ofClauses? dialect mode columns clauses =
          .ok (.ofCarried dialect mode columns.column clauses carried) := by
  cases made : Condition.ofClauses? dialect columns clauses with
  | error error =>
      refine .inl ⟨error, ?_⟩
      intro mode
      rw [CompiledFilter.ofClauses?, made]
      rfl
  | ok conditions =>
      have states := Condition.states_of_ofClauses? made
      refine .inr ⟨conditions.map Condition.value, ?_, ?_⟩
      · rw [List.length_map, states.length_eq]
      · intro mode
        rw [CompiledFilter.ofClauses?, made,
          ← ofConditions_eq_ofCarried states (mapped_of_stateAll states)]
        rfl

/-- Both modes refuse the same clauses for the same reason. The fragments of all others have the
same frames, with the carried texts or the placeholders in them; the frames depend on no value. -/
theorem ofClauses?_modes_agree (dialect : Dialect) (columns : FieldMap) :
    (∀ clauses,
      (∃ error, CompiledFilter.ofClauses? dialect .inline columns clauses = .error error ∧
        CompiledFilter.ofClauses? dialect .placeholder columns clauses = .error error) ∨
      ∃ frames carried,
        frames = Frame.ofOutlines dialect columns.column (clauses.map Clause.outline) ∧
        frames.length = clauses.length ∧ carried.length = clauses.length ∧
        CompiledFilter.ofClauses? dialect .placeholder columns clauses =
          .ok ⟨Frame.fill frames
            ((List.range' 1 clauses.length).map dialect.placeholders.placeholder), carried⟩ ∧
        CompiledFilter.ofClauses? dialect .inline columns clauses =
          .ok ⟨Frame.fill frames
            (List.zipWith (Clause.inlineOperand dialect) clauses carried), []⟩) ∧
    ∀ clauses others compiled other, clauses.map Clause.outline = others.map Clause.outline →
      CompiledFilter.ofClauses? dialect .placeholder columns clauses = .ok compiled →
      CompiledFilter.ofClauses? dialect .placeholder columns others = .ok other →
      compiled.fragment = other.fragment := by
  constructor
  · intro clauses
    rcases refused_or_ofCarried dialect columns clauses with
      ⟨error, refused⟩ | ⟨carried, length, accepted⟩
    · exact .inl ⟨error, refused .inline, refused .placeholder⟩
    · have frames := Frame.length_ofOutlines dialect columns.column (clauses.map Clause.outline)
      rw [List.length_map] at frames
      exact .inr ⟨_, carried, rfl, frames, length, accepted .placeholder, accepted .inline⟩
  · intro clauses others compiled other same accepted otherAccepted
    have sameLength : clauses.length = others.length := by
      simpa using congrArg List.length same
    rcases refused_or_ofCarried dialect columns clauses with
      ⟨error, refused⟩ | ⟨carried, _, stated⟩
    · rw [refused] at accepted
      contradiction
    · rcases refused_or_ofCarried dialect columns others with
        ⟨error, refused⟩ | ⟨otherCarried, _, otherStated⟩
      · rw [refused] at otherAccepted
        contradiction
      · rw [stated] at accepted
        rw [otherStated] at otherAccepted
        cases accepted
        cases otherAccepted
        rw [CompiledFilter.ofCarried, CompiledFilter.ofCarried, same, Clause.operands,
          Clause.operands, sameLength]

theorem ofClauses?_modes_agree_names :
    ∃ compiled other,
      CompiledFilter.ofClauses? .aql .placeholder (.ofList [("name", "full_name")])
          [⟨"name", .containing, "bob", none⟩] = .ok compiled ∧
        CompiledFilter.ofClauses? .aql .placeholder (.ofList [("name", "full_name")])
          [⟨"name", .containing, "' OR 1", none⟩] = .ok other ∧
        compiled.binds ≠ other.binds ∧ compiled.fragment = other.fragment :=
  ⟨⟨"FILTER full_name =~ @v1", [".*bob.*"]⟩, ⟨"FILTER full_name =~ @v1", [".*' OR 1.*"]⟩,
    by rfl, by rfl, by decide,
    (ofClauses?_modes_agree .aql (.ofList [("name", "full_name")])).2
      [⟨"name", .containing, "bob", none⟩] [⟨"name", .containing, "' OR 1", none⟩] _ _ rfl (by rfl)
      (by rfl)⟩

end Filling

end ResourceFilter
