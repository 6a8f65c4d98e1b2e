import ResourceFilter.Proofs.Fragment.Reading

/-!
What fragments mean. A filter means its conditions combined from left to right; a query language
reads AND before OR. The two meanings are the same exactly for the filters in which no AND stands
behind an OR.
-/

namespace ResourceFilter

def Combinator.combine : Combinator → Bool → Bool → Bool
  | or, left, right => left || right
  | and, left, right => left && right

def Clause.joints (clauses : List Clause) : List Combinator :=
  clauses.dropLast.map fun clause => clause.combinator.getD .and

/-- Combines a truth value with those of the conditions from a position on, in their order. -/
def leftToRight (truth : Nat → Bool) : Bool → Nat → List Combinator → Bool
  | sofar, _, [] => sofar
  | sofar, position, joint :: rest =>
      leftToRight truth (joint.combine sofar (truth position)) (position + 1) rest

def Clause.holdLeftToRight (truth : Nat → Bool) (clauses : List Clause) : Bool :=
  leftToRight truth (truth 1) 2 (joints clauses)

def holds (truth : Nat → Bool) (alternatives : List (List Comparison)) : Bool :=
  alternatives.any fun conjunction => conjunction.all fun comparison => truth comparison.position

/-- Combines the truth value of a conjunction with those of the conditions from a position on,
where AND binds tighter than OR. -/
def byPrecedence (truth : Nat → Bool) : Bool → Nat → List Combinator → Bool
  | sofar, _, [] => sofar
  | sofar, position, .and :: rest =>
      byPrecedence truth (sofar && truth position) (position + 1) rest
  | sofar, position, .or :: rest =>
      sofar || byPrecedence truth (truth position) (position + 1) rest

def AndsFirst (joints : List Combinator) : Prop :=
  joints.Pairwise fun left right => left = .or → right = .or

section Orders

variable {truth : Nat → Bool} {joints : List Combinator} {position : Nat}

theorem leftToRight_mono {weaker stronger : Bool} (implied : weaker = true → stronger = true)
    (position : Nat) (held : leftToRight truth weaker position joints = true) :
    leftToRight truth stronger position joints = true := by
  induction joints generalizing weaker stronger position with
  | nil => exact implied held
  | cons joint rest ih =>
      rw [leftToRight] at held ⊢
      refine ih ?_ (position + 1) held
      cases joint <;> simp only [Combinator.combine, Bool.or_eq_true, Bool.and_eq_true] <;> tauto

theorem byPrecedence_of_leftToRight (decided sofar : Bool) (position : Nat)
    (held : leftToRight truth (decided || sofar) position joints = true) :
    (decided || byPrecedence truth sofar position joints) = true := by
  -- `decided` is what the alternatives before the current one come to.
  induction joints generalizing decided sofar position with
  | nil => exact held
  | cons joint rest ih =>
      cases joint with
      | and =>
          apply ih
          apply leftToRight_mono _ (position + 1) held
          simp only [Combinator.combine, Bool.or_eq_true, Bool.and_eq_true]
          tauto
      | or =>
          rw [byPrecedence, ← Bool.or_assoc]
          exact ih (decided || sofar) (truth position) (position + 1) held

theorem leftToRight_eq_of_ors (ors : ∀ joint ∈ joints, joint = .or) (decided sofar : Bool)
    (position : Nat) :
    leftToRight truth (decided || sofar) position joints =
      (decided || byPrecedence truth sofar position joints) := by
  induction joints generalizing decided sofar position with
  | nil => rfl
  | cons joint rest ih =>
      have isOr := ors joint List.mem_cons_self
      have later := ih fun other member => ors other (List.mem_cons_of_mem _ member)
      rw [isOr, leftToRight, byPrecedence, Combinator.combine, later, Bool.or_assoc]

theorem leftToRight_eq_of_andsFirst (andsFirst : AndsFirst joints) (sofar : Bool)
    (position : Nat) :
    leftToRight truth sofar position joints = byPrecedence truth sofar position joints := by
  induction joints generalizing sofar position with
  | nil => rfl
  | cons joint rest ih =>
      obtain ⟨above, later⟩ := List.pairwise_cons.mp andsFirst
      cases joint with
      | and => exact ih later (sofar && truth position) (position + 1)
      | or =>
          have ors : ∀ joint ∈ rest, joint = .or := fun joint member => above joint member rfl
          exact leftToRight_eq_of_ors ors sofar (truth position) (position + 1)

theorem leftToRight_false (fails : ∀ other, position ≤ other → truth other = false) :
    leftToRight truth false position joints = false := by
  induction joints generalizing position with
  | nil => rfl
  | cons joint rest ih =>
      have here := fails position (Nat.le_refl position)
      have laterFails : ∀ other, position + 1 ≤ other → truth other = false :=
        fun other above => fails other (by omega)
      rw [leftToRight, here]
      cases joint <;> exact ih laterFails

theorem leftToRight_false_of_and (fails : ∀ other, position ≤ other → truth other = false)
    (hasAnd : .and ∈ joints) (sofar : Bool) :
    leftToRight truth sofar position joints = false := by
  induction joints generalizing position sofar with
  | nil => contradiction
  | cons joint rest ih =>
      have here := fails position (Nat.le_refl position)
      have laterFails : ∀ other, position + 1 ≤ other → truth other = false :=
        fun other above => fails other (by omega)
      rw [leftToRight, here]
      cases joint with
      | and =>
          rw [Combinator.combine, Bool.and_false]
          exact leftToRight_false laterFails
      | or =>
          rcases List.mem_cons.mp hasAnd with same | later
          · contradiction
          · exact ih laterFails later _

/-- If just the conditions of the first alternative are true, and an AND stands behind it, then
the two orders differ. -/
theorem exists_orders_differ (mixed : ¬AndsFirst joints) (position : Nat) :
    ∃ bound, position ≤ bound ∧
      byPrecedence (fun other => decide (other < bound)) true position joints = true ∧
      leftToRight (fun other => decide (other < bound)) true position joints = false := by
  induction joints generalizing position with
  | nil => exact absurd List.Pairwise.nil mixed
  | cons joint rest ih =>
      cases joint with
      | and =>
          have restMixed : ¬AndsFirst rest := by
            intro andsFirst
            exact mixed (List.pairwise_cons.mpr ⟨by simp, andsFirst⟩)
          obtain ⟨bound, above, precedence, order⟩ := ih restMixed (position + 1)
          have here : decide (position < bound) = true := decide_eq_true above
          refine ⟨bound, by omega, ?_, ?_⟩
          · rw [byPrecedence, here]
            exact precedence
          · rw [leftToRight, here]
            exact order
      | or =>
          have hasAnd : Combinator.and ∈ rest := by
            by_contra noAnd
            have ors : ∀ joint ∈ rest, joint = .or := by
              intro joint member
              cases joint with
              | or => rfl
              | and => exact absurd member noAnd
            refine mixed (List.pairwise_cons.mpr ⟨fun joint member _ => ors joint member, ?_⟩)
            exact List.pairwise_of_forall_mem_list fun left _ right member _ => ors right member
          -- Every condition behind this OR is false, so the next AND takes back what held before it.
          refine ⟨position, Nat.le_refl position, rfl, ?_⟩
          refine leftToRight_false_of_and ?_ hasAnd _
          intro other above
          exact decide_eq_false (by omega)

end Orders

section Meaning

variable {dialect : Dialect} {mode : Mode} {columns : FieldMap} {clauses : List Clause}
  {conditions : List Condition}

theorem joints_cons (clause next : Clause) (later : List Clause) :
    Clause.joints (clause :: next :: later) =
      clause.combinator.getD .and :: Clause.joints (next :: later) := by
  rw [Clause.joints, List.dropLast_cons_cons, List.map_cons]
  rfl

theorem flatten_modifyHead {α : Type} (value : α) {lists : List (List α)} (nonempty : lists ≠ []) :
    (lists.modifyHead (value :: ·)).flatten = value :: lists.flatten := by
  cases lists with
  | nil => contradiction
  | cons first later => rfl

theorem alternatives_ne_nil (position : Nat) (condition : Condition) (later : List Condition) :
    Condition.alternatives dialect mode position (condition :: later) ≠ [] := by
  induction later generalizing position condition with
  | nil => simp [Condition.alternatives]
  | cons next later ih =>
      rw [Condition.alternatives]
      cases condition.joint with
      | and =>
          rw [ne_eq, List.modifyHead_eq_nil_iff]
          exact ih (position + 1) next
      | or => exact List.cons_ne_nil _ _

theorem flatten_alternatives_cons (position : Nat) (condition : Condition)
    (later : List Condition) :
    (Condition.alternatives dialect mode position (condition :: later)).flatten =
      condition.comparison dialect mode position ::
        (Condition.alternatives dialect mode (position + 1) later).flatten := by
  cases later with
  | nil => rfl
  | cons next later =>
      rw [Condition.alternatives]
      cases condition.joint with
      | and => exact flatten_modifyHead _ (alternatives_ne_nil (position + 1) next later)
      | or => rfl

theorem flatten_alternatives (states : Condition.StateAll dialect columns clauses conditions)
    (position : Nat) :
    List.Forall₂ (fun clause comparison => columns.get? clause.field = some comparison.column ∧
        dialect.token? clause.operator = some comparison.operator)
      clauses (Condition.alternatives dialect mode position conditions).flatten ∧
    (Condition.alternatives dialect mode position conditions).flatten.map Comparison.position =
      List.range' position clauses.length := by
  induction states generalizing position with
  | nil => exact ⟨.nil, rfl⟩
  | cons first later ih =>
      obtain ⟨parts, positions⟩ := ih (position + 1)
      rw [flatten_alternatives_cons]
      refine ⟨.cons ⟨first.column, first.token⟩ parts, ?_⟩
      rw [List.map_cons, positions, List.length_cons, List.range'_succ]
      rfl

theorem holds_alternatives (states : Condition.StateAll dialect columns clauses conditions)
    (nonempty : clauses ≠ []) (truth : Nat → Bool) (position : Nat) :
    ∃ first later, Condition.alternatives dialect mode position conditions = first :: later ∧
      ∀ sofar, ((sofar && first.all fun comparison => truth comparison.position) ||
          holds truth later) =
        byPrecedence truth (sofar && truth position) (position + 1) (Clause.joints clauses) := by
  induction states generalizing position with
  | nil => contradiction
  | @cons clause condition clauses conditions stated later ih =>
      cases later with
      | nil =>
          refine ⟨_, _, rfl, ?_⟩
          intro sofar
          simp [holds, Condition.comparison, Clause.joints, byPrecedence]
      | @cons next nextCondition clauses conditions nextStated later =>
          obtain ⟨first, others, split, value⟩ := ih (by simp) (position + 1)
          rw [Condition.alternatives, split, joints_cons, ← stated.joint]
          cases condition.joint with
          | and =>
              refine ⟨_, _, rfl, ?_⟩
              intro sofar
              rw [byPrecedence, ← value, List.all_cons, Bool.and_assoc]
              rfl
          | or =>
              refine ⟨_, _, rfl, ?_⟩
              intro sofar
              have rest := value true
              rw [Bool.true_and, Bool.true_and] at rest
              rw [byPrecedence, ← rest, List.all_cons, List.all_nil, Bool.and_true]
              rfl

/-- A compiled fragment is read as the conditions of its clauses, and holds wherever they hold from
left to right. It holds nowhere else exactly if no AND stands behind an OR. -/
theorem fragment_holds_iff_leftToRight (base : Dialect) (changes : List Dialect.Change)
    (mode : Mode) (columns : FieldMap) (clauses : List Clause) (compiled : CompiledFilter)
    (builtin : base ∈ Dialect.builtin) (nonempty : clauses ≠ [])
    (plain : ∀ clause ∈ clauses, ∀ column ∈ columns.get? clause.field, IsPlain column)
    (accepted :
      CompiledFilter.ofClauses? (base.derive changes) mode columns clauses = .ok compiled) :
    ∃ alternatives, (base.derive changes).readFragment? compiled.fragment = some alternatives ∧
      List.Forall₂ (fun clause comparison => columns.get? clause.field = some comparison.column ∧
          (base.derive changes).token? clause.operator = some comparison.operator)
        clauses alternatives.flatten ∧
      alternatives.flatten.map Comparison.position = List.range' 1 clauses.length ∧
      (∀ truth, Clause.holdLeftToRight truth clauses = true → holds truth alternatives = true) ∧
      ((∀ truth, holds truth alternatives = Clause.holdLeftToRight truth clauses) ↔
        AndsFirst (Clause.joints clauses)) := by
  have readable := (Dialect.isReadable_builtin base builtin).derive changes
  obtain ⟨conditions, rfl, states⟩ := CompiledFilter.exists_conditions accepted
  obtain ⟨parts, positions⟩ := flatten_alternatives states 1
  have value : ∀ truth,
      holds truth (Condition.alternatives (base.derive changes) mode 1 conditions) =
        byPrecedence truth (truth 1) 2 (Clause.joints clauses) := by
    intro truth
    obtain ⟨first, later, split, value⟩ := holds_alternatives states nonempty truth 1
    rw [split, ← Bool.true_and (truth 1), ← value true]
    rfl
  refine ⟨_, readFragment?_ofConditions readable states plain nonempty, parts, positions, ?_, ?_⟩
  · intro truth held
    rw [value]
    exact byPrecedence_of_leftToRight false (truth 1) 2 held
  · constructor
    · intro same
      by_contra mixed
      obtain ⟨bound, above, precedence, order⟩ := exists_orders_differ mixed 2
      have here : decide (1 < bound) = true := decide_eq_true (by omega)
      have differ := same fun other => decide (other < bound)
      rw [value, Clause.holdLeftToRight, here, precedence, order] at differ
      contradiction
    · intro andsFirst truth
      rw [value, Clause.holdLeftToRight, leftToRight_eq_of_andsFirst andsFirst]

theorem fragment_holds_iff_leftToRight_or :
    Dialect.postgres ∈ Dialect.builtin ∧
      CompiledFilter.ofClauses? (Dialect.postgres.derive []) .placeholder
          (.ofList [("a", "a"), ("b", "b")])
          [⟨"a", .equal, "1", some .or⟩, ⟨"b", .equal, "2", none⟩] =
        .ok ⟨"WHERE a = $1 OR b = $2", ["1", "2"]⟩ ∧
      ∃ alternatives, (Dialect.postgres.derive []).readFragment? "WHERE a = $1 OR b = $2" =
          some alternatives ∧
        ∀ truth, holds truth alternatives = Clause.holdLeftToRight truth
          [⟨"a", .equal, "1", some .or⟩, ⟨"b", .equal, "2", none⟩] := by
  refine ⟨by decide, by rfl, ?_⟩
  obtain ⟨alternatives, read, _, _, _, same⟩ :=
    fragment_holds_iff_leftToRight .postgres [] .placeholder (.ofList [("a", "a"), ("b", "b")])
      [⟨"a", .equal, "1", some .or⟩, ⟨"b", .equal, "2", none⟩]
      ⟨"WHERE a = $1 OR b = $2", ["1", "2"]⟩ (by decide) (by decide) (by decide) (by rfl)
  exact ⟨alternatives, read, same.mpr (List.pairwise_singleton _ _)⟩

/-- An AND behind an OR: the first condition alone makes the fragment hold, but not the filter. -/
theorem fragment_or_and_ne_leftToRight :
    ∃ clauses alternatives truth,
      Clause.parse .postgres "a==1,b==2;c==3" = .ok clauses ∧
      CompiledFilter.ofClauses? .postgres .placeholder
          (.ofList [("a", "a"), ("b", "b"), ("c", "c")]) clauses =
        .ok ⟨"WHERE a = $1 OR b = $2 AND c = $3", ["1", "2", "3"]⟩ ∧
      Dialect.postgres.readFragment? "WHERE a = $1 OR b = $2 AND c = $3" = some alternatives ∧
      holds truth alternatives = true ∧ Clause.holdLeftToRight truth clauses = false :=
  ⟨_, _, fun position => position == 1, by rfl, by rfl, by rfl, by rfl, by rfl⟩

end Meaning

end ResourceFilter
