import ResourceFilter.Proofs.Fragment.Conditions
import ResourceFilter.Proofs.Fragment.Words
import ResourceFilter.Proofs.Text.Decimal

/-!
Reading fragments the way the query languages do: AND binds tighter than OR, so that a fragment is
a list of alternatives, each of which is a list of conditions that must all hold.
-/

namespace ResourceFilter

structure Comparison where
  position : Nat
  column : String
  operator : String
  operand : String
  deriving DecidableEq, Repr

inductive ComparisonStage
  | start
  | afterColumn (column : List Char) (operator : List (List Char))
  | afterOperator (column : List Char) (operator : List (List Char))
  | complete (comparison : Comparison)

/-- Words that do not end an operator. -/
def isOperatorStart (word : List Char) : Bool :=
  word = "NOT".toList || word = "SIMILAR".toList

def isOperator : List (List Char) → Bool
  | [] => false
  | [last] => !isOperatorStart last
  | word :: next :: rest => isOperatorStart word && isOperator (next :: rest)

def readAlternatives? :
    Nat → ComparisonStage → List (List Char) → Option (List (List Comparison))
  | position, .start, word :: rest => readAlternatives? position (.afterColumn word []) rest
  | position, .afterColumn column operator, word :: rest =>
      if isOperatorStart word then
        readAlternatives? position (.afterColumn column (operator ++ [word])) rest
      else readAlternatives? position (.afterOperator column (operator ++ [word])) rest
  | position, .afterOperator column operator, word :: rest =>
      let comparison :=
        ⟨position, .ofList column, .ofList ([' '].intercalate operator), .ofList word⟩
      readAlternatives? position (.complete comparison) rest
  | position, .complete comparison, word :: rest =>
      if word = Combinator.and.keyword.toList then
        (readAlternatives? (position + 1) .start rest).map (List.modifyHead (comparison :: ·))
      else if word = Combinator.or.keyword.toList then
        (readAlternatives? (position + 1) .start rest).map ([comparison] :: ·)
      else none
  | _, .complete comparison, [] => some [[comparison]]
  | _, _, [] => none

/-- Reads a fragment as the alternatives that stand behind the dialect's keyword. It knows no
comments: two hyphens are read as part of a word. -/
def Dialect.readFragment? (dialect : Dialect) (fragment : String) :
    Option (List (List Comparison)) :=
  match Place.words dialect.quotes .outside fragment.toList with
  | [] => none
  | first :: rest =>
      if first = dialect.keyword.toList then readAlternatives? 1 .start rest else none

def IsPlain (text : String) : Prop :=
  ∀ char ∈ text.toList, char ≠ ' ' ∧ char ≠ QuoteStyle.mark

instance (text : String) : Decidable (IsPlain text) :=
  List.decidableBAll (fun char => char ≠ ' ' ∧ char ≠ QuoteStyle.mark) text.toList

theorem IsPlain.unbroken {text : String} (plain : IsPlain text) (quotes : QuoteStyle) :
    Place.Unbroken quotes .outside text.toList .outside :=
  .of_plain quotes plain

namespace Dialect

structure IsReadable (dialect : Dialect) : Prop where
  keyword : IsPlain dialect.keyword
  operator : ∀ entry ∈ dialect.table,
    isOperator (Place.words dialect.quotes .outside entry.2.toList) = true ∧
      Place.outside.behind dialect.quotes entry.2.toList = .outside
  opening : ∀ kind, IsPlain (dialect.opening kind)
  closing : ∀ kind, IsPlain (dialect.closing kind)

theorem isReadable_builtin : ∀ dialect ∈ builtin, dialect.IsReadable := by
  intro dialect member
  rw [builtin, List.mem_cons, List.mem_singleton] at member
  rcases member with rfl | rfl <;> constructor
  · decide
  · decide
  · intro kind
    cases kind <;> decide
  · intro kind
    cases kind <;> decide
  · decide
  · decide
  · intro kind
    cases kind <;> decide
  · intro kind
    cases kind <;> decide

theorem IsReadable.change {dialect : Dialect} (readable : dialect.IsReadable) (change : Change) :
    (dialect.change change).IsReadable := by
  cases change with
  | without operators =>
      refine ⟨readable.keyword, ?_, readable.opening, readable.closing⟩
      intro entry member
      exact readable.operator entry (List.mem_of_mem_filter member)
  | mode mode => exact ⟨readable.keyword, readable.operator, readable.opening, readable.closing⟩

theorem IsReadable.derive {dialect : Dialect} (readable : dialect.IsReadable)
    (changes : List Change) : (dialect.derive changes).IsReadable := by
  induction changes generalizing dialect with
  | nil => exact readable
  | cons change later ih => exact ih (readable.change change)

end Dialect

namespace Condition

def comparison (dialect : Dialect) (mode : Mode) (position : Nat) (condition : Condition) :
    Comparison where
  position
  column := condition.column
  operator := condition.token
  operand := condition.opening ++ condition.operand dialect mode position ++ condition.closing

def alternatives (dialect : Dialect) (mode : Mode) : Nat → List Condition → List (List Comparison)
  | _, [] => []
  | position, [condition] => [[condition.comparison dialect mode position]]
  | position, condition :: next :: rest =>
      match condition.joint with
      | .and =>
          (alternatives dialect mode (position + 1) (next :: rest)).modifyHead
            (condition.comparison dialect mode position :: ·)
      | .or =>
          [condition.comparison dialect mode position] ::
            alternatives dialect mode (position + 1) (next :: rest)

end Condition

section Reading

variable {dialect : Dialect} {mode : Mode} {columns : FieldMap} {clause : Clause}
  {condition : Condition}

theorem isPlain_placeholder (style : PlaceholderStyle) (position : Nat) :
    IsPlain (style.placeholder position) := by
  have lead : IsPlain style.lead := by cases style <;> decide
  intro char member
  rw [PlaceholderStyle.placeholder, String.toList_append, List.mem_append] at member
  rcases member with isLead | isDigit
  · exact lead char isLead
  · rw [toList_toString] at isDigit
    have digit := isDigit_of_mem_toDigits isDigit
    constructor <;> rintro rfl <;> contradiction

theorem isPlain_of_isBareWord {value : String} (bare : isBareWord value = true) :
    IsPlain value := by
  rw [isBareWord, Bool.and_eq_true, List.all_eq_true] at bare
  intro char member
  have isWord := bare.2 char member
  constructor <;> rintro rfl <;> contradiction

/-- An operand is one word of a fragment, whatever value it carries. -/
theorem unbroken_operand (readable : dialect.IsReadable)
    (states : condition.States dialect columns clause) (position : Nat) :
    Place.Unbroken dialect.quotes .outside
      (condition.comparison dialect mode position).operand.toList .outside := by
  have middle : Place.Unbroken dialect.quotes .outside
      (condition.operand dialect mode position).toList .outside := by
    cases mode with
    | placeholder => exact (isPlain_placeholder dialect.placeholders position).unbroken _
    | inline =>
        rw [Condition.operand, Condition.literal]
        split
        · rename_i bare
          rw [Bool.and_eq_true] at bare
          exact (isPlain_of_isBareWord bare.2).unbroken _
        · exact .quote dialect.quotes condition.value
  rw [Condition.comparison, String.toList_append, String.toList_append, states.opening,
    states.closing]
  have before := (readable.opening clause.operator.kind).unbroken dialect.quotes
  have after := (readable.closing clause.operator.kind).unbroken dialect.quotes
  exact (before.append middle).append after

theorem readAlternatives?_operator {position : Nat} {column : List Char}
    {words : List (List Char)} (operator : isOperator words = true) (before : List (List Char))
    (more : List (List Char)) :
    readAlternatives? position (.afterColumn column before) (words ++ more) =
      readAlternatives? position (.afterOperator column (before ++ words)) more := by
  induction words generalizing before with
  | nil => contradiction
  | cons word rest ih =>
      cases rest with
      | nil =>
          rw [isOperator, Bool.not_eq_true'] at operator
          rw [List.singleton_append, readAlternatives?, operator, if_neg Bool.false_ne_true]
      | cons next rest =>
          rw [isOperator, Bool.and_eq_true] at operator
          rw [List.cons_append, readAlternatives?, if_pos operator.1, ih operator.2,
            List.append_assoc, List.singleton_append]

theorem operator_of_token {operator : Operator} {token : String} (readable : dialect.IsReadable)
    (known : dialect.token? operator = some token) :
    isOperator (Place.words dialect.quotes .outside token.toList) = true ∧
      Place.outside.behind dialect.quotes token.toList = .outside :=
  readable.operator (operator, token) (Dialect.mem_table_of_token? known)

theorem text_toList (condition : Condition) (position : Nat) :
    (condition.text dialect mode position).toList =
      condition.column.toList ++ ' ' :: (condition.token.toList ++ ' ' ::
        (condition.comparison dialect mode position).operand.toList) := by
  simp [Condition.text, Condition.comparison]

theorem readAlternatives?_condition (readable : dialect.IsReadable)
    (states : condition.States dialect columns clause) (position : Nat)
    (more : List (List Char)) :
    readAlternatives? position .start
        (condition.column.toList ::
          (Place.words dialect.quotes .outside condition.token.toList ++
            (condition.comparison dialect mode position).operand.toList :: more)) =
      readAlternatives? position (.complete (condition.comparison dialect mode position)) more := by
  have operator := (operator_of_token readable states.token).1
  rw [readAlternatives?, readAlternatives?_operator operator, readAlternatives?, List.nil_append,
    Place.intercalate_words, String.ofList_toList, String.ofList_toList, String.ofList_toList]
  rfl

theorem words_text (readable : dialect.IsReadable)
    (states : condition.States dialect columns clause) (plain : IsPlain condition.column)
    (position : Nat) :
    Place.words dialect.quotes .outside (condition.text dialect mode position).toList =
      condition.column.toList ::
        (Place.words dialect.quotes .outside condition.token.toList ++
          [(condition.comparison dialect mode position).operand.toList]) := by
  rw [text_toList, (plain.unbroken _).words_append_blank,
    Place.words_append_blank (operator_of_token readable states.token).2,
    (unbroken_operand readable states position).words_eq]

theorem words_text_append_blank (readable : dialect.IsReadable)
    (states : condition.States dialect columns clause) (plain : IsPlain condition.column)
    (position : Nat) (rest : List Char) :
    Place.words dialect.quotes .outside
        ((condition.text dialect mode position).toList ++ ' ' :: rest) =
      condition.column.toList ::
        (Place.words dialect.quotes .outside condition.token.toList ++
          (condition.comparison dialect mode position).operand.toList ::
            Place.words dialect.quotes .outside rest) := by
  rw [text_toList, List.append_assoc, List.cons_append, List.append_assoc, List.cons_append,
    (plain.unbroken _).words_append_blank,
    Place.words_append_blank (operator_of_token readable states.token).2,
    (unbroken_operand readable states position).words_append_blank]

theorem readAlternatives?_join {clauses : List Clause} {conditions : List Condition}
    (readable : dialect.IsReadable)
    (states : Condition.StateAll dialect columns clauses conditions)
    (plain : ∀ clause ∈ clauses, ∀ column ∈ columns.get? clause.field, IsPlain column)
    (nonempty : clauses ≠ []) (position : Nat) :
    readAlternatives? position .start
        (Place.words dialect.quotes .outside
          (Condition.join dialect mode position conditions).toList) =
      some (Condition.alternatives dialect mode position conditions) := by
  induction states generalizing position with
  | nil => contradiction
  | @cons clause condition clauses conditions first later ih =>
      have plainColumn : IsPlain condition.column := plain clause List.mem_cons_self _ first.column
      cases later with
      | nil =>
          rw [Condition.join, words_text readable first plainColumn,
            readAlternatives?_condition readable first]
          rfl
      | @cons next nextCondition clauses conditions second later =>
          have read := ih (fun clause member => plain clause (List.mem_cons_of_mem _ member))
            (by simp) (position + 1)
          have joint : IsPlain condition.joint.keyword := by cases condition.joint <;> decide
          have text : (Condition.join dialect mode position
              (condition :: nextCondition :: conditions)).toList =
                (condition.text dialect mode position).toList ++ ' ' ::
                  (condition.joint.keyword.toList ++ ' ' :: (Condition.join dialect mode
                    (position + 1) (nextCondition :: conditions)).toList) := by
            simp [Condition.join]
          rw [text, words_text_append_blank readable first plainColumn,
            (joint.unbroken _).words_append_blank, readAlternatives?_condition readable first,
            readAlternatives?, read, Condition.alternatives]
          cases condition.joint <;> rfl

/-- A compiled fragment is read as the conditions that its clauses become. -/
theorem readFragment?_ofConditions {clauses : List Clause} {conditions : List Condition}
    (readable : dialect.IsReadable)
    (states : Condition.StateAll dialect columns clauses conditions)
    (plain : ∀ clause ∈ clauses, ∀ column ∈ columns.get? clause.field, IsPlain column)
    (nonempty : clauses ≠ []) :
    dialect.readFragment? (CompiledFilter.ofConditions dialect mode conditions).fragment =
      some (Condition.alternatives dialect mode 1 conditions) := by
  cases states with
  | nil => contradiction
  | @cons clause condition clauses conditions first later =>
      have text :
          (CompiledFilter.ofConditions dialect mode (condition :: conditions)).fragment.toList =
            dialect.keyword.toList ++ ' ' ::
              (Condition.join dialect mode 1 (condition :: conditions)).toList := by
        simp [CompiledFilter.ofConditions]
      rw [Dialect.readFragment?, text, (readable.keyword.unbroken _).words_append_blank]
      simp only [if_true]
      exact readAlternatives?_join readable (.cons first later) plain nonempty 1

example : Dialect.aql.readFragment? "FILTER a == 1 AND b == 'x OR y' OR c =~ '.*z.*'" =
    some [[⟨1, "a", "==", "1"⟩, ⟨2, "b", "==", "'x OR y'"⟩], [⟨3, "c", "=~", "'.*z.*'"⟩]] := by
  rfl

end Reading

end ResourceFilter
