import ResourceFilter.Proofs.Fragment.Sequence
import ResourceFilter.Proofs.Text.Decimal
import ResourceFilter.Report.Compiled

/-!
Placeholders in fragments. Reading them from left to right gives the positions of the conditions
they stand in, and the listing of the bound values names each of them by the same number.
-/

namespace ResourceFilter

namespace PlaceholderStyle

def sigil : PlaceholderStyle → Char
  | dollar => '$'
  | atSign => '@'

def digitRun? (text : List Char) : Option String :=
  let run := text.takeWhile Char.isDigit
  if run = [] then none else some (String.ofList run)

def numeral? : PlaceholderStyle → List Char → Option String
  | dollar, '$' :: rest => digitRun? rest
  | atSign, '@' :: 'v' :: rest => digitRun? rest
  | _, _ => none

def numerals (style : PlaceholderStyle) : List Char → List String
  | [] => []
  | char :: rest => (style.numeral? (char :: rest)).toList ++ numerals style rest

def entry (style : PlaceholderStyle) (numeral value : String) : String :=
  "  " ++ String.ofList ((style.lead ++ numeral).toList.rightpad 5 ' ') ++ " " ++ value ++ "\n"

variable {style : PlaceholderStyle} {rest : List Char}

theorem numeral?_cons_of_ne_sigil {char : Char} (other : char ≠ style.sigil) :
    style.numeral? (char :: rest) = none := by
  unfold numeral?
  split
  · rename_i same
    exact absurd (List.cons.inj same).1 other
  · rename_i same
    exact absurd (List.cons.inj same).1 other
  · rfl

theorem numerals_append {text : List Char} (clean : style.sigil ∉ text) (rest : List Char) :
    style.numerals (text ++ rest) = style.numerals rest := by
  induction text with
  | nil => rfl
  | cons char text ih =>
      obtain ⟨other, later⟩ := List.ne_and_not_mem_of_not_mem_cons clean
      rw [List.cons_append, numerals, numeral?_cons_of_ne_sigil other.symm, ih later]
      rfl

theorem numerals_eq_nil {text : List Char} (clean : style.sigil ∉ text) :
    style.numerals text = [] := by
  have none := numerals_append clean []
  rw [List.append_nil] at none
  exact none

theorem digitRun?_append_blank_cons (text rest : List Char) :
    digitRun? (text ++ ' ' :: rest) = digitRun? text := by
  have run : (text ++ ' ' :: rest).takeWhile Char.isDigit = text.takeWhile Char.isDigit := by
    induction text with
    | nil => rfl
    | cons char text ih => rw [List.cons_append, List.takeWhile_cons, List.takeWhile_cons, ih]
  rw [digitRun?, digitRun?, run]

theorem numeral?_append_blank_cons (style : PlaceholderStyle) (text rest : List Char) :
    style.numeral? (text ++ ' ' :: rest) = style.numeral? text := by
  have notSigil : ' ' ≠ style.sigil := by cases style <;> decide
  cases text with
  | nil =>
      rw [List.nil_append, numeral?_cons_of_ne_sigil notSigil]
      cases style <;> rfl
  | cons char text =>
      by_cases other : char = style.sigil
      · subst other
        cases style with
        | dollar => exact digitRun?_append_blank_cons text rest
        | atSign =>
            cases text with
            | nil => rfl
            | cons second text =>
                by_cases letter : second = 'v'
                · subst letter
                  exact digitRun?_append_blank_cons text rest
                · simp [numeral?, sigil, letter]
      · rw [List.cons_append, numeral?_cons_of_ne_sigil other, numeral?_cons_of_ne_sigil other]

theorem numerals_append_blank_cons (text rest : List Char) :
    style.numerals (text ++ ' ' :: rest) = style.numerals text ++ style.numerals rest := by
  induction text with
  | nil =>
      have blank : style.sigil ∉ [' '] := by cases style <;> decide
      exact numerals_append blank rest
  | cons char text ih =>
      have here := style.numeral?_append_blank_cons (char :: text) rest
      rw [List.cons_append] at here
      rw [List.cons_append, numerals, numerals, ih, here, List.append_assoc]

theorem digitRun?_toString_append (position : Nat)
    (ends : ∀ char ∈ rest.head?, char.isDigit = false) :
    digitRun? ((toString position).toList ++ rest) = some (toString position) := by
  have run : (Nat.toDigits 10 position ++ rest).takeWhile Char.isDigit =
      Nat.toDigits 10 position := by
    rw [List.takeWhile_append_of_pos fun _ member => isDigit_of_mem_toDigits member]
    cases rest with
    | nil => simp
    | cons char rest => simp [ends char rfl]
  rw [digitRun?, toList_toString, run, if_neg Nat.toDigits_ne_nil]
  rfl

theorem sigil_notMem_toString (style : PlaceholderStyle) (position : Nat) :
    style.sigil ∉ (toString position).toList := by
  rw [toList_toString]
  intro member
  have isDigit := isDigit_of_mem_toDigits member
  cases style <;> contradiction

/-- A placeholder that no digit follows is read as the number it was written for. -/
theorem numerals_placeholder_append (style : PlaceholderStyle) (position : Nat)
    (ends : ∀ char ∈ rest.head?, char.isDigit = false) :
    style.numerals ((style.placeholder position).toList ++ rest) =
      toString position :: style.numerals rest := by
  have run := digitRun?_toString_append position ends
  have clean := style.sigil_notMem_toString position
  cases style with
  | dollar =>
      have text : (dollar.placeholder position).toList ++ rest =
          '$' :: ((toString position).toList ++ rest) := by
        simp [placeholder, lead]
      rw [text, numerals, numeral?, run, numerals_append clean]
      rfl
  | atSign =>
      have text : (atSign.placeholder position).toList ++ rest =
          '@' :: 'v' :: ((toString position).toList ++ rest) := by
        simp [placeholder, lead]
      have letter : numeral? .atSign ('v' :: ((toString position).toList ++ rest)) = none :=
        numeral?_cons_of_ne_sigil (by decide)
      rw [text, numerals, numeral?, run, numerals, letter, numerals_append clean]
      rfl

end PlaceholderStyle

structure Dialect.SparesSigil (dialect : Dialect) : Prop where
  keyword : dialect.placeholders.sigil ∉ dialect.keyword.toList
  token : ∀ entry ∈ dialect.table, dialect.placeholders.sigil ∉ entry.2.toList
  opening : ∀ kind, dialect.placeholders.sigil ∉ (dialect.opening kind).toList
  closing : ∀ kind, dialect.placeholders.sigil ∉ (dialect.closing kind).toList

theorem sparesSigil_builtin : ∀ dialect ∈ Dialect.builtin, dialect.SparesSigil := by
  intro dialect member
  rw [Dialect.builtin, List.mem_cons, List.mem_singleton] at member
  rcases member with rfl | rfl <;> constructor
  · decide
  · decide
  · intro kind
    cases kind <;> decide
  · intro kind
    cases kind <;> decide
  · decide
  · decide
  · intro kind
    cases kind <;> decide
  · intro kind
    cases kind <;> decide

theorem Dialect.SparesSigil.derive {dialect : Dialect} (spares : dialect.SparesSigil)
    (changes : List Change) : (dialect.derive changes).SparesSigil := by
  rw [dialect.derive_eq]
  refine ⟨spares.keyword, ?_, spares.opening, spares.closing⟩
  intro entry member
  exact spares.token entry (List.mem_of_mem_filter member)

/-- Holds of the texts that state clauses in their order, when just one placeholder stands in the
condition of each of them and its number is the position of the clause. -/
inductive StatedNumbered (dialect : Dialect) (columns : FieldMap) : Nat → List Clause → String → Prop
  | last {position : Nat} {clause : Clause} {column token operand : String} :
      columns.get? clause.field = some column → dialect.token? clause.operator = some token →
      dialect.placeholders.numerals (column ++ " " ++ token ++ " " ++ operand).toList =
        [toString position] →
      StatedNumbered dialect columns position [clause] (column ++ " " ++ token ++ " " ++ operand)
  | more {position : Nat} {clause next : Clause} {later : List Clause}
      {column token operand rest : String} :
      columns.get? clause.field = some column → dialect.token? clause.operator = some token →
      dialect.placeholders.numerals (column ++ " " ++ token ++ " " ++ operand).toList =
        [toString position] →
      StatedNumbered dialect columns (position + 1) (next :: later) rest →
      StatedNumbered dialect columns position (clause :: next :: later)
        (column ++ " " ++ token ++ " " ++ operand ++
          (" " ++ (clause.combinator.getD .and).keyword ++ " " ++ rest))

section Numbering

variable {dialect : Dialect} {columns : FieldMap} {clauses : List Clause}
  {conditions : List Condition}

theorem isDigit_head?_closing (dialect : Dialect) (kind : Operator.Kind) :
    ∀ char ∈ (dialect.closing kind).toList.head?, char.isDigit = false := by
  cases kind with
  | comparison | string | pattern => simp [Dialect.closing]
  | date => cases dates : dialect.dates <;> simp [Dialect.closing, dates]

theorem numerals_text (spares : dialect.SparesSigil) {clause : Clause} {condition : Condition}
    (states : condition.States dialect columns clause)
    (clean : dialect.placeholders.sigil ∉ condition.column.toList) (position : Nat) :
    dialect.placeholders.numerals (condition.text dialect .placeholder position).toList =
      [toString position] := by
  have token := spares.token (clause.operator, condition.token)
    (Dialect.mem_table_of_token? states.token)
  have blank : dialect.placeholders.sigil ∉ " ".toList := by
    cases dialect.placeholders <;> decide
  have opening := spares.opening clause.operator.kind
  have closing := spares.closing clause.operator.kind
  have behind := isDigit_head?_closing dialect clause.operator.kind
  simp only [Condition.text, Condition.operand, String.toList_append, List.append_assoc]
  rw [states.opening, states.closing, PlaceholderStyle.numerals_append clean,
    PlaceholderStyle.numerals_append blank, PlaceholderStyle.numerals_append token,
    PlaceholderStyle.numerals_append blank, PlaceholderStyle.numerals_append opening,
    PlaceholderStyle.numerals_placeholder_append _ _ behind,
    PlaceholderStyle.numerals_eq_nil closing]

theorem statedNumbered_join (spares : dialect.SparesSigil)
    (states : Condition.StateAll dialect columns clauses conditions) (nonempty : clauses ≠ [])
    (clean : ∀ clause ∈ clauses, ∀ column ∈ columns.get? clause.field,
      dialect.placeholders.sigil ∉ column.toList) (position : Nat) :
    StatedNumbered dialect columns position clauses
      (Condition.join dialect .placeholder position conditions) := by
  -- The position grows with each condition, so it stays free in the induction over them.
  induction states generalizing position with
  | nil => contradiction
  | @cons clause condition clauses conditions first later ih =>
      have cleanColumn := clean clause List.mem_cons_self _ first.column
      have numeral := numerals_text spares first cleanColumn position
      have text : condition.text dialect .placeholder position =
          condition.column ++ " " ++ condition.token ++ " " ++
            (condition.opening ++ condition.operand dialect .placeholder position ++
              condition.closing) := by
        simp [Condition.text, String.append_assoc]
      rw [text] at numeral
      cases later with
      | nil =>
          rw [Condition.join, text]
          exact .last first.column first.token numeral
      | @cons next nextCondition clauses conditions second later =>
          have others := ih (by simp)
            (fun other member => clean other (List.mem_cons_of_mem _ member)) (position + 1)
          have whole := StatedNumbered.more first.column first.token numeral others
          rw [← first.joint, ← text] at whole
          simpa [Condition.join, String.append_assoc] using whole

theorem StatedNumbered.numerals_eq {position : Nat} {text : String}
    (stated : StatedNumbered dialect columns position clauses text) :
    dialect.placeholders.numerals text.toList =
      (List.range' position clauses.length).map toString := by
  induction stated with
  | last _ _ numeral => exact numeral
  | @more position clause next later column token operand rest _ _ numeral _ ih =>
      -- The blank in front of the keyword ends the placeholder of the first condition.
      have split : (column ++ " " ++ token ++ " " ++ operand ++
          (" " ++ (clause.combinator.getD .and).keyword ++ " " ++ rest)).toList =
            (column ++ " " ++ token ++ " " ++ operand).toList ++
              ' ' :: (((clause.combinator.getD .and).keyword ++ " ").toList ++ rest.toList) := by
        simp
      have joint : dialect.placeholders.sigil ∉
          ((clause.combinator.getD .and).keyword ++ " ").toList := by
        cases dialect.placeholders <;> cases clause.combinator.getD .and <;> decide
      have positions : List.range' position (clause :: next :: later).length =
          position :: List.range' (position + 1) (next :: later).length := List.range'_succ
      rw [split, PlaceholderStyle.numerals_append_blank_cons, numeral,
        PlaceholderStyle.numerals_append joint, ih, positions, List.map_cons,
        List.singleton_append]

theorem CompiledFilter.bindLines_eq_join (position : Nat) (values : List String) :
    bindLines dialect false position values =
      String.join (List.zipWith dialect.placeholders.entry
        ((List.range' position values.length).map toString) values) := by
  induction values generalizing position with
  | nil => rfl
  | cons value rest ih =>
      rw [bindLines, ih, List.length_cons, List.range'_succ, List.map_cons, List.zipWith_cons_cons,
        String.join_cons]
      rfl

theorem numerals_ofConditions (spares : dialect.SparesSigil)
    (states : Condition.StateAll dialect columns clauses conditions)
    (clean : ∀ clause ∈ clauses, ∀ column ∈ columns.get? clause.field,
      dialect.placeholders.sigil ∉ column.toList) :
    dialect.placeholders.numerals
        (CompiledFilter.ofConditions dialect .placeholder conditions).fragment.toList =
      (List.range' 1 clauses.length).map toString := by
  cases conditions with
  | nil =>
      cases states
      rfl
  | cons condition conditions =>
      have nonempty : clauses ≠ [] := by
        rintro rfl
        cases states
      have stated := statedNumbered_join spares states nonempty clean 1
      have lead : dialect.placeholders.sigil ∉ (dialect.keyword ++ " ").toList := by
        rw [String.toList_append, List.mem_append, not_or]
        exact ⟨spares.keyword, by cases dialect.placeholders <;> decide⟩
      rw [CompiledFilter.ofConditions, String.toList_append,
        PlaceholderStyle.numerals_append lead, stated.numerals_eq]

theorem length_binds_ofConditions (states : Condition.StateAll dialect columns clauses conditions) :
    (CompiledFilter.ofConditions dialect .placeholder conditions).binds.length =
      clauses.length := by
  cases states with
  | nil => rfl
  | cons first later => simp [CompiledFilter.ofConditions, later.length_eq]

/-- The placeholders of a fragment are numbered from one on, each by the position of the condition
that it stands in, and its bound value is listed beside it. -/
theorem fragment_numbers_placeholders (base : Dialect) (changes : List Dialect.Change)
    (columns : FieldMap) (clauses : List Clause) (compiled : CompiledFilter)
    (builtin : base ∈ Dialect.builtin)
    (clean : ∀ clause ∈ clauses, ∀ column ∈ columns.get? clause.field,
      (base.derive changes).placeholders.sigil ∉ column.toList)
    (accepted : CompiledFilter.ofClauses? (base.derive changes) .placeholder columns clauses =
      .ok compiled) :
    (base.derive changes).placeholders.numerals compiled.fragment.toList =
        (List.range' 1 clauses.length).map toString ∧
      compiled.binds.length = clauses.length ∧
      (clauses ≠ [] →
        (∃ body, compiled.fragment = (base.derive changes).keyword ++ " " ++ body ∧
          StatedNumbered (base.derive changes) columns 1 clauses body) ∧
        compiled.text (base.derive changes) false =
          compiled.fragment ++ "\n" ++
            String.join (List.zipWith (base.derive changes).placeholders.entry
              ((base.derive changes).placeholders.numerals compiled.fragment.toList)
              compiled.binds)) := by
  have spares := (sparesSigil_builtin base builtin).derive changes
  generalize base.derive changes = dialect at clean accepted spares ⊢
  obtain ⟨conditions, rfl, states⟩ := CompiledFilter.exists_conditions accepted
  have numerals := numerals_ofConditions spares states clean
  have bindCount := length_binds_ofConditions states
  refine ⟨numerals, bindCount, ?_⟩
  intro nonempty
  rw [numerals, ← bindCount, ← CompiledFilter.bindLines_eq_join]
  cases conditions with
  | nil =>
      cases states
      contradiction
  | cons condition conditions =>
      refine ⟨⟨_, rfl, statedNumbered_join spares states nonempty clean 1⟩, ?_⟩
      have shown : CompiledFilter.isEmpty
          (CompiledFilter.ofConditions dialect .placeholder (condition :: conditions)) = false := by
        simp [CompiledFilter.isEmpty, CompiledFilter.ofConditions]
      rw [CompiledFilter.text, shown]
      rfl

theorem fragment_numbers_placeholders_date :
    Dialect.aql ∈ Dialect.builtin ∧
      (∀ clause ∈ [(⟨"age", .less, "9", some .or⟩ : Clause), ⟨"born", .dateEqual, "2020", none⟩],
        ∀ column ∈ (NameMap.ofList [("age", "doc.age"), ("born", "v$1")]).get? clause.field,
          (Dialect.aql.derive [.mode .placeholder]).placeholders.sigil ∉ column.toList) ∧
      CompiledFilter.ofClauses? (Dialect.aql.derive [.mode .placeholder]) .placeholder
          (.ofList [("age", "doc.age"), ("born", "v$1")])
          [⟨"age", .less, "9", some .or⟩, ⟨"born", .dateEqual, "2020", none⟩] =
        .ok ⟨"FILTER doc.age < @v1 OR v$1 == DATE_ISO8601(@v2)", ["9", "2020"]⟩ ∧
      PlaceholderStyle.atSign.numerals
          "FILTER doc.age < @v1 OR v$1 == DATE_ISO8601(@v2)".toList = ["1", "2"] ∧
      CompiledFilter.text (Dialect.aql.derive [.mode .placeholder]) false
          ⟨"FILTER doc.age < @v1 OR v$1 == DATE_ISO8601(@v2)", ["9", "2020"]⟩ =
        "FILTER doc.age < @v1 OR v$1 == DATE_ISO8601(@v2)\n  @v1   9\n  @v2   2020\n" := by
  have clean : ∀ clause ∈ [(⟨"age", .less, "9", some .or⟩ : Clause),
      ⟨"born", .dateEqual, "2020", none⟩],
      ∀ column ∈ (NameMap.ofList [("age", "doc.age"), ("born", "v$1")]).get? clause.field,
        (Dialect.aql.derive [.mode .placeholder]).placeholders.sigil ∉ column.toList := by decide
  have accepted : CompiledFilter.ofClauses? (Dialect.aql.derive [.mode .placeholder]) .placeholder
      (.ofList [("age", "doc.age"), ("born", "v$1")])
      [⟨"age", .less, "9", some .or⟩, ⟨"born", .dateEqual, "2020", none⟩] =
        .ok ⟨"FILTER doc.age < @v1 OR v$1 == DATE_ISO8601(@v2)", ["9", "2020"]⟩ := by rfl
  obtain ⟨numerals, _, listed⟩ :=
    fragment_numbers_placeholders .aql [.mode .placeholder] _ _ _ (by decide) clean accepted
  refine ⟨by decide, clean, accepted, numerals, ?_⟩
  rw [(listed (List.cons_ne_nil _ _)).2]
  rfl

end Numbering

end ResourceFilter
