import ResourceFilter.Proofs.Fragment.Conditions
import ResourceFilter.Proofs.Report.Colorless
import ResourceFilter.Proofs.Run.Creation
import ResourceFilter.Proofs.Schema.Extension

/-!
What has colors in a compiled filter. The words of a dialect have none, and neither have values;
so a fragment has them only if its columns do.
-/

namespace ResourceFilter

namespace Dialect

structure IsUncolored (dialect : Dialect) : Prop where
  keyword : IsColorless dialect.keyword
  token : ∀ entry ∈ dialect.table, IsColorless entry.2
  opening : ∀ kind, IsColorless (dialect.opening kind)
  closing : ∀ kind, IsColorless (dialect.closing kind)

theorem isUncolored_builtin : ∀ dialect ∈ builtin, dialect.IsUncolored := by
  intro dialect member
  rw [builtin, List.mem_cons, List.mem_singleton] at member
  rcases member with rfl | rfl
  all_goals
    refine ⟨by decide, by decide, ?_, ?_⟩ <;> intro kind <;> cases kind <;> decide

theorem IsUncolored.adapt {dialect : Dialect} (uncolored : dialect.IsUncolored)
    (denied : List Operator) (mode : Option Mode) :
    (Context.adapt dialect denied mode).IsUncolored := by
  have token : ∀ entry ∈ (dialect.without denied).table, IsColorless entry.2 :=
    fun entry member => uncolored.token entry (List.mem_of_mem_filter member)
  cases mode with
  | none => exact ⟨uncolored.keyword, token, uncolored.opening, uncolored.closing⟩
  | some mode => exact ⟨uncolored.keyword, token, uncolored.opening, uncolored.closing⟩

theorem fades_operatorTable {dialect : Dialect} (uncolored : dialect.IsUncolored)
    (colors : Bool) : Fades (dialect.operatorTable colors) (dialect.operatorTable false) := by
  have line {symbol kind token : String} (first : IsColorless symbol) (second : IsColorless kind)
      (third : IsColorless token) : IsColorless (tableLine symbol kind token) := by
    rw [IsColorless] at third
    rw [tableLine, IsColorless.ofList_iff]
    simp [notMem_padRight, first, second, third]
  have header : IsColorless (tableLine "Op" "Kind" "Token") :=
    line (by decide) (by decide) (by decide)
  have label (kind : Operator.Kind) : IsColorless kind.label := by cases kind <;> decide
  have row (entry : Operator × String) (member : entry ∈ dialect.table) :
      IsColorless (tableLine entry.1.symbol entry.1.kind.label entry.2 ++ "\n") := by
    rw [IsColorless.append_iff]
    exact ⟨line entry.1.isColorless_symbol (label _) (uncolored.token entry member), by decide⟩
  refine ((Fades.emphasis .dimmed colors header).append (.of_isColorless (by decide))).append ?_
  apply Fades.of_isColorless
  rw [IsColorless.join_iff, List.forall_mem_map]
  exact row

end Dialect

section Values

variable {value : String}

theorem PlaceholderStyle.isColorless_placeholder (style : PlaceholderStyle) (position : Nat) :
    IsColorless (style.placeholder position) := by
  have lead : IsColorless style.lead := by cases style <;> decide
  rw [placeholder, IsColorless.append_iff]
  exact ⟨lead, .toString position⟩

theorem notMem_flatMap {text : List Char} {write : Char → List Char} (clean : '\x1b' ∉ text)
    (keeps : ∀ char ≠ '\x1b', '\x1b' ∉ write char) : '\x1b' ∉ text.flatMap write := by
  intro member
  obtain ⟨char, isChar, written⟩ := List.mem_flatMap.mp member
  exact keeps char (fun same => clean (same ▸ isChar)) written

theorem QuoteStyle.isColorless_quote (style : QuoteStyle) (colorless : IsColorless value) :
    IsColorless (style.quote value) := by
  have keeps : ∀ char ≠ '\x1b', '\x1b' ∉ style.escapeChar char := by
    intro char differs
    cases style <;> rw [escapeChar] <;> split <;> simp [differs.symm, mark]
  have escaped : '\x1b' ∉ style.escape value.toList := notMem_flatMap colorless keeps
  rw [quote, IsColorless.ofList_iff]
  simp [escaped, mark]

theorem PatternStyle.isColorless_wrap (style : PatternStyle) (colorless : IsColorless value) :
    IsColorless (style.wrap value) := by
  have keeps : ∀ char ≠ '\x1b',
      '\x1b' ∉ if style.specials.contains char then ['\\', char] else [char] := by
    intro char differs
    split <;> simp [differs.symm]
  have escaped : '\x1b' ∉ style.escape value.toList := notMem_flatMap colorless keeps
  have around : '\x1b' ∉ style.anything := by cases style <;> decide
  rw [wrap, IsColorless.ofList_iff]
  simp [escaped, around]

theorem CalendarDate.isColorless_iso (date : CalendarDate) : IsColorless date.iso := by
  have digit (number : Nat) : '\x1b' ≠ lastDigit number := by
    have digits : ∀ digit < 10, '\x1b' ≠ Nat.digitChar digit := by decide
    exact digits (number % 10) (Nat.mod_lt number (by decide))
  rw [iso, IsColorless.ofList_iff]
  simp [fourDigits, twoDigits, digit]

theorem Clause.isColorless_carried {dialect : Dialect} {clause : Clause} {text : String}
    (colorless : IsColorless clause.value) (carries : clause.carried? dialect = some text) :
    IsColorless text := by
  rw [carried?] at carries
  split at carries
  · cases carries
    exact colorless
  · cases carries
    exact colorless
  · cases carries
    exact dialect.patterns.isColorless_wrap colorless
  · obtain ⟨literal, _, rfl⟩ := Option.map_eq_some_iff.mp carries
    cases dialect.dates with
    | function name => exact colorless
    | cast type => exact literal.date.isColorless_iso

end Values

namespace Condition

structure IsUncolored (condition : Condition) : Prop where
  column : IsColorless condition.column
  token : IsColorless condition.token
  opening : IsColorless condition.opening
  value : IsColorless condition.value
  closing : IsColorless condition.closing

variable {dialect : Dialect} {mode : Mode}

theorem States.isUncolored {columns : FieldMap} {clause : Clause} {condition : Condition}
    (states : condition.States dialect columns clause) (uncolored : dialect.IsUncolored)
    (value : IsColorless clause.value)
    (column : ∀ column ∈ columns.get? clause.field, IsColorless column) :
    condition.IsUncolored where
  column := column _ states.column
  token := uncolored.token _ (Dialect.mem_table_of_token? states.token)
  opening := states.opening ▸ uncolored.opening _
  value := Clause.isColorless_carried value states.value
  closing := states.closing ▸ uncolored.closing _

theorem isColorless_text {condition : Condition} (uncolored : condition.IsUncolored)
    (position : Nat) : IsColorless (condition.text dialect mode position) := by
  have operand : IsColorless (condition.operand dialect mode position) := by
    cases mode with
    | placeholder => exact dialect.placeholders.isColorless_placeholder position
    | inline =>
        simp only [Condition.operand, literal]
        split
        · exact uncolored.value
        · exact dialect.quotes.isColorless_quote uncolored.value
  simp only [text, IsColorless.append_iff, uncolored.column, uncolored.token, uncolored.opening,
    operand, uncolored.closing]
  decide

theorem isColorless_join {conditions : List Condition}
    (uncolored : ∀ condition ∈ conditions, condition.IsUncolored) (position : Nat) :
    IsColorless (join dialect mode position conditions) := by
  induction conditions generalizing position with
  | nil => simp [join, IsColorless]
  | cons condition rest ih =>
      obtain ⟨first, later⟩ := List.forall_mem_cons.mp uncolored
      cases rest with
      | nil => exact isColorless_text first position
      | cons next rest =>
          simp only [join, IsColorless.append_iff, isColorless_text first position,
            condition.joint.isColorless_keyword, ih later (position + 1)]
          decide

end Condition

namespace CompiledFilter

variable {dialect : Dialect} {compiled : CompiledFilter}

structure IsUncolored (compiled : CompiledFilter) : Prop where
  fragment : IsColorless compiled.fragment
  binds : ∀ value ∈ compiled.binds, IsColorless value

theorem isUncolored_ofConditions {conditions : List Condition} (words : dialect.IsUncolored)
    (uncolored : ∀ condition ∈ conditions, condition.IsUncolored) (mode : Mode) :
    (ofConditions dialect mode conditions).IsUncolored := by
  cases conditions with
  | nil => constructor <;> simp [ofConditions, empty, IsColorless]
  | cons condition rest =>
      constructor
      · simp only [ofConditions, IsColorless.append_iff, words.keyword,
          Condition.isColorless_join uncolored 1]
        decide
      · cases mode with
        | inline => simp [ofConditions]
        | placeholder =>
            rw [ofConditions, List.forall_mem_map]
            exact fun other member => (uncolored other member).value

theorem isUncolored_of_build {schema : Schema} {filter : String} (words : dialect.IsUncolored)
    (columns : ∀ field, IsColorless field → IsColorless (schema.column field))
    (built : build dialect schema filter = .ok compiled) : compiled.IsUncolored := by
  obtain ⟨clauses, read, checked⟩ := Except.bind_eq_ok built
  obtain ⟨_, allowed, made⟩ := Except.bind_eq_ok checked
  obtain ⟨conditions, rfl, states⟩ := exists_conditions made
  have clean := Clause.isUncolored_of_parse read
  have mapped : ∀ field, IsColorless field →
      ∀ column ∈ schema.columnMap.get? field, IsColorless column := by
    intro field colorless column found
    rw [Schema.get?_columnMap] at found
    split at found
    · cases found
      exact columns field colorless
    · cases found
  have uncolored : List.Forall₂ (fun condition clause => condition.IsUncolored ∧
      Condition.States dialect schema.columnMap clause condition) conditions clauses := by
    apply List.Forall₂.flip
    refine ((List.forall₂_and_left _ _).mpr ⟨clean, states⟩).imp ?_
    rintro clause condition ⟨isClean, stated⟩
    exact ⟨stated.isUncolored words isClean.value (mapped _ isClean.field), stated⟩
  exact isUncolored_ofConditions words ((List.forall₂_and_left _ _).mp uncolored).1 _

theorem fades_bindLines {values : List String} (colorless : ∀ value ∈ values, IsColorless value)
    (colors : Bool) (position : Nat) :
    Fades (bindLines dialect colors position values) (bindLines dialect false position values) := by
  induction values generalizing position with
  | nil => exact .of_isColorless (by simp [bindLines, IsColorless])
  | cons value rest ih =>
      obtain ⟨first, later⟩ := List.forall_mem_cons.mp colorless
      have label : IsColorless
          (String.ofList (padRight 5 (dialect.placeholders.placeholder position))) := by
        rw [IsColorless.ofList_iff]
        exact notMem_padRight (dialect.placeholders.isColorless_placeholder position) 5
      have line : Fades (bindLine dialect colors position value)
          (bindLine dialect false position value) :=
        ((((Fades.of_isColorless (by decide)).append (.emphasis .dimmed colors label)).append
          (.of_isColorless (by decide))).append (.of_isColorless first)).append
            (.of_isColorless (by decide))
      exact line.append (ih later (position + 1))

theorem fades_text (uncolored : compiled.IsUncolored) (colors : Bool) :
    Fades (compiled.text dialect colors) (compiled.text dialect false) := by
  rw [text, text]
  split
  · exact .of_isColorless (by decide)
  · exact ((Fades.emphasis .bold colors uncolored.fragment).append
      (.of_isColorless (by decide))).append (fades_bindLines uncolored.binds colors 1)

end CompiledFilter

end ResourceFilter
