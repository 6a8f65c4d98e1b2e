import ResourceFilter.Program
import ResourceFilter.Proofs.Report.Color
import ResourceFilter.Proofs.Report.Table

/-!
What has colors in listings. JSON never has any; a text has them only as emphasis, unless they
come with the texts that it shows.
-/

namespace ResourceFilter

namespace Json

theorem notMem_escapeChar (char : Char) : '\x1b' ∉ escapeChar char := by
  have digits : ∀ number < 16, hexDigit number ≠ '\x1b' := by decide
  unfold escapeChar
  split_ifs with _ _ _ _ _ _ _ control
  all_goals try decide
  · have low := digits (char.toNat / 16) (by omega)
    have high := digits (char.toNat % 16) (by omega)
    simp [low.symm, high.symm]
  · rw [List.mem_singleton]
    rintro rfl
    exact control (by decide)

theorem notMem_quoted (text : String) : '\x1b' ∉ quoted text := by
  simp [quoted, notMem_escapeChar]

theorem notMem_newLine (depth : Nat) : '\x1b' ∉ newLine depth := by
  simp [newLine]

mutual

theorem notMem_write (depth : Nat) (value : Json) : '\x1b' ∉ write depth value := by
  cases value with
  | string text => exact notMem_quoted text
  | number value =>
      intro member
      exact absurd (isDigit_of_mem_toDigits member) (by decide)
  | boolean value => cases value <;> simp [write]
  | array items =>
      cases items with
      | nil => simp [write]
      | cons item rest =>
          simp [write, notMem_newLine, notMem_write (depth + 1) item,
            notMem_writeItems (depth + 1) rest]
  | object members =>
      cases members with
      | nil => simp [write]
      | cons member rest =>
          obtain ⟨name, value⟩ := member
          simp [write, notMem_newLine, notMem_quoted, notMem_write (depth + 1) value,
            notMem_writeMembers (depth + 1) rest]

theorem notMem_writeItems (depth : Nat) (items : List Json) :
    '\x1b' ∉ writeItems depth items := by
  cases items with
  | nil => simp [writeItems]
  | cons item rest =>
      simp [writeItems, notMem_newLine, notMem_write depth item, notMem_writeItems depth rest]

theorem notMem_writeMembers (depth : Nat) (members : List (String × Json)) :
    '\x1b' ∉ writeMembers depth members := by
  cases members with
  | nil => simp [writeMembers]
  | cons member rest =>
      obtain ⟨name, value⟩ := member
      simp [writeMembers, notMem_newLine, notMem_quoted, notMem_write depth value,
        notMem_writeMembers depth rest]

end

theorem isColorless_pretty (value : Json) : IsColorless value.pretty := by
  rw [pretty, IsColorless.ofList_iff]
  exact notMem_write 0 value

end Json

theorem notMem_padRight {text : String} (colorless : IsColorless text) (width : Nat) :
    '\x1b' ∉ padRight width text := by
  rw [IsColorless] at colorless
  simp [padRight, colorless]

theorem IsValueText.isColorless {text : String} (isValue : IsValueText text) :
    IsColorless text := by
  obtain ⟨_, words⟩ := isValueText_iff.mp isValue
  intro member
  exact absurd (words _ member) (by decide)

theorem IsFieldText.isColorless {text : String} (isField : IsFieldText text) :
    IsColorless text := by
  obtain ⟨_, words, _⟩ := isFieldText_iff.mp isField
  intro member
  exact absurd (words _ member) (by decide)

theorem Operator.isColorless_symbol (operator : Operator) : IsColorless operator.symbol := by
  cases operator <;> decide

theorem Combinator.isColorless_keyword (combinator : Combinator) :
    IsColorless combinator.keyword := by
  cases combinator <;> decide

namespace Clause

structure IsUncolored (clause : Clause) : Prop where
  field : IsColorless clause.field
  value : IsColorless clause.value

theorem isUncolored_of_parse {dialect : Dialect} {filter : String} {clauses : List Clause}
    (accepted : Clause.parse dialect filter = .ok clauses) :
    ∀ clause ∈ clauses, clause.IsUncolored := by
  obtain ⟨division, rfl⟩ := exists_division_of_parse accepted
  intro clause member
  exact ⟨(division.writable.field clause member).isColorless,
    (division.writable.value clause member).isColorless⟩

theorem isColorless_tableRow {clause : Clause} (uncolored : clause.IsUncolored) (number : Nat) :
    IsColorless (tableRow number clause) := by
  have next : IsColorless ((clause.combinator.map Combinator.keyword).getD "") := by
    cases clause.combinator with
    | none => decide
    | some combinator => exact combinator.isColorless_keyword
  have numeral := notMem_padRight (.toString number) 3
  rw [IsColorless] at next
  rw [tableRow, IsColorless.ofList_iff]
  intro member
  have among := mem_of_mem_trimEnd member
  generalize toString number = digits at numeral among
  simp [tableLine, numeral, notMem_padRight, uncolored.field, uncolored.value,
    clause.operator.isColorless_symbol, next] at among

theorem isColorless_tableRows {clauses : List Clause}
    (uncolored : ∀ clause ∈ clauses, clause.IsUncolored) (number : Nat) :
    IsColorless (tableRows number clauses) := by
  induction clauses generalizing number with
  | nil => simp [tableRows, IsColorless]
  | cons clause rest ih =>
      obtain ⟨first, later⟩ := List.forall_mem_cons.mp uncolored
      rw [tableRows, IsColorless.append_iff, IsColorless.append_iff]
      exact ⟨⟨isColorless_tableRow first number, by decide⟩, ih later (number + 1)⟩

theorem fades_table {clauses : List Clause} (uncolored : ∀ clause ∈ clauses, clause.IsUncolored)
    (colors : Bool) : Fades (table colors clauses) (table false clauses) := by
  cases clauses with
  | nil =>
      have text : IsColorless "No clauses.\n" := by decide
      exact .of_isColorless text
  | cons clause rest =>
      have header : IsColorless tableHeader := by decide
      have rows := isColorless_tableRows uncolored 1
      exact ((Fades.emphasis .dimmed colors header).append (.of_isColorless (by decide))).append
        (.of_isColorless rows)

end Clause

def Schema.texts (schema : Schema) : List String :=
  schema.fields ++ schema.columns.entries.flatMap fun (field, column) => [field, column]

namespace Settings

def texts (settings : Settings) : List String :=
  settings.dialect.toList ++
    settings.resources.entries.flatMap fun (name, schema) => name :: schema.texts

theorem isColorless_resourceText {name : String} {schema : Schema}
    (named : IsColorless name) (colorless : ∀ text ∈ schema.texts, IsColorless text) :
    IsColorless (resourceText name schema) := by
  obtain ⟨fields, columns⟩ := List.forall_mem_append.mp colorless
  have list : IsColorless (", ".intercalate schema.fields) := .intercalate (by decide) fields
  have lines : IsColorless (String.join (schema.columns.entries.map fun (field, column) =>
      "  " ++ field ++ " -> " ++ column ++ "\n")) := by
    rw [IsColorless.join_iff, List.forall_mem_map]
    intro entry member
    have field : IsColorless entry.1 := columns _ (List.mem_flatMap.mpr ⟨entry, member, by simp⟩)
    have column : IsColorless entry.2 := columns _ (List.mem_flatMap.mpr ⟨entry, member, by simp⟩)
    simp only [IsColorless.append_iff, field, column]
    decide
  unfold resourceText
  simp only [IsColorless.append_iff, named, list, lines]
  decide

theorem isColorless_text {settings : Settings}
    (colorless : ∀ text ∈ settings.texts, IsColorless text) : IsColorless settings.text := by
  obtain ⟨dialect, resources⟩ := List.forall_mem_append.mp colorless
  have shown : ∀ entry ∈ settings.resources.entries,
      IsColorless (resourceText entry.1 entry.2) := by
    intro entry member
    apply isColorless_resourceText
    · exact resources _ (List.mem_flatMap.mpr ⟨entry, member, by simp⟩)
    · intro text isText
      exact resources text (List.mem_flatMap.mpr ⟨entry, member, by simp [isText]⟩)
  rw [text, IsColorless.append_iff, IsColorless.append_iff, IsColorless.join_iff,
    List.forall_mem_map]
  refine ⟨⟨by decide, ?_⟩, shown⟩
  cases named : settings.dialect with
  | none => decide
  | some name =>
      have plain : IsColorless name := dialect name (by simp [named])
      simp only [IsColorless.append_iff, plain]
      decide

theorem fades_report {settings : Settings}
    (colorless : ∀ text ∈ settings.texts, IsColorless text) {path : String}
    (pathColorless : IsColorless path) (colors fileExists : Bool) :
    Fades (settings.report colors path fileExists) (settings.report false path fileExists) := by
  have existence : IsColorless (if fileExists then "true" else "false") := by
    cases fileExists <;> decide
  have body : IsColorless (if fileExists then settings.text
      else "(No config file exists. Run 'afq config init' to create one.)\n") := by
    split
    · exact isColorless_text colorless
    · decide
  have heading : IsColorless "Configuration" := by decide
  simp only [report, String.append_assoc]
  refine (Fades.emphasis .heading colors heading).append (.of_isColorless ?_)
  simp only [IsColorless.append_iff, pathColorless, existence, body]
  decide

end Settings

theorem Context.isColorless_checkText (clauses : List Clause) :
    IsColorless (checkText clauses) := by
  rw [checkText, IsColorless.append_iff, IsColorless.append_iff]
  exact ⟨⟨by decide, .toString _⟩, by decide⟩

theorem Context.isColorless_creationText {path : String} (colorless : IsColorless path)
    (created : Bool) : IsColorless (creationText path created) := by
  rw [creationText]
  split <;> simp only [IsColorless.append_iff, colorless] <;> decide

end ResourceFilter
