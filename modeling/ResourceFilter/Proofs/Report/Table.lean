import ResourceFilter.Proofs.Clause.Text
import ResourceFilter.Proofs.Text.Decimal
import ResourceFilter.Report.Clauses

/-!
The table of clauses. Its columns stay apart however wide they grow, so that the clauses can be
read back from the words of its rows.
-/

namespace ResourceFilter

def lineWords (line : List Char) : List String :=
  ((line.splitOnP isBlank).filter fun word => !word.isEmpty).map String.ofList

structure IsLineWord (text : String) : Prop where
  nonempty : text.toList ≠ []
  notBlank : ∀ char ∈ text.toList, isBlank char = false

theorem isLineWord_iff {text : String} :
    IsLineWord text ↔ text.toList ≠ [] ∧ text.toList.any isBlank = false := by
  simp only [List.any_eq_false, Bool.not_eq_true]
  exact ⟨fun word => ⟨word.nonempty, word.notBlank⟩, fun word => ⟨word.1, word.2⟩⟩

instance (text : String) : Decidable (IsLineWord text) :=
  decidable_of_iff _ isLineWord_iff.symm

namespace Clause

/-- Reads a clause from the words of a row: its number, its field, its symbol, its value and the
keyword of its combinator, if it has one. -/
def ofRow? : List String → Option Clause
  | [_, field, symbol, value] =>
      (Operator.ofSymbol? symbol).map fun operator => ⟨field, operator, value, none⟩
  | [_, field, symbol, value, "OR"] =>
      (Operator.ofSymbol? symbol).map fun operator => ⟨field, operator, value, some .or⟩
  | [_, field, symbol, value, "AND"] =>
      (Operator.ofSymbol? symbol).map fun operator => ⟨field, operator, value, some .and⟩
  | _ => none

def ofTable? (table : String) : Option (List Clause) :=
  ((table.toList.splitOn '\n').dropLast.drop 1).mapM fun line => ofRow? (lineWords line)

def rowWords (number : Nat) (clause : Clause) : List String :=
  [toString number, clause.field, clause.operator.symbol, clause.value] ++
    (clause.combinator.map Combinator.keyword).toList

end Clause

section Words

variable {rest : List Char}

theorem lineWords_blank_cons {char : Char} (blank : isBlank char = true) :
    lineWords (char :: rest) = lineWords rest := by
  rw [lineWords, List.splitOnP_cons_eq_if_modifyHead, if_pos blank]
  rfl

theorem lineWords_blank_append {blanks : List Char} (blank : ∀ char ∈ blanks, isBlank char = true) :
    lineWords (blanks ++ rest) = lineWords rest := by
  induction blanks with
  | nil => rfl
  | cons char blanks ih =>
      rw [List.cons_append, lineWords_blank_cons (blank char List.mem_cons_self),
        ih fun other member => blank other (List.mem_cons_of_mem _ member)]

theorem IsLineWord.lineWords_append {text : String} (word : IsLineWord text) {char : Char}
    (blank : isBlank char = true) :
    lineWords (text.toList ++ char :: rest) = text :: lineWords rest := by
  rw [lineWords, List.splitOnP_append_cons_of_forall_mem word.notBlank char blank]
  simp [lineWords, word.nonempty]

theorem IsLineWord.lineWords_eq {text : String} (word : IsLineWord text) :
    lineWords text.toList = [text] := by
  rw [lineWords, List.splitOnP_eq_singleton word.notBlank]
  simp [word.nonempty]

theorem IsLineWord.lineWords_padRight_append {text : String} (word : IsLineWord text)
    (width : Nat) : lineWords (padRight width text ++ ' ' :: rest) = text :: lineWords rest := by
  -- One blank at least stands behind the word, also where the text is wider than its column.
  have moved : padRight width text ++ ' ' :: rest =
      text.toList ++ ' ' :: (List.replicate (width - text.length) ' ' ++ rest) := by
    rw [padRight, List.append_assoc, ← List.cons_append, ← List.replicate_succ,
      List.replicate_succ', List.append_assoc, List.singleton_append]
  have blank : ∀ char ∈ List.replicate (width - text.length) ' ', isBlank char = true := by
    intro char member
    rw [List.eq_of_mem_replicate member]
    rfl
  rw [moved, word.lineWords_append (by rfl), lineWords_blank_append blank]

theorem splitOnP_append_of_blank (text : List Char) {blanks : List Char}
    (blank : ∀ char ∈ blanks, isBlank char = true) :
    (text ++ blanks).splitOnP isBlank =
      text.splitOnP isBlank ++ List.replicate blanks.length [] := by
  induction text with
  | nil =>
      induction blanks with
      | nil => rfl
      | cons char blanks ih =>
          have later := ih fun other member => blank other (List.mem_cons_of_mem _ member)
          rw [List.nil_append] at later ⊢
          rw [List.splitOnP_cons_eq_if_modifyHead, if_pos (blank char List.mem_cons_self), later]
          rfl
  | cons char text ih =>
      rw [List.cons_append, List.splitOnP_cons_eq_if_modifyHead,
        List.splitOnP_cons_eq_if_modifyHead, ih]
      split
      · rfl
      · cases split : text.splitOnP isBlank with
        | nil => exact absurd split (List.splitOnP_ne_nil isBlank text)
        | cons first more => rfl

theorem lineWords_append_blank (text : List Char) {blanks : List Char}
    (blank : ∀ char ∈ blanks, isBlank char = true) :
    lineWords (text ++ blanks) = lineWords text := by
  rw [lineWords, splitOnP_append_of_blank text blank]
  simp [lineWords]

theorem exists_blanks_trimEnd (text : List Char) :
    ∃ blanks, (∀ char ∈ blanks, isBlank char = true) ∧ text = trimEnd text ++ blanks := by
  refine ⟨(text.reverse.takeWhile isBlank).reverse, ?_, ?_⟩
  · intro char member
    exact List.all_eq_true.mp List.all_takeWhile char (List.mem_reverse.mp member)
  · rw [trimEnd, ← List.reverse_append, List.takeWhile_append_dropWhile, List.reverse_reverse]

theorem lineWords_trimEnd (text : List Char) : lineWords (trimEnd text) = lineWords text := by
  obtain ⟨blanks, blank, whole⟩ := exists_blanks_trimEnd text
  conv_rhs => rw [whole, lineWords_append_blank _ blank]

theorem mem_of_mem_trimEnd {text : List Char} {char : Char} (member : char ∈ trimEnd text) :
    char ∈ text := by
  obtain ⟨blanks, _, whole⟩ := exists_blanks_trimEnd text
  rw [whole]
  exact List.mem_append_left blanks member

theorem getLast?_trimEnd {text : List Char} :
    ∀ char ∈ (trimEnd text).getLast?, isBlank char = false := by
  intro char last
  rw [trimEnd, List.getLast?_reverse] at last
  have kept := List.head?_dropWhile_not isBlank text.reverse
  rw [last] at kept
  exact kept

theorem splitOn_lines {lines : List (List Char)} (whole : ∀ line ∈ lines, '\n' ∉ line) :
    (lines.flatMap fun line => line ++ ['\n']).splitOn '\n' = lines ++ [[]] := by
  rw [List.splitOn_eq_splitOnP]
  induction lines with
  | nil => rfl
  | cons line lines ih =>
      have plain : ∀ char ∈ line, (char == '\n') = false := by
        intro char member
        rw [beq_eq_false_iff_ne]
        rintro rfl
        exact whole line List.mem_cons_self member
      rw [List.flatMap_cons, List.append_assoc, List.singleton_append,
        List.splitOnP_append_cons_of_forall_mem plain '\n' (by rfl),
        ih fun other member => whole other (List.mem_cons_of_mem _ member)]
      rfl

theorem IsLineWord.notMem {text : String} (word : IsLineWord text) : '\n' ∉ text.toList := by
  intro member
  exact absurd (word.notBlank '\n' member) (by decide)

end Words

theorem isBlank_of_isWordChar {char : Char} (isWord : isWordChar char = true) :
    isBlank char = false := by
  rw [← Bool.not_eq_true, ← CharClass.of_eq_blank_iff, CharClass.of_eq_word_iff.mpr isWord]
  simp

theorem isLineWord_toString (number : Nat) : IsLineWord (toString number) := by
  constructor <;> rw [toList_toString]
  · exact Nat.toDigits_ne_nil
  · intro char member
    have digit := isDigit_of_mem_toDigits member
    exact isBlank_of_isWordChar (by simp [isWordChar, Char.isAlphanum, digit])

theorem isLineWord_symbol (operator : Operator) : IsLineWord operator.symbol := by
  cases operator <;> decide

theorem isLineWord_keyword (combinator : Combinator) : IsLineWord combinator.keyword := by
  cases combinator <;> decide

theorem IsFieldText.isLineWord {text : String} (isField : IsFieldText text) : IsLineWord text := by
  obtain ⟨nonempty, words, _⟩ := isFieldText_iff.mp isField
  exact ⟨nonempty, fun char member => isBlank_of_isWordChar (words char member)⟩

theorem IsValueText.isLineWord {text : String} (isValue : IsValueText text) : IsLineWord text := by
  obtain ⟨nonempty, words⟩ := isValueText_iff.mp isValue
  exact ⟨nonempty, fun char member => isBlank_of_isWordChar (words char member)⟩

namespace Clause

structure IsListable (clause : Clause) : Prop where
  field : IsLineWord clause.field
  value : IsLineWord clause.value

variable {clause : Clause} {clauses : List Clause}

theorem lineWords_tableRow (listable : clause.IsListable) (number : Nat) :
    lineWords (tableRow number clause).toList = clause.rowWords number := by
  rw [tableRow, String.toList_ofList, lineWords_trimEnd, tableLine, List.append_assoc,
    List.cons_append, List.append_assoc, List.cons_append, List.append_assoc, List.cons_append,
    (isLineWord_toString number).lineWords_padRight_append,
    listable.field.lineWords_padRight_append,
    (isLineWord_symbol clause.operator).lineWords_padRight_append,
    listable.value.lineWords_padRight_append, rowWords]
  cases clause.combinator with
  | none => rfl
  | some combinator =>
      rw [Option.map_some, Option.getD_some, (isLineWord_keyword combinator).lineWords_eq]
      rfl

theorem notMem_tableRow (listable : clause.IsListable) (number : Nat) :
    '\n' ∉ (tableRow number clause).toList := by
  have digits := (isLineWord_toString number).notMem
  have next : '\n' ∉ ((clause.combinator.map Combinator.keyword).getD "").toList := by
    cases clause.combinator with
    | none => decide
    | some combinator => exact (isLineWord_keyword combinator).notMem
  rw [tableRow, String.toList_ofList]
  generalize toString number = numeral at digits
  intro member
  have among := mem_of_mem_trimEnd member
  simp [tableLine, padRight, digits, listable.field.notMem,
    (isLineWord_symbol clause.operator).notMem, listable.value.notMem, next] at among

theorem ofRow?_rowWords (number : Nat) (clause : Clause) :
    ofRow? (clause.rowWords number) = some clause := by
  obtain ⟨field, operator, value, combinator⟩ := clause
  rcases combinator with _ | _ | _ <;>
    simp [rowWords, ofRow?, Combinator.keyword, Operator.ofSymbol?_symbol]

def rows (number : Nat) (clauses : List Clause) : List String :=
  (clauses.zipIdx number).map fun entry => tableRow entry.2 entry.1

theorem tableRows_eq_join (number : Nat) (clauses : List Clause) :
    tableRows number clauses = String.join ((rows number clauses).map (· ++ "\n")) := by
  induction clauses generalizing number with
  | nil => rfl
  | cons clause rest ih =>
      rw [tableRows, ih, rows, rows, List.zipIdx_cons, List.map_cons, List.map_cons,
        String.join_cons]

theorem table_eq_join (nonempty : clauses ≠ []) :
    table false clauses = String.join ((tableHeader :: rows 1 clauses).map (· ++ "\n")) := by
  cases clauses with
  | nil => contradiction
  | cons clause rest =>
      rw [List.map_cons, String.join_cons, ← tableRows_eq_join]
      rfl

theorem lineWords_rows (listable : ∀ clause ∈ clauses, clause.IsListable) (number : Nat) :
    (rows number clauses).map (fun row => lineWords row.toList) =
      (clauses.zipIdx number).map fun entry => entry.1.rowWords entry.2 := by
  rw [rows, List.map_map]
  apply List.map_congr_left
  intro entry member
  have here := listable entry.1 (List.fst_mem_of_mem_zipIdx member)
  rw [Function.comp_apply, lineWords_tableRow here]

theorem mapM_ofRow?_rowWords (number : Nat) (clauses : List Clause) :
    ((clauses.zipIdx number).map fun entry => entry.1.rowWords entry.2).mapM ofRow? =
      some clauses := by
  have each : (ofRow? ∘ fun entry : Clause × Nat => entry.1.rowWords entry.2) =
      fun entry => pure entry.1 := funext fun entry => ofRow?_rowWords entry.2 entry.1
  rw [List.mapM_map, each, List.mapM_pure, List.zipIdx_map_fst]
  rfl

theorem ofTable?_join {header : String} {rows : List String}
    (whole : ∀ line ∈ header :: rows, '\n' ∉ line.toList) :
    ofTable? (String.join ((header :: rows).map (· ++ "\n"))) =
      (rows.map fun row => lineWords row.toList).mapM ofRow? := by
  have text : (String.join ((header :: rows).map (· ++ "\n"))).toList =
      ((header :: rows).map String.toList).flatMap fun line => line ++ ['\n'] := by
    simp [String.toList_join, List.flatMap_map]
  have lines : ∀ line ∈ (header :: rows).map String.toList, '\n' ∉ line := by
    intro line member
    obtain ⟨row, among, rfl⟩ := List.mem_map.mp member
    exact whole row among
  rw [ofTable?, text, splitOn_lines lines, List.dropLast_concat, List.map_cons, List.drop_one,
    List.tail_cons]
  rw [List.mapM_map, List.mapM_map]
  rfl

end Clause

section Listing

variable {dialect : Dialect} {filter : String} {clauses : List Clause}

theorem isListable_of_parse (accepted : Clause.parse dialect filter = .ok clauses) :
    ∀ clause ∈ clauses, clause.IsListable := by
  obtain ⟨division, rfl⟩ := exists_division_of_parse accepted
  intro clause member
  exact ⟨(division.writable.field clause member).isLineWord,
    (division.writable.value clause member).isLineWord⟩

/-- The table of the clauses of a filter has a line for its head and one for each clause. The words
of the lines are the parts of the clauses, and the clauses can be read back from them. -/
theorem table_reads_back (dialect : Dialect) (filter : String) (clauses : List Clause)
    (accepted : Clause.parse dialect filter = .ok clauses) (nonempty : clauses ≠ []) :
    ∃ header rows,
      Clause.table false clauses = String.join ((header :: rows).map (· ++ "\n")) ∧
      rows.length = clauses.length ∧
      (∀ line ∈ header :: rows, '\n' ∉ line.toList ∧
        ∀ char ∈ line.toList.getLast?, isBlank char = false) ∧
      lineWords header.toList = ["#", "Field", "Op", "Value", "Then"] ∧
      rows.map (fun row => lineWords row.toList) =
        (clauses.zipIdx 1).map (fun entry => entry.1.rowWords entry.2) ∧
      Clause.ofTable? (Clause.table false clauses) = some clauses := by
  have listable := isListable_of_parse accepted
  have lines : ∀ line ∈ Clause.tableHeader :: Clause.rows 1 clauses, '\n' ∉ line.toList ∧
      ∀ char ∈ line.toList.getLast?, isBlank char = false := by
    intro line member
    rcases List.mem_cons.mp member with rfl | among
    · constructor
      · simp [Clause.tableHeader, Clause.tableLine, padRight]
      · rintro char ⟨⟩
        rfl
    · obtain ⟨entry, numbered, rfl⟩ := List.mem_map.mp among
      have here := listable entry.1 (List.fst_mem_of_mem_zipIdx numbered)
      refine ⟨Clause.notMem_tableRow here entry.2, ?_⟩
      rw [Clause.tableRow, String.toList_ofList]
      exact getLast?_trimEnd
  refine ⟨Clause.tableHeader, Clause.rows 1 clauses, Clause.table_eq_join nonempty, ?_, lines,
    by decide, Clause.lineWords_rows listable 1, ?_⟩
  · rw [Clause.rows, List.length_map, List.length_zipIdx]
  · rw [Clause.table_eq_join nonempty, Clause.ofTable?_join fun line member => (lines line member).1,
      Clause.lineWords_rows listable, Clause.mapM_ofRow?_rowWords]

theorem table_reads_back_wide :
    Clause.parse .postgres "a_field_of_more_than_twenty==1;b$>=2020" =
        .ok [⟨"a_field_of_more_than_twenty", .equal, "1", some .and⟩,
          ⟨"b", .dateGreaterOrEqual, "2020", none⟩] ∧
      Clause.ofTable? (Clause.table false
        [⟨"a_field_of_more_than_twenty", .equal, "1", some .and⟩,
          ⟨"b", .dateGreaterOrEqual, "2020", none⟩]) =
        some [⟨"a_field_of_more_than_twenty", .equal, "1", some .and⟩,
          ⟨"b", .dateGreaterOrEqual, "2020", none⟩] := by
  have accepted : Clause.parse .postgres "a_field_of_more_than_twenty==1;b$>=2020" =
      .ok [⟨"a_field_of_more_than_twenty", .equal, "1", some .and⟩,
        ⟨"b", .dateGreaterOrEqual, "2020", none⟩] := by rfl
  obtain ⟨_, _, _, _, _, _, _, readBack⟩ :=
    table_reads_back .postgres _ _ accepted (List.cons_ne_nil _ _)
  exact ⟨accepted, readBack⟩

end Listing

end ResourceFilter
