import ResourceFilter.Proofs.Fragment.Inline

/-!
Comments in fragments for SQL. Values between quotes start no comment, and neither does anything
that the dialect writes; a value without quotes starts one if it has two hyphens in a row.
-/

namespace ResourceFilter

def StartsComment (char next : Char) : Prop :=
  (char = '-' ∧ next = '-') ∨ (char = '/' ∧ next = '*')

instance (char next : Char) : Decidable (StartsComment char next) :=
  inferInstanceAs (Decidable ((char = '-' ∧ next = '-') ∨ (char = '/' ∧ next = '*')))

/-- Whether a reader of SQL meets the start of a comment outside of literals. The reader begins
inside of a literal or outside; inside, a mark written twice stands for one. -/
def meetsComment : (inside : Bool) → List Char → Bool
  | _, [] | _, [_] => false
  | false, char :: next :: rest =>
      if StartsComment char next then true
      else meetsComment (char = QuoteStyle.mark) (next :: rest)
  | true, char :: next :: rest =>
      if QuoteStyle.doubled.Escapes char next then meetsComment true rest
      else meetsComment (char ≠ QuoteStyle.mark) (next :: rest)

def Clause.IsDashed (clause : Clause) : Prop :=
  clause.operator.kind = .comparison ∧ IsValueText clause.value ∧
    ['-', '-'] <:+: clause.value.toList

def IsQuiet (text : String) : Prop :=
  ∀ char ∈ text.toList, char ≠ '-' ∧ char ≠ '/' ∧ char ≠ QuoteStyle.mark

instance (text : String) : Decidable (IsQuiet text) :=
  List.decidableBAll (fun char => char ≠ '-' ∧ char ≠ '/' ∧ char ≠ QuoteStyle.mark) text.toList

def IsPlainName (text : String) : Prop :=
  ∀ char ∈ text.toList, char.isAlphanum = true ∨ char = '_'

instance (text : String) : Decidable (IsPlainName text) :=
  List.decidableBAll (fun char : Char => char.isAlphanum = true ∨ char = '_') text.toList

theorem IsPlainName.isQuiet {text : String} (plain : IsPlainName text) : IsQuiet text := by
  intro char member
  have kind := plain char member
  refine ⟨?_, ?_, ?_⟩ <;> rintro rfl <;> revert kind <;> decide

section Scanning

variable {rest : List Char}

theorem meetsComment_cons {char : Char} (notMark : char ≠ QuoteStyle.mark)
    (quiet : ∀ next ∈ rest.head?, ¬StartsComment char next) :
    meetsComment false (char :: rest) = meetsComment false rest := by
  cases rest with
  | nil => rfl
  | cons next rest =>
      rw [meetsComment, if_neg (quiet next rfl), decide_eq_false notMark]

theorem not_startsComment {char next : Char} (notHyphen : char ≠ '-') (notSlash : char ≠ '/') :
    ¬StartsComment char next := by
  rintro (⟨hyphen, _⟩ | ⟨slash, _⟩)
  · exact notHyphen hyphen
  · exact notSlash slash

theorem meetsComment_quiet_append {text : List Char}
    (quiet : ∀ char ∈ text, char ≠ '-' ∧ char ≠ '/' ∧ char ≠ QuoteStyle.mark)
    (rest : List Char) : meetsComment false (text ++ rest) = meetsComment false rest := by
  induction text with
  | nil => rfl
  | cons char text ih =>
      obtain ⟨notHyphen, notSlash, notMark⟩ := quiet char List.mem_cons_self
      have later := ih fun other member => quiet other (List.mem_cons_of_mem _ member)
      rw [List.cons_append, meetsComment_cons notMark, later]
      exact fun _ _ => not_startsComment notHyphen notSlash

theorem meetsComment_word_append {word : List Char}
    (wordChars : ∀ char ∈ word, isWordChar char = true) (apart : rest.head? ≠ some '-') :
    meetsComment false (word ++ rest) = true ↔
      ['-', '-'] <:+: word ∨ meetsComment false rest = true := by
  induction word with
  | nil => simp
  | cons char word ih =>
      have later := ih fun other member => wordChars other (List.mem_cons_of_mem _ member)
      have isWord := wordChars char List.mem_cons_self
      have notSlash : char ≠ '/' := by
        rintro rfl
        contradiction
      have notMark : char ≠ QuoteStyle.mark := by
        rintro rfl
        contradiction
      -- Two hyphens in a row stand right here or further behind in the word.
      rw [List.cons_append, List.infix_cons_iff]
      by_cases dashes : ['-', '-'] <+: char :: word
      · obtain ⟨more, split⟩ := dashes
        rw [← List.cons_append, ← split]
        simp [meetsComment, StartsComment]
      · have quiet : ∀ next ∈ (word ++ rest).head?, ¬StartsComment char next := by
          rintro next isNext (⟨rfl, rfl⟩ | ⟨slash, _⟩)
          · cases word with
            | nil => exact apart isNext
            | cons other word =>
                cases isNext
                exact dashes ⟨word, rfl⟩
          · exact notSlash slash
        rw [meetsComment_cons notMark quiet, later]
        simp [dashes]

/-- Inside a literal no comment starts: the reader goes on where the literal ends. -/
theorem meetsComment_of_readInside? {text value : List Char}
    (read : QuoteStyle.doubled.readInside? text = some (value, rest)) :
    meetsComment true text = meetsComment false rest := by
  fun_induction QuoteStyle.readInside? .doubled text generalizing value with
  | case1 => contradiction
  | case2 =>
      cases read
      rfl
  | case3 => contradiction
  | case4 char next more escapes ih =>
      obtain ⟨⟨inner, behind⟩, found, same⟩ := Option.map_eq_some_iff.mp read
      cases same
      rw [meetsComment, if_pos escapes, ih found]
  | case5 next more alone =>
      cases read
      rw [meetsComment, if_neg alone]
      rfl
  | case6 char next more alone notMark ih =>
      obtain ⟨⟨inner, behind⟩, found, same⟩ := Option.map_eq_some_iff.mp read
      cases same
      rw [meetsComment, if_neg alone, decide_eq_true notMark, ih found]

theorem meetsComment_quote_append (value : String) (notMark : rest.head? ≠ some QuoteStyle.mark) :
    meetsComment false ((QuoteStyle.doubled.quote value).toList ++ rest) =
      meetsComment false rest := by
  have read := QuoteStyle.readInside?_escape_append .doubled value.toList notMark
  have notStart : ∀ next, ¬StartsComment QuoteStyle.mark next := by
    intro next
    exact not_startsComment (by decide) (by decide)
  rw [QuoteStyle.quote, String.toList_ofList, List.append_assoc, List.cons_append,
    List.singleton_append]
  cases escaped : QuoteStyle.doubled.escape value.toList ++ QuoteStyle.mark :: rest with
  | nil => simp at escaped
  | cons first more =>
      rw [escaped] at read
      rw [meetsComment, if_neg (notStart first), decide_eq_true rfl,
        meetsComment_of_readInside? read]

end Scanning

structure Dialect.WritesQuietly (dialect : Dialect) : Prop where
  keyword : IsQuiet dialect.keyword
  token : ∀ entry ∈ dialect.table, IsQuiet entry.2
  opening : ∀ kind, IsQuiet (dialect.opening kind)
  closing : ∀ kind, IsQuiet (dialect.closing kind)
  quotes : dialect.quotes = .doubled

theorem writesQuietly_postgres : Dialect.postgres.WritesQuietly := by
  constructor
  · decide
  · decide
  · intro kind
    cases kind <;> decide
  · intro kind
    cases kind <;> decide
  · rfl

theorem Dialect.WritesQuietly.derive {dialect : Dialect} (quiet : dialect.WritesQuietly)
    (changes : List Change) : (dialect.derive changes).WritesQuietly := by
  rw [dialect.derive_eq]
  refine ⟨quiet.keyword, ?_, quiet.opening, quiet.closing, quiet.quotes⟩
  intro entry member
  exact quiet.token entry (List.mem_of_mem_filter member)

section Fragments

variable {dialect : Dialect} {columns : FieldMap} {clause : Clause} {condition : Condition}
  {rest : List Char}

theorem meetsComment_operand_append (quiet : dialect.WritesQuietly)
    (states : condition.States dialect columns clause) (position : Nat)
    (apart : ∀ first ∈ rest.head?, first ≠ '-' ∧ first ≠ QuoteStyle.mark) :
    meetsComment false ((condition.operand dialect .inline position).toList ++
        (condition.closing.toList ++ rest)) = true ↔
      clause.IsDashed ∨ meetsComment false rest = true := by
  have closing : meetsComment false (condition.closing.toList ++ rest) =
      meetsComment false rest := by
    rw [states.closing]
    exact meetsComment_quiet_append (quiet.closing clause.operator.kind) rest
  have sameValue : clause.operator.kind = .comparison → clause.value = condition.value := by
    intro kind
    simpa [Clause.carried?, kind] using states.value
  rw [Condition.operand, Condition.literal]
  by_cases isBare : condition.bare && isBareWord condition.value
  · rw [if_pos isBare]
    rw [Bool.and_eq_true] at isBare
    have kind := states.bare.mp isBare.1
    have isWord := isBareWord_iff.mp isBare.2
    have noClosing : condition.closing.toList = [] := by
      rw [states.closing, kind]
      rfl
    have notHyphen : rest.head? ≠ some '-' := fun hyphen => (apart '-' hyphen).1 rfl
    rw [noClosing, List.nil_append,
      meetsComment_word_append (isValueText_iff.mp isWord).2 notHyphen]
    rw [← sameValue kind] at isWord ⊢
    simp [Clause.IsDashed, kind, isWord]
  · have notDashed : ¬clause.IsDashed := by
      rintro ⟨kind, isWord, _⟩
      rw [sameValue kind, ← isBareWord_iff] at isWord
      exact isBare (by simp [states.bare.mpr kind, isWord])
    have restApart : (String.ofList rest).toList.head? ≠ some QuoteStyle.mark := by
      rw [String.toList_ofList]
      exact fun mark => (apart QuoteStyle.mark mark).2 rfl
    have notMark : (condition.closing.toList ++ rest).head? ≠ some QuoteStyle.mark := by
      have behind : (dialect.closing clause.operator.kind ++ String.ofList rest).toList.head? ≠
          some QuoteStyle.mark := head?_closing_append restApart clause.operator.kind
      rwa [String.toList_append, String.toList_ofList, ← states.closing] at behind
    rw [if_neg isBare, quiet.quotes, meetsComment_quote_append _ notMark, closing]
    simp [notDashed]

theorem meetsComment_text_append (quiet : dialect.WritesQuietly)
    (states : condition.States dialect columns clause) (plain : IsQuiet condition.column)
    (position : Nat) (apart : ∀ first ∈ rest.head?, first ≠ '-' ∧ first ≠ QuoteStyle.mark) :
    meetsComment false ((condition.text dialect .inline position).toList ++ rest) = true ↔
      clause.IsDashed ∨ meetsComment false rest = true := by
  have token : IsQuiet condition.token :=
    quiet.token (clause.operator, condition.token) (Dialect.mem_table_of_token? states.token)
  have opening : IsQuiet condition.opening := by
    rw [states.opening]
    exact quiet.opening clause.operator.kind
  have blank : IsQuiet " " := by decide
  simp only [Condition.text, String.toList_append, List.append_assoc]
  rw [meetsComment_quiet_append plain, meetsComment_quiet_append blank,
    meetsComment_quiet_append token, meetsComment_quiet_append blank,
    meetsComment_quiet_append opening, meetsComment_operand_append quiet states position apart]

theorem meetsComment_join_append {clauses : List Clause} {conditions : List Condition}
    (quiet : dialect.WritesQuietly) (states : Condition.StateAll dialect columns clauses conditions)
    (plain : ∀ clause ∈ clauses, ∀ column ∈ columns.get? clause.field, IsQuiet column)
    (position : Nat) (apart : ∀ first ∈ rest.head?, first ≠ '-' ∧ first ≠ QuoteStyle.mark) :
    meetsComment false ((Condition.join dialect .inline position conditions).toList ++ rest) =
        true ↔
      (∃ clause ∈ clauses, clause.IsDashed) ∨ meetsComment false rest = true := by
  induction states generalizing position with
  | nil => simp [Condition.join]
  | @cons clause condition clauses conditions first later ih =>
      have plainColumn : IsQuiet condition.column :=
        plain clause List.mem_cons_self condition.column first.column
      cases later with
      | nil =>
          rw [Condition.join, meetsComment_text_append quiet first plainColumn position apart]
          simp
      | @cons next nextCondition clauses conditions second later =>
          have others := ih (fun other member => plain other (List.mem_cons_of_mem _ member))
            (position + 1)
          have joint : IsQuiet (" " ++ condition.joint.keyword ++ " ") := by
            cases condition.joint <;> decide
          have whole : (Condition.join dialect .inline position
              (condition :: nextCondition :: conditions)).toList ++ rest =
                (condition.text dialect .inline position).toList ++
                  ((" " ++ condition.joint.keyword ++ " ").toList ++
                    ((Condition.join dialect .inline (position + 1)
                      (nextCondition :: conditions)).toList ++ rest)) := by
            simp [Condition.join]
          rw [whole,
            meetsComment_text_append quiet first plainColumn position (by simp [QuoteStyle.mark]),
            meetsComment_quiet_append joint, others]
          simp [or_assoc]

theorem meetsComment_fragment_append {clauses : List Clause} {conditions : List Condition}
    (quiet : dialect.WritesQuietly)
    (states : Condition.StateAll dialect columns clauses conditions)
    (plain : ∀ clause ∈ clauses, ∀ column ∈ columns.get? clause.field, IsQuiet column)
    (rest : List Char) (apart : ∀ first ∈ rest.head?, first ≠ '-' ∧ first ≠ QuoteStyle.mark) :
    meetsComment false
        ((CompiledFilter.ofConditions dialect .inline conditions).fragment.toList ++ rest) = true ↔
      (∃ clause ∈ clauses, clause.IsDashed) ∨ meetsComment false rest = true := by
  cases conditions with
  | nil =>
      cases states
      simp [CompiledFilter.ofConditions, CompiledFilter.empty]
  | cons condition conditions =>
      have blank : IsQuiet " " := by decide
      simp only [CompiledFilter.ofConditions, String.toList_append, List.append_assoc]
      rw [meetsComment_quiet_append quiet.keyword, meetsComment_quiet_append blank,
        meetsComment_join_append quiet states plain 1 apart]

/-- A comment starts in a fragment for SQL just if a value without quotes has two hyphens in a row.
All other fragments leave what stands behind them as it is. -/
theorem fragment_meetsComment_iff (changes : List Dialect.Change) (columns : FieldMap)
    (clauses : List Clause) (compiled : CompiledFilter)
    (plain : ∀ clause ∈ clauses, ∀ column ∈ columns.get? clause.field, IsPlainName column)
    (accepted : CompiledFilter.ofClauses? (Dialect.postgres.derive changes) .inline columns clauses =
      .ok compiled) :
    (meetsComment false compiled.fragment.toList = true ↔ ∃ clause ∈ clauses, clause.IsDashed) ∧
    ∀ more : String, (∀ first ∈ more.toList.head?, first ≠ '-' ∧ first ≠ QuoteStyle.mark) →
      meetsComment false (compiled.fragment ++ more).toList =
        (meetsComment false compiled.fragment.toList || meetsComment false more.toList) := by
  have quiet := writesQuietly_postgres.derive changes
  have quietColumns : ∀ clause ∈ clauses, ∀ column ∈ columns.get? clause.field, IsQuiet column :=
    fun clause member column isColumn => (plain clause member column isColumn).isQuiet
  obtain ⟨conditions, rfl, states⟩ := CompiledFilter.exists_conditions accepted
  have followed := meetsComment_fragment_append quiet states quietColumns
  have alone := followed [] (by simp)
  rw [List.append_nil] at alone
  have nothing : meetsComment false [] = false := rfl
  rw [nothing] at alone
  refine ⟨by simpa using alone, ?_⟩
  intro more apart
  rw [String.toList_append, Bool.eq_iff_iff, followed more.toList apart, Bool.or_eq_true, alone]
  simp

theorem fragment_meetsComment_iff_hyphen :
    CompiledFilter.ofClauses? (Dialect.postgres.derive []) .inline (.ofList [("age", "age")])
        [⟨"age", .less, "-5", none⟩] = .ok ⟨"WHERE age < -5", []⟩ ∧
      (meetsComment false "WHERE age < -5".toList = true ↔
        ∃ clause ∈ [(⟨"age", .less, "-5", none⟩ : Clause)], clause.IsDashed) ∧
      meetsComment false ("WHERE age < -5" ++ " -- rest").toList =
        (meetsComment false "WHERE age < -5".toList || meetsComment false " -- rest".toList) := by
  have accepted : CompiledFilter.ofClauses? (Dialect.postgres.derive []) .inline
      (.ofList [("age", "age")]) [⟨"age", .less, "-5", none⟩] = .ok ⟨"WHERE age < -5", []⟩ := by
    rfl
  obtain ⟨alone, followed⟩ :=
    fragment_meetsComment_iff [] (.ofList [("age", "age")]) _ _ (by decide) accepted
  exact ⟨accepted, alone, followed " -- rest" (by simp [QuoteStyle.mark])⟩

/-- A value that ends in two hyphens takes the next condition away. -/
theorem fragment_meetsComment_of_hyphens :
    ∃ clauses, Clause.parse .postgres "name==x--;age>30" = .ok clauses ∧
      (∀ clause ∈ clauses,
        ∀ column ∈ (NameMap.ofList [("name", "name"), ("age", "age")]).get? clause.field,
          IsPlainName column) ∧
      CompiledFilter.ofClauses? .postgres .inline (.ofList [("name", "name"), ("age", "age")])
        clauses = .ok ⟨"WHERE name = x-- AND age > 30", []⟩ ∧
      meetsComment false "WHERE name = x-- AND age > 30".toList = true :=
  ⟨[⟨"name", .equal, "x--", some .and⟩, ⟨"age", .greater, "30", none⟩], by rfl, by decide, by rfl,
    by decide⟩

end Fragments

end ResourceFilter
