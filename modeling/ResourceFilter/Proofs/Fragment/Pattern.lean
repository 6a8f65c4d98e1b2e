import ResourceFilter.Proofs.Dialect.Literal
import ResourceFilter.Proofs.Dialect.Matching
import ResourceFilter.Proofs.Fragment.Refusal
import ResourceFilter.Proofs.Fragment.Sequence

/-!
What a backend gets for the patterns of a filter. Whatever the value of a pattern operator is, the
pattern that arrives at the backend matches the texts that contain the value, and no others.
-/

namespace ResourceFilter

namespace CompiledFilter

def front? (dialect : Dialect) (mode : Mode) (columns : FieldMap) (earlier : List Clause) :
    Except FilterError String :=
  match earlier.getLast? with
  | none => .ok (dialect.keyword ++ " ")
  | some last =>
      (ofClauses? dialect mode columns earlier).map fun compiled =>
        compiled.fragment ++ " " ++ (last.combinator.getD .and).keyword ++ " "

/-- Holds of the text that a backend gets for the operand of a clause that stands behind others: the
value bound in its place, or what it reads at the literal behind the column and the token. -/
def Receives (dialect : Dialect) (columns : FieldMap) (earlier : List Clause) (clause : Clause)
    (compiled : CompiledFilter) : Mode → String → Prop
  | .placeholder, text => compiled.binds[earlier.length]? = some text
  | .inline, text => ∃ front column token rest behind,
      front? dialect .inline columns earlier = .ok front ∧
      columns.get? clause.field = some column ∧ dialect.token? clause.operator = some token ∧
      compiled.fragment = front ++ column ++ " " ++ token ++ " " ++ rest ∧
      dialect.quotes.readLiteral? rest.toList = some (text, behind)

section Receiving

variable {dialect : Dialect} {mode : Mode} {columns : FieldMap} {earlier later : List Clause}
  {clause : Clause} {compiled : CompiledFilter}

theorem front?_eq_ok {before : List Condition}
    (made : Condition.ofClauses? dialect columns earlier = .ok before) :
    front? dialect mode columns earlier =
      .ok (dialect.keyword ++ " " ++ Condition.lead dialect mode 1 before) := by
  rcases List.eq_nil_or_concat earlier with rfl | ⟨others, last, rfl⟩
  · cases made
    simp [front?, Condition.lead]
  · rw [List.concat_eq_append] at made ⊢
    obtain ⟨first, final, madeFirst, madeFinal, rfl⟩ := Condition.ofClauses?_append_eq_ok.mp made
    obtain ⟨condition, _, madeLast, madeNil, rfl⟩ := Condition.ofClauses?_cons_eq_ok.mp madeFinal
    cases madeNil
    have states := Condition.states_of_ofClause? madeLast
    have nonempty : first ++ [condition] ≠ [] := by simp
    have compiles := ofClauses?_eq_ok_iff.mpr
      ⟨_, made, (ofConditions_of_ne_nil dialect mode nonempty).symm⟩
    rw [front?, List.getLast?_concat, Condition.lead_concat, states.joint]
    simp only [compiles, Except.map, String.append_assoc]

theorem Receives.unique {text other : String}
    (receives : Receives dialect columns earlier clause compiled mode text)
    (again : Receives dialect columns earlier clause compiled mode other) : text = other := by
  cases mode with
  | placeholder => exact Option.some.inj (receives.symm.trans again)
  | inline =>
      obtain ⟨front, column, token, rest, behind, isFront, isColumn, isToken, whole, read⟩ :=
        receives
      obtain ⟨_, _, _, _, _, sameFront, sameColumn, sameToken, sameWhole, readAgain⟩ := again
      cases isFront.symm.trans sameFront
      cases isColumn.symm.trans sameColumn
      cases isToken.symm.trans sameToken
      rw [whole, String.append_right_inj] at sameWhole
      rw [← sameWhole, read] at readAgain
      exact (Prod.mk.inj (Option.some.inj readAgain)).1

theorem exists_text_append_eq_join (dialect : Dialect) (mode : Mode) (position : Nat)
    (condition : Condition) (after : List Condition) :
    ∃ rest, Condition.join dialect mode position (condition :: after) =
        condition.text dialect mode position ++ rest ∧
      rest.toList.head? ≠ some QuoteStyle.mark := by
  cases after with
  | nil => exact ⟨"", by simp [Condition.join], by decide⟩
  | cons next more =>
      refine ⟨" " ++ condition.joint.keyword ++ " " ++
        Condition.join dialect mode (position + 1) (next :: more), ?_, ?_⟩
      · simp only [Condition.join, String.append_assoc]
      · simp [QuoteStyle.mark]

theorem receives_of_inline {condition : Condition} {before after : List Condition}
    (made : Condition.ofClauses? dialect columns earlier = .ok before)
    (states : condition.States dialect columns clause)
    (isPattern : clause.operator.kind = .pattern) :
    Receives dialect columns earlier clause
      (ofConditions dialect .inline (before ++ condition :: after)) .inline condition.value := by
  have quoted : ¬condition.bare = true := by
    rw [states.bare, isPattern]
    simp
  have opening : condition.opening = "" := by
    rw [states.opening, isPattern]
    rfl
  have closing : condition.closing = "" := by
    rw [states.closing, isPattern]
    rfl
  -- Another mark behind the literal would be read as a part of it where marks are doubled.
  obtain ⟨rest, joined, notMark⟩ :=
    exists_text_append_eq_join dialect .inline (1 + before.length) condition after
  refine ⟨_, condition.column, condition.token, dialect.quotes.quote condition.value ++ rest,
    rest.toList, front?_eq_ok made, states.column, states.token, ?_, ?_⟩
  · rw [ofConditions_of_ne_nil _ _ (by simp), Condition.join_append before (List.cons_ne_nil _ _),
      joined]
    simp [Condition.text, Condition.operand, Condition.literal, quoted, opening, closing,
      String.append_assoc]
  · rw [String.toList_append]
    exact QuoteStyle.readLiteral?_quote_append _ _ notMark

theorem receives_wrap (isPattern : clause.operator.kind = .pattern)
    (accepted : ofClauses? dialect mode columns (earlier ++ clause :: later) = .ok compiled) :
    Receives dialect columns earlier clause compiled mode (dialect.patterns.wrap clause.value) := by
  obtain ⟨conditions, made, rfl⟩ := ofClauses?_eq_ok_iff.mp accepted
  obtain ⟨before, _, madeEarlier, madeLater, rfl⟩ := Condition.ofClauses?_append_eq_ok.mp made
  obtain ⟨condition, after, madeClause, _, rfl⟩ := Condition.ofClauses?_cons_eq_ok.mp madeLater
  have states := Condition.states_of_ofClause? madeClause
  have carried : dialect.patterns.wrap clause.value = condition.value := by
    simpa [Clause.carried?, isPattern] using states.value
  rw [carried]
  cases mode with
  | inline => exact receives_of_inline madeEarlier states isPattern
  | placeholder =>
      have sameLength := (Condition.states_of_ofClauses? madeEarlier).length_eq
      rw [ofConditions_of_ne_nil _ _ (by simp), Receives, sameLength]
      simp

theorem exists_compiled_of_isPattern (builtin : dialect ∈ Dialect.builtin)
    (isPattern : clause.operator.kind = .pattern) (mapped : columns.get? clause.field ≠ none) :
    ∃ compiled, ofClauses? dialect mode columns [clause] = .ok compiled := by
  cases made : Condition.ofClauses? dialect columns [clause] with
  | ok conditions => exact ⟨_, ofClauses?_eq_ok_iff.mpr ⟨conditions, made, rfl⟩⟩
  | error error =>
      have supported := Dialect.supports_of_mem_builtin builtin clause.operator
      rw [Dialect.supports, Option.isSome_iff_ne_none] at supported
      rcases Condition.ofClauses?_cons_eq_error_iff.mp made with refused | ⟨_, nothing⟩
      · cases refused with
        | unmapped unmapped => exact absurd unmapped mapped
        | unsupported _ unsupported => exact absurd unsupported supported
        | misdated _ _ misdated => simp [Clause.IsMisdated, isPattern] at misdated
      · cases nothing

/-- The pattern that a backend gets for a value, in either mode and behind any other clauses, has
no reserved characters but for what `items?` reads, and matches the texts that contain the value. -/
theorem received_matches_iff_contains (dialect : Dialect) (mode : Mode) (columns : FieldMap)
    (clause : Clause)
    (isPattern : clause.operator ∈
      [Operator.matching, .notMatching, .containing, .notContaining]) :
    (dialect ∈ Dialect.builtin → columns.get? clause.field ≠ none →
      ∃ compiled, ofClauses? dialect mode columns [clause] = .ok compiled) ∧
    ∀ earlier later compiled,
      ofClauses? dialect mode columns (earlier ++ clause :: later) = .ok compiled →
      (∃ pattern, Receives dialect columns earlier clause compiled mode pattern) ∧
      ∀ pattern, Receives dialect columns earlier clause compiled mode pattern →
        (dialect.patterns.items? pattern.toList).isSome = true ∧
        ∀ text, dialect.patterns.Matches pattern text ↔ clause.value.toList <:+: text.toList := by
  have kind : clause.operator.kind = .pattern := by
    simp only [List.mem_cons, List.not_mem_nil, or_false] at isPattern
    rcases isPattern with same | same | same | same <;> rw [same] <;> rfl
  refine ⟨fun builtin mapped => exists_compiled_of_isPattern builtin kind mapped, ?_⟩
  intro earlier later compiled accepted
  have receives := receives_wrap kind accepted
  refine ⟨⟨_, receives⟩, ?_⟩
  intro pattern receivesPattern
  rw [receivesPattern.unique receives, PatternStyle.items?_wrap]
  exact ⟨rfl, PatternStyle.wrap_matches_iff _ _⟩

theorem received_matches_iff_contains_dot :
    Operator.containing ∈ [Operator.matching, .notMatching, .containing, .notContaining] ∧
      ofClauses? .aql .inline (.ofList [("file", "doc.file"), ("size", "doc.size")])
          ([⟨"size", .less, "9", none⟩] ++ ⟨"file", .containing, "o'b.c", none⟩ :: []) =
        .ok ⟨"FILTER doc.size < 9 AND doc.file =~ '.*o\\'b\\\\.c.*'", []⟩ ∧
      ∃ pattern, Receives .aql (.ofList [("file", "doc.file"), ("size", "doc.size")])
          [⟨"size", .less, "9", none⟩] ⟨"file", .containing, "o'b.c", none⟩
          ⟨"FILTER doc.size < 9 AND doc.file =~ '.*o\\'b\\\\.c.*'", []⟩ .inline pattern ∧
        PatternStyle.regex.Matches pattern "to'b.cx" ∧
        ¬PatternStyle.regex.Matches pattern "to'bxcx" := by
  have isPattern : Operator.containing ∈
      [Operator.matching, .notMatching, .containing, .notContaining] := by decide
  have accepted : ofClauses? .aql .inline (.ofList [("file", "doc.file"), ("size", "doc.size")])
      ([⟨"size", .less, "9", none⟩] ++ ⟨"file", .containing, "o'b.c", none⟩ :: []) =
        .ok ⟨"FILTER doc.size < 9 AND doc.file =~ '.*o\\'b\\\\.c.*'", []⟩ := by rfl
  refine ⟨isPattern, accepted, ?_⟩
  obtain ⟨⟨pattern, receives⟩, means⟩ :=
    (received_matches_iff_contains _ _ _ _ isPattern).2 _ _ _ accepted
  have matchesIff := (means pattern receives).2
  refine ⟨pattern, receives, (matchesIff _).mpr ?_, mt (matchesIff _).mp (by decide +kernel)⟩
  exact ⟨['t'], ['x'], by rfl⟩

end Receiving

end CompiledFilter

end ResourceFilter
