import ResourceFilter.Clause
import ResourceFilter.Dialect
import ResourceFilter.FilterError
import ResourceFilter.Token

/-!
Reading a filter. A filter is a sequence of terms `field operator value`, each followed by a
combinator; after the last term the combinator may be left out. There is no grouping and no
precedence.
-/

namespace ResourceFilter

inductive TermStage
  | start
  | afterField (field : String)
  | afterOperator (field : String) (operator : Operator)
  | afterValue (field : String) (operator : Operator) (value : String)
  deriving DecidableEq, Repr

def TermStage.expected : TermStage → String
  | start => "a field name"
  | afterField _ => "an operator"
  | afterOperator _ _ => "a value"
  | afterValue _ _ _ => "',' or ';'"

def isFieldWord (word : String) : Bool :=
  !word.toList.contains '-'

def Token.misplaced (token : Token) (stage : TermStage) : FilterError :=
  .malformed token.position stage.expected ("'" ++ token.lexeme.text ++ "'")

namespace TermStage

def step (dialect : Dialect) (stage : TermStage) (token : Token) :
    Except FilterError (TermStage × Option Clause) :=
  match stage, token.lexeme with
  | start, .word word =>
      if isFieldWord word then .ok (afterField word, none) else .error (token.misplaced stage)
  | afterField field, .symbol symbol =>
      match dialect.operator? symbol with
      | some operator => .ok (afterOperator field operator, none)
      | none => .error (.unsupportedOperator symbol)
  | afterOperator field operator, .word word => .ok (afterValue field operator word, none)
  | afterValue field operator value, .combinator which =>
      .ok (start, some ⟨field, operator, value, some which⟩)
  | _, _ => .error (token.misplaced stage)

def finish (stop : Nat) : TermStage → Except FilterError (List Clause)
  | start => .ok []
  | afterValue field operator value => .ok [⟨field, operator, value, none⟩]
  | stage => .error (.malformed stop stage.expected "end of input")

end TermStage

namespace Clause

/-- Reads clauses from tokens, starting in the midst of a term; `stop` is the byte length of the
whole text. -/
def ofTokens? (dialect : Dialect) (stop : Nat) :
    TermStage → List Token → Except FilterError (List Clause)
  | stage, [] => stage.finish stop
  | stage, token :: rest =>
      match stage.step dialect token with
      | .error error => .error error
      | .ok (next, complete) =>
          (ofTokens? dialect stop next rest).map fun clauses => complete.toList ++ clauses

def strayError (stray : Stray) : FilterError :=
  .malformed stray.position "a field, operator, value or combinator"
    ("'" ++ String.singleton stray.char ++ "'")

/-- Reads a filter. A stray character anywhere in the text is reported before every other
mistake; a blank text is the filter without clauses. -/
def parse (dialect : Dialect) (filter : String) : Except FilterError (List Clause) :=
  let text := filter.toList
  match Stray.scan text with
  | stray :: _ => .error (strayError stray)
  | [] => ofTokens? dialect (byteLength text) .start (Token.scan text)

end Clause

end ResourceFilter
