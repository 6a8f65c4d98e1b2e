import ResourceFilter.Combinator
import ResourceFilter.Text.Blank

/-!
How the text of a filter falls into tokens. A text is first cut, without loss, into pieces:
runs of blanks, of word characters and of symbol characters, each as long as possible, and
single combinators and stray characters. The tokens are the words, symbols and combinators
among the pieces, each with the byte position at which it starts.
-/

namespace ResourceFilter

def isWordChar (char : Char) : Bool :=
  char.isAlphanum || char == '_' || char == '-'

/-- Holds of the ASCII punctuation that operator symbols are made of, whether or not a symbol
made of it stands for an operator. -/
def isSymbolChar (char : Char) : Bool :=
  let code := char.toNat
  ((0x21 ≤ code && code ≤ 0x2F) || (0x3A ≤ code && code ≤ 0x40) ||
    (0x5B ≤ code && code ≤ 0x60) || (0x7B ≤ code && code ≤ 0x7E)) &&
    !(char == ',' || char == ';' || char == '-' || char == '_')

inductive CharClass
  | blank
  | combinator (which : Combinator)
  | word
  | symbol
  | stray
  deriving DecidableEq, Repr

def CharClass.of (char : Char) : CharClass :=
  if isBlank char then .blank
  else match Combinator.ofChar? char with
    | some which => .combinator which
    | none =>
        if isWordChar char then .word
        else if isSymbolChar char then .symbol
        else .stray

inductive Piece
  | blank (run : List Char)
  | word (run : List Char)
  | symbol (run : List Char)
  | combinator (which : Combinator)
  | stray (char : Char)
  deriving DecidableEq, Repr

namespace Piece

def chars : Piece → List Char
  | blank run | word run | symbol run => run
  | combinator which => [which.symbol]
  | stray char => [char]

/-- Puts a character before a cut text: it lengthens a first piece of its own class, and stands
as a piece of its own otherwise. -/
def attach (char : Char) (pieces : List Piece) : List Piece :=
  match CharClass.of char, pieces with
  | .blank, blank run :: rest => blank (char :: run) :: rest
  | .blank, _ => blank [char] :: pieces
  | .word, word run :: rest => word (char :: run) :: rest
  | .word, _ => word [char] :: pieces
  | .symbol, symbol run :: rest => symbol (char :: run) :: rest
  | .symbol, _ => symbol [char] :: pieces
  | .combinator which, _ => combinator which :: pieces
  | .stray, _ => stray char :: pieces

def cut : List Char → List Piece
  | [] => []
  | char :: rest => attach char (cut rest)

end Piece

def byteLength : List Char → Nat
  | [] => 0
  | char :: rest => char.utf8Size + byteLength rest

def Piece.locate : Nat → List Piece → List (Nat × Piece)
  | _, [] => []
  | position, piece :: rest =>
      (position, piece) :: locate (position + byteLength piece.chars) rest

inductive Lexeme
  | word (text : String)
  | symbol (text : String)
  | combinator (which : Combinator)
  deriving DecidableEq, Repr

def Lexeme.text : Lexeme → String
  | word text | symbol text => text
  | combinator which => String.singleton which.symbol

structure Token where
  position : Nat
  lexeme : Lexeme
  deriving DecidableEq, Repr

structure Stray where
  position : Nat
  char : Char
  deriving DecidableEq, Repr

namespace Token

def ofPiece? : Nat × Piece → Option Token
  | (position, .word run) => some ⟨position, .word (String.ofList run)⟩
  | (position, .symbol run) => some ⟨position, .symbol (String.ofList run)⟩
  | (position, .combinator which) => some ⟨position, .combinator which⟩
  | _ => none

def scan (text : List Char) : List Token :=
  (Piece.locate 0 (Piece.cut text)).filterMap ofPiece?

end Token

namespace Stray

def ofPiece? : Nat × Piece → Option Stray
  | (position, .stray char) => some ⟨position, char⟩
  | _ => none

def scan (text : List Char) : List Stray :=
  (Piece.locate 0 (Piece.cut text)).filterMap ofPiece?

end Stray

namespace Piece

theorem chars_attach (char : Char) (pieces : List Piece) :
    (attach char pieces).flatMap chars = char :: pieces.flatMap chars := by
  unfold attach
  split <;> simp_all [chars]
  rename_i found _ classified
  unfold CharClass.of at classified
  grind [Combinator.ofChar?_eq_some_iff]

theorem chars_cut (text : List Char) : (cut text).flatMap chars = text := by
  induction text with
  | nil => rfl
  | cons char rest ih => rw [cut, chars_attach, ih]

end Piece

end ResourceFilter
