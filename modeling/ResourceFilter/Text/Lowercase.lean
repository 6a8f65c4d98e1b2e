import ResourceFilter.Text.LetterCase

/-!
The lower-case form of a text. Every character is mapped by itself, with one exception: a
capital sigma at the end of a word becomes the final sigma.
-/

namespace ResourceFilter

def inRanges (ranges : List (Nat × Nat)) (char : Char) : Bool :=
  ranges.any fun range => range.1 ≤ char.toNat && char.toNat ≤ range.2

def isCased (char : Char) : Bool :=
  inRanges casedRanges char

def isCaseIgnorable (char : Char) : Bool :=
  inRanges caseIgnorableRanges char

/-- The lower-case form of a character outside any context. The capital I with a dot is the only
one that takes two characters. -/
def lowerChar (char : Char) : List Char :=
  if char.toNat = 0x130 then ['i', '\u0307']
  else
    let run? := lowercaseRuns.find? fun (first, last, step, _) =>
      first ≤ char.toNat && char.toNat ≤ last && (char.toNat - first) % step == 0
    match run? with
    | some (first, _, _, image) => [Char.ofNat (image + (char.toNat - first))]
    | none => [char]

/-- Holds if the first character that matters for case is a cased one. -/
def meetsCased (text : List Char) : Bool :=
  match text.find? fun char => !isCaseIgnorable char with
  | some char => isCased char
  | none => false

/-- The lower-case form of a text, whose first characters, in reverse order, are given apart. -/
def lowercaseAfter : List Char → List Char → List Char
  | _, [] => []
  | before, char :: rest =>
      (if char = 'Σ' then if meetsCased before && !meetsCased rest then ['ς'] else ['σ']
       else lowerChar char) ++ lowercaseAfter (char :: before) rest

def lowercase (text : List Char) : List Char :=
  lowercaseAfter [] text

theorem lowercaseAfter_append_of_notMem {front : List Char} (noSigma : 'Σ' ∉ front)
    (before rest : List Char) :
    lowercaseAfter before (front ++ rest) =
      front.flatMap lowerChar ++ lowercaseAfter (front.reverse ++ before) rest := by
  induction front generalizing before with
  | nil => rfl
  | cons char front ih =>
      have differs : char ≠ 'Σ' := fun same => noSigma (by simp [same])
      have later : 'Σ' ∉ front := fun member => noSigma (List.mem_cons_of_mem _ member)
      rw [List.cons_append, lowercaseAfter, if_neg differs, ih later]
      simp

/-- Without a capital sigma every character is mapped by itself. -/
theorem lowercase_of_notMem {text : List Char} (noSigma : 'Σ' ∉ text) :
    lowercase text = text.flatMap lowerChar := by
  have mapped := lowercaseAfter_append_of_notMem noSigma [] []
  rwa [List.append_nil, lowercaseAfter, List.append_nil] at mapped

example : lowercase ['İ', 'Z', 'É', '1'] = ['i', '\u0307', 'z', 'é', '1'] := by decide +kernel

/-- A capital sigma at the end becomes the final one behind a letter. -/
theorem lowercase_append_sigma {front : List Char} (noSigma : 'Σ' ∉ front) :
    lowercase (front ++ ['Σ']) =
      front.flatMap lowerChar ++ [if meetsCased front.reverse then 'ς' else 'σ'] := by
  have notCased : meetsCased [] = false := rfl
  rw [lowercase, lowercaseAfter_append_of_notMem noSigma, lowercaseAfter, if_pos rfl, notCased,
    lowercaseAfter]
  simp only [List.append_nil, Bool.not_false, Bool.and_true]
  split <;> rfl

example : lowercase ['Τ', 'Ο', 'Σ'] = ['τ', 'ο', 'ς'] := by decide +kernel

end ResourceFilter
