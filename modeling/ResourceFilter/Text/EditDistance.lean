/-!
The least number of single-character insertions, deletions and substitutions that turn one text
into another, computed by rows. The row of two texts lists the distances from the first text to
all suffixes of the second one, the whole of it first.
-/

namespace ResourceFilter

/-- The row of the empty text: a suffix is made by inserting its characters. -/
def EditDistance.firstRow : List Char → List Nat
  | [] => [0]
  | _ :: rest => (rest.length + 1) :: firstRow rest

def EditDistance.nextRow (char : Char) : List Char → List Nat → List Nat
  | [], below => [below.headD 0 + 1]
  | other :: target, below =>
      let rest := nextRow char target below.tail
      let kept := below.tail.headD 0
      let best :=
        if char = other then kept
        else 1 + min kept (min (below.headD 0) (rest.headD 0))
      best :: rest

def editDistance (source target : List Char) : Nat :=
  (source.foldr (fun char below => EditDistance.nextRow char target below)
    (EditDistance.firstRow target)).headD 0

end ResourceFilter
