import Mathlib.Data.List.TakeWhile
import ResourceFilter.Proofs.Json.Reader
import ResourceFilter.Proofs.Text.Decimal

/-!
Reading what is written: the text of a value, over several lines, says this value.
-/

namespace ResourceFilter

namespace Json

mutual

def tree : Json → JsonTree
  | string text => .string text
  | number value => .number (String.ofList (Nat.toDigits 10 value))
  | boolean value => .boolean value
  | array items => .array (treeItems items)
  | object members => .object (treeMembers members)

def treeItems : List Json → List JsonTree
  | [] => []
  | item :: rest => tree item :: treeItems rest

def treeMembers : List (String × Json) → List (String × JsonTree)
  | [] => []
  | (name, value) :: rest => (name, tree value) :: treeMembers rest

end

theorem treeItems_eq_map (items : List Json) : treeItems items = items.map tree := by
  induction items with
  | nil => rfl
  | cons item rest ih => rw [treeItems, ih, List.map_cons]

end Json

namespace JsonTree.Reader

open JsonTree

variable {frames : List Frame} {rest : List Char}

theorem run_cons_of_step {reader next : Reader} {char : Char}
    (step : reader.step char = some next) : run reader (char :: rest) = run next rest := by
  rw [run, step]
  rfl

inductive IsBetween : Stage → Prop
  | value (closes : Bool) : IsBetween (.value closes)
  | name (closes : Bool) : IsBetween (.name closes)
  | afterName (name : String) : IsBetween (.afterName name)
  | complete (tree : JsonTree) : IsBetween (.complete tree)

theorem run_space_cons {stage : Stage} (between : IsBetween stage) {char : Char}
    (space : isSpace char = true) :
    run ⟨frames, stage⟩ (char :: rest) = run ⟨frames, stage⟩ rest := by
  apply run_cons_of_step
  cases between <;> simp [step, space]

theorem run_newLine_append {stage : Stage} (between : IsBetween stage) (depth : Nat) :
    run ⟨frames, stage⟩ (Json.newLine depth ++ rest) = run ⟨frames, stage⟩ rest := by
  rw [Json.newLine, List.cons_append, run_space_cons between (by rfl)]
  induction 2 * depth with
  | zero => rfl
  | succ count ih => rw [List.replicate_succ, List.cons_append, run_space_cons between (by rfl), ih]

section Strings

variable {isName : Bool} {chars : List Char}

theorem hexValue?_hexDigit : ∀ number < 16,
    hexValue? (Json.hexDigit number) = some number ∧ Json.hexDigit number ≠ '\x22' := by
  decide

theorem run_inside_append {char : Char} {escape : Escape} {next : List Char × Escape}
    (notEnd : ¬(escape = .none ∧ char = '\x22')) (goesOn : escape.next? chars char = some next) :
    run ⟨frames, .inside isName chars escape⟩ (char :: rest) =
      run ⟨frames, .inside isName next.1 next.2⟩ rest := by
  apply run_cons_of_step
  rw [step]
  simp only [if_neg notEnd, goesOn]
  rfl

theorem run_code_append {number : Nat} (control : number < 0x20) :
    run ⟨frames, .inside isName chars .none⟩
        (['\\', 'u', '0', '0', Json.hexDigit (number / 16), Json.hexDigit (number % 16)] ++ rest) =
      run ⟨frames, .inside isName (chars ++ [Char.ofNat number]) .none⟩ rest := by
  obtain ⟨firstValue, _⟩ := hexValue?_hexDigit (number / 16) (by omega)
  obtain ⟨secondValue, _⟩ := hexValue?_hexDigit (number % 16) (by omega)
  have third : Escape.next? chars (.code none 1 0) (Json.hexDigit (number / 16)) =
      some (chars, .code none 0 (number / 16)) := by
    simp [Escape.next?, firstValue]
  have value : 16 * (number / 16) + number % 16 = number := Nat.div_add_mod number 16
  have fourth : Escape.next? chars (.code none 0 (number / 16)) (Json.hexDigit (number % 16)) =
      some (chars ++ [Char.ofNat number], .none) := by
    have notFirst : ¬(0xD800 ≤ number ∧ number < 0xDC00) := by omega
    have notSecond : ¬(0xDC00 ≤ number ∧ number < 0xE000) := by omega
    simp only [Escape.next?, secondValue, Option.bind_some, value, unit?]
    rw [if_neg notFirst, if_neg notSecond]
  calc
    _ = run ⟨frames, .inside isName chars (.code none 1 0)⟩
          (Json.hexDigit (number / 16) :: Json.hexDigit (number % 16) :: rest) := rfl
    _ = run ⟨frames, .inside isName chars (.code none 0 (number / 16))⟩
          (Json.hexDigit (number % 16) :: rest) := run_inside_append (by simp) third
    _ = run ⟨frames, .inside isName (chars ++ [Char.ofNat number]) .none⟩ rest :=
        run_inside_append (by simp) fourth

theorem run_escapeChar_append (char : Char) :
    run ⟨frames, .inside isName chars .none⟩ (Json.escapeChar char ++ rest) =
      run ⟨frames, .inside isName (chars ++ [char]) .none⟩ rest := by
  by_cases short : char ∈ ['\x22', '\\', '\x08', '\t', '\n', '\x0c', '\r']
  · simp only [List.mem_cons, List.not_mem_nil, or_false] at short
    rcases short with rfl | rfl | rfl | rfl | rfl | rfl | rfl <;> rfl
  · simp only [List.mem_cons, List.not_mem_nil, or_false, not_or] at short
    obtain ⟨quote, backslash, backspace, tab, lineFeed, formFeed, carriageReturn⟩ := short
    rw [Json.escapeChar, if_neg quote, if_neg backslash, if_neg backspace, if_neg tab,
      if_neg lineFeed, if_neg formFeed, if_neg carriageReturn]
    by_cases control : char.toNat < 0x20
    · rw [if_pos control, run_code_append control, Char.ofNat_toNat]
    · have goesOn : Escape.next? chars .none char = some (chars ++ [char], .none) := by
        rw [Escape.next?, if_neg backslash, if_neg control]
      rw [if_neg control, List.singleton_append, run_inside_append (by simp [quote]) goesOn]

theorem run_escape_append (text : List Char) :
    run ⟨frames, .inside isName chars .none⟩ (text.flatMap Json.escapeChar ++ rest) =
      run ⟨frames, .inside isName (chars ++ text) .none⟩ rest := by
  induction text generalizing chars with
  | nil => simp
  | cons char text ih =>
      rw [List.flatMap_cons, List.append_assoc, run_escapeChar_append, ih, List.append_assoc,
        List.singleton_append]

theorem run_quoted {stage : Stage}
    (opens : step ⟨frames, stage⟩ '\x22' = some ⟨frames, .inside isName [] .none⟩) (text : String) :
    run ⟨frames, stage⟩ (Json.quoted text ++ rest) =
      run ⟨frames, if isName then .afterName text else .complete (.string text)⟩ rest := by
  have ends : step ⟨frames, .inside isName text.toList .none⟩ '\x22' =
      some ⟨frames, if isName then .afterName text else .complete (.string text)⟩ := by
    simp [step]
  rw [Json.quoted, List.append_assoc, List.cons_append, run_cons_of_step opens, run_escape_append,
    List.nil_append, List.singleton_append, run_cons_of_step ends]

end Strings

section Atoms

/-- Holds of the texts that do not lengthen a number or a word in front of them. -/
def Ends (rest : List Char) : Prop :=
  ∀ char ∈ rest.head?, isAtomChar char = false

theorem run_atom_append {sofar chars : List Char}
    (isAtom : ∀ char ∈ chars, isAtomChar char = true) :
    run ⟨frames, .atom sofar⟩ (chars ++ rest) = run ⟨frames, .atom (sofar ++ chars)⟩ rest := by
  induction chars generalizing sofar with
  | nil => simp
  | cons char chars ih =>
      obtain ⟨here, later⟩ := List.forall_mem_cons.mp isAtom
      have goesOn : step ⟨frames, .atom sofar⟩ char = some ⟨frames, .atom (sofar ++ [char])⟩ := by
        simp [step, here]
      rw [List.cons_append, run_cons_of_step goesOn, ih later, List.append_assoc,
        List.singleton_append]

theorem run_atom_of_ends {chars : List Char} {tree : JsonTree} (meaning : atom? chars = some tree)
    (ends : Ends rest) :
    run ⟨frames, .atom chars⟩ rest = run ⟨frames, .complete tree⟩ rest := by
  cases rest with
  | nil => cases frames <;> simp [run, finish, meaning]
  | cons char rest =>
      have stops : isAtomChar char = false := ends char rfl
      simp [run, step, stops, meaning]

theorem startValue_of_isAtomChar (closes : Bool) {char : Char} (isAtom : isAtomChar char = true) :
    step ⟨frames, .value closes⟩ char = some ⟨frames, .atom [char]⟩ := by
  have other : ∀ mark, isAtomChar mark = false → char ≠ mark := by
    rintro mark notAtom rfl
    rw [isAtom] at notAtom
    contradiction
  have notSpace : isSpace char = false := by
    simp [isSpace, other ' ' (by rfl), other '\t' (by rfl), other '\n' (by rfl),
      other '\r' (by rfl)]
  simp [step, startValue, notSpace, isAtom, other '[' (by rfl), other '\x7b' (by rfl),
    other '\x22' (by rfl)]

theorem run_atom_value (closes : Bool) {chars : List Char} {tree : JsonTree}
    (nonempty : chars ≠ []) (isAtom : ∀ char ∈ chars, isAtomChar char = true)
    (meaning : atom? chars = some tree) (ends : Ends rest) :
    run ⟨frames, .value closes⟩ (chars ++ rest) = run ⟨frames, .complete tree⟩ rest := by
  obtain ⟨first, later, rfl⟩ := List.exists_cons_of_ne_nil nonempty
  obtain ⟨here, others⟩ := List.forall_mem_cons.mp isAtom
  rw [List.cons_append, run_cons_of_step (startValue_of_isAtomChar closes here),
    run_atom_append others, List.singleton_append, run_atom_of_ends meaning ends]

end Atoms

section Numbers

theorem isNumeral_toDigits (number : Nat) : isNumeral (Nat.toDigits 10 number) = true := by
  have isDigit : ∀ char ∈ Nat.toDigits 10 number, char.isDigit = true :=
    fun _ member => isDigit_of_mem_toDigits member
  have unsigned : (Nat.toDigits 10 number).head? ≠ some '-' := by
    intro sign
    exact absurd (isDigit '-' (List.mem_of_head? sign)) (by decide)
  have whole : isWhole (Nat.toDigits 10 number) = true := by
    rcases Nat.eq_zero_or_pos number with rfl | positive
    · rfl
    · simp [isWhole, Nat.toDigits_ne_nil, head?_toDigits_ne_zero positive]
  have digits : (Nat.toDigits 10 number).takeWhile Char.isDigit = Nat.toDigits 10 number :=
    List.takeWhile_eq_self_iff.mpr isDigit
  have nothing : (Nat.toDigits 10 number).dropWhile Char.isDigit = [] :=
    List.dropWhile_eq_nil_iff.mpr isDigit
  simp only [isNumeral, if_neg unsigned, digits, nothing, whole]
  rfl

theorem atom?_toDigits (number : Nat) :
    atom? (Nat.toDigits 10 number) = some (.number (String.ofList (Nat.toDigits 10 number))) := by
  have notWord : ∀ word : List Char, (∃ char ∈ word, char.isDigit = false) →
      Nat.toDigits 10 number ≠ word := by
    rintro word ⟨char, member, notDigit⟩ rfl
    rw [isDigit_of_mem_toDigits member] at notDigit
    contradiction
  rw [atom?, if_neg (notWord _ ⟨'n', by decide, rfl⟩), if_neg (notWord _ ⟨'t', by decide, rfl⟩),
    if_neg (notWord _ ⟨'f', by decide, rfl⟩), if_pos (isNumeral_toDigits number)]

end Numbers

section Values

theorem ends_newLine (depth : Nat) (rest : List Char) : Ends (Json.newLine depth ++ rest) := by
  rintro char ⟨⟩
  rfl

theorem ends_writeItems (depth outer : Nat) (items : List Json) (rest : List Char) :
    Ends (Json.writeItems depth items ++ (Json.newLine outer ++ rest)) := by
  cases items with
  | nil => exact ends_newLine outer rest
  | cons item items =>
      rintro char ⟨⟩
      rfl

theorem ends_writeMembers (depth outer : Nat) (members : List (String × Json)) (rest : List Char) :
    Ends (Json.writeMembers depth members ++ (Json.newLine outer ++ rest)) := by
  cases members with
  | nil => exact ends_newLine outer rest
  | cons member members =>
      rintro char ⟨⟩
      rfl

theorem run_name_value (closes : Bool) (members : List (String × JsonTree)) (name : String) :
    run ⟨.object members :: frames, .name closes⟩ (Json.quoted name ++ ':' :: ' ' :: rest) =
      run ⟨.member members name :: frames, .value false⟩ rest := by
  have opens : step ⟨.object members :: frames, .name closes⟩ '\x22' =
      some ⟨.object members :: frames, .inside true [] .none⟩ := rfl
  rw [run_quoted opens]
  rfl

mutual

-- The induction is over the value. The rest of the text stays free, and so do the open arrays and
-- objects: the text of an item is read inside the array that it is an item of.
theorem run_write (value : Json) (frames : List Frame) (closes : Bool) (depth : Nat)
    {rest : List Char} (ends : Ends rest) :
    run ⟨frames, .value closes⟩ (value.write depth ++ rest) =
      run ⟨frames, .complete value.tree⟩ rest := by
  cases value with
  | string text =>
      have opens : step ⟨frames, .value closes⟩ '\x22' = some ⟨frames, .inside false [] .none⟩ := rfl
      rw [Json.write, Json.tree, run_quoted opens]
      rfl
  | number number =>
      rw [Json.write, Json.tree]
      refine run_atom_value closes Nat.toDigits_ne_nil ?_ (atom?_toDigits number) ends
      intro char member
      simp [isAtomChar, Char.isAlphanum, isDigit_of_mem_toDigits member]
  | boolean truth =>
      cases truth <;> rw [Json.write, Json.tree] <;>
        exact run_atom_value closes (by simp) (by simp [isAtomChar]) rfl ends
  | array items =>
      cases items with
      | nil => rfl
      | cons item items =>
          have opens : step ⟨frames, .value closes⟩ '[' =
              some ⟨.array [] :: frames, .value true⟩ := rfl
          rw [Json.write, Json.tree, Json.treeItems]
          simp only [List.cons_append, List.append_assoc]
          rw [run_cons_of_step opens, run_newLine_append (.value true),
            run_write item _ true (depth + 1) (ends_writeItems _ _ _ _),
            run_writeItems items frames [] item.tree (depth + 1) depth]
          rfl
  | object members =>
      cases members with
      | nil => rfl
      | cons member members =>
          obtain ⟨name, value⟩ := member
          have opens : step ⟨frames, .value closes⟩ '\x7b' =
              some ⟨.object [] :: frames, .name true⟩ := rfl
          rw [Json.write, Json.tree, Json.treeMembers]
          simp only [List.cons_append, List.append_assoc]
          rw [run_cons_of_step opens, run_newLine_append (.name true), run_name_value,
            run_write value _ false (depth + 1) (ends_writeMembers _ _ _ _),
            run_writeMembers members frames [] name value.tree (depth + 1) depth]
          rfl

theorem run_writeItems (items : List Json) (frames : List Frame) (sofar : List JsonTree)
    (last : JsonTree) (depth outer : Nat) {rest : List Char} :
    run ⟨.array sofar :: frames, .complete last⟩
        (Json.writeItems depth items ++ (Json.newLine outer ++ ']' :: rest)) =
      run ⟨frames, .complete (.array (sofar ++ last :: Json.treeItems items))⟩ rest := by
  cases items with
  | nil =>
      rw [Json.writeItems, List.nil_append, run_newLine_append (.complete last)]
      rfl
  | cons item items =>
      have comma : step ⟨.array sofar :: frames, .complete last⟩ ',' =
          some ⟨.array (sofar ++ [last]) :: frames, .value false⟩ := rfl
      rw [Json.writeItems, Json.treeItems]
      simp only [List.cons_append, List.append_assoc]
      rw [run_cons_of_step comma, run_newLine_append (.value false),
        run_write item _ false depth (ends_writeItems _ _ _ _),
        run_writeItems items frames (sofar ++ [last]) item.tree depth outer, List.append_assoc,
        List.singleton_append]

theorem run_writeMembers (members : List (String × Json)) (frames : List Frame)
    (sofar : List (String × JsonTree)) (name : String) (last : JsonTree) (depth outer : Nat)
    {rest : List Char} :
    run ⟨.member sofar name :: frames, .complete last⟩
        (Json.writeMembers depth members ++ (Json.newLine outer ++ '\x7d' :: rest)) =
      run ⟨frames, .complete (.object (sofar ++ (name, last) :: Json.treeMembers members))⟩
        rest := by
  cases members with
  | nil =>
      rw [Json.writeMembers, List.nil_append, run_newLine_append (.complete last)]
      rfl
  | cons member members =>
      obtain ⟨next, value⟩ := member
      have comma : step ⟨.member sofar name :: frames, .complete last⟩ ',' =
          some ⟨.object (sofar ++ [(name, last)]) :: frames, .name false⟩ := rfl
      rw [Json.writeMembers, Json.treeMembers]
      simp only [List.cons_append, List.append_assoc]
      rw [run_cons_of_step comma, run_newLine_append (.name false), run_name_value,
        run_write value _ false depth (ends_writeMembers _ _ _ _),
        run_writeMembers members frames (sofar ++ [(name, last)]) next value.tree depth outer,
        List.append_assoc, List.singleton_append]

end

end Values

end JsonTree.Reader

/-- The text of a value is read as this value, whatever its strings are. -/
theorem Json.read?_pretty (value : Json) : JsonTree.read? value.pretty = some value.tree := by
  have ends : JsonTree.Reader.Ends [] := by simp [JsonTree.Reader.Ends]
  have whole := JsonTree.Reader.run_write value [] false 0 ends
  rw [List.append_nil] at whole
  rw [JsonTree.read?, pretty, String.toList_ofList, whole]
  rfl

end ResourceFilter
