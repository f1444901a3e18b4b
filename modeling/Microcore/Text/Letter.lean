/-
  Microcore/Text/Letter.lean
  ==========================
  **Upper and lower case of a text.**  The full mappings of the character standard: a character may
  become several (`ß` becomes `SS`), and a capital sigma at the end of a word becomes `ς`.
-/
import Microcore.Text.CaseTable

namespace Microcore.Letter

def offset? (runs : List Run) (n : Nat) : Option Int :=
  (runs.find? fun r => r.first ≤ n && n ≤ r.last && (n - r.first) % r.stride == 0).map Run.offset

def shifted (runs : List Run) (c : Char) : Char :=
  match offset? runs c.toNat with
  | some offset => Char.ofNat (c.toNat + offset).toNat
  | none => c

def inRanges (ranges : List (Nat × Nat)) (c : Char) : Bool :=
  ranges.any fun (first, last) => first ≤ c.toNat && c.toNat ≤ last

def upperOf (c : Char) : List Char :=
  if c.toNat < 128 then [c.toUpper]
  else match upperExpansions.lookup c.toNat with
    | some expansion => expansion.map Char.ofNat
    | none => [shifted upperRuns c]

def upper (text : List Char) : List Char := text.flatMap upperOf

/-- Whether a letter follows, looking past ignorable characters. -/
def casedAhead (text : List Char) : Bool :=
  match text.dropWhile (inRanges ignorableRanges) with
  | [] => false
  | c :: _ => inRanges casedRanges c

/-- The lower case of one character that is not a capital sigma. -/
def lowerOf (c : Char) : List Char :=
  if c.toNat < 128 then [c.toLower]
  else if c = 'İ' then ['i', '\u0307']
  else [shifted lowerRuns c]

/-- The lower case of a text.  `cased` says whether a letter stands before it, looking past
    ignorable characters; it decides the form of a sigma. -/
def lowerAfter (cased : Bool) : List Char → List Char
  | [] => []
  | c :: rest =>
    let next := if inRanges ignorableRanges c then cased else inRanges casedRanges c
    if c = 'Σ' then
      (if cased && !casedAhead rest then 'ς' else 'σ') :: lowerAfter next rest
    else lowerOf c ++ lowerAfter next rest

def lower (text : List Char) : List Char := lowerAfter false text

/-- The upper case of a text in two parts is that of the parts. -/
@[simp] theorem upper_append (s t : List Char) : upper (s ++ t) = upper s ++ upper t := by
  simp [upper]

end Microcore.Letter
