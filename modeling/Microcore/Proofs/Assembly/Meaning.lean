/-
  Microcore/Proofs/Assembly/Meaning.lean
  ======================================
  **What a source means.**  A source is the list of its lines, and a line the list of its words.  The
  meaning is given line by line, without passes and without a table of labels: the location counter
  before a line follows from the lines before it, and of several lines that define a label, or that
  are placed at one address, the last one counts.
-/
import Microcore.Proofs.Assembly.Tokens
import Microcore.Text.Lines

namespace Microcore.Assembly

/-! ### Words -/

/-- The mnemonics, in the order of their codes. -/
def mnemonics : List (List Char) :=
  ["ANA", "ANI", "XRA", "XRI", "ADA", "ADI", "SBA", "SBI", "BNC", "BNZ", "JPR", "JMP", "LDA", "LDI",
    "STA", "STX"].map String.toList

/-- The names that stand for the operands from `F8` on. -/
def indexNames : List (List Char) :=
  ["%IX", "%IY", "@IX", "@IY", "@IX+", "@IY+", "@-IX", "@-IY"].map String.toList

def hexDigits : List Char := "0123456789ABCDEF".toList

def hexValue (digits : List Char) : Nat :=
  digits.foldl (fun value c => value * 16 + hexDigits.idxOf c) 0

def decimalValue (digits : List Char) : Nat :=
  digits.foldl (fun value c => value * 10 + (Digit.value? c).getD 0) 0

def labelOf? : List Char → Option Nat
  | '$' :: digits => some (decimalValue digits)
  | _ => none

/-- The number that an upper-case operand other than a label stands for. -/
def literalValue (operand : List Char) : Nat :=
  if operand ∈ indexNames then 0xF8 + indexNames.idxOf operand
  else match operand with
    | '%' :: digits => hexValue digits
    | digits => hexValue digits

/-! ### Lines -/

namespace Words

/-- A line behind its label. -/
def body : Words → Words
  | ('$' :: _) :: rest => rest
  | words => words

variable (line : Words)

def label? : Option Nat := line.head?.bind labelOf?

/-- The main word of a line, in upper case. -/
def main : List Char := Letter.upper (line.body.getD 0 [])

def operand : List Char := Letter.upper (line.body.getD 1 [])

def isOrigin : Bool := line.main = "ORG".toList

def code? : Option Nat := mnemonics.idxOf? line.main

/-- The label that the line, if it is an instruction, refers to. -/
def reference? : Option Nat := line.code?.bind fun _ => labelOf? line.operand

end Words

/-! ### Sources -/

/-- The last number below a bound that has a property. -/
def lastBelow? (p : Nat → Bool) (n : Nat) : Option Nat := ((List.range n).filter p).getLast?

theorem lastBelow?_succ (p : Nat → Bool) (n : Nat) :
    lastBelow? p (n + 1) = if p n then some n else lastBelow? p n := by
  rw [lastBelow?, List.range_succ, List.filter_append]
  cases hp : p n with
  | true => simp [hp]
  | false => simp [hp, lastBelow?]

theorem lastBelow?_eq_some {p : Nat → Bool} {n i : Nat} (hi : i < n) (hp : p i = true)
    (hlast : ∀ j, i < j → j < n → p j = false) : lastBelow? p n = some i := by
  induction n with
  | zero => exact absurd hi (Nat.not_lt_zero i)
  | succ n ih =>
    rw [lastBelow?_succ]
    rcases Nat.lt_succ_iff_lt_or_eq.mp hi with hlt | rfl
    · rw [hlast n hlt (Nat.lt_succ_self n), if_neg Bool.false_ne_true]
      exact ih hlt fun j hj hjn => hlast j hj (Nat.lt_succ_of_lt hjn)
    · rw [hp, if_pos rfl]

theorem lastBelow?_eq_none {p : Nat → Bool} {n : Nat} (h : ∀ i < n, p i = false) :
    lastBelow? p n = none := by
  induction n with
  | zero => rfl
  | succ n ih =>
    rw [lastBelow?_succ, h n (Nat.lt_succ_self n), if_neg Bool.false_ne_true]
    exact ih fun i hi => h i (Nat.lt_succ_of_lt hi)

abbrev Source := List Words

def Source.ofText (text : List Char) : Source := (Lines.lines text).map Blank.words

namespace Source

/-- The location counter behind a line. -/
def advance (counter : Nat) (line : Words) : Nat :=
  if line.isOrigin then hexValue line.operand
  else if line.code?.isSome then (counter + 1) % 256
  else counter

variable (s : Source)

def line (i : Nat) : Words := s.getD i []

/-- The location counter in front of a line. -/
def counter (i : Nat) : Nat := (s.take i).foldl advance 0

/-- What a label stands for: the location counter in front of the last line that defines it. -/
def labelValue? (number : Nat) : Option Nat :=
  (lastBelow? (fun i => (s.line i).label? = some number) s.length).map s.counter

def operandValue (operand : List Char) : Nat :=
  match labelOf? operand with
  | some number => (s.labelValue? number).getD 0
  | none => literalValue operand

def word? (i : Nat) : Option Nat :=
  (s.line i).code?.map fun code => code * 256 + s.operandValue (s.line i).operand

/-- The line is an instruction placed at an address. -/
def isPlaced (a i : Nat) : Bool := (s.line i).code?.isSome && s.counter i = a

/-- The word at an address: that of the last instruction placed there. -/
def wordAt (a : Nat) : Nat := ((lastBelow? (s.isPlaced a) s.length).bind s.word?).getD 0

/-- The undefined labels that instructions refer to, one for each of these lines. -/
def undefined : List Nat :=
  (List.range s.length).filterMap fun i =>
    (s.line i).reference?.filter fun number => (s.labelValue? number).isNone

/-- The labels that are defined again, one for each line that does so. -/
def redefined : List Nat :=
  (List.range s.length).filterMap fun i =>
    (s.line i).label?.filter fun number =>
      (List.range i).any fun j => (s.line j).label? = some number

end Source

end Microcore.Assembly
