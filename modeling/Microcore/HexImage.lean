/-
  Microcore/HexImage.lean
  =======================
  **Program images as text.**  An image of 256 words is written as sixteen lines of sixteen words,
  each word as three hexadecimal digits in a field of four columns.  Reading takes the words in any
  layout, and finds fault with the first word that is no number or too wide before it counts them.
-/
import Microcore.Word
import Microcore.Text.Lines
import Microcore.Text.Numeral
import Microcore.Text.Quoted

namespace Microcore.HexImage

def wordCount : Nat := 256

def wordsPerLine : Nat := 16

/-- What is wrong with an image. -/
inductive Fault where
  | count (found : Nat)
  | malformed (line : Nat) (word : List Char)
  | wide (line : Nat) (word : List Char)
deriving DecidableEq, Repr

def Fault.message : Fault → String
  | count found => s!"image must hold 256 words, got {Numeral.decimal found}"
  | malformed line word =>
    s!"line {Numeral.decimal line}: invalid hex word {String.ofList (Quoted.quoteChars word)}"
  | wide line word =>
    s!"line {Numeral.decimal line}: word {String.ofList word} is wider than 12 bits"

/-! ### Writing -/

def field (word : Int) : List Char := Numeral.padStart 4 (Numeral.hexChars 3 word)

def rows (length : Nat) : Nat → List Int → List (List Int)
  | 0, _ => []
  | n + 1, words => words.take length :: rows length n (words.drop length)

def write? (words : List Int) : Except Fault (List Char) :=
  if words.length = wordCount then
    .ok ((rows wordsPerLine (wordCount / wordsPerLine) words).flatMap fun row =>
      row.flatMap field ++ ['\n'])
  else .error (.count words.length)

/-! ### Reading -/

def word? (line : Nat) (token : List Char) : Except Fault Word :=
  match Numeral.read? 16 token with
  | none => .error (.malformed line token)
  | some value => if 0 ≤ value ∧ value < 4096 then .ok (Word.ofInt value) else .error (.wide line token)

def lineWords? (number : Nat) (line : List Char) : Except Fault (List Word) :=
  (Blank.words line).mapM (word? number)

def words? (number : Nat) : List (List Char) → Except Fault (List Word)
  | [] => .ok []
  | line :: rest => do
    let first ← lineWords? number line
    let more ← words? (number + 1) rest
    return first ++ more

def read? (lines : List (List Char)) : Except Fault (Vector Word 256) := do
  let words ← words? 1 lines
  if h : words.length = 256 then .ok ⟨words.toArray, by rw [List.size_toArray, h]⟩
  else .error (.count words.length)

end Microcore.HexImage
