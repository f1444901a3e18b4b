/-
  Microcore/Text/Encoding.lean
  ============================
  **Bytes as text.**  Sources are read as UTF-8 as a whole.  Images are read as ASCII in blocks: a
  block that cannot be decoded ends the reading, and the text of the blocks before it is known.
  Names and settings end at a NUL where they are kept, so that none may hold one.
-/
import Microcore.Text.Lines

namespace Microcore.Encoding

def utf8? (bytes : ByteArray) : Option (List Char) := (String.fromUTF8? bytes).map String.toList

theorem utf8?_toUTF8 (text : String) : utf8? text.toUTF8 = some text.toList := by
  simp only [utf8?, String.fromUTF8?, String.toUTF8_eq_toByteArray, dif_pos text.isValidUTF8]
  rfl

def blockSize : Nat := 8192

/-- What is known of a text that is read in blocks. -/
inductive Blocks where
  | all (text : List Char)
  | broken (before : List Char)
deriving DecidableEq, Repr

/-- The text of bytes in ASCII, up to the first block with a byte outside it. -/
def ascii (bytes : List UInt8) : Blocks :=
  let chars := bytes.map fun b => Char.ofNat b.toNat
  match bytes.findIdx? (fun b => 128 ≤ b) with
  | none => .all chars
  | some index => .broken (chars.take (index / blockSize * blockSize))

/-- The lines of a text that are known to be complete although its end is not known.  A carriage
    return at the end may be the first half of a line end. -/
def completeLines (before : List Char) : List (List Char) :=
  let before := match before.reverse with
    | '\r' :: rest => rest.reverse
    | _ => before
  (Lines.pieces '\n' (Lines.normalize before)).dropLast

def hasNul (text : String) : Bool := text.toList.contains '\x00'

def nulMessage : String := "embedded null byte"

end Microcore.Encoding
