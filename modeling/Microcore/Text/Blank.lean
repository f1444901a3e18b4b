/-
  Microcore/Text/Blank.lean
  =========================
  **White space and the words between it.**  White space is what the character standard calls so,
  together with the four information separators.  Reading word by word (`nextWord?`) also tells
  what follows a word, which is how a line's comment is found.
-/

namespace Microcore.Blank

def isBlank (c : Char) : Bool :=
  let n := c.toNat
  (0x09 ≤ n && n ≤ 0x0D) || (0x1C ≤ n && n ≤ 0x20) || n == 0x85 || n == 0xA0 || n == 0x1680 ||
    (0x2000 ≤ n && n ≤ 0x200A) || n == 0x2028 || n == 0x2029 || n == 0x202F || n == 0x205F ||
    n == 0x3000

/-- Every character that the ASCII class calls white space is white space. -/
theorem isBlank_of_isWhitespace {c : Char} (h : c.isWhitespace = true) : isBlank c = true := by
  simp only [Char.isWhitespace, Bool.or_eq_true, decide_eq_true_eq] at h
  rcases h with ((rfl | rfl) | rfl) | rfl <;> decide

/-- The text without the characters at its start that are in a class. -/
def skip (p : Char → Bool) (text : List Char) : List Char := text.dropWhile p

/-- The text without the characters at either end that are in a class. -/
def trim (p : Char → Bool) (text : List Char) : List Char :=
  (skip p (skip p text).reverse).reverse

/-- The first word of a text and what follows it, or nothing when the text is blank. -/
def nextWord? (text : List Char) : Option (List Char × List Char) :=
  match skip isBlank text with
  | [] => none
  | c :: rest =>
    some (c :: rest.takeWhile (fun d => !isBlank d), rest.dropWhile (fun d => !isBlank d))

theorem length_dropWhile_le (p : Char → Bool) (text : List Char) :
    (text.dropWhile p).length ≤ text.length := by
  induction text with
  | nil => simp
  | cons c rest ih =>
    simp only [List.dropWhile_cons]
    split
    · exact Nat.le_succ_of_le ih
    · exact Nat.le_refl _

theorem nextWord?_length {text word rest : List Char} (h : nextWord? text = some (word, rest)) :
    rest.length < text.length := by
  simp only [nextWord?] at h
  split at h
  · simp at h
  · next c tail heq =>
    simp only [Option.some.injEq, Prod.mk.injEq] at h
    obtain ⟨-, rfl⟩ := h
    have h1 := length_dropWhile_le isBlank text
    have h2 := length_dropWhile_le (fun d => !isBlank d) tail
    simp only [skip] at heq
    rw [heq, List.length_cons] at h1
    omega

def words (text : List Char) : List (List Char) :=
  match h : nextWord? text with
  | none => []
  | some (word, rest) =>
    have := nextWord?_length h
    word :: words rest
termination_by text.length

end Microcore.Blank
