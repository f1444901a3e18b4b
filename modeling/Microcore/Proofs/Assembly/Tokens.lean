/-
  Microcore/Proofs/Assembly/Tokens.lean
  =====================================
  **Lines as lists of words.**  Reading a line takes one word after the other from its text.  What it
  means, its comment apart, depends on the list of these words only: `ofWords` gives the meaning of
  the list, and `bare_parse` says that reading the text finds it.
-/
import Microcore.Assembly.Line
import Microcore.Proofs.Text.Words

namespace Microcore.Assembly

abbrev Words := List (List Char)

namespace Line

/-- A line without its comment. -/
def bare (line : Line) : Line := { line with comment := none }

/-- The meaning of the words behind a label. -/
def ofBody : Words → Except Fault Line
  | [] => .ok {}
  | word :: rest =>
    let upper := Letter.upper word
    if upper.head? = some ';' then .ok {}
    else match keyword? upper with
      | none => .error ⟨.word, word⟩
      | some keyword =>
        match rest with
        | [] => .error ⟨.missingOperand, word⟩
        | operand :: _ =>
          (keyword.statement? operand).map fun statement => { statement := some statement }

def ofWords : Words → Except Fault Line
  | ('$' :: digits) :: rest =>
    match labelNumber? ('$' :: digits) with
    | some number => (ofBody rest).map fun line => { line with label := some number }
    | none => .error ⟨.label, '$' :: digits⟩
  | words => ofBody words

theorem bare_parseBody (text : List Char) :
    (parseBody text).map bare = ofBody (Blank.words text) := by
  simp only [parseBody]
  cases hword : Blank.nextWord? text with
  | none =>
    rw [Blank.words_of_none hword]
    rfl
  | some found =>
    obtain ⟨word, rest⟩ := found
    rw [Blank.words_of_some hword]
    simp only [ofBody]
    by_cases hcomment : (Letter.upper word).head? = some ';'
    · rw [if_pos hcomment, if_pos hcomment]
      rfl
    · rw [if_neg hcomment, if_neg hcomment]
      cases keyword? (Letter.upper word) with
      | none => rfl
      | some keyword =>
        cases hoperand : Blank.nextWord? rest with
        | none =>
          rw [Blank.words_of_none hoperand]
          rfl
        | some found =>
          obtain ⟨operand, comment⟩ := found
          rw [Blank.words_of_some hoperand]
          show (Except.map _ (keyword.statement? operand)).map bare =
            (keyword.statement? operand).map fun statement => { statement := some statement }
          cases keyword.statement? operand <;> rfl

/-- **Reading a line finds the meaning of its words.** -/
theorem bare_parse (text : List Char) : (parse text).map bare = ofWords (Blank.words text) := by
  rw [parse]
  split
  · next digits rest hword =>
    rw [Blank.words_of_some hword, ofWords]
    cases labelNumber? ('$' :: digits) with
    | none => rfl
    | some number =>
      show ((parseBody rest).map _).map bare = _
      rw [← bare_parseBody]
      cases parseBody rest <;> rfl
  · next hplain =>
    rw [bare_parseBody]
    cases hword : Blank.nextWord? text with
    | none =>
      rw [Blank.words_of_none hword]
      rfl
    | some found =>
      obtain ⟨word, rest⟩ := found
      rw [Blank.words_of_some hword, ofWords]
      intro digits _ heq
      cases heq
      exact hplain digits rest hword

end Line

end Microcore.Assembly
