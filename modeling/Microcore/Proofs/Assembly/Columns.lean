/-
  Microcore/Proofs/Assembly/Columns.lean
  ======================================
  **The columns of a listing.**  A field is put behind a text with at least one blank between them
  (`addField_eq`), and cutting the text in front of an earlier column moves the field's column by as
  much (`drop_addField`).  So what a listed line holds from the label column on is a text of the line
  alone (`Line.text`, `drop_entryChars`): number, location and word stand in front of that column.
-/
import Microcore.Assembly.Listing
import Microcore.Proofs.Text.Numeral
import Microcore.Proofs.Text.Words

namespace Microcore.Assembly

open Listing

namespace Listing

/-! ### One field -/

theorem addField_eq (column : Nat) (field text : List Char) : addField column field text =
    text ++ (List.replicate (max 1 (column - text.length)) ' ' ++ field) := by
  rw [addField]
  by_cases hlength : text.length < column
  · rw [if_pos hlength, Numeral.padEnd, List.append_assoc, Nat.max_eq_right (by omega)]
  · rw [if_neg hlength, Nat.max_eq_left (by omega)]
    rfl

/-- A field stands behind a gap. -/
theorem exists_gap (column : Nat) (field text : List Char) :
    ∃ gap, Blank.IsGap gap ∧ addField column field text = text ++ (gap ++ field) := by
  refine ⟨_, ⟨?_, Blank.isBlank_of_mem_replicate⟩, addField_eq column field text⟩
  rw [Ne, List.replicate_eq_nil_iff]
  omega

theorem drop_addField {c column : Nat} (h : c < column) (field text : List Char) :
    (addField column field text).drop c = addField (column - c) field (text.drop c) := by
  rw [addField_eq, addField_eq, List.drop_append, List.length_drop]
  by_cases hlength : c ≤ text.length
  · rw [Nat.sub_eq_zero_of_le hlength, List.drop_zero,
      (by omega : column - c - (text.length - c) = column - text.length)]
  · have hgap : max 1 (column - text.length) - (c - text.length) =
        max 1 (column - c - (text.length - c)) := by omega
    rw [List.drop_append_of_le_length (by rw [List.length_replicate]; omega), List.drop_replicate, hgap]

theorem drop_addField? {c column : Nat} (h : c < column) (field : Option (List Char))
    (text : List Char) :
    (addField? column field text).drop c = addField? (column - c) field (text.drop c) := by
  cases field with
  | none => rfl
  | some field => exact drop_addField h field text

/-- A field at a column that the text does not reach is what stands from the column on. -/
theorem drop_addField?_self {column : Nat} {text : List Char} (h : text.length < column)
    (field : Option (List Char)) : (addField? column field text).drop column = field.getD [] := by
  cases field with
  | none => exact List.drop_eq_nil_of_le (Nat.le_of_lt h)
  | some field =>
    show (addField column field text).drop column = field
    rw [addField, if_pos h]
    apply List.drop_left'
    rw [Numeral.length_padEnd]
    exact Nat.max_eq_left (Nat.le_of_lt h)

theorem prefix_addField? (column : Nat) (field : Option (List Char)) (text : List Char) :
    text <+: addField? column field text := by
  cases field with
  | none => exact List.prefix_rfl
  | some field =>
    show text <+: addField column field text
    rw [addField_eq]
    exact List.prefix_append _ _

/-- A listed line begins with its number and location. -/
theorem prefix_entryChars (number : Nat) (p : Placed) (word : Option Word) :
    headText number p.location <+: entryChars number p word :=
  (prefix_addField? _ _ _).trans <| (prefix_addField? _ _ _).trans <|
    (prefix_addField? _ _ _).trans <| (prefix_addField? _ _ _).trans (prefix_addField? _ _ _)

/-! ### In front of the labels -/

theorem length_headText {number : Nat} (h : number < 100000) (location : Byte) :
    (headText number location).length ≤ 11 := by
  have hdigits := Numeral.length_decimalChars_le (by decide : 0 < 5) h
  have hlocation := Numeral.length_hexChars (by decide : 0 < 2) location.isLt
  simp only [headText, List.length_append, Numeral.length_padStart, hlocation, List.length_cons,
    List.length_nil]
  omega

/-- A line number, a location and a word end in front of the label column. -/
theorem length_wordField {number : Nat} (h : number < 100000) (location : Byte) (word : Option Word) :
    (addField? wordColumn (word.map fun w => Numeral.hexChars 3 w.toNat)
      (headText number location)).length < labelColumn := by
  have hhead := length_headText h location
  cases word with
  | none =>
    show (headText number location).length < 24
    omega
  | some w =>
    have hword := Numeral.length_hexChars (by decide : 0 < 3) w.isLt
    show (addField 12 (Numeral.hexChars 3 w.toNat) (headText number location)).length < 24
    rw [addField_eq, List.length_append, List.length_append, List.length_replicate, hword]
    omega

end Listing

/-! ### From the label column on -/

/-- A line as it is listed from the label column on. -/
def Line.text (line : Line) : List Char :=
  let statement := line.statement.map statementText
  (line.label.map labelText).getD []
    |> addField? (mnemonicColumn - labelColumn) (statement.map Prod.fst)
    |> addField? (operandColumn - labelColumn) (statement.map Prod.snd)
    |> addField? (commentColumn - labelColumn) line.comment

/-- **The listing holds the line from the label column on.** -/
theorem drop_entryChars {number : Nat} (h : number < 100000) (p : Placed) (word : Option Word) :
    (entryChars number p word).drop labelColumn = p.line.text := by
  simp only [entryChars, Line.text]
  rw [drop_addField? (by decide), drop_addField? (by decide), drop_addField? (by decide),
    drop_addField?_self (length_wordField h p.location word)]

end Microcore.Assembly
