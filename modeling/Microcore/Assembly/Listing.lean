/-
  Microcore/Assembly/Listing.lean
  ===============================
  **The listing.**  Each source line is listed with its number and location, and from fixed columns
  on with its word, label, mnemonic, operand and comment.  A field that would start left of the end
  of the text before it follows after one blank.
-/
import Microcore.Assembly.Layout

namespace Microcore.Assembly.Listing

def wordColumn : Nat := 12

def labelColumn : Nat := 24

def mnemonicColumn : Nat := 32

def operandColumn : Nat := 40

def commentColumn : Nat := 48

def addField (column : Nat) (field text : List Char) : List Char :=
  if text.length < column then Numeral.padEnd column text ++ field else text ++ ' ' :: field

def addField? (column : Nat) (field : Option (List Char)) (text : List Char) : List Char :=
  match field with
  | some field => addField column field text
  | none => text

def labelText (number : Nat) : List Char := '$' :: Numeral.decimalChars 0 number

def byteText (value : Byte) : List Char := Numeral.padStart 3 (Numeral.hexChars 2 value.toNat)

def argumentText (kind : OperandKind) : Argument → List Char
  | .label number => labelText number
  | .literal value =>
    if kind = .register then '%' :: Numeral.hexChars 2 value.toNat else byteText value

def statementText : Statement → List Char × List Char
  | .origin address => (['O', 'R', 'G'], byteText address)
  | .instruction i argument => (i.mnemonic.toList, argumentText i.kind argument)

def headText (number : Nat) (location : Byte) : List Char :=
  Numeral.padStart 4 (Numeral.decimalChars 0 number) ++ [':', ' ', ' ', ' '] ++
    Numeral.hexChars 2 location.toNat

def entryChars (number : Nat) (p : Placed) (word : Option Word) : List Char :=
  let statement := p.line.statement.map statementText
  headText number p.location
    |> addField? wordColumn (word.map fun w => Numeral.hexChars 3 w.toNat)
    |> addField? labelColumn (p.line.label.map labelText)
    |> addField? mnemonicColumn (statement.map Prod.fst)
    |> addField? operandColumn (statement.map Prod.snd)
    |> addField? commentColumn p.line.comment

def entry (labels : Labels) (number : Nat) (p : Placed) : String :=
  String.ofList (entryChars number p (p.word? labels))

def header (name ordinal : String) : List String :=
  [s!" ---- Source file: {name}. {ordinal} pass assembler listing. ----", ""]

/-! ### Messages -/

def redefinedMessage (number : Nat) : String :=
  s!"Warning: multiple definitions of label \"${Numeral.decimal number}\", " ++
    "the last definition wins."

/-- The message on a reference to a label without a definition. -/
def undefinedMessage (number : Nat) : String :=
  s!"Error: label \"${Numeral.decimal number}\" is not defined. Operand left uninitialized."

def faultHead (fault : Fault) : String :=
  s!"Syntax error: {fault.problem.message} \"{String.ofList fault.word}\". " ++
    "The source line is ignored."

/-- The second line of the message on a fault: the number of the line and its text. -/
def faultTail (number : Nat) (text : List Char) : String :=
  String.ofList (Numeral.padStart 4 (Numeral.decimalChars 0 number) ++ [':', '\t', '\t', '\t'] ++ text)

def faultMessage (number : Nat) (text : List Char) (fault : Fault) : String :=
  faultHead fault ++ "\n" ++ faultTail number text

end Microcore.Assembly.Listing
