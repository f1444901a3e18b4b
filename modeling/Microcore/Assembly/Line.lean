/-
  Microcore/Assembly/Line.lean
  ============================
  **Source lines of the assembler.**  The words of a line, between white space and in either case,
  are

      [$label] [MNEMONIC OPERAND] [comment]
      [$label] ; comment

  A label is `$` and up to four decimal digits.  An operand is a byte in hexadecimal (`0A`), a
  register (`%0A`), the name of an index-register mode or, for branches and jumps, a label.
  `ORG hh` moves the location counter.  Whatever follows the operand is comment.
-/
import Microcore.Instruction.Text
import Microcore.Text.Blank
import Microcore.Text.Letter

namespace Microcore.Assembly

/-! ### Lines -/

/-- What an instruction works on. -/
inductive Argument where
  | literal (value : Byte)
  | label (number : Nat)
deriving DecidableEq, Repr

/-- What a line tells the assembler to do. -/
inductive Statement where
  | origin (address : Byte)
  | instruction (i : Instruction) (argument : Argument)
deriving DecidableEq, Repr

/-- The meaning of a line. -/
structure Line where
  label : Option Nat := none
  statement : Option Statement := none
  comment : Option (List Char) := none
deriving DecidableEq, Repr

/-! ### Faults -/

/-- What is wrong with a line. -/
inductive Problem where
  | label
  | word
  | missingOperand
  | operand
  | labelOperand
  | indexOperand
  | registerOperand
  | noRegisterOperand
deriving DecidableEq, Repr

/-- What is wrong with a line, and the word that shows it. -/
structure Fault where
  problem : Problem
  word : List Char
deriving DecidableEq, Repr

def Problem.message : Problem → String
  | label => "incorrect label"
  | word => "unexpected token"
  | missingOperand => "missing operand after"
  | operand => "incorrect operand"
  | labelOperand => "incorrect label operand"
  | indexOperand => "not allowed indexed mode operand"
  | registerOperand => "not allowed reg operand"
  | noRegisterOperand => "reg operand required, possibly add \"%\" prefix to"

/-! ### Words -/

def maxLabelDigits : Nat := 4

def labelNumber? : List Char → Option Nat
  | '$' :: digits => do
    let values ← digits.mapM Digit.value?
    if 0 < values.length ∧ values.length ≤ maxLabelDigits then some (Digit.number 10 values) else none
  | _ => none

def hexDigit? (c : Char) : Option Nat :=
  if '0' ≤ c ∧ c ≤ '9' then some (c.toNat - '0'.toNat)
  else if 'A' ≤ c ∧ c ≤ 'F' then some (c.toNat - 'A'.toNat + 10)
  else none

def hexByte? : List Char → Option Byte
  | [c] => (hexDigit? c).map (BitVec.ofNat 8)
  | [c, d] => do return BitVec.ofNat 8 ((← hexDigit? c) * 16 + (← hexDigit? d))
  | _ => none

/-- What a line's main word stands for. -/
inductive Keyword where
  | origin
  | instruction (i : Instruction)
deriving DecidableEq, Repr

def keyword? (word : List Char) : Option Keyword :=
  if word = ['O', 'R', 'G'] then some .origin
  else (Instruction.ofMnemonic? (String.ofList word)).map .instruction

/-! ### Operands -/

def literal? (kind : OperandKind) (word : List Char) : Except Fault Byte :=
  let upper := Letter.upper word
  let byte (digits : List Char) : Except Fault Byte :=
    match hexByte? digits with
    | some value => .ok value
    | none => .error ⟨.operand, word⟩
  match Operand.ofName? upper, upper with
  | _, '$' :: _ => .error ⟨.operand, word⟩
  | some value, _ => if kind = .register then .ok value else .error ⟨.indexOperand, word⟩
  | none, '%' :: digits =>
    if kind = .register then byte digits else .error ⟨.registerOperand, word⟩
  | none, digits =>
    if kind = .register then .error ⟨.noRegisterOperand, word⟩ else byte digits

/-- An operand of the given kind.  Only branches and jumps take labels. -/
def argument? (kind : OperandKind) (word : List Char) : Except Fault Argument :=
  let upper := Letter.upper word
  if kind = .label ∧ upper.head? = some '$' then
    match labelNumber? upper with
    | some number => .ok (.label number)
    | none => .error ⟨.labelOperand, upper⟩
  else (literal? kind word).map .literal

def Keyword.statement? (keyword : Keyword) (operand : List Char) : Except Fault Statement :=
  match keyword with
  | origin => (literal? .immediate operand).map .origin
  | instruction i => (argument? i.kind operand).map (.instruction i)

/-! ### Parsing -/

/-- The comment that a line ends with: what is left of it from the next word on. -/
def comment? (rest : List Char) : Option (List Char) :=
  match Blank.skip Blank.isBlank rest with
  | [] => none
  | comment => some comment

def Line.parseBody (text : List Char) : Except Fault Line :=
  match Blank.nextWord? text with
  | none => .ok {}
  | some (word, rest) =>
    let upper := Letter.upper word
    if upper.head? = some ';' then .ok { comment := comment? text }
    else match keyword? upper with
      | none => .error ⟨.word, word⟩
      | some keyword =>
        match Blank.nextWord? rest with
        | none => .error ⟨.missingOperand, word⟩
        | some (operand, rest) =>
          (keyword.statement? operand).map fun statement =>
            { statement := some statement, comment := comment? rest }

def Line.parse (text : List Char) : Except Fault Line :=
  match Blank.nextWord? text with
  | some ('$' :: digits, rest) =>
    match labelNumber? ('$' :: digits) with
    | some number => (parseBody rest).map fun line => { line with label := some number }
    | none => .error ⟨.label, '$' :: digits⟩
  | _ => parseBody text

end Microcore.Assembly
