/-
  Microcore/Instruction/Text.lean
  ===============================
  **Instructions as assembler text.**  A register operand is written after a percent sign, or by
  the name of its index-register mode; every other operand is written as two hexadecimal digits.
-/
import Microcore.Instruction.Table

namespace Microcore

namespace Operand

/-- The written form of the operands that name the index registers. -/
def names : List (Byte × List Char) :=
  [(0xF8, ['%', 'I', 'X']), (0xF9, ['%', 'I', 'Y']), (0xFA, ['@', 'I', 'X']),
   (0xFB, ['@', 'I', 'Y']), (0xFC, ['@', 'I', 'X', '+']), (0xFD, ['@', 'I', 'Y', '+']),
   (0xFE, ['@', '-', 'I', 'X']), (0xFF, ['@', '-', 'I', 'Y'])]

def name? (operand : Byte) : Option (List Char) := names.lookup operand

def ofName? (name : List Char) : Option Byte :=
  (names.find? fun entry => entry.2 = name).map Prod.fst

/-- Operands that name the index registers are exactly those with a name. -/
theorem isSome_name? (operand : Byte) : (name? operand).isSome = isIndexed operand := by
  revert operand
  decide

theorem ofName?_name? {operand : Byte} {name : List Char} (h : name? operand = some name) :
    ofName? name = some operand := by
  have key : ∀ b : Byte, ∀ n ∈ name? b, ofName? n = some b := by decide
  exact key operand name h

end Operand

namespace Instruction

def operandText (i : Instruction) (operand : Byte) : List Char :=
  match i.kind with
  | .register =>
    match Operand.name? operand with
    | some name => name
    | none => '%' :: Numeral.hexChars 2 operand.toNat
  | _ => Numeral.hexChars 2 operand.toNat

end Instruction

def Word.disassemble (w : Word) : List Char :=
  w.instruction.mnemonic.toList ++ ' ' :: w.instruction.operandText w.operand

end Microcore
