/-
  Microcore/Instruction/Table.lean
  ================================
  **Instruction sets.**  A table is built by adding instructions one after the other; it is
  complete when each of the sixteen codes has an entry.  The machine's own set is `standard`, and
  decoding looks a word's code up in it.
-/
import Microcore.Instruction.Basic

namespace Microcore

namespace Instruction

/-! ### Building a table -/

abbrev Slots := Code → Option Instruction

def codes : List Code := (List.range 16).map (BitVec.ofNat 4)

def Slots.empty : Slots := fun _ => none

def Slots.add (slots : Slots) (i : Instruction) : Except InstructionFault Slots :=
  match slots i.code with
  | some holder => .error (.duplicateCode i.code holder.mnemonic)
  | none => .ok fun code => if code = i.code then some i else slots code

def Slots.addAll (slots : Slots) : List Instruction → Except InstructionFault Slots
  | [] => .ok slots
  | i :: rest => do addAll (← slots.add i) rest

/-- The entries in the order of their codes, if none is missing. -/
def Slots.complete? (slots : Slots) : Except InstructionFault (List Instruction) :=
  match codes.filter fun code => (slots code).isNone with
  | [] => .ok (codes.filterMap slots)
  | missing => .error (.missingCodes missing)

def table? (instructions : List Instruction) : Except InstructionFault (List Instruction) := do
  (← Slots.empty.addAll instructions).complete?

/-! ### The machine's instruction set -/

def standard : List Instruction :=
  [{ code := 0, mnemonic := "ANA", kind := .register },
   { code := 1, mnemonic := "ANI", kind := .immediate },
   { code := 2, mnemonic := "XRA", kind := .register },
   { code := 3, mnemonic := "XRI", kind := .immediate },
   { code := 4, mnemonic := "ADA", kind := .register },
   { code := 5, mnemonic := "ADI", kind := .immediate },
   { code := 6, mnemonic := "SBA", kind := .register },
   { code := 7, mnemonic := "SBI", kind := .immediate },
   { code := 8, mnemonic := "BNC", kind := .label, condition := .carryClear },
   { code := 9, mnemonic := "BNZ", kind := .label, condition := .zeroClear },
   { code := 10, mnemonic := "JPR", kind := .register },
   { code := 11, mnemonic := "JMP", kind := .label, condition := .always },
   { code := 12, mnemonic := "LDA", kind := .register },
   { code := 13, mnemonic := "LDI", kind := .immediate },
   { code := 14, mnemonic := "STA", kind := .register },
   { code := 15, mnemonic := "STX", kind := .register, reserved := true }]

theorem length_standard : standard.length = 16 := rfl

def ofCode (code : Code) : Instruction :=
  standard.get ⟨code.toNat, by rw [length_standard]; exact code.isLt⟩

@[simp] theorem code_ofCode (code : Code) : (ofCode code).code = code := by
  revert code
  decide

theorem ofCode_mem_standard (c : Code) : ofCode c ∈ standard := List.get_mem _ _

def ofMnemonic? (mnemonic : String) : Option Instruction :=
  standard.find? fun i => i.mnemonic = mnemonic

end Instruction

namespace Word

def code (w : Word) : Code := w.extractLsb' 8 4

def operand (w : Word) : Byte := w.extractLsb' 0 8

def instruction (w : Word) : Instruction := Instruction.ofCode w.code

theorem encode_instruction (w : Word) : w.instruction.encode w.operand = w := by
  apply BitVec.eq_of_toNat_eq
  have := w.isLt
  simp only [Instruction.toNat_encode, instruction, Instruction.code_ofCode, code, operand,
    BitVec.extractLsb'_toNat, Nat.shiftRight_eq_div_pow]
  omega

end Word

end Microcore
