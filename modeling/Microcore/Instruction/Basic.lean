/-
  Microcore/Instruction/Basic.lean
  ================================
  **Instructions and their control words.**  A twelve-bit instruction word is laid out as

      11  9   8   7       0
      +----+-----+--------+
      | op | imm | operand|
      +----+-----+--------+

  The three opcode bits and the immediate bit together are the instruction's code.  Decoding turns
  a code into a control word, which travels with the instruction into the execute stage.
-/
import Microcore.Alu
import Microcore.Addressing
import Microcore.Text.Numeral
import Microcore.Text.Quoted

namespace Microcore

abbrev Code := BitVec 4

/-- The eight operations that the opcode bits select. -/
inductive Opcode where
  | and
  | xor
  | add
  | sub
  | branch
  | jump
  | load
  | store
deriving DecidableEq, Repr

/-- How an operand field is written and interpreted. -/
inductive OperandKind where
  | register
  | immediate
  | label
deriving DecidableEq, Repr

/-- When an instruction redirects the program counter from the decode stage. -/
inductive Condition where
  | never
  | always
  | carryClear
  | zeroClear
deriving DecidableEq, Repr

/-- The control signals that decoding latches and execution consumes. -/
structure ControlWord where
  aluOp : AluOp := .and
  immediate : Bool := false
  registerJump : Bool := false
  load : Bool := false
  store : Bool := false
  accWrite : Bool := false
  zfWrite : Bool := false
  cfWrite : Bool := false
deriving DecidableEq, Repr

/-- What is wrong with an instruction or a set of instructions. -/
inductive InstructionFault where
  | codeOutOfRange (code : Int)
  | mnemonicLength (mnemonic : String)
  | unknownOpcode (opcode : Int)
  /-- A code out of range that has more digits than the host writes, or its opcode has. -/
  | unshownNumber (most : Nat)
  | duplicateCode (code : Code) (holder : String)
  | missingCodes (codes : List Code)
deriving DecidableEq, Repr

def InstructionFault.message : InstructionFault → String
  | codeOutOfRange code => s!"instruction code out of range: {Numeral.decimal code}"
  | mnemonicLength mnemonic => s!"mnemonic must have three letters: {Quoted.quote mnemonic}"
  | unknownOpcode opcode => s!"{Numeral.decimal opcode} is not a valid Opcode"
  | unshownNumber most => Numeral.tooLongMessage most
  | duplicateCode code holder =>
    s!"code {Numeral.hexMarked 3 code.toNat} already registered as {holder}"
  | missingCodes codes =>
    let numbers := codes.map fun code => Numeral.decimal code.toNat
    "instruction codes without an entry: [" ++ ", ".intercalate numbers ++ "]"

namespace Code

def opcode (code : Code) : Opcode :=
  match code.toNat / 2 with
  | 0 => .and
  | 1 => .xor
  | 2 => .add
  | 3 => .sub
  | 4 => .branch
  | 5 => .jump
  | 6 => .load
  | _ => .store

def immediate (code : Code) : Bool := code.toNat % 2 = 1

end Code

namespace Opcode

def aluOp : Opcode → AluOp
  | and | branch => .and
  | xor | jump => .xor
  | add | load => .add
  | sub | store => .sub

/-- Whether an operation puts the arithmetic unit's flags to use. -/
def isArithmetic : Opcode → Bool
  | and | xor | add | sub => true
  | branch | jump | load | store => false

end Opcode

namespace ControlWord

def nop : ControlWord := {}

/-- The control word of a code.  The immediate form of subtraction compares: it sets the flags and
    leaves the accumulator alone. -/
def ofCode (code : Code) : ControlWord :=
  let opcode := code.opcode
  let immediate := code.immediate
  let arithmetic := opcode.isArithmetic
  let compare := opcode = .sub && immediate
  let load := opcode = .load
  { aluOp := opcode.aluOp
    immediate
    registerJump := opcode = .jump && !immediate
    load
    store := opcode = .store && !immediate
    accWrite := load || (arithmetic && !compare)
    zfWrite := arithmetic
    cfWrite := opcode = .add || opcode = .sub }

def ofNumber? (code : Int) (host : Host := .usual) : Except InstructionFault ControlWord :=
  if 0 ≤ code ∧ code < 16 then .ok (ofCode (BitVec.ofInt 4 code))
  else .error (host.naming (code / 2) .unknownOpcode .unshownNumber)

end ControlWord

/-- An entry of an instruction set. -/
structure Instruction where
  code : Code
  mnemonic : String
  kind : OperandKind
  condition : Condition := .never
  /-- Reserved instructions have a code and a mnemonic but do nothing. -/
  reserved : Bool := false
  length_mnemonic : mnemonic.length = 3 := by decide
deriving DecidableEq, Repr

namespace Instruction

/-- An entry from its parts, which have to be a code and a mnemonic of three letters. -/
def make? (code : Int) (mnemonic : String) (kind : OperandKind) (condition : Condition)
    (reserved : Bool) (host : Host := .usual) : Except InstructionFault Instruction :=
  if 0 ≤ code ∧ code < 16 then
    if h : mnemonic.length = 3 then
      .ok ⟨BitVec.ofInt 4 code, mnemonic, kind, condition, reserved, h⟩
    else .error (.mnemonicLength mnemonic)
  else .error (host.naming code .codeOutOfRange .unshownNumber)

def opcode (i : Instruction) : Opcode := i.code.opcode

def immediate (i : Instruction) : Bool := i.code.immediate

def control (i : Instruction) : ControlWord :=
  if i.reserved then .nop else .ofCode i.code

/-- Whether the operands `F8` to `FF` of an instruction select the index-register modes. -/
def usesIndexRegisters (i : Instruction) : Bool := i.kind = .register && !i.reserved

def encode (i : Instruction) (operand : Byte) : Word := i.code ++ operand

theorem toNat_encode (i : Instruction) (operand : Byte) :
    (i.encode operand).toNat = i.code.toNat * 256 + operand.toNat := by
  have := operand.isLt
  simp only [encode, BitVec.toNat_append]
  rw [← Nat.shiftLeft_add_eq_or_of_lt this, Nat.shiftLeft_eq]

end Instruction

end Microcore
