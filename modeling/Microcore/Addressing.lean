/-
  Microcore/Addressing.lean
  =========================
  **Operand addressing modes and the two index registers.**  Operands `F8` to `FF` of a
  register-addressed instruction name the index registers instead of a data-memory location:

      F8 %IX   F9 %IY     the register itself, as the target of a store
      FA @IX   FB @IY     memory at the address held in the register
      FC @IX+  FD @IY+    same, then the register is incremented
      FE @-IX  FF @-IY    register decremented first, then memory at it

  Bit 0 selects the register, bit 2 enables the automatic update and bit 1 then picks
  pre-decrement over post-increment.  Updates wrap modulo 256.
-/
import Microcore.Word

namespace Microcore

/-- How a register operand turns into the address of a data-memory cell. -/
inductive AddressingMode where
  | direct
  | indirect
  | postIncrement
  | preDecrement
deriving DecidableEq, Repr

/-- The two index registers. -/
inductive IndexRegister where
  | ix
  | iy
deriving DecidableEq, Repr

/-- The contents of both index registers. -/
structure IndexRegisters where
  ix : Int
  iy : Int
deriving DecidableEq, Repr

namespace IndexRegisters

def get (registers : IndexRegisters) : IndexRegister → Int
  | .ix => registers.ix
  | .iy => registers.iy

def set (registers : IndexRegisters) (register : IndexRegister) (value : Int) : IndexRegisters :=
  match register with
  | .ix => { registers with ix := unsigned (Byte.ofInt value) }
  | .iy => { registers with iy := unsigned (Byte.ofInt value) }

end IndexRegisters

namespace Operand

/-- Whether an operand lies in the range that names the index registers. -/
def isIndexed (operand : Byte) : Bool := 0xF8 ≤ operand.toNat

def mode (operand : Byte) : AddressingMode :=
  if operand.toNat < 0xFA then .direct
  else if operand.toNat < 0xFC then .indirect
  else if operand.toNat < 0xFE then .postIncrement
  else .preDecrement

def register (operand : Byte) : IndexRegister :=
  if operand.toNat % 2 = 0 then .ix else .iy

/-- The index register that a store to the operand writes, if any. -/
def storeTarget? (operand : Byte) : Option IndexRegister :=
  if operand.toNat = 0xF8 ∨ operand.toNat = 0xF9 then some (register operand) else none

end Operand

/-- The data-memory address of an operand, and the index registers it leaves behind. -/
structure Resolution where
  address : Int
  mode : AddressingMode
  registers : IndexRegisters
deriving DecidableEq, Repr

/-- Resolve an operand against the index registers.  Post-increment takes the address from the
    register as it is and leaves it incremented; pre-decrement takes the address from the register
    already decremented. -/
def resolve (operand : Byte) (registers : IndexRegisters) : Resolution :=
  let register := Operand.register operand
  let current := registers.get register
  match Operand.mode operand with
  | .direct => ⟨unsigned operand, .direct, registers⟩
  | .indirect => ⟨current, .indirect, registers⟩
  | .postIncrement => ⟨current, .postIncrement, registers.set register (current + 1)⟩
  | .preDecrement =>
    ⟨unsigned (Byte.ofInt (current - 1)), .preDecrement, registers.set register (current - 1)⟩

/-- What a store of `value` to an operand does to the index registers: it writes the register that
    the operand names as a target, and leaves them alone otherwise. -/
def storeIndex (operand : Byte) (value : Int) (registers : IndexRegisters) : IndexRegisters :=
  match Operand.storeTarget? operand with
  | some register => registers.set register value
  | none => registers

namespace IndexRegisters

/-- A written register holds the low eight bits of what was written. -/
@[simp] theorem get_set_self (registers : IndexRegisters) (r : IndexRegister) (value : Int) :
    (registers.set r value).get r = value % 256 := by
  cases r <;> simp [get, set]

theorem get_set_of_ne {r s : IndexRegister} (registers : IndexRegisters) (value : Int)
    (h : s ≠ r) : (registers.set r value).get s = registers.get s := by
  cases r <;> cases s <;> simp_all [get, set]

end IndexRegisters

end Microcore
