/-
  Microcore/Pipeline/Writeback.lean
  =================================
  **The execute stage's results.**  They are computed before anything is committed, and the decode
  stage reads them through the selections below, so a branch right after an instruction that sets a
  flag, or a store to an index register right after one that sets the accumulator, needs no stall.
-/
import Microcore.Instruction.Basic

namespace Microcore

/-- What the execute stage commits at the next clock edge. -/
structure Writeback where
  value : Byte
  carry : Bool
  zero : Bool
  accWrite : Bool
  cfWrite : Bool
  zfWrite : Bool
deriving DecidableEq, Repr

namespace Writeback

def accumulator (w : Writeback) (registered : Int) : Int :=
  if w.accWrite then unsigned w.value else registered

def carryFlag (w : Writeback) (registered : Bool) : Bool :=
  if w.cfWrite then w.carry else registered

def zeroFlag (w : Writeback) (registered : Bool) : Bool :=
  if w.zfWrite then w.zero else registered

end Writeback

/-- Run the execute stage.  The operand is the latched operand field or the byte read from data
    memory, as the control word says; a stage that is not enabled writes nothing. -/
def ControlWord.execute (control : ControlWord) (acc immediate data : Byte) (enabled : Bool) :
    Writeback :=
  let operand := if control.immediate then immediate else data
  let result := control.aluOp.apply acc operand
  { value := if control.load then operand else result.value
    carry := result.carry
    zero := result.zero
    accWrite := enabled && control.accWrite
    cfWrite := enabled && control.cfWrite
    zfWrite := enabled && control.zfWrite }

end Microcore
