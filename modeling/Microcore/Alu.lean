/-
  Microcore/Alu.lean
  ==================
  **The four-function arithmetic unit.**  The logical functions force the carry low, addition
  reports the carry out of bit seven and subtraction reports a borrow as carry.
-/
import Microcore.Word

namespace Microcore

/-- The function that an instruction selects. -/
inductive AluOp where
  | and
  | xor
  | add
  | sub
deriving DecidableEq, Repr

/-- What the unit drives on its outputs. -/
structure AluResult where
  value : Byte
  carry : Bool
deriving DecidableEq, Repr

namespace AluOp

/-- The function with a given select number.  Numbers outside the table select the last function. -/
def ofSelect (select : Int) : AluOp :=
  if select = 0 then and
  else if select = 1 then xor
  else if select = 2 then add
  else sub

def apply (op : AluOp) (a b : Byte) : AluResult :=
  match op with
  | and => ⟨a &&& b, false⟩
  | xor => ⟨a ^^^ b, false⟩
  | add => ⟨a + b, decide (255 < a.toNat + b.toNat)⟩
  | sub => ⟨a - b, decide (a.toNat < b.toNat)⟩

end AluOp

def AluResult.zero (r : AluResult) : Bool := r.value = 0

namespace AluOp

/-- A sum and its carry together are the exact sum of the inputs. -/
theorem apply_add (a b : Byte) :
    ((add.apply a b).value.toNat + if (add.apply a b).carry then 256 else 0) = a.toNat + b.toNat := by
  have ha := a.isLt
  have hb := b.isLt
  simp only [apply, BitVec.toNat_add, decide_eq_true_eq]
  split <;> omega

/-- A difference, taken back by its borrow, is the exact difference of the inputs. -/
theorem apply_sub (a b : Byte) :
    (sub.apply a b).value.toNat + b.toNat = a.toNat + if (sub.apply a b).carry then 256 else 0 := by
  have ha := a.isLt
  have hb := b.isLt
  simp only [apply, BitVec.toNat_sub, decide_eq_true_eq]
  split <;> omega

end AluOp

end Microcore
