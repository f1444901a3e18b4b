/-
  Microcore/Proofs/Instruction.lean
  =================================
  **The sequential machine, stage by stage.**  What an instruction does to the sequential machine is
  split between the two stages that work on it (`staged`): the decode stage takes the jumps and
  changes the index registers, the execute stage does the rest.  `execute_eq_staged` says that
  nothing is lost, and `resolve_eq_index` and `storeIndex_eq` that the core's addressing modes are
  those of the sequential machine.
-/
import Mathlib.Tactic.IntervalCases
import Microcore.Pipeline.Tick
import Microcore.Proofs.Sequential

namespace Microcore

/-! ### Fields of a word -/

theorem Word.toNat_code (w : Word) : w.code.toNat = w.toNat / 256 := by
  have hlt := w.isLt
  simp only [Word.code, BitVec.extractLsb'_toNat, Nat.shiftRight_eq_div_pow]
  omega

theorem Word.operand_eq (w : Word) : w.operand = BitVec.ofNat 8 w.toNat := by
  apply BitVec.eq_of_toNat_eq
  simp only [Word.operand, BitVec.extractLsb'_toNat, BitVec.toNat_ofNat, Nat.shiftRight_zero]

/-- A word is split into the code and the operand that it is put together from. -/
theorem Word.fields_of_toNat {w : Word} {c : Code} {b : Byte}
    (h : w.toNat = c.toNat * 256 + b.toNat) : w.code = c ∧ w.operand = b := by
  have hb := b.isLt
  constructor
  · apply BitVec.eq_of_toNat_eq
    rw [Word.toNat_code, h]
    omega
  · apply BitVec.eq_of_toNat_eq
    rw [Word.operand_eq, BitVec.toNat_ofNat, h]
    omega

theorem Code.exists_lt (c : Code) : ∃ n < 16, c = BitVec.ofNat 4 n :=
  ⟨c.toNat, c.isLt, by rw [BitVec.ofNat_toNat, BitVec.setWidth_eq]⟩

/-! ### Bytes as numbers -/

theorem byte_ofInt_add_one (b : Byte) : Byte.ofInt (unsigned b + 1) = b + 1 := by
  apply BitVec.eq_of_toNat_eq
  simp only [Byte.ofInt, unsigned, BitVec.toNat_ofInt, BitVec.toNat_add, BitVec.ofNat_eq_ofNat,
    BitVec.toNat_ofNat]
  omega

theorem byte_ofInt_sub_one (b : Byte) : Byte.ofInt (unsigned b - 1) = b - 1 := by
  apply BitVec.eq_of_toNat_eq
  have hlt := b.isLt
  simp only [Byte.ofInt, unsigned, BitVec.toNat_ofInt, BitVec.toNat_sub, BitVec.ofNat_eq_ofNat,
    BitVec.toNat_ofNat]
  omega

theorem unsigned_add_one (b : Byte) : unsigned (b + 1) = (unsigned b + 1) % 256 := by
  rw [← byte_ofInt_add_one, unsigned_byte_ofInt]

theorem byte_eq_zero_iff (b : Byte) : b = 0 ↔ b.toNat = 0 := by
  rw [← BitVec.toNat_inj]
  rfl

/-! ### Arithmetic -/

namespace Sequential

variable (s : Sequential)

theorem setSum_eq (b : Byte) : s.setSum b =
    let r := AluOp.add.apply s.acc b
    { s with acc := r.value, zf := r.zero, cf := r.carry } := by
  have hvalue : BitVec.ofNat 8 (s.acc.toNat + b.toNat) = s.acc + b := by
    apply BitVec.eq_of_toNat_eq
    rw [BitVec.toNat_add, BitVec.toNat_ofNat]
  have hzero : s.acc + b = 0 ↔ (s.acc.toNat + b.toNat) % 256 = 0 := by
    rw [byte_eq_zero_iff, BitVec.toNat_add]
  simp only [setSum, AluOp.apply, AluResult.zero, hvalue, hzero, Nat.lt_iff_add_one_le]

theorem compare_eq (b : Byte) : s.compare b =
    let r := AluOp.sub.apply s.acc b
    { s with zf := r.zero, cf := r.carry } := by
  have ha := s.acc.isLt
  have hb := b.isLt
  have hzero : s.acc - b = 0 ↔ ((s.acc.toNat : Int) - b.toNat) % 256 = 0 := by
    rw [byte_eq_zero_iff, BitVec.toNat_sub]
    omega
  have hcarry : (s.acc.toNat : Int) - b.toNat < 0 ↔ s.acc.toNat < b.toNat := by omega
  simp only [compare, AluOp.apply, AluResult.zero, hzero, hcarry]

theorem setDifference_eq (b : Byte) : s.setDifference b =
    let r := AluOp.sub.apply s.acc b
    { s with acc := r.value, zf := r.zero, cf := r.carry } := by
  have hvalue : BitVec.ofInt 8 (s.acc.toNat - b.toNat) = s.acc - b := by
    apply BitVec.eq_of_toNat_eq
    have ha := s.acc.isLt
    have hb := b.isLt
    simp only [BitVec.toNat_sub, BitVec.toNat_ofInt]
    omega
  simp only [setDifference, compare_eq, hvalue]
  rfl

end Sequential

/-! ### The decode stage -/

namespace Sequential

variable (s : Sequential)

def indexRegisters : IndexRegisters := ⟨unsigned s.ix, unsigned s.iy⟩

/-- The data address that the instruction leaves for the execute stage. -/
def address (c : Code) (op : Byte) : Byte :=
  if (Instruction.ofCode c).usesIndexRegisters then (s.index op).address else op

theorem index_of_lt {op : Byte} (h : op.toNat < 0xFA) : s.index op = ⟨op, s.ix, s.iy⟩ := by
  simp only [index]
  split <;> first | rfl | omega

theorem resolve_eq_index (op : Byte) :
    (resolve op s.indexRegisters).address = unsigned (s.index op).address ∧
      (resolve op s.indexRegisters).registers =
        ⟨unsigned (s.index op).ix, unsigned (s.index op).iy⟩ := by
  by_cases hdirect : op.toNat < 0xFA
  · simp only [resolve, Operand.mode, if_pos hdirect, s.index_of_lt hdirect]
    exact ⟨trivial, rfl⟩
  · have hlt := op.isLt
    obtain rfl | rfl | rfl | rfl | rfl | rfl : op = 0xFA ∨ op = 0xFB ∨ op = 0xFC ∨ op = 0xFD ∨
        op = 0xFE ∨ op = 0xFF := by
      simp only [← BitVec.toNat_inj, BitVec.ofNat_eq_ofNat, BitVec.toNat_ofNat]
      omega
    all_goals
      simp [resolve, Operand.mode, Operand.register, indexRegisters, IndexRegisters.get,
        IndexRegisters.set, index, byte_ofInt_add_one, byte_ofInt_sub_one, -unsigned_byte_ofInt]

/-- A store to an index register puts the accumulator there. -/
theorem storeIndex_eq (op a x y : Byte) :
    storeIndex op (unsigned a) ⟨unsigned x, unsigned y⟩ =
      ⟨unsigned (if op = 0xF8 then a else x), unsigned (if op = 0xF9 then a else y)⟩ := by
  by_cases hx : op = 0xF8
  · subst hx
    simp [storeIndex, Operand.storeTarget?, Operand.register, IndexRegisters.set,
      -unsigned_byte_ofInt]
  · by_cases hy : op = 0xF9
    · subst hy
      simp [storeIndex, Operand.storeTarget?, Operand.register, IndexRegisters.set,
        -unsigned_byte_ofInt]
    · have hne : ¬(op.toNat = 0xF8 ∨ op.toNat = 0xF9) := by
        simp only [← BitVec.toNat_inj, BitVec.ofNat_eq_ofNat, BitVec.toNat_ofNat] at hx hy
        omega
      simp only [storeIndex, Operand.storeTarget?, if_neg hne, if_neg hx, if_neg hy]

/-! ### Instruction by instruction -/

/-- The instruction as the two stages carry it out: the decode stage takes the jumps and changes the
    index registers, the execute stage does the rest. -/
def staged (c : Code) (op : Byte) : Sequential :=
  let i := Instruction.ofCode c
  let w := i.control.execute s.acc op (s.ram (s.address c op)) true
  let index := if i.usesIndexRegisters then s.index op else ⟨op, s.ix, s.iy⟩
  { pc := if i.control.registerJump then s.ram (s.address c op)
      else if i.condition.holds s.cf s.zf then op else s.pc + 1
    acc := if w.accWrite then w.value else s.acc
    cf := w.carryFlag s.cf
    zf := w.zeroFlag s.zf
    ix := if i.control.store then if op = 0xF8 then s.acc else index.ix else index.ix
    iy := if i.control.store then if op = 0xF9 then s.acc else index.iy else index.iy
    ram := if i.control.store then fun a => if a = s.address c op then s.acc else s.ram a
      else s.ram }

theorem execute_eq_staged (c : Code) (op : Byte) : s.execute c.toNat op = s.staged c op := by
  -- one case for each code; both sides compute, once sums and differences are those of the
  -- arithmetic unit and the flags of a branch are known
  obtain ⟨n, hn, rfl⟩ := c.exists_lt
  interval_cases n
  case «4» | «5» => exact (setSum_eq _ _).trans rfl
  case «6» => exact (setDifference_eq _ _).trans rfl
  case «7» => exact (compare_eq _ _).trans rfl
  case «8» | «9» =>
    obtain ⟨pc, acc, cf, zf, ix, iy, ram⟩ := s
    cases cf <;> cases zf <;> rfl
  all_goals rfl

theorem usesIndexRegisters_of_store (c : Code) (h : (Instruction.ofCode c).control.store = true) :
    (Instruction.ofCode c).usesIndexRegisters = true := by
  revert c
  decide

theorem indexRegisters_staged (c : Code) (op : Byte) : (s.staged c op).indexRegisters =
    if (Instruction.ofCode c).usesIndexRegisters then
      if (Instruction.ofCode c).control.store then
        storeIndex op (unsigned s.acc) ⟨unsigned (s.index op).ix, unsigned (s.index op).iy⟩
      else ⟨unsigned (s.index op).ix, unsigned (s.index op).iy⟩
    else s.indexRegisters := by
  simp only [indexRegisters, staged, storeIndex_eq]
  by_cases hstore : (Instruction.ofCode c).control.store = true
  · have huses := usesIndexRegisters_of_store c hstore
    simp only [if_pos hstore, if_pos huses]
  · simp only [if_neg hstore]
    by_cases huses : (Instruction.ofCode c).usesIndexRegisters = true
    · simp only [if_pos huses]
    · simp only [if_neg huses]

/-! ### Jumps -/

theorem jumpsToMemory_iff (rom : Byte → Word) : s.JumpsToMemory rom ↔
    (rom s.pc).instruction.control.registerJump = true := by
  have hcode : ∀ c : Code, (Instruction.ofCode c).control.registerJump = true ↔ c.toNat = 10 := by
    decide
  rw [Word.instruction, hcode, Word.toNat_code, JumpsToMemory, code]

theorem jumps_iff (rom : Byte → Word) : s.Jumps rom ↔
    (rom s.pc).instruction.condition.holds s.cf s.zf = true := by
  have hcode : ∀ (c : Code) (cf zf : Bool), (Instruction.ofCode c).condition.holds cf zf = true ↔
      c.toNat = 11 ∨ c.toNat = 8 ∧ cf = false ∨ c.toNat = 9 ∧ zf = false := by
    decide
  rw [Word.instruction, hcode, Word.toNat_code, Jumps, code]

end Sequential

end Microcore
