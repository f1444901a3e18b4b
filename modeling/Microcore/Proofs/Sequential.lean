/-
  Microcore/Proofs/Sequential.lean
  ================================
  **The sequential machine.**  The instruction set without a pipeline: one step fetches a word and
  carries it out completely before the next word is fetched.  Arithmetic is on numbers, cut to a byte
  at the end.  `decodeCycle` tells, from the jumps of the sequential machine alone, in which cycle
  the pipelined core decodes an instruction.
-/
import Mathlib.Data.Nat.Count
import Microcore.Word

namespace Microcore

/-- The registers and the data memory of the sequential machine. -/
structure Sequential where
  pc : Byte := 0
  acc : Byte := 0
  cf : Bool := false
  zf : Bool := false
  ix : Byte := 0
  iy : Byte := 0
  ram : Byte → Byte

namespace Sequential

/-! ### Addressing -/

structure Indexing where
  address : Byte
  ix : Byte
  iy : Byte

/-- The addressing modes: the registers as they are, incremented behind the access, or decremented
    in front of it. -/
def index (s : Sequential) (op : Byte) : Indexing :=
  match op.toNat with
  | 0xFA => ⟨s.ix, s.ix, s.iy⟩
  | 0xFB => ⟨s.iy, s.ix, s.iy⟩
  | 0xFC => ⟨s.ix, s.ix + 1, s.iy⟩
  | 0xFD => ⟨s.iy, s.ix, s.iy + 1⟩
  | 0xFE => ⟨s.ix - 1, s.ix - 1, s.iy⟩
  | 0xFF => ⟨s.iy - 1, s.ix, s.iy - 1⟩
  | _ => ⟨op, s.ix, s.iy⟩

/-! ### Arithmetic -/

def setLogic (s : Sequential) (value : Byte) : Sequential :=
  { s with acc := value, zf := decide (value = 0) }

def setSum (s : Sequential) (b : Byte) : Sequential :=
  let sum := s.acc.toNat + b.toNat
  { s with acc := BitVec.ofNat 8 sum, zf := decide (sum % 256 = 0), cf := decide (256 ≤ sum) }

def compare (s : Sequential) (b : Byte) : Sequential :=
  let difference : Int := s.acc.toNat - b.toNat
  { s with zf := decide (difference % 256 = 0), cf := decide (difference < 0) }

def setDifference (s : Sequential) (b : Byte) : Sequential :=
  { s.compare b with acc := BitVec.ofInt 8 (s.acc.toNat - b.toNat) }

/-! ### Instructions -/

/-- Carry out the instruction with the given code and operand. -/
def execute (s : Sequential) (code : Nat) (op : Byte) : Sequential :=
  let i := s.index op
  let byte := s.ram i.address
  let next := { s with pc := s.pc + 1 }
  let indexed := { next with ix := i.ix, iy := i.iy }
  match code with
  | 0 => indexed.setLogic (s.acc &&& byte)
  | 1 => next.setLogic (s.acc &&& op)
  | 2 => indexed.setLogic (s.acc ^^^ byte)
  | 3 => next.setLogic (s.acc ^^^ op)
  | 4 => indexed.setSum byte
  | 5 => next.setSum op
  | 6 => indexed.setDifference byte
  | 7 => next.compare op
  | 8 => if s.cf then next else { s with pc := op }
  | 9 => if s.zf then next else { s with pc := op }
  | 10 => { indexed with pc := byte }
  | 11 => { s with pc := op }
  | 12 => { indexed with acc := byte }
  | 13 => { next with acc := op }
  | 14 =>
    { indexed with
      ram := fun a => if a = i.address then s.acc else s.ram a
      ix := if op = 0xF8 then s.acc else i.ix
      iy := if op = 0xF9 then s.acc else i.iy }
  | _ => next

variable (rom : Byte → Word) (s : Sequential)

def code : Nat := (rom s.pc).toNat / 256

def operand : Byte := BitVec.ofNat 8 (rom s.pc).toNat

def step : Sequential := s.execute (s.code rom) (s.operand rom)

def after : Nat → Sequential
  | 0 => s
  | n + 1 => (after n).step rom

/-! ### The schedule -/

/-- The next instruction jumps to its operand: a jump, or a branch whose flag is clear. -/
def Jumps : Prop :=
  s.code rom = 11 ∨ s.code rom = 8 ∧ s.cf = false ∨ s.code rom = 9 ∧ s.zf = false

def JumpsToMemory : Prop := s.code rom = 10

instance : Decidable (s.Jumps rom) := inferInstanceAs (Decidable (_ ∨ _ ∧ _ ∨ _ ∧ _))

instance : Decidable (s.JumpsToMemory rom) := inferInstanceAs (Decidable (_ = _))

/-- The cycle in which the pipelined core decodes an instruction, the first one having number zero.
    A jump before it costs one cycle, a jump to an address in memory two. -/
def decodeCycle (k : Nat) : Nat :=
  2 + k + Nat.count (fun i => (s.after rom i).Jumps rom) k +
    2 * Nat.count (fun i => (s.after rom i).JumpsToMemory rom) k

/-- The number of cycles from the decoding of the next instruction to that of the one after it. -/
def distance : Nat := if s.JumpsToMemory rom then 3 else if s.Jumps rom then 2 else 1

theorem distance_pos : 0 < s.distance rom := by
  rw [distance]
  split
  · decide
  · split <;> decide

theorem decodeCycle_succ (k : Nat) :
    s.decodeCycle rom (k + 1) = s.decodeCycle rom k + (s.after rom k).distance rom := by
  simp only [decodeCycle, distance, Nat.count_succ]
  by_cases hmemory : (s.after rom k).JumpsToMemory rom
  · have hjump : ¬(s.after rom k).Jumps rom := by
      simp only [JumpsToMemory] at hmemory
      simp [Jumps, hmemory]
    simp only [if_pos hmemory, if_neg hjump]
    omega
  · by_cases hjump : (s.after rom k).Jumps rom
    · simp only [if_neg hmemory, if_pos hjump]
      omega
    · simp only [if_neg hmemory, if_neg hjump]
      omega

end Sequential

end Microcore
