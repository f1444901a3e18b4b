/-
  Microcore/Proofs/Simulation.lean
  ================================
  **One instruction on the pipeline and on the sequential machine.**  The simulation relation ties
  the two machines together in the cycles that decode an instruction (`Machine.Decodes`): the index
  registers are those of the sequential machine, the accumulator, the flags and the data memory are
  about to be.  From one such cycle to the next there are one, two or three clock edges, as the
  instruction has it (`Decodes.passage`), and the cycles between them are bubbles.
-/
import Microcore.Proofs.Bubbles
import Microcore.Proofs.Instruction
import Microcore.Proofs.WrongPath

namespace Microcore

/-! ### The two machines side by side -/

/-- The accumulator, the flags and the data memory are those of the sequential machine. -/
structure Machine.SameData (m : Machine) (s : Sequential) : Prop where
  acc : m.state.acc = unsigned s.acc
  cf : m.state.cf = s.cf
  zf : m.state.zf = s.zf
  ram (a : Byte) : m.ram.cell a = s.ram a

def Machine.SameIndex (m : Machine) (s : Sequential) : Prop :=
  m.state.indexRegisters = s.indexRegisters

/-- A cycle in which the decode stage works on the next instruction of the sequential machine.  The
    instruction before it is in the execute stage and commits at the end of the cycle. -/
structure Machine.Decodes (m : Machine) (s : Sequential) : Prop where
  free : m.tick.decodeSuppressed = false
  pc : m.state.pc = unsigned (s.pc + 1)
  index : m.SameIndex s
  data : m.next.SameData s

/-- The cycle behind it, in which the instruction is in the execute stage. -/
structure Machine.Executes (m : Machine) (c : Code) (op : Byte) (s : Sequential) : Prop where
  free : m.tick.executeSuppressed = false
  control : m.state.control = (Instruction.ofCode c).control
  operand : m.state.operand = unsigned op
  ea : m.state.ea = unsigned (s.address c op)
  data : m.SameData s

def Sequential.carryOut (s : Sequential) (w : Word) : Sequential := s.staged w.code w.operand

namespace Sequential

theorem carryOut_pc (s : Sequential) (w : Word) : (s.carryOut w).pc =
    if w.instruction.control.registerJump then s.ram (s.address w.code w.operand)
    else if w.instruction.condition.holds s.cf s.zf then w.operand
    else s.pc + 1 := rfl

theorem step_eq_carryOut (s : Sequential) (rom : Byte → Word) :
    s.step rom = s.carryOut (rom s.pc) := by
  rw [step, carryOut, ← execute_eq_staged, Word.toNat_code, Word.operand_eq]
  rfl

end Sequential

namespace Machine

variable {m : Machine} {s : Sequential}

/-! ### The execute stage -/

namespace Executes

variable {c : Code} {op : Byte} (h : m.Executes c op s)

include h

theorem data_eq : m.data = s.ram (s.address c op) := by
  rw [Machine.data, h.ea, byte_ofInt_unsigned, h.data.ram]

theorem writeback_eq : m.execution.writeback =
    (Instruction.ofCode c).control.execute s.acc op (s.ram (s.address c op)) true := by
  have hfree : m.state.skip.suppressesExecute = false := h.free
  simp only [execution, CoreState.execute, h.control, h.data.acc, h.operand, byte_ofInt_unsigned,
    hfree, h.data_eq, Bool.not_false]

theorem registerJump_eq : m.tick.registerJump = (Instruction.ofCode c).control.registerJump := by
  have hfree : m.state.skip.suppressesExecute = false := h.free
  rw [tick_registerJump, h.control, hfree, Bool.not_false, Bool.and_true]

theorem stored_eq (a : Byte) : m.stored.cell a = (s.staged c op).ram a := by
  have hfree : m.state.skip.suppressesExecute = false := h.free
  simp only [stored, execution, CoreState.execute, h.control, hfree, Bool.not_false, Bool.and_true,
    Sequential.staged]
  by_cases hstore : (Instruction.ofCode c).control.store = true
  · simp only [if_pos hstore, Memory.cell_withCell, h.ea, h.data.acc, byte_ofInt_unsigned,
      h.data.ram]
  · simp only [if_neg hstore, h.data.ram]

/-- The execute stage commits what the instruction does to the accumulator, the flags and the data
    memory. -/
theorem sameData_next : m.next.SameData (s.staged c op) where
  acc := by
    rw [next_acc, h.writeback_eq, h.data.acc, Writeback.accumulator, ← apply_ite unsigned]
    rfl
  cf := by
    rw [next_cf, h.writeback_eq, h.data.cf]
    rfl
  zf := by
    rw [next_zf, h.writeback_eq, h.data.zf]
    rfl
  ram a := h.stored_eq a

end Executes

/-! ### The decode stage -/

theorem address_eq (h : m.SameIndex s) :
    m.state.address m.state.word.instruction (unsigned s.acc) =
      (unsigned (s.address m.state.word.code m.state.word.operand),
        (s.carryOut m.state.word).indexRegisters) := by
  have hindex : m.state.indexRegisters = s.indexRegisters := h
  obtain ⟨haddress, hregisters⟩ := s.resolve_eq_index m.state.word.operand
  simp only [CoreState.address, hindex, haddress, hregisters, Word.instruction, Sequential.address,
    Sequential.carryOut, Sequential.indexRegisters_staged]
  by_cases huses : (Instruction.ofCode m.state.word.code).usesIndexRegisters = true
  · simp only [if_pos huses]
  · simp only [if_neg huses]

namespace Decodes

variable (h : m.Decodes s)

include h

theorem skip_ne : m.state.skip ≠ .bothNext := by
  intro hskip
  have hfree := h.free
  rw [tick_decodeSuppressed, hskip] at hfree
  cases hfree

theorem decoding_eq :
    let i := m.state.word.instruction
    m.decoding =
      { suppressed := false
        control := i.control
        address := unsigned (s.address m.state.word.code m.state.word.operand)
        registers := (s.carryOut m.state.word).indexRegisters
        jumpTaken := i.condition.holds s.cf s.zf } := by
  have hacc : m.execution.writeback.accumulator m.state.acc = unsigned s.acc := h.data.acc
  have hcf : m.execution.writeback.carryFlag m.state.cf = s.cf := h.data.cf
  have hzf : m.execution.writeback.zeroFlag m.state.zf = s.zf := h.data.zf
  rw [decoding_of_not_suppressed h.free]
  simp only [hacc, hcf, hzf, address_eq h.index]

theorem sameIndex_next : m.next.SameIndex (s.carryOut m.state.word) := by
  rw [SameIndex, next_index, h.decoding_eq]

theorem jumpTaken_eq : m.tick.jumpTaken = m.state.word.instruction.condition.holds s.cf s.zf :=
  congrArg Decoding.jumpTaken h.decoding_eq

theorem executes_next : m.next.Executes m.state.word.code m.state.word.operand s where
  free := by
    rw [tick_executeSuppressed, next_skip, Skip.next, if_neg h.skip_ne]
    have hjump : m.tick.registerJump = false := by
      have hfree := h.free
      rw [tick_decodeSuppressed, Bool.or_eq_false_iff] at hfree
      exact hfree.2
    rw [hjump]
    cases m.tick.jumpTaken <;> rfl
  control := by rw [next_control, h.decoding_eq]; rfl
  operand := next_operand m
  ea := by rw [next_ea, h.decoding_eq]
  data := h.data

theorem registerJump_eq_false : m.tick.registerJump = false := by
  have hfree := h.free
  rw [tick_decodeSuppressed, Bool.or_eq_false_iff] at hfree
  exact hfree.2

theorem skip_next :
    m.next.state.skip = if m.tick.jumpTaken then Skip.decodeNext else Skip.none := by
  rw [Machine.next_skip, Skip.next, if_neg h.skip_ne, h.registerJump_eq_false]
  rfl

end Decodes

/-! ### Bubbles -/

theorem SameData.next_of_nop (h : m.SameData s) (hnop : m.state.control = .nop) :
    m.next.SameData s where
  acc := by rw [next_acc, accumulator_of_nop hnop, h.acc]
  cf := by rw [next_cf, carryFlag_of_nop hnop, h.cf]
  zf := by rw [next_zf, zeroFlag_of_nop hnop, h.zf]
  ram a := by
    have hwrite : m.execution.write = none := write_of_nop hnop
    rw [next_ram, stored, hwrite, h.ram]

section Held

variable (h : m.tick.decodeSuppressed = true)

include h

theorem control_of_held : m.next.state.control = .nop := by
  rw [next_control, decoding_of_suppressed h]

theorem SameIndex.next_of_held (hindex : m.SameIndex s) : m.next.SameIndex s := by
  rw [SameIndex, next_index, decoding_of_suppressed h]
  exact hindex

/-- The last bubble behind a redirect fetches the word at the target. -/
theorem decodes_of_held (hjump : m.tick.registerJump = false)
    (hskip : m.next.state.skip.suppressesDecode = false) (hpc : m.state.pc = unsigned s.pc)
    (hindex : m.SameIndex s) (hdata : m.next.SameData s) :
    m.next.Decodes s ∧ m.next.state.word = m.rom.cell s.pc := by
  have hnop := control_of_held h
  refine ⟨⟨?_, ?_, hindex.next_of_held h, hdata.next_of_nop hnop⟩, ?_⟩
  · rw [tick_decodeSuppressed, hskip, registerJump_of_nop hnop]
    rfl
  · rw [next_pc, hjump, jumpTaken_of_held h, hpc, unsigned_add_one]
    rfl
  · rw [next_word, fetched, hpc, byte_ofInt_unsigned]

end Held

/-! ### From one instruction to the next -/

/-- The `d` cycles from the decoding of an instruction, which leaves the sequential machine `s`, to
    that of the next one. -/
structure Passage (m : Machine) (s : Sequential) (d : Nat) : Prop where
  held (j : Nat) : 0 < j → j < d → (m.after j).tick.decodeSuppressed = true
  index (j : Nat) : 0 < j → j ≤ d → (m.after j).SameIndex s
  data (j : Nat) : 1 < j → j ≤ d + 1 → (m.after j).SameData s
  decodes : (m.after d).Decodes s
  word : (m.after d).state.word = m.rom.cell s.pc

namespace Decodes

variable (h : m.Decodes s)

include h

theorem sameData_next_next : m.next.next.SameData (s.carryOut m.state.word) :=
  h.executes_next.sameData_next

theorem passage_straight (hjump : m.state.word.instruction.control.registerJump = false)
    (htaken : m.state.word.instruction.condition.holds s.cf s.zf = false) :
    m.Passage (s.carryOut m.state.word) 1 := by
  have hpc : (s.carryOut m.state.word).pc = s.pc + 1 := by
    rw [Sequential.carryOut_pc, hjump, htaken]
    rfl
  have hskip : m.next.state.skip = Skip.none := by
    rw [h.skip_next, h.jumpTaken_eq, htaken]
    rfl
  refine ⟨?_, ?_, ?_, ⟨?_, ?_, h.sameIndex_next, h.sameData_next_next⟩, ?_⟩
  · intro j hpos hlt
    omega
  · intro j hpos hle
    obtain rfl : j = 1 := by omega
    exact h.sameIndex_next
  · intro j hpos hle
    obtain rfl : j = 2 := by omega
    exact h.sameData_next_next
  · show m.next.tick.decodeSuppressed = false
    rw [tick_decodeSuppressed, hskip, h.executes_next.registerJump_eq]
    exact hjump
  · show m.next.state.pc = _
    rw [next_pc, h.registerJump_eq_false, h.jumpTaken_eq, htaken, h.pc, hpc, unsigned_add_one (s.pc + 1)]
    rfl
  · show m.next.state.word = _
    rw [next_word, fetched, h.pc, byte_ofInt_unsigned, hpc]

theorem passage_jump (hjump : m.state.word.instruction.control.registerJump = false)
    (htaken : m.state.word.instruction.condition.holds s.cf s.zf = true) :
    m.Passage (s.carryOut m.state.word) 2 := by
  have hpc : (s.carryOut m.state.word).pc = m.state.word.operand := by
    rw [Sequential.carryOut_pc, hjump, htaken]
    rfl
  -- the word behind the jump is held back, and executes as a bubble
  have hskip : m.next.state.skip = Skip.decodeNext := by
    rw [h.skip_next, h.jumpTaken_eq, htaken]
    rfl
  have hheld : m.next.tick.decodeSuppressed = true := by
    rw [tick_decodeSuppressed, hskip]
    rfl
  have hlow : m.next.tick.registerJump = false := h.executes_next.registerJump_eq.trans hjump
  have hfree : m.next.next.state.skip.suppressesDecode = false := by
    rw [next_skip, hskip, hlow, jumpTaken_of_held hheld]
    rfl
  -- it fetches the word at the target already
  have hland : m.next.state.pc = unsigned (s.carryOut m.state.word).pc := by
    rw [next_pc, h.registerJump_eq_false, h.jumpTaken_eq, htaken, hpc]
    rfl
  obtain ⟨hdecodes, hword⟩ :=
    decodes_of_held hheld hlow hfree hland h.sameIndex_next h.sameData_next_next
  refine ⟨?_, ?_, ?_, hdecodes, hword⟩
  · intro j hpos hlt
    obtain rfl : j = 1 := by omega
    exact hheld
  · intro j hpos hle
    obtain rfl | rfl : j = 1 ∨ j = 2 := by omega
    · exact h.sameIndex_next
    · exact hdecodes.index
  · intro j hpos hle
    obtain rfl | rfl : j = 2 ∨ j = 3 := by omega
    · exact h.sameData_next_next
    · exact hdecodes.data

theorem passage_registerJump (hjump : m.state.word.instruction.control.registerJump = true) :
    m.Passage (s.carryOut m.state.word) 3 := by
  -- in the cycle in which the jump executes, the first word behind it is held back
  have hhigh : m.next.tick.registerJump = true := h.executes_next.registerJump_eq.trans hjump
  have hheld : m.next.tick.decodeSuppressed = true := by
    rw [tick_decodeSuppressed, hhigh, Bool.or_true]
  have hnop := control_of_held hheld
  -- the second word behind it is held back by the state of the pipeline
  have hskip : m.next.next.state.skip = Skip.bothNext := next_skip_eq_bothNext_iff.mpr hhigh
  have hheld' : m.next.next.tick.decodeSuppressed = true := by
    rw [tick_decodeSuppressed, hskip]
    rfl
  have hfree : m.next.next.next.state.skip.suppressesDecode = false := by
    rw [next_skip_eq_executeNext_iff.mpr hskip]
    rfl
  -- the target was read in the execute stage, from the memory of the sequential machine
  have hland : m.next.next.state.pc = unsigned (s.carryOut m.state.word).pc := by
    rw [next_pc, hhigh, h.executes_next.data_eq, Sequential.carryOut_pc, hjump]
    rfl
  have hindex := h.sameIndex_next.next_of_held hheld
  have hdata := h.sameData_next_next.next_of_nop hnop
  obtain ⟨hdecodes, hword⟩ :=
    decodes_of_held hheld' (registerJump_of_nop hnop) hfree hland hindex hdata
  refine ⟨?_, ?_, ?_, hdecodes, hword⟩
  · intro j hpos hlt
    obtain rfl | rfl : j = 1 ∨ j = 2 := by omega
    · exact hheld
    · exact hheld'
  · intro j hpos hle
    obtain rfl | rfl | rfl : j = 1 ∨ j = 2 ∨ j = 3 := by omega
    · exact h.sameIndex_next
    · exact hindex
    · exact hdecodes.index
  · intro j hpos hle
    obtain rfl | rfl | rfl : j = 2 ∨ j = 3 ∨ j = 4 := by omega
    · exact h.sameData_next_next
    · exact hdata
    · exact hdecodes.data

/-- **The passage from one instruction to the next** takes as many cycles as the schedule says. -/
theorem passage (hword : m.state.word = m.rom.cell s.pc) :
    m.Passage (s.step m.rom.cell) (s.distance m.rom.cell) := by
  rw [Sequential.step_eq_carryOut, ← hword, Sequential.distance]
  by_cases hmemory : s.JumpsToMemory m.rom.cell
  · rw [if_pos hmemory]
    rw [Sequential.jumpsToMemory_iff, ← hword] at hmemory
    exact h.passage_registerJump hmemory
  · rw [if_neg hmemory]
    rw [Sequential.jumpsToMemory_iff, ← hword, Bool.not_eq_true] at hmemory
    by_cases hjump : s.Jumps m.rom.cell
    · rw [if_pos hjump]
      rw [Sequential.jumps_iff, ← hword] at hjump
      exact h.passage_jump hmemory hjump
    · rw [if_neg hjump]
      rw [Sequential.jumps_iff, ← hword, Bool.not_eq_true] at hjump
      exact h.passage_straight hmemory hjump

end Decodes

end Machine

end Microcore
