/-
  Microcore/Proofs/NoOperation.lean
  =================================
  **A stage that is held back behaves as if it held a no-operation.**  What a stage hands on when it
  commits nothing is the same whether the skip register holds it back or the instruction in it does
  nothing (`ExecutesNothing`, `DecodesNothing`), and the next state depends on nothing else
  (`SameStages.sameCommit`).  So a cycle with a bubble is a cycle without one, with the reserved
  instruction in the decode stage or with no control signals in the execute stage.
-/
import Microcore.Proofs.Edge
import Microcore.Proofs.Instruction

namespace Microcore

/-! ### Stages that do nothing -/

/-- An execute stage that commits nothing. -/
structure Execution.Idle (e : Execution) : Prop where
  accWrite : e.writeback.accWrite = false
  cfWrite : e.writeback.cfWrite = false
  zfWrite : e.writeback.zfWrite = false
  write : e.write = none
  registerJump : e.registerJump = false

/-- A decode stage that hands on nothing but the operand of the word in it. -/
structure Decoding.Idle (s : CoreState) (d : Decoding) : Prop where
  control : d.control = .nop
  address : d.address = unsigned s.word.operand
  registers : d.registers = s.indexRegisters
  jumpTaken : d.jumpTaken = false

namespace Execution.Idle

variable {e : Execution} (h : e.Idle)

include h

theorem accumulator (registered : Int) : e.writeback.accumulator registered = registered := by
  rw [Writeback.accumulator, h.accWrite]
  rfl

theorem carryFlag (registered : Bool) : e.writeback.carryFlag registered = registered := by
  rw [Writeback.carryFlag, h.cfWrite]
  rfl

theorem zeroFlag (registered : Bool) : e.writeback.zeroFlag registered = registered := by
  rw [Writeback.zeroFlag, h.zfWrite]
  rfl

end Execution.Idle

namespace CoreState

def ExecutesNothing (s : CoreState) : Prop := ∀ data, (s.execute data).Idle

def DecodesNothing (s : CoreState) : Prop := ∀ data, (s.decode (s.execute data)).Idle s

/-- The state with the reserved instruction in the decode stage, over the operand that is there. -/
def withReserved (s : CoreState) : CoreState := { s with ir := 0xF00 + s.ir % 256 }

theorem fields_withReserved (s : CoreState) :
    s.withReserved.word.code = 0xF ∧ s.withReserved.word.operand = s.word.operand := by
  apply Word.fields_of_toNat
  have hcode : (0xF : Code).toNat = 15 := rfl
  simp only [hcode, word, withReserved, Word.ofInt, Word.operand_eq, BitVec.toNat_ofInt,
    BitVec.toNat_ofNat]
  omega

section

variable {s : CoreState}

theorem executesNothing_of_held (h : s.skip.suppressesExecute = true) : s.ExecutesNothing := by
  intro data
  constructor <;> simp [execute, ControlWord.execute, h]

theorem executesNothing_of_nop (h : s.control = .nop) : s.ExecutesNothing := by
  intro data
  constructor <;> simp [execute, ControlWord.execute, h, ControlWord.nop]

theorem idle_decode_of_held {e : Execution}
    (h : (s.skip.suppressesDecode || e.registerJump) = true) : (s.decode e).Idle s := by
  rw [decode, if_pos h]
  exact ⟨rfl, rfl, rfl, rfl⟩

theorem decodesNothing_of_held (h : s.skip.suppressesDecode = true) : s.DecodesNothing := by
  intro data
  apply idle_decode_of_held
  rw [h, Bool.true_or]

/-- The reserved instruction does nothing in the decode stage, whether a register jump in the other
    stage squashes it or not. -/
theorem decodesNothing_of_reserved (h : s.word.code = 0xF) : s.DecodesNothing := by
  intro data
  by_cases hheld : (s.skip.suppressesDecode || (s.execute data).registerJump) = true
  · exact idle_decode_of_held hheld
  · rw [decode, if_neg hheld, Word.instruction, h]
    exact ⟨rfl, rfl, rfl, rfl⟩

end

end CoreState

/-! ### Stages that hand on the same -/

/-- Two execute stages that hand the same on to the rest of a core in the given state. -/
structure Execution.SameResults (s : CoreState) (e e' : Execution) : Prop where
  data : e.data = e'.data
  accumulator : e.writeback.accumulator s.acc = e'.writeback.accumulator s.acc
  carryFlag : e.writeback.carryFlag s.cf = e'.writeback.carryFlag s.cf
  zeroFlag : e.writeback.zeroFlag s.zf = e'.writeback.zeroFlag s.zf
  write : e.write = e'.write
  registerJump : e.registerJump = e'.registerJump

/-- Two decode stages that hand on the same; only one of them may be held back. -/
structure Decoding.SameResults (d d' : Decoding) : Prop where
  control : d.control = d'.control
  address : d.address = d'.address
  registers : d.registers = d'.registers
  jumpTaken : d.jumpTaken = d'.jumpTaken

/-- Two outcomes that leave the same state behind with the same write and the same redirects. -/
structure TickResult.SameCommit (t u : TickResult) : Prop where
  state : t.state = u.state
  write : t.write = u.write
  registerJump : t.registerJump = u.registerJump
  jumpTaken : t.jumpTaken = u.jumpTaken

namespace CoreState

/-- Two states that differ at most in what their stages are to do. -/
structure SameRegisters (s s' : CoreState) : Prop where
  pc : s.pc = s'.pc
  operand : s.word.operand = s'.word.operand
  index : s.indexRegisters = s'.indexRegisters
  ea : s.ea = s'.ea
  acc : s.acc = s'.acc
  cf : s.cf = s'.cf
  zf : s.zf = s'.zf

/-- Two states with the same registers whose stages hand on the same, whatever is read from data
    memory. -/
structure SameStages (s s' : CoreState) : Prop extends SameRegisters s s' where
  execute (data : Byte) : Execution.SameResults s (s.execute data) (s'.execute data)
  decode (data : Byte) : (s.decode (s.execute data)).SameResults (s'.decode (s'.execute data))

section

variable {s s' : CoreState}

theorem ExecutesNothing.sameResults (h : s.ExecutesNothing) (h' : s'.ExecutesNothing)
    (data : Byte) : Execution.SameResults s (s.execute data) (s'.execute data) where
  data := rfl
  accumulator := by rw [(h data).accumulator, (h' data).accumulator]
  carryFlag := by rw [(h data).carryFlag, (h' data).carryFlag]
  zeroFlag := by rw [(h data).zeroFlag, (h' data).zeroFlag]
  write := by rw [(h data).write, (h' data).write]
  registerJump := by rw [(h data).registerJump, (h' data).registerJump]

theorem DecodesNothing.sameResults (h : s.DecodesNothing) (h' : s'.DecodesNothing)
    (hs : SameRegisters s s') (data : Byte) :
    (s.decode (s.execute data)).SameResults (s'.decode (s'.execute data)) where
  control := by rw [(h data).control, (h' data).control]
  address := by rw [(h data).address, (h' data).address, hs.operand]
  registers := by rw [(h data).registers, (h' data).registers, hs.index]
  jumpTaken := by rw [(h data).jumpTaken, (h' data).jumpTaken]

/-- The decode stage sees of the execute stage only what this hands on. -/
theorem decode_congr {e e' : Execution} (hs : SameRegisters s s') (hword : s.word = s'.word)
    (hskip : s.skip.suppressesDecode = s'.skip.suppressesDecode)
    (he : Execution.SameResults s e e') : s.decode e = s'.decode e' := by
  have haddress (i : Instruction) (accumulator : Int) :
      s.address i accumulator = s'.address i accumulator := by
    simp only [address, hword, hs.index]
  simp only [decode, hword, hskip, hs.index, haddress, he.registerJump, he.accumulator,
    he.carryFlag, he.zeroFlag, ← hs.acc, ← hs.cf, ← hs.zf]

end

namespace SameStages

variable {s s' : CoreState} (h : SameStages s s')

include h

/-- The stages reach the next state only through what they hand on and through the next skip. -/
theorem advance_eq (data : Byte) (fetched : Word) :
    s.advance (s.execute data) (s.decode (s.execute data)) fetched =
      { s'.advance (s'.execute data) (s'.decode (s'.execute data)) fetched with
        skip := s.skip.next (s'.execute data).registerJump
          (s'.decode (s'.execute data)).jumpTaken } := by
  have he := h.execute data
  have hd := h.decode data
  simp only [advance, nextPc, h.pc, h.operand, he.data, he.accumulator, he.carryFlag, he.zeroFlag,
    he.registerJump, hd.control, hd.address, hd.registers, hd.jumpTaken, ← h.acc, ← h.cf, ← h.zf]

/-- Two states whose stages hand on the same commit the same at the clock edge, but for the next
    skip. -/
theorem sameCommit (hea : 0 ≤ s.ea ∧ s.ea < 256) (hpc : 0 ≤ s.pc ∧ s.pc < 256)
    (rom : ProgramMemory addressSpace) (ram : DataMemory addressSpace) :
    ∃ t u, s.tick rom ram = .ok t ∧ s'.tick rom ram = .ok u ∧
      u.state.skip = s'.skip.next u.registerJump u.jumpTaken ∧
      t.SameCommit { u with state := { u.state with
        skip := s.skip.next u.registerJump u.jumpTaken } } := by
  let m : Machine := { rom, ram, state := s }
  let n : Machine := { rom, ram, state := s' }
  have hdata : n.data = m.data := by simp only [Machine.data, m, n, h.ea]
  have hfetched : n.fetched = m.fetched := by simp only [Machine.fetched, m, n, h.pc]
  have hexecution : n.execution = s'.execute m.data := congrArg s'.execute hdata
  have hdecoding : n.decoding = s'.decode (s'.execute m.data) := congrArg s'.decode hexecution
  have he := h.execute m.data
  have hd := h.decode m.data
  refine ⟨m.tick, n.tick, Machine.tick_eq_ok (m := m) hea hpc,
    Machine.tick_eq_ok (m := n) (h.ea ▸ hea) (h.pc ▸ hpc), rfl, ?_⟩
  simp only [Machine.tick, hexecution, hdecoding, hfetched]
  exact ⟨h.advance_eq m.data m.fetched, he.write, he.registerJump, hd.jumpTaken⟩

/-- The next skip is the same as well, unless a register jump is walked out in one of the states. -/
theorem sameCommit_of_skip (hskip : s.skip ≠ .bothNext) (hskip' : s'.skip ≠ .bothNext)
    (hea : 0 ≤ s.ea ∧ s.ea < 256) (hpc : 0 ≤ s.pc ∧ s.pc < 256)
    (rom : ProgramMemory addressSpace) (ram : DataMemory addressSpace) :
    ∃ t u, s.tick rom ram = .ok t ∧ s'.tick rom ram = .ok u ∧ t.SameCommit u := by
  obtain ⟨t, u, ht, hu, hnext, hcommit⟩ := h.sameCommit hea hpc rom ram
  have hequal : s.skip.next u.registerJump u.jumpTaken = u.state.skip := by
    rw [hnext, Skip.next, if_neg hskip, Skip.next, if_neg hskip']
  rw [hequal] at hcommit
  exact ⟨t, u, ht, hu, hcommit⟩

end SameStages

/-! ### Bubbles -/

variable (s : CoreState)

theorem sameRegisters_withReserved (control control' : ControlWord) (skip skip' : Skip) :
    SameRegisters { s with control, skip } { s.withReserved with control := control', skip := skip' } :=
  ⟨rfl, s.fields_withReserved.2.symm, rfl, rfl, rfl, rfl, rfl⟩

/-- The execute stage is the same in both states, and the decode stage does nothing in both. -/
theorem sameStages_decodeNext :
    SameStages { s with skip := .decodeNext } { s.withReserved with skip := .none } where
  toSameRegisters := s.sameRegisters_withReserved ..
  execute _ := ⟨rfl, rfl, rfl, rfl, rfl, rfl⟩
  decode := (decodesNothing_of_held rfl).sameResults
    (decodesNothing_of_reserved s.fields_withReserved.1) (s.sameRegisters_withReserved ..)

/-- The execute stage does nothing in both states, so the decode stage sees the same of it. -/
theorem sameStages_executeNext :
    SameStages { s with skip := .executeNext } { s with control := .nop, skip := .none } := by
  have hs : SameRegisters { s with skip := .executeNext } { s with control := .nop, skip := .none } :=
    ⟨rfl, rfl, rfl, rfl, rfl, rfl, rfl⟩
  have he := (executesNothing_of_held (s := { s with skip := .executeNext }) rfl).sameResults
    (executesNothing_of_nop (s := { s with control := .nop, skip := .none }) rfl)
  refine ⟨hs, he, ?_⟩
  intro data
  rw [decode_congr hs rfl rfl (he data)]
  exact ⟨rfl, rfl, rfl, rfl⟩

/-- Both stages do nothing in both states. -/
theorem sameStages_bothNext : SameStages { s with skip := .bothNext }
    { s.withReserved with control := .nop, skip := .none } where
  toSameRegisters := s.sameRegisters_withReserved ..
  execute := (executesNothing_of_held rfl).sameResults (executesNothing_of_nop rfl)
  decode := (decodesNothing_of_held rfl).sameResults
    (decodesNothing_of_reserved s.fields_withReserved.1) (s.sameRegisters_withReserved ..)

end CoreState

/-- **A suppressed stage behaves as if it held a no-operation.**  Whatever the other registers hold
    and whatever control signals are raised, a cycle with the decode stage held back commits what a
    cycle with the reserved instruction in it commits, one with the execute stage held back what a
    cycle without control signals does, and one with both held back what both together do; then
    only the execute stage is held back in the next cycle. -/
theorem suppressed_stage_is_noop {s : CoreState} (hea : 0 ≤ s.ea ∧ s.ea < 256)
    (hpc : 0 ≤ s.pc ∧ s.pc < 256) (rom : ProgramMemory addressSpace)
    (ram : DataMemory addressSpace) :
    (∃ t u, CoreState.tick { s with skip := .decodeNext } rom ram = .ok t ∧
      CoreState.tick { s.withReserved with skip := .none } rom ram = .ok u ∧ t.SameCommit u) ∧
    (∃ t u, CoreState.tick { s with skip := .executeNext } rom ram = .ok t ∧
      CoreState.tick { s with control := .nop, skip := .none } rom ram = .ok u ∧
        t.SameCommit u) ∧
    ∃ t u, CoreState.tick { s with skip := .bothNext } rom ram = .ok t ∧
      CoreState.tick { s.withReserved with control := .nop, skip := .none } rom ram = .ok u ∧
        t.SameCommit { u with state := { u.state with skip := .executeNext } } := by
  refine ⟨?_, ?_, ?_⟩
  · exact s.sameStages_decodeNext.sameCommit_of_skip Skip.noConfusion Skip.noConfusion hea hpc rom ram
  · exact s.sameStages_executeNext.sameCommit_of_skip Skip.noConfusion Skip.noConfusion hea hpc rom ram
  · obtain ⟨t, u, ht, hu, -, hcommit⟩ := s.sameStages_bothNext.sameCommit hea hpc rom ram
    exact ⟨t, u, ht, hu, hcommit⟩

/-- A state with every latch outside its width, every signal raised and a register jump in both
    stages. -/
theorem wild_stage_is_noop :
    let s : CoreState :=
      { pc := 255, ir := -1376, operand := 4096, ea := 255, acc := -300, ix := 256
        control := { aluOp := .sub, immediate := true, registerJump := true, load := true
                     store := true, accWrite := true, zfWrite := true, cfWrite := true } }
    let rom : ProgramMemory addressSpace := .blank .program addressSpace
    let ram : DataMemory addressSpace := .blank .data addressSpace
    (0 ≤ s.ea ∧ s.ea < 256) ∧ (0 ≤ s.pc ∧ s.pc < 256) ∧
    (∃ t u, CoreState.tick { s with skip := .decodeNext } rom ram = .ok t ∧
      CoreState.tick { s.withReserved with skip := .none } rom ram = .ok u ∧ t.SameCommit u) ∧
    (∃ t u, CoreState.tick { s with skip := .executeNext } rom ram = .ok t ∧
      CoreState.tick { s with control := .nop, skip := .none } rom ram = .ok u ∧
        t.SameCommit u) ∧
    ∃ t u, CoreState.tick { s with skip := .bothNext } rom ram = .ok t ∧
      CoreState.tick { s.withReserved with control := .nop, skip := .none } rom ram = .ok u ∧
        t.SameCommit { u with state := { u.state with skip := .executeNext } } := by
  intro s rom ram
  have hea : 0 ≤ s.ea ∧ s.ea < 256 := by decide
  have hpc : 0 ≤ s.pc ∧ s.pc < 256 := by decide
  exact ⟨hea, hpc, suppressed_stage_is_noop hea hpc rom ram⟩

end Microcore
