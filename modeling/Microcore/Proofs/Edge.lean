/-
  Microcore/Proofs/Edge.lean
  ==========================
  **A clock edge as a total function.**  A step of the machine can only fail on the latched data
  address or on the program counter.  While the addressing registers lie in the address space
  (`CoreState.InRange`) it does not fail: it gives the machine `next` and the outcome `tick`
  (`step_eq_next`), and the registers stay in the space (`inRange_next`).  The lemmas on `next` say
  what each register holds after the edge, so that later proofs never open the pipeline itself.
-/
import Microcore.Machine
import Microcore.Proofs.Memory

namespace Microcore

/-! ### Registers in the address space -/

structure IndexRegisters.InRange (r : IndexRegisters) : Prop where
  ix : 0 ≤ r.ix ∧ r.ix < 256
  iy : 0 ≤ r.iy ∧ r.iy < 256

/-- The registers that address a memory, now or in a later cycle, lie in the address space. -/
structure CoreState.InRange (s : CoreState) : Prop where
  pc : 0 ≤ s.pc ∧ s.pc < 256
  ea : 0 ≤ s.ea ∧ s.ea < 256
  index : s.indexRegisters.InRange

theorem unsigned_byte_mem (b : Byte) : 0 ≤ unsigned b ∧ unsigned b < 256 :=
  ⟨unsigned_nonneg b, unsigned_byte_lt b⟩

namespace IndexRegisters

theorem InRange.get {r : IndexRegisters} (h : r.InRange) (register : IndexRegister) :
    0 ≤ r.get register ∧ r.get register < 256 := by
  cases register with
  | ix => exact h.ix
  | iy => exact h.iy

theorem InRange.set {r : IndexRegisters} (h : r.InRange) (register : IndexRegister) (value : Int) :
    (r.set register value).InRange := by
  cases register with
  | ix => exact ⟨unsigned_byte_mem _, h.iy⟩
  | iy => exact ⟨h.ix, unsigned_byte_mem _⟩

end IndexRegisters

theorem inRange_resolve {r : IndexRegisters} (h : r.InRange) (operand : Byte) :
    (0 ≤ (resolve operand r).address ∧ (resolve operand r).address < 256) ∧
      (resolve operand r).registers.InRange := by
  simp only [resolve]
  cases Operand.mode operand with
  | direct => exact ⟨unsigned_byte_mem _, h⟩
  | indirect => exact ⟨h.get _, h⟩
  | postIncrement => exact ⟨h.get _, h.set _ _⟩
  | preDecrement => exact ⟨unsigned_byte_mem _, h.set _ _⟩

theorem IndexRegisters.InRange.storeIndex {r : IndexRegisters} (h : r.InRange) (operand : Byte)
    (value : Int) : (storeIndex operand value r).InRange := by
  simp only [Microcore.storeIndex]
  cases Operand.storeTarget? operand with
  | none => exact h
  | some register => exact h.set register value

namespace CoreState

theorem inRange_reset : ({} : CoreState).InRange := by
  refine ⟨?_, ?_, ?_, ?_⟩ <;> decide

theorem InRange.address {s : CoreState} (h : s.InRange) (i : Instruction) (accumulator : Int) :
    (0 ≤ (s.address i accumulator).1 ∧ (s.address i accumulator).1 < 256) ∧
      (s.address i accumulator).2.InRange := by
  have hresolve := inRange_resolve h.index s.word.operand
  simp only [CoreState.address]
  by_cases hi : i.usesIndexRegisters = true
  · rw [if_pos hi]
    refine ⟨hresolve.1, ?_⟩
    by_cases hs : i.control.store = true
    · rw [if_pos hs]
      exact hresolve.2.storeIndex _ _
    · rw [if_neg hs]
      exact hresolve.2
  · rw [if_neg hi]
    exact ⟨unsigned_byte_mem _, h.index⟩

end CoreState

/-! ### The stages of a cycle -/

namespace Machine

def data (m : Machine) : Byte := m.ram.cell (Byte.ofInt m.state.ea)

def fetched (m : Machine) : Word := m.rom.cell (Byte.ofInt m.state.pc)

def execution (m : Machine) : Execution := m.state.execute m.data

def decoding (m : Machine) : Decoding := m.state.decode m.execution

/-- The outcome of the clock edge. -/
def tick (m : Machine) : TickResult :=
  { state := m.state.advance m.execution m.decoding m.fetched
    write := m.execution.write
    instruction := m.state.word.instruction
    decodeSuppressed := m.decoding.suppressed
    executeSuppressed := m.state.skip.suppressesExecute
    registerJump := m.execution.registerJump
    jumpTaken := m.decoding.jumpTaken }

def stored (m : Machine) : DataMemory addressSpace :=
  match m.execution.write with
  | some w => m.ram.withCell (Byte.ofInt w.address) (Byte.ofInt w.value)
  | none => m.ram

/-- The machine after the clock edge. -/
def next (m : Machine) : Machine :=
  { m with
    ram := m.stored
    state := m.tick.state
    cycles := m.cycles + 1
    trace := m.trace.map fun t => t.record (traceEntry m.cycles m.state m.tick) }

/-- The write that the execute stage hands back goes to the latched address. -/
theorem address_of_write {m : Machine} {w : MemoryWrite} (h : m.execution.write = some w) :
    w.address = m.state.ea := by
  simp only [execution, CoreState.execute] at h
  split at h
  · cases h
    rfl
  · cases h

theorem tick_eq_ok {m : Machine} (hea : 0 ≤ m.state.ea ∧ m.state.ea < 256)
    (hpc : 0 ≤ m.state.pc ∧ m.state.pc < 256) : m.state.tick m.rom m.ram = .ok m.tick := by
  simp only [CoreState.tick, Memory.load_eq_cell m.ram hea, Memory.load_eq_cell m.rom hpc]
  rfl

/-- A step needs the latched data address and the program counter to lie in the address space, and
    nothing else. -/
theorem step_eq_next_of_mem {m : Machine} (hea : 0 ≤ m.state.ea ∧ m.state.ea < 256)
    (hpc : 0 ≤ m.state.pc ∧ m.state.pc < 256) :
    m.step = .ok { machine := m.next, result := m.tick, events := events m.cycles m.state m.tick } := by
  have hcommit : commit m.ram m.tick.write = .ok m.stored := by
    simp only [tick, stored]
    cases hw : m.execution.write with
    | none => rfl
    | some w =>
      have haddress := address_of_write hw
      simp only [commit]
      rw [haddress]
      exact Memory.put_eq_withCell m.ram hea w.value
  simp only [step, tick_eq_ok hea hpc]
  show (commit m.ram m.tick.write >>= _) = _
  rw [hcommit]
  rfl

/-- **A step does not fail** while the addressing registers lie in the address space. -/
theorem step_eq_next {m : Machine} (h : m.state.InRange) :
    m.step = .ok { machine := m.next, result := m.tick, events := events m.cycles m.state m.tick } :=
  step_eq_next_of_mem h.ea h.pc

/-! ### What the stages do -/

/-- A decode stage that is held back leaves a bubble behind. -/
theorem decoding_of_suppressed {m : Machine} (h : m.tick.decodeSuppressed = true) :
    m.decoding = { suppressed := true
                   control := .nop
                   address := unsigned m.state.word.operand
                   registers := m.state.indexRegisters
                   jumpTaken := false } := by
  simp only [tick, decoding, CoreState.decode] at h ⊢
  by_cases hs : (m.state.skip.suppressesDecode || m.execution.registerJump) = true
  · rw [if_pos hs]
  · rw [if_neg hs] at h
    cases h

theorem decoding_of_not_suppressed {m : Machine} (h : m.tick.decodeSuppressed = false) :
    m.decoding =
      (let i := m.state.word.instruction
       let w := m.execution.writeback
       { suppressed := false
         control := i.control
         address := (m.state.address i (w.accumulator m.state.acc)).1
         registers := (m.state.address i (w.accumulator m.state.acc)).2
         jumpTaken := i.condition.holds (w.carryFlag m.state.cf) (w.zeroFlag m.state.zf) }) := by
  simp only [tick, decoding, CoreState.decode] at h ⊢
  by_cases hs : (m.state.skip.suppressesDecode || m.execution.registerJump) = true
  · rw [if_pos hs] at h
    cases h
  · rw [if_neg hs]

theorem jumpTaken_of_held {m : Machine} (h : m.tick.decodeSuppressed = true) :
    m.tick.jumpTaken = false := congrArg Decoding.jumpTaken (decoding_of_suppressed h)

theorem tick_decodeSuppressed (m : Machine) :
    m.tick.decodeSuppressed = (m.state.skip.suppressesDecode || m.tick.registerJump) := by
  simp only [tick, decoding, CoreState.decode]
  split
  · next h => exact h.symm
  · next h => exact ((Bool.not_eq_true _).mp h).symm

theorem tick_executeSuppressed (m : Machine) :
    m.tick.executeSuppressed = m.state.skip.suppressesExecute := rfl

theorem tick_registerJump (m : Machine) :
    m.tick.registerJump = (m.state.control.registerJump && !m.state.skip.suppressesExecute) := rfl

theorem tick_write (m : Machine) :
    m.tick.write = if m.state.control.store && !m.state.skip.suppressesExecute then
      some ⟨m.state.ea, m.state.acc⟩ else none := rfl

/-! ### The registers after the edge -/

@[simp] theorem next_rom (m : Machine) : m.next.rom = m.rom := rfl

@[simp] theorem next_cycles (m : Machine) : m.next.cycles = m.cycles + 1 := rfl

theorem next_ram (m : Machine) : m.next.ram = m.stored := rfl

theorem next_pc (m : Machine) : m.next.state.pc =
    if m.tick.registerJump then unsigned m.data
    else if m.tick.jumpTaken then unsigned m.state.word.operand
    else (m.state.pc + 1) % 256 := rfl

theorem next_ir (m : Machine) : m.next.state.ir = unsigned m.fetched := rfl

theorem next_operand (m : Machine) : m.next.state.operand = unsigned m.state.word.operand := rfl

theorem next_index (m : Machine) : m.next.state.indexRegisters = m.decoding.registers := rfl

theorem next_ea (m : Machine) : m.next.state.ea = m.decoding.address := rfl

theorem next_acc (m : Machine) :
    m.next.state.acc = m.execution.writeback.accumulator m.state.acc := rfl

theorem next_cf (m : Machine) :
    m.next.state.cf = m.execution.writeback.carryFlag m.state.cf := rfl

theorem next_zf (m : Machine) :
    m.next.state.zf = m.execution.writeback.zeroFlag m.state.zf := rfl

theorem next_control (m : Machine) : m.next.state.control = m.decoding.control := rfl

theorem next_skip (m : Machine) :
    m.next.state.skip = m.state.skip.next m.tick.registerJump m.tick.jumpTaken := rfl

/-- The word in the decode stage is the one that was fetched in the cycle before. -/
theorem next_word (m : Machine) : m.next.state.word = m.fetched := by
  apply unsigned_inj.mp
  simp only [CoreState.word, unsigned_word_ofInt, next_ir]
  have h0 := unsigned_nonneg m.fetched
  have h1 := unsigned_word_lt m.fetched
  omega

theorem inRange_next {m : Machine} (h : m.state.InRange) : m.next.state.InRange := by
  have hdecoding : (0 ≤ m.decoding.address ∧ m.decoding.address < 256) ∧
      m.decoding.registers.InRange := by
    cases hs : m.tick.decodeSuppressed with
    | true =>
      rw [decoding_of_suppressed hs]
      exact ⟨unsigned_byte_mem _, h.index⟩
    | false =>
      rw [decoding_of_not_suppressed hs]
      exact h.address _ _
  refine ⟨?_, hdecoding.1, hdecoding.2⟩
  rw [next_pc]
  split
  · exact unsigned_byte_mem _
  · split
    · exact unsigned_byte_mem _
    · omega

end Machine

end Microcore
