/-
  Microcore/Proofs/WrongPath.lean
  ===============================
  **Wrong-path instructions are invisible.**  Two machines whose programs agree wherever an
  instruction is decoded cannot be told apart, however their programs differ elsewhere.  A squashed
  word still passes through the instruction register and leaves its operand in the latches, so the
  two states are not equal.  The relation that a clock edge keeps (`Machine.Agree`) asks for equal
  latches only while the execute stage holds an instruction that uses them.
-/
import Microcore.Proofs.Run

namespace Microcore

/-! ### What an instruction can see -/

/-- Two machines with the same memory, cycle count and registers, the instruction register and the
    latches of the execute stage left out. -/
structure Machine.SameVisible (m n : Machine) : Prop where
  ram : m.ram = n.ram
  cycles : m.cycles = n.cycles
  pc : m.state.pc = n.state.pc
  acc : m.state.acc = n.state.acc
  ix : m.state.ix = n.state.ix
  iy : m.state.iy = n.state.iy
  cf : m.state.cf = n.state.cf
  zf : m.state.zf = n.state.zf
  control : m.state.control = n.state.control
  skip : m.state.skip = n.state.skip

/-- Two outcomes with the same write and the same signals; the instructions that were decoded may
    differ. -/
structure TickResult.SameEffects (t u : TickResult) : Prop where
  write : t.write = u.write
  decodeSuppressed : t.decodeSuppressed = u.decodeSuppressed
  executeSuppressed : t.executeSuppressed = u.executeSuppressed
  registerJump : t.registerJump = u.registerJump
  jumpTaken : t.jumpTaken = u.jumpTaken

/-- Two machines that no instruction has told apart.  The latches agree unless the execute stage
    holds a bubble. -/
structure Machine.Agree (m n : Machine) : Prop extends Machine.SameVisible m n where
  operand : m.state.control ≠ .nop → m.state.operand = n.state.operand
  ea : m.state.control ≠ .nop → m.state.ea = n.state.ea

namespace Machine

/-! ### A bubble in the execute stage -/

section Bubble

variable {m : Machine} (h : m.state.control = .nop)

include h

theorem accumulator_of_nop : m.execution.writeback.accumulator m.state.acc = m.state.acc := by
  simp [execution, CoreState.execute, ControlWord.execute, Writeback.accumulator, h, ControlWord.nop]

theorem carryFlag_of_nop : m.execution.writeback.carryFlag m.state.cf = m.state.cf := by
  simp [execution, CoreState.execute, ControlWord.execute, Writeback.carryFlag, h, ControlWord.nop]

theorem zeroFlag_of_nop : m.execution.writeback.zeroFlag m.state.zf = m.state.zf := by
  simp [execution, CoreState.execute, ControlWord.execute, Writeback.zeroFlag, h, ControlWord.nop]

theorem write_of_nop : m.tick.write = none := by
  simp [tick_write, h, ControlWord.nop]

theorem registerJump_of_nop : m.tick.registerJump = false := by
  simp [tick_registerJump, h, ControlWord.nop]

end Bubble

/-! ### One cycle -/

namespace Agree

variable {m n : Machine} (h : Agree m n)

include h

theorem execution_eq (hcontrol : m.state.control ≠ .nop) : m.execution = n.execution := by
  have hdata : m.data = n.data := by
    simp only [data, h.ram, h.ea hcontrol]
  simp only [execution, CoreState.execute, hdata, h.operand hcontrol, h.ea hcontrol, h.acc,
    h.control, h.skip]

theorem accumulator_eq : m.execution.writeback.accumulator m.state.acc =
    n.execution.writeback.accumulator n.state.acc := by
  by_cases hcontrol : m.state.control = .nop
  · rw [accumulator_of_nop hcontrol, accumulator_of_nop (h.control ▸ hcontrol), h.acc]
  · rw [h.execution_eq hcontrol, h.acc]

theorem carryFlag_eq : m.execution.writeback.carryFlag m.state.cf =
    n.execution.writeback.carryFlag n.state.cf := by
  by_cases hcontrol : m.state.control = .nop
  · rw [carryFlag_of_nop hcontrol, carryFlag_of_nop (h.control ▸ hcontrol), h.cf]
  · rw [h.execution_eq hcontrol, h.cf]

theorem zeroFlag_eq : m.execution.writeback.zeroFlag m.state.zf =
    n.execution.writeback.zeroFlag n.state.zf := by
  by_cases hcontrol : m.state.control = .nop
  · rw [zeroFlag_of_nop hcontrol, zeroFlag_of_nop (h.control ▸ hcontrol), h.zf]
  · rw [h.execution_eq hcontrol, h.zf]

theorem write_eq : m.tick.write = n.tick.write := by
  by_cases hcontrol : m.state.control = .nop
  · rw [write_of_nop hcontrol, write_of_nop (h.control ▸ hcontrol)]
  · exact congrArg Execution.write (h.execution_eq hcontrol)

theorem registerJump_eq : m.tick.registerJump = n.tick.registerJump := by
  rw [tick_registerJump, tick_registerJump, h.control, h.skip]

theorem data_eq (hjump : m.tick.registerJump = true) : m.data = n.data := by
  have hcontrol : m.state.control ≠ .nop := by
    intro hnop
    rw [registerJump_of_nop hnop] at hjump
    cases hjump
  exact congrArg Execution.data (h.execution_eq hcontrol)

theorem stored_eq : m.stored = n.stored := by
  have hwrite : m.execution.write = n.execution.write := h.write_eq
  simp only [stored, hwrite, h.ram]

theorem decodeSuppressed_eq : m.tick.decodeSuppressed = n.tick.decodeSuppressed := by
  rw [tick_decodeSuppressed, tick_decodeSuppressed, h.skip, h.registerJump_eq]

theorem indexRegisters_eq : m.state.indexRegisters = n.state.indexRegisters := by
  simp only [CoreState.indexRegisters, h.ix, h.iy]

theorem decoding_eq (hfree : m.tick.decodeSuppressed = false) (hword : m.state.word = n.state.word) :
    m.decoding = n.decoding := by
  have hfree' := h.decodeSuppressed_eq ▸ hfree
  have haddress (i : Instruction) (accumulator : Int) :
      m.state.address i accumulator = n.state.address i accumulator := by
    simp only [CoreState.address, hword, h.indexRegisters_eq]
  rw [decoding_of_not_suppressed hfree, decoding_of_not_suppressed hfree']
  simp only [hword, h.accumulator_eq, h.carryFlag_eq, h.zeroFlag_eq, haddress]

variable (hword : m.tick.decodeSuppressed = false → m.state.word = n.state.word)

include hword

theorem jumpTaken_eq : m.tick.jumpTaken = n.tick.jumpTaken := by
  cases hs : m.tick.decodeSuppressed with
  | false => exact congrArg Decoding.jumpTaken (h.decoding_eq hs (hword hs))
  | true =>
    show m.decoding.jumpTaken = n.decoding.jumpTaken
    rw [decoding_of_suppressed hs, decoding_of_suppressed (h.decodeSuppressed_eq ▸ hs)]

theorem sameEffects : m.tick.SameEffects n.tick where
  write := h.write_eq
  decodeSuppressed := h.decodeSuppressed_eq
  executeSuppressed := by rw [tick_executeSuppressed, tick_executeSuppressed, h.skip]
  registerJump := h.registerJump_eq
  jumpTaken := h.jumpTaken_eq hword

theorem next_pc_eq : m.next.state.pc = n.next.state.pc := by
  rw [next_pc, next_pc, h.registerJump_eq, h.jumpTaken_eq hword, h.pc]
  by_cases hjump : n.tick.registerJump = true
  · rw [if_pos hjump, if_pos hjump, h.data_eq (h.registerJump_eq ▸ hjump)]
  · rw [if_neg hjump, if_neg hjump]
    by_cases htaken : n.tick.jumpTaken = true
    · rw [if_pos htaken, if_pos htaken]
      have hfree : m.tick.decodeSuppressed = false := by
        cases hs : m.tick.decodeSuppressed with
        | false => rfl
        | true =>
          rw [← h.jumpTaken_eq hword, jumpTaken_of_held hs] at htaken
          cases htaken
      rw [hword hfree]
    · rw [if_neg htaken, if_neg htaken]

/-- What the decode stage leaves behind agrees, its address only if it is not a bubble. -/
theorem decoding_agree : m.decoding.control = n.decoding.control ∧
    m.decoding.registers = n.decoding.registers ∧
      (m.decoding.control ≠ .nop → m.state.word = n.state.word ∧
        m.decoding.address = n.decoding.address) := by
  cases hs : m.tick.decodeSuppressed with
  | false =>
    rw [h.decoding_eq hs (hword hs)]
    exact ⟨rfl, rfl, fun _ => ⟨hword hs, rfl⟩⟩
  | true =>
    rw [decoding_of_suppressed hs, decoding_of_suppressed (h.decodeSuppressed_eq ▸ hs)]
    exact ⟨rfl, h.indexRegisters_eq, fun hcontrol => absurd rfl hcontrol⟩

/-- **A clock edge keeps two machines in agreement** if the word in the decode stage is the same in
    both, or is held back. -/
theorem next : Agree m.next n.next := by
  obtain ⟨hcontrol, hregisters, hlatches⟩ := h.decoding_agree hword
  refine ⟨⟨h.stored_eq, ?_, h.next_pc_eq hword, h.accumulator_eq, congrArg IndexRegisters.ix hregisters,
    congrArg IndexRegisters.iy hregisters, h.carryFlag_eq, h.zeroFlag_eq, hcontrol, ?_⟩, ?_, ?_⟩
  · rw [next_cycles, next_cycles, h.cycles]
  · rw [next_skip, next_skip, h.skip, h.registerJump_eq, h.jumpTaken_eq hword]
  · intro hinstruction
    rw [next_operand, next_operand, (hlatches hinstruction).1]
  · intro hinstruction
    exact (hlatches hinstruction).2

end Agree

theorem agree_reset {m n : Machine} (h : m.ram = n.ram) : Agree m.reset n.reset := by
  refine ⟨⟨h, ?_, ?_, ?_, ?_, ?_, ?_, ?_, ?_, ?_⟩, ?_, ?_⟩ <;> intros <;> rfl

end Machine

/-! ### Runs -/

/-- In one of the first `n` cycles of a run the decode stage, not held back, has the word that was
    fetched from the address.  The word of a cycle is the one fetched in the cycle before. -/
def Run.Decodes (r : Run) (n : Nat) (address : Int) : Prop :=
  ∃ i, i + 1 < n ∧ (r.tick (i + 1)).decodeSuppressed = false ∧ (r.machine i).state.pc = address

namespace Machine

variable {m₁ m₂ : Machine} {n : Nat}

theorem word_eq_of_load_eq {m n : Machine} (hm : m.state.InRange) (hpc : m.state.pc = n.state.pc)
    (hload : m.rom.load m.state.pc = n.rom.load m.state.pc) : m.next.state.word = n.next.state.word := by
  rw [Memory.load_eq_cell m.rom hm.pc, Memory.load_eq_cell n.rom hm.pc, Except.ok.injEq] at hload
  rw [next_word, next_word, fetched, fetched, hload, hpc]

/-- The machines agree through the first `n` cycles, and in each of them the decode stages, if they
    are not held back, have the same word. -/
theorem agree_after (hram : m₁.ram = m₂.ram)
    (hrom : ∀ a, m₁.resetRun.Decodes n a → m₁.rom.load a = m₂.rom.load a) :
    ∀ i, (i ≤ n → Agree (m₁.reset.after i) (m₂.reset.after i)) ∧
      (i < n → (m₁.reset.after i).tick.decodeSuppressed = false →
        (m₁.reset.after i).state.word = (m₂.reset.after i).state.word) := by
  intro i
  induction i with
  | zero => exact ⟨fun _ => agree_reset hram, fun _ _ => rfl⟩
  | succ i ih =>
    constructor
    · intro hi
      exact (ih.1 (by omega)).next (ih.2 (by omega))
    · intro hi hfree
      have hagree := ih.1 (by omega)
      have hload := hrom _ ⟨i, hi, hfree, rfl⟩
      rw [resetRun_machine] at hload
      apply word_eq_of_load_eq (inRange_after m₁.inRange_reset i) hagree.pc
      rw [rom_after, rom_after]
      exact hload

end Machine

/-- **Wrong-path instructions are invisible.**  If two programs agree on every address whose word is
    decoded in the first `n` cycles of the one, then the runs from reset on the same data agree on
    all that an instruction can see after each of these cycles, and on every write and every signal
    in them. -/
theorem wrong_path_invisible (m₁ m₂ : Machine) (n : Nat) (hram : m₁.ram = m₂.ram)
    (hrom : ∀ a, m₁.resetRun.Decodes n a → m₁.rom.load a = m₂.rom.load a) :
    (∀ i ≤ n, (m₁.resetRun.machine i).SameVisible (m₂.resetRun.machine i)) ∧
      ∀ i < n, (m₁.resetRun.tick i).SameEffects (m₂.resetRun.tick i) := by
  have hagree := Machine.agree_after hram hrom
  constructor
  · intro i hi
    exact ((hagree i).1 hi).toSameVisible
  · intro i hi
    exact ((hagree i).1 (Nat.le_of_lt hi)).sameEffects ((hagree i).2 hi)

/-- A machine whose program jumps from cell zero to cell two, over the given word. -/
def Machine.jumpingOver (word : Word) : Machine where
  rom := ((Memory.blank .program addressSpace).withCell 0 0xB02).withCell 1 word
  ram := .blank .data addressSpace

theorem Machine.cell_jumpingOver {a : Byte} (h : a ≠ 1) (v w : Word) :
    (Machine.jumpingOver v).rom.cell a = (Machine.jumpingOver w).rom.cell a := by
  simp only [Machine.jumpingOver, Memory.cell_withCell, if_neg h]

/-- The word that is jumped over may be a store, a jump to a register or one to anywhere. -/
theorem store_behind_jump_invisible :
    let m₁ := Machine.jumpingOver 0xE10
    let m₂ := Machine.jumpingOver 0xAFE
    m₁.ram = m₂.ram ∧ (∀ a, m₁.resetRun.Decodes 8 a → m₁.rom.load a = m₂.rom.load a) ∧
      (∀ i ≤ 8, (m₁.resetRun.machine i).SameVisible (m₂.resetRun.machine i)) ∧
        ∀ i < 8, (m₁.resetRun.tick i).SameEffects (m₂.resetRun.tick i) := by
  intro m₁ m₂
  have hrom : ∀ a, m₁.resetRun.Decodes 8 a → m₁.rom.load a = m₂.rom.load a := by
    have hpc : ∀ i < 7, (m₁.resetRun.tick (i + 1)).decodeSuppressed = false →
        (m₁.resetRun.machine i).state.pc ≠ 1 := by decide +kernel
    rintro a ⟨i, hi, hfree, rfl⟩
    have hrange := (Machine.inRange_after m₁.inRange_reset i).pc
    have hne := hpc i (by omega) hfree
    rw [Machine.resetRun_machine] at hne ⊢
    rw [Memory.load_eq_cell _ hrange, Memory.load_eq_cell _ hrange]
    rw [Machine.cell_jumpingOver]
    intro heq
    apply hne
    rw [← unsigned_byte_ofInt_of_mem hrange, heq]
    rfl
  exact ⟨rfl, hrom, wrong_path_invisible m₁ m₂ 8 rfl hrom⟩

end Microcore
