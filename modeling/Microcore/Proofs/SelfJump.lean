/-
  Microcore/Proofs/SelfJump.lean
  ==============================
  **A self-jump parks the machine for good.**  Behind a jump to its own address the machine alternates
  between two states: the jump has just been decoded (`Machine.Parked`), or the word behind it has
  been dropped and the jump is in the decode stage again (`Machine.Returning`).  In both, neither
  stage commits anything (`Machine.Spins`), so a clock edge leads from the one to the other and changes
  nothing else.  However the jump was reached, the word behind it is the one that was fetched with it.
-/
import Microcore.Proofs.Bubbles
import Microcore.Proofs.NoOperation

namespace Microcore

attribute [ext] CoreState

/-- The word is a jump to the address. -/
def Word.JumpsTo (w : Word) (a : Byte) : Prop := w.toNat = 0xB00 + a.toNat

theorem Word.JumpsTo.fields {w : Word} {a : Byte} (h : w.JumpsTo a) :
    w.code = 0xB ∧ w.operand = a := by
  apply Word.fields_of_toNat
  rw [h]
  rfl

namespace Machine

/-- Two machines with the same accumulator, flags, index registers and data memory. -/
structure SameContents (m n : Machine) : Prop where
  acc : m.state.acc = n.state.acc
  cf : m.state.cf = n.state.cf
  zf : m.state.zf = n.state.zf
  index : m.state.indexRegisters = n.state.indexRegisters
  ram : m.ram = n.ram

/-- A jump to the address has just been decoded. -/
structure Parked (m : Machine) (a : Byte) : Prop where
  pc : m.state.pc = unsigned a
  ir : m.state.ir = unsigned (m.rom.cell (a + 1))
  operand : m.state.operand = unsigned a
  ea : m.state.ea = unsigned a
  control : m.state.control = (Instruction.ofCode 0xB).control
  skip : m.state.skip = .decodeNext

/-- The word behind the address has been dropped, and the word at the address is decoded next. -/
structure Returning (m : Machine) (a : Byte) : Prop where
  pc : m.state.pc = unsigned (a + 1)
  ir : m.state.ir = unsigned (m.rom.cell a)
  operand : m.state.operand = unsigned (Word.operand (m.rom.cell (a + 1)))
  ea : m.state.ea = unsigned (Word.operand (m.rom.cell (a + 1)))
  control : m.state.control = .nop
  skip : m.state.skip = .none

def Spins (m : Machine) (a : Byte) : Prop := m.Parked a ∨ m.Returning a

namespace SameContents

variable {m n k : Machine}

theorem refl (m : Machine) : SameContents m m := ⟨rfl, rfl, rfl, rfl, rfl⟩

theorem trans (h : SameContents m n) (h' : SameContents n k) : SameContents m k :=
  ⟨h.acc.trans h'.acc, h.cf.trans h'.cf, h.zf.trans h'.zf, h.index.trans h'.index,
    h.ram.trans h'.ram⟩

end SameContents

variable {m : Machine} {a : Byte}

/-! ### The word of an address -/

theorem word_of_ir {w : Word} (h : m.state.ir = unsigned w) : m.state.word = w := by
  apply unsigned_inj.mp
  have h0 := unsigned_nonneg w
  have h1 := unsigned_word_lt w
  rw [CoreState.word, unsigned_word_ofInt, h]
  omega

theorem fetched_of_pc (h : m.state.pc = unsigned a) : m.fetched = m.rom.cell a := by
  rw [fetched, h, byte_ofInt_unsigned]

/-! ### One cycle -/

/-- **A jump that is decoded leaves the machine parked** if the word in the decode stage was fetched
    from the address before the program counter. -/
theorem parked_next (hfree : m.tick.decodeSuppressed = false) (hjump : m.state.word.JumpsTo a)
    (hpc : m.state.pc = unsigned (a + 1)) : m.next.Parked a := by
  obtain ⟨hcode, hoperand⟩ := hjump.fields
  have hinstruction : m.state.word.instruction = Instruction.ofCode 0xB := by
    rw [Word.instruction, hcode]
  have htaken : m.tick.jumpTaken = true := by
    show m.decoding.jumpTaken = true
    rw [decoding_of_not_suppressed hfree]
    simp only [hinstruction]
    rfl
  refine ⟨?_, ?_, ?_, ?_, ?_, next_skip_eq_decodeNext_iff.mpr htaken⟩
  · rw [next_pc, registerJump_of_jumpTaken htaken, htaken, hoperand]
    rfl
  · rw [next_ir, fetched_of_pc hpc, next_rom]
  · rw [next_operand, hoperand]
  · rw [next_ea, decoding_of_not_suppressed hfree]
    simp only [hinstruction, CoreState.address, hoperand]
    rfl
  · rw [next_control, decoding_of_not_suppressed hfree]
    simp only [hinstruction]

theorem Parked.returning_next (h : m.Parked a) : m.next.Returning a := by
  have hheld : m.tick.decodeSuppressed = true := by
    rw [tick_decodeSuppressed, h.skip]
    rfl
  have hstraight : m.tick.registerJump = false := by
    rw [tick_registerJump, h.control]
    rfl
  have hword := word_of_ir h.ir
  refine ⟨?_, ?_, ?_, ?_, ?_, ?_⟩
  · rw [next_pc, hstraight, jumpTaken_of_held hheld, h.pc, ← unsigned_byte_ofInt, byte_ofInt_add_one]
    rfl
  · rw [next_ir, fetched_of_pc h.pc, next_rom]
  · rw [next_operand, hword, next_rom]
  · rw [next_ea, decoding_of_suppressed hheld, hword, next_rom]
  · rw [next_control, decoding_of_suppressed hheld]
  · rw [next_skip, hstraight, jumpTaken_of_held hheld, h.skip]
    rfl

theorem Returning.parked_next (hjump : Word.JumpsTo (m.rom.cell a) a) (h : m.Returning a) :
    m.next.Parked a := by
  apply Machine.parked_next _ (by rwa [word_of_ir h.ir]) h.pc
  rw [tick_decodeSuppressed, tick_registerJump, h.control, h.skip]
  rfl

/-- Stages that commit nothing change nothing. -/
theorem sameContents_next (he : m.execution.Idle)
    (hindex : m.decoding.registers = m.state.indexRegisters) : SameContents m m.next where
  acc := (he.accumulator _).symm
  cf := (he.carryFlag _).symm
  zf := (he.zeroFlag _).symm
  index := hindex.symm
  ram := by rw [next_ram, stored, he.write]

/-- The execute stage of a spinning machine does nothing: a jump has no control signals that commit. -/
theorem Spins.idle (h : m.Spins a) : m.execution.Idle := by
  rcases h with hparked | hreturning
  · have hcontrol : m.state.control = { aluOp := .xor, immediate := true } := hparked.control
    constructor <;> simp [execution, CoreState.execute, ControlWord.execute, hcontrol]
  · exact CoreState.executesNothing_of_nop hreturning.control _

theorem Spins.registers_eq (hjump : Word.JumpsTo (m.rom.cell a) a) (h : m.Spins a) :
    m.decoding.registers = m.state.indexRegisters := by
  rcases h with hparked | hreturning
  · have hheld : m.tick.decodeSuppressed = true := by
      rw [tick_decodeSuppressed, hparked.skip]
      rfl
    rw [decoding_of_suppressed hheld]
  · have hfree : m.tick.decodeSuppressed = false := by
      rw [tick_decodeSuppressed, tick_registerJump, hreturning.control, hreturning.skip]
      rfl
    have hinstruction : m.state.word.instruction = Instruction.ofCode 0xB := by
      rw [Word.instruction, word_of_ir hreturning.ir, hjump.fields.1]
    rw [decoding_of_not_suppressed hfree, hinstruction]
    rfl

/-- A clock edge of a spinning machine changes nothing, and the machine spins on. -/
theorem Spins.next (hjump : Word.JumpsTo (m.rom.cell a) a) (h : m.Spins a) :
    m.next.Spins a ∧ SameContents m m.next := by
  refine ⟨?_, sameContents_next h.idle (h.registers_eq hjump)⟩
  rcases h with hparked | hreturning
  · exact .inr hparked.returning_next
  · exact .inl (hreturning.parked_next hjump)

/-! ### The spin -/

theorem Spins.after (hjump : Word.JumpsTo (m.rom.cell a) a) (h : m.Spins a) (k : Nat) :
    (m.after k).Spins a ∧ SameContents m (m.after k) := by
  induction k with
  | zero => exact ⟨h, .refl m⟩
  | succ k ih =>
    obtain ⟨hspins, hsame⟩ := ih
    obtain ⟨hnext, hstep⟩ := hspins.next (by rwa [rom_after])
    exact ⟨hnext, hsame.trans hstep⟩

/-- A state is its contents and its latches. -/
theorem SameContents.state_eq {n : Machine} (h : SameContents m n) (hpc : m.state.pc = n.state.pc)
    (hir : m.state.ir = n.state.ir) (hoperand : m.state.operand = n.state.operand)
    (hea : m.state.ea = n.state.ea) (hcontrol : m.state.control = n.state.control)
    (hskip : m.state.skip = n.state.skip) : m.state = n.state := by
  have hix := congrArg IndexRegisters.ix h.index
  have hiy := congrArg IndexRegisters.iy h.index
  exact CoreState.ext hpc hir hoperand hix hiy hea h.acc h.cf h.zf hcontrol hskip

theorem Spins.state_next_next (hjump : Word.JumpsTo (m.rom.cell a) a) (h : m.Spins a) :
    m.next.next.state = m.state := by
  have hsame : SameContents m m.next.next := (h.after hjump 2).2
  symm
  rcases h with h | h
  · have h' : m.next.next.Parked a := Returning.parked_next (m := m.next) hjump h.returning_next
    apply hsame.state_eq
    · rw [h.pc, h'.pc]
    · rw [h.ir, h'.ir, next_rom, next_rom]
    · rw [h.operand, h'.operand]
    · rw [h.ea, h'.ea]
    · rw [h.control, h'.control]
    · rw [h.skip, h'.skip]
  · have h' : m.next.next.Returning a := (h.parked_next hjump).returning_next
    apply hsame.state_eq
    · rw [h.pc, h'.pc]
    · rw [h.ir, h'.ir, next_rom, next_rom]
    · rw [h.operand, h'.operand, next_rom, next_rom]
    · rw [h.ea, h'.ea, next_rom, next_rom]
    · rw [h.control, h'.control]
    · rw [h.skip, h'.skip]

theorem Spins.pc_eq (h : m.Spins a) :
    m.state.pc = unsigned a ∨ m.state.pc = (unsigned a + 1) % 256 := by
  rcases h with hparked | hreturning
  · exact .inl hparked.pc
  · right
    rw [hreturning.pc, ← unsigned_byte_ofInt, byte_ofInt_add_one]

end Machine

/-! ### Reaching a self-jump -/

/-- In a cycle the decode stage, not held back, has the word that was fetched from the address in
    the cycle before. -/
def Run.DecodesAt (r : Run) (t : Nat) (address : Int) : Prop :=
  ∃ i, t = i + 1 ∧ (r.tick t).decodeSuppressed = false ∧ (r.machine i).state.pc = address

namespace Machine

/-- The word behind an instruction that is decoded always comes from the next address: a redirect
    would have dropped the instruction. -/
theorem pc_of_decodesAt (m : Machine) {t : Nat} {a : Byte} (h : m.resetRun.DecodesAt t (unsigned a)) :
    (m.reset.after t).state.pc = unsigned (a + 1) ∧ (m.reset.after t).state.word = m.rom.cell a := by
  obtain ⟨i, rfl, hfree, hpc⟩ := h
  rw [resetRun_machine] at hpc
  rw [decodeSuppressed_succ, Bool.or_eq_false_iff, Bool.or_eq_false_iff] at hfree
  obtain ⟨⟨-, hstraight⟩, htaken⟩ := hfree
  rw [resetRun_tick] at hstraight htaken
  rw [after_succ, next_word, fetched_of_pc hpc, rom_after, next_pc, hstraight, htaken, hpc]
  refine ⟨?_, rfl⟩
  rw [← byte_ofInt_add_one, unsigned_byte_ofInt]
  rfl

end Machine

/-- **A self-jump parks the machine for good.**  From the first cycle in which the run from reset
    decodes a jump to its own address, the core state repeats every two cycles, with the program
    counter at the jump or at the word behind it; accumulator, flags, index registers and data memory
    stay as that cycle has left them, and nothing is written any more. -/
theorem self_jump_parks {m : Machine} {a : Byte} (hjump : (m.rom.cell a).toNat = 0xB00 + a.toNat)
    {t : Nat} (ht : m.resetRun.DecodesAt t (unsigned a)) (k : Nat) :
    let after (i : Nat) := m.resetRun.machine (t + 1 + i)
    (after (k + 2)).state = (after k).state ∧
      ((after k).state.pc = unsigned a ∨ (after k).state.pc = (unsigned a + 1) % 256) ∧
      (after 0).SameContents (after k) ∧ (m.resetRun.tick (t + 1 + k)).write = none := by
  have hrom (i : Nat) : Word.JumpsTo ((m.reset.after i).rom.cell a) a := by
    rw [Machine.rom_after]
    exact hjump
  obtain ⟨hpc, hword⟩ := m.pc_of_decodesAt ht
  have hparked : (m.reset.after (t + 1)).Parked a := by
    obtain ⟨i, rfl, hfree, -⟩ := ht
    exact Machine.parked_next hfree (hword ▸ hjump) hpc
  have hspins : (m.reset.after (t + 1)).Spins a := .inl hparked
  obtain ⟨hk, hsame⟩ := hspins.after (hrom _) k
  simp only [Machine.resetRun_machine, Machine.resetRun_tick, Machine.after_add _ (t + 1)]
  exact ⟨hk.state_next_next (by rw [Machine.rom_after]; exact hrom _), hk.pc_eq, hsame, hk.idle.write⟩

/-- A program that stores a byte at address 16 and then stays where it is. -/
def Machine.storing : Machine where
  rom := (((Memory.blank .program addressSpace).withCell 0 0xD05).withCell 1 0xE10).withCell 2 0xB02
  ram := .blank .data addressSpace

/-- The self-jump is decoded while the store in front of it executes. -/
theorem self_jump_behind_store_parks :
    let m := Machine.storing
    (m.rom.cell 2).toNat = 0xB00 + (2 : Byte).toNat ∧ m.resetRun.DecodesAt 4 (unsigned (2 : Byte)) ∧
      (m.resetRun.tick 4).write = some ⟨16, 5⟩ ∧
      ∀ k,
        let after (i : Nat) := m.resetRun.machine (4 + 1 + i)
        (after (k + 2)).state = (after k).state ∧
          ((after k).state.pc = unsigned (2 : Byte) ∨
            (after k).state.pc = (unsigned (2 : Byte) + 1) % 256) ∧
          (after 0).SameContents (after k) ∧ (m.resetRun.tick (4 + 1 + k)).write = none := by
  intro m
  have hjump : (m.rom.cell 2).toNat = 0xB00 + (2 : Byte).toNat := by decide +kernel
  have ht : m.resetRun.DecodesAt 4 (unsigned (2 : Byte)) := ⟨3, by decide +kernel⟩
  exact ⟨hjump, ht, by decide +kernel, fun k => self_jump_parks hjump ht k⟩

end Microcore
