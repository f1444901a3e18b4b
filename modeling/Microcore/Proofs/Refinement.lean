/-
  Microcore/Proofs/Refinement.lean
  ================================
  **The pipeline carries out the sequential instruction set.**  After a reset the decode stage holds
  a jump to cell zero, so the run begins like the passage from an instruction in front of the first
  one.  By induction on the instructions, the simulation relation then holds in each cycle of the
  schedule (`decodes_decodeCycle`), and the passages between these cycles tell what every register
  holds in every cycle.
-/
import Microcore.Proofs.Simulation

namespace Microcore

namespace Machine

/-! ### From reset on -/

def sequential (m : Machine) : Sequential := { ram := m.ram.cell }

theorem sameData_reset (m : Machine) : m.reset.SameData m.sequential :=
  ⟨rfl, rfl, rfl, fun _ => rfl⟩

/-- The sequential machine in front of the jump to cell zero that the decode stage holds after a
    reset. -/
def beforeReset (m : Machine) : Sequential := { pc := 0xFF, ram := m.ram.cell }

theorem word_reset (m : Machine) : m.reset.state.word = 0xB00 := by
  show Word.ofInt 0xB00 = 0xB00
  decide

theorem carryOut_reset (m : Machine) : m.beforeReset.carryOut m.reset.state.word = m.sequential := by
  rw [word_reset]
  rfl

theorem decodes_reset (m : Machine) : m.reset.Decodes m.beforeReset where
  free := rfl
  pc := by
    show (0 : Int) = unsigned (0xFF + 1 : Byte)
    decide
  index := rfl
  data := by
    obtain ⟨hacc, hcf, hzf, hram⟩ := m.sameData_reset.next_of_nop rfl
    exact ⟨hacc, hcf, hzf, hram⟩

theorem passage_reset (m : Machine) : m.reset.Passage m.sequential 2 := by
  have hjump : m.reset.state.word.instruction.control.registerJump = false := by
    rw [word_reset]
    rfl
  have htaken : m.reset.state.word.instruction.condition.holds m.beforeReset.cf m.beforeReset.zf =
      true := by
    rw [word_reset]
    rfl
  have hpassage := m.decodes_reset.passage_jump hjump htaken
  rw [carryOut_reset] at hpassage
  exact hpassage

def instructions (m : Machine) (n : Nat) : Sequential := m.sequential.after m.rom.cell n

def decodeCycle (m : Machine) (n : Nat) : Nat := m.sequential.decodeCycle m.rom.cell n

variable (m : Machine)

theorem decodeCycle_succ (n : Nat) :
    m.decodeCycle (n + 1) = m.decodeCycle n + (m.instructions n).distance m.rom.cell :=
  m.sequential.decodeCycle_succ m.rom.cell n

/-- **The simulation relation holds** whenever the schedule says that an instruction is decoded. -/
theorem decodes_decodeCycle (n : Nat) :
    (m.reset.after (m.decodeCycle n)).Decodes (m.instructions n) ∧
      (m.reset.after (m.decodeCycle n)).state.word = m.rom.cell (m.instructions n).pc := by
  induction n with
  | zero => exact ⟨m.passage_reset.decodes, m.passage_reset.word⟩
  | succ n ih =>
    obtain ⟨hdecodes, hword⟩ := ih
    have hpassage := hdecodes.passage (by rw [hword, rom_after]; rfl)
    rw [rom_after] at hpassage
    rw [decodeCycle_succ, after_add]
    refine ⟨hpassage.decodes, ?_⟩
    have hnext := hpassage.word
    rw [rom_after] at hnext
    exact hnext

theorem passage_decodeCycle (n : Nat) : (m.reset.after (m.decodeCycle n)).Passage
    (m.instructions (n + 1)) ((m.instructions n).distance m.rom.cell) := by
  obtain ⟨hdecodes, hword⟩ := m.decodes_decodeCycle n
  have hpassage := hdecodes.passage (by rw [hword, rom_after]; rfl)
  rw [rom_after] at hpassage
  exact hpassage

theorem two_le_decodeCycle (n : Nat) : 2 ≤ m.decodeCycle n := by
  simp only [decodeCycle, Sequential.decodeCycle]
  omega

/-- Every cycle behind the reset lies between the decoding of an instruction and that of the next. -/
theorem exists_decodeCycle_le {c : Nat} (h : 2 ≤ c) :
    ∃ n, m.decodeCycle n ≤ c ∧ c < m.decodeCycle (n + 1) := by
  induction c, h using Nat.le_induction with
  | base =>
    refine ⟨0, Nat.le_refl 2, ?_⟩
    rw [decodeCycle_succ]
    exact Nat.lt_add_of_pos_right (Sequential.distance_pos _ _)
  | succ c hc ih =>
    obtain ⟨n, hle, hlt⟩ := ih
    -- the next cycle lies in the same interval, or begins the one behind it
    by_cases hnext : c + 1 < m.decodeCycle (n + 1)
    · exact ⟨n, by omega, hnext⟩
    · refine ⟨n + 1, by omega, ?_⟩
      rw [m.decodeCycle_succ (n + 1)]
      have hpos := (m.instructions (n + 1)).distance_pos m.rom.cell
      omega

end Machine

/-! ### Runs -/

/-- A run of the pipeline that carries out the sequential machine's on schedule.  The cycles that
    decode are the first one, which holds the jump of the reset, and those of the schedule.  The
    index registers are behind an instruction from the cycle after its decoding on, the accumulator,
    the flags and the data memory from one cycle later on. -/
structure Run.CarriesOut (r : Run) (rom : Byte → Word) (s : Sequential) : Prop where
  decodes (c : Nat) :
    (r.tick c).decodeSuppressed = false ↔ c = 0 ∨ ∃ n, c = s.decodeCycle rom n
  ir (n : Nat) : (r.machine (s.decodeCycle rom n)).state.ir = unsigned (rom (s.after rom n).pc)
  pc (n : Nat) :
    (r.machine (s.decodeCycle rom n)).state.pc = (unsigned (s.after rom n).pc + 1) % 256
  index (n c : Nat) : (∀ k < n, s.decodeCycle rom k < c) → c ≤ s.decodeCycle rom n →
    (r.machine c).SameIndex (s.after rom n)
  data (n c : Nat) : (∀ k < n, s.decodeCycle rom k + 1 < c) → c ≤ s.decodeCycle rom n + 1 →
    (r.machine c).SameData (s.after rom n)

namespace Machine

variable (m : Machine)

theorem decodeSuppressed_eq_false_iff (c : Nat) : (m.resetRun.tick c).decodeSuppressed = false ↔
    c = 0 ∨ ∃ n, c = m.decodeCycle n := by
  rw [resetRun_tick]
  constructor
  · intro hfree
    -- behind the reset the cycle lies in a passage, whose cycles are held back but the first
    by_cases hreset : c < 2
    · by_cases hzero : c = 0
      · exact .inl hzero
      · rw [m.passage_reset.held c (by omega) hreset] at hfree
        cases hfree
    · obtain ⟨n, hle, hlt⟩ := m.exists_decodeCycle_le (Nat.le_of_not_lt hreset)
      obtain ⟨j, rfl⟩ := Nat.exists_eq_add_of_le hle
      refine .inr ⟨n, ?_⟩
      by_cases hj : j = 0
      · rw [hj, Nat.add_zero]
      · rw [decodeCycle_succ] at hlt
        rw [after_add, (m.passage_decodeCycle n).held j (by omega) (by omega)] at hfree
        cases hfree
  · rintro (rfl | ⟨n, rfl⟩)
    · rfl
    · exact (m.decodes_decodeCycle n).1.free

theorem ir_decodeCycle (n : Nat) : (m.reset.after (m.decodeCycle n)).state.ir =
    unsigned (m.rom.cell (m.instructions n).pc) := by
  rw [← (m.decodes_decodeCycle n).2]
  obtain ⟨c, hc⟩ := Nat.exists_eq_add_of_le' (m.two_le_decodeCycle n)
  rw [hc, after_succ, next_ir, next_word]

theorem sameIndex_of_le {n c : Nat} (hdecoded : ∀ k < n, m.decodeCycle k < c)
    (hle : c ≤ m.decodeCycle n) : (m.reset.after c).SameIndex (m.instructions n) := by
  cases n with
  | zero =>
    by_cases hzero : c = 0
    · rw [hzero]
      rfl
    · exact m.passage_reset.index c (by omega) hle
  | succ n =>
    have hlt := hdecoded n (by omega)
    obtain ⟨j, rfl⟩ := Nat.exists_eq_add_of_le (Nat.le_of_lt hlt)
    rw [decodeCycle_succ] at hle
    rw [after_add]
    exact (m.passage_decodeCycle n).index j (by omega) (by omega)

theorem sameData_of_le {n c : Nat} (hdecoded : ∀ k < n, m.decodeCycle k + 1 < c)
    (hle : c ≤ m.decodeCycle n + 1) : (m.reset.after c).SameData (m.instructions n) := by
  cases n with
  | zero =>
    by_cases hzero : c = 0
    · rw [hzero]
      exact m.sameData_reset
    · by_cases hone : c = 1
      · rw [hone]
        exact m.sameData_reset.next_of_nop rfl
      · exact m.passage_reset.data c (by omega) hle
  | succ n =>
    have hlt := hdecoded n (by omega)
    obtain ⟨j, rfl⟩ := Nat.exists_eq_add_of_le (show m.decodeCycle n ≤ c by omega)
    rw [decodeCycle_succ] at hle
    rw [after_add]
    exact (m.passage_decodeCycle n).data j (by omega) (by omega)

theorem carriesOut_resetRun : m.resetRun.CarriesOut m.rom.cell m.sequential where
  decodes := m.decodeSuppressed_eq_false_iff
  ir := m.ir_decodeCycle
  pc n := by
    rw [resetRun_machine, ← unsigned_add_one]
    exact (m.decodes_decodeCycle n).1.pc
  index _ _ := m.sameIndex_of_le
  data _ _ := m.sameData_of_le

end Machine

/-- **The pipeline refines the sequential instruction set, with an exact schedule.**  On every host
    and whatever images the memories are loaded from, the machine starts, no clock edge fails, and the
    run from reset carries out the sequential machine, which begins with cleared registers. -/
theorem pipeline_refines_sequential (host : Host) (program : List Word) (data : List Byte)
    (hp : program.length ≤ 256) (hd : data.length ≤ 256) :
    ∃ m, Machine.create?
        { program := some (program.map unsigned), data := some (data.map unsigned) } host = .ok m ∧
      m.resetRun.machine 0 = m ∧
        m.resetRun.CarriesOut (fun a => program.getD a.toNat 0)
          { ram := fun a => data.getD a.toNat 0 } := by
  obtain ⟨m, hcreate, hreset, hrom, hram⟩ := Machine.create?_of_images host hp hd
  refine ⟨m, hcreate, hreset, ?_⟩
  rw [← funext hrom, ← funext hram]
  exact m.carriesOut_resetRun

/-- A program that stores through an index register and jumps to an address in memory. -/
theorem indexed_store_refines_sequential :
    let program : List Word := [0xD05, 0xE10, 0xEF8, 0xEFC, 0xA10]
    let data : List Byte := [0x07, 0x02]
    program.length ≤ 256 ∧ data.length ≤ 256 ∧
      ∃ m, Machine.create?
          { program := some (program.map unsigned), data := some (data.map unsigned) } .usual = .ok m ∧
        m.resetRun.machine 0 = m ∧
          m.resetRun.CarriesOut (fun a => program.getD a.toNat 0)
            { ram := fun a => data.getD a.toNat 0 } := by
  intro program data
  have hp : program.length ≤ 256 := by decide
  have hd : data.length ≤ 256 := by decide
  exact ⟨hp, hd, pipeline_refines_sequential .usual program data hp hd⟩

end Microcore
