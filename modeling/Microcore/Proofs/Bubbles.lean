/-
  Microcore/Proofs/Bubbles.lean
  =============================
  **Bubbles are exactly as long as the redirects require.**  The skip register is a summary of the
  last two cycles: it says whether one of them redirected the program counter, and from which stage
  (`skip_eq_bothNext_iff` and its companions).  So the stages that are held back in a cycle are a
  sliding window over the redirects, no redirect is raised inside a bubble, and the distance from one
  decoded instruction to the next depends on the first of them alone.
-/
import Microcore.Proofs.Run

namespace Microcore

/-! ### Instructions that redirect -/

namespace Instruction

theorem registerJump_iff (c : Code) :
    (ofCode c).control.registerJump = true ↔ (ofCode c).mnemonic = "JPR" := by
  revert c
  decide

/-- An instruction that may redirect from the decode stage does not redirect from the other one. -/
theorem registerJump_of_condition (c : Code) (h : (ofCode c).condition ≠ .never) :
    (ofCode c).control.registerJump = false := by
  revert c
  decide

theorem condition_eq_always_iff (c : Code) :
    (ofCode c).condition = .always ↔ (ofCode c).mnemonic = "JMP" := by
  revert c
  decide

theorem condition_ne_never_iff (c : Code) :
    (ofCode c).condition ≠ .never ↔
      (ofCode c).mnemonic = "JMP" ∨ (ofCode c).mnemonic = "BNC" ∨ (ofCode c).mnemonic = "BNZ" := by
  revert c
  decide

end Instruction

/-! ### The skip register -/

namespace Skip

theorem next_eq_bothNext_iff (skip : Skip) (registerJump jumpTaken : Bool) :
    skip.next registerJump jumpTaken = .bothNext ↔ skip ≠ .bothNext ∧ registerJump = true := by
  cases skip <;> cases registerJump <;> cases jumpTaken <;> simp [next]

theorem next_eq_decodeNext_iff (skip : Skip) (registerJump jumpTaken : Bool) :
    skip.next registerJump jumpTaken = .decodeNext ↔
      skip ≠ .bothNext ∧ registerJump = false ∧ jumpTaken = true := by
  cases skip <;> cases registerJump <;> cases jumpTaken <;> simp [next]

theorem next_eq_executeNext_iff (skip : Skip) (registerJump jumpTaken : Bool) :
    skip.next registerJump jumpTaken = .executeNext ↔ skip = .bothNext := by
  cases skip <;> cases registerJump <;> cases jumpTaken <;> simp [next]

end Skip

/-! ### One cycle -/

namespace Machine

variable {m : Machine}

theorem skip_of_registerJump (h : m.tick.registerJump = true) :
    m.state.skip.suppressesExecute = false := by
  rw [tick_registerJump, Bool.and_eq_true, Bool.not_eq_true'] at h
  exact h.2

theorem not_suppressed_of_jumpTaken (h : m.tick.jumpTaken = true) :
    m.tick.decodeSuppressed = false := by
  cases hs : m.tick.decodeSuppressed with
  | false => rfl
  | true =>
    rw [jumpTaken_of_held hs] at h
    cases h

/-- Redirects from the two stages exclude each other. -/
theorem registerJump_of_jumpTaken (h : m.tick.jumpTaken = true) : m.tick.registerJump = false := by
  have hs := not_suppressed_of_jumpTaken h
  rw [tick_decodeSuppressed, Bool.or_eq_false_iff] at hs
  exact hs.2

theorem condition_of_jumpTaken (h : m.tick.jumpTaken = true) :
    m.tick.instruction.condition ≠ .never := by
  have hdecoding := decoding_of_not_suppressed (not_suppressed_of_jumpTaken h)
  intro hnever
  have hlow : m.tick.jumpTaken = false := by
    show m.decoding.jumpTaken = false
    rw [hdecoding]
    have hcondition : m.state.word.instruction.condition = .never := hnever
    simp only [hcondition, Condition.holds]
  rw [hlow] at h
  cases h

theorem next_skip_eq_bothNext_iff : m.next.state.skip = .bothNext ↔ m.tick.registerJump = true := by
  rw [next_skip, Skip.next_eq_bothNext_iff]
  constructor
  · intro h
    exact h.2
  · intro h
    refine ⟨?_, h⟩
    intro hskip
    have hfree := skip_of_registerJump h
    rw [hskip] at hfree
    cases hfree

theorem next_skip_eq_decodeNext_iff : m.next.state.skip = .decodeNext ↔ m.tick.jumpTaken = true := by
  rw [next_skip, Skip.next_eq_decodeNext_iff]
  constructor
  · intro h
    exact h.2.2
  · intro h
    refine ⟨?_, registerJump_of_jumpTaken h, h⟩
    intro hskip
    have hfree := not_suppressed_of_jumpTaken h
    rw [tick_decodeSuppressed, hskip] at hfree
    cases hfree

theorem next_skip_eq_executeNext_iff :
    m.next.state.skip = .executeNext ↔ m.state.skip = .bothNext := by
  rw [next_skip, Skip.next_eq_executeNext_iff]

/-- A register jump is executed in the cycle after it was decoded. -/
theorem registerJump_next_iff : m.next.tick.registerJump = true ↔
    m.tick.decodeSuppressed = false ∧ m.tick.instruction.mnemonic = "JPR" ∧
      m.next.state.skip.suppressesExecute = false := by
  rw [tick_registerJump, Bool.and_eq_true, Bool.not_eq_true', next_control]
  cases hs : m.tick.decodeSuppressed with
  | true => simp [decoding_of_suppressed hs, ControlWord.nop]
  | false =>
    rw [decoding_of_not_suppressed hs]
    show m.state.word.instruction.control.registerJump = true ∧ _ ↔ _
    rw [Word.instruction, Instruction.registerJump_iff]
    simp only [true_and]
    rfl

end Machine

/-! ### The run from reset -/

/-- Whether a signal is raised in a cycle of a run.  Before the first cycle none is. -/
def Run.Raises (r : Run) (signal : TickResult → Bool) (i : Int) : Prop :=
  0 ≤ i ∧ signal (r.tick i.toNat) = true

/-- The next cycle after `i` in which the decode stage is not held back is `j`. -/
def Run.NextDecode (r : Run) (i j : Nat) : Prop :=
  i < j ∧ (r.tick j).decodeSuppressed = false ∧
    ∀ k, i < k → k < j → (r.tick k).decodeSuppressed = true

/-- The number of cycles from the decoding of an instruction to that of the next one. -/
def TickResult.distance (t : TickResult) : Nat :=
  if t.instruction.mnemonic = "JPR" then 3
  else if t.instruction.mnemonic = "JMP" ∨
      (t.instruction.mnemonic = "BNC" ∨ t.instruction.mnemonic = "BNZ") ∧ t.jumpTaken = true then 2
  else 1

namespace Run

theorem raises_natCast (r : Run) (signal : TickResult → Bool) (i : Nat) :
    r.Raises signal i ↔ signal (r.tick i) = true := by
  simp [Raises]

theorem raises_succ_sub_one (r : Run) (signal : TickResult → Bool) (i : Nat) :
    r.Raises signal ((i + 1 : Nat) - 1) ↔ signal (r.tick i) = true := by
  have hindex : ((i + 1 : Nat) : Int) - 1 = (i : Nat) := by omega
  rw [hindex, raises_natCast]

theorem raises_succ_sub_two (r : Run) (signal : TickResult → Bool) (i : Nat) :
    r.Raises signal ((i + 1 : Nat) - 2) ↔ r.Raises signal ((i : Nat) - 1) := by
  have hindex : ((i + 1 : Nat) : Int) - 2 = (i : Nat) - 1 := by omega
  rw [hindex]

theorem not_raises_of_neg (r : Run) (signal : TickResult → Bool) {i : Int} (h : i < 0) :
    ¬r.Raises signal i := by
  intro hraises
  exact absurd hraises.1 (Int.not_le.mpr h)

end Run

namespace Machine

variable (m : Machine)

theorem skip_eq_bothNext_iff (i : Nat) : (m.resetRun.machine i).state.skip = .bothNext ↔
    m.resetRun.Raises TickResult.registerJump (i - 1) := by
  cases i with
  | zero => simp [Run.not_raises_of_neg, resetRun_machine, reset]
  | succ i =>
    rw [Run.raises_succ_sub_one]
    exact next_skip_eq_bothNext_iff

theorem skip_eq_decodeNext_iff (i : Nat) : (m.resetRun.machine i).state.skip = .decodeNext ↔
    m.resetRun.Raises TickResult.jumpTaken (i - 1) := by
  cases i with
  | zero => simp [Run.not_raises_of_neg, resetRun_machine, reset]
  | succ i =>
    rw [Run.raises_succ_sub_one]
    exact next_skip_eq_decodeNext_iff

theorem skip_eq_executeNext_iff (i : Nat) : (m.resetRun.machine i).state.skip = .executeNext ↔
    m.resetRun.Raises TickResult.registerJump (i - 2) := by
  cases i with
  | zero => simp [Run.not_raises_of_neg, resetRun_machine, reset]
  | succ i =>
    rw [Run.raises_succ_sub_two, ← skip_eq_bothNext_iff]
    exact next_skip_eq_executeNext_iff

/-- **The decode stage is held back** behind a redirect, and by a register jump that executes. -/
theorem decodeSuppressed_iff (i : Nat) : (m.resetRun.tick i).decodeSuppressed = true ↔
    (m.resetRun.tick i).registerJump = true ∨
      m.resetRun.Raises TickResult.registerJump (i - 1) ∨
        m.resetRun.Raises TickResult.jumpTaken (i - 1) := by
  rw [← skip_eq_bothNext_iff, ← skip_eq_decodeNext_iff, resetRun_tick, tick_decodeSuppressed,
    Bool.or_eq_true, ← resetRun_machine]
  cases (m.resetRun.machine i).state.skip <;> simp [Skip.suppressesDecode]

/-- **The execute stage is held back** for the two cycles behind a register jump. -/
theorem executeSuppressed_iff (i : Nat) : (m.resetRun.tick i).executeSuppressed = true ↔
    m.resetRun.Raises TickResult.registerJump (i - 1) ∨
      m.resetRun.Raises TickResult.registerJump (i - 2) := by
  rw [← skip_eq_bothNext_iff, ← skip_eq_executeNext_iff, resetRun_tick, tick_executeSuppressed,
    ← resetRun_machine]
  cases (m.resetRun.machine i).state.skip <;> simp [Skip.suppressesExecute]

/-- A register jump that executes has no redirect in the cycles before it that could reach it. -/
theorem registerJump_isolated {i : Nat} (h : (m.resetRun.tick i).registerJump = true) :
    ¬m.resetRun.Raises TickResult.registerJump (i - 1) ∧
      ¬m.resetRun.Raises TickResult.registerJump (i - 2) ∧
        ¬m.resetRun.Raises TickResult.jumpTaken (i - 1) := by
  have hfree : ¬(m.resetRun.tick i).executeSuppressed = true := by
    rw [resetRun_tick, tick_executeSuppressed, Bool.not_eq_true]
    exact skip_of_registerJump h
  rw [executeSuppressed_iff, not_or] at hfree
  refine ⟨hfree.1, hfree.2, ?_⟩
  cases i with
  | zero => exact Run.not_raises_of_neg _ _ (by decide)
  | succ i =>
    rw [Run.raises_succ_sub_one]
    intro hjump
    -- the word that took the jump is the one that executes, and it is no register jump
    have hjpr := (registerJump_next_iff.mp h).2.1
    have hcondition : (Instruction.ofCode (m.reset.after i).state.word.code).condition ≠ .never :=
      condition_of_jumpTaken hjump
    have hlow := Instruction.registerJump_of_condition _ hcondition
    have hhigh := (Instruction.registerJump_iff _).mpr hjpr
    rw [hlow] at hhigh
    cases hhigh

theorem jumpTaken_isolated {i : Nat} (h : (m.resetRun.tick i).jumpTaken = true) :
    ¬m.resetRun.Raises TickResult.jumpTaken (i - 1) := by
  intro hjump
  have hheld := (decodeSuppressed_iff m i).mpr (.inr (.inr hjump))
  rw [resetRun_tick, not_suppressed_of_jumpTaken h] at hheld
  cases hheld

/-! ### From one decoded instruction to the next -/

/-- An instruction that is decoded executes in the next cycle, and redirects there if it is a
    register jump. -/
theorem registerJump_succ_iff {i : Nat} (h : (m.resetRun.tick i).decodeSuppressed = false) :
    (m.resetRun.tick (i + 1)).registerJump = true ↔
      (m.resetRun.tick i).instruction.mnemonic = "JPR" := by
  have hfree : (m.resetRun.tick (i + 1)).executeSuppressed = false := by
    rw [← Bool.not_eq_true, executeSuppressed_iff, Run.raises_succ_sub_one, Run.raises_succ_sub_two]
    rw [← Bool.not_eq_true, decodeSuppressed_iff] at h
    rintro (hnow | hbefore)
    · exact h (.inl hnow)
    · exact h (.inr (.inl hbefore))
  constructor
  · intro hjump
    exact (registerJump_next_iff.mp hjump).2.1
  · intro hjpr
    exact registerJump_next_iff.mpr ⟨h, hjpr, hfree⟩

theorem registerJump_succ_of_suppressed {i : Nat}
    (h : (m.resetRun.tick i).decodeSuppressed = true) :
    (m.resetRun.tick (i + 1)).registerJump = false := by
  rw [← Bool.not_eq_true]
  intro hjump
  have hfree := (registerJump_next_iff.mp hjump).1
  rw [resetRun_tick] at h
  rw [h] at hfree
  cases hfree

theorem jumpTaken_of_suppressed {i : Nat} (h : (m.resetRun.tick i).decodeSuppressed = true) :
    (m.resetRun.tick i).jumpTaken = false := jumpTaken_of_held h

/-- A cycle is free for decoding unless it or the one before it redirects. -/
theorem decodeSuppressed_succ (i : Nat) : (m.resetRun.tick (i + 1)).decodeSuppressed =
    ((m.resetRun.tick (i + 1)).registerJump || (m.resetRun.tick i).registerJump ||
      (m.resetRun.tick i).jumpTaken) := by
  rw [Bool.eq_iff_iff, decodeSuppressed_iff, Run.raises_succ_sub_one, Run.raises_succ_sub_one,
    Bool.or_eq_true, Bool.or_eq_true, or_assoc]

theorem jumpTaken_iff {i : Nat} (h : (m.resetRun.tick i).decodeSuppressed = false) :
    (m.resetRun.tick i).jumpTaken = true ↔
      (m.resetRun.tick i).instruction.mnemonic = "JMP" ∨
        ((m.resetRun.tick i).instruction.mnemonic = "BNC" ∨
          (m.resetRun.tick i).instruction.mnemonic = "BNZ") ∧
            (m.resetRun.tick i).jumpTaken = true := by
  constructor
  · intro hjump
    rcases (Instruction.condition_ne_never_iff _).mp (condition_of_jumpTaken hjump) with hjmp | hbranch
    · exact .inl hjmp
    · exact .inr ⟨hbranch, hjump⟩
  · rintro (hjmp | ⟨-, hjump⟩)
    · have halways : (m.reset.after i).state.word.instruction.condition = .always :=
        (Instruction.condition_eq_always_iff _).mpr hjmp
      show (m.reset.after i).decoding.jumpTaken = true
      rw [decoding_of_not_suppressed h]
      simp only [halways, Condition.holds]
    · exact hjump

theorem distance_eq {i : Nat} (h : (m.resetRun.tick i).decodeSuppressed = false) :
    (m.resetRun.tick i).distance =
      if (m.resetRun.tick (i + 1)).registerJump then 3
      else if (m.resetRun.tick i).jumpTaken then 2 else 1 := by
  simp only [TickResult.distance, registerJump_succ_iff m h, ← jumpTaken_iff m h]

/-- The next instruction is decoded at its distance. -/
theorem nextDecode_add_distance {i : Nat} (h : (m.resetRun.tick i).decodeSuppressed = false) :
    m.resetRun.NextDecode i (i + (m.resetRun.tick i).distance) := by
  have hnow : (m.resetRun.tick i).registerJump = false := by
    rw [← Bool.not_eq_true]
    intro hjump
    rw [← Bool.not_eq_true, decodeSuppressed_iff] at h
    exact h (.inl hjump)
  rw [distance_eq m h]
  cases hjpr : (m.resetRun.tick (i + 1)).registerJump with
  | true =>
    have h1 : (m.resetRun.tick (i + 1)).decodeSuppressed = true := by
      rw [decodeSuppressed_succ, hjpr, Bool.true_or, Bool.true_or]
    have h2 : (m.resetRun.tick (i + 2)).decodeSuppressed = true := by
      rw [decodeSuppressed_succ, hjpr, Bool.or_true, Bool.true_or]
    have h3 : (m.resetRun.tick (i + 3)).decodeSuppressed = false := by
      rw [decodeSuppressed_succ, registerJump_succ_of_suppressed m h2,
        registerJump_succ_of_suppressed m h1, jumpTaken_of_suppressed m h2]
      rfl
    refine ⟨by simp, h3, ?_⟩
    intro k hik hk
    obtain rfl | rfl : k = i + 1 ∨ k = i + 2 := by
      simp only [if_true] at hk
      omega
    · exact h1
    · exact h2
  | false =>
    cases hjump : (m.resetRun.tick i).jumpTaken with
    | true =>
      have h1 : (m.resetRun.tick (i + 1)).decodeSuppressed = true := by
        rw [decodeSuppressed_succ, hjump, Bool.or_true]
      have h2 : (m.resetRun.tick (i + 2)).decodeSuppressed = false := by
        rw [decodeSuppressed_succ, registerJump_succ_of_suppressed m h1, hjpr,
          jumpTaken_of_suppressed m h1]
        rfl
      refine ⟨by simp, h2, ?_⟩
      intro k hik hk
      obtain rfl : k = i + 1 := by
        simp at hk
        omega
      exact h1
    | false =>
      have h1 : (m.resetRun.tick (i + 1)).decodeSuppressed = false := by
        rw [decodeSuppressed_succ, hjpr, hnow, hjump]
        rfl
      refine ⟨by simp, h1, ?_⟩
      intro k hik hk
      simp at hk
      omega

end Machine

namespace Run

theorem NextDecode.unique {r : Run} {i j k : Nat} (hj : r.NextDecode i j) (hk : r.NextDecode i k) :
    j = k := by
  rcases Nat.lt_trichotomy j k with hlt | heq | hgt
  · have hheld := hk.2.2 j hj.1 hlt
    rw [hj.2.1] at hheld
    cases hheld
  · exact heq
  · have hheld := hj.2.2 k hk.1 hgt
    rw [hk.2.1] at hheld
    cases hheld

end Run

/-- **Bubbles are exactly as long as the redirects require.**  In the run from reset, whatever the
    memories hold, a stage is held back exactly when the redirects of the last two cycles ask for it,
    redirects do not meet, and consecutive decoded instructions are three cycles apart behind a
    register jump, two behind a jump or a branch that is taken, and one otherwise. -/
theorem bubbles_match_redirects (m : Machine) :
    (∀ i : Int,
      let rj := m.resetRun.Raises TickResult.registerJump
      let jt := m.resetRun.Raises TickResult.jumpTaken
      let ds := m.resetRun.Raises TickResult.decodeSuppressed
      let es := m.resetRun.Raises TickResult.executeSuppressed
      (ds i ↔ rj i ∨ rj (i - 1) ∨ jt (i - 1)) ∧ (es i ↔ rj (i - 1) ∨ rj (i - 2)) ∧
        ¬(rj i ∧ jt i) ∧ (rj i → ¬rj (i - 1) ∧ ¬rj (i - 2) ∧ ¬jt (i - 1)) ∧
          (jt i → ¬jt (i - 1))) ∧
    (∀ i j : Nat, (m.resetRun.tick i).decodeSuppressed = false →
      (m.resetRun.NextDecode i j ↔ j = i + (m.resetRun.tick i).distance)) := by
  constructor
  · intro i
    by_cases hneg : i < 0
    · have hneg1 : i - 1 < 0 := by omega
      have hneg2 : i - 2 < 0 := by omega
      simp only [Run.not_raises_of_neg, hneg, hneg1, hneg2, not_false_eq_true, or_self, and_self,
        false_implies]
    · obtain ⟨n, rfl⟩ := Int.eq_ofNat_of_zero_le (Int.not_lt.mp hneg)
      simp only [Run.raises_natCast]
      refine ⟨m.decodeSuppressed_iff n, m.executeSuppressed_iff n, ?_, m.registerJump_isolated,
        m.jumpTaken_isolated⟩
      rintro ⟨hrj, hjt⟩
      rw [Machine.resetRun_tick] at hrj hjt
      rw [Machine.registerJump_of_jumpTaken hjt] at hrj
      cases hrj
  · intro i j h
    have hnext := m.nextDecode_add_distance h
    constructor
    · intro hj
      exact hj.unique hnext
    · rintro rfl
      exact hnext

end Microcore
