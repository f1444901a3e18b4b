/-
  Microcore/Proofs/WellFormed.lean
  ================================
  **Every reachable core state is well formed.**  Three latches are written by different stages: the
  control word, the data address and the skip register.  `CoreState.WellFormed` says how they fit
  together, whatever the memories hold and however often they are changed in the middle of a run.  A
  clock edge keeps it (`wellFormed_next`), so it holds behind every sequence of commands.
-/
import Microcore.Proofs.Bubbles
import Microcore.Proofs.Reachable

namespace Microcore

/-! ### Well-formed states -/

namespace CoreState

/-- The state of a core whose registers hold what fits them and whose latches fit together: a bubble
    in the execute stage has no control signals, a jump is behind the decode stage that dropped an
    instruction, and only the addressing modes of a register operand change the data address. -/
structure WellFormed (s : CoreState) : Prop where
  inRange : s.InRange
  operand : 0 ≤ s.operand ∧ s.operand < 256
  acc : 0 ≤ s.acc ∧ s.acc < 256
  ir : 0 ≤ s.ir ∧ s.ir ≤ 0xFFF
  control : s.control = .nop ∨ ∃ i ∈ Instruction.standard, s.control = i.control
  bubble : s.skip = .bothNext ∨ s.skip = .executeNext → s.control = .nop
  jump : s.skip = .decodeNext → ∃ i ∈ Instruction.standard,
    (i.mnemonic = "BNC" ∨ i.mnemonic = "BNZ" ∨ i.mnemonic = "JMP") ∧ s.control = i.control
  ea : s.control ≠ .nop →
    (∀ i ∈ Instruction.standard, i.kind = .register → s.control ≠ i.control) → s.ea = s.operand

theorem wellFormed_reset : ({} : CoreState).WellFormed where
  inRange := inRange_reset
  operand := by decide
  acc := by decide
  ir := by decide
  control := .inl rfl
  bubble _ := rfl
  jump h := by cases h
  ea h := absurd rfl h

end CoreState

namespace Machine

variable {m : Machine}

/-- The control word that an edge latches is that of the decoded instruction, unless the decode stage
    is held back. -/
theorem next_control_of_not_suppressed (h : m.tick.decodeSuppressed = false) :
    m.next.state.control = m.state.word.instruction.control := by
  rw [next_control, decoding_of_not_suppressed h]

theorem next_control_of_suppressed (h : m.tick.decodeSuppressed = true) :
    m.next.state.control = .nop := by
  rw [next_control, decoding_of_suppressed h]

theorem next_acc_mem (h : 0 ≤ m.state.acc ∧ m.state.acc < 256) :
    0 ≤ m.next.state.acc ∧ m.next.state.acc < 256 := by
  rw [next_acc, Writeback.accumulator]
  split
  · exact unsigned_byte_mem _
  · exact h

theorem next_bubble (h : m.next.state.skip = .bothNext ∨ m.next.state.skip = .executeNext) :
    m.next.state.control = .nop := by
  apply next_control_of_suppressed
  rw [tick_decodeSuppressed]
  rcases h with hboth | hexecute
  · rw [next_skip_eq_bothNext_iff.mp hboth, Bool.or_true]
  · rw [next_skip_eq_executeNext_iff.mp hexecute]
    rfl

theorem next_jump (h : m.next.state.skip = .decodeNext) : ∃ i ∈ Instruction.standard,
    (i.mnemonic = "BNC" ∨ i.mnemonic = "BNZ" ∨ i.mnemonic = "JMP") ∧
      m.next.state.control = i.control := by
  have hjump := next_skip_eq_decodeNext_iff.mp h
  refine ⟨m.state.word.instruction, Instruction.ofCode_mem_standard _, ?_,
    next_control_of_not_suppressed (not_suppressed_of_jumpTaken hjump)⟩
  have hcondition := (Instruction.condition_ne_never_iff _).mp (condition_of_jumpTaken hjump)
  rcases hcondition with hjmp | hbnc | hbnz
  · exact .inr (.inr hjmp)
  · exact .inl hbnc
  · exact .inr (.inl hbnz)

/-- An instruction without a register operand leaves its operand in both latches. -/
theorem next_ea_eq_operand (hnop : m.next.state.control ≠ .nop)
    (hkind : ∀ i ∈ Instruction.standard, i.kind = .register → m.next.state.control ≠ i.control) :
    m.next.state.ea = m.next.state.operand := by
  have hfree : m.tick.decodeSuppressed = false := by
    rw [← Bool.not_eq_true]
    intro hheld
    exact hnop (next_control_of_suppressed hheld)
  have hregister : m.state.word.instruction.kind ≠ .register := by
    intro hregister
    exact hkind _ (Instruction.ofCode_mem_standard _) hregister (next_control_of_not_suppressed hfree)
  have huses : ¬m.state.word.instruction.usesIndexRegisters = true := by
    rw [Instruction.usesIndexRegisters, Bool.and_eq_true, decide_eq_true_eq]
    intro h
    exact hregister h.1
  rw [next_ea, decoding_of_not_suppressed hfree, next_operand]
  simp only [CoreState.address, if_neg huses]

theorem wellFormed_next (h : m.state.WellFormed) : m.next.state.WellFormed where
  inRange := inRange_next h.inRange
  operand := unsigned_byte_mem _
  acc := next_acc_mem h.acc
  ir := by
    rw [next_ir]
    have hlt := unsigned_word_lt m.fetched
    exact ⟨unsigned_nonneg _, by omega⟩
  control := by
    cases hs : m.tick.decodeSuppressed with
    | true => exact .inl (next_control_of_suppressed hs)
    | false =>
      exact .inr ⟨_, Instruction.ofCode_mem_standard _, next_control_of_not_suppressed hs⟩
  bubble := next_bubble
  jump := next_jump
  ea := next_ea_eq_operand

end Machine

theorem CoreState.invariant_wellFormed : Invariant WellFormed where
  reset := wellFormed_reset
  step h hstep := by
    rw [Machine.step_eq_next h.inRange] at hstep
    cases hstep
    exact Machine.wellFormed_next h

namespace Machine

/-- A new machine is in reset. -/
theorem state_of_create? {config : Config} {host : Host} {m : Machine}
    (h : create? config host = .ok m) : m.state = {} := by
  rw [← reset_of_create? h]
  rfl

/-- Behind a jump that was taken, and in front of a bubble in both stages, neither stage redirects. -/
theorem no_redirect_of_skip {m : Machine} (h : m.state.WellFormed)
    (hskip : m.state.skip = .decodeNext ∨ m.state.skip = .bothNext) :
    m.tick.registerJump = false ∧ m.tick.jumpTaken = false := by
  have hheld : m.tick.decodeSuppressed = true := by
    rw [tick_decodeSuppressed]
    rcases hskip with hskip | hskip <;> rw [hskip] <;> rfl
  refine ⟨?_, jumpTaken_of_held hheld⟩
  rw [tick_registerJump]
  rcases hskip with hskip | hskip
  · obtain ⟨i, hi, hname, hcontrol⟩ := h.jump hskip
    have hlow : ∀ i ∈ Instruction.standard,
        i.mnemonic = "BNC" ∨ i.mnemonic = "BNZ" ∨ i.mnemonic = "JMP" →
          i.control.registerJump = false := by decide
    rw [hcontrol, hlow i hi hname]
    rfl
  · rw [hskip]
    exact Bool.and_false _

/-- **Every reachable core state is well formed.**  A new machine, and the machine after any sequence
    of commands that leave the core to itself, is in a well-formed state, and so it is in the middle
    of a run.  No clock edge there redirects the program counter while the skip register still walks
    out a jump or a register jump. -/
theorem reachable_wellFormed {config : Config} {host : Host} {m : Machine}
    (h : create? config host = .ok m) {commands : List Command} (hc : ∀ c ∈ commands, c.keepsCore = true) :
    ∀ m' ∈ m :: (m.performAll commands host).map Reply.machine, ∀ n,
      let reached := (stepUpTo n { machine := m' }).machine
      reached.state.WellFormed ∧ ∀ s, reached.step = .ok s →
        reached.state.skip = .decodeNext ∨ reached.state.skip = .bothNext →
          s.result.registerJump = false ∧ s.result.jumpTaken = false := by
  have hstart : m.state.WellFormed := by
    rw [state_of_create? h]
    exact CoreState.wellFormed_reset
  have hcommands : ∀ m' ∈ m :: (m.performAll commands host).map Reply.machine, m'.state.WellFormed := by
    intro m' hm'
    rcases List.mem_cons.mp hm' with rfl | hreply
    · exact hstart
    · obtain ⟨reply, hmem, rfl⟩ := List.mem_map.mp hreply
      exact CoreState.invariant_wellFormed.performAll hc hstart reply hmem
  intro m' hm' n reached
  have hreached : reached.state.WellFormed :=
    CoreState.invariant_wellFormed.stepUpTo n (hcommands m' hm')
  refine ⟨hreached, ?_⟩
  intro s hs hskip
  rw [step_eq_next hreached.inRange] at hs
  cases hs
  exact no_redirect_of_skip hreached hskip

/-- A program with a jump to a register, a branch and an indexed store, another one loaded over it in
    the middle, and a store that is refused. -/
theorem reloaded_machine_wellFormed :
    let program : List Word := [0xD04, 0xA00, 0x905, 0xEFC, 0x304]
    let data : List Byte := [0x02]
    let commands : List Command :=
      [.run 9, .loadProgram [0xB02, 0xAFE, 0xEF8], .step, .poke 300 1, .run 20, .reset, .clearData, .run 6]
    ∃ m, create? { program := some (program.map unsigned), data := some (data.map unsigned) } .usual =
        .ok m ∧
      (∀ c ∈ commands, c.keepsCore = true) ∧
        ∀ m' ∈ m :: (m.performAll commands).map Reply.machine, ∀ n,
          let reached := (stepUpTo n { machine := m' }).machine
          reached.state.WellFormed ∧ ∀ s, reached.step = .ok s →
            reached.state.skip = .decodeNext ∨ reached.state.skip = .bothNext →
              s.result.registerJump = false ∧ s.result.jumpTaken = false := by
  intro program data commands
  obtain ⟨m, hcreate, -⟩ := @create?_of_images .usual program data (by decide) (by decide)
  have hc : ∀ c ∈ commands, c.keepsCore = true := by
    simp [commands, Command.keepsCore]
  exact ⟨m, hcreate, hc, reachable_wellFormed hcreate hc⟩

end Machine

end Microcore
