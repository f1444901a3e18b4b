/-
  Microcore/Proofs/Reachable.lean
  ===============================
  **What every sequence of commands keeps.**  A property of core states that holds after a reset and
  that a clock edge keeps (`CoreState.Invariant`) is kept by every command but the one that sets the
  core from outside, and so by every sequence of such commands.  That the addressing registers lie in
  the address space is such a property (`CoreState.invariant_inRange`), and all that a step needs.
-/
import Mathlib.Data.List.Forall2
import Microcore.Proofs.Failure
import Microcore.Proofs.Run

namespace Microcore

/-! ### Invariants of the core -/

/-- Whether a command leaves the registers of the core to the core. -/
def Machine.Command.keepsCore : Machine.Command → Bool
  | .setState _ => false
  | _ => true

/-- A property of core states that holds after a reset and is kept by every clock edge. -/
structure CoreState.Invariant (P : CoreState → Prop) : Prop where
  reset : P {}
  step {m : Machine} {s : Machine.Stepped} : P m.state → m.step = .ok s → P s.machine.state

namespace CoreState.Invariant

open Machine

variable {P : CoreState → Prop} (hP : Invariant P) {host : Host} {m : Machine}

include hP

theorem of_steps {m' : Machine} {steps : List Stepped} (hsteps : Steps host m steps m')
    (h : P m.state) : P m'.state := by
  induction hsteps with
  | done m => exact h
  | more first rest ih => exact ih (hP.step h (step_of_perform first))

/-- In the middle of a run the property holds as well. -/
theorem stepUpTo (n : Nat) (h : P m.state) :
    P (Machine.stepUpTo n { machine := m }).machine.state := by
  obtain ⟨steps, hsteps, -⟩ := @stepUpTo_steps .usual n { machine := m } rfl
  exact hP.of_steps hsteps h

theorem perform {command : Command} (hc : command.keepsCore = true) (h : P m.state) :
    P (m.perform command host).machine.state := by
  cases command with
  | setState => cases hc
  | reset => exact hP.reset
  | step =>
    cases hstep : m.step with
    | ok s =>
      rw [perform_step_of_ok hstep]
      exact hP.step h hstep
    | error fault =>
      rw [perform_step_of_error hstep]
      exact h
  | run cycles =>
    by_cases hsign : cycles < 0
    · rw [perform_run_of_neg m hsign]
      exact h
    · simp only [Machine.perform, if_neg hsign]
      exact hP.stepUpTo cycles.toNat h
  | poke | peek | loadProgram | loadData =>
    simp only [Machine.perform]
    split <;> exact h
  | state | clearData | program | data | trace | clearTrace => exact h

theorem performAll {commands : List Command} (hc : ∀ c ∈ commands, c.keepsCore = true)
    (h : P m.state) : ∀ reply ∈ m.performAll commands host, P reply.machine.state := by
  induction commands generalizing m with
  | nil =>
    intro reply hreply
    cases hreply
  | cons command rest ih =>
    have hnext : P (m.perform command host).machine.state :=
      hP.perform (hc command List.mem_cons_self) h
    intro reply hreply
    rcases List.mem_cons.mp hreply with rfl | hrest
    · exact hnext
    · exact ih (fun c hmem => hc c (List.mem_cons_of_mem _ hmem)) hnext reply hrest

end CoreState.Invariant

/-! ### Registers in the address space -/

theorem CoreState.invariant_inRange : Invariant InRange where
  reset := inRange_reset
  step h hstep := by
    rw [Machine.step_eq_next h] at hstep
    cases hstep
    exact Machine.inRange_next h

namespace Machine

/-- Whether a command clocks the core, by a number of cycles that is not negative. -/
def Command.Clocks (command : Command) : Prop := command = .step ∨ ∃ n : Nat, command = .run n

theorem perform_ok_of_inRange {host : Host} {m : Machine} (h : m.state.InRange) {command : Command}
    (hc : command.Clocks) : ∃ answer, (m.perform command host).answer = .ok answer := by
  rcases hc with rfl | ⟨n, rfl⟩
  · rw [perform_step_of_ok (step_eq_next h)]
    exact ⟨_, rfl⟩
  · obtain ⟨steps, hruns⟩ := runs_perform host m n
    rcases hruns.ended with ⟨-, hanswer⟩ | ⟨-, fault, hrefuse, -⟩
    · exact ⟨_, hanswer⟩
    · -- the machine that the steps lead to is still in range, so it does not refuse the next one
      have hend := CoreState.invariant_inRange.of_steps hruns.reached h
      rw [perform_step_of_ok (step_eq_next hend)] at hrefuse
      have hanswer := congrArg Reply.answer hrefuse
      cases hanswer

/-- **The core never fails on what the memories hold.**  From every state in which the addressing
    registers lie in the address space, whatever the other registers and latches are, steps and runs
    succeed in every sequence of commands that leaves the core to itself, and after each command the
    addressing registers lie in the address space. -/
theorem never_fails_in_range {host : Host} {m : Machine} (h : m.state.InRange)
    {commands : List Command} (hc : ∀ c ∈ commands, c.keepsCore = true) :
    List.Forall₂ (fun command reply =>
      (command.Clocks → ∃ answer, reply.answer = .ok answer) ∧ reply.machine.state.InRange)
      commands (m.performAll commands host) := by
  induction commands generalizing m with
  | nil => exact .nil
  | cons command rest ih =>
    have hnext : (m.perform command host).machine.state.InRange :=
      CoreState.invariant_inRange.perform (hc command List.mem_cons_self) h
    exact .cons ⟨perform_ok_of_inRange h, hnext⟩
      (ih hnext fun c hmem => hc c (List.mem_cons_of_mem _ hmem))

/-- A core with every latch outside its width and every signal raised, in a sequence of commands
    some of which fail. -/
theorem wild_state_never_fails :
    let control : ControlWord :=
      { aluOp := .sub, immediate := true, registerJump := true, load := true, store := true
        accWrite := true, zfWrite := true, cfWrite := true }
    let m : Machine :=
      { rom := .blank .program addressSpace
        ram := .blank .data addressSpace
        state := { pc := 255, ir := -1, operand := 4096, ea := 255, acc := -300, control } }
    let commands : List Command :=
      [.step, .poke 256 1, .loadProgram [0xAFE, 0xEFF], .run 20, .loadData [7, 256], .clearData, .run 3]
    m.state.InRange ∧ (∀ c ∈ commands, c.keepsCore = true) ∧
      List.Forall₂ (fun command reply =>
        (command.Clocks → ∃ answer, reply.answer = .ok answer) ∧ reply.machine.state.InRange)
        commands (m.performAll commands) := by
  intro control m commands
  have h : m.state.InRange := by
    refine ⟨?_, ?_, ?_, ?_⟩ <;> decide
  have hc : ∀ c ∈ commands, c.keepsCore = true := by
    simp [commands, Command.keepsCore]
  exact ⟨h, hc, never_fails_in_range h hc⟩

end Machine

end Microcore
