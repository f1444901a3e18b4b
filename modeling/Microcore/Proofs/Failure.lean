/-
  Microcore/Proofs/Failure.lean
  =============================
  **Commands that fail leave the machine as it was.**  A step fails exactly when one of the two
  addresses it reads lies outside its memory, and both are read before anything is written.  A run is
  the single steps it is made of (`runs_perform`): when one of them fails, the machine is the one
  that the steps before it have left.
-/
import Microcore.Proofs.Edge

namespace Microcore.Machine

variable {host : Host}

/-! ### Steps that fail -/

/-- The addresses that a clock edge reads lie in their memories. -/
def CanStep (m : Machine) : Prop :=
  (0 ≤ m.state.ea ∧ m.state.ea < 256) ∧ 0 ≤ m.state.pc ∧ m.state.pc < 256

theorem step_eq_error {m : Machine} (h : ¬m.CanStep) : ∃ fault, m.step = .error fault := by
  simp only [step, CoreState.tick]
  by_cases hea : 0 ≤ m.state.ea ∧ m.state.ea < 256
  · have hpc : ¬(0 ≤ m.state.pc ∧ m.state.pc < 256) := by
      intro hpc
      exact h ⟨hea, hpc⟩
    rw [Memory.load_eq_cell m.ram hea, Memory.load_eq_error m.rom hpc]
    exact ⟨_, rfl⟩
  · rw [Memory.load_eq_error m.ram hea]
    exact ⟨_, rfl⟩

theorem perform_step_of_error {m : Machine} {fault : MemoryFault} (h : m.step = .error fault) :
    m.perform .step host = m.refuse (.memory fault) := by
  simp only [perform, h]

theorem perform_step_of_ok {m : Machine} {s : Stepped} (h : m.step = .ok s) :
    m.perform .step host =
      { machine := s.machine, answer := .ok (.tick s.result), events := s.events } := by
  simp only [perform, h]

/-- Single steps, none of which fails, lead from a machine to another one. -/
inductive Steps (host : Host) : Machine → List Stepped → Machine → Prop where
  | done (m : Machine) : Steps host m [] m
  | more {m m' : Machine} {s : Stepped} {steps : List Stepped}
      (first : m.perform .step host =
        { machine := s.machine, answer := .ok (.tick s.result), events := s.events })
      (rest : Steps host s.machine steps m') : Steps host m (s :: steps) m'

/-- The cycles that steps from a machine put into its trace. -/
def recorded (m : Machine) : List Stepped → List Trace.Entry
  | [] => []
  | s :: steps => traceEntry m.cycles m.state s.result :: s.machine.recorded steps

theorem length_recorded (m : Machine) (steps : List Stepped) :
    (m.recorded steps).length = steps.length := by
  induction steps generalizing m with
  | nil => rfl
  | cons s steps ih => rw [recorded, List.length_cons, List.length_cons, ih]

/-- What a step that succeeds leaves in the cycle count and in the trace. -/
theorem step_counts {m : Machine} {s : Stepped} (h : m.step = .ok s) :
    s.machine.cycles = m.cycles + 1 ∧
      s.machine.trace = m.trace.map fun t => t.record (traceEntry m.cycles m.state s.result) := by
  by_cases hcan : m.CanStep
  · rw [step_eq_next_of_mem hcan.1 hcan.2] at h
    cases h
    exact ⟨rfl, rfl⟩
  · obtain ⟨fault, hfault⟩ := step_eq_error hcan
    rw [hfault] at h
    cases h

theorem step_of_perform {m : Machine} {s : Stepped}
    (h : m.perform .step host =
      { machine := s.machine, answer := .ok (.tick s.result), events := s.events }) :
    m.step = .ok s := by
  cases hstep : m.step with
  | ok s' =>
    rw [perform_step_of_ok hstep] at h
    obtain ⟨machine, result, events⟩ := s'
    cases h
    rfl
  | error fault =>
    rw [perform_step_of_error hstep] at h
    cases h

namespace Steps

variable {m m' : Machine} {steps : List Stepped} (h : Steps host m steps m')

include h

theorem cycles_eq : m'.cycles = m.cycles + steps.length := by
  induction h with
  | done m => rfl
  | more first rest ih =>
    rw [ih, (step_counts (step_of_perform first)).1, List.length_cons]
    omega

theorem trace_eq : m'.trace =
    m.trace.map fun t => (m.recorded steps).foldl Trace.Recorder.record t := by
  induction h with
  | done m => exact Option.map_id'.symm
  | more first rest ih =>
    rw [ih, (step_counts (step_of_perform first)).2, Option.map_map]
    rfl

end Steps

/-! ### Runs -/

/-- A run of so many steps gives the reply: it has made single steps, which are counted, traced and
    reported, and unless it has made them all, the machine that they lead to refuses the next one. -/
structure Runs (host : Host) (m : Machine) (n : Nat) (steps : List Stepped) (reply : Reply) : Prop where
  reached : Steps host m steps reply.machine
  events : reply.events = steps.flatMap Stepped.events
  cycles : reply.machine.cycles = m.cycles + steps.length
  trace : reply.machine.trace =
    m.trace.map fun t => (m.recorded steps).foldl Trace.Recorder.record t
  length_recorded : (m.recorded steps).length = steps.length
  ended : steps.length = n ∧ reply.answer = .ok (.line reply.machine.describe) ∨
    steps.length < n ∧ ∃ fault, reply.machine.perform .step host = reply.machine.refuse fault ∧
      reply.answer = .error fault

theorem stepUpTo_steps (n : Nat) (p : Progress) (h : p.fault = none) : ∃ steps,
    Steps host p.machine steps (stepUpTo n p).machine ∧
      (stepUpTo n p).reversedEvents = (steps.flatMap Stepped.events).reverse ++ p.reversedEvents ∧
        (steps.length = n ∧ (stepUpTo n p).fault = none ∨
          steps.length < n ∧ ∃ fault, (stepUpTo n p).machine.step = .error fault ∧
            (stepUpTo n p).fault = some fault) := by
  induction n generalizing p with
  | zero => exact ⟨[], .done _, rfl, .inl ⟨rfl, h⟩⟩
  | succ n ih =>
    cases hstep : p.machine.step with
    | error fault =>
      simp only [stepUpTo, hstep]
      exact ⟨[], .done _, rfl, .inr ⟨Nat.succ_pos n, fault, rfl, rfl⟩⟩
    | ok s =>
      simp only [stepUpTo, hstep]
      obtain ⟨steps, hsteps, hevents, hended⟩ := ih
        { machine := s.machine, reversedEvents := s.events.reverseAux p.reversedEvents } rfl
      refine ⟨s :: steps, .more (perform_step_of_ok hstep) hsteps, ?_, ?_⟩
      · rw [hevents, List.flatMap_cons, List.reverse_append, List.reverseAux_eq, List.append_assoc]
      · rcases hended with ⟨hlength, hfault⟩ | ⟨hlength, hfault⟩
        · exact .inl ⟨congrArg Nat.succ hlength, hfault⟩
        · exact .inr ⟨Nat.succ_lt_succ hlength, hfault⟩

/-- **A run is its single steps.** -/
theorem runs_perform (host : Host) (m : Machine) (n : Nat) :
    ∃ steps, Runs host m n steps (m.perform (.run n) host) := by
  obtain ⟨steps, hsteps, hevents, hended⟩ := stepUpTo_steps n { machine := m } rfl
  have hsign : ¬(n : Int) < 0 := Int.not_lt.mpr (Int.natCast_nonneg n)
  simp only [perform, if_neg hsign, Int.toNat_natCast]
  refine ⟨steps, hsteps, ?_, hsteps.cycles_eq, hsteps.trace_eq, length_recorded m steps, ?_⟩
  · rw [hevents, List.append_nil, List.reverse_reverse]
  · rcases hended with ⟨hlength, hfault⟩ | ⟨hlength, fault, hstep, hfault⟩
    · left
      rw [hfault]
      exact ⟨hlength, rfl⟩
    · right
      rw [hfault]
      exact ⟨hlength, .memory fault, perform_step_of_error hstep, rfl⟩

/-! ### Other commands -/

theorem perform_run_of_neg (m : Machine) {cycles : Int} (h : cycles < 0) :
    m.perform (.run cycles) host = m.refuse (.ofCycles host cycles) := by
  simp only [perform, if_pos h]

end Microcore.Machine
