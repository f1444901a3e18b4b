/-
  Microcore/Proofs/Observation.lean
  =================================
  **Observation does not disturb the machine.**  A machine without a trace does what the same machine
  does with one (`perform_untraced`), and a machine that prints its reports does what it does without
  them (`run_print`), so of two runs of the same commands that are observed in different ways all
  answers agree but what the trace itself shows, if the host has room for it.  The same holds of
  assembling.
-/
import Microcore.Proofs.Assembly.Reporting
import Microcore.Proofs.Reporting
import Microcore.Proofs.Run

namespace Microcore

namespace Machine

/-! ### The trace -/

def untraced (m : Machine) : Machine := { m with trace := none }

/-- An answer apart from what a trace shows. -/
def Answer.hideTrace : Answer → Answer
  | .trace _ => .trace none
  | answer => answer

/-- A reply as a machine without a trace gives it. -/
def Reply.untraced (reply : Reply) : Reply :=
  { machine := reply.machine.untraced
    answer := reply.answer.map Answer.hideTrace
    events := reply.events }

def Stepped.untraced (s : Stepped) : Stepped := { s with machine := s.machine.untraced }

def Progress.untraced (p : Progress) : Progress := { p with machine := p.machine.untraced }

theorem step_untraced (m : Machine) : m.untraced.step = m.step.map Stepped.untraced := by
  simp only [step, untraced]
  cases m.state.tick m.rom m.ram with
  | error fault => rfl
  | ok result =>
    simp only [bind, Except.bind]
    cases commit m.ram result.write <;> rfl

theorem stepUpTo_untraced (n : Nat) (p : Progress) :
    stepUpTo n p.untraced = (stepUpTo n p).untraced := by
  induction n generalizing p with
  | zero => rfl
  | succ n ih =>
    have hstep : p.untraced.machine.step = p.machine.step.map Stepped.untraced :=
      step_untraced p.machine
    cases h : p.machine.step with
    | error fault =>
      simp only [stepUpTo, hstep, h, Except.map]
      rfl
    | ok s =>
      simp only [stepUpTo, hstep, h, Except.map]
      exact ih { machine := s.machine, reversedEvents := s.events.reverseAux p.reversedEvents }

/-- **A machine without a trace** does to every command what it does with one. -/
theorem perform_untraced (host : Host) (m : Machine) (command : Command) :
    m.untraced.perform command host = (m.perform command host).untraced := by
  have hram : m.untraced.ram = m.ram := rfl
  have hrom : m.untraced.rom = m.rom := rfl
  cases command with
  | step =>
    simp only [perform, step_untraced]
    cases m.step <;> rfl
  | run cycles =>
    have hrun : stepUpTo cycles.toNat { machine := m.untraced } =
        (stepUpTo cycles.toNat { machine := m }).untraced := stepUpTo_untraced _ { machine := m }
    simp only [perform, hrun]
    split
    · rfl
    · simp only [Progress.untraced, Reply.untraced]
      cases (stepUpTo cycles.toNat { machine := m }).fault <;> rfl
  | poke address value =>
    simp only [perform, hram]
    cases m.ram.put address value <;> rfl
  | peek address =>
    simp only [perform, hram]
    cases m.ram.load address <;> rfl
  | loadProgram image =>
    simp only [perform, hrom]
    cases m.rom.loadImage image <;> rfl
  | loadData image =>
    simp only [perform, hram]
    cases m.ram.loadImage image <;> rfl
  | reset | state | setState | clearData | program | data | trace | clearTrace => rfl

theorem performAll_untraced (host : Host) (m : Machine) (commands : List Command) :
    m.untraced.performAll commands host = (m.performAll commands host).map Reply.untraced := by
  induction commands generalizing m with
  | nil => rfl
  | cons command rest ih =>
    rw [performAll, performAll, perform_untraced, List.map_cons]
    exact congrArg _ (ih (m.perform command host).machine)

/-- **A machine is made without a trace as with one,** if the host has room for the trace. -/
theorem create?_untraced {host : Host} {capacity : Int} (hroom : capacity ≤ host.room)
    (program data : Option (List Int)) :
    create? { program, data } host =
      (create? { program, data, trace := capacity } host).map untraced := by
  obtain ⟨trace, htrace, -⟩ := traceOf_of_room hroom
  have hnone : traceOf 0 host = .ok none := rfl
  simp only [create?, htrace, hnone]
  cases memoryOf .program program with
  | error fault => rfl
  | ok rom => cases memoryOf .data data <;> rfl

/-! ### Sessions -/

variable (filter : Log.Filter) (host : Host)

/-- A new machine, reset before it is handed out. -/
def printCreate (config : Config) : Except (Stop Fault) (Console Machine) :=
  match create? config host with
  | .error fault => .error (.refused fault)
  | .ok m =>
    match (printReset filter host).run { held := m } with
    | .ok _ c => .ok c
    | .error stop _ => .error stop

/-- Carry out commands one after the other.  One that fails does not keep the others from being
    carried out. -/
def session (c : Console Machine) : List Command → List (Except (Stop Fault) Answer)
  | [] => []
  | command :: rest =>
    match (print filter host command).run c with
    | .ok answer c' => .ok answer :: session c' rest
    | .error stop c' => .error stop :: session c' rest

theorem session_eq (m : Machine) (printed : String) (commands : List Command) :
    session filter host ⟨m, printed⟩ commands =
      (m.performAll commands host).map fun reply => reply.answer.mapError .refused := by
  induction commands generalizing m printed with
  | nil => rfl
  | cons command rest ih =>
    have hprint := run_print filter host command m printed
    simp only [session, performAll, List.map_cons, hprint]
    cases (m.perform command host).answer <;> simp [ih, Except.mapError]

theorem printCreate_eq (config : Config) :
    printCreate filter host config = match create? config host with
      | .error fault => .error (.refused fault)
      | .ok m => .ok ⟨m, shown filter [.reset]⟩ := by
  cases hmade : create? config host with
  | error fault => simp only [printCreate, hmade]
  | ok m => simp [printCreate, hmade, printReset, run_report, reset_of_create? hmade]

/-- The results of commands to a new machine under a setting of the log, apart from what its trace
    shows. -/
def results (setting : String) (config : Config) (commands : List Command) :
    Except (Stop Fault) (List (Except (Stop Fault) Answer)) := do
  let c ← printCreate (.ofSetting setting) host config
  return (session (.ofSetting setting) host c commands).map (Except.map Answer.hideTrace)

/-- The results of commands to a new machine that has neither a log nor a trace. -/
def unobserved (program data : Option (List Int)) (commands : List Command) :
    Except Fault (List (Except Fault Answer)) := do
  let m ← create? { program, data } host
  return (m.performAll commands host).map Reply.answer

variable {host}

/-- Every result of a machine that is observed is a result of the one that is not. -/
theorem results_eq {capacity : Int} (hroom : capacity ≤ host.room) (setting : String)
    (program data : Option (List Int)) (commands : List Command) :
    results host setting { program, data, trace := capacity } commands =
      ((unobserved host program data commands).map (List.map (Except.mapError Stop.refused))).mapError
        Stop.refused := by
  rw [results, unobserved, printCreate_eq, create?_untraced hroom program data]
  cases create? { program, data, trace := capacity } host with
  | error fault => rfl
  | ok m =>
    have hanswer (reply : Reply) : (reply.answer.mapError Stop.refused).map Answer.hideTrace =
        reply.untraced.answer.mapError Stop.refused := by
      cases h : reply.answer <;> simp [Reply.untraced, h, Except.map, Except.mapError]
    let start : Console Machine := ⟨m, shown (.ofSetting setting) [.reset]⟩
    have hsession : (session (.ofSetting setting) host start commands).map
        (Except.map Answer.hideTrace) =
          ((m.untraced.performAll commands host).map Reply.answer).map
            (Except.mapError Stop.refused) := by
      simp only [start, session_eq, performAll_untraced, List.map_map, Function.comp_def, hanswer]
    exact congrArg Except.ok hsession

end Machine

/-- The result of assembling a source under a setting of the log. -/
def Assembly.result (host : Host) (setting name : String) (source : List Char) :
    Except (Stop Rejection) Image :=
  (printAssemble (.ofSetting setting) host name source).outcome { held := {} }

theorem Assembly.result_eq (host : Host) (setting name : String) (source : List Char) :
    result host setting name source = (assemble name source).mapError .refused := by
  rw [result, Printing.outcome, run_printAssemble]
  cases assemble name source <;> rfl

/-- **Observation does not disturb the machine.**  Whatever images a machine is made of and whatever it
    is asked to do, its answers and errors are the same for every two settings of the log and every two
    capacities of the trace that the host has room for, apart from what the trace itself shows: they are
    those of a machine that is not observed at all, and no report keeps one from being given.  The result
    of assembling a source does not depend on the setting either. -/
theorem observation_does_not_disturb {host : Host} {capacity capacity' : Int}
    (hroom : capacity ≤ host.room) (hroom' : capacity' ≤ host.room) (program data : Option (List Int))
    (commands : List Machine.Command) (name : String) (source : List Char) (setting setting' : String) :
    Machine.results host setting { program, data, trace := capacity } commands =
        Machine.results host setting' { program, data, trace := capacity' } commands ∧
      Machine.results host setting { program, data, trace := capacity } commands =
        ((Machine.unobserved host program data commands).map
          (List.map (Except.mapError Stop.refused))).mapError Stop.refused ∧
      Assembly.result host setting name source = Assembly.result host setting' name source ∧
      Assembly.result host setting name source = (Assembly.assemble name source).mapError .refused := by
  refine ⟨?_, Machine.results_eq hroom .., ?_, Assembly.result_eq ..⟩
  · rw [Machine.results_eq hroom, Machine.results_eq hroom']
  · rw [Assembly.result_eq, Assembly.result_eq]

/-- A machine that logs everything and traces three cycles, and one that is not observed, with a state
    set from outside whose next step is refused, and a source with a malformed line. -/
theorem traced_session_agrees :
    let program : Option (List Int) := some [0xD04, 0x3FF, 0xA00]
    let commands : List Machine.Command :=
      [.run 7, .setState { pc := 300, acc := -1 }, .step, .poke 1 511, .trace none, .data]
    let source := "$1 LDI 0a
ORG 1F0
JMP $1".toList
    ((3 : Int) ≤ Host.usual.room ∧ (0 : Int) ≤ Host.usual.room) ∧
      Machine.results .usual "all" { program, trace := 3 } commands =
        Machine.results .usual "" { program, trace := 0 } commands ∧
      Assembly.result .usual "all" "demo" source = Assembly.result .usual "" "demo" source := by
  intro program commands source
  have hthree : (3 : Int) ≤ Host.usual.room := by decide
  have hzero : (0 : Int) ≤ Host.usual.room := by decide
  obtain ⟨hresults, -, hassembled, -⟩ :=
    observation_does_not_disturb hthree hzero program none commands "demo" source "all" ""
  exact ⟨⟨hthree, hzero⟩, hresults, hassembled⟩

end Microcore
