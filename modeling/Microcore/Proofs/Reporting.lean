/-
  Microcore/Proofs/Reporting.lean
  ===============================
  **A machine that prints while it works.**  The reports of a clock edge are made between the store and
  the end of the cycle, where the registers hold what they may hold, and memories are written in place.
  `Machine.print` carries out a command in this order.  Every report can be made, so the command does to
  the machine what it does without reports, gives the same answer, and prints the reports of `perform`
  (`run_print`), whatever the filter and the host.
-/
import Microcore.Proofs.Writing

namespace Microcore.Machine

/-! ### Working and printing -/

variable (filter : Log.Filter) (host : Host)

/-- A program on the data memory, for the machine. -/
def onData : Printing MemoryFault (DataMemory addressSpace) PUnit → Printing Fault Machine PUnit :=
  Printing.within Machine.ram (fun m ram => { m with ram }) .memory

/-- A program on the program memory, for the machine. -/
def onProgram : Printing MemoryFault (ProgramMemory addressSpace) PUnit → Printing Fault Machine PUnit :=
  Printing.within Machine.rom (fun m rom => { m with rom }) .memory

def printStore (address value : Int) : Printing Fault Machine PUnit :=
  onData (Memory.printPut filter host address value)

def printCommit : Option MemoryWrite → Printing Fault Machine PUnit
  | some w => printStore filter host w.address w.value
  | none => pure ⟨⟩

def printSkip (number : Nat) (before after : Skip) : Printing Fault Machine PUnit :=
  if after = before then pure ⟨⟩
  else Printing.report filter host (Event.skipped number before after).report

/-- A clock edge.  The store comes first, then the registers and the trace; the reports come between
    them and the count of the cycle. -/
def printStep : Printing Fault Machine TickResult := do
  let before ← Printing.held
  let result ← Printing.attempt ((before.state.tick before.rom before.ram).mapError .memory)
  printCommit filter host result.write
  Printing.update fun m => { m with state := result.state }
  Printing.update fun m =>
    { m with trace := m.trace.map fun t => t.record (traceEntry m.cycles before.state result) }
  Printing.report filter host (Event.cycle before.cycles before.state result.state).report
  printSkip filter host before.cycles before.state.skip result.state.skip
  Printing.update fun m => { m with cycles := m.cycles + 1 }
  return result

def printRun : Nat → Printing Fault Machine PUnit
  | 0 => pure ⟨⟩
  | n + 1 => do
    let _ ← printStep filter host
    printRun n

def printReset : Printing Fault Machine PUnit := do
  Printing.update reset
  Printing.report filter host Event.reset.report

/-- A command that reports nothing and changes at most one thing. -/
def carryOutSilently (command : Command) : Printing Fault Machine Answer := do
  let reply := (← Printing.held).perform command host
  Printing.update fun _ => reply.machine
  Printing.attempt reply.answer

/-- Carry out a command and print its reports where they are made. -/
def print : Command → Printing Fault Machine Answer
  | .step => do return .tick (← printStep filter host)
  | .run cycles =>
    if cycles < 0 then Printing.attempt (.error (.ofCycles host cycles))
    else do
      printRun filter host cycles.toNat
      return .line (← Printing.held).describe
  | .reset => do
    printReset filter host
    return .done
  | .poke address value => do
    printStore filter host address value
    return .done
  | .loadProgram image => do
    onProgram (Memory.writeImage image)
    return .done
  | .loadData image => do
    onData (Memory.writeImage image)
    return .done
  | command => carryOutSilently host command

/-! ### What is printed -/

def storedEvents (write : Option MemoryWrite) : List Event :=
  write.toList.map fun w => .stored w.address w.value

def skippedEvents (number : Nat) (before after : Skip) : List Event :=
  if after = before then [] else [.skipped number before after]

section Parts

variable {x : Printing MemoryFault (DataMemory addressSpace) PUnit}
  {y : Printing MemoryFault (ProgramMemory addressSpace) PUnit} {text : String}
  {m : Machine} {printed : String}

theorem run_onData {result : Except MemoryFault (DataMemory addressSpace)}
    (h : x.run ⟨m.ram, printed⟩ = Printing.settled result text ⟨m.ram, printed⟩) :
    (onData x).run ⟨m, printed⟩ =
      Printing.settled ((result.map fun ram => { m with ram }).mapError .memory) text ⟨m, printed⟩ :=
  Printing.run_within (fun _ => rfl) ⟨m, printed⟩ h

theorem run_onProgram {result : Except MemoryFault (ProgramMemory addressSpace)}
    (h : y.run ⟨m.rom, printed⟩ = Printing.settled result text ⟨m.rom, printed⟩) :
    (onProgram y).run ⟨m, printed⟩ =
      Printing.settled ((result.map fun rom => { m with rom }).mapError .memory) text ⟨m, printed⟩ :=
  Printing.run_within (fun _ => rfl) ⟨m, printed⟩ h

end Parts

theorem run_printStore (m : Machine) (printed : String) (address value : Int) :
    (printStore filter host address value).run ⟨m, printed⟩ =
      Printing.settled (((m.ram.put address value).map fun ram => { m with ram }).mapError .memory)
        (shown filter [.stored address value]) ⟨m, printed⟩ :=
  run_onData (Memory.run_printPut filter host address value _)

theorem run_printCommit (m : Machine) (printed : String) (write : Option MemoryWrite) :
    (printCommit filter host write).run ⟨m, printed⟩ =
      Printing.settled (((commit m.ram write).map fun ram => { m with ram }).mapError .memory)
        (shown filter (storedEvents write)) ⟨m, printed⟩ := by
  cases write with
  | none => simp [printCommit, commit, storedEvents, shown_nil, Except.map, Except.mapError]
  | some w => exact run_printStore filter host m printed w.address w.value

theorem run_printSkip (number : Nat) (before after : Skip) (c : Console Machine) :
    (printSkip filter host number before after).run c =
      .ok ⟨⟩ { c with printed := c.printed ++ shown filter (skippedEvents number before after) } := by
  rw [printSkip, skippedEvents]
  split
  · simp [shown_nil]
  · exact run_report filter host _ c

theorem events_eq (number : Nat) (before : CoreState) (result : TickResult) :
    events number before result = storedEvents result.write ++
      ([Event.cycle number before result.state] ++
        skippedEvents number before.skip result.state.skip) := by
  cases hwrite : result.write <;> simp [events, storedEvents, skippedEvents, hwrite]

/-- **A clock edge that prints makes the step**, and prints its reports. -/
theorem run_printStep (m : Machine) (printed : String) :
    (printStep filter host).run ⟨m, printed⟩ = match m.step with
      | .ok s => .ok s.result ⟨s.machine, printed ++ shown filter s.events⟩
      | .error fault => .error (.refused (.memory fault)) ⟨m, printed⟩ := by
  cases htick : m.state.tick m.rom m.ram with
  | error fault =>
    have hstep : m.step = .error fault := by simp only [step, htick, bind, Except.bind]
    simp [printStep, hstep, htick, Except.mapError]
  | ok result =>
    have hcommit := run_printCommit filter host m printed result.write
    cases hput : commit m.ram result.write with
    | error fault =>
      -- no store behind a successful tick is refused, but both would stop here in the same way
      have hstep : m.step = .error fault := by simp only [step, htick, hput, bind, Except.bind]
      simp only [hput, Except.map, Except.mapError, Printing.settled_error] at hcommit
      simp [printStep, hstep, htick, Except.mapError, hcommit]
    | ok ram =>
      let m' : Machine := { m with
        ram, state := result.state, cycles := m.cycles + 1
        trace := m.trace.map fun t => t.record (traceEntry m.cycles m.state result) }
      have hstep : m.step = .ok ⟨m', result, events m.cycles m.state result⟩ := by
        simp only [step, htick, hput, bind, Except.bind]
        rfl
      -- the events of the step in the order in which they are printed
      simp only [hput, Except.map, Except.mapError, Printing.settled_ok] at hcommit
      rw [hstep, events_eq]
      simp only [shown_append, ← String.append_assoc]
      simp [printStep, htick, Except.mapError, hcommit, run_report, run_printSkip, m']

/-- A run so far, with its reports printed behind a text. -/
def Progress.console (p : Progress) (printed : String) : Console Machine :=
  ⟨p.machine, printed ++ shown filter p.reversedEvents.reverse⟩

/-- The induction behind a run: what is still to be done starts from any run so far. -/
theorem run_printRun_console (n : Nat) (p : Progress) (h : p.fault = none) (printed : String) :
    (printRun filter host n).run (p.console filter printed) =
      match (stepUpTo n p).fault with
      | none => .ok ⟨⟩ ((stepUpTo n p).console filter printed)
      | some fault =>
        .error (.refused (.memory fault)) ((stepUpTo n p).console filter printed) := by
  induction n generalizing p with
  | zero => simp [printRun, stepUpTo, h]
  | succ n ih =>
    have hfirst := run_printStep filter host p.machine (printed ++ shown filter p.reversedEvents.reverse)
    cases hstep : p.machine.step with
    | error fault =>
      rw [hstep] at hfirst
      simp [printRun, stepUpTo, hstep, Progress.console, hfirst]
    | ok s =>
      let p' : Progress :=
        { machine := s.machine, reversedEvents := s.events.reverseAux p.reversedEvents }
      have hconsole : p'.console filter printed =
          ⟨s.machine, printed ++ shown filter p.reversedEvents.reverse ++ shown filter s.events⟩ := by
        simp [Progress.console, p', List.reverseAux_eq, shown_append, String.append_assoc]
      have hrest := ih p' rfl
      rw [hconsole] at hrest
      rw [hstep] at hfirst
      simpa [printRun, stepUpTo, hstep, Progress.console, hfirst, p'] using hrest

/-- **A run that prints makes its steps**, and prints their reports up to the one that fails. -/
theorem run_printRun (n : Nat) (m : Machine) (printed : String) :
    (printRun filter host n).run ⟨m, printed⟩ = match (stepUpTo n { machine := m }).fault with
      | none => .ok ⟨⟩ ((stepUpTo n { machine := m }).console filter printed)
      | some fault =>
        .error (.refused (.memory fault)) ((stepUpTo n { machine := m }).console filter printed) := by
  have hstart : ({ machine := m } : Progress).console filter printed = ⟨m, printed⟩ := by
    simp [Progress.console, shown_nil]
  rw [← hstart]
  exact run_printRun_console filter host n { machine := m } rfl printed

theorem run_carryOutSilently {command : Command} {m : Machine} (printed : String)
    (h : (m.perform command host).events = []) :
    let reply := m.perform command host
    (carryOutSilently host command).run ⟨m, printed⟩ =
      (Printing.attempt reply.answer : Printing Fault Machine Answer).run
        ⟨reply.machine, printed ++ shown filter reply.events⟩ := by
  simp [carryOutSilently, h, shown_nil]

/-- **A command that prints does what it does without reports.**  Whatever is printed, it leaves the
    machine of `perform` and gives its answer, and it prints the reports of `perform`. -/
theorem run_print (command : Command) (m : Machine) (printed : String) :
    let reply := m.perform command host
    (print filter host command).run ⟨m, printed⟩ =
      (Printing.attempt reply.answer : Printing Fault Machine Answer).run
        ⟨reply.machine, printed ++ shown filter reply.events⟩ := by
  cases command with
  | step =>
    have hstep := run_printStep filter host m printed
    cases h : m.step with
    | ok s =>
      rw [h] at hstep
      simp [print, perform, h, hstep]
    | error fault =>
      rw [h] at hstep
      simp [print, perform, refuse, h, hstep, shown_nil]
  | run cycles =>
    by_cases hsign : cycles < 0
    · simp [print, perform, refuse, hsign, shown_nil]
    · have hrun := run_printRun filter host cycles.toNat m printed
      cases h : (stepUpTo cycles.toNat { machine := m }).fault with
      | none =>
        rw [h] at hrun
        simp [print, perform, hsign, h, hrun, Progress.console]
      | some fault =>
        rw [h] at hrun
        simp [print, perform, hsign, h, hrun, Progress.console]
  | reset => simp [print, printReset, perform, run_report]
  | poke address value =>
    have hstore := run_printStore filter host m printed address value
    cases h : m.ram.put address value <;>
      simp [print, perform, refuse, hstore, h, Except.map, Except.mapError, shown_nil]
  | loadProgram image =>
    have hload := run_onProgram (Memory.run_writeImage image ⟨m.rom, printed⟩)
    cases h : m.rom.loadImage image <;>
      simp [print, perform, refuse, hload, h, Except.map, Except.mapError, shown_nil]
  | loadData image =>
    have hload := run_onData (Memory.run_writeImage image ⟨m.ram, printed⟩)
    cases h : m.ram.loadImage image <;>
      simp [print, perform, refuse, hload, h, Except.map, Except.mapError, shown_nil]
  | peek =>
    apply run_carryOutSilently
    simp only [perform]
    split <;> rfl
  | state | setState | clearData | program | data | trace | clearTrace =>
    exact run_carryOutSilently filter host printed rfl

end Microcore.Machine
