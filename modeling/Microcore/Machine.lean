/-
  Microcore/Machine.lean
  ======================
  **A machine: core, memories and an optional trace.**  `step` makes one clock edge or fails without
  a change; `perform` answers the commands that a machine takes from outside.  What a machine does
  is reported as events, whether or not anybody prints them.
-/
import Microcore.Instruction.Text
import Microcore.Log
import Microcore.Pipeline.Tick
import Microcore.Trace

namespace Microcore

/-- A core with its memories, clocked `cycles` times since the last reset. -/
structure Machine where
  rom : ProgramMemory addressSpace
  ram : DataMemory addressSpace
  state : CoreState := {}
  cycles : Nat := 0
  trace : Option Trace.Recorder := none

namespace Machine

/-- Why a machine refuses a command. -/
inductive Fault where
  | memory (fault : MemoryFault)
  | trace (fault : Trace.Fault)
  | memorySizes
  | negativeCycles (cycles : Int)
  /-- A negative number of cycles that has more digits than the host writes. -/
  | unshownCycles (most : Nat)
deriving DecidableEq, Repr

def Fault.message : Fault → String
  | memory fault => fault.message
  | trace fault => fault.message
  | memorySizes => "the core addresses 256 instruction words and 256 data bytes"
  | negativeCycles cycles => s!"cycle count must not be negative: {Numeral.decimal cycles}"
  | unshownCycles most => Numeral.tooLongMessage most

/-- The refusal of a negative number of cycles. -/
def Fault.ofCycles (host : Host) (cycles : Int) : Fault :=
  host.naming cycles .negativeCycles .unshownCycles

/-! ### Events -/

/-- What a machine reports. -/
inductive Event where
  | reset
  | stored (address value : Int)
  | cycle (number : Nat) (before after : CoreState)
  | skipped (number : Nat) (before after : Skip)
deriving DecidableEq, Repr

def Event.topic : Event → String
  | reset | cycle .. => "cpu"
  | stored .. => "memory"
  | skipped .. => "pipeline"

def Event.text : Event → String
  | reset => "reset"
  | stored address value =>
    s!"store8: addr={Numeral.hexLower 2 address} val={Numeral.hexLower 2 (value % 256)}"
  | cycle number before after =>
    s!"cycle={Numeral.decimal number} pc={Numeral.hexLower 2 before.pc} " ++
      s!"ir={Numeral.hexLower 3 before.ir} {String.ofList before.word.disassemble} " ++
      s!"acc={Numeral.hexLower 2 after.acc} cf={Numeral.flag after.cf} zf={Numeral.flag after.zf}"
  | skipped number before after =>
    s!"cycle={Numeral.decimal number} skip {before.name} -> {after.name}"

def reports (filter : Log.Filter) (events : List Event) : List Log.Entry :=
  (events.filter fun event => filter.enables (some event.topic)).map fun event =>
    ⟨event.topic, event.text⟩

/-! ### Clocking -/

def traceEntry (number : Nat) (before : CoreState) (result : TickResult) : Trace.Entry :=
  .ofCycle number
    { pc := before.pc, ir := before.ir, acc := before.acc, ix := before.ix, iy := before.iy
      ea := before.ea, cf := before.cf, zf := before.zf, skip := before.skip.name }
    { mnemonic := String.ofList before.word.disassemble
      decodeSuppressed := result.decodeSuppressed
      executeSuppressed := result.executeSuppressed
      write := result.write.map fun w => (w.address, w.value)
      note := if result.registerJump then "jpr" else if result.jumpTaken then "jump" else "" }

def events (number : Nat) (before : CoreState) (result : TickResult) : List Event :=
  (match result.write with
    | some w => [.stored w.address w.value]
    | none => []) ++
  [.cycle number before result.state] ++
  (if result.state.skip = before.skip then [] else [.skipped number before.skip result.state.skip])

def commit (ram : DataMemory addressSpace) :
    Option MemoryWrite → Except MemoryFault (DataMemory addressSpace)
  | some w => ram.put w.address w.value
  | none => .ok ram

/-- A machine after a clock edge, with the outcome and the reports. -/
structure Stepped where
  machine : Machine
  result : TickResult
  events : List Event

@[inline] def step (m : Machine) : Except MemoryFault Stepped := do
  let result ← m.state.tick m.rom m.ram
  let ram ← commit m.ram result.write
  return { machine := { m with
             ram
             state := result.state
             cycles := m.cycles + 1
             trace := m.trace.map fun t => t.record (traceEntry m.cycles m.state result) }
           result
           events := events m.cycles m.state result }

/-- A run so far: the machine, its reports with the latest first, and the fault that ended it. -/
structure Progress where
  machine : Machine
  reversedEvents : List Event := []
  fault : Option MemoryFault := none

/-- Step at most so many times; a fault ends the run after the steps before it. -/
def stepUpTo : Nat → Progress → Progress
  | 0, p => p
  | n + 1, p =>
    match p.machine.step with
    | .ok s =>
      stepUpTo n { machine := s.machine, reversedEvents := s.events.reverseAux p.reversedEvents }
    | .error fault => { p with fault := some fault }

/-- Drive the reset line: registers cleared and a jump to address zero in the pipeline. -/
def reset (m : Machine) : Machine := { m with state := {}, cycles := 0 }

/-! ### Commands -/

def describe (m : Machine) : String :=
  let s := m.state
  s!"cycles={Numeral.decimal m.cycles} PC={Numeral.hex 2 s.pc} ACC={Numeral.hex 2 s.acc} " ++
    s!"IX={Numeral.hex 2 s.ix} IY={Numeral.hex 2 s.iy} CF={Numeral.flag s.cf} ZF={Numeral.flag s.zf}"

/-- What can be asked of a machine. -/
inductive Command where
  | step
  | run (cycles : Int)
  | reset
  | state
  | setState (state : CoreState)
  | poke (address value : Int)
  | peek (address : Int)
  | loadProgram (image : List Int)
  | loadData (image : List Int)
  | clearData
  | program
  | data
  | trace (limit : Option Int)
  | clearTrace

/-- What a machine answers. -/
inductive Answer where
  | done
  | tick (result : TickResult)
  | line (text : String)
  | state (state : CoreState) (cycles : Nat) (text : String)
  | cell (value : Nat)
  | cells (values : List Nat)
  | trace (lines : Option (List String))

/-- A machine after a command, with its answer and reports. -/
structure Reply where
  machine : Machine
  answer : Except Fault Answer
  events : List Event := []

/-- The reply to a command that cannot be carried out: the machine is as it was. -/
def refuse (m : Machine) (fault : Fault) : Reply := { machine := m, answer := .error fault }

def perform (m : Machine) (command : Command) (host : Host := .usual) : Reply :=
  match command with
  | .step =>
    match m.step with
    | .ok s => { machine := s.machine, answer := .ok (.tick s.result), events := s.events }
    | .error fault => m.refuse (.memory fault)
  | .run cycles =>
    if cycles < 0 then m.refuse (.ofCycles host cycles)
    else
      let p := stepUpTo cycles.toNat { machine := m }
      { machine := p.machine
        answer := match p.fault with
          | some fault => .error (.memory fault)
          | none => .ok (.line p.machine.describe)
        events := p.reversedEvents.reverse }
  | .reset => { machine := m.reset, answer := .ok .done, events := [.reset] }
  | .state => { machine := m, answer := .ok (.state m.state m.cycles m.describe) }
  | .setState state =>
    let m := { m with state }
    { machine := m, answer := .ok (.line m.describe) }
  | .poke address value =>
    match m.ram.put address value with
    | .ok ram => { machine := { m with ram }, answer := .ok .done, events := [.stored address value] }
    | .error fault => m.refuse (.memory fault)
  | .peek address =>
    match m.ram.load address with
    | .ok byte => { machine := m, answer := .ok (.cell byte.toNat) }
    | .error fault => m.refuse (.memory fault)
  | .loadProgram image =>
    match m.rom.loadImage image with
    | .ok rom => { machine := { m with rom }, answer := .ok .done }
    | .error fault => m.refuse (.memory fault)
  | .loadData image =>
    match m.ram.loadImage image with
    | .ok ram => { machine := { m with ram }, answer := .ok .done }
    | .error fault => m.refuse (.memory fault)
  | .clearData => { machine := { m with ram := .blank .data addressSpace }, answer := .ok .done }
  | .program => { machine := m, answer := .ok (.cells m.rom.toList) }
  | .data => { machine := m, answer := .ok (.cells m.ram.toList) }
  | .trace limit => { machine := m, answer := .ok (.trace (m.trace.map fun t => t.lines limit)) }
  | .clearTrace =>
    { machine := { m with trace := m.trace.map Trace.Recorder.clear }, answer := .ok .done }

def performAll (m : Machine) (commands : List Command) (host : Host := .usual) : List Reply :=
  match commands with
  | [] => []
  | command :: rest =>
    let reply := m.perform command host
    reply :: reply.machine.performAll rest host

/-! ### Making a machine -/

/-- What a new machine is made of. -/
structure Config where
  program : Option (List Int) := none
  data : Option (List Int) := none
  /-- The capacity of the trace; without a positive one there is no trace. -/
  trace : Int := 0

/-- A memory with the image that a configuration gives, if it gives one. -/
def memoryOf (store : Store) (image : Option (List Int)) :
    Except MemoryFault (Memory store addressSpace) :=
  match image with
  | some image => (Memory.blank store addressSpace).loadImage image
  | none => .ok (.blank store addressSpace)

/-- The recorder of a trace of a capacity, if it is positive. -/
def traceOf (capacity : Int) (host : Host) : Except Trace.Fault (Option Trace.Recorder) :=
  if 0 < capacity then (Trace.Recorder.create? capacity host).map some else .ok none

/-- A new machine, held in reset. -/
def create? (config : Config) (host : Host := .usual) : Except Fault Machine := do
  let rom ← (memoryOf .program config.program).mapError .memory
  let ram ← (memoryOf .data config.data).mapError .memory
  let trace ← (traceOf config.trace host).mapError .trace
  return { rom, ram, trace }

def checkSizes (words bytes : Int) (host : Host := .usual) : Except Fault Unit := do
  let rom ← (Memory.ofLength? .program words host).mapError .memory
  let ram ← (Memory.ofLength? .data bytes host).mapError .memory
  if rom.1 = addressSpace ∧ ram.1 = addressSpace then .ok () else .error .memorySizes

end Machine

end Microcore
