/-
  Microcore/Pipeline/Tick.lean
  ============================
  **One clock edge of the three-stage core.**  Fetch, decode and execute advance together.  `tick`
  computes the next state from the present one and hands the execute stage's memory write back, so
  that a write is seen by reads of the following cycle only.
-/
import Microcore.Instruction.Table
import Microcore.Memory
import Microcore.Pipeline.Skip
import Microcore.Pipeline.Writeback

namespace Microcore

/-- The registers of the core.  The defaults are the values after a reset, when the decode stage
    holds a jump to address zero.  A register may be set to any integer from outside. -/
structure CoreState where
  pc : Int := 0
  ir : Int := 0xB00
  /-- The operand field latched for the execute stage. -/
  operand : Int := 0
  ix : Int := 0
  iy : Int := 0
  /-- The data-memory address latched for the execute stage. -/
  ea : Int := 0
  acc : Int := 0
  cf : Bool := false
  zf : Bool := false
  control : ControlWord := .nop
  skip : Skip := .none
deriving DecidableEq, Repr

/-- A store that is committed at the clock edge. -/
structure MemoryWrite where
  address : Int
  value : Int
deriving DecidableEq, Repr

/-- What the execute stage does in a cycle. -/
structure Execution where
  data : Byte
  writeback : Writeback
  write : Option MemoryWrite
  registerJump : Bool
deriving DecidableEq, Repr

/-- What the decode stage does in a cycle. -/
structure Decoding where
  suppressed : Bool
  control : ControlWord
  address : Int
  registers : IndexRegisters
  jumpTaken : Bool
deriving DecidableEq, Repr

/-- The outcome of a clock edge. -/
structure TickResult where
  state : CoreState
  write : Option MemoryWrite
  instruction : Instruction
  decodeSuppressed : Bool
  executeSuppressed : Bool
  registerJump : Bool
  jumpTaken : Bool
deriving DecidableEq, Repr

def Condition.holds (condition : Condition) (carry zero : Bool) : Bool :=
  match condition with
  | never => false
  | always => true
  | carryClear => !carry
  | zeroClear => !zero

namespace CoreState

def indexRegisters (s : CoreState) : IndexRegisters := ⟨s.ix, s.iy⟩

def word (s : CoreState) : Word := Word.ofInt s.ir

def execute (s : CoreState) (data : Byte) : Execution :=
  let enabled := !s.skip.suppressesExecute
  { data
    writeback := s.control.execute (Byte.ofInt s.acc) (Byte.ofInt s.operand) data enabled
    write := if s.control.store && enabled then some ⟨s.ea, s.acc⟩ else none
    registerJump := s.control.registerJump && enabled }

/-- The index registers and the address that an instruction in the decode stage leaves behind.  A
    store to an index register takes the accumulator that is being written back. -/
def address (s : CoreState) (i : Instruction) (accumulator : Int) : Int × IndexRegisters :=
  let operand := s.word.operand
  if i.usesIndexRegisters then
    let resolution := resolve operand s.indexRegisters
    let registers := if i.control.store then
        storeIndex operand accumulator resolution.registers else resolution.registers
    (resolution.address, registers)
  else (unsigned operand, s.indexRegisters)

/-- The decode stage.  A register jump in the execute stage squashes the instruction behind it. -/
def decode (s : CoreState) (e : Execution) : Decoding :=
  let i := s.word.instruction
  if s.skip.suppressesDecode || e.registerJump then
    { suppressed := true
      control := .nop
      address := unsigned s.word.operand
      registers := s.indexRegisters
      jumpTaken := false }
  else
    let (address, registers) := s.address i (e.writeback.accumulator s.acc)
    { suppressed := false
      control := i.control
      address
      registers
      jumpTaken := i.condition.holds (e.writeback.carryFlag s.cf) (e.writeback.zeroFlag s.zf) }

def nextPc (s : CoreState) (e : Execution) (d : Decoding) : Int :=
  if e.registerJump then unsigned e.data
  else if d.jumpTaken then unsigned s.word.operand
  else (s.pc + 1) % 256

/-- The state after a clock edge, given what the stages did and the word that was fetched. -/
def advance (s : CoreState) (e : Execution) (d : Decoding) (fetched : Word) : CoreState :=
  { pc := s.nextPc e d
    ir := unsigned fetched
    operand := unsigned s.word.operand
    ix := d.registers.ix
    iy := d.registers.iy
    ea := d.address
    acc := e.writeback.accumulator s.acc
    cf := e.writeback.carryFlag s.cf
    zf := e.writeback.zeroFlag s.zf
    control := d.control
    skip := s.skip.next e.registerJump d.jumpTaken }

/-- One clock edge.  It needs the latched data address and the program counter to lie in their
    memories, and changes neither memory. -/
def tick {words bytes : Nat} (s : CoreState) (rom : ProgramMemory words) (ram : DataMemory bytes) :
    Except MemoryFault TickResult := do
  let data ← ram.load s.ea
  let e := s.execute data
  let d := s.decode e
  let fetched ← rom.load s.pc
  return { state := s.advance e d fetched
           write := e.write
           instruction := s.word.instruction
           decodeSuppressed := d.suppressed
           executeSuppressed := s.skip.suppressesExecute
           registerJump := e.registerJump
           jumpTaken := d.jumpTaken }

end CoreState

end Microcore
