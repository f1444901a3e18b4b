/-
  Microcore/Trace.lean
  ====================
  **The execution trace.**  A recorder keeps the most recent cycles in a ring of slots, as many as its
  capacity.  The next entry goes into the slot behind the latest one, and behind the last slot comes the
  first one again, so that a full recorder writes over its oldest entry.
-/
import Microcore.Host
import Microcore.Word
import Microcore.Text.Numeral

namespace Microcore.Trace

/-- The registers that a trace shows. -/
structure Registers where
  pc : Int := 0
  ir : Int := 0xB00
  acc : Int := 0
  ix : Int := 0
  iy : Int := 0
  ea : Int := 0
  cf : Bool := false
  zf : Bool := false
  skip : String := "NO_SKIP"
deriving DecidableEq, Repr

/-- What happened in a cycle. -/
structure Happening where
  mnemonic : String := ""
  decodeSuppressed : Bool := false
  executeSuppressed : Bool := false
  write : Option (Int × Int) := none
  note : String := ""
deriving DecidableEq, Repr

/-- A recorded cycle: registers before the clock edge, cut to their widths, and what happened. -/
structure Entry where
  cycle : Int
  pc : Byte
  ir : Word
  acc : Byte
  ix : Byte
  iy : Byte
  ea : Byte
  cf : Bool
  zf : Bool
  skip : String
  mnemonic : String
  decodeSuppressed : Bool
  executeSuppressed : Bool
  write : Option (Byte × Byte)
  note : String
deriving DecidableEq, Repr

namespace Entry

def ofCycle (cycle : Int) (r : Registers) (h : Happening) : Entry :=
  { cycle
    pc := Byte.ofInt r.pc
    ir := Word.ofInt r.ir
    acc := Byte.ofInt r.acc
    ix := Byte.ofInt r.ix
    iy := Byte.ofInt r.iy
    ea := Byte.ofInt r.ea
    cf := r.cf
    zf := r.zf
    skip := r.skip
    mnemonic := h.mnemonic
    decodeSuppressed := h.decodeSuppressed
    executeSuppressed := h.executeSuppressed
    write := h.write.map fun (address, value) => (Byte.ofInt address, Byte.ofInt value)
    note := h.note }

def byteText (b : Byte) : String := Numeral.hex 2 b.toNat

def events (e : Entry) : String :=
  let events :=
    (if e.decodeSuppressed then ["S2"] else []) ++
    (if e.executeSuppressed then ["S3"] else []) ++
    (match e.write with
      | some (address, value) => [s!"W[{byteText address}]={byteText value}"]
      | none => []) ++
    (if e.note = "" then [] else [e.note])
  if events.isEmpty then "-" else ",".intercalate events

def line (e : Entry) : String :=
  let cycle := String.ofList (Numeral.decimalChars 5 e.cycle)
  let mnemonic := if e.mnemonic = "" then "?" else e.mnemonic
  let mnemonic := String.ofList (Numeral.padEnd 9 mnemonic.toList)
  s!"cyc={cycle} pc={byteText e.pc} ir={Numeral.hex 3 e.ir.toNat} {mnemonic} " ++
    s!"ACC={byteText e.acc} IX={byteText e.ix} IY={byteText e.iy} EA={byteText e.ea} " ++
    s!"CF={Numeral.flag e.cf} ZF={Numeral.flag e.zf} skip={e.skip} flags={e.events}"

end Entry

/-- Why a capacity is refused. -/
inductive Fault where
  | notPositive
  /-- The slots could not be numbered. -/
  | countless
  /-- There is no room for the slots. -/
  | noMemory
deriving DecidableEq, Repr

/-- The text of a refusal.  The last two are up to the host, which says why or says nothing. -/
def Fault.message : Fault → String
  | notPositive => "capacity must be positive"
  | countless => "cannot fit \x27int\x27 into an index-sized integer"
  | noMemory => ""

/-- A recorder: a ring of slots, the slot for the next entry and the number of entries held. -/
structure Recorder where
  capacity : Nat
  slots : Vector (Option Entry) capacity
  index : Nat
  size : Nat
  index_lt : index < capacity
  size_le : size ≤ capacity

namespace Recorder

def empty (capacity : Nat) (h : 0 < capacity) : Recorder where
  capacity
  slots := .replicate capacity none
  index := 0
  size := 0
  index_lt := h
  size_le := Nat.zero_le _

/-- A new recorder.  All its slots are made at once, so a host may have no room for them. -/
def create? (capacity : Int) (host : Host := .usual) : Except Fault Recorder :=
  if h : capacity ≤ 0 then .error .notPositive
  else if maxIndex < capacity then .error .countless
  else if host.room < capacity then .error .noMemory
  else .ok (empty capacity.toNat (by omega))

theorem capacity_pos (r : Recorder) : 0 < r.capacity := Nat.zero_lt_of_lt r.index_lt

/-- Write an entry into the next slot, over the oldest entry if the recorder is full. -/
def record (r : Recorder) (e : Entry) : Recorder :=
  { r with
    slots := r.slots.set r.index (some e) r.index_lt
    index := (r.index + 1) % r.capacity
    size := if r.size < r.capacity then r.size + 1 else r.size
    index_lt := Nat.mod_lt _ r.capacity_pos
    size_le := by
      have := r.size_le
      split <;> omega }

theorem wrapped_lt (r : Recorder) (position : Int) : (position % r.capacity).toNat < r.capacity := by
  have hpos : (0 : Int) < r.capacity := Int.natCast_pos.mpr r.capacity_pos
  have hnonneg := Int.emod_nonneg position (Int.ne_of_gt hpos)
  have hlt := Int.emod_lt_of_pos position hpos
  omega

/-- What the slot at a distance from the next one holds, counted around the ring. -/
def slot (r : Recorder) (distance : Int) : Option Entry :=
  r.slots.get ⟨((r.index + distance) % r.capacity).toNat, r.wrapped_lt _⟩

/-- The latest entries, oldest first: so many of them, or all. -/
def latest (r : Recorder) (limit : Option Int) : List Entry :=
  let count := match limit with
    | none => r.size
    | some n => min r.size (max n 0).toNat
  (List.range count).filterMap fun (offset : Nat) => r.slot (offset - count)

def toList (r : Recorder) : List Entry := r.latest none

def last? (r : Recorder) : Option Entry := if r.size = 0 then none else r.slot (-1)

def clear (r : Recorder) : Recorder := empty r.capacity r.capacity_pos

def lines (r : Recorder) (limit : Option Int) : List String := (r.latest limit).map Entry.line

end Recorder

end Microcore.Trace
