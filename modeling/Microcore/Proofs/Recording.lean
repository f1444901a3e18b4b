/-
  Microcore/Proofs/Recording.lean
  ===============================
  **The trace is a faithful record of the run.**  In every cycle a machine with a trace records the
  state in front of the clock edge and what happened at it (`Entry.Records`), and nothing is lost by
  the widths of an entry, since reachable states are well formed.  The line of an entry shows the
  same in words (`Records.line_eq`).  The recorder keeps the latest of these entries, so after any
  number of cycles it holds the latest cycles of the run, and while it holds all of them the recorded
  writes lead from the initial data memory to the present one.
-/
import Microcore.Proofs.Text.Numeral
import Microcore.Proofs.Trace
import Microcore.Proofs.WellFormed

namespace Microcore

/-! ### Entries -/

namespace Trace.Entry

/-- An entry shows the number of a cycle, the state in front of the clock edge and what happened at
    the edge. -/
structure Records (e : Entry) (cycle : Nat) (s : CoreState) (t : TickResult) : Prop where
  cycle : e.cycle = cycle
  pc : unsigned e.pc = s.pc
  ir : unsigned e.ir = s.ir
  acc : unsigned e.acc = s.acc
  ix : unsigned e.ix = s.ix
  iy : unsigned e.iy = s.iy
  ea : unsigned e.ea = s.ea
  cf : e.cf = s.cf
  zf : e.zf = s.zf
  skip : e.skip = s.skip.name
  mnemonic : e.mnemonic = String.ofList (Word.ofInt s.ir).disassemble
  decodeSuppressed : e.decodeSuppressed = t.decodeSuppressed
  executeSuppressed : e.executeSuppressed = t.executeSuppressed
  write : e.write.map (fun w => ⟨unsigned w.1, unsigned w.2⟩) = t.write
  registerJump : t.registerJump = true → e.note = "jpr"
  jumpTaken : t.jumpTaken = true → e.note = "jump"
  straight : t.registerJump = false → t.jumpTaken = false → e.note = ""

/-- The data memory after the write of an entry, if it has one. -/
def replay (ram : DataMemory addressSpace) (e : Entry) : DataMemory addressSpace :=
  match e.write with
  | some (address, value) => ram.withCell address value
  | none => ram

end Trace.Entry

/-! ### Lines -/

namespace Trace

/-- A number in hexadecimal, with zeros in front. -/
def hexText (width : Nat) (x : Int) : String :=
  String.ofList (((Nat.toDigits 16 x.toNat).map Char.toUpper).leftpad width '0')

/-- What a line tells of a clock edge: the stages that did not commit, the store and the jump. -/
def happenings (t : TickResult) : List String :=
  (if t.decodeSuppressed then ["S2"] else []) ++
  (if t.executeSuppressed then ["S3"] else []) ++
  t.write.toList.map (fun w => s!"W[{hexText 2 w.address}]={hexText 2 w.value}") ++
  (if t.registerJump then ["jpr"] else if t.jumpTaken then ["jump"] else [])

/-- The line that shows a cycle, the state in front of its clock edge and what happened at the edge. -/
def lineOf (cycle : Nat) (s : CoreState) (t : TickResult) : String :=
  let number := String.ofList ((Nat.toDigits 10 cycle).leftpad 5 '0')
  let code := String.ofList ((Word.ofInt s.ir).disassemble.rightpad 9 ' ')
  let carry := if s.cf then "1" else "0"
  let zero := if s.zf then "1" else "0"
  let flags := if happenings t = [] then "-" else ",".intercalate (happenings t)
  s!"cyc={number} pc={hexText 2 s.pc} ir={hexText 3 s.ir} {code} " ++
    s!"ACC={hexText 2 s.acc} IX={hexText 2 s.ix} IY={hexText 2 s.iy} EA={hexText 2 s.ea} " ++
    s!"CF={carry} ZF={zero} skip={s.skip.name} flags={flags}"

theorem hex_toNat (width : Nat) {w : Nat} (b : BitVec w) :
    Numeral.hex width b.toNat = hexText width (unsigned b) := by
  rw [Numeral.hex, Numeral.hexChars, Numeral.Form.write_natCast rfl]
  rfl

namespace Entry

variable {e : Entry} {cycle : Nat} {s : CoreState} {t : TickResult}

theorem Records.note_eq (h : e.Records cycle s t) : (if e.note = "" then [] else [e.note]) =
    if t.registerJump then ["jpr"] else if t.jumpTaken then ["jump"] else [] := by
  cases hjpr : t.registerJump with
  | true =>
    rw [h.registerJump hjpr]
    rfl
  | false =>
    cases hjump : t.jumpTaken with
    | true =>
      rw [h.jumpTaken hjump]
      rfl
    | false =>
      rw [h.straight hjpr hjump]
      rfl

theorem Records.events_eq (h : e.Records cycle s t) : e.events =
    if happenings t = [] then "-" else ",".intercalate (happenings t) := by
  cases hwrite : e.write with
  | none =>
    have hnone : t.write = none := by
      rw [← h.write, hwrite]
      rfl
    simp only [events, hwrite, h.decodeSuppressed, h.executeSuppressed, h.note_eq, happenings, hnone,
      Option.toList_none, List.map_nil, List.isEmpty_iff]
  | some w =>
    have hsome : t.write = some ⟨unsigned w.1, unsigned w.2⟩ := by
      rw [← h.write, hwrite]
      rfl
    simp only [events, hwrite, h.decodeSuppressed, h.executeSuppressed, h.note_eq, happenings, hsome,
      Option.toList_some, List.map_cons, List.map_nil, List.isEmpty_iff, byteText, hex_toNat]

/-- **The line of an entry shows the cycle, the state and what happened.** -/
theorem Records.line_eq (h : e.Records cycle s t) : e.line = lineOf cycle s t := by
  have hcycle : Numeral.decimalChars 5 e.cycle = (Nat.toDigits 10 cycle).leftpad 5 '0' := by
    rw [h.cycle, Numeral.decimalChars, Numeral.Form.write_natCast rfl]
    rfl
  have hne : e.mnemonic ≠ "" := by
    rw [h.mnemonic]
    intro hempty
    have hchars := congrArg String.toList hempty
    rw [String.toList_ofList] at hchars
    exact List.append_ne_nil_of_right_ne_nil _ (List.cons_ne_nil _ _) hchars
  have hmnemonic : Numeral.padEnd 9 (if e.mnemonic = "" then "?" else e.mnemonic).toList =
      (Word.ofInt s.ir).disassemble.rightpad 9 ' ' := by
    rw [if_neg hne, h.mnemonic, String.toList_ofList]
    rfl
  unfold line lineOf
  simp only [hcycle, hmnemonic, byteText, hex_toNat, h.pc, h.ir, h.acc, h.ix, h.iy, h.ea, h.cf, h.zf,
    Numeral.flag, h.skip, h.events_eq]

end Entry

end Trace

namespace Machine

variable {m : Machine}

theorem unsigned_word_ofInt_of_mem {x : Int} (h : 0 ≤ x ∧ x ≤ 0xFFF) :
    unsigned (Word.ofInt x) = x := by
  rw [unsigned_word_ofInt]
  omega

/-- The registers of a well-formed state fit an entry. -/
theorem records_traceEntry (h : m.state.WellFormed) (cycle : Nat) :
    (traceEntry cycle m.state m.tick).Records cycle m.state m.tick where
  cycle := rfl
  pc := unsigned_byte_ofInt_of_mem h.inRange.pc
  ir := unsigned_word_ofInt_of_mem h.ir
  acc := unsigned_byte_ofInt_of_mem h.acc
  ix := unsigned_byte_ofInt_of_mem h.inRange.index.ix
  iy := unsigned_byte_ofInt_of_mem h.inRange.index.iy
  ea := unsigned_byte_ofInt_of_mem h.inRange.ea
  cf := rfl
  zf := rfl
  skip := rfl
  mnemonic := rfl
  decodeSuppressed := rfl
  executeSuppressed := rfl
  write := by
    simp only [traceEntry, Trace.Entry.ofCycle, tick_write]
    split
    · simp only [Option.map_some, unsigned_byte_ofInt_of_mem h.inRange.ea,
        unsigned_byte_ofInt_of_mem h.acc]
    · rfl
  registerJump hjump := by
    simp only [traceEntry, Trace.Entry.ofCycle, hjump, if_true]
  jumpTaken hjump := by
    simp only [traceEntry, Trace.Entry.ofCycle, registerJump_of_jumpTaken hjump, hjump, if_true]
    rfl
  straight hjpr hjump := by
    simp only [traceEntry, Trace.Entry.ofCycle, hjpr, hjump]
    rfl

/-- To replay the entry of a cycle is to make the store of the cycle. -/
theorem replay_traceEntry (m : Machine) (cycle : Nat) :
    (traceEntry cycle m.state m.tick).replay m.ram = m.next.ram := by
  have hwrite : m.tick.write = m.execution.write := rfl
  simp only [Trace.Entry.replay, traceEntry, Trace.Entry.ofCycle, hwrite, next_ram, stored]
  cases m.execution.write <;> rfl

/-! ### The entries of a run -/

/-- The entry that a machine records in its cycle `i` from now on. -/
def entryAfter (m : Machine) (i : Nat) : Trace.Entry :=
  traceEntry (m.after i).cycles (m.after i).state (m.after i).tick

theorem trace_after (m : Machine) (n : Nat) : (m.after n).trace =
    m.trace.map fun t => ((List.range n).map m.entryAfter).foldl Trace.Recorder.record t := by
  induction n with
  | zero => exact Option.map_id'.symm
  | succ n ih =>
    rw [List.range_succ, List.map_append]
    simp only [after_succ, next, ih, Option.map_map, List.foldl_append]
    rfl

theorem cycles_after (m : Machine) (n : Nat) : (m.after n).cycles = m.cycles + n := by
  induction n with
  | zero => rfl
  | succ n ih => rw [after_succ, next_cycles, ih, Nat.add_assoc]

theorem wellFormed_after {m : Machine} (h : m.state.WellFormed) (n : Nat) :
    (m.after n).state.WellFormed := by
  induction n with
  | zero => exact h
  | succ n ih => exact wellFormed_next ih

theorem records_entryAfter_reset (m : Machine) (i : Nat) :
    (m.reset.entryAfter i).Records i (m.resetRun.machine i).state (m.resetRun.tick i) := by
  have hcycles : (m.reset.after i).cycles = i := by
    rw [cycles_after]
    exact Nat.zero_add i
  rw [entryAfter, hcycles]
  exact records_traceEntry (wellFormed_after CoreState.wellFormed_reset i) i

/-- To replay the entries of a run is to make its stores. -/
theorem foldl_replay (m : Machine) (n : Nat) :
    ((List.range n).map m.entryAfter).foldl Trace.Entry.replay m.ram = (m.after n).ram := by
  induction n with
  | zero => rfl
  | succ n ih =>
    rw [List.range_succ, List.map_append, List.foldl_append, ih]
    exact replay_traceEntry (m.after n) _

end Machine

/-! ### What a trace holds -/

theorem rtake_map_range {α : Type} (f : Nat → α) (n capacity : Nat) :
    ((List.range n).map f).rtake capacity = (List.range' (n - capacity) (min n capacity)).map f := by
  rw [List.rtake, List.length_map, List.length_range, ← List.map_drop, List.range_eq_range',
    List.drop_range']
  congr 2 <;> omega

/-- After `n` cycles the recorder of a run, with the given capacity, holds exactly the latest of them,
    answers with the lines of as many as are asked for, and can be replayed while it holds them all. -/
structure Run.Recorded (run : Run) (capacity n : Nat) (r : Trace.Recorder) : Prop where
  trace : (run.machine n).trace = some r
  entries : List.Forall₂ (fun e i => e.Records i (run.machine i).state (run.tick i))
    r.toList (List.range' (n - capacity) (min n capacity))
  lines (host : Host) (k : Int) :
    let count := min (min (max k 0).toNat capacity) n
    ((run.machine n).perform (.trace (some k)) host).answer = .ok (.trace (some
      ((List.range' (n - count) count).map fun i =>
        Trace.lineOf i (run.machine i).state (run.tick i))))
  replay : n ≤ capacity → r.toList.foldl Trace.Entry.replay (run.machine 0).ram = (run.machine n).ram

theorem Machine.recorded_resetRun {m : Machine} {capacity : Nat} {h : 0 < capacity}
    (htrace : m.trace = some (.empty capacity h)) (n : Nat) :
    ∃ r, m.resetRun.Recorded capacity n r := by
  let entries := (List.range n).map m.reset.entryAfter
  let r := entries.foldl Trace.Recorder.record (.empty capacity h)
  have hr : (m.resetRun.machine n).trace = some r := by
    rw [resetRun_machine, trace_after]
    exact congrArg (Option.map _) htrace
  have hkeeps : r.Keeps capacity entries := (Trace.Recorder.keeps_empty h).foldl_record entries
  have hlength : entries.length = n := by
    rw [List.length_map, List.length_range]
  have hentries : r.toList = (List.range' (n - capacity) (min n capacity)).map m.reset.entryAfter := by
    rw [hkeeps.toList_eq, hlength, rtake_map_range]
    congr 2 <;> omega
  refine ⟨r, hr, ?_, ?_, ?_⟩
  · rw [hentries, List.forall₂_map_left_iff, List.forall₂_same]
    intro i _
    exact m.records_entryAfter_reset i
  · intro host k count
    have hlatest : r.latest (some k) = (List.range' (n - count) count).map m.reset.entryAfter := by
      rw [hkeeps.latest_eq, hlength, rtake_map_range]
      congr 2 <;> omega
    have hline (i : Nat) : (m.reset.entryAfter i).line =
        Trace.lineOf i (m.resetRun.machine i).state (m.resetRun.tick i) :=
      (m.records_entryAfter_reset i).line_eq
    simp only [perform, hr, Option.map_some, Trace.Recorder.lines, hlatest, List.map_map,
      Function.comp_def, hline]
  · intro hn
    have hall : r.toList = entries := by
      rw [hkeeps.toList_eq, hlength, List.rtake, hlength, Nat.min_eq_left hn, Nat.sub_self, List.drop_zero]
    rw [hall]
    exact m.reset.foldl_replay n

/-- **The trace is a faithful record of the run.**  Whatever images a machine is made of and however
    many cycles its trace can hold, after `n` cycles the trace holds exactly the latest ones, each as it
    was, shows as many of them as are asked for, and can be replayed while none has been dropped. -/
theorem trace_records_run {host : Host} {program : List Word} {data : List Byte}
    (hp : program.length ≤ 256) (hd : data.length ≤ 256) {capacity : Nat} (hc : 0 < capacity)
    (hroom : capacity ≤ host.room) :
    let config : Machine.Config := { program := some (program.map unsigned)
                                     data := some (data.map unsigned), trace := capacity }
    ∃ m, Machine.create? config host = .ok m ∧ m.resetRun.machine 0 = m ∧
      ∀ n, ∃ r, m.resetRun.Recorded capacity n r := by
  intro config
  obtain ⟨m, hm, hreset, -, -, hempty⟩ := Machine.exists_create? hp hd (Int.ofNat_le.mpr hroom)
  exact ⟨m, hm, hreset, Machine.recorded_resetRun (hempty hc)⟩

/-- A program that adds, stores and jumps, with room for three cycles. -/
theorem storing_program_recorded :
    let program : List Word := [0xD05, 0x403, 0xE10, 0xB01]
    let data : List Byte := [0x01, 0x02, 0x04, 0x08]
    program.length ≤ 256 ∧ data.length ≤ 256 ∧ 0 < 3 ∧ 3 ≤ Host.usual.room ∧
      let config : Machine.Config := { program := some (program.map unsigned)
                                       data := some (data.map unsigned), trace := (3 : Nat) }
      ∃ m, Machine.create? config .usual = .ok m ∧ m.resetRun.machine 0 = m ∧
        ∀ n, ∃ r, m.resetRun.Recorded 3 n r := by
  intro program data
  have hp : program.length ≤ 256 := by decide
  have hd : data.length ≤ 256 := by decide
  have hc : 0 < 3 := by decide
  have hroom : 3 ≤ Host.usual.room := by decide
  exact ⟨hp, hd, hc, hroom, trace_records_run hp hd hc hroom⟩

end Microcore
