/-
  Microcore/Proofs/Run.lean
  =========================
  **Runs from reset.**  A run is the sequence of machines and outcomes that clocking without end
  gives; it holds the proof that no clock edge of it fails.  Every machine has one from its reset on
  (`Machine.resetRun`), whatever its memories hold.
-/
import Microcore.Proofs.Edge
import Microcore.Proofs.Trace

namespace Microcore

/-- A machine clocked without end: `machine i` is the machine after `i` clock edges, and `tick i`
    the outcome of the edge that follows. -/
structure Run where
  machine : Nat → Machine
  tick : Nat → TickResult
  step_eq (i : Nat) : (machine i).step = .ok
    { machine := machine (i + 1)
      result := tick i
      events := Machine.events (machine i).cycles (machine i).state (tick i) }

namespace Machine

def after (m : Machine) : Nat → Machine
  | 0 => m
  | i + 1 => (m.after i).next

@[simp] theorem after_zero (m : Machine) : m.after 0 = m := rfl

theorem after_succ (m : Machine) (i : Nat) : m.after (i + 1) = (m.after i).next := rfl

theorem after_add (m : Machine) (i j : Nat) : m.after (i + j) = (m.after i).after j := by
  induction j with
  | zero => rfl
  | succ j ih => rw [← Nat.add_assoc, after_succ, after_succ, ih]

@[simp] theorem rom_after (m : Machine) (i : Nat) : (m.after i).rom = m.rom := by
  induction i with
  | zero => rfl
  | succ i ih => rw [after_succ, next_rom, ih]

theorem inRange_after {m : Machine} (h : m.state.InRange) (i : Nat) :
    (m.after i).state.InRange := by
  induction i with
  | zero => exact h
  | succ i ih => exact inRange_next ih

def run (m : Machine) (h : m.state.InRange) : Run where
  machine := m.after
  tick i := (m.after i).tick
  step_eq i := step_eq_next (inRange_after h i)

theorem inRange_reset (m : Machine) : m.reset.state.InRange := CoreState.inRange_reset

/-- The run of a machine from its reset on. -/
def resetRun (m : Machine) : Run := m.reset.run m.inRange_reset

theorem resetRun_machine (m : Machine) (i : Nat) : m.resetRun.machine i = m.reset.after i := rfl

theorem resetRun_tick (m : Machine) (i : Nat) : m.resetRun.tick i = (m.reset.after i).tick := rfl

/-! ### New machines -/

variable {host : Host} {config : Config}

theorem traceOf_of_room {capacity : Int} (h : capacity ≤ host.room) :
    ∃ trace, traceOf capacity host = .ok trace ∧
      ∀ hpos : 0 < capacity.toNat, trace = some (.empty capacity.toNat hpos) := by
  by_cases hcapacity : 0 < capacity
  · have hpos : 0 < capacity.toNat := by omega
    refine ⟨some (.empty capacity.toNat hpos), ?_, fun _ => rfl⟩
    rw [traceOf, if_pos hcapacity, Trace.Recorder.create?_eq_empty hpos h]
    rfl
  · exact ⟨none, if_neg hcapacity, fun hpos => absurd hpos (by omega)⟩

theorem traceOf_of_no_room {capacity : Int} (h : host.room < capacity) :
    ∃ fault, traceOf capacity host = .error fault := by
  have hcapacity : 0 < capacity := by omega
  cases hmade : Trace.Recorder.create? capacity host with
  | error fault =>
    rw [traceOf, if_pos hcapacity, hmade]
    exact ⟨fault, rfl⟩
  | ok r =>
    obtain ⟨-, hroom, -⟩ := Trace.Recorder.create?_eq_ok_iff.mp hmade
    exact absurd hroom (Int.not_le.mpr h)

/-- A machine is made of its two memories and its trace. -/
theorem create?_eq_ok_iff {m : Machine} : create? config host = .ok m ↔
    ∃ rom ram trace, memoryOf .program config.program = .ok rom ∧
      memoryOf .data config.data = .ok ram ∧ traceOf config.trace host = .ok trace ∧
        ({ rom, ram, trace } : Machine) = m := by
  rw [create?]
  cases memoryOf .program config.program with
  | error fault => simp [Except.mapError, bind, Except.bind]
  | ok rom =>
    cases memoryOf .data config.data with
    | error fault => simp [Except.mapError, bind, Except.bind]
    | ok ram => cases traceOf config.trace host <;> simp [Except.mapError, bind, Except.bind, pure, Except.pure]

/-- A machine is made in reset. -/
theorem reset_of_create? {m : Machine} (h : create? config host = .ok m) : m.reset = m := by
  obtain ⟨rom, ram, trace, -, -, -, rfl⟩ := create?_eq_ok_iff.mp h
  rfl

/-- Where the host has room for the trace, a machine is made of every pair of images that fit the
    memories.  It is in reset, and past the end of an image its memory holds zeros. -/
theorem exists_create? {program : List Word} {data : List Byte} (hp : program.length ≤ 256)
    (hd : data.length ≤ 256) {capacity : Int} (hroom : capacity ≤ host.room) :
    ∃ m, create? { program := some (program.map unsigned), data := some (data.map unsigned)
                   trace := capacity } host = .ok m ∧
      m.reset = m ∧ (∀ a : Byte, m.rom.cell a = program.getD a.toNat 0) ∧
        (∀ a : Byte, m.ram.cell a = data.getD a.toNat 0) ∧
          ∀ hpos : 0 < capacity.toNat, m.trace = some (.empty capacity.toNat hpos) := by
  obtain ⟨rom, hrom, hromCell⟩ := @Memory.loadImage_blank .program _ hp
  obtain ⟨ram, hram, hramCell⟩ := @Memory.loadImage_blank .data _ hd
  obtain ⟨trace, htrace, hempty⟩ := traceOf_of_room hroom
  exact ⟨_, create?_eq_ok_iff.mpr ⟨rom, ram, trace, hrom, hram, htrace, rfl⟩, rfl, hromCell, hramCell,
    hempty⟩

/-- A machine without a trace is made of every pair of images that fit the memories, on every host. -/
theorem create?_of_images (host : Host) {program : List Word} {data : List Byte}
    (hp : program.length ≤ 256) (hd : data.length ≤ 256) :
    ∃ m, create? { program := some (program.map unsigned), data := some (data.map unsigned) } host =
        .ok m ∧
      m.reset = m ∧ (∀ a : Byte, m.rom.cell a = program.getD a.toNat 0) ∧
        ∀ a : Byte, m.ram.cell a = data.getD a.toNat 0 := by
  obtain ⟨m, hm, hreset, hrom, hram, -⟩ := @exists_create? host _ _ hp hd 0 (Int.natCast_nonneg _)
  exact ⟨m, hm, hreset, hrom, hram⟩

end Machine

end Microcore
