/-
  Microcore/Proofs/Trace.lean
  ===========================
  **The ring of a recorder is a queue of the latest entries.**  The entry recorded as number `j` goes into
  slot `j % capacity`, and it stays there until `capacity` more have been recorded (`Keeps`).  What is read
  around the ring is therefore the end of what has been recorded (`Keeps.latest_eq`), however often the
  index and the size have wrapped or the recorder has been cleared (`recorder_is_bounded_queue`).
-/
import Mathlib.Data.List.DropRight
import Mathlib.Data.List.Induction
import Microcore.Trace

namespace Microcore.Trace

/-! ### Positions -/

/-- Two positions less than a turn apart lie in different slots. -/
theorem mod_ne_mod {i j capacity : Nat} (hlt : i < j) (hnear : j < i + capacity) :
    i % capacity ≠ j % capacity := by
  intro h
  have hdvd : capacity ∣ j - i := Nat.dvd_of_mod_eq_zero (Nat.sub_mod_eq_zero_of_mod_eq h.symm)
  have hle : capacity ≤ j - i := Nat.le_of_dvd (by omega) hdvd
  omega

theorem filterMap_getElem?_range {α : Type} (l : List α) (n : Nat) :
    ((List.range n).filterMap fun i => l[i]?) = l.take n := by
  induction n with
  | zero => rfl
  | succ n ih =>
    have hlast : ([n].filterMap fun i => l[i]?) = l[n]?.toList := by
      rw [List.filterMap_cons]
      cases l[n]? <;> rfl
    rw [List.range_succ, List.filterMap_append, ih, hlast, List.take_add_one]

/-! ### Histories -/

/-- What can be done to a recorder. -/
inductive Operation where
  | record (entry : Entry)
  | clear
deriving DecidableEq, Repr

def Operation.recorded? : Operation → Option Entry
  | record entry => some entry
  | clear => none

/-- The entries that are recorded behind the last operation that clears. -/
def history (operations : List Operation) : List Entry :=
  (operations.rtakeWhile fun operation => operation.recorded?.isSome).filterMap Operation.recorded?

theorem history_record (operations : List Operation) (e : Entry) :
    history (operations ++ [.record e]) = history operations ++ [e] := by
  have hrecord : (Operation.record e).recorded?.isSome = true := rfl
  rw [history, List.rtakeWhile_concat, if_pos hrecord, List.filterMap_append]
  rfl

theorem history_clear (operations : List Operation) : history (operations ++ [.clear]) = [] := by
  have hclear : ¬Operation.clear.recorded?.isSome = true := by decide
  rw [history, List.rtakeWhile_concat, if_neg hclear, List.filterMap_nil]

/-! ### The ring -/

namespace Recorder

def perform (r : Recorder) : Operation → Recorder
  | .record e => r.record e
  | .clear => r.clear

def performAll (r : Recorder) (operations : List Operation) : Recorder := operations.foldl perform r

/-- A recorder of a capacity after a history.  Each of the latest entries is in the slot of its number. -/
structure Keeps (r : Recorder) (capacity : Nat) (h : List Entry) : Prop where
  capacity_eq : r.capacity = capacity
  size_eq : r.size = min h.length capacity
  index_eq : r.index = h.length % capacity
  slot_eq (j : Nat) (hlt : j < h.length) (hnear : h.length ≤ j + capacity) :
    r.slots[j % capacity]? = some h[j]?

theorem keeps_empty {capacity : Nat} (h : 0 < capacity) : (empty capacity h).Keeps capacity [] where
  capacity_eq := rfl
  size_eq := (Nat.zero_min capacity).symm
  index_eq := (Nat.zero_mod capacity).symm
  slot_eq j hlt _ := absurd hlt (Nat.not_lt_zero j)

/-- To record an entry is to write over the one that is a turn older, and over no later one. -/
theorem Keeps.record {r : Recorder} {capacity : Nat} {h : List Entry} (hkeeps : r.Keeps capacity h)
    (e : Entry) : (r.record e).Keeps capacity (h ++ [e]) := by
  obtain ⟨rfl, hsize, hindex, hslots⟩ := hkeeps
  refine ⟨rfl, ?_, ?_, ?_⟩
  · simp only [Recorder.record, List.length_append, List.length_singleton, hsize]
    split <;> omega
  · simp only [Recorder.record, List.length_append, List.length_singleton, hindex, Nat.mod_add_mod]
  · intro j hlt hnear
    rw [List.length_append, List.length_singleton] at hlt hnear
    show (r.slots.set r.index (some e) r.index_lt)[j % r.capacity]? = _
    rw [Vector.getElem?_set, hindex]
    rcases Nat.lt_or_eq_of_le (Nat.le_of_lt_succ hlt) with hold | rfl
    · have hne : h.length % r.capacity ≠ j % r.capacity := (mod_ne_mod hold (by omega)).symm
      rw [if_neg hne, hslots j hold (by omega), List.getElem?_append_left hold]
    · rw [if_pos rfl, List.getElem?_concat_length]

theorem Keeps.clear {r : Recorder} {capacity : Nat} {h : List Entry} (hkeeps : r.Keeps capacity h) :
    r.clear.Keeps capacity [] := by
  obtain ⟨rfl, -⟩ := hkeeps
  exact keeps_empty r.capacity_pos

theorem Keeps.foldl_record {r : Recorder} {capacity : Nat} {h : List Entry} (hkeeps : r.Keeps capacity h)
    (entries : List Entry) : (entries.foldl Recorder.record r).Keeps capacity (h ++ entries) := by
  induction entries generalizing r h with
  | nil => rwa [List.append_nil]
  | cons e entries ih =>
    rw [← List.singleton_append, ← List.append_assoc]
    exact ih (hkeeps.record e)

/-- **The ring keeps the end of its history,** whatever is done to it. -/
theorem keeps_performAll {capacity : Nat} (hpos : 0 < capacity) (operations : List Operation) :
    ((empty capacity hpos).performAll operations).Keeps capacity (history operations) := by
  -- by induction on the operations from the last one back, which says what the history ends with
  induction operations using List.reverseRecOn with
  | nil => exact keeps_empty hpos
  | append_singleton operations operation ih =>
    rw [performAll, List.foldl_append]
    cases operation with
    | record e =>
      rw [history_record]
      exact ih.record e
    | clear =>
      rw [history_clear]
      exact ih.clear

/-! ### Answers -/

section Answers

variable {r : Recorder} {capacity : Nat} {h : List Entry} (hkeeps : r.Keeps capacity h)

include hkeeps

/-- The entry recorded as number `j` is read so far in front of the next slot, around the ring. -/
theorem Keeps.read_eq {j : Nat} (hlt : j < h.length) (hnear : h.length ≤ j + capacity) {distance : Int}
    (hdistance : distance = j - h.length) : r.slot distance = h[j]? := by
  obtain ⟨rfl, -, hindex, hslots⟩ := hkeeps
  have hposition : ((r.index + distance) % r.capacity).toNat = j % r.capacity := by
    have hsum : (h.length : Int) + (j - h.length) = j := by omega
    rw [hindex, hdistance, Int.natCast_emod, Int.emod_add_emod, hsum, ← Int.natCast_emod,
      Int.toNat_natCast]
  have hslot := hslots j hlt hnear
  rw [← hposition, Vector.getElem?_eq_getElem (r.wrapped_lt _)] at hslot
  exact Option.some.inj hslot

/-- **What is read around the ring** is the end of the history, so much of it as is held. -/
theorem Keeps.read_latest {count : Nat} (hcount : count ≤ min h.length capacity) :
    ((List.range count).filterMap fun (offset : Nat) => r.slot (offset - count)) = h.rtake count := by
  have hread : ∀ offset ∈ List.range count,
      r.slot ((offset : Int) - count) = (h.drop (h.length - count))[offset]? := by
    intro offset hoffset
    have hlt : offset < count := List.mem_range.mp hoffset
    rw [List.getElem?_drop]
    exact hkeeps.read_eq (by omega) (by omega) (by omega)
  have hall : (h.drop (h.length - count)).length ≤ count := by
    rw [List.length_drop]
    omega
  rw [List.filterMap_congr hread, filterMap_getElem?_range, List.take_of_length_le hall, List.rtake]

theorem Keeps.latest_eq (limit : Int) :
    r.latest (some limit) = h.rtake (min (min h.length capacity) (max limit 0).toNat) := by
  rw [latest, hkeeps.size_eq]
  exact hkeeps.read_latest (Nat.min_le_left _ _)

theorem Keeps.toList_eq : r.toList = h.rtake (min h.length capacity) := by
  rw [toList, latest, hkeeps.size_eq]
  exact hkeeps.read_latest (Nat.le_refl _)

theorem Keeps.last?_eq : r.last? = h.getLast? := by
  rw [last?, hkeeps.size_eq]
  rcases List.eq_nil_or_concat' h with rfl | ⟨earlier, e, rfl⟩
  · rw [List.length_nil, Nat.zero_min, if_pos rfl]
    rfl
  · have hcapacity := r.capacity_pos
    rw [hkeeps.capacity_eq] at hcapacity
    have hlength : (earlier ++ [e]).length = earlier.length + 1 := List.length_append
    have hread : r.slot (-1) = (earlier ++ [e])[earlier.length]? :=
      hkeeps.read_eq (by omega) (by omega) (by omega)
    rw [if_neg (by omega), hread, List.getElem?_concat_length, List.getLast?_concat]

end Answers

/-- What a recorder of a capacity answers after a history: how many entries it holds, all of them or the
    latest of them, oldest first, and the very latest. -/
structure Answers (r : Recorder) (capacity : Nat) (h : List Entry) : Prop where
  size : r.size = min h.length capacity
  all : r.latest none = h.rtake (min h.length capacity)
  latest (limit : Int) :
    r.latest (some limit) = h.rtake (min (min h.length capacity) (max limit 0).toNat)
  last : r.last? = h.getLast?

theorem Keeps.answers {r : Recorder} {capacity : Nat} {h : List Entry} (hkeeps : r.Keeps capacity h) :
    r.Answers capacity h :=
  ⟨hkeeps.size_eq, hkeeps.toList_eq, hkeeps.latest_eq, hkeeps.last?_eq⟩

/-! ### New recorders -/

variable {capacity : Int} {host : Host}

theorem create?_eq_empty (hpos : 0 < capacity.toNat) (hroom : capacity ≤ host.room) :
    create? capacity host = .ok (empty capacity.toNat hpos) := by
  have hmax := host.room_le
  have hle : ¬capacity ≤ 0 := by omega
  have hindex : ¬maxIndex < capacity := by omega
  rw [create?, dif_neg hle, if_neg hindex, if_neg (Int.not_lt.mpr hroom)]

/-- A recorder is made exactly if its capacity is positive and the host has room for it. -/
theorem create?_eq_ok_iff {r : Recorder} : create? capacity host = .ok r ↔
    ∃ hpos : 0 < capacity.toNat, capacity ≤ host.room ∧ empty capacity.toNat hpos = r := by
  constructor
  · intro h
    rw [create?] at h
    split at h
    · cases h
    · next hle =>
      split at h
      · cases h
      · split at h
        · cases h
        · next hroom => exact ⟨by omega, Int.not_lt.mp hroom, Except.ok.inj h⟩
  · rintro ⟨hpos, hroom, rfl⟩
    exact create?_eq_empty hpos hroom

theorem create?_eq_notPositive_iff : create? capacity host = .error .notPositive ↔ capacity ≤ 0 := by
  constructor
  · intro h
    rw [create?] at h
    split at h
    · assumption
    · split at h
      · cases h
      · split at h <;> cases h
  · intro hle
    rw [create?, dif_pos hle]

/-- **A recorder is a bounded queue of the latest entries.**  A capacity is refused for not being
    positive exactly if it is not, and a recorder of any other capacity is made exactly if the host has
    room for its slots.  Whatever is recorded and however often it is cleared, it holds and answers with
    the end of what has been recorded since it was last cleared. -/
theorem recorder_is_bounded_queue (host : Host) (capacity : Int) :
    (create? capacity host = .error .notPositive ↔ capacity ≤ 0) ∧
    ((∃ r, create? capacity host = .ok r) ↔ 0 < capacity ∧ capacity ≤ host.room) ∧
    ∀ r, create? capacity host = .ok r → ∀ operations,
      (r.performAll operations).Answers capacity.toNat (history operations) := by
  refine ⟨create?_eq_notPositive_iff, ?_, ?_⟩
  · constructor
    · rintro ⟨r, hr⟩
      obtain ⟨hpos, hroom, -⟩ := create?_eq_ok_iff.mp hr
      exact ⟨by omega, hroom⟩
    · rintro ⟨hpos, hroom⟩
      exact ⟨_, create?_eq_empty (by omega) hroom⟩
  · intro r hr operations
    obtain ⟨hpos, -, rfl⟩ := create?_eq_ok_iff.mp hr
    exact (keeps_performAll hpos operations).answers

/-- No host makes a recorder for 2 ^ 63 entries, although the capacity is positive. -/
theorem countless_recorder_refused :
    (1 : Int) ≤ 9223372036854775808 ∧ ∀ host : Host, ¬∃ r, create? 9223372036854775808 host = .ok r := by
  refine ⟨by decide, ?_⟩
  rintro host ⟨r, hr⟩
  obtain ⟨-, hroom, -⟩ := create?_eq_ok_iff.mp hr
  exact Int.not_le.mpr host.room_lt_endless hroom

end Recorder

end Microcore.Trace
