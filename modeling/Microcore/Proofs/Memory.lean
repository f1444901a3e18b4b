/-
  Microcore/Proofs/Memory.lean
  ============================
  **Full memories as total maps.**  A memory of the whole address space has a cell at every byte, so
  the core's memories are functions of a byte: `cell` reads one and `withCell` changes one.  Loads
  and stores at addresses in the space never fail and are exactly these two (`load_eq_cell`,
  `put_eq_withCell`).
-/
import Microcore.Memory

namespace Microcore

theorem toNat_byte_ofInt {address : Int} (h : 0 ≤ address ∧ address < 256) :
    (Byte.ofInt address).toNat = address.toNat := by
  simp only [Byte.ofInt, BitVec.toNat_ofInt]
  omega

theorem unsigned_byte_ofInt_of_mem {address : Int} (h : 0 ≤ address ∧ address < 256) :
    unsigned (Byte.ofInt address) = address := by
  rw [unsigned_byte_ofInt]
  omega

/-- The greatest value that a cell can hold. -/
def Store.maxValue : Store → Int
  | data => 0xFF
  | program => 0xFFF

namespace Memory

variable {store : Store}

/-! ### Cells -/

theorem byte_lt (a : Byte) : a.toNat < addressSpace := a.isLt

/-- The cell of a full memory at a byte. -/
def cell (m : Memory store addressSpace) (a : Byte) : BitVec store.width :=
  have := byte_lt a
  m.cells[a.toNat]

def withCell (m : Memory store addressSpace) (a : Byte) (value : BitVec store.width) :
    Memory store addressSpace :=
  ⟨m.cells.set a.toNat value (byte_lt a)⟩

/-- A changed cell holds the new value, and every other cell what it held. -/
theorem cell_withCell (m : Memory store addressSpace) (a b : Byte) (value : BitVec store.width) :
    (m.withCell a value).cell b = if b = a then value else m.cell b := by
  simp only [cell, withCell, Vector.getElem_set]
  by_cases h : b = a
  · rw [if_pos h, if_pos (by rw [h])]
  · rw [if_neg h, if_neg]
    intro heq
    exact h (BitVec.eq_of_toNat_eq heq.symm)

/-- A load at an address in the space gives the cell. -/
theorem load_eq_cell (m : Memory store addressSpace) {address : Int}
    (h : 0 ≤ address ∧ address < 256) :
    m.load address = .ok (m.cell (Byte.ofInt address)) := by
  have hsize : 0 ≤ address ∧ address < (addressSpace : Int) := h
  simp only [load, dif_pos hsize, cell, toNat_byte_ofInt h]
  rfl

theorem load_eq_error (m : Memory store addressSpace) {address : Int}
    (h : ¬(0 ≤ address ∧ address < 256)) :
    m.load address = .error (.address address addressSpace) := by
  have hsize : ¬(0 ≤ address ∧ address < (addressSpace : Int)) := h
  simp only [load, dif_neg hsize]

/-- A store at an address in the space changes the cell to the low bits of the value. -/
theorem put_eq_withCell (m : Memory store addressSpace) {address : Int}
    (h : 0 ≤ address ∧ address < 256) (value : Int) :
    m.put address value =
      .ok (m.withCell (Byte.ofInt address) (BitVec.ofInt store.width value)) := by
  have hsize : 0 ≤ address ∧ address < (addressSpace : Int) := h
  simp only [put, dif_pos hsize, withCell, toNat_byte_ofInt h]

/-! ### Images -/

theorem fits_iff {value : Int} : fits store value = true ↔ 0 ≤ value ∧ value ≤ store.maxValue := by
  have hbound : Int.pow 2 store.width = store.maxValue + 1 := by cases store <;> rfl
  rw [fits, Bool.and_eq_true, decide_eq_true_eq, decide_eq_true_eq, hbound, Int.lt_add_one_iff]

theorem unsigned_le_maxValue (value : BitVec store.width) : unsigned value ≤ store.maxValue := by
  cases store with
  | data => exact Int.le_of_lt_add_one (unsigned_byte_lt value)
  | program => exact Int.le_of_lt_add_one (unsigned_word_lt value)

/-- A value that fits a cell is kept as it is. -/
theorem unsigned_ofInt_of_fits {value : Int} (h : 0 ≤ value ∧ value ≤ store.maxValue) :
    unsigned (BitVec.ofInt store.width value) = value := by
  cases store with
  | data => exact (unsigned_byte_ofInt value).trans (Int.emod_eq_of_lt h.1 (Int.lt_add_one_of_le h.2))
  | program =>
    exact (unsigned_word_ofInt value).trans (Int.emod_eq_of_lt h.1 (Int.lt_add_one_of_le h.2))

theorem firstWide?_eq_none_iff {image : List Int} :
    firstWide? store image = none ↔ ∀ value ∈ image, 0 ≤ value ∧ value ≤ store.maxValue := by
  simp only [firstWide?, List.find?_eq_none, Bool.not_eq_true', Bool.not_eq_false, fits_iff]
  constructor
  · intro h value hvalue
    obtain ⟨a, ha⟩ := List.mem_iff_getElem?.mp hvalue
    exact h (value, a) (List.mem_zipIdx_iff_getElem?.mpr ha)
  · intro h entry hentry
    exact h entry.1 (List.fst_mem_of_mem_zipIdx hentry)

theorem firstWide?_map_unsigned (values : List (BitVec store.width)) :
    firstWide? store (values.map unsigned) = none := by
  rw [firstWide?_eq_none_iff]
  intro value hvalue
  obtain ⟨cell, -, rfl⟩ := List.mem_map.mp hvalue
  exact ⟨unsigned_nonneg cell, unsigned_le_maxValue cell⟩

/-- An image that fits is laid over a memory of zeros: past its end the cells are zero. -/
theorem loadImage_blank {values : List (BitVec store.width)} (h : values.length ≤ addressSpace) :
    ∃ m : Memory store addressSpace,
      (blank store addressSpace).loadImage (values.map unsigned) = .ok m ∧
        ∀ a : Byte, m.cell a = values.getD a.toNat 0 := by
  have hlen : ¬addressSpace < (values.map unsigned).length := by
    rw [List.length_map]
    exact Nat.not_lt.mpr h
  simp only [loadImage, if_neg hlen, firstWide?_map_unsigned, Except.ok.injEq, exists_eq_left']
  intro a
  simp only [cell, Vector.getElem_ofFn, List.getElem?_map, List.getD_eq_getElem?_getD]
  cases values[a.toNat]? with
  | none => simp [blank, Vector.get]
  | some value => simp [unsigned]

end Memory

end Microcore
