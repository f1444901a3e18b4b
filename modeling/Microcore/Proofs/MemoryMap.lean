/-
  Microcore/Proofs/MemoryMap.lean
  ===============================
  **Memories are maps.**  A memory of any length holds at each of its addresses what was put there last,
  or zero (`unsigned_afterAll`).  Whether an operation is refused depends on what it is given and on the
  length of the memory, never on what the memory holds (`perform_error_iff`), so the operations that count
  are known without the memory, and a refused one leaves every cell as it is.
-/
import Mathlib.Data.List.Induction
import Microcore.Proofs.Memory

namespace Microcore.Memory

variable {store : Store} {size : Nat}

/-! ### Operations -/

/-- What can be done to the cells of a memory.  Of programs, only whole images are loaded. -/
inductive Operation : Store → Type where
  | loadImage {store : Store} (image : List Int) : Operation store
  | put (address value : Int) : Operation .data
  | clear : Operation .data

def perform (m : Memory store size) : Operation store → Except MemoryFault (Memory store size)
  | .loadImage image => m.loadImage image
  | .put address value => m.put address value
  | .clear => .ok (blank _ size)

/-- A memory after an operation.  One that is refused leaves it as it is. -/
def after (m : Memory store size) (operation : Operation store) : Memory store size :=
  match m.perform operation with
  | .ok m' => m'
  | .error _ => m

def afterAll (m : Memory store size) (operations : List (Operation store)) : Memory store size :=
  operations.foldl after m

/-! ### What they put where -/

namespace Operation

/-- No memory of this size carries out the operation. -/
def Refused (size : Nat) : Operation store → Prop
  | loadImage image =>
    size < image.length ∨ ∃ value ∈ image, ¬(0 ≤ value ∧ value ≤ store.maxValue)
  | put address _ => ¬(0 ≤ address ∧ address < size)
  | clear => False

instance (size : Nat) (operation : Operation store) : Decidable (operation.Refused size) :=
  match operation with
  | loadImage image => inferInstanceAs (Decidable
      (size < image.length ∨ ∃ value ∈ image, ¬(0 ≤ value ∧ value ≤ store.maxValue)))
  | put address _ => inferInstanceAs (Decidable ¬(0 ≤ address ∧ address < size))
  | clear => inferInstanceAs (Decidable False)

/-- The value that the operation puts at an address, if it puts one there. -/
def puts? (a : Nat) : Operation store → Option Int
  | loadImage image => image[a]?
  | put address value => if address = a then some (value % 256) else none
  | clear => some 0

end Operation

/-- The value that was put at an address last by an operation that was not refused, or zero. -/
def latestPut (size : Nat) (operations : List (Operation store)) (a : Nat) : Int :=
  ((operations.filter fun op => ¬op.Refused size).filterMap (Operation.puts? a)).getLast?.getD 0

theorem latestPut_concat (operations : List (Operation store)) (op : Operation store) (a : Nat) :
    latestPut size (operations ++ [op]) a = if op.Refused size then latestPut size operations a
      else (op.puts? a).getD (latestPut size operations a) := by
  by_cases hrefused : op.Refused size
  · simp [latestPut, hrefused]
  · cases hputs : op.puts? a with
    | none => simp [latestPut, hrefused, hputs]
    | some value => simp [latestPut, hrefused, hputs]

/-! ### Single operations -/

section Operation

variable {operation : Operation store} (m : Memory store size)

theorem perform_of_refused (h : operation.Refused size) :
    ∃ fault, m.perform operation = .error fault := by
  cases operation with
  | loadImage image =>
    rw [perform, loadImage]
    by_cases hlong : size < image.length
    · rw [if_pos hlong]
      exact ⟨_, rfl⟩
    · rw [if_neg hlong]
      cases hwide : firstWide? store image with
      | some entry => exact ⟨_, rfl⟩
      | none =>
        obtain ⟨value, hvalue, hbad⟩ := h.resolve_left hlong
        exact absurd (firstWide?_eq_none_iff.mp hwide value hvalue) hbad
  | put address value =>
    rw [perform, put, dif_neg h]
    exact ⟨_, rfl⟩
  | clear => exact h.elim

/-- An operation that is not refused changes the cells that it puts values in, and no others. -/
theorem perform_of_not_refused (h : ¬operation.Refused size) :
    ∃ m', m.perform operation = .ok m' ∧ ∀ a (ha : a < size),
      unsigned m'.cells[a] = (operation.puts? a).getD (unsigned m.cells[a]) := by
  cases operation with
  | loadImage image =>
    have hlength : ¬size < image.length := fun hlong => h (.inl hlong)
    have hrange : ∀ value ∈ image, 0 ≤ value ∧ value ≤ store.maxValue := by
      intro value hvalue
      by_contra hbad
      exact h (.inr ⟨value, hvalue, hbad⟩)
    simp only [perform, loadImage, if_neg hlength, firstWide?_eq_none_iff.mpr hrange,
      Except.ok.injEq, exists_eq_left']
    intro a ha
    simp only [Vector.getElem_ofFn, Operation.puts?]
    cases hvalue : image[a]? with
    | none => rfl
    | some value =>
      exact unsigned_ofInt_of_fits (hrange value (List.mem_of_getElem? hvalue))
  | put address value =>
    have hin : 0 ≤ address ∧ address < size := not_not.mp h
    simp only [perform, put, dif_pos hin, Except.ok.injEq, exists_eq_left', Operation.puts?]
    intro a ha
    rw [Vector.getElem_set]
    by_cases hat : address = a
    · rw [if_pos (by omega), if_pos hat]
      exact unsigned_byte_ofInt value
    · rw [if_neg (by omega), if_neg hat]
      rfl
  | clear =>
    refine ⟨_, rfl, ?_⟩
    intro a ha
    simp [blank, unsigned, Operation.puts?]

/-- **Refusals are exact.**  What a memory holds has no part in them. -/
theorem perform_error_iff :
    (∃ fault, m.perform operation = .error fault) ↔ operation.Refused size := by
  constructor
  · rintro ⟨fault, hfault⟩
    by_contra h
    obtain ⟨m', hm', -⟩ := m.perform_of_not_refused h
    rw [hfault] at hm'
    cases hm'
  · exact m.perform_of_refused

theorem after_of_refused (h : operation.Refused size) : m.after operation = m := by
  obtain ⟨fault, hfault⟩ := m.perform_of_refused h
  rw [after, hfault]

theorem unsigned_after {a : Nat} (ha : a < size) : unsigned (m.after operation).cells[a] =
    if operation.Refused size then unsigned m.cells[a]
    else (operation.puts? a).getD (unsigned m.cells[a]) := by
  by_cases h : operation.Refused size
  · rw [if_pos h]
    simp only [m.after_of_refused h]
  · obtain ⟨m', hm', hcells⟩ := m.perform_of_not_refused h
    rw [if_neg h, ← hcells a ha]
    simp only [after, hm']

end Operation

/-! ### Sequences of operations -/

theorem afterAll_concat (m : Memory store size) (operations : List (Operation store))
    (operation : Operation store) :
    m.afterAll (operations ++ [operation]) = (m.afterAll operations).after operation :=
  List.foldl_append

/-- **A memory holds what was put there last.** -/
theorem unsigned_afterAll (operations : List (Operation store)) {a : Nat} (ha : a < size) :
    unsigned ((blank store size).afterAll operations).cells[a] = latestPut size operations a := by
  induction operations using List.reverseRecOn with
  | nil => simp [afterAll, blank, unsigned, latestPut]
  | append_singleton operations operation ih =>
    simp only [afterAll_concat, unsigned_after, latestPut_concat, ih]

/-- What a memory answers after operations, as a map from addresses to the values put there. -/
structure Answers (m : Memory store size) (operations : List (Operation store)) : Prop where
  /-- A load gives the value of an address in the memory, and fails at any other. -/
  load (address : Int) : (∃ value, m.load address = .ok value) ↔ 0 ≤ address ∧ address < size
  value (a : Nat) : a < size →
    ∃ value, m.load a = .ok value ∧ unsigned value = latestPut size operations a
  /-- An operation is refused for what it is given, and then changes nothing. -/
  refused (operation : Operation store) :
    (∃ fault, m.perform operation = .error fault) ↔ operation.Refused size
  kept (operation : Operation store) : operation.Refused size → m.after operation = m
  /-- A snapshot has the value of each address, and all of them are in range. -/
  snapshot : m.toList.map (fun n : Nat => (n : Int)) = (List.range size).map (latestPut size operations)
  bounded : ∀ n ∈ m.toList, (n : Int) ≤ store.maxValue

theorem load_eq_ok_iff (m : Memory store size) (address : Int) :
    (∃ value, m.load address = .ok value) ↔ 0 ≤ address ∧ address < size := by
  rw [load]
  split
  · next h => exact iff_of_true ⟨_, rfl⟩ h
  · next h =>
    refine iff_of_false ?_ h
    rintro ⟨_, hload⟩
    cases hload

theorem load_natCast (m : Memory store size) {a : Nat} (ha : a < size) :
    m.load a = .ok m.cells[a] := by
  have hin : 0 ≤ (a : Int) ∧ (a : Int) < size := by omega
  rw [load, dif_pos hin]
  rfl

theorem toList_eq (m : Memory store size) :
    m.toList.map (fun n : Nat => (n : Int)) = m.cells.toList.map unsigned := by
  rw [toList, List.map_map]
  rfl

/-- **Memories behave as maps.**  Of every length up to that of the address space there is a memory, and
    whatever is done to it, it holds at each address what was put there last, or zero; loads outside it
    fail, operations are refused for what they are given alone, and a refused one changes nothing. -/
theorem memory_is_map (store : Store) {length : Nat} (h : 1 ≤ length ∧ length ≤ 256) :
    ∃ m : Memory store length, ofLength? store length = .ok ⟨length, m⟩ ∧
      ∀ operations, (m.afterAll operations).Answers operations := by
  have hlength : 0 < (length : Int) ∧ (length : Int) ≤ addressSpace := by
    rw [addressSpace]
    omega
  refine ⟨blank store length, dif_pos hlength, ?_⟩
  intro operations
  have hcells := fun a ha => @unsigned_afterAll store length operations a ha
  constructor
  · exact load_eq_ok_iff _
  · intro a ha
    exact ⟨_, load_natCast _ ha, hcells a ha⟩
  · intro operation
    exact perform_error_iff _
  · intro operation
    exact after_of_refused _
  · rw [toList_eq]
    apply List.ext_getElem
    · simp
    · intro a _ _
      simp [hcells]
  · intro n hn
    obtain ⟨value, -, rfl⟩ := List.mem_map.mp hn
    exact unsigned_le_maxValue value

/-- Three bytes, with an image that is refused for its last value and one that leaves two bytes alone. -/
theorem refusing_memory_is_map :
    let operations : List (Operation .data) :=
      [.put 1 0x1FF, .loadImage [7, 8, 256], .put 3 1, .put 2 (-1), .loadImage [5]]
    (1 ≤ 3 ∧ 3 ≤ 256) ∧ ∃ m : Memory .data 3, ofLength? .data (3 : Nat) = .ok ⟨3, m⟩ ∧
      (m.afterAll operations).Answers operations ∧
        (List.range 3).map (latestPut 3 operations) = [5, 0xFF, 0xFF] := by
  intro operations
  have hlength : 1 ≤ 3 ∧ 3 ≤ 256 := by decide
  obtain ⟨m, hm, hanswers⟩ := memory_is_map .data hlength
  exact ⟨hlength, m, hm, hanswers operations, by decide⟩

end Microcore.Memory
