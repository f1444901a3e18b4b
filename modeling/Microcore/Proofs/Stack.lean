/-
  Microcore/Proofs/Stack.lean
  ===========================
  **The index modes give a stack.**  A byte is pushed by storing it where the register points once it is
  decremented, and popped by loading from where the register points before it is incremented.  The bytes
  on the stack then lie in a row from the register on, around the end of memory if need be
  (`Holds.cells`), and a push does not reach the other end of the row as long as no more than 256 bytes
  are on the stack.  So each pop gives the byte of the push that it matches
  (`index_modes_give_stack`).
-/
import Mathlib.Data.List.Induction
import Mathlib.Data.List.Infix
import Microcore.Proofs.Edge

namespace Microcore.Stack

/-- What is done to a stack. -/
inductive Operation where
  | push (byte : Byte)
  | pop
deriving DecidableEq, Repr

/-! ### Operations through an index register -/

/-- The operand of which the register is decremented first. -/
def pushOperand : IndexRegister → Byte
  | .ix => 0xFE
  | .iy => 0xFF

/-- The operand of which the register is incremented afterwards. -/
def popOperand : IndexRegister → Byte
  | .ix => 0xFC
  | .iy => 0xFD

/-- The registers and the data memory after some operations, with what each operation answered and
    the addresses that were written, in order. -/
structure Run where
  registers : IndexRegisters
  ram : DataMemory addressSpace
  answers : List (Option Byte) := []
  written : List Int := []

def perform (r : IndexRegister) (run : Run) : Operation → Except MemoryFault Run
  | .push byte => do
    let target := resolve (pushOperand r) run.registers
    let ram ← run.ram.put target.address (unsigned byte)
    return { registers := target.registers, ram, answers := run.answers ++ [none]
             written := run.written ++ [target.address] }
  | .pop => do
    let target := resolve (popOperand r) run.registers
    let byte ← run.ram.load target.address
    return { run with registers := target.registers, answers := run.answers ++ [some byte] }

def performAll (r : IndexRegister) (run : Run) (operations : List Operation) :
    Except MemoryFault Run :=
  operations.foldlM (perform r) run

/-! ### Depth and matching -/

def Operation.change : Operation → Int
  | push _ => 1
  | pop => -1

/-- How many more bytes were pushed than popped. -/
def depth (operations : List Operation) : Int :=
  operations.foldl (fun depth op => depth + op.change) 0

/-- The greatest depth that is reached on the way. -/
def greatestDepth (operations : List Operation) : Int := (operations.inits.map depth).foldl max 0

/-- Nothing is popped from an empty stack, and no byte is pushed on a full one. -/
def Fits (operations : List Operation) : Prop :=
  ∀ before, before <+: operations → 0 ≤ depth before ∧ depth before ≤ 256

instance : DecidablePred Fits := fun operations =>
  decidable_of_iff (∀ before ∈ operations.inits, 0 ≤ depth before ∧ depth before ≤ 256) <| by
    simp only [List.mem_inits, Fits]

/-- Operations in which each push is matched by a pop behind it, and each pop by a push. -/
inductive Balanced : List Operation → Prop where
  | nil : Balanced []
  | pair (byte : Byte) {inner rest : List Operation} (hinner : Balanced inner)
      (hrest : Balanced rest) : Balanced (.push byte :: inner ++ .pop :: rest)

@[simp] theorem depth_concat (operations : List Operation) (op : Operation) :
    depth (operations ++ [op]) = depth operations + op.change := by
  simp [depth]

theorem greatestDepth_concat (operations : List Operation) (op : Operation) :
    greatestDepth (operations ++ [op]) =
      max (greatestDepth operations) (depth (operations ++ [op])) := by
  simp [greatestDepth, List.inits_append]

theorem depth_le_greatestDepth (operations : List Operation) :
    depth operations ≤ greatestDepth operations := by
  cases operations using List.reverseRecOn with
  | nil => decide
  | append_singleton operations op =>
    rw [greatestDepth_concat]
    exact Int.le_max_right _ _

theorem Fits.of_prefix {before operations : List Operation} (h : Fits operations)
    (hbefore : before <+: operations) : Fits before :=
  fun first hfirst => h first (hfirst.trans hbefore)

theorem Fits.depth {operations : List Operation} (h : Fits operations) :
    0 ≤ depth operations ∧ depth operations ≤ 256 :=
  h operations List.prefix_rfl

/-! ### The bytes on a stack -/

def Operation.act (stack : List Byte) : Operation → List Byte
  | push byte => byte :: stack
  | pop => stack.tail

/-- The bytes that were pushed and not yet popped, the latest one first. -/
def contents (operations : List Operation) : List Byte := operations.foldl Operation.act []

/-- What an operation answers behind others: a pop gives the latest byte. -/
def answer (before : List Operation) : Operation → Option Byte
  | .push _ => none
  | .pop => (contents before).head?

@[simp] theorem contents_concat (operations : List Operation) (op : Operation) :
    contents (operations ++ [op]) = op.act (contents operations) := by
  simp [contents]

theorem length_contents {operations : List Operation} (h : Fits operations) :
    ((contents operations).length : Int) = depth operations := by
  induction operations using List.reverseRecOn with
  | nil => rfl
  | append_singleton operations op ih =>
    have hlength := ih (h.of_prefix (List.prefix_append _ _))
    have hdepth := h.depth
    rw [depth_concat] at hdepth ⊢
    rw [contents_concat]
    cases op with
    | push byte =>
      simp only [Operation.act, List.length_cons, Operation.change]
      omega
    | pop =>
      simp only [Operation.act, List.length_tail, Operation.change] at hdepth ⊢
      omega

/-! ### Matching pushes -/

theorem Balanced.append {first second : List Operation} (hfirst : Balanced first)
    (hsecond : Balanced second) : Balanced (first ++ second) := by
  induction hfirst with
  | nil => exact hsecond
  | pair byte hinner _ _ ih =>
    rw [List.append_assoc, List.cons_append]
    exact .pair byte hinner ih

/-- Balanced operations leave a stack as it was. -/
theorem Balanced.foldl_act {operations : List Operation} (h : Balanced operations)
    (stack : List Byte) : operations.foldl Operation.act stack = stack := by
  induction h generalizing stack with
  | nil => rfl
  | pair byte _ _ hinner hrest =>
    simp only [List.cons_append, List.foldl_cons, List.foldl_append, hinner, Operation.act,
      List.tail_cons, hrest]

/-- Behind balanced operations the latest byte is the one in front of them. -/
theorem contents_of_balanced (outer : List Operation) (byte : Byte) {inner : List Operation}
    (h : Balanced inner) : contents (outer ++ .push byte :: inner) = byte :: contents outer := by
  simp only [contents, List.foldl_append, List.foldl_cons, h.foldl_act, Operation.act]

/-- **The latest byte has its push,** with balanced operations behind it. -/
theorem exists_push {operations : List Operation} {byte : Byte} {rest : List Byte}
    (h : contents operations = byte :: rest) : ∃ outer inner,
      operations = outer ++ .push byte :: inner ∧ Balanced inner ∧ contents outer = rest := by
  -- a pop at the end takes a later byte, and this one was pushed in front of the push of that byte
  induction hlength : operations.length using Nat.strong_induction_on
    generalizing operations byte rest with
  | _ n ih =>
    cases operations using List.reverseRecOn with
    | nil => cases h
    | append_singleton operations op =>
      rw [contents_concat] at h
      rw [List.length_append, List.length_singleton] at hlength
      cases op with
      | push latest =>
        cases h
        exact ⟨operations, [], rfl, .nil, rfl⟩
      | pop =>
        obtain ⟨later, hlater⟩ : ∃ later, contents operations = later :: byte :: rest := by
          cases hcontents : contents operations with
          | nil =>
            rw [hcontents] at h
            cases h
          | cons later more =>
            rw [hcontents] at h
            exact ⟨later, congrArg _ h⟩
        obtain ⟨middle, last, rfl, hlast, hmiddle⟩ := ih _ (by omega) hlater rfl
        rw [List.length_append, List.length_cons] at hlength
        obtain ⟨outer, inner, rfl, hinner, houter⟩ := ih _ (by omega) hmiddle rfl
        refine ⟨outer, inner ++ (.push later :: last ++ .pop :: []), ?_, ?_, houter⟩
        · simp
        · exact hinner.append (.pair later hlast .nil)

/-! ### One operation -/

theorem byte_ofInt_eq_iff {x y : Int} : Byte.ofInt x = Byte.ofInt y ↔ x % 256 = y % 256 := by
  rw [← unsigned_inj, unsigned_byte_ofInt, unsigned_byte_ofInt]

section Perform

variable (r : IndexRegister) (run : Run)

/-- A byte is pushed where the register points once it is decremented. -/
theorem perform_push (byte : Byte) :
    perform r run (.push byte) = .ok
      { registers := run.registers.set r (run.registers.get r - 1)
        ram := run.ram.withCell (Byte.ofInt (run.registers.get r - 1)) byte
        answers := run.answers ++ [none]
        written := run.written ++ [(run.registers.get r - 1) % 256] } := by
  have hresolve : resolve (pushOperand r) run.registers =
      ⟨unsigned (Byte.ofInt (run.registers.get r - 1)), .preDecrement,
        run.registers.set r (run.registers.get r - 1)⟩ := by
    cases r <;> rfl
  have hbyte : BitVec.ofInt Store.data.width (unsigned byte) = byte := byte_ofInt_unsigned byte
  have hput := run.ram.put_eq_withCell (unsigned_byte_mem (Byte.ofInt (run.registers.get r - 1)))
    (unsigned byte)
  rw [byte_ofInt_unsigned, hbyte] at hput
  rw [← unsigned_byte_ofInt]
  simp only [perform, hresolve, hput]
  rfl

/-- A byte is popped from where the register points before it is incremented. -/
theorem perform_pop (h : 0 ≤ run.registers.get r ∧ run.registers.get r < 256) :
    perform r run .pop = .ok
      { run with
        registers := run.registers.set r (run.registers.get r + 1)
        answers := run.answers ++ [some (run.ram.cell (Byte.ofInt (run.registers.get r)))] } := by
  have hresolve : resolve (popOperand r) run.registers =
      ⟨run.registers.get r, .postIncrement, run.registers.set r (run.registers.get r + 1)⟩ := by
    cases r <;> rfl
  simp only [perform, hresolve, Memory.load_eq_cell _ h]
  rfl

end Perform

/-! ### Bytes in a row -/

/-- Bytes lie one after the other from an address on, around the end of memory if need be. -/
def LiesAt (ram : DataMemory addressSpace) (top : Int) (bytes : List Byte) : Prop :=
  ∀ (j : Nat) (byte : Byte), bytes[j]? = some byte → ram.cell (Byte.ofInt (top + j)) = byte

section LiesAt

variable {ram : DataMemory addressSpace} {top : Int} {bytes : List Byte}

theorem LiesAt.head {byte : Byte} (h : LiesAt ram top (byte :: bytes)) :
    ram.cell (Byte.ofInt top) = byte := by
  have hcell := h 0 byte rfl
  rwa [Int.natCast_zero, Int.add_zero] at hcell

theorem LiesAt.tail (h : LiesAt ram top bytes) : LiesAt ram (top + 1) bytes.tail := by
  intro j byte hbyte
  rw [List.getElem?_tail] at hbyte
  rw [← h (j + 1) byte hbyte]
  congr 2
  push_cast
  omega

/-- A byte is put in front of at most 255 others without meeting any of them. -/
theorem LiesAt.cons (h : LiesAt ram top bytes) (hroom : bytes.length < 256) (byte : Byte) :
    LiesAt (ram.withCell (Byte.ofInt (top - 1)) byte) (top - 1) (byte :: bytes) := by
  intro j found hfound
  rw [Memory.cell_withCell]
  cases j with
  | zero =>
    cases hfound
    rw [if_pos (by rw [Int.natCast_zero, Int.add_zero])]
  | succ j =>
    rw [List.getElem?_cons_succ] at hfound
    have hj := (List.getElem?_eq_some_iff.mp hfound).1
    have hbehind : top - 1 + (j + 1 : Nat) = top + j := by omega
    rw [hbehind, if_neg, h j found hfound]
    rw [byte_ofInt_eq_iff]
    omega

end LiesAt

/-! ### The cells that are written -/

/-- The addresses below a start that the stack reaches. -/
def Reached (start : Int) (operations : List Operation) (a : Int) : Prop :=
  ∃ j, 1 ≤ j ∧ j ≤ greatestDepth operations ∧ a = (start - j) % 256

theorem not_reached_nil (start a : Int) : ¬Reached start [] a := by
  have hzero : greatestDepth [] = 0 := rfl
  rintro ⟨j, hj, hj', -⟩
  omega

/-- A push reaches one address below those of the bytes on the stack. -/
theorem reached_push_iff {operations : List Operation} (h : 0 ≤ depth operations) (start : Int)
    (byte : Byte) (a : Int) : Reached start (operations ++ [.push byte]) a ↔
      Reached start operations a ∨ a = (start - (depth operations + 1)) % 256 := by
  have hle := depth_le_greatestDepth operations
  have hgreatest : greatestDepth (operations ++ [.push byte]) =
      max (greatestDepth operations) (depth operations + 1) := by
    rw [greatestDepth_concat, depth_concat, Operation.change]
  rw [Reached, hgreatest]
  constructor
  · rintro ⟨j, hj, hj', rfl⟩
    by_cases hreached : j ≤ greatestDepth operations
    · exact .inl ⟨j, hj, hreached, rfl⟩
    · have hlast : j = depth operations + 1 := by omega
      exact .inr (by rw [hlast])
  · rintro (⟨j, hj, hj', rfl⟩ | rfl)
    · exact ⟨j, hj, by omega, rfl⟩
    · exact ⟨depth operations + 1, by omega, by omega, rfl⟩

theorem reached_pop_iff (start : Int) (operations : List Operation) (a : Int) :
    Reached start (operations ++ [.pop]) a ↔ Reached start operations a := by
  have hle := depth_le_greatestDepth operations
  have hgreatest : greatestDepth (operations ++ [.pop]) = greatestDepth operations := by
    rw [greatestDepth_concat, depth_concat, Operation.change]
    omega
  rw [Reached, Reached, hgreatest]

/-! ### The stack in memory -/

/-- What operations through a register do to the registers and to memory. -/
structure Effect (r : IndexRegister) (start : IndexRegisters) (ram : DataMemory addressSpace)
    (operations : List Operation) (run : Run) : Prop where
  /-- The register is as far below its start as there are bytes on the stack. -/
  register : run.registers.get r = (start.get r - depth operations) % 256
  other : ∀ s, s ≠ r → run.registers.get s = start.get s
  written : ∀ a, a ∈ run.written ↔ Reached (start.get r) operations a
  kept : ∀ a, unsigned a ∉ run.written → run.ram.cell a = ram.cell a

/-- What holds behind operations that fit: the bytes on the stack lie from the register on, and each
    operation was answered as on a stack. -/
structure Holds (r : IndexRegister) (start : IndexRegisters) (ram : DataMemory addressSpace)
    (operations : List Operation) (run : Run) : Prop extends Effect r start ram operations run where
  cells : LiesAt run.ram (start.get r - depth operations) (contents operations)
  length_answers : run.answers.length = operations.length
  answers : ∀ (i : Nat) (op : Operation), operations[i]? = some op →
    run.answers[i]? = some (answer (operations.take i) op)

section Steps

variable {r : IndexRegister} {start : IndexRegisters} {ram : DataMemory addressSpace}
  {operations : List Operation} {run : Run}

theorem holds_start (h : start.InRange) : Holds r start ram [] { registers := start, ram } where
  register := by
    have hrange := h.get r
    have hzero : depth [] = 0 := rfl
    simp only [hzero]
    omega
  other _ _ := rfl
  written a := iff_of_false List.not_mem_nil (not_reached_nil _ a)
  kept _ _ := rfl
  cells j byte hbyte := by cases hbyte
  length_answers := rfl
  answers i op hop := by cases hop

/-- One more answer is the answer to one more operation. -/
theorem answers_concat {answers : List (Option Byte)} {op : Operation}
    (hlength : answers.length = operations.length)
    (h : ∀ (i : Nat) (op : Operation), operations[i]? = some op →
      answers[i]? = some (answer (operations.take i) op)) (i : Nat) (found : Operation)
    (hfound : (operations ++ [op])[i]? = some found) :
    (answers ++ [answer operations op])[i]? =
      some (answer ((operations ++ [op]).take i) found) := by
  rcases Nat.lt_or_ge i operations.length with hlt | hge
  · rw [List.getElem?_append_left hlt] at hfound
    rw [List.getElem?_append_left (hlength ▸ hlt), List.take_append_of_le_length (Nat.le_of_lt hlt)]
    exact h i found hfound
  · have hi : i = operations.length := by
      have hbound := (List.getElem?_eq_some_iff.mp hfound).1
      rw [List.length_append, List.length_singleton] at hbound
      omega
    subst hi
    rw [List.getElem?_concat_length] at hfound
    cases hfound
    rw [← hlength, List.getElem?_concat_length, hlength, List.take_left]

/-- Bytes lie from a register on wherever it points modulo the address space. -/
theorem Holds.cell_register (h : Holds r start ram operations run) :
    Byte.ofInt (run.registers.get r) = Byte.ofInt (start.get r - depth operations) := by
  rw [byte_ofInt_eq_iff, h.register, Int.emod_emod_of_dvd _ (Int.dvd_refl 256)]

/-- **A push keeps the stack in memory.** -/
theorem Holds.push (h : Holds r start ram operations run) {byte : Byte}
    (hfits : Fits (operations ++ [.push byte])) :
    Holds r start ram (operations ++ [.push byte])
      { registers := run.registers.set r (run.registers.get r - 1)
        ram := run.ram.withCell (Byte.ofInt (run.registers.get r - 1)) byte
        answers := run.answers ++ [none]
        written := run.written ++ [(run.registers.get r - 1) % 256] } := by
  have hbefore := hfits.of_prefix (List.prefix_append operations _)
  have hdepth : depth (operations ++ [.push byte]) = depth operations + 1 := depth_concat _ _
  have hroom := hfits.depth
  have hregister := h.register
  have hlength := length_contents hbefore
  have htop : start.get r - depth (operations ++ [.push byte]) = start.get r - depth operations - 1 := by
    omega
  have hcell : Byte.ofInt (run.registers.get r - 1) =
      Byte.ofInt (start.get r - depth operations - 1) := by
    rw [byte_ofInt_eq_iff]
    omega
  refine
    { register := ?register, other := ?other, written := ?written, kept := ?kept, cells := ?cells
      length_answers := by simp [h.length_answers]
      answers := answers_concat h.length_answers h.answers }
  case register =>
    rw [IndexRegisters.get_set_self, hdepth]
    omega
  case other =>
    intro s hs
    rw [IndexRegisters.get_set_of_ne _ _ hs]
    exact h.other s hs
  case written =>
    intro a
    have hlast : (run.registers.get r - 1) % 256 = (start.get r - (depth operations + 1)) % 256 := by
      omega
    rw [List.mem_append, List.mem_singleton, h.written, hlast, reached_push_iff hbefore.depth.1]
  case kept =>
    intro a ha
    rw [List.mem_append, List.mem_singleton, not_or] at ha
    rw [Memory.cell_withCell, if_neg]
    · exact h.kept a ha.1
    · rintro rfl
      exact ha.2 (unsigned_byte_ofInt _)
  case cells =>
    rw [contents_concat, htop, hcell]
    exact h.cells.cons (by omega) byte

/-- **A pop keeps the stack in memory,** and gives the latest byte on it. -/
theorem Holds.pop (h : Holds r start ram operations run)
    (hfits : Fits (operations ++ [.pop])) :
    Holds r start ram (operations ++ [.pop])
      { run with
        registers := run.registers.set r (run.registers.get r + 1)
        answers := run.answers ++ [some (run.ram.cell (Byte.ofInt (run.registers.get r)))] } := by
  have hbefore := hfits.of_prefix (List.prefix_append operations _)
  have hdepth : depth (operations ++ [.pop]) = depth operations - 1 := depth_concat _ _
  have hroom := hfits.depth
  have hregister := h.register
  have hlength := length_contents hbefore
  have htop : start.get r - depth (operations ++ [.pop]) = start.get r - depth operations + 1 := by
    omega
  have hlatest : some (run.ram.cell (Byte.ofInt (run.registers.get r))) = answer operations .pop := by
    have hcells := h.cells
    rw [h.cell_register, answer]
    cases hcontents : contents operations with
    | nil =>
      rw [hcontents, List.length_nil] at hlength
      omega
    | cons latest rest =>
      rw [hcontents] at hcells
      rw [hcells.head, List.head?_cons]
  refine
    { register := ?register, other := ?other, written := ?written, kept := h.kept, cells := ?cells
      length_answers := by simp [h.length_answers]
      answers := ?answers }
  case register =>
    rw [IndexRegisters.get_set_self, hdepth]
    omega
  case other =>
    intro s hs
    rw [IndexRegisters.get_set_of_ne _ _ hs]
    exact h.other s hs
  case written =>
    intro a
    rw [h.written, reached_pop_iff]
  case cells =>
    rw [contents_concat, htop]
    exact h.cells.tail
  case answers =>
    rw [hlatest]
    exact answers_concat h.length_answers h.answers

/-- **Operations that fit are carried out,** and leave the stack in memory. -/
theorem holds_performAll (hstart : start.InRange) (h : Fits operations) :
    ∃ run, performAll r { registers := start, ram } operations = .ok run ∧
      Holds r start ram operations run := by
  induction operations using List.reverseRecOn with
  | nil => exact ⟨_, rfl, holds_start hstart⟩
  | append_singleton operations op ih =>
    obtain ⟨run, hrun, hholds⟩ := ih (h.of_prefix (List.prefix_append _ _))
    rw [performAll] at hrun
    rw [performAll, List.foldlM_append, hrun]
    cases op with
    | push byte =>
      refine ⟨_, ?_, hholds.push h⟩
      show List.foldlM (perform r) run [.push byte] = _
      rw [List.foldlM_cons, perform_push]
      rfl
    | pop =>
      have hregister := hholds.register
      refine ⟨_, ?_, hholds.pop h⟩
      show List.foldlM (perform r) run [.pop] = _
      rw [List.foldlM_cons, perform_pop r run (by omega)]
      rfl

end Steps

/-! ### Last in, first out -/

/-- What operations through a register come to, from the contents of both registers and a memory. -/
structure IsStack (r : IndexRegister) (start : IndexRegisters) (ram : DataMemory addressSpace)
    (operations : List Operation) (run : Run) : Prop extends Effect r start ram operations run where
  /-- Each pop has a push that it matches, with balanced operations between them. -/
  matched : ∀ before after, operations = before ++ .pop :: after →
    ∃ outer byte inner, before = outer ++ .push byte :: inner ∧ Balanced inner
  /-- A pop gives the byte of the push that it matches. -/
  returned : ∀ outer byte inner after, Balanced inner →
    operations = outer ++ .push byte :: inner ++ .pop :: after →
    run.answers[(outer ++ .push byte :: inner).length]? = some (some byte)

/-- Where there is something to pop, it has its push. -/
theorem Fits.exists_push {before after : List Operation} (h : Fits (before ++ .pop :: after)) :
    ∃ outer byte inner, before = outer ++ .push byte :: inner ∧ Balanced inner := by
  have hbefore := h.of_prefix (List.prefix_append before _)
  have hpopped : Fits (before ++ [.pop]) := h.of_prefix ⟨after, by simp⟩
  have hdepth := hpopped.depth
  rw [depth_concat, Operation.change] at hdepth
  cases hcontents : contents before with
  | nil =>
    have hlength := length_contents hbefore
    rw [hcontents, List.length_nil] at hlength
    omega
  | cons byte rest =>
    obtain ⟨outer, inner, hpush, hinner, -⟩ := Stack.exists_push hcontents
    exact ⟨outer, byte, inner, hpush, hinner⟩

theorem Holds.isStack {r : IndexRegister} {start : IndexRegisters} {ram : DataMemory addressSpace}
    {operations : List Operation} {run : Run} (h : Holds r start ram operations run)
    (hfits : Fits operations) : IsStack r start ram operations run where
  toEffect := h.toEffect
  matched := by
    rintro before after rfl
    exact hfits.exists_push
  returned := by
    rintro outer byte inner after hinner rfl
    rw [h.answers _ .pop (by simp), List.take_left, answer, contents_of_balanced outer byte hinner,
      List.head?_cons]

/-- **The index modes give a stack.**  Bytes are pushed and popped through either register, from any
    start and never more than 256 at a time.  Then every operation is carried out, each pop gives the byte
    of the push that it matches, the register points to the latest byte and the other one stays, and no
    cell is written but those below the start that the stack reaches. -/
theorem index_modes_give_stack (r : IndexRegister) {start : IndexRegisters} (hstart : start.InRange)
    (ram : DataMemory addressSpace) {operations : List Operation} (h : Fits operations) :
    ∀ before, before <+: operations →
      ∃ run, performAll r { registers := start, ram } before = .ok run ∧
        IsStack r start ram before run := by
  intro before hbefore
  have hfits := h.of_prefix hbefore
  obtain ⟨run, hrun, hholds⟩ := @holds_performAll r start ram _ hstart hfits
  exact ⟨run, hrun, hholds.isStack hfits⟩

/-- A stack that begins at address 1 and so goes on at the end of memory. -/
theorem wrapping_stack :
    let start : IndexRegisters := ⟨0x40, 1⟩
    let ram : DataMemory addressSpace := .blank .data addressSpace
    let operations : List Operation := [.push 7, .push 8, .pop, .push 9, .pop, .pop]
    start.InRange ∧ Fits operations ∧ greatestDepth operations = 2 ∧
      ∃ run, performAll .iy { registers := start, ram } operations = .ok run ∧
        IsStack .iy start ram operations run := by
  intro start ram operations
  have hstart : start.InRange := ⟨by decide, by decide⟩
  have hfits : Fits operations := by decide
  exact ⟨hstart, hfits, by decide, index_modes_give_stack .iy hstart ram hfits operations List.prefix_rfl⟩

end Microcore.Stack
