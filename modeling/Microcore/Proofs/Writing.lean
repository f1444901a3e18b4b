/-
  Microcore/Proofs/Writing.lean
  =============================
  **Memories that are written in place.**  A store checks its address, reports and then sets the cell; an
  image is checked value by value and then laid over the cells.  What is refused stops before the first
  cell is set, and what is not refused ends with the memory of `Memory.perform` (`run_carryOut`), so after
  any operations the memory is the one that `Memory.afterAll` describes (`held_carryOutAll`).
-/
import Microcore.Proofs.Events
import Microcore.Proofs.MemoryMap

namespace Microcore.Memory

variable {store : Store} {size : Nat}

/-! ### Cells -/

/-- Set a cell to the low bits of a value. -/
def writeCell (offset : Fin size) (value : Int) (m : Memory store size) : Memory store size :=
  ⟨m.cells.set offset (BitVec.ofInt store.width value) offset.isLt⟩

/-- Lay an image over the first cells. -/
def overlay (image : List Int) (m : Memory store size) : Memory store size :=
  ⟨Vector.ofFn fun i => match image[i.val]? with
    | some value => BitVec.ofInt store.width value
    | none => m.cells.get i⟩

theorem toNat_lt_of_mem {address : Int} (h : 0 ≤ address ∧ address < size) :
    address.toNat < size := (Int.toNat_lt h.1).mpr h.2

def offset? (size : Nat) (address : Int) : Except MemoryFault (Fin size) :=
  if h : 0 ≤ address ∧ address < size then .ok ⟨address.toNat, toNat_lt_of_mem h⟩
  else .error (.address address size)

theorem put_eq (m : Memory store size) (address value : Int) :
    m.put address value = (offset? size address).map fun offset => m.writeCell offset value := by
  by_cases h : 0 ≤ address ∧ address < size
  · rw [put, dif_pos h, offset?, dif_pos h]
    rfl
  · rw [put, dif_neg h, offset?, dif_neg h]
    rfl

theorem loadImage_eq (m : Memory store size) (image : List Int) : m.loadImage image =
    if size < image.length then .error (.imageLength store image.length size)
    else match firstWide? store image with
      | some (value, address) => .error (.valueWidth store value address)
      | none => .ok (m.overlay image) := rfl

/-! ### Programs -/

def checkValue (store : Store) (address : Nat) (value : Int) : Except MemoryFault PUnit :=
  if fits store value then .ok ⟨⟩ else .error (.valueWidth store value address)

/-- Check the values of an image one after the other, the first of which is for the given address. -/
def checkValues (address : Nat) : List Int → Printing MemoryFault (Memory store size) PUnit
  | [] => pure ⟨⟩
  | value :: rest => do
    Printing.attempt (checkValue store address value)
    checkValues (address + 1) rest

def checkLength (store : Store) (size : Nat) (image : List Int) : Except MemoryFault PUnit :=
  if size < image.length then .error (.imageLength store image.length size) else .ok ⟨⟩

def writeImage (image : List Int) : Printing MemoryFault (Memory store size) PUnit := do
  Printing.attempt (checkLength store size image)
  checkValues 0 image
  Printing.update (overlay image)

variable (filter : Log.Filter) (host : Host)

/-- Store a byte.  The report comes before the cell is set. -/
def printPut (address value : Int) : Printing MemoryFault (DataMemory size) PUnit := do
  let offset ← Printing.attempt (offset? size address)
  Printing.report filter host (Machine.Event.stored address value).report
  Printing.update (writeCell offset value)

def carryOut : Operation store → Printing MemoryFault (Memory store size) PUnit
  | .loadImage image => writeImage image
  | .put address value => printPut filter host address value
  | .clear => Printing.update fun _ => blank .data size

/-- Carry out operations one after the other.  One that is refused does not keep the others from being
    carried out. -/
def carryOutAll (c : Console (Memory store size)) (operations : List (Operation store)) :
    Console (Memory store size) :=
  operations.foldl (fun c operation =>
    match (carryOut filter host operation).run c with
    | .ok _ c' => c'
    | .error _ c' => c') c

/-! ### What they do -/

theorem run_checkValues (image : List Int) (address : Nat) (c : Console (Memory store size)) :
    (checkValues address image).run c =
      match (image.zipIdx address).find? fun entry => !fits store entry.1 with
      | none => .ok ⟨⟩ c
      | some (value, wide) => .error (.refused (.valueWidth store value wide)) c := by
  induction image generalizing address with
  | nil => simp [checkValues]
  | cons value rest ih =>
    rw [List.zipIdx_cons, List.find?_cons]
    cases hfits : fits store value with
    | true => simp [checkValues, checkValue, hfits, ih]
    | false => simp [checkValues, checkValue, hfits]

theorem run_writeImage (image : List Int) (c : Console (Memory store size)) :
    (writeImage image).run c = Printing.settled (c.held.loadImage image) "" c := by
  rw [loadImage_eq]
  by_cases hlong : size < image.length
  · simp [writeImage, checkLength, hlong]
  · have hvalues := run_checkValues image 0 c
    rw [if_neg hlong, firstWide?]
    cases hwide : image.zipIdx.find? fun entry => !fits store entry.1 with
    | none =>
      rw [hwide] at hvalues
      simp [writeImage, checkLength, hlong, hvalues]
    | some entry =>
      rw [hwide] at hvalues
      simp [writeImage, checkLength, hlong, hvalues]

theorem run_printPut (address value : Int) (c : Console (DataMemory size)) :
    (printPut filter host address value).run c =
      Printing.settled (c.held.put address value) (Machine.shown filter [.stored address value]) c := by
  rw [put_eq]
  cases hoffset : offset? size address with
  | ok offset => simp [printPut, hoffset, Except.map, Machine.run_report]
  | error fault => simp [printPut, hoffset, Except.map]

/-- What is reported of an operation that is not refused. -/
def Operation.events : Operation store → List Machine.Event
  | put address value => [.stored address value]
  | loadImage _ | clear => []

/-- **An operation in place does what it does at once.**  One that is refused sets no cell and reports
    nothing. -/
theorem run_carryOut (operation : Operation store) (c : Console (Memory store size)) :
    (carryOut filter host operation).run c =
      Printing.settled (c.held.perform operation) (Machine.shown filter operation.events) c := by
  cases operation with
  | put address value => exact run_printPut filter host address value c
  | loadImage image => exact run_writeImage image c
  | clear => simp [carryOut, perform, Operation.events, Machine.shown_nil]

/-- **Operations in place lead to the memory that they describe,** whatever is printed meanwhile. -/
theorem held_carryOutAll (operations : List (Operation store)) (c : Console (Memory store size)) :
    (carryOutAll filter host c operations).held = c.held.afterAll operations := by
  induction operations generalizing c with
  | nil => rfl
  | cons operation rest ih =>
    rw [carryOutAll, List.foldl_cons, afterAll, List.foldl_cons]
    refine (ih _).trans ?_
    congr 1
    rw [run_carryOut, after]
    cases c.held.perform operation <;> rfl

end Microcore.Memory
