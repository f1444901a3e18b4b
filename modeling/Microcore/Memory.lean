/-
  Microcore/Memory.lean
  =====================
  **The two memories.**  Programs and data live in separate memories of up to 256 cells.  Width and
  size are part of a memory's type, so every cell is in range and an operation can only fail on
  what it is given: an address outside the memory, an image that is too long, a value too wide.
-/
import Microcore.Word
import Microcore.Text.Numeral

namespace Microcore

/-- What a memory holds. -/
inductive Store where
  | data
  | program
deriving DecidableEq, Repr

@[reducible] def Store.width : Store → Nat
  | data => 8
  | program => 12

def addressSpace : Nat := 256

/-- A memory of `size` cells. -/
structure Memory (store : Store) (size : Nat) where
  cells : Vector (BitVec store.width) size
deriving DecidableEq, Repr

abbrev DataMemory := Memory .data

abbrev ProgramMemory := Memory .program

/-- Why a memory refuses an operation. -/
inductive MemoryFault where
  | length (store : Store) (length : Int)
  /-- A length out of range that has more digits than the host writes. -/
  | unshownLength (most : Nat)
  | address (address : Int) (size : Nat)
  | imageLength (store : Store) (length : Nat) (size : Nat)
  | valueWidth (store : Store) (value : Int) (address : Nat)
deriving DecidableEq, Repr

def MemoryFault.message : MemoryFault → String
  | length .data n => s!"data memory length {Numeral.decimal n} out of range (1-256)"
  | length .program n => s!"instruction memory length {Numeral.decimal n} out of range (1-256)"
  | unshownLength most => Numeral.tooLongMessage most
  | address a size =>
    s!"address {Numeral.hexMarked 4 a} outside region 0x00-{Numeral.hexMarked 4 (size - 1)}"
  | imageLength .data n size =>
    s!"data image of {Numeral.decimal n} bytes exceeds {Numeral.decimal size}-byte memory"
  | imageLength .program n size =>
    s!"program image of {Numeral.decimal n} words exceeds {Numeral.decimal size}-word memory"
  | valueWidth .data value a =>
    s!"value {Numeral.hexMarked 0 value} at {Numeral.hexMarked 4 a} is wider than 8 bits"
  | valueWidth .program value a =>
    s!"word {Numeral.hexMarked 0 value} at {Numeral.hexMarked 4 a} is wider than 12 bits"

/-- The refusal of a length. -/
def MemoryFault.ofLength (host : Host) (store : Store) (length : Int) : MemoryFault :=
  host.naming length (.length store) .unshownLength

namespace Memory

variable {store : Store} {size : Nat}

def blank (store : Store) (size : Nat) : Memory store size := ⟨Vector.replicate size 0⟩

def ofLength? (store : Store) (length : Int) (host : Host := .usual) :
    Except MemoryFault ((size : Nat) × Memory store size) :=
  if 0 < length ∧ length ≤ addressSpace then .ok ⟨length.toNat, blank store length.toNat⟩
  else .error (.ofLength host store length)

def load (m : Memory store size) (address : Int) : Except MemoryFault (BitVec store.width) :=
  if h : 0 ≤ address ∧ address < size then
    .ok (m.cells.get ⟨address.toNat, by omega⟩)
  else .error (.address address size)

/-- The memory with one cell changed to the low bits of a value. -/
def put (m : Memory store size) (address value : Int) : Except MemoryFault (Memory store size) :=
  if h : 0 ≤ address ∧ address < size then
    .ok ⟨m.cells.set address.toNat (BitVec.ofInt store.width value) (by omega)⟩
  else .error (.address address size)

def fits (store : Store) (value : Int) : Bool := 0 ≤ value && value < Int.pow 2 store.width

/-- The first value of an image that does not fit a cell, with its address. -/
def firstWide? (store : Store) (image : List Int) : Option (Int × Nat) :=
  image.zipIdx.find? fun entry => !fits store entry.1

/-- The memory with an image laid over its first cells.  The image is checked as a whole first. -/
def loadImage (m : Memory store size) (image : List Int) : Except MemoryFault (Memory store size) :=
  if size < image.length then .error (.imageLength store image.length size)
  else match firstWide? store image with
    | some (value, address) => .error (.valueWidth store value address)
    | none =>
      .ok ⟨Vector.ofFn fun i => match image[i.val]? with
        | some value => BitVec.ofInt store.width value
        | none => m.cells.get i⟩

def toList (m : Memory store size) : List Nat := m.cells.toList.map BitVec.toNat

/-! ### The memory as a map -/

def get? (m : Memory store size) (address : Int) : Option (BitVec store.width) :=
  (m.load address).toOption

theorem get?_eq (m : Memory store size) (address : Int) :
    m.get? address = if h : 0 ≤ address ∧ address < size then
      some (m.cells.get ⟨address.toNat, by omega⟩) else none := by
  simp only [get?, load]
  split <;> rfl

theorem get?_blank (address : Int) :
    (blank store size).get? address = if 0 ≤ address ∧ address < size then some 0 else none := by
  simp only [get?_eq, blank, Vector.get]
  split <;> simp_all

end Memory

end Microcore
