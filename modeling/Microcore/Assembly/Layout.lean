/-
  Microcore/Assembly/Layout.lean
  ==============================
  **Where lines go.**  A location counter runs through the lines from zero on: an instruction takes
  one cell, `ORG` sets the counter, and other lines leave it.  A label stands for the counter before
  the last line that defines it.  Runs of instructions between `ORG` lines are the regions.
-/
import Microcore.Assembly.Line

namespace Microcore.Assembly

/-- A line with the location counter before it, and the location it is listed at.  They differ for
    `ORG`, which is listed at the location it moves to. -/
structure Placed where
  line : Line
  counter : Byte
  location : Byte
deriving DecidableEq, Repr

def Line.advance (line : Line) (counter : Byte) : Byte :=
  match line.statement with
  | some (.origin address) => address
  | some (.instruction _ _) => counter + 1
  | none => counter

def Line.location (line : Line) (counter : Byte) : Byte :=
  match line.statement with
  | some (.origin address) => address
  | _ => counter

def place (counter : Byte) : List Line → List Placed
  | [] => []
  | line :: rest => ⟨line, counter, line.location counter⟩ :: place (line.advance counter) rest

@[simp] theorem length_place (counter : Byte) (lines : List Line) :
    (place counter lines).length = lines.length := by
  induction lines generalizing counter with
  | nil => rfl
  | cons line rest ih => simp [place, ih]

/-! ### Labels -/

/-- The labels that the lines define, in order, each with the location it is defined at. -/
def definitions (placed : List Placed) : List (Nat × Byte) :=
  placed.filterMap fun p => p.line.label.map fun number => (number, p.counter)

/-- What labels stand for: definitions with the latest first, which is the one that counts. -/
abbrev Labels := List (Nat × Byte)

def labels (placed : List Placed) : Labels := (definitions placed).reverse

/-- The labels that are defined again, once for each repeated definition, given those seen. -/
def redefined (seen : List Nat) : List Nat → List Nat
  | [] => []
  | number :: rest =>
    if seen.contains number then number :: redefined seen rest
    else redefined (number :: seen) rest

/-! ### Regions -/

/-- The addresses of a run of instructions.  A run that passes the last address wraps to zero. -/
structure Region where
  first : Byte
  last : Byte
deriving DecidableEq, Repr

def Region.length (r : Region) : Int := unsigned r.last - unsigned r.first + 1

def Region.extend (region : Option Region) (location : Byte) : Region :=
  match region with
  | some r => { r with last := location }
  | none => ⟨location, location⟩

def regionsFrom (region : Option Region) : List Placed → List Region
  | [] => region.toList
  | p :: rest =>
    match p.line.statement with
    | some (.origin _) => region.toList ++ regionsFrom none rest
    | some (.instruction _ _) => regionsFrom (some (Region.extend region p.location)) rest
    | none => regionsFrom region rest

/-! ### Words -/

/-- The operand that an argument stands for.  A label without a definition stands for zero. -/
def Argument.value (labels : Labels) : Argument → Byte
  | literal value => value
  | label number => (labels.lookup number).getD 0

def Argument.undefined? (labels : Labels) : Argument → Option Nat
  | literal _ => none
  | label number => if (labels.lookup number).isSome then none else some number

/-- The word that a line is assembled to, if it is an instruction. -/
def Placed.word? (labels : Labels) (p : Placed) : Option Word :=
  match p.line.statement with
  | some (.instruction i argument) => some (i.encode (argument.value labels))
  | _ => none

def Placed.undefined? (labels : Labels) (p : Placed) : Option Nat :=
  match p.line.statement with
  | some (.instruction _ argument) => argument.undefined? labels
  | _ => none

/-- Write the words of the lines into an image; of two words for one address the later one stays. -/
def emit (labels : Labels) (image : Vector Word 256) :
    List Placed → Vector Word 256
  | [] => image
  | p :: rest =>
    match p.word? labels with
    | some word => emit labels (image.set p.location.toNat word p.location.isLt) rest
    | none => emit labels image rest

end Microcore.Assembly
