/-
  Microcore/Assembly/Image.lean
  =============================
  **Assembling a source.**  A source whose lines are all well formed gives an image, even when it
  refers to labels without a definition or defines a label twice; these are reported in the image.
  A source with a malformed line gives none: each such line is reported, and the others are laid out
  without it, so that the listing shows where they would go.
-/
import Microcore.Assembly.Listing
import Microcore.Log
import Microcore.Text.Lines

namespace Microcore.Assembly

/-- A line of a source, with its number and what it means. -/
structure SourceLine where
  number : Nat
  text : List Char
  parsed : Except Fault Line

/-- The meaning of a line, if it is well formed. -/
def SourceLine.line? (s : SourceLine) : Option Line := s.parsed.toOption

def SourceLine.message? (s : SourceLine) : Option String :=
  match s.parsed with
  | .ok _ => none
  | .error fault => some (Listing.faultMessage s.number s.text fault)

def sourceLines (source : List Char) : List SourceLine :=
  ((Lines.lines source).zipIdx 1).map fun (raw, number) =>
    let text := Lines.chomp raw
    ⟨number, text, Line.parse text⟩

/-- What a source is assembled to. -/
structure Image where
  name : String
  words : Vector Word 256
  regions : List Region
  listing : List String
  warnings : List String
  errors : List String

/-- Why a source is not assembled. -/
structure Rejection where
  name : String
  errors : List String
  listing : List String
  regions : List Region

def Image.ok (image : Image) : Bool := image.errors.isEmpty

def Image.numbers (image : Image) : List Int := image.words.toList.map unsigned

def Rejection.message (r : Rejection) : String :=
  s!"{Numeral.decimal r.errors.length} syntax error(s), image not generated"

/-- The listing of a well-formed line, after the message on an undefined label. -/
def listed (labels : Labels) (number : Nat) (p : Placed) : List String :=
  (p.undefined? labels).toList.map Listing.undefinedMessage ++
    [Listing.entry labels number p]

/-- The lines of a rejected source: the two lines of the message for a malformed one, and for every
    other one the entry of the next of the lines that are laid out. -/
def listedOrFault (labels : Labels) : List SourceLine → List Placed → List String
  | [], _ => []
  | s :: rest, placed =>
    match s.parsed, placed with
    | .error fault, _ =>
      Listing.faultHead fault :: Listing.faultTail s.number s.text :: listedOrFault labels rest placed
    | .ok _, p :: placed => Listing.entry labels s.number p :: listedOrFault labels rest placed
    | .ok _, [] => listedOrFault labels rest []

def assemble (name : String) (source : List Char) : Except Rejection Image :=
  let lines := sourceLines source
  let placed := place 0 (lines.filterMap SourceLine.line?)
  let table := labels placed
  let regions := regionsFrom none placed
  match lines.filterMap SourceLine.message? with
  | [] =>
    .ok { name
          words := emit table (Vector.replicate 256 0) placed
          regions
          listing := Listing.header name "Second" ++
            (lines.zip placed).flatMap fun (s, p) => listed table s.number p
          warnings := (redefined [] ((definitions placed).map Prod.fst)).map Listing.redefinedMessage
          errors := (placed.filterMap (Placed.undefined? table)).map Listing.undefinedMessage }
  | errors =>
    .error { name
             errors
             listing := Listing.header name "First" ++ listedOrFault table lines placed
             regions }

/-! ### Reports -/

def topic : String := "asm"

def Region.report (name : String) (r : Region) : Log.Entry :=
  ⟨topic, s!"{name}: region {Numeral.hexLower 2 r.first.toNat}-{Numeral.hexLower 2 r.last.toNat}, " ++
    s!"{Numeral.decimal r.length} word(s)"⟩

def Image.log (image : Image) : List Log.Entry :=
  image.regions.map (Region.report image.name) ++
    [⟨topic, s!"{image.name}: {Numeral.decimal image.warnings.length} warning(s), " ++
      s!"{Numeral.decimal image.errors.length} error(s)"⟩]

def Rejection.log (r : Rejection) : List Log.Entry := r.regions.map (Region.report r.name)

end Microcore.Assembly
