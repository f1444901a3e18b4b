/-
  Microcore/CommandLine/Path.lean
  ===============================
  **File paths and what stands at them.**  A path is read component by component: repeated slashes
  and single dots do not count, and double dots are kept.  What stands at it is found by a walk
  from directory to directory (`walk`), in which double dots lead upwards.
-/
import Microcore.Text.Encoding

namespace Microcore.CommandLine

/-- A file path: the slashes it starts from, and its components. -/
structure Path where
  root : String
  components : List String
deriving DecidableEq, Repr

/-- The slashes that a path starts from.  Two slashes are not the same as one; three are. -/
def rootOf : List Char → String
  | '/' :: '/' :: '/' :: _ => "/"
  | '/' :: '/' :: _ => "//"
  | '/' :: _ => "/"
  | _ => ""

namespace Path

def ofString (text : String) : Path :=
  let pieces := (Lines.pieces '/' text.toList).map String.ofList
  ⟨rootOf text.toList, pieces.filter fun piece => piece ≠ "" && piece ≠ "."⟩

def toString (p : Path) : String :=
  if p.root = "" && p.components.isEmpty then "." else p.root ++ "/".intercalate p.components

def name (p : Path) : String := p.components.getLastD ""

/-- The end of a file name from its last dot on, if there is something on both sides of the dot. -/
def suffixOf (name : List Char) : List Char :=
  let ending := (name.reverse.takeWhile (· ≠ '.')).reverse
  let stem := name.length - (ending.length + 1)
  if ending.isEmpty || stem = 0 then [] else '.' :: ending

def suffix (p : Path) : List Char := suffixOf p.name.toList

def isAbove (p q : Path) : Bool :=
  p.root = q.root && p.components ≠ q.components && p.components.isPrefixOf q.components

end Path

/-! ### Walking -/

/-- What stands at a path. -/
inductive Found where
  | file (bytes : ByteArray)
  | directory
  /-- Nothing, in a directory that is there. -/
  | vacant
  /-- Nothing, and no directory to hold it. -/
  | noDirectory
  /-- A file stands where the path needs a directory. -/
  | throughFile
  /-- Nothing, because the path or a name in it is too long. -/
  | tooLong
  /-- Nothing, because the path holds a NUL. -/
  | nul

/-- Where names are counted from: the working directory, a directory above it, or the root. -/
inductive Base where
  | working
  | above
  | root
deriving DecidableEq, Repr

/-- A place in a file system. -/
structure Place where
  base : Base
  names : List String := []
deriving DecidableEq, Repr

def Place.step (place : Place) (name : String) : Place :=
  match name, place with
  | "..", ⟨.working, []⟩ => ⟨.above, []⟩
  | "..", ⟨base, names⟩ => ⟨base, names.dropLast⟩
  | name, ⟨base, names⟩ => ⟨base, names ++ [name]⟩

def Path.start (p : Path) : Place := ⟨if p.root = "" then .working else .root, []⟩

/-- The files below the working directory, by the names that lead to them. -/
abbrev Files := List (List String × ByteArray)

def rootDirectories : List String :=
  ["bin", "boot", "dev", "etc", "home", "lib", "media", "mnt", "opt", "proc", "root", "run", "sbin",
   "srv", "sys", "tmp", "usr", "var"]

/-- What stands at a place: a file, a directory, or nothing.  Outside the working directory only the
    directories above it are known, and of the root its directories and the empty device. -/
def Files.get? (files : Files) (place : Place) : Option Found :=
  match place with
  | ⟨.working, names⟩ =>
    match files.lookup names with
    | some bytes => some (.file bytes)
    | none =>
      if names.isEmpty || files.any fun file => names.isPrefixOf file.1 then some .directory
      else none
  | ⟨.above, names⟩ => if names.isEmpty then some .directory else none
  | ⟨.root, []⟩ => some .directory
  | ⟨.root, [name]⟩ => if rootDirectories.contains name then some .directory else none
  | ⟨.root, names⟩ => if names = ["dev", "null"] then some (.file .empty) else none

def maxNameBytes : Nat := 255

def maxPathBytes : Nat := 4095

def Files.walk (files : Files) (here : Place) : List String → Place × Found
  | [] => (here, .directory)
  | name :: rest =>
    let there := here.step name
    if maxNameBytes < name.utf8ByteSize then (there, .tooLong)
    else match files.get? there, rest with
    | some .directory, rest => files.walk there rest
    | some found, [] => (there, found)
    | some _, _ :: _ => (there, .throughFile)
    | none, [] => (there, .vacant)
    | none, _ :: _ => (there, .noDirectory)

def Files.locate (files : Files) (p : Path) : Place × Found :=
  if Encoding.hasNul p.toString then (p.start, .nul)
  else if maxPathBytes < p.toString.utf8ByteSize then (p.start, .tooLong)
  else files.walk p.start p.components

/-- What stands at a path when the working directory holds the given files and no others. -/
def Files.find (files : Files) (p : Path) : Found := (files.locate p).2

end Microcore.CommandLine
