/-
  Microcore/CommandLine/Run.lean
  ==============================
  **The command line as a function.**  `run` assembles a source, or reads an image, and clocks the
  machine on it; it is given what stands at each path, and tells what is printed, what files are
  written and with what status the program ends.
-/
import Microcore.Assembly.Image
import Microcore.CommandLine.Options
import Microcore.HexImage
import Microcore.Machine
import Microcore.Text.Encoding

namespace Microcore.CommandLine

/-- What a run prints, writes and ends with. -/
structure Outcome where
  status : Nat
  stdout : String := ""
  stderr : String := ""
  files : List (Path × String) := []

/-- Why a run ends without an outcome. -/
inductive Failure where
  | undecodable
  | isDirectory
  | noSuchFile
  | notADirectory
  | nameTooLong
  | nul
  | noNumber (flag : Flag)
  | machine (fault : Machine.Fault)
deriving DecidableEq, Repr

def Failure.message : Failure → String
  | undecodable => "cannot decode the file"
  | isDirectory => "is a directory"
  | noSuchFile => "no such file or directory"
  | notADirectory => "not a directory"
  | nameTooLong => "file name too long"
  | nul => Encoding.nulMessage
  | noNumber flag => s!"argument {flag.shown}: not a number"
  | machine fault => fault.message

/-- A program to run, with the diagnostics of its source. -/
structure Program where
  words : Vector Word 256
  listing : List String := []
  messages : List String := []
  log : List Log.Entry := []

/-- Why there is no program to run. -/
inductive LoadFault where
  | source (rejection : Assembly.Rejection)
  | image (fault : HexImage.Fault)
  | failure (failure : Failure)

def programName : String := "run.py"

def message (text : String) : String := s!"{programName}: {text}\n"

def unlines (lines : List String) : String := String.join (lines.map fun line => line ++ "\n")

/-! ### Files -/

/-- Whether something stands at a path.  A path that is too long cannot even be asked for. -/
def exists? (found : Found) : Except Failure Bool :=
  match found with
  | .file _ | .directory => .ok true
  | .vacant | .noDirectory | .throughFile | .nul => .ok false
  | .tooLong => .error .nameTooLong

def readFile (found : Found) : Except Failure ByteArray :=
  match found with
  | .file bytes => .ok bytes
  | .directory => .error .isDirectory
  | .vacant | .noDirectory => .error .noSuchFile
  | .throughFile => .error .notADirectory
  | .tooLong => .error .nameTooLong
  | .nul => .error .nul

/-- Write a file, if a path is given for it.  A file that was written before is replaced. -/
def writeFile (find : Path → Found) (path : Option Path) (text : String)
    (files : List (Path × String)) : Except Failure (List (Path × String)) :=
  match path with
  | none => .ok files
  | some path =>
    if files.any fun file => file.1.isAbove path then .error .notADirectory
    else match find path with
    | .file _ | .vacant => .ok (files.filter (fun file => file.1 ≠ path) ++ [(path, text)])
    | .directory => .error .isDirectory
    | .noDirectory => .error .noSuchFile
    | .throughFile => .error .notADirectory
    | .tooLong => .error .nameTooLong
    | .nul => .error .nul

def listingText (lines : List String) : String := "\n".intercalate lines ++ "\n"

/-! ### Loading -/

def assembleFile (path : Path) (bytes : ByteArray) : Except LoadFault Program :=
  match Encoding.utf8? bytes with
  | none => .error (.failure .undecodable)
  | some text =>
    match Assembly.assemble path.name (Lines.normalize text) with
    | .ok image =>
      .ok { words := image.words, listing := image.listing
            messages := image.warnings ++ image.errors, log := image.log }
    | .error rejection => .error (.source rejection)

/-- Read an image file.  A fault in the lines before the first undecodable block is found before
    the block is. -/
def readImage (bytes : ByteArray) : Except LoadFault Program :=
  match Encoding.ascii bytes.data.toList with
  | .all text =>
    match HexImage.read? (Lines.lines (Lines.normalize text)) with
    | .ok words => .ok { words }
    | .error fault => .error (.image fault)
  | .broken before =>
    match HexImage.words? 1 (Encoding.completeLines before) with
    | .ok _ => .error (.failure .undecodable)
    | .error fault => .error (.image fault)

/-- Load a program: an image if it is asked for or the suffix says so, and a source otherwise. -/
def load (find : Path → Found) (o : Options) : Except LoadFault Program :=
  match readFile (find o.source) with
  | .error failure => .error (.failure failure)
  | .ok bytes =>
    if o.asHex || Letter.lower o.source.suffix = ['.', 'h', 'e', 'x'] then readImage bytes
    else assembleFile o.source bytes

/-! ### Running -/

def dumpLines (bytes : List Nat) : List String :=
  (bytes.zipIdx.filter fun (value, _) => value ≠ 0).map fun (value, address) =>
    s!"  [{Numeral.hex 2 address}] = {Numeral.hex 2 value}"

def number (flag : Flag) (value : Option Int) : Except Failure Int :=
  match value with
  | some n => .ok n
  | none => .error (.noNumber flag)

def machineFor? (program : Program) (trace : Int) (host : Host) : Except Machine.Fault Machine :=
  Machine.create? { program := some (program.words.toList.map unsigned), trace := max trace 0 } host

def clock (filter : Log.Filter) (cycles : Nat) (trace : Int) (dump : Bool) (program : Program)
    (m : Machine) : Except Failure String :=
  let p := Machine.stepUpTo cycles { machine := m }
  match p.fault with
  | some fault => .error (.machine (.memory fault))
  | none =>
    let events := Machine.Event.reset :: p.reversedEvents.reverse
    let log := filter.render (program.log ++ Machine.reports filter events)
    let bytes := if dump then dumpLines p.machine.ram.toList else []
    let entries := match p.machine.trace with
      | some t => t.lines (some trace)
      | none => []
    .ok (log ++ unlines (p.machine.describe :: bytes ++ entries))

def runOptions (find : Path → Found) (filter : Log.Filter) (o : Options) (cycles : Nat)
    (host : Host) : Except Failure Outcome :=
  match load find o with
  | .error (.failure failure) => .error failure
  | .error (.image fault) => .ok { status := 1, stderr := message fault.message }
  | .error (.source rejection) => do
    let files ← writeFile find o.listing (listingText rejection.listing) []
    return { status := 1
             stdout := filter.render rejection.log
             stderr := unlines rejection.errors ++ message rejection.message
             files }
  | .ok program => do
    let files ← writeFile find o.listing (listingText program.listing) []
    let image := HexImage.write? (program.words.toList.map unsigned)
    let files ← match image with
      | .ok text => writeFile find o.hexOut (String.ofList text) files
      | .error _ => .ok files
    let trace ← number .trace o.trace
    let m ← (machineFor? program trace host).mapError .machine
    let stdout ← clock filter cycles trace o.dump program m
    return { status := 0, stdout, stderr := unlines program.messages, files }

def usageError (fault : UsageFault) : Outcome :=
  { status := 2, stderr := message s!"error: {fault.message}" }

def help : String := unlines
  ["usage: run.py [-h] [--hex] [--cycles CYCLES] [--listing LISTING]",
   "              [--hex-out HEX_OUT] [--trace N] [--dump]",
   "              source",
   "",
   "uCPU pipelined core model",
   "",
   "positional arguments:",
   "  source             Assembler source, or a hex image when --hex is given or",
   "                     the suffix is .hex",
   "",
   "options:",
   "  -h, --help         show this help message and exit",
   "  --hex              Treat SOURCE as a hex image instead of assembler source",
   "  --cycles CYCLES    Number of clock cycles to run after reset (default: 256)",
   "  --listing LISTING  Write the assembler listing to this path",
   "  --hex-out HEX_OUT  Write the assembled hex image to this path",
   "  --trace N          Print the last N cycles of the pipeline trace",
   "  --dump             Print the non-zero bytes of data memory after the run"]

def run (find : Path → Found) (filter : Log.Filter) (args : List String) (host : Host := .usual) :
    Except Failure Outcome :=
  match parse args host with
  | .error .help => .ok { status := 0, stdout := help }
  | .error (.fault fault) => .ok (usageError fault)
  | .ok o => do
    let isThere ← exists? (find o.source)
    if !isThere then return usageError (.sourceNotFound o.source)
    else do
      let cycles ← number .cycles o.cycles
      if cycles < 0 then return usageError .negativeCycles
      else runOptions find filter o cycles.toNat host

end Microcore.CommandLine
