/-
  Microcore/CommandLine/Options.lean
  ==================================
  **Command-line options.**  Arguments are first told apart (`classify`): options by their spelling
  or an unambiguous beginning of it, with a value after `=`; numbers with a minus sign are no
  options, nor is anything behind `--`.  Then they are taken in order (`Taken.token`), an option's
  value being the argument that follows it.  A value of `--` is no value, but only after `=` can an
  option have it.
-/
import Microcore.CommandLine.Path
import Microcore.Text.Numeral
import Microcore.Text.Quoted

namespace Microcore.CommandLine

/-- The options. -/
inductive Flag where
  | help
  | hex
  | cycles
  | listing
  | hexOut
  | trace
  | dump
deriving DecidableEq, Repr

def spellings : List (String × Flag) :=
  [("-h", .help), ("--help", .help), ("--hex", .hex), ("--cycles", .cycles),
   ("--listing", .listing), ("--hex-out", .hexOut), ("--trace", .trace), ("--dump", .dump)]

def Flag.shown (flag : Flag) : String :=
  "/".intercalate ((spellings.filter fun entry => entry.2 = flag).map Prod.fst)

def Flag.takesValue : Flag → Bool
  | cycles | listing | hexOut | trace => true
  | help | hex | dump => false

/-- What is wrong with a command line. -/
inductive UsageFault where
  | ambiguous (arg : String) (candidates : List String)
  | noValue (flag : Flag)
  | unusedValue (flag : Flag) (value : String)
  | notInteger (flag : Flag) (value : String)
  | noSource
  | unrecognized (args : List String)
  | sourceNotFound (path : Path)
  | negativeCycles
deriving DecidableEq, Repr

def UsageFault.message : UsageFault → String
  | ambiguous arg candidates =>
    s!"ambiguous option: {arg} could match " ++ ", ".intercalate candidates
  | noValue flag => s!"argument {flag.shown}: expected one argument"
  | unusedValue flag value =>
    s!"argument {flag.shown}: ignored explicit argument {Quoted.quote value}"
  | notInteger flag value => s!"argument {flag.shown}: invalid int value: {Quoted.quote value}"
  | noSource => "the following arguments are required: source"
  | unrecognized args => "unrecognized arguments: " ++ " ".intercalate args
  | sourceNotFound path => s!"source file not found: {path.toString}"
  | negativeCycles => "--cycles must not be negative"

/-- What the arguments ask for.  A number is missing when its option was given with no value. -/
structure Options where
  source : Path
  asHex : Bool := false
  cycles : Option Int := some 256
  listing : Option Path := none
  hexOut : Option Path := none
  trace : Option Int := some 0
  dump : Bool := false
deriving DecidableEq, Repr

/-! ### Telling arguments apart -/

/-- A value written in one argument with its option: after the equals sign of an option of several
    letters, or directly behind an option of one letter, where an equals sign may be left out. -/
inductive Attached where
  | equals (value : String)
  | clustered (rest : List Char)
deriving DecidableEq, Repr

/-- The value behind an equals sign, for an option that is spelled as given. -/
def Attached.ofSpelling (spelling value : String) : Attached :=
  if spelling.length = 2 then clustered value.toList else equals value

/-- What an argument is. -/
inductive Token where
  | plain (arg : String)
  | separator
  | flag (flag : Flag) (attached : Option Attached)
  | unknown (arg : String)
deriving DecidableEq, Repr

/-- A text before and after its first equals sign, if it has one. -/
def splitEquals? (arg : List Char) : Option (String × String) :=
  match arg.dropWhile (· ≠ '=') with
  | [] => none
  | _ :: value => some (String.ofList (arg.takeWhile (· ≠ '=')), String.ofList value)

/-- Whether a text is a minus sign and digits, with at most one point before the last digits. -/
def isNegativeNumber (arg : List Char) : Bool :=
  let arg := if arg.getLast? = some '\n' then arg.dropLast else arg
  match arg with
  | '-' :: rest =>
    let whole := rest.takeWhile Digit.isDecimal
    match rest.dropWhile Digit.isDecimal with
    | [] => !whole.isEmpty
    | '.' :: places => !places.isEmpty && places.all Digit.isDecimal
    | _ => false
  | _ => false

/-- The options whose spelling begins with what an argument has before its equals sign, each with
    the value behind the sign. -/
def candidates (arg : String) : List (String × Flag × Option Attached) :=
  let (start, attached) := match splitEquals? arg.toList with
    | some (start, value) => (start, some (Attached.equals value))
    | none => (arg, none)
  match arg.toList with
  | '-' :: '-' :: _ =>
    (spellings.filter fun entry => start.toList.isPrefixOf entry.1.toList).map
      fun (spelling, flag) => (spelling, flag, attached)
  | '-' :: letter :: rest =>
    (spellings.filter fun entry => entry.1.toList = ['-', letter]).map
      fun (spelling, flag) => (spelling, flag, some (Attached.clustered rest))
  | _ => []

def classifyOne (arg : String) : Except UsageFault Token :=
  match arg.toList with
  | '-' :: _ :: _ =>
    match spellings.lookup arg with
    | some flag => .ok (.flag flag none)
    | none =>
      let exact := do
        let (spelling, value) ← splitEquals? arg.toList
        let flag ← spellings.lookup spelling
        return Token.flag flag (some (.ofSpelling spelling value))
      match exact with
      | some token => .ok token
      | none =>
        match candidates arg with
        | [(_, flag, attached)] => .ok (.flag flag attached)
        | [] =>
          if isNegativeNumber arg.toList || arg.contains ' ' then .ok (.plain arg)
          else .ok (.unknown arg)
        | several => .error (.ambiguous arg (several.map Prod.fst))
  | _ => .ok (.plain arg)

def classify : List String → Except UsageFault (List Token)
  | [] => .ok []
  | arg :: rest =>
    if arg = "--" then .ok (.separator :: rest.map .plain)
    else do
      let token ← classifyOne arg
      let tokens ← classify rest
      return token :: tokens

/-! ### Taking arguments in order -/

/-- What the arguments so far ask for.  `pending` is an option that waits for its value, and
    `atSource` says that the last argument was the source. -/
structure Taken where
  source : Option Path := none
  options : Options := { source := ⟨"", []⟩ }
  extras : List String := []
  pending : Option Flag := none
  atSource : Bool := false

/-- Why arguments are not taken to the end: a fault, or a request for help. -/
inductive Stop where
  | help
  | fault (fault : UsageFault)
deriving DecidableEq, Repr

def noValueMark : String := "--"

def integer? (host : Host) (flag : Flag) (value : String) : Except Stop (Option Int) :=
  if value = noValueMark then .ok none
  else match Numeral.read? 10 value.toList host with
    | some n => .ok (some n)
    | none => .error (.fault (.notInteger flag value))

def path? (value : String) : Option Path :=
  if value = noValueMark then none else some (Path.ofString value)

def Options.setValue (o : Options) (host : Host) (flag : Flag) (value : String) :
    Except Stop Options :=
  match flag with
  | .cycles => return { o with cycles := ← integer? host flag value }
  | .trace => return { o with trace := ← integer? host flag value }
  | .listing => .ok { o with listing := path? value }
  | .hexOut => .ok { o with hexOut := path? value }
  | .help | .hex | .dump => .ok o

def Options.setFlag (o : Options) (flag : Flag) : Except Stop Options :=
  match flag with
  | .help => .error .help
  | .hex => .ok { o with asHex := true }
  | .dump => .ok { o with dump := true }
  | .cycles | .listing | .hexOut | .trace => .ok o

/-- What is behind `-h` in one argument: the same letter asks for help again, and anything else, or
    nothing behind an equals sign, is a value that help has no use for. -/
def clusteredHelp (rest : List Char) : Stop :=
  match rest, rest.dropWhile (· = 'h') with
  | _ :: _, [] => .help
  | _, value => .fault (.unusedValue .help (String.ofList value))

def Taken.flag (t : Taken) (host : Host) (flag : Flag) (attached : Option Attached) :
    Except Stop Taken :=
  match attached with
  | none =>
    if flag.takesValue then .ok { t with pending := some flag }
    else do return { t with options := ← t.options.setFlag flag }
  | some (.equals value) =>
    if flag.takesValue then do return { t with options := ← t.options.setValue host flag value }
    else .error (.fault (.unusedValue flag value))
  | some (.clustered rest) => .error (clusteredHelp rest)

/-- Take one argument.  The first plain argument is the source; `--` next to it counts for
    nothing. -/
def Taken.token (host : Host) (t : Taken) (token : Token) : Except Stop Taken :=
  let t' := { t with pending := none, atSource := false }
  match t.pending, token with
  | some flag, .plain value => do return { t' with options := ← t.options.setValue host flag value }
  | some flag, _ => .error (.fault (.noValue flag))
  | none, .plain arg =>
    if t.source.isNone then .ok { t' with source := some (Path.ofString arg), atSource := true }
    else .ok { t' with extras := t.extras ++ [arg] }
  | none, .separator =>
    if t.source.isNone || t.atSource then .ok t' else .ok { t' with extras := t.extras ++ ["--"] }
  | none, .flag flag attached => t'.flag host flag attached
  | none, .unknown arg => .ok { t' with extras := t.extras ++ [arg] }

def parse (args : List String) (host : Host := .usual) : Except Stop Options := do
  let tokens ← (classify args).mapError .fault
  let t ← tokens.foldlM (Taken.token host) {}
  match t.pending, t.source, t.extras with
  | some flag, _, _ => .error (.fault (.noValue flag))
  | none, none, _ => .error (.fault .noSource)
  | none, some source, [] => .ok { t.options with source }
  | none, some _, extras => .error (.fault (.unrecognized extras))

end Microcore.CommandLine
