/-
  Microcore/Text/Template.lean
  ============================
  **Message templates.**  A conversion in a template is a percent sign, flags, a least width, a
  precision and a letter; it takes the next argument.  Two percent signs stand for one.  A template
  is filled only as a whole: a malformed conversion, an argument of the wrong kind, a missing
  argument or one left over leave it unfilled, and the arguments are then shown behind it.
-/
import Microcore.Host
import Microcore.Text.Decimal
import Microcore.Text.Quoted

namespace Microcore.Template

/-- An argument of a message. -/
inductive Arg where
  | number (value : Int)
  | text (value : String)
deriving DecidableEq, Repr

/-- Why a template is not filled. -/
inductive Fault where
  /-- Template and arguments do not fit. -/
  | mismatch
  /-- A number is too large for its place, or too small. -/
  | range
  /-- The text would be too long to be held. -/
  | noMemory
deriving DecidableEq, Repr

def Arg.shown : Arg → List Char
  | .number value => Numeral.decimalChars 0 value
  | .text value => Quoted.quoteChars value.toList

def Arg.shownAscii : Arg → List Char
  | .number value => Numeral.decimalChars 0 value
  | .text value => Quoted.quoteAscii value.toList

def codeEnd : Int := 0x110000

def Arg.char : Arg → Except Fault Char
  | .number value =>
    if value < 0 ∨ codeEnd ≤ value then .error .range
    else if value.toNat.isValidChar then .ok (Char.ofNat value.toNat)
    else .error .mismatch
  | .text value =>
    match value.toList with
    | [c] => .ok c
    | _ => .error .mismatch

def Arg.plain : Arg → List Char
  | .number value => Numeral.decimalChars 0 value
  | .text value => value.toList

/-- Arguments in parentheses; a single one is followed by a comma. -/
def showArgs (args : List Arg) : List Char :=
  match args with
  | [arg] => '(' :: arg.shown ++ [',', ')']
  | args => '(' :: (([',', ' '] : List Char).intercalate (args.map Arg.shown)) ++ [')']

/-! ### Conversions -/

/-- The flags of a conversion. -/
structure Flags where
  left : Bool := false
  zeros : Bool := false
  plus : Bool := false
  blank : Bool := false
  marked : Bool := false

/-- A conversion with its flags, least width and precision. -/
structure Conversion where
  flags : Flags
  width : Nat
  precision : Option Nat

def maxPrecision : Nat := Nat.pow 2 31 - 1

/-- The greatest precision of an integer, which leaves room for a sign and a marker. -/
def maxIntegerPrecision : Nat := maxPrecision - 3

def readFlags (flags : Flags) : List Char → Flags × List Char
  | '-' :: rest => readFlags { flags with left := true } rest
  | '0' :: rest => readFlags { flags with zeros := true } rest
  | '+' :: rest => readFlags { flags with plus := true } rest
  | ' ' :: rest => readFlags { flags with blank := true } rest
  | '#' :: rest => readFlags { flags with marked := true } rest
  | rest => (flags, rest)

def readNumber (text : List Char) : Nat × List Char :=
  let digits := text.takeWhile Char.isDigit
  (Digit.number 10 (digits.map fun c => c.toNat - '0'.toNat), text.dropWhile Char.isDigit)

/-- A number of columns: digits, or a star that takes it from the arguments. -/
def readColumns (most : Nat) (text : List Char) (args : List Arg) :
    Except Fault (Int × List Char × List Arg) :=
  match text, args with
  | '*' :: rest, .number n :: args =>
    if n < -(most : Int) - 1 ∨ (most : Int) < n then .error .range else .ok (n, rest, args)
  | '*' :: _, _ => .error .mismatch
  | text, args =>
    let (n, rest) := readNumber text
    if most < n then .error .mismatch else .ok ((n : Int), rest, args)

/-- The precision of a conversion, if it has one.  A negative one counts as zero. -/
def readPrecision (text : List Char) (args : List Arg) :
    Except Fault (Option Nat × List Char × List Arg) :=
  match text with
  | '.' :: text => do
    let (n, text, args) ← readColumns maxPrecision text args
    return (some n.toNat, text, args)
  | text => .ok (none, text, args)

def skipSize : List Char → List Char
  | 'h' :: rest | 'l' :: rest | 'L' :: rest => rest
  | rest => rest

/-- The columns of a width of either sign.  The least number, which has no opposite, stands for
    none. -/
def columns (width : Int) : Nat := if width < -(maxIndex : Int) then 0 else width.natAbs

/-- A conversion without its letter, after the percent sign.  A negative width moves the field to
    the left. -/
def readConversion (text : List Char) (args : List Arg) :
    Except Fault (Conversion × List Char × List Arg) := do
  let (flags, text) := readFlags {} text
  let (width, text, args) ← readColumns maxIndex text args
  let flags := if width < 0 then { flags with left := true } else flags
  let (precision, text, args) ← readPrecision text args
  return (⟨flags, columns width, precision⟩, skipSize text, args)

/-! ### Fields -/

/-- What a conversion makes of an argument, before it is set to the width.  Zeros may stand between
    the head and the body of a number. -/
structure Field where
  head : List Char := []
  body : List Char
  numeric : Bool := false

/-- A field with its width, for which the host needs room. -/
def Conversion.align (conversion : Conversion) (host : Host) (field : Field) :
    Except Fault (List Char) :=
  let flags := conversion.flags
  let width := conversion.width
  if host.room < width then .error .noMemory
  else
    let zeros := if field.numeric && flags.zeros && !flags.left then
        width - (field.head.length + field.body.length) else 0
    let text := field.head ++ List.replicate zeros '0' ++ field.body
    .ok (if flags.left then Numeral.padEnd width text else Numeral.padStart width text)

def Flags.sign (flags : Flags) (value : Int) : List Char :=
  if value < 0 then ['-'] else if flags.plus then ['+'] else if flags.blank then [' '] else []

def Conversion.text (conversion : Conversion) (value : List Char) : Field :=
  { body := match conversion.precision with
      | some n => value.take n
      | none => value }

/-- An integer in a form, with at least as many digits as the precision says. -/
def Conversion.integer (conversion : Conversion) (form : Numeral.Form) (value : Int) :
    Except Fault Field :=
  let flags := conversion.flags
  let precision := conversion.precision.getD 0
  if maxIntegerPrecision < precision then .error .range
  else
    let digits := form.digits value.natAbs
    .ok { head := flags.sign value ++ if flags.marked then form.marker else []
          body := List.replicate (precision - digits.length) '0' ++ digits
          numeric := true }

/-- An integer with a decimal point; without a precision there are six places. -/
def Conversion.decimal (conversion : Conversion) (write : Decimal.Form → Nat → List Char)
    (capital : Bool) (value : Int) : Except Fault Field :=
  let flags := conversion.flags
  match Decimal.keep? value.natAbs with
  | none => .error .range
  | some n =>
    let form := ⟨conversion.precision.getD 6, flags.marked, capital⟩
    .ok { head := flags.sign value, body := write form n, numeric := true }

def Conversion.field (conversion : Conversion) (letter : Char) (arg : Arg) : Except Fault Field :=
  match letter, arg with
  | 's', arg => .ok (conversion.text arg.plain)
  | 'r', arg => .ok (conversion.text arg.shown)
  | 'a', arg => .ok (conversion.text arg.shownAscii)
  | 'c', arg => do return { body := [← arg.char] }
  | 'd', .number n | 'i', .number n | 'u', .number n => conversion.integer Numeral.decimalForm n
  | 'x', .number n => conversion.integer Numeral.hexMarkedForm n
  | 'X', .number n => conversion.integer { Numeral.hexForm with marker := ['0', 'X'] } n
  | 'o', .number n => conversion.integer { base := 8, marker := ['0', 'o'] } n
  | 'f', .number n | 'F', .number n => conversion.decimal Decimal.fixed false n
  | 'e', .number n => conversion.decimal Decimal.scientific false n
  | 'E', .number n => conversion.decimal Decimal.scientific true n
  | 'g', .number n => conversion.decimal Decimal.general false n
  | 'G', .number n => conversion.decimal Decimal.general true n
  | _, _ => .error .mismatch

/-! ### Filling -/

def fillFrom (host : Host) : Nat → List Char → List Arg → Except Fault (List Char)
  | _, [], [] => .ok []
  | _, [], _ :: _ => .error .mismatch
  | 0, _ :: _, _ => .error .mismatch
  | fuel + 1, '%' :: '%' :: rest, args => do return '%' :: (← fillFrom host fuel rest args)
  | fuel + 1, '%' :: rest, args => do
    let (conversion, rest, args) ← readConversion rest args
    match rest, args with
    | letter :: rest, arg :: args =>
      let text ← conversion.align host (← conversion.field letter arg)
      return text ++ (← fillFrom host fuel rest args)
    | _, _ => .error .mismatch
  | fuel + 1, c :: rest, args => do return c :: (← fillFrom host fuel rest args)

def fill (template : List Char) (args : List Arg) (host : Host) : Except Fault (List Char) :=
  fillFrom host template.length template args

/-- A message: the template filled with its arguments, or followed by them where they do not fit.
    Without arguments a template stands for itself. -/
def message (template : String) (args : List Arg) (host : Host) : Except Fault String :=
  match args with
  | [] => .ok template
  | args =>
    match fill template.toList args host with
    | .ok text => .ok (String.ofList text)
    | .error .mismatch => .ok (String.ofList (template.toList ++ ' ' :: showArgs args))
    | .error fault => .error fault

end Microcore.Template
