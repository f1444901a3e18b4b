/-
  Microcore/Text/Numeral.lean
  ===========================
  **Integers as text.**  Written numbers have a base, a marker and a least width that is filled with
  zeros between the sign and the digits.  Read numbers may have a sign, digits of any script,
  single underscores between digits and, in base sixteen, the marker `0x`.  In base ten a host may
  limit their digits.
-/
import Microcore.Host
import Microcore.Text.Blank
import Microcore.Text.Digit

namespace Microcore.Numeral

/-! ### Writing -/

/-- How a number is written. -/
structure Form where
  base : Nat
  marker : List Char := []
  capital : Bool := false

def decimalForm : Form := { base := 10 }

def hexLowerForm : Form := { base := 16 }

def hexForm : Form := { base := 16, capital := true }

def hexMarkedForm : Form := { base := 16, marker := ['0', 'x'] }

def Form.digits (form : Form) (n : Nat) : List Char :=
  let digits := Nat.toDigits form.base n
  if form.capital then digits.map Char.toUpper else digits

def signOf (x : Int) : List Char := if x < 0 then ['-'] else []

/-- A number in a form, with zeros between marker and digits up to the width. -/
def Form.write (form : Form) (width : Nat) (x : Int) : List Char :=
  let digits := form.digits x.natAbs
  let head := signOf x ++ form.marker
  head ++ List.replicate (width - (head.length + digits.length)) '0' ++ digits

def hexChars (width : Nat) (x : Int) : List Char := hexForm.write width x

def hexLowerChars (width : Nat) (x : Int) : List Char := hexLowerForm.write width x

def hex (width : Nat) (x : Int) : String := String.ofList (hexChars width x)

def hexLower (width : Nat) (x : Int) : String := String.ofList (hexLowerChars width x)

/-- Lower-case hexadecimal after `0x`, zero-filled; the width counts the marker. -/
def hexMarked (width : Nat) (x : Int) : String := String.ofList (hexMarkedForm.write width x)

def decimalChars (width : Nat) (x : Int) : List Char := decimalForm.write width x

def decimal (x : Int) : String := String.ofList (decimalChars 0 x)

def tooLongMessage (most : Nat) : String :=
  s!"Exceeds the limit ({decimal most} digits) for integer string conversion; " ++
    "use sys.set_int_max_str_digits() to increase the limit"

def flag (raised : Bool) : String := if raised then "1" else "0"

def padStart (width : Nat) (text : List Char) : List Char :=
  List.replicate (width - text.length) ' ' ++ text

def padEnd (width : Nat) (text : List Char) : List Char :=
  text ++ List.replicate (width - text.length) ' '

@[simp] theorem length_padStart (width : Nat) (text : List Char) :
    (padStart width text).length = max width text.length := by
  simp only [padStart, List.length_append, List.length_replicate]
  omega

@[simp] theorem length_padEnd (width : Nat) (text : List Char) :
    (padEnd width text).length = max width text.length := by
  simp only [padEnd, List.length_append, List.length_replicate]
  omega

/-! ### Reading -/

/-- The value of a digit: a decimal digit of any script, or an ASCII letter from ten on. -/
def digit? (base : Nat) (c : Char) : Option Nat :=
  let value :=
    if 'a' ≤ c && c ≤ 'z' then some (c.toNat - 'a'.toNat + 10)
    else if 'A' ≤ c && c ≤ 'Z' then some (c.toNat - 'A'.toNat + 10)
    else Digit.value? c
  value.filter (· < base)

/-- The digits after the first one, each after at most one underscore. -/
def moreDigits? (base : Nat) : List Char → Option (List Nat)
  | [] => some []
  | '_' :: c :: rest => do
    let d ← digit? base c
    let ds ← moreDigits? base rest
    return d :: ds
  | c :: rest => do
    let d ← digit? base c
    let ds ← moreDigits? base rest
    return d :: ds

/-- At least one digit, with single underscores between digits. -/
def digits? (base : Nat) : List Char → Option (List Nat)
  | [] => none
  | c :: rest => do
    let d ← digit? base c
    let ds ← moreDigits? base rest
    return d :: ds

/-- The text after the marker `0x` and an underscore behind it.  The zero may be of any script. -/
def skipMarker : List Char → List Char
  | z :: x :: rest =>
    if Digit.value? z = some 0 && (x = 'x' || x = 'X') then
      match rest with
      | '_' :: digits => digits
      | digits => digits
    else z :: x :: rest
  | text => text

/-- Whether a character may stand around a number: white space but the information separators. -/
def isMargin (c : Char) : Bool := Blank.isBlank c && !(0x1C ≤ c.toNat && c.toNat ≤ 0x1F)

/-- Whether there are more digits than the host reads. -/
def tooMany (host : Host) (base : Nat) (digits : List Nat) : Bool :=
  base = 10 && host.digits.any fun most => most < digits.length

def magnitude? (base : Nat) (text : List Char) (host : Host) : Option Nat := do
  let digits ← digits? base (if base = 16 then skipMarker text else text)
  if tooMany host base digits then none else some (Digit.number base digits)

def read? (base : Nat) (text : List Char) (host : Host := .usual) : Option Int :=
  match Blank.trim isMargin text with
  | '+' :: rest => (magnitude? base rest host).map fun n => (n : Int)
  | '-' :: rest => (magnitude? base rest host).map fun n => -(n : Int)
  | rest => (magnitude? base rest host).map fun n => (n : Int)

end Microcore.Numeral
