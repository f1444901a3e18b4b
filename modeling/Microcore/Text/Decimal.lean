/-
  Microcore/Text/Decimal.lean
  ===========================
  **Integers with a decimal point.**  An integer is first rounded to the significant bits that are
  kept of it (`roundBits`), and is then written with fixed places, with a power of ten, or in the
  shorter of the two ways.  A half always goes to the even neighbour.
-/
import Microcore.Text.Numeral

namespace Microcore.Decimal

/-! ### Rounding -/

/-- The integer nearest to a quotient; a half goes to the even neighbour. -/
def roundDiv (n d : Nat) : Nat :=
  let q := n / d
  let twice := 2 * (n % d)
  if d < twice || (twice = d && q % 2 = 1) then q + 1 else q

def keptBits : Nat := 53

def tooLarge : Nat := Nat.pow 2 1024

def roundBits (n : Nat) : Nat :=
  let unit := Nat.pow 2 (n.log2 + 1 - keptBits)
  roundDiv n unit * unit

def keep? (n : Nat) : Option Nat :=
  let kept := roundBits n
  if kept < tooLarge then some kept else none

/-! ### Writing -/

/-- How places are written. -/
structure Form where
  /-- The places behind the point, or the digits where the shorter way is taken. -/
  places : Nat
  /-- Whether the point stands even with nothing behind it, and zeros at the end are kept. -/
  pointed : Bool := false
  capital : Bool := false

/-- Places behind a point.  Without places there is no point, unless it always stands. -/
def Form.point (form : Form) (places : List Char) : List Char :=
  if places.isEmpty && !form.pointed then [] else '.' :: places

def fixed (form : Form) (n : Nat) : List Char :=
  Nat.toDigits 10 n ++ form.point (List.replicate form.places '0')

/-- The significant digits of a number, so many, and the power of ten of the first one. -/
def significant (count n : Nat) : List Char × Nat :=
  let digits := Nat.toDigits 10 n
  if digits.length ≤ count then
    (digits ++ List.replicate (count - digits.length) '0', digits.length - 1)
  else
    let rounded := Nat.toDigits 10 (roundDiv n (Nat.pow 10 (digits.length - count)))
    (rounded.take count, digits.length - 1 + (rounded.length - count))

/-- A power of ten behind its letter, with at least two digits. -/
def Form.power (form : Form) (power : Nat) : List Char :=
  (if form.capital then 'E' else 'e') :: '+' :: Numeral.decimalChars 2 power

/-- A number with one digit before the point, and the power of ten of that digit. -/
def scientific (form : Form) (n : Nat) : List Char :=
  let (digits, power) := significant (form.places + 1) n
  digits.take 1 ++ form.point (digits.drop 1) ++ form.power power

/-- Places without the zeros at their end, unless these are kept. -/
def Form.trim (form : Form) (places : List Char) : List Char :=
  if form.pointed then places else (places.reverse.dropWhile (· = '0')).reverse

/-- A number with so many significant digits: with a power of ten if they do not reach the point. -/
def general (form : Form) (n : Nat) : List Char :=
  let count := max form.places 1
  let (digits, power) := significant count n
  if power < count then
    digits.take (power + 1) ++ form.point (form.trim (digits.drop (power + 1)))
  else digits.take 1 ++ form.point (form.trim (digits.drop 1)) ++ form.power power

end Microcore.Decimal
