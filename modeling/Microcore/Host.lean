/-
  Microcore/Host.lean
  ===================
  **The host.**  Nothing is longer than the greatest index, and how much shorter everything has to be is
  up to the host.  So is how long a number may be to be read or written in decimal.  What may be too long
  for it takes the host as a parameter, and what is said of it is said of every host.
-/

namespace Microcore

def maxIndex : Nat := Nat.pow 2 63 - 1

/-- Numbers of so many digits are short for every host. -/
def shortDigits : Nat := 640

/-- What a program runs on. -/
structure Host where
  /-- The most items of a list, or characters of a text, for which there is room. -/
  room : Nat
  /-- The most digits of a number that is read or written in decimal, if there is a limit. -/
  digits : Option Nat
  /-- There is room for the memories of a machine. -/
  memory_le : 256 ≤ room
  room_le : room ≤ maxIndex
  digits_ge : ∀ most ∈ digits, shortDigits ≤ most

namespace Host

/-- A host to run the program on.  How much room it has is a choice that no result depends on. -/
def usual : Host where
  room := Nat.pow 2 28
  digits := some 4300
  memory_le := by decide
  room_le := by decide
  digits_ge := by decide

/-- A number is short enough to be read and written in decimal. -/
abbrev Short (host : Host) (x : Int) : Prop := ∀ most ∈ host.digits, x.natAbs < Nat.pow 10 most

/-- The limit that a number is too long for. -/
def limit? (host : Host) (x : Int) : Option Nat :=
  host.digits.filter fun most => Nat.pow 10 most ≤ x.natAbs

/-- A refusal that names a number, or else the limit that the number is too long for. -/
def naming {ε : Type} (host : Host) (x : Int) (named : Int → ε) (unshown : Nat → ε) : ε :=
  match host.limit? x with
  | some most => unshown most
  | none => named x

theorem limit?_eq_none_iff (host : Host) (x : Int) : host.limit? x = none ↔ host.Short x := by
  simp [limit?, Short]

section Naming

variable {ε : Type} {host : Host} {x : Int} (named : Int → ε) (unshown : Nat → ε)

end Naming

/-- No host has room for 2 ^ 63 items. -/
theorem room_lt_endless (host : Host) : (host.room : Int) < 9223372036854775808 :=
  Int.ofNat_lt.mpr (Nat.lt_of_le_of_lt host.room_le (by decide : maxIndex < 9223372036854775808))

/-- Every host reads and writes numbers of a few digits. -/
theorem short_of_lt (host : Host) {x : Int} {count : Nat} (hcount : count ≤ shortDigits)
    (h : x.natAbs < Nat.pow 10 count) : host.Short x := by
  intro most hmost
  have hle : count ≤ most := Nat.le_trans hcount (host.digits_ge most hmost)
  exact Nat.lt_of_lt_of_le h (Nat.pow_le_pow_right (by decide) hle)

end Host

end Microcore
