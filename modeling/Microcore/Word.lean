/-
  Microcore/Word.lean
  ===================
  **Widths of the machine.**  Data and addresses are eight bits wide, instruction words twelve,
  and a register of the core may be set to any integer from outside, so the datapath takes
  integers in and cuts them to a width where it uses them.
-/

namespace Microcore

abbrev Byte := BitVec 8

abbrev Word := BitVec 12

def Byte.ofInt (x : Int) : Byte := BitVec.ofInt 8 x

def Word.ofInt (x : Int) : Word := BitVec.ofInt 12 x

/-- The number that a bit pattern stands for, read without a sign. -/
def unsigned {width : Nat} (b : BitVec width) : Int := b.toNat

theorem unsigned_nonneg {width : Nat} (b : BitVec width) : 0 ≤ unsigned b :=
  Int.natCast_nonneg _

theorem unsigned_inj {width : Nat} {b c : BitVec width} : unsigned b = unsigned c ↔ b = c := by
  constructor
  · intro h
    apply BitVec.eq_of_toNat_eq
    exact Int.ofNat_inj.mp h
  · rintro rfl
    rfl

theorem unsigned_byte_lt (b : Byte) : unsigned b < 256 := by
  have := b.isLt
  simp only [unsigned]
  omega

theorem unsigned_word_lt (w : Word) : unsigned w < 4096 := by
  have := w.isLt
  simp only [unsigned]
  omega

theorem bounded_map_unsigned (words : List Word) : ∀ n ∈ words.map unsigned, 0 ≤ n ∧ n ≤ 0xFFF := by
  intro n hn
  obtain ⟨w, -, rfl⟩ := List.mem_map.mp hn
  exact ⟨unsigned_nonneg w, Int.le_of_lt_add_one (unsigned_word_lt w)⟩

@[simp] theorem unsigned_byte_ofInt (x : Int) : unsigned (Byte.ofInt x) = x % 256 := by
  simp only [unsigned, Byte.ofInt, BitVec.toNat_ofInt]
  omega

@[simp] theorem unsigned_word_ofInt (x : Int) : unsigned (Word.ofInt x) = x % 4096 := by
  simp only [unsigned, Word.ofInt, BitVec.toNat_ofInt]
  omega

@[simp] theorem byte_ofInt_unsigned (b : Byte) : Byte.ofInt (unsigned b) = b := by
  apply BitVec.eq_of_toNat_eq
  have := b.isLt
  simp only [unsigned, Byte.ofInt, BitVec.toNat_ofInt]
  omega

end Microcore
