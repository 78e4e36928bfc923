import Mathlib

/-!
# Flag tests on machine words

Code tests a one-bit flag of a word as `word & FLAG != 0`, or, for a set of
flags, as `word & FLAGS == FLAGS` (`bitflags`' `contains`).  For a flag that is
a power of two both tests say that one bit of the word is set; stated with
`Nat.testBit`, facts about flags become facts about bits.
-/

namespace Flags

theorem toNat_ofNat_two_pow_uInt64 {b : Nat} (hb : b < 64) :
    (UInt64.ofNat (2 ^ b)).toNat = 2 ^ b := by
  rw [UInt64.toNat_ofNat']
  exact Nat.mod_eq_of_lt (Nat.pow_lt_pow_right (by norm_num) hb)

/-- `word & (1 << b) != 0` tests bit `b`. -/
theorem uInt64_and_two_pow_ne_zero_iff (word : UInt64) {b : Nat} (hb : b < 64) :
    word &&& UInt64.ofNat (2 ^ b) ≠ 0 ↔ word.toNat.testBit b := by
  rw [ne_eq, ← UInt64.toNat_inj, UInt64.toNat_and, toNat_ofNat_two_pow_uInt64 hb,
    Nat.and_two_pow]
  cases word.toNat.testBit b <;> simp

/-- `contains` of a one-bit flag tests that bit. -/
theorem uInt64_and_two_pow_eq_iff (word : UInt64) {b : Nat} (hb : b < 64) :
    word &&& UInt64.ofNat (2 ^ b) = UInt64.ofNat (2 ^ b) ↔ word.toNat.testBit b := by
  rw [← UInt64.toNat_inj, UInt64.toNat_and, toNat_ofNat_two_pow_uInt64 hb, Nat.and_two_pow]
  cases word.toNat.testBit b
  · simpa using (Nat.two_pow_pos b).ne
  · simp

/-! ## Disjoint masks

A word that packs several fields is updated through masks: a field is set with
`word | MASK`, cleared with `word & !MASK`, or replaced with
`(word & !MASK) | (value & MASK)`.  Read back through a mask with no bit in
common with `MASK`, the word is unchanged; read back through `MASK`, it holds
what was written.  Each law is checked bit by bit. -/

/-- Two words are equal when their bits are. -/
theorem uInt32_ext {a b : UInt32}
    (h : ∀ i < 32, a.toBitVec.getLsbD i = b.toBitVec.getLsbD i) : a = b :=
  UInt32.toBitVec_inj.1 (BitVec.eq_of_getLsbD_eq h)

/-- Masks without a common bit have no bit set together. -/
theorem getLsbD_and_eq_false {m k : UInt32} (h : m &&& k = 0) (i : Nat) :
    (m.toBitVec.getLsbD i && k.toBitVec.getLsbD i) = false := by
  have hbit := congrArg (fun w : UInt32 => w.toBitVec.getLsbD i) h
  simpa using hbit

variable {m k : UInt32}

theorem or_and_of_disjoint (x : UInt32) (h : m &&& k = 0) : (x ||| m) &&& k = x &&& k := by
  apply uInt32_ext
  intro i _
  have hb := getLsbD_and_eq_false h i
  simp only [UInt32.toBitVec_and, UInt32.toBitVec_or, BitVec.getLsbD_and, BitVec.getLsbD_or]
  cases hx : x.toBitVec.getLsbD i <;> simp_all

theorem and_not_and_of_disjoint (x : UInt32) (h : m &&& k = 0) :
    (x &&& ~~~m) &&& k = x &&& k := by
  apply uInt32_ext
  intro i hi
  have hb := getLsbD_and_eq_false h i
  simp only [UInt32.toBitVec_and, UInt32.toBitVec_not, BitVec.getLsbD_and, BitVec.getLsbD_not]
  cases hm : m.toBitVec.getLsbD i <;> simp_all

theorem update_and_of_disjoint (x v : UInt32) (h : m &&& k = 0) :
    ((x &&& ~~~m) ||| (v &&& m)) &&& k = x &&& k := by
  apply uInt32_ext
  intro i hi
  have hb := getLsbD_and_eq_false h i
  simp only [UInt32.toBitVec_and, UInt32.toBitVec_or, UInt32.toBitVec_not, BitVec.getLsbD_and,
    BitVec.getLsbD_or, BitVec.getLsbD_not]
  cases hm : m.toBitVec.getLsbD i <;> simp_all

theorem update_and_self (x v m : UInt32) : ((x &&& ~~~m) ||| (v &&& m)) &&& m = v &&& m := by
  apply uInt32_ext
  intro i hi
  simp only [UInt32.toBitVec_and, UInt32.toBitVec_or, UInt32.toBitVec_not, BitVec.getLsbD_and,
    BitVec.getLsbD_or, BitVec.getLsbD_not]
  cases m.toBitVec.getLsbD i <;> simp [hi]

theorem or_and_self (x m : UInt32) : (x ||| m) &&& m = m := by
  apply uInt32_ext
  intro i _
  simp only [UInt32.toBitVec_and, UInt32.toBitVec_or, BitVec.getLsbD_and, BitVec.getLsbD_or]
  cases m.toBitVec.getLsbD i <;> simp

theorem and_not_and_self (x m : UInt32) : (x &&& ~~~m) &&& m = 0 := by
  apply uInt32_ext
  intro i hi
  simp only [UInt32.toBitVec_and, UInt32.toBitVec_not, BitVec.getLsbD_and, BitVec.getLsbD_not]
  cases m.toBitVec.getLsbD i <;> simp

/-- Masking a masked word with a set bit or field: the masks meet. -/
theorem and_or_and (x m v k : UInt32) : ((x &&& m) ||| v) &&& k = (x &&& (m &&& k)) ||| (v &&& k) := by
  apply uInt32_ext
  intro i _
  simp only [UInt32.toBitVec_and, UInt32.toBitVec_or, BitVec.getLsbD_and, BitVec.getLsbD_or]
  cases k.toBitVec.getLsbD i <;> simp

/-! ## Rounding with a mask

`word & !(align - 1)` clears the low bits of a word; for `align` a power of two
it rounds the word down to a multiple of `align`. -/

/-- A word is the bits a mask clears plus the bits it keeps. -/
theorem uInt64_and_not_add_and (x m : UInt64) : (x &&& ~~~m) + (x &&& m) = x := by
  apply UInt64.eq_of_toBitVec_eq
  simp only [UInt64.toBitVec_add, UInt64.toBitVec_and, UInt64.toBitVec_not]
  -- the two parts have no bit in common, so their sum is their union
  have hdisjoint : (x.toBitVec &&& ~~~m.toBitVec) &&& (x.toBitVec &&& m.toBitVec) = 0 := by
    ext i
    simp only [BitVec.getElem_and, BitVec.getElem_not]
    cases x.toBitVec[i] <;> cases m.toBitVec[i] <;> simp
  rw [BitVec.add_eq_or_of_and_eq_zero _ _ hdisjoint]
  ext i
  simp only [BitVec.getElem_or, BitVec.getElem_and, BitVec.getElem_not]
  cases x.toBitVec[i] <;> cases m.toBitVec[i] <;> simp

theorem toNat_uInt64_and_not_two_pow_sub_one (x : UInt64) {k : Nat} (hk : k < 64) :
    (x &&& ~~~(UInt64.ofNat (2 ^ k - 1))).toNat = x.toNat / 2 ^ k * 2 ^ k := by
  have hmask : (UInt64.ofNat (2 ^ k - 1)).toNat = 2 ^ k - 1 := by
    rw [UInt64.toNat_ofNat']
    exact Nat.mod_eq_of_lt (by have := Nat.pow_lt_pow_right (a := 2) (by norm_num) hk; omega)
  have hlow : (x &&& UInt64.ofNat (2 ^ k - 1)).toNat = x.toNat % 2 ^ k := by
    rw [UInt64.toNat_and, hmask, Nat.and_two_pow_sub_one_eq_mod]
  have hsum := congrArg UInt64.toNat (uInt64_and_not_add_and x (UInt64.ofNat (2 ^ k - 1)))
  rw [UInt64.toNat_add, hlow] at hsum
  have hsplit := Nat.div_add_mod x.toNat (2 ^ k)
  have hhigh := (x &&& ~~~(UInt64.ofNat (2 ^ k - 1))).toNat_lt
  have hx := x.toNat_lt
  rw [Nat.mul_comm] at hsplit
  omega

end Flags
