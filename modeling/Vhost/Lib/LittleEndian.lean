import Mathlib

/-!
# Little-endian fixed-width integers as bytes

A value of a `width`-byte machine integer is laid out least significant byte
first.  `encode` writes the low `width` bytes of a natural number and `decode`
reads a byte string back as a number; the two are inverse on the values that
fit, which is the fact every fixed-layout wire format rests on.
-/

namespace LittleEndian

/-- The low `width` bytes of `value`, least significant first. -/
def encode : Nat → Nat → List UInt8
  | 0, _ => []
  | width + 1, value => UInt8.ofNat (value % 256) :: encode width (value / 256)

/-- The number whose little-endian bytes are `bytes`. -/
def decode : List UInt8 → Nat
  | [] => 0
  | byte :: rest => byte.toNat + 256 * decode rest

@[simp]
theorem length_encode (width value : Nat) : (encode width value).length = width := by
  induction width generalizing value with
  | zero => rfl
  | succ width ih => simp [encode, ih]

@[simp]
theorem decode_nil : decode [] = 0 := rfl

@[simp]
theorem decode_cons (byte : UInt8) (rest : List UInt8) :
    decode (byte :: rest) = byte.toNat + 256 * decode rest := rfl

theorem decode_lt (bytes : List UInt8) : decode bytes < 256 ^ bytes.length := by
  induction bytes with
  | nil => simp
  | cons byte rest ih =>
      have hbyte : byte.toNat < 256 := byte.toNat_lt
      simp only [decode_cons, List.length_cons, pow_succ]
      nlinarith

/-- Reading back the bytes of a value gives the value modulo the width. -/
theorem decode_encode (width value : Nat) :
    decode (encode width value) = value % 256 ^ width := by
  induction width generalizing value with
  | zero => simp [encode, Nat.mod_one]
  | succ width ih =>
      have hlow : (UInt8.ofNat (value % 256)).toNat = value % 256 := by
        simp
      rw [encode, decode_cons, hlow, ih, pow_succ, mul_comm (256 ^ width) 256, Nat.mod_mul]

/-- Writing the bytes of a decoded string gives the string back. -/
theorem encode_decode (bytes : List UInt8) :
    encode bytes.length (decode bytes) = bytes := by
  induction bytes with
  | nil => rfl
  | cons byte rest ih =>
      have hbyte : byte.toNat < 256 := byte.toNat_lt
      have hlow : (byte.toNat + 256 * decode rest) % 256 = byte.toNat := by omega
      have hhigh : (byte.toNat + 256 * decode rest) / 256 = decode rest := by omega
      simp only [List.length_cons, encode, decode_cons, hlow, hhigh, ih, List.cons.injEq,
        and_true]
      exact UInt8.ofNat_toNat

theorem decode_encode_of_lt {width value : Nat} (hvalue : value < 256 ^ width) :
    decode (encode width value) = value := by
  rw [decode_encode, Nat.mod_eq_of_lt hvalue]

/-- The first `width` bytes of an encoding followed by anything are the encoding. -/
theorem take_encode_append (width value : Nat) (rest : List UInt8) :
    (encode width value ++ rest).take width = encode width value := by
  exact List.take_left' (length_encode width value)

theorem drop_encode_append (width value : Nat) (rest : List UInt8) :
    (encode width value ++ rest).drop width = rest := by
  exact List.drop_left' (length_encode width value)

end LittleEndian
