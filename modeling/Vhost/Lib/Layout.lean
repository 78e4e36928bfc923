import Mathlib
import Vhost.Lib.LittleEndian

/-!
# Fixed-size layouts read and written as bytes

A plain-old-data value (a packed C struct, a machine integer) lives in memory as
a fixed number of bytes.  `Pod` gives a type its size and its two conversions,
with the two laws every use relies on: an encoding has the layout's size, and
reading the front of an encoding, whatever follows it, gives the value back.

Arrays of such values are laid out back to back; `listBytes` and `readList`
are their conversions, and `readList_listBytes` is their round trip.
-/

/-- A type laid out in memory as `size` bytes. -/
class Pod (T : Type) where
  size : Nat
  toBytes : T → List UInt8
  ofBytes : List UInt8 → T
  length_toBytes : ∀ value, (toBytes value).length = size
  ofBytes_toBytes_append : ∀ value rest, ofBytes (toBytes value ++ rest) = value

namespace Pod

variable {T : Type} [Pod T]

attribute [simp] length_toBytes ofBytes_toBytes_append

@[simp]
theorem ofBytes_toBytes (value : T) : ofBytes (toBytes value) = value := by
  simpa using ofBytes_toBytes_append value []

@[simp]
theorem drop_toBytes_append (value : T) (rest : List UInt8) :
    (toBytes value ++ rest).drop (size T) = rest := by
  exact List.drop_left' (length_toBytes value)

/-- Reading past a value at the front of a buffer lands inside what follows it. -/
@[simp]
theorem drop_toBytes_append_of_le (value : T) (rest : List UInt8) {n : Nat}
    (hn : size T ≤ n) : (toBytes value ++ rest).drop n = rest.drop (n - size T) := by
  rw [List.drop_append, List.drop_eq_nil_of_le (by simpa using hn), length_toBytes,
    List.nil_append]

/-- Values laid out back to back, as in a slice. -/
def listBytes (values : List T) : List UInt8 :=
  values.flatMap toBytes

/-- The `count` values laid out back to back at the front of `bytes`. -/
def readList (count : Nat) (bytes : List UInt8) : List T :=
  (List.range count).map fun index => ofBytes (bytes.drop (size T * index))

@[simp]
theorem listBytes_nil : listBytes ([] : List T) = [] := rfl

@[simp]
theorem listBytes_cons (value : T) (values : List T) :
    listBytes (value :: values) = toBytes value ++ listBytes values := rfl

@[simp]
theorem length_listBytes (values : List T) :
    (listBytes values).length = size T * values.length := by
  induction values with
  | nil => simp
  | cons value values ih => simp [ih, Nat.mul_succ, Nat.add_comm]

/-- Skipping `index` whole values of a laid-out list lands on the rest of it. -/
theorem drop_listBytes_append (values : List T) (rest : List UInt8) (index : Nat) :
    (listBytes values ++ rest).drop (size T * index) =
      listBytes (values.drop index) ++ (rest.drop (size T * (index - values.length))) := by
  induction values generalizing index with
  | nil => simp
  | cons value values ih =>
      cases index with
      | zero => simp
      | succ index =>
          have hsplit : size T * (index + 1) = size T + size T * index := by ring
          rw [listBytes_cons, List.append_assoc, hsplit, ← List.drop_drop,
            drop_toBytes_append, ih]
          simp

theorem ofBytes_drop_listBytes_append (values : List T) (rest : List UInt8) {index : Nat}
    (hindex : index < values.length) :
    ofBytes ((listBytes values ++ rest).drop (size T * index)) = values[index] := by
  rw [drop_listBytes_append, List.drop_eq_getElem_cons hindex, listBytes_cons,
    List.append_assoc, ofBytes_toBytes_append]

/-- Reading back as many values as were laid out gives them back. -/
theorem readList_listBytes_append (values : List T) (rest : List UInt8) :
    readList values.length (listBytes values ++ rest) = values := by
  apply List.ext_getElem
  · simp [readList]
  · intro index hindex _
    simp only [readList, List.getElem_map, List.getElem_range]
    exact ofBytes_drop_listBytes_append values rest (by simpa [readList] using hindex)

end Pod

/-! ## Machine integers -/

instance : Pod UInt8 where
  size := 1
  toBytes value := [value]
  ofBytes bytes := bytes.headD 0
  length_toBytes _ := rfl
  ofBytes_toBytes_append _ _ := rfl

instance : Pod UInt32 where
  size := 4
  toBytes value := LittleEndian.encode 4 value.toNat
  ofBytes bytes := UInt32.ofNat (LittleEndian.decode (bytes.take 4))
  length_toBytes _ := LittleEndian.length_encode 4 _
  ofBytes_toBytes_append value rest := by
    rw [LittleEndian.take_encode_append,
      LittleEndian.decode_encode_of_lt (by simpa using value.toNat_lt)]
    exact UInt32.ofNat_toNat

instance : Pod UInt64 where
  size := 8
  toBytes value := LittleEndian.encode 8 value.toNat
  ofBytes bytes := UInt64.ofNat (LittleEndian.decode (bytes.take 8))
  length_toBytes _ := LittleEndian.length_encode 8 _
  ofBytes_toBytes_append value rest := by
    rw [LittleEndian.take_encode_append,
      LittleEndian.decode_encode_of_lt (by simpa using value.toNat_lt)]
    exact UInt64.ofNat_toNat

/-- A signed word travels as the bits of its unsigned counterpart. -/
instance : Pod Int32 where
  size := 4
  toBytes value := Pod.toBytes value.toUInt32
  ofBytes bytes := (Pod.ofBytes bytes : UInt32).toInt32
  length_toBytes _ := LittleEndian.length_encode 4 _
  ofBytes_toBytes_append value rest := by
    rw [Pod.ofBytes_toBytes_append, Int32.toInt32_toUInt32]

@[simp] theorem Pod.size_uInt8 : Pod.size UInt8 = 1 := rfl
@[simp] theorem Pod.size_uInt32 : Pod.size UInt32 = 4 := rfl
@[simp] theorem Pod.size_uInt64 : Pod.size UInt64 = 8 := rfl
@[simp] theorem Pod.size_int32 : Pod.size Int32 = 4 := rfl

/-- A slice of bytes is laid out as itself. -/
@[simp]
theorem Pod.listBytes_uInt8 (bytes : List UInt8) : Pod.listBytes bytes = bytes := by
  induction bytes with
  | nil => rfl
  | cons byte bytes ih =>
      rw [Pod.listBytes_cons, ih]
      rfl

/-- A fixed-length array of values, laid out back to back. -/
instance {T : Type} [Pod T] {n : Nat} : Pod (Vector T n) where
  size := Pod.size T * n
  toBytes values := Pod.listBytes values.toList
  ofBytes bytes := Vector.ofFn fun index => Pod.ofBytes (bytes.drop (Pod.size T * index.val))
  length_toBytes values := by simp
  ofBytes_toBytes_append values rest := by
    apply Vector.ext
    intro index hindex
    simp only [Vector.getElem_ofFn]
    rw [Pod.ofBytes_drop_listBytes_append values.toList rest (by simpa using hindex)]
    simp

@[simp]
theorem Pod.size_vector {T : Type} [Pod T] {n : Nat} : Pod.size (Vector T n) = Pod.size T * n :=
  rfl
