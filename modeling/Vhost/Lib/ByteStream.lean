import Mathlib

/-!
# Ordered byte streams with attached items

A connected stream socket carries bytes in order; each write may also carry a
batch of items (on Unix sockets, file descriptors) which the reader receives
with the first byte of that write.  A stream in flight is modelled as a list of
cells, one per byte, where a cell holds the items that ride on it.  Reading `n`
bytes takes the first `n` cells: their bytes in order and, concatenated, the
items attached to them.
-/

namespace ByteStream

/-- One byte in flight and the items whose write starts at it. -/
structure Cell (α : Type) where
  byte : UInt8
  attached : List α
  deriving DecidableEq, Repr

/-- The bytes written and not yet read, oldest first. -/
abbrev Stream (α : Type) := List (Cell α)

variable {α : Type}

/-- The bytes of a stretch of stream. -/
def bytes (stream : Stream α) : List UInt8 :=
  stream.map Cell.byte

/-- The items carried by a stretch of stream, in order. -/
def attached (stream : Stream α) : List α :=
  stream.flatMap Cell.attached

/-- The cells of one write of `data` carrying `items`: the items ride on its
first byte, and a write of no bytes carries nothing. -/
def pack : List UInt8 → List α → Stream α
  | [], _ => []
  | byte :: rest, items => ⟨byte, items⟩ :: rest.map (fun b => ⟨b, []⟩)

@[simp]
theorem bytes_nil : bytes ([] : Stream α) = [] := rfl

@[simp]
theorem attached_nil : attached ([] : Stream α) = [] := rfl

@[simp]
theorem bytes_append (front back : Stream α) :
    bytes (front ++ back) = bytes front ++ bytes back := by
  simp [bytes]

@[simp]
theorem attached_append (front back : Stream α) :
    attached (front ++ back) = attached front ++ attached back := by
  simp [attached]

@[simp]
theorem length_bytes (stream : Stream α) : (bytes stream).length = stream.length := by
  simp [bytes]

theorem bytes_take (stream : Stream α) (n : Nat) :
    bytes (stream.take n) = (bytes stream).take n := by
  simp [bytes, List.map_take]

theorem bytes_drop (stream : Stream α) (n : Nat) :
    bytes (stream.drop n) = (bytes stream).drop n := by
  simp [bytes, List.map_drop]

@[simp]
theorem pack_nil (items : List α) : pack [] items = [] := rfl

@[simp]
theorem bytes_pack (data : List UInt8) (items : List α) : bytes (pack data items) = data := by
  cases data with
  | nil => rfl
  | cons byte rest => simp [pack, bytes, Function.comp_def]

@[simp]
theorem length_pack (data : List UInt8) (items : List α) :
    (pack data items).length = data.length := by
  rw [← length_bytes, bytes_pack]

theorem attached_pack_cons (byte : UInt8) (rest : List UInt8) (items : List α) :
    attached (pack (byte :: rest) items) = items := by
  simp [pack, attached]

@[simp]
theorem attached_pack_nil_items (data : List UInt8) : attached (pack data ([] : List α)) = [] := by
  cases data with
  | nil => rfl
  | cons byte rest => exact attached_pack_cons byte rest []

/-- A prefix of a write is a write of the prefix with the same items. -/
theorem take_pack (data : List UInt8) (items : List α) (n : Nat) :
    (pack data items).take n = pack (data.take n) items := by
  cases data with
  | nil => simp
  | cons byte rest =>
      cases n with
      | zero => simp
      | succ n => simp [pack, List.map_take]

/-- What is left of a write once its first byte is read carries no items. -/
theorem drop_pack (data : List UInt8) (items : List α) {n : Nat} (hn : 0 < n) :
    (pack data items).drop n = pack (data.drop n) [] := by
  cases data with
  | nil => simp
  | cons byte rest =>
      obtain ⟨m, rfl⟩ : ∃ m, n = m + 1 := ⟨n - 1, by omega⟩
      cases hdrop : rest.drop m with
      | nil => simp [pack, ← List.map_drop, hdrop]
      | cons b bs => simp [pack, ← List.map_drop, hdrop]

/-- A write followed by one that carries nothing reads as a single write. -/
theorem pack_append_pack_nil {front : List UInt8} (back : List UInt8) (items : List α)
    (hfront : front ≠ []) : pack front items ++ pack back ([] : List α) = pack (front ++ back) items := by
  obtain ⟨byte, rest, rfl⟩ := List.exists_cons_of_ne_nil hfront
  cases back with
  | nil => simp [pack]
  | cons b bs => simp [pack]

/-- A read of at most `n` cells takes as many as the stream holds. -/
theorem take_length_take (stream : Stream α) (n : Nat) :
    stream.take (stream.take n).length = stream.take n := by
  rw [List.length_take]
  rcases le_total n stream.length with h | h
  · rw [Nat.min_eq_left h]
  · rw [Nat.min_eq_right h, List.take_of_length_le h, List.take_length]

theorem drop_length_take (stream : Stream α) (n : Nat) :
    stream.drop (stream.take n).length = stream.drop n := by
  rw [List.length_take]
  rcases le_total n stream.length with h | h
  · rw [Nat.min_eq_left h]
  · rw [Nat.min_eq_right h, List.drop_eq_nil_of_le h, List.drop_length]

/-- Reading exactly one whole write from the front leaves the stream behind it. -/
theorem drop_pack_append (data : List UInt8) (items : List α) (rest : Stream α) :
    (pack data items ++ rest).drop data.length = rest := by
  exact List.drop_left' (length_pack data items)

theorem take_pack_append (data : List UInt8) (items : List α) (rest : Stream α) :
    (pack data items ++ rest).take data.length = pack data items := by
  exact List.take_left' (length_pack data items)

/-- Reading part of a write that is at the front of the stream. -/
theorem take_pack_append_of_le (data : List UInt8) (items : List α) (rest : Stream α) {n : Nat}
    (hn : n ≤ data.length) : (pack data items ++ rest).take n = pack (data.take n) items := by
  rw [List.take_append_of_le_length (by simpa using hn), take_pack]

/-- What is left of a write at the front of the stream once part of it is read. -/
theorem drop_pack_append_of_le (data : List UInt8) (items : List α) (rest : Stream α) {n : Nat}
    (hpos : 0 < n) (hn : n ≤ data.length) :
    (pack data items ++ rest).drop n = pack (data.drop n) [] ++ rest := by
  rw [List.drop_append_of_le_length (by simpa using hn), drop_pack data items hpos]

end ByteStream
