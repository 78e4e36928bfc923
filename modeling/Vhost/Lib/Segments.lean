import Mathlib

/-!
# Offsets in a list of segments

Scatter-gather I/O addresses one logical buffer, the concatenation of a list of
segments, through the segments themselves.  An offset into the whole is a
segment index and an offset inside that segment, and the whole from that
offset on is the rest of that segment followed by the later segments.
-/

namespace Segments

variable {α : Type}

/-- The segments before index `k` are as long as their lengths add up to. -/
theorem length_flatten_take (segs : List (List α)) (k : Nat) :
    ((segs.take k).flatten).length = ((segs.map List.length).take k).sum := by
  rw [List.length_flatten, List.map_take]

/-- The whole around segment `k`: the segments before it, it, and the later ones. -/
theorem flatten_eq_around (segs : List (List α)) {k : Nat} (hk : k < segs.length) :
    segs.flatten = (segs.take k).flatten ++ (segs[k] ++ (segs.drop (k + 1)).flatten) := by
  conv_lhs => rw [← List.take_append_drop k segs]
  rw [List.flatten_append, List.drop_eq_getElem_cons hk, List.flatten_cons]

/-- The whole from a located offset on: the rest of the segment reached, then the
later segments. -/
theorem drop_flatten_eq (segs : List (List α)) {k : Nat} (hk : k < segs.length) {off : Nat}
    (hoff : off ≤ segs[k].length) :
    (segs[k].drop off :: segs.drop (k + 1)).flatten =
      segs.flatten.drop (((segs.map List.length).take k).sum + off) := by
  rw [flatten_eq_around segs hk, ← length_flatten_take, List.drop_length_add_append,
    List.flatten_cons, List.drop_append_of_le_length hoff]

/-- The whole up to a located offset: the segments before it, then the start of
the segment reached. -/
theorem take_flatten_eq (segs : List (List α)) {k : Nat} (hk : k < segs.length) {off : Nat}
    (hoff : off ≤ segs[k].length) :
    (segs.take k).flatten ++ segs[k].take off =
      segs.flatten.take (((segs.map List.length).take k).sum + off) := by
  rw [flatten_eq_around segs hk, ← length_flatten_take, List.take_length_add_append,
    List.take_append_of_le_length hoff]

/-- The whole from a located offset on is as long as what the offset leaves. -/
theorem sum_map_length_drop_offset (segs : List (List α)) {k off : Nat} (hk : k < segs.length)
    (hoff : off ≤ segs[k].length) :
    ((segs[k].drop off :: segs.drop (k + 1)).map List.length).sum =
      (segs.map List.length).sum - (((segs.map List.length).take k).sum + off) := by
  have hlength := congrArg List.length (drop_flatten_eq segs hk hoff)
  rwa [List.length_flatten, List.length_drop, List.length_flatten] at hlength

/-- Segments are cut back out of their concatenation by their lengths. -/
theorem splitLengths_flatten (segs : List (List α)) :
    (segs.map List.length).splitLengths segs.flatten = segs := by
  induction segs with
  | nil => rfl
  | cons seg segs ih => simp [ih]

/-- Two lists of segments of the same lengths are equal when their
concatenations are. -/
theorem eq_of_flatten_eq {segs segs' : List (List α)}
    (hlen : segs.map List.length = segs'.map List.length) (hflat : segs.flatten = segs'.flatten) :
    segs = segs' := by
  rw [← splitLengths_flatten segs, ← splitLengths_flatten segs', hlen, hflat]

/-! ## A stream cut into frames -/

/-- `l` is whole frames one after another, each satisfying `P`. -/
inductive Frames (P : List α → Prop) : List α → Prop
  | nil : Frames P []
  | cons {frame rest : List α} : P frame → Frames P rest → Frames P (frame ++ rest)

namespace Frames

variable {P : List α → Prop}

theorem single {frame : List α} (hframe : P frame) : Frames P frame := by
  simpa using cons hframe nil

/-- Frames followed by frames are frames: by induction on the first run. -/
theorem append {l l' : List α} (hl : Frames P l) (hl' : Frames P l') : Frames P (l ++ l') := by
  induction hl with
  | nil => exact hl'
  | cons hframe _ ih =>
      rw [List.append_assoc]
      exact cons hframe ih

/-- A writer that appends one whole frame keeps the stream cut into frames. -/
theorem snoc {l frame : List α} (hl : Frames P l) (hframe : P frame) :
    Frames P (l ++ frame) :=
  hl.append (single hframe)

end Frames

end Segments
