import Mathlib
import Vhost.Lib.Segments
import Vhost.User.Transfer

/-!
# The scatter-gather loops

`send_iovec_all` and `recv_into_iovec_all` move a list of buffers through a
socket that may move fewer bytes than offered.  After each call they find where
the next byte lies with `get_sub_iovs_offset` and offer the rest of that buffer
and every later one.

`get_sub_iovs_offset` skips whole buffers while the offset left is at least
their length, zero-length ones included.  Below the total length it stops
inside a buffer, so the index it returns is in bounds and what the loops offer
is the data from that offset on.
-/

namespace Vhost.User

/-! ## Locating an offset -/

/-- The loop of `get_sub_iovs_offset`, from `nrSkip` buffers already skipped: an
offset below the total stops inside buffer `k`, at `off`, after the buffers
before it. -/
theorem getSubIovsOffset_go_spec (lens : List Nat) (size nrSkip : Nat) (h : size < lens.sum) :
    ∃ k off, ∃ hk : k < lens.length, getSubIovsOffset.go lens size nrSkip = (nrSkip + k, off) ∧
      off < lens[k] ∧ (lens.take k).sum + off = size := by
  induction lens generalizing size nrSkip with
  | nil => simp at h
  | cons len rest ih =>
      rw [List.sum_cons] at h
      by_cases hskip : size ≥ len
      · -- the buffer is skipped whole, and the offset lies in the rest
        obtain ⟨k, off, hk, hgo, hoff, hsum⟩ := ih (size - len) (nrSkip + 1) (by omega)
        refine ⟨k + 1, off, by simpa using hk, ?_, by simpa using hoff, ?_⟩
        · rw [getSubIovsOffset.go, if_pos hskip, hgo]
          ring_nf
        · rw [List.take_succ_cons, List.sum_cons]
          omega
      · -- the offset lies in this buffer
        refine ⟨0, size, by simp, ?_, by simpa using hskip, by simp⟩
        rw [getSubIovsOffset.go, if_neg hskip, Nat.add_zero]

theorem getSubIovsOffset_spec (lens : List Nat) {skip : Nat} (h : skip < lens.sum) :
    ∃ k off, ∃ hk : k < lens.length, getSubIovsOffset lens skip = (k, off) ∧
      off < lens[k] ∧ (lens.take k).sum + off = skip := by
  obtain ⟨k, off, hk, hgo, hoff, hsum⟩ := getSubIovsOffset_go_spec lens skip 0 h
  exact ⟨k, off, hk, by rw [getSubIovsOffset, hgo, Nat.zero_add], hoff, hsum⟩

/-- `get_sub_iovs_offset` locates a byte offset below the total: the buffer it
names exists, the offset lies inside it, and the buffers before it with the
offset add up to the skip.  What the loops then offer, the rest of that buffer
and every later one, is the data from the skip on. -/
theorem getSubIovsOffset_locates (lens : List Nat) {skip : Nat} (h : skip < lens.sum) :
    ∃ k off, ∃ hk : k < lens.length, getSubIovsOffset lens skip = (k, off) ∧
      off < lens[k] ∧ (lens.take k).sum + off = skip ∧
      ∀ iovs : List (List UInt8), iovs.map List.length = lens →
        ∃ iov, iovs[k]? = some iov ∧ (iov.drop off :: iovs.drop (k + 1)).flatten =
          iovs.flatten.drop skip := by
  obtain ⟨k, off, hk, hget, hoff, hsum⟩ := getSubIovsOffset_spec lens h
  refine ⟨k, off, hk, hget, hoff, hsum, fun iovs hlens => ?_⟩
  subst hlens
  have hk' : k < iovs.length := by simpa using hk
  refine ⟨iovs[k], List.getElem?_eq_getElem hk', ?_⟩
  rw [Segments.drop_flatten_eq iovs hk' (le_of_lt (by simpa using hoff)), hsum]

/-- The example of the source's comment: lengths 4, 4, 5 and a skip of 6. -/
theorem getSubIovsOffset_locates_four_four_five :
    ∃ k off, ∃ hk : k < [4, 4, 5].length, getSubIovsOffset [4, 4, 5] 6 = (k, off) ∧
      off < [4, 4, 5][k] ∧ ([4, 4, 5].take k).sum + off = 6 ∧
      ∀ iovs : List (List UInt8), iovs.map List.length = [4, 4, 5] →
        ∃ iov, iovs[k]? = some iov ∧ (iov.drop off :: iovs.drop (k + 1)).flatten =
          iovs.flatten.drop 6 :=
  getSubIovsOffset_locates [4, 4, 5] (by decide)

example : getSubIovsOffset [4, 4, 5] 6 = (1, 2) := by decide

example : getSubIovsOffset [0, 0, 3] 0 = (2, 0) := by decide

/-! ## A read that stops short -/

/-- The read leaves every buffer as long as it was. -/
theorem map_length_scatter (bufs : List (List UInt8)) (data : List UInt8) :
    (scatter bufs data).map List.length = bufs.map List.length := by
  induction bufs generalizing data with
  | nil => rfl
  | cons buf bufs ih =>
      simp only [scatter, List.map_cons, ih, List.length_append, List.length_take, List.length_drop]
      congr 1
      omega

@[simp]
theorem scatter_nil (bufs : List (List UInt8)) : scatter bufs [] = bufs := by
  induction bufs with
  | nil => rfl
  | cons buf bufs ih => simp [scatter, ih]

/-- Read as one buffer, the buffers hold the bytes read, as many as fit, and
past them what they held before. -/
theorem flatten_scatter (bufs : List (List UInt8)) (data : List UInt8) :
    (scatter bufs data).flatten = data.take bufs.flatten.length ++ bufs.flatten.drop data.length := by
  induction bufs generalizing data with
  | nil => simp [scatter]
  | cons buf bufs ih =>
      rw [scatter, List.flatten_cons, ih, List.flatten_cons, List.length_append, List.take_add,
        List.drop_append, List.length_drop]
      by_cases hshort : data.length ≤ buf.length
      · -- the bytes end inside this buffer
        simp [List.drop_eq_nil_of_le hshort, List.take_of_length_le hshort, Nat.sub_eq_zero_of_le hshort]
      · -- the buffer is overwritten whole
        simp [List.drop_eq_nil_of_le (Nat.le_of_not_le hshort)]

section Partial

variable {σ : Type} [Os σ]

/-- `recv_into_iovec_all` whose first read fills only part of the buffers and
whose read of the rest blocks for ever: it never returns. -/
theorem run_recvIntoIovecAll_of_partial_of_blocks {s s₁ s₂ : σ} (iov : List UInt8)
    (rest : List (List UInt8)) (hiov : iov ≠ []) {data : List UInt8} {fds : List Fd}
    (hread : Os.recvmsg s ((iov :: rest).map List.length).sum maxAttachedFdEntries =
      (some (.ok (data, fds)), s₁))
    (hpos : 0 < data.length) (hshort : data.length < ((iov :: rest).map List.length).sum)
    (hblock : Os.recvmsg s₁ (((iov :: rest).map List.length).sum - data.length)
      maxAttachedFdEntries = (none, s₂)) :
    (recvIntoIovecAll (σ := σ) (iov :: rest)).run s = .error .diverges s₂ := by
  -- the second round starts where the first read stopped
  obtain ⟨k, off, hk, hskip, hoff, hsum⟩ := getSubIovsOffset_spec ((iov :: rest).map List.length) hshort
  have hlens := map_length_scatter (iov :: rest) data
  have hk' : k < (scatter (iov :: rest) data).length := by
    simpa [← hlens] using hk
  have hoffset : off ≤ (scatter (iov :: rest) data)[k].length := by
    have hlen_k : (scatter (iov :: rest) data)[k].length = ((iov :: rest).map List.length)[k] := by
      rw [← List.getElem_map List.length (h := by simpa using hk')]
      exact List.getElem_of_eq hlens _
    omega
  have hwant : (((scatter (iov :: rest) data)[k].drop off ::
      (scatter (iov :: rest) data).drop (k + 1)).map List.length).sum =
      ((iov :: rest).map List.length).sum - data.length := by
    rw [Segments.sum_map_length_drop_offset _ hk' hoffset, hlens, hsum]
  have hblocked : (recvIntoIovec (σ := σ) ((scatter (iov :: rest) data)[k].drop off ::
      (scatter (iov :: rest) data).drop (k + 1))).run s₁ = .error .diverges s₂ := by
    simp only [recvIntoIovec, EStateM.run_bind, hwant, run_rawRecvmsg_of_blocks hblock]
  obtain ⟨fuel, hfuel⟩ : ∃ fuel,
      ((iov :: rest).map List.length).sum + Os.retryBound s = fuel + 1 :=
    ⟨((iov :: rest).map List.length).sum + Os.retryBound s - 1, by omega⟩
  rw [run_recvIntoIovecAll_of_first_read iov rest hiov hread hpos, hfuel]
  exact run_recvIntoIovecAllLoop_fault _ _ _ _ hshort hskip (List.getElem?_eq_getElem hk')
    hoffset hblocked rfl

/-- `recv_payload_into_buf::<T>` whose first read stops short of the body and
the buffer, and whose read of the rest blocks for ever. -/
theorem run_recvPayloadIntoBuf_of_partial_of_blocks {R T : Type} [Req R] [Pod T]
    [VhostUserMsgValidator T] {s s₁ s₂ : σ} (buf : List UInt8) {data : List UInt8}
    {fds : List Fd}
    (hread : Os.recvmsg s (12 + (Pod.size T + buf.length)) maxAttachedFdEntries =
      (some (.ok (data, fds)), s₁))
    (hpos : 0 < data.length) (hshort : data.length < 12 + (Pod.size T + buf.length))
    (hblock : Os.recvmsg s₁ (12 + (Pod.size T + buf.length) - data.length)
      maxAttachedFdEntries = (none, s₂)) :
    (recvPayloadIntoBuf (σ := σ) (R := R) (T := T) buf).run s = .error .diverges s₂ := by
  have hsum : ([Pod.toBytes (VhostUserMsgHeader.default (R := R)), zeroed T, buf].map
      List.length).sum = 12 + (Pod.size T + buf.length) := by
    simp [zeroed]
  have hall := run_recvIntoIovecAll_of_partial_of_blocks (σ := σ) _ [zeroed T, buf]
    (toBytes_header_ne_nil (VhostUserMsgHeader.default (R := R))) (by rw [hsum]; exact hread) hpos
    (by rw [hsum]; exact hshort) (by rw [hsum]; exact hblock)
  simp only [recvPayloadIntoBuf, EStateM.run_bind, hall]

end Partial

end Vhost.User
