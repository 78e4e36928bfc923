import Mathlib
import Vhost.User.Connection

/-!
# Whole messages through a kernel that answers every call in full

The endpoint loops of `connection.rs` are written for a kernel that may move
fewer bytes than asked and fail with retryable errors.  When it does neither
(the socket's plans are empty: the documented behaviour of a blocking socket
with `MSG_WAITALL`), one round of each loop moves everything: a send appends
the whole message to the stream, with its descriptors on the first byte, and a
read of `n` bytes takes the first `n` cells of the stream.

The loop lemmas come first, for any kernel: one round that moves `n > 0`
bytes, and the round that finds nothing left.  The specifications of the
endpoint functions on a socket with empty plans follow from them, and last
come the facts about a stream that starts with one whole message.
-/

namespace Vhost.User

open ByteStream

namespace Sock

/-- The socket after it took the whole of a write of `data` carrying `fds`. -/
def afterSend (o : Sock) (data : List UInt8) (fds : List Fd) : Sock :=
  { o with tx := o.tx ++ pack data fds }

/-- The socket after a read of its first `n` bytes, with room for `room`
descriptors. -/
def afterRecv (o : Sock) (n room : Nat) : Sock :=
  { o with rx := o.rx.drop n, received := o.received ++ (attached (o.rx.take n)).take room }

/-- The descriptors a read of the first `n` bytes hands over, if any come: the
kernel installs at most `MAX_ATTACHED_FD_ENTRIES` of them. -/
def readFds (o : Sock) (n : Nat) : Option (List Fd) :=
  let fds := (attached (o.rx.take n)).take maxAttachedFdEntries
  if fds.isEmpty then none else some fds

@[simp]
theorem rx_afterRecv (o : Sock) (n room : Nat) : (o.afterRecv n room).rx = o.rx.drop n := rfl

@[simp]
theorem recvPlan_afterRecv (o : Sock) (n room : Nat) :
    (o.afterRecv n room).recvPlan = o.recvPlan := rfl

@[simp]
theorem sendPlan_afterSend (o : Sock) (data : List UInt8) (fds : List Fd) :
    (o.afterSend data fds).sendPlan = o.sendPlan := rfl

@[simp]
theorem tx_afterSend (o : Sock) (data : List UInt8) (fds : List Fd) :
    (o.afterSend data fds).tx = o.tx ++ pack data fds := rfl

@[simp]
theorem afterRecv_zero (o : Sock) (room : Nat) : o.afterRecv 0 room = o := by
  simp [afterRecv]

theorem afterSend_afterSend (o : Sock) (data data' : List UInt8) (fds fds' : List Fd) :
    (o.afterSend data fds).afterSend data' fds' =
      { o with tx := o.tx ++ pack data fds ++ pack data' fds' } := rfl

/-- Reading `m` bytes and then `n` more: the stream advances by both, and the
kernel installs what rode on each read. -/
theorem afterRecv_afterRecv (o : Sock) (m n room room' : Nat) :
    (o.afterRecv m room).afterRecv n room' =
      { o with rx := o.rx.drop (m + n),
               received := o.received ++ (attached (o.rx.take m)).take room ++
                 (attached ((o.rx.drop m).take n)).take room' } := by
  simp [afterRecv, List.drop_drop]

end Sock

/-! ## One round of the loops -/

section Loops

variable {σ : Type} [Os σ]

/-- Nothing sent yet and a first buffer that is not empty: a loop starts at its
front. -/
theorem getSubIovsOffset_cons_zero (iov : List UInt8) (rest : List (List UInt8))
    (hiov : iov ≠ []) : getSubIovsOffset ((iov :: rest).map List.length) 0 = (0, 0) := by
  have hlen : 0 < iov.length := List.length_pos_of_ne_nil hiov
  rw [List.map_cons, getSubIovsOffset, getSubIovsOffset.go, if_neg (by omega)]

/-- Buffers whose first is not empty have room for something. -/
theorem sum_map_length_pos (iov : List UInt8) (rest : List (List UInt8)) (hiov : iov ≠ []) :
    0 < ((iov :: rest).map List.length).sum := by
  have hlen : 0 < iov.length := List.length_pos_of_ne_nil hiov
  rw [List.map_cons, List.sum_cons]
  omega

theorem run_sendIovecAllLoop_done (iovs : List (List UInt8)) (fds : Option (List Fd))
    {dataTotal dataSent : Nat} (fuel : Nat) (hdone : dataTotal ≤ dataSent) (s : σ) :
    (sendIovecAllLoop iovs fds dataTotal (fuel + 1) dataSent).run s = .ok dataSent s := by
  rw [sendIovecAllLoop, if_neg (by omega)]
  rfl

/-- A round of `send_iovec_all` whose `sendmsg` took `n > 0` bytes goes on from
`dataSent + n`. -/
theorem run_sendIovecAllLoop_sent (iovs : List (List UInt8)) (fds : Option (List Fd))
    {dataTotal dataSent nrSkip offset n : Nat} {iov : List UInt8} (fuel : Nat) {s s' : σ}
    (hlt : dataSent < dataTotal)
    (hskip : getSubIovsOffset (iovs.map List.length) dataSent = (nrSkip, offset))
    (hiov : iovs[nrSkip]? = some iov) (hoffset : offset ≤ iov.length)
    (hsend : (sendIovec (σ := σ) (iov.drop offset :: iovs.drop (nrSkip + 1))
      (if dataSent = 0 then fds else none)).run s = .ok n s') (hn : 0 < n) :
    (sendIovecAllLoop iovs fds dataTotal (fuel + 1) dataSent).run s =
      (sendIovecAllLoop iovs fds dataTotal fuel (dataSent + n)).run s' := by
  rw [sendIovecAllLoop, if_pos (by omega), hskip]
  obtain ⟨m, rfl⟩ : ∃ m, n = m + 1 := ⟨n - 1, by omega⟩
  simp [subSlice, hiov, hoffset, Prog.result, hsend]

theorem run_recvIntoIovecAllLoop_done (iovLens : List Nat) {dataTotal dataRead : Nat}
    (fuel : Nat) (iovs : List (List UInt8)) (rfds : Option (List Fd))
    (hdone : dataTotal ≤ dataRead) (s : σ) :
    (recvIntoIovecAllLoop iovLens dataTotal (fuel + 1) iovs dataRead rfds).run s =
      .ok (dataRead, rfds, iovs) s := by
  rw [recvIntoIovecAllLoop, if_neg (by omega)]
  rfl

/-- A round of `recv_into_iovec_all` whose read returned `n > 0` bytes goes on
from `dataRead + n`, with the buffers as the read left them and the
descriptors of the first read. -/
theorem run_recvIntoIovecAllLoop_read (iovLens : List Nat)
    {dataTotal dataRead nrSkip offset n : Nat} (fuel : Nat) (iovs : List (List UInt8))
    (rfds fds : Option (List Fd)) {iov : List UInt8} {filled : List (List UInt8)} {s s' : σ}
    (hlt : dataRead < dataTotal)
    (hskip : getSubIovsOffset iovLens dataRead = (nrSkip, offset))
    (hiov : iovs[nrSkip]? = some iov) (hoffset : offset ≤ iov.length)
    (hread : (recvIntoIovec (σ := σ) (iov.drop offset :: iovs.drop (nrSkip + 1))).run s =
      .ok (n, fds, filled) s') (hn : 0 < n) :
    (recvIntoIovecAllLoop iovLens dataTotal (fuel + 1) iovs dataRead rfds).run s =
      (recvIntoIovecAllLoop iovLens dataTotal fuel
        (iovs.take nrSkip ++ (iov.take offset ++ filled.headD []) :: filled.tail)
        (dataRead + n) (if dataRead = 0 then fds else rfds)).run s' := by
  rw [recvIntoIovecAllLoop, if_pos (by omega), hskip]
  obtain ⟨m, rfl⟩ : ∃ m, n = m + 1 := ⟨n - 1, by omega⟩
  simp [hiov, Nat.not_lt.2 hoffset, Prog.result, hread]

/-- A round of `recv_into_iovec_all` whose read never returns (it blocks, or
panics) ends the loop there: only `Err`s are handed back to it. -/
theorem run_recvIntoIovecAllLoop_fault (iovLens : List Nat)
    {dataTotal dataRead nrSkip offset : Nat} (fuel : Nat) (iovs : List (List UInt8))
    (rfds : Option (List Fd)) {iov : List UInt8} {f : Fault} {s s' : σ}
    (hlt : dataRead < dataTotal)
    (hskip : getSubIovsOffset iovLens dataRead = (nrSkip, offset))
    (hiov : iovs[nrSkip]? = some iov) (hoffset : offset ≤ iov.length)
    (hread : (recvIntoIovec (σ := σ) (iov.drop offset :: iovs.drop (nrSkip + 1))).run s =
      .error f s') (hf : f.error? = none) :
    (recvIntoIovecAllLoop iovLens dataTotal (fuel + 1) iovs dataRead rfds).run s =
      .error f s' := by
  rw [recvIntoIovecAllLoop, if_pos (by omega), hskip]
  simp [hiov, Nat.not_lt.2 hoffset, Prog.result, hread, hf]

end Loops

/-! ## Whole transfers on any kernel -/

theorem toBytes_header_ne_nil {R : Type} (hdr : VhostUserMsgHeader R) : Pod.toBytes hdr ≠ [] := by
  rw [← List.length_pos_iff, Pod.length_toBytes]
  simp

section Whole

variable {σ : Type} [Os σ]

theorem run_rawSendmsg_of_sendmsg {data : List UInt8} {fds : List Fd} {n : Nat} {s s' : σ}
    (hsend : Os.sendmsg s data fds = (.ok n, s')) :
    (rawSendmsg (σ := σ) data fds).run s = .ok n s' := by
  simp [rawSendmsg, hsend]

/-- `send_iovec_all` of buffers whose first is not empty, on a kernel whose
`sendmsg` takes them all at once. -/
theorem run_sendIovecAll_of_sendmsg {s s' : σ} (iov : List UInt8) (rest : List (List UInt8))
    (fds : Option (List Fd)) (hiov : iov ≠ [])
    (hsend : Os.sendmsg s (iov :: rest).flatten (fds.getD []) =
      (.ok (iov :: rest).flatten.length, s')) :
    (sendIovecAll (σ := σ) (iov :: rest) fds).run s = .ok (iov :: rest).flatten.length s' := by
  have htotal : ((iov :: rest).map List.length).sum = (iov :: rest).flatten.length := by
    simp [List.length_flatten]
  have hpos : 0 < (iov :: rest).flatten.length := htotal ▸ sum_map_length_pos iov rest hiov
  have hround : (sendIovec (σ := σ) (iov.drop 0 :: (iov :: rest).drop (0 + 1))
      (if 0 = 0 then fds else none)).run s = .ok (iov :: rest).flatten.length s' := by
    rw [List.drop_zero, Nat.zero_add, List.drop_one, List.tail_cons, if_pos rfl]
    exact run_rawSendmsg_of_sendmsg hsend
  -- one round sends everything; the next one finds nothing left to send
  obtain ⟨fuel, hfuel⟩ : ∃ fuel,
      ((iov :: rest).map List.length).sum + Os.retryBound s + 1 = fuel + 1 + 1 :=
    ⟨((iov :: rest).map List.length).sum + Os.retryBound s - 1, by omega⟩
  simp only [sendIovecAll, EStateM.run_bind]
  show (sendIovecAllLoop _ _ _ (_ + Os.retryBound s + 1) 0).run s = _
  rw [hfuel, run_sendIovecAllLoop_sent _ _ _ (by omega) (getSubIovsOffset_cons_zero iov rest hiov)
    rfl (Nat.zero_le _) hround hpos, run_sendIovecAllLoop_done _ _ _ (by omega), Nat.zero_add]

theorem run_sendMessage_of_sendmsg {R T : Type} [Pod T] {s s' : σ} (hdr : VhostUserMsgHeader R)
    (body : T) (fds : Option (List Fd))
    (hsend : Os.sendmsg s (Pod.toBytes hdr ++ Pod.toBytes body) (fds.getD []) =
      (.ok (12 + Pod.size T), s')) :
    (sendMessage (σ := σ) hdr body fds).run s = .ok () s' := by
  have hall : (sendIovecAll (σ := σ) [Pod.toBytes hdr, Pod.toBytes body] fds).run s =
      .ok [Pod.toBytes hdr, Pod.toBytes body].flatten.length s' :=
    run_sendIovecAll_of_sendmsg _ _ fds (toBytes_header_ne_nil hdr) (by simpa using hsend)
  simp [sendMessage, hall]

/-- `send_message_with_payload` within the size and descriptor limits, on a
kernel whose `sendmsg` takes the whole message at once. -/
theorem run_sendMessageWithPayload_of_sendmsg {R T P : Type} [Pod T] [Pod P] {s s' : σ}
    (hdr : VhostUserMsgHeader R) (body : T) (payload : List P) (fds : Option (List Fd))
    (hsize : payload.length * Pod.size P ≤ maxMsgSize - Pod.size T)
    (hfds : ∀ fdArr, fds = some fdArr → fdArr.length ≤ maxAttachedFdEntries)
    (hsend : Os.sendmsg s (Pod.toBytes hdr ++ Pod.toBytes body ++ Pod.listBytes payload)
      (fds.getD []) = (.ok (12 + Pod.size T + payload.length * Pod.size P), s')) :
    (sendMessageWithPayload (σ := σ) hdr body payload fds).run s = .ok () s' := by
  have hall : (sendIovecAll (σ := σ) [Pod.toBytes hdr, Pod.toBytes body, Pod.listBytes payload]
      fds).run s = .ok (12 + Pod.size T + payload.length * Pod.size P) s' := by
    have hlen : [Pod.toBytes hdr, Pod.toBytes body, Pod.listBytes payload].flatten.length =
        12 + Pod.size T + payload.length * Pod.size P := by
      simp [Nat.mul_comm, Nat.add_assoc]
    rw [← hlen]
    exact run_sendIovecAll_of_sendmsg _ _ fds (toBytes_header_ne_nil hdr)
      (by rw [hlen]; simpa [List.append_assoc] using hsend)
  -- the descriptor limit is a match on `fds` before the send
  cases fds with
  | none => simp [sendMessageWithPayload, Nat.not_lt.2 hsize, hall]
  | some fdArr =>
      simp [sendMessageWithPayload, Nat.not_lt.2 hsize, Nat.not_lt.2 (hfds fdArr rfl), hall]

theorem run_rawRecvmsg_of_recvmsg {want room : Nat} {s s' : σ} {data : List UInt8}
    {fds : List Fd} (hread : Os.recvmsg s want room = (some (.ok (data, fds)), s'))
    (hne : data ≠ []) :
    (rawRecvmsg (σ := σ) want room).run s = .ok (data, fds) s' := by
  simp [rawRecvmsg, hread, hne]

theorem run_rawRecvmsg_of_blocks {want room : Nat} {s s' : σ}
    (hblock : Os.recvmsg s want room = (none, s')) :
    (rawRecvmsg (σ := σ) want room).run s = .error .diverges s' := by
  simp [rawRecvmsg, hblock]

/-- `recv_into_iovec_all` of buffers whose first is not empty, when the first
read blocks for ever: it never returns. -/
theorem run_recvIntoIovecAll_of_blocks {s s' : σ} (iov : List UInt8) (rest : List (List UInt8))
    (hiov : iov ≠ [])
    (hblock : Os.recvmsg s ((iov :: rest).map List.length).sum maxAttachedFdEntries =
      (none, s')) :
    (recvIntoIovecAll (σ := σ) (iov :: rest)).run s = .error .diverges s' := by
  have hpos := sum_map_length_pos iov rest hiov
  have hread : (recvIntoIovec (σ := σ) (iov.drop 0 :: (iov :: rest).drop (0 + 1))).run s =
      .error .diverges s' := by
    rw [List.drop_zero, Nat.zero_add, List.drop_one, List.tail_cons]
    simp only [recvIntoIovec, EStateM.run_bind, run_rawRecvmsg_of_blocks hblock]
  simp only [recvIntoIovecAll, EStateM.run_bind]
  show (recvIntoIovecAllLoop _ _ (_ + Os.retryBound s + 1) _ 0 none).run s = _
  exact run_recvIntoIovecAllLoop_fault _ _ _ _ hpos (getSubIovsOffset_cons_zero iov rest hiov)
    rfl (Nat.zero_le _) hread rfl

/-- The first round of `recv_into_iovec_all` on buffers whose first is not
empty: a read of `data` fills them from the front, and the loop goes on from
there with the descriptors of that read. -/
theorem run_recvIntoIovecAll_of_first_read {s s' : σ} (iov : List UInt8)
    (rest : List (List UInt8)) (hiov : iov ≠ []) {data : List UInt8} {fds : List Fd}
    (hread : Os.recvmsg s ((iov :: rest).map List.length).sum maxAttachedFdEntries =
      (some (.ok (data, fds)), s'))
    (hpos : 0 < data.length) :
    (recvIntoIovecAll (σ := σ) (iov :: rest)).run s =
      (recvIntoIovecAllLoop ((iov :: rest).map List.length) ((iov :: rest).map List.length).sum
        (((iov :: rest).map List.length).sum + Os.retryBound s) (scatter (iov :: rest) data)
        data.length (if fds.isEmpty then none else some fds)).run s' := by
  have hne : data ≠ [] := List.ne_nil_of_length_pos hpos
  have hround : (recvIntoIovec (σ := σ) (iov.drop 0 :: (iov :: rest).drop (0 + 1))).run s =
      .ok (data.length, if fds.isEmpty then none else some fds, scatter (iov :: rest) data) s' := by
    rw [List.drop_zero, Nat.zero_add, List.drop_one, List.tail_cons]
    simp only [recvIntoIovec, EStateM.run_bind, run_rawRecvmsg_of_recvmsg hread hne]
    rfl
  have hscatter : (iov :: rest).take 0 ++ (iov.take 0 ++ (scatter (iov :: rest) data).headD []) ::
      (scatter (iov :: rest) data).tail = scatter (iov :: rest) data := by
    simp [scatter]
  simp only [recvIntoIovecAll, EStateM.run_bind]
  show (recvIntoIovecAllLoop _ _ (_ + Os.retryBound s + 1) _ 0 none).run s = _
  rw [run_recvIntoIovecAllLoop_read _ _ _ _ _ (sum_map_length_pos iov rest hiov)
    (getSubIovsOffset_cons_zero iov rest hiov) rfl (Nat.zero_le _) hround hpos, hscatter,
    Nat.zero_add, if_pos rfl]

/-- `recv_into_iovec_all` of buffers whose first is not empty, on a kernel
whose first `recvmsg` fills them all: one read, the descriptors it brought. -/
theorem run_recvIntoIovecAll_of_recvmsg {s s' : σ} (iov : List UInt8) (rest : List (List UInt8))
    (hiov : iov ≠ []) {data : List UInt8} {fds : List Fd}
    (hread : Os.recvmsg s ((iov :: rest).map List.length).sum maxAttachedFdEntries =
      (some (.ok (data, fds)), s'))
    (hlen : data.length = ((iov :: rest).map List.length).sum) :
    (recvIntoIovecAll (σ := σ) (iov :: rest)).run s =
      .ok (data.length, if fds.isEmpty then none else some fds, scatter (iov :: rest) data) s' := by
  have hpos : 0 < data.length := hlen ▸ sum_map_length_pos iov rest hiov
  -- the next round finds nothing left to read
  obtain ⟨fuel, hfuel⟩ : ∃ fuel,
      ((iov :: rest).map List.length).sum + Os.retryBound s = fuel + 1 :=
    ⟨((iov :: rest).map List.length).sum + Os.retryBound s - 1, by omega⟩
  rw [run_recvIntoIovecAll_of_first_read iov rest hiov hread hpos, hfuel,
    run_recvIntoIovecAllLoop_done _ _ _ _ (by omega)]

/-- `recv_payload_into_buf::<T>` on a kernel whose first `recvmsg` brings a
valid header, a valid `T` and exactly the bytes the buffer holds. -/
theorem run_recvPayloadIntoBuf_of_recvmsg {R T : Type} [Req R] [Pod T] [VhostUserMsgValidator T]
    {s s' : σ} (buf : List UInt8) (reply : VhostUserMsgHeader R) (body : T)
    (payload : List UInt8) (fds : List Fd) (hpayload : payload.length = buf.length)
    (hread : Os.recvmsg s (12 + (Pod.size T + buf.length)) maxAttachedFdEntries =
      (some (.ok (Pod.toBytes reply ++ Pod.toBytes body ++ payload, fds)), s'))
    (hreply : reply.isValid = some true) (hbody : VhostUserMsgValidator.isValid body = true) :
    (recvPayloadIntoBuf (σ := σ) (R := R) (T := T) buf).run s =
      .ok (reply, body, buf.length, if fds.isEmpty then none else some fds, payload) s' := by
  have hsum : ([Pod.toBytes (VhostUserMsgHeader.default (R := R)), zeroed T, buf].map
      List.length).sum = 12 + (Pod.size T + buf.length) := by
    simp [zeroed]
  have hlen : (Pod.toBytes reply ++ Pod.toBytes body ++ payload).length =
      12 + (Pod.size T + buf.length) := by
    simp [hpayload]
  have hall := run_recvIntoIovecAll_of_recvmsg (σ := σ) _ [zeroed T, buf]
    (toBytes_header_ne_nil (VhostUserMsgHeader.default (R := R))) (by rw [hsum]; exact hread)
    (by rw [hsum, hlen])
  -- the bytes read fill the default header, the zeroed body and the buffer exactly
  have hscatter : scatter [Pod.toBytes (VhostUserMsgHeader.default (R := R)), zeroed T, buf]
      (Pod.toBytes reply ++ Pod.toBytes body ++ payload) =
      [Pod.toBytes reply, Pod.toBytes body, payload] := by
    simp [scatter, zeroed, List.append_assoc, List.take_left', List.drop_left', hpayload,
      List.take_of_length_le]
  rw [hscatter, hlen] at hall
  simp [recvPayloadIntoBuf, hall, headerValid, hreply, hbody]
  omega

theorem run_recvBody_of_blocks {R T : Type} [Req R] [Pod T] [VhostUserMsgValidator T] {s s' : σ}
    (hblock : Os.recvmsg s (12 + Pod.size T) maxAttachedFdEntries = (none, s')) :
    (recvBody (σ := σ) (R := R) (T := T)).run s = .error .diverges s' := by
  have hall : (recvIntoIovecAll (σ := σ)
      [Pod.toBytes (VhostUserMsgHeader.default (R := R)), zeroed T]).run s = .error .diverges s' :=
    run_recvIntoIovecAll_of_blocks _ _ (toBytes_header_ne_nil _) (by simpa [zeroed] using hblock)
  simp only [recvBody, EStateM.run_bind, hall]

end Whole

/-! ## The endpoint on a socket with empty plans -/

section Full

variable {σ : Type} [SockLens σ]

open SockLens

/-- A socket with no short write planned takes the whole message at once. -/
theorem os_sendmsg_of_sendPlan_nil (s : σ) (data : List UInt8) (fds : List Fd)
    (hplan : (sock s).sendPlan = []) :
    Os.sendmsg s data fds = (.ok data.length, setSock s ((sock s).afterSend data fds)) := by
  simp [os_sendmsg, Sock.sendmsg, hplan, Sock.limitOf, Sock.afterSend]

/-- A socket with no short read planned hands over all that is asked. -/
theorem os_recvmsg_of_recvPlan_nil (s : σ) (want room : Nat) (hplan : (sock s).recvPlan = []) :
    Os.recvmsg s want room =
      (some (.ok (bytes ((sock s).rx.take want), (attached ((sock s).rx.take want)).take room)),
        setSock s ((sock s).afterRecv want room)) := by
  simp [os_recvmsg, Sock.recvmsg, hplan, Sock.limitOf, Sock.afterRecv]

/-- `send_iovec_all` of buffers whose first is not empty: one `sendmsg` takes
them all, with the descriptors. -/
theorem run_sendIovecAll_of_sendPlan_nil (s : σ) (iov : List UInt8)
    (rest : List (List UInt8)) (fds : Option (List Fd)) (hiov : iov ≠ [])
    (hplan : (sock s).sendPlan = []) :
    (sendIovecAll (σ := σ) (iov :: rest) fds).run s =
      .ok (iov :: rest).flatten.length
        (setSock s ((sock s).afterSend (iov :: rest).flatten (fds.getD []))) :=
  run_sendIovecAll_of_sendmsg iov rest fds hiov (os_sendmsg_of_sendPlan_nil s _ _ hplan)

theorem run_sendHeader_of_sendPlan_nil {R : Type} (s : σ) (hdr : VhostUserMsgHeader R)
    (fds : Option (List Fd)) (hplan : (sock s).sendPlan = []) :
    (sendHeader (σ := σ) hdr fds).run s =
      .ok () (setSock s ((sock s).afterSend (Pod.toBytes hdr) (fds.getD []))) := by
  simp [sendHeader, run_sendIovecAll_of_sendPlan_nil s _ [] fds (toBytes_header_ne_nil hdr) hplan]

theorem run_sendMessage_of_sendPlan_nil {R T : Type} [Pod T] (s : σ) (hdr : VhostUserMsgHeader R)
    (body : T) (fds : Option (List Fd)) (hplan : (sock s).sendPlan = []) :
    (sendMessage (σ := σ) hdr body fds).run s =
      .ok () (setSock s ((sock s).afterSend (Pod.toBytes hdr ++ Pod.toBytes body)
        (fds.getD []))) := by
  simp [sendMessage, run_sendIovecAll_of_sendPlan_nil s _ _ fds (toBytes_header_ne_nil hdr) hplan]

/-- `send_message_with_payload` within the size and descriptor limits. -/
theorem run_sendMessageWithPayload_of_sendPlan_nil {R T P : Type} [Pod T] [Pod P] (s : σ)
    (hdr : VhostUserMsgHeader R) (body : T) (payload : List P) (fds : Option (List Fd))
    (hsize : payload.length * Pod.size P ≤ maxMsgSize - Pod.size T)
    (hfds : ∀ fdArr, fds = some fdArr → fdArr.length ≤ maxAttachedFdEntries)
    (hplan : (sock s).sendPlan = []) :
    (sendMessageWithPayload (σ := σ) hdr body payload fds).run s =
      .ok () (setSock s ((sock s).afterSend
        (Pod.toBytes hdr ++ Pod.toBytes body ++ Pod.listBytes payload) (fds.getD []))) := by
  -- the whole message goes out in one write
  have hlen : (Pod.toBytes hdr ++ Pod.toBytes body ++ Pod.listBytes payload).length =
      12 + Pod.size T + payload.length * Pod.size P := by
    simp [Nat.mul_comm, Nat.add_assoc]
  apply run_sendMessageWithPayload_of_sendmsg hdr body payload fds hsize hfds
  rw [os_sendmsg_of_sendPlan_nil s _ _ hplan, hlen]

theorem run_rawRecvmsg_of_recvPlan_nil (s : σ) {want : Nat} (room : Nat)
    (hplan : (sock s).recvPlan = []) (hwant : 0 < want) (hlen : want ≤ (sock s).rx.length) :
    (rawRecvmsg (σ := σ) want room).run s =
      .ok (bytes ((sock s).rx.take want), (attached ((sock s).rx.take want)).take room)
        (setSock s ((sock s).afterRecv want room)) := by
  -- a read of `want > 0` bytes from a long enough stream is never the empty read
  have hne : bytes ((sock s).rx.take want) ≠ [] := by
    rw [← List.length_pos_iff, length_bytes, List.length_take]
    omega
  exact run_rawRecvmsg_of_recvmsg (os_recvmsg_of_recvPlan_nil s want room hplan) hne

/-- `recv_into_iovec_all` of buffers whose first is not empty, from a stream
that holds enough bytes: one read fills them all. -/
theorem run_recvIntoIovecAll_of_recvPlan_nil (s : σ) (iov : List UInt8)
    (rest : List (List UInt8)) (hiov : iov ≠ []) (hplan : (sock s).recvPlan = [])
    (hlen : ((iov :: rest).map List.length).sum ≤ (sock s).rx.length) :
    (recvIntoIovecAll (σ := σ) (iov :: rest)).run s =
      .ok (((iov :: rest).map List.length).sum,
          (sock s).readFds ((iov :: rest).map List.length).sum,
          scatter (iov :: rest) (bytes ((sock s).rx.take ((iov :: rest).map List.length).sum)))
        (setSock s ((sock s).afterRecv ((iov :: rest).map List.length).sum
          maxAttachedFdEntries)) := by
  have hbytes : (bytes ((sock s).rx.take ((iov :: rest).map List.length).sum)).length =
      ((iov :: rest).map List.length).sum := by
    rw [length_bytes, List.length_take]
    omega
  rw [run_recvIntoIovecAll_of_recvmsg iov rest hiov (os_recvmsg_of_recvPlan_nil s _ _ hplan)
    hbytes, hbytes]
  rfl

theorem run_recvData_of_recvPlan_nil (s : σ) {len : Nat} (hplan : (sock s).recvPlan = [])
    (hpos : 0 < len) (hlen : len ≤ (sock s).rx.length) :
    (recvData (σ := σ) len).run s =
      .ok (len, bytes ((sock s).rx.take len)) (setSock s ((sock s).afterRecv len 0)) := by
  have hbytes : (bytes ((sock s).rx.take len)).length = len := by
    rw [length_bytes, List.length_take]
    omega
  simp [recvData, run_rawRecvmsg_of_recvPlan_nil s 0 hplan hpos hlen, scatter, hbytes]

/-- The body read of a request handler, from a stream holding the whole body. -/
theorem run_readRequestBody_of_recvPlan_nil {R : Type} [Req R] (s : σ)
    (hdr : VhostUserMsgHeader R) (hplan : (sock s).recvPlan = [])
    (hlen : hdr.getSize.toNat ≤ (sock s).rx.length) :
    (readRequestBody (σ := σ) hdr).run s =
      .ok (hdr.getSize.toNat, bytes ((sock s).rx.take hdr.getSize.toNat))
        (setSock s ((sock s).afterRecv hdr.getSize.toNat 0)) := by
  unfold readRequestBody
  split
  · -- a size of zero reads nothing
    rename_i hzero
    simp [hzero]
  · rename_i hzero
    have hpos : 0 < hdr.getSize.toNat := by
      rcases Nat.eq_zero_or_pos hdr.getSize.toNat with h | h
      · exact absurd (UInt32.toNat_inj.1 (by simpa using h)) hzero
      · exact h
    simp [run_recvData_of_recvPlan_nil s hplan hpos hlen]

/-- The read of every receive path, whose first buffer is the default header:
from a stream holding enough bytes, the first twelve bytes read fill the
header whole, and the rest fill the buffers behind it. -/
theorem run_recvIntoIovecAll_headed {R : Type} (s : σ) (rest : List (List UInt8))
    (hplan : (sock s).recvPlan = [])
    (hlen : 12 + (rest.map List.length).sum ≤ (sock s).rx.length) :
    (recvIntoIovecAll (σ := σ) (Pod.toBytes (VhostUserMsgHeader.default (R := R)) :: rest)).run s =
      .ok (12 + (rest.map List.length).sum, (sock s).readFds (12 + (rest.map List.length).sum),
          bytes ((sock s).rx.take 12) ::
            scatter rest ((bytes ((sock s).rx.take (12 + (rest.map List.length).sum))).drop 12))
        (setSock s ((sock s).afterRecv (12 + (rest.map List.length).sum) maxAttachedFdEntries)) := by
  have hread := run_recvIntoIovecAll_of_recvPlan_nil s _ rest (toBytes_header_ne_nil
    (VhostUserMsgHeader.default (R := R))) hplan (by simpa using hlen)
  have hbytes : 12 ≤ (bytes ((sock s).rx.take (12 + (rest.map List.length).sum))).length := by
    rw [length_bytes, List.length_take]
    omega
  -- the bytes read cover the default header, so none of its zeros is left
  have hhead : (bytes ((sock s).rx.take (12 + (rest.map List.length).sum))).take 12 ++
      (Pod.toBytes (VhostUserMsgHeader.default (R := R))).drop
        (bytes ((sock s).rx.take (12 + (rest.map List.length).sum))).length =
      bytes ((sock s).rx.take 12) := by
    rw [List.drop_eq_nil_of_le (by simpa using hbytes), List.append_nil, ← bytes_take,
      List.take_take, Nat.min_eq_left (by omega)]
  simpa only [List.map_cons, List.sum_cons, Pod.length_toBytes, Pod.size_vhostUserMsgHeader,
    scatter, hhead] using hread

/-- The read of `recv_header`, from a stream holding at least twelve bytes: the
twelve bytes fill the default header. -/
theorem run_recvIntoIovecAll_header {R : Type} (s : σ) (hplan : (sock s).recvPlan = [])
    (hlen : 12 ≤ (sock s).rx.length) :
    (recvIntoIovecAll (σ := σ) [Pod.toBytes (VhostUserMsgHeader.default (R := R))]).run s =
      .ok (12, (sock s).readFds 12, [bytes ((sock s).rx.take 12)])
        (setSock s ((sock s).afterRecv 12 maxAttachedFdEntries)) := by
  simpa [scatter] using run_recvIntoIovecAll_headed (R := R) s [] hplan (by simpa using hlen)

/-- `recv_header` from a stream holding a whole valid header. -/
theorem run_recvHeader_of_recvPlan_nil {R : Type} [Req R] (s : σ)
    (hplan : (sock s).recvPlan = []) (hlen : 12 ≤ (sock s).rx.length)
    (hvalid : (Pod.ofBytes (bytes ((sock s).rx.take 12)) : VhostUserMsgHeader R).isValid =
      some true) :
    (recvHeader (σ := σ) (R := R)).run s =
      .ok (Pod.ofBytes (bytes ((sock s).rx.take 12)), (sock s).readFds 12)
        (setSock s ((sock s).afterRecv 12 maxAttachedFdEntries)) := by
  simp [recvHeader, run_recvIntoIovecAll_header s hplan hlen, headerValid, hvalid]

/-- `recv_header` from a stream whose first twelve bytes carry a request value
that is not a discriminant: the header check converts it, which is undefined. -/
theorem run_recvHeader_of_isValid_none {R : Type} [Req R] (s : σ)
    (hplan : (sock s).recvPlan = []) (hlen : 12 ≤ (sock s).rx.length)
    (hvalid : (Pod.ofBytes (bytes ((sock s).rx.take 12)) : VhostUserMsgHeader R).isValid =
      none) :
    (recvHeader (σ := σ) (R := R)).run s =
      .error .undefined (setSock s ((sock s).afterRecv 12 maxAttachedFdEntries)) := by
  simp [recvHeader, run_recvIntoIovecAll_header s hplan hlen, headerValid, hvalid]

/-- Closing descriptors one after another appends them, in order, to what the
socket has closed. -/
theorem foldl_close_eq (fds : List Fd) (s : σ) :
    fds.foldl Os.close s = setSock s { sock s with closed := (sock s).closed ++ fds } := by
  induction fds generalizing s with
  | nil =>
      -- closing nothing: the record update rebuilds the socket
      rw [List.foldl_nil, List.append_nil]
      exact (setSock_sock s).symm
  | cons fd fds ih => simp [ih, os_close, List.append_assoc]

theorem run_closeRfds_some (fds : List Fd) (s : σ) :
    (closeRfds (σ := σ) (some fds)).run s =
      .ok () (setSock s { sock s with closed := (sock s).closed ++ fds }) := by
  simp only [closeRfds, ← foldl_close_eq]
  rfl

/-! ## A stream that starts with one whole message -/

/-- `recv_header` from a stream that starts with a valid header `hdr` and a
body, with the descriptors `fds` riding on the header. -/
theorem run_recvHeader_message {R : Type} [Req R] (s : σ) (hdr : VhostUserMsgHeader R)
    (body : List UInt8) (fds : List Fd) (rest : Stream Fd)
    (hrx : (sock s).rx = pack (Pod.toBytes hdr ++ body) fds ++ rest)
    (hplan : (sock s).recvPlan = []) (hvalid : hdr.isValid = some true)
    (hfds : fds.length ≤ maxAttachedFdEntries) :
    (recvHeader (σ := σ) (R := R)).run s =
      .ok (hdr, if fds.isEmpty then none else some fds)
        (setSock s { sock s with rx := pack body [] ++ rest,
                                 received := (sock s).received ++ fds }) := by
  have hle : 12 ≤ (Pod.toBytes hdr ++ body).length := by simp
  have htake : (sock s).rx.take 12 = pack (Pod.toBytes hdr) fds := by
    rw [hrx, take_pack_append_of_le _ _ _ hle]
    simp
  have hdrop : (sock s).rx.drop 12 = pack body [] ++ rest := by
    rw [hrx, drop_pack_append_of_le _ _ _ (by decide) hle]
    simp
  have hattached : attached (pack (Pod.toBytes hdr) fds) = fds := by
    obtain ⟨b, bs, hbs⟩ := List.exists_cons_of_ne_nil (toBytes_header_ne_nil hdr)
    rw [hbs, attached_pack_cons]
  rw [run_recvHeader_of_recvPlan_nil s hplan (by rw [hrx]; simp; omega)
    (by rw [htake, bytes_pack, Pod.ofBytes_toBytes]; exact hvalid)]
  simp [htake, Sock.readFds, Sock.afterRecv, hdrop, hattached, List.take_of_length_le hfds]

/-- `recv_body::<T>` from a stream that starts with a valid header and a valid
`T`, with the descriptors `fds` riding on the header: one read takes both. -/
theorem run_recvBody_message {R T : Type} [Req R] [Pod T] [VhostUserMsgValidator T] (s : σ)
    (hdr : VhostUserMsgHeader R) (body : T) (fds : List Fd) (rest : Stream Fd)
    (hrx : (sock s).rx = pack (Pod.toBytes hdr ++ Pod.toBytes body) fds ++ rest)
    (hplan : (sock s).recvPlan = []) (hvalid : hdr.isValid = some true)
    (hbody : VhostUserMsgValidator.isValid body = true)
    (hfds : fds.length ≤ maxAttachedFdEntries) :
    (recvBody (σ := σ) (R := R) (T := T)).run s =
      .ok (hdr, body, if fds.isEmpty then none else some fds)
        (setSock s { sock s with rx := rest, received := (sock s).received ++ fds }) := by
  have hlen : (Pod.toBytes hdr ++ Pod.toBytes body).length = 12 + Pod.size T := by simp
  have hsum : ([Pod.toBytes (VhostUserMsgHeader.default (R := R)), zeroed T].map
      List.length).sum = 12 + Pod.size T := by
    simp [zeroed]
  have htake : (sock s).rx.take (12 + Pod.size T) = pack (Pod.toBytes hdr ++ Pod.toBytes body) fds := by
    rw [hrx, take_pack_append_of_le _ _ _ (le_of_eq hlen.symm), ← hlen, List.take_length]
  have hdrop : (sock s).rx.drop (12 + Pod.size T) = rest := by
    rw [hrx, drop_pack_append_of_le _ _ _ (by omega) (le_of_eq hlen.symm), ← hlen,
      List.drop_length, pack_nil, List.nil_append]
  have hattached : attached (pack (Pod.toBytes hdr ++ Pod.toBytes body) fds) = fds := by
    obtain ⟨b, bs, hbs⟩ := List.exists_cons_of_ne_nil (toBytes_header_ne_nil hdr)
    rw [hbs, List.cons_append, attached_pack_cons]
  -- the bytes read fill the default header and the zeroed body exactly
  have hscatter : scatter [Pod.toBytes (VhostUserMsgHeader.default (R := R)), zeroed T]
      (bytes (pack (Pod.toBytes hdr ++ Pod.toBytes body) fds)) = [Pod.toBytes hdr, Pod.toBytes body] := by
    simp [scatter, zeroed, List.take_left', List.drop_left']
  have hread := run_recvIntoIovecAll_of_recvPlan_nil s _ [zeroed T]
    (toBytes_header_ne_nil (VhostUserMsgHeader.default (R := R))) hplan
    (by rw [hsum, hrx]; simp)
  rw [hsum, htake, hscatter] at hread
  simp [recvBody, hread, headerValid, hvalid, hbody, Sock.readFds, Sock.afterRecv, htake, hdrop,
    hattached, List.take_of_length_le hfds]

/-- The body read of a request handler from a stream that starts with the
`hdr.get_size()` bytes of the body. -/
theorem run_readRequestBody_message {R : Type} [Req R] (s : σ) (hdr : VhostUserMsgHeader R)
    (body : List UInt8) (rest : Stream Fd) (hrx : (sock s).rx = pack body [] ++ rest)
    (hplan : (sock s).recvPlan = []) (hsize : hdr.getSize.toNat = body.length) :
    (readRequestBody (σ := σ) hdr).run s =
      .ok (body.length, body) (setSock s { sock s with rx := rest }) := by
  rw [run_readRequestBody_of_recvPlan_nil s hdr hplan (by rw [hrx, hsize]; simp), hsize]
  simp [hrx, Sock.afterRecv, List.take_left' (length_pack body []),
    List.drop_left' (length_pack body [])]

end Full

end Vhost.User
