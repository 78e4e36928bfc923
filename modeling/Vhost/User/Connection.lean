import Mathlib
import Vhost.Lib.ByteStream
import Vhost.Lib.StateFrame
import Vhost.User.Message

/-!
# Endpoints on a Unix stream socket

`Endpoint<R>` of `connection.rs` sends and receives vhost-user messages on a
connected Unix stream socket: a header, an optional body and payload, and
optionally a batch of file descriptors carried as `SCM_RIGHTS` ancillary data.

The kernel is not part of the crate.  `Os` is the interface the endpoint code
calls (`sendmsg`, `recvmsg`, `close`), on whatever state the calling process is
in; `Sock` is the model of one end of a connected socket: the bytes in flight
each way, with the descriptors each write carries riding on its first byte, and
a plan of how the kernel answers the next calls (short transfers, errors).  An
empty plan is the documented `MSG_WAITALL` behaviour: a read returns what was
asked for, or what is left when the peer has written no more.

The endpoint functions are translated with their loops.  A loop that the
kernel could keep going forever with retryable errors is given enough rounds
for every byte and every retry the kernel can still produce (`Os.retryBound`),
and reports `Fault.diverges` past that; so does a read that blocks for ever,
which a peer that has nothing more to send causes.

The last section holds the checks that the two request handlers
(`SlaveReqHandler` and `MasterReqHandler`) both make, in the same words.
-/

namespace Vhost.User

open ByteStream

/-- The system calls an endpoint makes, acting on the state `σ` of its process. -/
class Os (σ : Type) where
  /-- `sendmsg`: offer `data` with the descriptors `fds`; the number of bytes the
  kernel took, or an error number. -/
  sendmsg : σ → List UInt8 → List Fd → Except Int32 Nat × σ
  /-- `recvmsg` with `MSG_WAITALL`: read at most `want` bytes, with room for
  `room` descriptors; `none` when the call blocks for ever. -/
  recvmsg : σ → Nat → Nat → Option (Except Int32 (List UInt8 × List Fd)) × σ
  /-- `close` of a descriptor the process owns. -/
  close : σ → Fd → σ
  /-- How many of the coming calls can still fail with a retryable error. -/
  retryBound : σ → Nat

/-- The system calls of a process whose socket is one part `ω` of its state. -/
@[reducible]
def Os.via {ω σ : Type} [Os ω] (part : σ → ω) (update : σ → ω → σ) : Os σ where
  sendmsg s data fds :=
    let (r, o) := Os.sendmsg (part s) data fds
    (r, update s o)
  recvmsg s want room :=
    let (r, o) := Os.recvmsg (part s) want room
    (r, update s o)
  close s fd := update s (Os.close (part s) fd)
  retryBound s := Os.retryBound (part s)

/-! ## The kernel's view of one socket -/

/-- What the kernel does on one call when a plan says: transfer at most `n`
bytes, or fail with an error number. -/
inductive SockStep
  | upTo (n : Nat)
  | fail (errno : Int32)
  deriving DecidableEq, Repr

/-- One end of a connected Unix stream socket and the descriptors of its
process.  `received` and `closed` record every descriptor the kernel installed
in the process and every one the process closed. -/
structure Sock where
  rx : Stream Fd
  tx : Stream Fd
  recvPlan : List SockStep
  sendPlan : List SockStep
  received : List Fd
  closed : List Fd
  deriving DecidableEq, Repr

namespace Sock

/-- A fresh socket whose peer has written `rx`, and a kernel that answers every
call in full. -/
def ofStream (rx : Stream Fd) : Sock :=
  { rx := rx, tx := [], recvPlan := [], sendPlan := [], received := [], closed := [] }

/-- How many bytes the next call may move, and the plan after it, when it does
not fail. -/
def limitOf (want : Nat) : Option SockStep → Nat
  | some (.upTo n) => min want n
  | _ => want

/-- `recvmsg`: the first bytes of the stream, the descriptors riding on them (as
many as there is room for; the kernel discards the rest), or the planned error. -/
def recvmsg (s : Sock) (want room : Nat) : Except Int32 (List UInt8 × List Fd) × Sock :=
  match s.recvPlan.head? with
  | some (.fail errno) => (.error errno, { s with recvPlan := s.recvPlan.tail })
  | step =>
      let cells := s.rx.take (limitOf want step)
      let fds := (attached cells).take room
      (.ok (bytes cells, fds),
        { s with rx := s.rx.drop (limitOf want step), recvPlan := s.recvPlan.tail,
                 received := s.received ++ fds })

/-- `sendmsg`: the first bytes offered are appended to the stream, the
descriptors riding on the first of them, or the planned error. -/
def sendmsg (s : Sock) (data : List UInt8) (fds : List Fd) : Except Int32 Nat × Sock :=
  match s.sendPlan.head? with
  | some (.fail errno) => (.error errno, { s with sendPlan := s.sendPlan.tail })
  | step =>
      let sent := data.take (limitOf data.length step)
      (.ok sent.length,
        { s with tx := s.tx ++ pack sent fds, sendPlan := s.sendPlan.tail })

instance : Os Sock where
  sendmsg := sendmsg
  recvmsg s want room :=
    let (r, s') := recvmsg s want room
    (some r, s')
  close s fd := { s with closed := s.closed ++ [fd] }
  retryBound s := s.recvPlan.length + s.sendPlan.length

end Sock

/-- A process state holding one socket: its system calls are the socket's, and
leave the rest of the state alone. -/
class SockLens (σ : Type) where
  sock : σ → Sock
  setSock : σ → Sock → σ
  sock_setSock : ∀ s o, sock (setSock s o) = o
  setSock_setSock : ∀ s o o', setSock (setSock s o) o' = setSock s o'
  setSock_sock : ∀ s, setSock s (sock s) = s

attribute [simp] SockLens.sock_setSock SockLens.setSock_setSock SockLens.setSock_sock

instance (priority := low) SockLens.os {σ : Type} [SockLens σ] : Os σ :=
  Os.via SockLens.sock SockLens.setSock

namespace SockLens

variable {σ : Type} [SockLens σ]

theorem os_sendmsg (s : σ) (data : List UInt8) (fds : List Fd) :
    Os.sendmsg s data fds =
      ((Sock.sendmsg (sock s) data fds).1, setSock s (Sock.sendmsg (sock s) data fds).2) := rfl

theorem os_recvmsg (s : σ) (want room : Nat) :
    Os.recvmsg s want room =
      (some (Sock.recvmsg (sock s) want room).1, setSock s (Sock.recvmsg (sock s) want room).2) :=
  rfl

theorem os_close (s : σ) (fd : Fd) :
    Os.close s fd = setSock s { sock s with closed := (sock s).closed ++ [fd] } := rfl

theorem os_retryBound (s : σ) :
    Os.retryBound s = (sock s).recvPlan.length + (sock s).sendPlan.length := rfl

end SockLens

/-! ## `sock_ctrl_msg.rs` -/

section Endpoint

variable {σ : Type} [Os σ]

/-- `raw_sendmsg`: one `sendmsg` of `data` with the descriptors `fds` attached;
a failure becomes an `Error` through `From<errno::Error>`. -/
def rawSendmsg (data : List UInt8) (fds : List Fd) : Prog σ Nat := do
  let result ← modifyGet fun s => Os.sendmsg s data fds
  match result with
  | .ok sent => pure sent
  | .error errno => throw (.err (Error.ofErrno errno))

/-- `raw_recvmsg`: one `recvmsg` of at most `want` bytes with room for `room`
descriptors.  A read that returns no byte and no control message means the
peer has closed, and is reported as `ECONNRESET`. -/
def rawRecvmsg (want room : Nat) : Prog σ (List UInt8 × List Fd) := do
  let result ← modifyGet fun s => Os.recvmsg s want room
  match result with
  | none => throw .diverges
  | some (.error errno) => throw (.err (Error.ofErrno errno))
  | some (.ok (data, fds)) =>
      if data.isEmpty && fds.isEmpty then throw (.err (Error.ofErrno Errno.econnreset))
      else pure (data, fds)

/-! ## Scatter-gather bookkeeping -/

/-- `get_sub_iovs_offset`: skip whole buffers while the skip is at least their
length; the index of the buffer reached and the offset left inside it. -/
def getSubIovsOffset (iovLens : List Nat) (skipSize : Nat) : Nat × Nat :=
  go iovLens skipSize 0
where
  go : List Nat → Nat → Nat → Nat × Nat
    | [], size, nrSkip => (nrSkip, size)
    | len :: rest, size, nrSkip =>
        if size ≥ len then go rest (size - len) (nrSkip + 1) else (nrSkip, size)

/-- What `recvmsg` does to a list of buffers: the received bytes are written
into them in order, each buffer keeping what lies past the bytes it got. -/
def scatter : List (List UInt8) → List UInt8 → List (List UInt8)
  | [], _ => []
  | buf :: bufs, data =>
      (data.take buf.length ++ buf.drop data.length) :: scatter bufs (data.drop buf.length)

/-- `&iovs[nr_skip][offset..]`: indexing past the slice, or slicing past the
buffer, panics. -/
def subSlice (iovs : List (List UInt8)) (nrSkip offset : Nat) : Prog σ (List UInt8) :=
  match iovs[nrSkip]? with
  | none => throw .panic
  | some iov => if offset ≤ iov.length then pure (iov.drop offset) else throw .panic

/-! ## Sending -/

/-- `Endpoint::send_iovec`: one `sendmsg` of the buffers, in order. -/
def sendIovec (iovs : List (List UInt8)) (fds : Option (List Fd)) : Prog σ Nat :=
  rawSendmsg iovs.flatten (fds.getD [])

/-- The loop of `send_iovec_all`, from `dataSent` bytes already sent; the
descriptors go with the first call only. -/
def sendIovecAllLoop (iovs : List (List UInt8)) (fds : Option (List Fd)) (dataTotal : Nat) :
    Nat → Nat → Prog σ Nat
  | 0, _ => throw .diverges
  | fuel + 1, dataSent =>
      if dataTotal - dataSent > 0 then do
        let (nrSkip, offset) := getSubIovsOffset (iovs.map List.length) dataSent
        let iov ← subSlice iovs nrSkip offset
        let data := iov :: iovs.drop (nrSkip + 1)
        let sfds := if dataSent = 0 then fds else none
        let sent ← Prog.result (sendIovec data sfds)
        match sent with
        | .ok 0 => pure dataSent
        | .ok n => sendIovecAllLoop iovs fds dataTotal fuel (dataSent + n)
        | .error e =>
            if e.isSocketRetry then sendIovecAllLoop iovs fds dataTotal fuel dataSent
            else throw (.err e)
      else pure dataSent

/-- `Endpoint::send_iovec_all`: send until every byte is out, retrying after
`SocketRetry`; a call that sends nothing ends the loop early. -/
def sendIovecAll (iovs : List (List UInt8)) (fds : Option (List Fd)) : Prog σ Nat := do
  let dataTotal := (iovs.map List.length).sum
  let s ← get
  sendIovecAllLoop iovs fds dataTotal (dataTotal + Os.retryBound s + 1) 0

/-- `Endpoint::send_header`. -/
def sendHeader {R : Type} (hdr : VhostUserMsgHeader R) (fds : Option (List Fd)) :
    Prog σ Unit := do
  let bytes ← sendIovecAll [Pod.toBytes hdr] fds
  if bytes ≠ 12 then throw (.err .partialMessage)

/-- `Endpoint::send_message`: a header and a fixed-size body. -/
def sendMessage {R T : Type} [Pod T] (hdr : VhostUserMsgHeader R) (body : T)
    (fds : Option (List Fd)) : Prog σ Unit := do
  let bytes ← sendIovecAll [Pod.toBytes hdr, Pod.toBytes body] fds
  if bytes ≠ 12 + Pod.size T then throw (.err .partialMessage)

/-- `Endpoint::send_message_with_payload`: a header, a body and a payload slice. -/
def sendMessageWithPayload {R T P : Type} [Pod T] [Pod P] (hdr : VhostUserMsgHeader R)
    (body : T) (payload : List P) (fds : Option (List Fd)) : Prog σ Unit := do
  let len := payload.length * Pod.size P
  if len > maxMsgSize - Pod.size T then throw (.err .oversizedMsg)
  if let some fdArr := fds then
    if fdArr.length > maxAttachedFdEntries then throw (.err .incorrectFds)
  let total := 12 + Pod.size T + len
  let sent ← sendIovecAll [Pod.toBytes hdr, Pod.toBytes body, Pod.listBytes payload] fds
  if sent ≠ total then throw (.err .partialMessage)

/-! ## Receiving -/

/-- `Endpoint::recv_data`: one read of `len` bytes into a zeroed buffer, with no
room for descriptors (any that come are discarded by the kernel). -/
def recvData (len : Nat) : Prog σ (Nat × List UInt8) := do
  let (data, _) ← rawRecvmsg len 0
  pure (data.length, (scatter [List.replicate len 0] data).headD [])

/-- `Endpoint::recv_into_iovec`: one read into the buffers, with room for
`MAX_ATTACHED_FD_ENTRIES` descriptors; the bytes read, the descriptors if any
came, and the buffers as the read left them. -/
def recvIntoIovec (iovs : List (List UInt8)) :
    Prog σ (Nat × Option (List Fd) × List (List UInt8)) := do
  let (data, fds) ← rawRecvmsg (iovs.map List.length).sum maxAttachedFdEntries
  let rfds := if fds.isEmpty then none else some fds
  pure (data.length, rfds, scatter iovs data)

/-- The loop of `recv_into_iovec_all`, from `dataRead` bytes already read into
`iovs`.  Each round reads into the rest of the buffer reached and the buffers
after it, through pointers into `iovs`; the descriptors of the first read that
returns data are kept and those of later reads dropped. -/
def recvIntoIovecAllLoop (iovLens : List Nat) (dataTotal : Nat) :
    Nat → List (List UInt8) → Nat → Option (List Fd) →
      Prog σ (Nat × Option (List Fd) × List (List UInt8))
  | 0, _, _, _ => throw .diverges
  | fuel + 1, iovs, dataRead, rfds =>
      if dataTotal - dataRead > 0 then do
        let (nrSkip, offset) := getSubIovsOffset iovLens dataRead
        let iov ← match iovs[nrSkip]? with
          | some iov => pure iov
          | none => throw .panic
        -- `iov.iov_len - offset` wraps past the buffer when `offset` is beyond it
        if offset > iov.length then throw .undefined
        let data := iov.drop offset :: iovs.drop (nrSkip + 1)
        let res ← Prog.result (recvIntoIovec data)
        match res with
        | .ok (0, _, _) => pure (dataRead, rfds, iovs)
        | .ok (n, fds, filled) =>
            let iovs' := iovs.take nrSkip ++ (iov.take offset ++ filled.headD []) :: filled.tail
            let rfds' := if dataRead = 0 then fds else rfds
            recvIntoIovecAllLoop iovLens dataTotal fuel iovs' (dataRead + n) rfds'
        | .error e =>
            if e.isSocketRetry then recvIntoIovecAllLoop iovLens dataTotal fuel iovs dataRead rfds
            else throw (.err e)
      else pure (dataRead, rfds, iovs)

/-- `Endpoint::recv_into_iovec_all`: read until the buffers are full, retrying
after `SocketRetry`; a read of nothing ends the loop early. -/
def recvIntoIovecAll (iovs : List (List UInt8)) :
    Prog σ (Nat × Option (List Fd) × List (List UInt8)) := do
  let iovLens := iovs.map List.length
  let dataTotal := iovLens.sum
  let s ← get
  recvIntoIovecAllLoop iovLens dataTotal (dataTotal + Os.retryBound s + 1) iovs 0 none

/-- `Endpoint::recv_into_buf`: one read into a zeroed buffer of `bufSize` bytes. -/
def recvIntoBuf (bufSize : Nat) : Prog σ (Nat × List UInt8 × Option (List Fd)) := do
  let (bytes, rfds, bufs) ← recvIntoIovec [List.replicate bufSize 0]
  pure (bytes, bufs.headD [], rfds)

/-- The bytes of a `Default` body: every field zero. -/
def zeroed (T : Type) [Pod T] : List UInt8 :=
  List.replicate (Pod.size T) 0

/-- `hdr.is_valid()` as a test: undefined behaviour when the raw code is not a
discriminant. -/
def headerValid {R : Type} [Req R] (hdr : VhostUserMsgHeader R) : Prog σ Bool :=
  match hdr.isValid with
  | some valid => pure valid
  | none => throw .undefined

/-- `Endpoint::recv_header`: a whole valid header, with the descriptors of its
first read. -/
def recvHeader {R : Type} [Req R] : Prog σ (VhostUserMsgHeader R × Option (List Fd)) := do
  let (bytes, rfds, iovs) ← recvIntoIovecAll [Pod.toBytes (VhostUserMsgHeader.default (R := R))]
  let hdr : VhostUserMsgHeader R := Pod.ofBytes (iovs.headD [])
  if bytes ≠ 12 then throw (.err .partialMessage)
  else if !(← headerValid hdr) then throw (.err .invalidMessage)
  pure (hdr, rfds)

/-- `Endpoint::recv_body`: a header and a body of type `T`, both valid. -/
def recvBody {R T : Type} [Req R] [Pod T] [VhostUserMsgValidator T] :
    Prog σ (VhostUserMsgHeader R × T × Option (List Fd)) := do
  let (bytes, rfds, iovs) ←
    recvIntoIovecAll [Pod.toBytes (VhostUserMsgHeader.default (R := R)), zeroed T]
  let hdr : VhostUserMsgHeader R := Pod.ofBytes (iovs.headD [])
  let body : T := Pod.ofBytes ((iovs.drop 1).headD [])
  let total := 12 + Pod.size T
  if bytes ≠ total then throw (.err .partialMessage)
  else if !(← headerValid hdr) || !VhostUserMsgValidator.isValid body then
    throw (.err .invalidMessage)
  pure (hdr, body, rfds)

/-- `Endpoint::recv_body_into_buf`: a header and as much of the body as arrives
into `buf`; the header, the number of body bytes, the descriptors and the
buffer. -/
def recvBodyIntoBuf {R : Type} [Req R] (buf : List UInt8) :
    Prog σ (VhostUserMsgHeader R × Nat × Option (List Fd) × List UInt8) := do
  let (bytes, rfds, iovs) ←
    recvIntoIovecAll [Pod.toBytes (VhostUserMsgHeader.default (R := R)), buf]
  let hdr : VhostUserMsgHeader R := Pod.ofBytes (iovs.headD [])
  if bytes < 12 then throw (.err .partialMessage)
  else if !(← headerValid hdr) then throw (.err .invalidMessage)
  pure (hdr, bytes - 12, rfds, (iovs.drop 1).headD [])

/-- `Endpoint::recv_payload_into_buf`: a header, a body of type `T` and as much
payload as arrives into `buf`; the header, the body, the number of payload
bytes, the descriptors and the buffer. -/
def recvPayloadIntoBuf {R T : Type} [Req R] [Pod T] [VhostUserMsgValidator T]
    (buf : List UInt8) :
    Prog σ (VhostUserMsgHeader R × T × Nat × Option (List Fd) × List UInt8) := do
  let (bytes, rfds, iovs) ←
    recvIntoIovecAll [Pod.toBytes (VhostUserMsgHeader.default (R := R)), zeroed T, buf]
  let hdr : VhostUserMsgHeader R := Pod.ofBytes (iovs.headD [])
  let body : T := Pod.ofBytes ((iovs.drop 1).headD [])
  let total := 12 + Pod.size T
  if bytes < total then throw (.err .partialMessage)
  else if !(← headerValid hdr) || !VhostUserMsgValidator.isValid body then
    throw (.err .invalidMessage)
  pure (hdr, body, bytes - total, rfds, (iovs.drop 2).headD [])

/-- `Endpoint::close_rfds`: close every descriptor received. -/
def closeRfds (rfds : Option (List Fd)) : Prog σ Unit :=
  match rfds with
  | none => pure ()
  | some fds => modify fun s => fds.foldl Os.close s

/-- Reinterpret the front of a buffer as a `T` (`&*(buf.as_ptr() as *const T)`):
reading past the end of the buffer is undefined behaviour. -/
def castBuf {T : Type} [Pod T] (buf : List UInt8) : Prog σ T :=
  if Pod.size T ≤ buf.length then pure (Pod.ofBytes buf) else throw .undefined

/-! ## Checks shared by the request handlers -/

/-- `check_state` of every endpoint: once marked failed, every call is a
`SocketBroken` with the marked error number. -/
def checkFailed (error : Option Int32) : Prog σ Unit :=
  match error with
  | some e => throw (.err (.socketBroken (.os e)))
  | none => pure ()

/-- `check_request_size` (slave) and `check_msg_size` (master): the header's size
and the bytes read both `expected`, and the header a version-1 request. -/
def checkMsgSize {R : Type} [Req R] (hdr : VhostUserMsgHeader R) (size expected : Nat) :
    Prog σ Unit :=
  if hdr.getSize.toNat ≠ expected || hdr.isReply || hdr.getVersion != 0x1
      || size ≠ expected then throw (.err .invalidMessage)
  else pure ()

/-- `extract_request_body::<T>` (slave) and `extract_msg_body::<T>` (master): a
body of exactly `size_of::<T>()` bytes that passes `T`'s validator. -/
def extractMsgBody (T : Type) [Pod T] [VhostUserMsgValidator T] {R : Type} [Req R]
    (hdr : VhostUserMsgHeader R) (size : Nat) (buf : List UInt8) : Prog σ T := do
  checkMsgSize hdr size (Pod.size T)
  let msg : T ← castBuf buf
  if !VhostUserMsgValidator.isValid msg then throw (.err .invalidMessage)
  pure msg

/-- The body read of both `handle_request`s, after the header: nothing for a
size of zero, else exactly `size` bytes in one read. -/
def readRequestBody {R : Type} [Req R] (hdr : VhostUserMsgHeader R) :
    Prog σ (Nat × List UInt8) :=
  match hdr.getSize with
  | 0 => pure (0, [])
  | len => do
      let (size2, rbuf) ← recvData len.toNat
      if size2 ≠ len.toNat then throw (.err .invalidMessage)
      pure (size2, rbuf)

end Endpoint

end Vhost.User
