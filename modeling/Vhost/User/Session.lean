import Mathlib
import Vhost.User.Pipeline
import Vhost.User.DummySlave

/-!
# Every state of a session

The master writes every request in one piece.  Each of its operations checks
its arguments and writes one request at most, a valid header with a body of
the size it states, and descriptors only on the codes that may carry them.  So
each operation keeps any property of its endpoint that survives a whole
request written, a read and a close (`WholeWrites`), on every path.

A session is a master joined to a slave.  In every state the two reach, through
any sequence of the master's operations, whatever each returns, with the slave
serving at moments of its own, the slave's unread input is a sequence of whole
requests, and the next one it serves is dispatched as the master wrote it.  The
one exception is a kernel that cuts a write short or a read of the slave's:
the session asks that both take and read whole.
-/

namespace Vhost.User

open ByteStream EStateM Segments

/-! ## The master writes whole requests -/

namespace MasterInternal

open SlaveReqHandler

/-- A request the master builds is whole: a code that is a request, a body
within `MAX_MSG_SIZE` of the size its header states, and descriptors within the
limit only on a code that may carry them. -/
theorem requestFrame_newRequestHeader {code : MasterReq} (hcode : Req.isValid code)
    (body : List UInt8) (hsize : body.length ≤ maxMsgSize) (fds : List Fd)
    (hfds : fds.length ≤ maxAttachedFdEntries) (hkeep : fds = [] ∨ code ∈ fdCodes) :
    RequestFrame (pack (Pod.toBytes (newRequestHeader code (UInt32.ofNat body.length)) ++ body)
      fds) := by
  have hget : (UInt32.ofNat body.length).toNat = body.length :=
    UInt32.toNat_ofNat_of_lt' (lt_of_le_of_lt hsize (by decide))
  refine ⟨_, body, fds, rfl, isValid_newRequestHeader hcode (by rw [hget]; exact hsize), ?_, hfds,
    ?_⟩
  · rw [getSize_newRequestHeader, hget]
  · exact hkeep.imp_right fun hmem => ⟨code, hmem, getCode_newRequestHeader code _⟩

/-- The request carries its code, for whatever the endpoint asks of codes. -/
theorem requestFrameOf_newRequestHeader {Q : MasterReq → Prop} {code : MasterReq}
    (hcode : Req.isValid code) (hQ : Q code) (body : List UInt8) (hsize : body.length ≤ maxMsgSize)
    (fds : List Fd) (hfds : fds.length ≤ maxAttachedFdEntries) (hkeep : fds = [] ∨ code ∈ fdCodes) :
    RequestFrameOf Q (pack (Pod.toBytes (newRequestHeader code (UInt32.ofNat body.length)) ++ body)
      fds) :=
  ⟨requestFrame_newRequestHeader hcode body hsize fds hfds hkeep, code,
    by rw [frameCode_pack, getCode_newRequestHeader], hQ⟩

variable {E : Type} {Q : MasterReq → Prop} {J : E → Prop}

/-- `check_state` only looks. -/
theorem preserves_checkState : Preserves (J ∘ mainSock) (checkState (E := E)) :=
  .of_keeps_id (Keeps.get.bind fun _ => keeps_checkFailed _)

theorem preserves_replyFor (reply hdr : VhostUserMsgHeader MasterReq) :
    Preserves (J ∘ mainSock) (replyFor (E := E) reply hdr) := by
  unfold replyFor
  split
  · exact .pure _
  · exact .throw _

variable [Os E]

/-- The master's system calls are its socket's. -/
theorem wholeWrites_mainSock (hJ : WholeWrites Q J) :
    WholeWrites Q (J ∘ mainSock : MasterInternal E → Prop) where
  sendmsg m data fds hm hframe := hJ.sendmsg m.mainSock data fds hm hframe
  recvmsg m want room hm := hJ.recvmsg m.mainSock want room hm
  close m fd hm := hJ.close m.mainSock fd hm

variable (hJ : WholeWrites Q J)
include hJ

theorem preserves_sendRequestHeader {code : MasterReq} (hcode : Req.isValid code) (hQ : Q code)
    {fds : Option (List Fd)} (hfds : (fds.getD []).length ≤ maxAttachedFdEntries)
    (hkeep : fds.getD [] = [] ∨ code ∈ fdCodes) :
    Preserves (J ∘ mainSock) (sendRequestHeader (E := E) code fds) := by
  have hframe := requestFrameOf_newRequestHeader hcode hQ [] (Nat.zero_le _) _ hfds hkeep
  exact preserves_checkState.bind fun _ =>
    ((wholeWrites_mainSock hJ).preserves_sendHeader _ fds (by simpa using hframe)).bind
      fun _ => .pure _

theorem preserves_sendRequestWithBody {T : Type} [Pod T] {code : MasterReq}
    (hcode : Req.isValid code) (hQ : Q code) (msg : T) {fds : Option (List Fd)}
    (hfds : (fds.getD []).length ≤ maxAttachedFdEntries)
    (hkeep : fds.getD [] = [] ∨ code ∈ fdCodes) :
    Preserves (J ∘ mainSock) (sendRequestWithBody (E := E) code msg fds) := by
  unfold sendRequestWithBody
  refine .ite_of (fun _ => .throw_bind _ _) fun hsize => ?_
  have hframe := requestFrameOf_newRequestHeader hcode hQ (Pod.toBytes msg)
    (by rw [Pod.length_toBytes]; omega) _ hfds hkeep
  rw [Pod.length_toBytes] at hframe
  exact preserves_checkState.bind fun _ =>
    ((wholeWrites_mainSock hJ).preserves_sendMessage _ msg fds hframe).bind fun _ => .pure _

/-- `send_request_with_payload` checks the size and the descriptors itself
before it writes. -/
theorem preserves_sendRequestWithPayload {T P : Type} [Pod T] [Pod P] {code : MasterReq}
    (hcode : Req.isValid code) (hQ : Q code) (msg : T) (payload : List P) {fds : Option (List Fd)}
    (hkeep : fds.getD [] = [] ∨ code ∈ fdCodes) :
    Preserves (J ∘ mainSock) (sendRequestWithPayload (E := E) code msg payload fds) := by
  unfold sendRequestWithPayload
  refine .ite_of (fun _ => .throw_bind _ _) fun hlen => ?_
  have hsend (hfds : (fds.getD []).length ≤ maxAttachedFdEntries) :
      Preserves (J ∘ mainSock) (do
        checkState (E := E)
        let hdr := newRequestHeader code (UInt32.ofNat (Pod.size T + payload.length * Pod.size P))
        sendMessageWithPayload hdr msg payload fds
        pure hdr) := by
    have hframe := requestFrameOf_newRequestHeader hcode hQ
      (Pod.toBytes msg ++ Pod.listBytes payload)
      (by simp [Pod.length_listBytes, Nat.mul_comm]; omega) _ hfds hkeep
    simp only [List.length_append, Pod.length_toBytes, Pod.length_listBytes] at hframe
    exact preserves_checkState.bind fun _ =>
      ((wholeWrites_mainSock hJ).preserves_sendMessageWithPayload _ msg payload fds fun _ => by
        simpa [List.append_assoc, Nat.mul_comm] using hframe).bind fun _ => .pure _
  -- the descriptor check, made only when there are descriptors
  split
  · exact .ite_of (fun _ => .throw_bind _ _) fun hfds => hsend (by simpa using hfds)
  · next hnone =>
      cases fds with
      | none => exact hsend (Nat.zero_le _)
      | some fdArr => exact absurd rfl (hnone fdArr)

theorem preserves_sendFdForVring {code : MasterReq} (hcode : Req.isValid code) (hQ : Q code)
    (hmem : code ∈ fdCodes) (queueIndex : UInt64) (fd : Fd) :
    Preserves (J ∘ mainSock) (sendFdForVring (E := E) code queueIndex fd) := by
  have hframe := requestFrameOf_newRequestHeader hcode hQ
    (Pod.toBytes (VhostUserU64.mk queueIndex)) (by simp; decide) [fd]
    (by simp [maxAttachedFdEntries]) (.inr hmem)
  rw [Pod.length_toBytes] at hframe
  exact Preserves.get.bind fun _ => .ite (.throw_bind _ _) (preserves_checkState.bind fun _ =>
    ((wholeWrites_mainSock hJ).preserves_sendMessage _ _ (some [fd]) hframe).bind fun _ => .pure _)

/-- The master's reads leave a reply's descriptors closed or handed back; the
connection is the socket's to keep. -/
theorem preserves_recvReply (T : Type) [Pod T] [VhostUserMsgValidator T]
    (hdr : VhostUserMsgHeader MasterReq) :
    Preserves (J ∘ mainSock) (recvReply (E := E) T hdr) := by
  have hread := (wholeWrites_mainSock hJ).preserves_recvBody (T := T)
  have hclose := (wholeWrites_mainSock hJ).preserves_closeRfds
  exact .ite (.throw_bind _ _) (preserves_checkState.bind fun _ => hread.bind
    fun ⟨reply, _, rfds⟩ => (preserves_replyFor reply hdr).bind fun _ =>
      .ite ((hclose rfds).bind fun _ => .throw_bind _ _) (.pure _))

theorem preserves_recvReplyWithPayload (T : Type) [Pod T] [VhostUserMsgValidator T]
    (hdr : VhostUserMsgHeader MasterReq) :
    Preserves (J ∘ mainSock) (recvReplyWithPayload (E := E) T hdr) := by
  have hread := (wholeWrites_mainSock hJ).preserves_recvPayloadIntoBuf (T := T)
  have hclose := (wholeWrites_mainSock hJ).preserves_closeRfds
  exact .ite (.throw_bind _ _) (preserves_checkState.bind fun _ =>
    .ite (.throw_bind _ _) ((hread _).bind fun ⟨reply, _, _, rfds, _⟩ =>
      (preserves_replyFor reply hdr).bind fun _ =>
        .ite ((hclose rfds).bind fun _ => .throw_bind _ _)
          (.ite (.throw_bind _ _) (.pure _))))

theorem preserves_waitForAck (hdr : VhostUserMsgHeader MasterReq) :
    Preserves (J ∘ mainSock) (waitForAck (E := E) hdr) := by
  have hread := (wholeWrites_mainSock hJ).preserves_recvBody (T := VhostUserU64)
  have hclose := (wholeWrites_mainSock hJ).preserves_closeRfds
  exact Preserves.get.bind fun _ => .ite (.pure _) (preserves_checkState.bind fun _ =>
    hread.bind fun ⟨reply, _, rfds⟩ => (preserves_replyFor reply hdr).bind fun _ =>
      .ite ((hclose rfds).bind fun _ => .throw_bind _ _) (.ite (.throw _) (.pure _)))

end MasterInternal

namespace Master

open MasterInternal SlaveReqHandler

-- Each operation writes one request at most, with its own code; `hQ` says that
-- the endpoint takes that code.
variable {E : Type} [Os E] {Q : MasterReq → Prop} {J : E → Prop} (hJ : WholeWrites Q J)
include hJ

theorem preserves_getFeatures (hQ : Q .getFeatures) :
    Preserves (J ∘ mainSock) (getFeatures (E := E)) :=
  (preserves_sendRequestHeader hJ (by decide) hQ (by simp) (by simp)).bind fun hdr =>
    (preserves_recvReply hJ _ hdr).bind fun _ => Preserves.bind (.modify fun _ hm => hm)
      fun _ => .pure _

theorem preserves_setFeatures (hQ : Q .setFeatures) (features : UInt64) :
    Preserves (J ∘ mainSock) (setFeatures (E := E) features) :=
  (preserves_sendRequestWithBody hJ (by decide) hQ _ (by simp) (by simp)).bind fun _ =>
    .modify fun _ hm => hm

theorem preserves_setOwner (hQ : Q .setOwner) : Preserves (J ∘ mainSock) (setOwner (E := E)) :=
  (preserves_sendRequestHeader hJ (by decide) hQ (by simp) (by simp)).bind fun _ => .pure _

theorem preserves_resetOwner (hQ : Q .resetOwner) :
    Preserves (J ∘ mainSock) (resetOwner (E := E)) :=
  (preserves_sendRequestHeader hJ (by decide) hQ (by simp) (by simp)).bind fun _ => .pure _

theorem preserves_setMemTable (hQ : Q .setMemTable) (regions : List VhostUserMemoryRegionInfo) :
    Preserves (J ∘ mainSock) (setMemTable (E := E) regions) := by
  unfold setMemTable
  exact .ite (.throw_bind _ _) (Preserves.bind (.of_keeps_id (keeps_lift _)) fun _ =>
    (preserves_sendRequestWithPayload hJ (by decide) hQ _ _ (.inr (by decide))).bind
      (preserves_waitForAck hJ))

theorem preserves_setLogBase (hQ : Q .setLogBase) (base : UInt64) (fd : Option Fd) :
    Preserves (J ∘ mainSock) (setLogBase (E := E) base fd) := by
  have hfds : ((fd.map fun fd => [fd]).getD []).length ≤ maxAttachedFdEntries := by
    cases fd <;> simp [maxAttachedFdEntries]
  exact Preserves.get.bind fun _ =>
    .ite ((preserves_sendRequestWithBody hJ (by decide) hQ _ hfds (.inr (by decide))).bind
        fun _ => .pure _)
      ((preserves_sendRequestWithBody hJ (by decide) hQ _ (by simp) (by simp)).bind
        fun _ => .pure _)

theorem preserves_setLogFd (hQ : Q .setLogFd) (fd : Fd) :
    Preserves (J ∘ mainSock) (setLogFd (E := E) fd) :=
  (preserves_sendRequestHeader hJ (by decide) hQ (by simp [maxAttachedFdEntries])
    (.inr (by decide))).bind fun _ => .pure _

theorem preserves_setVringState {code : MasterReq} (hcode : Req.isValid code) (hQ : Q code)
    (queueIndex : UInt64) (value : UInt16) :
    Preserves (J ∘ mainSock) (setVringState (E := E) code queueIndex value) :=
  Preserves.get.bind fun _ => .ite (.throw_bind _ _)
    ((preserves_sendRequestWithBody hJ hcode hQ _ (by simp) (by simp)).bind
      (preserves_waitForAck hJ))

theorem preserves_setVringAddr (hQ : Q .setVringAddr) (queueIndex : UInt64)
    (configData : VringConfigData) :
    Preserves (J ∘ mainSock) (setVringAddr (E := E) queueIndex configData) :=
  Preserves.get.bind fun _ => .ite (.throw_bind _ _)
    ((preserves_sendRequestWithBody hJ (by decide) hQ _ (by simp) (by simp)).bind
      (preserves_waitForAck hJ))

theorem preserves_getVringBase (hQ : Q .getVringBase) (queueIndex : UInt64) :
    Preserves (J ∘ mainSock) (getVringBase (E := E) queueIndex) :=
  Preserves.get.bind fun _ => .ite (.throw_bind _ _)
    ((preserves_sendRequestWithBody hJ (by decide) hQ _ (by simp) (by simp)).bind fun hdr =>
      (preserves_recvReply hJ _ hdr).bind fun _ => .pure _)

theorem preserves_setVringFd {code : MasterReq} (hcode : Req.isValid code) (hQ : Q code)
    (hmem : code ∈ fdCodes) (queueIndex : UInt64) (fd : Fd) :
    Preserves (J ∘ mainSock) (setVringFd (E := E) code queueIndex fd) :=
  Preserves.get.bind fun _ => .ite (.throw_bind _ _)
    ((preserves_sendFdForVring hJ hcode hQ hmem queueIndex fd).bind fun _ => .pure _)

theorem preserves_getProtocolFeatures (hQ : Q .getProtocolFeatures) :
    Preserves (J ∘ mainSock) (getProtocolFeatures (E := E)) :=
  Preserves.get.bind fun _ => .ite (.throw_bind _ _)
    ((preserves_sendRequestHeader hJ (by decide) hQ (by simp) (by simp)).bind fun hdr =>
      (preserves_recvReply hJ _ hdr).bind fun val => Preserves.bind (.modify fun _ hm => hm)
        fun _ => by
          cases VhostUserProtocolFeatures.fromBits val.value with
          | some _ => exact .pure _
          | none => exact .throw _)

theorem preserves_setProtocolFeatures (hQ : Q .setProtocolFeatures) (features : UInt64) :
    Preserves (J ∘ mainSock) (setProtocolFeatures (E := E) features) :=
  Preserves.get.bind fun _ => .ite (.throw_bind _ _)
    ((preserves_sendRequestWithBody hJ (by decide) hQ _ (by simp) (by simp)).bind fun _ =>
      .modify fun _ hm => hm)

theorem preserves_getQueueNum (hQ : Q .getQueueNum) :
    Preserves (J ∘ mainSock) (getQueueNum (E := E)) :=
  Preserves.get.bind fun _ => .ite (.throw_bind _ _)
    ((preserves_sendRequestHeader hJ (by decide) hQ (by simp) (by simp)).bind fun hdr =>
      (preserves_recvReply hJ _ hdr).bind fun _ => .ite (.throw_bind _ _)
        (Preserves.bind (.modify fun _ hm => hm) fun _ => .pure _))

theorem preserves_setVringEnable (hQ : Q .setVringEnable) (queueIndex : UInt64) (enable : Bool) :
    Preserves (J ∘ mainSock) (setVringEnable (E := E) queueIndex enable) :=
  Preserves.get.bind fun _ => .ite (.throw_bind _ _) (.ite (.throw_bind _ _)
    ((preserves_sendRequestWithBody hJ (by decide) hQ _ (by simp) (by simp)).bind
      (preserves_waitForAck hJ)))

theorem preserves_getConfig (hQ : Q .getConfig) (offset size flags : UInt32) (buf : List UInt8) :
    Preserves (J ∘ mainSock) (getConfig (E := E) offset size flags buf) := by
  have hclose := (wholeWrites_mainSock hJ).preserves_closeRfds
  exact .ite (.throw_bind _ _) (Preserves.get.bind fun _ => .ite (.throw_bind _ _)
    ((preserves_sendRequestWithPayload hJ (by decide) hQ _ _ (by simp)).bind fun hdr =>
      (preserves_recvReplyWithPayload hJ _ hdr).bind fun ⟨_, _, rfds⟩ =>
        .ite ((hclose rfds).bind fun _ => .throw_bind _ _)
          (.ite (.throw_bind _ _) (.ite (.throw_bind _ _) (.pure _)))))

theorem preserves_setConfig (hQ : Q .setConfig) (offset flags : UInt32) (buf : List UInt8) :
    Preserves (J ∘ mainSock) (setConfig (E := E) offset flags buf) :=
  .ite (.throw_bind _ _) (.ite (.throw_bind _ _) (Preserves.get.bind fun _ =>
    .ite (.throw_bind _ _)
      ((preserves_sendRequestWithPayload hJ (by decide) hQ _ _ (by simp)).bind
        (preserves_waitForAck hJ))))

theorem preserves_setSlaveRequestFd (hQ : Q .setSlaveReqFd) (fd : Fd) :
    Preserves (J ∘ mainSock) (setSlaveRequestFd (E := E) fd) :=
  Preserves.get.bind fun _ => .ite (.throw_bind _ _)
    ((preserves_sendRequestHeader hJ (by decide) hQ (by simp [maxAttachedFdEntries])
      (.inr (by decide))).bind fun _ => .pure _)

end Master

/-- A call of one of the methods that `Master` implements for `VhostBackend`
and `VhostUserMaster`, with its arguments. -/
inductive MasterOp
  | getFeatures
  | setFeatures (features : UInt64)
  | setOwner
  | resetOwner
  | setMemTable (regions : List VhostUserMemoryRegionInfo)
  | setLogBase (base : UInt64) (fd : Option Fd)
  | setLogFd (fd : Fd)
  | setVringNum (queueIndex : UInt64) (num : UInt16)
  | setVringAddr (queueIndex : UInt64) (configData : VringConfigData)
  | setVringBase (queueIndex : UInt64) (base : UInt16)
  | getVringBase (queueIndex : UInt64)
  | setVringCall (queueIndex : UInt64) (fd : Fd)
  | setVringKick (queueIndex : UInt64) (fd : Fd)
  | setVringErr (queueIndex : UInt64) (fd : Fd)
  | getProtocolFeatures
  | setProtocolFeatures (features : UInt64)
  | getQueueNum
  | setVringEnable (queueIndex : UInt64) (enable : Bool)
  | getConfig (offset size flags : UInt32) (buf : List UInt8)
  | setConfig (offset flags : UInt32) (buf : List UInt8)
  | setSlaveRequestFd (fd : Fd)

namespace MasterOp

/-- The code of the one request the call writes, when it writes one. -/
def code : MasterOp → MasterReq
  | getFeatures => .getFeatures
  | setFeatures _ => .setFeatures
  | setOwner => .setOwner
  | resetOwner => .resetOwner
  | setMemTable _ => .setMemTable
  | setLogBase _ _ => .setLogBase
  | setLogFd _ => .setLogFd
  | setVringNum _ _ => .setVringNum
  | setVringAddr _ _ => .setVringAddr
  | setVringBase _ _ => .setVringBase
  | getVringBase _ => .getVringBase
  | setVringCall _ _ => .setVringCall
  | setVringKick _ _ => .setVringKick
  | setVringErr _ _ => .setVringErr
  | getProtocolFeatures => .getProtocolFeatures
  | setProtocolFeatures _ => .setProtocolFeatures
  | getQueueNum => .getQueueNum
  | setVringEnable _ _ => .setVringEnable
  | getConfig _ _ _ _ => .getConfig
  | setConfig _ _ _ => .setConfig
  | setSlaveRequestFd _ => .setSlaveReqFd

variable {E : Type} [Os E]

/-- The call, with what it returns dropped: the caller goes on whether it
returned a value or an error. -/
def run : MasterOp → Prog (MasterInternal E) Unit
  | getFeatures => do let _ ← Master.getFeatures
  | setFeatures features => Master.setFeatures features
  | setOwner => Master.setOwner
  | resetOwner => Master.resetOwner
  | setMemTable regions => Master.setMemTable regions
  | setLogBase base fd => Master.setLogBase base fd
  | setLogFd fd => Master.setLogFd fd
  | setVringNum queueIndex num => Master.setVringNum queueIndex num
  | setVringAddr queueIndex configData => Master.setVringAddr queueIndex configData
  | setVringBase queueIndex base => Master.setVringBase queueIndex base
  | getVringBase queueIndex => do let _ ← Master.getVringBase queueIndex
  | setVringCall queueIndex fd => Master.setVringCall queueIndex fd
  | setVringKick queueIndex fd => Master.setVringKick queueIndex fd
  | setVringErr queueIndex fd => Master.setVringErr queueIndex fd
  | getProtocolFeatures => do let _ ← Master.getProtocolFeatures
  | setProtocolFeatures features => Master.setProtocolFeatures features
  | getQueueNum => do let _ ← Master.getQueueNum
  | setVringEnable queueIndex enable => Master.setVringEnable queueIndex enable
  | getConfig offset size flags buf => do let _ ← Master.getConfig offset size flags buf
  | setConfig offset flags buf => Master.setConfig offset flags buf
  | setSlaveRequestFd fd => Master.setSlaveRequestFd fd

open Master in
/-- Every call of the master writes whole requests only, on every path, each
with the call's own code. -/
theorem preserves_run {Q : MasterReq → Prop} {J : E → Prop} (hJ : WholeWrites Q J) :
    ∀ op : MasterOp, Q op.code → Preserves (J ∘ MasterInternal.mainSock) (op.run (E := E))
  | getFeatures, hQ => (preserves_getFeatures hJ hQ).bind fun _ => .pure _
  | setFeatures features, hQ => preserves_setFeatures hJ hQ features
  | setOwner, hQ => preserves_setOwner hJ hQ
  | resetOwner, hQ => preserves_resetOwner hJ hQ
  | setMemTable regions, hQ => preserves_setMemTable hJ hQ regions
  | setLogBase base fd, hQ => preserves_setLogBase hJ hQ base fd
  | setLogFd fd, hQ => preserves_setLogFd hJ hQ fd
  | setVringNum queueIndex num, hQ =>
      preserves_setVringState hJ (by decide) (show Q .setVringNum from hQ) queueIndex num
  | setVringAddr queueIndex configData, hQ => preserves_setVringAddr hJ hQ queueIndex configData
  | setVringBase queueIndex base, hQ =>
      preserves_setVringState hJ (by decide) (show Q .setVringBase from hQ) queueIndex base
  | getVringBase queueIndex, hQ => (preserves_getVringBase hJ hQ queueIndex).bind fun _ => .pure _
  | setVringCall queueIndex fd, hQ =>
      preserves_setVringFd hJ (by decide) (show Q .setVringCall from hQ) (by decide) queueIndex fd
  | setVringKick queueIndex fd, hQ =>
      preserves_setVringFd hJ (by decide) (show Q .setVringKick from hQ) (by decide) queueIndex fd
  | setVringErr queueIndex fd, hQ =>
      preserves_setVringFd hJ (by decide) (show Q .setVringErr from hQ) (by decide) queueIndex fd
  | getProtocolFeatures, hQ => (preserves_getProtocolFeatures hJ hQ).bind fun _ => .pure _
  | setProtocolFeatures features, hQ => preserves_setProtocolFeatures hJ hQ features
  | getQueueNum, hQ => (preserves_getQueueNum hJ hQ).bind fun _ => .pure _
  | setVringEnable queueIndex enable, hQ => preserves_setVringEnable hJ hQ queueIndex enable
  | getConfig offset size flags buf, hQ =>
      (preserves_getConfig hJ hQ offset size flags buf).bind fun _ => .pure _
  | setConfig offset flags buf, hQ => preserves_setConfig hJ hQ offset flags buf
  | setSlaveRequestFd fd, hQ => preserves_setSlaveRequestFd hJ hQ fd

end MasterOp

/-! ## Every state of a session -/

namespace Session

open SlaveReqHandler

variable (S : Type) [VhostUserSlaveReqHandler S]

/-- The states a master connected to a slave reaches.  The slave starts with
nothing to read; then the master makes any calls, whatever each returns, while
the slave's thread takes rounds of its loop at moments of its own, its backend
changes its own state, and its owner marks it failed. -/
inductive Reachable : MasterInternal (Link (SlaveReqHandler S)) → Prop
  | connect (backend : S) (maxQueueNum : UInt64) :
      Reachable (MasterInternal.new (Link.connect (new (Sock.ofStream []) backend)) maxQueueNum)
  | call {m : MasterInternal (Link (SlaveReqHandler S))} (op : MasterOp) :
      Reachable m → Reachable ((op.run (E := Link (SlaveReqHandler S))).run m).state
  | serveRound {m : MasterInternal (Link (SlaveReqHandler S))} :
      Reachable m → Reachable { m with mainSock := Link.serveRound m.mainSock }
  | setBackend {m : MasterInternal (Link (SlaveReqHandler S))} (backend : S) :
      Reachable m →
        Reachable { m with mainSock := { m.mainSock with peer := { m.mainSock.peer with
          backend := backend } } }
  | setFailed {m : MasterInternal (Link (SlaveReqHandler S))} (error : Int32) :
      Reachable m →
        Reachable { m with mainSock := { m.mainSock with peer := m.mainSock.peer.setFailed error } }

variable {S}

/-- The invariant of the session: the connection stays synced in every state. -/
theorem synced_of_reachable {m : MasterInternal (Link (SlaveReqHandler S))} (hm : Reachable S m) :
    Link.Synced m.mainSock := by
  induction hm with
  | connect backend maxQueueNum => exact Link.synced_connect _ ⟨rfl, .nil⟩
  | call op _ ih => exact MasterOp.preserves_run Link.wholeWrites_synced op trivial _ ih
  | serveRound _ ih => exact ih.serveRound
  | setBackend _ _ ih => exact ⟨ih.sendPlan, ih.tx, ih.input⟩
  | setFailed _ _ ih => exact ⟨ih.sendPlan, ih.tx, ih.input⟩

/-- In every state a master and a slave reach, the slave's unread input is
whole requests, one after another: each a valid header and a body of the size
it states, with descriptors only on a code that may carry them. -/
theorem reachable_slave_input_framed {m : MasterInternal (Link (SlaveReqHandler S))}
    (hm : Reachable S m) : Framed m.mainSock.peer.mainSock.rx :=
  (synced_of_reachable hm).input.2

theorem reachable_slave_input_framed_setOwner :
    Framed ((MasterOp.setOwner.run (E := Link (SlaveReqHandler DummySlaveReqHandler))).run
      (MasterInternal.new (Link.connect (new (Sock.ofStream []) DummySlaveReqHandler.new))
        2)).state.mainSock.peer.mainSock.rx :=
  reachable_slave_input_framed (.call .setOwner (.connect _ _))

/-- In every state a master and a slave reach, the slave's next
`handle_request`, when it has not failed and has input waiting, reads one whole
request, dispatches it on the header and the body the master wrote, and leaves
whole requests behind: the slave never misreads the master's requests. -/
theorem reachable_next_request_dispatched_whole {m : MasterInternal (Link (SlaveReqHandler S))}
    (hm : Reachable S m) (herr : m.mainSock.peer.error = none)
    (hrx : m.mainSock.peer.mainSock.rx ≠ []) :
    ∃ (hdr : VhostUserMsgHeader MasterReq) (body : List UInt8) (fds : List Fd) (rest : Stream Fd),
      m.mainSock.peer.mainSock.rx = pack (Pod.toBytes hdr ++ body) fds ++ rest ∧
      hdr.isValid = some true ∧ hdr.getSize.toNat = body.length ∧ Framed rest ∧
      (handleRequest (S := S)).run m.mainSock.peer =
        (dispatchRequest hdr body.length body (if fds.isEmpty then none else some fds)).run
          (m.mainSock.peer.consumed fds rest) :=
  run_handleRequest_of_inputFramed _ (synced_of_reachable hm).input herr hrx

/-- After `set_owner` on a fresh connection, the request waits for the slave,
and is read whole. -/
theorem reachable_next_request_dispatched_whole_setOwner :
    let m := ((MasterOp.setOwner.run (E := Link (SlaveReqHandler DummySlaveReqHandler))).run
      (MasterInternal.new (Link.connect (new (Sock.ofStream []) DummySlaveReqHandler.new)) 2)).state
    m.mainSock.peer.error = none ∧ m.mainSock.peer.mainSock.rx ≠ [] ∧
    ∃ (hdr : VhostUserMsgHeader MasterReq) (body : List UInt8) (fds : List Fd) (rest : Stream Fd),
      m.mainSock.peer.mainSock.rx = pack (Pod.toBytes hdr ++ body) fds ++ rest ∧
      hdr.isValid = some true ∧ hdr.getSize.toNat = body.length ∧ Framed rest ∧
      (handleRequest (S := DummySlaveReqHandler)).run m.mainSock.peer =
        (dispatchRequest hdr body.length body (if fds.isEmpty then none else some fds)).run
          (m.mainSock.peer.consumed fds rest) :=
  have herr : ((MasterOp.setOwner.run (E := Link (SlaveReqHandler DummySlaveReqHandler))).run
      (MasterInternal.new (Link.connect (new (Sock.ofStream []) DummySlaveReqHandler.new))
        2)).state.mainSock.peer.error = none := by decide
  have hrx : ((MasterOp.setOwner.run (E := Link (SlaveReqHandler DummySlaveReqHandler))).run
      (MasterInternal.new (Link.connect (new (Sock.ofStream []) DummySlaveReqHandler.new))
        2)).state.mainSock.peer.mainSock.rx ≠ [] := by decide
  ⟨herr, hrx, reachable_next_request_dispatched_whole (.call .setOwner (.connect _ _)) herr hrx⟩

end Session

end Vhost.User
