import Mathlib
import Vhost.User.Request
import Vhost.User.Link
import Vhost.User.SlaveFsCache

/-!
# Virtio-fs requests on the slave channel

`SlaveFsCacheReq::send_message` sends every virtio-fs request with NEED_REPLY
set and then waits for the ack.  `MasterReqHandler::handle_request` sends the
ack at its very end; the checks before it (the descriptors, the size, the
body's validator) leave through `?`.  A request whose body the validator
refuses is therefore answered with nothing, whatever the backend.

Joined to a master that serves the channel and goes on after a failed request
(`Link`), the requester's `fs_slave_map` and `fs_slave_unmap` then wait for
the ack for ever.
-/

namespace Vhost.User

open ByteStream EStateM

/-! ## What `SlaveFsCacheReq` writes -/

namespace SlaveFsCacheReq

/-- The header `send_message` writes reads back as built: the request's code,
version 1, NEED_REPLY without REPLY, and the size of the body. -/
theorem fields_requestHeader (flags : SlaveReq) :
    (requestHeader flags).fields = ⟨some flags, 0x1, false, true, 256⟩ := by
  rw [requestHeader, VhostUserMsgHeader.fields_setNeedReply, VhostUserMsgHeader.fields_new]
  rfl

@[simp]
theorem getCode_requestHeader (flags : SlaveReq) : (requestHeader flags).getCode = some flags :=
  congrArg VhostUserMsgHeader.Fields.code (fields_requestHeader flags)

@[simp]
theorem getSize_requestHeader (flags : SlaveReq) : (requestHeader flags).getSize = 256 :=
  congrArg VhostUserMsgHeader.Fields.size (fields_requestHeader flags)

@[simp]
theorem isReply_requestHeader (flags : SlaveReq) : (requestHeader flags).isReply = false :=
  congrArg VhostUserMsgHeader.Fields.reply (fields_requestHeader flags)

@[simp]
theorem getVersion_requestHeader (flags : SlaveReq) : (requestHeader flags).getVersion = 0x1 :=
  congrArg VhostUserMsgHeader.Fields.version (fields_requestHeader flags)

theorem isValid_requestHeader {flags : SlaveReq} (hflags : Req.isValid flags = true) :
    (requestHeader flags).isValid = some true := by
  cases flags <;> first | rfl | exact absurd hflags (by decide)

/-- What `send_message` writes for a request: the header and the body. -/
def fsMessage (flags : SlaveReq) (fs : VhostUserFSSlaveMsg) : List UInt8 :=
  Pod.toBytes (requestHeader flags) ++ Pod.toBytes fs

@[simp]
theorem length_fsMessage (flags : SlaveReq) (fs : VhostUserFSSlaveMsg) :
    (fsMessage flags fs).length = 12 + 256 := by
  simp [fsMessage]

end SlaveFsCacheReq

/-! ## The master's handler -/

namespace MasterReqHandler

open SlaveFsCacheReq SockLens

variable {S : Type}

theorem run_checkState_of_error_none (h : MasterReqHandler S)
    (herr : h.error = none) : (checkState (S := S)).run h = .ok () h := by
  simp [checkState, checkFailed, herr]

/-- The handler after reading a request whose `fds` came with its header, with
`rest` behind it. -/
def consumed (h : MasterReqHandler S) (fds : List Fd) (rest : Stream Fd) : MasterReqHandler S :=
  { h with subSock := { h.subSock with rx := rest, received := h.subSock.received ++ fds } }

/-- The virtio-fs requests with the descriptors `check_attached_rfds` asks of
them: one with FS_MAP and FS_IO, none with FS_UNMAP and FS_SYNC. -/
def FsRequest (flags : SlaveReq) (fds : List Fd) : Prop :=
  (flags = .fsMap ∨ flags = .fsIo) ∧ (∃ fd, fds = [fd]) ∨
    (flags = .fsUnmap ∨ flags = .fsSync) ∧ fds = []

theorem run_checkAttachedRfds_requestHeader (h : MasterReqHandler S) {flags : SlaveReq}
    {fds : List Fd} (hkind : FsRequest flags fds) :
    (checkAttachedRfds (S := S) (requestHeader flags)
        (if fds.isEmpty then none else some fds)).run h =
      .ok (if fds.isEmpty then none else some fds) h := by
  rcases hkind with ⟨rfl | rfl, fd, rfl⟩ | ⟨rfl | rfl, rfl⟩ <;> rfl

variable [VhostUserMasterReqHandler S]

/-- A virtio-fs request as `SlaveFsCacheReq` writes it, whose body the
validator refuses: `handle_request` leaves at `extract_msg_body` with
`InvalidMessage`.  The backend is not called and no ack is written. -/
theorem run_handleRequest_fsMessage_of_not_isValid (h : MasterReqHandler S) {flags : SlaveReq}
    {fs : VhostUserFSSlaveMsg} (fds : List Fd) (rest : Stream Fd) (hkind : FsRequest flags fds)
    (hfs : VhostUserMsgValidator.isValid fs = false) (herr : h.error = none)
    (hplan : h.subSock.recvPlan = [])
    (hrx : h.subSock.rx = pack (fsMessage flags fs) fds ++ rest) :
    (handleRequest (S := S)).run h = .error (.err .invalidMessage) (h.consumed fds rest) := by
  have hlen : fds.length ≤ maxAttachedFdEntries := by
    rcases hkind with ⟨-, fd, rfl⟩ | ⟨-, rfl⟩ <;> simp [maxAttachedFdEntries]
  have hheader := run_recvHeader_message h (requestHeader flags) (Pod.toBytes fs) fds rest hrx hplan
    (isValid_requestHeader (by rcases hkind with ⟨rfl | rfl, -⟩ | ⟨rfl | rfl, -⟩ <;> decide)) hlen
  have hextract : ∀ s : MasterReqHandler S, (Vhost.User.extractMsgBody VhostUserFSSlaveMsg
      (requestHeader flags) (Pod.toBytes fs).length (Pod.toBytes fs)).run s =
        .error (.err .invalidMessage) s := fun s => by
    rw [run_extractMsgBody_toBytes fs (by simp) (isReply_requestHeader flags)
      (getVersion_requestHeader flags), hfs]
    rfl
  simp only [handleRequest, EStateM.run_bind, run_checkState_of_error_none h herr, hheader,
    run_checkAttachedRfds_requestHeader _ hkind]
  rw [run_readRequestBody_message _ _ (Pod.toBytes fs) rest (by simp) (by simp; exact hplan)
    (by simp)]
  -- each of the four arms starts with the body check
  rcases hkind with ⟨rfl | rfl, -⟩ | ⟨rfl | rfl, -⟩ <;>
    simp only [getCode_requestHeader, EStateM.run_bind, extractMsgBody, hextract] <;> rfl

theorem run_serveOne_of_run_handleRequest {h h' : MasterReqHandler S} {f : Fault}
    (hrun : (handleRequest (S := S)).run h = .error f h') :
    (Responder.serveOne (π := MasterReqHandler S)).run h = .error f h' := by
  simp only [Responder.serveOne, EStateM.run_bind, hrun]

end MasterReqHandler

/-- A master-side backend that overrides none of the trait's methods: every
request is answered `ENOSYS`. -/
structure DefaultMasterBackend where
  deriving DecidableEq, Repr

instance : VhostUserMasterReqHandler DefaultMasterBackend := {}

/-! ## The requester -/

namespace SlaveFsCacheReq

open MasterReqHandler

section Kernel

variable {E : Type}

theorem run_checkState_of_error_none (r : SlaveFsCacheReq E) (herr : r.error = none) :
    (checkState (E := E)).run r = .ok () r := by
  simp [checkState, checkFailed, herr]

variable [Os E]

theorem os_sendmsg (r : SlaveFsCacheReq E) (data : List UInt8) (fds : List Fd) :
    Os.sendmsg r data fds =
      ((Os.sendmsg r.sock data fds).1, { r with sock := (Os.sendmsg r.sock data fds).2 }) := rfl

theorem os_recvmsg (r : SlaveFsCacheReq E) (want room : Nat) :
    Os.recvmsg r want room =
      ((Os.recvmsg r.sock want room).1, { r with sock := (Os.recvmsg r.sock want room).2 }) := rfl

/-- `send_message` on a kernel that takes the request whole, when the read of
the ack then blocks: the requester never returns. -/
theorem run_sendMessage_of_blocks (r : SlaveFsCacheReq E) (flags : SlaveReq)
    (fs : VhostUserFSSlaveMsg) (fds : Option (List Fd)) {e₁ e₂ : E} (herr : r.error = none)
    (hsend : Os.sendmsg r.sock (fsMessage flags fs) (fds.getD []) =
      (.ok (fsMessage flags fs).length, e₁))
    (hblock : Os.recvmsg e₁ (12 + Pod.size VhostUserU64) maxAttachedFdEntries = (none, e₂)) :
    (sendMessage flags fs fds).run r = .error .diverges { r with sock := e₂ } := by
  have hwrite : (Vhost.User.sendMessage (requestHeader flags) fs fds).run r =
      .ok () { r with sock := e₁ } := by
    apply run_sendMessage_of_sendmsg
    rw [os_sendmsg, show Pod.toBytes (requestHeader flags) ++ Pod.toBytes fs = fsMessage flags fs
      from rfl, hsend, length_fsMessage]
    rfl
  have hack : (waitForAck (requestHeader flags)).run { r with sock := e₁ } =
      .error .diverges { r with sock := e₂ } := by
    simp only [waitForAck, EStateM.run_bind, run_checkState_of_error_none { r with sock := e₁ } herr]
    rw [run_recvBody_of_blocks (by rw [os_recvmsg, hblock])]
  simp only [sendMessage, EStateM.run_bind, run_checkState_of_error_none r herr, hwrite, hack]

end Kernel

variable {S : Type} [VhostUserMasterReqHandler S]

/-- A fresh requester joined to a master's handler that has nothing in flight,
sending a request whose body the handler refuses: the handler fails it and
writes nothing, and the requester waits for the ack for ever. -/
theorem run_sendMessage_connect_of_not_isValid (h : MasterReqHandler S) (flags : SlaveReq)
    {fs : VhostUserFSSlaveMsg} (fds : Option (List Fd)) (hkind : FsRequest flags (fds.getD []))
    (hfs : VhostUserMsgValidator.isValid fs = false) (herr : h.error = none)
    (hrx : h.subSock.rx = []) (htx : h.subSock.tx = []) (hplan : h.subSock.recvPlan = []) :
    ∃ r, (sendMessage flags fs fds).run (new (Link.connect h)) = .error .diverges r := by
  -- the request reaches the handler's queue whole
  have hsend := Link.sendmsg_of_sendPlan_nil (Link.connect h) (fsMessage flags fs) (fds.getD [])
    rfl
  set l := Link.deliver { Link.connect h with
    sock := (Link.connect h).sock.afterSend (fsMessage flags fs) (fds.getD []) } with hl
  have hqueue : l.peer.subSock.rx = pack (fsMessage flags fs) (fds.getD []) ++ [] := by
    simp [hl, Link.deliver, Link.connect, Sock.ofStream, Responder.endpoint,
      Responder.setEndpoint, hrx]
  have hpeer : l.peer.error = none ∧ l.peer.subSock.recvPlan = [] ∧ l.peer.subSock.tx = [] := by
    simp [hl, Link.deliver, Link.connect, Responder.endpoint, Responder.setEndpoint, herr, hplan,
      htx]
  -- the handler fails it and answers nothing, so the read of the ack blocks
  have hfail := run_handleRequest_fsMessage_of_not_isValid l.peer _ [] hkind hfs hpeer.1
    hpeer.2.1 hqueue
  have hpending : (Responder.endpoint l.peer).rx ≠ [] := by
    rw [show Responder.endpoint l.peer = l.peer.subSock from rfl, hqueue, List.append_nil,
      ← List.length_pos_iff, length_pack, length_fsMessage]
    omega
  have hblock := Link.recvmsg_of_unanswered (12 + Pod.size VhostUserU64) maxAttachedFdEntries
    rfl hpending (run_serveOne_of_run_handleRequest hfail) rfl hpeer.2.2 rfl rfl
  exact ⟨_, run_sendMessage_of_blocks _ flags fs fds rfl hsend hblock⟩

/-- The `.or_else` of the trait methods hands back an `Err`, and nothing else:
a call that never returns takes them with it. -/
theorem run_asHandlerResult_of_fault {x : Prog (SlaveFsCacheReq E) UInt64}
    {r r' : SlaveFsCacheReq E} {f : Fault} (hx : x.run r = .error f r') (hf : f.error? = none) :
    (asHandlerResult x).run r = .error f r' := by
  simp only [asHandlerResult, EStateM.run_bind, Prog.run_result_of_fault hx hf]

/-- Virtio-fs requests whose body the master's validator refuses.  The master's
`handle_request` fails them with `InvalidMessage` and writes no ack, whatever
its backend; joined to that master, `fs_slave_map` and `fs_slave_unmap` wait for
the ack for ever. -/
theorem fsSlaveMap_fsSlaveUnmap_wait_for_unsent_ack (h : MasterReqHandler S)
    (herr : h.error = none) (hrx : h.subSock.rx = []) (htx : h.subSock.tx = [])
    (hplan : h.subSock.recvPlan = []) {fs : VhostUserFSSlaveMsg}
    (hfs : VhostUserMsgValidator.isValid fs = false) (fd : Fd) :
    (MasterReqHandler.handleRequest (S := S)).run
        { h with subSock := { h.subSock with rx := pack (fsMessage .fsUnmap fs) [] } } =
      .error (.err .invalidMessage) { h with subSock := { h.subSock with rx := [] } } ∧
    (∃ r, (fsSlaveMap fs fd).run (new (Link.connect h)) = .error .diverges r) ∧
    (∃ r, (fsSlaveUnmap fs).run (new (Link.connect h)) = .error .diverges r) := by
  have hunmap : FsRequest .fsUnmap [] := Or.inr ⟨Or.inl rfl, rfl⟩
  refine ⟨?_, ?_, ?_⟩
  · rw [run_handleRequest_fsMessage_of_not_isValid
      { h with subSock := { h.subSock with rx := pack (fsMessage .fsUnmap fs) [] } } [] [] hunmap
      hfs herr hplan (List.append_nil _).symm]
    simp [consumed]
  · obtain ⟨r, hrun⟩ := run_sendMessage_connect_of_not_isValid h .fsMap (some [fd])
      (Or.inl ⟨Or.inl rfl, fd, rfl⟩) hfs herr hrx htx hplan
    exact ⟨r, run_asHandlerResult_of_fault hrun rfl⟩
  · obtain ⟨r, hrun⟩ := run_sendMessage_connect_of_not_isValid h .fsUnmap none hunmap hfs herr
      hrx htx hplan
    exact ⟨r, run_asHandlerResult_of_fault hrun rfl⟩

theorem fsSlaveMap_fsSlaveUnmap_wait_for_unsent_ack_flags4 :
    (MasterReqHandler.handleRequest (S := DefaultMasterBackend)).run
        { MasterReqHandler.new (Sock.ofStream []) DefaultMasterBackend.mk with
          subSock := { Sock.ofStream [] with
            rx := pack (fsMessage .fsUnmap ⟨Vector.replicate 8 0, Vector.replicate 8 0,
              Vector.replicate 8 0, Vector.replicate 8 4⟩) [] } } =
      .error (.err .invalidMessage)
        { MasterReqHandler.new (Sock.ofStream []) DefaultMasterBackend.mk with
          subSock := { Sock.ofStream [] with rx := [] } } ∧
    (∃ r, (fsSlaveMap ⟨Vector.replicate 8 0, Vector.replicate 8 0, Vector.replicate 8 0,
        Vector.replicate 8 4⟩ 3).run
        (new (Link.connect (MasterReqHandler.new (Sock.ofStream []) DefaultMasterBackend.mk))) =
      .error .diverges r) ∧
    (∃ r, (fsSlaveUnmap ⟨Vector.replicate 8 0, Vector.replicate 8 0, Vector.replicate 8 0,
        Vector.replicate 8 4⟩).run
        (new (Link.connect (MasterReqHandler.new (Sock.ofStream []) DefaultMasterBackend.mk))) =
      .error .diverges r) :=
  fsSlaveMap_fsSlaveUnmap_wait_for_unsent_ack (MasterReqHandler.new (Sock.ofStream [])
    DefaultMasterBackend.mk) rfl rfl rfl rfl (by decide) 3

end SlaveFsCacheReq

end Vhost.User
