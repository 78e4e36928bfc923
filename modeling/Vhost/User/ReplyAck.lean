import Mathlib
import Vhost.User.Request
import Vhost.User.VringFd
import Vhost.User.DummySlave
import Vhost.User.Session

/-!
# Acknowledgements nobody reads

Once REPLY_ACK is negotiated the slave's `reply_ack_enabled` is on, and
`send_ack_message` answers every set-type request with a `VhostUserU64` reply,
whether or not the request asked for one.  The master reads an ack only for a
request whose header has NEED_REPLY, and `new_request_header` never sets it:
`wait_for_ack` returns at once.

So after a set-type request the slave's reply stays in the slave-to-master
stream, and the master's next reply read takes it for the answer to a later
request.  `recv_reply` then finds the wrong code and fails with
`InvalidMessage`.
-/

namespace Vhost.User

open ByteStream EStateM

/-- The header of the slave's ack to a request with code `code`. -/
def ackHeader (code : MasterReq) : VhostUserMsgHeader MasterReq :=
  VhostUserMsgHeader.new code VhostUserHeaderFlag.reply (UInt32.ofNat (Pod.size VhostUserU64 + 0))

/-- The value an ack carries: 0 for success, 1 for failure. -/
def ackValue (res : Except Error Unit) : UInt64 :=
  match res with
  | .ok _ => 0
  | .error _ => 1

/-- The ack the slave writes for a request with code `code` that ended in `res`. -/
def ackMessage (code : MasterReq) (res : Except Error Unit) : List UInt8 :=
  Pod.toBytes (ackHeader code) ++ Pod.toBytes (VhostUserU64.mk (ackValue res))

@[simp]
theorem getCode_ackHeader (code : MasterReq) : (ackHeader code).getCode = some code := by
  simp [ackHeader, VhostUserMsgHeader.new, VhostUserMsgHeader.getCode]

theorem isReply_ackHeader (code : MasterReq) : (ackHeader code).isReply = true := by
  simp only [ackHeader, VhostUserMsgHeader.new, VhostUserMsgHeader.isReply,
    VhostUserHeaderFlag.reply, VhostUserHeaderFlag.allFlags]
  decide

/-- An ack to a request is a valid header. -/
theorem isValid_ackHeader {code : MasterReq} (hcode : Req.isValid code) :
    (ackHeader code).isValid = some true := by
  have hflags : (ackHeader code).flags &&& VhostUserHeaderFlag.reservedBits = 0 := by
    simp only [ackHeader, VhostUserMsgHeader.new, VhostUserHeaderFlag.reservedBits,
      VhostUserHeaderFlag.reply, VhostUserHeaderFlag.allFlags]
    decide
  have hversion : (ackHeader code).getVersion = 0x1 := by
    simp only [ackHeader, VhostUserMsgHeader.new, VhostUserMsgHeader.getVersion,
      VhostUserHeaderFlag.reply, VhostUserHeaderFlag.allFlags]
    decide
  have hsize : ¬ (ackHeader code).size.toNat > maxMsgSize := by
    show ¬ (UInt32.ofNat (8 + 0)).toNat > 0x1000
    decide
  rw [VhostUserMsgHeader.isValid, getCode_ackHeader]
  simp [hcode, hflags, hversion, hsize]

/-! ## The slave writes the ack -/

namespace SlaveReqHandler

open MasterInternal Master

variable {S : Type}

/-- With acks on, `send_ack_message` writes the ack, whatever the request asked. -/
theorem run_sendAckMessage_of_replyAckEnabled (h : SlaveReqHandler S)
    {req : VhostUserMsgHeader MasterReq} {code : MasterReq} (hcode : req.getCode = some code)
    (res : Except Error Unit) (hack : h.replyAckEnabled = true) (herr : h.error = none)
    (hplan : h.mainSock.sendPlan = []) :
    (sendAckMessage (S := S) req res).run h =
      .ok () { h with mainSock := h.mainSock.afterSend (ackMessage code res) [] } := by
  have hsend := run_sendMessage_of_sendPlan_nil h (ackHeader code) (VhostUserU64.mk (ackValue res))
    none hplan
  simp only [sendAckMessage, EStateM.run_bind]
  rw [show (get : Prog (SlaveReqHandler S) _).run h = .ok h h from rfl]
  dsimp only
  rw [if_pos hack, EStateM.run_bind]
  simp only [newReplyHeader]
  rw [if_neg (by decide), EStateM.run_bind, run_checkState_of_error_none h herr]
  dsimp only
  rw [hcode]
  -- the value of the ack is a match on the result, as `ackValue` is
  cases res <;> exact hsend

theorem tx_run_sendAckMessage_of_replyAckEnabled (h : SlaveReqHandler S)
    {req : VhostUserMsgHeader MasterReq} {code : MasterReq} (hcode : req.getCode = some code)
    (res : Except Error Unit) (hack : h.replyAckEnabled = true) (herr : h.error = none)
    (hplan : h.mainSock.sendPlan = []) :
    ((sendAckMessage (S := S) req res).run h).state.mainSock.tx =
      h.mainSock.tx ++ pack (ackMessage code res) [] := by
  rw [run_sendAckMessage_of_replyAckEnabled h hcode res hack herr hplan]
  rfl

variable [VhostUserSlaveReqHandler S]

/-- SET_VRING_NUM as the master writes it, to a slave with acks on: the slave
writes an ack to it. -/
theorem tx_run_handleRequest_setVringNum (h : SlaveReqHandler S) (queueIndex : UInt64)
    (num : UInt16) (rest : Stream Fd) (herr : h.error = none) (hplan : h.mainSock.recvPlan = [])
    (hsplan : h.mainSock.sendPlan = []) (hack : h.replyAckEnabled = true)
    (hrx : h.mainSock.rx = pack (vringStateMessage .setVringNum queueIndex num) [] ++ rest) :
    ((handleRequest (S := S)).run h).state.mainSock.tx =
      h.mainSock.tx ++ pack (ackMessage .setVringNum
        (VhostUserSlaveReqHandler.setVringNum queueIndex.toUInt32 num.toUInt32 h.backend).1) [] := by
  have hvalid : (newRequestHeader .setVringNum
      (UInt32.ofNat (Pod.size VhostUserVringState))).isValid = some true :=
    isValid_newRequestHeader (by decide) (by decide)
  rw [run_handleRequest_message h _ _ [] rest herr hrx hplan hvalid (by simp) (by simp)
    (Or.inl rfl)]
  unfold dispatchRequest
  simp only [getCode_newRequestHeader]
  rw [EStateM.run_bind, extractRequestBody,
    run_extractMsgBody_newRequestHeader _ _ rfl (by decide)]
  dsimp only
  rw [EStateM.run_bind, run_callBackend]
  dsimp only
  exact tx_run_sendAckMessage_of_replyAckEnabled _ (getCode_newRequestHeader _ _) _ hack herr hsplan

end SlaveReqHandler

/-! ## The master takes it for a later reply -/

namespace MasterInternal

/-- The master once the bytes `data` its peer wrote have reached its socket. -/
def deliver (m : MasterInternal Sock) (data : List UInt8) : MasterInternal Sock :=
  { m with mainSock := { m.mainSock with rx := m.mainSock.rx ++ pack data [] } }

/-- `recv_reply` on a stream that starts with a reply to another request: the
reply is read and refused. -/
theorem run_recvReply_of_other_reply {m : MasterInternal Sock} (hm : m.Ready)
    (hplan : m.mainSock.recvPlan = []) (hdr : VhostUserMsgHeader MasterReq)
    (hreq : hdr.isReply = false) {code : MasterReq} (hget : hdr.getCode = some code)
    (reply : VhostUserMsgHeader MasterReq) (hvalid : reply.isValid = some true)
    (hisReply : reply.isReply = true) {other : MasterReq} (hother : reply.getCode = some other)
    (hne : other ≠ code) (value : UInt64) (rest : Stream Fd)
    (hrx : m.mainSock.rx = pack (Pod.toBytes reply ++ Pod.toBytes (VhostUserU64.mk value)) [] ++ rest) :
    (recvReply (E := Sock) VhostUserU64 hdr).run m =
      .error (.err .invalidMessage)
        { m with mainSock := { m.mainSock with rx := rest, received := m.mainSock.received ++ [] } } := by
  have hbody := run_recvBody_message m reply (VhostUserU64.mk value) [] rest hrx hplan hvalid rfl
    (by simp)
  have hfor : reply.isReplyFor hdr = some false := by
    simp [VhostUserMsgHeader.isReplyFor, hisReply, hreq, hother, hget, hne]
  simp only [recvReply, Pod.size_vhostUserU64, maxMsgSize, hreq]
  rw [if_neg (by decide), EStateM.run_bind, run_checkState_ready hm]
  dsimp only
  rw [EStateM.run_bind, hbody]
  simp [replyFor, hfor, closeRfds]
  rfl

/-- So `get_features` after an unread ack fails: the ack is read as its reply. -/
theorem run_getFeatures_of_ack {m : MasterInternal Sock} (hm : m.Ready)
    (hplan : m.mainSock.recvPlan = []) {code : MasterReq} (hcode : Req.isValid code)
    (hne : code ≠ .getFeatures) (res : Except Error Unit) (rest : Stream Fd)
    (hrx : m.mainSock.rx = pack (ackMessage code res) [] ++ rest) :
    ∃ m', (Master.getFeatures (E := Sock)).run m = .error (.err .invalidMessage) m' := by
  have hsend := run_sendRequestHeader_ready hm .getFeatures none
  -- the request is written, and its reply read is the ack
  have hrecv := run_recvReply_of_other_reply (hm.wrote (Pod.toBytes (newRequestHeader .getFeatures 0)) [])
    hplan (newRequestHeader .getFeatures 0) (isReply_newRequestHeader _ _)
    (getCode_newRequestHeader _ _) (ackHeader code) (isValid_ackHeader hcode) (isReply_ackHeader code)
    (getCode_ackHeader code) hne (ackValue res) rest hrx
  simp only [Master.getFeatures, EStateM.run_bind, hsend]
  rw [show (none : Option (List Fd)).getD [] = [] from rfl, hrecv]
  exact ⟨_, rfl⟩

end MasterInternal

namespace SlaveReqHandler

open MasterInternal Master

variable {S : Type} [VhostUserSlaveReqHandler S]

/-- With acks on at the slave, SET_VRING_NUM returns on the master without
reading anything, the slave writes an ack to it all the same, and once that ack
reaches the master its next GET_FEATURES reads the ack as its reply and fails. -/
theorem setVringNum_ack_read_by_next_getFeatures {m : MasterInternal Sock} (hm : m.Ready)
    (hmplan : m.mainSock.recvPlan = []) (hmrx : m.mainSock.rx = []) {queueIndex : UInt64}
    (num : UInt16) (hq : queueIndex < m.maxQueueNum) (h : SlaveReqHandler S) (rest : Stream Fd)
    (herr : h.error = none) (hplan : h.mainSock.recvPlan = [])
    (hsplan : h.mainSock.sendPlan = []) (hack : h.replyAckEnabled = true)
    (hrx : h.mainSock.rx = pack (vringStateMessage .setVringNum queueIndex num) [] ++ rest) :
    (Master.setVringNum (E := Sock) queueIndex num).run m =
        .ok () (m.wrote (vringStateMessage .setVringNum queueIndex num) []) ∧
      ((handleRequest (S := S)).run h).state.mainSock.tx =
        h.mainSock.tx ++ pack (ackMessage .setVringNum
          (VhostUserSlaveReqHandler.setVringNum queueIndex.toUInt32 num.toUInt32 h.backend).1) [] ∧
      ∃ m', (Master.getFeatures (E := Sock)).run
          ((m.wrote (vringStateMessage .setVringNum queueIndex num) []).deliver
            (ackMessage .setVringNum
              (VhostUserSlaveReqHandler.setVringNum queueIndex.toUInt32 num.toUInt32 h.backend).1)) =
        .error (.err .invalidMessage) m' := by
  refine ⟨run_setVringState_ready hm .setVringNum num hq,
    tx_run_handleRequest_setVringNum h queueIndex num rest herr hplan hsplan hack hrx, ?_⟩
  -- the master's socket held nothing, so the ack is the first thing it reads
  exact run_getFeatures_of_ack ⟨hm.error, hm.sendPlan⟩ hmplan
    (show Req.isValid MasterReq.setVringNum by decide)
    (show MasterReq.setVringNum ≠ .getFeatures by decide)
    (VhostUserSlaveReqHandler.setVringNum queueIndex.toUInt32 num.toUInt32 h.backend).1 []
    (by simp [deliver, wrote, Sock.afterSend, hmrx])

/-- A dummy slave that negotiated REPLY_ACK through its own `handle_request`,
in a session of `set_owner`, `get_features`, `set_features`,
`get_protocol_features` and `set_protocol_features` and a round of its loop,
with `set_vring_num(0, 256)` waiting for it; on the master's side, the master of
that session with its features, on a socket with nothing to read. -/
theorem setVringNum_ack_read_by_next_getFeatures_negotiated :
    let session := [MasterOp.setOwner, .getFeatures, .setFeatures protocolFeaturesBit,
        .getProtocolFeatures, .setProtocolFeatures VhostUserProtocolFeatures.replyAck].foldl
      (fun m op => ((op.run (E := Link (SlaveReqHandler DummySlaveReqHandler))).run m).state)
      (MasterInternal.new (Link.connect (new (Sock.ofStream []) DummySlaveReqHandler.new)) 2)
    let h := (((MasterOp.setVringNum 0 256).run (E := Link (SlaveReqHandler DummySlaveReqHandler))).run
      { session with mainSock := Link.serveRound session.mainSock }).state.mainSock.peer
    let m : MasterInternal Sock :=
      { MasterInternal.new (Sock.ofStream []) vhostUserMaxVrings with
        virtioFeatures := session.virtioFeatures, ackedVirtioFeatures := session.ackedVirtioFeatures,
        protocolFeatures := session.protocolFeatures,
        ackedProtocolFeatures := session.ackedProtocolFeatures,
        protocolFeaturesReady := session.protocolFeaturesReady }
    (Master.setVringNum (E := Sock) 0 256).run m =
        .ok () (m.wrote (vringStateMessage .setVringNum 0 256) []) ∧
      ((handleRequest (S := DummySlaveReqHandler)).run h).state.mainSock.tx =
        h.mainSock.tx ++ pack (ackMessage .setVringNum
          (VhostUserSlaveReqHandler.setVringNum (0 : UInt64).toUInt32 (256 : UInt16).toUInt32
            h.backend).1) [] ∧
      ∃ m', (Master.getFeatures (E := Sock)).run
          ((m.wrote (vringStateMessage .setVringNum 0 256) []).deliver
            (ackMessage .setVringNum
              (VhostUserSlaveReqHandler.setVringNum (0 : UInt64).toUInt32 (256 : UInt16).toUInt32
                h.backend).1)) =
        .error (.err .invalidMessage) m' :=
  setVringNum_ack_read_by_next_getFeatures ⟨rfl, rfl⟩ rfl rfl 256 (by decide) _ []
    (by decide +kernel) (by decide +kernel) (by decide +kernel) (by decide +kernel)
    (by decide +kernel)

end SlaveReqHandler

end Vhost.User
