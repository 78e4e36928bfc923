import Mathlib
import Vhost.User.Transfer
import Vhost.User.Master
import Vhost.User.SlaveReqHandler
import Vhost.User.Header

/-!
# The two ends of one request

What the master writes for one request on a socket that takes every write
whole, and what the slave handler does with a stream that starts with one whole
request: it reads the header and the body and dispatches on the code, as if it
had been handed them.  The round trips of single requests are proved by
composing the two, the bytes one side wrote being the bytes the other reads.
-/

namespace Vhost.User

open ByteStream

/-! ## Request headers -/

@[simp]
theorem MasterReq.ofU32?_toU32 (code : MasterReq) : Req.ofU32? (Req.toU32 code) = some code := by
  cases code <;> rfl

theorem run_castBuf_toBytes {σ T : Type} [Pod T] (value : T) (s : σ) :
    (castBuf (σ := σ) (Pod.toBytes value)).run s = .ok value s := by
  simp [castBuf]

/-- The body check of either handler, on a request of version 1 whose header
states the size of a `T` and whose body is the bytes of one: the validator
alone decides. -/
theorem run_extractMsgBody_toBytes {σ R T : Type} [Req R] [Pod T] [VhostUserMsgValidator T]
    {hdr : VhostUserMsgHeader R} (value : T) (hsize : hdr.getSize.toNat = Pod.size T)
    (hreply : hdr.isReply = false) (hversion : hdr.getVersion = 0x1) (s : σ) :
    (extractMsgBody (σ := σ) T hdr (Pod.toBytes value).length (Pod.toBytes value)).run s =
      if VhostUserMsgValidator.isValid value then .ok value s
      else .error (.err .invalidMessage) s := by
  have hcheck : (checkMsgSize (σ := σ) hdr (Pod.toBytes value).length (Pod.size T)).run s =
      .ok () s := by
    simp [checkMsgSize, hsize, hreply, hversion]
  simp only [extractMsgBody, EStateM.run_bind, hcheck, run_castBuf_toBytes]
  cases VhostUserMsgValidator.isValid value <;> rfl

namespace MasterInternal

@[simp]
theorem getCode_newRequestHeader (code : MasterReq) (size : UInt32) :
    (newRequestHeader code size).getCode = some code := by
  simp [newRequestHeader, VhostUserMsgHeader.new, VhostUserMsgHeader.getCode]

@[simp]
theorem getSize_newRequestHeader (code : MasterReq) (size : UInt32) :
    (newRequestHeader code size).getSize = size := rfl

@[simp]
theorem isReply_newRequestHeader (code : MasterReq) (size : UInt32) :
    (newRequestHeader code size).isReply = false := by
  simp only [newRequestHeader, VhostUserMsgHeader.new, VhostUserMsgHeader.isReply]
  decide

@[simp]
theorem getVersion_newRequestHeader (code : MasterReq) (size : UInt32) :
    (newRequestHeader code size).getVersion = 0x1 := by
  simp only [newRequestHeader, VhostUserMsgHeader.new, VhostUserMsgHeader.getVersion]
  decide

/-- A request the master builds passes the header check when its code is a
request and its body fits. -/
theorem isValid_newRequestHeader {code : MasterReq} {size : UInt32} (hcode : Req.isValid code)
    (hsize : size.toNat ≤ maxMsgSize) : (newRequestHeader code size).isValid = some true := by
  rw [newRequestHeader, VhostUserMsgHeader.isValid_new]
  simp [hcode, hsize]

/-- The size check of either handler passes on a request the master built, with
a body of the size its header states. -/
theorem run_checkMsgSize_newRequestHeader {σ : Type} (code : MasterReq) (size : UInt32) (s : σ) :
    (checkMsgSize (σ := σ) (newRequestHeader code size) size.toNat size.toNat).run s =
      .ok () s := by
  simp [checkMsgSize]

/-- The same check, with the body's length written another way. -/
theorem run_checkMsgSize_of_toNat_eq {σ : Type} {code : MasterReq} {size : UInt32} {n : Nat}
    (hn : size.toNat = n) (s : σ) :
    (checkMsgSize (σ := σ) (newRequestHeader code size) n n).run s = .ok () s := by
  subst hn
  exact run_checkMsgSize_newRequestHeader code size s

/-- The body check of either handler passes on a valid body of a request the
master built for it. -/
theorem run_extractMsgBody_newRequestHeader {σ T : Type} [Pod T] [VhostUserMsgValidator T]
    (code : MasterReq) (value : T) (hvalid : VhostUserMsgValidator.isValid value = true)
    (hsize : Pod.size T < 2 ^ 32) (s : σ) :
    (extractMsgBody (σ := σ) T (newRequestHeader code (UInt32.ofNat (Pod.size T)))
      (Pod.toBytes value).length (Pod.toBytes value)).run s = .ok value s := by
  have hget : (newRequestHeader code (UInt32.ofNat (Pod.size T))).getSize.toNat = Pod.size T :=
    UInt32.toNat_ofNat_of_lt' hsize
  rw [run_extractMsgBody_toBytes value hget (isReply_newRequestHeader _ _)
    (getVersion_newRequestHeader _ _), if_pos hvalid]

/-- And refuses a body that its validator rejects. -/
theorem run_extractMsgBody_newRequestHeader_of_not_isValid {σ T : Type} [Pod T]
    [VhostUserMsgValidator T] (code : MasterReq) (value : T)
    (hvalid : VhostUserMsgValidator.isValid value = false) (hsize : Pod.size T < 2 ^ 32) (s : σ) :
    (extractMsgBody (σ := σ) T (newRequestHeader code (UInt32.ofNat (Pod.size T)))
      (Pod.toBytes value).length (Pod.toBytes value)).run s = .error (.err .invalidMessage) s := by
  have hget : (newRequestHeader code (UInt32.ofNat (Pod.size T))).getSize.toNat = Pod.size T :=
    UInt32.toNat_ofNat_of_lt' hsize
  rw [run_extractMsgBody_toBytes value hget (isReply_newRequestHeader _ _)
    (getVersion_newRequestHeader _ _), hvalid]
  rfl

end MasterInternal

/-! ## The master's side -/

namespace MasterInternal

/-- A master that can send: not marked failed, on a socket that takes every
write whole. -/
structure Ready (m : MasterInternal Sock) : Prop where
  error : m.error = none
  sendPlan : m.mainSock.sendPlan = []

/-- The master after writing `data` with the descriptors `fds`. -/
def wrote (m : MasterInternal Sock) (data : List UInt8) (fds : List Fd) : MasterInternal Sock :=
  { m with mainSock := m.mainSock.afterSend data fds }

@[simp]
theorem error_wrote (m : MasterInternal Sock) (data : List UInt8) (fds : List Fd) :
    (m.wrote data fds).error = m.error := rfl

@[simp]
theorem maxQueueNum_wrote (m : MasterInternal Sock) (data : List UInt8) (fds : List Fd) :
    (m.wrote data fds).maxQueueNum = m.maxQueueNum := rfl

@[simp]
theorem ackedProtocolFeatures_wrote (m : MasterInternal Sock) (data : List UInt8)
    (fds : List Fd) : (m.wrote data fds).ackedProtocolFeatures = m.ackedProtocolFeatures := rfl

theorem Ready.wrote {m : MasterInternal Sock} (hm : m.Ready) (data : List UInt8) (fds : List Fd) :
    (m.wrote data fds).Ready :=
  ⟨hm.error, hm.sendPlan⟩

theorem run_checkState_ready {m : MasterInternal Sock} (hm : m.Ready) :
    (checkState (E := Sock)).run m = .ok () m := by
  simp [checkState, checkFailed, hm.error]

/-- `new_request_header` never asks for a reply. -/
@[simp]
theorem isNeedReply_newRequestHeader (request : MasterReq) (size : UInt32) :
    (newRequestHeader request size).isNeedReply = false := by
  simp only [newRequestHeader, VhostUserMsgHeader.new, VhostUserMsgHeader.isNeedReply,
    VhostUserHeaderFlag.needReply, VhostUserHeaderFlag.allFlags]
  decide

/-- So `wait_for_ack` on the header of a request the master built returns at
once, having read nothing. -/
theorem run_waitForAck_newRequestHeader (request : MasterReq) (size : UInt32)
    (m : MasterInternal Sock) :
    (waitForAck (E := Sock) (newRequestHeader request size)).run m = .ok () m := by
  simp [waitForAck]

theorem run_sendRequestHeader_ready {m : MasterInternal Sock} (hm : m.Ready) (code : MasterReq)
    (fds : Option (List Fd)) :
    (sendRequestHeader (E := Sock) code fds).run m =
      .ok (newRequestHeader code 0) (m.wrote (Pod.toBytes (newRequestHeader code 0))
        (fds.getD [])) := by
  simp only [sendRequestHeader, EStateM.run_bind, run_checkState_ready hm]
  rw [run_sendHeader_of_sendPlan_nil m _ fds hm.sendPlan]
  rfl

theorem run_sendRequestWithBody_ready {T : Type} [Pod T] {m : MasterInternal Sock} (hm : m.Ready)
    (code : MasterReq) (msg : T) (fds : Option (List Fd)) (hsize : Pod.size T ≤ maxMsgSize) :
    (sendRequestWithBody (E := Sock) code msg fds).run m =
      .ok (newRequestHeader code (UInt32.ofNat (Pod.size T)))
        (m.wrote (Pod.toBytes (newRequestHeader code (UInt32.ofNat (Pod.size T))) ++
          Pod.toBytes msg) (fds.getD [])) := by
  simp only [sendRequestWithBody, if_neg (Nat.not_lt.2 hsize), EStateM.run_bind,
    run_checkState_ready hm]
  rw [run_sendMessage_of_sendPlan_nil m _ msg fds hm.sendPlan]
  rfl

/-- `send_request_with_payload` within the size and descriptor limits. -/
theorem run_sendRequestWithPayload_ready {T P : Type} [Pod T] [Pod P] {m : MasterInternal Sock}
    (hm : m.Ready) (code : MasterReq) (msg : T) (payload : List P) (fds : Option (List Fd))
    (hsize : Pod.size T + payload.length * Pod.size P ≤ maxMsgSize)
    (hfds : ∀ fdArr, fds = some fdArr → fdArr.length ≤ maxAttachedFdEntries) :
    (sendRequestWithPayload (E := Sock) code msg payload fds).run m =
      .ok (newRequestHeader code (UInt32.ofNat (Pod.size T + payload.length * Pod.size P)))
        (m.wrote (Pod.toBytes (newRequestHeader code
            (UInt32.ofNat (Pod.size T + payload.length * Pod.size P))) ++
          Pod.toBytes msg ++ Pod.listBytes payload) (fds.getD [])) := by
  have hsend := run_sendMessageWithPayload_of_sendPlan_nil m
    (newRequestHeader code (UInt32.ofNat (Pod.size T + payload.length * Pod.size P))) msg payload
    fds (by omega) hfds hm.sendPlan
  -- the descriptor limit is a match on `fds` before the send
  cases fds with
  | none =>
      simp only [sendRequestWithPayload, if_neg (Nat.not_lt.2 hsize), EStateM.run_bind,
        run_checkState_ready hm, hsend]
      rfl
  | some fdArr =>
      simp only [sendRequestWithPayload, if_neg (Nat.not_lt.2 hsize),
        if_neg (Nat.not_lt.2 (hfds fdArr rfl)), EStateM.run_bind, run_checkState_ready hm, hsend]
      rfl

end MasterInternal

/-! ## The slave's side -/

namespace SlaveReqHandler

variable {S : Type}

theorem run_checkState_of_error_none (h : SlaveReqHandler S) (herr : h.error = none) :
    (checkState (S := S)).run h = .ok () h := by
  simp [checkState, checkFailed, herr]

/-- The codes whose requests may carry descriptors (`check_attached_rfds`). -/
def fdCodes : List MasterReq :=
  [.setMemTable, .setVringCall, .setVringKick, .setVringErr, .setLogBase, .setLogFd,
    .setSlaveReqFd, .setInflightFd]

theorem run_checkAttachedRfds_of_mem (h : SlaveReqHandler S) (hdr : VhostUserMsgHeader MasterReq)
    (rfds : Option (List Fd)) {code : MasterReq} (hcode : hdr.getCode = some code)
    (hmem : code ∈ fdCodes) :
    (checkAttachedRfds (S := S) hdr rfds).run h = .ok rfds h := by
  simp only [fdCodes, List.mem_cons, List.not_mem_nil, or_false] at hmem
  unfold checkAttachedRfds
  rcases hmem with rfl | rfl | rfl | rfl | rfl | rfl | rfl | rfl <;> rw [hcode] <;> rfl

theorem run_checkAttachedRfds_none (h : SlaveReqHandler S) (hdr : VhostUserMsgHeader MasterReq) :
    (checkAttachedRfds (S := S) hdr none).run h = .ok none h := by
  unfold checkAttachedRfds
  split <;> rfl

/-- A backend call returns what the method returns, and records the call. -/
theorem run_callBackend {α : Type} (call : SlaveCall) (method : S → Except Error α × S)
    (h : SlaveReqHandler S) :
    (callBackend call method).run h =
      .ok (method h.backend).1
        { h with backend := (method h.backend).2, calls := h.calls ++ [call] } := rfl

variable [VhostUserSlaveReqHandler S]

/-- The slave after reading a request whose `fds` came with its header, with
`rest` behind it. -/
def consumed (h : SlaveReqHandler S) (fds : List Fd) (rest : Stream Fd) : SlaveReqHandler S :=
  { h with mainSock := { h.mainSock with rx := rest, received := h.mainSock.received ++ fds } }

/-- `handle_request` on a stream that starts with one whole request, whose
descriptors it may keep: it dispatches on the header and the body as read. -/
theorem run_handleRequest_message (h : SlaveReqHandler S) (hdr : VhostUserMsgHeader MasterReq)
    (body : List UInt8) (fds : List Fd) (rest : Stream Fd) (herr : h.error = none)
    (hrx : h.mainSock.rx = pack (Pod.toBytes hdr ++ body) fds ++ rest)
    (hplan : h.mainSock.recvPlan = []) (hvalid : hdr.isValid = some true)
    (hsize : hdr.getSize.toNat = body.length) (hfds : fds.length ≤ maxAttachedFdEntries)
    (hkeep : fds = [] ∨ ∃ code ∈ fdCodes, hdr.getCode = some code) :
    (handleRequest (S := S)).run h =
      (dispatchRequest hdr body.length body (if fds.isEmpty then none else some fds)).run
        (h.consumed fds rest) := by
  have hheader := run_recvHeader_message h hdr body fds rest hrx hplan hvalid hfds
  have hcheck : ∀ h' : SlaveReqHandler S,
      (checkAttachedRfds hdr (if fds.isEmpty then none else some fds)).run h' =
        .ok (if fds.isEmpty then none else some fds) h' := by
    intro h'
    rcases hkeep with rfl | ⟨code, hmem, hcode⟩
    · exact run_checkAttachedRfds_none h' hdr
    · exact run_checkAttachedRfds_of_mem h' hdr _ hcode hmem
  simp only [handleRequest, EStateM.run_bind, run_checkState_of_error_none h herr, hheader, hcheck]
  rw [run_readRequestBody_message _ hdr body rest (by simp) (by simp; exact hplan) hsize]
  rfl

end SlaveReqHandler

end Vhost.User
