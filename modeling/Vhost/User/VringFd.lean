import Mathlib
import Vhost.Lib.Flags
import Vhost.User.Request
import Vhost.User.SlaveFrame
import Vhost.User.DummySlave

/-!
# Queue indexes of the vring requests

SET_VRING_CALL, SET_VRING_KICK and SET_VRING_ERR carry a queue index and an
eventfd.  The master writes the index as the whole 64-bit body
(`send_fd_for_vring`); the slave reads bits 0 to 7 as the index and bit 8 as a
flag saying that no descriptor comes (`handle_vring_fd_request`).  The master's
only check is the index against `max_queue_num`.

So the slave hands its backend the index modulo 256 when bit 8 of the index is
clear, and refuses the request, closing the descriptor, when it is set.  The two
agree for the indexes below 256 only, while `get_queue_num` lets
`max_queue_num` reach `VHOST_USER_MAX_VRINGS` (0x8000).

The other per-queue requests carry the index as a 32-bit field, which both sides
read the same way.
-/

namespace Vhost.User

open ByteStream EStateM

/-! ## The slave's decoder -/

namespace SlaveReqHandler

variable {S : Type}

/-- `handle_vring_fd_request` on a body whose bit 8 is clear and one descriptor:
the low byte of the body is the index, and the descriptor comes with it. -/
theorem run_handleVringFdRequest_of_testBit_eq_false (h : SlaveReqHandler S) (value : UInt64)
    (fd : Fd) (hbit : value.toNat.testBit 8 = false) :
    (handleVringFdRequest (S := S) (Pod.toBytes (VhostUserU64.mk value)) (some [fd])).run h =
      .ok (value.toUInt8, some fd) h := by
  have hflag : value &&& 256 = 256 ↔ value.toNat.testBit 8 :=
    Flags.uInt64_and_two_pow_eq_iff value (b := 8) (by norm_num)
  simp [handleVringFdRequest, run_castBuf_toBytes, VhostUserMsgValidator.isValid, hflag, hbit]

/-- With bit 8 set and a descriptor, the slave closes the descriptor and refuses
the request. -/
theorem run_handleVringFdRequest_of_testBit (h : SlaveReqHandler S) (value : UInt64) (fd : Fd)
    (hbit : value.toNat.testBit 8 = true) :
    (handleVringFdRequest (S := S) (Pod.toBytes (VhostUserU64.mk value)) (some [fd])).run h =
      .error (.err .invalidMessage)
        { h with mainSock := { h.mainSock with closed := h.mainSock.closed ++ [fd] } } := by
  have hflag : value &&& 256 = 256 ↔ value.toNat.testBit 8 :=
    Flags.uInt64_and_two_pow_eq_iff value (b := 8) (by norm_num)
  simp [handleVringFdRequest, run_castBuf_toBytes, VhostUserMsgValidator.isValid, hflag, hbit,
    closeRfds, SockLens.os_close]
  rfl

end SlaveReqHandler

/-! ## The master's requests -/

namespace Master

open MasterInternal

/-- What `send_fd_for_vring` writes: a header, then the queue index as the
64-bit body; the descriptor rides on the header. -/
def vringFdMessage (code : MasterReq) (queueIndex : UInt64) : List UInt8 :=
  Pod.toBytes (newRequestHeader code (UInt32.ofNat (Pod.size VhostUserU64))) ++
    Pod.toBytes (VhostUserU64.mk queueIndex)

theorem run_sendFdForVring_ready {m : MasterInternal Sock} (hm : m.Ready) (code : MasterReq)
    {queueIndex : UInt64} (fd : Fd) (hq : queueIndex < m.maxQueueNum) :
    (sendFdForVring (E := Sock) code queueIndex fd).run m =
      .ok (newRequestHeader code (UInt32.ofNat (Pod.size VhostUserU64)))
        (m.wrote (vringFdMessage code queueIndex) [fd]) := by
  have hsend := run_sendMessage_of_sendPlan_nil m
    (newRequestHeader code (UInt32.ofNat (Pod.size VhostUserU64))) (VhostUserU64.mk queueIndex)
    (some [fd]) hm.sendPlan
  simp only [sendFdForVring, EStateM.run_bind]
  rw [show (get : Prog (MasterInternal Sock) _).run m = .ok m m from rfl]
  dsimp only
  rw [if_neg (UInt64.not_le.2 hq)]
  simp only [EStateM.run_bind, run_checkState_ready hm, hsend]
  rfl

/-- `set_vring_call`, `set_vring_kick` or `set_vring_err` with an index below
`max_queue_num` writes the index and the descriptor. -/
theorem run_setVringFd_ready {m : MasterInternal Sock} (hm : m.Ready) (code : MasterReq)
    {queueIndex : UInt64} (fd : Fd) (hq : queueIndex < m.maxQueueNum) :
    (setVringFd (E := Sock) code queueIndex fd).run m =
      .ok () (m.wrote (vringFdMessage code queueIndex) [fd]) := by
  simp only [setVringFd, EStateM.run_bind]
  simp [UInt64.not_le.2 hq, run_sendFdForVring_ready hm code fd hq]

/-- What `set_vring_num` and `set_vring_base` write: a header and the index and
value as two 32-bit fields. -/
def vringStateMessage (code : MasterReq) (queueIndex : UInt64) (value : UInt16) : List UInt8 :=
  Pod.toBytes (newRequestHeader code (UInt32.ofNat (Pod.size VhostUserVringState))) ++
    Pod.toBytes (VhostUserVringState.mk queueIndex.toUInt32 value.toUInt32)

theorem run_setVringState_ready {m : MasterInternal Sock} (hm : m.Ready) (code : MasterReq)
    {queueIndex : UInt64} (value : UInt16) (hq : queueIndex < m.maxQueueNum) :
    (setVringState (E := Sock) code queueIndex value).run m =
      .ok () (m.wrote (vringStateMessage code queueIndex value) []) := by
  have hsend := run_sendRequestWithBody_ready hm code
    (VhostUserVringState.mk queueIndex.toUInt32 value.toUInt32) none (by decide)
  simp only [setVringState, EStateM.run_bind]
  rw [show (get : Prog (MasterInternal Sock) _).run m = .ok m m from rfl]
  dsimp only
  rw [if_neg (UInt64.not_le.2 hq)]
  simp only [EStateM.run_bind, hsend, run_waitForAck_newRequestHeader]
  rfl

end Master

/-! ## The request through the slave -/

namespace SlaveReqHandler

open MasterInternal Master

variable {S : Type} [VhostUserSlaveReqHandler S]

/-- The requests that carry a vring descriptor. -/
def vringFdCodes : List MasterReq := [.setVringCall, .setVringKick, .setVringErr]

/-- The backend call the slave makes for one of them. -/
def vringFdCall (code : MasterReq) (index : UInt8) (fd : Option Fd) : SlaveCall :=
  match code with
  | .setVringKick => .setVringKick index fd
  | .setVringErr => .setVringErr index fd
  | _ => .setVringCall index fd

/-- A message of one of them, with its descriptor, passes the header, descriptor
and size checks of `handle_request` and reaches the dispatch on its code. -/
theorem run_handleRequest_vringFdMessage (h : SlaveReqHandler S) {code : MasterReq}
    (hcode : code ∈ vringFdCodes) (queueIndex : UInt64) (fd : Fd) (rest : Stream Fd)
    (herr : h.error = none) (hplan : h.mainSock.recvPlan = [])
    (hrx : h.mainSock.rx = pack (vringFdMessage code queueIndex) [fd] ++ rest) :
    (handleRequest (S := S)).run h =
      (dispatchRequest (newRequestHeader code (UInt32.ofNat (Pod.size VhostUserU64)))
        (Pod.toBytes (VhostUserU64.mk queueIndex)).length
        (Pod.toBytes (VhostUserU64.mk queueIndex)) (some [fd])).run (h.consumed [fd] rest) := by
  simp only [vringFdCodes, List.mem_cons, List.not_mem_nil, or_false] at hcode
  have hmem : code ∈ fdCodes := by
    rcases hcode with rfl | rfl | rfl <;> decide
  have hvalid : (newRequestHeader code (UInt32.ofNat (Pod.size VhostUserU64))).isValid = some true :=
    isValid_newRequestHeader (by rcases hcode with rfl | rfl | rfl <;> decide) (by decide)
  exact run_handleRequest_message h _ (Pod.toBytes (VhostUserU64.mk queueIndex)) [fd] rest herr hrx
    hplan hvalid (by simp) (by simp [maxAttachedFdEntries])
    (Or.inr ⟨code, hmem, getCode_newRequestHeader _ _⟩)

theorem calls_run_handleRequest_vringFdMessage (h : SlaveReqHandler S) {code : MasterReq}
    (hcode : code ∈ vringFdCodes) (queueIndex : UInt64) (fd : Fd) (rest : Stream Fd)
    (herr : h.error = none) (hplan : h.mainSock.recvPlan = [])
    (hrx : h.mainSock.rx = pack (vringFdMessage code queueIndex) [fd] ++ rest)
    (hbit : queueIndex.toNat.testBit 8 = false) :
    ((handleRequest (S := S)).run h).state.calls =
      h.calls ++ [vringFdCall code queueIndex.toUInt8 (some fd)] := by
  rw [run_handleRequest_vringFdMessage h hcode queueIndex fd rest herr hplan hrx]
  simp only [vringFdCodes, List.mem_cons, List.not_mem_nil, or_false] at hcode
  -- the three arms differ only in the backend method they call
  have hcheck : ∀ h' : SlaveReqHandler S, (checkRequestSize (S := S)
      (newRequestHeader code (UInt32.ofNat (Pod.size VhostUserU64)))
      (Pod.toBytes (VhostUserU64.mk queueIndex)).length (Pod.size VhostUserU64)).run h' = .ok () h' :=
    fun h' => run_checkMsgSize_newRequestHeader code _ h'
  have hdecode : ∀ h' : SlaveReqHandler S, (handleVringFdRequest (S := S)
      (Pod.toBytes (VhostUserU64.mk queueIndex)) (some [fd])).run h' =
        .ok (queueIndex.toUInt8, some fd) h' :=
    fun h' => run_handleVringFdRequest_of_testBit_eq_false h' queueIndex fd hbit
  rcases hcode with rfl | rfl | rfl
  all_goals
    unfold dispatchRequest
    simp only [getCode_newRequestHeader]
    rw [EStateM.run_bind, hcheck]
    dsimp only
    rw [EStateM.run_bind, hdecode]
    exact Keeps.state_run_bind rfl (keeps_sendAckMessage (f := SlaveReqHandler.calls)
      (fun _ _ _ => rfl) _ _)

/-- With bit 8 of the index set, the slave takes the request for one without a
descriptor: it closes the descriptor that came and refuses the request. -/
theorem run_handleRequest_vringFdMessage_of_testBit (h : SlaveReqHandler S) {code : MasterReq}
    (hcode : code ∈ vringFdCodes) (queueIndex : UInt64) (fd : Fd) (rest : Stream Fd)
    (herr : h.error = none) (hplan : h.mainSock.recvPlan = [])
    (hrx : h.mainSock.rx = pack (vringFdMessage code queueIndex) [fd] ++ rest)
    (hbit : queueIndex.toNat.testBit 8 = true) :
    (handleRequest (S := S)).run h =
      .error (.err .invalidMessage)
        { h.consumed [fd] rest with
          mainSock := { (h.consumed [fd] rest).mainSock with
                        closed := h.mainSock.closed ++ [fd] } } := by
  rw [run_handleRequest_vringFdMessage h hcode queueIndex fd rest herr hplan hrx]
  simp only [vringFdCodes, List.mem_cons, List.not_mem_nil, or_false] at hcode
  have hcheck : ∀ h' : SlaveReqHandler S, (checkRequestSize (S := S)
      (newRequestHeader code (UInt32.ofNat (Pod.size VhostUserU64)))
      (Pod.toBytes (VhostUserU64.mk queueIndex)).length (Pod.size VhostUserU64)).run h' = .ok () h' :=
    fun h' => run_checkMsgSize_newRequestHeader code _ h'
  rcases hcode with rfl | rfl | rfl
  all_goals
    unfold dispatchRequest
    simp only [getCode_newRequestHeader]
    rw [EStateM.run_bind, hcheck]
    dsimp only
    rw [EStateM.run_bind, run_handleVringFdRequest_of_testBit _ queueIndex fd hbit]
    rfl

/-- The requests that carry a queue index and a 32-bit value. -/
def vringStateCodes : List MasterReq := [.setVringNum, .setVringBase]

/-- The backend call the slave makes for one of them. -/
def vringStateCall (code : MasterReq) (index num : UInt32) : SlaveCall :=
  match code with
  | .setVringBase => .setVringBase index num
  | _ => .setVringNum index num

/-- Queue 512, which a master whose `max_queue_num` is `VHOST_USER_MAX_VRINGS`
accepts, reaches the slave's backend as queue 0, with the descriptor. -/
theorem setVringCall_queue512_reaches_queue0 {m : MasterInternal Sock} (hm : m.Ready)
    (hmax : m.maxQueueNum = vhostUserMaxVrings) (fd : Fd) (h : SlaveReqHandler S)
    (rest : Stream Fd) (herr : h.error = none) (hplan : h.mainSock.recvPlan = [])
    (hrx : h.mainSock.rx = pack (vringFdMessage .setVringCall 512) [fd] ++ rest) :
    (Master.setVringCall (E := Sock) 512 fd).run m =
        .ok () (m.wrote (vringFdMessage .setVringCall 512) [fd]) ∧
      ((handleRequest (S := S)).run h).state.calls = h.calls ++ [.setVringCall 0 (some fd)] :=
  ⟨run_setVringFd_ready hm .setVringCall fd (by rw [hmax]; decide),
    calls_run_handleRequest_vringFdMessage h (by decide) 512 fd rest herr hplan hrx (by decide)⟩

theorem setVringCall_queue512_reaches_queue0_new :
    (MasterInternal.new (Sock.ofStream []) vhostUserMaxVrings).Ready ∧
      (Master.setVringCall (E := Sock) 512 3).run
          (MasterInternal.new (Sock.ofStream []) vhostUserMaxVrings) =
        .ok () ((MasterInternal.new (Sock.ofStream []) vhostUserMaxVrings).wrote
          (vringFdMessage .setVringCall 512) [3]) ∧
      ((handleRequest (S := DummySlaveReqHandler)).run
          (new (Sock.ofStream (pack (vringFdMessage .setVringCall 512) [3]))
            DummySlaveReqHandler.new)).state.calls = [.setVringCall 0 (some 3)] :=
  ⟨⟨rfl, rfl⟩, setVringCall_queue512_reaches_queue0 ⟨rfl, rfl⟩ rfl 3 _ [] rfl rfl
    (List.append_nil _).symm⟩

end SlaveReqHandler

end Vhost.User
