import Mathlib
import Vhost.User.Request
import Vhost.User.SlaveFrame
import Vhost.User.DummySlave

/-!
# SET_VRING_ADDR

`Master::set_vring_addr` checks the queue index and the flags of the ring
addresses and sends them as a `VhostUserVringAddr`.  The slave reads the body
with `extract_request_body`, whose validator also requires the descriptor table
to be 16-byte aligned, the available ring 2-byte aligned and the used ring
4-byte aligned.  The master does not check the alignments, so a request it
sends and returns `Ok` for can be refused by the slave's own validation, before
the backend is called.
-/

namespace Vhost.User

open ByteStream EStateM

namespace VringConfigData

/-- The alignments the slave's validator requires of the ring addresses. -/
def Aligned (configData : VringConfigData) : Prop :=
  configData.descTableAddr &&& 0xf = 0 ∧ configData.availRingAddr &&& 0x1 = 0 ∧
    configData.usedRingAddr &&& 0x3 = 0

instance : DecidablePred Aligned := fun _ => inferInstanceAs (Decidable (_ ∧ _ ∧ _))

end VringConfigData

/-- With flags the master accepts, the slave's validator checks exactly the
alignments. -/
theorem isValid_fromConfigData (index : UInt32) {configData : VringConfigData}
    (hflags : configData.flags &&& ~~~vhostUserVringAddrFlagsAll = 0) :
    VhostUserMsgValidator.isValid (VhostUserVringAddr.fromConfigData index configData) =
      decide configData.Aligned := by
  rw [Bool.eq_iff_iff, decide_eq_true_iff]
  simp [VhostUserMsgValidator.isValid, VhostUserVringAddr.fromConfigData, hflags,
    VringConfigData.Aligned]

namespace Master

open MasterInternal

/-- What `set_vring_addr` writes. -/
def vringAddrMessage (queueIndex : UInt64) (configData : VringConfigData) : List UInt8 :=
  Pod.toBytes (newRequestHeader .setVringAddr (UInt32.ofNat (Pod.size VhostUserVringAddr))) ++
    Pod.toBytes (VhostUserVringAddr.fromConfigData queueIndex.toUInt32 configData)

/-- `set_vring_addr` with an index below `max_queue_num` and known flags writes
the addresses, whatever their alignment, and returns. -/
theorem run_setVringAddr_ready {m : MasterInternal Sock} (hm : m.Ready) {queueIndex : UInt64}
    (configData : VringConfigData) (hq : queueIndex < m.maxQueueNum)
    (hflags : configData.flags &&& ~~~vhostUserVringAddrFlagsAll = 0) :
    (setVringAddr (E := Sock) queueIndex configData).run m =
      .ok () (m.wrote (vringAddrMessage queueIndex configData) []) := by
  have hsend := run_sendRequestWithBody_ready hm .setVringAddr
    (VhostUserVringAddr.fromConfigData queueIndex.toUInt32 configData) none (by decide)
  simp only [setVringAddr, EStateM.run_bind]
  rw [show (get : Prog (MasterInternal Sock) _).run m = .ok m m from rfl]
  dsimp only
  rw [if_neg (by simp [UInt64.not_le.2 hq, hflags])]
  simp only [EStateM.run_bind, hsend, run_waitForAck_newRequestHeader]
  rfl

end Master

namespace SlaveReqHandler

open MasterInternal Master

variable {S : Type} [VhostUserSlaveReqHandler S]

/-- The slave reads SET_VRING_ADDR as the master wrote it, up to its body check. -/
theorem run_handleRequest_vringAddrMessage (h : SlaveReqHandler S) (queueIndex : UInt64)
    (configData : VringConfigData) (rest : Stream Fd) (herr : h.error = none)
    (hplan : h.mainSock.recvPlan = [])
    (hrx : h.mainSock.rx = pack (vringAddrMessage queueIndex configData) [] ++ rest) :
    (handleRequest (S := S)).run h =
      (dispatchRequest (newRequestHeader .setVringAddr (UInt32.ofNat (Pod.size VhostUserVringAddr)))
        (Pod.toBytes (VhostUserVringAddr.fromConfigData queueIndex.toUInt32 configData)).length
        (Pod.toBytes (VhostUserVringAddr.fromConfigData queueIndex.toUInt32 configData))
        none).run (h.consumed [] rest) :=
  run_handleRequest_message h _ _ [] rest herr hrx hplan
    (isValid_newRequestHeader (by decide) (by decide)) (by simp) (by simp) (Or.inl rfl)

/-- Misaligned ring addresses are refused by the slave's validator: the request
fails with `InvalidMessage` and the backend is not called. -/
theorem run_handleRequest_vringAddrMessage_of_not_aligned (h : SlaveReqHandler S)
    (queueIndex : UInt64) (configData : VringConfigData) (rest : Stream Fd)
    (hflags : configData.flags &&& ~~~vhostUserVringAddrFlagsAll = 0)
    (hbad : ¬ configData.Aligned) (herr : h.error = none) (hplan : h.mainSock.recvPlan = [])
    (hrx : h.mainSock.rx = pack (vringAddrMessage queueIndex configData) [] ++ rest) :
    (handleRequest (S := S)).run h = .error (.err .invalidMessage) (h.consumed [] rest) := by
  rw [run_handleRequest_vringAddrMessage h queueIndex configData rest herr hplan hrx]
  unfold dispatchRequest
  simp only [getCode_newRequestHeader]
  rw [EStateM.run_bind, extractRequestBody,
    run_extractMsgBody_newRequestHeader_of_not_isValid _ _
      (by rw [isValid_fromConfigData _ hflags]; simpa using hbad) (by decide)]

/-- A request the master sends and returns `Ok` for, which the slave's own
validation refuses: ring addresses that are not aligned. -/
theorem setVringAddr_misaligned_refused_by_slave {m : MasterInternal Sock} (hm : m.Ready)
    {queueIndex : UInt64} (configData : VringConfigData) (hq : queueIndex < m.maxQueueNum)
    (hflags : configData.flags &&& ~~~vhostUserVringAddrFlagsAll = 0)
    (hbad : ¬ configData.Aligned) (h : SlaveReqHandler S) (rest : Stream Fd)
    (herr : h.error = none) (hplan : h.mainSock.recvPlan = [])
    (hrx : h.mainSock.rx = pack (vringAddrMessage queueIndex configData) [] ++ rest) :
    (Master.setVringAddr (E := Sock) queueIndex configData).run m =
        .ok () (m.wrote (vringAddrMessage queueIndex configData) []) ∧
      (handleRequest (S := S)).run h = .error (.err .invalidMessage) (h.consumed [] rest) :=
  ⟨run_setVringAddr_ready hm configData hq hflags,
    run_handleRequest_vringAddrMessage_of_not_aligned h queueIndex configData rest hflags hbad herr
      hplan hrx⟩

/-- A descriptor table at address 1. -/
theorem setVringAddr_misaligned_refused_by_slave_desc1 :
    (Master.setVringAddr (E := Sock) 0 ⟨0, 1, 0, 0, none⟩).run
        (MasterInternal.new (Sock.ofStream []) vhostUserMaxVrings) =
        .ok () ((MasterInternal.new (Sock.ofStream []) vhostUserMaxVrings).wrote
          (vringAddrMessage 0 ⟨0, 1, 0, 0, none⟩) []) ∧
      (handleRequest (S := DummySlaveReqHandler)).run
          (new (Sock.ofStream (pack (vringAddrMessage 0 ⟨0, 1, 0, 0, none⟩) []))
            DummySlaveReqHandler.new) =
        .error (.err .invalidMessage)
          ((new (Sock.ofStream (pack (vringAddrMessage 0 ⟨0, 1, 0, 0, none⟩) []))
            DummySlaveReqHandler.new).consumed [] []) :=
  setVringAddr_misaligned_refused_by_slave ⟨rfl, rfl⟩ _ (by decide) (by decide) (by decide) _ []
    rfl rfl (List.append_nil _).symm

end SlaveReqHandler

end Vhost.User
