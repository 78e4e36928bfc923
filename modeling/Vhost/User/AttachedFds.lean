import Mathlib
import Vhost.User.Request
import Vhost.User.DummySlave

/-!
# Descriptors that come with a request

The slave reads a request's descriptors with its header, and
`check_attached_rfds` decides at once, before the body is read: eight codes may
carry descriptors and keep them, every other code that carries some has them
closed and is refused.

Two consequences follow for streams the master did not write as expected.  A
refused request leaves its body in the stream, so the next read starts inside
it, although `InvalidMessage` does not ask for a reconnect.  And three of the
eight codes (SET_LOG_BASE, SET_LOG_FD, SET_INFLIGHT_FD) have no arm in
`handle_request`: their descriptors are kept, the request is refused, and the
descriptors are neither handed to the backend nor closed.
-/

namespace Vhost.User

open ByteStream EStateM

namespace SlaveReqHandler

open MasterInternal

variable {S : Type}

/-- `check_attached_rfds` on a code outside the eight, with descriptors: they
are closed and the request refused. -/
theorem run_checkAttachedRfds_of_not_mem (h : SlaveReqHandler S)
    (hdr : VhostUserMsgHeader MasterReq) (fds : List Fd)
    (hcode : ∀ c ∈ fdCodes, hdr.getCode ≠ some c) :
    (checkAttachedRfds (S := S) hdr (some fds)).run h =
      .error (.err .invalidMessage)
        { h with mainSock := { h.mainSock with closed := h.mainSock.closed ++ fds } } := by
  unfold checkAttachedRfds
  split
  -- the eight codes that keep descriptors contradict `hcode`
  iterate 8 exact absurd ‹_› (hcode _ (by decide))
  simp only [Option.isSome_some, if_true, EStateM.run_bind, run_closeRfds_some]
  rfl

variable [VhostUserSlaveReqHandler S]

/-- A request whose code may not carry descriptors, arriving with some: the
slave reads the header, closes the descriptors and refuses the request, and
the body stays in the stream.  `InvalidMessage` does not ask for a reconnect,
so the next request is read from the body's first byte. -/
theorem handleRequest_refuses_fds_before_body (h : SlaveReqHandler S)
    (hdr : VhostUserMsgHeader MasterReq) (body : List UInt8) (fds : List Fd) (rest : Stream Fd)
    (herr : h.error = none) (hplan : h.mainSock.recvPlan = [])
    (hrx : h.mainSock.rx = pack (Pod.toBytes hdr ++ body) fds ++ rest)
    (hvalid : hdr.isValid = some true) (hfds : fds ≠ [])
    (hlen : fds.length ≤ maxAttachedFdEntries) (hcode : ∀ c ∈ fdCodes, hdr.getCode ≠ some c) :
    (handleRequest (S := S)).run h =
        .error (.err .invalidMessage)
          { h with mainSock := { h.mainSock with rx := pack body [] ++ rest,
                                                 received := h.mainSock.received ++ fds,
                                                 closed := h.mainSock.closed ++ fds } } ∧
      Error.invalidMessage.shouldReconnect = false := by
  refine ⟨?_, rfl⟩
  have hheader := run_recvHeader_message h hdr body fds rest hrx hplan hvalid hlen
  have hsome : (if fds.isEmpty then none else some fds) = some fds := by simp [hfds]
  rw [hsome] at hheader
  simp only [handleRequest, EStateM.run_bind, run_checkState_of_error_none h herr, hheader,
    run_checkAttachedRfds_of_not_mem _ hdr fds hcode]
  rfl

theorem handleRequest_refuses_fds_before_body_setFeatures :
    (handleRequest (S := DummySlaveReqHandler)).run
        (new (Sock.ofStream (pack (Pod.toBytes (newRequestHeader .setFeatures 8) ++
          Pod.toBytes (VhostUserU64.mk 0)) [3])) DummySlaveReqHandler.new) =
        .error (.err .invalidMessage)
          { new (Sock.ofStream (pack (Pod.toBytes (newRequestHeader .setFeatures 8) ++
              Pod.toBytes (VhostUserU64.mk 0)) [3])) DummySlaveReqHandler.new with
            mainSock := { Sock.ofStream (pack (Pod.toBytes (newRequestHeader .setFeatures 8) ++
                Pod.toBytes (VhostUserU64.mk 0)) [3]) with
              rx := pack (Pod.toBytes (VhostUserU64.mk 0)) [] ++ [],
              received := [] ++ [3], closed := [] ++ [3] } } ∧
      Error.invalidMessage.shouldReconnect = false :=
  handleRequest_refuses_fds_before_body _ _ _ [3] [] rfl rfl (List.append_nil _).symm
    (isValid_newRequestHeader (by decide) (by decide)) (by decide) (by decide)
    (by simp [fdCodes])

/-- The codes that may carry descriptors but have no arm in `handle_request`. -/
def unhandledFdCodes : List MasterReq := [.setLogBase, .setLogFd, .setInflightFd]

/-- SET_LOG_BASE, SET_LOG_FD and SET_INFLIGHT_FD with their descriptors: the
descriptors are received and kept past `check_attached_rfds`, the request is
refused, and nothing closes them or hands them to the backend. -/
theorem handleRequest_keeps_fds_of_unhandled_code (h : SlaveReqHandler S) {code : MasterReq}
    (hcode : code ∈ unhandledFdCodes) (hdr : VhostUserMsgHeader MasterReq)
    (hget : hdr.getCode = some code) (body : List UInt8) (fds : List Fd) (rest : Stream Fd)
    (herr : h.error = none) (hplan : h.mainSock.recvPlan = [])
    (hrx : h.mainSock.rx = pack (Pod.toBytes hdr ++ body) fds ++ rest)
    (hvalid : hdr.isValid = some true) (hsize : hdr.getSize.toNat = body.length)
    (hlen : fds.length ≤ maxAttachedFdEntries) :
    (handleRequest (S := S)).run h =
      .error (.err .invalidMessage)
        { h with mainSock := { h.mainSock with rx := rest,
                                               received := h.mainSock.received ++ fds } } := by
  simp only [unhandledFdCodes, List.mem_cons, List.not_mem_nil, or_false] at hcode
  rw [run_handleRequest_message h hdr body fds rest herr hrx hplan hvalid hsize hlen
    (Or.inr ⟨code, by rcases hcode with rfl | rfl | rfl <;> decide, hget⟩)]
  -- the dispatch falls through to its last arm
  unfold dispatchRequest
  rw [hget]
  rcases hcode with rfl | rfl | rfl <;> rfl

theorem handleRequest_keeps_fds_of_unhandled_code_setLogFd :
    (handleRequest (S := DummySlaveReqHandler)).run
        (new (Sock.ofStream (pack (Pod.toBytes (newRequestHeader .setLogFd 0)) [3]))
          DummySlaveReqHandler.new) =
      .error (.err .invalidMessage)
        { new (Sock.ofStream (pack (Pod.toBytes (newRequestHeader .setLogFd 0)) [3]))
            DummySlaveReqHandler.new with
          mainSock := { Sock.ofStream (pack (Pod.toBytes (newRequestHeader .setLogFd 0)) [3]) with
            rx := [], received := [] ++ [3] } } :=
  handleRequest_keeps_fds_of_unhandled_code _ (show MasterReq.setLogFd ∈ unhandledFdCodes by decide)
    (newRequestHeader .setLogFd 0) (getCode_newRequestHeader _ _) [] [3] [] rfl rfl
    (by rw [List.append_nil, List.append_nil]; rfl) (isValid_newRequestHeader (by decide) (by decide)) rfl (by decide)

end SlaveReqHandler

end Vhost.User
