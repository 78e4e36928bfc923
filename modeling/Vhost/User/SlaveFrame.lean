import Mathlib
import Vhost.User.Frame
import Vhost.User.SlaveReqHandler

/-!
# What the slave's steps leave alone

The slave handler changes its state in three ways only: through its socket, by
calling the backend (which changes the backend and the call record), and by
writing its own fields in the four negotiation arms of `handle_request`.  A
view of the state that neither the socket nor the backend shows is therefore
kept by every helper of `handle_request`, on every path; these lemmas say so
one helper at a time, from the endpoint frames of `Vhost.User.Frame`.
-/

namespace Vhost.User

open EStateM

namespace SlaveReqHandler

variable {S κ : Type}

/-- A view of the slave's state that neither its socket nor its backend shows. -/
structure HandlerBlind (f : SlaveReqHandler S → κ) : Prop where
  sock : SockBlind f
  backend : ∀ h backend calls, f { h with backend := backend, calls := calls } = f h

/-- A view that the slave's replies, its closes and its backend calls leave
alone.  Unlike a `HandlerBlind` view it may show what the slave reads: the
arms of the dispatch, which only write, keep it. -/
structure ReplyBlind (f : SlaveReqHandler S → κ) : Prop where
  sendFrame : SendFrame f
  closeFrame : CloseFrame f
  backend : ∀ h backend calls, f { h with backend := backend, calls := calls } = f h

theorem HandlerBlind.replyBlind {f : SlaveReqHandler S → κ} (hf : HandlerBlind f) :
    ReplyBlind f :=
  ⟨hf.sock.sendFrame, hf.sock.closeFrame, hf.backend⟩

/-- A view that closes and backend calls leave alone; it may show what the slave
sends. -/
structure CallBlind (f : SlaveReqHandler S → κ) : Prop where
  closeFrame : CloseFrame f
  backend : ∀ h backend calls, f { h with backend := backend, calls := calls } = f h

theorem ReplyBlind.callBlind {f : SlaveReqHandler S → κ} (hf : ReplyBlind f) : CallBlind f :=
  ⟨hf.closeFrame, hf.backend⟩

/-- The requests whose arms write the negotiated features. -/
def negotiationCodes : List MasterReq :=
  [.getFeatures, .setFeatures, .getProtocolFeatures, .setProtocolFeatures]

section NoSyscall

variable {f : SlaveReqHandler S → κ}

-- The checks make no call and write nothing: they keep every view of the state.
theorem keeps_checkState : Keeps f (checkState (S := S)) :=
  Keeps.get.bind fun _ => keeps_checkFailed _

theorem keeps_checkRequestSize (hdr : VhostUserMsgHeader MasterReq) (size expected : Nat) :
    Keeps f (checkRequestSize (S := S) hdr size expected) :=
  keeps_checkMsgSize hdr size expected

theorem keeps_extractRequestBody (T : Type) [Pod T] [VhostUserMsgValidator T]
    (hdr : VhostUserMsgHeader MasterReq) (size : Nat) (buf : List UInt8) :
    Keeps f (extractRequestBody (S := S) T hdr size buf) :=
  keeps_extractMsgBody T hdr size buf

theorem keeps_newReplyHeader (T : Type) [Pod T] (req : VhostUserMsgHeader MasterReq)
    (payloadSize : Nat) : Keeps f (newReplyHeader (S := S) T req payloadSize) := by
  refine Keeps.ite (Keeps.throw_bind _ _) (keeps_checkState.bind fun _ => ?_)
  split
  · exact Keeps.throw _
  · exact Keeps.pure _

/-- A view that the four negotiation fields and the acknowledgement flag do not
show. -/
def NegotiationBlind (f : SlaveReqHandler S → κ) : Prop :=
  ∀ h virtio ackedVirtio protocol ackedProtocol replyAck,
    f { h with virtioFeatures := virtio, ackedVirtioFeatures := ackedVirtio,
               protocolFeatures := protocol, ackedProtocolFeatures := ackedProtocol,
               replyAckEnabled := replyAck } = f h

theorem keeps_updateReplyAckFlag (hn : NegotiationBlind f) :
    Keeps f (updateReplyAckFlag (S := S)) := by
  refine Keeps.modify fun h => ?_
  dsimp only
  split
  · exact hn h _ _ _ _ true
  · exact hn h _ _ _ _ false

end NoSyscall

section SocketSteps

-- Each helper whose only system calls are socket calls keeps every view that
-- those calls keep: sends, reads or closes.
variable {f : SlaveReqHandler S → κ}

theorem keeps_closeRfds (hf : CloseFrame f) (rfds : Option (List Fd)) :
    Keeps f (closeRfds (σ := SlaveReqHandler S) rfds) :=
  hf.keeps_closeRfds rfds

theorem keeps_recvHeader (hf : RecvFrame f) :
    Keeps f (recvHeader (σ := SlaveReqHandler S) (R := MasterReq)) :=
  hf.keeps_recvHeader

theorem keeps_readRequestBody (hf : RecvFrame f) (hdr : VhostUserMsgHeader MasterReq) :
    Keeps f (readRequestBody (σ := SlaveReqHandler S) hdr) :=
  hf.keeps_readRequestBody hdr

theorem keeps_checkAttachedRfds (hf : CloseFrame f) (hdr : VhostUserMsgHeader MasterReq)
    (rfds : Option (List Fd)) : Keeps f (checkAttachedRfds (S := S) hdr rfds) := by
  unfold checkAttachedRfds
  split
  iterate 8 exact Keeps.pure _
  refine Keeps.ite ?_ (Keeps.pure _)
  exact (keeps_closeRfds hf _).bind fun _ => Keeps.throw_bind _ _

theorem keeps_sendAckMessage (hf : SendFrame f) (req : VhostUserMsgHeader MasterReq)
    (res : Except Error Unit) : Keeps f (sendAckMessage (S := S) req res) := by
  refine Keeps.get.bind fun h => Keeps.ite ?_ (Keeps.pure _)
  exact (keeps_newReplyHeader _ _ _).bind fun hdr => hf.keeps_sendMessage hdr _ _

theorem keeps_sendReplyMessage (hf : SendFrame f) {T : Type} [Pod T]
    (req : VhostUserMsgHeader MasterReq) (msg : T) :
    Keeps f (sendReplyMessage (S := S) req msg) :=
  (keeps_newReplyHeader _ _ _).bind fun hdr => hf.keeps_sendMessage hdr _ _

theorem keeps_sendReplyWithPayload (hf : SendFrame f) {T P : Type} [Pod T] [Pod P]
    (req : VhostUserMsgHeader MasterReq) (msg : T) (payload : List P) :
    Keeps f (sendReplyWithPayload (S := S) req msg payload) :=
  (keeps_newReplyHeader _ _ _).bind fun hdr => hf.keeps_sendMessageWithPayload hdr _ _ _

theorem keeps_handleVringFdRequest (hf : CloseFrame f) (buf : List UInt8)
    (rfds : Option (List Fd)) : Keeps f (handleVringFdRequest (S := S) buf rfds) := by
  refine (keeps_castBuf _).bind fun msg => ?_
  simp only
  refine Keeps.ite (Keeps.throw_bind _ _) ?_
  split
  · refine Keeps.ite ((Keeps.pure _).bind fun _ => Keeps.pure _) (Keeps.ite ?_ ?_)
    · exact (keeps_closeRfds hf _).bind fun _ => Keeps.throw_bind _ _
    · exact (Keeps.pure _).bind fun _ => Keeps.pure _
  · exact Keeps.ite (Keeps.throw_bind _ _) ((Keeps.pure _).bind fun _ => Keeps.pure _)

end SocketSteps

namespace CallBlind

variable {f : SlaveReqHandler S → κ} (hf : CallBlind f)
include hf

theorem keeps_callBackend {α : Type} (call : SlaveCall) (method : S → Except Error α × S) :
    Keeps f (callBackend call method) :=
  Keeps.modifyGet fun h => hf.backend h _ _

variable [VhostUserSlaveReqHandler S]

/-- `set_mem_table` closes descriptors and calls the backend; it sends nothing. -/
theorem keeps_setMemTable (hdr : VhostUserMsgHeader MasterReq) (size : Nat) (buf : List UInt8)
    (rfds : Option (List Fd)) : Keeps f (setMemTable (S := S) hdr size buf rfds) := by
  -- every refusal closes the descriptors and raises; the last step calls the backend
  have hrefuse : ∀ fds {β : Type} (g : β → Prog (SlaveReqHandler S) (Except Error Unit)),
      Keeps f (closeRfds fds >>= fun _ => throw (Fault.err .invalidMessage) >>= g) :=
    fun fds _ g => (keeps_closeRfds hf.closeFrame fds).bind fun _ => Keeps.throw_bind _ g
  refine (keeps_checkRequestSize _ _ _).bind fun _ => ?_
  simp only
  refine Keeps.ite (hrefuse _ _) ((keeps_castBuf _).bind fun msg => ?_)
  refine Keeps.ite (hrefuse _ _) (Keeps.ite (hrefuse _ _) ?_)
  split
  · exact Keeps.throw_bind _ _
  · refine Keeps.ite (hrefuse _ _) ((Keeps.pure _).bind fun fds => ?_)
    exact Keeps.ite (hrefuse _ _) (hf.keeps_callBackend _ _)

end CallBlind

namespace ReplyBlind

variable {f : SlaveReqHandler S → κ} (hf : ReplyBlind f)
include hf

theorem keeps_callBackend {α : Type} (call : SlaveCall) (method : S → Except Error α × S) :
    Keeps f (callBackend call method) :=
  hf.callBlind.keeps_callBackend call method

variable [VhostUserSlaveReqHandler S]

theorem keeps_setMemTable (hdr : VhostUserMsgHeader MasterReq) (size : Nat) (buf : List UInt8)
    (rfds : Option (List Fd)) : Keeps f (setMemTable (S := S) hdr size buf rfds) :=
  hf.callBlind.keeps_setMemTable hdr size buf rfds

theorem keeps_getConfig (hdr : VhostUserMsgHeader MasterReq) (buf : List UInt8) :
    Keeps f (getConfig (S := S) hdr buf) := by
  refine (keeps_castBuf _).bind fun msg => ?_
  simp only
  refine Keeps.ite (Keeps.throw_bind _ _) (Keeps.ite (Keeps.throw_bind _ _) ?_)
  split
  · refine (Keeps.pure _).bind fun flags => (hf.keeps_callBackend _ _).bind fun res => ?_
    split
    · exact Keeps.ite (keeps_sendReplyWithPayload hf.sendFrame _ _ _) (keeps_sendReplyMessage hf.sendFrame _ _)
    · exact keeps_sendReplyMessage hf.sendFrame _ _
  · exact Keeps.throw_bind _ _

theorem keeps_setConfig (hdr : VhostUserMsgHeader MasterReq) (size : Nat) (buf : List UInt8) :
    Keeps f (setConfig (S := S) hdr size buf) := by
  simp only [setConfig]
  refine Keeps.ite (Keeps.throw_bind _ _) ((keeps_castBuf _).bind fun msg => ?_)
  refine Keeps.ite (Keeps.throw_bind _ _) (Keeps.ite (Keeps.throw_bind _ _) ?_)
  split
  · exact (Keeps.pure _).bind fun flags =>
      (hf.keeps_callBackend _ _).bind fun res => keeps_sendAckMessage hf.sendFrame _ _
  · exact Keeps.throw_bind _ _

theorem keeps_setSlaveReqFd (hdr : VhostUserMsgHeader MasterReq) (rfds : Option (List Fd)) :
    Keeps f (setSlaveReqFd (S := S) hdr rfds) := by
  unfold setSlaveReqFd
  split
  · exact (Keeps.modify fun h => hf.backend h _ _).bind fun _ => keeps_sendAckMessage hf.sendFrame _ _
  · exact Keeps.throw _

/-- Every arm of `handle_request` other than the four that negotiate features
writes only through the socket and the backend. -/
theorem keeps_dispatchRequest (hdr : VhostUserMsgHeader MasterReq) (size : Nat)
    (buf : List UInt8) (rfds : Option (List Fd))
    (hcode : ∀ c ∈ negotiationCodes, hdr.getCode ≠ some c) :
    Keeps f (dispatchRequest hdr size buf rfds) := by
  -- the arms in the order of the source; each prefix is a check, a body read
  -- or a backend call, and each arm ends in a reply, an ack or a lifted result
  have hack : ∀ res, Keeps f (sendAckMessage (S := S) hdr res) := keeps_sendAckMessage hf.sendFrame hdr
  unfold dispatchRequest
  split
  · -- SET_OWNER
    exact (keeps_checkRequestSize _ _ _).bind fun _ =>
      (hf.keeps_callBackend _ _).bind fun res => keeps_lift res
  · -- RESET_OWNER
    exact (keeps_checkRequestSize _ _ _).bind fun _ =>
      (hf.keeps_callBackend _ _).bind fun res => keeps_lift res
  · exact absurd ‹_› (hcode .getFeatures (by simp [negotiationCodes]))
  · exact absurd ‹_› (hcode .setFeatures (by simp [negotiationCodes]))
  · -- SET_MEM_TABLE
    exact (keeps_result (hf.keeps_setMemTable _ _ _ _)).bind fun _ => hack _
  · -- SET_VRING_NUM
    exact (keeps_extractRequestBody _ _ _ _).bind fun _ =>
      (hf.keeps_callBackend _ _).bind hack
  · -- SET_VRING_ADDR
    refine (keeps_extractRequestBody _ _ _ _).bind fun _ => ?_
    simp only
    exact Keeps.ite ((Keeps.pure _).bind fun _ => (hf.keeps_callBackend _ _).bind hack)
      (Keeps.throw_bind _ _)
  · -- SET_VRING_BASE
    exact (keeps_extractRequestBody _ _ _ _).bind fun _ =>
      (hf.keeps_callBackend _ _).bind hack
  · -- GET_VRING_BASE
    exact (keeps_extractRequestBody _ _ _ _).bind fun _ =>
      (hf.keeps_callBackend _ _).bind fun res =>
        (keeps_lift res).bind fun reply => keeps_sendReplyMessage hf.sendFrame _ reply
  · -- SET_VRING_CALL
    exact (keeps_checkRequestSize _ _ _).bind fun _ =>
      (keeps_handleVringFdRequest hf.closeFrame _ _).bind fun _ => (hf.keeps_callBackend _ _).bind hack
  · -- SET_VRING_KICK
    exact (keeps_checkRequestSize _ _ _).bind fun _ =>
      (keeps_handleVringFdRequest hf.closeFrame _ _).bind fun _ => (hf.keeps_callBackend _ _).bind hack
  · -- SET_VRING_ERR
    exact (keeps_checkRequestSize _ _ _).bind fun _ =>
      (keeps_handleVringFdRequest hf.closeFrame _ _).bind fun _ => (hf.keeps_callBackend _ _).bind hack
  · exact absurd ‹_› (hcode .getProtocolFeatures (by simp [negotiationCodes]))
  · exact absurd ‹_› (hcode .setProtocolFeatures (by simp [negotiationCodes]))
  · -- GET_QUEUE_NUM, behind the MQ gate
    refine Keeps.get.bind fun _ => ?_
    simp only
    refine Keeps.ite (Keeps.throw_bind _ _) ?_
    exact (keeps_checkRequestSize _ _ _).bind fun _ => (hf.keeps_callBackend _ _).bind fun res =>
      (keeps_lift res).bind fun num => keeps_sendReplyMessage hf.sendFrame _ _
  · -- SET_VRING_ENABLE, behind the MQ gate for queues other than 0
    refine (keeps_extractRequestBody _ _ _ _).bind fun _ => Keeps.get.bind fun _ => ?_
    simp only
    refine Keeps.ite (Keeps.throw_bind _ _) ?_
    split
    · exact (Keeps.pure _).bind fun _ => (hf.keeps_callBackend _ _).bind hack
    · exact (Keeps.pure _).bind fun _ => (hf.keeps_callBackend _ _).bind hack
    · exact Keeps.throw_bind _ _
  · -- GET_CONFIG, behind the CONFIG gate
    refine Keeps.get.bind fun _ => ?_
    simp only
    exact Keeps.ite (Keeps.throw_bind _ _) (hf.keeps_getConfig _ _)
  · -- SET_CONFIG, behind the CONFIG gate
    refine Keeps.get.bind fun _ => ?_
    simp only
    exact Keeps.ite (Keeps.throw_bind _ _)
      ((keeps_checkRequestSize _ _ _).bind fun _ => hf.keeps_setConfig _ _ _)
  · -- SET_SLAVE_REQ_FD, behind the SLAVE_REQ gate
    refine Keeps.get.bind fun _ => ?_
    simp only
    exact Keeps.ite (Keeps.throw_bind _ _) (hf.keeps_setSlaveReqFd _ _)
  · -- every other code is refused
    exact Keeps.throw _

/-- A view that no arm writes, the four negotiation arms included, is kept by
the whole dispatch. -/
theorem keeps_dispatchRequest_of_negotiationBlind (hn : NegotiationBlind f)
    (hdr : VhostUserMsgHeader MasterReq) (size : Nat) (buf : List UInt8)
    (rfds : Option (List Fd)) : Keeps f (dispatchRequest hdr size buf rfds) := by
  by_cases hcode : ∀ c ∈ negotiationCodes, hdr.getCode ≠ some c
  · exact hf.keeps_dispatchRequest hdr size buf rfds hcode
  obtain ⟨c, hc, heq⟩ : ∃ c ∈ negotiationCodes, hdr.getCode = some c := by simpa using hcode
  -- each of the four arms ends by writing one field and updating the flag
  have hupdate : ∀ g : SlaveReqHandler S → SlaveReqHandler S, (∀ h, f (g h) = f h) →
      Keeps f (modify g >>= fun _ => updateReplyAckFlag (S := S)) :=
    fun g hg => (Keeps.modify hg).bind fun _ => keeps_updateReplyAckFlag hn
  simp only [negotiationCodes, List.mem_cons, List.not_mem_nil, or_false] at hc
  unfold dispatchRequest
  rcases hc with rfl | rfl | rfl | rfl <;> rw [heq] <;> dsimp only
  · -- GET_FEATURES
    exact (keeps_checkRequestSize _ _ _).bind fun _ => (hf.keeps_callBackend _ _).bind fun res =>
      (keeps_lift res).bind fun features => (keeps_sendReplyMessage hf.sendFrame _ _).bind fun _ =>
        hupdate _ fun h => hn h features _ _ _ _
  · -- SET_FEATURES
    exact (keeps_extractRequestBody _ _ _ _).bind fun msg => (hf.keeps_callBackend _ _).bind
      fun res => (keeps_lift res).bind fun _ => hupdate _ fun h => hn h _ msg.value _ _ _
  · -- GET_PROTOCOL_FEATURES
    exact (keeps_checkRequestSize _ _ _).bind fun _ => (hf.keeps_callBackend _ _).bind fun res =>
      (keeps_lift res).bind fun features => (keeps_sendReplyMessage hf.sendFrame _ _).bind fun _ =>
        hupdate _ fun h => hn h _ _ features _ _
  · -- SET_PROTOCOL_FEATURES
    exact (keeps_extractRequestBody _ _ _ _).bind fun msg => (hf.keeps_callBackend _ _).bind
      fun res => (keeps_lift res).bind fun _ => hupdate _ fun h => hn h _ _ _ msg.value _

end ReplyBlind

end SlaveReqHandler

end Vhost.User
