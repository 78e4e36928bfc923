import Mathlib
import Vhost.User.Pipeline

/-!
# What the slave writes in answer

The slave answers five requests with a reply of their own, the `GET_` ones.
Every other request it acknowledges once REPLY_ACK is negotiated, and answers
with nothing otherwise.  This module follows the slave through the requests it
is sent, when it has not negotiated REPLY_ACK and is not asked to.

A request other than a `GET_` one is read whole and leaves the slave writing
nothing (`serving_handleRequest`).  A `GET_` request draws at most one reply,
no longer than a header and a body as long as the request's or a `u64`
(`owes_handleRequest`).  The slave's loop keeps that however many rounds it
takes, which is what `Vhost.User.Pairing` needs of the slave.
-/

namespace Vhost.User

open ByteStream EStateM Segments

/-! ## Requests that draw a reply -/

/-- The requests the slave answers with a reply of their own, whatever has been
negotiated. -/
def replyCodes : List MasterReq :=
  [.getFeatures, .getVringBase, .getProtocolFeatures, .getQueueNum, .getConfig]

/-- A request the slave answers at most with an acknowledgement. -/
def Silent (code : MasterReq) : Prop :=
  code ∉ replyCodes

instance : DecidablePred Silent :=
  fun code => inferInstanceAs (Decidable (code ∉ replyCodes))

/-- The features a `SET_PROTOCOL_FEATURES` request acks: the `u64` of its body. -/
def ackedBy (frame : Stream Fd) : UInt64 :=
  (Pod.ofBytes ((bytes frame).drop 12) : VhostUserU64).value

/-- A whole request that draws no reply from a slave without REPLY_ACK and does
not ack REPLY_ACK. -/
def Harmless (frame : Stream Fd) : Prop :=
  RequestFrame frame ∧ ∃ code, frameCode frame = some code ∧ Silent code ∧
    (code = .setProtocolFeatures → ackedBy frame &&& VhostUserProtocolFeatures.replyAck = 0)

theorem ackedBy_pack (hdr : VhostUserMsgHeader MasterReq) (body : List UInt8) (fds : List Fd) :
    ackedBy (pack (Pod.toBytes hdr ++ body) fds) = (Pod.ofBytes body : VhostUserU64).value := by
  simp [ackedBy, bytes_pack]

/-- A body check that passes hands back the buffer read as a `T`. -/
theorem eq_ofBytes_of_run_extractMsgBody {σ R T : Type} [Req R] [Pod T]
    [VhostUserMsgValidator T] {hdr : VhostUserMsgHeader R} {size : Nat} {buf : List UInt8}
    {s s' : σ} {msg : T} (hrun : (extractMsgBody (σ := σ) T hdr size buf).run s = .ok msg s') :
    msg = Pod.ofBytes buf := by
  simp only [extractMsgBody, checkMsgSize, castBuf] at hrun
  by_cases hvalid : VhostUserMsgValidator.isValid (Pod.ofBytes buf : T) <;>
    split_ifs at hrun <;> simp_all [EStateM.run_bind]

namespace SlaveReqHandler

variable {S : Type}

/-- A slave that acknowledges nothing: REPLY_ACK is not acked, and the flag is
off. -/
structure NoAck (h : SlaveReqHandler S) : Prop where
  acked : h.ackedProtocolFeatures &&& VhostUserProtocolFeatures.replyAck = 0
  flag : h.replyAckEnabled = false

/-- What a slave that writes nothing leaves alone: its output, its kernel's plan
for writes, and what decides whether it acknowledges. -/
def muteView (h : SlaveReqHandler S) : Stream Fd × List SockStep × UInt64 × Bool :=
  (h.mainSock.tx, h.mainSock.sendPlan, h.ackedProtocolFeatures, h.replyAckEnabled)

theorem callBlind_muteView : CallBlind (muteView (S := S)) :=
  ⟨fun _ _ => rfl, fun _ _ _ => rfl⟩

/-- The slave writes nothing past `t`, its kernel's plan for writes is `plan`, and it
acknowledges nothing. -/
def Mute (t : Stream Fd) (plan : List SockStep) (h : SlaveReqHandler S) : Prop :=
  h.mainSock.tx = t ∧ h.mainSock.sendPlan = plan ∧ NoAck h

theorem Mute.of_muteView {t : Stream Fd} {plan : List SockStep} {h h' : SlaveReqHandler S}
    (hsame : muteView h' = muteView h) (hh : Mute t plan h) : Mute t plan h' := by
  simp only [muteView, Prod.mk.injEq] at hsame
  obtain ⟨htx, hplan, hacked, hflag⟩ := hsame
  obtain ⟨ht, hp, ha, hf⟩ := hh
  exact ⟨htx.trans ht, hplan.trans hp, ⟨hacked ▸ ha, hflag.trans hf⟩⟩

/-- Without REPLY_ACK acked, the flag is recomputed off. -/
theorem run_updateReplyAckFlag_of_noAck (h : SlaveReqHandler S) (hh : NoAck h) :
    (updateReplyAckFlag (S := S)).run h = .ok () { h with replyAckEnabled := false } := by
  have hoff : (h.ackedProtocolFeatures &&& VhostUserProtocolFeatures.replyAck != 0) = false := by
    simp [hh.acked]
  simp only [updateReplyAckFlag, EStateM.run_modify, hoff, Bool.and_false, Bool.false_eq_true,
    if_false]

section Mute

variable {t : Stream Fd} {plan : List SockStep}

theorem preserves_mute_of_keeps {α : Type} {x : Prog (SlaveReqHandler S) α}
    (hx : Keeps muteView x) : Preserves (Mute t plan) x :=
  .of_keeps hx fun _ _ hsame hs => hs.of_muteView hsame

/-- Without REPLY_ACK, `send_ack_message` sends nothing. -/
theorem preserves_mute_sendAckMessage (req : VhostUserMsgHeader MasterReq)
    (res : Except Error Unit) : Preserves (Mute t plan) (sendAckMessage (S := S) req res) := by
  refine Preserves.get_bind_of fun h hh => ?_
  rw [if_neg (by rw [hh.2.2.flag]; decide)]
  exact .pure _

theorem preserves_mute_updateReplyAckFlag :
    Preserves (Mute t plan) (updateReplyAckFlag (S := S)) := fun h hh => by
  rw [run_updateReplyAckFlag_of_noAck h hh.2.2]
  exact ⟨hh.1, hh.2.1, hh.2.2.acked, rfl⟩

variable [VhostUserSlaveReqHandler S]

theorem preserves_mute_setConfig (hdr : VhostUserMsgHeader MasterReq) (size : Nat)
    (buf : List UInt8) : Preserves (Mute t plan) (setConfig (S := S) hdr size buf) := by
  simp only [setConfig]
  refine .ite (.throw_bind _ _) ((preserves_mute_of_keeps (keeps_castBuf _)).bind fun msg => ?_)
  refine .ite (.throw_bind _ _) (.ite (.throw_bind _ _) ?_)
  split
  · exact (Preserves.pure _).bind fun _ =>
      (preserves_mute_of_keeps (callBlind_muteView.keeps_callBackend _ _)).bind fun _ =>
        preserves_mute_sendAckMessage _ _
  · exact .throw_bind _ _

theorem preserves_mute_setSlaveReqFd (hdr : VhostUserMsgHeader MasterReq)
    (rfds : Option (List Fd)) : Preserves (Mute t plan) (setSlaveReqFd (S := S) hdr rfds) := by
  unfold setSlaveReqFd
  split
  · exact (preserves_mute_of_keeps (Keeps.modify fun h => callBlind_muteView.backend h _ _)).bind
      fun _ => preserves_mute_sendAckMessage _ _
  · exact .throw _

/-- Every arm of `handle_request` but the `GET_` ones writes nothing on a slave
without REPLY_ACK, and keeps it so when the request does not ack REPLY_ACK. -/
theorem preserves_mute_dispatchRequest (hdr : VhostUserMsgHeader MasterReq) (size : Nat)
    (buf : List UInt8) (rfds : Option (List Fd)) (hsilent : ∀ c, hdr.getCode = some c → Silent c)
    (hacks : hdr.getCode = some .setProtocolFeatures →
      (Pod.ofBytes buf : VhostUserU64).value &&& VhostUserProtocolFeatures.replyAck = 0) :
    Preserves (Mute t plan) (dispatchRequest (S := S) hdr size buf rfds) := by
  have hk : ∀ {α : Type} {x : Prog (SlaveReqHandler S) α}, Keeps (muteView (S := S)) x →
      Preserves (Mute t plan) x := preserves_mute_of_keeps
  have hcb := callBlind_muteView (S := S)
  have hack : ∀ res, Preserves (Mute t plan) (sendAckMessage (S := S) hdr res) :=
    preserves_mute_sendAckMessage hdr
  have hreply : ∀ c ∈ replyCodes, hdr.getCode ≠ some c := fun c hc hget => hsilent c hget hc
  unfold dispatchRequest
  split
  · -- SET_OWNER
    exact hk ((keeps_checkRequestSize _ _ _).bind fun _ =>
      (hcb.keeps_callBackend _ _).bind fun res => keeps_lift res)
  · -- RESET_OWNER
    exact hk ((keeps_checkRequestSize _ _ _).bind fun _ =>
      (hcb.keeps_callBackend _ _).bind fun res => keeps_lift res)
  · exact absurd ‹_› (hreply .getFeatures (by simp [replyCodes]))
  · -- SET_FEATURES writes a field that the view does not show
    refine (hk (keeps_extractRequestBody _ _ _ _)).bind fun _ =>
      (hk (hcb.keeps_callBackend _ _)).bind fun res => (hk (keeps_lift res)).bind fun _ =>
        Preserves.bind ?_ fun _ => preserves_mute_updateReplyAckFlag
    exact hk (Keeps.modify fun _ => rfl)
  · -- SET_MEM_TABLE
    exact (hk (keeps_result (hcb.keeps_setMemTable _ _ _ _))).bind fun _ => hack _
  · -- SET_VRING_NUM
    exact (hk (keeps_extractRequestBody _ _ _ _)).bind fun _ =>
      (hk (hcb.keeps_callBackend _ _)).bind hack
  · -- SET_VRING_ADDR
    refine (hk (keeps_extractRequestBody _ _ _ _)).bind fun _ => ?_
    simp only
    exact .ite ((Preserves.pure _).bind fun _ => (hk (hcb.keeps_callBackend _ _)).bind hack)
      (.throw_bind _ _)
  · -- SET_VRING_BASE
    exact (hk (keeps_extractRequestBody _ _ _ _)).bind fun _ =>
      (hk (hcb.keeps_callBackend _ _)).bind hack
  · exact absurd ‹_› (hreply .getVringBase (by simp [replyCodes]))
  · -- SET_VRING_CALL
    exact (hk (keeps_checkRequestSize _ _ _)).bind fun _ =>
      (hk (keeps_handleVringFdRequest hcb.closeFrame _ _)).bind fun _ =>
        (hk (hcb.keeps_callBackend _ _)).bind hack
  · -- SET_VRING_KICK
    exact (hk (keeps_checkRequestSize _ _ _)).bind fun _ =>
      (hk (keeps_handleVringFdRequest hcb.closeFrame _ _)).bind fun _ =>
        (hk (hcb.keeps_callBackend _ _)).bind hack
  · -- SET_VRING_ERR
    exact (hk (keeps_checkRequestSize _ _ _)).bind fun _ =>
      (hk (keeps_handleVringFdRequest hcb.closeFrame _ _)).bind fun _ =>
        (hk (hcb.keeps_callBackend _ _)).bind hack
  · exact absurd ‹_› (hreply .getProtocolFeatures (by simp [replyCodes]))
  · -- SET_PROTOCOL_FEATURES acks the body's features, which leave REPLY_ACK out
    next hget =>
      have hbody : ∀ s msg s', (extractRequestBody (S := S) VhostUserU64 hdr size buf).run s =
          .ok msg s' → msg = Pod.ofBytes buf := fun _ _ _ hrun =>
        eq_ofBytes_of_run_extractMsgBody hrun
      refine (hk (keeps_extractRequestBody _ _ _ _)).bind_of hbody fun msg hmsg => ?_
      refine (hk (hcb.keeps_callBackend _ _)).bind fun res => (hk (keeps_lift res)).bind
        fun _ => ?_
      refine Preserves.bind (.modify fun h hh => ⟨hh.1, hh.2.1, ?_, hh.2.2.flag⟩) fun _ =>
        preserves_mute_updateReplyAckFlag
      rw [hmsg]
      exact hacks hget
  · exact absurd ‹_› (hreply .getQueueNum (by simp [replyCodes]))
  · -- SET_VRING_ENABLE, behind the MQ gate for queues other than 0
    refine (hk (keeps_extractRequestBody _ _ _ _)).bind fun _ => Preserves.get.bind fun _ => ?_
    simp only
    refine .ite (.throw_bind _ _) ?_
    split
    · exact (Preserves.pure _).bind fun _ => (hk (hcb.keeps_callBackend _ _)).bind hack
    · exact (Preserves.pure _).bind fun _ => (hk (hcb.keeps_callBackend _ _)).bind hack
    · exact .throw_bind _ _
  · exact absurd ‹_› (hreply .getConfig (by simp [replyCodes]))
  · -- SET_CONFIG, behind the CONFIG gate
    refine Preserves.get.bind fun _ => ?_
    simp only
    exact .ite (.throw_bind _ _)
      ((hk (keeps_checkRequestSize _ _ _)).bind fun _ => preserves_mute_setConfig _ _ _)
  · -- SET_SLAVE_REQ_FD, behind the SLAVE_REQ gate
    refine Preserves.get.bind fun _ => ?_
    simp only
    exact .ite (.throw_bind _ _) (preserves_mute_setSlaveReqFd _ _)
  · -- every other code is refused
    exact .throw _

end Mute

/-! ## Replies of bounded length -/

/-- The slave has written at most `n` cells, its kernel takes writes whole, and
it acks nothing. -/
def Replied (n : Nat) (h : SlaveReqHandler S) : Prop :=
  h.mainSock.sendPlan = [] ∧ h.mainSock.tx.length ≤ n ∧ NoAck h

theorem Replied.mono {n m : Nat} {h : SlaveReqHandler S} (hh : Replied n h) (hnm : n ≤ m) :
    Replied m h :=
  ⟨hh.1, hh.2.1.trans hnm, hh.2.2⟩

theorem Replied.of_muteView {n : Nat} {h h' : SlaveReqHandler S}
    (hsame : muteView h' = muteView h) (hh : Replied n h) : Replied n h' := by
  simp only [muteView, Prod.mk.injEq] at hsame
  obtain ⟨htx, hplan, hacked, hflag⟩ := hsame
  exact ⟨hplan.trans hh.1, by rw [htx]; exact hh.2.1, hacked ▸ hh.2.2.acked,
    hflag.trans hh.2.2.flag⟩

theorem Mute.replied {h : SlaveReqHandler S} (hh : Mute [] [] h) : Replied 0 h :=
  ⟨hh.2.1, by rw [hh.1]; rfl, hh.2.2⟩

section Replies

-- The slave's steps are followed whatever they raise: a failed request leaves
-- the slave serving the next one, and its output goes to the master all the same.
variable {stop : Fault → Prop} {n m : Nat}

theorem triple_replied_of_keeps {α : Type} {x : Prog (SlaveReqHandler S) α}
    (hx : Keeps muteView x) (hnm : n ≤ m) :
    Triple stop (Replied n) x (fun _ => Replied n) (Replied m) :=
  (Triple.of_preserves (Preserves.of_keeps hx fun _ _ hsame hs => hs.of_muteView hsame)).consequence
    (fun _ hs => hs) (fun _ _ hs => hs) fun _ hs => hs.mono hnm

/-- A refusal writes nothing. -/
theorem triple_replied_throw_bind {β γ : Type} (e : Fault) (g : β → Prog (SlaveReqHandler S) γ)
    {R : γ → SlaveReqHandler S → Prop} (hnm : n ≤ m) :
    Triple stop (Replied n) (throw e >>= g) R (Replied m) :=
  Triple.throw_bind fun _ hh => .inr (hh.mono hnm)

theorem triple_replied_updateReplyAckFlag :
    Triple stop (Replied n) (updateReplyAckFlag (S := S)) (fun _ => Replied n) (Replied n) :=
  Triple.of_preserves fun h hh => by
    rw [run_updateReplyAckFlag_of_noAck h hh.2.2]
    exact ⟨hh.1, hh.2.1, hh.2.2.acked, rfl⟩

/-- A reply goes out whole, on a kernel that takes writes whole. -/
theorem triple_replied_sendMessage {T : Type} [Pod T] (hdr : VhostUserMsgHeader MasterReq)
    (body : T) (hm : n + (12 + Pod.size T) ≤ m) :
    Triple stop (Replied n) (sendMessage (σ := SlaveReqHandler S) hdr body none)
      (fun _ => Replied m) (Replied m) := by
  intro h hh
  rw [run_sendMessage_of_sendPlan_nil h hdr body none hh.1]
  have hlen : h.mainSock.tx.length + (12 + Pod.size T) ≤ m := by
    have := hh.2.1
    omega
  exact ⟨hh.1, by simpa [Pod.length_toBytes, Nat.add_assoc] using hlen, hh.2.2.acked,
    hh.2.2.flag⟩

theorem triple_replied_sendMessageWithPayload {T P : Type} [Pod T] [Pod P]
    (hdr : VhostUserMsgHeader MasterReq) (body : T) (payload : List P)
    (hm : n + (12 + Pod.size T + payload.length * Pod.size P) ≤ m) :
    Triple stop (Replied n) (sendMessageWithPayload (σ := SlaveReqHandler S) hdr body payload none)
      (fun _ => Replied m) (Replied m) := by
  intro h hh
  by_cases hsize : payload.length * Pod.size P ≤ maxMsgSize - Pod.size T
  · rw [run_sendMessageWithPayload_of_sendPlan_nil h hdr body payload none hsize
      (fun _ hfds => by cases hfds) hh.1]
    have hlen : h.mainSock.tx.length + (12 + Pod.size T + payload.length * Pod.size P) ≤ m := by
      have := hh.2.1
      omega
    refine ⟨hh.1, ?_, hh.2.2.acked, hh.2.2.flag⟩
    simpa [Pod.length_toBytes, Pod.length_listBytes, Nat.add_assoc, Nat.mul_comm] using hlen
  · -- an oversized payload is refused before anything is written
    have hrun : (sendMessageWithPayload (σ := SlaveReqHandler S) hdr body payload none).run h =
        .error (.err .oversizedMsg) h := by
      simp [sendMessageWithPayload, Nat.lt_of_not_le hsize]
    rw [hrun]
    exact .inr (hh.mono (by omega))

theorem triple_replied_sendReplyMessage {T : Type} [Pod T] (req : VhostUserMsgHeader MasterReq)
    (msg : T) (hm : n + (12 + Pod.size T) ≤ m) :
    Triple stop (Replied n) (sendReplyMessage (S := S) req msg) (fun _ => Replied m) (Replied m) :=
  (triple_replied_of_keeps (keeps_newReplyHeader _ _ _) (by omega)).bind fun hdr =>
    triple_replied_sendMessage hdr msg hm

theorem triple_replied_sendReplyWithPayload {T P : Type} [Pod T] [Pod P]
    (req : VhostUserMsgHeader MasterReq) (msg : T) (payload : List P)
    (hm : n + (12 + Pod.size T + payload.length * Pod.size P) ≤ m) :
    Triple stop (Replied n) (sendReplyWithPayload (S := S) req msg payload)
      (fun _ => Replied m) (Replied m) :=
  (triple_replied_of_keeps (keeps_newReplyHeader _ _ _) (by omega)).bind fun hdr =>
    triple_replied_sendMessageWithPayload hdr msg payload hm

variable [VhostUserSlaveReqHandler S]

/-- `get_config` answers with one reply: the head and as many bytes as the
request's body asks for, or the head alone. -/
theorem triple_replied_getConfig (hdr : VhostUserMsgHeader MasterReq) (buf : List UInt8) :
    Triple stop (Replied 0) (getConfig (S := S) hdr buf)
      (fun _ => Replied (12 + max 8 buf.length)) (Replied (12 + max 8 buf.length)) := by
  have hk : ∀ {α : Type} {x : Prog (SlaveReqHandler S) α}, Keeps muteView x →
      Triple stop (Replied 0) x (fun _ => Replied 0) (Replied (12 + max 8 buf.length)) :=
    fun hx => triple_replied_of_keeps hx (Nat.zero_le _)
  have hcb := callBlind_muteView (S := S)
  unfold getConfig
  by_cases hlen : Pod.size VhostUserConfig ≤ buf.length
  · rw [castBuf, if_pos hlen, pure_bind]
    dsimp only
    rw [Pod.size_vhostUserConfig] at hlen
    refine Triple.ite (fun _ => triple_replied_throw_bind _ _ (Nat.zero_le _)) fun _ => ?_
    refine Triple.ite (fun _ => triple_replied_throw_bind _ _ (Nat.zero_le _)) fun hsize => ?_
    -- the head's size is what the body holds past the head
    have hsize : buf.length - 12 = (Pod.ofBytes buf : VhostUserConfig).size.toNat := by
      simpa [Pod.size_vhostUserConfig] using hsize
    have hhead : 0 + (12 + Pod.size VhostUserConfig) ≤ 12 + max 8 buf.length := by
      rw [Pod.size_vhostUserConfig]
      omega
    split
    · refine (hk (Keeps.pure _)).bind fun flags => (hk (hcb.keeps_callBackend _ _)).bind
        fun res => ?_
      split
      · refine Triple.ite (fun hdata => triple_replied_sendReplyWithPayload _ _ _ ?_)
          fun _ => triple_replied_sendReplyMessage _ _ hhead
        rw [Pod.size_vhostUserConfig, Pod.size_uInt8, hdata, ← hsize]
        omega
      · exact triple_replied_sendReplyMessage _ _ hhead
    · exact triple_replied_throw_bind _ _ (Nat.zero_le _)
  · rw [castBuf, if_neg hlen]
    exact triple_replied_throw_bind _ _ (Nat.zero_le _)

/-- Each `GET_` arm of `handle_request` writes one reply at most: a header and
a `u64` or a ring state, or a config head with the bytes the request asks for. -/
theorem triple_replied_dispatchRequest_of_mem (hdr : VhostUserMsgHeader MasterReq) (size : Nat)
    (buf : List UInt8) (rfds : Option (List Fd)) {code : MasterReq}
    (hcode : hdr.getCode = some code) (hmem : code ∈ replyCodes) :
    Triple stop (Replied 0) (dispatchRequest (S := S) hdr size buf rfds)
      (fun _ => Replied (12 + max 8 buf.length)) (Replied (12 + max 8 buf.length)) := by
  have hk : ∀ {α : Type} {x : Prog (SlaveReqHandler S) α}, Keeps muteView x →
      Triple stop (Replied 0) x (fun _ => Replied 0) (Replied (12 + max 8 buf.length)) :=
    fun hx => triple_replied_of_keeps hx (Nat.zero_le _)
  have hk' : ∀ {α : Type} {x : Prog (SlaveReqHandler S) α}, Keeps muteView x →
      Triple stop (Replied (12 + max 8 buf.length)) x (fun _ => Replied (12 + max 8 buf.length))
        (Replied (12 + max 8 buf.length)) :=
    fun hx => triple_replied_of_keeps hx le_rfl
  have hcb := callBlind_muteView (S := S)
  -- the `u64` and ring-state replies are a header and eight bytes
  have hu64 : 0 + (12 + Pod.size VhostUserU64) ≤ 12 + max 8 buf.length := by
    rw [Pod.size_vhostUserU64]
    omega
  have hstate : 0 + (12 + Pod.size VhostUserVringState) ≤ 12 + max 8 buf.length := by
    rw [Pod.size_vhostUserVringState]
    omega
  simp only [replyCodes, List.mem_cons, List.not_mem_nil, or_false] at hmem
  unfold dispatchRequest
  rcases hmem with rfl | rfl | rfl | rfl | rfl <;> rw [hcode] <;> dsimp only
  · -- GET_FEATURES
    refine (hk (keeps_checkRequestSize _ _ _)).bind fun _ => (hk (hcb.keeps_callBackend _ _)).bind
      fun res => (hk (keeps_lift res)).bind fun _ => (triple_replied_sendReplyMessage _ _ hu64).bind
        fun _ => Triple.bind ?_ fun _ => triple_replied_updateReplyAckFlag
    exact hk' (Keeps.modify fun _ => rfl)
  · -- GET_VRING_BASE
    exact (hk (keeps_extractRequestBody _ _ _ _)).bind fun _ =>
      (hk (hcb.keeps_callBackend _ _)).bind fun res => (hk (keeps_lift res)).bind fun _ =>
        triple_replied_sendReplyMessage _ _ hstate
  · -- GET_PROTOCOL_FEATURES
    refine (hk (keeps_checkRequestSize _ _ _)).bind fun _ => (hk (hcb.keeps_callBackend _ _)).bind
      fun res => (hk (keeps_lift res)).bind fun _ => (triple_replied_sendReplyMessage _ _ hu64).bind
        fun _ => Triple.bind ?_ fun _ => triple_replied_updateReplyAckFlag
    exact hk' (Keeps.modify fun _ => rfl)
  · -- GET_QUEUE_NUM, behind the MQ gate
    refine (hk Keeps.get).bind fun _ => ?_
    refine Triple.ite (fun _ => triple_replied_throw_bind _ _ (Nat.zero_le _)) fun _ => ?_
    exact (hk (keeps_checkRequestSize _ _ _)).bind fun _ =>
      (hk (hcb.keeps_callBackend _ _)).bind fun res => (hk (keeps_lift res)).bind fun _ =>
        triple_replied_sendReplyMessage _ _ hu64
  · -- GET_CONFIG, behind the CONFIG gate
    refine (hk Keeps.get).bind fun _ => ?_
    exact Triple.ite (fun _ => triple_replied_throw_bind _ _ (Nat.zero_le _))
      fun _ => triple_replied_getConfig _ _

end Replies

/-! ## The slave's loop -/

section Loop

/-- Reading a request writes nothing and acks nothing. -/
theorem Mute.consumed {t : Stream Fd} {plan : List SockStep} {h : SlaveReqHandler S}
    (hh : Mute t plan h) (fds : List Fd) (rest : Stream Fd) : Mute t plan (h.consumed fds rest) :=
  ⟨hh.1, hh.2.1, hh.2.2.acked, hh.2.2.flag⟩

variable [VhostUserSlaveReqHandler S]

/-- A failed handler stops at `check_state` and changes nothing. -/
theorem run_handleRequest_of_error_some (h : SlaveReqHandler S) {e : Int32}
    (herr : h.error = some e) :
    (handleRequest (S := S)).run h = .error (.err (.socketBroken (.os e))) h := by
  simp [handleRequest, checkState, checkFailed, herr]

/-- The slave has written nothing and acks nothing, its kernel reads in full,
and its unread input is harmless requests and then `post`. -/
def Serving (post : Stream Fd) (h : SlaveReqHandler S) : Prop :=
  Mute [] [] h ∧ h.mainSock.recvPlan = [] ∧
    ∃ pre, h.mainSock.rx = pre ++ post ∧ Frames Harmless pre

/-- What the dispatch needs to know of a harmless request: its code draws no
reply, and a `SET_PROTOCOL_FEATURES` body leaves REPLY_ACK out. -/
theorem Harmless.dispatch {hdr : VhostUserMsgHeader MasterReq} {body : List UInt8}
    {fds : List Fd} (hframe : Harmless (pack (Pod.toBytes hdr ++ body) fds)) :
    (∀ c, hdr.getCode = some c → Silent c) ∧
      (hdr.getCode = some .setProtocolFeatures →
        (Pod.ofBytes body : VhostUserU64).value &&& VhostUserProtocolFeatures.replyAck = 0) := by
  obtain ⟨-, code, hcode, hsilent, hacks⟩ := hframe
  rw [frameCode_pack] at hcode
  refine ⟨fun c hc => ?_, fun hc => ?_⟩
  · rw [hcode] at hc
    exact Option.some.inj hc ▸ hsilent
  · have hacked := hacks (Option.some.inj (hcode.symm.trans hc))
    rwa [ackedBy_pack] at hacked

/-- `handle_request` with a harmless request first in line reads it whole and
writes nothing; a failed handler does nothing at all. -/
theorem serving_handleRequest {post : Stream Fd} (h : SlaveReqHandler S) (hh : Serving post h)
    (hne : h.mainSock.rx ≠ post) : Serving post ((handleRequest (S := S)).run h).state := by
  obtain ⟨hmute, hplan, pre, hrx, hpre⟩ := hh
  cases herr : h.error with
  | some e =>
      rw [run_handleRequest_of_error_some h herr]
      exact ⟨hmute, hplan, pre, hrx, hpre⟩
  | none =>
      -- the input is not `post` alone, so a harmless request comes first
      cases hpre with
      | nil => exact absurd hrx hne
      | @cons frame rest hframe hrest =>
          obtain ⟨hdr, body, fds, rfl, hvalid, hsize, hfds, hkeep⟩ := hframe.1
          obtain ⟨hsilent, hacks⟩ := Harmless.dispatch hframe
          rw [List.append_assoc] at hrx
          rw [run_handleRequest_message h hdr body fds _ herr hrx hplan hvalid hsize hfds hkeep]
          have hmute' := preserves_mute_dispatchRequest hdr body.length body
            (if fds.isEmpty then none else some fds) hsilent hacks _ (hmute.consumed fds (rest ++ post))
          have hside := keeps_recvSide_dispatchRequest hdr body.length body
            (if fds.isEmpty then none else some fds) (h.consumed fds (rest ++ post))
          simp only [recvSide, consumed, Prod.mk.injEq] at hside
          exact ⟨hmute', hside.2.trans hplan, rest, hside.1, hrest⟩

/-- The slave has read everything and written at most `n` cells. -/
def Answered (n : Nat) (h : SlaveReqHandler S) : Prop :=
  Replied n h ∧ h.mainSock.recvPlan = [] ∧ h.mainSock.rx = []

/-- A whole `GET_` request. -/
def Asking (frame : Stream Fd) : Prop :=
  RequestFrame frame ∧ ∃ code, frameCode frame = some code ∧ code ∈ replyCodes

/-- The most the slave writes in answer to a request: a header and a body as
long as the request's, or the eight bytes of a `u64`. -/
def replyRoom (frame : Stream Fd) : Nat :=
  12 + max 8 (frame.length - 12)

theorem replyRoom_pack (hdr : VhostUserMsgHeader MasterReq) (body : List UInt8) (fds : List Fd) :
    replyRoom (pack (Pod.toBytes hdr ++ body) fds) = 12 + max 8 body.length := by
  simp [replyRoom, Pod.length_toBytes]

/-- The slave owes at most the reply to `F`: it has not reached `F` yet, or it
has answered. -/
def Owes (F : Stream Fd) (h : SlaveReqHandler S) : Prop :=
  Serving F h ∨ Answered (replyRoom F) h

/-- `handle_request` on a `GET_` request, the only input of a slave that has
written nothing: one reply at most, of the request's room. -/
theorem owes_handleRequest_of_asking {F : Stream Fd} (hF : Asking F) (h : SlaveReqHandler S)
    (hh : Serving F h) (hrx : h.mainSock.rx = F) : Owes F ((handleRequest (S := S)).run h).state := by
  obtain ⟨hmute, hplan, -⟩ := hh
  cases herr : h.error with
  | some e =>
      rw [run_handleRequest_of_error_some h herr]
      exact .inl ⟨hmute, hplan, [], hrx, .nil⟩
  | none =>
      obtain ⟨⟨hdr, body, fds, rfl, hvalid, hsize, hfds, hkeep⟩, code, hcode, hmem⟩ := hF
      rw [frameCode_pack] at hcode
      rw [← List.append_nil (pack _ _)] at hrx
      rw [run_handleRequest_message h hdr body fds [] herr hrx hplan hvalid hsize hfds hkeep]
      have hreplied := Triple.run_state (triple_replied_dispatchRequest_of_mem hdr
        body.length body (if fds.isEmpty then none else some fds) hcode hmem)
        (hmute.consumed fds []).replied
      have hside := keeps_recvSide_dispatchRequest hdr body.length body
        (if fds.isEmpty then none else some fds) (h.consumed fds [])
      simp only [recvSide, consumed, Prod.mk.injEq] at hside
      refine .inr ⟨?_, hside.2.trans hplan, hside.1⟩
      rw [replyRoom_pack]
      exact hreplied

/-- One round of the slave's loop keeps it owing at most the reply to `F`. -/
theorem owes_handleRequest {F : Stream Fd} (hF : Asking F) (h : SlaveReqHandler S) (hh : Owes F h)
    (hrx : h.mainSock.rx ≠ []) : Owes F ((handleRequest (S := S)).run h).state := by
  rcases hh with hserving | ⟨-, -, hnil⟩
  · by_cases hat : h.mainSock.rx = F
    · exact owes_handleRequest_of_asking hF h hserving hat
    · exact .inl (serving_handleRequest h hserving hat)
  · exact absurd hnil hrx

end Loop

end SlaveReqHandler

end Vhost.User
