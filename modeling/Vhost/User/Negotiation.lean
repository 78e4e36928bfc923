import Mathlib
import Vhost.Lib.Flags
import Vhost.User.SlaveFrame
import Vhost.User.DummySlave

/-!
# The slave's negotiation state

`SlaveReqHandler` answers set-type requests with an acknowledgement only while
`reply_ack_enabled` is on, and `update_reply_ack_flag` turns it on exactly when
the backend offered and the master acked `VHOST_USER_F_PROTOCOL_FEATURES`
(bit 30 of the virtio features) and `REPLY_ACK` (bit 3 of the protocol
features).  Four arms of `handle_request` write the feature fields, each after
its backend call and its reply and each followed by `update_reply_ack_flag`;
every other arm writes only through the socket and the backend.

So the flag agrees with the four bits in every state the handler can reach, and
a request that fails changes none of the five fields.  The proof reads each
flag test as a bit test, makes the last two steps of the four arms one
guarded step, and lifts the step property to runs by induction on reachability.
-/

namespace Vhost.User

/-- The negotiation fields of `SlaveReqHandler`. -/
structure Negotiation where
  virtioFeatures : UInt64
  ackedVirtioFeatures : UInt64
  protocolFeatures : UInt64
  ackedProtocolFeatures : UInt64
  replyAckEnabled : Bool
  deriving DecidableEq, Repr

namespace Negotiation

/-- Acknowledgements are agreed: `PROTOCOL_FEATURES` (bit 30) offered and acked,
and `REPLY_ACK` (bit 3) offered and acked. -/
def AcksAgreed (n : Negotiation) : Prop :=
  n.virtioFeatures.toNat.testBit 30 ∧ n.ackedVirtioFeatures.toNat.testBit 30 ∧
    n.protocolFeatures.toNat.testBit 3 ∧ n.ackedProtocolFeatures.toNat.testBit 3

instance : DecidablePred AcksAgreed := fun _ =>
  inferInstanceAs (Decidable (_ ∧ _ ∧ _ ∧ _))

/-- The flag says whether acknowledgements are agreed. -/
def Consistent (n : Negotiation) : Prop :=
  n.replyAckEnabled = true ↔ n.AcksAgreed

instance : DecidablePred Consistent := fun _ =>
  inferInstanceAs (Decidable (_ ↔ _))

/-- Setting the flag to whether acknowledgements are agreed makes it consistent. -/
theorem consistent_decide_acksAgreed (n : Negotiation) :
    Consistent { n with replyAckEnabled := decide n.AcksAgreed } :=
  decide_eq_true_iff

end Negotiation

-- The tests of `update_reply_ack_flag`, read as bit tests.
section FlagBits

theorem protocolFeaturesBit_eq : protocolFeaturesBit = UInt64.ofNat (2 ^ 30) := rfl

theorem replyAck_eq : VhostUserProtocolFeatures.replyAck = UInt64.ofNat (2 ^ 3) := rfl

theorem and_protocolFeaturesBit_bne_zero (word : UInt64) :
    (word &&& protocolFeaturesBit != 0) = word.toNat.testBit 30 := by
  rw [Bool.eq_iff_iff, bne_iff_ne, protocolFeaturesBit_eq]
  exact Flags.uInt64_and_two_pow_ne_zero_iff word (by norm_num)

theorem and_replyAck_bne_zero (word : UInt64) :
    (word &&& VhostUserProtocolFeatures.replyAck != 0) = word.toNat.testBit 3 := by
  rw [Bool.eq_iff_iff, bne_iff_ne, replyAck_eq]
  exact Flags.uInt64_and_two_pow_ne_zero_iff word (by norm_num)

theorem contains_replyAck (word : UInt64) :
    VhostUserProtocolFeatures.contains word VhostUserProtocolFeatures.replyAck =
      word.toNat.testBit 3 := by
  rw [VhostUserProtocolFeatures.contains, Bool.eq_iff_iff, beq_iff_eq, replyAck_eq]
  exact Flags.uInt64_and_two_pow_eq_iff word (by norm_num)

end FlagBits

namespace SlaveReqHandler

variable {S : Type}

/-- The handler's negotiation fields. -/
def negotiation (h : SlaveReqHandler S) : Negotiation :=
  ⟨h.virtioFeatures, h.ackedVirtioFeatures, h.protocolFeatures, h.ackedProtocolFeatures,
    h.replyAckEnabled⟩

/-- Neither the socket nor the backend shows the negotiation. -/
theorem handlerBlind_negotiation : HandlerBlind (negotiation (S := S)) :=
  ⟨fun _ _ => rfl, fun _ _ _ => rfl⟩

theorem consistent_new (mainSock : Sock) (backend : S) :
    (new mainSock backend).negotiation.Consistent := by
  show Negotiation.Consistent ⟨0, 0, 0, 0, false⟩
  decide


/-- `update_reply_ack_flag` sets the flag to whether acknowledgements are agreed. -/
theorem run_updateReplyAckFlag (h : SlaveReqHandler S) :
    (updateReplyAckFlag (S := S)).run h =
      .ok () { h with replyAckEnabled := decide h.negotiation.AcksAgreed } := by
  have hcond : (h.virtioFeatures &&& protocolFeaturesBit != 0 &&
      h.ackedVirtioFeatures &&& protocolFeaturesBit != 0 &&
      VhostUserProtocolFeatures.contains h.protocolFeatures VhostUserProtocolFeatures.replyAck &&
      h.ackedProtocolFeatures &&& VhostUserProtocolFeatures.replyAck != 0) =
        decide h.negotiation.AcksAgreed := by
    rw [and_protocolFeaturesBit_bne_zero, and_protocolFeaturesBit_bne_zero, contains_replyAck,
      and_replyAck_bne_zero, Bool.eq_iff_iff, decide_eq_true_iff]
    simp [negotiation, Negotiation.AcksAgreed, Bool.and_assoc]
  show EStateM.Result.ok () (if _ then _ else _) = _
  rw [hcond]
  cases decide h.negotiation.AcksAgreed <;> rfl

/-- After `update_reply_ack_flag` the flag agrees with the features, whatever it
was before. -/
theorem consistent_of_updateReplyAckFlag (h : SlaveReqHandler S) :
    ({ h with replyAckEnabled := decide h.negotiation.AcksAgreed } : SlaveReqHandler S)
      |>.negotiation.Consistent :=
  h.negotiation.consistent_decide_acksAgreed

/-- The last two steps of the four negotiation arms: write a feature field, then
update the flag.  They never raise and leave the flag consistent. -/
theorem guarded_modify_updateReplyAckFlag (g : SlaveReqHandler S → SlaveReqHandler S) :
    EStateM.Guarded negotiation Negotiation.Consistent
      (modify g >>= fun _ => updateReplyAckFlag (S := S)) :=
  EStateM.Guarded.of_returns fun h =>
    ⟨(), _, by rw [EStateM.run_bind]; exact run_updateReplyAckFlag (g h),
      consistent_of_updateReplyAckFlag (g h)⟩

variable [VhostUserSlaveReqHandler S]

/-- Every arm of `handle_request` is atomic for the negotiation and keeps the
flag consistent: the four negotiation arms write their field only after every
step that can fail, and the others never write it. -/
theorem guarded_dispatchRequest (hdr : VhostUserMsgHeader MasterReq) (size : Nat)
    (buf : List UInt8) (rfds : Option (List Fd)) :
    EStateM.Guarded (negotiation (S := S)) Negotiation.Consistent
      (dispatchRequest hdr size buf rfds) := by
  have hb := (handlerBlind_negotiation (S := S)).replyBlind
  by_cases hcode : ∀ c ∈ negotiationCodes, hdr.getCode ≠ some c
  · exact .of_keeps (hb.keeps_dispatchRequest hdr size buf rfds hcode)
  -- one of the four negotiation arms: its prefix keeps the negotiation
  obtain ⟨c, hc, heq⟩ : ∃ c ∈ negotiationCodes, hdr.getCode = some c := by simpa using hcode
  simp only [negotiationCodes, List.mem_cons, List.not_mem_nil, or_false] at hc
  unfold dispatchRequest
  rcases hc with rfl | rfl | rfl | rfl <;> rw [heq] <;> dsimp only
  · -- GET_FEATURES
    exact .bind (keeps_checkRequestSize _ _ _) fun _ => .bind (hb.keeps_callBackend _ _) fun res =>
      .bind (keeps_lift res) fun _ => .bind (keeps_sendReplyMessage hb.sendFrame _ _) fun _ =>
        guarded_modify_updateReplyAckFlag _
  · -- SET_FEATURES
    exact .bind (keeps_extractRequestBody _ _ _ _) fun _ => .bind (hb.keeps_callBackend _ _)
      fun res => .bind (keeps_lift res) fun _ => guarded_modify_updateReplyAckFlag _
  · -- GET_PROTOCOL_FEATURES
    exact .bind (keeps_checkRequestSize _ _ _) fun _ => .bind (hb.keeps_callBackend _ _) fun res =>
      .bind (keeps_lift res) fun _ => .bind (keeps_sendReplyMessage hb.sendFrame _ _) fun _ =>
        guarded_modify_updateReplyAckFlag _
  · -- SET_PROTOCOL_FEATURES
    exact .bind (keeps_extractRequestBody _ _ _ _) fun _ => .bind (hb.keeps_callBackend _ _)
      fun res => .bind (keeps_lift res) fun _ => guarded_modify_updateReplyAckFlag _

/-- One `handle_request`: the reads and checks before the dispatch keep the
negotiation, and the dispatch is guarded. -/
theorem guarded_handleRequest :
    EStateM.Guarded negotiation Negotiation.Consistent (handleRequest (S := S)) := by
  have hb := handlerBlind_negotiation (S := S)
  exact .bind keeps_checkState fun _ => .bind (keeps_recvHeader hb.sock.recvFrame) fun ⟨hdr, rfds⟩ =>
    .bind (keeps_checkAttachedRfds hb.sock.closeFrame hdr rfds) fun rfds =>
      .bind (keeps_readRequestBody hb.sock.recvFrame hdr) fun ⟨size, buf⟩ => guarded_dispatchRequest hdr size buf rfds

/-- The states a slave handler reaches: it is built, then requests are handled
one after another, whatever their outcome, while the master writes anything to
the socket, the backend changes its own state, and the owner marks the handler
failed. -/
inductive Reachable : SlaveReqHandler S → Prop
  | new (mainSock : Sock) (backend : S) : Reachable (new mainSock backend)
  | handleRequest {h : SlaveReqHandler S} :
      Reachable h → Reachable ((handleRequest (S := S)).run h).state
  | setSock {h : SlaveReqHandler S} (sock : Sock) :
      Reachable h → Reachable { h with mainSock := sock }
  | setBackend {h : SlaveReqHandler S} (backend : S) :
      Reachable h → Reachable { h with backend := backend }
  | setFailed {h : SlaveReqHandler S} (error : Int32) :
      Reachable h → Reachable (h.setFailed error)

/-- In every reachable state `reply_ack_enabled` agrees with the four feature
bits, and a request that fails, with an `Err` or otherwise, leaves all five
negotiation fields as they were. -/
theorem reachable_replyAck_consistent_failed_request_atomic {h : SlaveReqHandler S}
    (hr : Reachable h) :
    h.negotiation.Consistent ∧
      ∀ e h', (handleRequest (S := S)).run h = .error e h' → h'.negotiation = h.negotiation := by
  refine ⟨?_, guarded_handleRequest.onError h⟩
  -- induction on reachability: each step keeps the invariant
  induction hr with
  | new mainSock backend => exact consistent_new mainSock backend
  | handleRequest _ ih => exact guarded_handleRequest.preserves _ ih
  | setSock _ _ ih => exact ih
  | setBackend _ _ ih => exact ih
  | setFailed _ _ ih => exact ih

theorem reachable_replyAck_consistent_dummy_new :
    (new (Sock.ofStream []) DummySlaveReqHandler.new).negotiation.Consistent ∧
      ∀ e h', (handleRequest (S := DummySlaveReqHandler)).run
          (new (Sock.ofStream []) DummySlaveReqHandler.new) = .error e h' →
        h'.negotiation = (new (Sock.ofStream []) DummySlaveReqHandler.new).negotiation :=
  reachable_replyAck_consistent_failed_request_atomic (.new _ _)

end SlaveReqHandler

end Vhost.User
