import Mathlib
import Vhost.User.Config
import Vhost.User.Header
import Vhost.User.IoVec
import Vhost.User.Link
import Vhost.User.Untrusted

/-!
# GET_CONFIG across the connection

The master's `get_config` writes a config head and the caller's buffer, and
then reads the reply with `recv_reply_with_payload`, which sizes the buffer it
reads into from the master's own request, before it has seen the reply's size.
The slave answers with the backend's bytes when the backend returns as many as
were asked for, and otherwise with a config head of size zero and no payload.

Joined to the slave over one connection (`Link`), the master gets the backend's
bytes back in the first case.  In the second the reply is shorter than what the
master waits for: it reads the twenty-four bytes there are and then waits for
the rest, which the slave never sends.
-/

namespace Vhost.User

open ByteStream

/-! ## The master on any kernel -/

namespace MasterInternal

variable {E : Type}

theorem run_checkState_of_error_none (m : MasterInternal E) (herr : m.error = none) :
    (checkState (E := E)).run m = .ok () m := by
  simp [checkState, checkFailed, herr]

variable [Os E]

theorem os_sendmsg (m : MasterInternal E) (data : List UInt8) (fds : List Fd) :
    Os.sendmsg m data fds =
      ((Os.sendmsg m.mainSock data fds).1, { m with mainSock := (Os.sendmsg m.mainSock data fds).2 }) :=
  rfl

theorem os_recvmsg (m : MasterInternal E) (want room : Nat) :
    Os.recvmsg m want room =
      ((Os.recvmsg m.mainSock want room).1,
        { m with mainSock := (Os.recvmsg m.mainSock want room).2 }) :=
  rfl

/-- `send_request_with_payload` with no descriptors, on a kernel that takes the
whole request at once. -/
theorem run_sendRequestWithPayload_of_sendmsg {T P : Type} [Pod T] [Pod P] (m : MasterInternal E)
    (herr : m.error = none) (code : MasterReq) (msg : T) (payload : List P) {e₁ : E}
    (hsize : Pod.size T + payload.length * Pod.size P ≤ maxMsgSize)
    (hsend : Os.sendmsg m.mainSock (Pod.toBytes (newRequestHeader code
        (UInt32.ofNat (Pod.size T + payload.length * Pod.size P))) ++
      Pod.toBytes msg ++ Pod.listBytes payload) [] =
      (.ok (12 + Pod.size T + payload.length * Pod.size P), e₁)) :
    (sendRequestWithPayload (E := E) code msg payload none).run m =
      .ok (newRequestHeader code (UInt32.ofNat (Pod.size T + payload.length * Pod.size P)))
        { m with mainSock := e₁ } := by
  have hwrite := run_sendMessageWithPayload_of_sendmsg (σ := MasterInternal E) (s := m)
    (newRequestHeader code (UInt32.ofNat (Pod.size T + payload.length * Pod.size P))) msg payload
    none (by omega) (fun _ hfds => by cases hfds) (by rw [os_sendmsg, Option.getD_none, hsend])
  simp only [sendRequestWithPayload, if_neg (Nat.not_lt.2 hsize), EStateM.run_bind,
    run_checkState_of_error_none m herr, hwrite]
  rfl

/-- `recv_reply_with_payload::<T>` on a kernel whose first `recvmsg` brings a
whole reply to `hdr`: a reply header with the size of the request, a valid `T`
and the payload. -/
theorem run_recvReplyWithPayload_of_recvmsg {T : Type} [Pod T] [VhostUserMsgValidator T]
    (m : MasterInternal E) (herr : m.error = none) {hdr : VhostUserMsgHeader MasterReq}
    {code : MasterReq} (hcode : hdr.getCode = some code) (hreq : hdr.isReply = false)
    (hvalidCode : Req.isValid code = true) (body : T)
    (hbody : VhostUserMsgValidator.isValid body = true) (payload : List UInt8)
    (hsize : hdr.getSize.toNat = Pod.size T + payload.length)
    (hfits : Pod.size T + payload.length ≤ maxMsgSize) {e₂ : E}
    (hread : Os.recvmsg m.mainSock (12 + (Pod.size T + payload.length)) maxAttachedFdEntries =
      (some (.ok (Pod.toBytes (VhostUserMsgHeader.new code VhostUserHeaderFlag.reply
          (UInt32.ofNat (Pod.size T + payload.length))) ++ Pod.toBytes body ++ payload, [])), e₂)) :
    (recvReplyWithPayload (E := E) T hdr).run m = .ok (body, payload, none) { m with mainSock := e₂ } := by
  have hreplySize : (UInt32.ofNat (Pod.size T + payload.length)).toNat = Pod.size T + payload.length :=
    UInt32.toNat_ofNat_of_lt' (show _ < 2 ^ 32 by simp only [maxMsgSize] at hfits; omega)
  have hreply : (VhostUserMsgHeader.new code VhostUserHeaderFlag.reply
      (UInt32.ofNat (Pod.size T + payload.length))).isValid = some true := by
    rw [VhostUserMsgHeader.isValid_new, hvalidCode, hreplySize]
    simpa using hfits
  have hbuf : (List.replicate (hdr.getSize.toNat - Pod.size T) (0 : UInt8)).length = payload.length := by
    rw [List.length_replicate, hsize]
    omega
  have hpayload := run_recvPayloadIntoBuf_of_recvmsg (σ := MasterInternal E) (s := m)
    (List.replicate (hdr.getSize.toNat - Pod.size T) (0 : UInt8)) _ body payload [] hbuf.symm
    (by rw [os_recvmsg, hbuf, hread]) hreply hbody
  have hfor := VhostUserMsgHeader.isReplyFor_new_reply hcode hreq
    (UInt32.ofNat (Pod.size T + payload.length))
  have hsmall : ¬ (Pod.size T > maxMsgSize || hdr.isReply) = true := by
    simp only [hreq, Bool.or_false, decide_eq_true_eq]
    omega
  have hlarge : ¬ hdr.getSize.toNat < Pod.size T := by omega
  have hgetSize : (VhostUserMsgHeader.new code VhostUserHeaderFlag.reply
      (UInt32.ofNat (Pod.size T + payload.length))).getSize.toNat = Pod.size T + payload.length :=
    hreplySize
  generalize VhostUserMsgHeader.new code VhostUserHeaderFlag.reply
    (UInt32.ofNat (Pod.size T + payload.length)) = reply at hpayload hfor hgetSize
  simp only [recvReplyWithPayload, if_neg hsmall, EStateM.run_bind, run_checkState_of_error_none m herr,
    if_neg hlarge, hpayload]
  -- the reply answers the request, with its size, no descriptor and a valid body
  have hroom : ¬ maxMsgSize - Pod.size T < payload.length := by omega
  simp [replyFor, hfor, hgetSize, hbuf, hbody, hroom]

/-- `recv_reply_with_payload::<T>` whose first read stops short of the length
the request announced, and whose read of the rest blocks for ever. -/
theorem run_recvReplyWithPayload_of_partial_of_blocks {T : Type} [Pod T]
    [VhostUserMsgValidator T] (m : MasterInternal E) (herr : m.error = none)
    {hdr : VhostUserMsgHeader MasterReq} (hreq : hdr.isReply = false)
    (hT : Pod.size T ≤ maxMsgSize) (hbody : Pod.size T ≤ hdr.getSize.toNat) {data : List UInt8}
    {fds : List Fd} {e₁ e₂ : E}
    (hread : Os.recvmsg m.mainSock (12 + hdr.getSize.toNat) maxAttachedFdEntries =
      (some (.ok (data, fds)), e₁))
    (hpos : 0 < data.length) (hshort : data.length < 12 + hdr.getSize.toNat)
    (hblock : Os.recvmsg e₁ (12 + hdr.getSize.toNat - data.length) maxAttachedFdEntries =
      (none, e₂)) :
    (recvReplyWithPayload (E := E) T hdr).run m = .error .diverges { m with mainSock := e₂ } := by
  have hwant : 12 + (Pod.size T + (List.replicate (hdr.getSize.toNat - Pod.size T) (0 : UInt8)).length) =
      12 + hdr.getSize.toNat := by
    rw [List.length_replicate]
    omega
  have hpayload := run_recvPayloadIntoBuf_of_partial_of_blocks (σ := MasterInternal E)
    (R := MasterReq) (T := T) (s := m)
    (List.replicate (hdr.getSize.toNat - Pod.size T) (0 : UInt8))
    (by rw [os_recvmsg, hwant, hread]) hpos (by rw [hwant]; exact hshort)
    (by rw [os_recvmsg, hwant, hblock])
  have hsmall : ¬ (Pod.size T > maxMsgSize || hdr.isReply) = true := by
    simp only [hreq, Bool.or_false, decide_eq_true_eq]
    omega
  simp only [recvReplyWithPayload, if_neg hsmall, EStateM.run_bind, run_checkState_of_error_none m herr,
    if_neg (Nat.not_lt.2 hbody), hpayload]

end MasterInternal

/-! ## The master's `get_config` on any kernel -/

namespace Master

open MasterInternal

variable {E : Type} [Os E]

/-- The request of `get_config`, written whole: the master goes on to read the
reply into a buffer as long as its own payload. -/
theorem run_sendRequestWithPayload_getConfig (m : MasterInternal E) (herr : m.error = none)
    (offset size flags : UInt32) (buf : List UInt8) (hfits : 12 + buf.length ≤ maxMsgSize)
    {e₁ : E}
    (hsend : Os.sendmsg m.mainSock (configMessage .getConfig offset size flags buf) [] =
      (.ok (configMessage .getConfig offset size flags buf).length, e₁)) :
    (sendRequestWithPayload (E := E) .getConfig (VhostUserConfig.new offset size flags) buf none).run m =
      .ok (configHeader .getConfig buf) { m with mainSock := e₁ } := by
  have hbytes : Pod.toBytes (newRequestHeader .getConfig (UInt32.ofNat
      (Pod.size VhostUserConfig + buf.length * Pod.size UInt8))) ++
      Pod.toBytes (VhostUserConfig.new offset size flags) ++ Pod.listBytes buf =
      configMessage .getConfig offset size flags buf := by
    simp [configMessage, configHeader, configBody, Pod.listBytes_uInt8]
  have hlen : (configMessage .getConfig offset size flags buf).length =
      12 + Pod.size VhostUserConfig + buf.length * Pod.size UInt8 := by
    simp [configMessage, configBody]
    omega
  have hrun := run_sendRequestWithPayload_of_sendmsg m herr .getConfig
    (VhostUserConfig.new offset size flags) buf (by simpa using hfits)
    (by rw [hbytes, hsend, hlen])
  simpa [configHeader] using hrun

/-- A config head the check accepts asks for at least one byte. -/
theorem size_ne_zero_of_isValid {offset size flags : UInt32}
    (hvalid : VhostUserMsgValidator.isValid (VhostUserConfig.new offset size flags) = true) :
    size ≠ 0 := by
  intro hzero
  have hpos := ((isValid_config_iff offset size flags).1 hvalid).2.1
  simp [hzero] at hpos

/-- `get_config` when the reply brings back the head the master sent and as
many bytes as it asked for: the head and the bytes are returned. -/
theorem run_getConfig_of_reply (m : MasterInternal E) (herr : m.error = none)
    (offset size flags : UInt32) (buf : List UInt8)
    (hvalid : VhostUserMsgValidator.isValid (VhostUserConfig.new offset size flags) = true)
    (hconfig : m.ackedProtocolFeatures &&& VhostUserProtocolFeatures.config ≠ 0)
    (hbuf : buf.length = size.toNat) (hfits : 12 + buf.length ≤ maxMsgSize) {e₁ e₂ : E}
    (hsend : Os.sendmsg m.mainSock (configMessage .getConfig offset size flags buf) [] =
      (.ok (configMessage .getConfig offset size flags buf).length, e₁))
    (data : List UInt8) (hdata : data.length = buf.length)
    (hread : Os.recvmsg e₁ (12 + (12 + data.length)) maxAttachedFdEntries =
      (some (.ok (Pod.toBytes (VhostUserMsgHeader.new MasterReq.getConfig VhostUserHeaderFlag.reply
          (UInt32.ofNat (12 + data.length))) ++ Pod.toBytes (VhostUserConfig.new offset size flags) ++
          data, [])), e₂)) :
    (getConfig (E := E) offset size flags buf).run m =
      .ok (VhostUserConfig.new offset size flags, data) { m with mainSock := e₂ } := by
  have hreq := run_sendRequestWithPayload_getConfig m herr offset size flags buf hfits hsend
  have hsizeReq : (configHeader .getConfig buf).getSize.toNat = Pod.size VhostUserConfig + data.length := by
    rw [getSize_configHeader .getConfig (by simpa using hfits) offset size flags, length_configBody,
      hdata]
  have hrecv : (recvReplyWithPayload (E := E) VhostUserConfig (configHeader .getConfig buf)).run
      { m with mainSock := e₁ } =
      .ok (VhostUserConfig.new offset size flags, data, none)
        { { m with mainSock := e₁ } with mainSock := e₂ } :=
    run_recvReplyWithPayload_of_recvmsg { m with mainSock := e₁ } herr
    (getCode_newRequestHeader _ _) (isReply_newRequestHeader _ _) (by decide)
    (VhostUserConfig.new offset size flags) hvalid data hsizeReq (by rw [hdata]; simpa using hfits)
    hread
  simp only [getConfig, hvalid, Bool.not_true, Bool.false_eq_true, if_false, EStateM.run_bind]
  rw [show (get : Prog (MasterInternal E) _).run m = .ok m m from rfl]
  dsimp only
  rw [if_neg hconfig]
  simp only [EStateM.run_bind, hreq, hrecv]
  -- the head comes back as sent: a size that is not zero and matches the buffer
  have hsize := size_ne_zero_of_isValid hvalid
  simp [VhostUserConfig.new, hsize, hbuf]

/-- `get_config` when the first read brings less than the head and the bytes
asked for, and nothing more ever comes: the master never returns. -/
theorem run_getConfig_of_short_reply (m : MasterInternal E) (herr : m.error = none)
    (offset size flags : UInt32) (buf : List UInt8)
    (hvalid : VhostUserMsgValidator.isValid (VhostUserConfig.new offset size flags) = true)
    (hconfig : m.ackedProtocolFeatures &&& VhostUserProtocolFeatures.config ≠ 0)
    (hfits : 12 + buf.length ≤ maxMsgSize) {e₁ e₂ e₃ : E}
    (hsend : Os.sendmsg m.mainSock (configMessage .getConfig offset size flags buf) [] =
      (.ok (configMessage .getConfig offset size flags buf).length, e₁))
    {data : List UInt8} {fds : List Fd}
    (hread : Os.recvmsg e₁ (12 + (12 + buf.length)) maxAttachedFdEntries =
      (some (.ok (data, fds)), e₂))
    (hpos : 0 < data.length) (hshort : data.length < 12 + (12 + buf.length))
    (hblock : Os.recvmsg e₂ (12 + (12 + buf.length) - data.length) maxAttachedFdEntries =
      (none, e₃)) :
    (getConfig (E := E) offset size flags buf).run m = .error .diverges { m with mainSock := e₃ } := by
  have hreq := run_sendRequestWithPayload_getConfig m herr offset size flags buf hfits hsend
  have hsizeReq : (configHeader .getConfig buf).getSize.toNat = 12 + buf.length := by
    rw [getSize_configHeader .getConfig (by simpa using hfits) offset size flags, length_configBody,
      Pod.size_vhostUserConfig]
  have hrecv : (recvReplyWithPayload (E := E) VhostUserConfig (configHeader .getConfig buf)).run
      { m with mainSock := e₁ } = .error .diverges { { m with mainSock := e₁ } with mainSock := e₃ } :=
    run_recvReplyWithPayload_of_partial_of_blocks { m with mainSock := e₁ } herr
      (show (configHeader .getConfig buf).isReply = false from isReply_newRequestHeader _ _) (by decide) (by rw [hsizeReq]; simp)
      (by rw [hsizeReq]; exact hread) hpos (by rw [hsizeReq]; exact hshort)
      (by rw [hsizeReq]; exact hblock)
  simp only [getConfig, hvalid, Bool.not_true, Bool.false_eq_true, if_false, EStateM.run_bind]
  rw [show (get : Prog (MasterInternal E) _).run m = .ok m m from rfl]
  dsimp only
  rw [if_neg hconfig]
  simp only [EStateM.run_bind, hreq, hrecv]

/-- `get_config` of a buffer too long for one message: refused before anything
is sent. -/
theorem run_getConfig_of_too_long (m : MasterInternal E) (offset size flags : UInt32)
    (buf : List UInt8)
    (hvalid : VhostUserMsgValidator.isValid (VhostUserConfig.new offset size flags) = true)
    (hconfig : m.ackedProtocolFeatures &&& VhostUserProtocolFeatures.config ≠ 0)
    (hlong : maxMsgSize < 12 + buf.length) :
    (getConfig (E := E) offset size flags buf).run m = .error (.err .invalidParam) m := by
  simp only [getConfig, hvalid, Bool.not_true, Bool.false_eq_true, if_false, EStateM.run_bind]
  rw [show (get : Prog (MasterInternal E) _).run m = .ok m m from rfl]
  dsimp only
  rw [if_neg hconfig]
  simp [sendRequestWithPayload, hlong]

end Master

/-! ## The slave's answer -/

/-- What the slave writes in answer to GET_CONFIG, given what the backend
returned: its bytes under a head with their length, when there are as many as
were asked for, and otherwise a head of size zero and no payload. -/
def configReply (offset size flags : UInt32) (res : Except Error (List UInt8)) : List UInt8 :=
  match res with
  | .ok data =>
      if data.length = size.toNat then
        Pod.toBytes (VhostUserMsgHeader.new MasterReq.getConfig VhostUserHeaderFlag.reply
          (UInt32.ofNat (12 + data.length))) ++
          Pod.toBytes (VhostUserConfig.new offset (UInt32.ofNat data.length) flags) ++ data
      else emptyConfigReply
  | .error _ => emptyConfigReply
where
  emptyConfigReply : List UInt8 :=
    Pod.toBytes (VhostUserMsgHeader.new MasterReq.getConfig VhostUserHeaderFlag.reply
      (UInt32.ofNat 12)) ++ Pod.toBytes (VhostUserConfig.new offset 0 flags)

/-- The backend's bytes, when there are as many as were asked for, go back
under the head the master sent. -/
theorem configReply_of_length (offset size flags : UInt32) {data : List UInt8}
    (hdata : data.length = size.toNat) :
    configReply offset size flags (.ok data) =
      Pod.toBytes (VhostUserMsgHeader.new MasterReq.getConfig VhostUserHeaderFlag.reply
        (UInt32.ofNat (12 + data.length))) ++
        Pod.toBytes (VhostUserConfig.new offset size flags) ++ data := by
  have hsize : UInt32.ofNat data.length = size := by
    rw [hdata, UInt32.ofNat_toNat]
  rw [configReply, if_pos hdata, hsize]

/-- Every other answer of the backend is the head of size zero. -/
theorem configReply_of_not_length (offset size flags : UInt32) {res : Except Error (List UInt8)}
    (hres : ∀ data, res = .ok data → data.length ≠ size.toNat) :
    configReply offset size flags res = configReply.emptyConfigReply offset flags := by
  cases res with
  | error e => rfl
  | ok data => exact if_neg (hres data rfl)

theorem length_emptyConfigReply (offset flags : UInt32) :
    (configReply.emptyConfigReply offset flags).length = 24 := by
  simp [configReply.emptyConfigReply]

namespace SlaveReqHandler

open MasterInternal Master

variable {S : Type}

theorem run_newReplyHeader_of_getCode (T : Type) [Pod T] (h : SlaveReqHandler S)
    {req : VhostUserMsgHeader MasterReq} {code : MasterReq} (hcode : req.getCode = some code)
    (payloadSize : Nat) (hT : Pod.size T ≤ maxMsgSize) (herr : h.error = none) :
    (newReplyHeader T req payloadSize).run h =
      .ok (VhostUserMsgHeader.new code VhostUserHeaderFlag.reply
        (UInt32.ofNat (Pod.size T + payloadSize))) h := by
  unfold newReplyHeader
  rw [if_neg (Nat.not_lt.2 hT)]
  simp only [EStateM.run_bind, run_checkState_of_error_none h herr, hcode]
  rfl

/-- `send_reply_message` on a socket that takes every write whole. -/
theorem run_sendReplyMessage_of_getCode {T : Type} [Pod T] (h : SlaveReqHandler S)
    {req : VhostUserMsgHeader MasterReq} {code : MasterReq} (hcode : req.getCode = some code)
    (msg : T) (hT : Pod.size T ≤ maxMsgSize) (herr : h.error = none)
    (hplan : h.mainSock.sendPlan = []) :
    (sendReplyMessage req msg).run h =
      .ok ()
        { h with
          mainSock := h.mainSock.afterSend
            (Pod.toBytes (VhostUserMsgHeader.new code VhostUserHeaderFlag.reply
              (UInt32.ofNat (Pod.size T + 0))) ++ Pod.toBytes msg) [] } := by
  simp only [sendReplyMessage, EStateM.run_bind, run_newReplyHeader_of_getCode T h hcode 0 hT herr]
  exact run_sendMessage_of_sendPlan_nil h _ msg none hplan

/-- `send_reply_with_payload` of a payload that fits in a message. -/
theorem run_sendReplyWithPayload_of_getCode {T P : Type} [Pod T] [Pod P] (h : SlaveReqHandler S)
    {req : VhostUserMsgHeader MasterReq} {code : MasterReq} (hcode : req.getCode = some code)
    (msg : T) (payload : List P) (hT : Pod.size T ≤ maxMsgSize)
    (hpayload : payload.length * Pod.size P ≤ maxMsgSize - Pod.size T) (herr : h.error = none)
    (hplan : h.mainSock.sendPlan = []) :
    (sendReplyWithPayload req msg payload).run h =
      .ok ()
        { h with
          mainSock := h.mainSock.afterSend
            (Pod.toBytes (VhostUserMsgHeader.new code VhostUserHeaderFlag.reply
              (UInt32.ofNat (Pod.size T + payload.length))) ++ Pod.toBytes msg ++
              Pod.listBytes payload) [] } := by
  simp only [sendReplyWithPayload, EStateM.run_bind,
    run_newReplyHeader_of_getCode T h hcode payload.length hT herr]
  exact run_sendMessageWithPayload_of_sendPlan_nil h _ msg payload none hpayload
    (fun _ hfds => by cases hfds) hplan

variable [VhostUserSlaveReqHandler S]

/-- `get_config` on a body the master wrote: the backend is asked for the
config, and `configReply` of its answer is written back. -/
theorem run_getConfig_configBody (h : SlaveReqHandler S) {hdr : VhostUserMsgHeader MasterReq}
    (hcode : hdr.getCode = some .getConfig) (offset size flags : UInt32) (payload : List UInt8)
    (hvalid : VhostUserMsgValidator.isValid (VhostUserConfig.new offset size flags) = true)
    (hpayload : payload.length = size.toNat) (hfits : 12 + payload.length ≤ maxMsgSize)
    (herr : h.error = none) (hplan : h.mainSock.sendPlan = []) :
    (getConfig hdr (configBody offset size flags payload)).run h =
      .ok ()
        { h with
          backend := (VhostUserSlaveReqHandler.getConfig offset size flags h.backend).2
          calls := h.calls ++ [.getConfig offset size flags]
          mainSock := h.mainSock.afterSend (configReply offset size flags
            (VhostUserSlaveReqHandler.getConfig offset size flags h.backend).1) [] } := by
  have hcast : (castBuf (σ := SlaveReqHandler S) (configBody offset size flags payload)).run h =
      .ok (VhostUserConfig.new offset size flags) h := by
    simp [castBuf, configBody, Pod.ofBytes_toBytes_append]
  have hflags : VhostUserConfigFlags.fromBits (VhostUserConfig.new offset size flags).flags =
      some flags := fromBits_of_isValid hvalid
  have hlen : (configBody offset size flags payload).length - Pod.size VhostUserConfig =
      (VhostUserConfig.new offset size flags).size.toNat := by
    rw [length_configBody, hpayload]
    simp [VhostUserConfig.new]
  -- backend bytes of the length asked for fit in the reply
  have hroom : ∀ data : List UInt8, data.length = size.toNat →
      data.length * Pod.size UInt8 ≤ maxMsgSize - Pod.size VhostUserConfig := by
    intro data hdata
    simp only [Pod.size_uInt8, Pod.size_vhostUserConfig, Nat.mul_one, maxMsgSize] at hfits ⊢
    omega
  have hoffset : (VhostUserConfig.new offset size flags).offset = offset := rfl
  have hsize : (VhostUserConfig.new offset size flags).size = size := rfl
  simp only [getConfig, EStateM.run_bind, hcast]
  rw [hvalid, if_neg (by simp), if_neg (by rw [hlen]; simp), hflags, hoffset, hsize]
  dsimp only
  rw [EStateM.run_bind, show (pure flags : Prog (SlaveReqHandler S) UInt32).run h = .ok flags h from rfl]
  dsimp only
  rw [EStateM.run_bind, run_callBackend]
  dsimp only
  -- the reply follows the backend's answer
  generalize VhostUserSlaveReqHandler.getConfig offset size flags h.backend = answer
  obtain ⟨res, backend⟩ := answer
  cases res with
  | ok data =>
      dsimp only
      by_cases hdata : data.length = size.toNat
      · rw [if_pos hdata, run_sendReplyWithPayload_of_getCode
          { h with backend := backend, calls := h.calls ++ [.getConfig offset size flags] } hcode _
          data (by decide) (hroom data hdata) herr hplan]
        simp [configReply, hdata, Pod.listBytes_uInt8]
      · rw [if_neg hdata, run_sendReplyMessage_of_getCode
          { h with backend := backend, calls := h.calls ++ [.getConfig offset size flags] } hcode _
          (by decide) herr hplan]
        simp [configReply, hdata, configReply.emptyConfigReply]
  | error e =>
      dsimp only
      rw [run_sendReplyMessage_of_getCode
        { h with backend := backend, calls := h.calls ++ [.getConfig offset size flags] } hcode _
        (by decide) herr hplan]
      simp [configReply, configReply.emptyConfigReply]

/-- GET_CONFIG through `handle_request`, with CONFIG acked, on a stream that
starts with the request the master wrote: the slave reads it whole and writes
`configReply` of the backend's answer. -/
theorem run_handleRequest_getConfigMessage (h : SlaveReqHandler S) (offset size flags : UInt32)
    (payload : List UInt8) (rest : Stream Fd) (herr : h.error = none)
    (hrplan : h.mainSock.recvPlan = []) (hsplan : h.mainSock.sendPlan = [])
    (hrx : h.mainSock.rx = pack (configMessage .getConfig offset size flags payload) [] ++ rest)
    (hconfig : h.ackedProtocolFeatures &&& VhostUserProtocolFeatures.config ≠ 0)
    (hvalid : VhostUserMsgValidator.isValid (VhostUserConfig.new offset size flags) = true)
    (hpayload : payload.length = size.toNat) (hfits : 12 + payload.length ≤ maxMsgSize) :
    (handleRequest (S := S)).run h =
      .ok ()
        { h.consumed [] rest with
          backend := (VhostUserSlaveReqHandler.getConfig offset size flags h.backend).2
          calls := h.calls ++ [.getConfig offset size flags]
          mainSock := (h.consumed [] rest).mainSock.afterSend (configReply offset size flags
            (VhostUserSlaveReqHandler.getConfig offset size flags h.backend).1) [] } := by
  have hsize : Pod.size VhostUserConfig + payload.length ≤ maxMsgSize := by simpa using hfits
  have hget := getSize_configHeader .getConfig hsize offset size flags
  have hcode : (configHeader .getConfig payload).getCode = some .getConfig :=
    getCode_newRequestHeader _ _
  rw [run_handleRequest_message h (configHeader .getConfig payload) _ [] rest herr hrx hrplan
    (isValid_configHeader (by decide) hsize) hget (by simp) (Or.inl rfl),
    run_dispatchRequest_getConfig (h.consumed [] rest) _ _ _ hcode hconfig]
  exact run_getConfig_configBody (h.consumed [] rest) hcode offset size flags payload hvalid
    hpayload hfits herr hsplan

end SlaveReqHandler

/-! ## Over one connection -/

section Connection

open Link Responder SlaveReqHandler Master

variable {S : Type} [VhostUserSlaveReqHandler S]

/-- The master's first read after its GET_CONFIG request reached a fresh slave:
the slave serves it, and the read takes the whole reply; every later read
blocks for ever, as the slave, alive, has nothing more to send. -/
theorem recvmsg_after_getConfig_request (h : SlaveReqHandler S) (offset size flags : UInt32)
    (buf : List UInt8) (herr : h.error = none)
    (hconfig : h.ackedProtocolFeatures &&& VhostUserProtocolFeatures.config ≠ 0)
    (hrx : h.mainSock.rx = []) (htx : h.mainSock.tx = []) (hrplan : h.mainSock.recvPlan = [])
    (hsplan : h.mainSock.sendPlan = [])
    (hvalid : VhostUserMsgValidator.isValid (VhostUserConfig.new offset size flags) = true)
    (hbuf : buf.length = size.toNat) (hfits : 12 + buf.length ≤ maxMsgSize) (want room : Nat)
    (hwant : (configReply offset size flags
      (VhostUserSlaveReqHandler.getConfig offset size flags h.backend).1).length ≤ want) :
    ∃ l₂, Os.recvmsg (deliver { connect h with
        sock := (connect h).sock.afterSend (configMessage .getConfig offset size flags buf) [] })
        want room =
      (some (.ok (configReply offset size flags
        (VhostUserSlaveReqHandler.getConfig offset size flags h.backend).1, [])), l₂) ∧
      ∀ want', ∃ l₃, Os.recvmsg l₂ want' room = (none, l₃) := by
  set l := deliver { connect h with
    sock := (connect h).sock.afterSend (configMessage .getConfig offset size flags buf) [] } with hl
  -- the request waits, whole, in the slave's queue
  have hqueue : l.peer.mainSock.rx = pack (configMessage .getConfig offset size flags buf) [] ++ [] := by
    simp [hl, deliver, connect, Sock.ofStream, hrx]
  have hpeer : l.peer.error = none ∧ l.peer.mainSock.recvPlan = [] ∧
      l.peer.mainSock.sendPlan = [] ∧ l.peer.mainSock.tx = [] := by
    simp [hl, deliver, connect, herr, hrplan, hsplan, htx]
  have hserve := run_handleRequest_getConfigMessage l.peer offset size flags buf [] hpeer.1
    hpeer.2.1 hpeer.2.2.1 hqueue hconfig hvalid hbuf hfits
  have hpending : (endpoint l.peer).rx ≠ [] := by
    rw [endpoint_slaveReqHandler, hqueue, List.append_nil, ← List.length_pos_iff, length_pack]
    simp [configMessage]
  -- the slave's reply is all it writes
  have hsilent : (l.peer.consumed [] []).mainSock.tx = [] := hpeer.2.2.2
  have hbackend : l.peer.backend = h.backend := rfl
  have hreply : configReply offset size flags
      (VhostUserSlaveReqHandler.getConfig offset size flags h.backend).1 ≠ [] := by
    unfold configReply
    split
    · split <;> simp [configReply.emptyConfigReply, toBytes_header_ne_nil]
    · simp [configReply.emptyConfigReply, toBytes_header_ne_nil]
  have hread := recvmsg_of_answered want room rfl hpending hserve
    (by simp [SlaveReqHandler.consumed, Sock.afterSend])
    (by simpa [Sock.afterSend, hsilent, hbackend, ← List.length_pos_iff] using hreply) rfl rfl
  simp only [endpoint_slaveReqHandler, Sock.afterSend, hsilent, hbackend, List.nil_append, take_pack,
    List.take_of_length_le hwant, bytes_pack, attached_pack_nil_items, List.take_nil] at hread
  refine ⟨_, hread, fun want' => ⟨_, recvmsg_of_idle _ want' room rfl ?_ ?_ ?_ rfl⟩⟩
  · simp [SlaveReqHandler.consumed]
  · simp
  · exact List.drop_eq_nil_of_le (by simpa using hwant)

/-- GET_CONFIG from a master to a slave over a fresh connection, with CONFIG
acked on both sides and a config head the check accepts. A request too long for
one message is refused before it is sent. Otherwise, when the backend returns
as many bytes as were asked for, the master returns them under its own head;
on any other answer of the backend the slave writes a head of size zero and no
payload, and the master, which sized its read from its own request, waits for
the missing payload for ever. -/
theorem getConfig_waits_for_payload_slave_never_sends
    (m : MasterInternal (Link (SlaveReqHandler S))) (h : SlaveReqHandler S)
    (offset size flags : UInt32) (buf : List UInt8) (hlink : m.mainSock = connect h)
    (herr : m.error = none)
    (hmconfig : m.ackedProtocolFeatures &&& VhostUserProtocolFeatures.config ≠ 0)
    (hserr : h.error = none)
    (hconfig : h.ackedProtocolFeatures &&& VhostUserProtocolFeatures.config ≠ 0)
    (hrx : h.mainSock.rx = []) (htx : h.mainSock.tx = []) (hrplan : h.mainSock.recvPlan = [])
    (hsplan : h.mainSock.sendPlan = [])
    (hvalid : VhostUserMsgValidator.isValid (VhostUserConfig.new offset size flags) = true)
    (hbuf : buf.length = size.toNat) :
    (maxMsgSize < 12 + buf.length →
      (getConfig offset size flags buf).run m = .error (.err .invalidParam) m) ∧
    (12 + buf.length ≤ maxMsgSize → ∀ data,
      (VhostUserSlaveReqHandler.getConfig offset size flags h.backend).1 = .ok data →
      data.length = size.toNat →
      ∃ m', (getConfig offset size flags buf).run m =
        .ok (VhostUserConfig.new offset size flags, data) m') ∧
    (12 + buf.length ≤ maxMsgSize →
      (∀ data, (VhostUserSlaveReqHandler.getConfig offset size flags h.backend).1 = .ok data →
        data.length ≠ size.toNat) →
      ∃ m', (getConfig offset size flags buf).run m = .error .diverges m') := by
  have hsend : Os.sendmsg m.mainSock (configMessage .getConfig offset size flags buf) [] =
      (.ok (configMessage .getConfig offset size flags buf).length,
        deliver { connect h with
          sock := (connect h).sock.afterSend (configMessage .getConfig offset size flags buf) [] }) := by
    rw [hlink]
    exact sendmsg_of_sendPlan_nil (connect h) _ [] rfl
  constructor
  · intro hlong
    exact run_getConfig_of_too_long m offset size flags buf hvalid hmconfig hlong
  constructor
  · intro hfits data hres hdata
    have hreply := configReply_of_length offset size flags hdata
    obtain ⟨l₂, hread, -⟩ := recvmsg_after_getConfig_request h offset size flags buf hserr hconfig
      hrx htx hrplan hsplan hvalid hbuf hfits (12 + (12 + data.length)) maxAttachedFdEntries
      (by rw [hres, hreply]; simp)
    rw [hres, hreply] at hread
    exact ⟨_, run_getConfig_of_reply m herr offset size flags buf hvalid hmconfig hbuf hfits hsend
      data (by rw [hdata, hbuf]) hread⟩
  · intro hfits hres
    -- the slave answers with the head of size zero, shorter than the read
    have hreply := configReply_of_not_length offset size flags hres
    have hsize := ((isValid_config_iff offset size flags).1 hvalid).2.1
    have hlength := length_emptyConfigReply offset flags
    obtain ⟨l₂, hread, hblock⟩ := recvmsg_after_getConfig_request h offset size flags buf hserr
      hconfig hrx htx hrplan hsplan hvalid hbuf hfits (12 + (12 + buf.length))
      maxAttachedFdEntries (by rw [hreply, hlength]; omega)
    rw [hreply] at hread
    obtain ⟨l₃, hblock⟩ := hblock (12 + (12 + buf.length) -
      (configReply.emptyConfigReply offset flags).length)
    exact ⟨_, run_getConfig_of_short_reply m herr offset size flags buf hvalid hmconfig hfits hsend
      hread (by omega) (by omega) hblock⟩

theorem getConfig_waits_for_payload_slave_never_sends_dummy :
    ∃ m', (getConfig 0 4 0 [0, 0, 0, 0]).run
        { MasterInternal.new (connect { SlaveReqHandler.new (Sock.ofStream [])
            DummySlaveReqHandler.new with
              ackedProtocolFeatures := VhostUserProtocolFeatures.config }) 0 with
          ackedProtocolFeatures := VhostUserProtocolFeatures.config } = .error .diverges m' :=
  (getConfig_waits_for_payload_slave_never_sends _ _ 0 4 0 [0, 0, 0, 0] rfl rfl (by decide) rfl
    (by decide) rfl rfl rfl rfl (by decide) rfl).2.2 (by decide) (fun data hres => by cases hres)

end Connection

end Vhost.User
