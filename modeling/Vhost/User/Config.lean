import Mathlib
import Vhost.User.Request
import Vhost.User.SlaveFrame
import Vhost.User.DummySlave

/-!
# The device configuration requests

GET_CONFIG and SET_CONFIG carry a `VhostUserConfig` head (offset, size, flags)
followed by `size` bytes of the device's configuration space; the master
writes both with `send_request_with_payload`, so the body is the head and then
the caller's buffer.

`SlaveReqHandler::set_config` checks the head against the body and then calls
the backend's `set_config` with `buf`, the whole body: the backend receives the
twelve bytes of the head in front of the caller's bytes.

`SlaveReqHandler::get_config` answers a backend failure, or a buffer of the
wrong length, with a head of size zero and no payload.  That reply is shorter
than the one `recv_reply_with_payload` waits for, whose length it takes from
the request.
-/

namespace Vhost.User

open ByteStream EStateM

/-- A valid config head has flags that `VhostUserConfigFlags::from_bits` takes. -/
theorem fromBits_of_isValid {msg : VhostUserConfig}
    (hvalid : VhostUserMsgValidator.isValid msg = true) :
    VhostUserConfigFlags.fromBits msg.flags = some msg.flags := by
  have hflags : msg.flags &&& ~~~vhostUserConfigFlagsAll = 0 := by
    by_contra hne
    simp [VhostUserMsgValidator.isValid, hne] at hvalid
  simp [VhostUserConfigFlags.fromBits, hflags]

/-- `VhostUserConfig::is_valid` exactly: flags within
`VhostUserConfigFlags::all()`, a size from 1 to `VHOST_USER_CONFIG_SIZE`, and
the `u32` sum of size and offset, which wraps, below `VHOST_USER_CONFIG_SIZE`.
Nothing bounds the offset from below. -/
theorem isValid_config_iff (offset size flags : UInt32) :
    VhostUserMsgValidator.isValid (VhostUserConfig.new offset size flags) = true ↔
      flags &&& ~~~vhostUserConfigFlagsAll = 0 ∧ 0 < size.toNat ∧
        size.toNat ≤ vhostUserConfigSize.toNat ∧
        (size.toNat + offset.toNat) % 2 ^ 32 < vhostUserConfigSize.toNat := by
  have hsum : (size + offset).toNat = (size.toNat + offset.toNat) % 2 ^ 32 :=
    UInt32.toNat_add size offset
  have hzero : size = 0 ↔ size.toNat = 0 := ⟨fun h => by simp [h], fun h => UInt32.toNat_inj.1 h⟩
  simp only [VhostUserMsgValidator.isValid, VhostUserConfig.new]
  by_cases hflags : flags &&& ~~~vhostUserConfigFlagsAll = 0
  · -- the three size tests, over the sizes' values
    simp only [hflags, bne_self_eq_false, Bool.false_eq_true, if_false, Bool.or_eq_true,
      beq_iff_eq, hzero, gt_iff_lt, decide_eq_true_eq, UInt32.lt_iff_toNat_lt,
      UInt32.le_iff_toNat_le, hsum]
    split
    · rename_i hrefused
      simp only [Bool.false_eq_true, false_iff, true_and, not_and, not_lt]
      omega
    · rename_i haccepted
      simp only [not_or, not_lt, not_le] at haccepted
      refine iff_of_true rfl ⟨trivial, ?_, ?_, ?_⟩ <;> omega
  · simp [hflags]

namespace Master

open MasterInternal

/-- The header of a config request carrying `payload` after its head. -/
def configHeader (code : MasterReq) (payload : List UInt8) : VhostUserMsgHeader MasterReq :=
  newRequestHeader code (UInt32.ofNat (Pod.size VhostUserConfig + payload.length))

/-- The body of a config request: the head, then the caller's bytes. -/
def configBody (offset size flags : UInt32) (payload : List UInt8) : List UInt8 :=
  Pod.toBytes (VhostUserConfig.new offset size flags) ++ payload

/-- What the master writes for a config request. -/
def configMessage (code : MasterReq) (offset size flags : UInt32) (payload : List UInt8) :
    List UInt8 :=
  Pod.toBytes (configHeader code payload) ++ configBody offset size flags payload

theorem length_configBody (offset size flags : UInt32) (payload : List UInt8) :
    (configBody offset size flags payload).length = Pod.size VhostUserConfig + payload.length := by
  simp [configBody]

/-- The size field of the header counts the body, for a payload that fits in a
message. -/
theorem getSize_configHeader (code : MasterReq) {payload : List UInt8}
    (hsize : Pod.size VhostUserConfig + payload.length ≤ maxMsgSize) (offset size flags : UInt32) :
    (configHeader code payload).getSize.toNat = (configBody offset size flags payload).length := by
  rw [length_configBody]
  simp only [maxMsgSize] at hsize
  exact UInt32.toNat_ofNat_of_lt' (show _ < 2 ^ 32 by omega)

theorem isValid_configHeader {code : MasterReq} (hcode : Req.isValid code) {payload : List UInt8}
    (hsize : Pod.size VhostUserConfig + payload.length ≤ maxMsgSize) :
    (configHeader code payload).isValid = some true := by
  have hget := getSize_configHeader code hsize 0 0 0
  rw [length_configBody] at hget
  exact isValid_newRequestHeader hcode (by rw [show (UInt32.ofNat _).toNat = _ from hget]; exact hsize)

/-- `set_config` of a buffer whose head is valid and whose message fits, with
CONFIG acked: the request is written and no ack is awaited. -/
theorem run_setConfig_ready {m : MasterInternal Sock} (hm : m.Ready) (offset flags : UInt32)
    (buf : List UInt8)
    (hvalid : VhostUserMsgValidator.isValid
      (VhostUserConfig.new offset (UInt32.ofNat buf.length) flags) = true)
    (hsize : Pod.size VhostUserConfig + buf.length ≤ maxMsgSize)
    (hconfig : m.ackedProtocolFeatures &&& VhostUserProtocolFeatures.config ≠ 0) :
    (setConfig (E := Sock) offset flags buf).run m =
      .ok () (m.wrote (configMessage .setConfig offset (UInt32.ofNat buf.length) flags buf) []) := by
  have hlen : ¬ buf.length > maxMsgSize := by
    simp only [Pod.size_vhostUserConfig] at hsize
    omega
  have hsend := run_sendRequestWithPayload_ready hm .setConfig
    (VhostUserConfig.new offset (UInt32.ofNat buf.length) flags) buf none
    (by simpa using hsize) (fun _ hfds => by cases hfds)
  simp only [setConfig, if_neg hlen, hvalid, Bool.not_true, Bool.false_eq_true, if_false,
    EStateM.run_bind]
  rw [show (get : Prog (MasterInternal Sock) _).run m = .ok m m from rfl]
  dsimp only
  rw [if_neg hconfig]
  simp only [EStateM.run_bind, hsend, run_waitForAck_newRequestHeader]
  simp [configMessage, configHeader, configBody]

end Master

/-! ## The slave's side -/

namespace SlaveReqHandler

open MasterInternal Master

variable {S : Type} [VhostUserSlaveReqHandler S]

/-- `set_config` on a body the master wrote: the backend is called with the
whole body, head included, and its result acked. -/
theorem run_setConfig_configBody (h : SlaveReqHandler S) (hdr : VhostUserMsgHeader MasterReq)
    (offset flags : UInt32) (buf : List UInt8)
    (hvalid : VhostUserMsgValidator.isValid
      (VhostUserConfig.new offset (UInt32.ofNat buf.length) flags) = true)
    (hsize : Pod.size VhostUserConfig + buf.length ≤ maxMsgSize) :
    (setConfig (S := S) hdr (configBody offset (UInt32.ofNat buf.length) flags buf).length
        (configBody offset (UInt32.ofNat buf.length) flags buf)).run h =
      (sendAckMessage hdr (VhostUserSlaveReqHandler.setConfig offset
          (configBody offset (UInt32.ofNat buf.length) flags buf) flags h.backend).1).run
        { h with
          backend := (VhostUserSlaveReqHandler.setConfig offset
            (configBody offset (UInt32.ofNat buf.length) flags buf) flags h.backend).2
          calls := h.calls ++
            [.setConfig offset (configBody offset (UInt32.ofNat buf.length) flags buf) flags] } := by
  have hcount : (UInt32.ofNat buf.length).toNat = buf.length := by
    simp only [maxMsgSize, Pod.size_vhostUserConfig] at hsize
    exact UInt32.toNat_ofNat_of_lt' (show buf.length < 2 ^ 32 by omega)
  have hcast : ∀ h' : SlaveReqHandler S,
      (castBuf (configBody offset (UInt32.ofNat buf.length) flags buf)).run h' =
        .ok (VhostUserConfig.new offset (UInt32.ofNat buf.length) flags) h' := by
    intro h'
    simp [castBuf, configBody, Pod.ofBytes_toBytes_append]
  have hflags := fromBits_of_isValid hvalid
  simp only [VhostUserConfig.new] at hflags
  simp only [setConfig, length_configBody]
  rw [if_neg (by omega), EStateM.run_bind, hcast]
  dsimp only
  rw [hvalid, if_neg (by simp), if_neg (by simp [VhostUserConfig.new, hcount])]
  simp only [VhostUserConfig.new, hflags, EStateM.run_bind]
  -- the flags are taken as they are, and the backend is called
  rfl

/-- SET_CONFIG through `handle_request`, with CONFIG acked: the backend's
`set_config` is called with the head and the caller's bytes. -/
theorem calls_run_handleRequest_setConfigMessage (h : SlaveReqHandler S) (offset flags : UInt32)
    (buf : List UInt8) (rest : Stream Fd)
    (hvalid : VhostUserMsgValidator.isValid
      (VhostUserConfig.new offset (UInt32.ofNat buf.length) flags) = true)
    (hsize : Pod.size VhostUserConfig + buf.length ≤ maxMsgSize)
    (hconfig : h.ackedProtocolFeatures &&& VhostUserProtocolFeatures.config ≠ 0)
    (herr : h.error = none) (hplan : h.mainSock.recvPlan = [])
    (hrx : h.mainSock.rx =
      pack (configMessage .setConfig offset (UInt32.ofNat buf.length) flags buf) [] ++ rest) :
    ((handleRequest (S := S)).run h).state.calls =
      h.calls ++ [.setConfig offset (configBody offset (UInt32.ofNat buf.length) flags buf) flags] := by
  have hget := getSize_configHeader .setConfig hsize offset (UInt32.ofNat buf.length) flags
  rw [run_handleRequest_message h (configHeader .setConfig buf) _ [] rest herr hrx hplan
    (isValid_configHeader (by decide) hsize) hget (by simp) (Or.inl rfl)]
  have hcheck : ∀ h' : SlaveReqHandler S, (checkRequestSize (configHeader .setConfig buf)
      (configBody offset (UInt32.ofNat buf.length) flags buf).length
      (configHeader .setConfig buf).getSize.toNat).run h' = .ok () h' := by
    intro h'
    rw [hget]
    exact run_checkMsgSize_of_toNat_eq hget h'
  have hcode : (configHeader .setConfig buf).getCode = some .setConfig :=
    getCode_newRequestHeader _ _
  unfold dispatchRequest
  rw [hcode]
  dsimp only
  -- the CONFIG gate reads the state, which the read of the request left as it was
  rw [EStateM.run_bind, show (get : Prog (SlaveReqHandler S) _).run (h.consumed [] rest) =
    .ok (h.consumed [] rest) (h.consumed [] rest) from rfl]
  dsimp only
  rw [if_neg (show (h.consumed [] rest).ackedProtocolFeatures &&& _ ≠ 0 from hconfig),
    EStateM.run_bind, hcheck]
  dsimp only
  rw [run_setConfig_configBody _ _ offset flags buf hvalid hsize]
  exact keeps_sendAckMessage (f := SlaveReqHandler.calls) (fun _ _ _ => rfl) _ _ _

/-- SET_CONFIG end to end: for a buffer the master accepts, the master writes
the request and returns, and the slave that reads it, with CONFIG acked, calls
the backend's `set_config` with the head and the buffer, twelve bytes more than
the caller's buffer. -/
theorem setConfig_backend_receives_config_head {m : MasterInternal Sock} (hm : m.Ready)
    (offset flags : UInt32) (buf : List UInt8)
    (hvalid : VhostUserMsgValidator.isValid
      (VhostUserConfig.new offset (UInt32.ofNat buf.length) flags) = true)
    (hsize : Pod.size VhostUserConfig + buf.length ≤ maxMsgSize)
    (hmconfig : m.ackedProtocolFeatures &&& VhostUserProtocolFeatures.config ≠ 0)
    (h : SlaveReqHandler S) (rest : Stream Fd)
    (hconfig : h.ackedProtocolFeatures &&& VhostUserProtocolFeatures.config ≠ 0)
    (herr : h.error = none) (hplan : h.mainSock.recvPlan = [])
    (hrx : h.mainSock.rx =
      pack (configMessage .setConfig offset (UInt32.ofNat buf.length) flags buf) [] ++ rest) :
    (Master.setConfig (E := Sock) offset flags buf).run m =
        .ok () (m.wrote (configMessage .setConfig offset (UInt32.ofNat buf.length) flags buf) []) ∧
      ((handleRequest (S := S)).run h).state.calls =
        h.calls ++ [.setConfig offset (configBody offset (UInt32.ofNat buf.length) flags buf) flags] ∧
      (configBody offset (UInt32.ofNat buf.length) flags buf).length = 12 + buf.length := by
  refine ⟨run_setConfig_ready hm offset flags buf hvalid hsize hmconfig,
    calls_run_handleRequest_setConfigMessage h offset flags buf rest hvalid hsize hconfig herr
      hplan hrx, ?_⟩
  rw [length_configBody, Pod.size_vhostUserConfig]

/-- One byte at offset 0x100: the backend gets thirteen bytes, the head first. -/
theorem setConfig_backend_receives_config_head_one_byte :
    (Master.setConfig (E := Sock) 0x100 0 [0xab]).run
        { MasterInternal.new (Sock.ofStream []) vhostUserMaxVrings with
          ackedProtocolFeatures := VhostUserProtocolFeatures.config } =
        .ok () ({ MasterInternal.new (Sock.ofStream []) vhostUserMaxVrings with
          ackedProtocolFeatures := VhostUserProtocolFeatures.config }.wrote
            (configMessage .setConfig 0x100 1 0 [0xab]) []) ∧
      ((handleRequest (S := DummySlaveReqHandler)).run
          { new (Sock.ofStream (pack (configMessage .setConfig 0x100 1 0 [0xab]) []))
              DummySlaveReqHandler.new with
            ackedProtocolFeatures := VhostUserProtocolFeatures.config }).state.calls =
        [.setConfig 0x100 (configBody 0x100 1 0 [0xab]) 0] ∧
      (configBody 0x100 1 0 [0xab]).length = 12 + 1 :=
  setConfig_backend_receives_config_head ⟨rfl, rfl⟩ 0x100 0 [0xab] (by decide) (by decide)
    (by decide) _ [] (by decide) rfl rfl (List.append_nil _).symm

/-- The config head's check is the only bound on the config space, and it is
the law of `isValid_config_iff`: every offset it admits, those below
`VHOST_USER_CONFIG_OFFSET` and those whose sum with the size wraps included,
the master sends in SET_CONFIG and the slave hands to its backend. -/
theorem config_isValid_admits_offsets_outside_config_space {m : MasterInternal Sock} (hm : m.Ready)
    (offset flags : UInt32) (buf : List UInt8)
    (hvalid : VhostUserMsgValidator.isValid
      (VhostUserConfig.new offset (UInt32.ofNat buf.length) flags) = true)
    (hsize : Pod.size VhostUserConfig + buf.length ≤ maxMsgSize)
    (hmconfig : m.ackedProtocolFeatures &&& VhostUserProtocolFeatures.config ≠ 0)
    (h : SlaveReqHandler S) (rest : Stream Fd)
    (hconfig : h.ackedProtocolFeatures &&& VhostUserProtocolFeatures.config ≠ 0)
    (herr : h.error = none) (hplan : h.mainSock.recvPlan = [])
    (hrx : h.mainSock.rx =
      pack (configMessage .setConfig offset (UInt32.ofNat buf.length) flags buf) [] ++ rest) :
    (∀ offset size flags : UInt32,
      VhostUserMsgValidator.isValid (VhostUserConfig.new offset size flags) = true ↔
        flags &&& ~~~vhostUserConfigFlagsAll = 0 ∧ 0 < size.toNat ∧
          size.toNat ≤ vhostUserConfigSize.toNat ∧
          (size.toNat + offset.toNat) % 2 ^ 32 < vhostUserConfigSize.toNat) ∧
      (Master.setConfig (E := Sock) offset flags buf).run m =
        .ok () (m.wrote (configMessage .setConfig offset (UInt32.ofNat buf.length) flags buf) []) ∧
      ((handleRequest (S := S)).run h).state.calls =
        h.calls ++ [.setConfig offset (configBody offset (UInt32.ofNat buf.length) flags buf) flags] :=
  ⟨isValid_config_iff, run_setConfig_ready hm offset flags buf hvalid hsize hmconfig,
    calls_run_handleRequest_setConfigMessage h offset flags buf rest hvalid hsize hconfig herr
      hplan hrx⟩

/-- One byte at offset 0, below the config space: the master sends it and the
dummy slave's backend is called with offset 0. -/
theorem config_isValid_admits_offsets_outside_config_space_offset_zero :
    (∀ offset size flags : UInt32,
      VhostUserMsgValidator.isValid (VhostUserConfig.new offset size flags) = true ↔
        flags &&& ~~~vhostUserConfigFlagsAll = 0 ∧ 0 < size.toNat ∧
          size.toNat ≤ vhostUserConfigSize.toNat ∧
          (size.toNat + offset.toNat) % 2 ^ 32 < vhostUserConfigSize.toNat) ∧
      (Master.setConfig (E := Sock) 0 0 [0xab]).run
          { MasterInternal.new (Sock.ofStream []) vhostUserMaxVrings with
            ackedProtocolFeatures := VhostUserProtocolFeatures.config } =
        .ok () ({ MasterInternal.new (Sock.ofStream []) vhostUserMaxVrings with
          ackedProtocolFeatures := VhostUserProtocolFeatures.config }.wrote
            (configMessage .setConfig 0 1 0 [0xab]) []) ∧
      ((handleRequest (S := DummySlaveReqHandler)).run
          { new (Sock.ofStream (pack (configMessage .setConfig 0 1 0 [0xab]) []))
              DummySlaveReqHandler.new with
            ackedProtocolFeatures := VhostUserProtocolFeatures.config }).state.calls =
        [.setConfig 0 (configBody 0 1 0 [0xab]) 0] :=
  config_isValid_admits_offsets_outside_config_space ⟨rfl, rfl⟩ 0 0 [0xab] (by decide)
    (by decide) (by decide) _ [] (by decide) rfl rfl (List.append_nil _).symm

end SlaveReqHandler

end Vhost.User
