import Mathlib
import Vhost.User.DummySlave
import Vhost.User.FsRequest
import Vhost.User.Request

/-!
# What a peer's bytes reach

Every header and every body a handler reads comes from the peer, which may send
any twelve bytes as a header.  Two places of the source take such bytes at
their word before checking them.

`get_code` turns the raw request value into a `MasterReq` or a `SlaveReq`
with `transmute_copy`, and `is_valid` calls it first, before its range check.
On a value past the last discriminant the conversion is undefined behaviour;
it happens on every receive path, so in both handlers, as soon as such a header
has been read.  Up to `MAX_CMD` the conversion is defined, and the check says
false at `MAX_CMD` itself.

The slave casts the front of a body to a struct in five places.  Four of them
test the body's size first: `extract_request_body` against `size_of::<T>()`,
the vring descriptor requests through `check_request_size`, `set_mem_table` and
`set_config` against the config or memory head.  `get_config` does not: a
GET_CONFIG request whose header declares a body shorter than the twelve bytes of
a `VhostUserConfig` is valid, and the slave reads the head past the end of the
buffer.
-/

namespace Vhost.User

open ByteStream SockLens

/-! ## The code of a raw request value -/

/-- `MAX_CMD` lies past the range the code check accepts. -/
@[simp]
theorem Req.isValid_maxCmd {R : Type} [Req R] : Req.isValid (Req.maxCmd : R) = false := by
  simp [Req.isValid]

/-- The raw values that are discriminants of `MasterReq`: `0..=MAX_CMD`. -/
theorem MasterReq.ofU32?_eq_none_iff (raw : UInt32) :
    (Req.ofU32? raw : Option MasterReq) = none ↔ 34 ≤ raw.toNat :=
  List.getElem?_eq_none_iff

theorem SlaveReq.ofU32?_eq_none_iff (raw : UInt32) :
    (Req.ofU32? raw : Option SlaveReq) = none ↔ 11 ≤ raw.toNat :=
  List.getElem?_eq_none_iff

namespace VhostUserMsgHeader

variable {R : Type} [Req R]

/-- The header check is undefined exactly where the code conversion is. -/
theorem isValid_eq_none_iff (hdr : VhostUserMsgHeader R) :
    hdr.isValid = none ↔ hdr.getCode = none := by
  unfold isValid
  split <;> simp_all

theorem isValid_of_getCode_maxCmd {hdr : VhostUserMsgHeader R}
    (hcode : hdr.getCode = some Req.maxCmd) : hdr.isValid = some false := by
  simp [isValid, hcode]

end VhostUserMsgHeader

/-! ## A header as the peer wrote it -/

section Wire

variable {σ : Type} [SockLens σ]

/-- The first twelve bytes of a stream that starts with a raw request value,
flags and size are that header, read as a header of either enum. -/
theorem ofBytes_take_twelve {R : Type} (s : σ) {request flags size : UInt32} {fds : List Fd}
    {rest : Stream Fd}
    (hrx : (sock s).rx = pack (Pod.toBytes request ++ Pod.toBytes flags ++ Pod.toBytes size) fds ++ rest) :
    (Pod.ofBytes (bytes ((sock s).rx.take 12)) : VhostUserMsgHeader R) = ⟨request, flags, size⟩ := by
  -- the raw bytes are the encoding of the header, whatever enum it is read as
  have hwire : Pod.toBytes request ++ Pod.toBytes flags ++ Pod.toBytes size =
      Pod.toBytes (⟨request, flags, size⟩ : VhostUserMsgHeader R) := rfl
  have hlen : (Pod.toBytes (⟨request, flags, size⟩ : VhostUserMsgHeader R)).length = 12 := by
    simp
  rw [hrx, hwire, ← hlen, take_pack_append, bytes_pack, Pod.ofBytes_toBytes]

/-- `recv_header` on a stream that starts with a raw header whose request value
is no code of `R`. -/
theorem run_recvHeader_of_raw_getCode_none {R : Type} [Req R] (s : σ)
    {request flags size : UInt32} {fds : List Fd} {rest : Stream Fd}
    (hplan : (sock s).recvPlan = [])
    (hrx : (sock s).rx = pack (Pod.toBytes request ++ Pod.toBytes flags ++ Pod.toBytes size) fds ++ rest)
    (hcode : (⟨request, flags, size⟩ : VhostUserMsgHeader R).getCode = none) :
    (recvHeader (σ := σ) (R := R)).run s =
      .error .undefined (setSock s ((sock s).afterRecv 12 maxAttachedFdEntries)) := by
  have hlen : 12 ≤ (sock s).rx.length := by
    rw [hrx]
    simp
  apply run_recvHeader_of_isValid_none s hplan hlen
  rw [ofBytes_take_twelve s hrx]
  exact (VhostUserMsgHeader.isValid_eq_none_iff _).2 hcode

end Wire

/-! ## Every request value a peer may send -/

/-- For every request value, flags and size a peer writes as a header, the
header check converts the value before any range check: read as a `MasterReq`
header it is undefined exactly from 34 on, one past `MAX_CMD`, and as a
`SlaveReq` header from 11 on, and `recv_header` then stops there.  At `MAX_CMD`
itself the conversion is defined and the check says false. -/
theorem isValid_converts_request_past_maxCmd {σ : Type} [SockLens σ] (s : σ)
    (request flags size : UInt32) (fds : List Fd) (rest : Stream Fd)
    (hplan : (sock s).recvPlan = [])
    (hrx : (sock s).rx = pack (Pod.toBytes request ++ Pod.toBytes flags ++ Pod.toBytes size) fds ++ rest) :
    ((⟨request, flags, size⟩ : VhostUserMsgHeader MasterReq).isValid = none ↔ 34 ≤ request.toNat) ∧
    ((⟨request, flags, size⟩ : VhostUserMsgHeader SlaveReq).isValid = none ↔ 11 ≤ request.toNat) ∧
    (34 ≤ request.toNat → (recvHeader (σ := σ) (R := MasterReq)).run s =
      .error .undefined (setSock s ((sock s).afterRecv 12 maxAttachedFdEntries))) ∧
    (11 ≤ request.toNat → (recvHeader (σ := σ) (R := SlaveReq)).run s =
      .error .undefined (setSock s ((sock s).afterRecv 12 maxAttachedFdEntries))) ∧
    (request.toNat = 33 →
      (⟨request, flags, size⟩ : VhostUserMsgHeader MasterReq).isValid = some false) ∧
    (request.toNat = 10 →
      (⟨request, flags, size⟩ : VhostUserMsgHeader SlaveReq).isValid = some false) := by
  have hmaster := MasterReq.ofU32?_eq_none_iff request
  have hslave := SlaveReq.ofU32?_eq_none_iff request
  refine ⟨(VhostUserMsgHeader.isValid_eq_none_iff _).trans hmaster,
    (VhostUserMsgHeader.isValid_eq_none_iff _).trans hslave, ?_, ?_, ?_, ?_⟩
  · intro hpast
    exact run_recvHeader_of_raw_getCode_none s hplan hrx (hmaster.2 hpast)
  · intro hpast
    exact run_recvHeader_of_raw_getCode_none s hplan hrx (hslave.2 hpast)
  · -- the last discriminant is `MasterReq::MAX_CMD`
    intro hmax
    obtain rfl : request = 33 := UInt32.toNat_inj.1 hmax
    exact VhostUserMsgHeader.isValid_of_getCode_maxCmd rfl
  · intro hmax
    obtain rfl : request = 10 := UInt32.toNat_inj.1 hmax
    exact VhostUserMsgHeader.isValid_of_getCode_maxCmd rfl

/-- Request value 34, one past `MasterReq::MAX_CMD`, read by the master's
handler. -/
theorem isValid_converts_request_past_maxCmd_thirtyFour :
    ((⟨34, 1, 0⟩ : VhostUserMsgHeader MasterReq).isValid = none ↔ 34 ≤ (34 : UInt32).toNat) ∧
    ((⟨34, 1, 0⟩ : VhostUserMsgHeader SlaveReq).isValid = none ↔ 11 ≤ (34 : UInt32).toNat) ∧
    (34 ≤ (34 : UInt32).toNat →
      (recvHeader (σ := MasterReqHandler DefaultMasterBackend) (R := MasterReq)).run
          (MasterReqHandler.new (Sock.ofStream (pack (Pod.toBytes (34 : UInt32) ++
            Pod.toBytes (1 : UInt32) ++ Pod.toBytes (0 : UInt32)) [])) DefaultMasterBackend.mk) =
        .error .undefined (MasterReqHandler.new (Sock.ofStream []) DefaultMasterBackend.mk)) ∧
    (11 ≤ (34 : UInt32).toNat →
      (recvHeader (σ := MasterReqHandler DefaultMasterBackend) (R := SlaveReq)).run
          (MasterReqHandler.new (Sock.ofStream (pack (Pod.toBytes (34 : UInt32) ++
            Pod.toBytes (1 : UInt32) ++ Pod.toBytes (0 : UInt32)) [])) DefaultMasterBackend.mk) =
        .error .undefined (MasterReqHandler.new (Sock.ofStream []) DefaultMasterBackend.mk)) ∧
    ((34 : UInt32).toNat = 33 →
      (⟨34, 1, 0⟩ : VhostUserMsgHeader MasterReq).isValid = some false) ∧
    ((34 : UInt32).toNat = 10 →
      (⟨34, 1, 0⟩ : VhostUserMsgHeader SlaveReq).isValid = some false) :=
  isValid_converts_request_past_maxCmd
    (MasterReqHandler.new (Sock.ofStream (pack (Pod.toBytes (34 : UInt32) ++
      Pod.toBytes (1 : UInt32) ++ Pod.toBytes (0 : UInt32)) [])) DefaultMasterBackend.mk)
    34 1 0 [] [] rfl (List.append_nil _).symm

/-! ## Bodies cast by the slave -/

/-- Casting a buffer too short for a `T`. -/
theorem run_castBuf_of_lt {σ T : Type} [Pod T] {buf : List UInt8}
    (hshort : buf.length < Pod.size T) (s : σ) :
    (castBuf (σ := σ) (T := T) buf).run s = .error .undefined s := by
  simp [castBuf, Nat.not_le.2 hshort]

/-- The size test of both handlers either refuses the message or has seen the
size it expects. -/
theorem run_checkMsgSize_cases {σ R : Type} [Req R] (hdr : VhostUserMsgHeader R)
    (size expected : Nat) (s : σ) :
    (checkMsgSize (σ := σ) hdr size expected).run s = .error (.err .invalidMessage) s ∨
      (size = expected ∧ (checkMsgSize (σ := σ) hdr size expected).run s = .ok () s) := by
  unfold checkMsgSize
  split
  · exact .inl rfl
  · rename_i hpass
    refine .inr ⟨?_, rfl⟩
    by_contra hne
    exact hpass (by simp [hne])

namespace SlaveReqHandler

variable {S : Type} [VhostUserSlaveReqHandler S]

theorem run_dispatchRequest_getConfig (h : SlaveReqHandler S)
    {hdr : VhostUserMsgHeader MasterReq} (size : Nat) (buf : List UInt8)
    (rfds : Option (List Fd)) (hcode : hdr.getCode = some .getConfig)
    (hconfig : h.ackedProtocolFeatures &&& VhostUserProtocolFeatures.config ≠ 0) :
    (dispatchRequest hdr size buf rfds).run h = (getConfig hdr buf).run h := by
  simp only [dispatchRequest, hcode]
  simp [hconfig]

/-- `get_config` reads its config head before any test of the body's length. -/
theorem run_getConfig_of_short (h : SlaveReqHandler S) (hdr : VhostUserMsgHeader MasterReq)
    {buf : List UInt8} (hshort : buf.length < Pod.size VhostUserConfig) :
    (getConfig hdr buf).run h = .error .undefined h := by
  simp only [getConfig, EStateM.run_bind, run_castBuf_of_lt hshort]

/-- A GET_CONFIG request whose valid header declares a body shorter than the
config head, on a slave with CONFIG acked: `handle_request` reads the header
and the body, and `get_config` casts the body to a `VhostUserConfig` with no
test of its length, past the end of the buffer. -/
theorem handleRequest_getConfig_casts_short_body (h : SlaveReqHandler S)
    (hdr : VhostUserMsgHeader MasterReq) (body : List UInt8) (rest : Stream Fd)
    (herr : h.error = none) (hplan : h.mainSock.recvPlan = [])
    (hrx : h.mainSock.rx = pack (Pod.toBytes hdr ++ body) [] ++ rest)
    (hcode : hdr.getCode = some .getConfig) (hvalid : hdr.isValid = some true)
    (hsize : hdr.getSize.toNat = body.length)
    (hconfig : h.ackedProtocolFeatures &&& VhostUserProtocolFeatures.config ≠ 0)
    (hshort : body.length < Pod.size VhostUserConfig) :
    (handleRequest (S := S)).run h = .error .undefined (h.consumed [] rest) := by
  rw [run_handleRequest_message h hdr body [] rest herr hrx hplan hvalid hsize (by simp) (.inl rfl)]
  rw [run_dispatchRequest_getConfig (h.consumed [] rest) _ _ _ hcode hconfig,
    run_getConfig_of_short _ hdr hshort]

/-- GET_CONFIG with no body at all, to the dummy slave with CONFIG acked. -/
theorem handleRequest_getConfig_casts_short_body_empty :
    (handleRequest (S := DummySlaveReqHandler)).run
        { SlaveReqHandler.new (Sock.ofStream (pack (Pod.toBytes
            (VhostUserMsgHeader.new MasterReq.getConfig 0 0)) [])) DummySlaveReqHandler.new with
          ackedProtocolFeatures := VhostUserProtocolFeatures.config } =
      .error .undefined
        (consumed { SlaveReqHandler.new (Sock.ofStream (pack (Pod.toBytes
            (VhostUserMsgHeader.new MasterReq.getConfig 0 0)) [])) DummySlaveReqHandler.new with
          ackedProtocolFeatures := VhostUserProtocolFeatures.config } [] []) :=
  handleRequest_getConfig_casts_short_body _ (VhostUserMsgHeader.new MasterReq.getConfig 0 0) [] []
    rfl rfl (by rw [List.append_nil, List.append_nil]; rfl) rfl (by decide) rfl (by decide)
    (by decide)

end SlaveReqHandler

/-! ## Both handlers on a header past the enum -/

namespace SlaveReqHandler

variable {S : Type} [VhostUserSlaveReqHandler S]

/-- The slave's `handle_request` on a stream whose header carries no
`MasterReq`: undefined once the twelve bytes are read. -/
theorem run_handleRequest_of_getCode_none (h : SlaveReqHandler S) (herr : h.error = none)
    (hplan : h.mainSock.recvPlan = []) (hlen : 12 ≤ h.mainSock.rx.length)
    (hcode : (Pod.ofBytes (bytes (h.mainSock.rx.take 12)) : VhostUserMsgHeader MasterReq).getCode =
      none) :
    (handleRequest (S := S)).run h =
      .error .undefined { h with mainSock := h.mainSock.afterRecv 12 maxAttachedFdEntries } := by
  have hheader := run_recvHeader_of_isValid_none (R := MasterReq) h hplan hlen
    ((VhostUserMsgHeader.isValid_eq_none_iff _).2 hcode)
  simp only [handleRequest, EStateM.run_bind, run_checkState_of_error_none h herr, hheader]
  rfl

end SlaveReqHandler

namespace MasterReqHandler

variable {S : Type} [VhostUserMasterReqHandler S]

/-- The master's handler on a stream whose header carries no `SlaveReq`. -/
theorem run_handleRequest_of_getCode_none (h : MasterReqHandler S) (herr : h.error = none)
    (hplan : h.subSock.recvPlan = []) (hlen : 12 ≤ h.subSock.rx.length)
    (hcode : (Pod.ofBytes (bytes (h.subSock.rx.take 12)) : VhostUserMsgHeader SlaveReq).getCode =
      none) :
    (handleRequest (S := S)).run h =
      .error .undefined { h with subSock := h.subSock.afterRecv 12 maxAttachedFdEntries } := by
  have hheader := run_recvHeader_of_isValid_none (R := SlaveReq) h hplan hlen
    ((VhostUserMsgHeader.isValid_eq_none_iff _).2 hcode)
  simp only [handleRequest, EStateM.run_bind, run_checkState_of_error_none h herr, hheader]
  rfl

end MasterReqHandler

end Vhost.User
