import Mathlib
import Vhost.Lib.Flags
import Vhost.User.SlaveReqHandler
import Vhost.User.MasterReqHandler

/-!
# The header codec

`VhostUserMsgHeader` packs the version, REPLY and NEED_REPLY into one `flags`
word, next to the request code and the body size.  Each getter reads one field
and each setter writes one, through masks that share no bit, so a setter
changes what its own getter returns and nothing else.  `new` keeps only the
REPLY and NEED_REPLY bits of the flags it is given and sets version 1, so the
header it builds passes the header check exactly when its code is a request and
its size fits.

The getters are collected in `fields`; the laws are one equation per setter
on `fields`.
-/

namespace Vhost.User

/-- A code enum whose conversion from a discriminant is the inverse of `as u32`
on the enum's own values, as for a `#[repr(u32)]` enum. -/
class LawfulReq (R : Type) [Req R] : Prop where
  ofU32?_toU32 : ∀ code : R, Req.ofU32? (Req.toU32 code) = some code

instance : LawfulReq MasterReq where
  ofU32?_toU32 code := by cases code <;> rfl

instance : LawfulReq SlaveReq where
  ofU32?_toU32 code := by cases code <;> rfl

namespace VhostUserMsgHeader

open VhostUserHeaderFlag Flags

/-- What the getters of a header read. -/
structure Fields (R : Type) where
  code : Option R
  version : UInt32
  reply : Bool
  needReply : Bool
  size : UInt32

variable {R : Type} [Req R]

/-- The values of the five getters. -/
def fields (hdr : VhostUserMsgHeader R) : Fields R :=
  ⟨hdr.getCode, hdr.getVersion, hdr.isReply, hdr.isNeedReply, hdr.getSize⟩

/-! ## The masks -/

theorem reply_and_version : reply &&& 0x3 = 0 := by decide
theorem needReply_and_version : needReply &&& 0x3 = 0 := by decide
theorem version_and_reply : (0x3 : UInt32) &&& reply = 0 := by decide
theorem version_and_needReply : (0x3 : UInt32) &&& needReply = 0 := by decide
theorem reply_and_needReply : reply &&& needReply = 0 := by decide
theorem needReply_and_reply : needReply &&& reply = 0 := by decide
theorem reply_bne_zero : (reply != 0) = true := by decide
theorem needReply_bne_zero : (needReply != 0) = true := by decide

-- what `new` keeps of the flags it is given, and the version bit it adds
theorem allFlags_and_version : allFlags &&& 0x3 = 0 := by decide
theorem allFlags_and_reply : allFlags &&& reply = reply := by decide
theorem allFlags_and_needReply : allFlags &&& needReply = needReply := by decide
theorem allFlags_and_reservedBits : allFlags &&& reservedBits = 0 := by decide
theorem one_and_version : (0x1 : UInt32) &&& 0x3 = 0x1 := by decide
theorem one_and_reply : (0x1 : UInt32) &&& reply = 0 := by decide
theorem one_and_needReply : (0x1 : UInt32) &&& needReply = 0 := by decide
theorem one_and_reservedBits : (0x1 : UInt32) &&& reservedBits = 0 := by decide

/-! ## One setter, one field -/

theorem fields_setCode (hdr : VhostUserMsgHeader R) (code : R) :
    (hdr.setCode code).fields = { hdr.fields with code := Req.ofU32? (Req.toU32 code) } := rfl

theorem fields_setSize (hdr : VhostUserMsgHeader R) (size : UInt32) :
    (hdr.setSize size).fields = { hdr.fields with size := size } := rfl

/-- `set_version` replaces the version bits and leaves REPLY and NEED_REPLY. -/
theorem fields_setVersion (hdr : VhostUserMsgHeader R) (ver : UInt32) :
    (hdr.setVersion ver).fields = { hdr.fields with version := ver &&& 0x3 } := by
  simp only [fields, setVersion, getCode, getVersion, isReply, isNeedReply, getSize,
    update_and_self, update_and_of_disjoint _ _ version_and_reply,
    update_and_of_disjoint _ _ version_and_needReply]

theorem fields_setReply (hdr : VhostUserMsgHeader R) (isReply : Bool) :
    (hdr.setReply isReply).fields = { hdr.fields with reply := isReply } := by
  cases isReply with
  | true =>
      simp only [fields, setReply, if_true, getCode, getVersion, VhostUserMsgHeader.isReply,
        isNeedReply, getSize, or_and_of_disjoint _ reply_and_version, or_and_self,
        or_and_of_disjoint _ reply_and_needReply, reply_bne_zero]
  | false =>
      simp [fields, setReply, getCode, getVersion, VhostUserMsgHeader.isReply, isNeedReply,
        getSize, and_not_and_of_disjoint _ reply_and_version, and_not_and_self,
        and_not_and_of_disjoint _ reply_and_needReply]

theorem fields_setNeedReply (hdr : VhostUserMsgHeader R) (needReply : Bool) :
    (hdr.setNeedReply needReply).fields = { hdr.fields with needReply := needReply } := by
  cases needReply with
  | true =>
      simp only [fields, setNeedReply, if_true, getCode, getVersion, isReply,
        VhostUserMsgHeader.isNeedReply, getSize, or_and_of_disjoint _ needReply_and_version,
        or_and_self, or_and_of_disjoint _ needReply_and_reply, needReply_bne_zero]
  | false =>
      simp [fields, setNeedReply, getCode, getVersion, isReply, VhostUserMsgHeader.isNeedReply,
        getSize, and_not_and_of_disjoint _ needReply_and_version, and_not_and_self,
        and_not_and_of_disjoint _ needReply_and_reply]

/-! ## `new` -/

/-- `new` sets no reserved bit, whatever flags it is given. -/
theorem reservedBits_new (code : R) (flags size : UInt32) :
    (new code flags size).flags &&& reservedBits = 0 := by
  simp only [new, and_or_and, allFlags_and_reservedBits, one_and_reservedBits, UInt32.and_zero,
    UInt32.or_zero]

section Lawful

variable [LawfulReq R]

/-- `new` reads back as it was built: the code, version 1, the REPLY and
NEED_REPLY bits of the flags given, and the size. -/
theorem fields_new (code : R) (flags size : UInt32) :
    (new code flags size).fields =
      ⟨some code, 0x1, flags &&& reply != 0, flags &&& needReply != 0, size⟩ := by
  simp only [fields, new, getCode, getVersion, isReply, isNeedReply, getSize,
    LawfulReq.ofU32?_toU32, and_or_and, allFlags_and_version, one_and_version, allFlags_and_reply,
    one_and_reply, allFlags_and_needReply, one_and_needReply, UInt32.and_zero, UInt32.zero_or,
    UInt32.or_zero]

/-- The header check of a header `new` built: a request code and a size that
fits, nothing else. -/
theorem isValid_new (code : R) (flags size : UInt32) :
    (new code flags size).isValid = some (Req.isValid code && decide (size.toNat ≤ maxMsgSize)) := by
  have hfields := fields_new code flags size
  simp only [fields, Fields.mk.injEq] at hfields
  obtain ⟨hcode, hversion, -, -, hsize⟩ := hfields
  rw [isValid, hcode, hversion, reservedBits_new]
  rw [getSize] at hsize
  by_cases hle : size.toNat ≤ maxMsgSize
  · simp [hsize, hle]
  · simp [hsize, hle, Nat.lt_of_not_le hle]

/-- A reply `new` builds with a request's code, for a request that is not a
reply, is a reply for it. -/
theorem isReplyFor_new_reply [DecidableEq R] {req : VhostUserMsgHeader R} {code : R}
    (hcode : req.getCode = some code) (hreq : req.isReply = false) (size : UInt32) :
    (new code reply size).isReplyFor req = some true := by
  have hfields := fields_new code reply size
  simp only [fields, Fields.mk.injEq] at hfields
  obtain ⟨hmine, -, hreply, -, -⟩ := hfields
  rw [isReplyFor, hreply, hreq, hmine, hcode, UInt32.and_self, reply_bne_zero]
  simp

end Lawful

end VhostUserMsgHeader

/-! ## The replies the handlers build -/

theorem SlaveReqHandler.run_newReplyHeader_eq {S : Type} [VhostUserSlaveReqHandler S] (T : Type)
    [Pod T] (h : SlaveReqHandler S) (req : VhostUserMsgHeader MasterReq) (payloadSize : Nat)
    {reply : VhostUserMsgHeader MasterReq} {h' : SlaveReqHandler S}
    (hrun : (SlaveReqHandler.newReplyHeader T req payloadSize).run h = .ok reply h') :
    ∃ code, req.getCode = some code ∧
      reply = VhostUserMsgHeader.new code VhostUserHeaderFlag.reply (UInt32.ofNat (Pod.size T + payloadSize)) := by
  unfold SlaveReqHandler.newReplyHeader at hrun
  by_cases hbig : Pod.size T > maxMsgSize
  · simp [hbig] at hrun
  cases herr : h.error with
  | some e => simp [hbig, SlaveReqHandler.checkState, checkFailed, herr] at hrun
  | none =>
      cases hcode : req.getCode with
      | none => simp [hbig, SlaveReqHandler.checkState, checkFailed, herr, hcode] at hrun
      | some code =>
          simp [hbig, SlaveReqHandler.checkState, checkFailed, herr, hcode] at hrun
          exact ⟨code, rfl, by rw [UInt32.ofNat_add]; exact hrun.1.symm⟩

theorem MasterReqHandler.run_newReplyHeader_eq {S : Type} [VhostUserMasterReqHandler S]
    (T : Type) [Pod T] (h : MasterReqHandler S) (req : VhostUserMsgHeader SlaveReq)
    {reply : VhostUserMsgHeader SlaveReq} {h' : MasterReqHandler S}
    (hrun : (MasterReqHandler.newReplyHeader T req).run h = .ok reply h') :
    ∃ code, req.getCode = some code ∧
      reply = VhostUserMsgHeader.new code VhostUserHeaderFlag.reply (UInt32.ofNat (Pod.size T)) := by
  unfold MasterReqHandler.newReplyHeader at hrun
  by_cases hbig : Pod.size T > maxMsgSize
  · simp [hbig] at hrun
  cases herr : h.error with
  | some e => simp [hbig, MasterReqHandler.checkState, checkFailed, herr] at hrun
  | none =>
      cases hcode : req.getCode with
      | none => simp [hbig, MasterReqHandler.checkState, checkFailed, herr, hcode] at hrun
      | some code =>
          simp [hbig, MasterReqHandler.checkState, checkFailed, herr, hcode] at hrun
          exact ⟨code, rfl, hrun.1.symm⟩

theorem SlaveReqHandler.isReplyFor_of_run_newReplyHeader {S : Type} [VhostUserSlaveReqHandler S]
    (T : Type) [Pod T] (h : SlaveReqHandler S) {req : VhostUserMsgHeader MasterReq}
    (payloadSize : Nat) {reply : VhostUserMsgHeader MasterReq} {h' : SlaveReqHandler S}
    (hreq : req.isReply = false)
    (hrun : (SlaveReqHandler.newReplyHeader T req payloadSize).run h = .ok reply h') :
    reply.isReplyFor req = some true := by
  obtain ⟨code, hcode, rfl⟩ := SlaveReqHandler.run_newReplyHeader_eq T h req payloadSize hrun
  exact VhostUserMsgHeader.isReplyFor_new_reply hcode hreq _

theorem MasterReqHandler.isReplyFor_of_run_newReplyHeader {S : Type}
    [VhostUserMasterReqHandler S] (T : Type) [Pod T] (h : MasterReqHandler S)
    {req : VhostUserMsgHeader SlaveReq} {reply : VhostUserMsgHeader SlaveReq}
    {h' : MasterReqHandler S} (hreq : req.isReply = false)
    (hrun : (MasterReqHandler.newReplyHeader T req).run h = .ok reply h') :
    reply.isReplyFor req = some true := by
  obtain ⟨code, hcode, rfl⟩ := MasterReqHandler.run_newReplyHeader_eq T h req hrun
  exact VhostUserMsgHeader.isReplyFor_new_reply hcode hreq _

open VhostUserMsgHeader in
/-- The header codec.  `new` reads back as built, with version 1 and no reserved
bit, and passes the header check exactly for a request code and a size that
fits; each setter changes what its own getter returns and nothing else; and a
reply the slave builds for a request that is not a reply is a reply for it. -/
theorem new_header_reads_back_and_setters_independent {R : Type} [Req R] [DecidableEq R]
    [LawfulReq R] (code : R) (flags size : UInt32) :
    (new code flags size).fields =
        ⟨some code, 0x1, flags &&& VhostUserHeaderFlag.reply != 0,
          flags &&& VhostUserHeaderFlag.needReply != 0, size⟩ ∧
      (new code flags size).flags &&& VhostUserHeaderFlag.reservedBits = 0 ∧
      (new code flags size).isValid =
        some (Req.isValid code && decide (size.toNat ≤ maxMsgSize)) ∧
      (∀ hdr : VhostUserMsgHeader R,
        (∀ c : R, (hdr.setCode c).fields = { hdr.fields with code := some c }) ∧
        (∀ ver, (hdr.setVersion ver).fields = { hdr.fields with version := ver &&& 0x3 }) ∧
        (∀ b, (hdr.setReply b).fields = { hdr.fields with reply := b }) ∧
        (∀ b, (hdr.setNeedReply b).fields = { hdr.fields with needReply := b }) ∧
        (∀ s, (hdr.setSize s).fields = { hdr.fields with size := s })) ∧
      (∀ (S : Type) [VhostUserSlaveReqHandler S] (T : Type) [Pod T] (h : SlaveReqHandler S)
        (req : VhostUserMsgHeader MasterReq) (payloadSize : Nat)
        (reply : VhostUserMsgHeader MasterReq) (h' : SlaveReqHandler S),
        req.isReply = false →
          (SlaveReqHandler.newReplyHeader T req payloadSize).run h = .ok reply h' →
            reply.isReplyFor req = some true) := by
  refine ⟨fields_new code flags size, reservedBits_new code flags size,
    isValid_new code flags size, fun hdr => ⟨fun c => ?_, fields_setVersion hdr,
      fields_setReply hdr, fields_setNeedReply hdr, fields_setSize hdr⟩,
    fun S _ T _ h req payloadSize _ _ hreq hrun =>
      SlaveReqHandler.isReplyFor_of_run_newReplyHeader T h payloadSize hreq hrun⟩
  rw [fields_setCode, LawfulReq.ofU32?_toU32]

open VhostUserMsgHeader in
theorem new_header_reads_back_and_setters_independent_getFeatures :
    (new MasterReq.getFeatures 0xf 8).fields =
        ⟨some MasterReq.getFeatures, 0x1, (0xf : UInt32) &&& VhostUserHeaderFlag.reply != 0,
          (0xf : UInt32) &&& VhostUserHeaderFlag.needReply != 0, 8⟩ ∧
      (new MasterReq.getFeatures 0xf 8).flags &&& VhostUserHeaderFlag.reservedBits = 0 ∧
      (new MasterReq.getFeatures 0xf 8).isValid =
        some (Req.isValid MasterReq.getFeatures && decide ((8 : UInt32).toNat ≤ maxMsgSize)) ∧
      (∀ hdr : VhostUserMsgHeader MasterReq,
        (∀ c : MasterReq, (hdr.setCode c).fields = { hdr.fields with code := some c }) ∧
        (∀ ver, (hdr.setVersion ver).fields = { hdr.fields with version := ver &&& 0x3 }) ∧
        (∀ b, (hdr.setReply b).fields = { hdr.fields with reply := b }) ∧
        (∀ b, (hdr.setNeedReply b).fields = { hdr.fields with needReply := b }) ∧
        (∀ s, (hdr.setSize s).fields = { hdr.fields with size := s })) ∧
      (∀ (S : Type) [VhostUserSlaveReqHandler S] (T : Type) [Pod T] (h : SlaveReqHandler S)
        (req : VhostUserMsgHeader MasterReq) (payloadSize : Nat)
        (reply : VhostUserMsgHeader MasterReq) (h' : SlaveReqHandler S),
        req.isReply = false →
          (SlaveReqHandler.newReplyHeader T req payloadSize).run h = .ok reply h' →
            reply.isReplyFor req = some true) :=
  new_header_reads_back_and_setters_independent MasterReq.getFeatures 0xf 8

example : (VhostUserMsgHeader.new MasterReq.getFeatures 0xf 8).flags = 0xd := by decide

end Vhost.User
