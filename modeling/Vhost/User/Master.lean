import Mathlib
import Vhost.User.Connection

/-!
# The master

`Master` of `master.rs` is the VMM side of a vhost-user connection: each
operation sends one request to the slave and, for the `get_*` requests, reads
the reply.  Its state, `MasterInternal`, caches the features the slave offered
and those acked, and the number of queues.

The master's endpoint is left as a parameter `E` with its system calls: a bare
socket (`Sock`) for the master on its own, or a socket whose peer is a slave
(`Link`, in `Vhost.User.Link`) for the two parties together.

The master's operations return `crate::Result`, whose errors here are always
`Error::VhostUserProtocol(e)` (every `?` converts a `vhost_user::Error`, and
`error_code` builds one); the model writes that error as `Fault.err e`.
-/

namespace Vhost.User

/-- `VhostUserMemoryRegionInfo` of `backend.rs`: a guest memory region and the
descriptor that maps it. -/
structure VhostUserMemoryRegionInfo where
  guestPhysAddr : UInt64
  memorySize : UInt64
  userspaceAddr : UInt64
  mmapOffset : UInt64
  mmapHandle : Fd
  deriving DecidableEq, Repr

/-- `MasterInternal`: the socket to the slave and the cached negotiation state.
Queue indexes are `usize`, 64 bits on the targets the crate builds for. -/
structure MasterInternal (E : Type) where
  mainSock : E
  virtioFeatures : UInt64
  ackedVirtioFeatures : UInt64
  protocolFeatures : UInt64
  ackedProtocolFeatures : UInt64
  protocolFeaturesReady : Bool
  maxQueueNum : UInt64
  error : Option Int32

namespace MasterInternal

variable {E : Type} [Os E]

instance : Os (MasterInternal E) :=
  Os.via MasterInternal.mainSock fun m sock => { m with mainSock := sock }

/-- The master on a bare socket. -/
instance : SockLens (MasterInternal Sock) where
  sock := MasterInternal.mainSock
  setSock m sock := { m with mainSock := sock }
  sock_setSock _ _ := rfl
  setSock_setSock _ _ _ := rfl
  setSock_sock _ := rfl

/-- `Master::new`: nothing negotiated, `max_queue_num` as given. -/
def new (ep : E) (maxQueueNum : UInt64) : MasterInternal E :=
  { mainSock := ep, virtioFeatures := 0, ackedVirtioFeatures := 0, protocolFeatures := 0,
    ackedProtocolFeatures := 0, protocolFeaturesReady := false, maxQueueNum := maxQueueNum,
    error := none }

/-- `check_state`. -/
def checkState : Prog (MasterInternal E) Unit := do
  checkFailed (← get).error

/-- `new_request_header`: version 1 and no other flag; `NEED_REPLY` is never set. -/
def newRequestHeader (request : MasterReq) (size : UInt32) : VhostUserMsgHeader MasterReq :=
  VhostUserMsgHeader.new request 0x1 size

/-- `send_request_header`. -/
def sendRequestHeader (code : MasterReq) (fds : Option (List Fd)) :
    Prog (MasterInternal E) (VhostUserMsgHeader MasterReq) := do
  checkState
  let hdr := newRequestHeader code 0
  sendHeader hdr fds
  pure hdr

/-- `send_request_with_body`. -/
def sendRequestWithBody {T : Type} [Pod T] (code : MasterReq) (msg : T)
    (fds : Option (List Fd)) : Prog (MasterInternal E) (VhostUserMsgHeader MasterReq) := do
  if Pod.size T > maxMsgSize then throw (.err .invalidParam)
  checkState
  let hdr := newRequestHeader code (UInt32.ofNat (Pod.size T))
  sendMessage hdr msg fds
  pure hdr

/-- `send_request_with_payload`: at most `MAX_MSG_SIZE` bytes of body and
payload, and at most `MAX_ATTACHED_FD_ENTRIES` descriptors. -/
def sendRequestWithPayload {T P : Type} [Pod T] [Pod P] (code : MasterReq) (msg : T)
    (payload : List P) (fds : Option (List Fd)) :
    Prog (MasterInternal E) (VhostUserMsgHeader MasterReq) := do
  let len := Pod.size T + payload.length * Pod.size P
  if len > maxMsgSize then throw (.err .invalidParam)
  if let some fdArr := fds then
    if fdArr.length > maxAttachedFdEntries then throw (.err .invalidParam)
  checkState
  let hdr := newRequestHeader code (UInt32.ofNat len)
  sendMessageWithPayload hdr msg payload fds
  pure hdr

/-- `send_fd_for_vring`: the queue index as the 64-bit body, the descriptor
attached. -/
def sendFdForVring (code : MasterReq) (queueIndex : UInt64) (fd : Fd) :
    Prog (MasterInternal E) (VhostUserMsgHeader MasterReq) := do
  if queueIndex ≥ (← get).maxQueueNum then throw (.err .invalidParam)
  checkState
  let msg := VhostUserU64.mk queueIndex
  let hdr := newRequestHeader code (UInt32.ofNat (Pod.size VhostUserU64))
  sendMessage hdr msg (some [fd])
  pure hdr

/-- `is_reply_for` as a test; a code that is not a discriminant is undefined. -/
def replyFor (reply hdr : VhostUserMsgHeader MasterReq) : Prog (MasterInternal E) Bool :=
  match reply.isReplyFor hdr with
  | some ok => pure ok
  | none => throw .undefined

/-- `recv_reply::<T>`: a reply to `hdr` with a valid body of type `T` and no
descriptor. -/
def recvReply (T : Type) [Pod T] [VhostUserMsgValidator T] (hdr : VhostUserMsgHeader MasterReq) :
    Prog (MasterInternal E) T := do
  if Pod.size T > maxMsgSize || hdr.isReply then throw (.err .invalidParam)
  checkState
  let (reply, body, rfds) ← recvBody (R := MasterReq) (T := T)
  if !(← replyFor reply hdr) || rfds.isSome || !VhostUserMsgValidator.isValid body then
    closeRfds rfds
    throw (.err .invalidMessage)
  pure body

/-- `recv_reply_with_payload::<T>`: a reply to `hdr` whose payload is read into a
buffer sized from the request, `hdr.get_size() - size_of::<T>()` bytes
(allocating from a negative size panics). -/
def recvReplyWithPayload (T : Type) [Pod T] [VhostUserMsgValidator T]
    (hdr : VhostUserMsgHeader MasterReq) :
    Prog (MasterInternal E) (T × List UInt8 × Option (List Fd)) := do
  if Pod.size T > maxMsgSize || hdr.isReply then throw (.err .invalidParam)
  checkState
  if hdr.getSize.toNat < Pod.size T then throw .panic
  let buf := List.replicate (hdr.getSize.toNat - Pod.size T) (0 : UInt8)
  let (reply, body, bytes, rfds, filled) ← recvPayloadIntoBuf (R := MasterReq) (T := T) buf
  if !(← replyFor reply hdr) || reply.getSize.toNat ≠ Pod.size T + bytes || rfds.isSome
      || !VhostUserMsgValidator.isValid body then
    closeRfds rfds
    throw (.err .invalidMessage)
  else if bytes > maxMsgSize - Pod.size T then throw (.err .invalidMessage)
  let filled := if bytes < buf.length then filled.take bytes else filled
  pure (body, filled, rfds)

/-- `wait_for_ack`: read an ack only when REPLY_ACK is acked and the request
asked for a reply; a nonzero ack is a slave failure. -/
def waitForAck (hdr : VhostUserMsgHeader MasterReq) : Prog (MasterInternal E) Unit := do
  if (← get).ackedProtocolFeatures &&& VhostUserProtocolFeatures.replyAck = 0
      || !hdr.isNeedReply then
    return
  checkState
  let (reply, body, rfds) ← recvBody (R := MasterReq) (T := VhostUserU64)
  if !(← replyFor reply hdr) || rfds.isSome || !VhostUserMsgValidator.isValid body then
    closeRfds rfds
    throw (.err .invalidMessage)
  if body.value ≠ 0 then throw (.err .slaveInternalError)

/-- `is_feature_mq_available`. -/
def isFeatureMqAvailable (m : MasterInternal E) : Bool :=
  m.ackedProtocolFeatures &&& VhostUserProtocolFeatures.mq != 0

end MasterInternal

/-- The loop of `Master::set_mem_table` over the regions: a refusal of a region
of size zero or without a descriptor, else the regions and descriptors of the
context, in order. -/
def memoryContext : List VhostUserMemoryRegionInfo →
    Except Error (List VhostUserMemoryRegion × List Fd)
  | [] => .ok ([], [])
  | region :: rest =>
      if region.memorySize = 0 || region.mmapHandle < 0 then .error .invalidParam
      else
        let reg : VhostUserMemoryRegion :=
          { guestPhysAddr := region.guestPhysAddr, memorySize := region.memorySize,
            userAddr := region.userspaceAddr, mmapOffset := region.mmapOffset }
        (memoryContext rest).map fun (regions, fds) => (reg :: regions, region.mmapHandle :: fds)

namespace Master

open MasterInternal

variable {E : Type} [Os E]

/-- `get_features`. -/
def getFeatures : Prog (MasterInternal E) UInt64 := do
  let hdr ← sendRequestHeader .getFeatures none
  let val ← recvReply VhostUserU64 hdr
  modify fun m => { m with virtioFeatures := val.value }
  pure val.value

/-- `set_features`: no ack is awaited; the acked set is what the slave offered
of `features`. -/
def setFeatures (features : UInt64) : Prog (MasterInternal E) Unit := do
  let _ ← sendRequestWithBody .setFeatures (VhostUserU64.mk features) none
  modify fun m => { m with ackedVirtioFeatures := features &&& m.virtioFeatures }

/-- `set_owner`. -/
def setOwner : Prog (MasterInternal E) Unit := do
  let _ ← sendRequestHeader .setOwner none

/-- `reset_owner`. -/
def resetOwner : Prog (MasterInternal E) Unit := do
  let _ ← sendRequestHeader .resetOwner none

/-- `set_mem_table`: between one and `MAX_ATTACHED_FD_ENTRIES` regions, sent with
their descriptors. -/
def setMemTable (regions : List VhostUserMemoryRegionInfo) : Prog (MasterInternal E) Unit := do
  if regions.isEmpty || regions.length > maxAttachedFdEntries then throw (.err .invalidParam)
  let (ctxRegions, ctxFds) ← Prog.lift (memoryContext regions)
  let body := VhostUserMemory.new (UInt32.ofNat ctxRegions.length)
  let hdr ← sendRequestWithPayload .setMemTable body ctxRegions (some ctxFds)
  waitForAck hdr

/-- `set_log_base`: the descriptor goes along only when LOG_SHMFD is acked. -/
def setLogBase (base : UInt64) (fd : Option Fd) : Prog (MasterInternal E) Unit := do
  let val := VhostUserU64.mk base
  if (← get).ackedProtocolFeatures &&& VhostUserProtocolFeatures.logShmfd != 0 && fd.isSome then
    let _ ← sendRequestWithBody .setLogBase val (fd.map fun fd => [fd])
  else
    let _ ← sendRequestWithBody .setLogBase val none

/-- `set_log_fd`. -/
def setLogFd (fd : Fd) : Prog (MasterInternal E) Unit := do
  let _ ← sendRequestHeader .setLogFd (some [fd])

/-- `set_vring_num` and `set_vring_base`: one body, each with its own request
code; the value is the ring size or the base offset. -/
def setVringState (code : MasterReq) (queueIndex : UInt64) (value : UInt16) :
    Prog (MasterInternal E) Unit := do
  if queueIndex ≥ (← get).maxQueueNum then throw (.err .invalidParam)
  let val := VhostUserVringState.mk queueIndex.toUInt32 value.toUInt32
  let hdr ← sendRequestWithBody code val none
  waitForAck hdr

/-- `set_vring_num`. -/
def setVringNum (queueIndex : UInt64) (num : UInt16) : Prog (MasterInternal E) Unit :=
  setVringState .setVringNum queueIndex num

/-- `set_vring_addr`: the flags must be within `VhostUserVringAddrFlags::all()`. -/
def setVringAddr (queueIndex : UInt64) (configData : VringConfigData) :
    Prog (MasterInternal E) Unit := do
  if queueIndex ≥ (← get).maxQueueNum
      || configData.flags &&& ~~~vhostUserVringAddrFlagsAll != 0 then
    throw (.err .invalidParam)
  let val := VhostUserVringAddr.fromConfigData queueIndex.toUInt32 configData
  let hdr ← sendRequestWithBody .setVringAddr val none
  waitForAck hdr

/-- `set_vring_base`. -/
def setVringBase (queueIndex : UInt64) (base : UInt16) : Prog (MasterInternal E) Unit :=
  setVringState .setVringBase queueIndex base

/-- `get_vring_base`. -/
def getVringBase (queueIndex : UInt64) : Prog (MasterInternal E) UInt32 := do
  if queueIndex ≥ (← get).maxQueueNum then throw (.err .invalidParam)
  let req := VhostUserVringState.mk queueIndex.toUInt32 0
  let hdr ← sendRequestWithBody .getVringBase req none
  let reply ← recvReply VhostUserVringState hdr
  pure reply.num

/-- `set_vring_call`, `set_vring_kick` and `set_vring_err`: one body, each with
its own request code. -/
def setVringFd (code : MasterReq) (queueIndex : UInt64) (fd : Fd) :
    Prog (MasterInternal E) Unit := do
  if queueIndex ≥ (← get).maxQueueNum then throw (.err .invalidParam)
  let _ ← sendFdForVring code queueIndex fd

/-- `set_vring_call`. -/
def setVringCall (queueIndex : UInt64) (fd : Fd) : Prog (MasterInternal E) Unit :=
  setVringFd .setVringCall queueIndex fd

/-- `set_vring_kick`. -/
def setVringKick (queueIndex : UInt64) (fd : Fd) : Prog (MasterInternal E) Unit :=
  setVringFd .setVringKick queueIndex fd

/-- `set_vring_err`. -/
def setVringErr (queueIndex : UInt64) (fd : Fd) : Prog (MasterInternal E) Unit :=
  setVringFd .setVringErr queueIndex fd

/-- `get_protocol_features`: only once PROTOCOL_FEATURES is offered and acked;
unknown bits in the reply are refused after they are cached. -/
def getProtocolFeatures : Prog (MasterInternal E) UInt64 := do
  let m ← get
  if m.virtioFeatures &&& protocolFeaturesBit = 0
      || m.ackedVirtioFeatures &&& protocolFeaturesBit = 0 then
    throw (.err .invalidOperation)
  let hdr ← sendRequestHeader .getProtocolFeatures none
  let val ← recvReply VhostUserU64 hdr
  modify fun m => { m with protocolFeatures := val.value }
  match VhostUserProtocolFeatures.fromBits val.value with
  | some features => pure features
  | none => throw (.err .invalidMessage)

/-- `set_protocol_features`: no ack is awaited. -/
def setProtocolFeatures (features : UInt64) : Prog (MasterInternal E) Unit := do
  let m ← get
  if m.virtioFeatures &&& protocolFeaturesBit = 0
      || m.ackedVirtioFeatures &&& protocolFeaturesBit = 0 then
    throw (.err .invalidOperation)
  let _ ← sendRequestWithBody .setProtocolFeatures (VhostUserU64.mk features) none
  modify fun m => { m with ackedProtocolFeatures := features, protocolFeaturesReady := true }

/-- `get_queue_num`: at most `VHOST_USER_MAX_VRINGS` queues are believed. -/
def getQueueNum : Prog (MasterInternal E) UInt64 := do
  if !(← get).isFeatureMqAvailable then throw (.err .invalidOperation)
  let hdr ← sendRequestHeader .getQueueNum none
  let val ← recvReply VhostUserU64 hdr
  if val.value > vhostUserMaxVrings then throw (.err .invalidMessage)
  modify fun m => { m with maxQueueNum := val.value }
  pure val.value

/-- `set_vring_enable`: only once PROTOCOL_FEATURES is acked. -/
def setVringEnable (queueIndex : UInt64) (enable : Bool) : Prog (MasterInternal E) Unit := do
  let m ← get
  if m.ackedVirtioFeatures &&& protocolFeaturesBit = 0 then throw (.err .invalidOperation)
  else if queueIndex ≥ m.maxQueueNum then throw (.err .invalidParam)
  let flag : UInt32 := if enable then 1 else 0
  let val := VhostUserVringState.mk queueIndex.toUInt32 flag
  let hdr ← sendRequestWithBody .setVringEnable val none
  waitForAck hdr

/-- `get_config`: a valid config head and the caller's buffer as payload; the
reply must carry no descriptor, a nonzero size, and the size asked for. -/
def getConfig (offset size flags : UInt32) (buf : List UInt8) :
    Prog (MasterInternal E) (VhostUserConfig × List UInt8) := do
  let body := VhostUserConfig.new offset size flags
  if !VhostUserMsgValidator.isValid body then throw (.err .invalidParam)
  if (← get).ackedProtocolFeatures &&& VhostUserProtocolFeatures.config = 0 then
    throw (.err .invalidOperation)
  let hdr ← sendRequestWithPayload .getConfig body buf none
  let (bodyReply, bufReply, rfds) ← recvReplyWithPayload VhostUserConfig hdr
  if rfds.isSome then
    closeRfds rfds
    throw (.err .invalidMessage)
  else if bodyReply.size = 0 then throw (.err .slaveInternalError)
  else if bodyReply.size ≠ body.size || bodyReply.size.toNat ≠ buf.length then
    throw (.err .invalidMessage)
  pure (bodyReply, bufReply)

/-- `set_config`: at most `MAX_MSG_SIZE` bytes, in a valid config head. -/
def setConfig (offset flags : UInt32) (buf : List UInt8) : Prog (MasterInternal E) Unit := do
  if buf.length > maxMsgSize then throw (.err .invalidParam)
  let body := VhostUserConfig.new offset (UInt32.ofNat buf.length) flags
  if !VhostUserMsgValidator.isValid body then throw (.err .invalidParam)
  if (← get).ackedProtocolFeatures &&& VhostUserProtocolFeatures.config = 0 then
    throw (.err .invalidOperation)
  let hdr ← sendRequestWithPayload .setConfig body buf none
  waitForAck hdr

/-- `set_slave_request_fd`: only once SLAVE_REQ is acked. -/
def setSlaveRequestFd (fd : Fd) : Prog (MasterInternal E) Unit := do
  if (← get).ackedProtocolFeatures &&& VhostUserProtocolFeatures.slaveReq = 0 then
    throw (.err .invalidOperation)
  let _ ← sendRequestHeader .setSlaveReqFd (some [fd])

end Master

end Vhost.User
