import Mathlib
import Vhost.User.Connection

/-!
# The slave's request handler

`SlaveReqHandler<S>` of `slave_req_handler.rs` reads one request at a time from
the master, checks it, relays it to the device backend `S` and, for some
requests, replies.  It also keeps the feature negotiation state: the virtio
features the backend offered and the master acked, the same for protocol
features, and `reply_ack_enabled`, which decides whether the handler answers
set-type requests with an acknowledgement.

The backend trait `VhostUserSlaveReqHandler` becomes a class whose methods act
on the backend's state; a proof about every backend is a proof for every
instance.  The handler's state records, besides its fields, each backend call
made (`calls`), so that what the backend was handed can be stated.
-/

namespace Vhost.User

/-- The device backend of a slave, `VhostUserSlaveReqHandler`: every method takes
the backend's state and returns its `Result` with the new state. -/
class VhostUserSlaveReqHandler (S : Type) where
  setOwner : S → Except Error Unit × S
  resetOwner : S → Except Error Unit × S
  getFeatures : S → Except Error UInt64 × S
  setFeatures : UInt64 → S → Except Error Unit × S
  setMemTable : List VhostUserMemoryRegion → List Fd → S → Except Error Unit × S
  setVringNum : UInt32 → UInt32 → S → Except Error Unit × S
  setVringAddr : UInt32 → UInt32 → UInt64 → UInt64 → UInt64 → UInt64 → S →
    Except Error Unit × S
  setVringBase : UInt32 → UInt32 → S → Except Error Unit × S
  getVringBase : UInt32 → S → Except Error VhostUserVringState × S
  setVringKick : UInt8 → Option Fd → S → Except Error Unit × S
  setVringCall : UInt8 → Option Fd → S → Except Error Unit × S
  setVringErr : UInt8 → Option Fd → S → Except Error Unit × S
  getProtocolFeatures : S → Except Error UInt64 × S
  setProtocolFeatures : UInt64 → S → Except Error Unit × S
  getQueueNum : S → Except Error UInt64 × S
  setVringEnable : UInt32 → Bool → S → Except Error Unit × S
  getConfig : UInt32 → UInt32 → UInt32 → S → Except Error (List UInt8) × S
  setConfig : UInt32 → List UInt8 → UInt32 → S → Except Error Unit × S
  /-- Receives the `SlaveFsCacheReq` built on the descriptor of the slave channel;
  the trait's default drops it. -/
  setSlaveReqFd : Fd → S → S := fun _ backend => backend

/-- A call of the slave's backend, with the arguments it was given. -/
inductive SlaveCall
  | setOwner
  | resetOwner
  | getFeatures
  | setFeatures (features : UInt64)
  | setMemTable (regions : List VhostUserMemoryRegion) (fds : List Fd)
  | setVringNum (index num : UInt32)
  | setVringAddr (index flags : UInt32) (descriptor used available log : UInt64)
  | setVringBase (index base : UInt32)
  | getVringBase (index : UInt32)
  | setVringKick (index : UInt8) (fd : Option Fd)
  | setVringCall (index : UInt8) (fd : Option Fd)
  | setVringErr (index : UInt8) (fd : Option Fd)
  | getProtocolFeatures
  | setProtocolFeatures (features : UInt64)
  | getQueueNum
  | setVringEnable (index : UInt32) (enable : Bool)
  | getConfig (offset size flags : UInt32)
  | setConfig (offset : UInt32) (buf : List UInt8) (flags : UInt32)
  | setSlaveReqFd (fd : Fd)
  deriving DecidableEq, Repr

/-- `SlaveReqHandler<S>`: the socket to the master, the backend, the negotiated
features and the failure flag. -/
structure SlaveReqHandler (S : Type) where
  mainSock : Sock
  backend : S
  virtioFeatures : UInt64
  ackedVirtioFeatures : UInt64
  protocolFeatures : UInt64
  ackedProtocolFeatures : UInt64
  replyAckEnabled : Bool
  error : Option Int32
  calls : List SlaveCall

namespace SlaveReqHandler

variable {S : Type} [VhostUserSlaveReqHandler S]

instance : SockLens (SlaveReqHandler S) where
  sock := SlaveReqHandler.mainSock
  setSock h sock := { h with mainSock := sock }
  sock_setSock _ _ := rfl
  setSock_setSock _ _ _ := rfl
  setSock_sock _ := rfl

/-- `SlaveReqHandler::new`: nothing negotiated yet. -/
def new (mainSock : Sock) (backend : S) : SlaveReqHandler S :=
  { mainSock := mainSock, backend := backend, virtioFeatures := 0, ackedVirtioFeatures := 0,
    protocolFeatures := 0, ackedProtocolFeatures := 0, replyAckEnabled := false,
    error := none, calls := [] }

/-- `set_failed`. -/
def setFailed (h : SlaveReqHandler S) (error : Int32) : SlaveReqHandler S :=
  { h with error := some error }

/-- `self.backend.lock().unwrap().method(..)`: run a backend method and record
the call; its `Result` is handed back as a value. -/
def callBackend {α : Type} (call : SlaveCall) (method : S → Except Error α × S) :
    Prog (SlaveReqHandler S) (Except Error α) :=
  modifyGet fun h =>
    let (res, backend) := method h.backend
    (res, { h with backend := backend, calls := h.calls ++ [call] })

/-- `check_state`. -/
def checkState : Prog (SlaveReqHandler S) Unit := do
  checkFailed (← get).error

/-- `check_request_size`. -/
def checkRequestSize (hdr : VhostUserMsgHeader MasterReq) (size expected : Nat) :
    Prog (SlaveReqHandler S) Unit :=
  checkMsgSize hdr size expected

/-- `check_attached_rfds`: the eight codes that may carry descriptors keep them;
any other code carrying descriptors has them closed and is refused. -/
def checkAttachedRfds (hdr : VhostUserMsgHeader MasterReq) (rfds : Option (List Fd)) :
    Prog (SlaveReqHandler S) (Option (List Fd)) :=
  match hdr.getCode with
  | some .setMemTable | some .setVringCall | some .setVringKick | some .setVringErr
  | some .setLogBase | some .setLogFd | some .setSlaveReqFd | some .setInflightFd =>
      pure rfds
  | _ => do
      if rfds.isSome then
        closeRfds rfds
        throw (.err .invalidMessage)
      pure rfds

/-- `extract_request_body::<T>`. -/
def extractRequestBody (T : Type) [Pod T] [VhostUserMsgValidator T]
    (hdr : VhostUserMsgHeader MasterReq) (size : Nat) (buf : List UInt8) :
    Prog (SlaveReqHandler S) T :=
  extractMsgBody T hdr size buf

/-- `update_reply_ack_flag`: acks are on when PROTOCOL_FEATURES is offered and
acked and REPLY_ACK is offered and acked. -/
def updateReplyAckFlag : Prog (SlaveReqHandler S) Unit :=
  modify fun h =>
    let vflag := protocolFeaturesBit
    let pflag := VhostUserProtocolFeatures.replyAck
    if h.virtioFeatures &&& vflag != 0 && h.ackedVirtioFeatures &&& vflag != 0
        && VhostUserProtocolFeatures.contains h.protocolFeatures pflag
        && h.ackedProtocolFeatures &&& pflag != 0 then
      { h with replyAckEnabled := true }
    else { h with replyAckEnabled := false }

/-- `new_reply_header::<T>`: a reply with the request's code and a body of
`size_of::<T>() + payload_size` bytes. -/
def newReplyHeader (T : Type) [Pod T] (req : VhostUserMsgHeader MasterReq)
    (payloadSize : Nat) : Prog (SlaveReqHandler S) (VhostUserMsgHeader MasterReq) := do
  if Pod.size T > maxMsgSize then throw (.err .invalidParam)
  checkState
  match req.getCode with
  | none => throw .undefined
  | some code =>
      pure (VhostUserMsgHeader.new code VhostUserHeaderFlag.reply
        (UInt32.ofNat (Pod.size T + payloadSize)))

/-- `send_ack_message`: when acks are on, a `VhostUserU64` reply, 0 for success
and 1 for failure. -/
def sendAckMessage (req : VhostUserMsgHeader MasterReq) (res : Except Error Unit) :
    Prog (SlaveReqHandler S) Unit := do
  if (← get).replyAckEnabled then
    let hdr ← newReplyHeader VhostUserU64 req 0
    let val : UInt64 := match res with
      | .ok _ => 0
      | .error _ => 1
    sendMessage hdr (VhostUserU64.mk val) none

/-- `send_reply_message`. -/
def sendReplyMessage {T : Type} [Pod T] (req : VhostUserMsgHeader MasterReq) (msg : T) :
    Prog (SlaveReqHandler S) Unit := do
  let hdr ← newReplyHeader T req 0
  sendMessage hdr msg none

/-- `send_reply_with_payload`. -/
def sendReplyWithPayload {T P : Type} [Pod T] [Pod P] (req : VhostUserMsgHeader MasterReq)
    (msg : T) (payload : List P) : Prog (SlaveReqHandler S) Unit := do
  let hdr ← newReplyHeader T req payload.length
  sendMessageWithPayload hdr msg payload none

/-- `SlaveReqHandler::set_mem_table`: a `VhostUserMemory` head, as many regions as
it counts and as many descriptors, every region valid; the descriptors are
closed on each refusal after the size check. -/
def setMemTable (hdr : VhostUserMsgHeader MasterReq) (size : Nat) (buf : List UInt8)
    (rfds : Option (List Fd)) : Prog (SlaveReqHandler S) (Except Error Unit) := do
  checkRequestSize hdr size hdr.getSize.toNat
  let hdrsize := Pod.size VhostUserMemory
  if size < hdrsize then
    closeRfds rfds
    throw (.err .invalidMessage)
  let msg : VhostUserMemory ← castBuf buf
  if !VhostUserMsgValidator.isValid msg then
    closeRfds rfds
    throw (.err .invalidMessage)
  if size ≠ hdrsize + msg.numRegions.toNat * Pod.size VhostUserMemoryRegion then
    closeRfds rfds
    throw (.err .invalidMessage)
  let fds ← match rfds with
    | none => throw (.err .invalidMessage)
    | some fds =>
        if fds.length ≠ msg.numRegions.toNat then do
          closeRfds (some fds)
          throw (.err .invalidMessage)
        else pure fds
  let regions : List VhostUserMemoryRegion :=
    Pod.readList msg.numRegions.toNat (buf.drop hdrsize)
  if regions.any fun region => !VhostUserMsgValidator.isValid region then
    closeRfds (some fds)
    throw (.err .invalidMessage)
  callBackend (.setMemTable regions fds) (VhostUserSlaveReqHandler.setMemTable regions fds)

/-- `SlaveReqHandler::get_config`: the config head read from the front of the
body, unchecked against the body's length; the reply carries the backend's
bytes, or a zero size when the backend failed or returned the wrong length. -/
def getConfig (hdr : VhostUserMsgHeader MasterReq) (buf : List UInt8) :
    Prog (SlaveReqHandler S) Unit := do
  let msg : VhostUserConfig ← castBuf buf
  if !VhostUserMsgValidator.isValid msg then throw (.err .invalidMessage)
  let payloadOffset := Pod.size VhostUserConfig
  if buf.length - payloadOffset ≠ msg.size.toNat then throw (.err .invalidMessage)
  let flags ← match VhostUserConfigFlags.fromBits msg.flags with
    | some val => pure val
    | none => throw (.err .invalidMessage)
  let res ← callBackend (.getConfig msg.offset msg.size flags)
    (VhostUserSlaveReqHandler.getConfig msg.offset msg.size flags)
  match res with
  | .ok data =>
      if data.length = msg.size.toNat then
        let reply := VhostUserConfig.new msg.offset (UInt32.ofNat data.length) flags
        sendReplyWithPayload hdr reply data
      else
        let reply := VhostUserConfig.new msg.offset 0 flags
        sendReplyMessage hdr reply
  | .error _ =>
      let reply := VhostUserConfig.new msg.offset 0 flags
      sendReplyMessage hdr reply

/-- `SlaveReqHandler::set_config`: a config head and exactly `size` more bytes;
the backend is handed the body buffer `buf`. -/
def setConfig (hdr : VhostUserMsgHeader MasterReq) (size : Nat) (buf : List UInt8) :
    Prog (SlaveReqHandler S) Unit := do
  if size < Pod.size VhostUserConfig then throw (.err .invalidMessage)
  let msg : VhostUserConfig ← castBuf buf
  if !VhostUserMsgValidator.isValid msg then throw (.err .invalidMessage)
  if size - Pod.size VhostUserConfig ≠ msg.size.toNat then throw (.err .invalidMessage)
  let flags ← match VhostUserConfigFlags.fromBits msg.flags with
    | some val => pure val
    | none => throw (.err .invalidMessage)
  let res ← callBackend (.setConfig msg.offset buf flags)
    (VhostUserSlaveReqHandler.setConfig msg.offset buf flags)
  sendAckMessage hdr res

/-- `SlaveReqHandler::set_slave_req_fd`: exactly one descriptor, handed to the
backend as the slave channel. -/
def setSlaveReqFd (hdr : VhostUserMsgHeader MasterReq) (rfds : Option (List Fd)) :
    Prog (SlaveReqHandler S) Unit :=
  match rfds with
  | some [fd] => do
      modify fun h => { h with backend := VhostUserSlaveReqHandler.setSlaveReqFd fd h.backend,
                               calls := h.calls ++ [.setSlaveReqFd fd] }
      sendAckMessage hdr (.ok ())
  | _ => throw (.err .invalidMessage)

/-- `SlaveReqHandler::handle_vring_fd_request`: bits 0 to 7 of the body are the
queue index and bit 8 says that no descriptor comes with it. -/
def handleVringFdRequest (buf : List UInt8) (rfds : Option (List Fd)) :
    Prog (SlaveReqHandler S) (UInt8 × Option Fd) := do
  let msg : VhostUserU64 ← castBuf buf
  if !VhostUserMsgValidator.isValid msg then throw (.err .invalidMessage)
  let nofd := msg.value &&& 0x100 == 0x100
  let rfd ← match rfds with
    | some fds =>
        if !nofd && fds.length == 1 then pure (fds.head?)
        else if (nofd && !fds.isEmpty) || (!nofd && fds.length != 1) then do
          closeRfds (some fds)
          throw (.err .invalidMessage)
        else pure none
    | none => if !nofd then throw (.err .invalidMessage) else pure none
  pure (msg.value.toUInt8, rfd)

/-- The `match hdr.get_code()` of `handle_request`: one arm per request the
slave serves, on the header, the body read and the descriptors kept. -/
def dispatchRequest (hdr : VhostUserMsgHeader MasterReq) (size : Nat) (buf : List UInt8)
    (rfds : Option (List Fd)) : Prog (SlaveReqHandler S) Unit := do
  match hdr.getCode with
  | some .setOwner =>
      checkRequestSize hdr size 0
      Prog.lift (← callBackend .setOwner VhostUserSlaveReqHandler.setOwner)
  | some .resetOwner =>
      checkRequestSize hdr size 0
      Prog.lift (← callBackend .resetOwner VhostUserSlaveReqHandler.resetOwner)
  | some .getFeatures =>
      checkRequestSize hdr size 0
      let features ← Prog.lift (← callBackend .getFeatures VhostUserSlaveReqHandler.getFeatures)
      sendReplyMessage hdr (VhostUserU64.mk features)
      modify fun h => { h with virtioFeatures := features }
      updateReplyAckFlag
  | some .setFeatures =>
      let msg ← extractRequestBody VhostUserU64 hdr size buf
      Prog.lift (← callBackend (.setFeatures msg.value)
        (VhostUserSlaveReqHandler.setFeatures msg.value))
      modify fun h => { h with ackedVirtioFeatures := msg.value }
      updateReplyAckFlag
  | some .setMemTable =>
      let res ← Prog.result (setMemTable hdr size buf rfds)
      sendAckMessage hdr (res.bind id)
  | some .setVringNum =>
      let msg ← extractRequestBody VhostUserVringState hdr size buf
      let res ← callBackend (.setVringNum msg.index msg.num)
        (VhostUserSlaveReqHandler.setVringNum msg.index msg.num)
      sendAckMessage hdr res
  | some .setVringAddr =>
      let msg ← extractRequestBody VhostUserVringAddr hdr size buf
      let flags ← if msg.flags &&& ~~~vhostUserVringAddrFlagsAll = 0 then pure msg.flags
        else throw (.err .invalidMessage)
      let res ← callBackend
        (.setVringAddr msg.index flags msg.descriptor msg.used msg.available msg.log)
        (VhostUserSlaveReqHandler.setVringAddr msg.index flags msg.descriptor msg.used
          msg.available msg.log)
      sendAckMessage hdr res
  | some .setVringBase =>
      let msg ← extractRequestBody VhostUserVringState hdr size buf
      let res ← callBackend (.setVringBase msg.index msg.num)
        (VhostUserSlaveReqHandler.setVringBase msg.index msg.num)
      sendAckMessage hdr res
  | some .getVringBase =>
      let msg ← extractRequestBody VhostUserVringState hdr size buf
      let reply ← Prog.lift (← callBackend (.getVringBase msg.index)
        (VhostUserSlaveReqHandler.getVringBase msg.index))
      sendReplyMessage hdr reply
  | some .setVringCall =>
      checkRequestSize hdr size (Pod.size VhostUserU64)
      let (index, rfd) ← handleVringFdRequest buf rfds
      let res ← callBackend (.setVringCall index rfd)
        (VhostUserSlaveReqHandler.setVringCall index rfd)
      sendAckMessage hdr res
  | some .setVringKick =>
      checkRequestSize hdr size (Pod.size VhostUserU64)
      let (index, rfd) ← handleVringFdRequest buf rfds
      let res ← callBackend (.setVringKick index rfd)
        (VhostUserSlaveReqHandler.setVringKick index rfd)
      sendAckMessage hdr res
  | some .setVringErr =>
      checkRequestSize hdr size (Pod.size VhostUserU64)
      let (index, rfd) ← handleVringFdRequest buf rfds
      let res ← callBackend (.setVringErr index rfd)
        (VhostUserSlaveReqHandler.setVringErr index rfd)
      sendAckMessage hdr res
  | some .getProtocolFeatures =>
      checkRequestSize hdr size 0
      let features ← Prog.lift (← callBackend .getProtocolFeatures
        VhostUserSlaveReqHandler.getProtocolFeatures)
      sendReplyMessage hdr (VhostUserU64.mk features)
      modify fun h => { h with protocolFeatures := features }
      updateReplyAckFlag
  | some .setProtocolFeatures =>
      let msg ← extractRequestBody VhostUserU64 hdr size buf
      Prog.lift (← callBackend (.setProtocolFeatures msg.value)
        (VhostUserSlaveReqHandler.setProtocolFeatures msg.value))
      modify fun h => { h with ackedProtocolFeatures := msg.value }
      updateReplyAckFlag
  | some .getQueueNum =>
      if (← get).ackedProtocolFeatures &&& VhostUserProtocolFeatures.mq = 0 then
        throw (.err .invalidOperation)
      checkRequestSize hdr size 0
      let num ← Prog.lift (← callBackend .getQueueNum VhostUserSlaveReqHandler.getQueueNum)
      sendReplyMessage hdr (VhostUserU64.mk num)
  | some .setVringEnable =>
      let msg ← extractRequestBody VhostUserVringState hdr size buf
      if (← get).ackedProtocolFeatures &&& VhostUserProtocolFeatures.mq = 0
          && msg.index > 0 then
        throw (.err .invalidOperation)
      let enable ← match msg.num with
        | 1 => pure true
        | 0 => pure false
        | _ => throw (.err .invalidParam)
      let res ← callBackend (.setVringEnable msg.index enable)
        (VhostUserSlaveReqHandler.setVringEnable msg.index enable)
      sendAckMessage hdr res
  | some .getConfig =>
      if (← get).ackedProtocolFeatures &&& VhostUserProtocolFeatures.config = 0 then
        throw (.err .invalidOperation)
      getConfig hdr buf
  | some .setConfig =>
      if (← get).ackedProtocolFeatures &&& VhostUserProtocolFeatures.config = 0 then
        throw (.err .invalidOperation)
      checkRequestSize hdr size hdr.getSize.toNat
      setConfig hdr size buf
  | some .setSlaveReqFd =>
      if (← get).ackedProtocolFeatures &&& VhostUserProtocolFeatures.slaveReq = 0 then
        throw (.err .invalidOperation)
      setSlaveReqFd hdr rfds
  | _ => throw (.err .invalidMessage)

/-- `SlaveReqHandler::handle_request`: receive and handle one request. -/
def handleRequest : Prog (SlaveReqHandler S) Unit := do
  checkState
  let (hdr, rfds) ← recvHeader (R := MasterReq)
  let rfds ← checkAttachedRfds hdr rfds
  let (size, buf) ← readRequestBody hdr
  dispatchRequest hdr size buf rfds

end SlaveReqHandler

end Vhost.User
