import Mathlib
import Vhost.User.Connection

/-!
# The master's handler of slave requests

`MasterReqHandler<S>` of `master_req_handler.rs` serves the slave channel: the
slave asks the master to map, unmap, sync or copy file ranges (virtio-fs) or
reports a configuration change.  Each request is read, checked, relayed to the
master-side backend `S`, and answered with a `VhostUserU64` when the request
asks for a reply: the backend's value, or a negated error number.

The backend trait `VhostUserMasterReqHandler` becomes a class with the trait's
default methods; its state records every call made (`calls`).
-/

namespace Vhost.User

/-- `HandlerResult<u64>` of a master-side backend. -/
abbrev HandlerResult (α : Type) := Except IoError α

/-- The master-side backend, `VhostUserMasterReqHandler`.  Every default answers
`ENOSYS`; the defaults of the two descriptor-carrying requests also close the
descriptor, which is the backend's own business here. -/
class VhostUserMasterReqHandler (S : Type) where
  handleConfigChange : S → HandlerResult UInt64 × S := fun s => (.error (.os Errno.enosys), s)
  fsSlaveMap : VhostUserFSSlaveMsg → Fd → S → HandlerResult UInt64 × S :=
    fun _ _ s => (.error (.os Errno.enosys), s)
  fsSlaveUnmap : VhostUserFSSlaveMsg → S → HandlerResult UInt64 × S :=
    fun _ s => (.error (.os Errno.enosys), s)
  fsSlaveSync : VhostUserFSSlaveMsg → S → HandlerResult UInt64 × S :=
    fun _ s => (.error (.os Errno.enosys), s)
  fsSlaveIo : VhostUserFSSlaveMsg → Fd → S → HandlerResult UInt64 × S :=
    fun _ _ s => (.error (.os Errno.enosys), s)

/-- A call of the master-side backend, with its arguments. -/
inductive MasterCall
  | handleConfigChange
  | fsSlaveMap (fs : VhostUserFSSlaveMsg) (fd : Fd)
  | fsSlaveUnmap (fs : VhostUserFSSlaveMsg)
  | fsSlaveSync (fs : VhostUserFSSlaveMsg)
  | fsSlaveIo (fs : VhostUserFSSlaveMsg) (fd : Fd)
  deriving DecidableEq, Repr

/-- `MasterReqHandler<S>`: the master's end of the slave channel, the backend and
the failure mark. -/
structure MasterReqHandler (S : Type) where
  subSock : Sock
  backend : S
  error : Option Int32
  calls : List MasterCall

namespace MasterReqHandler

variable {S : Type} [VhostUserMasterReqHandler S]

instance : SockLens (MasterReqHandler S) where
  sock := MasterReqHandler.subSock
  setSock h sock := { h with subSock := sock }
  sock_setSock _ _ := rfl
  setSock_setSock _ _ _ := rfl
  setSock_sock _ := rfl

/-- `MasterReqHandler::new`, on the end `sub_sock` of the socket pair it opens;
the other end is for the slave, through SET_SLAVE_REQ_FD. -/
def new (subSock : Sock) (backend : S) : MasterReqHandler S :=
  { subSock := subSock, backend := backend, error := none, calls := [] }

/-- `set_failed`. -/
def setFailed (h : MasterReqHandler S) (error : Int32) : MasterReqHandler S :=
  { h with error := some error }

/-- `self.backend.lock().unwrap().method(..).map_err(Error::ReqHandlerError)`,
with the call recorded. -/
def callBackend (call : MasterCall) (method : S → HandlerResult UInt64 × S) :
    Prog (MasterReqHandler S) (Except Error UInt64) :=
  modifyGet fun h =>
    let (res, backend) := method h.backend
    (res.mapError Error.reqHandlerError, { h with backend := backend, calls := h.calls ++ [call] })

/-- `check_state`. -/
def checkState : Prog (MasterReqHandler S) Unit := do
  checkFailed (← get).error

/-- `check_msg_size`. -/
def checkMsgSize (hdr : VhostUserMsgHeader SlaveReq) (size expected : Nat) :
    Prog (MasterReqHandler S) Unit :=
  Vhost.User.checkMsgSize hdr size expected

/-- `check_attached_rfds`: FS_MAP and FS_IO carry exactly one descriptor, every
other code none; a wrong count is refused, and the descriptors closed. -/
def checkAttachedRfds (hdr : VhostUserMsgHeader SlaveReq) (rfds : Option (List Fd)) :
    Prog (MasterReqHandler S) (Option (List Fd)) :=
  match hdr.getCode with
  | some .fsMap | some .fsIo =>
      match rfds with
      | none => throw (.err .invalidMessage)
      | some fds =>
          if fds.length ≠ 1 then do
            closeRfds (some fds)
            throw (.err .invalidMessage)
          else pure (some fds)
  | _ => do
      if rfds.isSome then
        closeRfds rfds
        throw (.err .invalidMessage)
      pure rfds

/-- `extract_msg_body::<T>`. -/
def extractMsgBody (T : Type) [Pod T] [VhostUserMsgValidator T]
    (hdr : VhostUserMsgHeader SlaveReq) (size : Nat) (buf : List UInt8) :
    Prog (MasterReqHandler S) T :=
  Vhost.User.extractMsgBody T hdr size buf

/-- `new_reply_header::<T>`: a reply with the request's code and a body of
`size_of::<T>()` bytes. -/
def newReplyHeader (T : Type) [Pod T] (req : VhostUserMsgHeader SlaveReq) :
    Prog (MasterReqHandler S) (VhostUserMsgHeader SlaveReq) := do
  if Pod.size T > maxMsgSize then throw (.err .invalidParam)
  checkState
  match req.getCode with
  | none => throw .undefined
  | some code =>
      pure (VhostUserMsgHeader.new code VhostUserHeaderFlag.reply (UInt32.ofNat (Pod.size T)))

/-- The `u64` an ack carries for a request's result: the value itself, or the
negated error number of a backend failure (`EINVAL` for every other error),
negated in `i32` and sign-extended. -/
def ackValue (res : Except Error UInt64) : UInt64 :=
  let negated (errno : Int32) : UInt64 := (-errno).toInt64.toUInt64
  match res with
  | .ok n => n
  | .error (.reqHandlerError (.os rawerr)) => negated rawerr
  | .error _ => negated Errno.einval

/-- `send_ack_message`: an ack exactly when the request asked for a reply. -/
def sendAckMessage (req : VhostUserMsgHeader SlaveReq) (res : Except Error UInt64) :
    Prog (MasterReqHandler S) Unit := do
  if req.isNeedReply then
    let hdr ← newReplyHeader VhostUserU64 req
    sendMessage hdr (VhostUserU64.mk (ackValue res)) none

/-- `rfds.unwrap()[0]`. -/
def firstFd (rfds : Option (List Fd)) : Prog (MasterReqHandler S) Fd :=
  match rfds with
  | some (fd :: _) => pure fd
  | _ => throw .panic

/-- `MasterReqHandler::handle_request`: receive one request, relay it, ack it. -/
def handleRequest : Prog (MasterReqHandler S) UInt64 := do
  checkState
  let (hdr, rfds) ← recvHeader (R := SlaveReq)
  let rfds ← checkAttachedRfds hdr rfds
  let (size, buf) ← readRequestBody hdr
  let res ← match hdr.getCode with
    | some .configChangeMsg => do
        checkMsgSize hdr size 0
        callBackend .handleConfigChange VhostUserMasterReqHandler.handleConfigChange
    | some .fsMap => do
        let msg ← extractMsgBody VhostUserFSSlaveMsg hdr size buf
        let fd ← firstFd rfds
        callBackend (.fsSlaveMap msg fd) (VhostUserMasterReqHandler.fsSlaveMap msg fd)
    | some .fsUnmap => do
        let msg ← extractMsgBody VhostUserFSSlaveMsg hdr size buf
        callBackend (.fsSlaveUnmap msg) (VhostUserMasterReqHandler.fsSlaveUnmap msg)
    | some .fsSync => do
        let msg ← extractMsgBody VhostUserFSSlaveMsg hdr size buf
        callBackend (.fsSlaveSync msg) (VhostUserMasterReqHandler.fsSlaveSync msg)
    | some .fsIo => do
        let msg ← extractMsgBody VhostUserFSSlaveMsg hdr size buf
        let fd ← firstFd rfds
        callBackend (.fsSlaveIo msg fd) (VhostUserMasterReqHandler.fsSlaveIo msg fd)
    | _ => pure (.error .invalidMessage)
  sendAckMessage hdr res
  Prog.lift res

end MasterReqHandler

end Vhost.User
