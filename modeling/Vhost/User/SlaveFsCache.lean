import Mathlib
import Vhost.User.Connection

/-!
# The slave's requester on the slave channel

`SlaveFsCacheReq` of `slave_fs_cache.rs` is what a slave backend is handed with
SET_SLAVE_REQ_FD: the slave's end of the slave channel.  Its virtio-fs requests
always ask for a reply, and each waits for the master's ack.

It implements the master-side trait for FS_MAP and FS_UNMAP by forwarding them;
those two methods are given here as programs on its own state, with the
endpoint `E` left as a parameter as for the master.
-/

namespace Vhost.User

/-- `SlaveFsCacheReq`: the endpoint (behind `Arc<Mutex<..>>`) and the failure
mark. -/
structure SlaveFsCacheReq (E : Type) where
  sock : E
  error : Option Int32

namespace SlaveFsCacheReq

variable {E : Type} [Os E]

instance : Os (SlaveFsCacheReq E) :=
  Os.via SlaveFsCacheReq.sock fun r sock => { r with sock := sock }

/-- `SlaveFsCacheReq::new`. -/
def new (ep : E) : SlaveFsCacheReq E :=
  { sock := ep, error := none }

/-- `set_failed`. -/
def setFailed (r : SlaveFsCacheReq E) (error : Int32) : SlaveFsCacheReq E :=
  { r with error := some error }

/-- `check_state`. -/
def checkState : Prog (SlaveFsCacheReq E) Unit := do
  checkFailed (← get).error

/-- The header of a virtio-fs request: version 1, NEED_REPLY, and a body of
`size_of::<VhostUserFSSlaveMsg>()` bytes. -/
def requestHeader (flags : SlaveReq) : VhostUserMsgHeader SlaveReq :=
  (VhostUserMsgHeader.new flags 0 (UInt32.ofNat (Pod.size VhostUserFSSlaveMsg))).setNeedReply true

/-- `wait_for_ack`: a reply to `hdr` with a zero value and no descriptor. -/
def waitForAck (hdr : VhostUserMsgHeader SlaveReq) : Prog (SlaveFsCacheReq E) UInt64 := do
  checkState
  let (reply, body, rfds) ← recvBody (R := SlaveReq) (T := VhostUserU64)
  let ok ← match reply.isReplyFor hdr with
    | some ok => pure ok
    | none => throw .undefined
  if !ok || rfds.isSome || !VhostUserMsgValidator.isValid body then
    closeRfds rfds
    throw (.err .invalidMessage)
  if body.value ≠ 0 then throw (.err .masterInternalError)
  pure 0

/-- `send_message`: the request with NEED_REPLY set, then its ack. -/
def sendMessage (flags : SlaveReq) (fs : VhostUserFSSlaveMsg) (fds : Option (List Fd)) :
    Prog (SlaveFsCacheReq E) UInt64 := do
  checkState
  let hdr := requestHeader flags
  Vhost.User.sendMessage hdr fs fds
  waitForAck hdr

/-- The `.or_else` of the trait methods: any error becomes an `io::Error` of
kind `Other`. -/
def asHandlerResult (x : Prog (SlaveFsCacheReq E) UInt64) :
    Prog (SlaveFsCacheReq E) (Except IoError UInt64) := do
  let res ← Prog.result x
  pure (res.mapError fun _ => .other)

/-- `fs_slave_map`. -/
def fsSlaveMap (fs : VhostUserFSSlaveMsg) (fd : Fd) :
    Prog (SlaveFsCacheReq E) (Except IoError UInt64) :=
  asHandlerResult (sendMessage .fsMap fs (some [fd]))

/-- `fs_slave_unmap`. -/
def fsSlaveUnmap (fs : VhostUserFSSlaveMsg) :
    Prog (SlaveFsCacheReq E) (Except IoError UInt64) :=
  asHandlerResult (sendMessage .fsUnmap fs none)

end SlaveFsCacheReq

end Vhost.User
