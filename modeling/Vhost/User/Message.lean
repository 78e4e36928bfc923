import Mathlib
import Vhost.Lib.Layout
import Vhost.User.Error

/-!
# vhost-user messages

The request codes, the common message header and the fixed-layout bodies of
`message.rs`, each with its validator.  Every message struct is
`#[repr(packed)]` and travels as its bytes: its fields in order, each little
endian, the byte order of the x86-64 hosts the crate runs on.  The `Pod`
instances below are those layouts.

Machine integers are `UInt32` and `UInt64` and wrap, as in a release build;
`usize` lengths are natural numbers, which no length in the model can overflow.
-/

namespace Vhost.User

/-! ## Limits -/

/-- `MAX_MSG_SIZE`: the largest message body the endpoints accept. -/
def maxMsgSize : Nat := 0x1000

/-- `MAX_ATTACHED_FD_ENTRIES`: the most descriptors one message may carry. -/
def maxAttachedFdEntries : Nat := 32

/-- `VHOST_USER_CONFIG_OFFSET`: start of the device configuration space. -/
def vhostUserConfigOffset : UInt32 := 0x100

/-- `VHOST_USER_CONFIG_SIZE`: end (exclusive) of the device configuration space. -/
def vhostUserConfigSize : UInt32 := 0x1000

/-- `VHOST_USER_MAX_VRINGS`: the most queues a slave may report. -/
def vhostUserMaxVrings : UInt64 := 0x8000

/-- `u64::checked_add`: the sum, when it does not overflow. -/
def checkedAdd (a b : UInt64) : Option UInt64 :=
  if a.toNat + b.toNat < 2 ^ 64 then some (a + b) else none

/-! ## Request codes -/

/-- The trait `Req` of request-code enums: the discriminant of a code
(`Into<u32>`), the conversion of a raw `u32` into the enum, and the two
sentinels.  `get_code` converts with `transmute_copy`, which is defined only on
the enum's discriminants; `ofU32?` is `none` on every other value. -/
class Req (R : Type) where
  toU32 : R → UInt32
  ofU32? : UInt32 → Option R
  noop : R
  maxCmd : R

namespace Req

variable {R : Type} [Req R]

/-- `Req::is_valid`: strictly between `NOOP` and `MAX_CMD` (the derived order
compares discriminants). -/
def isValid (request : R) : Bool :=
  toU32 (noop : R) < toU32 request && toU32 request < toU32 (maxCmd : R)

end Req

/-- Requests from the master to the slave (`MasterReq`), in discriminant order. -/
inductive MasterReq
  | noop | getFeatures | setFeatures | setOwner | resetOwner | setMemTable
  | setLogBase | setLogFd | setVringNum | setVringAddr | setVringBase | getVringBase
  | setVringKick | setVringCall | setVringErr | getProtocolFeatures
  | setProtocolFeatures | getQueueNum | setVringEnable | sendRarp | netSetMtu
  | setSlaveReqFd | iotlbMsg | setVringEndian | getConfig | setConfig
  | createCryptoSession | closeCryptoSession | postcopyAdvise | postcopyListen
  | postcopyEnd | getInflightFd | setInflightFd | maxCmd
  deriving DecidableEq, Repr

namespace MasterReq

/-- Every code, at the position of its discriminant. -/
def all : List MasterReq :=
  [noop, getFeatures, setFeatures, setOwner, resetOwner, setMemTable, setLogBase,
    setLogFd, setVringNum, setVringAddr, setVringBase, getVringBase, setVringKick,
    setVringCall, setVringErr, getProtocolFeatures, setProtocolFeatures, getQueueNum,
    setVringEnable, sendRarp, netSetMtu, setSlaveReqFd, iotlbMsg, setVringEndian,
    getConfig, setConfig, createCryptoSession, closeCryptoSession, postcopyAdvise,
    postcopyListen, postcopyEnd, getInflightFd, setInflightFd, maxCmd]

/-- The discriminant, `self as u32`. -/
def toU32 : MasterReq → UInt32
  | noop => 0 | getFeatures => 1 | setFeatures => 2 | setOwner => 3 | resetOwner => 4
  | setMemTable => 5 | setLogBase => 6 | setLogFd => 7 | setVringNum => 8
  | setVringAddr => 9 | setVringBase => 10 | getVringBase => 11 | setVringKick => 12
  | setVringCall => 13 | setVringErr => 14 | getProtocolFeatures => 15
  | setProtocolFeatures => 16 | getQueueNum => 17 | setVringEnable => 18
  | sendRarp => 19 | netSetMtu => 20 | setSlaveReqFd => 21 | iotlbMsg => 22
  | setVringEndian => 23 | getConfig => 24 | setConfig => 25
  | createCryptoSession => 26 | closeCryptoSession => 27 | postcopyAdvise => 28
  | postcopyListen => 29 | postcopyEnd => 30 | getInflightFd => 31
  | setInflightFd => 32 | maxCmd => 33

instance : Req MasterReq where
  toU32 := toU32
  ofU32? raw := all[raw.toNat]?
  noop := noop
  maxCmd := maxCmd

end MasterReq

/-- Requests from the slave to the master (`SlaveReq`), in discriminant order. -/
inductive SlaveReq
  | noop | iotlbMsg | configChangeMsg | vringHostNotifierMsg | vringCall | vringErr
  | fsMap | fsUnmap | fsSync | fsIo | maxCmd
  deriving DecidableEq, Repr

namespace SlaveReq

/-- Every code, at the position of its discriminant. -/
def all : List SlaveReq :=
  [noop, iotlbMsg, configChangeMsg, vringHostNotifierMsg, vringCall, vringErr, fsMap,
    fsUnmap, fsSync, fsIo, maxCmd]

/-- The discriminant, `self as u32`. -/
def toU32 : SlaveReq → UInt32
  | noop => 0 | iotlbMsg => 1 | configChangeMsg => 2 | vringHostNotifierMsg => 3
  | vringCall => 4 | vringErr => 5 | fsMap => 6 | fsUnmap => 7 | fsSync => 8
  | fsIo => 9 | maxCmd => 10

instance : Req SlaveReq where
  toU32 := toU32
  ofU32? raw := all[raw.toNat]?
  noop := noop
  maxCmd := maxCmd

end SlaveReq

/-! ## The message header -/

-- `VhostUserHeaderFlag`: the bits of the header's `flags` word.
namespace VhostUserHeaderFlag

/-- Bits 0 and 1: the message version. -/
def version : UInt32 := 0x3
def reply : UInt32 := 0x4
def needReply : UInt32 := 0x8
def allFlags : UInt32 := 0xc
def reservedBits : UInt32 := ~~~0xf

end VhostUserHeaderFlag

/-- `VhostUserMsgHeader<R>`: the request code, the flags and the size of the body
that follows.  `R` is the code enum the header is read with (`PhantomData<R>`). -/
structure VhostUserMsgHeader (R : Type) where
  request : UInt32
  flags : UInt32
  size : UInt32
  deriving DecidableEq, Repr

namespace VhostUserMsgHeader

variable {R : Type} [Req R]

open VhostUserHeaderFlag

/-- `VhostUserMsgHeader::new`: keeps only the REPLY and NEED_REPLY bits of
`flags` and sets version 1. -/
def new (request : R) (flags size : UInt32) : VhostUserMsgHeader R :=
  { request := Req.toU32 request, flags := (flags &&& allFlags) ||| 0x1, size := size }

/-- The `Default` header: code 0, version 1, no body. -/
def default : VhostUserMsgHeader R :=
  { request := 0, flags := 0x1, size := 0 }

/-- `get_code`: the request as an `R`; `none` when the raw value is not a
discriminant, where the `transmute_copy` is undefined behaviour. -/
def getCode (hdr : VhostUserMsgHeader R) : Option R :=
  Req.ofU32? hdr.request

def setCode (hdr : VhostUserMsgHeader R) (request : R) : VhostUserMsgHeader R :=
  { hdr with request := Req.toU32 request }

def getVersion (hdr : VhostUserMsgHeader R) : UInt32 :=
  hdr.flags &&& 0x3

def setVersion (hdr : VhostUserMsgHeader R) (ver : UInt32) : VhostUserMsgHeader R :=
  { hdr with flags := (hdr.flags &&& ~~~0x3) ||| (ver &&& 0x3) }

def isReply (hdr : VhostUserMsgHeader R) : Bool :=
  hdr.flags &&& reply != 0

def setReply (hdr : VhostUserMsgHeader R) (isReply : Bool) : VhostUserMsgHeader R :=
  if isReply then { hdr with flags := hdr.flags ||| reply }
  else { hdr with flags := hdr.flags &&& ~~~reply }

def isNeedReply (hdr : VhostUserMsgHeader R) : Bool :=
  hdr.flags &&& needReply != 0

def setNeedReply (hdr : VhostUserMsgHeader R) (needReply : Bool) : VhostUserMsgHeader R :=
  if needReply then { hdr with flags := hdr.flags ||| VhostUserHeaderFlag.needReply }
  else { hdr with flags := hdr.flags &&& ~~~VhostUserHeaderFlag.needReply }

/-- `is_reply_for`: a reply, to a request that is not one, with the same code.
The codes are compared only when the first two tests pass; `none` when a code
read on the way is not a discriminant. -/
def isReplyFor [DecidableEq R] (hdr req : VhostUserMsgHeader R) : Option Bool :=
  if hdr.isReply && !req.isReply then
    match hdr.getCode, req.getCode with
    | some mine, some theirs => some (decide (mine = theirs))
    | _, _ => none
  else some false

def getSize (hdr : VhostUserMsgHeader R) : UInt32 :=
  hdr.size

def setSize (hdr : VhostUserMsgHeader R) (size : UInt32) : VhostUserMsgHeader R :=
  { hdr with size := size }

/-- `VhostUserMsgValidator::is_valid` for headers: a valid code, a body of at most
`MAX_MSG_SIZE` bytes, version 1 and no reserved bit.  The code is converted
first, so on a raw value outside the enum the check is undefined (`none`). -/
def isValid (hdr : VhostUserMsgHeader R) : Option Bool :=
  match hdr.getCode with
  | none => none
  | some code =>
      some <|
        if !Req.isValid code then false
        else if hdr.size.toNat > maxMsgSize then false
        else if hdr.getVersion != 0x1 then false
        else if hdr.flags &&& reservedBits != 0 then false
        else true

instance : Pod (VhostUserMsgHeader R) where
  size := 12
  toBytes hdr := Pod.toBytes hdr.request ++ Pod.toBytes hdr.flags ++ Pod.toBytes hdr.size
  ofBytes bytes :=
    { request := Pod.ofBytes bytes
      flags := Pod.ofBytes (bytes.drop 4)
      size := Pod.ofBytes (bytes.drop 8) }
  length_toBytes _ := by simp
  ofBytes_toBytes_append hdr rest := by
    simp [List.append_assoc]

end VhostUserMsgHeader

@[simp]
theorem Pod.size_vhostUserMsgHeader {R : Type} : Pod.size (VhostUserMsgHeader R) = 12 := rfl

/-! ## Feature bits -/

/-- `VhostUserVirtioFeatures::PROTOCOL_FEATURES`, the virtio feature bit that
opens protocol-feature negotiation. -/
def protocolFeaturesBit : UInt64 := 0x4000_0000

-- The `VhostUserProtocolFeatures` flags the endpoints test.
namespace VhostUserProtocolFeatures

def mq : UInt64 := 0x1
def logShmfd : UInt64 := 0x2
def replyAck : UInt64 := 0x8
def slaveReq : UInt64 := 0x20
def config : UInt64 := 0x200

/-- `all()`: the seventeen defined flags, `MQ` (bit 0) to `STATUS` (bit 16). -/
def all : UInt64 := 0x1_ffff

/-- `from_bits`: the flag set, when no unknown bit is set. -/
def fromBits (bits : UInt64) : Option UInt64 :=
  if bits &&& ~~~all = 0 then some bits else none

/-- `contains`: every bit of `other` is set. -/
def contains (bits other : UInt64) : Bool :=
  bits &&& other == other

end VhostUserProtocolFeatures

/-! ## Message bodies -/

/-- `VhostUserMsgValidator`: a syntactic check of a message body.  The trait's
default accepts every value. -/
class VhostUserMsgValidator (T : Type) where
  isValid : T → Bool := fun _ => true

/-- `VhostUserU64`: a message carrying one 64-bit value. -/
structure VhostUserU64 where
  value : UInt64
  deriving DecidableEq, Repr

instance : VhostUserMsgValidator VhostUserU64 := {}

instance : Pod VhostUserU64 where
  size := 8
  toBytes body := Pod.toBytes body.value
  ofBytes bytes := ⟨Pod.ofBytes bytes⟩
  length_toBytes _ := by simp
  ofBytes_toBytes_append _ _ := by simp

@[simp]
theorem Pod.size_vhostUserU64 : Pod.size VhostUserU64 = 8 := rfl

/-- `VhostUserMemory`: the head of a SET_MEM_TABLE body. -/
structure VhostUserMemory where
  numRegions : UInt32
  padding1 : UInt32
  deriving DecidableEq, Repr

/-- `VhostUserMemory::new`. -/
def VhostUserMemory.new (cnt : UInt32) : VhostUserMemory :=
  { numRegions := cnt, padding1 := 0 }

instance : VhostUserMsgValidator VhostUserMemory where
  isValid msg :=
    if msg.padding1 != 0 then false
    else if msg.numRegions == 0 || msg.numRegions.toNat > maxAttachedFdEntries then false
    else true

instance : Pod VhostUserMemory where
  size := 8
  toBytes msg := Pod.toBytes msg.numRegions ++ Pod.toBytes msg.padding1
  ofBytes bytes := { numRegions := Pod.ofBytes bytes, padding1 := Pod.ofBytes (bytes.drop 4) }
  length_toBytes _ := by simp
  ofBytes_toBytes_append msg rest := by
    simp [List.append_assoc]

@[simp]
theorem Pod.size_vhostUserMemory : Pod.size VhostUserMemory = 8 := rfl

/-- `VhostUserMemoryRegion`: one guest memory region of SET_MEM_TABLE. -/
structure VhostUserMemoryRegion where
  guestPhysAddr : UInt64
  memorySize : UInt64
  userAddr : UInt64
  mmapOffset : UInt64
  deriving DecidableEq, Repr

instance : VhostUserMsgValidator VhostUserMemoryRegion where
  isValid region :=
    if region.memorySize == 0
        || (checkedAdd region.guestPhysAddr region.memorySize).isNone
        || (checkedAdd region.userAddr region.memorySize).isNone
        || (checkedAdd region.mmapOffset region.memorySize).isNone then false
    else true

instance : Pod VhostUserMemoryRegion where
  size := 32
  toBytes region := Pod.toBytes region.guestPhysAddr ++ Pod.toBytes region.memorySize ++
    Pod.toBytes region.userAddr ++ Pod.toBytes region.mmapOffset
  ofBytes bytes :=
    { guestPhysAddr := Pod.ofBytes bytes
      memorySize := Pod.ofBytes (bytes.drop 8)
      userAddr := Pod.ofBytes (bytes.drop 16)
      mmapOffset := Pod.ofBytes (bytes.drop 24) }
  length_toBytes _ := by simp
  ofBytes_toBytes_append region rest := by
    simp [List.append_assoc]

@[simp]
theorem Pod.size_vhostUserMemoryRegion : Pod.size VhostUserMemoryRegion = 32 := rfl

/-- `VhostUserVringState`: a queue index and a 32-bit value. -/
structure VhostUserVringState where
  index : UInt32
  num : UInt32
  deriving DecidableEq, Repr

instance : VhostUserMsgValidator VhostUserVringState := {}

instance : Pod VhostUserVringState where
  size := 8
  toBytes state := Pod.toBytes state.index ++ Pod.toBytes state.num
  ofBytes bytes := { index := Pod.ofBytes bytes, num := Pod.ofBytes (bytes.drop 4) }
  length_toBytes _ := by simp
  ofBytes_toBytes_append state rest := by
    simp [List.append_assoc]

@[simp]
theorem Pod.size_vhostUserVringState : Pod.size VhostUserVringState = 8 := rfl

/-- `VhostUserVringAddrFlags::all()`: the one flag `VHOST_VRING_F_LOG`. -/
def vhostUserVringAddrFlagsAll : UInt32 := 0x1

/-- `VhostUserVringAddr`: the ring addresses of SET_VRING_ADDR. -/
structure VhostUserVringAddr where
  index : UInt32
  flags : UInt32
  descriptor : UInt64
  used : UInt64
  available : UInt64
  log : UInt64
  deriving DecidableEq, Repr

instance : VhostUserMsgValidator VhostUserVringAddr where
  isValid addr :=
    if addr.flags &&& ~~~vhostUserVringAddrFlagsAll != 0 then false
    else if addr.descriptor &&& 0xf != 0 then false
    else if addr.available &&& 0x1 != 0 then false
    else if addr.used &&& 0x3 != 0 then false
    else true

instance : Pod VhostUserVringAddr where
  size := 40
  toBytes addr := Pod.toBytes addr.index ++ Pod.toBytes addr.flags ++
    Pod.toBytes addr.descriptor ++ Pod.toBytes addr.used ++ Pod.toBytes addr.available ++
    Pod.toBytes addr.log
  ofBytes bytes :=
    { index := Pod.ofBytes bytes
      flags := Pod.ofBytes (bytes.drop 4)
      descriptor := Pod.ofBytes (bytes.drop 8)
      used := Pod.ofBytes (bytes.drop 16)
      available := Pod.ofBytes (bytes.drop 24)
      log := Pod.ofBytes (bytes.drop 32) }
  length_toBytes _ := by simp
  ofBytes_toBytes_append addr rest := by
    simp [List.append_assoc]

@[simp]
theorem Pod.size_vhostUserVringAddr : Pod.size VhostUserVringAddr = 40 := rfl

/-- The fields of `VringConfigData` that a vring address is built from. -/
structure VringConfigData where
  flags : UInt32
  descTableAddr : UInt64
  usedRingAddr : UInt64
  availRingAddr : UInt64
  logAddr : Option UInt64
  deriving DecidableEq, Repr

/-- `VhostUserVringAddr::from_config_data`. -/
def VhostUserVringAddr.fromConfigData (index : UInt32) (configData : VringConfigData) :
    VhostUserVringAddr :=
  { index := index
    flags := configData.flags
    descriptor := configData.descTableAddr
    used := configData.usedRingAddr
    available := configData.availRingAddr
    log := configData.logAddr.getD 0 }

/-- `VhostUserConfigFlags::all()`: `WRITABLE` (no bit) and `LIVE_MIGRATION`. -/
def vhostUserConfigFlagsAll : UInt32 := 0x1

/-- `VhostUserConfigFlags::from_bits`. -/
def VhostUserConfigFlags.fromBits (bits : UInt32) : Option UInt32 :=
  if bits &&& ~~~vhostUserConfigFlagsAll = 0 then some bits else none

/-- `VhostUserConfig`: the head of GET_CONFIG and SET_CONFIG bodies. -/
structure VhostUserConfig where
  offset : UInt32
  size : UInt32
  flags : UInt32
  deriving DecidableEq, Repr

/-- `VhostUserConfig::new`. -/
def VhostUserConfig.new (offset size flags : UInt32) : VhostUserConfig :=
  { offset := offset, size := size, flags := flags }

instance : VhostUserMsgValidator VhostUserConfig where
  isValid msg :=
    if msg.flags &&& ~~~vhostUserConfigFlagsAll != 0 then false
    else if msg.size == 0 || msg.size > vhostUserConfigSize
        || msg.size + msg.offset ≥ vhostUserConfigSize then false
    else true

instance : Pod VhostUserConfig where
  size := 12
  toBytes msg := Pod.toBytes msg.offset ++ Pod.toBytes msg.size ++ Pod.toBytes msg.flags
  ofBytes bytes :=
    { offset := Pod.ofBytes bytes
      size := Pod.ofBytes (bytes.drop 4)
      flags := Pod.ofBytes (bytes.drop 8) }
  length_toBytes _ := by simp
  ofBytes_toBytes_append msg rest := by
    simp [List.append_assoc]

@[simp]
theorem Pod.size_vhostUserConfig : Pod.size VhostUserConfig = 12 := rfl

/-- `VHOST_USER_FS_SLAVE_ENTRIES`. -/
def vhostUserFsSlaveEntries : Nat := 8

/-- `VhostUserFSSlaveMsgFlags::all()`: `MAP_R` and `MAP_W`. -/
def vhostUserFSSlaveMsgFlagsAll : UInt64 := 0x3

/-- `VhostUserFSSlaveMsg`: up to eight file ranges to map, unmap, sync or copy. -/
structure VhostUserFSSlaveMsg where
  fdOffset : Vector UInt64 8
  cacheOffset : Vector UInt64 8
  len : Vector UInt64 8
  flags : Vector UInt64 8
  deriving DecidableEq, Repr

instance : VhostUserMsgValidator VhostUserFSSlaveMsg where
  isValid msg :=
    (List.finRange 8).all fun i =>
      !(msg.flags[i] &&& ~~~vhostUserFSSlaveMsgFlagsAll != 0
        || (checkedAdd msg.fdOffset[i] msg.len[i]).isNone
        || (checkedAdd msg.cacheOffset[i] msg.len[i]).isNone)

instance : Pod VhostUserFSSlaveMsg where
  size := 256
  toBytes msg := Pod.toBytes msg.fdOffset ++ Pod.toBytes msg.cacheOffset ++
    Pod.toBytes msg.len ++ Pod.toBytes msg.flags
  ofBytes bytes :=
    { fdOffset := Pod.ofBytes bytes
      cacheOffset := Pod.ofBytes (bytes.drop 64)
      len := Pod.ofBytes (bytes.drop 128)
      flags := Pod.ofBytes (bytes.drop 192) }
  length_toBytes msg := by
    simp only [List.length_append, Pod.length_toBytes]
    rfl
  ofBytes_toBytes_append msg rest := by
    simp [List.append_assoc]

@[simp]
theorem Pod.size_vhostUserFSSlaveMsg : Pod.size VhostUserFSSlaveMsg = 256 := rfl

end Vhost.User
