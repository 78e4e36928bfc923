import Mathlib
import Vhost.User.SlaveReqHandler

/-!
# The dummy slave backend

`DummySlaveReqHandler` of `dummy_slave.rs` is the backend the crate's tests run
the slave with: it keeps the ring state of two queues and refuses requests out
of order (a second owner, features outside `VIRTIO_FEATURES`, queues past its
count).

The queue arrays are lists of `MAX_QUEUE_NUM` entries.  Every write to them is
guarded by `index < queue_num`, and `queue_num` is `MAX_QUEUE_NUM` in every
state `new` builds, so the writes stay inside.  When a descriptor replaces an
earlier one the backend closes the earlier one with `libc::close`; that close
is not part of the socket state and is left out.
-/

namespace Vhost.User

/-- `DummySlaveReqHandler`. -/
structure DummySlaveReqHandler where
  owned : Bool
  featuresAcked : Bool
  ackedFeatures : UInt64
  ackedProtocolFeatures : UInt64
  queueNum : Nat
  vringNum : List UInt32
  vringBase : List UInt32
  callFd : List (Option Fd)
  kickFd : List (Option Fd)
  errFd : List (Option Fd)
  vringStarted : List Bool
  vringEnabled : List Bool
  deriving DecidableEq, Repr

namespace DummySlaveReqHandler

/-- `MAX_QUEUE_NUM`. -/
def maxQueueNum : Nat := 2

/-- `MAX_VRING_NUM`. -/
def maxVringNum : Nat := 256

/-- `VIRTIO_FEATURES`: two device features and PROTOCOL_FEATURES. -/
def virtioFeatures : UInt64 := 0x40000003

/-- `DummySlaveReqHandler::new`: the `Default` state with `MAX_QUEUE_NUM` queues. -/
def new : DummySlaveReqHandler :=
  { owned := false, featuresAcked := false, ackedFeatures := 0, ackedProtocolFeatures := 0,
    queueNum := maxQueueNum,
    vringNum := List.replicate maxQueueNum 0, vringBase := List.replicate maxQueueNum 0,
    callFd := List.replicate maxQueueNum none, kickFd := List.replicate maxQueueNum none,
    errFd := List.replicate maxQueueNum none,
    vringStarted := List.replicate maxQueueNum false,
    vringEnabled := List.replicate maxQueueNum false }

/-- The device configuration window both config requests check, over `u32` as
the source computes it. -/
def configWindowBad (offset size : UInt32) : Bool :=
  offset < vhostUserConfigOffset || offset ≥ vhostUserConfigSize
    || size > vhostUserConfigSize - vhostUserConfigOffset || size + offset > vhostUserConfigSize

instance : VhostUserSlaveReqHandler DummySlaveReqHandler where
  setOwner d :=
    if d.owned then (.error .invalidOperation, d) else (.ok (), { d with owned := true })
  resetOwner d :=
    (.ok (), { d with owned := false, featuresAcked := false, ackedFeatures := 0,
                      ackedProtocolFeatures := 0 })
  getFeatures d := (.ok virtioFeatures, d)
  setFeatures features d :=
    if !d.owned then (.error .invalidOperation, d)
    else if d.featuresAcked then (.error .invalidOperation, d)
    else if features &&& ~~~virtioFeatures != 0 then (.error .invalidParam, d)
    else
      -- without PROTOCOL_FEATURES the rings start enabled, with it disabled
      let vringEnabled := features &&& protocolFeaturesBit == 0
      (.ok (), { d with ackedFeatures := features, featuresAcked := true,
                        vringEnabled := d.vringEnabled.map fun _ => vringEnabled })
  getProtocolFeatures d := (.ok VhostUserProtocolFeatures.all, d)
  setProtocolFeatures features d := (.ok (), { d with ackedProtocolFeatures := features })
  setMemTable _ _ d := (.ok (), d)
  getQueueNum d := (.ok (UInt64.ofNat maxQueueNum), d)
  setVringNum index num d :=
    if index.toNat ≥ d.queueNum || num == 0 || num.toNat > maxVringNum then
      (.error .invalidParam, d)
    else (.ok (), { d with vringNum := d.vringNum.set index.toNat num })
  setVringAddr index _ _ _ _ _ d :=
    if index.toNat ≥ d.queueNum then (.error .invalidParam, d) else (.ok (), d)
  setVringBase index base d :=
    if index.toNat ≥ d.queueNum || base.toNat ≥ maxVringNum then (.error .invalidParam, d)
    else (.ok (), { d with vringBase := d.vringBase.set index.toNat base })
  getVringBase index d :=
    if index.toNat ≥ d.queueNum then (.error .invalidParam, d)
    else
      -- GET_VRING_BASE stops the ring
      (.ok { index := index, num := d.vringBase.getD index.toNat 0 },
        { d with vringStarted := d.vringStarted.set index.toNat false })
  setVringKick index fd d :=
    if index.toNat ≥ d.queueNum || index.toNat > d.queueNum then (.error .invalidParam, d)
    else
      (.ok (), { d with kickFd := d.kickFd.set index.toNat fd,
                        vringStarted := d.vringStarted.set index.toNat true })
  setVringCall index fd d :=
    if index.toNat ≥ d.queueNum || index.toNat > d.queueNum then (.error .invalidParam, d)
    else (.ok (), { d with callFd := d.callFd.set index.toNat fd })
  setVringErr index fd d :=
    if index.toNat ≥ d.queueNum || index.toNat > d.queueNum then (.error .invalidParam, d)
    else (.ok (), { d with errFd := d.errFd.set index.toNat fd })
  setVringEnable index enable d :=
    if d.ackedFeatures &&& protocolFeaturesBit = 0 then (.error .invalidOperation, d)
    else if index.toNat ≥ d.queueNum || index.toNat > d.queueNum then (.error .invalidParam, d)
    else (.ok (), { d with vringEnabled := d.vringEnabled.set index.toNat enable })
  -- both config requests test the CONFIG protocol bit in the acked virtio features
  getConfig offset size _ d :=
    if d.ackedFeatures &&& VhostUserProtocolFeatures.config = 0 then (.error .invalidOperation, d)
    else if configWindowBad offset size then (.error .invalidParam, d)
    else (.ok (List.replicate size.toNat 0xa5), d)
  setConfig offset buf _ d :=
    let size := UInt32.ofNat buf.length
    if d.ackedFeatures &&& VhostUserProtocolFeatures.config = 0 then (.error .invalidOperation, d)
    else if configWindowBad offset size then (.error .invalidParam, d)
    else (.ok (), d)

end DummySlaveReqHandler

end Vhost.User
