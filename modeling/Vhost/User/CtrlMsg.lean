import Mathlib
import Vhost.Lib.Flags
import Vhost.User.Connection

/-!
# Control messages

`raw_sendmsg` and `raw_recvmsg` of `sock_ctrl_msg.rs` pass descriptors in a
control buffer beside the bytes.  The sender writes one message of level
`SOL_SOCKET` and type `SCM_RIGHTS` into a buffer it allocates: a `cmsghdr`, then
the descriptors, `CMSG_SPACE` bytes in all.  The receiver gives the kernel a
buffer with room for as many descriptors as its array holds, and walks the
headers the kernel wrote there with `get_next_cmsg`, copying the descriptors of
each `SCM_RIGHTS` message into the array.

The rest of the model sees only what this achieves: the descriptors of a write
ride on its first byte, and a read hands over as many of them as it has room
for (`Sock.recvmsg`).  Here the buffers are modelled byte by byte for the
64-bit Linux targets, with `usize` and pointer arithmetic on 64 bits, wrapping
as in a release build: the sizes of the macros and of `CmsgBuffer`, the writes
of `raw_sendmsg`, the kernel's two halves, and the receiver's walk over
addresses.  The writes stay inside the allocation, the walk reads inside it and
stops, and the descriptors the receiver collects are the first of those sent,
as many as it has room for, when its array has an even number of slots.
`CMSG_SPACE` rounds the control buffer up to eight bytes, so an array with an
odd number of slots lets the kernel pass one descriptor more than it holds, and
the receiver then panics.

`get_next_cmsg` offsets a `*mut cmsghdr` and subtracts the address of the buffer
from it with `wrapping_sub`, which counts in headers, not in bytes.  For a
buffer anywhere in user space its bound check fails after the first header, so
the walk never reaches a second message.
-/

namespace Vhost.User

namespace CtrlMsg

/-! ## Sizes -/

/-- `size_of::<c_long>()`. -/
def cLongSize : UInt64 := 8

/-- `size_of::<cmsghdr>()`: a `size_t` length and two `c_int`s. -/
def cmsghdrSize : UInt64 := 16

/-- `size_of::<RawFd>()`. -/
def rawFdSize : UInt64 := 4

/-- `SOL_SOCKET` on Linux. -/
def solSocket : Int32 := 1

/-- `SCM_RIGHTS` on Linux. -/
def scmRights : Int32 := 1

/-- `CMSG_ALIGN!`. -/
def cmsgAlign (len : UInt64) : UInt64 :=
  (len + cLongSize - 1) &&& ~~~(cLongSize - 1)

/-- `CMSG_SPACE!`. -/
def cmsgSpace (len : UInt64) : UInt64 :=
  cmsghdrSize + cmsgAlign len

/-- `CMSG_LEN!` (the targets other than musl). -/
def cmsgLen (len : UInt64) : UInt64 :=
  cmsghdrSize + len

@[simp]
theorem toNat_cmsghdrSize : cmsghdrSize.toNat = 16 := rfl

theorem cmsgAlign_eq (len : UInt64) :
    cmsgAlign len = (len + 8 - 1) &&& ~~~(UInt64.ofNat (2 ^ 3 - 1)) := rfl

/-- `CMSG_ALIGN!` rounds up to a multiple of eight, when the sum does not wrap. -/
theorem toNat_cmsgAlign {len : UInt64} (h : len.toNat + 7 < 2 ^ 64) :
    (cmsgAlign len).toNat = (len.toNat + 7) / 8 * 8 := by
  have hsum : (len + 8 - 1).toNat = len.toNat + 7 := by
    rw [UInt64.toNat_sub, UInt64.toNat_add]
    simp only [UInt64.reduceToNat]
    omega
  rw [cmsgAlign_eq, Flags.toNat_uInt64_and_not_two_pow_sub_one _ (by norm_num), hsum]
  norm_num

/-- The `usize` length of `n` descriptors. -/
theorem toNat_rawFdSize_mul {n : Nat} (h : 4 * n < 2 ^ 64) :
    (rawFdSize * UInt64.ofNat n).toNat = 4 * n := by
  rw [UInt64.toNat_mul, UInt64.toNat_ofNat']
  have hn : n % 2 ^ 64 = n := Nat.mod_eq_of_lt (by omega)
  rw [hn]
  exact Nat.mod_eq_of_lt h

theorem toNat_cmsgSpace_fds {n : Nat} (h : 4 * n + 32 < 2 ^ 64) :
    (cmsgSpace (rawFdSize * UInt64.ofNat n)).toNat = 16 + (4 * n + 7) / 8 * 8 := by
  have hlen := toNat_rawFdSize_mul (n := n) (by omega)
  have halign := @toNat_cmsgAlign (rawFdSize * UInt64.ofNat n) (by omega)
  rw [hlen] at halign
  rw [cmsgSpace, UInt64.toNat_add, halign, toNat_cmsghdrSize]
  exact Nat.mod_eq_of_lt (by omega)

theorem toNat_cmsgLen_fds {n : Nat} (h : 4 * n + 32 < 2 ^ 64) :
    (cmsgLen (rawFdSize * UInt64.ofNat n)).toNat = 16 + 4 * n := by
  rw [cmsgLen, UInt64.toNat_add, toNat_rawFdSize_mul (by omega), toNat_cmsghdrSize]
  exact Nat.mod_eq_of_lt (by omega)

/-- `cmsghdr` of glibc on a 64-bit target. -/
structure Cmsghdr where
  cmsgLen : UInt64
  cmsgLevel : Int32
  cmsgType : Int32
  deriving DecidableEq, Repr

instance : Pod Cmsghdr where
  size := 16
  toBytes cmsg := Pod.toBytes cmsg.cmsgLen ++ Pod.toBytes cmsg.cmsgLevel ++ Pod.toBytes cmsg.cmsgType
  ofBytes bytes :=
    { cmsgLen := Pod.ofBytes bytes, cmsgLevel := Pod.ofBytes (bytes.drop 8),
      cmsgType := Pod.ofBytes (bytes.drop 12) }
  length_toBytes _ := by simp
  ofBytes_toBytes_append cmsg rest := by
    simp [List.append_assoc]

@[simp]
theorem Pod.size_cmsghdr : Pod.size Cmsghdr = 16 := rfl

/-- The header of an `SCM_RIGHTS` message carrying `count` descriptors. -/
def rightsHeader (count : Nat) : Cmsghdr :=
  { cmsgLen := cmsgLen (rawFdSize * UInt64.ofNat count), cmsgLevel := solSocket,
    cmsgType := scmRights }

/-! ## Buffers -/

/-- `CMSG_BUFFER_INLINE_CAPACITY`: room for 32 descriptors. -/
def cmsgBufferInlineCapacity : UInt64 :=
  cmsgSpace (rawFdSize * 32)

/-- `CmsgBuffer`: zeroed `u64` words on the stack, or zeroed `cmsghdr`s on the
heap, by their number. -/
inductive CmsgBuffer
  | inline (words : Nat)
  | heap (headers : Nat)
  deriving DecidableEq, Repr

namespace CmsgBuffer

/-- The bytes a buffer holds. -/
def byteLen : CmsgBuffer → Nat
  | inline words => 8 * words
  | heap headers => 16 * headers

/-- `CmsgBuffer::with_capacity`: on the stack when the capacity fits the inline
array, otherwise on the heap in whole headers; the `checked_add(..).unwrap()`
panics within a header of `usize::MAX`. -/
def withCapacity (capacity : UInt64) : Except Fault CmsgBuffer :=
  match checkedAdd capacity cmsghdrSize with
  | none => .error .panic
  | some sum =>
      let capInCmsghdrUnits := (sum - 1) / cmsghdrSize
      if capacity ≤ cmsgBufferInlineCapacity then
        .ok (.inline ((cmsgBufferInlineCapacity + 7) / 8).toNat)
      else .ok (.heap capInCmsghdrUnits.toNat)

theorem toNat_cmsgBufferInlineCapacity : cmsgBufferInlineCapacity.toNat = 144 := rfl

/-- A capacity a header short of `usize::MAX` gets a buffer of at least that
many bytes, on the stack or on the heap. -/
theorem withCapacity_ok {capacity : UInt64} (h : capacity.toNat + 16 < 2 ^ 64) :
    ∃ buffer, withCapacity capacity = .ok buffer ∧ capacity.toNat ≤ buffer.byteLen := by
  have hadd : checkedAdd capacity cmsghdrSize = some (capacity + cmsghdrSize) := by
    rw [checkedAdd, toNat_cmsghdrSize, if_pos h]
  unfold withCapacity
  rw [hadd]
  dsimp only
  split
  · next hinline =>
      -- the inline array holds `CMSG_BUFFER_INLINE_CAPACITY` bytes
      refine ⟨_, rfl, ?_⟩
      rw [UInt64.le_iff_toNat_le, toNat_cmsgBufferInlineCapacity] at hinline
      simp only [byteLen]
      have hwords : ((cmsgBufferInlineCapacity + 7) / 8).toNat = 18 := rfl
      omega
  · -- the heap holds the capacity rounded up to whole headers
      refine ⟨_, rfl, ?_⟩
      have hunits : ((capacity + cmsghdrSize - 1) / cmsghdrSize).toNat =
          (capacity.toNat + 15) / 16 := by
        rw [UInt64.toNat_div, UInt64.toNat_sub, UInt64.toNat_add, toNat_cmsghdrSize]
        simp only [UInt64.reduceToNat]
        omega
      simp only [byteLen, hunits]
      omega

end CmsgBuffer

/-- An unaligned write of `bytes` at `offset` into a buffer: undefined past its
end. -/
def writeAt (mem : List UInt8) (offset : Nat) (bytes : List UInt8) : Except Fault (List UInt8) :=
  if offset + bytes.length ≤ mem.length then
    .ok (mem.take offset ++ bytes ++ mem.drop (offset + bytes.length))
  else .error .undefined

/-- An unaligned read of `n` bytes at address `ptr` from a buffer at address
`base`: undefined outside it. -/
def readAt (mem : List UInt8) (base ptr : UInt64) (n : Nat) : Except Fault (List UInt8) :=
  if base.toNat ≤ ptr.toNat ∧ ptr.toNat - base.toNat + n ≤ mem.length then
    .ok ((mem.drop (ptr.toNat - base.toNat)).take n)
  else .error .undefined

/-- A write into the zeros that follow what was written before. -/
theorem writeAt_append_replicate (front bytes : List UInt8) {n : Nat} (h : bytes.length ≤ n) :
    writeAt (front ++ List.replicate n 0) front.length bytes =
      .ok (front ++ bytes ++ List.replicate (n - bytes.length) 0) := by
  rw [writeAt, if_pos (by simp; omega)]
  simp [List.drop_append, List.drop_replicate]

/-! ## The sender -/

/-- The control part of `raw_sendmsg`: the buffer behind `msg_control`, none when
there is no descriptor to send, and `msg_controllen`. -/
def sendControl (outFds : List Fd) : Except Fault (Option (List UInt8) × UInt64) := do
  let cmsgCapacity := cmsgSpace (rawFdSize * UInt64.ofNat outFds.length)
  let cmsgBuffer ← CmsgBuffer.withCapacity cmsgCapacity
  if outFds.isEmpty then pure (none, 0)
  else
    let mem ← writeAt (List.replicate cmsgBuffer.byteLen 0) 0
      (Pod.toBytes (rightsHeader outFds.length))
    let mem ← writeAt mem cmsghdrSize.toNat (Pod.listBytes outFds)
    pure (some mem, cmsgCapacity)

/-- `raw_sendmsg` with descriptors writes its header and the descriptors inside
the buffer it allocates, and hands the kernel no more than the buffer holds:
one `SCM_RIGHTS` message carrying the descriptors, then zeros. -/
theorem sendControl_eq {outFds : List Fd} (hne : outFds ≠ [])
    (hlen : outFds.length < 2 ^ 60) :
    ∃ pad : Nat, sendControl outFds =
        .ok (some (Pod.toBytes (rightsHeader outFds.length) ++ Pod.listBytes outFds ++
          List.replicate pad 0), cmsgSpace (rawFdSize * UInt64.ofNat outFds.length)) ∧
      (cmsgSpace (rawFdSize * UInt64.ofNat outFds.length)).toNat ≤
        16 + 4 * outFds.length + pad := by
  have hspace := toNat_cmsgSpace_fds (n := outFds.length) (by omega)
  obtain ⟨buffer, hbuffer, hroom⟩ := @CmsgBuffer.withCapacity_ok
    (cmsgSpace (rawFdSize * UInt64.ofNat outFds.length)) (by omega)
  -- the header goes first, the descriptors right after it, into zeros
  have hheader := writeAt_append_replicate [] (Pod.toBytes (rightsHeader outFds.length))
    (n := buffer.byteLen) (by simp; omega)
  have hdescriptors := writeAt_append_replicate (Pod.toBytes (rightsHeader outFds.length))
    (Pod.listBytes outFds) (n := buffer.byteLen - 16) (by simp; omega)
  rw [List.nil_append, List.nil_append, List.length_nil] at hheader
  simp only [Pod.length_toBytes, Pod.size_cmsghdr, Pod.length_listBytes, Pod.size_int32]
    at hheader hdescriptors
  refine ⟨buffer.byteLen - 16 - 4 * outFds.length, ?_, by omega⟩
  simp only [sendControl, hbuffer, List.isEmpty_eq_false_iff.2 hne, toNat_cmsghdrSize]
  dsimp only [bind, Except.bind]
  rw [hheader]
  dsimp only
  rw [hdescriptors]
  rfl

/-! ## The kernel -/

namespace Kernel

/-- The descriptors the kernel takes from a sender's control buffer, from the
header at `offset` on (`__scm_send` of Linux).  It walks the headers as
`CMSG_FIRSTHDR` and `CMSG_NXTHDR` do, refuses a header shorter than a header or
running past `msg_controllen` (`EINVAL`), and collects the descriptors of each
`SCM_RIGHTS` message.  Every header it passes is at least a header long, so
`controllen` rounds are enough. -/
def rightsSentFrom (control : List UInt8) (controllen : Nat) : Nat → Nat → Option (List Fd)
  | 0, _ => some []
  | fuel + 1, offset =>
      if controllen < offset + 16 then some []
      else
        let cmsg : Cmsghdr := Pod.ofBytes (control.drop offset)
        let len := cmsg.cmsgLen.toNat
        if len < 16 ∨ controllen < offset + len then none
        else
          let fds : List Fd :=
            if cmsg.cmsgLevel = solSocket ∧ cmsg.cmsgType = scmRights then
              Pod.readList ((len - 16) / 4) (control.drop (offset + 16))
            else []
          (rightsSentFrom control controllen fuel (offset + (len + 7) / 8 * 8)).map (fds ++ ·)

/-- `SCM_MAX_FD`: the most descriptors one `sendmsg` may pass. -/
def scmMaxFd : Nat := 253

/-- The descriptors a `sendmsg` passes, from its `msg_control` and
`msg_controllen`.  `scm_fp_copy` counts the descriptors of every `SCM_RIGHTS`
message into one list of at most `SCM_MAX_FD` and refuses the call (`EINVAL`)
once they would pass it. -/
def rightsSent (control : Option (List UInt8)) (controllen : UInt64) : Option (List Fd) :=
  match control with
  | none => some []
  | some control =>
      (rightsSentFrom control controllen.toNat controllen.toNat 0).bind fun fds =>
        if fds.length ≤ scmMaxFd then some fds else none

theorem rightsSentFrom_of_end {control : List UInt8} {controllen offset : Nat}
    (h : controllen < offset + 16) (fuel : Nat) :
    rightsSentFrom control controllen fuel offset = some [] := by
  cases fuel with
  | zero => rfl
  | succ fuel => rw [rightsSentFrom, if_pos h]

/-- An `SCM_RIGHTS` header at `offset` whose message fits: its descriptors, then
what follows from the next aligned header on. -/
theorem rightsSentFrom_succ_rights {control : List UInt8} {controllen offset count : Nat}
    (fuel : Nat) (hheader : (Pod.ofBytes (control.drop offset) : Cmsghdr) = rightsHeader count)
    (hcount : count < 2 ^ 60) (hfits : offset + 16 + 4 * count ≤ controllen) :
    rightsSentFrom control controllen (fuel + 1) offset =
      (rightsSentFrom control controllen fuel (offset + (16 + 4 * count + 7) / 8 * 8)).map
        (Pod.readList count (control.drop (offset + 16)) ++ ·) := by
  have hlen : (rightsHeader count).cmsgLen.toNat = 16 + 4 * count :=
    toNat_cmsgLen_fds (by omega)
  have hdiv : (16 + 4 * count - 16) / 4 = count := by omega
  rw [rightsSentFrom, if_neg (by omega)]
  simp only [hheader, hlen, if_neg (show ¬(16 + 4 * count < 16 ∨ controllen < offset + (16 + 4 * count))
    by omega), hdiv]
  rfl

/-- What the kernel writes into a receiver's control buffer of `controllen`
bytes when a read hands over `fds` (`scm_detach_fds`): one `SCM_RIGHTS` message
with as many as fit, and the length it used, `CMSG_SPACE` of them but no more
than the buffer; nothing when none fit. -/
def rightsReceived (fds : List Fd) (controllen : Nat) : List UInt8 × Nat :=
  let fdmax := if 16 < controllen then (controllen - 16) / 4 else 0
  let count := min fdmax fds.length
  if count = 0 then ([], 0)
  else
    (Pod.toBytes (rightsHeader count) ++ Pod.listBytes (fds.take count),
      min (16 + (4 * count + 7) / 8 * 8) controllen)

/-- A buffer of `CMSG_SPACE` for `slots` descriptors takes up to `slots` of them. -/
theorem rightsReceived_space (fds : List Fd) {slots : Nat} (hslots : 0 < slots) :
    rightsReceived fds (16 + 4 * slots) =
      if min slots fds.length = 0 then ([], 0)
      else (Pod.toBytes (rightsHeader (min slots fds.length)) ++
          Pod.listBytes (fds.take (min slots fds.length)),
        min (16 + (4 * min slots fds.length + 7) / 8 * 8) (16 + 4 * slots)) := by
  have hfdmax : (16 + 4 * slots - 16) / 4 = slots := by omega
  simp only [rightsReceived, if_pos (show 16 < 16 + 4 * slots by omega), hfdmax]

end Kernel

/-- From the buffer `raw_sendmsg` writes, the kernel takes the descriptors it
wrote and no other, or refuses the call when they are more than `SCM_MAX_FD`. -/
theorem rightsSent_sendControl_eq {outFds : List Fd} (hne : outFds ≠ [])
    (hlen : outFds.length < 2 ^ 60) (pad : Nat) :
    Kernel.rightsSent (some (Pod.toBytes (rightsHeader outFds.length) ++ Pod.listBytes outFds ++
      List.replicate pad 0)) (cmsgSpace (rawFdSize * UInt64.ofNat outFds.length)) =
      if outFds.length ≤ Kernel.scmMaxFd then some outFds else none := by
  have hspace := toNat_cmsgSpace_fds (n := outFds.length) (by omega)
  have hpos : 0 < outFds.length := List.length_pos_iff.2 hne
  obtain ⟨fuel, hfuel⟩ : ∃ fuel, 16 + (4 * outFds.length + 7) / 8 * 8 = fuel + 1 :=
    ⟨15 + (4 * outFds.length + 7) / 8 * 8, by omega⟩
  have hheader : (Pod.ofBytes ((Pod.toBytes (rightsHeader outFds.length) ++
      Pod.listBytes outFds ++ List.replicate pad 0).drop 0) : Cmsghdr) =
      rightsHeader outFds.length := by
    simp [List.append_assoc]
  -- one message, and the next header would start at `msg_controllen`
  rw [Kernel.rightsSent, hspace, hfuel, Kernel.rightsSentFrom_succ_rights fuel hheader hlen
    (by omega), Kernel.rightsSentFrom_of_end (by omega)]
  simp [List.append_assoc, Pod.readList_listBytes_append]

theorem rightsSent_sendControl {outFds : List Fd} (hne : outFds ≠ [])
    (hlen : outFds.length ≤ Kernel.scmMaxFd) (pad : Nat) :
    Kernel.rightsSent (some (Pod.toBytes (rightsHeader outFds.length) ++ Pod.listBytes outFds ++
      List.replicate pad 0)) (cmsgSpace (rawFdSize * UInt64.ofNat outFds.length)) =
      some outFds := by
  rw [rightsSent_sendControl_eq hne (lt_of_le_of_lt hlen (by decide)) pad, if_pos hlen]

/-! ## The receiver -/

/-- `get_next_cmsg`: the header after the one at `cmsgPtr`, or null.  `next_cmsg`
is a `*mut cmsghdr`: the bound check offsets it by one header and subtracts the
buffer's address from it with `wrapping_sub`, which counts in headers. -/
def getNextCmsg (msgControl msgControllen : UInt64) (cmsg : Cmsghdr) (cmsgPtr : UInt64) :
    UInt64 :=
  let nextCmsg := cmsgPtr + cmsgAlign cmsg.cmsgLen
  if nextCmsg + cmsghdrSize - cmsghdrSize * msgControl > msgControllen then 0 else nextCmsg

/-- The `while` loop of `raw_recvmsg`: read the header at `cmsgPtr`, copy the
descriptors of an `SCM_RIGHTS` message into `in_fds` after the `in_fds_count`
already there, and go on to `get_next_cmsg`.  The slice
`in_fds[in_fds_count..(in_fds_count + fd_count)]` panics past the array.  A walk
that does not stop and reads only inside the buffer goes through the same
pointer and count again within `fuel` rounds when `fuel` exceeds their number,
and then loops for ever. -/
def walkCmsgs (mem : List UInt8) (msgControl msgControllen : UInt64) :
    Nat → UInt64 → List Fd → Nat → Except Fault (List Fd × Nat)
  | 0, _, _, _ => .error .diverges
  | fuel + 1, cmsgPtr, inFds, inFdsCount =>
      if cmsgPtr = 0 then .ok (inFds, inFdsCount)
      else do
        let cmsg : Cmsghdr := Pod.ofBytes (← readAt mem msgControl cmsgPtr 16)
        let (inFds, inFdsCount) ←
          if cmsg.cmsgLevel = solSocket ∧ cmsg.cmsgType = scmRights then do
            let fdCount := ((cmsg.cmsgLen - cmsgLen 0) / rawFdSize).toNat
            if inFds.length < inFdsCount + fdCount then throw .panic
            let data ← readAt mem msgControl (cmsgPtr + cmsghdrSize) (4 * fdCount)
            pure (inFds.take inFdsCount ++ Pod.readList fdCount data ++
              inFds.drop (inFdsCount + fdCount), inFdsCount + fdCount)
          else pure (inFds, inFdsCount)
        walkCmsgs mem msgControl msgControllen fuel
          (getNextCmsg msgControl msgControllen cmsg cmsgPtr) inFds inFdsCount

/-- An address a process maps on 64-bit Linux: at or above the default
`vm.mmap_min_addr` of 64 KiB, below the top of a 47-bit user address space. -/
def UserAddress (ptr : UInt64) : Prop :=
  2 ^ 16 ≤ ptr.toNat ∧ ptr.toNat < 2 ^ 47

/-- For a buffer in user space, `get_next_cmsg` ends the walk after its first
header, whenever that header is shorter than 64 KiB: `wrapping_sub` takes
sixteen times the buffer's address away, and the difference wraps far past any
`msg_controllen`. -/
theorem getNextCmsg_first {msgControl msgControllen : UInt64} (hcontrol : UserAddress msgControl)
    (hcontrollen : msgControllen.toNat < 2 ^ 60) (cmsg : Cmsghdr)
    (hlen : (cmsgAlign cmsg.cmsgLen).toNat < 2 ^ 16) :
    getNextCmsg msgControl msgControllen cmsg msgControl = 0 := by
  obtain ⟨hlow, hhigh⟩ := hcontrol
  -- nothing wraps but the subtraction, which goes below zero once
  have hnext : (msgControl + cmsgAlign cmsg.cmsgLen + cmsghdrSize).toNat =
      msgControl.toNat + (cmsgAlign cmsg.cmsgLen).toNat + 16 := by
    rw [UInt64.toNat_add, UInt64.toNat_add, toNat_cmsghdrSize, Nat.mod_eq_of_lt (by omega),
      Nat.mod_eq_of_lt (by omega)]
  have hscaled : (cmsghdrSize * msgControl).toNat = 16 * msgControl.toNat := by
    rw [UInt64.toNat_mul, toNat_cmsghdrSize, Nat.mod_eq_of_lt (by omega)]
  have hdiff : (msgControl + cmsgAlign cmsg.cmsgLen + cmsghdrSize - cmsghdrSize * msgControl).toNat =
      2 ^ 64 - 16 * msgControl.toNat + (msgControl.toNat + (cmsgAlign cmsg.cmsgLen).toNat + 16) := by
    rw [UInt64.toNat_sub, hnext, hscaled, Nat.mod_eq_of_lt (by omega)]
  unfold getNextCmsg
  rw [if_pos]
  rw [GT.gt, UInt64.lt_iff_toNat_lt, hdiff]
  omega

theorem readAt_of_le {mem : List UInt8} {base ptr : UInt64} {n : Nat} (hbase : base.toNat ≤ ptr.toNat)
    (hend : ptr.toNat - base.toNat + n ≤ mem.length) :
    readAt mem base ptr n = .ok ((mem.drop (ptr.toNat - base.toNat)).take n) :=
  if_pos ⟨hbase, hend⟩

theorem walkCmsgs_null (mem : List UInt8) (msgControl msgControllen : UInt64) (fuel : Nat)
    (inFds : List Fd) (inFdsCount : Nat) :
    walkCmsgs mem msgControl msgControllen (fuel + 1) 0 inFds inFdsCount = .ok (inFds, inFdsCount) :=
  rfl

section Round

variable {mem : List UInt8} {msgControl msgControllen cmsgPtr : UInt64} {bytes : List UInt8}
  {header : Cmsghdr} {inFds : List Fd} {inFdsCount : Nat}

/-- The number of descriptors the walk takes an `SCM_RIGHTS` header to carry. -/
def fdCountOf (cmsg : Cmsghdr) : Nat :=
  ((cmsg.cmsgLen - cmsgLen 0) / rawFdSize).toNat

/-- A round on a header that is not `SCM_RIGHTS` copies nothing. -/
theorem walkCmsgs_succ_other (fuel : Nat) (hptr : cmsgPtr ≠ 0)
    (hread : readAt mem msgControl cmsgPtr 16 = .ok bytes) (hheader : Pod.ofBytes bytes = header)
    (hother : ¬(header.cmsgLevel = solSocket ∧ header.cmsgType = scmRights)) :
    walkCmsgs mem msgControl msgControllen (fuel + 1) cmsgPtr inFds inFdsCount =
      walkCmsgs mem msgControl msgControllen fuel
        (getNextCmsg msgControl msgControllen header cmsgPtr) inFds inFdsCount := by
  rw [walkCmsgs, if_neg hptr, hread]
  simp only [bind, Except.bind, hheader, if_neg hother]
  rfl

/-- A round on an `SCM_RIGHTS` header whose descriptors fit the array copies
them after those already there. -/
theorem walkCmsgs_succ_rights (fuel : Nat) (hptr : cmsgPtr ≠ 0)
    (hread : readAt mem msgControl cmsgPtr 16 = .ok bytes) (hheader : Pod.ofBytes bytes = header)
    (hrights : header.cmsgLevel = solSocket ∧ header.cmsgType = scmRights)
    (hfit : inFdsCount + fdCountOf header ≤ inFds.length) {data : List UInt8}
    (hdata : readAt mem msgControl (cmsgPtr + cmsghdrSize) (4 * fdCountOf header) = .ok data) :
    walkCmsgs mem msgControl msgControllen (fuel + 1) cmsgPtr inFds inFdsCount =
      walkCmsgs mem msgControl msgControllen fuel
        (getNextCmsg msgControl msgControllen header cmsgPtr)
        (inFds.take inFdsCount ++ Pod.readList (fdCountOf header) data ++
          inFds.drop (inFdsCount + fdCountOf header))
        (inFdsCount + fdCountOf header) := by
  rw [walkCmsgs, if_neg hptr, hread]
  simp only [bind, Except.bind, hheader, if_pos hrights]
  rw [← fdCountOf, if_neg (Nat.not_lt.2 hfit), hdata]
  rfl

/-- A round on an `SCM_RIGHTS` header carrying more descriptors than the array
has left panics at the slice. -/
theorem walkCmsgs_succ_overflow (fuel : Nat) (hptr : cmsgPtr ≠ 0)
    (hread : readAt mem msgControl cmsgPtr 16 = .ok bytes) (hheader : Pod.ofBytes bytes = header)
    (hrights : header.cmsgLevel = solSocket ∧ header.cmsgType = scmRights)
    (hover : inFds.length < inFdsCount + fdCountOf header) :
    walkCmsgs mem msgControl msgControllen (fuel + 1) cmsgPtr inFds inFdsCount = .error .panic := by
  rw [walkCmsgs, if_neg hptr, hread]
  simp only [bind, Except.bind, hheader, if_pos hrights]
  rw [← fdCountOf, if_pos hover]
  rfl

end Round

theorem UserAddress.ne_zero {ptr : UInt64} (h : UserAddress ptr) : ptr ≠ 0 := by
  rintro rfl
  exact absurd h.1 (by decide)

/-- The header of `count` descriptors says it carries `count` of them. -/
theorem fdCountOf_rightsHeader {count : Nat} (h : count < 2 ^ 60) :
    fdCountOf (rightsHeader count) = count := by
  have hlen := toNat_cmsgLen_fds (n := count) (by omega)
  have hzero : (cmsgLen 0).toNat = 16 := rfl
  have hle : cmsgLen 0 ≤ (rightsHeader count).cmsgLen := by
    rw [UInt64.le_iff_toNat_le, hzero]
    exact hlen ▸ Nat.le_add_right 16 _
  rw [fdCountOf, UInt64.toNat_div, UInt64.toNat_sub_of_le _ _ hle]
  change ((cmsgLen (rawFdSize * UInt64.ofNat count)).toNat - (cmsgLen 0).toNat) / 4 = count
  rw [hlen, hzero]
  omega

theorem toNat_cmsgAlign_rightsHeader {count : Nat} (h : count < 2 ^ 60) :
    (cmsgAlign (rightsHeader count).cmsgLen).toNat = (16 + 4 * count + 7) / 8 * 8 := by
  have hlen := toNat_cmsgLen_fds (n := count) (by omega)
  change (cmsgAlign (cmsgLen (rawFdSize * UInt64.ofNat count))).toNat = _
  rw [toNat_cmsgAlign (by omega), hlen]

/-- The header a zeroed buffer holds. -/
def zeroHeader : Cmsghdr :=
  { cmsgLen := 0, cmsgLevel := 0, cmsgType := 0 }

theorem toBytes_zeroHeader : Pod.toBytes zeroHeader = List.replicate 16 0 := rfl

/-! ### The walk from the start of the buffer -/

section First

variable {msgControl msgControllen : UInt64} {header : Cmsghdr} {inFds : List Fd}

theorem readAt_header (msgControl : UInt64) (header : Cmsghdr) (rest : List UInt8) :
    readAt (Pod.toBytes header ++ rest) msgControl msgControl 16 = .ok (Pod.toBytes header) := by
  rw [readAt_of_le (Nat.le_refl _) (by simp), Nat.sub_self, List.drop_zero]
  exact congrArg Except.ok (List.take_left' (by simp))

/-- A walk from an `SCM_RIGHTS` header at the start of the buffer copies its
descriptors into the front of the array, and stops there. -/
theorem walkCmsgs_first_rights (hcontrol : UserAddress msgControl)
    (hcontrollen : msgControllen.toNat < 2 ^ 60) (fuel : Nat)
    (hrights : header.cmsgLevel = solSocket ∧ header.cmsgType = scmRights)
    (halign : (cmsgAlign header.cmsgLen).toNat < 2 ^ 16) (hfit : fdCountOf header ≤ inFds.length)
    {data : List UInt8} (hdata : data.length = 4 * fdCountOf header) (rest : List UInt8) :
    walkCmsgs (Pod.toBytes header ++ (data ++ rest)) msgControl msgControllen (fuel + 2)
        msgControl inFds 0 =
      .ok (Pod.readList (fdCountOf header) data ++ inFds.drop (fdCountOf header),
        fdCountOf header) := by
  have ⟨hlow, hhigh⟩ := hcontrol
  -- the descriptors sit right after the header
  have hoffset : (msgControl + cmsghdrSize).toNat - msgControl.toNat = 16 := by
    rw [UInt64.toNat_add, toNat_cmsghdrSize, Nat.mod_eq_of_lt (by omega)]
    omega
  have hdataAt : readAt (Pod.toBytes header ++ (data ++ rest)) msgControl
      (msgControl + cmsghdrSize) (4 * fdCountOf header) = .ok data := by
    rw [readAt_of_le (by omega) (by simp; omega), hoffset]
    rw [show (16 : Nat) = Pod.size Cmsghdr from rfl, Pod.drop_toBytes_append, ← hdata]
    exact congrArg Except.ok (List.take_left' rfl)
  rw [walkCmsgs_succ_rights (fuel + 1) hcontrol.ne_zero (readAt_header msgControl header _)
    (Pod.ofBytes_toBytes header) hrights (by omega) hdataAt,
    getNextCmsg_first hcontrol hcontrollen header halign, walkCmsgs_null]
  simp

/-- A walk from an `SCM_RIGHTS` header at the start of the buffer carrying more
descriptors than the array holds panics. -/
theorem walkCmsgs_first_overflow (hcontrol : UserAddress msgControl) (fuel : Nat)
    (hrights : header.cmsgLevel = solSocket ∧ header.cmsgType = scmRights)
    (hover : inFds.length < fdCountOf header) (rest : List UInt8) :
    walkCmsgs (Pod.toBytes header ++ rest) msgControl msgControllen (fuel + 1) msgControl inFds 0 =
      .error .panic :=
  walkCmsgs_succ_overflow fuel hcontrol.ne_zero (readAt_header msgControl header rest)
    (Pod.ofBytes_toBytes header) hrights (by omega)

/-- A walk from any other header at the start of the buffer copies nothing, and
stops there. -/
theorem walkCmsgs_first_other (hcontrol : UserAddress msgControl)
    (hcontrollen : msgControllen.toNat < 2 ^ 60) (fuel : Nat)
    (hother : ¬(header.cmsgLevel = solSocket ∧ header.cmsgType = scmRights))
    (halign : (cmsgAlign header.cmsgLen).toNat < 2 ^ 16) (rest : List UInt8) :
    walkCmsgs (Pod.toBytes header ++ rest) msgControl msgControllen (fuel + 2) msgControl inFds 0 =
      .ok (inFds, 0) := by
  rw [walkCmsgs_succ_other (fuel + 1) hcontrol.ne_zero (readAt_header msgControl header rest)
    (Pod.ofBytes_toBytes header) hother, getNextCmsg_first hcontrol hcontrollen header halign,
    walkCmsgs_null]

end First

/-- The control part of `raw_recvmsg` with an array of `room` descriptors, the
zeroed `vec![0; MAX_ATTACHED_FD_ENTRIES]` of `recv_into_iovec`, and a control
buffer at address `msgControl`.  `msg_control` is left null when the array is
empty.  `kernel`, given `msg_controllen`, says what the read writes at the start
of the buffer and the length it used.  The descriptors are the first
`in_fds_count` of the array. -/
def recvControl (msgControl : UInt64) (room : Nat) (kernel : Nat → List UInt8 × Nat) :
    Except Fault (List Fd) := do
  let cmsgCapacity := cmsgSpace (rawFdSize * UInt64.ofNat room)
  let cmsgBuffer ← CmsgBuffer.withCapacity cmsgCapacity
  let (control, controllen) := if room = 0 then (0, 0) else (msgControl, cmsgCapacity.toNat)
  let (written, used) := kernel controllen
  let mem := written ++ (List.replicate cmsgBuffer.byteLen 0).drop written.length
  let (inFds, inFdsCount) ← walkCmsgs mem control (UInt64.ofNat used)
    (mem.length * (room + 1) + 1) control (List.replicate room 0) 0
  pure (inFds.take inFdsCount)

/-- With room for descriptors, `raw_recvmsg` hands the kernel `CMSG_SPACE` of
them, and walks from its start a buffer at least that long, zeros past what the
kernel wrote. -/
theorem recvControl_eq_walk (msgControl : UInt64) {room : Nat} {kernel : Nat → List UInt8 × Nat}
    (hroom : room ≠ 0) (hlen : room < 2 ^ 12) {written : List UInt8} {used : Nat}
    (hkernel : kernel (cmsgSpace (rawFdSize * UInt64.ofNat room)).toNat = (written, used)) :
    ∃ byteLen fuel, (cmsgSpace (rawFdSize * UInt64.ofNat room)).toNat ≤ byteLen ∧
      recvControl msgControl room kernel =
        (walkCmsgs (written ++ List.replicate (byteLen - written.length) 0) msgControl
          (UInt64.ofNat used) (fuel + 2) msgControl (List.replicate room 0) 0).bind
          fun result => .ok (result.1.take result.2) := by
  have hspace := toNat_cmsgSpace_fds (n := room) (by omega)
  obtain ⟨buffer, hbuffer, hcap⟩ := @CmsgBuffer.withCapacity_ok
    (cmsgSpace (rawFdSize * UInt64.ofNat room)) (by omega)
  -- the fuel `raw_recvmsg` is given is at least two rounds
  obtain ⟨fuel, hfuel⟩ : ∃ fuel, (written ++ List.replicate (buffer.byteLen - written.length) 0).length *
      (room + 1) + 1 = fuel + 2 := by
    refine ⟨(written ++ List.replicate (buffer.byteLen - written.length) 0).length * (room + 1) - 1, ?_⟩
    have hmem : 16 ≤ (written ++ List.replicate (buffer.byteLen - written.length) 0).length := by
      simp only [List.length_append, List.length_replicate]
      omega
    have hpos := Nat.mul_le_mul hmem (Nat.le_add_left 1 room)
    omega
  refine ⟨buffer.byteLen, fuel, hcap, ?_⟩
  simp only [recvControl, hbuffer, if_neg hroom, bind, Except.bind, hkernel, List.drop_replicate,
    hfuel]
  rfl

/-- What `raw_recvmsg` collects when the kernel passes `fds`: the first `room`
of them, unless the kernel fits more into the buffer than the array holds.
`CMSG_SPACE` rounds the descriptors up to eight bytes, so an odd `room` leaves
the kernel space for one descriptor more, and the slice then panics. -/
theorem recvControl_rightsReceived {msgControl : UInt64} (hcontrol : UserAddress msgControl)
    {room : Nat} (hlen : room < 2 ^ 12) (fds : List Fd) :
    recvControl msgControl room (Kernel.rightsReceived fds) =
      if room < min ((4 * room + 7) / 8 * 2) fds.length then .error .panic
      else .ok (fds.take room) := by
  by_cases hroom : room = 0
  · -- no control buffer: the kernel writes nothing and the walk starts at null
    subst hroom
    have hkernel : Kernel.rightsReceived fds 0 = ([], 0) := by
      simp [Kernel.rightsReceived]
    have hbuffer : CmsgBuffer.withCapacity (cmsgSpace (rawFdSize * UInt64.ofNat 0)) =
        .ok (.inline 18) := rfl
    rw [if_neg (by simp), List.take_zero]
    simp only [recvControl, hbuffer, bind, Except.bind, if_pos trivial, hkernel]
    rw [walkCmsgs_null]
    rfl
  have hspace := toNat_cmsgSpace_fds (n := room) (by omega)
  -- the kernel has room for `slots` descriptors, `room` rounded up to even
  obtain ⟨slots, hslots⟩ : ∃ slots, slots = (4 * room + 7) / 8 * 2 := ⟨_, rfl⟩
  rw [← hslots]
  have hcap : (cmsgSpace (rawFdSize * UInt64.ofNat room)).toNat = 16 + 4 * slots := by omega
  have hkernel := @Kernel.rightsReceived_space fds slots (by omega)
  rw [← hcap] at hkernel
  by_cases hnone : min slots fds.length = 0
  · -- nothing passed: the walk reads the zero header the buffer starts with
    have hfds : fds = [] := List.eq_nil_of_length_eq_zero (by omega)
    rw [if_pos hnone] at hkernel
    obtain ⟨byteLen, fuel, hbyteLen, hwalk⟩ := recvControl_eq_walk msgControl hroom hlen hkernel
    have hzeros : [] ++ List.replicate (byteLen - ([] : List UInt8).length) (0 : UInt8) =
        Pod.toBytes zeroHeader ++ List.replicate (byteLen - 16) 0 := by
      rw [toBytes_zeroHeader, List.nil_append, List.length_nil, Nat.sub_zero, List.replicate_append_replicate]
      congr 1
      omega
    rw [hwalk, hzeros, walkCmsgs_first_other hcontrol (by simp) fuel (by decide) (by decide), hfds]
    simp [Except.bind]
  · -- one `SCM_RIGHTS` message with `count` descriptors
    obtain ⟨count, hcount⟩ : ∃ count, count = min slots fds.length := ⟨_, rfl⟩
    rw [if_neg hnone, ← hcount] at hkernel
    have hcount60 : count < 2 ^ 60 := by omega
    obtain ⟨byteLen, fuel, hbyteLen, hwalk⟩ := recvControl_eq_walk msgControl hroom hlen hkernel
    rw [hwalk, List.append_assoc, ← hcount]
    by_cases hover : room < count
    · rw [if_pos hover, walkCmsgs_first_overflow hcontrol (fuel + 1) ⟨rfl, rfl⟩
        (by rw [fdCountOf_rightsHeader hcount60, List.length_replicate]; exact hover)]
      rfl
    · have htake : (fds.take count).length = count := by
        rw [List.length_take]
        omega
      have hdata : (Pod.listBytes (fds.take count)).length = 4 * fdCountOf (rightsHeader count) := by
        rw [Pod.length_listBytes, htake, fdCountOf_rightsHeader hcount60]
        rfl
      have hused : (UInt64.ofNat (min (16 + (4 * count + 7) / 8 * 8)
          (cmsgSpace (rawFdSize * UInt64.ofNat room)).toNat)).toNat < 2 ^ 60 := by
        rw [UInt64.toNat_ofNat_of_lt' (by rw [hcap, UInt64.size]; omega)]
        omega
      rw [if_neg hover, walkCmsgs_first_rights hcontrol hused fuel ⟨rfl, rfl⟩
        (by rw [toNat_cmsgAlign_rightsHeader hcount60]; omega)
        (by rw [fdCountOf_rightsHeader hcount60, List.length_replicate]; omega) hdata]
      -- the array's first `count` entries are the descriptors read back
      have hread : Pod.readList count (Pod.listBytes (fds.take count)) = fds.take count := by
        simpa [htake] using Pod.readList_listBytes_append (fds.take count) []
      have hsame : fds.take count = fds.take room := by
        rw [List.take_eq_take_iff]
        omega
      simp only [Except.bind, fdCountOf_rightsHeader hcount60, hread]
      rw [List.take_left' htake, hsame]

/-! ## Sender to receiver -/

/-- `raw_recvmsg` on an array with an odd number of slots panics when the peer
passes more descriptors than the array holds: `CMSG_SPACE` rounds the buffer up
to eight bytes, the kernel fills the slot this adds, and the slice
`in_fds[in_fds_count..(in_fds_count + fd_count)]` runs past the array. -/
theorem recvControl_panics_of_odd_room {msgControl : UInt64} (hcontrol : UserAddress msgControl)
    {room : Nat} (hodd : room % 2 = 1) (hroom : room < 2 ^ 12) {fds : List Fd}
    (hmore : room < fds.length) :
    recvControl msgControl room (Kernel.rightsReceived fds) = .error .panic := by
  rw [recvControl_rightsReceived hcontrol hroom fds, if_pos (by omega)]

/-- `recv_with_fd` reads into `[0]`: a peer that passes two descriptors makes it
panic. -/
theorem recvControl_panics_of_odd_room_recvWithFd :
    UserAddress 65536 ∧ 1 % 2 = 1 ∧ 1 < 2 ^ 12 ∧ 1 < [(3 : Fd), 4].length ∧
      recvControl 65536 1 (Kernel.rightsReceived [3, 4]) = .error .panic :=
  ⟨⟨by decide, by decide⟩, by decide, by decide, by decide,
    recvControl_panics_of_odd_room ⟨by decide, by decide⟩ (by decide) (by decide) (by decide)⟩

/-- `raw_recvmsg` looks at the first control message only.  When it is not
`SCM_RIGHTS` (Linux puts `SCM_CREDENTIALS` first on a socket with
`SO_PASSCRED`), no descriptor is collected, whatever messages follow it. -/
theorem recvControl_first_message_only {msgControl : UInt64} (hcontrol : UserAddress msgControl)
    {room : Nat} (hroom : room ≠ 0) (hlen : room < 2 ^ 12) {kernel : Nat → List UInt8 × Nat}
    {header : Cmsghdr} (hother : ¬(header.cmsgLevel = solSocket ∧ header.cmsgType = scmRights))
    (halign : (cmsgAlign header.cmsgLen).toNat < 2 ^ 16) {rest : List UInt8} {used : Nat}
    (hkernel : kernel (cmsgSpace (rawFdSize * UInt64.ofNat room)).toNat =
      (Pod.toBytes header ++ rest, used))
    (hused : used < 2 ^ 60) :
    recvControl msgControl room kernel = .ok [] := by
  obtain ⟨byteLen, fuel, -, hwalk⟩ := recvControl_eq_walk msgControl hroom hlen hkernel
  have hcontrollen : (UInt64.ofNat used).toNat < 2 ^ 60 := by
    rw [UInt64.toNat_ofNat_of_lt' (by rw [UInt64.size]; omega)]
    exact hused
  rw [hwalk, List.append_assoc, walkCmsgs_first_other hcontrol hcontrollen fuel hother halign]
  simp [Except.bind]

/-- Credentials of 12 bytes, then one descriptor: the descriptor is lost. -/
theorem recvControl_first_message_only_credentials :
    UserAddress 65536 ∧ 32 ≠ 0 ∧ 32 < 2 ^ 12 ∧
      ¬((⟨28, 1, 2⟩ : Cmsghdr).cmsgLevel = solSocket ∧ (⟨28, 1, 2⟩ : Cmsghdr).cmsgType = scmRights) ∧
      (cmsgAlign (⟨28, 1, 2⟩ : Cmsghdr).cmsgLen).toNat < 2 ^ 16 ∧ 52 < 2 ^ 60 ∧
      recvControl 65536 32 (fun _ => (Pod.toBytes (⟨28, 1, 2⟩ : Cmsghdr) ++
        (List.replicate 16 0 ++ Pod.toBytes (rightsHeader 1) ++ Pod.listBytes [(7 : Fd)]), 52)) =
        .ok [] :=
  ⟨⟨by decide, by decide⟩, by decide, by decide, by decide, by decide, by decide,
    recvControl_first_message_only ⟨by decide, by decide⟩ (by decide) (by decide) (by decide)
      (by decide) rfl (by decide)⟩

/-! ## The socket model -/

end CtrlMsg

end Vhost.User
