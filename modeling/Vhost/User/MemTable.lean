import Mathlib
import Vhost.User.Request
import Vhost.User.SlaveFrame
import Vhost.User.DummySlave

/-!
# SET_MEM_TABLE, from the master's regions to the slave's backend

`Master::set_mem_table` writes each `VhostUserMemoryRegionInfo` as a
`VhostUserMemoryRegion` (its `userspace_addr` becomes `user_addr`), behind a
`VhostUserMemory` head that counts them, and sends the `mmap_handle`s as the
descriptors of the message.  `SlaveReqHandler::set_mem_table` checks the head,
the size, the number of descriptors and every region, and hands regions and
descriptors to the backend.

The master refuses a table that is empty or longer than
`MAX_ATTACHED_FD_ENTRIES`, and a region of size zero or without a descriptor.
The slave checks one thing more: that no end of a region (guest physical, user
and mmap-offset address plus the size) overflows 64 bits.  So a table the
master sends reaches the backend, in order and with its descriptors, exactly
when every region fits, and otherwise the slave closes every descriptor it got.
-/

namespace Vhost.User

open ByteStream EStateM

/-- `checked_add` overflows exactly when the sum of the two words does not fit
in 64 bits. -/
theorem isNone_checkedAdd (a b : UInt64) :
    (checkedAdd a b).isNone = !decide (a.toNat + b.toNat < 2 ^ 64) := by
  unfold checkedAdd
  split <;> simp_all

namespace VhostUserMemoryRegionInfo

/-- The region the master writes for `region`. -/
def toRegion (region : VhostUserMemoryRegionInfo) : VhostUserMemoryRegion :=
  { guestPhysAddr := region.guestPhysAddr, memorySize := region.memorySize,
    userAddr := region.userspaceAddr, mmapOffset := region.mmapOffset }

/-- The master's check of a region: a size and a descriptor. -/
def Mappable (region : VhostUserMemoryRegionInfo) : Prop :=
  region.memorySize ≠ 0 ∧ 0 ≤ region.mmapHandle

/-- No end of the region overflows 64 bits. -/
def Fits (region : VhostUserMemoryRegionInfo) : Prop :=
  region.guestPhysAddr.toNat + region.memorySize.toNat < 2 ^ 64 ∧
    region.userspaceAddr.toNat + region.memorySize.toNat < 2 ^ 64 ∧
    region.mmapOffset.toNat + region.memorySize.toNat < 2 ^ 64

instance : DecidablePred Mappable := fun _ => inferInstanceAs (Decidable (_ ∧ _))

instance : DecidablePred Fits := fun _ => inferInstanceAs (Decidable (_ ∧ _ ∧ _))

/-- The master's test in the loop of `set_mem_table` fails exactly on a
mappable region. -/
theorem mappable_iff (region : VhostUserMemoryRegionInfo) :
    region.Mappable ↔ (region.memorySize = 0 || region.mmapHandle < 0) = false := by
  simp [Mappable, Int32.not_lt]

/-- The slave's check of a region the master wrote for a mappable region is
whether it fits. -/
theorem isValid_toRegion {region : VhostUserMemoryRegionInfo} (hmap : region.Mappable) :
    VhostUserMsgValidator.isValid region.toRegion = decide region.Fits := by
  rw [Bool.eq_iff_iff, decide_eq_true_iff]
  simp [VhostUserMsgValidator.isValid, toRegion, isNone_checkedAdd, Fits, hmap.1, and_assoc]

end VhostUserMemoryRegionInfo

open VhostUserMemoryRegionInfo

/-- The loop of `set_mem_table` on mappable regions: their regions and their
descriptors, in order. -/
theorem memoryContext_of_mappable : ∀ {regions : List VhostUserMemoryRegionInfo},
    (∀ r ∈ regions, r.Mappable) →
      memoryContext regions = .ok (regions.map toRegion, regions.map mmapHandle)
  | [], _ => rfl
  | region :: rest, hmap => by
      have hregion := (mappable_iff region).1 (hmap region List.mem_cons_self)
      have hrest := memoryContext_of_mappable fun r hr => hmap r (List.mem_cons_of_mem _ hr)
      rw [memoryContext, if_neg (by simp [hregion]), hrest]
      rfl

/-- One region that is not mappable and the loop refuses the table. -/
theorem memoryContext_of_not_mappable : ∀ {regions : List VhostUserMemoryRegionInfo},
    (∃ r ∈ regions, ¬ r.Mappable) → memoryContext regions = .error .invalidParam
  | [], ⟨_, hr, _⟩ => absurd hr List.not_mem_nil
  | region :: rest, ⟨r, hr, hbad⟩ => by
      by_cases hregion : region.Mappable
      · -- the refused region is further on
        have hrest : ∃ r ∈ rest, ¬ r.Mappable := by
          rcases List.mem_cons.1 hr with rfl | hr
          · exact absurd hregion hbad
          · exact ⟨r, hr, hbad⟩
        rw [memoryContext, if_neg (by simp [(mappable_iff region).1 hregion]),
          memoryContext_of_not_mappable hrest]
        rfl
      · have hrefused : region.memorySize = 0 ∨ region.mmapHandle < 0 := by
          simpa only [Mappable, not_and_or, not_not, Int32.not_le] using hregion
        rw [memoryContext, if_pos (by simp [hrefused])]

/-! ## The message -/

/-- The header of the SET_MEM_TABLE request for `regions`: the size is the
head and the regions (`send_request_with_payload`). -/
def memTableHeader (regions : List VhostUserMemoryRegionInfo) : VhostUserMsgHeader MasterReq :=
  MasterInternal.newRequestHeader .setMemTable
    (UInt32.ofNat (Pod.size VhostUserMemory + regions.length * Pod.size VhostUserMemoryRegion))

/-- The body of the request: the head counting the regions, then the regions. -/
def memTableBody (regions : List VhostUserMemoryRegionInfo) : List UInt8 :=
  Pod.toBytes (VhostUserMemory.new (UInt32.ofNat regions.length)) ++
    Pod.listBytes (regions.map toRegion)

/-- What `set_mem_table` writes; the `mmap_handle`s ride on its first byte. -/
def memTableMessage (regions : List VhostUserMemoryRegionInfo) : List UInt8 :=
  Pod.toBytes (memTableHeader regions) ++ memTableBody regions

theorem length_memTableBody (regions : List VhostUserMemoryRegionInfo) :
    (memTableBody regions).length = 8 + regions.length * 32 := by
  simp [memTableBody, Nat.mul_comm]

/-- The size field of the header counts the body, for a table within the
descriptor limit. -/
theorem getSize_memTableHeader {regions : List VhostUserMemoryRegionInfo}
    (hlen : regions.length ≤ maxAttachedFdEntries) :
    (memTableHeader regions).getSize.toNat = (memTableBody regions).length := by
  have hlt : 8 + regions.length * 32 < 2 ^ 32 := by
    simp only [maxAttachedFdEntries] at hlen
    omega
  simp only [memTableHeader, MasterInternal.getSize_newRequestHeader, Pod.size_vhostUserMemory,
    Pod.size_vhostUserMemoryRegion, length_memTableBody]
  exact UInt32.toNat_ofNat_of_lt' hlt

/-! ## The master's side -/

namespace Master

open MasterInternal

/-- `set_mem_table` of between one and `MAX_ATTACHED_FD_ENTRIES` mappable regions
writes the request with the handles and returns: no ack is awaited, since
the header never asks for one. -/
theorem run_setMemTable_ready {m : MasterInternal Sock} (hm : m.Ready)
    {regions : List VhostUserMemoryRegionInfo} (hne : regions ≠ [])
    (hlen : regions.length ≤ maxAttachedFdEntries) (hmap : ∀ r ∈ regions, r.Mappable) :
    (setMemTable (E := Sock) regions).run m =
      .ok () (m.wrote (memTableMessage regions) (regions.map mmapHandle)) := by
  have hbounds : (regions.isEmpty || decide (regions.length > maxAttachedFdEntries)) = false := by
    simp [hne, hlen]
  have hsize : Pod.size VhostUserMemory + (regions.map toRegion).length *
      Pod.size VhostUserMemoryRegion ≤ maxMsgSize := by
    simp only [maxAttachedFdEntries] at hlen
    simp [maxMsgSize]
    omega
  have hsend := run_sendRequestWithPayload_ready hm .setMemTable
    (VhostUserMemory.new (UInt32.ofNat (regions.map toRegion).length)) (regions.map toRegion)
    (some (regions.map mmapHandle)) hsize (fun _ hfds => by cases hfds; simpa using hlen)
  simp only [setMemTable, hbounds, Bool.false_eq_true, if_false, EStateM.run_bind,
    memoryContext_of_mappable hmap, Prog.lift]
  simp only [EStateM.run_pure, hsend, run_waitForAck_newRequestHeader]
  simp [memTableMessage, memTableHeader, memTableBody]

/-- A table that is empty, too long, or has a region that is not mappable is
refused before anything is sent. -/
theorem run_setMemTable_reject (m : MasterInternal Sock) {regions : List VhostUserMemoryRegionInfo}
    (hbad : regions = [] ∨ maxAttachedFdEntries < regions.length ∨ ∃ r ∈ regions, ¬ r.Mappable) :
    (setMemTable (E := Sock) regions).run m = .error (.err .invalidParam) m := by
  by_cases hbounds : regions = [] ∨ maxAttachedFdEntries < regions.length
  · have hcond : (regions.isEmpty || decide (regions.length > maxAttachedFdEntries)) = true := by
      simpa using hbounds
    simp only [setMemTable, hcond, if_true]
    rfl
  · have hcond : (regions.isEmpty || decide (regions.length > maxAttachedFdEntries)) = false := by
      simpa [not_or] using hbounds
    have hctx : memoryContext regions = .error .invalidParam :=
      memoryContext_of_not_mappable
        ((hbad.resolve_left fun he => hbounds (.inl he)).resolve_left fun hl => hbounds (.inr hl))
    simp only [setMemTable, hcond, Bool.false_eq_true, if_false, EStateM.run_bind, hctx, Prog.lift]
    rfl

end Master

/-! ## The slave's side -/

namespace SlaveReqHandler

open MasterInternal

variable {S : Type} [VhostUserSlaveReqHandler S]

/-- The slave's checks on regions the master wrote for mappable regions fail
exactly when one of them does not fit. -/
theorem any_not_isValid_toRegion : ∀ {regions : List VhostUserMemoryRegionInfo},
    (∀ r ∈ regions, r.Mappable) →
      ((regions.map toRegion).any fun region => !VhostUserMsgValidator.isValid region) =
        !decide (∀ r ∈ regions, r.Fits)
  | [], _ => rfl
  | region :: rest, hmap => by
      rw [List.map_cons, List.any_cons, isValid_toRegion (hmap region List.mem_cons_self),
        any_not_isValid_toRegion fun r hr => hmap r (List.mem_cons_of_mem _ hr)]
      simp

/-- The slave's `set_mem_table` on the request the master wrote, with as many
descriptors as regions: the backend gets the regions and descriptors when every
region fits; otherwise the descriptors are closed and the request refused. -/
theorem run_setMemTable_memTableBody (h : SlaveReqHandler S)
    {regions : List VhostUserMemoryRegionInfo} (fds : List Fd) (hne : regions ≠ [])
    (hlen : regions.length ≤ maxAttachedFdEntries) (hmap : ∀ r ∈ regions, r.Mappable)
    (hfds : fds.length = regions.length) :
    (setMemTable (S := S) (memTableHeader regions) (memTableBody regions).length
        (memTableBody regions) (some fds)).run h =
      if ∀ r ∈ regions, r.Fits then
        (callBackend (.setMemTable (regions.map toRegion) fds)
          (VhostUserSlaveReqHandler.setMemTable (regions.map toRegion) fds)).run h
      else .error (.err .invalidMessage)
        { h with mainSock := { h.mainSock with closed := h.mainSock.closed ++ fds } } := by
  have hpos : 0 < regions.length := List.length_pos_of_ne_nil hne
  have hcount : (UInt32.ofNat regions.length).toNat = regions.length := by
    simp only [maxAttachedFdEntries] at hlen
    exact UInt32.toNat_ofNat_of_lt' (show regions.length < 2 ^ 32 by omega)
  have hcheck : ∀ h' : SlaveReqHandler S, (checkRequestSize (memTableHeader regions)
      (memTableBody regions).length (memTableHeader regions).getSize.toNat).run h' = .ok () h' := by
    intro h'
    have hlt : 8 + regions.length * 32 < 4294967296 := by
      simp only [maxAttachedFdEntries] at hlen
      omega
    simp [checkRequestSize, checkMsgSize, memTableHeader, length_memTableBody, Nat.mod_eq_of_lt hlt]
  have hcast : ∀ h' : SlaveReqHandler S, (castBuf (memTableBody regions)).run h' =
      .ok (VhostUserMemory.new (UInt32.ofNat regions.length)) h' := by
    intro h'
    simp [castBuf, memTableBody, Pod.ofBytes_toBytes_append]
  have hnonzero : UInt32.ofNat regions.length ≠ 0 := fun hzero => by
    rw [hzero, UInt32.toNat_zero] at hcount
    omega
  have hhead : VhostUserMsgValidator.isValid (VhostUserMemory.new (UInt32.ofNat regions.length)) =
      true := by
    simp [VhostUserMsgValidator.isValid, VhostUserMemory.new, hcount, hnonzero, hlen]
  have hread : Pod.readList (VhostUserMemory.new (UInt32.ofNat regions.length)).numRegions.toNat
      ((memTableBody regions).drop (Pod.size VhostUserMemory)) = regions.map toRegion := by
    simpa [memTableBody, VhostUserMemory.new, hcount] using
      Pod.readList_listBytes_append (regions.map toRegion) []
  simp only [setMemTable, EStateM.run_bind]
  rw [hcheck]
  dsimp only
  rw [if_neg (by simp [length_memTableBody]), EStateM.run_bind, hcast]
  dsimp only
  rw [hhead, if_neg (by simp)]
  have hsize : (memTableBody regions).length = Pod.size VhostUserMemory +
      (VhostUserMemory.new (UInt32.ofNat regions.length)).numRegions.toNat *
        Pod.size VhostUserMemoryRegion := by
    simp [length_memTableBody, VhostUserMemory.new, hcount]
  rw [if_neg (not_not.2 hsize)]
  have hcountFds : ¬ fds.length ≠ (VhostUserMemory.new (UInt32.ofNat regions.length)).numRegions.toNat := by
    simp [VhostUserMemory.new, hcount, hfds]
  simp only [hcountFds, if_false, pure_bind, hread, any_not_isValid_toRegion hmap]
  -- the region checks: all pass, or one fails and the descriptors are closed
  by_cases hfit : ∀ r ∈ regions, r.Fits
  · rw [decide_eq_true hfit, if_pos hfit]
    rfl
  · rw [decide_eq_false hfit, if_neg hfit]
    simp only [Bool.not_false, if_true, EStateM.run_bind, run_closeRfds_some]
    rfl

omit [VhostUserSlaveReqHandler S] in
/-- A send touches neither the backend calls nor the closed descriptors. -/
theorem sendFrame_calls_closed :
    SendFrame fun h : SlaveReqHandler S => (h.calls, h.mainSock.closed) := by
  intro h data fds
  have hsock := sendFrame_recvSide (σ := SlaveReqHandler S) h data fds
  simp only [Prod.mk.injEq] at hsock
  exact Prod.ext rfl hsock.2.2.2

theorem isValid_memTableHeader {regions : List VhostUserMemoryRegionInfo}
    (hlen : regions.length ≤ maxAttachedFdEntries) :
    (memTableHeader regions).isValid = some true := by
  have hsize : (memTableHeader regions).getSize.toNat ≤ maxMsgSize := by
    rw [getSize_memTableHeader hlen, length_memTableBody]
    simp only [maxAttachedFdEntries] at hlen
    simp only [maxMsgSize]
    omega
  exact isValid_newRequestHeader (by decide) hsize

/-- The request the master wrote for a table of mappable regions, through
`handle_request`: the backend gets the regions and the handles, in order, when
every region fits; otherwise it is not called and every handle is closed.  The
ack that follows touches neither. -/
theorem calls_closed_run_handleRequest_memTableMessage (h : SlaveReqHandler S)
    {regions : List VhostUserMemoryRegionInfo} (hne : regions ≠ [])
    (hlen : regions.length ≤ maxAttachedFdEntries) (hmap : ∀ r ∈ regions, r.Mappable)
    (rest : Stream Fd) (herr : h.error = none) (hplan : h.mainSock.recvPlan = [])
    (hrx : h.mainSock.rx = pack (memTableMessage regions) (regions.map mmapHandle) ++ rest) :
    (((handleRequest (S := S)).run h).state.calls,
        ((handleRequest (S := S)).run h).state.mainSock.closed) =
      if ∀ r ∈ regions, r.Fits then
        (h.calls ++ [.setMemTable (regions.map toRegion) (regions.map mmapHandle)],
          h.mainSock.closed)
      else (h.calls, h.mainSock.closed ++ regions.map mmapHandle) := by
  have hfds : (regions.map mmapHandle).length ≤ maxAttachedFdEntries := by simpa using hlen
  rw [run_handleRequest_message h (memTableHeader regions) (memTableBody regions) _ rest herr hrx
    hplan (isValid_memTableHeader hlen) (getSize_memTableHeader hlen) hfds
    (Or.inr ⟨.setMemTable, by decide, getCode_newRequestHeader _ _⟩)]
  have hsome : (if (regions.map mmapHandle).isEmpty then none else some (regions.map mmapHandle)) =
      some (regions.map mmapHandle) := by
    simp [hne]
  have hcode : (memTableHeader regions).getCode = some .setMemTable := getCode_newRequestHeader _ _
  have hbody := run_setMemTable_memTableBody (h.consumed (regions.map mmapHandle) rest)
    (regions.map mmapHandle) hne hlen hmap (by simp)
  unfold dispatchRequest
  rw [hsome, hcode]
  dsimp only
  -- the set_mem_table call, then the ack, which keeps both views
  have hack := keeps_sendAckMessage (S := S) sendFrame_calls_closed (memTableHeader regions)
  by_cases hfit : ∀ r ∈ regions, r.Fits
  · rw [if_pos hfit, run_callBackend] at hbody
    rw [if_pos hfit]
    have hstep := Keeps.state_run_bind (g := fun res => sendAckMessage _ (res.bind id))
      (Prog.run_result_of_ok hbody) (hack _)
    rw [hstep]
    rfl
  · rw [if_neg hfit] at hbody
    rw [if_neg hfit]
    have hstep := Keeps.state_run_bind (g := fun res => sendAckMessage _ (res.bind id))
      (Prog.run_result_of_err hbody) (hack _)
    rw [hstep]
    rfl

/-- SET_MEM_TABLE end to end: the master writes the request for a table of one
to `MAX_ATTACHED_FD_ENTRIES` mappable regions, with the handles, and the slave
that reads it hands the backend the regions and handles, in order, exactly when
no region overflows; otherwise the backend is not called and the slave closes
every handle it received. -/
theorem setMemTable_accepted_iff_regions_fit {m : MasterInternal Sock} (hm : m.Ready)
    {regions : List VhostUserMemoryRegionInfo} (hne : regions ≠ [])
    (hlen : regions.length ≤ maxAttachedFdEntries) (hmap : ∀ r ∈ regions, r.Mappable)
    (h : SlaveReqHandler S) (rest : Stream Fd) (herr : h.error = none)
    (hplan : h.mainSock.recvPlan = [])
    (hrx : h.mainSock.rx = pack (memTableMessage regions) (regions.map mmapHandle) ++ rest) :
    (Master.setMemTable (E := Sock) regions).run m =
        .ok () (m.wrote (memTableMessage regions) (regions.map mmapHandle)) ∧
      (((handleRequest (S := S)).run h).state.calls,
          ((handleRequest (S := S)).run h).state.mainSock.closed) =
        if ∀ r ∈ regions, r.Fits then
          (h.calls ++ [.setMemTable (regions.map toRegion) (regions.map mmapHandle)],
            h.mainSock.closed)
        else (h.calls, h.mainSock.closed ++ regions.map mmapHandle) :=
  ⟨Master.run_setMemTable_ready hm hne hlen hmap,
    calls_closed_run_handleRequest_memTableMessage h hne hlen hmap rest herr hplan hrx⟩

theorem setMemTable_accepted_iff_regions_fit_one_region :
    (Master.setMemTable (E := Sock) [⟨0, 4096, 0, 0, 5⟩]).run
        (MasterInternal.new (Sock.ofStream []) vhostUserMaxVrings) =
        .ok () ((MasterInternal.new (Sock.ofStream []) vhostUserMaxVrings).wrote
          (memTableMessage [⟨0, 4096, 0, 0, 5⟩]) [5]) ∧
      (((handleRequest (S := DummySlaveReqHandler)).run
            (new (Sock.ofStream (pack (memTableMessage [⟨0, 4096, 0, 0, 5⟩]) [5]))
              DummySlaveReqHandler.new)).state.calls,
          ((handleRequest (S := DummySlaveReqHandler)).run
            (new (Sock.ofStream (pack (memTableMessage [⟨0, 4096, 0, 0, 5⟩]) [5]))
              DummySlaveReqHandler.new)).state.mainSock.closed) =
        if ∀ r ∈ [(⟨0, 4096, 0, 0, 5⟩ : VhostUserMemoryRegionInfo)], r.Fits then
          ([.setMemTable [⟨0, 4096, 0, 0⟩] [5]], [])
        else ([], [5]) :=
  setMemTable_accepted_iff_regions_fit ⟨rfl, rfl⟩ (by decide) (by decide) (by decide) _ [] rfl rfl
    (List.append_nil _).symm

end SlaveReqHandler

end Vhost.User
