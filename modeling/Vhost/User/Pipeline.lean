import Mathlib
import Vhost.Lib.Segments
import Vhost.User.SlaveFrame
import Vhost.User.Request
import Vhost.User.Link

/-!
# The slave reads whole requests

The slave reads a request as a header and then as many body bytes as the header
states.  It finds the requests where the master put them only if its input is
always whole requests, one after another.

The slave keeps its side of that: `handle_request` reads the header and the
whole body before it looks at anything else, the arms of its dispatch only
write, and a handler that has failed reads nothing.  So one request served
takes exactly one whole request off the input, or nothing.

The connection keeps the rest: what the master writes is delivered whole to the
end of the slave's input, provided the master's kernel takes each write whole.
`WholeWrites` is that condition on any endpoint; the master's operations are
shown to meet it in `Vhost.User.Session`.
-/

namespace Vhost.User

open ByteStream EStateM Segments

/-! ## Whole requests -/

/-- One whole request as the slave reads it: a valid header, a body of the size
the header states, and at most `MAX_ATTACHED_FD_ENTRIES` descriptors with its
first byte, only on a code that `check_attached_rfds` lets keep them. -/
def RequestFrame (cells : Stream Fd) : Prop :=
  ∃ (hdr : VhostUserMsgHeader MasterReq) (body : List UInt8) (fds : List Fd),
    cells = pack (Pod.toBytes hdr ++ body) fds ∧ hdr.isValid = some true ∧
    hdr.getSize.toNat = body.length ∧ fds.length ≤ maxAttachedFdEntries ∧
    (fds = [] ∨ ∃ code ∈ SlaveReqHandler.fdCodes, hdr.getCode = some code)

/-- The slave's unread input: whole requests, one after another. -/
def Framed (rx : Stream Fd) : Prop :=
  Frames RequestFrame rx

/-- The request code at the front of a stream, as the slave's header read
decodes it. -/
def frameCode (cells : Stream Fd) : Option MasterReq :=
  (Pod.ofBytes (bytes cells) : VhostUserMsgHeader MasterReq).getCode

@[simp]
theorem frameCode_pack (hdr : VhostUserMsgHeader MasterReq) (body : List UInt8) (fds : List Fd) :
    frameCode (pack (Pod.toBytes hdr ++ body) fds) = hdr.getCode := by
  simp [frameCode, bytes_pack]

/-- A whole request whose code has the property `P`. -/
def RequestFrameOf (P : MasterReq → Prop) (cells : Stream Fd) : Prop :=
  RequestFrame cells ∧ ∃ code, frameCode cells = some code ∧ P code

/-! ## The slave reads whole requests -/

namespace SlaveReqHandler

variable {S : Type}

/-- What the slave's socket shows of its input: the bytes waiting and the
kernel's plan for reads. -/
def recvSide (h : SlaveReqHandler S) : Stream Fd × List SockStep :=
  (h.mainSock.rx, h.mainSock.recvPlan)

theorem replyBlind_recvSide : ReplyBlind (recvSide (S := S)) where
  sendFrame s data fds := congrArg (fun v => (v.1, v.2.1)) (sendFrame_recvSide s data fds)
  closeFrame s fd := congrArg (fun v => (v.1, v.2.2.1)) (closeFrame_transfer s fd)
  backend _ _ _ := rfl

theorem negotiationBlind_recvSide : NegotiationBlind (recvSide (S := S)) :=
  fun _ _ _ _ _ _ => rfl

@[simp]
theorem sock_eq_mainSock (h : SlaveReqHandler S) : SockLens.sock h = h.mainSock := rfl

@[simp]
theorem mainSock_setSock (h : SlaveReqHandler S) (o : Sock) :
    (SockLens.setSock h o).mainSock = o := rfl

/-- A read from a dry stream, on a kernel that reads in full, leaves it dry. -/
theorem recvInv_dry : RecvInv fun h : SlaveReqHandler S => recvSide h = ([], []) := by
  intro h want room hdry
  simp only [recvSide, Prod.mk.injEq] at hdry ⊢
  simp [SockLens.os_recvmsg, Sock.recvmsg, hdry.1, hdry.2]

/-- The slave's input is whole requests, and its kernel reads in full. -/
def InputFramed (h : SlaveReqHandler S) : Prop :=
  h.mainSock.recvPlan = [] ∧ Framed h.mainSock.rx

variable [VhostUserSlaveReqHandler S]

/-- Every arm of the dispatch leaves the slave's input as the reads left it. -/
theorem keeps_recvSide_dispatchRequest (hdr : VhostUserMsgHeader MasterReq) (size : Nat)
    (buf : List UInt8) (rfds : Option (List Fd)) :
    Keeps recvSide (dispatchRequest (S := S) hdr size buf rfds) :=
  replyBlind_recvSide.keeps_dispatchRequest_of_negotiationBlind negotiationBlind_recvSide
    hdr size buf rfds

/-- A handler with nothing to read reads nothing, whatever it does. -/
theorem preserves_dry_handleRequest :
    Preserves (fun h => recvSide h = ([], [])) (handleRequest (S := S)) := by
  have hdry := recvInv_dry (S := S)
  have hsame : ∀ s s' : SlaveReqHandler S, recvSide s' = recvSide s →
      recvSide s = ([], []) → recvSide s' = ([], []) :=
    fun _ _ hsame hs => hsame.trans hs
  exact (Preserves.of_keeps keeps_checkState hsame).bind fun _ =>
    hdry.preserves_recvHeader.bind fun ⟨hdr, rfds⟩ =>
      (Preserves.of_keeps (keeps_checkAttachedRfds replyBlind_recvSide.closeFrame hdr rfds)
        hsame).bind fun rfds =>
        (hdry.preserves_readRequestBody hdr).bind fun ⟨size, buf⟩ =>
          Preserves.of_keeps (keeps_recvSide_dispatchRequest hdr size buf rfds) hsame

/-- `handle_request` on a stream that starts with a whole request reads exactly
that request, whatever it then does with it. -/
theorem recvSide_run_handleRequest_of_frame (h : SlaveReqHandler S) (herr : h.error = none)
    {frame rest : Stream Fd} (hframe : RequestFrame frame) (hrx : h.mainSock.rx = frame ++ rest)
    (hplan : h.mainSock.recvPlan = []) :
    recvSide ((handleRequest (S := S)).run h).state = (rest, []) := by
  obtain ⟨hdr, body, fds, rfl, hvalid, hsize, hfds, hkeep⟩ := hframe
  rw [run_handleRequest_message h hdr body fds rest herr hrx hplan hvalid hsize hfds hkeep,
    keeps_recvSide_dispatchRequest]
  simp [recvSide, consumed, hplan]

/-- One `handle_request` keeps the slave's input whole requests: it reads the
first one whole, or nothing when the handler has failed or has nothing to
read. -/
theorem preserves_inputFramed_handleRequest : Preserves InputFramed (handleRequest (S := S)) := by
  intro h ⟨hplan, hframed⟩
  cases herr : h.error with
  | some e =>
      -- a failed handler stops at `check_state`
      have hrun : (handleRequest (S := S)).run h = .error (.err (.socketBroken (.os e))) h := by
        simp [handleRequest, checkState, checkFailed, herr]
      rw [hrun]
      exact ⟨hplan, hframed⟩
  | none =>
      generalize hrx : h.mainSock.rx = rx at hframed
      cases hframed with
      | nil =>
          have hend := preserves_dry_handleRequest h (by simp [recvSide, hplan, hrx])
          simp only [recvSide, Prod.mk.injEq] at hend
          exact ⟨hend.2, by rw [hend.1]; exact .nil⟩
      | cons hframe hrest =>
          have hend := recvSide_run_handleRequest_of_frame h herr hframe hrx hplan
          simp only [recvSide, Prod.mk.injEq] at hend
          exact ⟨hend.2, by rw [hend.1]; exact hrest⟩

/-- A handler that has not failed, whose input is whole requests with one
waiting, reads the first of them whole and dispatches it as it was written; the
rest of its input is still whole requests. -/
theorem run_handleRequest_of_inputFramed (h : SlaveReqHandler S) (hh : h.InputFramed)
    (herr : h.error = none) (hrx : h.mainSock.rx ≠ []) :
    ∃ (hdr : VhostUserMsgHeader MasterReq) (body : List UInt8) (fds : List Fd) (rest : Stream Fd),
      h.mainSock.rx = pack (Pod.toBytes hdr ++ body) fds ++ rest ∧ hdr.isValid = some true ∧
      hdr.getSize.toNat = body.length ∧ Framed rest ∧
      (handleRequest (S := S)).run h =
        (dispatchRequest hdr body.length body (if fds.isEmpty then none else some fds)).run
          (h.consumed fds rest) := by
  obtain ⟨hplan, hframed⟩ := hh
  generalize hcells : h.mainSock.rx = cells at hframed hrx
  cases hframed with
  | nil => exact absurd rfl hrx
  | cons hframe hrest =>
      obtain ⟨hdr, body, fds, rfl, hvalid, hsize, hfds, hkeep⟩ := hframe
      exact ⟨hdr, body, fds, _, rfl, hvalid, hsize, hrest,
        run_handleRequest_message h hdr body fds _ herr hcells hplan hvalid hsize hfds hkeep⟩

end SlaveReqHandler

/-! ## Endpoints that take whole requests whole -/

section Endpoint

variable {σ : Type} [Os σ]

/-- An endpoint on which a property `J` survives every system call, and whose
kernel takes a write of a whole request whole, for the requests whose code has
the property `Q`. -/
structure WholeWrites (Q : MasterReq → Prop) (J : σ → Prop) : Prop where
  sendmsg : ∀ s data fds, J s → RequestFrameOf Q (pack data fds) →
    (Os.sendmsg s data fds).1 = .ok data.length ∧ J (Os.sendmsg s data fds).2
  recvmsg : RecvInv J
  close : ∀ s fd, J s → J (Os.close s fd)

namespace WholeWrites

variable {Q : MasterReq → Prop} {J : σ → Prop} (hJ : WholeWrites Q J)
include hJ

theorem preserves_sendIovecAll (iov : List UInt8) (rest : List (List UInt8))
    (fds : Option (List Fd)) (hiov : iov ≠ [])
    (hframe : RequestFrameOf Q (pack (iov :: rest).flatten (fds.getD []))) :
    Preserves J (sendIovecAll (σ := σ) (iov :: rest) fds) := by
  intro s hs
  obtain ⟨hsent, hnext⟩ := hJ.sendmsg s _ _ hs hframe
  rw [run_sendIovecAll_of_sendmsg iov rest fds hiov (Prod.ext hsent rfl)]
  exact hnext

theorem preserves_sendHeader (hdr : VhostUserMsgHeader MasterReq) (fds : Option (List Fd))
    (hframe : RequestFrameOf Q (pack (Pod.toBytes hdr) (fds.getD []))) :
    Preserves J (sendHeader (σ := σ) hdr fds) :=
  (hJ.preserves_sendIovecAll _ [] fds (toBytes_header_ne_nil hdr) (by simpa using hframe)).bind
    fun _ => .ite (.throw _) (.pure _)

theorem preserves_sendMessage {T : Type} [Pod T] (hdr : VhostUserMsgHeader MasterReq) (body : T)
    (fds : Option (List Fd))
    (hframe : RequestFrameOf Q (pack (Pod.toBytes hdr ++ Pod.toBytes body) (fds.getD []))) :
    Preserves J (sendMessage (σ := σ) hdr body fds) :=
  (hJ.preserves_sendIovecAll _ [_] fds (toBytes_header_ne_nil hdr) (by simpa using hframe)).bind
    fun _ => .ite (.throw _) (.pure _)

/-- `send_message_with_payload` writes only after its own checks, so the frame
is asked for only when they pass. -/
theorem preserves_sendMessageWithPayload {T P : Type} [Pod T] [Pod P]
    (hdr : VhostUserMsgHeader MasterReq) (body : T) (payload : List P) (fds : Option (List Fd))
    (hframe : payload.length * Pod.size P ≤ maxMsgSize - Pod.size T →
      RequestFrameOf Q (pack (Pod.toBytes hdr ++ Pod.toBytes body ++ Pod.listBytes payload)
        (fds.getD []))) :
    Preserves J (sendMessageWithPayload (σ := σ) hdr body payload fds) := by
  have hsend : payload.length * Pod.size P ≤ maxMsgSize - Pod.size T →
      Preserves J (sendIovecAll (σ := σ) [Pod.toBytes hdr, Pod.toBytes body,
        Pod.listBytes payload] fds) := fun hlen =>
    hJ.preserves_sendIovecAll _ _ fds (toBytes_header_ne_nil hdr)
      (by simpa [List.append_assoc] using hframe hlen)
  unfold sendMessageWithPayload
  refine .ite_of (fun _ => .throw_bind _ _) fun hlen => ?_
  have hrest : Preserves J (do
      let sent ← sendIovecAll (σ := σ) [Pod.toBytes hdr, Pod.toBytes body,
        Pod.listBytes payload] fds
      if sent ≠ 12 + Pod.size T + payload.length * Pod.size P then
        throw (.err .partialMessage)) :=
    (hsend (Nat.le_of_not_gt hlen)).bind fun _ => .ite (.throw _) (.pure _)
  split
  · exact .ite (.throw_bind _ _) hrest
  · exact hrest

theorem preserves_recvBody {T : Type} [Pod T] [VhostUserMsgValidator T] :
    Preserves J (recvBody (σ := σ) (R := MasterReq) (T := T)) :=
  hJ.recvmsg.preserves_recvBody

theorem preserves_recvPayloadIntoBuf {T : Type} [Pod T] [VhostUserMsgValidator T]
    (buf : List UInt8) :
    Preserves J (recvPayloadIntoBuf (σ := σ) (R := MasterReq) (T := T) buf) :=
  hJ.recvmsg.preserves_recvPayloadIntoBuf buf

theorem preserves_closeRfds (rfds : Option (List Fd)) : Preserves J (closeRfds (σ := σ) rfds) := by
  cases rfds with
  | none => exact .pure _
  | some fds =>
      -- the descriptors are closed one after another
      refine .modify fun s hs => ?_
      induction fds generalizing s with
      | nil => exact hs
      | cons fd fds ih => exact ih _ (hJ.close s fd hs)

end WholeWrites

end Endpoint

/-! ## The connection delivers whole requests -/

/-- A read takes bytes off its own socket's input only. -/
theorem Sock.recvmsg_sendSide (o : Sock) (want room : Nat) :
    (Sock.recvmsg o want room).2.sendPlan = o.sendPlan ∧ (Sock.recvmsg o want room).2.tx = o.tx := by
  unfold Sock.recvmsg
  split <;> exact ⟨rfl, rfl⟩

namespace Link

section Serve

variable {π : Type} [Responder π]

/-- A property of the peer that each request it serves keeps, from a state with
input waiting, holds however many it serves: the loop serves only then.  By
induction on the rounds of its loop. -/
theorem serve_preserves_of_ne_nil {P : π → Prop}
    (hP : ∀ p, P p → (Responder.endpoint p).rx ≠ [] → P (Responder.serveOne.run p).state) :
    ∀ (fuel : Nat) (p : π), P p → P (serve fuel p).1
  | 0, _, hp => hp
  | fuel + 1, p, hp => by
      rw [serve]
      split
      · exact hp
      · next hne =>
        have hstep := hP p hp (by simpa using hne)
        -- every outcome of the round hands its state to the rest of the loop, or stops
        rcases hrun : (Responder.serveOne (π := π)).run p with ⟨_, p'⟩ | ⟨e, p'⟩
        · rw [hrun] at hstep
          exact serve_preserves_of_ne_nil hP fuel p' hstep
        · rw [hrun] at hstep
          cases e with
          | err _ => exact serve_preserves_of_ne_nil hP fuel p' hstep
          | panic | undefined | diverges => exact hstep

/-- A property of the peer that each request it serves keeps holds however
many it serves. -/
theorem serve_preserves {P : π → Prop} (hP : Preserves P (Responder.serveOne (π := π))) :
    ∀ (fuel : Nat) (p : π), P p → P (serve fuel p).1 :=
  serve_preserves_of_ne_nil fun p hp _ => hP p hp

end Serve

variable {S : Type}

open SlaveReqHandler

/-- The master's end of a connection to a slave, between two of its system
calls: its kernel takes writes whole, everything it wrote has been delivered,
and the slave's input is whole requests. -/
structure Synced (l : Link (SlaveReqHandler S)) : Prop where
  sendPlan : l.sock.sendPlan = []
  tx : l.sock.tx = []
  input : l.peer.InputFramed

theorem synced_connect (h : SlaveReqHandler S) (hh : h.InputFramed) : Synced (connect h) :=
  ⟨rfl, rfl, hh⟩

variable [VhostUserSlaveReqHandler S]

theorem inputFramed_serve (fuel : Nat) (h : SlaveReqHandler S) (hh : h.InputFramed) :
    (serve fuel h).1.InputFramed :=
  serve_preserves preserves_inputFramed_handleRequest fuel h hh

/-- The slave serves what it was sent and its replies come back: the master's
writes are untouched, and the slave's input stays whole requests. -/
theorem Synced.settle {l : Link (SlaveReqHandler S)} (hl : Synced l) : Synced (settle l) := by
  have hpeer : (if l.peerHalted then (l.peer, true)
      else serve ((Responder.endpoint l.peer).rx.length +
        Os.retryBound (Responder.endpoint l.peer) + 1) l.peer).1.InputFramed := by
    split
    · exact hl.input
    · exact inputFramed_serve _ l.peer hl.input
  exact ⟨hl.sendPlan, hl.tx, hpeer⟩

/-- Every read of the master's keeps the connection synced: the slave serves
first, and the read itself touches only the master's input. -/
theorem synced_recvInv : RecvInv (Synced (S := S)) := by
  intro l want room hl
  have hs := hl.settle
  simp only [Os.recvmsg]
  split
  · exact hs
  · have hside := Sock.recvmsg_sendSide (Link.settle l).sock want room
    exact ⟨hside.1.trans hs.sendPlan, hside.2.trans hs.tx, hs.input⟩

theorem Synced.close {l : Link (SlaveReqHandler S)} (hl : Synced l) (fd : Fd) :
    Synced (Os.close l fd) :=
  ⟨hl.sendPlan, hl.tx, hl.input⟩

/-- A whole request the master writes is delivered whole to the end of the
slave's input. -/
theorem Synced.sendmsg {l : Link (SlaveReqHandler S)} (hl : Synced l) {data : List UInt8}
    {fds : List Fd} (hframe : RequestFrame (pack data fds)) :
    (Os.sendmsg l data fds).1 = .ok data.length ∧ Synced (Os.sendmsg l data fds).2 := by
  rw [sendmsg_of_sendPlan_nil l data fds hl.sendPlan]
  refine ⟨rfl, hl.sendPlan, rfl, hl.input.1, ?_⟩
  -- the slave's input grows by the one request, after those already waiting
  show Framed (l.peer.mainSock.rx ++ (l.sock.tx ++ pack data fds))
  rw [hl.tx, List.nil_append]
  exact hl.input.2.snoc hframe

/-- One round of the slave's loop, taken by its thread at a moment of its own,
between two of the master's system calls. -/
def serveRound (l : Link (SlaveReqHandler S)) : Link (SlaveReqHandler S) :=
  if l.peerHalted then l
  else { l with peer := (serve 1 l.peer).1, peerHalted := (serve 1 l.peer).2 }

theorem Synced.serveRound {l : Link (SlaveReqHandler S)} (hl : Synced l) :
    Synced (serveRound l) := by
  unfold Link.serveRound
  split
  · exact hl
  · exact ⟨hl.sendPlan, hl.tx, inputFramed_serve 1 l.peer hl.input⟩

/-- The connection to a slave takes whole requests whole. -/
theorem wholeWrites_synced : WholeWrites (fun _ => True) (Synced (S := S)) where
  sendmsg _ _ _ hl hframe := hl.sendmsg hframe.1
  recvmsg := synced_recvInv
  close _ fd hl := hl.close fd

end Link

end Vhost.User
