import Mathlib
import Vhost.User.Answer
import Vhost.User.Session
import Vhost.User.GetConfig

/-!
# No reply is left unread

The slave answers five requests with a reply of their own, the `GET_` ones,
and acknowledges every other request once REPLY_ACK is negotiated.  The master
reads a reply only after a `GET_` request: its `wait_for_ack` reads nothing,
since none of its requests asks for a reply.  Once REPLY_ACK is negotiated an
acknowledgement therefore stays unread, and the next `GET_` reads it in place
of its own reply.

Without REPLY_ACK the two sides agree.  In every state of a session in which
the master never acks REPLY_ACK, nothing waits unread for the master once the
slave has served what it was sent, however the calls were interleaved with the
slave's rounds and whatever each call returned (`live_no_reply_left`).

The proof follows the requests.  A request other than a `GET_` one draws
nothing from the slave (`Vhost.User.Answer`).  A `GET_` request draws at most
one reply, no longer than what the master's first read after it asks for, so
that read takes all of it.  The master reads after each `GET_` request and
after no other.  A call that panics or never returns ends the master's thread,
and the session with it.
-/

namespace Vhost.User

open ByteStream EStateM Segments

/-- A fault that ends the master's thread: a panic, undefined behaviour, or a
read that never returns. -/
def Stops (f : Fault) : Prop :=
  f.error? = none

/-! ## The first read of a receive -/

section FirstRead

variable {σ : Type} [Os σ] {P I : σ → Prop}

/-- From a state with `P`, a read of `want` bytes blocks for ever or leaves a
state with `I`. -/
def FirstRead (P I : σ → Prop) (want : Nat) : Prop :=
  ∀ s, P s → (Os.recvmsg s want maxAttachedFdEntries).1 = none ∨
    I (Os.recvmsg s want maxAttachedFdEntries).2

theorem triple_rawRecvmsg {want : Nat} (hfirst : FirstRead P I want) :
    Triple Stops P (rawRecvmsg (σ := σ) want maxAttachedFdEntries) (fun _ => I) I := by
  intro s hs
  have hread := hfirst s hs
  generalize hr : Os.recvmsg s want maxAttachedFdEntries = r at hread
  obtain ⟨result, s₁⟩ := r
  simp only [rawRecvmsg, EStateM.run_bind, EStateM.run_modifyGet, hr]
  rcases result with _ | (errno | ⟨data, fds⟩)
  · -- the read blocks for ever
    exact .inl rfl
  · exact .inr (hread.resolve_left (Option.some_ne_none _))
  · have hI := hread.resolve_left (Option.some_ne_none _)
    dsimp only
    -- a read of nothing at all is the peer closing the connection
    by_cases hempty : (data.isEmpty && fds.isEmpty) = true
    · rw [if_pos hempty]
      exact .inr hI
    · rw [if_neg hempty]
      exact hI

theorem triple_recvIntoIovec (iovs : List (List UInt8))
    (hfirst : FirstRead P I (iovs.map List.length).sum) :
    Triple Stops P (recvIntoIovec (σ := σ) iovs) (fun _ => I) I :=
  (triple_rawRecvmsg hfirst).bind fun _ => Triple.pure fun _ hs => hs

variable (hI : RecvInv I)
include hI

/-- The loop of `recv_into_iovec_all` from its first round: that round reads
into all the buffers, and the rounds after it keep `I`. -/
theorem triple_recvIntoIovecAllLoop (iov : List UInt8) (rest : List (List UInt8)) (hiov : iov ≠ [])
    (hfirst : FirstRead P I ((iov :: rest).map List.length).sum) (fuel : Nat) :
    Triple Stops P (recvIntoIovecAllLoop (σ := σ) ((iov :: rest).map List.length)
      ((iov :: rest).map List.length).sum (fuel + 1) (iov :: rest) 0 none) (fun _ => I) I := by
  rw [recvIntoIovecAllLoop, if_pos (by simpa using sum_map_length_pos iov rest hiov),
    getSubIovsOffset_cons_zero iov rest hiov]
  simp only [List.getElem?_cons_zero, pure_bind, List.drop_zero, Nat.zero_add, List.drop_one,
    List.tail_cons, gt_iff_lt, Nat.not_lt_zero, if_false]
  refine (Triple.attempt Fault.error? (fun _ hstop => hstop) (triple_recvIntoIovec _ hfirst)).bind
    fun res => Triple.of_preserves ?_
  have hloop := hI.preserves_recvIntoIovecAllLoop ((iov :: rest).map List.length)
    ((iov :: rest).map List.length).sum fuel
  rcases res with e | ⟨_ | n, fds, filled⟩
  · exact Preserves.ite (hloop _ _ _) (Preserves.throw _)
  · exact Preserves.pure _
  · exact hloop _ _ _

/-- `recv_into_iovec_all` whose first read leaves `I`, a property every later
read keeps: it ends in `I`, or never returns. -/
theorem triple_recvIntoIovecAll (iov : List UInt8) (rest : List (List UInt8)) (hiov : iov ≠ [])
    (hfirst : FirstRead P I ((iov :: rest).map List.length).sum) :
    Triple Stops P (recvIntoIovecAll (σ := σ) (iov :: rest)) (fun _ => I) I := by
  intro s hs
  obtain ⟨fuel, hfuel⟩ : ∃ fuel,
      ((iov :: rest).map List.length).sum + Os.retryBound s + 1 = fuel + 1 :=
    ⟨_, rfl⟩
  simp only [recvIntoIovecAll, EStateM.run_bind, EStateM.run_get]
  rw [hfuel]
  exact triple_recvIntoIovecAllLoop hI iov rest hiov hfirst fuel s hs

theorem triple_recvBody {R T : Type} [Req R] [Pod T] [VhostUserMsgValidator T]
    (hfirst : FirstRead P I (12 + Pod.size T)) :
    Triple Stops P (recvBody (σ := σ) (R := R) (T := T)) (fun _ => I) I := by
  have hwant : ([Pod.toBytes (VhostUserMsgHeader.default (R := R)), zeroed T].map
      List.length).sum = 12 + Pod.size T := by
    simp [zeroed]
  refine (triple_recvIntoIovecAll hI _ _ (toBytes_header_ne_nil _) (hwant ▸ hfirst)).bind
    fun r => Triple.of_preserves ?_
  obtain ⟨bytes, rfds, iovs⟩ := r
  dsimp only
  refine Preserves.ite (Preserves.throw_bind _ _)
    ((Preserves.of_keeps_id (keeps_headerValid _)).bind fun valid => ?_)
  exact Preserves.ite (Preserves.throw_bind _ _) (Preserves.pure _)

theorem triple_recvPayloadIntoBuf {R T : Type} [Req R] [Pod T] [VhostUserMsgValidator T]
    (buf : List UInt8) (hfirst : FirstRead P I (12 + Pod.size T + buf.length)) :
    Triple Stops P (recvPayloadIntoBuf (σ := σ) (R := R) (T := T) buf) (fun _ => I) I := by
  have hwant : ([Pod.toBytes (VhostUserMsgHeader.default (R := R)), zeroed T, buf].map
      List.length).sum = 12 + Pod.size T + buf.length := by
    simp [zeroed, Nat.add_assoc]
  refine (triple_recvIntoIovecAll hI _ _ (toBytes_header_ne_nil _) (hwant ▸ hfirst)).bind
    fun r => Triple.of_preserves ?_
  obtain ⟨bytes, rfds, iovs⟩ := r
  dsimp only
  refine Preserves.ite (Preserves.throw_bind _ _)
    ((Preserves.of_keeps_id (keeps_headerValid _)).bind fun valid => ?_)
  exact Preserves.ite (Preserves.throw_bind _ _) (Preserves.pure _)

end FirstRead

/-- A read on a socket whose kernel reads in full takes the first `want` cells. -/
theorem Sock.recvmsg_of_recvPlan_nil (o : Sock) (want room : Nat) (hplan : o.recvPlan = []) :
    (Sock.recvmsg o want room).2 =
      { o with rx := o.rx.drop want, received := o.received ++ (attached (o.rx.take want)).take room } := by
  simp [Sock.recvmsg, hplan, Sock.limitOf]

/-! ## The connection between two calls of the master -/

namespace Link

open SlaveReqHandler

variable {S : Type}

/-- The connection between two calls of the master: synced, nothing waits for
the master and its kernel reads in full, and a live slave has written nothing,
acks nothing, and has only harmless requests to read before `post`. -/
structure Pending (post : Stream Fd) (l : Link (SlaveReqHandler S)) : Prop where
  synced : Synced l
  recvPlan : l.sock.recvPlan = []
  rx : l.sock.rx = []
  peerTx : l.peer.mainSock.tx = []
  serving : l.peerHalted = false → Serving post l.peer

/-- The connection once the slave has served what it was sent: at most `n`
cells wait for the master, and a live slave has answered everything, or has
written nothing and still has to reach `post`. -/
structure Delivered (n : Nat) (post : Stream Fd) (l : Link (SlaveReqHandler S)) : Prop where
  synced : Synced l
  recvPlan : l.sock.recvPlan = []
  rx : l.sock.rx.length ≤ n
  peerTx : l.peer.mainSock.tx = []
  serving : l.peerHalted = false → Serving [] l.peer ∨ (l.sock.rx = [] ∧ Serving post l.peer)

theorem Delivered.pending {l : Link (SlaveReqHandler S)} (hd : Delivered 0 [] l) : Pending [] l :=
  ⟨hd.synced, hd.recvPlan, List.eq_nil_of_length_eq_zero (Nat.le_zero.1 hd.rx), hd.peerTx,
    fun hhalt => (hd.serving hhalt).elim id And.right⟩

/-- A harmless request joins the harmless ones before it. -/
theorem Pending.absorb {l : Link (SlaveReqHandler S)} {frame : Stream Fd} (hl : Pending frame l)
    (hframe : Harmless frame) : Pending [] l := by
  refine ⟨hl.synced, hl.recvPlan, hl.rx, hl.peerTx, fun hhalt => ?_⟩
  obtain ⟨hmute, hplan, pre, hrx, hpre⟩ := hl.serving hhalt
  exact ⟨hmute, hplan, pre ++ frame, by rw [hrx, List.append_nil], hpre.snoc hframe⟩

variable [VhostUserSlaveReqHandler S]

/-- Handing the slave's output over leaves it serving as it was. -/
theorem serving_clearTx {post : Stream Fd} {p : SlaveReqHandler S} (hp : Serving post p) :
    Serving post (Responder.setEndpoint p { Responder.endpoint p with tx := [] }) :=
  ⟨⟨rfl, hp.1.2.1, hp.1.2.2.acked, hp.1.2.2.flag⟩, hp.2⟩

/-- A slave that has answered, its output handed over, is back to serving. -/
theorem answered_clearTx {n : Nat} {p : SlaveReqHandler S} (hp : Answered n p) :
    Serving [] (Responder.setEndpoint p { Responder.endpoint p with tx := [] }) :=
  ⟨⟨rfl, hp.1.1, hp.1.2.2.acked, hp.1.2.2.flag⟩, hp.2.1, [], hp.2.2, .nil⟩

/-- The slave's loop keeps it writing nothing while it reads harmless requests. -/
theorem serving_serve (fuel : Nat) (p : SlaveReqHandler S) (hp : Serving [] p) :
    Serving [] (serve fuel p).1 :=
  serve_preserves_of_ne_nil (P := Serving []) (fun p hp hne => serving_handleRequest p hp hne)
    fuel p hp

/-- The slave's loop keeps it owing at most the reply to one `GET_` request. -/
theorem owes_serve {F : Stream Fd} (hF : Asking F) (fuel : Nat) (p : SlaveReqHandler S)
    (hp : Owes F p) : Owes F (serve fuel p).1 :=
  serve_preserves_of_ne_nil (fun p hp hne => owes_handleRequest hF p hp hne) fuel p hp

theorem settle_of_halted (l : Link (SlaveReqHandler S)) (hhalt : l.peerHalted = true) :
    settle l = { sock := { l.sock with rx := l.sock.rx ++ l.peer.mainSock.tx },
                 peer := Responder.setEndpoint l.peer { Responder.endpoint l.peer with tx := [] },
                 peerHalted := true } := by
  simp [settle, hhalt]

theorem settle_of_live (l : Link (SlaveReqHandler S)) (hhalt : l.peerHalted = false) :
    settle l =
      { sock := { l.sock with rx := l.sock.rx ++ (serve (l.peer.mainSock.rx.length +
            Os.retryBound l.peer.mainSock + 1) l.peer).1.mainSock.tx },
        peer := Responder.setEndpoint (serve (l.peer.mainSock.rx.length +
            Os.retryBound l.peer.mainSock + 1) l.peer).1
          { Responder.endpoint (serve (l.peer.mainSock.rx.length +
            Os.retryBound l.peer.mainSock + 1) l.peer).1 with tx := [] },
        peerHalted := (serve (l.peer.mainSock.rx.length +
            Os.retryBound l.peer.mainSock + 1) l.peer).2 } := by
  simp only [settle, hhalt, Bool.false_eq_true, if_false]
  rfl

/-- With nothing owed, the slave serves and writes nothing. -/
theorem Pending.delivered_settle {l : Link (SlaveReqHandler S)} (hl : Pending [] l) :
    Delivered 0 [] (settle l) := by
  have hsync := hl.synced.settle
  cases hhalt : l.peerHalted with
  | true =>
      rw [settle_of_halted l hhalt] at hsync ⊢
      exact ⟨hsync, hl.recvPlan, by simp [hl.rx, hl.peerTx], rfl, nofun⟩
  | false =>
      have hserving := serving_serve (l.peer.mainSock.rx.length + Os.retryBound l.peer.mainSock + 1)
        l.peer (hl.serving hhalt)
      rw [settle_of_live l hhalt] at hsync ⊢
      exact ⟨hsync, hl.recvPlan, by simp [hl.rx, hserving.1.1], rfl, fun _ => .inl (serving_clearTx hserving)⟩

/-- With the reply to a `GET_` request owed, the slave serves up to it and
answers it with one reply at most, which is delivered. -/
theorem Pending.delivered_settle_of_asking {F : Stream Fd} (hF : Asking F)
    {l : Link (SlaveReqHandler S)} (hl : Pending F l) : Delivered (replyRoom F) F (settle l) := by
  have hsync := hl.synced.settle
  cases hhalt : l.peerHalted with
  | true =>
      rw [settle_of_halted l hhalt] at hsync ⊢
      exact ⟨hsync, hl.recvPlan, by simp [hl.rx, hl.peerTx], rfl, nofun⟩
  | false =>
      have howes := owes_serve hF (l.peer.mainSock.rx.length + Os.retryBound l.peer.mainSock + 1)
        l.peer (.inl (hl.serving hhalt))
      rw [settle_of_live l hhalt] at hsync ⊢
      rcases howes with hserving | hanswered
      · -- the slave has not reached the request: nothing is written yet
        have hrx : l.sock.rx ++ (serve (l.peer.mainSock.rx.length +
            Os.retryBound l.peer.mainSock + 1) l.peer).1.mainSock.tx = [] := by
          simp [hl.rx, hserving.1.1]
        exact ⟨hsync, hl.recvPlan, by simp [hrx], rfl, fun _ => .inr ⟨hrx, serving_clearTx hserving⟩⟩
      · exact ⟨hsync, hl.recvPlan, by simpa [hl.rx] using hanswered.1.2.1, rfl,
          fun _ => .inl (answered_clearTx hanswered)⟩

/-- A read of at least all that was delivered: it blocks for ever on a live
slave that has still to answer, and otherwise takes everything. -/
theorem Delivered.recvmsg {l : Link (SlaveReqHandler S)} {n : Nat} {post : Stream Fd}
    (hd : Delivered n post (settle l)) {want : Nat} (room : Nat) (hwant : n ≤ want) :
    ((Os.recvmsg l want room).1 = none ∧ (Os.recvmsg l want room).2 = settle l) ∨
      Pending [] (Os.recvmsg l want room).2 := by
  simp only [Os.recvmsg]
  split
  · exact .inl ⟨rfl, rfl⟩
  · next hlive =>
    right
    have hside := Sock.recvmsg_sendSide (settle l).sock want room
    rw [Sock.recvmsg_of_recvPlan_nil _ want room hd.recvPlan] at hside ⊢
    refine ⟨⟨hside.1.trans hd.synced.sendPlan, hside.2.trans hd.synced.tx, hd.synced.input⟩,
      hd.recvPlan, List.drop_eq_nil_of_le (hd.rx.trans hwant), hd.peerTx, fun hhalt => ?_⟩
    -- a live slave that has still to answer leaves the read blocked
    have hlive' : (settle l).peerHalted = false := hhalt
    rcases hd.serving hlive' with hserving | ⟨hrx, -⟩
    · exact hserving
    · simp [hrx, readFails, hd.recvPlan, hlive'] at hlive

/-- Every read of the master's keeps nothing owed: the slave serves first and
writes nothing, so the read finds nothing and takes nothing. -/
theorem pending_recvInv : RecvInv (Pending (S := S) []) := by
  intro l want room hl
  have hd := hl.delivered_settle
  rcases hd.recvmsg room (Nat.zero_le want) with ⟨-, hstate⟩ | hpending
  · rw [hstate]
    exact hd.pending
  · exact hpending

/-- A whole request the master writes lands after the slave's unread input. -/
theorem Pending.sendmsg {l : Link (SlaveReqHandler S)} (hl : Pending [] l) {data : List UInt8}
    {fds : List Fd} (hframe : RequestFrame (pack data fds)) :
    (Os.sendmsg l data fds).1 = .ok data.length ∧ Pending (pack data fds) (Os.sendmsg l data fds).2 := by
  obtain ⟨hsent, hsync⟩ := hl.synced.sendmsg hframe
  rw [sendmsg_of_sendPlan_nil l data fds hl.synced.sendPlan] at hsync ⊢
  refine ⟨rfl, hsync, hl.recvPlan, hl.rx, hl.peerTx, fun hhalt => ?_⟩
  obtain ⟨hmute, hplan, pre, hrx, hpre⟩ := hl.serving hhalt
  refine ⟨⟨hmute.1, hmute.2.1, hmute.2.2.acked, hmute.2.2.flag⟩, hplan, pre, ?_, hpre⟩
  show l.peer.mainSock.rx ++ (l.sock.tx ++ pack data fds) = pre ++ pack data fds
  rw [hrx, hl.synced.tx, List.append_nil, List.nil_append]

/-- The connection takes the master's requests other than the `GET_` ones and
`SET_PROTOCOL_FEATURES` whole, and keeps nothing owed. -/
theorem wholeWrites_pending :
    WholeWrites (fun code => Silent code ∧ code ≠ .setProtocolFeatures) (Pending (S := S) []) where
  sendmsg l data fds hl hframe := by
    obtain ⟨hok, hpending⟩ := hl.sendmsg hframe.1
    obtain ⟨code, hcode, hsilent, hother⟩ := hframe.2
    exact ⟨hok, hpending.absorb ⟨hframe.1, code, hcode, hsilent, fun h => absurd h hother⟩⟩
  recvmsg := pending_recvInv
  close l fd hl := ⟨hl.synced.close fd, hl.recvPlan, hl.rx, hl.peerTx, hl.serving⟩

end Link

/-! ## The master's requests -/

namespace MasterInternal

section Requests

variable {E : Type} [Os E]

theorem run_sendRequestHeader_of_error_some (m : MasterInternal E) {e : Int32}
    (herr : m.error = some e) (code : MasterReq) (fds : Option (List Fd)) :
    (sendRequestHeader (E := E) code fds).run m = .error (.err (.socketBroken (.os e))) m := by
  simp [sendRequestHeader, checkState, checkFailed, herr]

/-- `send_request_header` on a kernel that takes the header at once. -/
theorem run_sendRequestHeader_of_sendmsg (m : MasterInternal E) (herr : m.error = none)
    (code : MasterReq) (fds : Option (List Fd)) {e₁ : E}
    (hsend : Os.sendmsg m.mainSock (Pod.toBytes (newRequestHeader code 0)) (fds.getD []) =
      (.ok 12, e₁)) :
    (sendRequestHeader (E := E) code fds).run m =
      .ok (newRequestHeader code 0) { m with mainSock := e₁ } := by
  have hall : (sendIovecAll (σ := MasterInternal E) [Pod.toBytes (newRequestHeader code 0)]
      fds).run m = .ok 12 { m with mainSock := e₁ } := by
    have hlen : [Pod.toBytes (newRequestHeader code 0)].flatten.length = 12 := by simp
    rw [← hlen]
    exact run_sendIovecAll_of_sendmsg _ [] fds (toBytes_header_ne_nil _)
      (by rw [os_sendmsg, List.flatten_singleton, hsend]; simp)
  simp [sendRequestHeader, sendHeader, run_checkState_of_error_none m herr, hall]

theorem run_sendRequestWithBody_of_error_some {T : Type} [Pod T] (m : MasterInternal E)
    {e : Int32} (herr : m.error = some e) (code : MasterReq) (msg : T) (fds : Option (List Fd)) :
    ∃ f, (sendRequestWithBody (E := E) code msg fds).run m = .error f m := by
  by_cases hsize : Pod.size T > maxMsgSize
  · exact ⟨.err .invalidParam, by simp [sendRequestWithBody, hsize]⟩
  · exact ⟨.err (.socketBroken (.os e)),
      by simp [sendRequestWithBody, hsize, checkState, checkFailed, herr]⟩

/-- `send_request_with_body` on a kernel that takes the request at once. -/
theorem run_sendRequestWithBody_of_sendmsg {T : Type} [Pod T] (m : MasterInternal E)
    (herr : m.error = none) (code : MasterReq) (msg : T) (fds : Option (List Fd))
    (hsize : Pod.size T ≤ maxMsgSize) {e₁ : E}
    (hsend : Os.sendmsg m.mainSock (Pod.toBytes (newRequestHeader code (UInt32.ofNat (Pod.size T))) ++
      Pod.toBytes msg) (fds.getD []) = (.ok (12 + Pod.size T), e₁)) :
    (sendRequestWithBody (E := E) code msg fds).run m =
      .ok (newRequestHeader code (UInt32.ofNat (Pod.size T))) { m with mainSock := e₁ } := by
  have hwrite := run_sendMessage_of_sendmsg (σ := MasterInternal E) (s := m)
    (newRequestHeader code (UInt32.ofNat (Pod.size T))) msg fds (by rw [os_sendmsg, hsend])
  simp only [sendRequestWithBody, if_neg (Nat.not_lt.2 hsize), EStateM.run_bind,
    run_checkState_of_error_none m herr, hwrite]
  rfl

theorem run_sendRequestWithPayload_of_error_some {T P : Type} [Pod T] [Pod P]
    (m : MasterInternal E) {e : Int32} (herr : m.error = some e) (code : MasterReq) (msg : T)
    (payload : List P) :
    ∃ f, (sendRequestWithPayload (E := E) code msg payload none).run m = .error f m := by
  by_cases hlen : Pod.size T + payload.length * Pod.size P > maxMsgSize
  · exact ⟨.err .invalidParam, by simp [sendRequestWithPayload, hlen]⟩
  · exact ⟨.err (.socketBroken (.os e)),
      by simp [sendRequestWithPayload, hlen, checkState, checkFailed, herr]⟩

end Requests

/-! ## The master's calls across the connection -/

section Calls

open SlaveReqHandler

variable {S : Type} [VhostUserSlaveReqHandler S]

/-- The master between two calls: nothing is owed on its connection. -/
def Calm : MasterInternal (Link (SlaveReqHandler S)) → Prop :=
  Link.Pending [] ∘ mainSock

/-- The master after writing the `GET_` request `F`: it has not failed, and the
reply to `F` is all that is owed. -/
def Asked (F : Stream Fd) (m : MasterInternal (Link (SlaveReqHandler S))) : Prop :=
  m.error = none ∧ Link.Pending F m.mainSock

theorem calm_recvInv : RecvInv (Calm (S := S)) :=
  fun m want room hm => Link.pending_recvInv m.mainSock want room hm

/-- The first read after a `GET_` request, of at least the reply's room, takes
all of the reply, or never returns. -/
theorem firstRead_asked {F : Stream Fd} (hF : Asking F) {want : Nat} (hwant : replyRoom F ≤ want) :
    FirstRead (Asked (S := S) F) Calm want := by
  intro m hm
  rcases (hm.2.delivered_settle_of_asking hF).recvmsg maxAttachedFdEntries hwant with
    ⟨hnone, -⟩ | hpending
  · exact .inl hnone
  · exact .inr hpending

theorem requestFrame_header {code : MasterReq} (hcode : Req.isValid code) :
    RequestFrame (pack (Pod.toBytes (newRequestHeader code 0)) []) := by
  simpa using requestFrame_newRequestHeader hcode [] (Nat.zero_le _) [] (Nat.zero_le _) (.inl rfl)

theorem requestFrame_body {T : Type} [Pod T] {code : MasterReq} (hcode : Req.isValid code) (msg : T)
    (hsize : Pod.size T ≤ maxMsgSize) :
    RequestFrame (pack (Pod.toBytes (newRequestHeader code (UInt32.ofNat (Pod.size T))) ++
      Pod.toBytes msg) []) := by
  simpa using requestFrame_newRequestHeader hcode (Pod.toBytes msg) (by simpa using hsize) []
    (Nat.zero_le _) (.inl rfl)

theorem requestFrame_payload {T P : Type} [Pod T] [Pod P] {code : MasterReq}
    (hcode : Req.isValid code) (msg : T) (payload : List P)
    (hlen : Pod.size T + payload.length * Pod.size P ≤ maxMsgSize) :
    RequestFrame (pack (Pod.toBytes (newRequestHeader code
      (UInt32.ofNat (Pod.size T + payload.length * Pod.size P))) ++ Pod.toBytes msg ++
        Pod.listBytes payload) []) := by
  have hframe := requestFrame_newRequestHeader hcode (Pod.toBytes msg ++ Pod.listBytes payload)
    (by simpa [Pod.length_listBytes, Nat.mul_comm] using hlen) [] (Nat.zero_le _) (.inl rfl)
  simpa [Pod.length_listBytes, Nat.mul_comm, List.append_assoc] using hframe

theorem asking_header {code : MasterReq} (hcode : Req.isValid code) (hmem : code ∈ replyCodes) :
    Asking (pack (Pod.toBytes (newRequestHeader code 0)) []) :=
  ⟨requestFrame_header hcode, code, by simpa using frameCode_pack (newRequestHeader code 0) [] [],
    hmem⟩

theorem asking_body {T : Type} [Pod T] {code : MasterReq} (hcode : Req.isValid code)
    (hmem : code ∈ replyCodes) (msg : T) (hsize : Pod.size T ≤ maxMsgSize) :
    Asking (pack (Pod.toBytes (newRequestHeader code (UInt32.ofNat (Pod.size T))) ++
      Pod.toBytes msg) []) :=
  ⟨requestFrame_body hcode msg hsize, code, by rw [frameCode_pack, getCode_newRequestHeader], hmem⟩

theorem asking_payload {T P : Type} [Pod T] [Pod P] {code : MasterReq} (hcode : Req.isValid code)
    (hmem : code ∈ replyCodes) (msg : T) (payload : List P)
    (hlen : Pod.size T + payload.length * Pod.size P ≤ maxMsgSize) :
    Asking (pack (Pod.toBytes (newRequestHeader code
      (UInt32.ofNat (Pod.size T + payload.length * Pod.size P))) ++ Pod.toBytes msg ++
        Pod.listBytes payload) []) :=
  ⟨requestFrame_payload hcode msg payload hlen, code,
    by rw [List.append_assoc, frameCode_pack, getCode_newRequestHeader], hmem⟩

/-- A request written in one `sendmsg` of `data`: a failed master writes
nothing, and a live one leaves the request owed. -/
theorem triple_request {α : Type} {x : Prog (MasterInternal (Link (SlaveReqHandler S))) α}
    {a₀ : α} {data : List UInt8} (hframe : RequestFrame (pack data []))
    (hfailed : ∀ m e, m.error = some e → ∃ f, x.run m = .error f m)
    (hsent : ∀ m e₁, m.error = none → Os.sendmsg m.mainSock data [] = (.ok data.length, e₁) →
      x.run m = .ok a₀ { m with mainSock := e₁ }) :
    Triple Stops Calm x (fun a m => a = a₀ ∧ Asked (pack data []) m) Calm := by
  intro m hm
  cases herr : m.error with
  | some e =>
      obtain ⟨f, hrun⟩ := hfailed m e herr
      rw [hrun]
      exact .inr hm
  | none =>
      obtain ⟨hsendmsg, hpending⟩ := Link.Pending.sendmsg hm hframe
      rw [hsent m _ herr (Prod.ext hsendmsg rfl)]
      exact ⟨rfl, herr, hpending⟩

/-- `send_request_header` writes the request whole: what it draws is owed. -/
theorem triple_sendRequestHeader {code : MasterReq} (hcode : Req.isValid code) :
    Triple Stops Calm (sendRequestHeader (E := Link (SlaveReqHandler S)) code none)
      (fun hdr m => hdr = newRequestHeader code 0 ∧
        Asked (pack (Pod.toBytes (newRequestHeader code 0)) []) m) Calm :=
  triple_request (requestFrame_header hcode)
    (fun m _ herr => ⟨_, run_sendRequestHeader_of_error_some m herr code none⟩)
    fun m _ herr hsend => run_sendRequestHeader_of_sendmsg m herr code none
      (by rw [Option.getD_none, hsend]; simp)

theorem triple_sendRequestWithBody {T : Type} [Pod T] {code : MasterReq} (hcode : Req.isValid code)
    (msg : T) (hsize : Pod.size T ≤ maxMsgSize) :
    Triple Stops Calm (sendRequestWithBody (E := Link (SlaveReqHandler S)) code msg none)
      (fun hdr m => hdr = newRequestHeader code (UInt32.ofNat (Pod.size T)) ∧
        Asked (pack (Pod.toBytes (newRequestHeader code (UInt32.ofNat (Pod.size T))) ++
          Pod.toBytes msg) []) m) Calm :=
  triple_request (requestFrame_body hcode msg hsize)
    (fun m _ herr => run_sendRequestWithBody_of_error_some m herr code msg none)
    fun m _ herr hsend => run_sendRequestWithBody_of_sendmsg m herr code msg none hsize
      (by rw [Option.getD_none, hsend]; simp)

/-- `send_request_with_payload` refuses a request too long for one message before
it writes; otherwise it writes it whole. -/
theorem triple_sendRequestWithPayload {T P : Type} [Pod T] [Pod P] {code : MasterReq}
    (hcode : Req.isValid code) (msg : T) (payload : List P) :
    Triple Stops Calm (sendRequestWithPayload (E := Link (SlaveReqHandler S)) code msg payload none)
      (fun hdr m => hdr = newRequestHeader code
          (UInt32.ofNat (Pod.size T + payload.length * Pod.size P)) ∧
        (Pod.size T + payload.length * Pod.size P ≤ maxMsgSize ∧
          Asked (pack (Pod.toBytes (newRequestHeader code
            (UInt32.ofNat (Pod.size T + payload.length * Pod.size P))) ++ Pod.toBytes msg ++
              Pod.listBytes payload) []) m)) Calm := by
  by_cases hlen : Pod.size T + payload.length * Pod.size P ≤ maxMsgSize
  · have hwrite := triple_request (S := S) (requestFrame_payload hcode msg payload hlen)
      (fun m _ herr => run_sendRequestWithPayload_of_error_some m herr code msg payload)
      fun m _ herr hsend => run_sendRequestWithPayload_of_sendmsg m herr code msg payload hlen
        (by rw [hsend]; simp [Pod.length_listBytes, Nat.mul_comm, Nat.add_assoc])
    exact hwrite.consequence (fun _ hm => hm) (fun _ _ hm => ⟨hm.1, hlen, hm.2⟩) fun _ hm => hm
  · -- too long for one message: refused before anything is written
    intro m hm
    have hrun : (sendRequestWithPayload (E := Link (SlaveReqHandler S)) code msg payload none).run m =
        .error (.err .invalidParam) m := by
      simp [sendRequestWithPayload, Nat.lt_of_not_le hlen]
    rw [hrun]
    exact .inr hm

omit [VhostUserSlaveReqHandler S] in
/-- A master that has asked has not failed: `check_state` passes. -/
theorem triple_checkState_asked {F : Stream Fd} :
    Triple Stops (Asked (S := S) F) (checkState (E := Link (SlaveReqHandler S)))
      (fun _ => Asked F) Calm := by
  intro m hm
  rw [run_checkState_of_error_none m hm.1]
  exact hm

/-- `recv_reply` after a `GET_` request: its read asks for at least the reply's
room, so it takes all of the reply, and nothing is owed after it. -/
theorem triple_recvReply {F : Stream Fd} (hF : Asking F) (T : Type) [Pod T]
    [VhostUserMsgValidator T] {hdr : VhostUserMsgHeader MasterReq} (hreq : hdr.isReply = false)
    (hT : Pod.size T ≤ maxMsgSize) (hroom : replyRoom F ≤ 12 + Pod.size T) :
    Triple Stops (Asked (S := S) F) (recvReply (E := Link (SlaveReqHandler S)) T hdr)
      (fun _ => Calm) Calm := by
  have hclose := (wholeWrites_mainSock (Link.wholeWrites_pending (S := S))).preserves_closeRfds
  unfold recvReply
  rw [if_neg (by simp [hreq]; omega)]
  refine triple_checkState_asked.bind fun _ => ?_
  refine (triple_recvBody calm_recvInv (firstRead_asked hF hroom)).bind
    fun ⟨reply, _, rfds⟩ => Triple.of_preserves ?_
  exact (preserves_replyFor reply hdr).bind fun _ =>
    .ite ((hclose rfds).bind fun _ => .throw_bind _ _) (.pure _)

/-- `recv_reply_with_payload` after a `GET_` request whose size covers the
reply's room. -/
theorem triple_recvReplyWithPayload {F : Stream Fd} (hF : Asking F) (T : Type) [Pod T]
    [VhostUserMsgValidator T] {hdr : VhostUserMsgHeader MasterReq} (hreq : hdr.isReply = false)
    (hT : Pod.size T ≤ maxMsgSize) (hroom : replyRoom F ≤ 12 + hdr.getSize.toNat) :
    Triple Stops (Asked (S := S) F) (recvReplyWithPayload (E := Link (SlaveReqHandler S)) T hdr)
      (fun _ => Calm) Calm := by
  have hclose := (wholeWrites_mainSock (Link.wholeWrites_pending (S := S))).preserves_closeRfds
  unfold recvReplyWithPayload
  rw [if_neg (by simp [hreq]; omega)]
  refine triple_checkState_asked.bind fun _ => ?_
  -- a request shorter than the reply's body panics, and the thread ends there
  refine Triple.ite (fun _ => Triple.throw_bind fun _ _ => .inl rfl) fun hlong => ?_
  have hwant : replyRoom F ≤
      12 + Pod.size T + (List.replicate (hdr.getSize.toNat - Pod.size T) (0 : UInt8)).length := by
    rw [List.length_replicate]
    omega
  refine (triple_recvPayloadIntoBuf calm_recvInv _ (firstRead_asked hF hwant)).bind
    fun ⟨reply, _, _, rfds, _⟩ => Triple.of_preserves ?_
  exact (preserves_replyFor reply hdr).bind fun _ =>
    .ite ((hclose rfds).bind fun _ => .throw_bind _ _) (.ite (.throw_bind _ _) (.pure _))

end Calls

end MasterInternal

/-! ## Every call of the master leaves nothing owed -/

namespace Master

open MasterInternal SlaveReqHandler

variable {S : Type} [VhostUserSlaveReqHandler S]

/-- A `GET_` request with no body, answered by a `u64`: the call reads the whole
reply, and what it does with the value after that keeps nothing owed. -/
theorem triple_getU64 {code : MasterReq} (hcode : Req.isValid code) (hmem : code ∈ replyCodes)
    {β : Type} {g : VhostUserU64 → Prog (MasterInternal (Link (SlaveReqHandler S))) β}
    (hg : ∀ val, Preserves Calm (g val)) :
    Triple Stops Calm (sendRequestHeader code none >>= fun hdr => recvReply VhostUserU64 hdr >>= g)
      (fun _ => Calm) Calm :=
  (triple_sendRequestHeader hcode).bind_of_eq
    ((triple_recvReply (asking_header hcode hmem) VhostUserU64 (isReply_newRequestHeader _ _)
      (by decide) (by simp [replyRoom])).bind fun val => .of_preserves (hg val))

theorem triple_getFeatures :
    Triple Stops Calm (getFeatures (E := Link (SlaveReqHandler S))) (fun _ => Calm) Calm :=
  triple_getU64 (by decide) (by decide) fun _ =>
    Preserves.bind (.modify fun _ hm => hm) fun _ => .pure _

theorem triple_getVringBase (queueIndex : UInt64) :
    Triple Stops Calm (getVringBase (E := Link (SlaveReqHandler S)) queueIndex)
      (fun _ => Calm) Calm :=
  (Triple.of_preserves Preserves.get).bind fun _ =>
    .ite (fun _ => .throw_bind fun _ hm => .inr hm) fun _ =>
      (triple_sendRequestWithBody (by decide) _ (by decide)).bind_of_eq
        ((triple_recvReply (asking_body (by decide) (by decide) _ (by decide)) VhostUserVringState
          (isReply_newRequestHeader _ _) (by decide) (by simp [replyRoom_pack])).bind fun _ =>
            .pure fun _ hm => hm)

theorem triple_getProtocolFeatures :
    Triple Stops Calm (getProtocolFeatures (E := Link (SlaveReqHandler S))) (fun _ => Calm) Calm :=
  (Triple.of_preserves Preserves.get).bind fun _ =>
    .ite (fun _ => .throw_bind fun _ hm => .inr hm) fun _ =>
      triple_getU64 (by decide) (by decide) fun val =>
        Preserves.bind (.modify fun _ hm => hm) fun _ => by
          cases VhostUserProtocolFeatures.fromBits val.value with
          | some _ => exact .pure _
          | none => exact .throw _

theorem triple_getQueueNum :
    Triple Stops Calm (getQueueNum (E := Link (SlaveReqHandler S))) (fun _ => Calm) Calm :=
  (Triple.of_preserves Preserves.get).bind fun _ =>
    .ite (fun _ => .throw_bind fun _ hm => .inr hm) fun _ =>
      triple_getU64 (by decide) (by decide) fun _ =>
        .ite (.throw_bind _ _) (Preserves.bind (.modify fun _ hm => hm) fun _ => .pure _)

/-- `get_config` asks for a reply as long as its request, and reads that much:
the reply is read whole whatever the slave answers. -/
theorem triple_getConfig (offset size flags : UInt32) (buf : List UInt8) :
    Triple Stops Calm (getConfig (E := Link (SlaveReqHandler S)) offset size flags buf)
      (fun _ => Calm) Calm := by
  have hclose := (wholeWrites_mainSock (Link.wholeWrites_pending (S := S))).preserves_closeRfds
  refine .ite (fun _ => .throw_bind fun _ hm => .inr hm) fun _ =>
    (Triple.of_preserves Preserves.get).bind fun _ =>
      .ite (fun _ => .throw_bind fun _ hm => .inr hm) fun _ =>
        (triple_sendRequestWithPayload (by decide) _ buf).bind_of_eq ?_
  -- the request fitted in one message, so it is a `GET_` request and its
  -- header's size is the room of the reply
  intro m hasked
  obtain ⟨hlen, hm⟩ := hasked
  have hlen' : Pod.size VhostUserConfig + buf.length ≤ maxMsgSize := by simpa using hlen
  have hget : (UInt32.ofNat (Pod.size VhostUserConfig + buf.length * Pod.size UInt8)).toNat =
      Pod.size VhostUserConfig + buf.length := by
    simpa using UInt32.toNat_ofNat_of_lt' (lt_of_le_of_lt hlen' (by decide))
  have hroom : replyRoom (pack (Pod.toBytes (newRequestHeader .getConfig
      (UInt32.ofNat (Pod.size VhostUserConfig + buf.length * Pod.size UInt8))) ++
        Pod.toBytes (VhostUserConfig.new offset size flags) ++ Pod.listBytes buf) []) ≤
      12 + (newRequestHeader .getConfig (UInt32.ofNat (Pod.size VhostUserConfig +
        buf.length * Pod.size UInt8))).getSize.toNat := by
    rw [List.append_assoc, replyRoom_pack, getSize_newRequestHeader, hget]
    simp
    omega
  refine ((triple_recvReplyWithPayload (asking_payload (by decide) (by decide) _ _ hlen)
    VhostUserConfig (isReply_newRequestHeader _ _) (by decide) hroom).bind
      fun r => .of_preserves ?_) m hm
  obtain ⟨_, _, rfds⟩ := r
  exact .ite ((hclose rfds).bind fun _ => .throw_bind _ _)
    (.ite (.throw_bind _ _) (.ite (.throw_bind _ _) (.pure _)))

/-- `set_protocol_features` without REPLY_ACK: the slave goes on writing
nothing, and the request joins the harmless ones. -/
theorem triple_setProtocolFeatures {features : UInt64}
    (hack : features &&& VhostUserProtocolFeatures.replyAck = 0) :
    Triple Stops Calm (setProtocolFeatures (E := Link (SlaveReqHandler S)) features)
      (fun _ => Calm) Calm := by
  have hharmless : Harmless (pack (Pod.toBytes (newRequestHeader .setProtocolFeatures
      (UInt32.ofNat (Pod.size VhostUserU64))) ++ Pod.toBytes (VhostUserU64.mk features)) []) :=
    ⟨requestFrame_body (by decide) _ (by decide), .setProtocolFeatures,
      by rw [frameCode_pack, getCode_newRequestHeader], by decide,
      fun _ => by rw [ackedBy_pack, Pod.ofBytes_toBytes]; exact hack⟩
  refine (Triple.of_preserves Preserves.get).bind fun _ =>
    .ite (fun _ => .throw_bind fun _ hm => .inr hm) fun _ =>
      (triple_sendRequestWithBody (by decide) _ (by decide)).bind fun _ => ?_
  exact Triple.consequence (Triple.of_preserves (.modify fun _ hm => hm))
    (fun _ hm => hm.2.2.absorb hharmless) (fun _ _ hm => hm) fun _ hm => hm

end Master

namespace MasterOp

open MasterInternal Master

/-- The call acks REPLY_ACK: `set_protocol_features` with the bit set. -/
def acksReplyAck : MasterOp → Bool
  | setProtocolFeatures features => features &&& VhostUserProtocolFeatures.replyAck != 0
  | _ => false

variable {S : Type} [VhostUserSlaveReqHandler S]

/-- Every call that does not ack REPLY_ACK leaves nothing owed when it comes
back: a `GET_` call reads its reply whole, and every other request draws none. -/
theorem triple_run (op : MasterOp) (hop : op.acksReplyAck = false) :
    Triple Stops Calm (op.run (E := Link (SlaveReqHandler S))) (fun _ => Calm) Calm := by
  cases op with
  | getFeatures => exact triple_getFeatures.bind fun _ => .pure fun _ hm => hm
  | getVringBase queueIndex =>
      exact (triple_getVringBase queueIndex).bind fun _ => .pure fun _ hm => hm
  | getProtocolFeatures => exact triple_getProtocolFeatures.bind fun _ => .pure fun _ hm => hm
  | getQueueNum => exact triple_getQueueNum.bind fun _ => .pure fun _ hm => hm
  | getConfig offset size flags buf =>
      exact (triple_getConfig offset size flags buf).bind fun _ => .pure fun _ hm => hm
  | setProtocolFeatures features =>
      exact triple_setProtocolFeatures (by simpa [acksReplyAck] using hop)
  -- the other requests draw no reply, and `preserves_run` covers them all
  | _ => exact .of_preserves (preserves_run Link.wholeWrites_pending _
      ⟨by simp [code, Silent, replyCodes], by simp [code]⟩)

end MasterOp

/-! ## Whole sessions -/

/-- A call that comes back to its caller, with a value or with an error; a
panic, or a read that blocks for ever, ends the master's thread instead. -/
def Returned {σ α : Type} (r : EStateM.Result Fault σ α) : Prop :=
  (r.error?.all fun f => f.error?.isSome) = true

instance {σ α : Type} (r : EStateM.Result Fault σ α) : Decidable (Returned r) :=
  inferInstanceAs (Decidable ((r.error?.all fun f => f.error?.isSome) = true))

theorem not_stops_of_returned {σ α : Type} {r : EStateM.Result Fault σ α} (hr : Returned r)
    {f : Fault} {s : σ} (hf : r = .error f s) : ¬Stops f := by
  subst hf
  intro hstop
  simp [Returned, EStateM.Result.error?, Stops] at hr hstop
  simp [hstop] at hr

theorem Link.Pending.serveRound {S : Type} [VhostUserSlaveReqHandler S]
    {l : Link (SlaveReqHandler S)} (hl : Link.Pending [] l) : Link.Pending [] (Link.serveRound l) := by
  have hsync := hl.synced.serveRound
  unfold Link.serveRound at hsync ⊢
  cases hhalt : l.peerHalted with
  | true =>
      simp only [hhalt, ↓reduceIte] at hsync ⊢
      exact hl
  | false =>
      -- a round of the slave's loop, with nothing owed, writes nothing
      have hserving := Link.serving_serve 1 l.peer (hl.serving hhalt)
      simp only [hhalt, Bool.false_eq_true, ↓reduceIte] at hsync ⊢
      exact ⟨hsync, hl.recvPlan, hl.rx, hserving.1.1, fun _ => hserving⟩

/-- Serving reads only the slave's socket and its REPLY_ACK state. -/
theorem SlaveReqHandler.Serving.congr {S : Type} {post : Stream Fd} {p p' : SlaveReqHandler S}
    (hp : SlaveReqHandler.Serving post p) (hsock : p'.mainSock = p.mainSock)
    (hacked : p'.ackedProtocolFeatures = p.ackedProtocolFeatures)
    (hflag : p'.replyAckEnabled = p.replyAckEnabled) : SlaveReqHandler.Serving post p' := by
  obtain ⟨⟨htx, hplan, hno⟩, hrecv, hpre⟩ := hp
  exact ⟨⟨hsock ▸ htx, hsock ▸ hplan, ⟨hacked ▸ hno.acked, hflag ▸ hno.flag⟩⟩, hsock ▸ hrecv,
    hsock ▸ hpre⟩

/-- The slave's backend and its error field are none of what is owed. -/
theorem Link.Pending.setPeer {S : Type} {l : Link (SlaveReqHandler S)} (hl : Link.Pending [] l)
    {peer : SlaveReqHandler S} (hsock : peer.mainSock = l.peer.mainSock)
    (hacked : peer.ackedProtocolFeatures = l.peer.ackedProtocolFeatures)
    (hflag : peer.replyAckEnabled = l.peer.replyAckEnabled) :
    Link.Pending [] { l with peer := peer } :=
  ⟨⟨hl.synced.sendPlan, hl.synced.tx,
      show peer.InputFramed by rw [SlaveReqHandler.InputFramed, hsock]; exact hl.synced.input⟩,
    hl.recvPlan, hl.rx,
    hsock ▸ hl.peerTx, fun hhalt => (hl.serving hhalt).congr hsock hacked hflag⟩

namespace Session

open SlaveReqHandler MasterInternal

variable (S : Type) [VhostUserSlaveReqHandler S]

/-- The states of a session in which the master never acks REPLY_ACK and each
of its calls comes back to it; the slave's thread, its backend and its owner
act as in `Reachable`. -/
inductive Live : MasterInternal (Link (SlaveReqHandler S)) → Prop
  | connect (backend : S) (maxQueueNum : UInt64) :
      Live (MasterInternal.new (Link.connect (new (Sock.ofStream []) backend)) maxQueueNum)
  | call {m : MasterInternal (Link (SlaveReqHandler S))} (op : MasterOp)
      (hop : op.acksReplyAck = false)
      (hret : Returned ((op.run (E := Link (SlaveReqHandler S))).run m)) :
      Live m → Live ((op.run (E := Link (SlaveReqHandler S))).run m).state
  | serveRound {m : MasterInternal (Link (SlaveReqHandler S))} :
      Live m → Live { m with mainSock := Link.serveRound m.mainSock }
  | setBackend {m : MasterInternal (Link (SlaveReqHandler S))} (backend : S) :
      Live m →
        Live { m with mainSock := { m.mainSock with peer := { m.mainSock.peer with
          backend := backend } } }
  | setFailed {m : MasterInternal (Link (SlaveReqHandler S))} (error : Int32) :
      Live m →
        Live { m with mainSock := { m.mainSock with peer := m.mainSock.peer.setFailed error } }

variable {S}

omit [VhostUserSlaveReqHandler S] in
theorem calm_connect (backend : S) (maxQueueNum : UInt64) :
    Calm (MasterInternal.new (Link.connect (new (Sock.ofStream []) backend)) maxQueueNum) :=
  ⟨Link.synced_connect _ ⟨rfl, .nil⟩, rfl, rfl, rfl,
    fun _ => ⟨⟨rfl, rfl, ⟨UInt64.zero_and, rfl⟩⟩, rfl, [], rfl, .nil⟩⟩

/-- The invariant of a live session: between two calls, nothing is owed. -/
theorem live_calm {m : MasterInternal (Link (SlaveReqHandler S))} (hm : Live S m) : Calm m := by
  induction hm with
  | connect backend maxQueueNum => exact calm_connect backend maxQueueNum
  | call op hop hret _ ih =>
      exact (MasterOp.triple_run op hop).run_state_of_not_stop ih
        fun _ _ hrun => not_stops_of_returned hret hrun
  | serveRound _ ih => exact Link.Pending.serveRound ih
  | setBackend backend _ ih => exact Link.Pending.setPeer ih rfl rfl rfl
  | setFailed error _ ih => exact Link.Pending.setPeer ih rfl rfl rfl

/-- After `get_features` on a fresh connection, nothing is owed. -/
theorem live_calm_getFeatures :
    Calm ((MasterOp.getFeatures.run (E := Link (SlaveReqHandler DummySlaveReqHandler))).run
      (MasterInternal.new (Link.connect (new (Sock.ofStream []) DummySlaveReqHandler.new)) 2)).state :=
  live_calm (.call .getFeatures rfl (by decide) (.connect _ 2))

/-- In every live session, once the slave has served what it was sent, nothing
waits for the master to read: every reply the slave wrote was read by the call
that asked for it, and no request drew an answer that nobody reads. -/
theorem live_no_reply_left {m : MasterInternal (Link (SlaveReqHandler S))} (hm : Live S m) :
    (Link.settle m.mainSock).sock.rx = [] :=
  List.eq_nil_of_length_eq_zero (Nat.le_zero.1 (Link.Pending.delivered_settle (live_calm hm)).rx)

/-- After `get_features` on a fresh connection, its reply has been read. -/
theorem live_no_reply_left_getFeatures :
    (Link.settle ((MasterOp.getFeatures.run
      (E := Link (SlaveReqHandler DummySlaveReqHandler))).run (MasterInternal.new
        (Link.connect (new (Sock.ofStream []) DummySlaveReqHandler.new)) 2)).state.mainSock).sock.rx =
      [] :=
  live_no_reply_left (.call .getFeatures rfl (by decide) (.connect _ 2))

end Session

end Vhost.User
