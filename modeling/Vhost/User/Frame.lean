import Mathlib
import Vhost.User.Connection

/-!
# What the endpoint functions leave alone

The functions of `connection.rs` act on their process only through the system
calls.  So a view of the process state that `sendmsg` leaves alone is kept by
every sending function on every path, one that `recvmsg` leaves alone by every
receiving function, and one that `close` leaves alone by `close_rfds`.  On a
process state holding one socket (`SockLens`) the calls change the socket and
nothing else, so each handler's own fields are such views; so are the parts of
the socket that a call of the other direction does not touch.
-/

namespace Vhost.User

open EStateM

variable {σ κ : Type} {f : σ → κ}

/-! ## Steps that make no system call -/

theorem keeps_lift {α : Type} (r : Except Error α) : Keeps f (Prog.lift (σ := σ) r) := by
  cases r with
  | ok a => exact Keeps.pure a
  | error e => exact Keeps.throw _

theorem keeps_result {α : Type} {x : Prog σ α} (hx : Keeps f x) : Keeps f (Prog.result x) := by
  unfold Prog.result
  exact hx.attempt _

theorem keeps_subSlice (iovs : List (List UInt8)) (nrSkip offset : Nat) :
    Keeps f (subSlice (σ := σ) iovs nrSkip offset) := by
  unfold subSlice
  split
  · exact Keeps.throw _
  · exact Keeps.ite (Keeps.pure _) (Keeps.throw _)

theorem keeps_castBuf {T : Type} [Pod T] (buf : List UInt8) :
    Keeps f (castBuf (σ := σ) (T := T) buf) :=
  Keeps.ite (Keeps.pure _) (Keeps.throw _)

theorem keeps_headerValid {R : Type} [Req R] (hdr : VhostUserMsgHeader R) :
    Keeps f (headerValid (σ := σ) hdr) := by
  unfold headerValid
  split
  · exact Keeps.pure _
  · exact Keeps.throw _

theorem keeps_checkFailed (error : Option Int32) : Keeps f (checkFailed (σ := σ) error) := by
  cases error with
  | none => exact Keeps.pure _
  | some e => exact Keeps.throw _

theorem keeps_checkMsgSize {R : Type} [Req R] (hdr : VhostUserMsgHeader R) (size expected : Nat) :
    Keeps f (checkMsgSize (σ := σ) hdr size expected) :=
  Keeps.ite (Keeps.throw _) (Keeps.pure _)

theorem keeps_extractMsgBody (T : Type) [Pod T] [VhostUserMsgValidator T] {R : Type} [Req R]
    (hdr : VhostUserMsgHeader R) (size : Nat) (buf : List UInt8) :
    Keeps f (extractMsgBody (σ := σ) T hdr size buf) := by
  refine (keeps_checkMsgSize hdr size _).bind fun _ => (keeps_castBuf buf).bind fun msg => ?_
  dsimp only
  exact Keeps.ite (Keeps.throw_bind _ _) (Keeps.pure msg)

variable [Os σ]

/-- `sendmsg` leaves the view `f` alone. -/
def SendFrame (f : σ → κ) : Prop :=
  ∀ s data fds, f (Os.sendmsg s data fds).2 = f s

/-- `recvmsg` leaves the view `f` alone. -/
def RecvFrame (f : σ → κ) : Prop :=
  ∀ s want room, f (Os.recvmsg s want room).2 = f s

/-- `close` leaves the view `f` alone. -/
def CloseFrame (f : σ → κ) : Prop :=
  ∀ s fd, f (Os.close s fd) = f s

/-! ## Sending -/

namespace SendFrame

variable (hf : SendFrame f)
include hf

theorem keeps_rawSendmsg (data : List UInt8) (fds : List Fd) :
    Keeps f (rawSendmsg (σ := σ) data fds) := by
  refine (Keeps.modifyGet fun s => hf s data fds).bind fun result => ?_
  cases result with
  | ok sent => exact Keeps.pure sent
  | error errno => exact Keeps.throw _

theorem keeps_sendIovec (iovs : List (List UInt8)) (fds : Option (List Fd)) :
    Keeps f (sendIovec (σ := σ) iovs fds) :=
  hf.keeps_rawSendmsg _ _

/-- The send loop keeps `f` for any number of rounds left: by induction on the
rounds, each round being a slice, one `sendmsg` and a decision on its result. -/
theorem keeps_sendIovecAllLoop (iovs : List (List UInt8)) (fds : Option (List Fd))
    (dataTotal : Nat) : ∀ fuel dataSent,
      Keeps f (sendIovecAllLoop (σ := σ) iovs fds dataTotal fuel dataSent)
  | 0, _ => Keeps.throw _
  | fuel + 1, dataSent => by
      have ih := keeps_sendIovecAllLoop iovs fds dataTotal fuel
      refine Keeps.ite ?_ (Keeps.pure _)
      refine (keeps_subSlice _ _ _).bind fun iov => ?_
      refine (keeps_result (hf.keeps_sendIovec _ _)).bind fun sent => ?_
      cases sent with
      | ok n =>
          cases n with
          | zero => exact Keeps.pure _
          | succ n => exact ih _
      | error e => exact Keeps.ite (ih _) (Keeps.throw _)

theorem keeps_sendIovecAll (iovs : List (List UInt8)) (fds : Option (List Fd)) :
    Keeps f (sendIovecAll (σ := σ) iovs fds) :=
  Keeps.get.bind fun _ => hf.keeps_sendIovecAllLoop _ _ _ _ _

theorem keeps_sendMessage {R T : Type} [Pod T] (hdr : VhostUserMsgHeader R) (body : T)
    (fds : Option (List Fd)) : Keeps f (sendMessage (σ := σ) hdr body fds) :=
  (hf.keeps_sendIovecAll _ _).bind fun _ => Keeps.ite (Keeps.throw _) (Keeps.pure _)

theorem keeps_sendMessageWithPayload {R T P : Type} [Pod T] [Pod P]
    (hdr : VhostUserMsgHeader R) (body : T) (payload : List P) (fds : Option (List Fd)) :
    Keeps f (sendMessageWithPayload (σ := σ) hdr body payload fds) := by
  have hsend := (hf.keeps_sendIovecAll [Pod.toBytes hdr, Pod.toBytes body, Pod.listBytes payload]
    fds).bind fun sent =>
      Keeps.ite (c := sent ≠ 12 + Pod.size T + payload.length * Pod.size P)
        (Keeps.throw (Fault.err Error.partialMessage)) (Keeps.pure ())
  unfold sendMessageWithPayload
  dsimp only
  refine Keeps.ite (Keeps.throw_bind _ _) ?_
  split
  · exact Keeps.ite (Keeps.throw_bind _ _) hsend
  · exact hsend

end SendFrame

/-! ## Receiving -/

/-- `recvmsg` keeps the property `I` of the state.  The receiving functions
are proved to keep such a property; a view `recvmsg` leaves alone is the case
of a property that fixes the view's value. -/
def RecvInv (I : σ → Prop) : Prop :=
  ∀ s want room, I s → I (Os.recvmsg s want room).2

theorem RecvFrame.recvInv (hf : RecvFrame f) (v : κ) : RecvInv fun s => f s = v :=
  fun s want room hs => (hf s want room).trans hs

namespace RecvInv

variable {I : σ → Prop} (hI : RecvInv I)
include hI

theorem preserves_rawRecvmsg (want room : Nat) :
    Preserves I (rawRecvmsg (σ := σ) want room) := by
  refine (Preserves.modifyGet fun s hs => hI s want room hs).bind fun result => ?_
  match result with
  | none => exact Preserves.throw _
  | some (.error _) => exact Preserves.throw _
  | some (.ok _) => exact Preserves.ite (Preserves.throw _) (Preserves.pure _)

theorem preserves_recvData (len : Nat) : Preserves I (recvData (σ := σ) len) :=
  (hI.preserves_rawRecvmsg _ _).bind fun _ => Preserves.pure _

theorem preserves_recvIntoIovec (iovs : List (List UInt8)) :
    Preserves I (recvIntoIovec (σ := σ) iovs) :=
  (hI.preserves_rawRecvmsg _ _).bind fun _ => Preserves.pure _

/-- The receive loop keeps `I` for any number of rounds left, by induction on
the rounds, each round being a slice, one read and a decision on its result. -/
theorem preserves_recvIntoIovecAllLoop (iovLens : List Nat) (dataTotal : Nat) :
    ∀ fuel iovs dataRead rfds,
      Preserves I (recvIntoIovecAllLoop (σ := σ) iovLens dataTotal fuel iovs dataRead rfds)
  | 0, _, _, _ => Preserves.throw _
  | fuel + 1, iovs, dataRead, rfds => by
      have ih := preserves_recvIntoIovecAllLoop iovLens dataTotal fuel
      refine Preserves.ite ?_ (Preserves.pure _)
      split
      simp only
      split
      · refine (Preserves.pure _).bind fun iov => ?_
        refine Preserves.ite (Preserves.throw_bind _ _) ?_
        refine ((hI.preserves_recvIntoIovec _).attempt _).bind fun res => ?_
        match res with
        | .ok (0, _, _) => exact Preserves.pure _
        | .ok (_ + 1, _, _) => exact ih _ _ _
        | .error _ => exact Preserves.ite (ih _ _ _) (Preserves.throw _)
      · exact Preserves.throw_bind _ _

theorem preserves_recvIntoIovecAll (iovs : List (List UInt8)) :
    Preserves I (recvIntoIovecAll (σ := σ) iovs) :=
  Preserves.get.bind fun _ => hI.preserves_recvIntoIovecAllLoop _ _ _ _ _ _

/-- What the four receiving functions of a whole message do after their read:
a check of the count, the header check and, for a body, its check. -/
theorem preserves_recvHeader {R : Type} [Req R] :
    Preserves I (recvHeader (σ := σ) (R := R)) := by
  refine (hI.preserves_recvIntoIovecAll _).bind fun ⟨bytes, rfds, iovs⟩ => ?_
  dsimp only
  refine Preserves.ite (Preserves.throw_bind _ _)
    ((Preserves.of_keeps_id (keeps_headerValid _)).bind fun valid => ?_)
  exact Preserves.ite (Preserves.throw_bind _ _) (Preserves.pure _)

theorem preserves_recvBody {R T : Type} [Req R] [Pod T] [VhostUserMsgValidator T] :
    Preserves I (recvBody (σ := σ) (R := R) (T := T)) := by
  refine (hI.preserves_recvIntoIovecAll _).bind fun ⟨bytes, rfds, iovs⟩ => ?_
  dsimp only
  refine Preserves.ite (Preserves.throw_bind _ _)
    ((Preserves.of_keeps_id (keeps_headerValid _)).bind fun valid => ?_)
  exact Preserves.ite (Preserves.throw_bind _ _) (Preserves.pure _)

theorem preserves_recvPayloadIntoBuf {R T : Type} [Req R] [Pod T] [VhostUserMsgValidator T]
    (buf : List UInt8) : Preserves I (recvPayloadIntoBuf (σ := σ) (R := R) (T := T) buf) := by
  refine (hI.preserves_recvIntoIovecAll _).bind fun ⟨bytes, rfds, iovs⟩ => ?_
  dsimp only
  refine Preserves.ite (Preserves.throw_bind _ _)
    ((Preserves.of_keeps_id (keeps_headerValid _)).bind fun valid => ?_)
  exact Preserves.ite (Preserves.throw_bind _ _) (Preserves.pure _)

theorem preserves_readRequestBody {R : Type} [Req R] (hdr : VhostUserMsgHeader R) :
    Preserves I (readRequestBody (σ := σ) hdr) := by
  unfold readRequestBody
  split
  · exact Preserves.pure _
  · refine (hI.preserves_recvData _).bind fun ⟨size2, rbuf⟩ => ?_
    dsimp only
    exact Preserves.ite (Preserves.throw_bind _ _) (Preserves.pure _)

end RecvInv

namespace RecvFrame

variable (hf : RecvFrame f)
include hf

theorem keeps_recvHeader {R : Type} [Req R] : Keeps f (recvHeader (σ := σ) (R := R)) :=
  Keeps.of_preserves fun v => (hf.recvInv v).preserves_recvHeader

theorem keeps_readRequestBody {R : Type} [Req R] (hdr : VhostUserMsgHeader R) :
    Keeps f (readRequestBody (σ := σ) hdr) :=
  Keeps.of_preserves fun v => (hf.recvInv v).preserves_readRequestBody hdr

end RecvFrame

/-- Closing descriptors keeps what `close` keeps: by induction on the
descriptors, closed one after another. -/
theorem CloseFrame.foldl_close (hf : CloseFrame f) :
    ∀ (fds : List Fd) (s : σ), f (fds.foldl Os.close s) = f s
  | [], _ => rfl
  | fd :: fds, s => by
      rw [List.foldl_cons, CloseFrame.foldl_close hf fds, hf s fd]

theorem CloseFrame.keeps_closeRfds (hf : CloseFrame f) (rfds : Option (List Fd)) :
    Keeps f (closeRfds (σ := σ) rfds) := by
  cases rfds with
  | none => exact Keeps.pure _
  | some fds => exact Keeps.modify fun s => hf.foldl_close fds s

/-! ## One socket in the process state -/

section Lens

variable {σ : Type} [SockLens σ]

/-- A view that the socket does not show. -/
def SockBlind (f : σ → κ) : Prop :=
  ∀ s o, f (SockLens.setSock s o) = f s

theorem SockBlind.sendFrame {f : σ → κ} (hf : SockBlind f) : SendFrame f :=
  fun s _ _ => hf s _

theorem SockBlind.recvFrame {f : σ → κ} (hf : SockBlind f) : RecvFrame f :=
  fun s _ _ => hf s _

theorem SockBlind.closeFrame {f : σ → κ} (hf : SockBlind f) : CloseFrame f :=
  fun s _ => hf s _

/-- Sending leaves the socket's receive side alone: the bytes waiting, the
kernel's plan for reads, and the descriptors received and closed. -/
theorem sendFrame_recvSide :
    SendFrame (σ := σ) fun s =>
      ((SockLens.sock s).rx, (SockLens.sock s).recvPlan, (SockLens.sock s).received,
        (SockLens.sock s).closed) := by
  intro s data fds
  simp only [SockLens.os_sendmsg, SockLens.sock_setSock]
  unfold Sock.sendmsg
  split <;> rfl

/-- Closing leaves everything but the list of closed descriptors alone. -/
theorem closeFrame_transfer :
    CloseFrame (σ := σ) fun s =>
      ((SockLens.sock s).rx, (SockLens.sock s).tx, (SockLens.sock s).recvPlan,
        (SockLens.sock s).sendPlan, (SockLens.sock s).received) := by
  intro s fd
  simp only [SockLens.os_close, SockLens.sock_setSock]

end Lens

end Vhost.User
