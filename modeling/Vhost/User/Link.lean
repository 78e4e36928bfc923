import Mathlib
import Vhost.User.SlaveReqHandler
import Vhost.User.MasterReqHandler
import Vhost.User.Transfer

/-!
# Two parties on one connection

The crate's two request handlers each run in a thread of their own, in a loop
that calls `handle_request` for as long as the connection lasts, while the
other party sends requests and waits for replies.  `Link π` is the requesting
party's socket joined to such a peer `π`.

What the requester writes is delivered, in order and with its descriptors, to
the peer's receive queue.  When the requester reads, the peer first serves
every request it has been sent, and its replies are delivered back.  Serving
at that moment loses nothing: the peer acts only on its input, and the
requester sees the peer's output only when it reads.  A read that finds no
reply blocks for ever while the peer lives, and sees the connection closed once
the peer's thread has died of a panic.

A peer whose `handle_request` returns `Err` goes on to the next request, as a
serving loop that logs errors does.
-/

namespace Vhost.User

/-- A party that serves requests arriving on its own socket. -/
class Responder (π : Type) where
  endpoint : π → Sock
  setEndpoint : π → Sock → π
  serveOne : Prog π Unit

instance {S : Type} [VhostUserSlaveReqHandler S] : Responder (SlaveReqHandler S) where
  endpoint h := h.mainSock
  setEndpoint h sock := { h with mainSock := sock }
  serveOne := SlaveReqHandler.handleRequest

instance {S : Type} [VhostUserMasterReqHandler S] : Responder (MasterReqHandler S) where
  endpoint h := h.subSock
  setEndpoint h sock := { h with subSock := sock }
  serveOne := do let _ ← MasterReqHandler.handleRequest

@[simp]
theorem endpoint_slaveReqHandler {S : Type} [VhostUserSlaveReqHandler S] (h : SlaveReqHandler S) :
    Responder.endpoint h = h.mainSock := rfl

@[simp]
theorem setEndpoint_slaveReqHandler {S : Type} [VhostUserSlaveReqHandler S] (h : SlaveReqHandler S)
    (sock : Sock) : Responder.setEndpoint h sock = { h with mainSock := sock } := rfl

/-- The requester's socket and the peer at its other end; `peerHalted` once the
peer's thread has stopped. -/
structure Link (π : Type) where
  sock : Sock
  peer : π
  peerHalted : Bool

namespace Link

variable {π : Type} [Responder π]

open Responder ByteStream

/-- The peer's loop: serve while requests are waiting, at most `fuel` of them.
The flag says whether the peer stopped for good. -/
def serve : Nat → π → π × Bool
  | 0, p => (p, false)
  | fuel + 1, p =>
      if (endpoint p).rx.isEmpty then (p, false)
      else
        match serveOne.run p with
        | .ok _ p' => serve fuel p'
        | .error (.err _) p' => serve fuel p'
        | .error _ p' => (p', true)

/-- Let the peer serve what it was sent, and deliver its replies.  Each request
the peer serves reads at least one byte unless a read fails, so the bytes
waiting and the failures planned bound the rounds. -/
def settle (l : Link π) : Link π :=
  let ps := endpoint l.peer
  let (peer, halted) :=
    if l.peerHalted then (l.peer, true)
    else serve (ps.rx.length + Os.retryBound ps + 1) l.peer
  let ps := endpoint peer
  { sock := { l.sock with rx := l.sock.rx ++ ps.tx }
    peer := setEndpoint peer { ps with tx := [] }
    peerHalted := halted }

/-- Deliver what the requester wrote to the peer. -/
def deliver (l : Link π) : Link π :=
  let ps := endpoint l.peer
  { l with sock := { l.sock with tx := [] },
           peer := setEndpoint l.peer { ps with rx := ps.rx ++ l.sock.tx } }

/-- Whether the requester's next read fails by its kernel's plan. -/
def readFails (sock : Sock) : Bool :=
  match sock.recvPlan.head? with
  | some (.fail _) => true
  | _ => false

instance : Os (Link π) where
  sendmsg l data fds :=
    let (r, sock) := Sock.sendmsg l.sock data fds
    (r, deliver { l with sock := sock })
  recvmsg l want room :=
    let l := settle l
    if l.sock.rx.isEmpty && !readFails l.sock && !l.peerHalted then (none, l)
    else
      let (r, sock) := Sock.recvmsg l.sock want room
      (some r, { l with sock := sock })
  close l fd := { l with sock := Os.close l.sock fd }
  retryBound l := Os.retryBound l.sock

/-- A connection to a fresh peer, nothing in flight. -/
def connect (peer : π) : Link π :=
  { sock := Sock.ofStream [], peer := peer, peerHalted := false }

/-! ## One call of the requester -/

/-- A write the kernel takes whole reaches the peer's queue at once. -/
theorem sendmsg_of_sendPlan_nil (l : Link π) (data : List UInt8) (fds : List Fd)
    (hplan : l.sock.sendPlan = []) :
    Os.sendmsg l data fds =
      (.ok data.length, deliver { l with sock := l.sock.afterSend data fds }) := by
  simp [Os.sendmsg, Sock.sendmsg, hplan, Sock.limitOf, Sock.afterSend]

theorem serve_of_rx_nil (fuel : Nat) (p : π) (hrx : (endpoint p).rx = []) :
    serve fuel p = (p, false) := by
  cases fuel with
  | zero => rfl
  | succ fuel => simp [serve, hrx]

/-- A peer whose request fails with an `Err`, and that has nothing more to
read, stops serving, alive. -/
theorem serve_succ_of_err (fuel : Nat) {p p' : π} {e : Error} (hrx : (endpoint p).rx ≠ [])
    (hrun : serveOne.run p = .error (.err e) p') (hidle : (endpoint p').rx = []) :
    serve (fuel + 1) p = (p', false) := by
  rw [serve, if_neg (by simpa using hrx), hrun]
  exact serve_of_rx_nil fuel p' hidle

/-- A peer whose request succeeds, and that has nothing more to read, stops
serving, alive. -/
theorem serve_succ_of_ok (fuel : Nat) {p p' : π} (hrx : (endpoint p).rx ≠ [])
    (hrun : serveOne.run p = .ok () p') (hidle : (endpoint p').rx = []) :
    serve (fuel + 1) p = (p', false) := by
  rw [serve, if_neg (by simpa using hrx), hrun]
  exact serve_of_rx_nil fuel p' hidle

theorem settle_of_serve {l : Link π} {p' : π} (hhalt : l.peerHalted = false)
    (hserve : serve ((endpoint l.peer).rx.length + Os.retryBound (endpoint l.peer) + 1) l.peer =
      (p', false)) :
    settle l = { sock := { l.sock with rx := l.sock.rx ++ (endpoint p').tx },
                 peer := setEndpoint p' { endpoint p' with tx := [] }, peerHalted := false } := by
  simp [settle, hhalt, hserve]

/-- A read blocks for ever when the peer, alive and done serving, has sent
nothing back and no failure of the read is planned. -/
theorem recvmsg_of_silent (l : Link π) (want room : Nat) (hrx : (settle l).sock.rx = [])
    (hread : readFails (settle l).sock = false) (hhalt : (settle l).peerHalted = false) :
    Os.recvmsg l want room = (none, settle l) := by
  simp [Os.recvmsg, hrx, hread, hhalt]

/-- The read that follows a request which the peer failed with an `Err` and
left unanswered blocks for ever. -/
theorem recvmsg_of_unanswered {l : Link π} {p' : π} {e : Error} (want room : Nat)
    (hhalt : l.peerHalted = false) (hpending : (endpoint l.peer).rx ≠ [])
    (hrun : serveOne.run l.peer = .error (.err e) p') (hidle : (endpoint p').rx = [])
    (hsilent : (endpoint p').tx = []) (hrx : l.sock.rx = []) (hplan : l.sock.recvPlan = []) :
    Os.recvmsg l want room = (none, settle l) := by
  have hsettle := settle_of_serve hhalt (serve_succ_of_err _ hpending hrun hidle)
  apply recvmsg_of_silent
  · rw [hsettle]
    simp [hrx, hsilent]
  · rw [hsettle]
    simp [readFails, hplan]
  · rw [hsettle]

/-- The read that follows a request the peer serves and answers: the peer's
answer is delivered, and the read takes its first `want` bytes. -/
theorem recvmsg_of_answered {l : Link π} {p' : π} (want room : Nat)
    (hhalt : l.peerHalted = false) (hpending : (endpoint l.peer).rx ≠ [])
    (hrun : serveOne.run l.peer = .ok () p') (hidle : (endpoint p').rx = [])
    (hanswer : (endpoint p').tx ≠ []) (hrx : l.sock.rx = []) (hplan : l.sock.recvPlan = []) :
    Os.recvmsg l want room =
      (some (.ok (bytes ((endpoint p').tx.take want),
          (attached ((endpoint p').tx.take want)).take room)),
        { sock := { l.sock with rx := (endpoint p').tx.drop want, recvPlan := [],
                                received := l.sock.received ++
                                  (attached ((endpoint p').tx.take want)).take room },
          peer := setEndpoint p' { endpoint p' with tx := [] }, peerHalted := false }) := by
  have hsettle := settle_of_serve hhalt (serve_succ_of_ok _ hpending hrun hidle)
  simp [Os.recvmsg, hsettle, hrx, hanswer, Sock.recvmsg, hplan, Sock.limitOf]

/-- A read with nothing in flight either way blocks for ever while the peer
lives. -/
theorem recvmsg_of_idle (l : Link π) (want room : Nat) (hhalt : l.peerHalted = false)
    (hidle : (endpoint l.peer).rx = []) (hsilent : (endpoint l.peer).tx = [])
    (hrx : l.sock.rx = []) (hplan : l.sock.recvPlan = []) :
    Os.recvmsg l want room = (none, settle l) := by
  have hsettle := settle_of_serve hhalt (serve_of_rx_nil _ l.peer hidle)
  apply recvmsg_of_silent
  · rw [hsettle]
    simp [hrx, hsilent]
  · rw [hsettle]
    simp [readFails, hplan]
  · rw [hsettle]

end Link

end Vhost.User
