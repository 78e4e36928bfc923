import Mathlib
import Vhost.Lib.StateFrame

/-!
# Errors of the vhost-user endpoints

`Error` is the error type of the `vhost_user` module, with the two functions
`mod.rs` defines on it: `should_reconnect`, which tells a connection manager
whether the channel must be rebuilt, and the conversion of a raw socket error
number into an `Error`.

The model's programs run in a state monad whose exceptions are `Fault`s: the
`Err` of a Rust `Result`, or one of the ways a call ends without returning at
all (a panic, or undefined behaviour such as reading a struct past the end of
its buffer).
-/

namespace Vhost.User

/-- A raw file descriptor, `RawFd` (a C `int`).  The model names an open file by
its descriptor; the renumbering the kernel does when it passes a descriptor to
another process is not modelled. -/
abbrev Fd := Int32

/-- `std::io::Error`, as far as the crate looks into it: either it carries a raw
OS error number, or it was built from a message and has none. -/
inductive IoError
  | os (code : Int32)
  | other
  deriving DecidableEq, Repr

-- The Linux error numbers the crate names through `libc`.
namespace Errno

def eintr : Int32 := 4
def eagain : Int32 := 11
def enomem : Int32 := 12
def eacces : Int32 := 13
def einval : Int32 := 22
def epipe : Int32 := 32
def enosys : Int32 := 38
def econnreset : Int32 := 104
def enobufs : Int32 := 105
/-- `EWOULDBLOCK` is `EAGAIN` on Linux. -/
def ewouldblock : Int32 := 11

end Errno

/-- Errors for vhost-user operations (`vhost_user::Error`). -/
inductive Error
  | invalidParam
  | invalidOperation
  | invalidMessage
  | partialMessage
  | oversizedMsg
  | incorrectFds
  | socketConnect (e : IoError)
  | socketError (e : IoError)
  | socketBroken (e : IoError)
  | socketRetry (e : IoError)
  | slaveInternalError
  | masterInternalError
  | featureMismatch
  | reqHandlerError (e : IoError)
  deriving DecidableEq, Repr

namespace Error

/-- `Error::should_reconnect`: whether to rebuild the underlying channel. -/
def shouldReconnect : Error → Bool
  | partialMessage => true
  | socketBroken _ => true
  | slaveInternalError => true
  | masterInternalError => true
  | socketRetry _ => false
  | invalidParam | invalidOperation => false
  | invalidMessage | incorrectFds | oversizedMsg => false
  | socketError _ | socketConnect _ => false
  | featureMismatch => false
  | reqHandlerError _ => false

/-- `From<vmm_sys_util::errno::Error> for Error`: temporary conditions become
`SocketRetry`, a reset or closed peer `SocketBroken`, a refused permission
`SocketConnect`, and every other number `SocketError`. -/
def ofErrno (errno : Int32) : Error :=
  if errno = Errno.eagain then socketRetry (.os Errno.eagain)
  else if errno = Errno.ewouldblock then socketRetry (.os Errno.ewouldblock)
  else if errno = Errno.eintr then socketRetry (.os Errno.eintr)
  else if errno = Errno.enobufs then socketRetry (.os Errno.enobufs)
  else if errno = Errno.enomem then socketRetry (.os Errno.enomem)
  else if errno = Errno.econnreset then socketBroken (.os Errno.econnreset)
  else if errno = Errno.epipe then socketBroken (.os Errno.epipe)
  else if errno = Errno.eacces then socketConnect (.os Errno.eacces)
  else socketError (.os errno)

/-- Whether an error is a `SocketRetry`, the one kind the send and receive loops
swallow and try again after. -/
def isSocketRetry : Error → Bool
  | socketRetry _ => true
  | _ => false

end Error

/-- How a modelled call stops early: it returns `Err(e)`, or it never returns
because it panics or reaches undefined behaviour, or a loop of it would run on
without end. -/
inductive Fault
  | err (e : Error)
  | panic
  | undefined
  | diverges
  deriving DecidableEq, Repr

namespace Fault

/-- The Rust error a fault carries, if it is one; `attempt Fault.error?` is the
model of a caller that takes a `Result` as a value. -/
def error? : Fault → Option Error
  | err e => some e
  | _ => none

end Fault

/-- Programs of the model: a state and `Fault` exceptions. -/
abbrev Prog (σ : Type) := EStateM Fault σ

/-- The `?` operator on a `Result` value. -/
def Prog.lift {σ α : Type} : Except Error α → Prog σ α
  | .ok a => pure a
  | .error e => throw (.err e)

/-- Catch the `Err` of a call and hand it back as a `Result` value. -/
def Prog.result {σ α : Type} (x : Prog σ α) : Prog σ (Except Error α) :=
  EStateM.attempt Fault.error? x

theorem Prog.run_result_of_ok {σ α : Type} {x : Prog σ α} {s s' : σ} {a : α}
    (hx : x.run s = .ok a s') : (Prog.result x).run s = .ok (.ok a) s' := by
  simp [Prog.result, hx]

theorem Prog.run_result_of_err {σ α : Type} {x : Prog σ α} {s s' : σ} {e : Error}
    (hx : x.run s = .error (.err e) s') : (Prog.result x).run s = .ok (.error e) s' := by
  simp [Prog.result, hx, Fault.error?]

/-- A call that never returns takes its caller with it. -/
theorem Prog.run_result_of_fault {σ α : Type} {x : Prog σ α} {s s' : σ} {f : Fault}
    (hx : x.run s = .error f s') (hf : f.error? = none) : (Prog.result x).run s = .error f s' := by
  simp [Prog.result, hx, hf]

end Vhost.User
