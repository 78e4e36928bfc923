import Mathlib
import Vhost.Lib.Segments
import Vhost.User.IoVec

/-!
# Chunked transfer through one flat buffer

`send_iovec_all` and `recv_into_iovec_all` address a list of buffers as one
logical buffer, their concatenation, and move it in as many calls as the
kernel needs.  `sendAllLoop` and `recvAllLoop` are that view written out: the
same loops over one flat buffer, each call offering what is left of it past the
bytes moved so far.  They are the abstract model of the two loops.

The first part shows that the scatter-gather loops are these loops, for every
kernel: re-slicing the buffers through `get_sub_iovs_offset` after any short
transfer, zero-length buffers and splits on buffer boundaries included, offers
exactly the rest of the concatenation.  The second part shows what the flat
loops leave on a socket whose kernel follows any plan of short transfers,
zero transfers and errors.
-/

namespace Vhost.User

open ByteStream

/-! ## The loops over one flat buffer -/

section Flat

variable {σ : Type} [Os σ]

/-- A send of one flat buffer in as many calls as the kernel takes: each call
offers the bytes from `dataSent` on, with the descriptors while none is out; a
call that takes nothing ends it, and one failed with `SocketRetry` is made
again. -/
def sendAllLoop (data : List UInt8) (fds : List Fd) : Nat → Nat → Prog σ Nat
  | 0, _ => throw .diverges
  | fuel + 1, dataSent =>
      if data.length - dataSent > 0 then do
        let sent ← Prog.result (rawSendmsg (data.drop dataSent) (if dataSent = 0 then fds else []))
        match sent with
        | .ok 0 => pure dataSent
        | .ok n => sendAllLoop data fds fuel (dataSent + n)
        | .error e =>
            if e.isSocketRetry then sendAllLoop data fds fuel dataSent
            else throw (.err e)
      else pure dataSent

/-- The flat send with the rounds `send_iovec_all` gives its loop. -/
def sendAll (data : List UInt8) (fds : List Fd) : Prog σ Nat := do
  let s ← get
  sendAllLoop data fds (data.length + Os.retryBound s + 1) 0

/-- A read of `total` bytes into one flat buffer in as many calls as the kernel
needs: each call asks for what is left, and the descriptors kept are those of
the first read that brings bytes; a read of no byte ends it, and one failed
with `SocketRetry` is made again. -/
def recvAllLoop (total : Nat) : Nat → List UInt8 → Option (List Fd) →
    Prog σ (List UInt8 × Option (List Fd))
  | 0, _, _ => throw .diverges
  | fuel + 1, got, rfds =>
      if total - got.length > 0 then do
        let res ← Prog.result (rawRecvmsg (total - got.length) maxAttachedFdEntries)
        match res with
        | .ok ([], _) => pure (got, rfds)
        | .ok (data, fds) =>
            let fds := if fds.isEmpty then none else some fds
            recvAllLoop total fuel (got ++ data) (if got.length = 0 then fds else rfds)
        | .error e =>
            if e.isSocketRetry then recvAllLoop total fuel got rfds
            else throw (.err e)
      else pure (got, rfds)

/-- The flat read with the rounds `recv_into_iovec_all` gives its loop. -/
def recvAll (total : Nat) : Prog σ (List UInt8 × Option (List Fd)) := do
  let s ← get
  recvAllLoop total (total + Os.retryBound s + 1) [] none

end Flat

/-! ## The scatter-gather loops are the flat ones -/

section Refinement

variable {σ : Type} [Os σ]

/-- The offset `get_sub_iovs_offset` finds lies inside the buffer it names. -/
theorem lt_length_of_locates {iovs : List (List UInt8)} {lens : List Nat} {k off : Nat}
    {iov : List UInt8} (hlens : iovs.map List.length = lens) (hk : k < lens.length)
    (hoff : off < lens[k]) (hiov : iovs[k]? = some iov) : off < iov.length := by
  subst hlens
  have hlen : (iovs.map List.length)[k]? = some iov.length := by
    rw [List.getElem?_map, hiov, Option.map_some]
  rw [List.getElem?_eq_getElem hk, Option.some_inj] at hlen
  omega

/-- One more read into the buffers from where the reads so far stopped, with
the buffers rebuilt as `recv_into_iovec_all` rebuilds them: the buffers with
every byte read so far written in. -/
theorem scatter_append_of_locates (bufs : List (List UInt8)) (got data : List UInt8) {k off : Nat}
    {iov : List UInt8} (hiov : (scatter bufs got)[k]? = some iov) (hoff : off < iov.length)
    (hsum : ((bufs.map List.length).take k).sum + off = got.length) :
    (scatter bufs got).take k ++
        (iov.take off ++ (scatter (iov.drop off :: (scatter bufs got).drop (k + 1)) data).headD []) ::
        (scatter (iov.drop off :: (scatter bufs got).drop (k + 1)) data).tail =
      scatter bufs (got ++ data) := by
  have hshape := map_length_scatter bufs got
  obtain ⟨hk, rfl⟩ := List.getElem?_eq_some_iff.1 hiov
  have hsum' : (((scatter bufs got).map List.length).take k).sum + off = got.length := by
    rw [hshape, hsum]
  have htotal : (scatter bufs got).flatten.length = bufs.flatten.length := by
    rw [List.length_flatten, List.length_flatten, hshape]
  -- the buffers from the offset on, as one buffer
  have hrest := Segments.drop_flatten_eq (scatter bufs got) hk hoff.le
  rw [hsum'] at hrest
  have hgot : got.length < bufs.flatten.length := by
    have hlen := congrArg List.length hrest
    simp only [List.flatten_cons, List.length_append, List.length_drop, htotal] at hlen
    omega
  -- as one buffer, the buffers so far hold what was read, then what they held before
  have hcur : (scatter bufs got).flatten = got ++ bufs.flatten.drop got.length := by
    rw [flatten_scatter, List.take_of_length_le hgot.le]
  have hfront := Segments.take_flatten_eq (scatter bufs got) hk hoff.le
  rw [hsum', hcur, List.take_left' rfl] at hfront
  rw [hcur, List.drop_left' rfl] at hrest
  -- the round's read fills the rest of the buffer reached and the later ones
  obtain ⟨head, tail, hfilled⟩ : ∃ head tail,
      scatter ((scatter bufs got)[k].drop off :: (scatter bufs got).drop (k + 1)) data =
        head :: tail := ⟨_, _, rfl⟩
  have hfilledShape := map_length_scatter
    ((scatter bufs got)[k].drop off :: (scatter bufs got).drop (k + 1)) data
  have hfilledFlat := flatten_scatter
    ((scatter bufs got)[k].drop off :: (scatter bufs got).drop (k + 1)) data
  rw [hfilled] at hfilledShape hfilledFlat
  rw [hrest] at hfilledFlat
  rw [hfilled, List.headD_cons, List.tail_cons]
  apply Segments.eq_of_flatten_eq
  · -- every buffer keeps its length
    simp only [List.map_cons, List.cons.injEq] at hfilledShape
    rw [map_length_scatter, ← hshape]
    conv_rhs => rw [← List.take_append_drop k (scatter bufs got), List.drop_eq_getElem_cons hk]
    simp only [List.map_append, List.map_cons, List.length_append, List.length_take,
      hfilledShape.1, hfilledShape.2, List.length_drop]
    congr 2
    omega
  · -- and as one buffer the buffers hold every byte read, in order
    rw [List.flatten_append, List.flatten_cons, ← List.append_assoc, ← List.append_assoc, hfront,
      List.append_assoc, ← List.flatten_cons, hfilledFlat, flatten_scatter, List.take_append,
      List.take_of_length_le hgot.le, List.length_append, List.length_drop, List.drop_drop,
      List.append_assoc]

/-- `send_iovec_all`'s loop is the loop over the concatenation of its buffers:
whatever the kernel does, each call offers exactly the bytes from `dataSent`
on, with the descriptors only while `dataSent = 0`. -/
theorem sendIovecAllLoop_eq_sendAllLoop (iovs : List (List UInt8)) (fds : Option (List Fd))
    (fuel dataSent : Nat) :
    sendIovecAllLoop (σ := σ) iovs fds (iovs.map List.length).sum fuel dataSent =
      sendAllLoop iovs.flatten (fds.getD []) fuel dataSent := by
  induction fuel generalizing dataSent with
  | zero => rfl
  | succ fuel ih =>
      have htotal : (iovs.map List.length).sum = iovs.flatten.length := List.length_flatten.symm
      rw [sendIovecAllLoop, sendAllLoop]
      by_cases hlt : dataSent < iovs.flatten.length
      · obtain ⟨k, off, hk, hskip, hoff, -, hiovs⟩ :=
          getSubIovsOffset_locates (iovs.map List.length) (htotal ▸ hlt)
        obtain ⟨iov, hiov, hflat⟩ := hiovs iovs rfl
        have hoffset : off ≤ iov.length := le_of_lt (lt_length_of_locates rfl hk hoff hiov)
        -- the round's one call offers the bytes from `dataSent` on
        have hcall : sendIovec (σ := σ) (iov.drop off :: iovs.drop (k + 1))
            (if dataSent = 0 then fds else none) =
            rawSendmsg (iovs.flatten.drop dataSent) (if dataSent = 0 then fds.getD [] else []) := by
          rw [sendIovec, hflat]
          split <;> rfl
        rw [if_pos (show (iovs.map List.length).sum - dataSent > 0 by omega),
          if_pos (show iovs.flatten.length - dataSent > 0 by omega), hskip]
        simp only [subSlice, hiov, if_pos hoffset, pure_bind]
        rw [hcall]
        -- both loops go on alike from what the call returned
        refine congrArg (bind _) (funext fun sent => ?_)
        rcases sent with e | _ | n
        · simp only [ih]
        · rfl
        · exact ih _
      · rw [if_neg (show ¬(iovs.map List.length).sum - dataSent > 0 by omega),
          if_neg (show ¬iovs.flatten.length - dataSent > 0 by omega)]

theorem sendIovecAll_eq_sendAll (iovs : List (List UInt8)) (fds : Option (List Fd)) :
    sendIovecAll (σ := σ) iovs fds = sendAll iovs.flatten (fds.getD []) := by
  have htotal : (iovs.map List.length).sum = iovs.flatten.length := List.length_flatten.symm
  simp only [sendIovecAll, sendAll, sendIovecAllLoop_eq_sendAllLoop]
  rw [htotal]

/-- `recv_into_iovec_all`'s loop is the loop over one flat buffer, with the
bytes read so far scattered into the buffers it was given: whatever the kernel
does, each call asks for exactly what is left of the total, and the
descriptors kept are those of the first read that brings bytes. -/
theorem recvIntoIovecAllLoop_eq_recvAllLoop (bufs : List (List UInt8)) (fuel : Nat)
    (got : List UInt8) (rfds : Option (List Fd)) :
    recvIntoIovecAllLoop (σ := σ) (bufs.map List.length) (bufs.map List.length).sum fuel
        (scatter bufs got) got.length rfds =
      (fun r => (r.1.length, r.2, scatter bufs r.1)) <$>
        recvAllLoop (bufs.map List.length).sum fuel got rfds := by
  induction fuel generalizing got rfds with
  | zero => rfl
  | succ fuel ih =>
      rw [recvIntoIovecAllLoop, recvAllLoop]
      by_cases hlt : got.length < (bufs.map List.length).sum
      · obtain ⟨k, off, hk, hskip, hoff, hsum, hiovs⟩ :=
          getSubIovsOffset_locates (bufs.map List.length) hlt
        obtain ⟨iov, hiov, hflat⟩ := hiovs (scatter bufs got) (map_length_scatter bufs got)
        have hoffset := lt_length_of_locates (map_length_scatter bufs got) hk hoff hiov
        -- the round asks for what is left of the total
        have hwant : ((iov.drop off :: (scatter bufs got).drop (k + 1)).map List.length).sum =
            (bufs.map List.length).sum - got.length := by
          have hlen := congrArg List.length hflat
          rwa [List.length_flatten, List.length_drop, List.length_flatten,
            map_length_scatter] at hlen
        rw [if_pos (show (bufs.map List.length).sum - got.length > 0 by omega),
          if_pos (show (bufs.map List.length).sum - got.length > 0 by omega), hskip]
        simp only [hiov, pure_bind, gt_iff_lt, if_neg (Nat.not_lt.2 hoffset.le)]
        ext s
        simp only [EStateM.run_bind, EStateM.run_map]
        rcases hread : (rawRecvmsg (σ := σ) ((bufs.map List.length).sum - got.length)
          maxAttachedFdEntries).run s with ⟨⟨data, fds⟩, s₁⟩ | ⟨f, s₁⟩
        · -- the read brought `data`, written into the rest of the buffers
          have hround : (Prog.result (recvIntoIovec (σ := σ)
              (iov.drop off :: (scatter bufs got).drop (k + 1)))).run s =
              .ok (.ok (data.length, if fds.isEmpty then none else some fds,
                scatter (iov.drop off :: (scatter bufs got).drop (k + 1)) data)) s₁ := by
            apply Prog.run_result_of_ok
            rw [recvIntoIovec, EStateM.run_bind, hwant, hread]
            rfl
          rw [hround, Prog.run_result_of_ok hread]
          cases data with
          | nil => rfl
          | cons byte rest =>
              simp only [List.length_cons]
              rw [scatter_append_of_locates bufs got (byte :: rest) hiov hoffset hsum,
                show got.length + (rest.length + 1) = (got ++ byte :: rest).length by simp, ih,
                EStateM.run_map]
        · -- the read failed: both loops make it again or stop alike
          have hround : (recvIntoIovec (σ := σ)
              (iov.drop off :: (scatter bufs got).drop (k + 1))).run s = .error f s₁ := by
            rw [recvIntoIovec, EStateM.run_bind, hwant, hread]
          cases f
          case err e =>
            rw [Prog.run_result_of_err hround, Prog.run_result_of_err hread]
            by_cases hretry : e.isSocketRetry
            · simp only [hretry, if_true, ih, EStateM.run_map]
            · simp only [hretry, Bool.false_eq_true, if_false, EStateM.run_throw',
                EStateM.Result.map_error]
          all_goals
            rw [Prog.run_result_of_fault hround rfl, Prog.run_result_of_fault hread rfl]
            rfl
      · rw [if_neg (show ¬(bufs.map List.length).sum - got.length > 0 by omega),
          if_neg (show ¬(bufs.map List.length).sum - got.length > 0 by omega)]
        rfl

theorem recvIntoIovecAll_eq_recvAll (iovs : List (List UInt8)) :
    recvIntoIovecAll (σ := σ) iovs =
      (fun r => (r.1.length, r.2, scatter iovs r.1)) <$> recvAll (iovs.map List.length).sum := by
  ext s
  have hloop := recvIntoIovecAllLoop_eq_recvAllLoop (σ := σ) iovs
    ((iovs.map List.length).sum + Os.retryBound s + 1) [] none
  rw [scatter_nil, List.length_nil] at hloop
  simp only [recvIntoIovecAll, recvAll, EStateM.run_bind, EStateM.run_map, EStateM.run_get]
  rw [hloop, EStateM.run_map]

end Refinement

/-! ## On a socket whose kernel follows a plan

`Sock` answers each call by the next step of its plan: move at most `n`
bytes (none at all when `n = 0`), or fail with an error number, retryable or
not; once the plan is used up every call moves all it can.  Any finite run of
the loops meets a kernel of this kind, so what holds here holds of every run
that returns. -/

section Planned

variable {σ : Type} [SockLens σ]

open SockLens

/-- What a chunked send of `data` has put on the stream between `dataSent` and
`n` bytes out: those bytes, carrying the descriptors when they are the first. -/
def sentFrom (data : List UInt8) (fds : List Fd) (dataSent n : Nat) : Stream Fd :=
  pack ((data.take n).drop dataSent) (if dataSent = 0 then fds else [])

@[simp]
theorem sentFrom_self (data : List UInt8) (fds : List Fd) (dataSent : Nat) :
    sentFrom data fds dataSent dataSent = [] := by
  simp [sentFrom]

/-- The bytes of one call, then those of the calls after it. -/
theorem sentFrom_append (data : List UInt8) (fds : List Fd) {dataSent m n : Nat} (hm : 0 < m)
    (hmn : dataSent + m ≤ n) (hn : n ≤ data.length) :
    sentFrom data fds dataSent (dataSent + m) ++ sentFrom data fds (dataSent + m) n =
      sentFrom data fds dataSent n := by
  have hfront : (data.take (dataSent + m)).drop dataSent ≠ [] := by
    rw [← List.length_pos_iff, List.length_drop, List.length_take]
    omega
  have hprefix : data.take (dataSent + m) = (data.take n).take (dataSent + m) := by
    rw [List.take_take, Nat.min_eq_left hmn]
  rw [sentFrom, sentFrom, sentFrom, if_neg (show dataSent + m ≠ 0 by omega),
    pack_append_pack_nil _ _ hfront, hprefix,
    ← List.drop_append_of_le_length (by rw [List.length_take, List.length_take]; omega),
    List.take_append_drop]

/-- Where a chunked send of `data`, `dataSent` bytes of it out, can end on a
socket whose kernel follows its plan.  The socket took the bytes from
`dataSent` on up to where it stopped, in order, with the descriptors on the
first byte sent; it stops short only after a call that took nothing, and fails
only with an error other than `SocketRetry`, both steps of its plan.  Nothing
but the outgoing stream and the plan changes. -/
def SendEnd (data : List UInt8) (fds : List Fd) (dataSent : Nat) (s : σ) :
    EStateM.Result Fault σ Nat → Prop
  | .ok n s' => dataSent ≤ n ∧ n ≤ data.length ∧ ∃ plan',
      s' = setSock s { sock s with tx := (sock s).tx ++ sentFrom data fds dataSent n,
                                   sendPlan := plan' } ∧
      (∃ pre, (sock s).sendPlan = pre ++ plan') ∧
      (n < data.length → ∃ pre, (sock s).sendPlan = pre ++ .upTo 0 :: plan')
  | .error (.err e) s' => e.isSocketRetry = false ∧ ∃ k plan' pre errno,
      dataSent ≤ k ∧ k ≤ data.length ∧
      s' = setSock s { sock s with tx := (sock s).tx ++ sentFrom data fds dataSent k,
                                   sendPlan := plan' } ∧
      (sock s).sendPlan = pre ++ .fail errno :: plan' ∧ e = Error.ofErrno errno
  | .error _ _ => False

/-- A plan whose later steps are `pre` and then `rest`: its first step, if any,
then those. -/
theorem plan_eq_of_tail {plan pre rest : List SockStep} (htail : plan.tail = pre ++ rest) :
    plan = (plan.take 1 ++ pre) ++ rest := by
  calc plan = plan.take 1 ++ plan.tail := by rw [← List.drop_one, List.take_append_drop]
    _ = plan.take 1 ++ (pre ++ rest) := by rw [htail]
    _ = (plan.take 1 ++ pre) ++ rest := by rw [List.append_assoc]

theorem sendEnd_done {data : List UInt8} {fds : List Fd} {dataSent : Nat} {s : σ}
    (hdone : dataSent = data.length) : SendEnd data fds dataSent s (.ok dataSent s) := by
  refine ⟨le_refl _, hdone ▸ le_refl _, (sock s).sendPlan, ?_, ⟨[], rfl⟩, fun hlt => ?_⟩
  · rw [sentFrom_self, List.append_nil]
    exact (setSock_sock s).symm
  · omega

/-- A call that took nothing ends the send where it was. -/
theorem sendEnd_zero {data : List UInt8} {fds : List Fd} {dataSent : Nat} {s : σ}
    {rest : List SockStep} (hlt : dataSent < data.length)
    (hplan : (sock s).sendPlan = .upTo 0 :: rest) :
    SendEnd data fds dataSent s (.ok dataSent (setSock s { sock s with sendPlan := rest })) :=
  ⟨le_refl _, hlt.le, rest, by simp, ⟨[.upTo 0], by simp [hplan]⟩, fun _ => ⟨[], by simp [hplan]⟩⟩

/-- A call failed with an error other than `SocketRetry` ends the send. -/
theorem sendEnd_fail {data : List UInt8} {fds : List Fd} {dataSent : Nat} {s : σ} {errno : Int32}
    {rest : List SockStep} (hsent : dataSent ≤ data.length)
    (hplan : (sock s).sendPlan = .fail errno :: rest)
    (hretry : (Error.ofErrno errno).isSocketRetry = false) :
    SendEnd data fds dataSent s
      (.error (.err (Error.ofErrno errno)) (setSock s { sock s with sendPlan := rest })) :=
  ⟨hretry, dataSent, rest, [], errno, le_refl _, hsent, by simp, by simp [hplan], rfl⟩

/-- A call that took `m > 0` bytes, then the rest of the send. -/
theorem SendEnd.of_sent {data : List UInt8} {fds : List Fd} {dataSent m : Nat} {s : σ}
    {r : EStateM.Result Fault σ Nat} (hm : 0 < m)
    (h : SendEnd data fds (dataSent + m)
      (setSock s { sock s with tx := (sock s).tx ++ sentFrom data fds dataSent (dataSent + m),
                               sendPlan := (sock s).sendPlan.tail }) r) :
    SendEnd data fds dataSent s r := by
  rcases r with ⟨n, s'⟩ | ⟨_ | _ | _ | _, s'⟩
  · obtain ⟨hlo, hhi, plan', hstate, ⟨pre, hpre⟩, hshort⟩ := h
    simp only [sock_setSock, setSock_setSock] at hstate hpre hshort
    refine ⟨by omega, hhi, plan', ?_, ⟨_, plan_eq_of_tail hpre⟩, fun hlt => ?_⟩
    · rw [hstate, ← sentFrom_append data fds hm hlo hhi]
      simp [List.append_assoc]
    · obtain ⟨pre', hpre'⟩ := hshort hlt
      exact ⟨_, plan_eq_of_tail hpre'⟩
  · obtain ⟨hretry, k, plan', pre, errno, hlo, hhi, hstate, hpre, he⟩ := h
    simp only [sock_setSock, setSock_setSock] at hstate hpre
    refine ⟨hretry, k, plan', _, errno, by omega, hhi, ?_, plan_eq_of_tail hpre, he⟩
    rw [hstate, ← sentFrom_append data fds hm hlo hhi]
    simp [List.append_assoc]
  all_goals exact h.elim

/-- A call failed with `SocketRetry`, then the send made again. -/
theorem SendEnd.of_retry {data : List UInt8} {fds : List Fd} {dataSent : Nat} {s : σ}
    {r : EStateM.Result Fault σ Nat}
    (h : SendEnd data fds dataSent (setSock s { sock s with sendPlan := (sock s).sendPlan.tail }) r) :
    SendEnd data fds dataSent s r := by
  rcases r with ⟨n, s'⟩ | ⟨_ | _ | _ | _, s'⟩
  · obtain ⟨hlo, hhi, plan', hstate, ⟨pre, hpre⟩, hshort⟩ := h
    simp only [sock_setSock, setSock_setSock] at hstate hpre hshort
    refine ⟨hlo, hhi, plan', by rw [hstate], ⟨_, plan_eq_of_tail hpre⟩, fun hlt => ?_⟩
    obtain ⟨pre', hpre'⟩ := hshort hlt
    exact ⟨_, plan_eq_of_tail hpre'⟩
  · obtain ⟨hretry, k, plan', pre, errno, hlo, hhi, hstate, hpre, he⟩ := h
    simp only [sock_setSock, setSock_setSock] at hstate hpre
    exact ⟨hretry, k, plan', _, errno, hlo, hhi, by rw [hstate], plan_eq_of_tail hpre, he⟩
  all_goals exact h.elim

/-- The bytes one call takes from `dataSent` on are the next stretch of the
stream. -/
theorem sentFrom_add (data : List UInt8) (fds : List Fd) (dataSent c : Nat) :
    sentFrom data fds dataSent (dataSent + c) =
      pack ((data.drop dataSent).take c) (if dataSent = 0 then fds else []) := by
  rw [sentFrom, List.drop_take, Nat.add_sub_cancel_left]

/-- A plan that does not start with a failure has none at its head. -/
theorem head?_ne_fail {plan : List SockStep} (hfail : ¬∃ errno rest, plan = .fail errno :: rest)
    (errno : Int32) : plan.head? ≠ some (.fail errno) := by
  intro hhead
  obtain ⟨rest, hplan⟩ := List.head?_eq_some_iff.1 hhead
  exact hfail ⟨errno, rest, hplan⟩

/-- `sendmsg` on a plan whose next step fails. -/
theorem run_result_rawSendmsg_of_fail (s : σ) (data : List UInt8) (fds : List Fd) {errno : Int32}
    {rest : List SockStep} (hplan : (sock s).sendPlan = .fail errno :: rest) :
    (Prog.result (rawSendmsg (σ := σ) data fds)).run s =
      .ok (.error (Error.ofErrno errno)) (setSock s { sock s with sendPlan := rest }) := by
  simp [Prog.result, rawSendmsg, os_sendmsg, Sock.sendmsg, hplan, Fault.error?]

/-- `sendmsg` on a plan whose next step moves at most `n` bytes, or on a plan
used up: the kernel takes the first `c` bytes offered. -/
theorem run_result_rawSendmsg_of_limit (s : σ) (data : List UInt8) (fds : List Fd) {c : Nat}
    (hfail : ∀ errno, (sock s).sendPlan.head? ≠ some (.fail errno))
    (hlimit : Sock.limitOf data.length (sock s).sendPlan.head? = c) :
    (Prog.result (rawSendmsg (σ := σ) data fds)).run s =
      .ok (.ok (data.take c).length)
        (setSock s { sock s with tx := (sock s).tx ++ pack (data.take c) fds,
                                 sendPlan := (sock s).sendPlan.tail }) := by
  have hsend : Sock.sendmsg (sock s) data fds =
      (.ok (data.take c).length, { sock s with tx := (sock s).tx ++ pack (data.take c) fds,
                                               sendPlan := (sock s).sendPlan.tail }) := by
    rw [Sock.sendmsg]
    split
    · rename_i errno hhead
      exact absurd hhead (hfail errno)
    · rw [hlimit]
  simp [Prog.result, rawSendmsg, os_sendmsg, hsend]

theorem limitOf_le (want : Nat) (step : Option SockStep) : Sock.limitOf want step ≤ want := by
  rcases step with _ | _ | _ <;> simp [Sock.limitOf]

/-- A call asked for bytes moves none only by a step of the plan that says so. -/
theorem limitOf_eq_zero {want : Nat} {step : Option SockStep} (hwant : 0 < want)
    (hzero : Sock.limitOf want step = 0) : step = some (.upTo 0) := by
  rcases step with _ | n | errno
  · simp [Sock.limitOf] at hzero
    omega
  · simp only [Sock.limitOf] at hzero
    rw [show n = 0 by omega]
  · simp [Sock.limitOf] at hzero
    omega

/-- The flat send on a socket that follows its plan, given a round for every
byte left and every step of the plan: it returns, and ends as `SendEnd` says. -/
theorem sendEnd_sendAllLoop (data : List UInt8) (fds : List Fd) (fuel dataSent : Nat) (s : σ)
    (hsent : dataSent ≤ data.length)
    (hfuel : data.length - dataSent + (sock s).sendPlan.length < fuel) :
    SendEnd data fds dataSent s ((sendAllLoop data fds fuel dataSent).run s) := by
  induction fuel generalizing dataSent s with
  | zero => omega
  | succ fuel ih =>
      rw [sendAllLoop]
      by_cases hlt : dataSent < data.length
      · rw [if_pos (show data.length - dataSent > 0 by omega), EStateM.run_bind]
        -- the call does what the plan's next step says
        by_cases hfail : ∃ errno rest, (sock s).sendPlan = .fail errno :: rest
        · obtain ⟨errno, rest, hplan⟩ := hfail
          rw [run_result_rawSendmsg_of_fail s _ _ hplan]
          by_cases hretry : (Error.ofErrno errno).isSocketRetry
          · simp only [hretry, if_true]
            apply SendEnd.of_retry
            rw [hplan, List.tail_cons]
            apply ih dataSent _ hsent
            simp only [sock_setSock]
            rw [hplan, List.length_cons] at hfuel
            omega
          · simp only [hretry, Bool.false_eq_true, if_false, EStateM.run_throw']
            exact sendEnd_fail hsent hplan (by simpa using hretry)
        · have hnofail := head?_ne_fail hfail
          obtain ⟨c, hc⟩ : ∃ c, Sock.limitOf (data.drop dataSent).length (sock s).sendPlan.head? = c :=
            ⟨_, rfl⟩
          have hle : c ≤ data.length - dataSent := by
            rw [← hc, ← List.length_drop]
            exact limitOf_le _ _
          rw [run_result_rawSendmsg_of_limit s _ _ hnofail hc,
            List.length_take_of_le (by rw [List.length_drop]; exact hle)]
          rcases Nat.eq_zero_or_pos c with hzero | hpos
          · -- nothing taken: the step said so, and the send stops here
            have hstep := limitOf_eq_zero (by rw [List.length_drop]; omega) (hc.trans hzero)
            obtain ⟨rest, hplan⟩ := List.head?_eq_some_iff.1 hstep
            rw [hzero, List.take_zero, pack_nil, List.append_nil, hplan, List.tail_cons]
            exact sendEnd_zero hlt hplan
          · obtain ⟨c', rfl⟩ : ∃ c', c = c' + 1 := ⟨c - 1, by omega⟩
            dsimp only
            rw [← sentFrom_add]
            apply SendEnd.of_sent (Nat.succ_pos c')
            apply ih _ _ (by omega)
            simp only [sock_setSock, List.length_tail]
            omega
      · rw [if_neg (show ¬data.length - dataSent > 0 by omega)]
        exact sendEnd_done (by omega)

theorem sendEnd_sendAll (data : List UInt8) (fds : List Fd) (s : σ) :
    SendEnd data fds 0 s ((sendAll data fds).run s) := by
  simp only [sendAll, EStateM.run_bind, EStateM.run_get]
  apply sendEnd_sendAllLoop data fds _ 0 s (Nat.zero_le _)
  rw [os_retryBound]
  omega

/-- Where a chunked read of `total` bytes, `got` of them read, can end on a
socket whose kernel follows its plan.  It returns only once it has read what
was left of the total, the next bytes of the stream in order, keeping the
descriptors of the first read that brought bytes; it fails only with an error
other than `SocketRetry`, having read no more than what was left.  Only the
incoming stream, the plan and the descriptors installed change. -/
def RecvEnd (total : Nat) (got : List UInt8) (rfds : Option (List Fd)) (s : σ) :
    EStateM.Result Fault σ (List UInt8 × Option (List Fd)) → Prop
  | .ok (got', rfds') s' => total - got.length ≤ (sock s).rx.length ∧
      got' = got ++ bytes ((sock s).rx.take (total - got.length)) ∧
      (got.length < total → ∃ k, 0 < k ∧ k ≤ total - got.length ∧
        rfds' = if got.length = 0 then (sock s).readFds k else rfds) ∧
      (total ≤ got.length → rfds' = rfds) ∧
      ∃ plan' extra, s' = setSock s { sock s with rx := (sock s).rx.drop (total - got.length),
                                                  recvPlan := plan',
                                                  received := (sock s).received ++ extra } ∧
        ∃ pre, (sock s).recvPlan = pre ++ plan'
  | .error (.err e) s' => e.isSocketRetry = false ∧ ∃ n plan' extra, n ≤ total - got.length ∧
      s' = setSock s { sock s with rx := (sock s).rx.drop n, recvPlan := plan',
                                   received := (sock s).received ++ extra } ∧
      ∃ pre, (sock s).recvPlan = pre ++ plan'
  | .error _ _ => False

theorem recvEnd_done {total : Nat} {got : List UInt8} {rfds : Option (List Fd)} {s : σ}
    (hdone : got.length = total) : RecvEnd total got rfds s (.ok (got, rfds) s) := by
  refine ⟨by omega, by simp [hdone], fun hlt => absurd hlt (by omega), fun _ => rfl,
    (sock s).recvPlan, [], ?_, [], rfl⟩
  rw [hdone, Nat.sub_self, List.drop_zero, List.append_nil]
  exact (setSock_sock s).symm

/-- A read failed with an error other than `SocketRetry`, having taken `n`
cells, ends the read. -/
theorem recvEnd_fail {total : Nat} {got : List UInt8} {rfds : Option (List Fd)} {s : σ}
    {e : Error} (n : Nat) (extra : List Fd) (hretry : e.isSocketRetry = false)
    (hn : n ≤ total - got.length) :
    RecvEnd total got rfds s
      (.error (.err e) (setSock s { sock s with rx := (sock s).rx.drop n,
                                                recvPlan := (sock s).recvPlan.tail,
                                                received := (sock s).received ++ extra })) :=
  ⟨hretry, n, _, extra, hn, rfl, _, plan_eq_of_tail (List.nil_append _).symm⟩

/-- A read of the next `j > 0` bytes, then the rest of the read. -/
theorem RecvEnd.of_read {total : Nat} {got : List UInt8} {rfds : Option (List Fd)} {s : σ}
    {r : EStateM.Result Fault σ (List UInt8 × Option (List Fd))} {j : Nat} (hj : 0 < j)
    (hjle : j ≤ total - got.length) (hjrx : j ≤ (sock s).rx.length)
    (h : RecvEnd total (got ++ bytes ((sock s).rx.take j))
      (if got.length = 0 then (sock s).readFds j else rfds)
      (setSock s { sock s with rx := (sock s).rx.drop j, recvPlan := (sock s).recvPlan.tail,
                               received := (sock s).received ++
                                 (attached ((sock s).rx.take j)).take maxAttachedFdEntries }) r) :
    RecvEnd total got rfds s r := by
  have hlen : (got ++ bytes ((sock s).rx.take j)).length = got.length + j := by
    simp [Nat.min_eq_left hjrx]
  have hsplit : total - got.length = j + (total - (got.length + j)) := by omega
  have hleft : ¬total ≤ got.length := by omega
  rcases r with ⟨⟨got', rfds'⟩, s'⟩ | ⟨_ | _ | _ | _, s'⟩
  · obtain ⟨hrx, hgot', hfirst, hlast, plan', extra, hstate, pre, hpre⟩ := h
    simp only [sock_setSock, setSock_setSock, hlen, List.length_drop]
      at hrx hgot' hfirst hlast hstate hpre
    -- what this read kept is what the read as a whole keeps
    have hrfds : rfds' = if got.length = 0 then (sock s).readFds j else rfds := by
      by_cases hmore : got.length + j < total
      · obtain ⟨k, hk, -, hrfds'⟩ := hfirst hmore
        rw [hrfds', if_neg (by omega)]
      · exact hlast (by omega)
    have hwhole : total - got.length ≤ (sock s).rx.length := by
      calc total - got.length = j + (total - (got.length + j)) := hsplit
        _ ≤ j + ((sock s).rx.length - j) := Nat.add_le_add_left hrx j
        _ = (sock s).rx.length := Nat.add_sub_cancel' hjrx
    refine ⟨hwhole, ?_, fun _ => ⟨j, hj, hjle, hrfds⟩, fun hle => absurd hle hleft, plan',
      (attached ((sock s).rx.take j)).take maxAttachedFdEntries ++ extra, ?_,
      (sock s).recvPlan.take 1 ++ pre, plan_eq_of_tail hpre⟩
    · rw [hgot', hsplit, List.take_add, bytes_append, List.append_assoc]
    · rw [hstate, List.drop_drop, ← hsplit]
      simp [List.append_assoc]
  · obtain ⟨hretry, n, plan', extra, hn, hstate, pre, hpre⟩ := h
    simp only [sock_setSock, setSock_setSock, hlen] at hn hstate hpre
    refine ⟨hretry, j + n, plan', (attached ((sock s).rx.take j)).take maxAttachedFdEntries ++ extra,
      by omega, ?_, _, plan_eq_of_tail hpre⟩
    rw [hstate, List.drop_drop]
    simp [List.append_assoc]
  all_goals exact h.elim

/-- A read failed with `SocketRetry`, then the read made again. -/
theorem RecvEnd.of_retry {total : Nat} {got : List UInt8} {rfds : Option (List Fd)} {s : σ}
    {r : EStateM.Result Fault σ (List UInt8 × Option (List Fd))}
    (h : RecvEnd total got rfds (setSock s { sock s with recvPlan := (sock s).recvPlan.tail }) r) :
    RecvEnd total got rfds s r := by
  rcases r with ⟨⟨got', rfds'⟩, s'⟩ | ⟨_ | _ | _ | _, s'⟩
  · obtain ⟨hrx, hgot', hfirst, hlast, plan', extra, hstate, pre, hpre⟩ := h
    simp only [sock_setSock, setSock_setSock] at hrx hgot' hfirst hlast hstate hpre
    exact ⟨hrx, hgot', hfirst, hlast, plan', extra, by rw [hstate], _, plan_eq_of_tail hpre⟩
  · obtain ⟨hretry, n, plan', extra, hn, hstate, pre, hpre⟩ := h
    simp only [sock_setSock, setSock_setSock] at hstate hpre
    exact ⟨hretry, n, plan', extra, hn, by rw [hstate], _, plan_eq_of_tail hpre⟩
  all_goals exact h.elim

/-- `recvmsg` on a plan whose next step fails. -/
theorem run_result_rawRecvmsg_of_fail (s : σ) (want room : Nat) {errno : Int32}
    {rest : List SockStep} (hplan : (sock s).recvPlan = .fail errno :: rest) :
    (Prog.result (rawRecvmsg (σ := σ) want room)).run s =
      .ok (.error (Error.ofErrno errno)) (setSock s { sock s with recvPlan := rest }) := by
  simp [Prog.result, rawRecvmsg, os_recvmsg, Sock.recvmsg, hplan, Fault.error?]

/-- `recvmsg` on a plan whose next step lets it take `c` cells, or on a plan
used up. -/
theorem recvmsg_of_limit (o : Sock) (want room : Nat) {c : Nat}
    (hfail : ∀ errno, o.recvPlan.head? ≠ some (.fail errno))
    (hlimit : Sock.limitOf want o.recvPlan.head? = c) :
    Sock.recvmsg o want room =
      (.ok (bytes (o.rx.take c), (attached (o.rx.take c)).take room),
        { o with rx := o.rx.drop c, recvPlan := o.recvPlan.tail,
                 received := o.received ++ (attached (o.rx.take c)).take room }) := by
  rw [Sock.recvmsg]
  split
  · rename_i errno hhead
    exact absurd hhead (hfail errno)
  · rw [hlimit]

/-- A read from a stream that has run dry is the empty read, which
`raw_recvmsg` reports as a connection reset. -/
theorem run_result_rawRecvmsg_of_dry (s : σ) (want room : Nat) {c : Nat}
    (hfail : ∀ errno, (sock s).recvPlan.head? ≠ some (.fail errno))
    (hlimit : Sock.limitOf want (sock s).recvPlan.head? = c) (hdry : (sock s).rx.take c = []) :
    (Prog.result (rawRecvmsg (σ := σ) want room)).run s =
      .ok (.error (Error.ofErrno Errno.econnreset))
        (setSock s { sock s with rx := (sock s).rx.drop c, recvPlan := (sock s).recvPlan.tail,
                                 received := (sock s).received ++
                                   (attached ((sock s).rx.take c)).take room }) := by
  simp [Prog.result, rawRecvmsg, os_recvmsg, recvmsg_of_limit (sock s) want room hfail hlimit,
    hdry, Fault.error?]

theorem run_result_rawRecvmsg_of_cells (s : σ) (want room : Nat) {c : Nat}
    (hfail : ∀ errno, (sock s).recvPlan.head? ≠ some (.fail errno))
    (hlimit : Sock.limitOf want (sock s).recvPlan.head? = c) (hcells : (sock s).rx.take c ≠ []) :
    (Prog.result (rawRecvmsg (σ := σ) want room)).run s =
      .ok (.ok (bytes ((sock s).rx.take c), (attached ((sock s).rx.take c)).take room))
        (setSock s { sock s with rx := (sock s).rx.drop c, recvPlan := (sock s).recvPlan.tail,
                                 received := (sock s).received ++
                                   (attached ((sock s).rx.take c)).take room }) := by
  have hbytes : bytes ((sock s).rx.take c) ≠ [] := by
    rwa [← List.length_pos_iff, length_bytes, List.length_pos_iff]
  simp [Prog.result, rawRecvmsg, os_recvmsg, recvmsg_of_limit (sock s) want room hfail hlimit,
    hbytes]

/-- The flat read on a socket that follows its plan, given a round for every
byte left and every step of the plan: it returns, and ends as `RecvEnd` says. -/
theorem recvEnd_recvAllLoop (total fuel : Nat) (got : List UInt8) (rfds : Option (List Fd))
    (s : σ) (hgot : got.length ≤ total)
    (hfuel : total - got.length + (sock s).recvPlan.length < fuel) :
    RecvEnd total got rfds s ((recvAllLoop total fuel got rfds).run s) := by
  induction fuel generalizing got rfds s with
  | zero => omega
  | succ fuel ih =>
      rw [recvAllLoop]
      by_cases hlt : got.length < total
      · rw [if_pos (show total - got.length > 0 by omega), EStateM.run_bind]
        -- the read does what the plan's next step says
        by_cases hfail : ∃ errno rest, (sock s).recvPlan = .fail errno :: rest
        · obtain ⟨errno, rest, hplan⟩ := hfail
          rw [run_result_rawRecvmsg_of_fail s _ _ hplan]
          by_cases hretry : (Error.ofErrno errno).isSocketRetry
          · simp only [hretry, if_true]
            apply RecvEnd.of_retry
            rw [hplan, List.tail_cons]
            apply ih got rfds _ hgot
            simp only [sock_setSock]
            rw [hplan, List.length_cons] at hfuel
            omega
          · simp only [hretry, Bool.false_eq_true, if_false, EStateM.run_throw']
            convert recvEnd_fail 0 [] (by simpa using hretry) (Nat.zero_le _) using 3
            simp [hplan]
        · have hnofail := head?_ne_fail hfail
          obtain ⟨c, hc⟩ : ∃ c, Sock.limitOf (total - got.length) (sock s).recvPlan.head? = c :=
            ⟨_, rfl⟩
          have hle : c ≤ total - got.length := hc ▸ limitOf_le _ _
          by_cases hdry : (sock s).rx.take c = []
          · -- nothing to read: the peer has closed, or the step moves nothing
            rw [run_result_rawRecvmsg_of_dry s _ _ hnofail hc hdry]
            have hreset : (Error.ofErrno Errno.econnreset).isSocketRetry = false := by decide
            simp only [hreset, Bool.false_eq_true, if_false, EStateM.run_throw']
            exact recvEnd_fail c _ hreset hle
          · rw [run_result_rawRecvmsg_of_cells s _ _ hnofail hc hdry]
            -- the read brought the next `j` cells, all the stream held of the `c` allowed
            obtain ⟨j, hj⟩ : ∃ j, ((sock s).rx.take c).length = j := ⟨_, rfl⟩
            have htake : (sock s).rx.take c = (sock s).rx.take j := by rw [← hj, take_length_take]
            have hdrop : (sock s).rx.drop c = (sock s).rx.drop j := by rw [← hj, drop_length_take]
            have hjpos : 0 < j := by
              rw [← hj]
              exact List.length_pos_iff.2 hdry
            have hjrx : j ≤ (sock s).rx.length := by
              rw [← hj, List.length_take]
              exact Nat.min_le_right _ _
            have hjc : j ≤ c := by
              rw [← hj, List.length_take]
              exact Nat.min_le_left _ _
            have hbytes : bytes ((sock s).rx.take j) ≠ [] := by
              rwa [← List.length_pos_iff, length_bytes, List.length_take, Nat.min_eq_left hjrx]
            obtain ⟨b, bs, hbs⟩ := List.exists_cons_of_ne_nil hbytes
            rw [htake, hdrop, hbs]
            dsimp only
            rw [← hbs]
            apply RecvEnd.of_read hjpos (by omega) hjrx
            apply ih _ _ _ (by simp [Nat.min_eq_left hjrx]; omega)
            simp only [sock_setSock, List.length_append, length_bytes, List.length_take,
              Nat.min_eq_left hjrx, List.length_tail]
            omega
      · rw [if_neg (show ¬total - got.length > 0 by omega)]
        exact recvEnd_done (by omega)

theorem recvEnd_recvAll (total : Nat) (s : σ) :
    RecvEnd total [] none s ((recvAll total).run s) := by
  simp only [recvAll, EStateM.run_bind, EStateM.run_get]
  apply recvEnd_recvAllLoop total _ [] none s (Nat.zero_le _)
  rw [os_retryBound, List.length_nil]
  omega

end Planned

end Vhost.User
