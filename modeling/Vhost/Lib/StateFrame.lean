import Mathlib

/-!
# Frame conditions for state-and-exception programs

A program in `EStateM ε σ` ends in a result that carries the final state on the
normal and on the exceptional path alike.  `Keeps f x` says that `x` leaves the
view `f` of the state where it found it, on every path.  The predicate is closed
under the monad's operations, so a frame fact about a long program is assembled
from facts about its parts instead of by running through its branches.

`attempt` hands selected exceptions back as values, which is how a caller that
matches on a returned error, rather than propagating it, is written.

Where a program moves the state from one property to another, as a request
does that leaves a reply owed, `Triple` states it with a pre- and a
postcondition, and an exceptional postcondition for the runs that raise.
-/

namespace EStateM

variable {ε σ α β κ : Type}

/-- The state a run ends in, whether it returned or raised. -/
def Result.state : Result ε σ α → σ
  | .ok _ s => s
  | .error _ s => s

@[simp]
theorem Result.state_ok (a : α) (s : σ) : (Result.ok a s : Result ε σ α).state = s := rfl

@[simp]
theorem Result.state_error (e : ε) (s : σ) :
    (Result.error e s : Result ε σ α).state = s := rfl

/-- The exception a run raised, if it raised. -/
def Result.error? : Result ε σ α → Option ε
  | .ok _ _ => none
  | .error e _ => some e

/-- Run `x`, handing back as a value each exception that `select` picks out;
the others propagate.  Nothing is rolled back. -/
def attempt (select : ε → Option κ) (x : EStateM ε σ α) : EStateM ε σ (Except κ α) :=
  fun s =>
    match x s with
    | .ok a s' => .ok (.ok a) s'
    | .error e s' =>
        match select e with
        | some k => .ok (.error k) s'
        | none => .error e s'

@[simp]
theorem run_attempt (select : ε → Option κ) (x : EStateM ε σ α) (s : σ) :
    (attempt select x).run s =
      match x.run s with
      | .ok a s' => .ok (.ok a) s'
      | .error e s' =>
          match select e with
          | some k => .ok (.error k) s'
          | none => .error e s' := rfl

@[simp]
theorem run_throw' (e : ε) (s : σ) :
    (throw e : EStateM ε σ α).run s = .error e s := rfl

theorem state_run_attempt (select : ε → Option κ) (x : EStateM ε σ α) (s : σ) :
    ((attempt select x).run s).state = (x.run s).state := by
  simp only [run_attempt]
  cases x.run s with
  | ok a s' => rfl
  | error e s' =>
      dsimp only
      split <;> rfl

/-- `x` leaves the view `f` of the state as it found it, on every path. -/
def Keeps (f : σ → κ) (x : EStateM ε σ α) : Prop :=
  ∀ s, f (x.run s).state = f s

namespace Keeps

variable {f : σ → κ}

theorem pure (a : α) : Keeps f (Pure.pure a : EStateM ε σ α) := fun _ => rfl

theorem throw (e : ε) : Keeps f (MonadExcept.throw e : EStateM ε σ α) := fun _ => rfl

/-- Whatever would follow a raise never runs. -/
theorem throw_bind (e : ε) (g : α → EStateM ε σ β) :
    Keeps f (MonadExcept.throw e >>= g : EStateM ε σ β) := fun _ => rfl

theorem get : Keeps f (MonadState.get : EStateM ε σ σ) := fun _ => rfl

theorem modify {g : σ → σ} (hg : ∀ s, f (g s) = f s) :
    Keeps f (MonadState.modifyGet (fun s => (PUnit.unit, g s)) : EStateM ε σ PUnit) :=
  fun s => hg s

theorem modifyGet {g : σ → α × σ} (hg : ∀ s, f (g s).2 = f s) :
    Keeps f (MonadState.modifyGet g : EStateM ε σ α) :=
  fun s => hg s

theorem bind {x : EStateM ε σ α} {g : α → EStateM ε σ β} (hx : Keeps f x)
    (hg : ∀ a, Keeps f (g a)) : Keeps f (x >>= g) := by
  intro s
  rw [run_bind]
  cases hrun : x.run s with
  | ok a s' =>
      have hmid := hx s
      rw [hrun] at hmid
      simp only
      rw [hg a s']
      exact hmid
  | error e s' =>
      have hmid := hx s
      rw [hrun] at hmid
      exact hmid

/-- After a prefix that returned, a rest that keeps the view leaves it as the
prefix did. -/
theorem state_run_bind {x : EStateM ε σ α} {g : α → EStateM ε σ β} {s s' : σ} {a : α}
    (hx : x.run s = .ok a s') (hg : Keeps f (g a)) : f ((x >>= g).run s).state = f s' := by
  rw [run_bind, hx]
  exact hg s'

theorem attempt {ι : Type} {x : EStateM ε σ α} (hx : Keeps f x) (select : ε → Option ι) :
    Keeps f (EStateM.attempt select x) := by
  intro s
  rw [state_run_attempt]
  exact hx s

theorem ite {c : Prop} [Decidable c] {x y : EStateM ε σ α} (hx : Keeps f x) (hy : Keeps f y) :
    Keeps f (if c then x else y) := by
  split
  · exact hx
  · exact hy

end Keeps

/-- `x` takes every state with the property `I` to one with it, on every path.
It is the step property of an invariant that is not a view left alone: the
program may change the state, as long as the property survives. -/
def Preserves (I : σ → Prop) (x : EStateM ε σ α) : Prop :=
  ∀ s, I s → I (x.run s).state

namespace Preserves

variable {I : σ → Prop}

theorem pure (a : α) : Preserves I (Pure.pure a : EStateM ε σ α) := fun _ hs => hs

theorem throw (e : ε) : Preserves I (MonadExcept.throw e : EStateM ε σ α) := fun _ hs => hs

theorem throw_bind (e : ε) (g : α → EStateM ε σ β) :
    Preserves I (MonadExcept.throw e >>= g : EStateM ε σ β) := fun _ hs => hs

theorem get : Preserves I (MonadState.get : EStateM ε σ σ) := fun _ hs => hs

theorem modifyGet {g : σ → α × σ} (hg : ∀ s, I s → I (g s).2) :
    Preserves I (MonadState.modifyGet g : EStateM ε σ α) :=
  hg

theorem modify {g : σ → σ} (hg : ∀ s, I s → I (g s)) :
    Preserves I (MonadState.modifyGet (fun s => (PUnit.unit, g s)) : EStateM ε σ PUnit) :=
  hg

theorem bind {x : EStateM ε σ α} {g : α → EStateM ε σ β} (hx : Preserves I x)
    (hg : ∀ a, Preserves I (g a)) : Preserves I (x >>= g) := by
  intro s hs
  have hmid := hx s hs
  rw [run_bind]
  cases hrun : x.run s with
  | ok a s' =>
      rw [hrun] at hmid
      exact hg a s' hmid
  | error e s' =>
      rw [hrun] at hmid
      exact hmid

/-- A sequence whose second part may use what the first returns, when every
return of the first has the property `R`. -/
theorem bind_of {x : EStateM ε σ α} {g : α → EStateM ε σ β} {R : α → Prop} (hx : Preserves I x)
    (hret : ∀ s a s', x.run s = .ok a s' → R a) (hg : ∀ a, R a → Preserves I (g a)) :
    Preserves I (x >>= g) := by
  intro s hs
  have hmid := hx s hs
  rw [run_bind]
  cases hrun : x.run s with
  | ok a s' =>
      rw [hrun] at hmid
      exact hg a (hret s a s' hrun) s' hmid
  | error e s' =>
      rw [hrun] at hmid
      exact hmid

theorem attempt {ι : Type} {x : EStateM ε σ α} (hx : Preserves I x) (select : ε → Option ι) :
    Preserves I (EStateM.attempt select x) := by
  intro s hs
  rw [state_run_attempt]
  exact hx s hs

theorem ite {c : Prop} [Decidable c] {x y : EStateM ε σ α} (hx : Preserves I x)
    (hy : Preserves I y) : Preserves I (if c then x else y) := by
  split
  · exact hx
  · exact hy

/-- A program that reads the state first may use the property of what it read. -/
theorem get_bind_of {g : σ → EStateM ε σ β} (hg : ∀ s, I s → Preserves I (g s)) :
    Preserves I (MonadState.get >>= g : EStateM ε σ β) :=
  fun s hs => hg s hs s hs

/-- A branch whose sides each preserve the property knowing which side was
taken: the form of a guard that throws, followed by the rest of the program. -/
theorem ite_of {c : Prop} [Decidable c] {x y : EStateM ε σ α} (hx : c → Preserves I x)
    (hy : ¬c → Preserves I y) : Preserves I (if c then x else y) := by
  by_cases hc : c
  · rw [if_pos hc]
    exact hx hc
  · rw [if_neg hc]
    exact hy hc

/-- A program that leaves a view alone preserves every property of the state
that the view decides. -/
theorem of_keeps {f : σ → κ} {x : EStateM ε σ α} (hx : Keeps f x)
    (hI : ∀ s s', f s' = f s → I s → I s') : Preserves I x :=
  fun s hs => hI s _ (hx s) hs

/-- A program that leaves the whole state alone preserves every property. -/
theorem of_keeps_id {x : EStateM ε σ α} (hx : Keeps id x) : Preserves I x :=
  of_keeps hx fun s s' hsame hs => by
    rw [show s' = s from hsame]
    exact hs

end Preserves

/-- A view is left alone when each of its values is preserved. -/
theorem Keeps.of_preserves {f : σ → κ} {x : EStateM ε σ α}
    (hx : ∀ v, Preserves (fun s => f s = v) x) : Keeps f x :=
  fun s => hx (f s) s rfl

/-- `x` is atomic for the view `f` and keeps the property `P` of it: a run that
raises leaves `f` as it found it, and every run takes a state whose view
satisfies `P` to one whose view does.  It is the step property of a machine
whose failed steps change nothing an invariant speaks of. -/
structure Guarded (f : σ → κ) (P : κ → Prop) (x : EStateM ε σ α) : Prop where
  onError : ∀ s e s', x.run s = .error e s' → f s' = f s
  preserves : ∀ s, P (f s) → P (f (x.run s).state)

namespace Guarded

variable {f : σ → κ} {P : κ → Prop}

theorem of_keeps {x : EStateM ε σ α} (hx : Keeps f x) : Guarded f P x where
  onError s e s' hrun := by
    have hkeep := hx s
    rw [hrun] at hkeep
    exact hkeep
  preserves s hs := by
    rw [hx s]
    exact hs

/-- A program that always returns, in a state whose view satisfies `P`. -/
theorem of_returns {x : EStateM ε σ α} (hx : ∀ s, ∃ a s', x.run s = .ok a s' ∧ P (f s')) :
    Guarded f P x where
  onError s e s' hrun := by
    obtain ⟨a, s'', hok, -⟩ := hx s
    rw [hok] at hrun
    cases hrun
  preserves s _ := by
    obtain ⟨a, s', hok, hP⟩ := hx s
    rw [hok]
    exact hP

/-- A prefix that keeps the view, then a guarded rest. -/
theorem bind {x : EStateM ε σ α} {g : α → EStateM ε σ β} (hx : Keeps f x)
    (hg : ∀ a, Guarded f P (g a)) : Guarded f P (x >>= g) where
  onError s e s' hrun := by
    rw [run_bind] at hrun
    have hkeep := hx s
    cases hx' : x.run s with
    | ok a s₁ =>
        rw [hx'] at hrun hkeep
        rw [(hg a).onError s₁ e s' hrun]
        exact hkeep
    | error e₁ s₁ =>
        rw [hx'] at hrun hkeep
        cases hrun
        exact hkeep
  preserves s hs := by
    rw [run_bind]
    have hkeep := hx s
    cases hx' : x.run s with
    | ok a s₁ =>
        rw [hx'] at hkeep
        exact (hg a).preserves s₁ (hkeep ▸ hs)
    | error e₁ s₁ =>
        rw [hx'] at hkeep
        exact hkeep ▸ hs

end Guarded

/-! ## Pre- and postconditions -/

/-- Run from a state with `P`, `x` ends in a state with `Q a` when it returns
`a`, and in one with `E` when it raises an exception that `stop` does not name.
An exception that `stop` names ends the run, and nothing is asked of its state:
it is how a thread that panics or blocks for ever is left out. -/
def Triple (stop : ε → Prop) (P : σ → Prop) (x : EStateM ε σ α) (Q : α → σ → Prop)
    (E : σ → Prop) : Prop :=
  ∀ s, P s → match x.run s with
    | .ok a s' => Q a s'
    | .error e s' => stop e ∨ E s'

namespace Triple

variable {stop : ε → Prop} {P P' : σ → Prop} {Q Q' : α → σ → Prop} {E E' : σ → Prop}

theorem pure {a : α} (h : ∀ s, P s → Q a s) : Triple stop P (Pure.pure a) Q E := h

theorem throw {e : ε} (h : ∀ s, P s → stop e ∨ E s) :
    Triple stop P (MonadExcept.throw e : EStateM ε σ α) Q E := h

theorem throw_bind {e : ε} {g : α → EStateM ε σ β} {R : β → σ → Prop}
    (h : ∀ s, P s → stop e ∨ E s) : Triple stop P (MonadExcept.throw e >>= g) R E := h

theorem bind {x : EStateM ε σ α} {g : α → EStateM ε σ β} {R : β → σ → Prop}
    (hx : Triple stop P x Q E) (hg : ∀ a, Triple stop (Q a) (g a) R E) :
    Triple stop P (x >>= g) R E := by
  intro s hs
  have hmid := hx s hs
  rw [run_bind]
  cases hrun : x.run s with
  | ok a s' =>
      rw [hrun] at hmid
      exact hg a s' hmid
  | error e s' =>
      rw [hrun] at hmid
      exact hmid

/-- A first step whose value is known in advance: the rest is followed from that
value only. -/
theorem bind_of_eq {x : EStateM ε σ α} {g : α → EStateM ε σ β} {R : β → σ → Prop} {a₀ : α}
    {P' : σ → Prop} (hx : Triple stop P x (fun a s => a = a₀ ∧ P' s) E)
    (hg : Triple stop P' (g a₀) R E) : Triple stop P (x >>= g) R E :=
  hx.bind fun _ s hs => by
    obtain ⟨rfl, hs⟩ := hs
    exact hg s hs

theorem consequence {x : EStateM ε σ α} (hx : Triple stop P x Q E) (hP : ∀ s, P' s → P s)
    (hQ : ∀ a s, Q a s → Q' a s) (hE : ∀ s, E s → E' s) : Triple stop P' x Q' E' := by
  intro s hs
  have hpost := hx s (hP s hs)
  cases hrun : x.run s with
  | ok a s' =>
      rw [hrun] at hpost
      exact hQ a s' hpost
  | error e s' =>
      rw [hrun] at hpost
      exact hpost.imp_right (hE s')

theorem ite {c : Prop} [Decidable c] {x y : EStateM ε σ α} (hx : c → Triple stop P x Q E)
    (hy : ¬c → Triple stop P y Q E) : Triple stop P (if c then x else y) Q E := by
  by_cases hc : c
  · rw [if_pos hc]
    exact hx hc
  · rw [if_neg hc]
    exact hy hc

/-- An invariant kept on every path is a triple with it on both sides. -/
theorem of_preserves {I : σ → Prop} {x : EStateM ε σ α} (hx : Preserves I x) :
    Triple stop I x (fun _ => I) I := by
  intro s hs
  have hpost := hx s hs
  cases hrun : x.run s with
  | ok a s' =>
      rw [hrun] at hpost
      exact hpost
  | error e s' =>
      rw [hrun] at hpost
      exact .inr hpost

/-- Exceptions handed back as values end in the state the run raised them in;
an exception that stops the run is never one of them. -/
theorem attempt {κ : Type} {I : σ → Prop} {x : EStateM ε σ α} (select : ε → Option κ)
    (hsel : ∀ e, stop e → select e = none) (hx : Triple stop P x (fun _ => I) I) :
    Triple stop P (EStateM.attempt select x) (fun _ => I) I := by
  intro s hs
  have hpost := hx s hs
  rw [run_attempt]
  cases hrun : x.run s with
  | ok a s' =>
      rw [hrun] at hpost
      exact hpost
  | error e s' =>
      rw [hrun] at hpost
      dsimp only
      cases hk : select e with
      | none => exact hpost
      | some k => exact hpost.resolve_left fun hstop => by rw [hsel e hstop] at hk; cases hk

/-- A triple whose two postconditions agree holds of the state a run ends in,
whichever way it ends, when no exception that `stop` names ends it. -/
theorem run_state_of_not_stop {I : σ → Prop} {x : EStateM ε σ α}
    (hx : Triple stop P x (fun _ => I) I) {s : σ} (hs : P s)
    (hnot : ∀ e s', x.run s = .error e s' → ¬stop e) : I (x.run s).state := by
  have hpost := hx s hs
  cases hrun : x.run s with
  | ok a s' =>
      rw [hrun] at hpost
      exact hpost
  | error e s' =>
      rw [hrun] at hpost
      exact hpost.resolve_left (hnot e s' hrun)

/-- With no exception stopping it, the same holds of every run. -/
theorem run_state {I : σ → Prop} {x : EStateM ε σ α}
    (hx : Triple (fun _ => False) P x (fun _ => I) I) {s : σ} (hs : P s) : I (x.run s).state :=
  hx.run_state_of_not_stop hs fun _ _ _ => id

end Triple

end EStateM
