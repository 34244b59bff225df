import Mathlib.Tactic

/-!
# Machines and their runs

A machine takes events one at a time. `enabled` says which events the outside world can offer
in a state, `step` what the machine makes of one; `step` gives `none` when the machine dies
of the event (an uncaught exception), so a dead machine has no further states.

`Reach M cond s` is "some run of `M` whose steps all satisfy `cond` ends in `s`".
With `cond` true everywhere these are the reachable states.
-/

namespace Infra

/-- A machine with states `σ` and events `ε`. -/
structure Machine (σ ε : Type) where
  init : σ → Prop
  enabled : σ → ε → Prop
  step : σ → ε → Option σ

namespace Machine

variable {σ ε : Type} {M : Machine σ ε} {cond cond' : σ → ε → Prop} {s s' : σ} {e : ε}

/-- The states at the end of a run all of whose steps satisfy `cond`. -/
inductive Reach (M : Machine σ ε) (cond : σ → ε → Prop) : σ → Prop where
  | init {s : σ} (h : M.init s) : Reach M cond s
  | step {s s' : σ} {e : ε} (hs : Reach M cond s) (hen : M.enabled s e) (hc : cond s e)
      (h : M.step s e = some s') : Reach M cond s'

/-- The states of all runs. -/
def Reachable (M : Machine σ ε) : σ → Prop := Reach M fun _ _ => True

theorem Reachable.init (h : M.init s) : M.Reachable s := Reach.init h

theorem Reachable.next (hs : M.Reachable s) (hen : M.enabled s e) (h : M.step s e = some s') :
    M.Reachable s' :=
  Reach.step hs hen trivial h

/-- Fewer steps satisfy a stronger condition. -/
theorem Reach.mono (hcc : ∀ s e, cond s e → cond' s e) (h : Reach M cond s) :
    Reach M cond' s := by
  induction h with
  | init h => exact Reach.init h
  | step _ hen hc h ih => exact Reach.step ih hen (hcc _ _ hc) h

theorem Reach.reachable (h : Reach M cond s) : M.Reachable s :=
  h.mono fun _ _ _ => trivial

/--
**The invariant rule.**

What holds initially and is kept by every step that satisfies the condition holds at the end of
every run that satisfies it. The step may use that its first state is reachable.
-/
theorem Reach.invariant {P : σ → Prop} (hinit : ∀ s, M.init s → P s)
    (hstep : ∀ s e s', Reach M cond s → P s → M.enabled s e → cond s e →
      M.step s e = some s' → P s')
    (h : Reach M cond s) : P s := by
  induction h with
  | init h => exact hinit _ h
  | step hs hen hc h ih => exact hstep _ _ _ hs ih hen hc h

/-- The machine whose runs satisfy `cond` at every step. -/
def restrict (M : Machine σ ε) (cond : σ → ε → Prop) : Machine σ ε where
  init := M.init
  enabled s e := M.enabled s e ∧ cond s e
  step := M.step

theorem Reachable.of_restrict (h : (M.restrict cond).Reachable s) : M.Reach cond s := by
  induction h with
  | init h => exact Reach.init h
  | step _ hen _ h ih => exact Reach.step ih hen.1 hen.2 h

/-- The machine, from some state on. -/
def resumeAt (M : Machine σ ε) (s : σ) : Machine σ ε where
  init t := t = s
  enabled := M.enabled
  step := M.step

/-! ## Replaying a run -/

/-- Takes the events one after the other; `none` when one of them cannot happen or kills. -/
def replay (M : Machine σ ε) [∀ s e, Decidable (M.enabled s e)] : σ → List ε → Option σ
  | s, [] => some s
  | s, e :: es => if M.enabled s e then (M.step s e).bind fun s' => M.replay s' es else none

/-- A replay that comes through, of events that satisfy the condition in any state, is a run. -/
theorem replay_reach [∀ s e, Decidable (M.enabled s e)] (es : List ε) {s s' : σ}
    (hc : ∀ e ∈ es, ∀ t, cond t e) (hs : Reach M cond s) (h : M.replay s es = some s') :
    Reach M cond s' := by
  induction es generalizing s with
  | nil =>
    rw [replay, Option.some.injEq] at h
    exact h ▸ hs
  | cons e es ih =>
    rw [replay] at h
    split at h
    · next hen =>
      obtain ⟨t, ht, hrest⟩ := Option.bind_eq_some_iff.mp h
      have hnext : Reach M cond t := hs.step hen (hc e List.mem_cons_self s) ht
      refine ih ?_ hnext hrest
      intro e' he'
      exact hc e' (List.mem_cons_of_mem _ he')
    · cases h

instance [∀ s e, Decidable (M.enabled s e)] [∀ s e, Decidable (cond s e)] (s : σ) (e : ε) :
    Decidable ((M.restrict cond).enabled s e) :=
  inferInstanceAs (Decidable (M.enabled s e ∧ cond s e))

/-- A run whose steps satisfy a condition on the states they start in, found by a replay. -/
theorem exists_reach [∀ s e, Decidable (M.enabled s e)] (cond : σ → ε → Prop)
    [∀ s e, Decidable (cond s e)] (hs : M.init s) {es : List ε} {p : σ → Bool}
    (h : ((M.restrict cond).replay s es).any p = true) : ∃ t, M.Reach cond t ∧ p t = true := by
  cases ht : (M.restrict cond).replay s es with
  | none => rw [ht] at h; cases h
  | some t =>
    rw [ht] at h
    have hreach : (M.restrict cond).Reachable t :=
      replay_reach es (fun _ _ _ => trivial) (Reach.init hs) ht
    exact ⟨t, hreach.of_restrict, h⟩

/-! ## Invariants of all runs -/

/-- The invariant rule for the states of all runs. -/
theorem Reachable.invariant {P : σ → Prop} (hinit : ∀ s, M.init s → P s)
    (hstep : ∀ s e s', M.Reachable s → P s → M.enabled s e → M.step s e = some s' → P s')
    (h : M.Reachable s) : P s :=
  Reach.invariant hinit (fun s e s' hs hP hen _ => hstep s e s' hs hP hen) h

end Machine

end Infra
