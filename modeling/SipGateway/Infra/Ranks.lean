import Mathlib.Logic.Relation
import SipGateway.Infra.Locks

/-!
# Locks taken in the order of ranks

When every lock and every end of a thread has a rank, and a thread waits only for what ranks above
all it has (its own end included), then nobody waits for ever: along the waiting there is always a
thread that can go on (`leads_to_ready`). The ranks need to be checked on the programs only
(`Code.Ranked`).

A handler is a program that begins at whatever level the thread it interrupts has reached. If it
wants a lock that this thread has, the thread hangs for good (`Hung.moved`).
-/

namespace Infra

/-- The ranks of locks and of ends of threads. -/
structure Ranking (L T : Type) where
  lock : L → Nat
  thread : T → Nat
  bound : Nat
  lock_le : ∀ m, lock m ≤ bound
  thread_le : ∀ t, thread t ≤ bound

/-! ## Programs that follow the ranks -/

namespace Code

variable {L T : Type} (r : Ranking L T) {n n' : Nat}

/-- Every wait, begun with things up to rank `n`, is for something of a rank above all that the
thread then has. -/
def Ranked (n : Nat) : Code L T → Prop
  | skip => True
  | seq a b => a.Ranked n ∧ b.Ranked n
  | either a b => a.Ranked n ∧ b.Ranked n
  | any choices => ∀ i, (choices i).Ranked n
  | loop body => body.Ranked n
  | locked m body => n < r.lock m ∧ body.Ranked (r.lock m)
  | spawn _ => True
  | join t => n < r.thread t

variable {r}

@[simp] theorem ranked_skip : (skip : Code L T).Ranked r n := trivial

@[simp] theorem ranked_spawn (t : T) : (spawn t : Code L T).Ranked r n := trivial

@[simp] theorem ranked_seq {a b : Code L T} :
    (seq a b).Ranked r n ↔ a.Ranked r n ∧ b.Ranked r n :=
  Iff.rfl

@[simp] theorem ranked_either {a b : Code L T} :
    (either a b).Ranked r n ↔ a.Ranked r n ∧ b.Ranked r n :=
  Iff.rfl

@[simp] theorem ranked_any {choices : Nat → Code L T} :
    (any choices).Ranked r n ↔ ∀ i, (choices i).Ranked r n :=
  Iff.rfl

@[simp] theorem ranked_loop {body : Code L T} : (loop body).Ranked r n ↔ body.Ranked r n :=
  Iff.rfl

@[simp] theorem ranked_locked {m : L} {body : Code L T} :
    (locked m body).Ranked r n ↔ n < r.lock m ∧ body.Ranked r (r.lock m) :=
  Iff.rfl

@[simp] theorem ranked_join {t : T} : (join t : Code L T).Ranked r n ↔ n < r.thread t :=
  Iff.rfl

@[simp] theorem ranked_perhaps {c : Code L T} : (perhaps c).Ranked r n ↔ c.Ranked r n :=
  and_iff_left trivial

@[simp] theorem ranked_block {cs : List (Code L T)} :
    (block cs).Ranked r n ↔ ∀ c ∈ cs, c.Ranked r n := by
  induction cs with
  | nil => simp [block]
  | cons c cs ih => simp [block, ih]

theorem Ranked.unfolds {c : Code L T} {cs : List (Code L T)} (h : c.Ranked r n)
    (hc : c.Unfolds cs) : ∀ c' ∈ cs, c'.Ranked r n := by
  cases hc with
  | skip | enough | spawn | join => exact nofun
  | seq => simpa using h
  | first => simpa using h.1
  | second => simpa using h.2
  | any i => simpa using h i
  | again => simpa using h

/-- What may be done with much may be done with less. -/
theorem Ranked.mono {c : Code L T} (h : c.Ranked r n) (hle : n' ≤ n) : c.Ranked r n' := by
  induction c generalizing n n' with
  | skip => trivial
  | seq a b iha ihb => exact ⟨iha h.1 hle, ihb h.2 hle⟩
  | either a b iha ihb => exact ⟨iha h.1 hle, ihb h.2 hle⟩
  | any choices ih => exact fun i => ih i (h i) hle
  | loop body ih => exact ih h hle
  | locked m body => exact ⟨hle.trans_lt h.1, h.2⟩
  | spawn t => trivial
  | join t => exact hle.trans_lt h

end Code

namespace Ranking

variable {L T : Type} (r : Ranking L T)

/-- The highest rank that a thread has: its end, or the lock it took last. -/
def level (t : T) : List (Instr L T) → Nat
  | [] => r.thread t
  | .run _ :: rest => level t rest
  | .unlock m :: _ => r.lock m

/-- What a thread has to do follows the ranks. -/
def Follows (t : T) : List (Instr L T) → Prop
  | [] => True
  | .run c :: rest => c.Ranked r (r.level t rest) ∧ Follows t rest
  | .unlock m :: rest => r.level t rest < r.lock m ∧ Follows t rest

variable {r} {t : T} {m : L} {is : List (Instr L T)}

theorem Follows.thread_le (h : r.Follows t is) : r.thread t ≤ r.level t is := by
  induction is with
  | nil => exact le_refl _
  | cons i is ih =>
    cases i with
    | run c => exact ih h.2
    | unlock m => exact (ih h.2).trans h.1.le

theorem Follows.lock_le (h : r.Follows t is) (hm : .unlock m ∈ is) : r.lock m ≤ r.level t is := by
  induction is with
  | nil => cases hm
  | cons i is ih =>
    cases i with
    | run c =>
      rcases List.mem_cons.mp hm with he | hm
      · cases he
      · exact ih h.2 hm
    | unlock m' =>
      rcases List.mem_cons.mp hm with he | hm
      · cases he
        exact le_refl _
      · exact (ih h.2 hm).trans h.1.le

/-- The level is the rank of something the thread has. -/
theorem level_eq (r : Ranking L T) (t : T) (is : List (Instr L T)) :
    r.level t is = r.thread t ∨ ∃ m, .unlock m ∈ is ∧ r.level t is = r.lock m := by
  induction is with
  | nil => exact Or.inl rfl
  | cons i is ih =>
    cases i with
    | run c =>
      rcases ih with h | ⟨m, hm, h⟩
      · exact Or.inl h
      · exact Or.inr ⟨m, List.mem_cons_of_mem _ hm, h⟩
    | unlock m => exact Or.inr ⟨m, List.mem_cons_self, rfl⟩

theorem level_le_bound (r : Ranking L T) (t : T) (is : List (Instr L T)) :
    r.level t is ≤ r.bound := by
  rcases r.level_eq t is with h | ⟨m, -, h⟩ <;> rw [h]
  · exact r.thread_le t
  · exact r.lock_le m

theorem level_map_run (cs : List (Code L T)) (is : List (Instr L T)) :
    r.level t (cs.map .run ++ is) = r.level t is := by
  induction cs with
  | nil => rfl
  | cons c cs ih => exact ih

theorem follows_map_run {cs : List (Code L T)} (hcs : ∀ c ∈ cs, c.Ranked r (r.level t is))
    (h : r.Follows t is) : r.Follows t (cs.map .run ++ is) := by
  induction cs with
  | nil => exact h
  | cons c cs ih =>
    refine ⟨?_, ih fun c' hc' => hcs c' (List.mem_cons_of_mem _ hc')⟩
    have hc := hcs c List.mem_cons_self
    rwa [← level_map_run cs is] at hc

end Ranking

/-! ## Runs of such programs -/

namespace Locks

variable {L T : Type} [DecidableEq L] [DecidableEq T] {r : Ranking L T} {P : Programs L T}
  {s s' : Locks L T} {e : Move T} {t u main : T}

/-- An interrupt comes only to a thread at whose level the handler may be run. -/
def HandlerRanked (r : Ranking L T) (P : Programs L T) (s : Locks L T) (e : Move T) : Prop :=
  ∀ t, e = .interrupt t → P.handler.Ranked r (r.level t (s.todo t))

/-- A move keeps to the ranks when all programs do. -/
theorem follows_moved (hP : ∀ t, (P.program t).Ranked r (r.thread t))
    (h : ∀ t, r.Follows t (s.todo t)) (hmoved : Moved P s e s') (hc : HandlerRanked r P s e) :
    ∀ t, r.Follows t (s'.todo t) := by
  -- one thread has something else to do
  have hset : ∀ {s : Locks L T} {t : T} {is : List (Instr L T)},
      (∀ u, r.Follows u (s.todo u)) → r.Follows t is → ∀ u, r.Follows u ((s.set t is).todo u) := by
    intro s t is h his u
    show r.Follows u (Function.update s.todo t is u)
    rcases eq_or_ne u t with rfl | hne
    · rwa [Function.update_self]
    · rw [Function.update_of_ne hne]
      exact h u
  cases hmoved with
  | @unlocked t _ _ m rest hdo =>
    have hold := h t
    rw [hdo] at hold
    exact hset h hold.2
  | @locked t _ _ m body rest hdo hfree =>
    have hold := h t
    rw [hdo] at hold
    exact hset h ⟨hold.1.2, hold.1.1, hold.2⟩
  | @unfolded t _ _ c cs rest hdo hcs =>
    have hold := h t
    rw [hdo] at hold
    exact hset h (Ranking.follows_map_run (hold.1.unfolds hcs) hold.2)
  | @spawned t u _ _ rest hdo hu =>
    have hold := h t
    rw [hdo] at hold
    exact hset (hset h hold.2) ⟨hP u, trivial⟩
  | @interrupted t ht => exact hset h ⟨hc t rfl, h t⟩

/-- **Ranked programs keep to the ranks** in all runs in which interrupts come where they may. -/
theorem follows_of_reach (hP : ∀ t, (P.program t).Ranked r (r.thread t))
    {cond : Locks L T → Move T → Prop}
    (hcond : ∀ s e, s.Sound → cond s e → HandlerRanked r P s e)
    (hs : (machine P main).Reach cond s) : ∀ t, r.Follows t (s.todo t) := by
  refine hs.invariant (P := fun s => ∀ t, r.Follows t (s.todo t)) ?_ ?_
  · rintro s rfl t
    unfold Locks.start
    dsimp only
    split
    · next ht =>
      subst ht
      exact ⟨hP t, trivial⟩
    · trivial
  · intro s e s' hs h hen hc hstep
    cases hstep
    exact follows_moved hP h (next_moved hen) (hcond s e (sound_of_reach hs) hc)

omit [DecidableEq L] [DecidableEq T] in
/-- What a waiting thread waits for ranks above all it has, and the thread waited for has it. -/
theorem level_lt_of_waits (hsound : s.Sound) (h : ∀ t, r.Follows t (s.todo t))
    (hw : s.Waits t u) :
    s.todo u ≠ [] ∧ r.level t (s.todo t) < r.level u (s.todo u) := by
  have hfollows := h t
  cases hw with
  | lock hdo howner =>
    rw [hdo] at hfollows ⊢
    have hmem := (hsound.owned _ u).mp howner
    exact ⟨List.ne_nil_of_mem hmem, hfollows.1.1.trans_le ((h u).lock_le hmem)⟩
  | join hdo halive =>
    rw [hdo] at hfollows ⊢
    exact ⟨halive, LT.lt.trans_le hfollows.1 (h u).thread_le⟩

omit [DecidableEq L] [DecidableEq T] in
theorem level_lt_of_transGen (hsound : s.Sound) (h : ∀ t, r.Follows t (s.todo t))
    (hw : Relation.TransGen s.Waits t u) : r.level t (s.todo t) < r.level u (s.todo u) := by
  induction hw with
  | single hw => exact (level_lt_of_waits hsound h hw).2
  | tail _ hw ih => exact ih.trans (level_lt_of_waits hsound h hw).2

omit [DecidableEq L] [DecidableEq T] in
/-- **Along the waiting there is a thread that can go on.** -/
theorem leads_to_ready (hsound : s.Sound) (h : ∀ t, r.Follows t (s.todo t))
    (ht : s.todo t ≠ []) : ∃ u, Relation.ReflTransGen s.Waits t u ∧ s.Ready u := by
  -- the level rises along the waiting, up to the bound
  induction hk : r.bound - r.level t (s.todo t) using Nat.strong_induction_on generalizing t with
  | h k ih =>
    rcases ready_or_waits ht with hready | ⟨u, hw⟩
    · exact ⟨t, .refl, hready⟩
    · obtain ⟨hu, hlevel⟩ := level_lt_of_waits hsound h hw
      have hbound := r.level_le_bound u (s.todo u)
      obtain ⟨v, hreach, hready⟩ := ih _ (by omega) hu rfl
      exact ⟨v, .head hw hreach, hready⟩

end Locks

/-! ## A handler that wants what the thread has -/

/-- The first thing that can be waited for is this lock. -/
def Code.TakesFirst {L T : Type} (m : L) : Code L T → Prop
  | .seq a _ => a.TakesFirst m
  | .locked m' _ => m' = m
  | _ => False

namespace Locks

variable {L T : Type} [DecidableEq L] [DecidableEq T] {P : Programs L T} {s s' : Locks L T}
  {e : Move T} {t : T} {m : L}

/-- The thread wants next a lock that it has. -/
structure Hung (s : Locks L T) (t : T) (m : L) : Prop where
  wants : ∃ c rest, s.todo t = .run c :: rest ∧ c.TakesFirst m
  has : s.owner m = some t

/-- **A thread that hangs does so for ever.** -/
theorem Hung.moved (h : s.Hung t m) (hsound : s.Sound) (hhandler : P.handler.TakesFirst m)
    (hmoved : Moved P s e s') : s'.Hung t m := by
  obtain ⟨⟨c, rest, hdo, hc⟩, howner⟩ := h
  -- the other threads do not touch what it has to do
  have hkeep : ∀ {u : T} {is : List (Instr L T)}, t ≠ u → (s.set u is).todo t = .run c :: rest :=
    fun hne => (Function.update_of_ne hne _ _).trans hdo
  cases hmoved with
  | @unlocked u _ _ m' rest' hdo' =>
    have hne : t ≠ u := by
      rintro rfl
      rw [hdo] at hdo'
      cases hdo'
    refine ⟨⟨c, rest, hkeep hne, hc⟩, ?_⟩
    have howner' : s.owner m' = some u := (hsound.owned m' u).mpr (hdo' ▸ List.mem_cons_self)
    have hm : m ≠ m' := by
      rintro rfl
      rw [howner] at howner'
      exact hne (Option.some.inj howner')
    exact (Function.update_of_ne hm _ _).trans howner
  | @locked u _ _ m' body rest' hdo' hfree =>
    have hm : m ≠ m' := by
      rintro rfl
      rw [howner] at hfree
      cases hfree
    have hne : t ≠ u := by
      rintro rfl
      rw [hdo] at hdo'
      cases hdo'
      exact hm hc.symm
    exact ⟨⟨c, rest, hkeep hne, hc⟩, (Function.update_of_ne hm _ _).trans howner⟩
  | @unfolded u _ _ c' cs rest' hdo' hcs =>
    rcases eq_or_ne t u with rfl | hne
    · rw [hdo] at hdo'
      cases hdo'
      cases hcs with
      | seq => exact ⟨⟨_, _, Function.update_self .., hc⟩, howner⟩
      | _ => exact hc.elim
    · exact ⟨⟨c, rest, hkeep hne, hc⟩, howner⟩
  | @spawned u v _ _ rest' hdo' hv =>
    have hne : t ≠ u := by
      rintro rfl
      rw [hdo] at hdo'
      cases hdo'
      exact hc
    have hne' : t ≠ v := by
      rintro rfl
      rw [hdo] at hv
      cases hv
    exact ⟨⟨c, rest, (Function.update_of_ne hne' _ _).trans (hkeep hne), hc⟩, howner⟩
  | @interrupted u hu =>
    rcases eq_or_ne t u with rfl | hne
    · exact ⟨⟨_, _, Function.update_self .., hhandler⟩, howner⟩
    · exact ⟨⟨c, rest, hkeep hne, hc⟩, howner⟩

theorem Hung.replay {main : T} (h : s.Hung t m) (hsound : s.Sound)
    (hhandler : P.handler.TakesFirst m) {events : List (Move T)}
    (hrun : (machine P main).replay s events = some s') : s'.Hung t m := by
  induction events generalizing s with
  | nil =>
    rw [Machine.replay, Option.some.injEq] at hrun
    exact hrun ▸ h
  | cons e es ih =>
    rw [Machine.replay] at hrun
    split at hrun
    · next hen =>
      have hmoved : Moved P s e (s.next P e) := next_moved hen
      exact ih (h.moved hsound hhandler hmoved) (hsound.moved hmoved) hrun
    · cases hrun

end Locks

end Infra
