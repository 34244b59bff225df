import SipGateway.Infra.Machine

/-!
# Threads and locks

Threads that take locks for the length of a block, start threads and wait for their ends, with an
interrupt handler that any of them may have to run. What a branch depends on is left open, so
a program has all the runs it could have whatever the data are.

The owner of a lock is the thread that has it to give back (`sound_of_reach`).
-/

namespace Infra

/-- What a thread does, as far as threads can be made to wait by it. -/
inductive Code (L T : Type) where
  | skip
  | seq (a b : Code L T)
  | either (a b : Code L T)
  /-- one of a family, such as the same function for any object -/
  | any (choices : Nat → Code L T)
  /-- any number of times -/
  | loop (body : Code L T)
  /-- the body with the lock, which goes at the end of the block -/
  | locked (m : L) (body : Code L T)
  /-- starts a thread that is not running -/
  | spawn (t : T)
  /-- waits for the end of a thread -/
  | join (t : T)

namespace Code

variable {L T : Type}

/-- One after the other. -/
def block : List (Code L T) → Code L T
  | [] => skip
  | c :: cs => seq c (block cs)

/-- An `if` without `else`. -/
def perhaps (c : Code L T) : Code L T := either c skip

/-- What code without a lock becomes when it is begun. -/
inductive Unfolds : Code L T → List (Code L T) → Prop where
  | skip : Unfolds skip []
  | seq {a b : Code L T} : Unfolds (seq a b) [a, b]
  | first {a b : Code L T} : Unfolds (either a b) [a]
  | second {a b : Code L T} : Unfolds (either a b) [b]
  | any {choices : Nat → Code L T} (i : Nat) : Unfolds (any choices) [choices i]
  | again {body : Code L T} : Unfolds (loop body) [body, loop body]
  | enough {body : Code L T} : Unfolds (loop body) []
  | spawn {t : T} : Unfolds (spawn t) []
  | join {t : T} : Unfolds (join t) []

end Code

/-- What is still to be done. -/
inductive Instr (L T : Type) where
  | run (c : Code L T)
  /-- the end of a block with a lock -/
  | unlock (m : L)

/-- The second does not give back the lock that the first gives back. -/
def Instr.Apart {L T : Type} : Instr L T → Instr L T → Prop
  | .unlock m, .unlock m' => m' ≠ m
  | _, _ => True

/-- What all threads have still to do, and who has each lock. A thread with nothing to do has ended
or was never started. -/
structure Locks (L T : Type) where
  todo : T → List (Instr L T)
  owner : L → Option T

/-- What happens next. -/
inductive Move (T : Type) where
  /-- a thread goes on; where it has a choice, the rest says which -/
  | go (t : T) (first : Bool) (pick : Nat)
  /-- a thread has to run the handler before it goes on -/
  | interrupt (t : T)

/-- The programs of the threads and the interrupt handler. -/
structure Programs (L T : Type) where
  program : T → Code L T
  handler : Code L T

namespace Locks

variable {L T : Type}

/-- A thread that has not ended and waits for nothing. -/
def Ready (s : Locks L T) (t : T) : Prop :=
  match s.todo t with
  | [] => False
  | .run (.locked m _) :: _ => s.owner m = none
  | .run (.join u) :: _ => s.todo u = []
  | _ => True

instance [DecidableEq T] (s : Locks L T) (t : T) : Decidable (s.Ready t) :=
  match h : s.todo t with
  | [] => isFalse (by simp [Ready, h])
  | .unlock _ :: _ => isTrue (by simp [Ready, h])
  | .run c :: _ =>
    match c with
    | .locked m _ => decidable_of_iff (s.owner m = none) (by simp [Ready, h])
    | .join u => decidable_of_iff (s.todo u = []) (by simp [Ready, h])
    | .skip | .seq _ _ | .either _ _ | .any _ | .loop _ | .spawn _ =>
      isTrue (by simp [Ready, h])

/-- One thread waits for another: for a lock it has, or for its end. -/
inductive Waits (s : Locks L T) (t u : T) : Prop where
  | lock {m : L} {body : Code L T} {rest : List (Instr L T)}
      (hdo : s.todo t = .run (.locked m body) :: rest) (howner : s.owner m = some u)
  | join {rest : List (Instr L T)} (hdo : s.todo t = .run (.join u) :: rest)
      (halive : s.todo u ≠ [])

/-- A thread that has not ended is ready or waits for another. -/
theorem ready_or_waits {s : Locks L T} {t : T} (h : s.todo t ≠ []) :
    s.Ready t ∨ ∃ u, s.Waits t u := by
  unfold Ready
  split
  · next hdo => exact absurd hdo h
  · next m body rest hdo =>
    cases hm : s.owner m with
    | none => exact Or.inl rfl
    | some u => exact Or.inr ⟨u, .lock hdo hm⟩
  · next u rest hdo =>
    by_cases hu : s.todo u = []
    · exact Or.inl hu
    · exact Or.inr ⟨u, .join hdo hu⟩
  · exact Or.inl trivial

variable [DecidableEq L] [DecidableEq T]

/-- A thread has something else to do. -/
def set (s : Locks L T) (t : T) (is : List (Instr L T)) : Locks L T :=
  { s with todo := Function.update s.todo t is }

/-- What a thread makes of the first thing it has to do. -/
def go (s : Locks L T) (P : Programs L T) (t : T) (first : Bool) (pick : Nat) : Locks L T :=
  match s.todo t with
  | [] => s
  | .unlock m :: rest => { s.set t rest with owner := Function.update s.owner m none }
  | .run c :: rest =>
    match c with
    | .skip => s.set t rest
    | .seq a b => s.set t (.run a :: .run b :: rest)
    | .either a b => s.set t (.run (if first then a else b) :: rest)
    | .any choices => s.set t (.run (choices pick) :: rest)
    | .loop body => s.set t (if first then .run body :: .run (.loop body) :: rest else rest)
    | .locked m body =>
      { s.set t (.run body :: .unlock m :: rest) with owner := Function.update s.owner m (some t) }
    | .spawn u =>
      if s.todo u = [] then (s.set t rest).set u [.run (P.program u)] else s.set t rest
    | .join _ => s.set t rest

/-- One move. -/
def next (s : Locks L T) (P : Programs L T) : Move T → Locks L T
  | .go t first pick => s.go P t first pick
  | .interrupt t => s.set t (.run P.handler :: s.todo t)

/-- A ready thread can go on, and one that has not ended can be interrupted. -/
def Can (s : Locks L T) : Move T → Prop
  | .go t _ _ => s.Ready t
  | .interrupt t => s.todo t ≠ []

instance (s : Locks L T) (e : Move T) : Decidable (s.Can e) :=
  match e with
  | .go t _ _ => inferInstanceAs (Decidable (s.Ready t))
  | .interrupt t => inferInstanceAs (Decidable (s.todo t ≠ []))

/-- All threads but one are still to be started. -/
def start (P : Programs L T) (main : T) : Locks L T where
  todo t := if t = main then [.run (P.program main)] else []
  owner _ := none

/-- All interleavings, from a first thread on. -/
def machine (P : Programs L T) (main : T) : Machine (Locks L T) (Move T) where
  init s := s = start P main
  enabled := Can
  step s e := some (s.next P e)

instance (P : Programs L T) (main : T) (s : Locks L T) (e : Move T) :
    Decidable ((machine P main).enabled s e) :=
  inferInstanceAs (Decidable (s.Can e))

/-! ## What a move can do -/

/-- What a move makes of what there is to do. -/
inductive Moved (P : Programs L T) (s : Locks L T) : Move T → Locks L T → Prop where
  | unlocked {t : T} {first : Bool} {pick : Nat} {m : L} {rest : List (Instr L T)}
      (hdo : s.todo t = .unlock m :: rest) :
      Moved P s (.go t first pick) { s.set t rest with owner := Function.update s.owner m none }
  | locked {t : T} {first : Bool} {pick : Nat} {m : L} {body : Code L T}
      {rest : List (Instr L T)} (hdo : s.todo t = .run (.locked m body) :: rest)
      (hfree : s.owner m = none) :
      Moved P s (.go t first pick) { s.set t (.run body :: .unlock m :: rest) with
        owner := Function.update s.owner m (some t) }
  | unfolded {t : T} {first : Bool} {pick : Nat} {c : Code L T} {cs : List (Code L T)}
      {rest : List (Instr L T)} (hdo : s.todo t = .run c :: rest) (hc : c.Unfolds cs) :
      Moved P s (.go t first pick) (s.set t (cs.map .run ++ rest))
  | spawned {t u : T} {first : Bool} {pick : Nat} {rest : List (Instr L T)}
      (hdo : s.todo t = .run (.spawn u) :: rest) (hu : s.todo u = []) :
      Moved P s (.go t first pick) ((s.set t rest).set u [.run (P.program u)])
  | interrupted {t : T} (ht : s.todo t ≠ []) :
      Moved P s (.interrupt t) (s.set t (.run P.handler :: s.todo t))

variable {P : Programs L T} {s s' : Locks L T} {e : Move T} {t u : T} {main : T}

theorem next_moved (h : s.Can e) : Moved P s e (s.next P e) := by
  cases e with
  | interrupt t => exact .interrupted h
  | go t first pick =>
    change s.Ready t at h
    show Moved P s _ (s.go P t first pick)
    unfold go
    unfold Ready at h
    split
    · next hdo =>
      rw [hdo] at h
      exact h.elim
    · next m rest hdo => exact .unlocked hdo
    · next c rest hdo =>
      rw [hdo] at h
      cases c with
      | skip => exact .unfolded hdo .skip
      | seq a b => exact .unfolded hdo .seq
      | either a b =>
        cases first with
        | true => exact .unfolded hdo .first
        | false => exact .unfolded hdo .second
      | any choices => exact .unfolded hdo (.any pick)
      | loop body =>
        cases first with
        | true => exact .unfolded hdo .again
        | false => exact .unfolded hdo .enough
      | locked m body => exact .locked hdo h
      | join u => exact .unfolded hdo .join
      | spawn u =>
        dsimp only
        split
        · next hu => exact .spawned hdo hu
        · exact .unfolded hdo .spawn

omit [DecidableEq L] [DecidableEq T] in
/-- The thread that starts another has not ended itself. -/
theorem ne_of_spawn {rest : List (Instr L T)} (hdo : s.todo t = .run (.spawn u) :: rest)
    (hu : s.todo u = []) : u ≠ t := by
  rintro rfl
  rw [hdo] at hu
  cases hu

/-! ## Locks have one owner -/

/-- Every lock has the owner that will give it back, once. -/
structure Sound (s : Locks L T) : Prop where
  owned : ∀ m t, s.owner m = some t ↔ .unlock m ∈ s.todo t
  once : ∀ t, (s.todo t).Pairwise Instr.Apart

omit [DecidableEq L] in
/-- Something else to do, with the same locks to give back. -/
theorem Sound.set (h : s.Sound) {is : List (Instr L T)}
    (hsame : ∀ m, .unlock m ∈ is ↔ .unlock m ∈ s.todo t) (his : is.Pairwise Instr.Apart) :
    (s.set t is).Sound where
  owned m u := by
    show s.owner m = some u ↔ _ ∈ Function.update s.todo t is u
    rw [h.owned]
    rcases eq_or_ne u t with rfl | hne
    · rw [Function.update_self, hsame]
    · rw [Function.update_of_ne hne]
  once u := by
    show (Function.update s.todo t is u).Pairwise _
    rcases eq_or_ne u t with rfl | hne
    · rwa [Function.update_self]
    · rw [Function.update_of_ne hne]
      exact h.once u

/-- A free lock is taken. -/
theorem Sound.take (h : s.Sound) {m : L} {body : Code L T} {rest : List (Instr L T)}
    (hdo : s.todo t = .run (.locked m body) :: rest) (hfree : s.owner m = none) :
    Sound { s.set t (.run body :: .unlock m :: rest) with
      owner := Function.update s.owner m (some t) } := by
  have hnone : ∀ u, .unlock m ∉ s.todo u := by
    intro u
    rw [← h.owned, hfree]
    exact nofun
  constructor
  · intro m' u
    show Function.update s.owner m (some t) m' = some u ↔
      _ ∈ Function.update s.todo t (.run body :: .unlock m :: rest) u
    have hown := h.owned m' u
    rcases eq_or_ne u t with rfl | hne
    · rw [hdo] at hown
      rcases eq_or_ne m' m with rfl | hm
      · simp
      · simpa [Function.update_of_ne hm, hm] using hown
    · rcases eq_or_ne m' m with rfl | hm
      · simp [Function.update_of_ne hne, hne.symm, hnone]
      · simpa [Function.update_of_ne hne, Function.update_of_ne hm] using hown
  · intro u
    show (Function.update s.todo t (.run body :: .unlock m :: rest) u).Pairwise _
    rcases eq_or_ne u t with rfl | hne
    · have hold := h.once u
      rw [hdo, List.pairwise_cons] at hold
      rw [Function.update_self, List.pairwise_cons, List.pairwise_cons]
      refine ⟨fun _ _ => trivial, ?_, hold.2⟩
      intro i hi
      cases i with
      | run c => trivial
      | unlock m' =>
        rintro rfl
        exact hnone u (hdo ▸ List.mem_cons_of_mem _ hi)
    · rw [Function.update_of_ne hne]
      exact h.once u

/-- A lock is given back. -/
theorem Sound.release (h : s.Sound) {m : L} {rest : List (Instr L T)}
    (hdo : s.todo t = .unlock m :: rest) :
    Sound { s.set t rest with owner := Function.update s.owner m none } := by
  have howner : s.owner m = some t := (h.owned m t).mpr (hdo ▸ List.mem_cons_self)
  have honce := h.once t
  rw [hdo, List.pairwise_cons] at honce
  constructor
  · intro m' u
    show Function.update s.owner m none m' = some u ↔ _ ∈ Function.update s.todo t rest u
    have hown := h.owned m' u
    rcases eq_or_ne u t with rfl | hne
    · rw [hdo] at hown
      rcases eq_or_ne m' m with rfl | hm
      · have hnot : .unlock m' ∉ rest := fun hmem => honce.1 _ hmem rfl
        simp [hnot]
      · simpa [Function.update_of_ne hm, hm] using hown
    · rcases eq_or_ne m' m with rfl | hm
      · have hnot : .unlock m' ∉ s.todo u := by
          rw [← h.owned, howner]
          exact fun he => hne (Option.some.inj he).symm
        simp [Function.update_of_ne hne, hnot]
      · simpa [Function.update_of_ne hne, Function.update_of_ne hm] using hown
  · intro u
    show (Function.update s.todo t rest u).Pairwise _
    rcases eq_or_ne u t with rfl | hne
    · rw [Function.update_self]
      exact honce.2
    · rw [Function.update_of_ne hne]
      exact h.once u

omit [DecidableEq L] [DecidableEq T] in
theorem pairwise_apart_run {cs : List (Code L T)} {rest : List (Instr L T)}
    (h : rest.Pairwise Instr.Apart) :
    (cs.map Instr.run ++ rest).Pairwise Instr.Apart := by
  induction cs with
  | nil => exact h
  | cons c cs ih => exact List.pairwise_cons.mpr ⟨fun _ _ => trivial, ih⟩

/-- **A move keeps the locks and their owners together.** -/
theorem Sound.moved (h : s.Sound) (hmoved : Moved P s e s') : s'.Sound := by
  cases hmoved with
  | unlocked hdo => exact h.release hdo
  | locked hdo hfree => exact h.take hdo hfree
  | @unfolded t _ _ c cs rest hdo hc =>
    have honce := h.once t
    rw [hdo] at honce
    refine h.set ?_ (pairwise_apart_run honce.of_cons)
    rw [hdo]
    simp
  | @spawned t u _ _ rest hdo hu =>
    have honce := h.once t
    rw [hdo] at honce
    have hgone : (s.set t rest).Sound := h.set (by rw [hdo]; simp) honce.of_cons
    have hu' : (s.set t rest).todo u = [] :=
      (Function.update_of_ne (ne_of_spawn hdo hu) _ _).trans hu
    exact hgone.set (by rw [hu']; simp) (List.pairwise_singleton _ _)
  | @interrupted t ht =>
    exact h.set (by simp) (List.pairwise_cons.mpr ⟨fun _ _ => trivial, h.once t⟩)

theorem sound_of_reach {cond : Locks L T → Move T → Prop} (hs : (machine P main).Reach cond s) :
    s.Sound := by
  refine hs.invariant ?_ ?_
  · rintro s rfl
    constructor
    · intro m t
      unfold Locks.start
      dsimp only
      split <;> simp
    · intro t
      unfold Locks.start
      dsimp only
      split <;> simp
  · intro s e s' _ h hen _ hstep
    cases hstep
    exact h.moved (next_moved hen)

end Locks

end Infra
