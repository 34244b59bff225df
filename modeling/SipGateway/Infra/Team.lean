import SipGateway.Infra.Machine

/-!
# What the threads of a team hold

Threads in a list, each of them somewhere in its program, where it may hold items of some kind. A
thread that goes on takes new items, passes on what it holds or settles it. `Accounted` says that
of the items given out none is lost and none is held twice; `Accounted.move` keeps it whatever
one thread does with its own.
-/

namespace Infra

variable {α β : Type} {held : α → List β} {given settled settled' more done : List β}
  {team : List α} {i : Nat} {a b : α}

/-- One thread goes on, and the others keep what they hold. -/
theorem held_set (held : α → List β) (b : α) (h : team[i]? = some a) :
    (held a ++ (team.set i b).flatMap held).Perm (held b ++ team.flatMap held) := by
  induction team generalizing i with
  | nil => cases h
  | cons x team ih =>
    cases i with
    | zero =>
      cases h
      rw [List.set_cons_zero, List.flatMap_cons, List.flatMap_cons]
      exact List.perm_append_comm_assoc (held a) (held b) (team.flatMap held)
    | succ i =>
      rw [List.set_cons_succ, List.flatMap_cons, List.flatMap_cons]
      have hfront := List.perm_append_comm_assoc (held a) (held x) ((team.set i b).flatMap held)
      have hback := List.perm_append_comm_assoc (held x) (held b) (team.flatMap held)
      exact hfront.trans (((ih h).append_left (held x)).trans hback)

/-- How many threads are at some kind of place. -/
theorem countP_set (p : α → Bool) (b : α) (h : team[i]? = some a) :
    (team.set i b).countP p + (p a).toNat = team.countP p + (p b).toNat := by
  induction team generalizing i with
  | nil => cases h
  | cons x team ih =>
    have hcons : ∀ (y : α) (team : List α), (y :: team).countP p = team.countP p + (p y).toNat := by
      intro y team
      rw [List.countP_cons]
      cases p y <;> rfl
    cases i with
    | zero =>
      cases h
      rw [List.set_cons_zero, hcons, hcons]
      omega
    | succ i =>
      have hrest := ih h
      rw [List.set_cons_succ, hcons, hcons]
      omega

/-- Each item given out is settled or with one of the threads, and only there. -/
def Accounted (held : α → List β) (given : List β) (team : List α) (settled : List β) : Prop :=
  given.Perm (settled ++ team.flatMap held)

/-- No thread holds anything at first. -/
theorem Accounted.start (h : ∀ a ∈ team, held a = []) : Accounted held [] team [] := by
  unfold Accounted
  rw [List.flatMap_eq_nil_iff.mpr h]
  exact List.Perm.nil

/-- **The rule for one thread.** What it held and what it takes is what it holds then and what it
settles. -/
theorem Accounted.move (hacc : Accounted held given team settled) (h : team[i]? = some a)
    (hown : (held a ++ more).Perm (held b ++ done)) :
    Accounted held (given ++ more) (team.set i b) (settled ++ done) := by
  classical
  have hset := held_set held b h
  unfold Accounted at hacc ⊢
  rw [List.perm_iff_count] at hacc hown hset ⊢
  intro x
  have h₁ := hacc x
  have h₂ := hown x
  have h₃ := hset x
  simp only [List.count_append] at h₁ h₂ h₃ ⊢
  omega

/-- A thread takes new items. -/
theorem Accounted.take (hacc : Accounted held given team settled) (h : team[i]? = some a)
    (hown : (held a ++ more).Perm (held b)) :
    Accounted held (given ++ more) (team.set i b) settled := by
  have hmove := hacc.move h (show (held a ++ more).Perm (held b ++ []) by rwa [List.append_nil])
  rwa [List.append_nil] at hmove

/-- A thread is done with items it held. -/
theorem Accounted.settle (hacc : Accounted held given team settled) (h : team[i]? = some a)
    (hown : (held a).Perm (held b ++ done)) :
    Accounted held given (team.set i b) (settled ++ done) := by
  have hmove := hacc.move h (show (held a ++ []).Perm (held b ++ done) by rwa [List.append_nil])
  rwa [List.append_nil] at hmove

/-- A thread holds the same as before. -/
theorem Accounted.stay (hacc : Accounted held given team settled) (h : team[i]? = some a)
    (hsame : held b = held a) : Accounted held given (team.set i b) settled := by
  have htake := hacc.take h (show (held a ++ []).Perm (held b) by rw [hsame, List.append_nil])
  rwa [List.append_nil] at htake

theorem Accounted.congr (hacc : Accounted held given team settled)
    (hperm : settled.Perm settled') : Accounted held given team settled' :=
  hacc.trans (hperm.append_right _)

end Infra
