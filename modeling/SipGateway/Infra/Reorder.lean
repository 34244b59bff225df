import Mathlib.Tactic

/-!
# Putting a stream back in order

A `Sorter` keeps the items it is given in order and gives out the first of them as soon as it
holds more than `depth`.

`run_sorted_iff`: what it gives out is in order exactly if no item comes behind more than `depth`
greater ones, that is, if nothing is delayed by more than the buffer can hold.
-/

namespace Infra

/-! ## Arrivals -/

/-- What `P` says of an item and those that came before it holds of every item. -/
def AtEach {α : Type} (P : List α → α → Prop) (xs : List α) : Prop :=
  ∀ (k : Nat) (hk : k < xs.length), P (xs.take k) xs[k]

instance {α : Type} (P : List α → α → Prop) [∀ before x, Decidable (P before x)] (xs : List α) :
    Decidable (AtEach P xs) :=
  inferInstanceAs (Decidable (∀ (k : Nat) (hk : k < xs.length), P (xs.take k) xs[k]))

theorem atEach_nil {α : Type} {P : List α → α → Prop} : AtEach P [] := fun k hk => by cases hk

theorem atEach_concat {α : Type} {P : List α → α → Prop} {xs : List α} {x : α} :
    AtEach P (xs ++ [x]) ↔ AtEach P xs ∧ P xs x := by
  constructor
  · intro h
    refine ⟨fun k hk => ?_, ?_⟩
    · have hbefore := h k (by rw [List.length_append]; omega)
      rwa [List.getElem_append_left hk, List.take_append_of_le_length hk.le] at hbefore
    · have hlast := h xs.length (by simp)
      rwa [List.take_left' rfl, List.getElem_concat_length rfl] at hlast
  · rintro ⟨hbefore, hlast⟩ k hk
    rw [List.length_append, List.length_singleton] at hk
    rcases Nat.lt_succ_iff_lt_or_eq.mp hk with hlt | rfl
    · rw [List.getElem_append_left hlt, List.take_append_of_le_length hlt.le]
      exact hbefore k hlt
    · rw [List.take_left' rfl, List.getElem_concat_length rfl]
      exact hlast

variable {α : Type} [LinearOrder α]

/-- No item comes behind more than `depth` greater ones. -/
def OvertakenAtMost (depth : Nat) (xs : List α) : Prop :=
  AtEach (fun before x => before.countP (fun y => x < y) ≤ depth) xs

instance (depth : Nat) (xs : List α) : Decidable (OvertakenAtMost depth xs) :=
  inferInstanceAs (Decidable (AtEach _ xs))

/-! ## Sorters -/

/-- What waits, in order, and what was given out. -/
structure Sorter (α : Type) where
  waiting : List α := []
  out : List α := []

namespace Sorter

variable {depth : Nat} {s : Sorter α} {xs : List α} {x : α}

/-- An item is put in its place; one too many and the first goes out. -/
def put (depth : Nat) (s : Sorter α) (x : α) : Sorter α :=
  match s.waiting.orderedInsert (· ≤ ·) x with
  | [] => s
  | first :: rest =>
    if depth ≤ rest.length then { waiting := rest, out := s.out ++ [first] }
    else { s with waiting := first :: rest }

def run (depth : Nat) (xs : List α) : Sorter α := xs.foldl (put depth) {}

theorem run_concat (xs : List α) (x : α) : run depth (xs ++ [x]) = (run depth xs).put depth x :=
  List.foldl_concat ..

/-- Everything the sorter was given, in the order it gives it out. -/
def all (s : Sorter α) : List α := s.out ++ s.waiting

theorem all_put (s : Sorter α) (x : α) :
    (s.put depth x).all = s.out ++ s.waiting.orderedInsert (· ≤ ·) x := by
  unfold put all
  split
  · next h =>
    have hlen := List.orderedInsert_length (· ≤ ·) s.waiting x
    rw [h] at hlen
    cases hlen
  · next first rest h =>
    rw [h]
    split
    · rw [List.append_assoc, List.singleton_append]
    · rfl

/-- What putting items keeps. -/
structure Kept (depth : Nat) (xs : List α) (s : Sorter α) : Prop where
  perm : s.all.Perm xs
  sorted : s.waiting.Pairwise (· ≤ ·)
  length_le : s.waiting.length ≤ depth
  full : s.out ≠ [] → s.waiting.length = depth

theorem Kept.put (h : Kept depth xs s) (x : α) : Kept depth (xs ++ [x]) (s.put depth x) := by
  have hperm : (s.put depth x).all.Perm (xs ++ [x]) :=
    calc (s.put depth x).all
      _ = s.out ++ s.waiting.orderedInsert (· ≤ ·) x := s.all_put x
      List.Perm _ (s.out ++ x :: s.waiting) := (List.perm_orderedInsert _ _ _).append_left _
      List.Perm _ (x :: s.all) := List.perm_middle
      List.Perm _ (x :: xs) := h.perm.cons x
      List.Perm _ (xs ++ [x]) := (List.perm_append_singleton x xs).symm
  have hsorted : (s.waiting.orderedInsert (· ≤ ·) x).Pairwise (· ≤ ·) :=
    h.sorted.orderedInsert x _
  have hlen := List.orderedInsert_length (· ≤ ·) s.waiting x
  have hle := h.length_le
  have hfull := h.full
  unfold Sorter.put at hperm ⊢
  split at hperm
  · next hnil =>
    rw [hnil] at hlen
    cases hlen
  · next first rest hcons =>
    rw [hcons] at hsorted hlen
    rw [List.length_cons] at hlen
    split at hperm
    · next hlong =>
      rw [if_pos hlong]
      exact ⟨hperm, (List.pairwise_cons.mp hsorted).2, by dsimp only; omega, fun _ => by
        dsimp only; omega⟩
    · next hshort =>
      rw [if_neg hshort]
      refine ⟨hperm, hsorted, by rw [List.length_cons]; omega, fun hne => ?_⟩
      have := hfull hne
      omega

theorem run_kept (depth : Nat) (xs : List α) : Kept depth xs (run depth xs) := by
  induction xs using List.reverseRecOn with
  | nil => exact ⟨List.Perm.refl _, List.Pairwise.nil, Nat.zero_le _, fun h => absurd rfl h⟩
  | append_singleton xs x ih =>
    rw [run_concat]
    exact ih.put x

/-- As many wait as there is room for. -/
theorem Kept.length_waiting (h : Kept depth xs s) : s.waiting.length = min depth xs.length := by
  have hlen := h.perm.length_eq
  rw [all, List.length_append] at hlen
  have hle := h.length_le
  cases hout : s.out with
  | nil =>
    rw [hout, List.length_nil] at hlen
    omega
  | cons o os =>
    have hfull := h.full (by rw [hout]; exact List.cons_ne_nil _ _)
    omega

/-- An item that comes in time goes behind all that were given out. -/
theorem Kept.all_lt_iff (h : Kept depth xs s) (hs : s.all.Pairwise (· < ·)) (hx : x ∉ xs) :
    (∀ y ∈ s.out, y < x) ↔ xs.countP (fun y => x < y) ≤ depth := by
  rw [← h.perm.countP_eq, all, List.countP_append]
  constructor
  · intro hbefore
    have hout : s.out.countP (fun y => x < y) = 0 := by
      rw [List.countP_eq_zero]
      intro y hy
      simpa using (hbefore y hy).le
    have hwaiting : s.waiting.countP (fun y => x < y) ≤ s.waiting.length := List.countP_le_length
    have := h.length_le
    omega
  · intro hcount y hy
    by_contra hno
    have hmem : y ∈ s.all := List.mem_append_left _ hy
    have hne : x ≠ y := fun he => hx (he ▸ h.perm.subset hmem)
    have hlt : x < y := lt_of_le_of_ne (not_lt.mp hno) hne
    -- the item given out is greater than the new one, and so are all that wait behind it
    have hwaiting : s.waiting.countP (fun z => x < z) = s.waiting.length := by
      rw [List.countP_eq_length]
      intro z hz
      simpa using hlt.trans ((List.pairwise_append.mp hs).2.2 y hy z hz)
    have hout : 0 < s.out.countP (fun z => x < z) :=
      List.countP_pos_iff.mpr ⟨y, hy, by simpa using hlt⟩
    have := h.full (List.ne_nil_of_mem hy)
    omega

/-- The order after one more item. -/
theorem Kept.sorted_put_iff (h : Kept depth xs s) (hx : x ∉ xs) :
    (s.put depth x).all.Pairwise (· < ·) ↔
      s.all.Pairwise (· < ·) ∧ xs.countP (fun y => x < y) ≤ depth := by
  have hmem : ∀ y, y ∈ s.waiting.orderedInsert (· ≤ ·) x ↔ y = x ∨ y ∈ s.waiting := fun y =>
    List.mem_orderedInsert (· ≤ ·)
  rw [all_put]
  constructor
  · intro hs
    obtain ⟨hout, hinsert, hcross⟩ := List.pairwise_append.mp hs
    have hold : s.all.Pairwise (· < ·) :=
      hs.sublist ((List.Sublist.refl _).append (List.sublist_orderedInsert x s.waiting))
    exact ⟨hold, (h.all_lt_iff hold hx).mp fun y hy => hcross y hy x ((hmem x).mpr (Or.inl rfl))⟩
  · rintro ⟨hold, hcount⟩
    obtain ⟨hout, hwaiting, hcross⟩ := List.pairwise_append.mp hold
    have hnodup : (x :: s.waiting).Nodup := by
      refine List.nodup_cons.mpr ⟨fun hw => ?_, hwaiting.imp fun hlt => hlt.ne⟩
      exact hx (h.perm.subset (List.mem_append_right _ hw))
    have hinsert : (s.waiting.orderedInsert (· ≤ ·) x).Pairwise (· < ·) := by
      have hdistinct : (s.waiting.orderedInsert (· ≤ ·) x).Nodup :=
        (List.perm_orderedInsert _ _ _).nodup_iff.mpr hnodup
      exact ((h.sorted.orderedInsert x _).and hdistinct).imp fun hle => lt_of_le_of_ne hle.1 hle.2
    refine List.pairwise_append.mpr ⟨hout, hinsert, fun y hy z hz => ?_⟩
    rcases (hmem z).mp hz with rfl | hz
    · exact (h.all_lt_iff hold hx).mpr hcount y hy
    · exact hcross y hy z hz

/-- **What a sorter can repair**: the delays its buffer can hold. -/
theorem run_sorted_iff (hnodup : xs.Nodup) :
    (run depth xs).all.Pairwise (· < ·) ↔ OvertakenAtMost depth xs := by
  induction xs using List.reverseRecOn with
  | nil => exact iff_of_true List.Pairwise.nil atEach_nil
  | append_singleton xs x ih =>
    obtain ⟨hxs, -, hdisjoint⟩ := List.nodup_append.mp hnodup
    have hx : x ∉ xs := fun hmem => hdisjoint x hmem x (List.mem_singleton_self x) rfl
    rw [run_concat, (run_kept depth xs).sorted_put_iff hx, ih hxs]
    exact atEach_concat.symm

/-- Then it gives everything out in order. -/
theorem all_eq_insertionSort (hnodup : xs.Nodup) (h : OvertakenAtMost depth xs) :
    (run depth xs).all = xs.insertionSort (· ≤ ·) := by
  have hsorted := (run_sorted_iff hnodup).mpr h
  have hperm : (run depth xs).all.Perm (xs.insertionSort (· ≤ ·)) :=
    (run_kept depth xs).perm.trans (List.perm_insertionSort _ xs).symm
  exact hperm.eq_of_pairwise (fun a b _ _ hab hba => le_antisymm hab hba)
    (hsorted.imp fun hlt => hlt.le) (List.pairwise_insertionSort _ xs)

theorem out_eq_take (hnodup : xs.Nodup) (h : OvertakenAtMost depth xs) :
    (run depth xs).out = (xs.insertionSort (· ≤ ·)).take (xs.length - depth) := by
  have hkept := run_kept depth xs
  have hlen := hkept.perm.length_eq
  have hwaiting := hkept.length_waiting
  rw [all, List.length_append] at hlen
  rw [← all_eq_insertionSort hnodup h, all, List.take_left' (by omega)]

end Sorter

end Infra
