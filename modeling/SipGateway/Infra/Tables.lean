import Mathlib.Tactic

/-!
# Tables

`std::map` as `Std.ExtTreeMap`: the lookups after an update with a plain equality of keys, and
a pair of tables that are each other's inverse.

`Inverse owner keysOf` relates a table from keys to owners with the table from owners to the
lists of their keys. `assign` and `dropOwner` are the two updates that keep both in step.
-/

namespace Infra

open Std

section Lookup

variable {κ ν : Type} [Ord κ] [TransOrd κ] [LawfulEqOrd κ] [DecidableEq κ]
  (m : ExtTreeMap κ ν) (k k' : κ) (v : ν)

theorem getElem?_insert_key :
    (m.insert k v)[k']? = if k' = k then some v else m[k']? := by
  rw [ExtTreeMap.getElem?_insert]
  refine if_congr ?_ rfl rfl
  rw [LawfulEqCmp.compare_eq_iff_eq, eq_comm]

theorem getElem?_erase_key : (m.erase k)[k']? = if k' = k then none else m[k']? := by
  rw [ExtTreeMap.getElem?_erase]
  refine if_congr ?_ rfl rfl
  rw [LawfulEqCmp.compare_eq_iff_eq, eq_comm]

omit [DecidableEq κ] in
theorem mem_insert_key : k' ∈ m.insert k v ↔ k' = k ∨ k' ∈ m := by
  rw [ExtTreeMap.mem_insert, LawfulEqCmp.compare_eq_iff_eq, eq_comm]

omit [DecidableEq κ] in
theorem mem_erase_key : k' ∈ m.erase k ↔ k' ≠ k ∧ k' ∈ m := by
  rw [ExtTreeMap.mem_erase, ne_eq, LawfulEqCmp.compare_eq_iff_eq, eq_comm]

omit [DecidableEq κ] [LawfulEqOrd κ] in
theorem mem_iff_exists_getElem? : k ∈ m ↔ ∃ v, m[k]? = some v := by
  rw [ExtTreeMap.mem_iff_isSome_getElem?, Option.isSome_iff_exists]

omit [DecidableEq κ] [LawfulEqOrd κ] in
theorem not_mem_iff_getElem?_none : k ∉ m ↔ m[k]? = none := by
  rw [ExtTreeMap.mem_iff_isSome_getElem?, Bool.not_eq_true, Option.isSome_eq_false_iff,
    Option.isNone_iff_eq_none]

/-- A key that was not there can be added and removed again. -/
theorem erase_insert_of_not_mem {m : ExtTreeMap κ ν} {k : κ} (h : m[k]? = none) (v : ν) :
    (m.insert k v).erase k = m := by
  refine ExtTreeMap.ext_getElem? fun k' => ?_
  rw [getElem?_erase_key, getElem?_insert_key]
  split
  · next he => rw [he, h]
  · rfl

theorem erase_of_not_mem {m : ExtTreeMap κ ν} {k : κ} (h : m[k]? = none) : m.erase k = m := by
  refine ExtTreeMap.ext_getElem? fun k' => ?_
  rw [getElem?_erase_key]
  split
  · next he => rw [he, h]
  · rfl

/-- Two keys do not get in each other's way. -/
theorem erase_insert_comm (m : ExtTreeMap κ ν) {k k' : κ} (h : k ≠ k') (v : ν) :
    (m.insert k' v).erase k = (m.erase k).insert k' v := by
  refine ExtTreeMap.ext_getElem? fun x => ?_
  simp only [getElem?_erase_key, getElem?_insert_key]
  by_cases hx : x = k
  · simp [hx, h]
  · simp [hx]

end Lookup

/-! ## A table and its inverse -/

section Inverse

variable {κ ω : Type} [Ord κ] [TransOrd κ] [LawfulEqOrd κ] [DecidableEq κ]
  [Ord ω] [TransOrd ω] [LawfulEqOrd ω] [DecidableEq ω]

/-- The keys listed for an owner. -/
def keysOf (lists : ExtTreeMap ω (List κ)) (o : ω) : List κ := lists[o]?.getD []

/-- A key is listed for exactly the owner it maps to, and no listed owner has an empty list. -/
structure Inverse (owner : ExtTreeMap κ ω) (lists : ExtTreeMap ω (List κ)) : Prop where
  listed : ∀ (k : κ) (o : ω), k ∈ keysOf lists o ↔ owner[k]? = some o
  nonempty : ∀ o : ω, lists[o]? ≠ some []

/-- Makes `o` the owner of `k`: the entry of `k`, and `k` at the end of the list of `o`. -/
def assign (owner : ExtTreeMap κ ω) (lists : ExtTreeMap ω (List κ)) (k : κ) (o : ω) :
    ExtTreeMap κ ω × ExtTreeMap ω (List κ) :=
  (owner.insert k o, lists.insert o (keysOf lists o ++ [k]))

/-- Takes out an owner with all the keys listed for it. -/
def dropOwner (owner : ExtTreeMap κ ω) (lists : ExtTreeMap ω (List κ)) (o : ω) :
    ExtTreeMap κ ω × ExtTreeMap ω (List κ) :=
  ((keysOf lists o).foldl (fun m k => m.erase k) owner, lists.erase o)

omit [TransOrd κ] [LawfulEqOrd κ] [DecidableEq κ] [Ord κ] in
theorem keysOf_insert (lists : ExtTreeMap ω (List κ)) (o o' : ω) (ks : List κ) :
    keysOf (lists.insert o ks) o' = if o' = o then ks else keysOf lists o' := by
  unfold keysOf
  rw [getElem?_insert_key]
  split <;> rfl

omit [TransOrd κ] [LawfulEqOrd κ] [DecidableEq κ] [Ord κ] in
theorem keysOf_erase (lists : ExtTreeMap ω (List κ)) (o o' : ω) :
    keysOf (lists.erase o) o' = if o' = o then [] else keysOf lists o' := by
  unfold keysOf
  rw [getElem?_erase_key]
  split <;> rfl

omit [Ord ω] [TransOrd ω] [LawfulEqOrd ω] [DecidableEq ω] in
theorem getElem?_foldl_erase (k : κ) (ks : List κ) (m : ExtTreeMap κ ω) :
    (ks.foldl (fun m k => m.erase k) m)[k]? = if k ∈ ks then none else m[k]? := by
  induction ks generalizing m with
  | nil => simp
  | cons k' ks ih =>
    rw [List.foldl_cons, ih, getElem?_erase_key]
    by_cases h : k ∈ ks
    · simp [h]
    · by_cases he : k = k' <;> simp [h, he]

omit [LawfulEqOrd κ] [DecidableEq κ] [LawfulEqOrd ω] [DecidableEq ω] in
theorem Inverse.empty : Inverse (∅ : ExtTreeMap κ ω) ∅ where
  listed k o := by simp [keysOf]
  nonempty o := by simp

omit [LawfulEqOrd ω] in
theorem getElem?_dropOwner {owner : ExtTreeMap κ ω} {lists : ExtTreeMap ω (List κ)}
    (h : Inverse owner lists) (o : ω) (k : κ) :
    (dropOwner owner lists o).1[k]? = if owner[k]? = some o then none else owner[k]? := by
  unfold dropOwner
  rw [getElem?_foldl_erase]
  simp only [h.listed]

theorem Inverse.assign {owner : ExtTreeMap κ ω} {lists : ExtTreeMap ω (List κ)}
    (h : Inverse owner lists) {k : κ} (hk : owner[k]? = none) (o : ω) :
    Inverse (assign owner lists k o).1 (assign owner lists k o).2 where
  listed k' o' := by
    unfold Infra.assign
    rw [keysOf_insert, getElem?_insert_key]
    have hfree : ∀ x, k ∉ keysOf lists x := by
      intro x hx
      rw [h.listed, hk] at hx
      simp at hx
    by_cases ho : o' = o
    · rw [if_pos ho, List.mem_append, List.mem_singleton, ho]
      by_cases hkk : k' = k
      · simp [hkk]
      · rw [if_neg hkk, h.listed]
        simp [hkk]
    · rw [if_neg ho]
      by_cases hkk : k' = k
      · rw [if_pos hkk, hkk]
        constructor
        · exact fun hm => absurd hm (hfree o')
        · exact fun he => absurd (Option.some.inj he).symm ho
      · rw [if_neg hkk, h.listed]
  nonempty o' := by
    unfold Infra.assign
    rw [getElem?_insert_key]
    split
    · simp
    · exact h.nonempty o'

theorem Inverse.dropOwner {owner : ExtTreeMap κ ω} {lists : ExtTreeMap ω (List κ)}
    (h : Inverse owner lists) (o : ω) :
    Inverse (dropOwner owner lists o).1 (dropOwner owner lists o).2 where
  listed k o' := by
    rw [getElem?_dropOwner h]
    show k ∈ keysOf (lists.erase o) o' ↔ _
    rw [keysOf_erase]
    by_cases ho : o' = o
    · rw [if_pos ho, ho]
      split
      · simp
      · next hne => simpa using hne
    · rw [if_neg ho, h.listed]
      split
      · next he =>
        rw [he]
        simp only [Option.some.injEq, reduceCtorEq, iff_false]
        exact fun hoo => ho hoo.symm
      · rfl
  nonempty o' := by
    show (lists.erase o)[o']? ≠ some []
    rw [getElem?_erase_key]
    split
    · simp
    · exact h.nonempty o'

end Inverse

end Infra
