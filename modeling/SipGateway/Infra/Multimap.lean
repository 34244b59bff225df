import Mathlib.Tactic

/-!
# Ordered multimaps

`std::multimap`: entries in key order, equal keys in insertion order.
`find` gives the first entry of a key.
-/

namespace Infra

/-- A list of entries sorted by key. -/
structure Multimap (κ ν : Type) [Ord κ] where
  entries : List (κ × ν)
  sorted : entries.Pairwise fun a b => (compare a.1 b.1).isLE

namespace Multimap

variable {κ ν : Type} [Ord κ]

@[ext] theorem ext {m m' : Multimap κ ν} (h : m.entries = m'.entries) : m = m' := by
  cases m; cases m'; cases h; rfl

instance [DecidableEq κ] [DecidableEq ν] : DecidableEq (Multimap κ ν) := fun m m' =>
  decidable_of_iff (m.entries = m'.entries) ⟨ext, fun h => h ▸ rfl⟩

/-- The empty multimap. -/
def empty : Multimap κ ν := { entries := [], sorted := List.Pairwise.nil }

instance : Inhabited (Multimap κ ν) := ⟨empty⟩

/-- The entries with the new one behind every entry whose key is not greater. -/
def insertEntry (k : κ) (v : ν) : List (κ × ν) → List (κ × ν)
  | [] => [(k, v)]
  | e :: es => if (compare e.1 k).isLE then e :: insertEntry k v es else (k, v) :: e :: es

theorem mem_insertEntry {k : κ} {v : ν} {x : κ × ν} {es : List (κ × ν)} :
    x ∈ insertEntry k v es ↔ x = (k, v) ∨ x ∈ es := by
  induction es with
  | nil => simp [insertEntry]
  | cons e es ih =>
    rw [insertEntry]
    split
    · rw [List.mem_cons, ih, List.mem_cons]
      tauto
    · rw [List.mem_cons]

theorem sorted_insertEntry [Std.TransOrd κ] (k : κ) (v : ν) {es : List (κ × ν)}
    (h : es.Pairwise fun a b => (compare a.1 b.1).isLE) :
    (insertEntry k v es).Pairwise fun a b => (compare a.1 b.1).isLE := by
  induction es with
  | nil => simp [insertEntry]
  | cons e es ih =>
    rw [insertEntry]
    obtain ⟨hhead, htail⟩ := List.pairwise_cons.mp h
    split
    · next hle =>
      -- behind `e`, which is not above the new entry
      refine List.pairwise_cons.mpr ⟨?_, ih htail⟩
      intro x hx
      rcases mem_insertEntry.mp hx with rfl | hx
      · exact hle
      · exact hhead x hx
    · next hgt =>
      -- before `e`, which is above it, and so is what follows `e`
      have hke : (compare k e.1).isLE := by
        rw [show compare k e.1 = (compare e.1 k).swap from Std.OrientedCmp.eq_swap]
        cases hc : compare e.1 k <;> simp_all
      refine List.pairwise_cons.mpr ⟨?_, h⟩
      intro x hx
      rcases List.mem_cons.mp hx with rfl | hx
      · exact hke
      · exact Std.TransCmp.isLE_trans hke (hhead x hx)

/-- `m.insert({k, v})`. -/
def insert [Std.TransOrd κ] (m : Multimap κ ν) (k : κ) (v : ν) : Multimap κ ν where
  entries := insertEntry k v m.entries
  sorted := sorted_insertEntry k v m.sorted

variable [DecidableEq κ]

/-- The value of the entry `m.find(k)` points to. -/
def find? (m : Multimap κ ν) (k : κ) : Option ν :=
  (m.entries.find? fun e => e.1 = k).map Prod.snd

/-- The values of `m.equal_range(k)`, in order. -/
def equalRange (m : Multimap κ ν) (k : κ) : List ν :=
  (m.entries.filter fun e => e.1 = k).map Prod.snd

/-- The entries with the value of the first entry of key `k` changed by `f`. -/
def modifyEntry (k : κ) (f : ν → ν) : List (κ × ν) → List (κ × ν)
  | [] => []
  | e :: es => if e.1 = k then (e.1, f e.2) :: es else e :: modifyEntry k f es

omit [Ord κ] in
theorem map_fst_modifyEntry (k : κ) (f : ν → ν) (es : List (κ × ν)) :
    (modifyEntry k f es).map Prod.fst = es.map Prod.fst := by
  induction es with
  | nil => rfl
  | cons e es ih =>
    rw [modifyEntry]
    split
    · rfl
    · rw [List.map_cons, ih, List.map_cons]

/-- `m.find(k)->second = f(m.find(k)->second)`, when the key is there. -/
def modifyFirst (m : Multimap κ ν) (k : κ) (f : ν → ν) : Multimap κ ν where
  entries := modifyEntry k f m.entries
  sorted := by
    have h := m.sorted
    rw [← List.pairwise_map (f := Prod.fst) (R := fun a b => (compare a b).isLE)] at h ⊢
    rwa [map_fst_modifyEntry]

/-! ## Reading what was inserted -/

/-- `find` points to the first entry of the equal range. -/
theorem find?_eq_head? (m : Multimap κ ν) (k : κ) :
    m.find? k = (m.equalRange k).head? := by
  rw [find?, equalRange, List.head?_map, List.head?_filter]

theorem filter_insertEntry [Std.TransOrd κ] (k k' : κ) (v : ν) {es : List (κ × ν)}
    (h : es.Pairwise fun a b => (compare a.1 b.1).isLE) :
    (insertEntry k v es).filter (fun e => e.1 = k')
      = es.filter (fun e => e.1 = k') ++ if k = k' then [(k, v)] else [] := by
  induction es with
  | nil => by_cases hk : k = k' <;> simp [insertEntry, hk]
  | cons e es ih =>
    obtain ⟨hhead, htail⟩ := List.pairwise_cons.mp h
    rw [insertEntry]
    split
    · rw [List.filter_cons, List.filter_cons, ih htail]
      split
      · rw [List.cons_append]
      · rfl
    · next hgt =>
      by_cases hk : k = k'
      · subst hk
        -- neither `e` nor what follows it has the key of the new entry
        have hnone : (e :: es).filter (fun x => x.1 = k) = [] := by
          rw [List.filter_eq_nil_iff]
          intro x hx hxk
          have hxk : x.1 = k := of_decide_eq_true hxk
          refine hgt ?_
          rcases List.mem_cons.mp hx with rfl | hx
          · rw [hxk, show compare k k = .eq from Std.ReflCmp.compare_self]
            rfl
          · exact hxk ▸ hhead x hx
        simp [List.filter_cons (x := (k, v)), hnone]
      · simp [List.filter_cons (x := (k, v)), hk]

/-- An insertion goes to the end of the equal range of its key, and to no other. -/
theorem equalRange_insert [Std.TransOrd κ] (m : Multimap κ ν) (k k' : κ) (v : ν) :
    (m.insert k v).equalRange k' = m.equalRange k' ++ if k = k' then [v] else [] := by
  unfold equalRange
  rw [show (m.insert k v).entries = insertEntry k v m.entries from rfl,
    filter_insertEntry k k' v m.sorted, List.map_append]
  split <;> rfl

omit [Ord κ] in
/-- An entry after the change is one from before, or one from before changed. -/
theorem mem_modifyEntry {k : κ} {f : ν → ν} {x : κ × ν} {es : List (κ × ν)}
    (h : x ∈ modifyEntry k f es) : x ∈ es ∨ ∃ y ∈ es, x = (y.1, f y.2) := by
  induction es with
  | nil => simp [modifyEntry] at h
  | cons e es ih =>
    rw [modifyEntry] at h
    split at h
    · rcases List.mem_cons.mp h with rfl | h
      · exact .inr ⟨e, List.mem_cons_self, rfl⟩
      · exact .inl (List.mem_cons_of_mem _ h)
    · rcases List.mem_cons.mp h with rfl | h
      · exact .inl List.mem_cons_self
      · rcases ih h with h | ⟨y, hy, rfl⟩
        · exact .inl (List.mem_cons_of_mem _ h)
        · exact .inr ⟨y, List.mem_cons_of_mem _ hy, rfl⟩

/-! ## Changing and comparing -/

omit [Ord κ] in
theorem filter_modifyEntry (k k' : κ) (f : ν → ν) (es : List (κ × ν)) :
    ((modifyEntry k f es).filter fun e => e.1 = k').map Prod.snd =
      if k = k' then ((es.filter fun e => e.1 = k').map Prod.snd).modifyHead f
      else (es.filter fun e => e.1 = k').map Prod.snd := by
  induction es with
  | nil => simp [modifyEntry]
  | cons e es ih =>
    rw [modifyEntry]
    by_cases he : e.1 = k
    · rw [if_pos he]
      by_cases hk : k = k'
      · simp [he, hk]
      · simp [he, hk]
    · rw [if_neg he, List.filter_cons, List.filter_cons]
      by_cases hk : e.1 = k'
      · have hne : k ≠ k' := fun h => he (hk.trans h.symm)
        simp only [hk, decide_true, if_true, List.map_cons, ih, if_neg hne]
      · simp only [hk, decide_false, Bool.false_eq_true, if_false, ih]

/-- A change of the first entry of a key is one of the head of its equal range. -/
theorem equalRange_modifyFirst (m : Multimap κ ν) (k k' : κ) (f : ν → ν) :
    (m.modifyFirst k f).equalRange k' =
      if k = k' then (m.equalRange k').modifyHead f else m.equalRange k' :=
  filter_modifyEntry k k' f m.entries

omit [DecidableEq κ] in
theorem eq_of_isLE [Std.OrientedOrd κ] [Std.LawfulEqOrd κ] {a b : κ}
    (h : (compare a b).isLE) (h' : (compare b a).isLE) : a = b := by
  refine Std.LawfulEqCmp.compare_eq_iff_eq.mp (?_ : compare a b = .eq)
  rw [show compare b a = (compare a b).swap from Std.OrientedCmp.eq_swap] at h'
  cases hc : compare a b <;> simp_all

/-- Sorted entries are determined by the entries of each key. -/
theorem ext_of_filter [Std.OrientedOrd κ] [Std.LawfulEqOrd κ] :
    ∀ {es es' : List (κ × ν)}, es.Pairwise (fun a b => (compare a.1 b.1).isLE) →
    es'.Pairwise (fun a b => (compare a.1 b.1).isLE) →
    (∀ k, es.filter (fun e => e.1 = k) = es'.filter fun e => e.1 = k) → es = es'
  | [], [], _, _, _ => rfl
  | [], e' :: es', _, _, h => by simpa using h e'.1
  | e :: es, [], _, _, h => by simpa using h e.1
  | e :: es, e' :: es', hs, hs', h => by
    obtain ⟨hle, htail⟩ := List.pairwise_cons.mp hs
    obtain ⟨hle', htail'⟩ := List.pairwise_cons.mp hs'
    -- each first key is among the others, so neither is above the other
    have hmem : e ∈ e' :: es' := by
      have hself : e ∈ (e :: es).filter (fun x => x.1 = e.1) := by simp
      exact List.mem_of_mem_filter (h e.1 ▸ hself)
    have hmem' : e' ∈ e :: es := by
      have hself : e' ∈ (e' :: es').filter (fun x => x.1 = e'.1) := by simp
      rw [← h e'.1] at hself
      exact List.mem_of_mem_filter hself
    have hkey : e.1 = e'.1 := by
      rcases List.mem_cons.mp hmem with heq | hmem
      · rw [heq]
      · rcases List.mem_cons.mp hmem' with heq | hmem'
        · rw [heq]
        · exact eq_of_isLE (hle e' hmem') (hle' e hmem)
    have hhead : e = e' := by
      have hfilter := h e.1
      simp only [List.filter_cons, decide_true, if_true, hkey] at hfilter
      exact (List.cons.inj hfilter).1
    subst hhead
    refine congrArg (e :: ·) (ext_of_filter htail htail' fun k => ?_)
    have hfilter := h k
    by_cases hk : e.1 = k
    · simp only [List.filter_cons, hk, decide_true, if_true] at hfilter
      exact (List.cons.inj hfilter).2
    · simpa only [List.filter_cons, hk, decide_false, Bool.false_eq_true, if_false] using hfilter

/-- The multimap with every value changed. -/
def mapValues {ν' : Type} (f : ν → ν') (m : Multimap κ ν) : Multimap κ ν' where
  entries := m.entries.map fun e => (e.1, f e.2)
  sorted := by
    rw [List.pairwise_map]
    exact m.sorted

theorem filter_mapValues {ν' : Type} (f : ν → ν') (m : Multimap κ ν) (k : κ) :
    (m.mapValues f).entries.filter (fun e => e.1 = k) =
      ((m.equalRange k).map f).map fun v => (k, v) := by
  unfold mapValues equalRange
  rw [List.filter_map, List.map_map, List.map_map]
  refine List.map_congr_left fun e he => ?_
  have hk : e.1 = k := by simpa using (List.mem_filter.mp he).2
  rw [hk]
  rfl

/-- **Multimaps are compared one key at a time.** -/
theorem mapValues_eq_iff [Std.OrientedOrd κ] [Std.LawfulEqOrd κ] {ν' : Type} (f : ν → ν')
    (m m' : Multimap κ ν) :
    m.mapValues f = m'.mapValues f ↔
      ∀ k, (m.equalRange k).map f = (m'.equalRange k).map f := by
  constructor
  · intro h k
    have hfilter := filter_mapValues f m k
    rw [h, filter_mapValues] at hfilter
    have hinj : Function.Injective fun v : ν' => (k, v) := fun a b hab => (Prod.mk.inj hab).2
    exact (List.map_injective_iff.mpr hinj hfilter).symm
  · intro h
    refine Multimap.ext (ext_of_filter (mapValues f m).sorted (mapValues f m').sorted fun k => ?_)
    rw [filter_mapValues, filter_mapValues, h k]

end Multimap

end Infra
