import SipGateway.Infra.Bytes

/-!
# Paths, read lexically

A path is cut at its slashes. Pieces that are empty or `.` lead nowhere, `..` takes the last name
off, everything else is a name. Links are not followed.

`within` says what some pieces come down to without leaving the place they start from, and
`Inside.push_pieces` and `not_mem_of_leaves` what that means for the place.
-/

namespace Infra

def slash : UInt8 := 47

def dot : UInt8 := 46

/-- Where a path leads: some levels above the root or working directory, and names from there on,
the last one first. There is nothing above the root. -/
structure Location where
  absolute : Bool
  ups : Nat
  names : List Bytes
deriving DecidableEq, Repr

namespace Location

/-- One piece further. -/
def push (l : Location) (piece : Bytes) : Location :=
  if piece = [] ∨ piece = [dot] then l
  else if piece = [dot, dot] then
    match l.names with
    | _ :: names => { l with names := names }
    | [] => if l.absolute then l else { l with ups := l.ups + 1 }
  else { l with names := piece :: l.names }

/-- `file` is an entry of `dir`. -/
def IsChild (dir file : Location) : Prop :=
  ∃ name, file = { dir with names := name :: dir.names }

theorem IsChild.length {dir file : Location} (h : dir.IsChild file) :
    file.names.length = dir.names.length + 1 := by
  obtain ⟨name, rfl⟩ := h
  rfl

theorem push_name {piece : Bytes} (h : piece ≠ []) (h' : piece ≠ [dot])
    (h'' : piece ≠ [dot, dot]) (l : Location) :
    l.push piece = { l with names := piece :: l.names } := by
  unfold push
  rw [if_neg (by tauto), if_neg h'']

end Location

def resolve (path : Bytes) : Location :=
  (path.splitOn slash).foldl Location.push
    { absolute := path.head? = some slash, ups := 0, names := [] }

/-- A path goes on from the directory it starts with. -/
theorem resolve_append {dir : Bytes} (h : dir ≠ []) (rest : Bytes) :
    resolve (dir ++ slash :: rest) = (rest.splitOn slash).foldl Location.push (resolve dir) := by
  unfold resolve
  rw [List.splitOn_append_cons_self, List.foldl_append, List.head?_append_of_ne_nil _ h]

/-! ## Pieces that stay inside -/

/-- The names the pieces come down to, if no `..` takes off a name that is not theirs. -/
def within : List Bytes → List Bytes → Option (List Bytes)
  | [], names => some names
  | piece :: pieces, names =>
    if piece = [] ∨ piece = [dot] then within pieces names
    else if piece = [dot, dot] then if names = [] then none else within pieces names.tail
    else within pieces (piece :: names)

/-- A path text that stays inside and comes down to one name. -/
def Inside (text name : Bytes) : Prop := within (text.splitOn slash) [] = some [name]

instance (text name : Bytes) : Decidable (Inside text name) :=
  inferInstanceAs (Decidable (_ = some [name]))

/-- Pieces that stay inside leave the place itself alone. -/
theorem foldl_push_of_within {pieces names names' : List Bytes}
    (h : within pieces names = some names') (l : Location) :
    pieces.foldl Location.push { l with names := names ++ l.names } =
      { l with names := names' ++ l.names } := by
  induction pieces generalizing names with
  | nil =>
    cases h
    rfl
  | cons piece pieces ih =>
    rw [within] at h
    rw [List.foldl_cons, Location.push]
    split at h
    · next hnone =>
      rw [if_pos hnone]
      exact ih h
    · next hnone =>
      rw [if_neg hnone]
      split at h
      · next hup =>
        rw [if_pos hup]
        cases names with
        | nil => cases h
        | cons name names => exact ih (by simpa using h)
      · next hup =>
        rw [if_neg hup]
        exact ih h

/-- Where there are fewer names than the pieces take off, a name of the place goes for good. -/
theorem not_mem_foldl_push {pieces : List Bytes} {name : Bytes} (hnew : name ∉ pieces)
    {l : Location} (hl : name ∉ l.names) : name ∉ (pieces.foldl Location.push l).names := by
  induction pieces generalizing l with
  | nil => exact hl
  | cons piece pieces ih =>
    rw [List.mem_cons, not_or] at hnew
    refine ih hnew.2 ?_
    unfold Location.push
    split
    · exact hl
    · split
      · split
        · next heq => exact fun hm => hl (heq ▸ List.mem_cons_of_mem _ hm)
        · split <;> exact hl
      · exact fun hm => (List.mem_cons.mp hm).elim hnew.1 hl

theorem not_mem_of_leaves {pieces names : List Bytes} {name : Bytes} (hnew : name ∉ pieces)
    (hnames : name ∉ names) (h : within pieces names = none) {l : Location}
    (hl : l.names = names ++ [name]) : name ∉ (pieces.foldl Location.push l).names := by
  induction pieces generalizing names l with
  | nil => cases h
  | cons piece pieces ih =>
    rw [List.mem_cons, not_or] at hnew
    rw [within] at h
    rw [List.foldl_cons]
    split at h
    · next hnone =>
      rw [Location.push, if_pos hnone]
      exact ih hnew.2 hnames h hl
    · next hnone =>
      split at h
      · next hup =>
        rw [Location.push, if_neg hnone, if_pos hup, hl]
        cases names with
        | cons x names =>
          exact ih hnew.2 (fun hm => hnames (List.mem_cons_of_mem _ hm)) (by simpa using h) rfl
        | nil =>
          -- the name itself is taken off
          exact not_mem_foldl_push hnew.2 List.not_mem_nil
      · next hup =>
        rw [Location.push, if_neg hnone, if_neg hup]
        refine ih hnew.2 (fun hm => (List.mem_cons.mp hm).elim hnew.1 hnames) h ?_
        rw [hl, List.cons_append]

/-! ## Entries of a directory -/

/-- A text that stays inside leads to an entry, whatever the directory. -/
theorem Inside.resolve_eq {text name : Bytes} (h : Inside text name) {dir : Bytes}
    (hdir : dir ≠ []) :
    resolve (dir ++ slash :: text) =
      { resolve dir with names := name :: (resolve dir).names } := by
  rw [resolve_append hdir]
  exact foldl_push_of_within h (resolve dir)

/-- A name of the letter `x` that is longer than every piece. -/
def longName (pieces : List Bytes) : Bytes := List.replicate ((pieces.map List.length).sum + 3) 120

theorem longName_not_mem (pieces : List Bytes) : longName pieces ∉ pieces := by
  intro hm
  have hle := List.single_le_sum (fun _ _ => Nat.zero_le _) _
    (List.mem_map_of_mem (f := List.length) hm)
  unfold longName at hle
  rw [List.length_replicate] at hle
  omega

theorem resolve_longName (pieces : List Bytes) :
    resolve (longName pieces) = { absolute := false, ups := 0, names := [longName pieces] } := by
  have hlen : (longName pieces).length = (pieces.map List.length).sum + 3 := List.length_replicate
  have hslash : slash ∉ longName pieces := by
    intro hm
    exact absurd (List.eq_of_mem_replicate hm) (by decide)
  unfold resolve
  rw [List.splitOn_eq_singleton hslash, List.foldl_cons, List.foldl_nil, Location.push_name]
  · congr
  · intro h
    rw [h] at hlen
    simp at hlen
  · intro h
    rw [h] at hlen
    simp at hlen
  · intro h
    rw [h] at hlen
    simp at hlen

/-- **A text that leads to entries only stays inside**: a directory with a new name shows it. -/
theorem inside_of_isChild {text : Bytes}
    (h : ∀ dir : Bytes, dir ≠ [] → 0 ∉ dir →
      (resolve dir).IsChild (resolve (dir ++ slash :: text))) :
    ∃ name, Inside text name := by
  have hnew := longName_not_mem (text.splitOn slash)
  have hplace := resolve_longName (text.splitOn slash)
  set dir := longName (text.splitOn slash)
  have hdir : dir ≠ [] := by
    intro hnil
    have hlen : dir.length = _ := List.length_replicate
    rw [hnil] at hlen
    simp at hlen
  have hzero : (0 : UInt8) ∉ dir := fun hm =>
    absurd (List.eq_of_mem_replicate hm) (by decide)
  obtain ⟨name, hname⟩ := h dir hdir hzero
  rw [resolve_append hdir, hplace] at hname
  cases hwithin : within (text.splitOn slash) [] with
  | none =>
    have hgone := not_mem_of_leaves hnew List.not_mem_nil hwithin
      (l := { absolute := false, ups := 0, names := [dir] }) rfl
    rw [hname] at hgone
    simp at hgone
  | some names =>
    have hstay := foldl_push_of_within hwithin { absolute := false, ups := 0, names := [dir] }
    rw [List.nil_append, hname] at hstay
    simp only [Location.mk.injEq, true_and] at hstay
    refine ⟨name, ?_⟩
    unfold Inside
    rw [hwithin]
    have hnames : [name] ++ [dir] = names ++ [dir] := hstay
    rw [List.append_cancel_right hnames]

end Infra
