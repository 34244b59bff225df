import SipGateway.Infra.Text
import SipGateway.Sip.Parser

/-!
# Folded header fields

A field of a header may go on over several lines: those that start with a space or a tab. Here a
header block is read as a list of fields, each a line with the lines that continue it, and
`SipParser::parse` is followed field by field.

`unfoldedDatagram` writes every field on one line. A continuation in front of the first field
continues nothing; the parser passes over it, and it is not written again.
-/

namespace SipGateway

open Infra

/-- A field of a header block: its line, and the lines that continue it. -/
structure FoldedField where
  line : Bytes
  folds : List Bytes
deriving DecidableEq, Repr

namespace FoldedField

/-- The name, as the parser keeps it. -/
def name (f : FoldedField) : Bytes := (trim (f.line.takeWhile (· != colon))).map toLower

/-- The value on the line of the field itself. -/
def value (f : FoldedField) : Bytes := trim ((f.line.dropWhile (· != colon)).drop 1)

/-- What the continuations put behind the value. -/
def text (f : FoldedField) : Bytes := f.folds.flatMap fun fold => sp :: trim fold

/-- The field on one line. -/
def joined (f : FoldedField) : Bytes :=
  if f.folds = [] then f.line else f.line.rdropWhile isBlank ++ f.text

/-- The fields of a header block. -/
def ofLines : List Bytes → List FoldedField
  | [] => []
  | l :: ls =>
    if SipParser.isFolded l then ofLines ls
    else { line := l, folds := ls.takeWhile SipParser.isFolded } :: ofLines ls

end FoldedField

/-- The lines of the header block, and what follows it, from its empty line on. -/
def splitBlock : List (Bytes × Bytes) → List Bytes × Bytes
  | [] => ([], [])
  | (line, rest) :: more =>
    if (stripCr line).isEmpty then ([], cr :: nl :: rest)
    else (stripCr line :: (splitBlock more).1, (splitBlock more).2)

/-- The header block of a datagram. -/
def headerBlock (buffer : Bytes) : List Bytes := (splitBlock (getlines buffer).tail).1

/-- A header block of fields and continuations only. -/
def IsFieldBlock (block : List Bytes) : Prop :=
  ∀ line ∈ block, SipParser.isFolded line = true ∨ colon ∈ line

instance (block : List Bytes) : Decidable (IsFieldBlock block) :=
  inferInstanceAs (Decidable (∀ line ∈ block, _))

/-- The text of a header block, every field on one line. -/
def unfoldedBlock (block : List Bytes) : Bytes :=
  (FoldedField.ofLines block).flatMap fun f => f.joined ++ [cr, nl]

/-- The datagram with every field on one line. -/
def unfoldedDatagram (buffer : Bytes) : Bytes :=
  match getlines buffer with
  | [] => []
  | (line, _) :: more => line ++ nl :: (unfoldedBlock (splitBlock more).1 ++ (splitBlock more).2)

namespace SipParser

/-! ## The header loop over a block -/

/-- The headers and the last name, without the Content-Length. -/
def headersOf (st : HeaderState) : Multimap Bytes Bytes × Bytes := (st.msg.headers, st.lastName)

/-- What one line does to them. -/
def readLine (h : Multimap Bytes Bytes × Bytes) (line : Bytes) : Multimap Bytes Bytes × Bytes :=
  if isFolded line then
    if h.2 = [] then h else (h.1.modifyFirst h.2 (· ++ [sp] ++ trim line), h.2)
  else
    let f : FoldedField := { line := line, folds := [] }
    (h.1.insert f.name f.value, f.name)

/-- The header loop takes a line as it stands there. -/
theorem headerLine_readLine {st st' : HeaderState} {line : Bytes}
    (hline : isFolded line = true ∨ colon ∈ line) (h : headerLine st line = .ok st') :
    headersOf st' = readLine (headersOf st) line := by
  unfold headerLine at h
  unfold readLine
  by_cases hfold : isFolded line = true
  · rw [if_pos hfold] at h ⊢
    by_cases hlast : st.lastName = []
    · rw [if_pos (by rw [hlast]; rfl)] at h
      cases h
      exact (if_pos hlast).symm
    · rw [if_neg (by rw [List.isEmpty_iff]; exact hlast)] at h
      cases h
      exact (if_neg hlast).symm
  · rw [if_neg hfold] at h ⊢
    have hcolon := hline.resolve_left hfold
    cases hpos : findByte colon line 0 with
    | none => exact absurd hcolon (findByte_eq_none.mp hpos)
    | some pos =>
      obtain ⟨a, b, rfl, ha, rfl⟩ := findByte_eq_some.mp hpos
      obtain ⟨htake, hdrop⟩ := takeWhile_bne_append ha b
      rw [hpos] at h
      simp only at h
      rw [substr_of_le _ (Nat.zero_le _), substrFrom_of_le (by simp)] at h
      simp only [bind, Except.bind, pure, Except.pure, Except.ok.injEq, List.drop_zero,
        List.take_left] at h
      subst h
      have hvalue : (a ++ colon :: b).drop (a.length + 1) = b := by
        rw [← List.drop_drop, List.drop_left]
        rfl
      simp only [headersOf, SipMessage.addHeader, FoldedField.name, FoldedField.value, htake,
        hdrop, hvalue, List.drop_succ_cons, List.drop_zero]

/-- The header loop reads the block and goes no further. -/
theorem headerLoop_block (ls : List (Bytes × Bytes)) (hblock : IsFieldBlock (splitBlock ls).1)
    {st : HeaderState} {r : HeaderState × Bytes} (h : headerLoop ls st = .ok r) :
    headersOf r.1 = (splitBlock ls).1.foldl readLine (headersOf st) := by
  induction ls generalizing st with
  | nil =>
    cases h
    rfl
  | cons p more ih =>
    obtain ⟨line, rest⟩ := p
    rw [headerLoop] at h
    rw [splitBlock] at hblock ⊢
    split at h
    · next hempty =>
      cases h
      rw [if_pos hempty]
      rfl
    · next hne =>
      rw [if_neg hne] at hblock ⊢
      obtain ⟨st', hst'⟩ := headerLine_total st (stripCr line)
      rw [hst'] at h
      rw [List.foldl_cons, ← headerLine_readLine (hblock _ List.mem_cons_self) hst']
      exact ih (fun l hl => hblock l (List.mem_cons_of_mem _ hl)) h

/-! ## The block as a list of fields -/

/-- Some continuations of the field named last. -/
def readFolds (m : Multimap Bytes Bytes) (name : Bytes) (folds : List Bytes) :
    Multimap Bytes Bytes :=
  (folds.foldl readLine (m, name)).1

/-- A field with its continuations. -/
def addField (m : Multimap Bytes Bytes) (f : FoldedField) : Multimap Bytes Bytes :=
  readFolds (m.insert f.name f.value) f.name f.folds

theorem readLine_folded {l : Bytes} (h : isFolded l = true) (m : Multimap Bytes Bytes)
    (name : Bytes) :
    readLine (m, name) l = (if name = [] then m else
      m.modifyFirst name (· ++ [sp] ++ trim l), name) := by
  unfold readLine
  rw [if_pos h]
  by_cases hn : name = [] <;> simp [hn]

/-- Continuations in front of the first field are passed over. -/
theorem readFolds_nil_name {folds : List Bytes} (m : Multimap Bytes Bytes)
    (h : ∀ fold ∈ folds, isFolded fold = true) : readFolds m [] folds = m := by
  unfold readFolds
  induction folds with
  | nil => rfl
  | cons fold folds ih =>
    rw [List.foldl_cons, readLine_folded (h fold List.mem_cons_self), if_pos rfl]
    exact ih fun x hx => h x (List.mem_cons_of_mem _ hx)

/-- Lines read one after the other are fields read one after the other. -/
theorem foldl_readLine (ls : List Bytes) (m : Multimap Bytes Bytes) (name : Bytes) :
    (ls.foldl readLine (m, name)).1 =
      (FoldedField.ofLines ls).foldl addField
        (readFolds m name (ls.takeWhile isFolded)) := by
  induction ls generalizing m name with
  | nil => rfl
  | cons l ls ih =>
    rw [List.foldl_cons, FoldedField.ofLines]
    by_cases hfold : isFolded l = true
    · rw [if_pos hfold, readLine_folded hfold, ih, List.takeWhile_cons_of_pos hfold]
      unfold readFolds
      rw [List.foldl_cons, readLine_folded hfold]
    · rw [if_neg hfold, List.takeWhile_cons_of_neg hfold, List.foldl_cons]
      have hline : readLine (m, name) l =
          (m.insert (FoldedField.name { line := l, folds := ls.takeWhile isFolded })
            (FoldedField.value { line := l, folds := ls.takeWhile isFolded }),
           FoldedField.name { line := l, folds := ls.takeWhile isFolded }) := by
        unfold readLine
        rw [if_neg hfold]
        rfl
      rw [hline, ih]
      rfl

/-- Every line among the continuations of a field is one. -/
theorem folds_folded {ls : List Bytes} {f : FoldedField} (h : f ∈ FoldedField.ofLines ls) :
    ∀ fold ∈ f.folds, isFolded fold = true := by
  induction ls with
  | nil => simp [FoldedField.ofLines] at h
  | cons l ls ih =>
    rw [FoldedField.ofLines] at h
    split at h
    · exact ih h
    · rcases List.mem_cons.mp h with rfl | h
      · exact fun fold hfold => List.mem_takeWhile_imp hfold
      · exact ih h

/-! ## What the fields leave in the headers -/

theorem modifyHead_append_of_ne_nil {l : List Bytes} (h : l ≠ []) (l' : List Bytes)
    (f : Bytes → Bytes) : l.modifyHead f ++ l' = (l ++ l').modifyHead f := by
  cases l with
  | nil => exact absurd rfl h
  | cons x l => rfl

theorem modifyHead_append_append (l : List Bytes) (t t' : Bytes) :
    (l.modifyHead (· ++ t)).modifyHead (· ++ t') = l.modifyHead (· ++ (t ++ t')) := by
  cases l <;> simp

theorem modifyHead_append_nil (l : List Bytes) : l.modifyHead (· ++ []) = l := by
  cases l <;> simp

/-- Continuations go to the first field of the name, and nowhere without a name. -/
theorem equalRange_readFolds {name : Bytes} {folds : List Bytes}
    (h : ∀ fold ∈ folds, isFolded fold = true) (m : Multimap Bytes Bytes) (k : Bytes) :
    (readFolds m name folds).equalRange k =
      if k = name ∧ name ≠ [] then
        (m.equalRange k).modifyHead (· ++ folds.flatMap fun fold => sp :: trim fold)
      else m.equalRange k := by
  induction folds generalizing m with
  | nil =>
    rw [List.flatMap_nil, modifyHead_append_nil]
    exact (ite_self _).symm
  | cons fold folds ih =>
    have hrest := ih fun x hx => h x (List.mem_cons_of_mem _ hx)
    unfold readFolds at hrest ⊢
    rw [List.foldl_cons, readLine_folded (h fold List.mem_cons_self), hrest]
    by_cases hk : k = name ∧ name ≠ []
    · rw [if_pos hk, if_pos hk, if_neg hk.2, Multimap.equalRange_modifyFirst, if_pos hk.1.symm]
      have hassoc : (fun v : Bytes => v ++ [sp] ++ trim fold) = (· ++ (sp :: trim fold)) := by
        funext v
        simp
      rw [hassoc, modifyHead_append_append, List.flatMap_cons]
    · rw [if_neg hk, if_neg hk]
      split
      · rfl
      · next hne =>
        rw [Multimap.equalRange_modifyFirst, if_neg fun he => hk ⟨he.symm, hne⟩]

/-- One field: its value at the end of the range, its continuations at the head. -/
theorem equalRange_addField {f : FoldedField} (h : ∀ fold ∈ f.folds, isFolded fold = true)
    (m : Multimap Bytes Bytes) (k : Bytes) :
    (addField m f).equalRange k =
      if f.name = k then
        if k = [] then m.equalRange k ++ [f.value]
        else (m.equalRange k ++ [f.value]).modifyHead (· ++ f.text)
      else m.equalRange k := by
  unfold addField
  rw [equalRange_readFolds h, Multimap.equalRange_insert]
  by_cases hk : f.name = k
  · subst hk
    by_cases hne : f.name = [] <;> simp [hne, FoldedField.text]
  · simp [hk, Ne.symm hk]

/-- The fields of one name. -/
def fieldsNamed (fields : List FoldedField) (k : Bytes) : List FoldedField :=
  fields.filter fun f => f.name = k

/--
**What the fields of a block leave in the headers**: the values in order, and all continuations
of a name behind its first value.
-/
theorem equalRange_addFields {fields : List FoldedField}
    (h : ∀ f ∈ fields, ∀ fold ∈ f.folds, isFolded fold = true) (m : Multimap Bytes Bytes)
    (k : Bytes) :
    (fields.foldl addField m).equalRange k =
      if k = [] then m.equalRange k ++ (fieldsNamed fields k).map FoldedField.value
      else (m.equalRange k ++ (fieldsNamed fields k).map FoldedField.value).modifyHead
        (· ++ (fieldsNamed fields k).flatMap FoldedField.text) := by
  induction fields generalizing m with
  | nil =>
    unfold fieldsNamed
    rw [List.filter_nil, List.map_nil, List.append_nil, List.flatMap_nil, modifyHead_append_nil]
    exact (ite_self _).symm
  | cons f fields ih =>
    rw [List.foldl_cons, ih fun x hx => h x (List.mem_cons_of_mem _ hx),
      equalRange_addField (h f List.mem_cons_self)]
    unfold fieldsNamed
    by_cases hk : f.name = k
    · rw [if_pos hk, List.filter_cons_of_pos (by simpa using hk), List.map_cons,
        List.flatMap_cons]
      by_cases hne : k = []
      · simp only [if_pos hne, List.append_assoc, List.singleton_append]
      · simp only [if_neg hne]
        rw [modifyHead_append_of_ne_nil (by simp), modifyHead_append_append, List.append_assoc,
          List.singleton_append]
    · rw [if_neg hk, List.filter_cons_of_neg (by simpa using hk)]

end SipParser

end SipGateway
