import SipGateway.Sip.Folding

/-!
# Folded fields and unfolded ones

A continuation line is put behind the value that `headers.find(lastName)` points to: the first
field of that name. `folded_headers_iff` says for which header blocks this is the same as
writing every field on one line.
-/

namespace SipGateway

open Infra SipParser

namespace FoldedField

/-- A field as it comes out of a header block. -/
structure Ok (f : FoldedField) : Prop where
  start : SipParser.isFolded f.line = false
  colon : colon ∈ f.line
  line : nl ∉ f.line
  folds : ∀ fold ∈ f.folds, SipParser.isFolded fold = true ∧ nl ∉ fold

theorem ok_of_mem_ofLines {block : List Bytes} (hblock : IsFieldBlock block)
    (hnl : ∀ l ∈ block, nl ∉ l) {f : FoldedField} (h : f ∈ ofLines block) : f.Ok := by
  induction block with
  | nil => simp [ofLines] at h
  | cons l ls ih =>
    have hrest := ih (fun x hx => hblock x (List.mem_cons_of_mem _ hx))
      fun x hx => hnl x (List.mem_cons_of_mem _ hx)
    rw [ofLines] at h
    split at h
    · exact hrest h
    · next hfold =>
      rcases List.mem_cons.mp h with rfl | h
      · refine ⟨by simpa using hfold, (hblock l List.mem_cons_self).resolve_left hfold,
          hnl l List.mem_cons_self, fun fold hfold' => ?_⟩
        exact ⟨List.mem_takeWhile_imp hfold',
          hnl fold (List.mem_cons_of_mem _ ((List.takeWhile_sublist _).mem hfold'))⟩
      · exact hrest h

/-! ## The field on one line -/

variable {f : FoldedField}

/-- The line at its colon. -/
theorem Ok.line_eq (h : f.Ok) : ∃ a b, f.line = a ++ Infra.colon :: b ∧ Infra.colon ∉ a := by
  obtain ⟨pos, hpos⟩ := Option.ne_none_iff_exists'.mp
    fun hnone => findByte_eq_none.mp hnone h.colon
  obtain ⟨a, b, hline, ha, -⟩ := findByte_eq_some.mp hpos
  exact ⟨a, b, hline, ha⟩

/-- A field whose name and value are given by its line. -/
theorem name_value_eq {a : Bytes} (ha : Infra.colon ∉ a) (b : Bytes) (folds : List Bytes) :
    name { line := a ++ Infra.colon :: b, folds := folds } = (trim a).map toLower ∧
    value { line := a ++ Infra.colon :: b, folds := folds } = trim b := by
  unfold name value
  dsimp only
  rw [(takeWhile_bne_append ha b).1, (takeWhile_bne_append ha b).2]
  exact ⟨rfl, rfl⟩

theorem rdropWhile_append_colon (a b : Bytes) :
    (a ++ Infra.colon :: b).rdropWhile isBlank = a ++ Infra.colon :: b.rdropWhile isBlank := by
  induction a with
  | nil =>
    rw [List.nil_append, rdropWhile_cons, if_neg (fun h => absurd h.2 (by decide)),
      List.nil_append]
  | cons c a ih =>
    rw [List.cons_append, rdropWhile_cons, ih, if_neg (fun h => by simp at h), List.cons_append]

/-- The joined line is the line up to the colon, and some text. -/
theorem joined_eq {a b : Bytes} (hline : f.line = a ++ Infra.colon :: b) :
    ∃ b', f.joined = a ++ Infra.colon :: b' ∧ trim b' = trim (trim b ++ f.text) := by
  unfold joined
  split
  · next hnil =>
    refine ⟨b, hline, ?_⟩
    rw [text, hnil, List.flatMap_nil, List.append_nil, trim_trim]
  · refine ⟨b.rdropWhile isBlank ++ f.text, ?_, (trim_trim_append b f.text).symm⟩
    rw [hline, rdropWhile_append_colon, List.append_assoc, List.cons_append]

/-- The field without continuations that the joined line is. -/
def unfold (f : FoldedField) : FoldedField := { line := f.joined, folds := [] }

/-- Joining keeps the name, and the value is what it was with the continuations behind it. -/
theorem Ok.unfold_name_value (h : f.Ok) :
    f.unfold.name = f.name ∧ trim f.unfold.value = trim (f.value ++ f.text) := by
  obtain ⟨a, b, hline, ha⟩ := h.line_eq
  obtain ⟨b', hjoined, htrim⟩ := joined_eq hline
  have hfield : f = { line := a ++ Infra.colon :: b, folds := f.folds } := by rw [← hline]
  have hname := name_value_eq ha b f.folds
  rw [← hfield] at hname
  have hname' := name_value_eq ha b' []
  rw [unfold, hjoined, hname'.1, hname'.2, hname.1, hname.2, trim_trim, htrim]
  exact ⟨rfl, rfl⟩

theorem nl_not_mem_text (h : f.Ok) : nl ∉ f.text := by
  intro hm
  obtain ⟨fold, hfold, hm⟩ := List.mem_flatMap.mp hm
  rcases List.mem_cons.mp hm with he | hm
  · exact absurd he (by decide)
  · exact (h.folds fold hfold).2 (mem_of_mem_trim hm)

/-- The joined line is a field again. -/
theorem Ok.unfold (h : f.Ok) : f.unfold.Ok := by
  obtain ⟨a, b, hline, ha⟩ := h.line_eq
  obtain ⟨b', hjoined, -⟩ := joined_eq hline
  refine ⟨?_, ?_, ?_, by simp [FoldedField.unfold]⟩
  · -- it starts as the line of the field does
    have hstart := h.start
    rw [hline] at hstart
    show SipParser.isFolded f.joined = false
    rw [hjoined]
    cases a with
    | nil => rfl
    | cons c a => exact hstart
  · show Infra.colon ∈ f.joined
    rw [hjoined]
    simp
  · show nl ∉ f.joined
    unfold joined
    split
    · exact h.line
    · rw [List.mem_append, not_or]
      exact ⟨fun hm => h.line ((List.rdropWhile_prefix _ _).subset hm), nl_not_mem_text h⟩

theorem Ok.joined_ne_nil (h : f.Ok) : f.joined ≠ [] := by
  intro hnil
  have hcolon : Infra.colon ∈ f.joined := h.unfold.colon
  rw [hnil] at hcolon
  cases hcolon

/-- Lines that are no continuations are fields without continuations. -/
theorem ofLines_map_joined {fields : List FoldedField} (h : ∀ f ∈ fields, f.Ok) :
    ofLines (fields.map joined) = fields.map FoldedField.unfold := by
  induction fields with
  | nil => rfl
  | cons f fields ih =>
    have hrest := ih fun x hx => h x (List.mem_cons_of_mem _ hx)
    have hstart : SipParser.isFolded f.joined = false := (h f List.mem_cons_self).unfold.start
    have hnone : (fields.map joined).takeWhile SipParser.isFolded = [] := by
      cases fields with
      | nil => rfl
      | cons g fields =>
        have hg : SipParser.isFolded g.joined = false :=
          (h g (List.mem_cons_of_mem _ List.mem_cons_self)).unfold.start
        rw [List.map_cons, List.takeWhile_cons_of_neg (by rw [hg]; exact Bool.false_ne_true)]
    rw [List.map_cons, ofLines, hstart, if_neg Bool.false_ne_true, hrest, hnone]
    rfl

end FoldedField

/-! ## The two datagrams -/

section Datagrams

variable {fields : List FoldedField} {tail : Bytes}

/-- What follows a header block: nothing, or its empty line. -/
theorem splitBlock_tail (ls : List (Bytes × Bytes)) :
    (splitBlock ls).2 = [] ∨ ∃ rest, (splitBlock ls).2 = cr :: nl :: rest := by
  induction ls with
  | nil => exact Or.inl rfl
  | cons p more ih =>
    obtain ⟨line, rest⟩ := p
    rw [splitBlock]
    split
    · exact Or.inr ⟨rest, rfl⟩
    · exact ih

theorem splitBlock_nl {ls : List (Bytes × Bytes)} (h : ∀ p ∈ ls, nl ∉ p.1) :
    ∀ l ∈ (splitBlock ls).1, nl ∉ l := by
  induction ls with
  | nil => simp [splitBlock]
  | cons p more ih =>
    obtain ⟨line, rest⟩ := p
    have hrest := ih fun x hx => h x (List.mem_cons_of_mem _ hx)
    rw [splitBlock]
    split
    · simp
    · intro l hl
      rcases List.mem_cons.mp hl with rfl | hl
      · exact fun hm => h _ List.mem_cons_self (mem_of_mem_stripCr hm)
      · exact hrest l hl

/-- The block of a text of joined lines. -/
theorem splitBlock_joined (h : ∀ f ∈ fields, f.Ok)
    (htail : tail = [] ∨ ∃ rest, tail = cr :: nl :: rest) :
    (splitBlock (getlines ((fields.flatMap fun f => f.joined ++ [cr, nl]) ++ tail))).1 =
      fields.map FoldedField.joined := by
  induction fields with
  | nil =>
    rcases htail with rfl | ⟨rest, rfl⟩
    · rfl
    · rw [List.flatMap_nil, List.nil_append, show cr :: nl :: rest = [cr] ++ nl :: rest from rfl,
        getlines_append_nl (by decide), splitBlock]
      rfl
  | cons f fields ih =>
    have hf := h f List.mem_cons_self
    have hnl : nl ∉ f.joined ++ [cr] := by
      rw [List.mem_append, not_or]
      exact ⟨hf.unfold.line, by decide⟩
    have htext : ((f :: fields).flatMap fun f => f.joined ++ [cr, nl]) ++ tail =
        (f.joined ++ [cr]) ++ nl :: ((fields.flatMap fun f => f.joined ++ [cr, nl]) ++ tail) := by
      simp
    rw [htext, getlines_append_nl hnl, splitBlock, stripCr_append_cr,
      if_neg (by rw [List.isEmpty_iff]; exact hf.joined_ne_nil),
      ih fun x hx => h x (List.mem_cons_of_mem _ hx), List.map_cons]

/-- The unfolded datagram has the same first line. -/
theorem getlines_unfoldedDatagram {buffer line rest : Bytes} {more : List (Bytes × Bytes)}
    (hlines : getlines buffer = (line, rest) :: more) :
    getlines (unfoldedDatagram buffer) =
      (line, unfoldedBlock (splitBlock more).1 ++ (splitBlock more).2) ::
        getlines (unfoldedBlock (splitBlock more).1 ++ (splitBlock more).2) := by
  have hnl : nl ∉ line :=
    nl_not_mem_of_getlines (p := (line, rest)) (hlines ▸ List.mem_cons_self)
  unfold unfoldedDatagram
  rw [hlines]
  exact getlines_append_nl hnl _

end Datagrams

/-! ## Where continuations end up -/

/-- Whether the continuations of a field say anything. -/
def FoldedField.Continues (f : FoldedField) : Prop := ¬ AllBlank f.text

instance (f : FoldedField) : Decidable f.Continues := inferInstanceAs (Decidable (¬ _))

/--
Every field that is continued has a name, and none of that name before it.

Continuations that are all blank do not count.
-/
structure FoldsLand (fields : List FoldedField) : Prop where
  first : fields.Pairwise fun earlier f => earlier.name = f.name → ¬ f.Continues
  named : ∀ f ∈ fields, f.name = [] → ¬ f.Continues

/-- The values of one name, folded and unfolded, up to blanks around them. -/
def SameValues (fields : List FoldedField) (k : Bytes) : Prop :=
  (if k = [] then (fieldsNamed fields k).map FoldedField.value
    else ((fieldsNamed fields k).map FoldedField.value).modifyHead
      (· ++ (fieldsNamed fields k).flatMap FoldedField.text)).map trim =
    (fieldsNamed fields k).map fun f => trim (f.value ++ f.text)

/-- Values agree one by one when nothing is put behind any of them. -/
theorem map_trim_eq_iff (fs : List FoldedField) :
    (fs.map FoldedField.value).map trim = fs.map (fun f => trim (f.value ++ f.text)) ↔
      ∀ f ∈ fs, ¬ f.Continues := by
  rw [List.map_map, List.map_inj_left]
  refine forall_congr' fun f => imp_congr_right fun _ => ?_
  rw [FoldedField.Continues, not_not, ← trim_append_eq_iff f.value f.text]
  exact eq_comm

theorem sameValues_iff_of_name {fields : List FoldedField} {k : Bytes} (hk : k ≠ []) :
    SameValues fields k ↔ ∀ f ∈ (fieldsNamed fields k).tail, ¬ f.Continues := by
  unfold SameValues
  rw [if_neg hk]
  cases fieldsNamed fields k with
  | nil => simp
  | cons f fs =>
    simp only [List.map_cons, List.modifyHead_cons, List.tail_cons, List.cons.injEq]
    rw [map_trim_eq_iff]
    refine and_iff_right_of_imp fun h => ?_
    -- the continuations of the others are blank, and so do nothing to the first
    have hblank : AllBlank (fs.flatMap FoldedField.text) := by
      intro b hb
      obtain ⟨g, hg, hb⟩ := List.mem_flatMap.mp hb
      exact not_not.mp (h g hg) b hb
    rw [List.flatMap_cons, ← List.append_assoc, trim_append_eq_iff]
    exact hblank

theorem sameValues_nil_iff {fields : List FoldedField} :
    SameValues fields [] ↔ ∀ f ∈ fields, f.name = [] → ¬ f.Continues := by
  unfold SameValues
  rw [if_pos rfl, map_trim_eq_iff]
  simp only [fieldsNamed, List.mem_filter, decide_eq_true_eq, and_imp]

/-- **Field by field and name by name.** -/
theorem foldsLand_iff (fields : List FoldedField) :
    FoldsLand fields ↔ ∀ k, SameValues fields k := by
  constructor
  · intro h k
    by_cases hk : k = []
    · subst hk
      exact sameValues_nil_iff.mpr h.named
    · rw [sameValues_iff_of_name hk]
      have hpair := h.first.filter (fun f => f.name = k)
      intro f hf
      have hname : ∀ g ∈ fieldsNamed fields k, g.name = k := by
        intro g hg
        simpa using (List.mem_filter.mp hg).2
      change (fieldsNamed fields k).Pairwise _ at hpair
      cases hgs : fieldsNamed fields k with
      | nil => rw [hgs] at hf; cases hf
      | cons g gs =>
        rw [hgs] at hf hpair hname
        refine (List.pairwise_cons.mp hpair).1 f hf ?_
        rw [hname g List.mem_cons_self, hname f (List.mem_cons_of_mem _ hf)]
  · intro h
    refine ⟨?_, sameValues_nil_iff.mp (h [])⟩
    rw [List.pairwise_iff_forall_sublist]
    intro f g hfg hname
    by_cases hk : g.name = []
    · exact sameValues_nil_iff.mp (h []) g (hfg.subset (by simp)) hk
    · have hsub := hfg.filter (fun x => x.name = g.name)
      simp only [List.filter_cons, hname, decide_true, if_true, List.filter_nil] at hsub
      refine (sameValues_iff_of_name hk).mp (h g.name) g ?_
      change [f, g].Sublist (fieldsNamed fields g.name) at hsub
      cases hgs : fieldsNamed fields g.name with
      | nil => rw [hgs] at hsub; simp at hsub
      | cons x gs =>
        rw [hgs] at hsub
        have htail := hsub.tail
        exact htail.subset List.mem_cons_self

/-! ## The headers of both -/

/-- The headers that a datagram is read as, values up to blanks around them. -/
def headersRead (buffer : Bytes) : Option (Multimap Bytes Bytes) :=
  match parse buffer with
  | .ok (some msg) => some (msg.headers.mapValues trim)
  | _ => none

/-- Whether the first line is one of a message. -/
def StartsMessage (buffer : Bytes) : Prop :=
  ∃ line rest more start, getlines buffer = (line, rest) :: more ∧
    parseFirstLine (stripCr line) = .ok (some start)

theorem headersRead_eq_none {buffer : Bytes} (h : ¬ StartsMessage buffer) :
    headersRead buffer = none := by
  unfold headersRead
  split
  · next msg hmsg =>
    obtain ⟨line, rest, more, start, r, hlines, hstart, -, -⟩ := parse_eq_some hmsg
    exact absurd ⟨line, rest, more, start, hlines, hstart⟩ h
  · rfl

/-- The headers are what the fields of the block are put together to. -/
theorem headersRead_of_lines {buffer line rest : Bytes} {more : List (Bytes × Bytes)}
    {start : SipMessage} (hlines : getlines buffer = (line, rest) :: more)
    (hstart : parseFirstLine (stripCr line) = .ok (some start))
    (hblock : IsFieldBlock (splitBlock more).1) :
    headersRead buffer = some (((FoldedField.ofLines (splitBlock more).1).foldl addField
      Multimap.empty).mapValues trim) := by
  obtain ⟨r, hr⟩ := headerLoop_total more { msg := start }
  have hheaders : r.1.msg.headers =
      (FoldedField.ofLines (splitBlock more).1).foldl addField Multimap.empty := by
    have hloop := congrArg Prod.fst (headerLoop_block more hblock hr)
    have hempty : headersOf { msg := start } = (Multimap.empty, []) := by
      rw [← parseFirstLine_headers hstart]
      rfl
    rw [hempty, foldl_readLine] at hloop
    have hfolds : readFolds Multimap.empty [] ((splitBlock more).1.takeWhile isFolded) =
        Multimap.empty := readFolds_nil_name _ fun l hl => List.mem_takeWhile_imp hl
    rw [hfolds] at hloop
    exact hloop
  unfold headersRead
  rw [parse_of_lines hlines hstart hr]
  exact congrArg (fun m => some (m.mapValues trim)) hheaders

/-- The fields of one line each leave the values with their continuations. -/
theorem equalRange_unfolded {fields : List FoldedField} (h : ∀ f ∈ fields, f.Ok) (k : Bytes) :
    (((fields.map FoldedField.unfold).foldl addField Multimap.empty).equalRange k).map trim =
      (fieldsNamed fields k).map fun f => trim (f.value ++ f.text) := by
  have hfolds : ∀ f ∈ fields.map FoldedField.unfold, ∀ fold ∈ f.folds,
      isFolded fold = true := by
    intro f hf fold hfold
    obtain ⟨g, -, rfl⟩ := List.mem_map.mp hf
    cases hfold
  have hnamed : fieldsNamed (fields.map FoldedField.unfold) k =
      (fieldsNamed fields k).map FoldedField.unfold := by
    unfold fieldsNamed
    rw [List.filter_map]
    refine congrArg _ (List.filter_congr fun f hf => ?_)
    simp only [Function.comp_apply, ((h f hf).unfold_name_value).1]
  have htext : ((fieldsNamed fields k).map FoldedField.unfold).flatMap FoldedField.text = [] := by
    simp [FoldedField.unfold, FoldedField.text]
  rw [equalRange_addFields hfolds, hnamed, htext, modifyHead_append_nil, ite_self,
    show (Multimap.empty : Multimap Bytes Bytes).equalRange k = [] from rfl, List.nil_append,
    List.map_map, List.map_map]
  refine List.map_congr_left fun f hf => ?_
  exact ((h f (List.mem_of_mem_filter hf)).unfold_name_value).2

/-- The comparison, name by name, when the first line is one of a message. -/
theorem headersRead_unfolded_iff {buffer line rest : Bytes} {more : List (Bytes × Bytes)}
    {start : SipMessage} (hlines : getlines buffer = (line, rest) :: more)
    (hstart : parseFirstLine (stripCr line) = .ok (some start))
    (hblock : IsFieldBlock (splitBlock more).1) :
    headersRead buffer = headersRead (unfoldedDatagram buffer) ↔
      FoldsLand (FoldedField.ofLines (splitBlock more).1) := by
  have hnl : ∀ q ∈ more, nl ∉ q.1 := fun q hq =>
    nl_not_mem_of_getlines (hlines ▸ List.mem_cons_of_mem _ hq)
  have hok : ∀ f ∈ FoldedField.ofLines (splitBlock more).1, f.Ok := fun f hf =>
    FoldedField.ok_of_mem_ofLines hblock (splitBlock_nl hnl) hf
  have hjoined : (splitBlock (getlines (unfoldedBlock (splitBlock more).1 ++
      (splitBlock more).2))).1 = (FoldedField.ofLines (splitBlock more).1).map FoldedField.joined :=
    splitBlock_joined hok (splitBlock_tail more)
  have hfields : IsFieldBlock (splitBlock (getlines (unfoldedBlock (splitBlock more).1 ++
      (splitBlock more).2))).1 := by
    intro l hl
    rw [hjoined] at hl
    obtain ⟨f, hf, rfl⟩ := List.mem_map.mp hl
    exact Or.inr (hok f hf).unfold.colon
  rw [headersRead_of_lines hlines hstart hblock,
    headersRead_of_lines (getlines_unfoldedDatagram hlines) hstart hfields, Option.some_inj,
    Multimap.mapValues_eq_iff, hjoined, FoldedField.ofLines_map_joined hok, foldsLand_iff]
  refine forall_congr' fun k => ?_
  rw [equalRange_unfolded hok, equalRange_addFields fun f hf => folds_folded hf]
  exact Iff.rfl

/--
**Folded headers mean the same as unfolded ones** exactly when no continuation is put behind the
value of another field.

Of a datagram whose first line is that of no message, neither form is read.
-/
theorem folded_headers_iff (buffer : Bytes) (hblock : IsFieldBlock (headerBlock buffer)) :
    headersRead buffer = headersRead (unfoldedDatagram buffer) ↔
      (StartsMessage buffer → FoldsLand (FoldedField.ofLines (headerBlock buffer))) := by
  cases hlines : getlines buffer with
  | nil =>
    have hno : ¬ StartsMessage buffer := by
      rintro ⟨line, rest, more, start, hlines', -⟩
      rw [hlines] at hlines'
      cases hlines'
    have hunfolded : unfoldedDatagram buffer = [] := by
      unfold unfoldedDatagram
      rw [hlines]
    rw [headersRead_eq_none hno, hunfolded]
    exact iff_of_true rfl fun h => absurd h hno
  | cons p more =>
    obtain ⟨line, rest⟩ := p
    have hlines' := getlines_unfoldedDatagram hlines
    have hblockLines : headerBlock buffer = (splitBlock more).1 := by
      unfold headerBlock
      rw [hlines]
      rfl
    rw [hblockLines] at hblock ⊢
    by_cases hstarts : ∃ start, parseFirstLine (stripCr line) = .ok (some start)
    · obtain ⟨start, hstart⟩ := hstarts
      rw [headersRead_unfolded_iff hlines hstart hblock,
        imp_iff_right ⟨line, rest, more, start, hlines, hstart⟩]
    · have hno : ∀ {buffer' rest' more'}, getlines buffer' = (line, rest') :: more' →
          ¬ StartsMessage buffer' := by
        rintro buffer' rest' more' heq ⟨_, _, _, start, heq', hstart⟩
        rw [heq] at heq'
        cases heq'
        exact hstarts ⟨start, hstart⟩
      rw [headersRead_eq_none (hno hlines), headersRead_eq_none (hno hlines')]
      exact iff_of_true rfl fun h => absurd h (hno hlines)

/-- Two Via fields, the second over two lines, and a Subject over three. -/
def foldedVias : Bytes :=
  bytes "OPTIONS sip:x SIP/2.0\r\nVia: a\r\nVia: b\r\n\tc \r\n\r\n"

def foldedSubject : Bytes :=
  bytes "OPTIONS sip:x SIP/2.0\r\nSubject: a\r\n  b \r\n\tc\r\nTo: y\r\n\r\n"

theorem folded_headers_subject :
    headersRead foldedSubject = headersRead (unfoldedDatagram foldedSubject) := by
  have hfields : FoldedField.ofLines (headerBlock foldedSubject) =
      [{ line := bytes "Subject: a", folds := [bytes "  b ", bytes "\tc"] },
        { line := bytes "To: y", folds := [] }] := by decide +kernel
  refine (folded_headers_iff foldedSubject (by decide +kernel)).mpr fun _ => ?_
  rw [hfields]
  refine ⟨?_, ?_⟩
  · simp only [List.pairwise_cons, List.mem_singleton, forall_eq]
    exact ⟨fun h => absurd h (by decide +kernel), by simp⟩
  · decide +kernel

/-- The continuation of the second Via is put behind the first. -/
theorem second_via_folded : IsFieldBlock (headerBlock foldedVias) ∧
    headersRead foldedVias = some ⟨[(bytes "via", bytes "a c"), (bytes "via", bytes "b")],
      by decide +kernel⟩ ∧
    headersRead (unfoldedDatagram foldedVias) =
      some ⟨[(bytes "via", bytes "a"), (bytes "via", bytes "b c")], by decide +kernel⟩ ∧
    headersRead foldedVias ≠ headersRead (unfoldedDatagram foldedVias) := by
  decide +kernel

end SipGateway
