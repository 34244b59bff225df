import SipGateway.Infra.Bytes

/-!
# Text that is read back

What the reading functions of `Infra.Bytes` make of a text a writer has put together:
a line break ends a line, blanks at the ends are trimmed away once, a number in decimals
is the number again.
-/

namespace Infra

/-! ## Lines -/

/-- A line with its line break in front of a text. -/
theorem getlines_append_nl {l : Bytes} (h : nl ∉ l) (rest : Bytes) :
    getlines (l ++ nl :: rest) = (l, rest) :: getlines rest := by
  have hall : ∀ b ∈ l, (b != nl) = true := by
    intro b hb
    rw [bne_iff_ne]
    exact fun he => h (he ▸ hb)
  have hline : getline (l ++ nl :: rest) = some (l, rest) := by
    unfold getline
    rw [if_neg (by simp), List.takeWhile_append_of_pos hall, List.dropWhile_append_of_pos hall]
    simp
  rw [getlines_eq, hline]

/-- No line has a line break in it. -/
theorem nl_not_mem_of_getlines {s : Bytes} {p : Bytes × Bytes} (h : p ∈ getlines s) :
    nl ∉ p.1 := by
  induction s generalizing p with
  | nil => simp [getlines] at h
  | cons c s ih =>
    rw [getlines] at h
    split at h
    · rcases List.mem_cons.mp h with rfl | h
      · simp
      · exact ih h
    · next hc =>
      have hne : ¬ nl = c := fun he => hc (by rw [he, beq_self_eq_true])
      split at h
      · rw [List.mem_singleton] at h
        subst h
        simpa using hne
      · next line rest more hs =>
        rcases List.mem_cons.mp h with rfl | h
        · rw [List.mem_cons, not_or]
          exact ⟨hne, ih (p := (line, rest)) (by rw [hs]; exact List.mem_cons_self)⟩
        · exact ih (by rw [hs]; exact List.mem_cons_of_mem _ h)

theorem mem_of_mem_stripCr {b : UInt8} {line : Bytes} (h : b ∈ stripCr line) : b ∈ line := by
  unfold stripCr at h
  split at h
  · exact List.mem_of_mem_dropLast h
  · exact h

/-- **A text written line by line is read line by line.** -/
theorem lines_flatMap_crlf (ls : List Bytes) (h : ∀ l ∈ ls, nl ∉ l) :
    lines (ls.flatMap (· ++ [cr, nl])) = ls.map (· ++ [cr]) := by
  induction ls with
  | nil => rfl
  | cons l ls ih =>
    have hcr : nl ∉ l ++ [cr] := by
      rw [List.mem_append, not_or]
      exact ⟨h l List.mem_cons_self, by decide⟩
    have htext : (l :: ls).flatMap (· ++ [cr, nl])
        = (l ++ [cr]) ++ nl :: ls.flatMap (· ++ [cr, nl]) := by simp
    rw [htext, lines_append_nl _ _ hcr, ih fun x hx => h x (List.mem_cons_of_mem _ hx),
      List.map_cons]

/-! ## Trimming -/

theorem mem_of_mem_trim {b : UInt8} {s : Bytes} (h : b ∈ trim s) : b ∈ s :=
  (List.dropWhile_sublist _).subset ((List.rdropWhile_prefix _ _).subset h)

/-- A blank in front of a text is trimmed away. -/
theorem trim_cons_blank {b : UInt8} (h : isBlank b = true) (s : Bytes) :
    trim (b :: s) = trim s := by
  unfold trim
  rw [List.dropWhile_cons_of_pos h]

/-- A blank behind a text is trimmed away. -/
theorem trim_append_blank {b : UInt8} (h : isBlank b = true) (s : Bytes) :
    trim (s ++ [b]) = trim s := by
  unfold trim
  rw [List.dropWhile_append]
  split
  · next hnil =>
    have hs : s.dropWhile isBlank = [] := by simpa using hnil
    rw [List.dropWhile_cons_of_pos h, hs]
    rfl
  · rw [List.rdropWhile_concat, if_pos h]

/-- A text that neither starts nor ends with a blank is left alone. -/
theorem trim_eq_self {s : Bytes} (hhead : ∀ b ∈ s.head?, isBlank b = false)
    (hlast : ∀ b ∈ s.getLast?, isBlank b = false) : trim s = s := by
  have hdrop : s.dropWhile isBlank = s := by
    cases s with
    | nil => rfl
    | cons c s => rw [List.dropWhile_cons_of_neg (by rw [hhead c rfl]; exact Bool.false_ne_true)]
  unfold trim
  rw [hdrop, List.rdropWhile_eq_self_iff]
  intro hne
  rw [hlast _ (List.getLast?_eq_some_getLast hne)]
  exact Bool.false_ne_true

/-- Trimming once is trimming for good. -/
theorem trim_trim (s : Bytes) : trim (trim s) = trim s := by
  refine trim_eq_self ?_ ?_
  · intro b hb
    -- the head of a prefix is the head of what was left after the blanks
    have hpre : trim s <+: s.dropWhile isBlank := List.rdropWhile_prefix _ _
    obtain ⟨rest, hrest⟩ := hpre
    have hb' : (s.dropWhile isBlank).head? = some b := by
      rw [← hrest, List.head?_append, hb]
      rfl
    have hnot := List.head?_dropWhile_not isBlank s
    rw [hb'] at hnot
    exact hnot
  · intro b hb
    have hne : trim s ≠ [] := by
      intro h
      rw [h] at hb
      cases hb
    have hnot := List.rdropWhile_last_not _ _ hne
    rw [show b = (trim s).getLast hne from by
      rw [List.getLast?_eq_some_getLast hne] at hb
      exact (Option.some.inj hb).symm]
    exact Bool.eq_false_iff.mpr hnot

theorem rdropWhile_cons (p : UInt8 → Bool) (c : UInt8) (s : Bytes) :
    (c :: s).rdropWhile p =
      if s.rdropWhile p = [] ∧ p c = true then [] else c :: s.rdropWhile p := by
  unfold List.rdropWhile
  rw [List.reverse_cons, List.dropWhile_append]
  by_cases hs : s.reverse.dropWhile p = []
  · by_cases hc : p c = true <;> simp [hs, hc]
  · simp [hs]

/-- The two ends do not get into each other's way. -/
theorem dropWhile_rdropWhile (p : UInt8 → Bool) (s : Bytes) :
    (s.rdropWhile p).dropWhile p = (s.dropWhile p).rdropWhile p := by
  induction s with
  | nil => rfl
  | cons c s ih =>
    rw [rdropWhile_cons]
    by_cases hc : p c = true
    · rw [List.dropWhile_cons_of_pos hc, ← ih]
      by_cases hs : s.rdropWhile p = []
      · rw [if_pos ⟨hs, hc⟩, hs]
      · rw [if_neg (fun h => hs h.1), List.dropWhile_cons_of_pos hc]
    · rw [if_neg (fun h => hc h.2), List.dropWhile_cons_of_neg hc, List.dropWhile_cons_of_neg hc,
        rdropWhile_cons, if_neg (fun h => hc h.2)]

/-- Blanks in front do not matter to what is trimmed later. -/
theorem trim_dropWhile_append (s t : Bytes) :
    trim (s.dropWhile isBlank ++ t) = trim (s ++ t) := by
  induction s with
  | nil => rfl
  | cons c s ih =>
    by_cases hc : isBlank c = true
    · rw [List.dropWhile_cons_of_pos hc, ih, List.cons_append, trim_cons_blank hc]
    · rw [List.dropWhile_cons_of_neg hc]

/-- A text can be trimmed before something is put behind it, as far as blanks in front go. -/
theorem trim_trim_append (s t : Bytes) :
    trim (trim s ++ t) = trim (s.rdropWhile isBlank ++ t) := by
  rw [show trim s = (s.rdropWhile isBlank).dropWhile isBlank from
    (dropWhile_rdropWhile isBlank s).symm, trim_dropWhile_append]

/-- Nothing but blanks is trimmed away. -/
theorem filter_trim (s : Bytes) :
    (trim s).filter (fun b => !isBlank b) = s.filter fun b => !isBlank b := by
  have hdrop : ∀ l : Bytes,
      (l.dropWhile isBlank).filter (fun b => !isBlank b) = l.filter fun b => !isBlank b := by
    intro l
    induction l with
    | nil => rfl
    | cons c l ih =>
      by_cases hc : isBlank c = true
      · rw [List.dropWhile_cons_of_pos hc, ih, List.filter_cons_of_neg (by simp [hc])]
      · rw [List.dropWhile_cons_of_neg hc]
  rw [trim, List.rdropWhile, List.filter_reverse, hdrop, List.filter_reverse,
    List.reverse_reverse, hdrop]

/-- A text of blanks. -/
def AllBlank (t : Bytes) : Prop := ∀ b ∈ t, isBlank b = true

instance (t : Bytes) : Decidable (AllBlank t) := inferInstanceAs (Decidable (∀ b ∈ t, _))

/-- What can be put behind a text without a trace after trimming is blank. -/
theorem trim_append_eq_iff (s t : Bytes) : trim (s ++ t) = trim s ↔ AllBlank t := by
  constructor
  · intro h b hb
    have hink := congrArg (fun l : Bytes => (l.filter fun b => !isBlank b).length) h
    simp only [filter_trim, List.filter_append, List.length_append] at hink
    have hnil : (t.filter fun b => !isBlank b) = [] := List.length_eq_zero_iff.mp (by omega)
    simpa using List.filter_eq_nil_iff.mp hnil b hb
  · intro h
    induction t using List.reverseRecOn with
    | nil => rw [List.append_nil]
    | append_singleton t b ih =>
      rw [← List.append_assoc, trim_append_blank (h b (by simp))]
      exact ih fun x hx => h x (List.mem_append_left _ hx)

/-! ## Searching -/

/-- The first occurrence behind a start position. -/
theorem findByte_append {c : UInt8} (p a b : Bytes) (h : c ∉ a) :
    findByte c (p ++ a ++ c :: b) p.length = some (p.length + a.length) := by
  have hfirst : findByte c (a ++ c :: b) 0 = some a.length :=
    findByte_eq_some.mpr ⟨a, b, rfl, h, rfl⟩
  have hidx : (a ++ c :: b).findIdx? (· == c) = some a.length := by
    simpa [findByte] using hfirst
  unfold findByte
  rw [List.append_assoc, List.drop_left, hidx, Option.map_some, Nat.add_comm]

/-- A text cut at the first occurrence of a byte. -/
theorem takeWhile_bne_append {c : UInt8} {a : Bytes} (h : c ∉ a) (b : Bytes) :
    (a ++ c :: b).takeWhile (· != c) = a ∧ (a ++ c :: b).dropWhile (· != c) = c :: b := by
  have hall : ∀ x ∈ a, (x != c) = true := by
    intro x hx
    rw [bne_iff_ne]
    exact fun he => h (he ▸ hx)
  rw [List.takeWhile_append_of_pos hall, List.dropWhile_append_of_pos hall]
  simp

/-- `rfind` gives the last occurrence. -/
theorem rfindByte_append {c : UInt8} (p : Bytes) {a : Bytes} (h : c ∉ a) :
    rfindByte c (p ++ c :: a) = some p.length := by
  have hnone : ∀ {s : Bytes}, c ∉ s → rfindByte c s = none := by
    intro s hs
    induction s with
    | nil => rfl
    | cons d s ih =>
      rw [List.mem_cons, not_or] at hs
      rw [rfindByte, ih hs.2]
      simp [Ne.symm hs.1]
  induction p with
  | nil =>
    rw [List.nil_append, rfindByte, hnone h]
    simp
  | cons d p ih => rw [List.cons_append, rfindByte, ih, List.length_cons]

/-! ## Numbers -/

theorem toNat_ofNat_of_isDigit {c : Char} (h : c.isDigit = true) :
    (UInt8.ofNat c.toNat).toNat = c.toNat := by
  have hle : c.toNat ≤ 57 := by
    have : 48 ≤ c.toNat ∧ c.toNat ≤ 57 := by
      simpa [Char.isDigit, UInt32.le_iff_toNat_le] using h
    exact this.2
  rw [UInt8.toNat_ofNat']
  omega

/-- The digits written for a number have its value. -/
theorem digitsValue_natDecimal (n : Nat) : digitsValue (natDecimal n) = n := by
  unfold digitsValue natDecimal
  rw [List.foldl_map]
  calc (Nat.toDigits 10 n).foldl (fun a c => 10 * a + ((UInt8.ofNat c.toNat).toNat - 48)) 0
      = (Nat.toDigits 10 n).foldl (fun a c => 10 * a + (c.toNat - '0'.toNat)) 0 := by
        refine List.foldl_ext _ _ _ fun a c hc => ?_
        rw [toNat_ofNat_of_isDigit
          (Nat.isDigit_of_mem_toDigits (by omega) (by omega) hc)]
        rfl
    _ = Nat.ofDigitChars 10 (Nat.toDigits 10 n) 0 := Nat.ofDigitChars_eq_foldl.symm
    _ = n := Nat.ofDigitChars_ten_toDigits

theorem natDecimal_ne_nil (n : Nat) : natDecimal n ≠ [] := by
  unfold natDecimal
  rw [ne_eq, List.map_eq_nil_iff]
  exact Nat.toDigits_ne_nil

/-- A byte that is no digit is not in the text of a number. -/
theorem not_mem_natDecimal {b : UInt8} (h : isDigit b = false) (n : Nat) : b ∉ natDecimal n := by
  intro hb
  rw [natDecimal_isDigit n hb] at h
  cases h

theorem isBlank_of_isDigit {b : UInt8} (h : isDigit b = true) : isBlank b = false := by
  unfold isDigit at h
  unfold isBlank sp tab cr nl
  grind

/-- There is nothing to trim on a number. -/
theorem trim_natDecimal (n : Nat) : trim (natDecimal n) = natDecimal n :=
  trim_eq_self
    (fun _ hb => isBlank_of_isDigit (natDecimal_isDigit n (List.mem_of_head? hb)))
    (fun _ hb => isBlank_of_isDigit (natDecimal_isDigit n (List.mem_of_getLast? hb)))

theorem isSpace_of_isDigit {b : UInt8} (h : isDigit b = true) : isSpace b = false := by
  unfold isDigit at h
  unfold isSpace
  grind

/-- The digits of a number end where something else begins. -/
theorem takeWhile_natDecimal (n : Nat) {rest : Bytes} (h : ∀ b ∈ rest.head?, isDigit b = false) :
    (natDecimal n ++ rest).takeWhile isDigit = natDecimal n ∧
    (natDecimal n ++ rest).dropWhile isDigit = rest := by
  have hdigits : ∀ b ∈ natDecimal n, isDigit b = true := fun b hb => natDecimal_isDigit n hb
  rw [List.takeWhile_append_of_pos hdigits, List.dropWhile_append_of_pos hdigits]
  cases rest with
  | nil => simp
  | cons b rest => simp [h b rfl]

/-- The sign of a number. -/
theorem takeSign_decimal (v : Int) (rest : Bytes) :
    takeSign (decimal v ++ rest) = (decide (v < 0), natDecimal v.natAbs ++ rest) := by
  cases v with
  | ofNat n =>
    obtain ⟨d, ds, hds⟩ := List.exists_cons_of_ne_nil (natDecimal_ne_nil n)
    have hdigit : isDigit d = true := natDecimal_isDigit n (by rw [hds]; exact List.mem_cons_self)
    have hsign : takeSign (natDecimal n ++ rest) = (false, natDecimal n ++ rest) := by
      unfold isDigit at hdigit
      rw [hds, List.cons_append, takeSign]
      grind
    rw [decide_eq_false (show ¬ Int.ofNat n < 0 from not_lt.mpr (Int.natCast_nonneg n))]
    exact hsign
  | negSucc n =>
    rw [decide_eq_true (Int.negSucc_lt_zero n)]
    rfl

theorem signedValue_decimal (v : Int) :
    signedValue (decide (v < 0)) (natDecimal v.natAbs) = v := by
  unfold signedValue
  rw [digitsValue_natDecimal]
  split
  · next h =>
    have hneg := of_decide_eq_true h
    omega
  · next h =>
    have hpos : ¬ v < 0 := by simpa using h
    omega

/-- A number begins with a sign or a digit. -/
theorem isSpace_head_decimal (v : Int) (rest : Bytes) :
    (decimal v ++ rest).dropWhile isSpace = decimal v ++ rest := by
  cases v with
  | ofNat n =>
    obtain ⟨d, ds, hds⟩ := List.exists_cons_of_ne_nil (natDecimal_ne_nil n)
    have hdigit : isDigit d = true := natDecimal_isDigit n (by rw [hds]; exact List.mem_cons_self)
    show (natDecimal n ++ rest).dropWhile isSpace = natDecimal n ++ rest
    rw [hds, List.cons_append, List.dropWhile_cons_of_neg
      (by rw [isSpace_of_isDigit hdigit]; exact Bool.false_ne_true)]
  | negSucc n => exact List.dropWhile_cons_of_neg (by decide)

/-- **`stoi` reads back what `to_string` wrote.** -/
theorem stoi_decimal {v : Int} (h : fitsInt v = true) : stoi (decimal v) = .ok v := by
  have hskip := isSpace_head_decimal v []
  have hsign := takeSign_decimal v []
  have hdigits := (@takeWhile_natDecimal v.natAbs [] (by simp)).1
  simp only [List.append_nil] at hskip hsign hdigits
  unfold stoi
  simp only [hskip, hsign, hdigits, signedValue_decimal, h, if_true]
  rw [if_neg (by rw [List.isEmpty_iff]; exact natDecimal_ne_nil _)]

theorem stoi_natDecimal {n : Nat} (h : n < 2 ^ 31) : stoi (natDecimal n) = .ok (n : Int) := by
  refine stoi_decimal (v := (n : Int)) ?_
  unfold fitsInt
  rw [Bool.and_eq_true, decide_eq_true_eq, decide_eq_true_eq]
  omega

/-! ## Streams -/

namespace IStream

variable {blanks rest : Bytes}

/-- `>>` reads a word that ends at white space or at the end. -/
theorem word_append (hblanks : ∀ b ∈ blanks, isSpace b = true) {w : Bytes} (hne : w ≠ [])
    (hw : ∀ b ∈ w, isSpace b = false) (hrest : ∀ b ∈ rest.head?, isSpace b = true)
    (old : Bytes) :
    ({ rest := blanks ++ (w ++ rest) } : IStream).word old = (w, { rest := rest }) := by
  have hskip : (blanks ++ (w ++ rest)).dropWhile isSpace = w ++ rest := by
    rw [List.dropWhile_append_of_pos hblanks]
    obtain ⟨c, w, rfl⟩ := List.exists_cons_of_ne_nil hne
    rw [List.cons_append, List.dropWhile_cons_of_neg
      (by rw [hw c List.mem_cons_self]; exact Bool.false_ne_true)]
  have hpos : ∀ b ∈ w, (!isSpace b) = true := fun b hb => by rw [hw b hb]; rfl
  have hend : rest.takeWhile (fun b => !isSpace b) = [] ∧
      rest.dropWhile (fun b => !isSpace b) = rest := by
    cases rest with
    | nil => simp
    | cons b rest => simp [hrest b rfl]
  unfold word
  simp only [hskip, List.takeWhile_append_of_pos hpos, List.dropWhile_append_of_pos hpos, hend,
    List.append_nil, if_true]
  rw [if_neg (by rw [List.isEmpty_iff]; exact hne)]

/-- `>>` reads back a number. -/
theorem int_append (hblanks : ∀ b ∈ blanks, isSpace b = true) {v : Int} (hv : fitsInt v = true)
    (hrest : ∀ b ∈ rest.head?, isDigit b = false) (old : Int) :
    ({ rest := blanks ++ (decimal v ++ rest) } : IStream).int old = (v, { rest := rest }) := by
  have hskip : (blanks ++ (decimal v ++ rest)).dropWhile isSpace = decimal v ++ rest := by
    rw [List.dropWhile_append_of_pos hblanks, isSpace_head_decimal]
  have hne : ¬ (decimal v ++ rest).isEmpty = true := by
    rw [List.isEmpty_iff]
    intro h
    have hnil := (List.append_eq_nil_iff.mp h).1
    cases v with
    | ofNat n => exact natDecimal_ne_nil n hnil
    | negSucc n => cases hnil
  obtain ⟨htake, hdrop⟩ := takeWhile_natDecimal v.natAbs hrest
  unfold int
  simp only [hskip, if_true]
  rw [if_neg hne]
  unfold scanInt
  simp only [takeSign_decimal, htake, hdrop, signedValue_decimal, hv, if_true]
  rw [if_neg (by rw [List.isEmpty_iff]; exact natDecimal_ne_nil _)]

/-- A number that is read fits an `int`. -/
theorem fitsInt_int {st : IStream} {old : Int} (h : (st.int old).2.good = true) :
    fitsInt (st.int old).1 = true := by
  unfold int at h ⊢
  split at h
  · next hgood =>
    split at h
    · simp at h
    · next hne =>
      rw [if_pos hgood, if_neg hne]
      unfold scanInt at h ⊢
      dsimp only at h ⊢
      split at h
      · simp at h
      · next hds =>
        rw [if_neg hds]
        split at h
        · next hfit => rwa [if_pos hfit]
        · simp at h
  · next hgood => exact absurd h hgood

theorem fitsInt_of_mem_ints {st : IStream} {v : Int} (h : v ∈ st.ints) : fitsInt v = true := by
  unfold ints at h
  generalize st.rest.length + 1 = fuel at h
  induction fuel generalizing st with
  | zero => simp [intsLoop] at h
  | succ fuel ih =>
    rw [intsLoop] at h
    split at h
    · next hgood =>
      rcases List.mem_cons.mp h with rfl | h
      · exact fitsInt_int hgood
      · exact ih h
    · simp at h

end IStream

/-! ## UTF-8 -/

/-- What a decoder of UTF-8 does not refuse. -/
def validUtf8 (text : Bytes) : Bool := (ByteArray.mk text.toArray).validateUTF8

end Infra
