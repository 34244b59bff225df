import Mathlib.Tactic
import Mathlib.Data.List.DropRight

/-!
# Byte strings

`std::string` as a list of bytes, with the searching, cutting and number reading
of the C++ library that text protocols are parsed with.

* `findByte` / `rfindByte` / `findStr` — `find`, `rfind`, `find` of a text
* `substr` — the only cutting operation that can throw
* `trim` — the helper both parsers of such programs carry
* `getlines` — what successive `std::getline` calls return
* `stoi` — `std::stoi`, which throws
* `IStream` — an `std::istringstream` read with `>>`, which fails silently
-/

namespace Infra

/-- `std::string`. -/
abbrev Bytes := List UInt8

/-- The bytes of an ASCII literal. -/
def bytes (s : String) : Bytes := s.toList.map fun c => UInt8.ofNat c.toNat

/-- The exceptions of the C++ standard library that number reading and cutting can raise. -/
inductive StdException where
  | invalidArgument
  | outOfRange
deriving DecidableEq, Repr

/-! ## Characters -/

def nl : UInt8 := 10
def cr : UInt8 := 13
def sp : UInt8 := 32
def tab : UInt8 := 9
def colon : UInt8 := 58
def semicolon : UInt8 := 59

/-- `isspace` in the C locale. -/
def isSpace (b : UInt8) : Bool := b == 32 || (9 ≤ b && b ≤ 13)

/-- `isdigit`. -/
def isDigit (b : UInt8) : Bool := 48 ≤ b && b ≤ 57

/-- `::tolower` in the C locale. -/
def toLower (b : UInt8) : UInt8 := if 65 ≤ b && b ≤ 90 then b + 32 else b

/-- `::toupper` in the C locale. -/
def toUpper (b : UInt8) : UInt8 := if 97 ≤ b && b ≤ 122 then b - 32 else b

/-- The part of a string that `c_str()` shows to a C function. -/
def cStr (s : Bytes) : Bytes := s.takeWhile (· != 0)

/-! ## Searching and cutting -/

/-- `s.find(c, pos)`. `none` is `npos`. -/
def findByte (c : UInt8) (s : Bytes) (pos : Nat) : Option Nat :=
  ((s.drop pos).findIdx? (· == c)).map (· + pos)

/-- `s.rfind(c)`. -/
def rfindByte (c : UInt8) : Bytes → Option Nat
  | [] => none
  | b :: s =>
    match rfindByte c s with
    | some i => some (i + 1)
    | none => if b == c then some 0 else none

/-- `s.find(pat)`. -/
def findStr (pat : Bytes) : Bytes → Option Nat
  | [] => if pat.isEmpty then some 0 else none
  | b :: s => if pat.isPrefixOf (b :: s) then some 0 else (findStr pat s).map (· + 1)

/-- `s.substr(pos, n)`; it throws when `pos` is past the end. -/
def substr (s : Bytes) (pos n : Nat) : Except StdException Bytes :=
  if pos ≤ s.length then .ok ((s.drop pos).take n) else .error .outOfRange

/-- `s.substr(pos)`. -/
def substrFrom (s : Bytes) (pos : Nat) : Except StdException Bytes :=
  if pos ≤ s.length then .ok (s.drop pos) else .error .outOfRange

theorem substr_of_le {s : Bytes} {pos : Nat} (n : Nat) (h : pos ≤ s.length) :
    substr s pos n = .ok ((s.drop pos).take n) := if_pos h

theorem substrFrom_of_le {s : Bytes} {pos : Nat} (h : pos ≤ s.length) :
    substrFrom s pos = .ok (s.drop pos) := if_pos h

/-- A position that `find` returns is inside the string, at or after the start position. -/
theorem findByte_lt {c : UInt8} {s : Bytes} {pos i : Nat} (h : findByte c s pos = some i) :
    pos ≤ i ∧ i < s.length := by
  simp only [findByte, Option.map_eq_some_iff] at h
  obtain ⟨j, hj, rfl⟩ := h
  have hlt := (List.findIdx?_eq_some_iff_findIdx_eq.mp hj).1
  rw [List.length_drop] at hlt
  omega

/-- `find` from the start gives the first occurrence. -/
theorem findByte_eq_some {c : UInt8} {s : Bytes} {i : Nat} :
    findByte c s 0 = some i ↔ ∃ a b, s = a ++ c :: b ∧ c ∉ a ∧ a.length = i := by
  induction s generalizing i with
  | nil => simp [findByte]
  | cons d s ih =>
    have hcons : findByte c (d :: s) 0 =
        if d = c then some 0 else (findByte c s 0).map (· + 1) := by
      unfold findByte
      by_cases h : d = c <;> simp [List.findIdx?_cons, h, Function.comp_def]
    rw [hcons]
    by_cases h : d = c
    · rw [if_pos h]
      constructor
      · intro hi
        cases hi
        exact ⟨[], s, by rw [h]; rfl, by simp, rfl⟩
      · rintro ⟨a, b, hs, ha, rfl⟩
        cases a with
        | nil => rfl
        | cons x a =>
          simp only [List.cons_append, List.cons.injEq] at hs
          exact absurd (h ▸ hs.1 ▸ List.mem_cons_self) ha
    · rw [if_neg h, Option.map_eq_some_iff]
      constructor
      · rintro ⟨j, hj, rfl⟩
        obtain ⟨a, b, hs, ha, hlen⟩ := ih.mp hj
        refine ⟨d :: a, b, by rw [hs]; rfl, ?_, by rw [List.length_cons, hlen]⟩
        rw [List.mem_cons, not_or]
        exact ⟨fun he => h he.symm, ha⟩
      · rintro ⟨a, b, hs, ha, rfl⟩
        cases a with
        | nil => exact absurd (List.cons.inj hs).1 h
        | cons x a =>
          simp only [List.cons_append, List.cons.injEq] at hs
          exact ⟨a.length, ih.mpr ⟨a, b, hs.2,
            fun hm => ha (List.mem_cons_of_mem _ hm), rfl⟩, rfl⟩

theorem findByte_eq_none {c : UInt8} {s : Bytes} : findByte c s 0 = none ↔ c ∉ s := by
  unfold findByte
  rw [List.drop_zero, Option.map_eq_none_iff, List.findIdx?_eq_none_iff]
  constructor
  · exact fun h hm => by simpa using h c hm
  · intro h x hx
    have hne : x ≠ c := fun he => h (he ▸ hx)
    simpa using hne

theorem rfindByte_lt {c : UInt8} {s : Bytes} {i : Nat} (h : rfindByte c s = some i) :
    i < s.length := by
  induction s generalizing i with
  | nil => simp [rfindByte] at h
  | cons b s ih =>
    rw [rfindByte] at h
    split at h
    · next j hj =>
      have := ih hj
      simp only [Option.some.injEq] at h
      simp only [List.length_cons]
      omega
    · split at h
      · simp only [Option.some.injEq] at h
        simp [← h]
      · simp at h

/-! ## Trimming -/

/-- The bytes `find_first_not_of(" \t\r\n")` skips. -/
def isBlank (b : UInt8) : Bool := b == sp || b == tab || b == cr || b == nl

/-- `trim`: the string without the blanks at both ends. -/
def trim (s : Bytes) : Bytes := (s.dropWhile isBlank).rdropWhile isBlank

/-- A trailing `\r` is dropped from a line. -/
def stripCr (line : Bytes) : Bytes :=
  if line.getLast? = some cr then line.dropLast else line

/-! ## Lines -/

/--
What successive `std::getline` calls on a stream return,
each with what is left of the stream after it.

A last line without `\n` counts; nothing after the last `\n` does not.
-/
def getlines : Bytes → List (Bytes × Bytes)
  | [] => []
  | c :: s =>
    if c == nl then ([], s) :: getlines s
    else
      match getlines s with
      | [] => [([c], [])]
      | (line, rest) :: more => (c :: line, rest) :: more

/-- The lines alone. -/
def lines (s : Bytes) : List Bytes := (getlines s).map Prod.fst

/-- One `std::getline`: the line and the rest, or failure at the end of the stream. -/
def getline (s : Bytes) : Option (Bytes × Bytes) :=
  if s.isEmpty then none
  else some (s.takeWhile (· != nl), (s.dropWhile (· != nl)).drop 1)

/-- **`getlines` is `getline` again and again.** -/
theorem getlines_eq (s : Bytes) :
    getlines s = match getline s with
      | none => []
      | some (line, rest) => (line, rest) :: getlines rest := by
  induction s with
  | nil => rfl
  | cons c s ih =>
    rw [getlines]
    by_cases hc : c = nl
    · subst hc
      simp [getline]
    · have hne : (c != nl) = true := by simpa using hc
      rw [if_neg (by simpa using hc), ih]
      cases s with
      | nil => simp [getline, getlines, hne]
      | cons d t => simp [getline, hne]

/-- A text with a line break in it: the first line, and the lines of the rest. -/
theorem lines_append_nl (l rest : Bytes) (h : nl ∉ l) :
    lines (l ++ nl :: rest) = l :: lines rest := by
  induction l with
  | nil => simp [lines, getlines]
  | cons c l ih =>
    simp only [List.mem_cons, not_or] at h
    have hrest := ih h.2
    have hc : ¬ (c == nl) = true := by simpa using Ne.symm h.1
    simp only [lines, List.cons_append, getlines, if_neg hc] at hrest ⊢
    cases hg : getlines (l ++ nl :: rest) with
    | nil => rw [hg] at hrest; simp at hrest
    | cons p more =>
      rw [hg] at hrest
      obtain ⟨line, r⟩ := p
      simp only [List.map_cons, List.cons.injEq] at hrest
      simp only [List.map_cons, hrest.1, hrest.2]

/-- What stands before a line break makes lines of its own. -/
theorem lines_after_nl (rest a : Bytes) :
    ∃ first more, lines (a ++ nl :: rest) = first :: (more ++ lines rest) := by
  induction a with
  | nil => exact ⟨[], [], rfl⟩
  | cons c a ih =>
    obtain ⟨first, more, h⟩ := ih
    by_cases hc : (c == nl) = true
    · refine ⟨[], first :: more, ?_⟩
      simp only [lines, List.cons_append, getlines, if_pos hc, List.map_cons] at h ⊢
      rw [h]
    · refine ⟨c :: first, more, ?_⟩
      simp only [lines, List.cons_append, getlines, if_neg hc] at h ⊢
      cases hg : getlines (a ++ nl :: rest) with
      | nil => rw [hg] at h; cases h
      | cons p tail =>
        rw [hg, List.map_cons, List.cons.injEq] at h
        simp only [List.map_cons, h.1, h.2]

/-- A text written line by line has the lines it was written from. -/
theorem mem_lines_flatMap {l : Bytes} (h : nl ∉ l) : ∀ {ls : List Bytes}, l ∈ ls →
    l ++ [cr] ∈ lines (ls.flatMap (· ++ [cr, nl]))
  | x :: ls, hl => by
    have hcr : nl ∉ l ++ [cr] := by
      rw [List.mem_append, not_or]
      exact ⟨h, by decide⟩
    have htext : (x :: ls).flatMap (· ++ [cr, nl])
        = (x ++ [cr]) ++ nl :: ls.flatMap (· ++ [cr, nl]) := by
      simp
    rw [htext]
    rcases List.mem_cons.mp hl with rfl | hl
    · rw [lines_append_nl _ _ hcr]
      exact List.mem_cons_self
    · obtain ⟨first, more, hlines⟩ := lines_after_nl (ls.flatMap (· ++ [cr, nl])) (x ++ [cr])
      rw [hlines]
      exact List.mem_cons_of_mem _ (List.mem_append_right _ (mem_lines_flatMap h hl))

/-- `stripCr` takes off what a line of text protocols ends with. -/
theorem stripCr_append_cr (l : Bytes) : stripCr (l ++ [cr]) = l := by
  unfold stripCr
  simp

/-! ## Numbers -/

/-- The value of a run of digits. -/
def digitsValue (ds : Bytes) : Nat := ds.foldl (fun a d => 10 * a + (d.toNat - 48)) 0

/-- An optional sign: whether it is `-`, and what follows. -/
def takeSign : Bytes → Bool × Bytes
  | b :: s => if b == 45 then (true, s) else if b == 43 then (false, s) else (false, b :: s)
  | [] => (false, [])

/-- Whether a value fits an `int`. -/
def fitsInt (v : Int) : Bool := -2147483648 ≤ v && v ≤ 2147483647

/-- A run of digits with its sign. -/
def signedValue (neg : Bool) (ds : Bytes) : Int :=
  if neg then -(digitsValue ds : Int) else (digitsValue ds : Int)

/--
`std::stoi`: leading white space, a sign, digits; what follows the digits is ignored.

It throws `invalid_argument` without a digit and `out_of_range` when the value is not an `int`.
-/
def stoi (s : Bytes) : Except StdException Int :=
  let t := takeSign (s.dropWhile isSpace)
  let ds := t.2.takeWhile isDigit
  if ds.isEmpty then .error .invalidArgument
  else if fitsInt (signedValue t.1 ds) then .ok (signedValue t.1 ds)
  else .error .outOfRange

/-- `std::to_string` of a natural number. -/
def natDecimal (n : Nat) : Bytes := (Nat.toDigits 10 n).map fun c => UInt8.ofNat c.toNat

/-- `std::to_string` of an `int`. -/
def decimal : Int → Bytes
  | .ofNat n => natDecimal n
  | .negSucc n => 45 :: natDecimal (n + 1)

/-- The digits of a number. -/
theorem natDecimal_isDigit (n : Nat) {b : UInt8} (h : b ∈ natDecimal n) : isDigit b = true := by
  obtain ⟨c, hc, rfl⟩ := List.mem_map.mp h
  have hd : c.isDigit = true := Nat.isDigit_of_mem_toDigits (by omega) (by omega) hc
  have hle : 48 ≤ c.toNat ∧ c.toNat ≤ 57 := by
    simpa [Char.isDigit, UInt32.le_iff_toNat_le] using hd
  have hnat : (UInt8.ofNat c.toNat).toNat = c.toNat := by
    rw [UInt8.toNat_ofNat']
    omega
  unfold isDigit
  simp only [Bool.and_eq_true, decide_eq_true_eq, UInt8.le_iff_toNat_le, hnat]
  exact hle

/-- A number has no line break in it. -/
theorem nl_not_mem_decimal : ∀ v : Int, nl ∉ decimal v
  | .ofNat n => fun h => absurd (natDecimal_isDigit n h) (by decide)
  | .negSucc n => fun h => by
    rcases List.mem_cons.mp h with h | h
    · exact absurd h (by decide)
    · exact absurd (natDecimal_isDigit _ h) (by decide)

/-! ## Formatted input -/

/-- An `std::istringstream`: what is left to read, and whether no read has failed. -/
structure IStream where
  rest : Bytes
  good : Bool := true
deriving DecidableEq, Repr

/-- `stream >> word`. A failed stream leaves the variable as it was (`old`). -/
def IStream.word (st : IStream) (old : Bytes) : Bytes × IStream :=
  if st.good then
    let t := st.rest.dropWhile isSpace
    let w := t.takeWhile (fun b => !isSpace b)
    if w.isEmpty then (old, { rest := [], good := false })
    else (w, { rest := t.dropWhile (fun b => !isSpace b), good := true })
  else (old, st)

/-- What `>>` makes of the text of a number: sign and digits, without leading white space. -/
def IStream.scanInt (t : Bytes) : Int × IStream :=
  let u := takeSign t
  let ds := u.2.takeWhile isDigit
  let rest := u.2.dropWhile isDigit
  if ds.isEmpty then (0, { rest := rest, good := false })
  else if fitsInt (signedValue u.1 ds) then
    (signedValue u.1 ds, { rest := rest, good := true })
  else (if u.1 then -2147483648 else 2147483647, { rest := rest, good := false })

/--
`stream >> number`.

Without a digit the variable becomes `0` and the stream fails; past the range of `int` it
becomes the nearest bound and the stream fails. At the end of the stream, and after a failure,
it stays as it was (`old`).
-/
def IStream.int (st : IStream) (old : Int) : Int × IStream :=
  if st.good then
    if (st.rest.dropWhile isSpace).isEmpty then (old, { rest := [], good := false })
    else IStream.scanInt (st.rest.dropWhile isSpace)
  else (old, st)

theorem length_takeSign_le (t : Bytes) : (takeSign t).2.length ≤ t.length := by
  unfold takeSign
  split
  · split
    · simp
    · split <;> simp
  · simp

theorem IStream.scanInt_good_lt {t : Bytes} (h : (scanInt t).2.good = true) :
    (scanInt t).2.rest.length < t.length := by
  unfold scanInt at h ⊢
  have hsign := length_takeSign_le t
  by_cases hds : ((takeSign t).2.takeWhile isDigit).isEmpty = true
  · simp [hds] at h
  · have hpos : 0 < ((takeSign t).2.takeWhile isDigit).length :=
      List.length_pos_iff.mpr (by simpa using hds)
    have hsplit := congrArg List.length
      (List.takeWhile_append_dropWhile (p := isDigit) (l := (takeSign t).2))
    rw [List.length_append] at hsplit
    by_cases hfit : fitsInt (signedValue (takeSign t).1 ((takeSign t).2.takeWhile isDigit)) = true
    · simp only [hds, hfit, if_true, if_false, Bool.false_eq_true]
      omega
    · simp [hds, hfit] at h

/-- A read that succeeds takes at least one byte. -/
theorem IStream.int_good_lt {st : IStream} {old : Int} (h : (st.int old).2.good = true) :
    (st.int old).2.rest.length < st.rest.length := by
  unfold IStream.int at h ⊢
  have hskip : (st.rest.dropWhile isSpace).length ≤ st.rest.length :=
    (List.dropWhile_sublist _).length_le
  split at h
  · next hgood =>
    split at h
    · simp at h
    · next hne =>
      rw [if_pos hgood, if_neg hne]
      exact lt_of_lt_of_le (IStream.scanInt_good_lt h) hskip
  · next hgood => exact absurd h hgood

/-- The loop of `ints`; every round takes a byte, so the number of bytes bounds the rounds. -/
def IStream.intsLoop : Nat → IStream → List Int
  | 0, _ => []
  | fuel + 1, st => if (st.int 0).2.good then (st.int 0).1 :: intsLoop fuel (st.int 0).2 else []

/-- `while (stream >> number)`: all the numbers. -/
def IStream.ints (st : IStream) : List Int := intsLoop (st.rest.length + 1) st

theorem IStream.intsLoop_fuel : ∀ (fuel fuel' : Nat) (st : IStream),
    st.rest.length < fuel → st.rest.length < fuel' → intsLoop fuel st = intsLoop fuel' st
  | 0, _, _, h, _ => absurd h (by omega)
  | _, 0, _, _, h => absurd h (by omega)
  | fuel + 1, fuel' + 1, st, h, h' => by
    rw [intsLoop, intsLoop]
    split
    · next hgood =>
      have hlt := IStream.int_good_lt hgood
      rw [intsLoop_fuel fuel fuel' _ (by omega) (by omega)]
    · rfl

/-- **`ints` is the loop it stands for.** -/
theorem IStream.ints_eq (st : IStream) :
    st.ints = if (st.int 0).2.good then (st.int 0).1 :: (st.int 0).2.ints else [] := by
  unfold IStream.ints
  rw [IStream.intsLoop]
  split
  · next hgood =>
    have hlt := IStream.int_good_lt hgood
    rw [IStream.intsLoop_fuel _ ((st.int 0).2.rest.length + 1) _ hlt (by omega)]
  · rfl

end Infra
