import SipGateway.Util.G711

/-!
# What a G.711 byte keeps of a sample

Both laws cut the amplitudes into eight segments, each twice as long as the one before, and each
segment into 16 cells. A byte holds sign, segment and cell; its decoding is the middle of the
cell, so the error is half a cell at most, and a cell is a sixteenth of the segment it is in.

`-32768` has no amplitude in 16 bits, and neither law can encode it.
-/

namespace SipGateway

namespace G711Utils

/-- The segment of an amplitude: where it begins and ends. -/
theorem segment_cases {a : Int} (h : 0 ≤ a) (h' : a ≤ 32767) :
    (segment a = 0 ∧ a < 256) ∨
    ∃ k ∈ [1, 2, 3, 4, 5, 6, 7], segment a = k ∧ 2 ^ (k + 7) ≤ a ∧ a < 2 ^ (k + 8) := by
  unfold segment
  split
  · exact Or.inl ⟨rfl, by omega⟩
  · refine Or.inr ?_
    repeat' split
    all_goals exact ⟨_, by decide, rfl, by norm_num; omega, by norm_num; omega⟩

/-! ## The bytes -/

/-- A byte of the μ-law, before the bits are turned over. -/
theorem ulawToLinear_pack (k : Fin 8) (m : Fin 16) :
    ulawToLinear (UInt8.ofNat ((k.val <<< 4) ||| m.val) ^^^ 0xFF) =
      (8 * m.val + 132) * 2 ^ k.val - 132 ∧
    ulawToLinear (UInt8.ofNat ((k.val <<< 4) ||| m.val) ^^^ 0x7F) =
      -((8 * m.val + 132) * 2 ^ k.val - 132) := by
  revert k m
  decide +kernel

/-- A byte of the A-law. -/
theorem alawToLinear_pack (k : Fin 8) (m : Fin 16) :
    alawToLinear (UInt8.ofNat ((k.val <<< 4) ||| m.val) ^^^ 0xD5) =
      (if k.val = 0 then 16 * (m.val : Int) + 8 else (16 * m.val + 264) * 2 ^ (k.val - 1)) ∧
    alawToLinear (UInt8.ofNat ((k.val <<< 4) ||| m.val) ^^^ 0x55) =
      -(if k.val = 0 then 16 * (m.val : Int) + 8 else (16 * m.val + 264) * 2 ^ (k.val - 1)) := by
  revert k m
  decide +kernel

/-- What `packSegment` packs. -/
theorem packSegment_eq {k : Nat} (hk : k < 8) (a : Int) (shift : Nat) :
    ∃ (k' : Fin 8) (m : Fin 16), k'.val = k ∧ (m.val : Int) = a / 2 ^ shift % 16 ∧
      packSegment k a shift = UInt8.ofNat ((k'.val <<< 4) ||| m.val) := by
  have hm : 0 ≤ a / 2 ^ shift % 16 ∧ a / 2 ^ shift % 16 < 16 :=
    ⟨Int.emod_nonneg _ (by decide), Int.emod_lt_of_pos _ (by decide)⟩
  exact ⟨⟨k, hk⟩, ⟨(a / 2 ^ shift % 16).toNat, by omega⟩, rfl,
    Int.toNat_of_nonneg hm.1, rfl⟩

/-! ## The levels -/

/-- The level the μ-law has for a biased amplitude. -/
def ulawLevel (a : Int) : Int :=
  (8 * (a / 2 ^ (segment a + 3) % 16) + 132) * 2 ^ segment a - 132

/-- The level the A-law has for an amplitude. -/
def alawLevel (a : Int) : Int :=
  if segment a = 0 then 16 * (a / 2 ^ 4 % 16) + 8
  else (16 * (a / 2 ^ (if segment a < 2 then 4 else segment a + 3) % 16) + 264) *
    2 ^ (segment a - 1)

theorem segment_lt {a : Int} (h : 0 ≤ a) (h' : a ≤ 32767) : segment a < 8 := by
  rcases segment_cases h h' with ⟨hk, -⟩ | ⟨k, hk, hs, -⟩
  · omega
  · rw [hs]
    simp only [List.mem_cons, List.not_mem_nil, or_false] at hk
    omega

/-- Both signs of a bound on a multiple. -/
theorem mul_abs_le {x y : Int} (h : 32 * x ≤ y) (h' : -y ≤ 32 * x) : 32 * |x| ≤ y := by
  rcases abs_cases x with ⟨hx, -⟩ | ⟨hx, -⟩ <;> rw [hx] <;> omega

/-- A level of the μ-law is at most half a cell away, and a cell is a sixteenth of its segment. -/
theorem ulawLevel_close {a : Int} (h : 132 ≤ a) (h' : a ≤ 32767) :
    32 * |ulawLevel a - (a - 132)| ≤ a := by
  unfold ulawLevel
  rcases segment_cases (by omega) h' with ⟨hs, ha⟩ | ⟨k, hk, hs, hlo, hhi⟩
  · rw [hs]
    apply mul_abs_le <;> norm_num <;> omega
  · rw [hs]
    simp only [List.mem_cons, List.not_mem_nil, or_false] at hk
    rcases hk with rfl | rfl | rfl | rfl | rfl | rfl | rfl <;> norm_num at hlo hhi ⊢ <;>
      apply mul_abs_le <;> omega

/-- A level of the A-law likewise; the first segment has the cells of the second. -/
theorem alawLevel_close {a : Int} (h : 0 ≤ a) (h' : a ≤ 32767) :
    32 * |alawLevel a - a| ≤ a + 256 := by
  unfold alawLevel
  rcases segment_cases h h' with ⟨hs, ha⟩ | ⟨k, hk, hs, hlo, hhi⟩
  · rw [hs]
    apply mul_abs_le <;> norm_num <;> omega
  · rw [hs]
    simp only [List.mem_cons, List.not_mem_nil, or_false] at hk
    rcases hk with rfl | rfl | rfl | rfl | rfl | rfl | rfl <;> norm_num at hlo hhi ⊢ <;>
      apply mul_abs_le <;> omega

/-! ## Samples -/

theorem toInt16_of_mem {v : Int} (h : -32768 ≤ v) (h' : v ≤ 32767) : toInt16 v = v := by
  unfold toInt16
  omega

/-- The amplitude of a sample, with the bias and the limit of the μ-law. -/
def ulawAmplitude (s : Int) : Int := min |s| 32635 + 132

/-- A sample decoded again is the level of its amplitude, with its sign. -/
theorem ulawToLinear_linearToULaw {s : Int} (h : -32768 < s) (h' : s ≤ 32767) :
    ulawToLinear (linearToULaw s) =
      if s < 0 then -ulawLevel (ulawAmplitude s) else ulawLevel (ulawAmplitude s) := by
  have habs : (if s < 0 then toInt16 (-s) else s) = |s| := by
    split
    · next hneg => rw [toInt16_of_mem (by omega) (by omega), abs_of_neg hneg]
    · next hpos => rw [abs_of_nonneg (by omega)]
  have hle : |s| ≤ 32767 := abs_le.mpr ⟨by omega, h'⟩
  have hcap : (if |s| > 32635 then 32635 else |s|) = min |s| 32635 := by
    rw [min_def]
    split <;> split <;> omega
  have hbias : toInt16 (min |s| 32635 + 0x84) = ulawAmplitude s := by
    rw [toInt16_of_mem (by have := abs_nonneg s; omega) (by omega)]
    rfl
  have hamp : 0 ≤ ulawAmplitude s ∧ ulawAmplitude s ≤ 32767 := by
    unfold ulawAmplitude
    have := abs_nonneg s
    omega
  obtain ⟨k, m, hk, hm, hpack⟩ := packSegment_eq (segment_lt hamp.1 hamp.2) (ulawAmplitude s)
    (segment (ulawAmplitude s) + 3)
  unfold linearToULaw
  simp only [habs, hcap, hbias, hpack]
  unfold ulawLevel
  rw [← hm, ← hk]
  split
  · rw [(ulawToLinear_pack k m).2]
  · rw [(ulawToLinear_pack k m).1]

theorem alawToLinear_linearToALaw {s : Int} (h : -32768 < s) (h' : s ≤ 32767) :
    alawToLinear (linearToALaw s) = if s < 0 then -alawLevel |s| else alawLevel |s| := by
  have habs : (if s ≥ 0 then s else toInt16 (-s)) = |s| := by
    split
    · next hpos => rw [abs_of_nonneg hpos]
    · next hneg => rw [toInt16_of_mem (by omega) (by omega), abs_of_neg (by omega)]
  have hle : |s| ≤ 32767 := abs_le.mpr ⟨by omega, h'⟩
  have hnonneg := abs_nonneg s
  have hcap : (if |s| > 32767 then 32767 else |s|) = |s| := if_neg (by omega)
  obtain ⟨k, m, hk, hm, hpack⟩ := packSegment_eq (segment_lt hnonneg hle) |s|
    (if segment |s| < 2 then 4 else segment |s| + 3)
  unfold linearToALaw
  simp only [habs, hcap, hpack]
  have hlevel : alawLevel |s|
      = if k.val = 0 then 16 * (m.val : Int) + 8 else (16 * m.val + 264) * 2 ^ (k.val - 1) := by
    unfold alawLevel
    rw [hm, hk]
    split
    · next h0 => rw [h0]; norm_num
    · rfl
  rw [hlevel]
  by_cases hs : s < 0
  · rw [if_neg (show ¬ s ≥ 0 by omega), if_pos hs, (alawToLinear_pack k m).2]
  · rw [if_pos (show s ≥ 0 by omega), if_neg hs, (alawToLinear_pack k m).1]

/-- How near a decoded sample has to be: 1/32 of the loudness, and 8 near silence. -/
def Near (d s : Int) : Prop := 32 * |d - s| ≤ |s| + 256

instance (d s : Int) : Decidable (Near d s) := inferInstanceAs (Decidable (_ ≤ _))

/-- The sign does not matter. -/
theorem near_signed {level s : Int} :
    Near (if s < 0 then -level else level) s ↔ 32 * |level - (|s|)| ≤ |s| + 256 := by
  unfold Near
  by_cases hs : s < 0
  · rw [if_pos hs, abs_of_neg hs, abs_sub_comm (-level), sub_neg_eq_add, sub_neg_eq_add,
      add_comm s]
  · rw [if_neg hs, abs_of_nonneg (show 0 ≤ s by omega)]

theorem ulaw_near {s : Int} (h : -32768 < s) (h' : s ≤ 32767) :
    Near (ulawToLinear (linearToULaw s)) s := by
  have hnonneg := abs_nonneg s
  have hle : |s| ≤ 32767 := abs_le.mpr ⟨by omega, h'⟩
  rw [ulawToLinear_linearToULaw h h', near_signed]
  have hclose := ulawLevel_close (a := ulawAmplitude s) (by unfold ulawAmplitude; omega)
    (by unfold ulawAmplitude; omega)
  by_cases hcap : |s| ≤ 32635
  · have hamp : ulawAmplitude s = |s| + 132 := by
      unfold ulawAmplitude
      omega
    rw [hamp, add_sub_cancel_right] at hclose
    rw [hamp]
    omega
  · -- the limit of the law takes up to 132 off the loudest samples
    have hamp : ulawAmplitude s = 32767 := by
      unfold ulawAmplitude
      omega
    have hlevel : ulawLevel 32767 = 32124 := by decide
    rw [hamp, hlevel]
    apply mul_abs_le <;> omega

theorem alaw_near {s : Int} (h : -32768 < s) (h' : s ≤ 32767) :
    Near (alawToLinear (linearToALaw s)) s := by
  have hle : |s| ≤ 32767 := abs_le.mpr ⟨by omega, h'⟩
  rw [alawToLinear_linearToALaw h h', near_signed]
  exact alawLevel_close (abs_nonneg s) hle

/-- `-32768` is negated to itself, and comes out as silence. -/
theorem not_near_min :
    ¬ Near (ulawToLinear (linearToULaw (-32768))) (-32768) ∧
    ¬ Near (alawToLinear (linearToALaw (-32768))) (-32768) := by
  decide

end G711Utils

end SipGateway
