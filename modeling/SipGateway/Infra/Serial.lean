import Mathlib.Tactic

/-!
# Serial numbers

Sequence numbers of 16 bits that wrap. `gap a b` is the way from `a` forward to `b`, and `a`
precedes `b` when that way is not zero and less than half the circle.

The order is not transitive over the whole circle. Inside a window of half the circle it is the
order of the distances from the start of the window (`precedes_iff_of_window`).
-/

namespace Infra

/-- The number of steps from `a` forward to `b`. -/
def gap (a b : UInt16) : Nat := (b - a).toNat

/-- `b` comes after `a`: `(uint16_t)(b - a)` lies between 1 and 32767. -/
def Precedes (a b : UInt16) : Prop := 1 ≤ gap a b ∧ gap a b ≤ 32767

instance (a b : UInt16) : Decidable (Precedes a b) :=
  inferInstanceAs (Decidable (1 ≤ gap a b ∧ gap a b ≤ 32767))

/-- `a` is one of the 32768 numbers from `base` on. -/
def InWindow (base a : UInt16) : Prop := gap base a ≤ 32767

instance (base a : UInt16) : Decidable (InWindow base a) :=
  inferInstanceAs (Decidable (gap base a ≤ 32767))

variable {a b c base : UInt16}

theorem gap_eq (a b : UInt16) : gap a b = (65536 - a.toNat + b.toNat) % 65536 := by
  unfold gap
  rw [UInt16.toNat_sub]

theorem gap_lt (a b : UInt16) : gap a b < 65536 := UInt16.toNat_lt _

theorem gap_eq_zero : gap a b = 0 ↔ a = b := by
  have ha := a.toNat_lt
  have hb := b.toNat_lt
  rw [gap_eq, ← UInt16.toNat_inj]
  omega

@[simp] theorem gap_self (a : UInt16) : gap a a = 0 := gap_eq_zero.mpr rfl

/-- Two ways in a row. -/
theorem gap_add (a b c : UInt16) : gap a c = (gap a b + gap b c) % 65536 := by
  have ha := a.toNat_lt
  have hb := b.toNat_lt
  have hc := c.toNat_lt
  rw [gap_eq, gap_eq, gap_eq]
  omega

/-- There and back again is once around. -/
theorem gap_swap (h : a ≠ b) : gap b a = 65536 - gap a b := by
  have hround := gap_add a b a
  have hab := gap_lt a b
  have hba := gap_lt b a
  have hne : gap a b ≠ 0 := fun he => h (gap_eq_zero.mp he)
  rw [gap_self] at hround
  omega

theorem Precedes.ne (h : Precedes a b) : a ≠ b := by
  intro he
  rw [he] at h
  have := h.1
  rw [gap_self] at this
  omega

/-- Of two numbers neither of which precedes the other, one is half the circle from the other. -/
theorem gap_of_not_precedes (hne : a ≠ b) (h : ¬ Precedes a b) :
    1 ≤ gap b a ∧ gap b a ≤ 32768 := by
  have hswap := gap_swap hne
  have hlt := gap_lt a b
  have hpos : gap a b ≠ 0 := fun he => hne (gap_eq_zero.mp he)
  unfold Precedes at h
  omega

/-- Inside a window the order is that of the distances from its start. -/
theorem precedes_iff_of_window (ha : InWindow base a) (hb : InWindow base b) :
    Precedes a b ↔ gap base a < gap base b := by
  have hadd := gap_add base a b
  have hlt := gap_lt a b
  unfold InWindow at ha hb
  unfold Precedes
  omega

/-- Inside a window the order is total. -/
theorem precedes_or_of_window (ha : InWindow base a) (hb : InWindow base b) (hne : a ≠ b)
    (h : ¬ Precedes a b) : Precedes b a := by
  rw [precedes_iff_of_window ha hb] at h
  rw [precedes_iff_of_window hb ha]
  have hadd := gap_add base a b
  have hpos : gap a b ≠ 0 := fun he => hne (gap_eq_zero.mp he)
  have hlt := gap_lt a b
  omega

/-- Inside a window the order is transitive. -/
theorem Precedes.trans_of_window (ha : InWindow base a) (hb : InWindow base b)
    (hc : InWindow base c) (hab : Precedes a b) (hbc : Precedes b c) : Precedes a c := by
  rw [precedes_iff_of_window ha hb] at hab
  rw [precedes_iff_of_window hb hc] at hbc
  rw [precedes_iff_of_window ha hc]
  exact hab.trans hbc

end Infra
