import SipGateway.Infra.Serial
import SipGateway.Rtp.Packet

/-!
# What the jitter buffer does to the order of packets

`push` compares a packet with those that are still buffered, `pop` gives out the first of five.
Nothing is remembered about what was popped (`lastSeq_` and `inited_` are never used), so a
packet that comes late enough is given out behind its successors.

* `insertOrdered_window` — inside a window of half the number circle the buffer stays sorted
* `insertOrdered_chain` — in any case no packet stands right behind one it precedes
-/

namespace SipGateway

open Infra

namespace JitterBuffer

variable {pkt : RtpPacket} {buffer : List RtpPacket}

/-- The sequence number of the packet comes before that of the other. -/
abbrev Earlier (a b : RtpPacket) : Prop := Precedes a.getSequenceNumber b.getSequenceNumber

/-- The loop meets a packet with the same sequence number before it meets a later one. -/
def Duplicate (pkt : RtpPacket) : List RtpPacket → Prop
  | [] => False
  | cur :: rest =>
    pkt.getSequenceNumber = cur.getSequenceNumber ∨ (¬ Earlier pkt cur ∧ Duplicate pkt rest)

instance Duplicate.decidable (pkt : RtpPacket) : ∀ buffer, Decidable (Duplicate pkt buffer)
  | [] => inferInstanceAs (Decidable False)
  | cur :: rest =>
    have := Duplicate.decidable pkt rest
    inferInstanceAs (Decidable (pkt.getSequenceNumber = cur.getSequenceNumber ∨
      (¬ Earlier pkt cur ∧ Duplicate pkt rest)))

/-- The comparison of `push`, for numbers that differ. -/
theorem earlier_iff {cur : RtpPacket} (hne : pkt.getSequenceNumber ≠ cur.getSequenceNumber) :
    Earlier pkt cur ↔ cur.getSequenceNumber - pkt.getSequenceNumber < 32768 := by
  have hpos : gap pkt.getSequenceNumber cur.getSequenceNumber ≠ 0 :=
    fun he => hne (gap_eq_zero.mp he)
  rw [UInt16.lt_iff_toNat_lt]
  show Precedes _ _ ↔ gap _ _ < 32768
  unfold Precedes
  omega

/-! ## One round of the loop -/

theorem insertOrdered_same {cur : RtpPacket} (rest : List RtpPacket)
    (h : pkt.getSequenceNumber = cur.getSequenceNumber) :
    insertOrdered pkt (cur :: rest) = cur :: rest := by
  rw [insertOrdered, if_pos h]

theorem insertOrdered_earlier {cur : RtpPacket} (rest : List RtpPacket) (h : Earlier pkt cur) :
    insertOrdered pkt (cur :: rest) = pkt :: cur :: rest := by
  rw [insertOrdered, if_neg h.ne, if_pos ((earlier_iff h.ne).mp h)]

theorem insertOrdered_later {cur : RtpPacket} (rest : List RtpPacket)
    (hne : pkt.getSequenceNumber ≠ cur.getSequenceNumber) (h : ¬ Earlier pkt cur) :
    insertOrdered pkt (cur :: rest) = cur :: insertOrdered pkt rest := by
  rw [insertOrdered, if_neg hne, if_neg]
  exact fun hlt => h ((earlier_iff hne).mpr hlt)

/-! ## The whole loop -/

theorem insertOrdered_of_duplicate (h : Duplicate pkt buffer) :
    insertOrdered pkt buffer = buffer := by
  induction buffer with
  | nil => cases h
  | cons cur rest ih =>
    by_cases hseq : pkt.getSequenceNumber = cur.getSequenceNumber
    · exact insertOrdered_same rest hseq
    · obtain ⟨hlater, hrest⟩ := h.resolve_left hseq
      rw [insertOrdered_later rest hseq hlater, ih hrest]

/-- A packet that is no duplicate is put somewhere, and nothing else changes. -/
theorem insertOrdered_perm (h : ¬ Duplicate pkt buffer) :
    (insertOrdered pkt buffer).Perm (pkt :: buffer) := by
  induction buffer with
  | nil => exact List.Perm.refl _
  | cons cur rest ih =>
    have hseq : pkt.getSequenceNumber ≠ cur.getSequenceNumber := fun he => h (Or.inl he)
    by_cases hearlier : Earlier pkt cur
    · rw [insertOrdered_earlier rest hearlier]
    · rw [insertOrdered_later rest hseq hearlier]
      have hrest : ¬ Duplicate pkt rest := fun hd => h (Or.inr ⟨hearlier, hd⟩)
      exact ((ih hrest).cons cur).trans (List.Perm.swap pkt cur rest)

theorem length_insertOrdered (h : ¬ Duplicate pkt buffer) :
    (insertOrdered pkt buffer).length = buffer.length + 1 :=
  (insertOrdered_perm h).length_eq

/-- What is dropped has its sequence number in the buffer. -/
theorem Duplicate.exists_mem (h : Duplicate pkt buffer) :
    ∃ cur ∈ buffer, cur.getSequenceNumber = pkt.getSequenceNumber := by
  induction buffer with
  | nil => cases h
  | cons cur rest ih =>
    rcases h with hseq | ⟨-, hrest⟩
    · exact ⟨cur, List.mem_cons_self, hseq.symm⟩
    · obtain ⟨x, hx, hxseq⟩ := ih hrest
      exact ⟨x, List.mem_cons_of_mem _ hx, hxseq⟩

/-- The first packet of the buffer behind a push. -/
theorem head?_insertOrdered {front : RtpPacket} {rest : List RtpPacket} :
    (insertOrdered pkt (front :: rest)).head? =
      some (if Earlier pkt front then pkt else front) := by
  by_cases hseq : pkt.getSequenceNumber = front.getSequenceNumber
  · rw [insertOrdered_same rest hseq, if_neg (fun he => he.ne hseq)]
    rfl
  · by_cases hearlier : Earlier pkt front
    · rw [insertOrdered_earlier rest hearlier, if_pos hearlier]
      rfl
    · rw [insertOrdered_later rest hseq hearlier, if_neg hearlier]
      rfl

/-! ## Popping -/

theorem pop_of_short {jb : JitterBuffer} (h : jb.buffer.length < 5) : jb.pop = (none, jb) := by
  unfold pop
  split
  · rfl
  · exact if_neg (Nat.not_le.mpr h)

theorem pop_of_long {front : RtpPacket} {rest : List RtpPacket} (h : 5 ≤ rest.length + 1) :
    pop { buffer := front :: rest } = (some front, { buffer := rest }) :=
  if_pos h

/-! ## Inside a window -/

/-- The numbers buffered and the one that comes in lie in half of the number circle. -/
def Window (buffer : List RtpPacket) (pkt : RtpPacket) : Prop :=
  ∃ base, InWindow base pkt.getSequenceNumber ∧
    ∀ cur ∈ buffer, InWindow base cur.getSequenceNumber

/-- A buffer in which every packet comes before all that stand behind it. -/
def Sorted (buffer : List RtpPacket) : Prop := buffer.Pairwise Earlier

/-- **Inside a window the loop keeps the buffer sorted.** -/
theorem insertOrdered_window (hw : Window buffer pkt) (h : Sorted buffer) :
    Sorted (insertOrdered pkt buffer) := by
  obtain ⟨base, hpkt, hbuffer⟩ := hw
  induction buffer with
  | nil => exact List.pairwise_singleton _ _
  | cons cur rest ih =>
    obtain ⟨hhead, htail⟩ := List.pairwise_cons.mp h
    have hcur := hbuffer cur List.mem_cons_self
    have hrest : ∀ x ∈ rest, InWindow base x.getSequenceNumber :=
      fun x hx => hbuffer x (List.mem_cons_of_mem _ hx)
    by_cases hseq : pkt.getSequenceNumber = cur.getSequenceNumber
    · rw [insertOrdered_same rest hseq]
      exact h
    · by_cases hearlier : Earlier pkt cur
      · rw [insertOrdered_earlier rest hearlier]
        refine List.pairwise_cons.mpr ⟨?_, h⟩
        intro x hx
        rcases List.mem_cons.mp hx with rfl | hx
        · exact hearlier
        · exact hearlier.trans_of_window hpkt hcur (hrest x hx) (hhead x hx)
      · rw [insertOrdered_later rest hseq hearlier]
        refine List.pairwise_cons.mpr ⟨?_, ih htail hrest⟩
        intro x hx
        by_cases hdup : Duplicate pkt rest
        · rw [insertOrdered_of_duplicate hdup] at hx
          exact hhead x hx
        · rcases List.mem_cons.mp ((insertOrdered_perm hdup).mem_iff.mp hx) with rfl | hx
          · exact precedes_or_of_window hpkt hcur hseq hearlier
          · exact hhead x hx

/-! ## Neighbours -/

/-- The second comes after the first or is exactly half the circle away. -/
def Adjacent (a b : RtpPacket) : Prop :=
  1 ≤ gap a.getSequenceNumber b.getSequenceNumber ∧
    gap a.getSequenceNumber b.getSequenceNumber ≤ 32768

theorem Adjacent.of_earlier {a b : RtpPacket} (h : Earlier a b) : Adjacent a b :=
  ⟨h.1, h.2.trans (by omega)⟩

theorem Adjacent.of_not_earlier {a b : RtpPacket}
    (hne : b.getSequenceNumber ≠ a.getSequenceNumber) (h : ¬ Earlier b a) : Adjacent a b :=
  gap_of_not_precedes hne h

theorem Adjacent.earlier_iff {a b : RtpPacket} (h : Adjacent a b) :
    Earlier a b ↔ gap a.getSequenceNumber b.getSequenceNumber ≠ 32768 := by
  obtain ⟨h1, h2⟩ := h
  unfold Earlier Precedes
  omega

/-- Behind a packet that it may follow, the new one finds a place where it may stand. -/
theorem insertOrdered_chain_cons {last : RtpPacket} (hlast : Adjacent last pkt)
    (h : (last :: buffer).IsChain Adjacent) :
    (last :: insertOrdered pkt buffer).IsChain Adjacent := by
  induction buffer generalizing last with
  | nil => exact List.isChain_pair.mpr hlast
  | cons cur rest ih =>
    obtain ⟨hcur, hrest⟩ := List.isChain_cons_cons.mp h
    by_cases hseq : pkt.getSequenceNumber = cur.getSequenceNumber
    · rw [insertOrdered_same rest hseq]
      exact h
    · by_cases hearlier : Earlier pkt cur
      · rw [insertOrdered_earlier rest hearlier]
        exact List.isChain_cons_cons.mpr
          ⟨hlast, List.isChain_cons_cons.mpr ⟨Adjacent.of_earlier hearlier, hrest⟩⟩
      · rw [insertOrdered_later rest hseq hearlier]
        exact List.isChain_cons_cons.mpr
          ⟨hcur, ih (Adjacent.of_not_earlier hseq hearlier) hrest⟩

/-- Whatever comes in, neighbours in the buffer are at most half the circle apart. -/
theorem insertOrdered_chain (h : buffer.IsChain Adjacent) :
    (insertOrdered pkt buffer).IsChain Adjacent := by
  cases buffer with
  | nil => exact List.isChain_singleton _
  | cons cur rest =>
    by_cases hseq : pkt.getSequenceNumber = cur.getSequenceNumber
    · rw [insertOrdered_same rest hseq]
      exact h
    · by_cases hearlier : Earlier pkt cur
      · rw [insertOrdered_earlier rest hearlier]
        exact List.isChain_cons_cons.mpr ⟨Adjacent.of_earlier hearlier, h⟩
      · rw [insertOrdered_later rest hseq hearlier]
        exact insertOrdered_chain_cons (Adjacent.of_not_earlier hseq hearlier) h

end JitterBuffer

end SipGateway
