import SipGateway.Infra.Reorder
import SipGateway.Properties.Playout
import SipGateway.Rtp.Header

/-!
# Packets that overtake each other

A sender numbers its packets, and the network delivers them in some order, not all of them.
`reordering_repaired`: the session plays them out in the order they were numbered in if none is
overtaken by more than four, however often the sequence number wraps.

The comparison of `push` sees 16 bits only, so packets that wait together must not be half the
number circle apart (`InReach`).
-/

namespace SipGateway

open Infra

/-- The packets a sender sends, numbered on from some sequence number. -/
structure Sender where
  packet : Nat → RtpPacket
  first : UInt16
  numbered : ∀ i, (packet i).getSequenceNumber = first + UInt16.ofNat i

namespace Sender

open JitterBuffer

variable (sender : Sender) {x y : Nat} {xs ys : List Nat}

/-- Two packets whose numbers are less than half the circle apart. -/
def Near (x y : Nat) : Prop := x ≤ y + 32767 ∧ y ≤ x + 32767

instance (x y : Nat) : Decidable (Near x y) := inferInstanceAs (Decidable (_ ∧ _))

/-- Every packet is near the four last ones, by their numbers, of those that came before. -/
def InReach (xs : List Nat) : Prop :=
  AtEach (fun before x => ∀ y ∈ before, before.countP (fun z => y < z) < 4 → Near x y) xs

instance (xs : List Nat) : Decidable (InReach xs) := inferInstanceAs (Decidable (AtEach _ xs))

theorem gap_packet (i j : Nat) :
    gap (sender.packet i).getSequenceNumber (sender.packet j).getSequenceNumber =
      (65536 - i % 65536 + j) % 65536 := by
  have hlt := sender.first.toNat_lt
  rw [gap_eq, sender.numbered, sender.numbered, UInt16.toNat_add, UInt16.toNat_add]
  simp only [UInt16.toNat_ofNat']
  omega

theorem seq_eq_iff (h : Near x y) : (sender.packet x).getSequenceNumber =
    (sender.packet y).getSequenceNumber ↔ x = y := by
  rw [← gap_eq_zero, sender.gap_packet]
  unfold Near at h
  omega

theorem earlier_iff (h : Near x y) : Earlier (sender.packet x) (sender.packet y) ↔ x < y := by
  unfold Earlier Precedes
  rw [sender.gap_packet]
  unfold Near at h
  omega

/-! ## The jitter buffer as a sorter -/

theorem insertOrdered_packet (hnear : ∀ y ∈ ys, Near x y) (hx : x ∉ ys) :
    insertOrdered (sender.packet x) (ys.map sender.packet) =
      (ys.orderedInsert (· ≤ ·) x).map sender.packet := by
  induction ys with
  | nil => rfl
  | cons y ys ih =>
    obtain ⟨hy, hys⟩ := List.forall_mem_cons.mp hnear
    rw [List.mem_cons, not_or] at hx
    obtain ⟨hne, hrest⟩ := hx
    have hseq := (sender.seq_eq_iff hy).not.mpr hne
    rw [List.map_cons, List.orderedInsert_cons]
    by_cases hle : x ≤ y
    · rw [insertOrdered_earlier _ ((sender.earlier_iff hy).mpr (lt_of_le_of_ne hle hne)),
        if_pos hle]
      rfl
    · have hlater : ¬ Earlier (sender.packet x) (sender.packet y) := by
        rw [sender.earlier_iff hy]
        omega
      rw [insertOrdered_later _ hseq hlater, if_neg hle, ih hys hrest]
      rfl

/-- The jitter buffer and what it has given out, as the sorter of the numbers has them. -/
def shows (s : Sorter Nat) : Playout where
  jitterBuffer := { buffer := s.waiting.map sender.packet }
  popped := s.out.map sender.packet

theorem shows_next {s : Sorter Nat} (hnear : ∀ y ∈ s.waiting, Near x y) (hx : x ∉ s.waiting) :
    (sender.shows s).next (sender.packet x) = sender.shows (s.put 4 x) := by
  have hinsert := sender.insertOrdered_packet hnear hx
  unfold Playout.next push Sorter.put shows
  dsimp only
  rw [hinsert]
  split
  · next hnil =>
    have hlen := List.orderedInsert_length (· ≤ ·) s.waiting x
    rw [hnil] at hlen
    cases hlen
  · next first rest hcons =>
    rw [hcons, List.map_cons]
    by_cases hlong : 4 ≤ rest.length
    · rw [if_pos hlong, pop_of_long (by rw [List.length_map]; omega)]
      simp
    · rw [if_neg hlong, pop_of_short (by simp only [List.length_cons, List.length_map]; omega)]
      simp

/-- What waits in a sorter that works is among the four last of all. -/
theorem countP_waiting {s : Sorter Nat} (hkept : s.Kept 4 xs) (hs : s.all.Pairwise (· < ·))
    (hy : y ∈ s.waiting) : xs.countP (fun z => y < z) < 4 := by
  obtain ⟨-, -, hcross⟩ := List.pairwise_append.mp hs
  have hout : s.out.countP (fun z => y < z) = 0 := by
    rw [List.countP_eq_zero]
    intro z hz
    simpa using (hcross z hz y hy).le
  have hwaiting : s.waiting.countP (fun z => y < z) < s.waiting.length := by
    refine lt_of_le_of_ne List.countP_le_length fun heq => ?_
    have := List.countP_eq_length.mp heq y hy
    simp at this
  rw [← hkept.perm.countP_eq, Sorter.all, List.countP_append]
  have := hkept.length_le
  omega

/-- **The jitter buffer is a sorter** as long as the arrivals are in reach. -/
theorem play_packets (hnodup : xs.Nodup) (hreach : InReach xs) (hover : OvertakenAtMost 4 xs) :
    Playout.play (xs.map sender.packet) = sender.shows (Sorter.run 4 xs) := by
  induction xs using List.reverseRecOn with
  | nil => rfl
  | append_singleton xs x ih =>
    obtain ⟨hxs, -, hdisjoint⟩ := List.nodup_append.mp hnodup
    obtain ⟨hreach, hnear⟩ := atEach_concat.mp hreach
    obtain ⟨hover, -⟩ := atEach_concat.mp hover
    have hkept := Sorter.run_kept 4 xs
    have hsorted := (Sorter.run_sorted_iff hxs).mpr hover
    have hmem : ∀ y ∈ (Sorter.run 4 xs).waiting, y ∈ xs := fun y hy =>
      hkept.perm.subset (List.mem_append_right _ hy)
    rw [List.map_append, List.map_singleton, Playout.play_concat, ih hxs hreach hover,
      Sorter.run_concat]
    refine sender.shows_next (fun y hy => ?_) fun hx => ?_
    · exact hnear y (hmem y hy) (countP_waiting hkept hsorted hy)
    · exact hdisjoint x (hmem x hx) x (List.mem_singleton_self x) rfl

end Sender

/-! ## Sessions -/

namespace Reception

theorem receive_next (r : Reception) (arrival : RtpPacket × SockAddr) {p : Playout}
    (hjb : r.session.jitterBuffer = p.jitterBuffer)
    (hpopped : r.popped.map Pop.packet = p.popped) :
    (r.receive arrival).session.jitterBuffer =
        (([arrival.1].filter r.session.accepts).foldl Playout.next p).jitterBuffer ∧
      (r.receive arrival).popped.map Pop.packet =
        (([arrival.1].filter r.session.accepts).foldl Playout.next p).popped := by
  have hbuffer := r.session.onRtpPacket_jitterBuffer arrival.1 arrival.2
  unfold receive
  by_cases haccepts : r.session.accepts arrival.1 = true
  · rw [if_pos haccepts] at hbuffer
    rw [if_pos haccepts, List.filter_cons_of_pos haccepts, List.filter_nil, List.foldl_cons,
      List.foldl_nil]
    unfold Playout.next
    rw [← hjb, ← hpopped]
    refine ⟨hbuffer, ?_⟩
    rw [List.map_append, List.map_map]
    cases (r.session.jitterBuffer.push arrival.1).pop.1 <;> rfl
  · rw [if_neg haccepts] at hbuffer
    rw [if_neg haccepts, List.filter_cons_of_neg haccepts, List.filter_nil, List.foldl_nil]
    exact ⟨hbuffer.trans hjb, hpopped⟩

/-- The packets of the payload type are played out as they come. -/
theorem run_play {session : CallSession} (hempty : session.jitterBuffer.buffer = [])
    (arrivals : List (RtpPacket × SockAddr)) :
    (run session arrivals).session.jitterBuffer =
        (Playout.play ((arrivals.map Prod.fst).filter session.accepts)).jitterBuffer ∧
      (run session arrivals).popped.map Pop.packet =
        (Playout.play ((arrivals.map Prod.fst).filter session.accepts)).popped := by
  induction arrivals using List.reverseRecOn with
  | nil =>
    refine ⟨?_, rfl⟩
    show session.jitterBuffer = {}
    rw [← hempty]
  | append_singleton arrivals arrival ih =>
    have hsame : (run session arrivals).session.accepts = session.accepts := by
      unfold CallSession.accepts
      rw [run_payloadType]
    have hnext := (run session arrivals).receive_next arrival ih.1 ih.2
    rw [hsame] at hnext
    rw [run_concat, List.map_append, List.filter_append]
    unfold Playout.play at hnext ⊢
    rw [List.foldl_append]
    exact hnext

/--
**Reordering up to a depth of four is repaired.** Packets popped come in the order of their
numbers, none is left out, and the four last ones wait.
-/
theorem reordering_repaired {session : CallSession} (hempty : session.jitterBuffer.buffer = [])
    (sender : Sender) {xs : List Nat} (hnodup : xs.Nodup) (hreach : Sender.InReach xs)
    (hover : OvertakenAtMost 4 xs) {arrivals : List (RtpPacket × SockAddr)}
    (harrivals : (arrivals.map Prod.fst).filter session.accepts = xs.map sender.packet) :
    (run session arrivals).popped.map Pop.packet ++ (run session arrivals).buffered =
        (xs.insertionSort (· ≤ ·)).map sender.packet ∧
      (run session arrivals).buffered.length = min 4 xs.length := by
  obtain ⟨hjb, hpopped⟩ := run_play hempty arrivals
  rw [harrivals, sender.play_packets hnodup hreach hover] at hjb hpopped
  unfold buffered
  rw [hjb, hpopped, ← Sorter.all_eq_insertionSort hnodup hover]
  refine ⟨(List.map_append ..).symm, ?_⟩
  exact (List.length_map _).trans (Sorter.run_kept 4 xs).length_waiting

/-- Numbers that begin three before the wrap. -/
def exampleSender : Sender where
  packet i := Playout.examplePacket (65533 + UInt16.ofNat i)
  first := 65533
  numbered _ := (RtpPacket.setHeader_headed RtpPacket.empty 0 _ 0 0).getSequenceNumber

/-- Packet 0 is overtaken by four, 7 by 6, and 5 is lost. -/
def exampleArrivalsOvertaken : List (RtpPacket × SockAddr) :=
  [1, 2, 3, 4, 0, 7, 6, 8].map fun i => (exampleSender.packet i, {})

theorem reordering_repaired_around_wrap :
    (run (CallSession.create [] 0) exampleArrivalsOvertaken).popped.map Pop.packet ++
        (run (CallSession.create [] 0) exampleArrivalsOvertaken).buffered =
      [0, 1, 2, 3, 4, 6, 7, 8].map exampleSender.packet :=
  (@reordering_repaired (CallSession.create [] 0) rfl exampleSender [1, 2, 3, 4, 0, 7, 6, 8]
    (by decide) (by decide) (by decide) exampleArrivalsOvertaken (by decide +kernel)).1

end Reception

end SipGateway
