import SipGateway.Call.Frames

/-!
# The order packets are played out in

A `Playout` is a jitter buffer that is pushed to and popped from in turn, with everything it has
given out. `popped_in_order_iff` says for which arrivals every packet comes after the one before.

A `Reception` is a session whose worker thread hands it packets, with what became of each:
`reception_conserves` accounts for all of them and says how the buffer is ordered.
-/

namespace SipGateway

open Infra

/-! ## Playing out -/

/-- A jitter buffer, and what it has given out. -/
structure Playout where
  jitterBuffer : JitterBuffer := {}
  popped : List RtpPacket := []
deriving DecidableEq

namespace Playout

open JitterBuffer

/-- A packet is pushed, and one `pop` attempted. -/
def next (p : Playout) (pkt : RtpPacket) : Playout where
  jitterBuffer := (p.jitterBuffer.push pkt).pop.2
  popped := p.popped ++ (p.jitterBuffer.push pkt).pop.1.toList

/-- The packets in the order they arrive. -/
def play (pkts : List RtpPacket) : Playout := pkts.foldl next {}

/-- Every packet given out comes after the one given out before it. -/
def InOrder (p : Playout) : Prop := p.popped.IsChain Earlier

instance (p : Playout) : Decidable p.InOrder :=
  inferInstanceAs (Decidable (p.popped.IsChain Earlier))

/--
A packet arrives in time: if it is no duplicate and comes before all that are buffered, it still
comes after the last one given out. When it does not come before them, the first of them must
not be exactly half the number circle away from the last one given out.
-/
def InTime (p : Playout) (pkt : RtpPacket) : Prop :=
  ∀ last front, p.popped.getLast? = some last → p.jitterBuffer.buffer.head? = some front →
    ¬ Duplicate pkt p.jitterBuffer.buffer →
    if Earlier pkt front then Earlier last pkt
    else gap last.getSequenceNumber front.getSequenceNumber ≠ 32768

/-- What playing keeps: four are buffered once one was given out, and neighbours are close. -/
structure Steady (p : Playout) : Prop where
  length_le : p.jitterBuffer.buffer.length ≤ 4
  full : p.popped ≠ [] → p.jitterBuffer.buffer.length = 4
  chain : (p.popped.getLast?.toList ++ p.jitterBuffer.buffer).IsChain Adjacent

theorem Steady.buffer_chain {p : Playout} (h : p.Steady) :
    p.jitterBuffer.buffer.IsChain Adjacent :=
  (List.isChain_append.mp h.chain).2.1

/-- The three things that can happen to a packet. -/
inductive Played (p : Playout) (pkt : RtpPacket) : Playout → Prop where
  | dropped (h : Duplicate pkt p.jitterBuffer.buffer) : Played p pkt p
  | buffered (h : ¬ Duplicate pkt p.jitterBuffer.buffer) (hempty : p.popped = [])
      (hlen : p.jitterBuffer.buffer.length < 4) :
      Played p pkt { p with jitterBuffer := p.jitterBuffer.push pkt }
  | popped (h : ¬ Duplicate pkt p.jitterBuffer.buffer) (hlen : p.jitterBuffer.buffer.length = 4)
      (frame : RtpPacket) (rest : List RtpPacket)
      (hpush : insertOrdered pkt p.jitterBuffer.buffer = frame :: rest) :
      Played p pkt { jitterBuffer := { buffer := rest }, popped := p.popped ++ [frame] }

theorem Steady.played {p : Playout} (h : p.Steady) (pkt : RtpPacket) :
    Played p pkt (p.next pkt) := by
  have hle := h.length_le
  by_cases hdup : Duplicate pkt p.jitterBuffer.buffer
  · have hsame : p.next pkt = p := by
      unfold next push
      rw [insertOrdered_of_duplicate hdup, pop_of_short (by dsimp only; omega)]
      simp
    rw [hsame]
    exact Played.dropped hdup
  · have hlen := length_insertOrdered hdup
    by_cases hfull : p.jitterBuffer.buffer.length = 4
    · cases hpush : insertOrdered pkt p.jitterBuffer.buffer with
      | nil => rw [hpush] at hlen; simp at hlen
      | cons frame rest =>
        have hnext : p.next pkt =
            { jitterBuffer := { buffer := rest }, popped := p.popped ++ [frame] } := by
          rw [hpush, List.length_cons] at hlen
          unfold next push
          rw [hpush, pop_of_long (by omega)]
          rfl
        rw [hnext]
        exact Played.popped hdup hfull frame rest hpush
    · have hnext : p.next pkt = { p with jitterBuffer := p.jitterBuffer.push pkt } := by
        unfold next push
        rw [pop_of_short (by dsimp only; omega)]
        simp
      rw [hnext]
      refine Played.buffered hdup ?_ (by omega)
      by_contra hne
      exact hfull (h.full hne)

theorem Steady.start : Steady {} where
  length_le := Nat.zero_le _
  full := nofun
  chain := List.isChain_nil

theorem Steady.next {p : Playout} (h : p.Steady) (pkt : RtpPacket) : (p.next pkt).Steady := by
  have hplayed := h.played pkt
  have hchain : (insertOrdered pkt p.jitterBuffer.buffer).IsChain Adjacent :=
    insertOrdered_chain h.buffer_chain
  generalize p.next pkt = p' at hplayed
  cases hplayed with
  | dropped => exact h
  | buffered hdup hempty hlen =>
    refine ⟨?_, fun hne => absurd hempty hne, ?_⟩
    · exact (length_insertOrdered hdup).trans_le (by omega)
    · show (p.popped.getLast?.toList ++ insertOrdered pkt p.jitterBuffer.buffer).IsChain Adjacent
      rw [hempty]
      exact hchain
  | popped hdup hlen frame rest hpush =>
    have hrest : rest.length = 4 := by
      have := length_insertOrdered hdup
      rw [hpush, List.length_cons] at this
      omega
    refine ⟨hrest.le, fun _ => hrest, ?_⟩
    rw [List.getLast?_concat]
    rw [hpush] at hchain
    exact hchain

/-- The packet given out comes after the last one if and only if the arriving one is in time. -/
theorem Steady.earlier_frame_iff {p : Playout} (h : p.Steady) {pkt frame last : RtpPacket}
    {rest : List RtpPacket} (hdup : ¬ Duplicate pkt p.jitterBuffer.buffer)
    (hpush : insertOrdered pkt p.jitterBuffer.buffer = frame :: rest)
    (hlast : p.popped.getLast? = some last) : Earlier last frame ↔ p.InTime pkt := by
  have hlen : p.jitterBuffer.buffer.length = 4 := by
    refine h.full fun he => ?_
    rw [he] at hlast
    cases hlast
  cases hbuffer : p.jitterBuffer.buffer with
  | nil => rw [hbuffer] at hlen; cases hlen
  | cons front more =>
    have hadjacent : Adjacent last front := by
      have hchain := h.chain
      rw [hlast, hbuffer] at hchain
      exact (List.isChain_cons_cons.mp hchain).1
    have hframe : frame = if Earlier pkt front then pkt else front := by
      have hhead : (insertOrdered pkt (front :: more)).head? =
          some (if Earlier pkt front then pkt else front) := head?_insertOrdered
      rw [← hbuffer, hpush] at hhead
      exact Option.some.inj hhead
    have htime : p.InTime pkt ↔ if Earlier pkt front then Earlier last pkt
        else gap last.getSequenceNumber front.getSequenceNumber ≠ 32768 := by
      constructor
      · intro hin
        exact hin last front hlast (by rw [hbuffer]; rfl) hdup
      · intro hin last' front' hlast' hfront' _
        rw [hlast] at hlast'
        rw [hbuffer] at hfront'
        cases hlast'
        cases hfront'
        exact hin
    rw [htime, hframe]
    split
    · rfl
    · exact hadjacent.earlier_iff

/-- A packet keeps the order if and only if it arrives in time. -/
theorem Steady.inTime_iff {p : Playout} (h : p.Steady) (pkt : RtpPacket) :
    (p.next pkt).InOrder ↔ p.InOrder ∧ p.InTime pkt := by
  have hplayed := h.played pkt
  generalize p.next pkt = p' at hplayed
  cases hplayed with
  | dropped hdup =>
    exact (and_iff_left fun _ _ _ _ hno => absurd hdup hno).symm
  | buffered hdup hempty hlen =>
    refine (and_iff_left ?_).symm
    intro last front hlast
    rw [hempty] at hlast
    cases hlast
  | popped hdup hlen frame rest hpush =>
    show (p.popped ++ [frame]).IsChain Earlier ↔ _
    rw [List.isChain_append]
    cases hlast : p.popped.getLast? with
    | none =>
      have hin : p.InTime pkt := by
        intro last front hsome
        rw [hlast] at hsome
        cases hsome
      simp [InOrder, hin]
    | some last =>
      rw [← h.earlier_frame_iff hdup hpush hlast]
      simp [InOrder]

theorem play_concat (pkts : List RtpPacket) (pkt : RtpPacket) :
    play (pkts ++ [pkt]) = (play pkts).next pkt := List.foldl_concat ..

theorem play_steady (pkts : List RtpPacket) : (play pkts).Steady := by
  induction pkts using List.reverseRecOn with
  | nil => exact Steady.start
  | append_singleton pkts pkt ih =>
    rw [play_concat]
    exact ih.next pkt

/--
**Which arrivals keep the playout in order**: those in which every packet arrives in time. A
packet that comes too late is not dropped.
-/
theorem popped_in_order_iff (pkts : List RtpPacket) :
    (play pkts).InOrder ↔
      ∀ (k : Nat) (hk : k < pkts.length), (play (pkts.take k)).InTime pkts[k] := by
  induction pkts using List.reverseRecOn with
  | nil => exact iff_of_true List.isChain_nil nofun
  | append_singleton pkts pkt ih =>
    rw [play_concat, (play_steady pkts).inTime_iff, ih]
    constructor
    · rintro ⟨hbefore, hlast⟩ k hk
      rw [List.length_append, List.length_singleton] at hk
      rcases Nat.lt_succ_iff_lt_or_eq.mp hk with hlt | rfl
      · rw [List.take_append_of_le_length hlt.le, List.getElem_append_left hlt]
        exact hbefore k hlt
      · rw [List.take_left', List.getElem_concat_length rfl]
        · exact hlast
        · rfl
    · intro hall
      refine ⟨fun k hk => ?_, ?_⟩
      · have := hall k (by rw [List.length_append]; omega)
        rwa [List.take_append_of_le_length hk.le, List.getElem_append_left hk] at this
      · have := hall pkts.length (by simp)
        rwa [List.take_left' rfl, List.getElem_concat_length rfl] at this

/-- A packet of some stream, with a sequence number. -/
def examplePacket (seq : UInt16) : RtpPacket := RtpPacket.empty.setHeader 0 seq 0 0

/-- Packet 10 is given out, arrives once more, and is given out again. -/
theorem late_packet_played_again :
    ¬ (play ([10, 11, 12, 13, 14, 10].map examplePacket)).InOrder := by
  decide +kernel

end Playout

/-! ## A session that receives packets -/

/-- A packet that was dropped on arrival, and what was buffered then. -/
structure Drop where
  packet : RtpPacket
  buffer : List RtpPacket

/-- A packet that was popped, and what stayed behind. -/
structure Pop where
  packet : RtpPacket
  buffer : List RtpPacket

/-- A session with an account of the packets handed to `onRtpPacket`. -/
structure Reception where
  session : CallSession
  accepted : List RtpPacket := []
  dropped : List Drop := []
  popped : List Pop := []

namespace Reception

open JitterBuffer

/-- The packets that are buffered. -/
abbrev buffered (r : Reception) : List RtpPacket := r.session.jitterBuffer.buffer

/--
One call of `onRtpPacket`. A packet is dropped when pushing it leaves the buffer as long as it
was, and what the buffer gives out is what the pipeline is handed.
-/
def receive (r : Reception) (arrival : RtpPacket × SockAddr) : Reception :=
  let session := (r.session.onRtpPacket arrival.1 arrival.2).1
  if r.session.accepts arrival.1 then
    let pushed := r.session.jitterBuffer.push arrival.1
    { session := session
      accepted := r.accepted ++ [arrival.1]
      dropped :=
        if pushed.buffer.length = r.buffered.length then
          r.dropped ++ [{ packet := arrival.1, buffer := r.buffered }]
        else r.dropped
      popped := r.popped ++
        pushed.pop.1.toList.map fun frame => { packet := frame, buffer := pushed.pop.2.buffer } }
  else { r with session := session }

/-- The calls one worker thread makes, one after the other. -/
def run (session : CallSession) (arrivals : List (RtpPacket × SockAddr)) : Reception :=
  arrivals.foldl receive { session := session }

/-- What every call keeps: who is where, and how many wait. -/
structure Accounts (r : Reception) : Prop where
  length_le : r.buffered.length ≤ 4
  perm : (r.popped.map Pop.packet ++ r.buffered ++ r.dropped.map Drop.packet).Perm r.accepted
  dropped_mem : ∀ d ∈ r.dropped,
    ∃ cur ∈ d.buffer, cur.getSequenceNumber = d.packet.getSequenceNumber

theorem receive_payloadType (r : Reception) (arrival : RtpPacket × SockAddr) :
    (r.receive arrival).session.payloadType = r.session.payloadType := by
  have h := r.session.onRtpPacket_payloadType arrival.1 arrival.2
  unfold receive
  split <;> exact h

theorem receive_accepted (r : Reception) (arrival : RtpPacket × SockAddr) :
    (r.receive arrival).accepted =
      r.accepted ++ [arrival.1].filter r.session.accepts := by
  unfold receive
  split
  · next h => rw [List.filter_cons_of_pos h]; rfl
  · next h => rw [List.filter_cons_of_neg h]; exact (List.append_nil _).symm

/-- The four things that can happen to a packet that is handed over. -/
inductive Received (r : Reception) (pkt : RtpPacket) : Reception → Prop where
  | rejected (session : CallSession) (h : r.session.accepts pkt = false)
      (hjb : session.jitterBuffer = r.session.jitterBuffer) :
      Received r pkt { r with session := session }
  | dropped (session : CallSession) (h : r.session.accepts pkt = true)
      (hdup : Duplicate pkt r.buffered) (hjb : session.jitterBuffer = r.session.jitterBuffer) :
      Received r pkt { r with
        session := session, accepted := r.accepted ++ [pkt]
        dropped := r.dropped ++ [{ packet := pkt, buffer := r.buffered }] }
  | buffered (session : CallSession) (h : r.session.accepts pkt = true)
      (hdup : ¬ Duplicate pkt r.buffered) (hlen : r.buffered.length < 4)
      (hjb : session.jitterBuffer.buffer = insertOrdered pkt r.buffered) :
      Received r pkt { r with session := session, accepted := r.accepted ++ [pkt] }
  | popped (session : CallSession) (h : r.session.accepts pkt = true)
      (hdup : ¬ Duplicate pkt r.buffered) (hlen : r.buffered.length = 4)
      (frame : RtpPacket) (rest : List RtpPacket)
      (hpush : insertOrdered pkt r.buffered = frame :: rest)
      (hjb : session.jitterBuffer.buffer = rest) :
      Received r pkt { r with
        session := session, accepted := r.accepted ++ [pkt]
        popped := r.popped ++ [{ packet := frame, buffer := rest }] }

/-- A full buffer gives out its first packet when one more is pushed. -/
theorem exists_popped {jb : JitterBuffer} {pkt : RtpPacket} (hdup : ¬ Duplicate pkt jb.buffer)
    (hfull : jb.buffer.length = 4) : ∃ frame rest, insertOrdered pkt jb.buffer = frame :: rest ∧
      (jb.push pkt).pop = (some frame, { buffer := rest }) := by
  have hlen := length_insertOrdered hdup
  cases hpush : insertOrdered pkt jb.buffer with
  | nil =>
    rw [hpush] at hlen
    cases hlen
  | cons frame rest =>
    rw [hpush, List.length_cons] at hlen
    refine ⟨frame, rest, rfl, ?_⟩
    unfold push
    rw [hpush, pop_of_long (by omega)]

/-- A call with a packet that is buffered. -/
theorem receive_of_not_duplicate {r : Reception} {pkt : RtpPacket} (sender : SockAddr)
    (haccepts : r.session.accepts pkt = true) (hdup : ¬ Duplicate pkt r.buffered) :
    r.receive (pkt, sender) = { r with
      session := (r.session.onRtpPacket pkt sender).1, accepted := r.accepted ++ [pkt]
      popped := r.popped ++ (r.session.jitterBuffer.push pkt).pop.1.toList.map fun frame =>
        { packet := frame, buffer := (r.session.jitterBuffer.push pkt).pop.2.buffer } } := by
  have hlen : (r.session.jitterBuffer.push pkt).buffer.length = r.buffered.length + 1 :=
    length_insertOrdered hdup
  have hgrown : ¬ (r.session.jitterBuffer.push pkt).buffer.length = r.buffered.length := by
    omega
  unfold receive
  rw [if_pos haccepts]
  dsimp only
  rw [if_neg hgrown]

theorem receive_received {r : Reception} (hle : r.buffered.length ≤ 4)
    (arrival : RtpPacket × SockAddr) : Received r arrival.1 (r.receive arrival) := by
  obtain ⟨pkt, sender⟩ := arrival
  have hjb := r.session.onRtpPacket_jitterBuffer pkt sender
  cases haccepts : r.session.accepts pkt with
  | false =>
    rw [haccepts] at hjb
    have hreceive : r.receive (pkt, sender) =
        { r with session := (r.session.onRtpPacket pkt sender).1 } := by
      unfold receive
      exact if_neg (by simp [haccepts])
    rw [hreceive]
    exact Received.rejected _ haccepts hjb
  | true =>
    rw [haccepts, if_pos rfl] at hjb
    by_cases hdup : Duplicate pkt r.buffered
    · have hpush : r.session.jitterBuffer.push pkt = r.session.jitterBuffer := by
        unfold push
        rw [insertOrdered_of_duplicate hdup]
      have hpop := pop_of_short (Nat.lt_succ_of_le hle)
      rw [hpush, hpop] at hjb
      have hreceive : r.receive (pkt, sender) = { r with
          session := (r.session.onRtpPacket pkt sender).1, accepted := r.accepted ++ [pkt]
          dropped := r.dropped ++ [{ packet := pkt, buffer := r.buffered }] } := by
        unfold receive
        rw [if_pos haccepts]
        dsimp only
        rw [hpush, if_pos rfl, hpop]
        simp
      rw [hreceive]
      exact Received.dropped _ haccepts hdup hjb
    · rw [receive_of_not_duplicate sender haccepts hdup]
      by_cases hfull : r.buffered.length = 4
      · obtain ⟨frame, rest, hpush, hpop⟩ := exists_popped hdup hfull
        rw [hpop] at hjb ⊢
        exact Received.popped _ haccepts hdup hfull frame rest hpush (by rw [hjb])
      · have hlen : (r.session.jitterBuffer.push pkt).buffer.length = r.buffered.length + 1 :=
          length_insertOrdered hdup
        have hpop : (r.session.jitterBuffer.push pkt).pop =
            (none, r.session.jitterBuffer.push pkt) :=
          pop_of_short (by omega)
        rw [hpop] at hjb ⊢
        simp only [Option.toList_none, List.map_nil, List.append_nil]
        exact Received.buffered _ haccepts hdup (by omega) (by rw [hjb]; rfl)

theorem perm_of_pushed {popped buffer pushed dropped accepted : List RtpPacket} {pkt : RtpPacket}
    (hpush : pushed.Perm (pkt :: buffer)) (h : (popped ++ buffer ++ dropped).Perm accepted) :
    (popped ++ pushed ++ dropped).Perm (accepted ++ [pkt]) :=
  calc popped ++ pushed ++ dropped
    List.Perm _ (popped ++ pkt :: buffer ++ dropped) := (hpush.append_left popped).append_right _
    List.Perm _ (pkt :: (popped ++ buffer) ++ dropped) := List.perm_middle.append_right _
    List.Perm _ (pkt :: accepted) := h.cons pkt
    List.Perm _ (accepted ++ [pkt]) := (List.perm_append_singleton pkt accepted).symm

/-- A call puts the packet where it belongs, and takes at most one from the front. -/
theorem Accounts.receive {r : Reception} (h : r.Accounts) (arrival : RtpPacket × SockAddr) :
    (r.receive arrival).Accounts := by
  have hreceived := receive_received h.length_le arrival
  generalize arrival.1 = pkt at hreceived
  generalize r.receive arrival = r' at hreceived
  cases hreceived with
  | rejected session _ hjb =>
    refine ⟨?_, ?_, h.dropped_mem⟩
    · show session.jitterBuffer.buffer.length ≤ 4
      rw [hjb]
      exact h.length_le
    · show (_ ++ session.jitterBuffer.buffer ++ _).Perm _
      rw [hjb]
      exact h.perm
  | dropped session _ hdup hjb =>
    refine ⟨?_, ?_, ?_⟩
    · show session.jitterBuffer.buffer.length ≤ 4
      rw [hjb]
      exact h.length_le
    · show (_ ++ session.jitterBuffer.buffer ++ (r.dropped ++ [_]).map _).Perm (_ ++ _)
      rw [hjb, List.map_append, ← List.append_assoc]
      exact h.perm.append_right _
    · intro d hd
      rcases List.mem_append.mp hd with hd | hd
      · exact h.dropped_mem d hd
      · rw [List.mem_singleton.mp hd]
        exact hdup.exists_mem
  | buffered session _ hdup hlen hjb =>
    refine ⟨?_, ?_, h.dropped_mem⟩
    · show session.jitterBuffer.buffer.length ≤ 4
      rw [hjb, length_insertOrdered hdup]
      exact hlen
    · show (_ ++ session.jitterBuffer.buffer ++ _).Perm (_ ++ _)
      rw [hjb]
      exact perm_of_pushed (insertOrdered_perm hdup) h.perm
  | popped session _ hdup hlen frame rest hpush hjb =>
    have hperm := insertOrdered_perm hdup
    rw [hpush] at hperm
    refine ⟨?_, ?_, h.dropped_mem⟩
    · show session.jitterBuffer.buffer.length ≤ 4
      have := hperm.length_eq
      simp only [List.length_cons] at this
      rw [hjb]
      omega
    · show ((r.popped ++ [_]).map _ ++ session.jitterBuffer.buffer ++ _).Perm (_ ++ _)
      rw [hjb, List.map_append, List.append_assoc _ _ rest]
      exact perm_of_pushed hperm h.perm

theorem run_concat (session : CallSession) (arrivals : List (RtpPacket × SockAddr))
    (arrival : RtpPacket × SockAddr) :
    run session (arrivals ++ [arrival]) = (run session arrivals).receive arrival :=
  List.foldl_concat ..

theorem run_accounts {session : CallSession} (hempty : session.jitterBuffer.buffer = [])
    (arrivals : List (RtpPacket × SockAddr)) : (run session arrivals).Accounts := by
  induction arrivals using List.reverseRecOn with
  | nil =>
    refine ⟨?_, ?_, nofun⟩
    · show session.jitterBuffer.buffer.length ≤ 4
      rw [hempty]
      exact Nat.zero_le _
    · show ([] ++ session.jitterBuffer.buffer ++ []).Perm []
      rw [hempty]
      exact List.Perm.refl _
  | append_singleton arrivals arrival ih =>
    rw [run_concat]
    exact ih.receive arrival

theorem run_payloadType (session : CallSession) (arrivals : List (RtpPacket × SockAddr)) :
    (run session arrivals).session.payloadType = session.payloadType := by
  induction arrivals using List.reverseRecOn with
  | nil => rfl
  | append_singleton arrivals arrival ih =>
    rw [run_concat, receive_payloadType, ih]

/-- What counts as accepted are the packets of the payload type. -/
theorem run_accepted (session : CallSession) (arrivals : List (RtpPacket × SockAddr)) :
    (run session arrivals).accepted = (arrivals.map Prod.fst).filter session.accepts := by
  induction arrivals using List.reverseRecOn with
  | nil => rfl
  | append_singleton arrivals arrival ih =>
    have hsame : (run session arrivals).session.accepts = session.accepts := by
      unfold CallSession.accepts
      rw [run_payloadType]
    rw [run_concat, receive_accepted, ih, hsame, List.map_append, List.filter_append]
    rfl

/-! ### The order of the buffer -/

/-- Every packet pushed so far lay in a window with those that were buffered then. -/
def InWindows (session : CallSession) (arrivals : List (RtpPacket × SockAddr)) : Prop :=
  ∀ (k : Nat) (hk : k < arrivals.length), session.accepts arrivals[k].1 →
    Window (run session (arrivals.take k)).buffered arrivals[k].1

theorem InWindows.of_concat {session : CallSession} {arrivals : List (RtpPacket × SockAddr)}
    {arrival : RtpPacket × SockAddr} (h : InWindows session (arrivals ++ [arrival])) :
    InWindows session arrivals ∧
      (session.accepts arrival.1 → Window (run session arrivals).buffered arrival.1) := by
  constructor
  · intro k hk haccepts
    have hwindow := h k (by rw [List.length_append]; omega)
    rw [List.getElem_append_left hk, List.take_append_of_le_length hk.le] at hwindow
    exact hwindow haccepts
  · have hwindow := h arrivals.length (by simp)
    rwa [List.take_left' rfl, List.getElem_concat_length rfl] at hwindow

/-- The buffer is sorted, and each packet popped came before all that stayed behind. -/
structure Ordered (r : Reception) : Prop where
  sorted : Sorted r.buffered
  earliest : ∀ p ∈ r.popped, ∀ later ∈ p.buffer, Earlier p.packet later

theorem Ordered.receive {r : Reception} (h : r.Ordered) (hle : r.buffered.length ≤ 4)
    {arrival : RtpPacket × SockAddr}
    (hwindow : r.session.accepts arrival.1 → Window r.buffered arrival.1) :
    (r.receive arrival).Ordered := by
  have hreceived := receive_received hle arrival
  generalize arrival.1 = pkt at hreceived hwindow
  generalize r.receive arrival = r' at hreceived
  cases hreceived with
  | rejected session _ hjb =>
    refine ⟨?_, h.earliest⟩
    show Sorted session.jitterBuffer.buffer
    rw [hjb]
    exact h.sorted
  | dropped session _ _ hjb =>
    refine ⟨?_, h.earliest⟩
    show Sorted session.jitterBuffer.buffer
    rw [hjb]
    exact h.sorted
  | buffered session haccepts hdup _ hjb =>
    refine ⟨?_, h.earliest⟩
    show Sorted session.jitterBuffer.buffer
    rw [hjb]
    exact insertOrdered_window (hwindow haccepts) h.sorted
  | popped session haccepts hdup _ frame rest hpush hjb =>
    have hsorted := insertOrdered_window (hwindow haccepts) h.sorted
    rw [hpush] at hsorted
    obtain ⟨hfront, hrest⟩ := List.pairwise_cons.mp hsorted
    refine ⟨?_, ?_⟩
    · show Sorted session.jitterBuffer.buffer
      rw [hjb]
      exact hrest
    · intro p hp
      rcases List.mem_append.mp hp with hp | hp
      · exact h.earliest p hp
      · rw [List.mem_singleton.mp hp]
        exact hfront

theorem run_ordered {session : CallSession} (hempty : session.jitterBuffer.buffer = [])
    {arrivals : List (RtpPacket × SockAddr)} (h : InWindows session arrivals) :
    (run session arrivals).Ordered := by
  induction arrivals using List.reverseRecOn with
  | nil =>
    refine ⟨?_, nofun⟩
    show Sorted session.jitterBuffer.buffer
    rw [hempty]
    exact List.Pairwise.nil
  | append_singleton arrivals arrival ih =>
    obtain ⟨hbefore, hlast⟩ := h.of_concat
    have hsame : (run session arrivals).session.accepts = session.accepts := by
      unfold CallSession.accepts
      rw [run_payloadType]
    rw [run_concat]
    refine (ih hbefore).receive (run_accounts hempty arrivals).length_le ?_
    rw [hsame]
    exact hlast

/--
**Where the packets of a session are.** At most four are buffered. Every accepted packet is
buffered, has been popped once, or was dropped beside one with its number. As long as
every push stays in a window, the buffer is sorted and `pop` gives out the earliest.
-/
theorem reception_conserves {session : CallSession} (hempty : session.jitterBuffer.buffer = [])
    (arrivals : List (RtpPacket × SockAddr)) :
    (run session arrivals).buffered.length ≤ 4 ∧
    (run session arrivals).accepted = (arrivals.map Prod.fst).filter session.accepts ∧
    ((run session arrivals).popped.map Pop.packet ++ (run session arrivals).buffered ++
      (run session arrivals).dropped.map Drop.packet).Perm (run session arrivals).accepted ∧
    (∀ d ∈ (run session arrivals).dropped,
      ∃ cur ∈ d.buffer, cur.getSequenceNumber = d.packet.getSequenceNumber) ∧
    (InWindows session arrivals →
      Sorted (run session arrivals).buffered ∧
      ((run session arrivals).buffered.map RtpPacket.getSequenceNumber).Nodup ∧
      ∀ p ∈ (run session arrivals).popped, ∀ later ∈ p.buffer, Earlier p.packet later) := by
  have haccounts := run_accounts hempty arrivals
  refine ⟨haccounts.length_le, run_accepted session arrivals, haccounts.perm,
    haccounts.dropped_mem, ?_⟩
  intro hwindows
  have hordered := run_ordered hempty hwindows
  refine ⟨hordered.sorted, ?_, hordered.earliest⟩
  exact List.pairwise_map.mpr (hordered.sorted.imp fun hearlier => hearlier.ne)

/-- Six packets around the wrap, one of them twice. -/
def exampleArrivals : List (RtpPacket × SockAddr) :=
  [65534, 0, 65535, 1, 0, 2].map fun seq => (Playout.examplePacket seq, {})

/-- The packets around the wrap: one is popped, four wait in order, and one was dropped. -/
theorem reception_conserves_around_wrap :
    InWindows (CallSession.create [] 0) exampleArrivals ∧
    Sorted (run (CallSession.create [] 0) exampleArrivals).buffered ∧
    (run (CallSession.create [] 0) exampleArrivals).popped.length = 1 ∧
    (run (CallSession.create [] 0) exampleArrivals).dropped.length = 1 := by
  have hwindows : InWindows (CallSession.create [] 0) exampleArrivals := by
    have hbase : ∀ (k : Nat) (hk : k < exampleArrivals.length),
        InWindow 65534 exampleArrivals[k].1.getSequenceNumber ∧
        ∀ cur ∈ (run (CallSession.create [] 0) (exampleArrivals.take k)).buffered,
          InWindow 65534 cur.getSequenceNumber := by
      decide +kernel
    intro k hk _
    exact ⟨65534, hbase k hk⟩
  have h := @reception_conserves (CallSession.create [] 0) rfl exampleArrivals
  exact ⟨hwindows, (h.2.2.2.2 hwindows).1, by decide +kernel, by decide +kernel⟩

end Reception

end SipGateway
