import SipGateway.Call.RtpThreads
import SipGateway.Infra.Team
import SipGateway.Properties.OneStream

/-!
# What several RTP threads do to a call

One thread by itself does what `onRtpPacket` does (`goOn_receive`). With any number of them:

* `frames_shared_out` — no frame is lost or played twice, and the buffer stays short
* `numbers_shared_out` — the packets sent have each number once and no gap, and none of them mixes
  the settings of two pipelines

The order in which they go out is that of their numbers for one thread only.
-/

namespace SipGateway

open Infra

namespace RtpPlace

/-- The frame a thread has to play. -/
def frame : RtpPlace → List RtpPacket
  | .copying frame | .playing frame _ => [frame]
  | _ => []

/-- The packet a thread has to send. -/
def outgoing : RtpPlace → List CallSession.Outgoing
  | .sending out => [out]
  | _ => []

/-- Whether a thread has put a packet into the buffer and not looked for one yet. -/
def isPopping : RtpPlace → Bool
  | .popping => true
  | _ => false

/-- The settings a thread has copied. -/
def copied : RtpPlace → List MediaCopies
  | .playing _ copies | .numbering _ copies => [copies]
  | _ => []

end RtpPlace

theorem JitterBuffer.pop_of_none {jb : JitterBuffer} (h : jb.pop.1 = none) :
    jb.pop = (none, jb) := by
  unfold pop at h ⊢
  split at h
  · rfl
  · split at h
    · cases h
    · next hlength => exact if_neg hlength

namespace RtpThreads

variable {w w' : RtpThreads} {i : Nat} {place place' : RtpPlace}

/-! ## One thread at a time -/

theorem go_waiting (h : w.threads[i]? = some .waiting) (answer : Bytes) : w.go i answer = w := by
  unfold go
  rw [h]

/-- The thread is at this place. -/
theorem goto_place (h : w.threads[i]? = some place) :
    (w.threads.set i place')[i]? = some place' :=
  List.getElem?_set_self (List.getElem?_eq_some_iff.mp h).1

/-- A thread by itself, as many steps as it takes. -/
def goOn (i : Nat) (answer : Bytes) : Nat → RtpThreads → RtpThreads
  | 0, w => w
  | n + 1, w => goOn i answer n (w.go i answer)

theorem goOn_waiting (h : w.threads[i]? = some .waiting) (answer : Bytes) (n : Nat) :
    goOn i answer n w = w := by
  induction n with
  | zero => rfl
  | succ n ih => rw [goOn, go_waiting h, ih]

/-- What the thread did to the session and what it sent, its pipeline and clients aside. -/
structure InOneGo (w : RtpThreads) (i : Nat) (r : CallSession × Option CallSession.Outgoing)
    (w' : RtpThreads) : Prop where
  threads : w'.threads = w.threads.set i .waiting
  sent : w'.sent = w.sent ++ r.2.toList
  session : { w'.session with pipeline := r.1.pipeline, botClient := r.1.botClient,
                              tcpClient := r.1.tcpClient } = r.1

section Places

variable {frame : RtpPacket} {copies : MediaCopies} {dlPayload : Bytes}
  {out : CallSession.Outgoing}

theorem go_popping (h : w.threads[i]? = some .popping) (answer : Bytes) :
    w.go i answer = w.pop i := by
  unfold go
  rw [h]

theorem go_copying (h : w.threads[i]? = some (.copying frame)) (answer : Bytes) :
    w.go i answer = w.copy i frame := by
  unfold go
  rw [h]

theorem go_playing (h : w.threads[i]? = some (.playing frame copies)) (answer : Bytes) :
    w.go i answer = w.play i frame copies answer := by
  unfold go
  rw [h]

theorem go_numbering (h : w.threads[i]? = some (.numbering dlPayload copies)) (answer : Bytes) :
    w.go i answer = w.number i dlPayload copies := by
  unfold go
  rw [h]

theorem go_sending (h : w.threads[i]? = some (.sending out)) (answer : Bytes) :
    w.go i answer = { w.goto i .waiting with sent := w.sent ++ [out] } := by
  unfold go
  rw [h]

end Places

/-- From the frame on the thread does what `processFrame` does. -/
theorem goOn_copying {frame : RtpPacket} (hplace : w.threads[i]? = some (.copying frame))
    {answer : Bytes} (hanswer : ∀ pl, w.session.pipeline = some pl →
      (pl.takeFrame frame.getPayload).2 = answer) :
    InOneGo w i (w.session.processFrame frame) (goOn i answer 4 w) := by
  have hprocessed := w.session.processFrame_processed frame
  generalize w.session.processFrame frame = r at hprocessed
  rw [goOn, go_copying hplace]
  cases hprocessed with
  | idle hpl =>
    have hcopy : w.copy i frame =
        { w.goto i .waiting with skipped := w.skipped ++ [frame] } := by
      unfold copy
      rw [hpl]
    rw [hcopy, goOn_waiting (goto_place hplace)]
    exact ⟨rfl, (List.append_nil _).symm, rfl⟩
  | silent pl bot tcp hpl hout =>
    have hcopy : w.copy i frame = w.goto i (.playing frame w.session.copies) := by
      unfold copy
      rw [hpl]
    have hsilent : ¬ (answer ≠ [] ∧ w.session.copies.localPort > 0) := by
      rw [← hanswer pl hpl]
      rintro ⟨hne, hport⟩
      exact hout.elim hne (Int.not_le.mpr hport)
    rw [hcopy, goOn, go_playing (goto_place hplace), play, if_neg hsilent,
      goOn_waiting (goto_place (goto_place hplace))]
    exact ⟨List.set_set .., (List.append_nil _).symm, rfl⟩
  | sent pl bot tcp hpl hout hport =>
    have hcopy : w.copy i frame = w.goto i (.playing frame w.session.copies) := by
      unfold copy
      rw [hpl]
    have hsounds : answer ≠ [] ∧ w.session.copies.localPort > 0 := by
      rw [← hanswer pl hpl]
      exact ⟨hout, hport⟩
    rw [hcopy, goOn, go_playing (goto_place hplace), play, if_pos hsounds, goOn,
      go_numbering (goto_place (goto_place hplace)), goOn,
      go_sending (goto_place (goto_place (goto_place hplace))), goOn]
    refine ⟨?_, ?_, rfl⟩
    · show (((w.threads.set i _).set i _).set i _).set i .waiting = _
      rw [List.set_set, List.set_set, List.set_set]
    · rw [hanswer pl hpl]
      rfl

/--
**One thread by itself does what `onRtpPacket` does.** With no step of another thread between its
own, and what the pipeline answers as the answer.
-/
theorem goOn_receive (hplace : w.threads[i]? = some .waiting) (pkt : RtpPacket) (sender : SockAddr)
    {answer : Bytes} (hanswer : ∀ pl frame, w.session.pipeline = some pl →
      w.session.frameFor pkt = some frame → (pl.takeFrame frame.getPayload).2 = answer) :
    InOneGo w i (w.session.onRtpPacket pkt sender) (goOn i answer 5 (w.receive i pkt sender)) := by
  have hlock : (w.session.lockRemote sender).jitterBuffer = w.session.jitterBuffer :=
    CallSession.lockRemote_jitterBuffer
  cases haccepts : w.session.accepts pkt with
  | false =>
    have hreceive : w.receive i pkt sender = w.write (w.session.lockRemote sender) :=
      if_neg (Bool.eq_false_iff.mp haccepts)
    have hwaits : (w.write (w.session.lockRemote sender)).threads[i]? = some .waiting := hplace
    rw [hreceive, goOn_waiting hwaits, CallSession.onRtpPacket_of_not_accepts haccepts]
    refine ⟨?_, (List.append_nil _).symm, rfl⟩
    obtain ⟨hi, hwaiting⟩ := List.getElem?_eq_some_iff.mp hplace
    show w.threads = w.threads.set i .waiting
    rw [← hwaiting, List.set_getElem_self]
  | true =>
    have hreceive : (w.receive i pkt sender).threads = w.threads.set i .popping ∧
        (w.receive i pkt sender).session = (w.session.lockRemote sender).pushPacket pkt ∧
        (w.receive i pkt sender).sent = w.sent := by
      unfold receive
      dsimp only
      rw [if_pos haccepts]
      exact ⟨rfl, rfl, rfl⟩
    generalize w.receive i pkt sender = w₁ at hreceive
    obtain ⟨hthreads, hsession, hsent⟩ := hreceive
    have hplace₁ : w₁.threads[i]? = some .popping := by
      rw [hthreads]
      exact goto_place hplace
    have hbuffer : w₁.session.jitterBuffer = w.session.jitterBuffer.push pkt := by
      rw [hsession, ← hlock]
      rfl
    have hframe : w.session.frameFor pkt = (w.session.jitterBuffer.push pkt).pop.1 :=
      if_pos haccepts
    have hbuffering : w.session.buffering pkt sender =
        { w₁.session with jitterBuffer := (w.session.jitterBuffer.push pkt).pop.2 } := by
      rw [hsession]
      rfl
    rw [goOn, go_popping hplace₁, pop, hbuffer, CallSession.onRtpPacket_of_accepts haccepts]
    cases hpop : (w.session.jitterBuffer.push pkt).pop.1 with
    | none =>
      rw [JitterBuffer.pop_of_none hpop]
      dsimp only
      rw [goOn_waiting (goto_place hplace₁)]
      refine ⟨?_, hsent.trans (List.append_nil _).symm, ?_⟩
      · show w₁.threads.set i .waiting = _
        rw [hthreads, List.set_set]
      · rw [hbuffering, JitterBuffer.pop_of_none hpop, ← hbuffer]
        rfl
    | some frame =>
      have hpair : (w.session.jitterBuffer.push pkt).pop =
          (some frame, (w.session.jitterBuffer.push pkt).pop.2) := Prod.ext hpop rfl
      have hpipeline : w₁.session.pipeline = w.session.pipeline := by
        rw [hsession]
        exact (Talk.lockRemote_sameStream w.session sender).pipeline
      let w₂ : RtpThreads := { w₁.goto i (.copying frame) with
        session := { w₁.session with jitterBuffer := (w.session.jitterBuffer.push pkt).pop.2 }
        frames := w₁.frames ++ [frame] }
      have hplace₂ : w₂.threads[i]? = some (.copying frame) := goto_place hplace₁
      have hanswer₂ : ∀ pl, w₂.session.pipeline = some pl →
          (pl.takeFrame frame.getPayload).2 = answer :=
        fun pl hpl => hanswer pl frame (hpipeline ▸ hpl) (hframe.trans hpop)
      have hgo := goOn_copying hplace₂ hanswer₂
      rw [hpair, hbuffering]
      refine ⟨hgo.threads.trans ?_, hgo.sent.trans ?_, hgo.session⟩
      · show (w₁.threads.set i _).set i .waiting = _
        rw [hthreads, List.set_set, List.set_set]
      · exact congrArg (· ++ _) hsent

/-! ## Frames -/

/-- A thread that has put a packet into the buffer will look for one. -/
def Short (buffer : List RtpPacket) (threads : List RtpPlace) : Prop :=
  buffer.length ≤ 4 + threads.countP RtpPlace.isPopping

/-- Where the packets are that were accepted. -/
structure SharedOut (w : RtpThreads) : Prop where
  packets : w.accepted.Perm (w.lost ++ (w.session.jitterBuffer.buffer ++ w.frames))
  frames : Accounted RtpPlace.frame w.frames w.threads (w.played ++ w.skipped)
  short : Short w.session.jitterBuffer.buffer w.threads

theorem Short.set {buffer : List RtpPacket} {threads : List RtpPlace} (h : Short buffer threads)
    (hplace : threads[i]? = some place) (hpopping : place.isPopping = false) :
    Short buffer (threads.set i place') := by
  have hcount := countP_set RtpPlace.isPopping place' hplace
  rw [hpopping, Bool.toNat_false, Nat.add_zero] at hcount
  unfold Short at h ⊢
  omega

/-- The session is another, with the same buffer. -/
theorem SharedOut.write (h : w.SharedOut) {session : CallSession}
    (hbuffer : session.jitterBuffer = w.session.jitterBuffer) : (w.write session).SharedOut where
  packets := by
    show w.accepted.Perm (w.lost ++ (session.jitterBuffer.buffer ++ w.frames))
    rw [hbuffer]
    exact h.packets
  frames := h.frames
  short := by
    show session.jitterBuffer.buffer.length ≤ _
    rw [hbuffer]
    exact h.short

theorem SharedOut.receive (h : w.SharedOut) (hplace : w.threads[i]? = some .waiting)
    (pkt : RtpPacket) (sender : SockAddr) : (w.receive i pkt sender).SharedOut := by
  have hlock : (w.session.lockRemote sender).jitterBuffer = w.session.jitterBuffer :=
    CallSession.lockRemote_jitterBuffer
  unfold RtpThreads.receive
  dsimp only
  split
  · have hbuffer : ((w.session.lockRemote sender).pushPacket pkt).jitterBuffer.buffer =
        JitterBuffer.insertOrdered pkt w.session.jitterBuffer.buffer := by
      rw [← hlock]
      rfl
    have hcount : (w.threads.set i .popping).countP RtpPlace.isPopping =
        w.threads.countP RtpPlace.isPopping + 1 := countP_set RtpPlace.isPopping _ hplace
    have hmore : (w.accepted ++ [pkt]).Perm
        (w.lost ++ (w.session.jitterBuffer.buffer ++ w.frames) ++ [pkt]) :=
      h.packets.append_right [pkt]
    by_cases hdup : JitterBuffer.Duplicate pkt w.session.jitterBuffer.buffer
    · rw [if_pos hdup]
      rw [JitterBuffer.insertOrdered_of_duplicate hdup] at hbuffer
      refine ⟨?_, h.frames.stay hplace rfl, ?_⟩
      · show (w.accepted ++ [pkt]).Perm (w.lost ++ [pkt] ++
          (((w.session.lockRemote sender).pushPacket pkt).jitterBuffer.buffer ++ w.frames))
        rw [hbuffer, List.append_assoc w.lost [pkt]]
        refine hmore.trans ?_
        rw [List.append_assoc]
        exact List.perm_append_comm.append_left w.lost
      · show ((w.session.lockRemote sender).pushPacket pkt).jitterBuffer.buffer.length ≤
          4 + (w.threads.set i .popping).countP RtpPlace.isPopping
        rw [hbuffer, hcount]
        exact Nat.le_succ_of_le h.short
    · rw [if_neg hdup]
      have hperm := JitterBuffer.insertOrdered_perm hdup
      refine ⟨?_, h.frames.stay hplace rfl, ?_⟩
      · show (w.accepted ++ [pkt]).Perm (w.lost ++
          (((w.session.lockRemote sender).pushPacket pkt).jitterBuffer.buffer ++ w.frames))
        rw [hbuffer]
        refine hmore.trans ?_
        rw [List.append_assoc]
        refine List.Perm.append_left w.lost ?_
        exact List.perm_append_comm.trans (hperm.symm.append_right w.frames)
      · show ((w.session.lockRemote sender).pushPacket pkt).jitterBuffer.buffer.length ≤
          4 + (w.threads.set i .popping).countP RtpPlace.isPopping
        rw [hbuffer, hcount, hperm.length_eq]
        exact Nat.succ_le_succ h.short
  · exact h.write hlock

theorem SharedOut.pop (h : w.SharedOut) (hplace : w.threads[i]? = some .popping) :
    (w.pop i).SharedOut := by
  have hcount : ∀ place' : RtpPlace, place'.isPopping = false →
      (w.threads.set i place').countP RtpPlace.isPopping + 1 =
        w.threads.countP RtpPlace.isPopping := by
    intro place' hplace'
    have hset := countP_set RtpPlace.isPopping place' hplace
    rw [hplace'] at hset
    exact hset
  have hshort : w.session.jitterBuffer.buffer.length ≤ 4 + w.threads.countP RtpPlace.isPopping :=
    h.short
  unfold RtpThreads.pop
  by_cases hlength : w.session.jitterBuffer.buffer.length < 5
  · rw [JitterBuffer.pop_of_short hlength]
    refine ⟨h.packets, h.frames.stay hplace rfl, ?_⟩
    show w.session.jitterBuffer.buffer.length ≤ 4 + (w.threads.set i .waiting).countP _
    omega
  · cases hbuffer : w.session.jitterBuffer.buffer with
    | nil => simp [hbuffer] at hlength
    | cons frame rest =>
      have hjb : w.session.jitterBuffer = { buffer := frame :: rest } :=
        congrArg JitterBuffer.mk hbuffer
      rw [hbuffer, List.length_cons] at hlength hshort
      rw [hjb, JitterBuffer.pop_of_long (Nat.le_of_not_lt hlength)]
      refine ⟨?_, ?_, ?_⟩
      · show w.accepted.Perm (w.lost ++ (rest ++ (w.frames ++ [frame])))
        refine h.packets.trans (List.Perm.append_left w.lost ?_)
        rw [hbuffer, ← List.append_assoc]
        exact (List.perm_append_singleton frame (rest ++ w.frames)).symm
      · exact h.frames.take hplace (List.Perm.refl [frame])
      · have hless := hcount (.copying frame) rfl
        show rest.length ≤ 4 + (w.threads.set i (.copying frame)).countP _
        omega

theorem SharedOut.play (h : w.SharedOut) {frame : RtpPacket} {copies : MediaCopies}
    (hplace : w.threads[i]? = some (.playing frame copies)) (dlPayload : Bytes) :
    (w.play i frame copies dlPayload).SharedOut := by
  have hplayed : ∀ place' : RtpPlace, place'.frame = [] → Accounted RtpPlace.frame w.frames
      (w.threads.set i place') ((w.played ++ [frame]) ++ w.skipped) := by
    intro place' hplace'
    have hsettle := h.frames.settle hplace
      (show [frame].Perm (place'.frame ++ [frame]) by rw [hplace']; exact List.Perm.refl _)
    refine hsettle.congr ?_
    rw [List.append_assoc, List.append_assoc]
    exact List.perm_append_comm.append_left w.played
  unfold RtpThreads.play
  dsimp only
  split
  · exact ⟨h.packets, hplayed _ rfl, h.short.set hplace rfl⟩
  · exact ⟨h.packets, hplayed _ rfl, h.short.set hplace rfl⟩

theorem SharedOut.go (h : w.SharedOut) (i : Nat) (answer : Bytes) : (w.go i answer).SharedOut := by
  unfold RtpThreads.go
  split
  · exact h
  · exact h
  · next hplace => exact h.pop hplace
  · next frame hplace =>
    unfold RtpThreads.copy
    split
    · refine ⟨h.packets, ?_, h.short.set hplace rfl⟩
      have hsettle := h.frames.settle hplace
        (show [frame].Perm (RtpPlace.waiting.frame ++ [frame]) from List.Perm.refl _)
      have hassoc : (w.played ++ w.skipped ++ [frame]).Perm
          (w.played ++ (w.skipped ++ [frame])) := by
        rw [List.append_assoc]
      exact hsettle.congr hassoc
    · exact ⟨h.packets, h.frames.stay hplace rfl, h.short.set hplace rfl⟩
  · next frame copies hplace => exact h.play hplace answer
  · next dlPayload copies hplace =>
    exact ⟨h.packets, h.frames.stay hplace rfl, h.short.set hplace rfl⟩
  · next out hplace =>
    exact ⟨h.packets, h.frames.stay hplace rfl, h.short.set hplace rfl⟩

theorem sharedOut_of_reach (hw : machine.Reachable w) : w.SharedOut := by
  refine hw.invariant ?_ ?_
  · rintro w ⟨n, session, hempty, rfl⟩
    refine ⟨?_, Accounted.start ?_, ?_⟩
    · show List.Perm [] ([] ++ (session.jitterBuffer.buffer ++ []))
      rw [hempty]
      exact List.Perm.nil
    · intro place hplace
      rw [List.eq_of_mem_replicate hplace]
      rfl
    · show session.jitterBuffer.buffer.length ≤ _
      rw [hempty]
      exact Nat.zero_le _
  · intro w e w' _ h hen hstep
    cases e with
    | receive i pkt sender =>
      cases hstep
      exact h.receive hen pkt sender
    | go i answer =>
      cases hstep
      exact h.go i answer
    | startPipeline env config localRtpPort remoteIp remotePort payloadType =>
      obtain ⟨session, hstart, rfl⟩ := step_startPipeline hstep
      obtain ⟨bot, tcp, core, -, rfl⟩ := CallSession.startPipeline_core hstart
      exact h.write rfl
    | terminate =>
      cases hstep
      exact h.write rfl

/--
**No frame is lost or played twice.** Whatever the order in which any number of threads take their
steps, with pipelines started and the session terminated between them: every packet accepted is in
the buffer, dropped as a duplicate of one there, with one thread, or has gone once into a pipeline
or found none. There are never more than four packets in the buffer beyond those whose threads have
yet to look for one; once no thread is busy, all but these four are settled.
-/
theorem frames_shared_out (hw : machine.Reachable w) :
    w.accepted.Perm (w.lost ++ (w.session.jitterBuffer.buffer ++
      (w.played ++ w.skipped ++ w.threads.flatMap RtpPlace.frame))) ∧
    w.session.jitterBuffer.buffer.length ≤ 4 + w.threads.countP RtpPlace.isPopping ∧
    ((∀ place ∈ w.threads, place = .waiting) →
      w.accepted.Perm (w.lost ++ (w.session.jitterBuffer.buffer ++ (w.played ++ w.skipped))) ∧
      w.session.jitterBuffer.buffer.length ≤ 4) := by
  obtain ⟨hpackets, hframes, hshort⟩ := sharedOut_of_reach hw
  have hall : w.accepted.Perm (w.lost ++ (w.session.jitterBuffer.buffer ++
      (w.played ++ w.skipped ++ w.threads.flatMap RtpPlace.frame))) :=
    hpackets.trans ((hframes.append_left _).append_left _)
  refine ⟨hall, hshort, ?_⟩
  intro hidle
  have hheld : w.threads.flatMap RtpPlace.frame = [] := by
    refine List.flatMap_eq_nil_iff.mpr fun place hplace => ?_
    rw [hidle place hplace]
    rfl
  have hpopping : w.threads.countP RtpPlace.isPopping = 0 := by
    refine List.countP_eq_zero.mpr fun place hplace => ?_
    rw [hidle place hplace]
    decide
  rw [hheld, List.append_nil] at hall
  exact ⟨hall, hshort.trans (by rw [hpopping])⟩

/-- Two threads, and packets for both: the frame of the second overtakes that of the first. -/
def exampleThreads : RtpThreads :=
  let session : CallSession :=
    { callId := bytes "call", pipeline := some {}, payloadType := 0, localRtpPort := 20000 }
  { session := session, threads := [.waiting, .waiting], settings := [session.copies] }

def exampleOvertaking : List RtpThreadsEvent :=
  let packet (seq : UInt16) : RtpPacket := (RtpPacket.empty.setHeader 0 seq 0 0).setPayload [9]
  [.receive 0 (packet 1) {}, .go 0 [], .receive 0 (packet 2) {}, .go 0 [],
    .receive 1 (packet 3) {}, .go 1 [], .receive 1 (packet 4) {}, .go 1 [],
    .receive 0 (packet 5) {}, .receive 1 (packet 6) {}, .go 0 [], .go 1 [],
    .go 0 [], .go 0 [1], .go 0 [], .go 1 [], .go 1 [2], .go 1 [], .go 1 [], .go 0 []]

theorem exampleThreads_reachable {es : List RtpThreadsEvent}
    (hrun : machine.replay exampleThreads es = some w) : machine.Reachable w :=
  Machine.replay_reach es (fun _ _ _ => trivial)
    (Machine.Reach.init ⟨2, exampleThreads.session, rfl, rfl⟩) hrun

theorem frames_shared_out_two :
    ∃ w, machine.replay exampleThreads exampleOvertaking = some w ∧ w.played.length = 2 ∧
      w.accepted.Perm (w.lost ++ (w.session.jitterBuffer.buffer ++
        (w.played ++ w.skipped ++ w.threads.flatMap RtpPlace.frame))) ∧
      w.session.jitterBuffer.buffer.length = 4 := by
  obtain ⟨w, hrun⟩ := Option.isSome_iff_exists.mp (show (machine.replay exampleThreads
    exampleOvertaking).isSome = true by decide +kernel)
  have hplayed : (machine.replay exampleThreads exampleOvertaking).map
      (fun w => (w.played.length, w.session.jitterBuffer.buffer.length)) = some (2, 4) := by
    decide +kernel
  rw [hrun] at hplayed
  obtain ⟨hlength, hbuffer⟩ := Prod.mk.inj (Option.some.inj hplayed)
  have hreach := exampleThreads_reachable hrun
  exact ⟨w, hrun, hlength, (frames_shared_out hreach).1, hbuffer⟩

/-! ## Numbers -/

/-- The packet was made from these copies. -/
structure MadeFrom (copies : MediaCopies) (out : CallSession.Outgoing) : Prop where
  localPort : out.localPort = copies.localPort
  dest : out.dest = copies.remoteAddr
  payloadType : out.packet.getPayloadType = UInt8.ofInt copies.pType &&& 0x7F

/-- The packets are numbered one by one, each is with one thread or sent, and what they were made
from was there at one time. -/
structure Numbered (w : RtpThreads) : Prop where
  stream : w.session.HasSent (w.numbered.map CallSession.Outgoing.packet)
  outgoing : Accounted RtpPlace.outgoing w.numbered w.threads w.sent
  alone : ∀ place, w.threads = [place] → w.numbered = w.sent ++ place.outgoing
  current : w.session.copies ∈ w.settings
  copied : ∀ place ∈ w.threads, ∀ copies ∈ place.copied, copies ∈ w.settings
  made : ∀ out ∈ w.numbered, ∃ copies ∈ w.settings, MadeFrom copies out

theorem Numbered.write (h : w.Numbered) {session : CallSession}
    (hsame : CallSession.SameCounters w.session session) : (w.write session).Numbered where
  stream := h.stream.congr hsame
  outgoing := h.outgoing
  alone := h.alone
  current := List.mem_append_right _ List.mem_cons_self
  copied place hplace copies hcopies :=
    List.mem_append_left _ (h.copied place hplace copies hcopies)
  made out hout := by
    obtain ⟨copies, hcopies, hmade⟩ := h.made out hout
    exact ⟨copies, List.mem_append_left _ hcopies, hmade⟩

/-- What a state says of numbers is in these parts of it. -/
theorem Numbered.congr (h : w.Numbered)
    (hsame : CallSession.SameCounters w.session w'.session)
    (hcopies : w'.session.copies = w.session.copies) (hthreads : w'.threads = w.threads)
    (hnumbered : w'.numbered = w.numbered) (hsent : w'.sent = w.sent)
    (hsettings : w'.settings = w.settings) : w'.Numbered := by
  constructor
  · rw [hnumbered]
    exact h.stream.congr hsame
  · rw [hnumbered, hthreads, hsent]
    exact h.outgoing
  · rw [hnumbered, hthreads, hsent]
    exact h.alone
  · rw [hcopies, hsettings]
    exact h.current
  · rw [hthreads, hsettings]
    exact h.copied
  · rw [hnumbered, hsettings]
    exact h.made

/-- The only thread is the one that goes on. -/
theorem alone_set {threads : List RtpPlace} (hplace : threads[i]? = some place) {b : RtpPlace}
    (h : threads.set i place' = [b]) : threads = [place] ∧ b = place' := by
  have hlength : threads.length = 1 := by
    rw [← List.length_set (i := i) (a := place'), h, List.length_singleton]
  obtain ⟨a, rfl⟩ := List.length_eq_one_iff.mp hlength
  cases i with
  | zero =>
    cases hplace
    cases h
    exact ⟨rfl, rfl⟩
  | succ i => cases hplace

/-- A thread goes on without a packet to send. -/
theorem Numbered.goto (h : w.Numbered) (hplace : w.threads[i]? = some place) (place' : RtpPlace)
    (hout : place.outgoing = []) (hout' : place'.outgoing = [])
    (hcopied : ∀ copies ∈ place'.copied, copies ∈ w.settings) : (w.goto i place').Numbered where
  stream := h.stream
  outgoing := h.outgoing.stay hplace (hout'.trans hout.symm)
  alone b hb := by
    obtain ⟨hthreads, rfl⟩ := alone_set hplace hb
    rw [hout', ← hout]
    exact h.alone place hthreads
  current := h.current
  copied b hb := by
    rcases List.mem_or_eq_of_mem_set hb with hb | rfl
    · exact h.copied b hb
    · exact hcopied
  made := h.made

theorem Numbered.receive (h : w.Numbered) (hplace : w.threads[i]? = some .waiting)
    (pkt : RtpPacket) (sender : SockAddr) : (w.receive i pkt sender).Numbered := by
  obtain ⟨-, -, hssrc, -, hseq, hts⟩ := Talk.lockRemote_sameStream w.session sender
  have hlocked := h.write ⟨hseq, hts, hssrc⟩
  unfold RtpThreads.receive
  dsimp only
  split
  · have hgoto := hlocked.goto (i := i) hplace .popping rfl rfl (by simp [RtpPlace.copied])
    exact hgoto.congr ⟨rfl, rfl, rfl⟩ rfl rfl rfl rfl rfl
  · exact hlocked

theorem Numbered.pop (h : w.Numbered) (hplace : w.threads[i]? = some .popping) :
    (w.pop i).Numbered := by
  unfold RtpThreads.pop
  split
  · exact h.goto hplace .waiting rfl rfl (by simp [RtpPlace.copied])
  · next frame jitterBuffer hpop =>
    have hgoto := h.goto hplace (.copying frame) rfl rfl (by simp [RtpPlace.copied])
    exact hgoto.congr ⟨rfl, rfl, rfl⟩ rfl rfl rfl rfl rfl

theorem Numbered.copy (h : w.Numbered) {frame : RtpPacket}
    (hplace : w.threads[i]? = some (.copying frame)) : (w.copy i frame).Numbered := by
  unfold RtpThreads.copy
  split
  · have hgoto := h.goto hplace .waiting rfl rfl (by simp [RtpPlace.copied])
    exact hgoto.congr ⟨rfl, rfl, rfl⟩ rfl rfl rfl rfl rfl
  · refine h.goto hplace _ rfl rfl ?_
    intro copies hcopies
    rw [List.mem_singleton.mp hcopies]
    exact h.current

theorem Numbered.play (h : w.Numbered) {frame : RtpPacket} {copies : MediaCopies}
    (hplace : w.threads[i]? = some (.playing frame copies)) (dlPayload : Bytes) :
    (w.play i frame copies dlPayload).Numbered := by
  have hown : copies ∈ w.settings :=
    h.copied _ (List.mem_of_getElem? hplace) copies List.mem_cons_self
  unfold RtpThreads.play
  dsimp only
  split
  · have hgoto := h.goto hplace (.numbering dlPayload copies) rfl rfl
      (by simpa [RtpPlace.copied] using hown)
    exact hgoto.congr ⟨rfl, rfl, rfl⟩ rfl rfl rfl rfl rfl
  · have hgoto := h.goto hplace .waiting rfl rfl (by simp [RtpPlace.copied])
    exact hgoto.congr ⟨rfl, rfl, rfl⟩ rfl rfl rfl rfl rfl

theorem Numbered.number (h : w.Numbered) {dlPayload : Bytes} {copies : MediaCopies}
    (hplace : w.threads[i]? = some (.numbering dlPayload copies)) :
    (w.number i dlPayload copies).Numbered := by
  have hheaded : (w.session.numberedPacket copies dlPayload).Headed (UInt8.ofInt copies.pType)
      (w.session.outgoingSeq + 1) (w.session.outgoingTimestamp + 160) w.session.ssrc :=
    (RtpPacket.setHeader_headed ..).setPayload dlPayload
  constructor
  · show CallSession.HasSent _ ((w.numbered ++ [_]).map CallSession.Outgoing.packet)
    rw [List.map_append, List.map_singleton]
    exact h.stream.concat hheaded rfl rfl rfl
  · exact h.outgoing.take hplace (List.Perm.refl _)
  · intro b hb
    obtain ⟨hthreads, rfl⟩ := alone_set hplace hb
    have hall := h.alone _ hthreads
    show w.numbered ++ _ = w.sent ++ _
    rw [hall]
    exact congrArg (· ++ _) (List.append_nil w.sent)
  · exact h.current
  · intro b hb
    rcases List.mem_or_eq_of_mem_set hb with hb | rfl
    · exact h.copied b hb
    · intro copies hcopies
      cases hcopies
  · intro out hout
    rcases List.mem_append.mp hout with hout | hout
    · exact h.made out hout
    · rw [List.mem_singleton.mp hout]
      have hown : copies ∈ w.settings :=
        h.copied _ (List.mem_of_getElem? hplace) copies List.mem_cons_self
      exact ⟨copies, hown, rfl, rfl, hheaded.getPayloadType⟩

theorem Numbered.send (h : w.Numbered) {out : CallSession.Outgoing}
    (hplace : w.threads[i]? = some (.sending out)) :
    Numbered { w.goto i .waiting with sent := w.sent ++ [out] } := by
  constructor
  · exact h.stream
  · exact h.outgoing.settle hplace
      (show [out].Perm (RtpPlace.waiting.outgoing ++ [out]) from List.Perm.refl _)
  · intro b hb
    obtain ⟨hthreads, rfl⟩ := alone_set hplace hb
    exact (h.alone _ hthreads).trans (List.append_nil _).symm
  · exact h.current
  · intro b hb
    rcases List.mem_or_eq_of_mem_set hb with hb | rfl
    · exact h.copied b hb
    · intro copies hcopies
      cases hcopies
  · exact h.made

theorem Numbered.go (h : w.Numbered) (i : Nat) (answer : Bytes) : (w.go i answer).Numbered := by
  unfold RtpThreads.go
  split
  · exact h
  · exact h
  · next hplace => exact h.pop hplace
  · next frame hplace => exact h.copy hplace
  · next frame copies hplace => exact h.play hplace answer
  · next dlPayload copies hplace => exact h.number hplace
  · next out hplace => exact h.send hplace

theorem numbered_of_reach (hw : machine.Reachable w) : w.Numbered := by
  refine hw.invariant ?_ ?_
  · rintro w ⟨n, session, -, rfl⟩
    have hwaiting : ∀ place ∈ List.replicate n RtpPlace.waiting, place = .waiting :=
      fun place hplace => List.eq_of_mem_replicate hplace
    refine ⟨CallSession.HasSent.nil session, Accounted.start ?_, ?_, List.mem_cons_self, ?_, ?_⟩
    · intro place hplace
      rw [hwaiting place hplace]
      rfl
    · intro place hthreads
      change List.replicate n RtpPlace.waiting = [place] at hthreads
      rw [hwaiting place (by rw [hthreads]; exact List.mem_cons_self)]
      rfl
    · intro place hplace copies hcopies
      rw [hwaiting place hplace] at hcopies
      cases hcopies
    · intro out hout
      cases hout
  · intro w e w' _ h hen hstep
    cases e with
    | receive i pkt sender =>
      cases hstep
      exact h.receive hen pkt sender
    | go i answer =>
      cases hstep
      exact h.go i answer
    | startPipeline env config localRtpPort remoteIp remotePort payloadType =>
      obtain ⟨session, hstart, rfl⟩ := step_startPipeline hstep
      exact h.write (CallSession.startPipeline_sameCounters hstart)
    | terminate =>
      cases hstep
      exact h.write ⟨rfl, rfl, rfl⟩

/--
**Each number is sent once.** Whatever the order in which any number of threads take their steps:
the packets are numbered one by one, with timestamps 160 apart and one SSRC; each of them has been
sent once or is with one thread that will send it; and none was made from the settings of two
pipelines. One thread alone sends them in the order of their numbers.
-/
theorem numbers_shared_out (hw : machine.Reachable w) :
    ((w.numbered.map CallSession.Outgoing.packet).IsChain fun a b =>
      b.getSequenceNumber = a.getSequenceNumber + 1 ∧ b.getTimestamp = a.getTimestamp + 160 ∧
        b.getSsrc = a.getSsrc) ∧
    w.numbered.Perm (w.sent ++ w.threads.flatMap RtpPlace.outgoing) ∧
    (∀ out ∈ w.sent, ∃ copies ∈ w.settings, MadeFrom copies out) ∧
    (w.threads.length = 1 → w.sent <+: w.numbered) := by
  have h := numbered_of_reach hw
  refine ⟨h.stream.chain, h.outgoing, ?_, ?_⟩
  · intro out hout
    have hperm : w.numbered.Perm (w.sent ++ w.threads.flatMap RtpPlace.outgoing) := h.outgoing
    exact h.made out (hperm.mem_iff.mpr (List.mem_append_left _ hout))
  · intro hone
    obtain ⟨place, hplace⟩ := List.length_eq_one_iff.mp hone
    exact ⟨place.outgoing, (h.alone place hplace).symm⟩

theorem numbers_shared_out_two :
    ∃ w, machine.replay exampleThreads exampleOvertaking = some w ∧
      w.sent.map (fun out => out.packet.getSequenceNumber) = [2, 1] ∧
      w.numbered.Perm (w.sent ++ w.threads.flatMap RtpPlace.outgoing) := by
  obtain ⟨w, hrun⟩ := Option.isSome_iff_exists.mp (show (machine.replay exampleThreads
    exampleOvertaking).isSome = true by decide +kernel)
  have hsent : (machine.replay exampleThreads exampleOvertaking).map
      (fun w => w.sent.map fun out => out.packet.getSequenceNumber) = some [2, 1] := by
    decide +kernel
  rw [hrun] at hsent
  have hreach := exampleThreads_reachable hrun
  exact ⟨w, hrun, Option.some.inj hsent, (numbers_shared_out hreach).2.1⟩

end RtpThreads

end SipGateway
