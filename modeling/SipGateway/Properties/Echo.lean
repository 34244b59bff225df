import SipGateway.Call.Starting
import SipGateway.Properties.Reordering
import SipGateway.Properties.Stream

/-!
# A call in echo mode

What the caller of an echo call hears, from the network to the network: `echo_returns_audio`.
The jitter buffer puts the audio back in order, and the pipeline answers each frame with itself.
-/

namespace SipGateway

open Infra

/-- The packet of an event. -/
def TalkEvent.packet? : TalkEvent → Option RtpPacket
  | .rtp pkt _ => some pkt
  | .media _ => none

namespace Talk

variable {session : CallSession}

/-- The packets that the session accepts. -/
def acceptedOf (session : CallSession) (events : List TalkEvent) : List RtpPacket :=
  (events.filterMap TalkEvent.packet?).filter session.accepts

theorem run_concat (session : CallSession) (events : List TalkEvent) (event : TalkEvent) :
    run session (events ++ [event]) = (run session events).step event := List.foldl_concat ..

/-- No event touches the port or the payload type. -/
theorem run_port_type (session : CallSession) (events : List TalkEvent) :
    (run session events).session.localRtpPort = session.localRtpPort ∧
      (run session events).session.payloadType = session.payloadType := by
  induction events using List.reverseRecOn with
  | nil => exact ⟨rfl, rfl⟩
  | append_singleton events event ih =>
    rw [run_concat]
    cases event with
    | rtp pkt sender =>
      exact ⟨(CallSession.onRtpPacket_localRtpPort _ pkt sender).trans ih.1,
        (CallSession.onRtpPacket_payloadType _ pkt sender).trans ih.2⟩
    | media ev => exact ih

theorem acceptedOf_concat (session : CallSession) (events : List TalkEvent) (event : TalkEvent) :
    acceptedOf session (events ++ [event]) =
      acceptedOf session events ++ event.packet?.toList.filter session.accepts := by
  unfold acceptedOf
  rw [List.filterMap_append, List.filter_append]
  cases event <;> rfl

/-- The frames a session is given are those the jitter buffer lets go. -/
theorem run_frames (hempty : session.jitterBuffer.buffer = []) (events : List TalkEvent) :
    (run session events).session.jitterBuffer =
        (Playout.play (acceptedOf session events)).jitterBuffer ∧
      (run session events).frames =
        (Playout.play (acceptedOf session events)).popped.filter (session.Answerable ·) := by
  induction events using List.reverseRecOn with
  | nil =>
    refine ⟨?_, rfl⟩
    show session.jitterBuffer = {}
    rw [← hempty]
  | append_singleton events event ih =>
    obtain ⟨hjb, hframes⟩ := ih
    obtain ⟨hport, htype⟩ := run_port_type session events
    rw [run_concat, acceptedOf_concat]
    cases event with
    | media ev =>
      rw [show (TalkEvent.media ev).packet?.toList = [] from rfl, List.filter_nil, List.append_nil]
      exact ⟨hjb, hframes⟩
    | rtp pkt sender =>
      have haccepts : (run session events).session.accepts pkt = session.accepts pkt := by
        unfold CallSession.accepts
        rw [htype]
      have hanswer : ∀ frame, (run session events).session.Answerable frame ↔
          session.Answerable frame := by
        intro frame
        unfold CallSession.Answerable
        rw [hport]
      have hbuffer := (run session events).session.onRtpPacket_jitterBuffer pkt sender
      have hframe : (run session events).session.frameFor pkt = if session.accepts pkt
          then ((run session events).session.jitterBuffer.push pkt).pop.1 else none := by
        unfold CallSession.frameFor
        rw [haccepts]
      rw [haccepts] at hbuffer
      rw [show (TalkEvent.rtp pkt sender).packet?.toList = [pkt] from rfl]
      unfold step
      dsimp only
      rw [hframe, hframes]
      simp only [hanswer]
      cases h : session.accepts pkt with
      | false =>
        rw [h] at hbuffer
        rw [List.filter_cons_of_neg (by simp [h]), List.filter_nil, List.append_nil,
          if_neg (by simp)]
        exact ⟨hbuffer.trans hjb, List.append_nil _⟩
      | true =>
        rw [h, if_pos rfl] at hbuffer
        rw [List.filter_cons_of_pos h, List.filter_nil, Playout.play_concat, if_pos rfl, hbuffer,
          hjb]
        exact ⟨rfl, (List.filter_append ..).symm⟩

/--
**An echo call returns the caller's audio in order.** It repeats the payloads by the numbers the
caller gave them, those that are empty left out, and holds back the four last ones. What it sends is
numbered on without a gap.
-/
theorem echo_returns_audio {started : CallSession} {env : Env} {config : Config}
    {localRtpPort : Int} {remoteIp : Bytes} {remotePort payloadType : Int}
    (hmode : config.mode = .echo) (hport : 0 < localRtpPort)
    (hstart : session.startPipeline env config localRtpPort remoteIp remotePort payloadType
      = .ok started) (hempty : session.jitterBuffer.buffer = [])
    (sender : Sender) {xs : List Nat} (hnodup : xs.Nodup) (hreach : Sender.InReach xs)
    (hover : OvertakenAtMost 4 xs) {events : List TalkEvent}
    (hevents : acceptedOf started events = xs.map sender.packet) :
    (run started events).sent.map RtpPacket.getPayload =
        (((xs.insertionSort (· ≤ ·)).take (xs.length - 4)).map fun i =>
          (sender.packet i).getPayload).filter (· ≠ []) ∧
      (run started events).sent.IsChain fun a b =>
        b.getSequenceNumber = a.getSequenceNumber + 1 := by
  have hrunning := run_running (CallSession.startPipeline_fits hstart) events
  obtain ⟨bot, tcp, core, -, hstarted⟩ := CallSession.startPipeline_core hstart
  have hbuffer : started.jitterBuffer.buffer = [] := by rw [hstarted]; exact hempty
  have hanswer : ∀ frame, started.Answerable frame ↔ frame.getPayload ≠ [] := fun frame =>
    and_iff_left (by rw [(CallSession.startPipeline_fields hstart).1]; exact hport)
  have hpayloads := hrunning.payloads
  rw [if_pos hmode, (run_frames hbuffer events).2, hevents,
    sender.play_packets hnodup hreach hover, Sender.shows, Sorter.out_eq_take hnodup hover]
    at hpayloads
  refine ⟨?_, hrunning.chain.imp fun a b hab => hab.1⟩
  rw [hpayloads]
  simp only [hanswer, List.filter_map, List.map_map]
  rfl

end Talk

end SipGateway
