import SipGateway.Call.Session
import SipGateway.Media.Frames
import SipGateway.Rtp.Jitter

/-!
# What a packet does to a session

`onRtpPacket` taken apart once: whether the packet is accepted, which frame the jitter buffer
gives out for it, and every way `processFrame` can end (`Processed`).
-/

namespace SipGateway

open Infra

namespace CallSession

variable {session session' : CallSession} {pkt : RtpPacket} {sender : SockAddr}

/-- The packet carries the payload type of the session. -/
def accepts (session : CallSession) (pkt : RtpPacket) : Bool :=
  (pkt.getPayloadType.toNat : Int) = session.payloadType

/-- The session once the packet is accepted, its frame not processed yet. -/
def buffering (session : CallSession) (pkt : RtpPacket) (sender : SockAddr) : CallSession :=
  { session.lockRemote sender with jitterBuffer := (session.jitterBuffer.push pkt).pop.2 }

theorem lockRemote_jitterBuffer :
    (session.lockRemote sender).jitterBuffer = session.jitterBuffer := by
  unfold lockRemote
  split <;> rfl

theorem onRtpPacket_of_not_accepts (h : session.accepts pkt = false) :
    session.onRtpPacket pkt sender = (session.lockRemote sender, none) := by
  unfold accepts at h
  unfold onRtpPacket
  exact if_neg (by simpa using h)

theorem onRtpPacket_of_accepts (h : session.accepts pkt = true) :
    session.onRtpPacket pkt sender = match (session.jitterBuffer.push pkt).pop.1 with
      | none => (session.buffering pkt sender, none)
      | some frame => (session.buffering pkt sender).processFrame frame := by
  unfold accepts at h
  unfold onRtpPacket processRtpFrame pushPacket buffering
  rewrite [if_pos (by simpa using h), lockRemote_jitterBuffer]
  rfl

/-- The frame the jitter buffer lets go when the packet comes. -/
def frameFor (session : CallSession) (pkt : RtpPacket) : Option RtpPacket :=
  if session.accepts pkt then (session.jitterBuffer.push pkt).pop.1 else none

theorem onRtpPacket_of_no_frame (h : session.frameFor pkt = none) :
    session.onRtpPacket pkt sender = (session.lockRemote sender, none) ∨
      session.onRtpPacket pkt sender = (session.buffering pkt sender, none) := by
  unfold frameFor at h
  cases haccepts : session.accepts pkt with
  | false => exact Or.inl (onRtpPacket_of_not_accepts haccepts)
  | true =>
    rw [if_pos haccepts] at h
    right
    rw [onRtpPacket_of_accepts haccepts, h]

theorem onRtpPacket_of_frame {frame : RtpPacket} (h : session.frameFor pkt = some frame) :
    session.accepts pkt = true ∧
      session.onRtpPacket pkt sender = (session.buffering pkt sender).processFrame frame := by
  unfold frameFor at h
  cases haccepts : session.accepts pkt with
  | false =>
    rw [haccepts] at h
    cases h
  | true =>
    rw [if_pos haccepts] at h
    refine ⟨rfl, ?_⟩
    rw [onRtpPacket_of_accepts haccepts, h]

/-! ## The frame -/

/-- The calls of the stages touch the clients only. -/
theorem callClients_eq (session : CallSession) (calls : List ClientCall) :
    ∃ bot tcp, session.callClients calls = { session with botClient := bot, tcpClient := tcp } := by
  unfold callClients
  induction calls generalizing session with
  | nil => exact ⟨session.botClient, session.tcpClient, rfl⟩
  | cons call calls ih =>
    rw [List.foldl_cons]
    cases call with
    | botAudio data seq =>
      obtain ⟨bot, tcp, h⟩ :=
        ih { session with botClient := session.botClient.map (·.sendAudio data seq) }
      exact ⟨bot, tcp, h⟩
    | socketAudio data =>
      obtain ⟨bot, tcp, h⟩ :=
        ih { session with tcpClient := session.tcpClient.map (·.sendAudio data) }
      exact ⟨bot, tcp, h⟩

/-- The packet that carries downlink audio. -/
def outgoingPacket (session : CallSession) (dlPayload : Bytes) : RtpPacket :=
  (RtpPacket.empty.setHeader (UInt8.ofInt session.payloadType) (session.outgoingSeq + 1)
    (session.outgoingTimestamp + 160) session.ssrc).setPayload dlPayload

/-- The ways `processFrame` ends. -/
inductive Processed (session : CallSession) (frame : RtpPacket) :
    CallSession × Option Outgoing → Prop where
  | idle (h : session.pipeline = none) : Processed session frame (session, none)
  | silent (pl : MediaPipeline) (bot : Option VoiceBotClient) (tcp : Option AudioSocketClient)
      (h : session.pipeline = some pl)
      (hout : (pl.takeFrame frame.getPayload).2 = [] ∨ session.localRtpPort ≤ 0) :
      Processed session frame ({ session with
        pipeline := some (pl.takeFrame frame.getPayload).1
        botClient := bot
        tcpClient := tcp }, none)
  | sent (pl : MediaPipeline) (bot : Option VoiceBotClient) (tcp : Option AudioSocketClient)
      (h : session.pipeline = some pl) (hout : (pl.takeFrame frame.getPayload).2 ≠ [])
      (hport : 0 < session.localRtpPort) :
      Processed session frame ({ session with
        pipeline := some (pl.takeFrame frame.getPayload).1, botClient := bot, tcpClient := tcp
        outgoingTimestamp := session.outgoingTimestamp + 160
        outgoingSeq := session.outgoingSeq + 1 },
        some { localPort := session.localRtpPort
               packet := session.outgoingPacket (pl.takeFrame frame.getPayload).2
               dest := session.remoteRtpAddr })

theorem processFrame_processed (session : CallSession) (frame : RtpPacket) :
    Processed session frame (session.processFrame frame) := by
  unfold processFrame
  cases hpl : session.pipeline with
  | none => exact Processed.idle hpl
  | some pl =>
    obtain ⟨bot, tcp, hcalls⟩ :=
      session.callClients_eq (pl.processUplink frame.getPayload).2
    dsimp only
    rw [hcalls]
    dsimp only
    split
    · next hsend => exact Processed.sent pl bot tcp hpl hsend.1 hsend.2
    · next hsend =>
      refine Processed.silent pl bot tcp hpl ?_
      by_contra hno
      rw [not_or, not_le] at hno
      exact hsend hno

theorem processFrame_jitterBuffer (session : CallSession) (frame : RtpPacket) :
    (session.processFrame frame).1.jitterBuffer = session.jitterBuffer := by
  have h := session.processFrame_processed frame
  generalize session.processFrame frame = r at h
  cases h <;> rfl

theorem processFrame_payloadType (session : CallSession) (frame : RtpPacket) :
    (session.processFrame frame).1.payloadType = session.payloadType := by
  have h := session.processFrame_processed frame
  generalize session.processFrame frame = r at h
  cases h <;> rfl

/-- The jitter buffer after a packet. -/
theorem onRtpPacket_jitterBuffer (session : CallSession) (pkt : RtpPacket) (sender : SockAddr) :
    (session.onRtpPacket pkt sender).1.jitterBuffer =
      if session.accepts pkt then (session.jitterBuffer.push pkt).pop.2
      else session.jitterBuffer := by
  cases h : session.accepts pkt with
  | false =>
    rw [onRtpPacket_of_not_accepts h]
    exact lockRemote_jitterBuffer
  | true =>
    rw [onRtpPacket_of_accepts h]
    split
    · rfl
    · exact processFrame_jitterBuffer _ _

theorem lockRemote_payloadType : (session.lockRemote sender).payloadType = session.payloadType := by
  unfold lockRemote
  split <;> rfl

/-- No packet changes the payload type. -/
theorem onRtpPacket_payloadType (session : CallSession) (pkt : RtpPacket) (sender : SockAddr) :
    (session.onRtpPacket pkt sender).1.payloadType = session.payloadType := by
  cases h : session.accepts pkt with
  | false =>
    rw [onRtpPacket_of_not_accepts h]
    exact lockRemote_payloadType
  | true =>
    rw [onRtpPacket_of_accepts h]
    split
    · exact lockRemote_payloadType
    · exact (processFrame_payloadType _ _).trans lockRemote_payloadType

end CallSession

end SipGateway
