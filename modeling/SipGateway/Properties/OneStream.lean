import SipGateway.Properties.EndToEnd

/-!
# One stream for each call

`one_stream_per_call`: as long as a call is registered, all packets sent for it are one RTP stream,
with one SSRC, numbers without a gap and timestamps 160 apart, through any number of INVITEs that
start its pipeline again.
-/

namespace SipGateway

open Infra

/-! ## What a session sends next -/

namespace CallSession

variable {session session' : CallSession} {pkt : RtpPacket} {sender : SockAddr}

/-- The session has sent these packets, the last one with its counters. -/
structure HasSent (session : CallSession) (sent : List RtpPacket) : Prop where
  chain : sent.IsChain fun a b => b.getSequenceNumber = a.getSequenceNumber + 1 ∧
    b.getTimestamp = a.getTimestamp + 160 ∧ b.getSsrc = a.getSsrc
  last : ∀ p, sent.getLast? = some p → p.getSequenceNumber = session.outgoingSeq ∧
    p.getTimestamp = session.outgoingTimestamp ∧ p.getSsrc = session.ssrc

variable {sent : List RtpPacket}

theorem HasSent.nil (session : CallSession) : session.HasSent [] where
  chain := List.isChain_nil
  last := by simp

/-- The counters of both sessions are the same. -/
structure SameCounters (session session' : CallSession) : Prop where
  outgoingSeq : session'.outgoingSeq = session.outgoingSeq
  outgoingTimestamp : session'.outgoingTimestamp = session.outgoingTimestamp
  ssrc : session'.ssrc = session.ssrc

theorem HasSent.congr (h : session.HasSent sent) (hsame : SameCounters session session') :
    session'.HasSent sent where
  chain := h.chain
  last p hp := by
    rw [hsame.outgoingSeq, hsame.outgoingTimestamp, hsame.ssrc]
    exact h.last p hp

/-- A packet of the next number goes behind the others. -/
theorem HasSent.concat (h : session.HasSent sent) {pt : UInt8}
    (hheaded : pkt.Headed pt (session.outgoingSeq + 1) (session.outgoingTimestamp + 160)
      session.ssrc)
    (hseq : session'.outgoingSeq = session.outgoingSeq + 1)
    (hts : session'.outgoingTimestamp = session.outgoingTimestamp + 160)
    (hssrc : session'.ssrc = session.ssrc) : session'.HasSent (sent ++ [pkt]) := by
  constructor
  · refine List.isChain_append.mpr ⟨h.chain, List.isChain_singleton _, ?_⟩
    intro a ha b hb
    cases hb
    obtain ⟨haseq, hats, hassrc⟩ := h.last a ha
    rw [hheaded.getSequenceNumber, hheaded.getTimestamp, hheaded.getSsrc, haseq, hats, hassrc]
    exact ⟨rfl, rfl, rfl⟩
  · intro p hp
    rw [List.getLast?_concat] at hp
    cases hp
    rw [hheaded.getSequenceNumber, hheaded.getTimestamp, hheaded.getSsrc, hseq, hts, hssrc]
    exact ⟨rfl, rfl, rfl⟩

theorem HasSent.processFrame (h : session.HasSent sent) (frame : RtpPacket) :
    (session.processFrame frame).1.HasSent
      (sent ++ ((session.processFrame frame).2.map Outgoing.packet).toList) := by
  have hprocessed := session.processFrame_processed frame
  generalize session.processFrame frame = r at hprocessed
  cases hprocessed with
  | idle hpl =>
    rw [Option.map_none, Option.toList_none, List.append_nil]
    exact h
  | silent pl bot tcp hpl hout =>
    rw [Option.map_none, Option.toList_none, List.append_nil]
    exact h.congr ⟨rfl, rfl, rfl⟩
  | sent pl bot tcp hpl hout hport =>
    have hheaded := (RtpPacket.empty.setHeader_headed (UInt8.ofInt session.payloadType)
      (session.outgoingSeq + 1) (session.outgoingTimestamp + 160) session.ssrc).setPayload
        (pl.takeFrame frame.getPayload).2
    exact h.concat hheaded rfl rfl rfl

/-- A packet that comes brings out at most the next packet of the stream. -/
theorem HasSent.onRtpPacket (h : session.HasSent sent) (pkt : RtpPacket) (sender : SockAddr) :
    (session.onRtpPacket pkt sender).1.HasSent
      (sent ++ ((session.onRtpPacket pkt sender).2.map Outgoing.packet).toList) := by
  have hlock : SameCounters session (session.lockRemote sender) := by
    obtain ⟨-, -, hssrc, -, hseq, hts⟩ := Talk.lockRemote_sameStream session sender
    exact ⟨hseq, hts, hssrc⟩
  have hbuffering : session.buffering pkt sender |>.HasSent sent :=
    h.congr ⟨hlock.outgoingSeq, hlock.outgoingTimestamp, hlock.ssrc⟩
  cases hframe : session.frameFor pkt with
  | none =>
    rcases onRtpPacket_of_no_frame hframe with hrtp | hrtp
    · rw [hrtp, Option.map_none, Option.toList_none, List.append_nil]
      exact h.congr hlock
    · rw [hrtp, Option.map_none, Option.toList_none, List.append_nil]
      exact hbuffering
  | some frame =>
    have hrtp : session.onRtpPacket pkt sender = _ := (onRtpPacket_of_frame hframe).2
    rw [hrtp]
    exact hbuffering.processFrame frame

/-- A pipeline that is started again goes on with the stream. -/
theorem startPipeline_sameCounters {env : Env} {config : Config} {localRtpPort : Int}
    {remoteIp : Bytes} {remotePort payloadType : Int}
    (h : session.startPipeline env config localRtpPort remoteIp remotePort payloadType
      = .ok session') : SameCounters session session' := by
  obtain ⟨bot, tcp, core, -, rfl⟩ := startPipeline_core h
  exact ⟨rfl, rfl, rfl⟩

end CallSession

theorem Talk.step_hasSent {t : Talk} (h : t.session.HasSent t.sent) (event : TalkEvent) :
    (t.step event).session.HasSent (t.step event).sent := by
  cases event with
  | rtp pkt sender => exact h.onRtpPacket pkt sender
  | media ev => exact h.congr ⟨rfl, rfl, rfl⟩

namespace World

open Gateway

variable {config : Config} {hardwareConcurrency : Nat} {w w' : World} {e : Event} {c : Bytes}
  {s s' : CallSession}

/-- A registered call that an INVITE leaves registered was left alone or started again. -/
theorem invite_restarts {gw : Gateway} (h : gw.PortInv) {env : Env} {msg : SipMessage}
    {tx : SipTransaction} {r : Reply} (hr : gw.handleInvite env msg tx = .ok r)
    (hs : gw.registry.getCall c = some s) (hs' : r.gateway.registry.getCall c = some s') :
    CallSession.SameCounters s s' := by
  by_cases hc : c = msg.getCallId
  · subst hc
    obtain ⟨gw₁, session, sdp, p, payloadType, hopen, -, -, hstart⟩ := h.invite_self hr hs'
    rcases openCall_some hopen with ⟨hold, -⟩ | ⟨hnew, -⟩
    · rw [hs] at hold
      cases hold
      exact CallSession.startPipeline_sameCounters hstart
    · rw [hs] at hnew
      cases hnew
  · rw [(h.invite_others hr hc).getCall, hs] at hs'
    cases hs'
    exact ⟨rfl, rfl, rfl⟩

theorem dropCall_keeps {gw gw' : Gateway} {d : Bytes}
    (hreg : gw'.registry = (gw.dropCall d).registry) (hs : gw.registry.getCall c = some s)
    (hs' : gw'.registry.getCall c = some s') : CallSession.SameCounters s s' := by
  rw [hreg, dropCall_registry, CallRegistry.getCall_removeCall] at hs'
  split at hs'
  · cases hs'
  · rw [hs] at hs'
    cases hs'
    exact ⟨rfl, rfl, rfl⟩

/-- A request for a call, or a cut, that leaves it registered leaves its counters alone. -/
theorem governs_sameCounters (hports : w.gateway.PortInv) (hgoverns : Governs c e)
    (hstep : w.step e = some w') (hs : w.gateway.registry.getCall c = some s)
    (hs' : w'.gateway.registry.getCall c = some s') : CallSession.SameCounters s s' := by
  have hsame : w'.gateway.registry = w.gateway.registry → CallSession.SameCounters s s' := by
    intro hreg
    rw [hreg, hs] at hs'
    cases hs'
    exact ⟨rfl, rfl, rfl⟩
  obtain ⟨env, action⟩ := e
  cases action with
  | cleanup => exact hgoverns.elim
  | rtp localPort pkt sender => exact hgoverns.elim
  | media callId ev => exact hgoverns.elim
  | cli line =>
    obtain rfl := step_cli hstep
    change (w.gateway.cliLine line).registry.getCall c = some s' at hs'
    unfold Gateway.cliLine at hs'
    rw [if_pos hgoverns.1] at hs'
    exact dropCall_keeps rfl hs hs'
  | sip msg sender =>
    cases step_stepped hstep with
    | other gw' hact hother => exact absurd rfl (hact msg sender)
    | sip msg' sender' r hact hr =>
      cases hact
      cases hr with
      | ignored hid => exact hsame rfl
      | resent hid hreq sent hsent => exact hsame rfl
      | acked hid hreq hack hnone => exact hsame (handleAck_calls w.gateway env msg.val).1
      | response hid hreq => exact hsame (handleResponse_calls w.gateway env msg.val).1
      | executed hid hreq hack hnew rep hrep =>
        change rep.gateway.registry.getCall c = some s' at hs'
        by_cases hinv : msg.val.method = .invite
        · rw [Gateway.execute, if_pos hinv] at hrep
          exact invite_restarts hports hrep hs hs'
        · rw [Gateway.execute, if_neg hinv] at hrep
          simp only [Except.ok.injEq] at hrep
          subst hrep
          rcases simpleBranch_calls hports hreq with ⟨hreg, -⟩ | ⟨hreg, -⟩
          · exact hsame hreg
          · exact dropCall_keeps hreg hs hs'

/-- The call is registered in every state of a run. -/
def StaysRegistered (c : Bytes) : World → List Event → Prop
  | w, [] => (w.gateway.registry.getCall c).isSome
  | w, e :: es => (w.gateway.registry.getCall c).isSome ∧
      match w.step e with
      | some w' => StaysRegistered c w' es
      | none => True

instance StaysRegistered.decidable (c : Bytes) : (w : World) → (events : List Event) →
    Decidable (StaysRegistered c w events)
  | w, [] => inferInstanceAs (Decidable ((w.gateway.registry.getCall c).isSome = true))
  | w, e :: es =>
    have : Decidable (match w.step e with
        | some w' => StaysRegistered c w' es
        | none => True) :=
      match w.step e with
      | some w' => StaysRegistered.decidable c w' es
      | none => inferInstanceAs (Decidable True)
    inferInstanceAs (Decidable (_ ∧ _))

theorem StaysRegistered.registered {events : List Event} (h : StaysRegistered c w events) :
    ∃ s, w.gateway.registry.getCall c = some s := by
  cases events with
  | nil => exact Option.isSome_iff_exists.mp h
  | cons e es => exact Option.isSome_iff_exists.mp h.1

/-- A step goes on with the stream, whatever it is. -/
theorem hasSent_step {sent : List RtpPacket} (hports : w.gateway.PortInv)
    (hs : w.gateway.registry.getCall c = some s) (hsent : s.HasSent sent)
    (hstep : w.step e = some w') (hs' : w'.gateway.registry.getCall c = some s') :
    s'.HasSent (sent ++ (w.outgoingFor c e).toList) := by
  by_cases hgoverns : Governs c e
  · have hnone : w.outgoingFor c e = none := by
      obtain ⟨env, action⟩ := e
      cases action with
      | rtp localPort pkt sender => exact hgoverns.elim
      | sip msg sender => rfl
      | cleanup => rfl
      | cli line => rfl
      | media callId ev => rfl
    rw [hnone, Option.toList_none, List.append_nil]
    exact hsent.congr (governs_sameCounters hports hgoverns hstep hs hs')
  · have hon : OnCall w c { session := s, sent := sent } w := ⟨hs, fun _ => Iff.rfl⟩
    have hnext := (hon.step hports hgoverns hstep).registered
    have hout := hon.sent hports e
    rw [hs'] at hnext
    rw [← hout, Option.some.inj hnext]
    cases w.talkEvent? c e with
    | none => exact hsent
    | some event => exact Talk.step_hasSent hsent event

/--
**One stream for each call.** The packets sent for a call while it is registered have one SSRC,
each the next number and a timestamp 160 later, also across the INVITEs that start its pipeline
again and whatever happens to other calls.
-/
theorem one_stream_per_call (hw : (machine config hardwareConcurrency).Reachable w)
    {events : List Event} (hrun : ((machine config hardwareConcurrency).replay w events).isSome)
    (hstays : StaysRegistered c w events) :
    (packetsFor c w events).IsChain fun a b => b.getSequenceNumber = a.getSequenceNumber + 1 ∧
      b.getTimestamp = a.getTimestamp + 160 ∧ b.getSsrc = a.getSsrc := by
  obtain ⟨s, hs⟩ := hstays.registered
  suffices hrest : ∀ sent, s.HasSent sent → (sent ++ packetsFor c w events).IsChain fun a b =>
      b.getSequenceNumber = a.getSequenceNumber + 1 ∧ b.getTimestamp = a.getTimestamp + 160 ∧
        b.getSsrc = a.getSsrc from hrest [] (CallSession.HasSent.nil s)
  intro sent hsent
  induction events generalizing w s sent with
  | nil =>
    rw [packetsFor, List.append_nil]
    exact hsent.chain
  | cons e es ih =>
    rw [Machine.replay] at hrun
    split at hrun
    · next hen =>
      obtain ⟨w'', hrun'⟩ := Option.isSome_iff_exists.mp hrun
      obtain ⟨w₁, hstep, hrest⟩ := Option.bind_eq_some_iff.mp hrun'
      have hstep' : w.step e = some w₁ := hstep
      have hstays₁ : StaysRegistered c w₁ es := by
        have hmatch := hstays.2
        rw [hstep'] at hmatch
        exact hmatch
      obtain ⟨s₁, hs₁⟩ := hstays₁.registered
      have hsent₁ := hasSent_step (callInv hw).ports hs hsent hstep' hs₁
      have hchain := ih (hw.next hen hstep) (by rw [hrest]; rfl) hstays₁ s₁ hs₁ _ hsent₁
      rw [packetsFor, hstep', ← List.append_assoc]
      exact hchain
    · cases hrun

/-- Six packets, an INVITE that moves the call to another port, and a packet there. -/
def exampleMoved : List Event :=
  let packet (port : Int) (seq : UInt16) : Event :=
    ⟨{ start := 0 }, .rtp port ((RtpPacket.empty.setHeader 0 seq 0 0).setPayload [9]) {}⟩
  [1, 2, 3, 4, 5, 6].map (packet 20000) ++
    [⟨{ start := 0 }, .sip (exampleInvite (bytes "c")) {}⟩, packet 20002 7]

theorem one_stream_per_call_moved :
    (packetsFor (bytes "call") (exampleRun exampleCall) exampleMoved).length = 3 ∧
    (packetsFor (bytes "call") (exampleRun exampleCall) exampleMoved).IsChain fun a b =>
      b.getSequenceNumber = a.getSequenceNumber + 1 ∧
        b.getTimestamp = a.getTimestamp + 160 ∧ b.getSsrc = a.getSsrc := by
  have hreach : (machine exampleConfig 1).Reachable (exampleRun exampleCall) :=
    exampleRun_reachable (by decide +kernel)
  refine ⟨by decide +kernel, ?_⟩
  exact one_stream_per_call hreach (by decide +kernel) (by decide +kernel)

end World

end SipGateway
