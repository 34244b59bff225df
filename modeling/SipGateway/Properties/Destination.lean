import SipGateway.Call.Starting
import SipGateway.Properties.Intruders
import SipGateway.Properties.LiveCalls

/-!
# Where the audio goes

The address a call is sent its audio at comes from two places: the offers that are accepted for it,
and the first packet that reaches it. `audio_goes_where_heard` says how they act together over the
whole life of a call. An INVITE that is accepted for a call that had a packet before moves the audio
to the address it offers, and no packet moves it from there.
-/

namespace SipGateway

open Infra

/-! ## One packet -/

namespace CallSession

variable {session : CallSession}

/-- Where the session sends after a packet from this sender. -/
def destAfter (session : CallSession) (sender : SockAddr) : SockAddr :=
  if session.rtpLocked then session.remoteRtpAddr else sender

theorem lockRemote_remoteRtpAddr (session : CallSession) (sender : SockAddr) :
    (session.lockRemote sender).remoteRtpAddr = session.destAfter sender := by
  unfold lockRemote destAfter
  split <;> rfl

theorem processFrame_remoteRtpAddr (session : CallSession) (frame : RtpPacket) :
    (session.processFrame frame).1.remoteRtpAddr = session.remoteRtpAddr ∧
      ∀ out, (session.processFrame frame).2 = some out → out.dest = session.remoteRtpAddr := by
  have hprocessed := session.processFrame_processed frame
  generalize session.processFrame frame = r at hprocessed
  cases hprocessed with
  | idle => simp
  | silent => simp
  | sent => simp

/-- The session goes on to the address, and what it sends for the packet goes there. -/
theorem onRtpPacket_dest (session : CallSession) (pkt : RtpPacket) (sender : SockAddr) :
    (session.onRtpPacket pkt sender).1.remoteRtpAddr = session.destAfter sender ∧
      ∀ out, (session.onRtpPacket pkt sender).2 = some out →
        out.dest = session.destAfter sender := by
  have hlock := session.lockRemote_remoteRtpAddr sender
  cases hframe : session.frameFor pkt with
  | none =>
    have hrtp : session.onRtpPacket pkt sender = _ ∨ session.onRtpPacket pkt sender = _ :=
      onRtpPacket_of_no_frame hframe
    rcases hrtp with hrtp | hrtp
    · rw [hrtp]
      exact ⟨hlock, by simp⟩
    · rw [hrtp]
      exact ⟨hlock, by simp⟩
  | some frame =>
    rw [(onRtpPacket_of_frame hframe).2, ← hlock]
    exact (session.buffering pkt sender).processFrame_remoteRtpAddr frame

/-- A pipeline that is started again does not forget that a packet came. -/
theorem startPipeline_rtpLocked {session' : CallSession} {env : Env} {config : Config}
    {localRtpPort : Int} {remoteIp : Bytes} {remotePort payloadType : Int}
    (h : session.startPipeline env config localRtpPort remoteIp remotePort payloadType
      = .ok session') : session'.rtpLocked = session.rtpLocked := by
  obtain ⟨bot, tcp, core, -, rfl⟩ := startPipeline_core h
  rfl

end CallSession

/-! ## What is heard of a call -/

/-- Whether a packet came for a call, and the address that follows from what came so far. -/
structure Heard where
  locked : Bool := false
  addr : SockAddr := {}

namespace World

open Gateway

variable {config : Config} {hardwareConcurrency : Nat} {w w' : World} {e : Event} {c : Bytes}
  {heard : Heard}

/-- The address of the offer in an INVITE; a text that is no address leaves the one before. -/
def offeredAddr (body : Bytes) (old : SockAddr) : SockAddr :=
  match SdpParser.parse body with
  | .ok (some sdp) => CallSession.remoteAddr old sdp.connectionIp (remotePort sdp)
  | _ => old

/-- The address after an event that accepts the call. -/
def acceptedAddr (e : Event) (old : SockAddr) : SockAddr :=
  match e.action with
  | .sip msg _ => offeredAddr msg.val.body old
  | _ => old

/-- What is heard after an event: offers that are accepted, the first packet, the end. -/
def hear (w : World) (c : Bytes) (heard : Heard) (e : Event) : Heard :=
  match w.verdict c e with
  | some true => { heard with addr := acceptedAddr e heard.addr }
  | some false => {}
  | none =>
    match w.talkEvent? c e with
    | some (.rtp _ sender) => if heard.locked then heard else ⟨true, sender⟩
    | _ => heard

/-- What is heard in a run. -/
def hearAll (c : Bytes) : World → List Event → Heard → Heard
  | _, [], heard => heard
  | w, e :: es, heard =>
    match w.step e with
    | some w' => hearAll c w' es (w.hear c heard e)
    | none => heard

/-- Where the packet goes that leaves when one reaches a port of the call. -/
def destFor (w : World) (c : Bytes) (e : Event) : Option SockAddr :=
  match e.action with
  | .rtp localPort pkt sender =>
    if w.gateway.registry.portMap[localPort]? = some c then
      (w.gateway.handleRtpPacket localPort pkt sender).2.map fun out => out.2.2
    else none
  | _ => none

/-- The session of the call is where was heard; nothing is heard of a call that is not there. -/
structure Follows (w : World) (c : Bytes) (heard : Heard) : Prop where
  registered : ∀ s, w.gateway.registry.getCall c = some s →
    s.rtpLocked = heard.locked ∧ s.remoteRtpAddr = heard.addr
  unregistered : w.gateway.registry.getCall c = none → heard = {}

theorem Follows.of_ended (h : w.IsRegistered c = false) : Follows w c {} where
  registered s hs := by
    rw [IsRegistered, hs] at h
    cases h
  unregistered _ := rfl

/-- An event that accepts a call is an INVITE for it that is executed. -/
theorem invite_of_verdict (hverdict : w.verdict c e = some true) (hstep : w.step e = some w') :
    ∃ msg sender tx rep, e.action = .sip msg sender ∧ msg.val.getCallId = c ∧
      w.gateway.handleInvite e.env msg.val tx = .ok rep ∧
      w'.gateway.registry = rep.gateway.registry := by
  obtain ⟨env, action⟩ := e
  unfold verdict at hverdict
  split at hverdict
  · next hgoverns =>
    cases action with
    | sip msg sender =>
      obtain ⟨hid, hreq, -⟩ := hgoverns
      dsimp only at hverdict
      split at hverdict
      · cases hverdict
      · next hfresh =>
        have hinv : msg.val.method = .invite := by
          have := of_decide_eq_true (Option.some.inj hverdict)
          exact this.1
        have hack : msg.val.method ≠ .ack := by simp [hinv]
        rcases old_or_executed hreq hack hstep with ⟨hold, -⟩ | ⟨-, rep, hrep, hreg, -⟩
        · exact absurd hold hfresh
        · rw [Gateway.execute, if_pos hinv] at hrep
          exact ⟨msg, sender, _, rep, rfl, hid, hrep, hreg⟩
    | cli line => cases hverdict
    | cleanup => exact hgoverns.elim
    | rtp localPort pkt sender => exact hgoverns.elim
    | media callId ev => exact hgoverns.elim
  · cases hverdict

/-- A repeated request for a call leaves it alone. -/
theorem sameCall_of_repeated (hgoverns : Governs c e) (hverdict : w.verdict c e = none)
    (hstep : w.step e = some w') :
    SameCall w.gateway w'.gateway c ∧ w.talkEvent? c e = none := by
  obtain ⟨env, action⟩ := e
  unfold verdict at hverdict
  rw [if_pos hgoverns] at hverdict
  cases action with
  | sip msg sender =>
    obtain ⟨-, hreq, hmethod⟩ := hgoverns
    have hack : msg.val.method ≠ .ack := by
      rcases hmethod with h | h | h <;> simp [h]
    dsimp only at hverdict
    split at hverdict
    · next hold =>
      rcases old_or_executed hreq hack hstep with ⟨-, hsame⟩ | ⟨hfresh, -⟩
      · exact ⟨SameCall.of_registry (by rw [hsame]) c, rfl⟩
      · exact absurd hold hfresh
    · cases hverdict
  | cli line => cases hverdict
  | cleanup => exact hgoverns.elim
  | rtp localPort pkt sender => exact hgoverns.elim
  | media callId ev => exact hgoverns.elim

theorem Follows.same (h : Follows w c heard) (hsame : SameCall w.gateway w'.gateway c) :
    Follows w' c heard where
  registered s hs := h.registered s (hsame.getCall ▸ hs)
  unregistered hnone := h.unregistered (hsame.getCall ▸ hnone)

/-- An accepted INVITE moves the call to the address it offers. -/
theorem Follows.accepted (h : Follows w c heard) (hports : w.gateway.PortInv)
    (hverdict : w.verdict c e = some true) (hstep : w.step e = some w') :
    Follows w' c { heard with addr := acceptedAddr e heard.addr } := by
  have hreg := isRegistered_step (c := c) hports hstep
  rw [hverdict, Option.getD_some] at hreg
  obtain ⟨msg, sender, tx, rep, hact, rfl, hrep, hsame⟩ := invite_of_verdict hverdict hstep
  constructor
  · intro s hs
    rw [hsame] at hs
    obtain ⟨gw₁, session, sdp, p, payloadType, hopen, hsdp, -, hstart⟩ :=
      hports.invite_self hrep hs
    -- the pipeline starts on the session that was there, or on one that has heard nothing
    have hold : session.rtpLocked = heard.locked ∧ session.remoteRtpAddr = heard.addr := by
      rcases openCall_some hopen with ⟨hold, -⟩ | ⟨hnew, -, rfl, -⟩
      · exact h.registered session hold
      · rw [h.unregistered hnew]
        exact ⟨rfl, rfl⟩
    have haddr : acceptedAddr e heard.addr =
        CallSession.remoteAddr heard.addr sdp.connectionIp (remotePort sdp) := by
      simp only [acceptedAddr, hact, offeredAddr, hsdp]
    rw [haddr, ← hold.1, ← hold.2]
    exact ⟨CallSession.startPipeline_rtpLocked hstart,
      (CallSession.startPipeline_fields hstart).2.1⟩
  · intro hnone
    rw [IsRegistered, hnone] at hreg
    cases hreg

/-- A packet of the call comes to one of its ports. -/
theorem route_of_talkEvent {pkt : RtpPacket} {sender : SockAddr}
    (h : w.talkEvent? c e = some (.rtp pkt sender)) :
    ∃ p, e.action = .rtp p pkt sender ∧ w.gateway.registry.portMap[p]? = some c := by
  obtain ⟨env, action⟩ := e
  unfold talkEvent? at h
  cases action with
  | rtp p pkt' sender' =>
    dsimp only at h
    split at h
    · next hroute =>
      cases h
      exact ⟨p, rfl, hroute⟩
    · cases h
  | media callId ev =>
    dsimp only at h
    split at h <;> cases h
  | sip msg sender' => cases h
  | cleanup => cases h
  | cli line => cases h

/-- A packet locks the address that was heard, as it locks that of the session. -/
theorem heard_packet {s : CallSession}
    (h : s.rtpLocked = heard.locked ∧ s.remoteRtpAddr = heard.addr) (sender : SockAddr) :
    (if heard.locked then heard else ⟨true, sender⟩) = (⟨true, s.destAfter sender⟩ : Heard) := by
  obtain ⟨locked, addr⟩ := heard
  obtain ⟨rfl, rfl⟩ := h
  unfold CallSession.destAfter
  cases hlocked : s.rtpLocked <;> rfl

/-- An event that does not govern the call changes where it sends as is heard. -/
theorem Follows.others (h : Follows w c heard) (hports : w.gateway.PortInv)
    (hgoverns : ¬ Governs c e) (hstep : w.step e = some w') :
    Follows w' c (w.hear c heard e) := by
  have hverdict : w.verdict c e = none := if_neg hgoverns
  unfold hear
  rw [hverdict]
  dsimp only
  cases hs : w.gateway.registry.getCall c with
  | none =>
    have hgone : w'.IsRegistered c = false := by
      rw [isRegistered_of_not_governs hports hgoverns hstep, IsRegistered, hs]
      rfl
    have hempty : heard = {} := h.unregistered hs
    subst hempty
    -- a packet would need a port that leads to the call, and then it were registered
    cases hev : w.talkEvent? c e with
    | none => exact Follows.of_ended hgone
    | some event =>
      cases event with
      | media ev => exact Follows.of_ended hgone
      | rtp pkt sender =>
        obtain ⟨p, -, hroute⟩ := route_of_talkEvent hev
        obtain ⟨s, hs'⟩ := hports.tables.registered p c hroute
        rw [hs] at hs'
        cases hs'
  | some s =>
    have hsession := h.registered s hs
    have hon : OnCall w c { session := s } w := ⟨hs, fun _ => Iff.rfl⟩
    have hnext := (hon.step hports hgoverns hstep).registered
    have hfollows : ∀ {heard' : Heard} {s' : CallSession},
        w'.gateway.registry.getCall c = some s' →
        s'.rtpLocked = heard'.locked ∧ s'.remoteRtpAddr = heard'.addr →
        Follows w' c heard' := by
      intro heard' s' hs' hsame
      constructor
      · intro s'' hs''
        rw [hs'] at hs''
        cases hs''
        exact hsame
      · intro hnone
        rw [hs'] at hnone
        cases hnone
    cases hev : w.talkEvent? c e with
    | none =>
      rw [hev] at hnext
      exact hfollows hnext hsession
    | some event =>
      rw [hev] at hnext
      cases event with
      | media ev => exact hfollows hnext hsession
      | rtp pkt sender =>
        dsimp only
        rw [heard_packet hsession]
        exact hfollows hnext
          ⟨s.onRtpPacket_rtpLocked pkt sender, (s.onRtpPacket_dest pkt sender).1⟩

/-- In every step a call goes where is heard. -/
theorem Follows.step (h : Follows w c heard) (hports : w.gateway.PortInv)
    (hstep : w.step e = some w') : Follows w' c (w.hear c heard e) := by
  by_cases hgoverns : Governs c e
  · cases hverdict : w.verdict c e with
    | none =>
      obtain ⟨hsame, htalk⟩ := sameCall_of_repeated hgoverns hverdict hstep
      simp only [hear, hverdict, htalk]
      exact h.same hsame
    | some accepted =>
      cases accepted with
      | true =>
        simp only [hear, hverdict]
        exact h.accepted hports hverdict hstep
      | false =>
        have hreg := isRegistered_step (c := c) hports hstep
        rw [hverdict, Option.getD_some] at hreg
        simp only [hear, hverdict]
        exact Follows.of_ended hreg
  · exact h.others hports hgoverns hstep

/-- In every run a call goes where is heard. -/
theorem Follows.run (hw : (machine config hardwareConcurrency).Reachable w)
    (h : Follows w c heard) {events : List Event}
    (hrun : (machine config hardwareConcurrency).replay w events = some w') :
    (machine config hardwareConcurrency).Reachable w' ∧
      Follows w' c (hearAll c w events heard) := by
  induction events generalizing w heard with
  | nil =>
    rw [Machine.replay, Option.some.injEq] at hrun
    subst hrun
    exact ⟨hw, h⟩
  | cons e es ih =>
    rw [Machine.replay] at hrun
    split at hrun
    · next hen =>
      obtain ⟨w₁, hstep, hrest⟩ := Option.bind_eq_some_iff.mp hrun
      have hstep' : w.step e = some w₁ := hstep
      rw [hearAll, hstep']
      exact ih (hw.next hen hstep) (h.step (callInv hw).ports hstep') hrest
    · cases hrun

/-- A packet that leaves for the call goes where is heard. -/
theorem Follows.dest (h : Follows w c heard) (hports : w.gateway.PortInv) {dest : SockAddr}
    (hdest : w.destFor c e = some dest) : dest = (w.hear c heard e).addr := by
  obtain ⟨env, action⟩ := e
  unfold destFor at hdest
  cases action with
  | rtp p pkt sender =>
    dsimp only at hdest
    split at hdest
    · next hroute =>
      obtain ⟨s, hs⟩ := hports.tables.registered p c hroute
      have hverdict : w.verdict c ⟨env, .rtp p pkt sender⟩ = none := if_neg id
      have htalk : w.talkEvent? c ⟨env, .rtp p pkt sender⟩ = some (.rtp pkt sender) := if_pos hroute
      simp only [hear, hverdict, htalk]
      rw [heard_packet (h.registered s hs)]
      rw [handleRtpPacket_of_route hroute hs, Option.map_eq_some_iff] at hdest
      obtain ⟨sent, hsent, rfl⟩ := hdest
      obtain ⟨out, hout, hmap⟩ := Option.bind_eq_some_iff.mp hsent
      obtain ⟨fd, -, rfl⟩ := Option.map_eq_some_iff.mp hmap
      exact (s.onRtpPacket_dest pkt sender).2 out hout
    · cases hdest
  | sip msg sender => cases hdest
  | cleanup => cases hdest
  | cli line => cases hdest
  | media callId ev => cases hdest

/--
**The audio of a call goes where the offers and the first packet say.** In every run, a packet that
is sent for a call goes to the sender of the first packet that came for it, unless an INVITE was
accepted for it after that packet: then it goes to the address of the last such offer, whoever
sends packets to the call.
-/
theorem audio_goes_where_heard {events : List Event}
    (hrun : (machine config hardwareConcurrency).replay (start config hardwareConcurrency) events
      = some w) {dest : SockAddr} (hdest : w.destFor c e = some dest) :
    dest = (w.hear c (hearAll c (start config hardwareConcurrency) events {}) e).addr := by
  have hstart : Follows (start config hardwareConcurrency) c {} := Follows.of_ended rfl
  obtain ⟨hreach, hfollows⟩ := hstart.run (Machine.Reach.init rfl) hrun
  exact hfollows.dest (callInv hreach).ports hdest

/-- A call whose packets come from one place, and an INVITE that offers another address. -/
def exampleRelocated : List Event :=
  let packet (seq : UInt16) : Event :=
    ⟨{ start := 0 }, .rtp 20000 ((RtpPacket.empty.setHeader 0 seq 0 0).setPayload [9]) ⟨1, 7⟩⟩
  exampleCall ++ [1, 2, 3, 4, 5, 6].map packet ++
    [⟨{ start := 0 }, .sip (exampleInvite (bytes "c")) {}⟩]

/-- The next packet comes from a third place, and its echo goes to the offered address. -/
theorem audio_goes_where_heard_relocated :
    ∃ w dest, (machine exampleConfig 1).replay (start exampleConfig 1) exampleRelocated = some w ∧
      dest = (⟨167772161, 4000⟩ : SockAddr) ∧
      dest = (w.hear (bytes "call")
        (hearAll (bytes "call") (start exampleConfig 1) exampleRelocated {})
        ⟨{ start := 0 }, .rtp 20002 ((RtpPacket.empty.setHeader 0 7 0 0).setPayload [9])
          ⟨2, 8⟩⟩).addr := by
  obtain ⟨w, hrun⟩ := Option.isSome_iff_exists.mp (show ((machine exampleConfig 1).replay
    (start exampleConfig 1) exampleRelocated).isSome = true by decide +kernel)
  have hw : exampleRun exampleRelocated = w := by rw [exampleRun, hrun, Option.getD_some]
  refine ⟨w, ⟨167772161, 4000⟩, hrun, rfl, audio_goes_where_heard hrun ?_⟩
  rw [← hw]
  decide +kernel

end World

end SipGateway
