import SipGateway.Properties.Calls
import SipGateway.Properties.Stream

/-!
# A call among others

`call_alone`: as long as no request and no command line of its own comes, a registered call is what
its session would be alone with the packets to its ports and what its threads hand over, whatever
happens to the other calls. So everything said about a `Talk` holds of the calls of a gateway.
-/

namespace SipGateway

open Infra

/-! ## What leaves through an open port -/

theorem RtpServer.send_isSome {srv : RtpServer} (hs : srv.Sound) {port : Int}
    (hopen : srv.IsOpen port) : (srv.send port).isSome = true := by
  obtain ⟨worker, hworker, hsocket⟩ := hopen
  have hrange := hs.own worker hworker port hsocket
  unfold send
  cases hfind : srv.workers.find? fun w => w.inRange port with
  | none =>
    have hno := List.find?_eq_none.mp hfind worker hworker
    exact absurd hrange hno
  | some other =>
    have hother := List.find?_some hfind
    have hsame : other = worker :=
      hs.unique (List.mem_of_find?_eq_some hfind) hworker hother hrange
    rw [hsame]
    exact Option.isSome_iff_exists.mpr ((mem_iff_exists_getElem? _ _).mp hsocket)

theorem CallSession.processFrame_localPort {session session' : CallSession} {frame : RtpPacket}
    {out : Outgoing} (h : session.processFrame frame = (session', some out)) :
    out.localPort = session.localRtpPort := by
  have hprocessed := session.processFrame_processed frame
  rw [h] at hprocessed
  cases hprocessed
  rfl

/-- An answer leaves through the port of the session. -/
theorem CallSession.onRtpPacket_localPort {session : CallSession} {pkt : RtpPacket}
    {sender : SockAddr} {out : Outgoing} (h : (session.onRtpPacket pkt sender).2 = some out) :
    out.localPort = session.localRtpPort := by
  cases hframe : session.frameFor pkt with
  | none =>
    rcases onRtpPacket_of_no_frame hframe with hrtp | hrtp <;> (rw [hrtp] at h; cases h)
  | some frame =>
    have hrtp : session.onRtpPacket pkt sender = _ := (onRtpPacket_of_frame hframe).2
    rw [hrtp] at h
    exact (processFrame_localPort (Prod.ext rfl h)).trans (lockRemote_localRtpPort session sender)

/-! ## The other calls -/

namespace Gateway

variable {gw : Gateway} {env : Env} {msg : SipMessage} {c d : Bytes}

/-- What is kept of a call: its session, and the ports it is reached by. -/
structure SameCall (gw gw' : Gateway) (c : Bytes) : Prop where
  getCall : gw'.registry.getCall c = gw.registry.getCall c
  routes : ∀ p : Int, gw'.registry.portMap[p]? = some c ↔ gw.registry.portMap[p]? = some c

theorem SameCall.of_registry {gw' : Gateway} (h : gw'.registry = gw.registry) (c : Bytes) :
    SameCall gw gw' c := by
  constructor
  · rw [h]
  · intro p
    rw [h]

theorem SameCall.trans {gw₁ gw₂ gw₃ : Gateway} (h₁ : SameCall gw₁ gw₂ c)
    (h₂ : SameCall gw₂ gw₃ c) : SameCall gw₁ gw₃ c where
  getCall := h₂.getCall.trans h₁.getCall
  routes p := (h₂.routes p).trans (h₁.routes p)

theorem sameCall_removeCall {gw' : Gateway} (ht : gw.registry.Consistent) (hc : c ≠ d)
    (hreg : gw'.registry = gw.registry.removeCall d) : SameCall gw gw' c := by
  constructor
  · rw [hreg, CallRegistry.getCall_removeCall, if_neg hc]
  · intro p
    rw [hreg, CallRegistry.portMap_removeCall ht]
    split
    · next hp => simp [hp, Ne.symm hc]
    · rfl

theorem sameCall_setSession {gw' : Gateway} (hc : c ≠ d) {s : CallSession}
    (hreg : gw'.registry = gw.registry.setSession d s) : SameCall gw gw' c := by
  constructor
  · rw [hreg, CallRegistry.getCall_setSession, if_neg hc]
  · intro p
    rw [hreg, CallRegistry.setSession_portMap]

theorem sameCall_registerRtpPort {gw' : Gateway} {q : Int} (hfree : gw.registry.portMap[q]? = none)
    (hc : c ≠ d) (hreg : gw'.registry = gw.registry.registerRtpPort q d) : SameCall gw gw' c := by
  constructor
  · rw [hreg, CallRegistry.getCall_registerRtpPort]
  · intro p
    rw [hreg, CallRegistry.portMap_registerRtpPort]
    split
    · next hp => simp [hp, hfree, Ne.symm hc]
    · rfl

/-- An INVITE leaves the other calls alone, however it ends. -/
theorem PortInv.invite_others (h : gw.PortInv) {tx : SipTransaction} {r : Reply}
    (hr : gw.handleInvite env msg tx = .ok r) (hc : c ≠ msg.getCallId) :
    SameCall gw r.gateway c := by
  cases handleInvite_invited hr with
  | busy hnew hfull => exact SameCall.of_registry rfl c
  | answered gw₁ gw₂ session sdp res hopen hsdp hanswer =>
    have ho := h.opened hopen
    have hopened : SameCall gw gw₁ c := by
      constructor
      · exact ho.others c hc
      · intro p
        rw [ho.portMap]
    have hfree : ∀ p, gw₁.rtpServer.finds env.net = some p → gw₁.registry.portMap[p]? = none := by
      intro p hfinds
      rw [ho.rtpServer] at hfinds
      rw [ho.portMap]
      exact h.portMap_of_finds hfinds
    refine hopened.trans ?_
    cases answerOffer_answered (ho.rtpServer ▸ h.sound) hanswer with
    | noPort hfinds => exact sameCall_removeCall ho.tables hc rfl
    | refused p hfinds hoffer =>
      have hentered : SameCall gw₁
          { gw₁ with registry := gw₁.registry.registerRtpPort p msg.getCallId } c :=
        sameCall_registerRtpPort (hfree p hfinds) hc rfl
      refine hentered.trans ?_
      exact sameCall_removeCall
        (ho.tables.registerRtpPort (hfree p hfinds) ho.registered) hc rfl
    | accepted p hfinds hoffer session' hstart =>
      have hentered : SameCall gw₁
          { gw₁ with registry := gw₁.registry.registerRtpPort p msg.getCallId } c :=
        sameCall_registerRtpPort (hfree p hfinds) hc rfl
      exact hentered.trans (sameCall_setSession hc rfl)

/-- A call that an INVITE for it leaves registered was started by it. -/
theorem PortInv.invite_self (h : gw.PortInv) {tx : SipTransaction} {r : Reply} {s : CallSession}
    (hr : gw.handleInvite env msg tx = .ok r)
    (hs : r.gateway.registry.getCall msg.getCallId = some s) :
    ∃ gw₁ session sdp p payloadType, gw.openCall env msg = some (gw₁, session) ∧
      SdpParser.parse msg.body = .ok (some sdp) ∧ 0 < p ∧
      session.startPipeline env gw.config p sdp.connectionIp (remotePort sdp) payloadType
        = .ok s := by
  cases handleInvite_invited hr with
  | busy hnew hfull =>
    rw [hnew] at hs
    cases hs
  | answered gw₁ gw₂ session sdp res hopen hsdp hanswer =>
    have ho := h.opened hopen
    have hsound : gw₁.rtpServer.Sound := ho.rtpServer ▸ h.sound
    cases answerOffer_answered hsound hanswer with
    | noPort hfinds =>
      rw [dropCall_registry, CallRegistry.getCall_removeCall, if_pos rfl] at hs
      cases hs
    | refused p hfinds hoffer =>
      rw [dropCall_registry, CallRegistry.getCall_removeCall, if_pos rfl] at hs
      cases hs
    | accepted p hfinds hoffer session' hstart =>
      dsimp only at hs
      rw [CallRegistry.getCall_setSession, if_pos rfl, CallRegistry.getCall_registerRtpPort,
        ho.registered] at hs
      cases hs
      rw [ho.config] at hstart
      exact ⟨gw₁, session, sdp, p, _, hopen, hsdp, (hsound.finds_some hfinds).1, hstart⟩

/-- A request that is no INVITE leaves calls alone unless it is a BYE or CANCEL for them. -/
theorem PortInv.simpleBranch_others (h : gw.PortInv) (hreq : msg.isRequest = true)
    (hc : msg.getCallId = c → msg.method ≠ .bye ∧ msg.method ≠ .cancel) :
    SameCall gw (gw.simpleBranch msg).2.2 c := by
  by_cases hid : msg.getCallId = c
  · obtain ⟨hbye, hcancel⟩ := hc hid
    have hsame : (gw.simpleBranch msg).2.2 = gw := by
      unfold simpleBranch
      split <;> first | rfl | contradiction
    rw [hsame]
    exact SameCall.of_registry rfl c
  · rcases simpleBranch_calls h hreq with ⟨hreg, -⟩ | ⟨hreg, -⟩
    · exact SameCall.of_registry hreg c
    · exact sameCall_removeCall h.tables (Ne.symm hid) hreg

/-- A packet to a port of a call reaches its session. -/
theorem handleRtpPacket_of_route {p : Int} {s : CallSession}
    (hroute : gw.registry.portMap[p]? = some c) (hs : gw.registry.getCall c = some s)
    (pkt : RtpPacket) (sender : SockAddr) :
    gw.handleRtpPacket p pkt sender =
      ({ gw with registry := gw.registry.setSession c (s.onRtpPacket pkt sender).1 },
        (s.onRtpPacket pkt sender).2.bind fun out =>
          (gw.rtpServer.send out.localPort).map fun fd => (fd, out.packet, out.dest)) := by
  have hport : gw.registry.getCallByPort p = some s :=
    (CallRegistry.getCallByPort_of hroute).trans hs
  unfold handleRtpPacket
  rw [hroute, hport]

/-- A packet to another port leaves the call alone. -/
theorem handleRtpPacket_others (h : gw.PortInv) {p : Int}
    (hroute : gw.registry.portMap[p]? ≠ some c) (pkt : RtpPacket) (sender : SockAddr) :
    SameCall gw (gw.handleRtpPacket p pkt sender).1 c := by
  cases hp : gw.registry.portMap[p]? with
  | none =>
    unfold handleRtpPacket
    rw [hp]
    exact SameCall.of_registry rfl c
  | some d =>
    obtain ⟨s, hs⟩ := h.tables.registered p d hp
    rw [handleRtpPacket_of_route hp hs]
    have hc : c ≠ d := fun he => hroute (he ▸ hp)
    exact sameCall_setSession hc rfl

/-- What leaves for a packet to a port of a call is what its session sends. -/
theorem handleRtpPacket_sent (h : gw.PortInv) {p : Int} {s : CallSession}
    (hroute : gw.registry.portMap[p]? = some c) (hs : gw.registry.getCall c = some s)
    (pkt : RtpPacket) (sender : SockAddr) :
    (gw.handleRtpPacket p pkt sender).2.map (fun out => out.2.1) =
      (s.onRtpPacket pkt sender).2.map CallSession.Outgoing.packet := by
  rw [handleRtpPacket_of_route hroute hs]
  dsimp only
  cases hout : (s.onRtpPacket pkt sender).2 with
  | none => rfl
  | some out =>
    have hopen := h.isOpen _ _ (h.own c s hs).2
    rw [← CallSession.onRtpPacket_localPort hout] at hopen
    obtain ⟨fd, hfd⟩ := Option.isSome_iff_exists.mp (RtpServer.send_isSome h.sound hopen)
    rw [Option.bind_some, hfd]
    rfl

end Gateway

/-! ## The events of a call -/

namespace World

open Gateway

variable {w w' w₀ : World} {e : Event} {c : Bytes}

/-- The event may open, change or end the call: a request for it, or a line that cuts it off. -/
def Governs (c : Bytes) (e : Event) : Prop :=
  match e.action with
  | .sip msg _ => msg.val.getCallId = c ∧ msg.val.isRequest = true ∧
      (msg.val.method = .invite ∨ msg.val.method = .bye ∨ msg.val.method = .cancel)
  | .cli line => (bytes "cut ").isPrefixOf line = true ∧ line.drop 4 = c
  | _ => False

instance (c : Bytes) (e : Event) : Decidable (Governs c e) := by
  unfold Governs
  split <;> infer_instance

/-- What an event is to the session of a call: a packet to one of its ports, or audio for it. -/
def talkEvent? (w : World) (c : Bytes) (e : Event) : Option TalkEvent :=
  match e.action with
  | .rtp localPort pkt sender =>
    if w.gateway.registry.portMap[localPort]? = some c then some (.rtp pkt sender) else none
  | .media callId ev => if callId = c then some (.media ev) else none
  | _ => none

/-- The packet that leaves when one reaches a port of the call. -/
def outgoingFor (w : World) (c : Bytes) (e : Event) : Option RtpPacket :=
  match e.action with
  | .rtp localPort pkt sender =>
    if w.gateway.registry.portMap[localPort]? = some c then
      (w.gateway.handleRtpPacket localPort pkt sender).2.map fun out => out.2.1
    else none
  | _ => none

/-- The packets that leave for the call in a run. -/
def packetsFor (c : Bytes) : World → List Event → List RtpPacket
  | _, [] => []
  | w, e :: es => (w.outgoingFor c e).toList ++
      match w.step e with
      | some w' => packetsFor c w' es
      | none => []

/-- The call has the session of the talk, and the ports it had. -/
structure OnCall (w₀ : World) (c : Bytes) (t : Talk) (w : World) : Prop where
  registered : w.gateway.registry.getCall c = some t.session
  routes : ∀ p : Int,
    w.gateway.registry.portMap[p]? = some c ↔ w₀.gateway.registry.portMap[p]? = some c

variable {t : Talk}

theorem OnCall.same (h : OnCall w₀ c t w) (hsame : SameCall w.gateway w'.gateway c) :
    OnCall w₀ c t w' where
  registered := hsame.getCall.trans h.registered
  routes p := (hsame.routes p).trans (h.routes p)

/-- The talk goes on with the event, if it is one for it. -/
def talkOn (t : Talk) : Option TalkEvent → Talk
  | some event => t.step event
  | none => t

/-- A SIP message that does not govern a call leaves it alone. -/
theorem sameCall_sip {env : Env} {msg : Received} {sender : SockAddr} (hports : w.gateway.PortInv)
    (hgoverns : ¬ Governs c ⟨env, .sip msg sender⟩)
    (hstep : w.step ⟨env, .sip msg sender⟩ = some w') :
    SameCall w.gateway w'.gateway c := by
  cases step_stepped hstep with
  | other gw' hact hother => exact absurd rfl (hact msg sender)
  | sip msg' sender' r hact hr =>
    cases hact
    cases hr with
    | ignored hid => exact SameCall.of_registry rfl c
    | resent hid hreq sent hsent => exact SameCall.of_registry rfl c
    | acked hid hreq hack hnone =>
      exact SameCall.of_registry (handleAck_calls w.gateway env msg.val).1 c
    | response hid hreq =>
      exact SameCall.of_registry (handleResponse_calls w.gateway env msg.val).1 c
    | executed hid hreq hack hnew rep hrep =>
      by_cases hinv : msg.val.method = .invite
      · rw [Gateway.execute, if_pos hinv] at hrep
        have hc : c ≠ msg.val.getCallId := fun he => hgoverns ⟨he.symm, hreq, Or.inl hinv⟩
        have hkept := hports.invite_others hrep hc
        exact ⟨hkept.getCall, hkept.routes⟩
      · rw [Gateway.execute, if_neg hinv] at hrep
        simp only [Except.ok.injEq] at hrep
        subst hrep
        have hkept := hports.simpleBranch_others (c := c) hreq fun hid =>
          ⟨fun hbye => hgoverns ⟨hid, hreq, Or.inr (Or.inl hbye)⟩,
            fun hcancel => hgoverns ⟨hid, hreq, Or.inr (Or.inr hcancel)⟩⟩
        exact ⟨hkept.getCall, hkept.routes⟩

/-- The clean-up leaves every call alone. -/
theorem sameCall_cleanup (gw : Gateway) (env : Env) (c : Bytes) :
    SameCall gw (gw.cleanupTransactions env) c := by
  refine SameCall.of_registry ?_ c
  unfold Gateway.cleanupTransactions
  dsimp only
  split <;> rfl

/-- A line that does not cut a call off leaves it alone. -/
theorem sameCall_cli {env : Env} {line : Bytes} (hports : w.gateway.PortInv)
    (hgoverns : ¬ Governs c ⟨env, .cli line⟩) :
    SameCall w.gateway (w.gateway.cliLine line) c := by
  unfold Gateway.cliLine
  split
  · next hcut => exact sameCall_removeCall hports.tables (fun he => hgoverns ⟨hcut, he.symm⟩) rfl
  · exact SameCall.of_registry rfl c

/-- A step changes a call as its session alone would change. -/
theorem OnCall.step (h : OnCall w₀ c t w) (hports : w.gateway.PortInv) (hgoverns : ¬ Governs c e)
    (hstep : w.step e = some w') : OnCall w₀ c (talkOn t (w₀.talkEvent? c e)) w' := by
  obtain ⟨env, action⟩ := e
  cases action with
  | sip msg sender =>
    exact h.same (sameCall_sip hports hgoverns hstep)
  | cleanup =>
    cases hstep
    exact h.same (sameCall_cleanup w.gateway env c)
  | cli line =>
    obtain rfl := step_cli hstep
    exact h.same (sameCall_cli hports hgoverns)
  | rtp localPort pkt sender =>
    cases hstep
    unfold talkEvent?
    dsimp only
    by_cases hroute : w.gateway.registry.portMap[localPort]? = some c
    · rw [if_pos ((h.routes localPort).mp hroute)]
      have hrtp := handleRtpPacket_of_route hroute h.registered pkt sender
      constructor
      · show (w.gateway.handleRtpPacket localPort pkt sender).1.registry.getCall c = _
        rw [hrtp]
        dsimp only
        rw [CallRegistry.getCall_setSession, if_pos rfl, h.registered]
        rfl
      · intro p
        show (w.gateway.handleRtpPacket localPort pkt sender).1.registry.portMap[p]? = _ ↔ _
        rw [hrtp]
        dsimp only
        rw [CallRegistry.setSession_portMap]
        exact h.routes p
    · rw [if_neg (mt (h.routes localPort).mpr hroute)]
      exact h.same (handleRtpPacket_others hports hroute pkt sender)
  | media callId ev =>
    cases hstep
    unfold talkEvent?
    dsimp only
    by_cases hid : callId = c
    · subst hid
      have hmedia : w.gateway.handleMedia callId ev = { w.gateway with
          registry := w.gateway.registry.setSession callId (t.session.onMedia ev) } := by
        unfold Gateway.handleMedia
        rw [h.registered]
      rw [if_pos rfl]
      constructor
      · show (w.gateway.handleMedia callId ev).registry.getCall callId = _
        rw [hmedia]
        dsimp only
        rw [CallRegistry.getCall_setSession, if_pos rfl, h.registered]
        rfl
      · intro p
        show (w.gateway.handleMedia callId ev).registry.portMap[p]? = _ ↔ _
        rw [hmedia]
        dsimp only
        rw [CallRegistry.setSession_portMap]
        exact h.routes p
    · rw [if_neg hid]
      refine h.same ?_
      show SameCall w.gateway (w.gateway.handleMedia callId ev) c
      unfold Gateway.handleMedia
      split
      · exact sameCall_setSession (Ne.symm hid) rfl
      · exact SameCall.of_registry rfl c

/-- What leaves in a step is what the session alone would send. -/
theorem OnCall.sent (h : OnCall w₀ c t w) (hports : w.gateway.PortInv) (e : Event) :
    (talkOn t (w₀.talkEvent? c e)).sent = t.sent ++ (w.outgoingFor c e).toList := by
  obtain ⟨env, action⟩ := e
  have hnone : t.sent = t.sent ++ [] := (List.append_nil _).symm
  unfold talkEvent? outgoingFor
  cases action with
  | sip msg sender => exact hnone
  | cleanup => exact hnone
  | cli line => exact hnone
  | media callId ev =>
    dsimp only
    split <;> exact hnone
  | rtp localPort pkt sender =>
    dsimp only
    by_cases hroute : w.gateway.registry.portMap[localPort]? = some c
    · rw [if_pos ((h.routes localPort).mp hroute), if_pos hroute,
        handleRtpPacket_sent hports hroute h.registered]
      rfl
    · rw [if_neg (mt (h.routes localPort).mpr hroute), if_neg hroute]
      exact hnone

variable {config : Config} {hardwareConcurrency : Nat} {s : CallSession}

/-- A run changes a call as its session alone would change. -/
theorem OnCall.run (hw : (machine config hardwareConcurrency).Reachable w) (h : OnCall w₀ c t w)
    {events : List Event} (hgoverns : ∀ e ∈ events, ¬ Governs c e)
    (hrun : (machine config hardwareConcurrency).replay w events = some w') :
    (machine config hardwareConcurrency).Reachable w' ∧
    OnCall w₀ c ((events.filterMap (w₀.talkEvent? c)).foldl Talk.step t) w' ∧
    ((events.filterMap (w₀.talkEvent? c)).foldl Talk.step t).sent =
      t.sent ++ packetsFor c w events := by
  induction events generalizing w t with
  | nil =>
    rw [Machine.replay, Option.some.injEq] at hrun
    subst hrun
    exact ⟨hw, h, (List.append_nil _).symm⟩
  | cons e es ih =>
    rw [Machine.replay] at hrun
    split at hrun
    · next hen =>
      obtain ⟨w₁, hstep, hrest⟩ := Option.bind_eq_some_iff.mp hrun
      have hports := (callInv hw).ports
      have hnext := h.step hports (hgoverns e List.mem_cons_self) hstep
      obtain ⟨hreach, hon, hsent⟩ := ih (hw.next hen hstep) hnext
        (fun e' he' => hgoverns e' (List.mem_cons_of_mem _ he')) hrest
      have hfold : (es.filterMap (w₀.talkEvent? c)).foldl Talk.step (talkOn t (w₀.talkEvent? c e)) =
          ((e :: es).filterMap (w₀.talkEvent? c)).foldl Talk.step t := by
        cases hev : w₀.talkEvent? c e with
        | none => rw [List.filterMap_cons_none hev]; rfl
        | some ev => rw [List.filterMap_cons_some hev]; rfl
      have hstep' : w.step e = some w₁ := hstep
      rw [hfold] at hon hsent
      refine ⟨hreach, hon, ?_⟩
      rw [hsent, h.sent hports, packetsFor, hstep', List.append_assoc]
    · cases hrun

/--
**A call in a gateway is what it would be alone.** From any state on, whatever messages, packets and
clean-ups come for other calls, a registered call has the session, and the caller is sent the
packets, that the packets to its ports and the audio handed over for it make of its session.
-/
theorem call_alone (hw : (machine config hardwareConcurrency).Reachable w)
    (hs : w.gateway.registry.getCall c = some s) {events : List Event}
    (hgoverns : ∀ e ∈ events, ¬ Governs c e)
    (hrun : (machine config hardwareConcurrency).replay w events = some w') :
    w'.gateway.registry.getCall c =
        some (Talk.run s (events.filterMap (w.talkEvent? c))).session ∧
      packetsFor c w events = (Talk.run s (events.filterMap (w.talkEvent? c))).sent ∧
      ∀ p : Int, w'.gateway.registry.portMap[p]? = some c ↔
        w.gateway.registry.portMap[p]? = some c := by
  have hstart : OnCall w c { session := s } w := ⟨hs, fun _ => Iff.rfl⟩
  obtain ⟨-, hon, hsent⟩ := hstart.run hw hgoverns hrun
  exact ⟨hon.registered, hsent.symm, hon.routes⟩

/-- A call is set up. -/
def exampleCall : List Event := [⟨{ start := 0 }, .sip (exampleInvite (bytes "b")) {}⟩]

/-- Another call is set up and ended, and a packet comes for each of the two. -/
def exampleOthers : List Event :=
  [⟨{ start := 0 }, .sip (exampleRequest (bytes "INVITE") (bytes "d") (bytes "other")
      (bytes "c=IN IP4 10.0.0.1\r\nm=audio 4000 RTP/AVP 0\r\n")) {}⟩,
    ⟨{ start := 0 }, .rtp 20000 (RtpPacket.empty.setHeader 0 1 0 0) {}⟩,
    ⟨{ start := 0 }, .rtp 20002 (RtpPacket.empty.setHeader 0 1 0 0) {}⟩,
    ⟨{ start := 0 }, .sip (exampleRequest (bytes "BYE") (bytes "e") (bytes "other") []) {}⟩]

theorem call_alone_example :
    ∃ s w', (exampleRun exampleCall).gateway.registry.getCall (bytes "call") = some s ∧
      (machine exampleConfig 1).replay (exampleRun exampleCall) exampleOthers = some w' ∧
      w'.gateway.registry.getCall (bytes "call") =
        some (Talk.run s [.rtp (RtpPacket.empty.setHeader 0 1 0 0) {}]).session := by
  obtain ⟨s, hs⟩ := Option.isSome_iff_exists.mp (show
    ((exampleRun exampleCall).gateway.registry.getCall (bytes "call")).isSome = true by
      decide +kernel)
  obtain ⟨w', hrun⟩ := Option.isSome_iff_exists.mp (show ((machine exampleConfig 1).replay
    (exampleRun exampleCall) exampleOthers).isSome = true by decide +kernel)
  have hreach : (machine exampleConfig 1).Reachable (exampleRun exampleCall) :=
    exampleRun_reachable (by decide +kernel)
  have h := call_alone hreach hs (by decide +kernel) hrun
  refine ⟨s, w', hs, hrun, h.1.trans ?_⟩
  congr 3

end World

end SipGateway
