import SipGateway.Properties.Echo
import SipGateway.Properties.OneCall

/-!
# From the INVITE to the echo

A call becomes registered by an INVITE that starts its session (`started_of_registered`). With
`OnCall.run` everything said about a started session holds of it from there on.

`echo_call_end_to_end`: in echo mode the caller is returned his audio, whatever the gateway has to
do for other calls meanwhile.
-/

namespace SipGateway

open Infra

namespace World

open Gateway

variable {config : Config} {hardwareConcurrency : Nat} {w w' : World} {e : Event} {c : Bytes}
  {s : CallSession}

/-- The configuration never changes. -/
theorem config_eq (hw : (machine config hardwareConcurrency).Reachable w) :
    w.gateway.config = config := by
  refine hw.invariant (P := fun w => w.gateway.config = config) ?_ ?_
  · rintro w rfl
    rfl
  · intro w e w' _ h _ hstep
    refine Eq.trans ?_ h
    cases step_stepped hstep with
    | other gw' hact hother =>
      cases hother with
      | cleanup =>
        show (w.gateway.cleanupTransactions e.env).config = _
        unfold Gateway.cleanupTransactions
        dsimp only
        split <;> rfl
      | cli line =>
        show (w.gateway.cliLine line).config = _
        unfold Gateway.cliLine
        split <;> rfl
      | rtp localPort pkt sender =>
        show (w.gateway.handleRtpPacket localPort pkt sender).1.config = _
        unfold Gateway.handleRtpPacket
        split <;> rfl
      | media callId ev =>
        show (w.gateway.handleMedia callId ev).config = _
        unfold Gateway.handleMedia
        split <;> rfl
    | sip msg sender r hact hr =>
      cases hr with
      | ignored => rfl
      | resent => rfl
      | acked =>
        show (w.gateway.handleAck e.env msg.val).config = _
        unfold Gateway.handleAck
        split <;> rfl
      | response =>
        show (w.gateway.handleResponse e.env msg.val).config = _
        unfold Gateway.handleResponse
        split <;> rfl
      | executed _ _ _ _ rep hrep => exact (execute_replied hrep).frame.config

/-- The session an INVITE with this answer starts. -/
structure Starts (config : Config) (env : Env) (msg : SipMessage) (session started : CallSession) :
    Prop where
  callId : msg.getCallId ≠ []
  invite : msg.method = .invite
  starts : ∃ p remoteIp remotePort payloadType, 0 < p ∧
    session.startPipeline env config p remoteIp remotePort payloadType = .ok started

/-- An INVITE registers no session but one that it starts. -/
theorem invite_registers {gw : Gateway} (h : gw.PortInv) {env : Env} {msg : SipMessage}
    {tx : SipTransaction} {r : Reply} (hid : msg.getCallId ≠ []) (hinv : msg.method = .invite)
    (hr : gw.handleInvite env msg tx = .ok r) (hnew : gw.registry.getCall c = none)
    (hs : r.gateway.registry.getCall c = some s) :
    msg.getCallId = c ∧
      Starts gw.config env msg ((CallSession.create c (env.system 0)).init msg) s := by
  have hc : msg.getCallId = c := by
    by_contra hne
    rw [(h.invite_others hr (Ne.symm hne)).getCall, hnew] at hs
    cases hs
  subst hc
  refine ⟨rfl, hid, hinv, ?_⟩
  obtain ⟨gw₁, session, sdp, p, payloadType, hopen, -, hp, hstart⟩ := h.invite_self hr hs
  rcases openCall_some hopen with ⟨hold, -⟩ | ⟨-, -, rfl, -⟩
  · rw [hold] at hnew
    cases hnew
  · exact ⟨p, _, _, _, hp, hstart⟩

/-- **A call becomes registered by an INVITE for it, with the session this INVITE starts.** -/
theorem started_of_registered (hw : (machine config hardwareConcurrency).Reachable w)
    (hnew : w.gateway.registry.getCall c = none) (hstep : w.step e = some w')
    (hs : w'.gateway.registry.getCall c = some s) :
    ∃ msg sender, e.action = .sip msg sender ∧ msg.val.getCallId = c ∧
      Starts config e.env msg.val ((CallSession.create c (e.env.system 0)).init msg.val) s := by
  have hports := (callInv hw).ports
  have hconfig := config_eq hw
  cases step_stepped hstep with
  | other gw' hact hother =>
    rcases hother.calls with ⟨hreg, -⟩ | ⟨d, rfl⟩ | ⟨d, t, t', ht, -, hreg, -⟩
    · rw [show (w.afterOther e.env gw').gateway.registry = _ from hreg, hnew] at hs
      cases hs
    · change (w.gateway.dropCall d).registry.getCall c = some s at hs
      rw [dropCall_registry, CallRegistry.getCall_removeCall, hnew, ite_self] at hs
      cases hs
    · rw [show (w.afterOther e.env gw').gateway.registry = _ from hreg,
        CallRegistry.getCall_setSession] at hs
      split at hs
      · next he => rw [← he, hnew] at hs; cases hs
      · rw [hnew] at hs; cases hs
  | sip msg sender r hact hr =>
    cases hr with
    | ignored hid => rw [show w.gateway.registry.getCall c = some s from hs] at hnew; cases hnew
    | resent hid hreq sent hsent =>
      rw [show w.gateway.registry.getCall c = some s from hs] at hnew; cases hnew
    | acked hid hreq hack hnone =>
      change (w.gateway.handleAck e.env msg.val).registry.getCall c = some s at hs
      rw [(handleAck_calls _ _ _).1, hnew] at hs
      cases hs
    | response hid hreq =>
      change (w.gateway.handleResponse e.env msg.val).registry.getCall c = some s at hs
      rw [(handleResponse_calls _ _ _).1, hnew] at hs
      cases hs
    | executed hid hreq hack hnewtx rep hrep =>
      change rep.gateway.registry.getCall c = some s at hs
      by_cases hinv : msg.val.method = .invite
      · rw [Gateway.execute, if_pos hinv] at hrep
        obtain ⟨hc, hstarts⟩ := invite_registers hports hid hinv hrep hnew hs
        rw [hconfig] at hstarts
        exact ⟨msg, sender, hact, hc, hstarts⟩
      · rw [Gateway.execute, if_neg hinv] at hrep
        simp only [Except.ok.injEq] at hrep
        subst hrep
        change (w.gateway.simpleBranch msg.val).2.2.registry.getCall c = some s at hs
        rcases simpleBranch_calls hports hreq with ⟨hreg, -⟩ | ⟨hreg, -⟩
        · rw [hreg, hnew] at hs
          cases hs
        · rw [hreg, dropCall_registry, CallRegistry.getCall_removeCall, hnew, ite_self] at hs
          cases hs

/--
**An echo call, from the INVITE on.** Take any state of a gateway in echo mode and a step that
registers a new call. Then, until a request of its own or the command line changes the call, the
payloads that leave for it are its caller's non-empty ones in the caller's order, all but the last
four, numbered on without a gap, whatever else the gateway does.
-/
theorem echo_call_end_to_end (hw : (machine config hardwareConcurrency).Reachable w)
    (hmode : config.mode = .echo) (hnew : w.gateway.registry.getCall c = none)
    (hen : (machine config hardwareConcurrency).enabled w e) (hstep : w.step e = some w')
    (hs : w'.gateway.registry.getCall c = some s) {events : List Event} {w'' : World}
    (hgoverns : ∀ e ∈ events, ¬ Governs c e)
    (hrun : (machine config hardwareConcurrency).replay w' events = some w'')
    (sender : Sender) {xs : List Nat} (hnodup : xs.Nodup) (hreach : Sender.InReach xs)
    (hover : OvertakenAtMost 4 xs)
    (hevents : Talk.acceptedOf s (events.filterMap (w'.talkEvent? c)) = xs.map sender.packet) :
    (packetsFor c w' events).map RtpPacket.getPayload =
        (((xs.insertionSort (· ≤ ·)).take (xs.length - 4)).map fun i =>
          (sender.packet i).getPayload).filter (· ≠ []) ∧
      (packetsFor c w' events).IsChain fun a b =>
        b.getSequenceNumber = a.getSequenceNumber + 1 := by
  obtain ⟨msg, from_, hact, hc, hstarts⟩ := started_of_registered hw hnew hstep hs
  obtain ⟨p, remoteIp, remotePort, payloadType, hp, hstart⟩ := hstarts.starts
  have hcall : OnCall w' c { session := s } w' := ⟨hs, fun _ => Iff.rfl⟩
  obtain ⟨-, -, hsent⟩ := hcall.run (hw.next hen hstep) hgoverns hrun
  rw [← show (Talk.run s (events.filterMap (w'.talkEvent? c))).sent = packetsFor c w' events from
    hsent]
  exact Talk.echo_returns_audio hmode hp hstart rfl sender hnodup hreach hover hevents

/-- One byte in each packet. -/
def exampleCaller : Sender where
  packet i := (RtpPacket.empty.setHeader 0 (65533 + UInt16.ofNat i) 0 0).setPayload [UInt8.ofNat i]
  first := 65533
  numbered _ :=
    ((RtpPacket.setHeader_headed RtpPacket.empty 0 _ 0 0).setPayload _).getSequenceNumber

def exampleSession : CallSession :=
  ((exampleRun exampleCall).gateway.registry.getCall (bytes "call")).getD (CallSession.create [] 0)

/-- The first of seven packets comes fifth. -/
def exampleOvertaken : List Event :=
  [1, 2, 3, 4, 0, 6, 5].map fun i => ⟨{ start := 0 }, .rtp 20000 (exampleCaller.packet i) {}⟩

theorem echo_call_end_to_end_overtaken :
    (packetsFor (bytes "call") (exampleRun exampleCall) exampleOvertaken).map
      RtpPacket.getPayload = [[0], [1], [2]] := by
  have hset : (start exampleConfig 1).step ⟨{ start := 0 }, .sip (exampleInvite (bytes "b")) {}⟩ =
      some (exampleRun exampleCall) := by
    obtain ⟨w, hw⟩ := Option.isSome_iff_exists.mp (show ((start exampleConfig 1).step
      ⟨{ start := 0 }, .sip (exampleInvite (bytes "b")) {}⟩).isSome = true by decide +kernel)
    have hreplay :
        (machine exampleConfig 1).replay (start exampleConfig 1) exampleCall = some w := by
      unfold exampleCall
      exact (if_pos (Nat.zero_le 0)).trans (congrArg (Option.bind · _) hw)
    unfold exampleRun
    rw [hreplay, hw, Option.getD_some]
  have hsession : (exampleRun exampleCall).gateway.registry.getCall (bytes "call") =
      some exampleSession := by
    decide +kernel
  obtain ⟨w'', hrun⟩ := Option.isSome_iff_exists.mp (show ((machine exampleConfig 1).replay
    (exampleRun exampleCall) exampleOvertaken).isSome = true by decide +kernel)
  have haccepted : Talk.acceptedOf exampleSession (exampleOvertaken.filterMap
      ((exampleRun exampleCall).talkEvent? (bytes "call"))) =
        [1, 2, 3, 4, 0, 6, 5].map exampleCaller.packet := by
    decide +kernel
  have h := echo_call_end_to_end (Machine.Reachable.init rfl) rfl (by decide +kernel)
    (Nat.zero_le _) hset hsession (by decide +kernel) hrun exampleCaller (by decide) (by decide)
    (by decide) haccepted
  rw [h.1]
  decide +kernel

end World

end SipGateway
