import SipGateway.Properties.Ports

/-!
# Calls and their ports over whole runs

What every step of the gateway does to calls, ports and the answers sent so far (`CallStep`), and
what runs keep of that:

* `call_has_port` — every registered call has its own open port, the one it was told
* `no_port_leak` — when exactly the ports of the registered calls are open
* `rejected_invite_unchanged_iff` — which rejected INVITEs change nothing
-/

namespace SipGateway

open Infra

/-! ## The 200s sent so far -/

/-- The 200s of an entry, if it is an INVITE of the call. -/
def TraceEntry.oks (entry : TraceEntry) (c : Bytes) : List SipMessage :=
  if entry.msg.isRequest ∧ entry.msg.method = .invite ∧ entry.msg.getCallId = c then
    entry.responses.filter fun res => res.statusCode = 200
  else []

namespace World

/-- The most recent 200 sent to an INVITE of the call. -/
def lastOk (w : World) (c : Bytes) : Option SipMessage := (w.trace.flatMap (·.oks c)).getLast?

theorem lastOk_afterSip (w : World) (env : Env) (msg : SipMessage) (r : Gateway × List Sent)
    (c : Bytes) : (w.afterSip env msg r).lastOk c =
      (TraceEntry.oks { msg := msg, sent := r.2 } c).getLast?.or (w.lastOk c) := by
  unfold lastOk afterSip
  rw [List.flatMap_append, List.getLast?_append, List.flatMap_singleton]

end World

/-! ## No 2xx is ever resent to an INVITE -/

theorem makeKey_reverse_take (callId branch : Bytes) {method : Bytes} (h : 2 ≤ method.length) :
    (makeKey callId branch method).reverse.take 2 = method.reverse.take 2 := by
  unfold makeKey
  rw [List.reverse_append, List.take_append_of_le_length (by rwa [List.length_reverse])]

theorem parseMethod_eq_invite {method : Bytes} (h : SipParser.parseMethod method = .invite) :
    method = bytes "INVITE" := by
  unfold SipParser.parseMethod at h
  split at h
  · assumption
  all_goals repeat' split at h
  all_goals cases h

/-- The key of an INVITE is that of an INVITE, or of a method the gateway does not know. -/
theorem method_of_invite_key {c b c' b' method : Bytes}
    (h : makeKey c b (bytes "INVITE") = makeKey c' b' method) :
    method = bytes "INVITE" ∨ SipParser.parseMethod method = .unknown := by
  have hends := congrArg (fun k => k.reverse.take 2) h
  rw [makeKey_reverse_take c b (by decide)] at hends
  have hno : ∀ known : Bytes, 2 ≤ known.length →
      (bytes "INVITE").reverse.take 2 ≠ known.reverse.take 2 → method ≠ known := by
    intro known hlen hne he
    rw [he, makeKey_reverse_take c' b' hlen] at hends
    exact hne hends
  by_cases hinv : method = bytes "INVITE"
  · exact Or.inl hinv
  · refine Or.inr ?_
    unfold SipParser.parseMethod
    rw [if_neg hinv, if_neg (hno _ (by decide) (by decide)), if_neg (hno _ (by decide) (by decide)),
      if_neg (hno _ (by decide) (by decide)), if_neg (hno _ (by decide) (by decide)),
      if_neg (hno _ (by decide) (by decide))]

/-- What is sent again to an INVITE is never a 200. -/
theorem World.TransactionInv.resent_ne_200 {w : World} (h : w.TransactionInv) {msg : Received}
    (hreq : msg.val.isRequest = true) (hinv : msg.val.method = .invite) {sent : List SipMessage}
    (hsent : w.gateway.retransmission msg.val = some sent) :
    ∀ res ∈ sent, res.statusCode ≠ 200 := by
  intro res hres hok
  unfold Gateway.retransmission at hsent
  split at hsent
  · cases hsent
  · next tx htx =>
    obtain ⟨x, hx, hst, hkey⟩ := h.complete _ _ htx
    have hrec := h.records x hx
    have hxtx : x.transaction = tx := by
      have hget := hrec.stored hst
      rw [hkey, htx] at hget
      exact (Option.some.inj hget).symm
    obtain ⟨last, hset⟩ := hrec.settled
    split at hsent
    · next res' hlast =>
      cases hsent
      rw [List.mem_singleton] at hres
      subst hres
      split at hlast
      · next hresend =>
        rw [← hxtx] at hlast hresend
        have hres : last = res := Option.some.inj (hset.last.symm.trans hlast)
        rw [hres] at hset
        -- the transaction has not terminated
        have hstate : x.transaction.state ≠ .terminated := by
          unfold SipTransaction.shouldResendResponse at hresend
          intro hterm
          simp [hterm] at hresend
        have hstr := parseMethod_eq_invite ((msg.property.request hreq).symm.trans hinv)
        unfold ExecutedRequest.key SipMessage.txKey at hkey
        rw [hstr] at hkey
        rcases method_of_invite_key hkey.symm with hm | hm
        · refine hstate (hset.success ?_ (by omega))
          unfold SipTransaction.isInviteTransaction
          rw [hrec.method, hm]
          rfl
        · have := hrec.unknown hm res hset.last
          omega
      · cases hlast
    · split at hsent
      · cases hsent
        cases hres
      · cases hsent

/-! ## What a step does to calls, ports and answers -/

namespace World

open Gateway

/-- The ways a step of the machine can end, as far as calls and ports go. -/
inductive CallStep (w : World) (e : Event) (w' : World) : Prop where
  | same (hreg : w'.gateway.registry = w.gateway.registry)
      (hrtp : w'.gateway.rtpServer = w.gateway.rtpServer)
      (hoks : ∀ c, w'.lastOk c = w.lastOk c)
  | dropped (c : Bytes) (hreg : w'.gateway.registry = (w.gateway.dropCall c).registry)
      (hrtp : w'.gateway.rtpServer = (w.gateway.dropCall c).rtpServer)
      (hoks : ∀ c, w'.lastOk c = w.lastOk c)
  | updated (c : Bytes) (s s' : CallSession) (hs : w.gateway.registry.getCall c = some s)
      (hport : s'.localRtpPort = s.localRtpPort)
      (hreg : w'.gateway.registry = w.gateway.registry.setSession c s')
      (hrtp : w'.gateway.rtpServer = w.gateway.rtpServer)
      (hoks : ∀ c, w'.lastOk c = w.lastOk c)
  | invited (msg : Received) (sender : SockAddr) (gw₁ : Gateway) (res : SipMessage)
      (hact : e.action = .sip msg sender) (hid : msg.val.getCallId ≠ [])
      (hreq : msg.val.isRequest = true) (hinv : msg.val.method = .invite)
      (hnew : w.gateway.transactions[msg.val.txKey]? = none)
      (hports : gw₁.PortInv) (heff : InviteEffect w.gateway e.env msg.val gw₁ res)
      (hreg : w'.gateway.registry = gw₁.registry) (hrtp : w'.gateway.rtpServer = gw₁.rtpServer)
      (hoks : ∀ c, w'.lastOk c =
        if c = msg.val.getCallId ∧ res.statusCode = 200 then some res else w.lastOk c)

/-- A message that gets no 200 as an INVITE leaves the 200s as they are. -/
theorem lastOk_same {w : World} {env : Env} {msg : SipMessage} {r : Gateway × List Sent}
    (h : msg.isRequest = true → msg.method = .invite →
      ∀ res ∈ r.2.map Prod.fst, res.statusCode ≠ 200) (c : Bytes) :
    (w.afterSip env msg r).lastOk c = w.lastOk c := by
  have hnone : TraceEntry.oks { msg := msg, sent := r.2 } c = [] := by
    unfold TraceEntry.oks
    split
    · next hc =>
      refine List.filter_eq_nil_iff.mpr fun res hres => ?_
      simpa using h hc.1 hc.2.1 res hres
    · rfl
  rw [lastOk_afterSip, hnone]
  rfl

/-- An INVITE that gets one final response behind responses that are no 200. -/
theorem lastOk_invite {w : World} {env : Env} {msg : SipMessage} {gw' : Gateway}
    {sender : SockAddr} {sent : List SipMessage} {res : SipMessage} (hreq : msg.isRequest = true)
    (hinv : msg.method = .invite) (hsent : sent = [res] ∨ sent = [trying env msg, res])
    (c : Bytes) :
    (w.afterSip env msg (gw', sent.map (·, sender))).lastOk c =
      if c = msg.getCallId ∧ res.statusCode = 200 then some res else w.lastOk c := by
  have hcode : (trying env msg).statusCode = 100 := createResponse_statusCode _ _ _ _
  have hoks : TraceEntry.oks { msg := msg, sent := sent.map (·, sender) } c =
      if c = msg.getCallId ∧ res.statusCode = 200 then [res] else [] := by
    have hresp : TraceEntry.responses { msg := msg, sent := sent.map (·, sender) } = sent := by
      simp [TraceEntry.responses, Function.comp_def]
    unfold TraceEntry.oks
    rw [hresp]
    by_cases hc : c = msg.getCallId
    · rw [if_pos ⟨hreq, hinv, hc.symm⟩]
      rcases hsent with rfl | rfl <;> by_cases h200 : res.statusCode = 200 <;>
        simp [hc, h200, hcode]
    · rw [if_neg (fun hcc => hc hcc.2.2.symm), if_neg (fun hcc => hc hcc.1)]
  rw [lastOk_afterSip, hoks]
  split <;> rfl

/-- The steps other than SIP messages: nothing, a call cut off, or a session written back. -/
theorem Other.calls {gw gw' : Gateway} {env : Env} (h : Other gw env gw') :
    (gw'.registry = gw.registry ∧ gw'.rtpServer = gw.rtpServer) ∨
    (∃ c, gw' = gw.dropCall c) ∨
    ∃ c s s', gw.registry.getCall c = some s ∧ s'.localRtpPort = s.localRtpPort ∧
      gw'.registry = gw.registry.setSession c s' ∧ gw'.rtpServer = gw.rtpServer := by
  cases h with
  | cleanup =>
    refine Or.inl ?_
    unfold Gateway.cleanupTransactions
    dsimp only
    split <;> exact ⟨rfl, rfl⟩
  | cli line =>
    unfold Gateway.cliLine
    split
    · exact Or.inr (Or.inl ⟨_, rfl⟩)
    · exact Or.inl ⟨rfl, rfl⟩
  | rtp localPort pkt sender =>
    unfold Gateway.handleRtpPacket
    split
    · next c s hc hs =>
      rw [CallRegistry.getCallByPort_of hc] at hs
      exact Or.inr (Or.inr ⟨c, s, _, hs, CallSession.onRtpPacket_localRtpPort s pkt sender,
        rfl, rfl⟩)
    · exact Or.inl ⟨rfl, rfl⟩
  | media c ev =>
    unfold Gateway.handleMedia
    split
    · next s hs =>
      exact Or.inr (Or.inr ⟨c, s, _, hs, CallSession.onMedia_localRtpPort s ev, rfl, rfl⟩)
    · exact Or.inl ⟨rfl, rfl⟩

theorem handleAck_calls (gw : Gateway) (env : Env) (msg : SipMessage) :
    (gw.handleAck env msg).registry = gw.registry ∧
    (gw.handleAck env msg).rtpServer = gw.rtpServer := by
  unfold Gateway.handleAck
  split <;> exact ⟨rfl, rfl⟩

theorem handleResponse_calls (gw : Gateway) (env : Env) (msg : SipMessage) :
    (gw.handleResponse env msg).registry = gw.registry ∧
    (gw.handleResponse env msg).rtpServer = gw.rtpServer := by
  unfold Gateway.handleResponse
  split <;> exact ⟨rfl, rfl⟩

/-- **Every step is one of the four, and keeps the invariant of the ports.** -/
theorem callStep {w w' : World} {e : Event} (ht : w.TransactionInv) (h : w.gateway.PortInv)
    (hs : Stepped w e w') : w'.gateway.PortInv ∧ CallStep w e w' := by
  cases hs with
  | other gw' hact hother =>
    have hoks : ∀ c, (w.afterOther e.env gw').lastOk c = w.lastOk c := fun _ => rfl
    rcases hother.calls with ⟨hreg, hrtp⟩ | ⟨c, rfl⟩ | ⟨c, s, s', hs, hport, hreg, hrtp⟩
    · exact ⟨h.congr hreg hrtp, CallStep.same hreg hrtp hoks⟩
    · exact ⟨h.dropCall c, CallStep.dropped c rfl rfl hoks⟩
    · exact ⟨h.update hs hport hreg hrtp, CallStep.updated c s s' hs hport hreg hrtp hoks⟩
  | sip msg sender r hact hr =>
    cases hr with
    | ignored hid =>
      exact ⟨h, CallStep.same rfl rfl (lastOk_same (by simp))⟩
    | resent hid hreq sent hsent =>
      refine ⟨h, CallStep.same rfl rfl (lastOk_same fun _ hinv res hres => ?_)⟩
      rw [List.map_map, Function.comp_def, List.map_id'] at hres
      exact ht.resent_ne_200 hreq hinv hsent res hres
    | acked hid hreq hack hnone =>
      have hsame := handleAck_calls w.gateway e.env msg.val
      exact ⟨h.congr hsame.1 hsame.2, CallStep.same hsame.1 hsame.2 (lastOk_same (by simp))⟩
    | response hid hreq =>
      have hsame := handleResponse_calls w.gateway e.env msg.val
      exact ⟨h.congr hsame.1 hsame.2, CallStep.same hsame.1 hsame.2 (lastOk_same (by simp))⟩
    | executed hid hreq hack hnew rep hrep =>
      by_cases hinv : msg.val.method = .invite
      · rw [Gateway.execute, if_pos hinv] at hrep
        obtain ⟨hports, res, hsent, heff⟩ := h.invite hrep
        exact ⟨hports.congr rfl rfl, CallStep.invited msg sender rep.gateway res hact hid hreq hinv
          hnew hports heff rfl rfl (lastOk_invite hreq hinv hsent)⟩
      · rw [Gateway.execute, if_neg hinv] at hrep
        have hoks : ∀ (r : Gateway × List Sent) c,
            (w.afterSip e.env msg.val r).lastOk c = w.lastOk c :=
          fun r => lastOk_same fun _ hi => absurd hi hinv
        simp only [Except.ok.injEq] at hrep
        subst hrep
        rcases simpleBranch_calls h hreq with ⟨hreg, hrtp⟩ | ⟨hreg, hrtp⟩
        · exact ⟨h.congr hreg hrtp, CallStep.same hreg hrtp (hoks _)⟩
        · exact ⟨(h.dropCall _).congr hreg hrtp, CallStep.dropped _ hreg hrtp (hoks _)⟩

/-! ## Every call has a port of its own -/

/-- The invariant of all runs. -/
structure CallInv (w : World) : Prop where
  transactions : w.TransactionInv
  ports : w.gateway.PortInv
  advertised : ∀ c s, w.gateway.registry.getCall c = some s →
    ∃ res, w.lastOk c = some res ∧ SdpAnswer.AdvertisesPort res.body s.localRtpPort

/-- Behind an INVITE every call still has its port in the last 200 sent for it. -/
theorem CallInv.advertised_invite {w : World} (h : w.CallInv) {env : Env} {msg res : SipMessage}
    {gw₁ : Gateway} (heff : InviteEffect w.gateway env msg gw₁ res) {c : Bytes} {s : CallSession}
    (hc : gw₁.registry.getCall c = some s) :
    ∃ res', (if c = msg.getCallId ∧ res.statusCode = 200 then some res else w.lastOk c)
        = some res' ∧ SdpAnswer.AdvertisesPort res'.body s.localRtpPort := by
  have hkeep : 300 ≤ res.statusCode → w.gateway.registry.getCall c = some s →
      ∃ res', (if c = msg.getCallId ∧ res.statusCode = 200 then some res else w.lastOk c)
        = some res' ∧ SdpAnswer.AdvertisesPort res'.body s.localRtpPort := by
    intro hcode hold
    rw [if_neg (by omega)]
    exact h.advertised c s hold
  cases heff with
  | busy hnone hfull => exact hkeep (by simp [busyHere]) hc
  | refusedNew _ _ hcode _ _ hsame _ => exact hkeep hcode (hsame ▸ hc)
  | refusedOld _ _ hcode session hold hcalls _ =>
    rw [hcalls] at hc
    split at hc
    · cases hc
    · exact hkeep hcode hc
  | accepted _ p _ session' sdp hfinds hsdp hoffer _ hport hcalls _ =>
    rw [hcalls] at hc
    split at hc
    · next he =>
      cases hc
      obtain ⟨codec, hgen⟩ := SdpAnswer.generate_of_negotiable hoffer w.gateway.config.bindIp p
      refine ⟨_, if_pos ⟨he, by simp [okResponse]⟩, ?_⟩
      show SdpAnswer.AdvertisesPort (SdpAnswer.generate _ _ _ _).1 _
      rw [hgen, hport]
      exact SdpAnswer.answerText_advertisesPort _ _ _
    · next hne =>
      rw [if_neg (fun hcc => hne hcc.1)]
      exact h.advertised c s hc

theorem CallInv.next {w w' : World} {e : Event} (h : w.CallInv) (hen : w.clock ≤ e.env.start)
    (hs : Stepped w e w') : w'.CallInv := by
  obtain ⟨hports, hstep⟩ := callStep h.transactions h.ports hs
  refine ⟨h.transactions.next hen hs, hports, ?_⟩
  intro c s hc
  cases hstep with
  | same hreg hrtp hoks =>
    rw [hreg] at hc
    rw [hoks]
    exact h.advertised c s hc
  | dropped d hreg hrtp hoks =>
    rw [hreg, dropCall_registry, CallRegistry.getCall_removeCall] at hc
    rw [hoks]
    split at hc
    · cases hc
    · exact h.advertised c s hc
  | updated d t t' ht hport hreg hrtp hoks =>
    rw [hreg, CallRegistry.getCall_setSession] at hc
    rw [hoks]
    split at hc
    · next he =>
      rw [ht] at hc
      cases hc
      rw [hport, he]
      exact h.advertised d t ht
    · exact h.advertised c s hc
  | invited msg sender gw₁ res hact hid hreq hinv hnew hports₁ heff hreg hrtp hoks =>
    rw [hreg] at hc
    rw [hoks]
    exact h.advertised_invite heff hc

theorem callInv {config : Config} {hardwareConcurrency : Nat} {w : World}
    (hw : (machine config hardwareConcurrency).Reachable w) : w.CallInv :=
  hw.invariant
    (fun w h => by
      cases h
      refine ⟨transactionInv (Machine.Reachable.init rfl),
        ⟨RtpServer.init_sound _ _ _ _, CallRegistry.Consistent.empty, fun c s hc => ?_,
          fun p c hp => ?_⟩, fun c s hc => ?_⟩
      · simp [start, CallRegistry.getCall] at hc
      · simp [start] at hp
      · simp [start, CallRegistry.getCall] at hc)
    (fun _ _ _ _ h hen hs => h.next hen (step_stepped hs))

/-- What a registered call has. -/
structure HasPort (w : World) (c : Bytes) (s : CallSession) : Prop where
  positive : 0 < s.localRtpPort
  isOpen : ∃ worker ∈ w.gateway.rtpServer.workers,
    worker.inRange s.localRtpPort = true ∧ s.localRtpPort ∈ worker.activeSockets
  byPort : w.gateway.registry.getCallByPort s.localRtpPort = some s
  advertised : ∃ res, w.lastOk c = some res ∧ SdpAnswer.AdvertisesPort res.body s.localRtpPort
  unique : ∀ c' s', w.gateway.registry.getCall c' = some s' → s'.localRtpPort = s.localRtpPort →
    c' = c

/-- The open ports are the ports of the registered calls. -/
def PortsMatch (w : World) : Prop :=
  ∀ p, w.gateway.rtpServer.IsOpen p ↔
    ∃ c s, w.gateway.registry.getCall c = some s ∧ s.localRtpPort = p

/-- An INVITE for a registered call that will be accepted. -/
def AcceptsAgain (gw : Gateway) (env : Env) (msg : SipMessage) : Prop :=
  (∃ s, gw.registry.getCall msg.getCallId = some s) ∧
  (∃ p, gw.rtpServer.finds env.net = some p) ∧
  ∃ sdp, SdpParser.parse msg.body = .ok (some sdp) ∧
    SdpAnswer.Negotiable sdp gw.config.codecPreference

/--
The steps that lose no port: an INVITE that is executed is not accepted for a registered call,
and its search leaves no port open besides the one it finds.
-/
def LosesNoPort (w : World) (e : Event) : Prop :=
  ∀ msg sender, e.action = .sip msg sender → msg.val.isRequest = true →
    msg.val.method = .invite → w.gateway.transactions[msg.val.txKey]? = none →
    w.gateway.rtpServer.leaves e.env.net = [] ∧ ¬ AcceptsAgain w.gateway e.env msg.val

/-- Every open port is that of a registered call; the converse is part of `PortInv`. -/
def Covered (gw : Gateway) : Prop :=
  ∀ p, gw.rtpServer.IsOpen p → ∃ c s, gw.registry.getCall c = some s ∧ s.localRtpPort = p

theorem portsMatch_iff {w : World} (h : w.gateway.PortInv) :
    w.PortsMatch ↔ Covered w.gateway := by
  constructor
  · intro hmatch p hopen
    exact (hmatch p).mp hopen
  · intro hcovered p
    refine ⟨hcovered p, ?_⟩
    rintro ⟨c, s, hcall, rfl⟩
    exact h.isOpen _ _ (h.own c s hcall).2

/-- A call that goes takes its port along. -/
theorem Covered.dropCall {gw : Gateway} (h : Covered gw) (hports : gw.PortInv) (d : Bytes) :
    Covered (gw.dropCall d) := by
  intro p hopen
  rw [hports.isOpen_dropCall_iff] at hopen
  obtain ⟨c, s, hcall, hport⟩ := h p hopen.1
  refine ⟨c, s, ?_, hport⟩
  rw [dropCall_registry, CallRegistry.getCall_removeCall, if_neg, hcall]
  exact fun he => hopen.2 s (he ▸ hcall) hport.symm

/-- A session that is written back keeps its port. -/
theorem Covered.setSession {gw : Gateway} (h : Covered gw) {d : Bytes} {t t' : CallSession}
    (ht : gw.registry.getCall d = some t) (hport : t'.localRtpPort = t.localRtpPort) :
    Covered { gw with registry := gw.registry.setSession d t' } := by
  intro p hopen
  obtain ⟨c, s, hcall, hsport⟩ := h p hopen
  by_cases he : c = d
  · refine ⟨d, t', ?_, ?_⟩
    · rw [CallRegistry.getCall_setSession, if_pos rfl, ht]
      rfl
    · rw [he, ht] at hcall
      cases hcall
      exact hport.trans hsport
  · refine ⟨c, s, ?_, hsport⟩
    rw [CallRegistry.getCall_setSession, if_neg he, hcall]

/-- An INVITE that leaves no port behind and is not accepted again. -/
theorem Covered.invite {gw gw' : Gateway} {env : Env} {msg res : SipMessage} (h : Covered gw)
    (hleaves : gw.rtpServer.leaves env.net = []) (hagain : ¬ AcceptsAgain gw env msg)
    (heff : InviteEffect gw env msg gw' res) : Covered gw' := by
  intro p hopen
  cases heff with
  | busy => exact h p hopen
  | refusedNew _ _ _ _ _ hsame hop =>
    rw [hop, hleaves] at hopen
    rw [hsame]
    exact h p (hopen.resolve_right (by simp))
  | refusedOld _ _ _ session hold hcalls hop =>
    rw [hop, hleaves] at hopen
    obtain ⟨hne, hopen⟩ := hopen
    obtain ⟨c, s, hcall, hport⟩ := h p (hopen.resolve_right (by simp))
    refine ⟨c, s, ?_, hport⟩
    rw [hcalls, if_neg, hcall]
    -- the call that goes takes its own port with it
    intro he
    rw [he, hold] at hcall
    cases hcall
    exact hne hport.symm
  | accepted _ q _ session' sdp hfinds hsdp hoffer _ hport hcalls hop =>
    -- no session loses the field that held its port
    have hfresh : gw.registry.getCall msg.getCallId = none := by
      cases hold : gw.registry.getCall msg.getCallId with
      | none => rfl
      | some s => exact absurd ⟨⟨s, hold⟩, ⟨q, hfinds⟩, sdp, hsdp, hoffer⟩ hagain
    rw [hop, hleaves] at hopen
    rcases hopen with (hopen | hopen) | rfl
    · obtain ⟨c, s, hcall, hsport⟩ := h p hopen
      refine ⟨c, s, ?_, hsport⟩
      rw [hcalls, if_neg, hcall]
      intro he
      rw [he, hfresh] at hcall
      cases hcall
    · cases hopen
    · exact ⟨_, session', by rw [hcalls, if_pos rfl], hport⟩

theorem Covered.congr {gw gw' : Gateway} (h : Covered gw) (hreg : gw'.registry = gw.registry)
    (hrtp : gw'.rtpServer = gw.rtpServer) : Covered gw' := by
  unfold Covered
  rw [hreg, hrtp]
  exact h

theorem PortsMatch.next {w w' : World} {e : Event} (ht : w.TransactionInv)
    (hp : w.gateway.PortInv) (h : w.PortsMatch) (hc : w.LosesNoPort e) (hs : Stepped w e w') :
    w'.PortsMatch := by
  obtain ⟨hports, hstep⟩ := callStep ht hp hs
  rw [portsMatch_iff hp] at h
  rw [portsMatch_iff hports]
  cases hstep with
  | same hreg hrtp _ => exact h.congr hreg hrtp
  | dropped d hreg hrtp _ => exact (h.dropCall hp d).congr hreg hrtp
  | updated d t t' ht hport hreg hrtp _ => exact (h.setSession ht hport).congr hreg hrtp
  | invited msg sender gw₁ res hact hid hreq hinv hnew _ heff hreg hrtp _ =>
    obtain ⟨hleaves, hagain⟩ := hc msg sender hact hreq hinv hnew
    exact (h.invite hleaves hagain heff).congr hreg hrtp

/--
**No port leaks**: in a run without an INVITE that is accepted for a call already registered,
the open ports are those of the registered calls all along.
-/
theorem no_port_leak {config : Config} {hardwareConcurrency : Nat} {w : World}
    (hw : (machine config hardwareConcurrency).Reach LosesNoPort w) : w.PortsMatch :=
  hw.invariant
    (fun w h => by
      cases h
      intro p
      have hnone := RtpServer.init_not_isOpen config.rtpPortStart config.rtpPortEnd 0
        hardwareConcurrency p
      refine ⟨fun hopen => absurd hopen hnone, ?_⟩
      rintro ⟨c, s, hcall, -⟩
      simp [start, CallRegistry.getCall] at hcall)
    (fun w e w' hr h hen hc hs =>
      have hinv := callInv hr.reachable
      h.next hinv.transactions hinv.ports hc (step_stepped hs))

/-- The workers keep the ranges they were started with. -/
theorem ranges_eq {config : Config} {hardwareConcurrency : Nat} {w : World}
    (hw : (machine config hardwareConcurrency).Reachable w) :
    w.gateway.rtpServer.ranges =
      (RtpServer.init config.rtpPortStart config.rtpPortEnd 0 hardwareConcurrency).ranges := by
  refine hw.invariant (P := fun w => w.gateway.rtpServer.ranges = _) ?_ ?_
  · rintro _ rfl
    rfl
  · rintro w e w' hr h hen hs
    rw [← h]
    cases step_stepped hs with
    | other gw' hact hother =>
      show gw'.rtpServer.ranges = _
      rcases hother.calls with ⟨-, hrtp⟩ | ⟨c, rfl⟩ | ⟨-, -, -, -, -, -, hrtp⟩
      · rw [hrtp]
      · exact dropCall_ranges _ _
      · rw [hrtp]
    | sip msg sender r hact hr' =>
      cases hr' with
      | ignored => rfl
      | resent => rfl
      | acked =>
        show (w.gateway.handleAck e.env msg.val).rtpServer.ranges = _
        rw [(handleAck_calls _ _ _).2]
      | response =>
        show (w.gateway.handleResponse e.env msg.val).rtpServer.ranges = _
        rw [(handleResponse_calls _ _ _).2]
      | executed _ _ _ _ rep hrep =>
        show rep.gateway.rtpServer.ranges = _
        unfold Gateway.execute at hrep
        split at hrep
        · exact handleInvite_ranges (callInv hr).ports.sound hrep
        · simp only [Except.ok.injEq] at hrep
          subst hrep
          exact simpleBranch_ranges _ _

/--
With socket calls that succeed, and a port range that starts at 1 or above, only an INVITE that is
accepted again loses a port.
-/
theorem losesNoPort_of_netOk {config : Config} {hardwareConcurrency : Nat} {w : World} {e : Event}
    (hw : (machine config hardwareConcurrency).Reachable w) (hstart : 1 ≤ config.rtpPortStart)
    (hnet : e.env.NetOk)
    (h : ∀ msg sender, e.action = .sip msg sender → ¬ AcceptsAgain w.gateway e.env msg.val) :
    w.LosesNoPort e := by
  refine fun msg sender hact _ _ _ => ⟨?_, h msg sender hact⟩
  refine RtpServer.leaves_eq_nil hnet fun worker hworker p hp => ?_
  obtain ⟨x, hx, hxp⟩ := RtpServer.exists_inRange (ranges_eq hw) hworker hp
  exact RtpServer.init_positive hstart _ _ _ x hx p hxp

/-- One call, just set up. -/
theorem no_port_leak_invite :
    ∃ w, (start exampleConfig 1).step
        ⟨{ start := 0 }, .sip (exampleInvite (bytes "b")) {}⟩ = some w ∧ w.PortsMatch := by
  obtain ⟨w, hw⟩ := Option.isSome_iff_exists.mp (show ((start exampleConfig 1).step
    ⟨{ start := 0 }, .sip (exampleInvite (bytes "b")) {}⟩).isSome = true by decide +kernel)
  have hquiet : LosesNoPort (start exampleConfig 1)
      ⟨{ start := 0 }, .sip (exampleInvite (bytes "b")) {}⟩ := by
    intro msg sender hact _ _ _
    cases hact
    refine ⟨by decide +kernel, ?_⟩
    rintro ⟨⟨s, hs⟩, -⟩
    simp [start, CallRegistry.getCall] at hs
  exact ⟨w, hw, no_port_leak
    (Machine.Reach.step (Machine.Reach.init rfl) (Nat.zero_le _) hquiet hw)⟩

/-- A second INVITE in a call takes a second port; after the BYE the first is still open. -/
theorem port_leaks :
    ∃ w : World, (machine exampleConfig 1).Reach (fun _ e => e.env.NetOk) w ∧
      w.gateway.registry.count = 0 ∧ w.gateway.rtpServer.IsOpen 20000 ∧ ¬ w.PortsMatch := by
  set w := exampleRun [⟨{ start := 0 }, .sip (exampleInvite (bytes "b1")) {}⟩,
    ⟨{ start := 1 }, .sip (exampleInvite (bytes "b2")) {}⟩,
    ⟨{ start := 2 }, .sip (exampleRequest (bytes "BYE") (bytes "b3") (bytes "call") []) {}⟩] with hw
  have hnet : ∀ start : Nat, ({ start := start } : Env).NetOk :=
    fun _ _ => ⟨show (0 : Int) ≤ 3 by decide, rfl, rfl⟩
  have hcount : w.gateway.registry.count = 0 := by decide +kernel
  have hopen : w.gateway.rtpServer.IsOpen 20000 := by decide +kernel
  refine ⟨w, exampleRun_reach ?_ (by decide +kernel), hcount, hopen, fun hmatch => ?_⟩
  · intro e he _
    simp only [List.mem_cons, List.not_mem_nil, or_false] at he
    rcases he with rfl | rfl | rfl <;> exact hnet _
  · obtain ⟨c, s, hcall, -⟩ := (hmatch 20000).mp hopen
    have hempty := Std.ExtTreeMap.eq_empty_iff_size_eq_zero.mpr hcount
    rw [CallRegistry.getCall, hempty] at hcall
    simp at hcall

/-! ## Rejected INVITEs -/

/-- Calls, port tables and open ports are the same. -/
structure Unchanged (gw gw' : Gateway) : Prop where
  calls : gw'.registry.calls = gw.registry.calls
  portMap : gw'.registry.portMap = gw.registry.portMap
  callToPorts : gw'.registry.callToPorts = gw.registry.callToPorts
  ports : ∀ p, gw'.rtpServer.IsOpen p ↔ gw.rtpServer.IsOpen p

theorem unchanged_iff (gw gw' : Gateway) : Unchanged gw gw' ↔ gw'.registry = gw.registry ∧
    ∀ p, gw'.rtpServer.IsOpen p ↔ gw.rtpServer.IsOpen p := by
  constructor
  · rintro ⟨hcalls, hmap, hports, hopen⟩
    refine ⟨?_, hopen⟩
    cases hr : gw'.registry
    cases hr' : gw.registry
    simp_all
  · rintro ⟨hreg, hopen⟩
    exact ⟨congrArg _ hreg, congrArg _ hreg, congrArg _ hreg, hopen⟩

/-- What an INVITE that is rejected in its own step leaves. -/
theorem InviteEffect.unchanged_iff {gw gw' : Gateway} {env : Env} {msg res : SipMessage}
    (hsound : gw.rtpServer.Sound) (heff : InviteEffect gw env msg gw' res)
    (hcode : 300 ≤ res.statusCode) :
    Unchanged gw gw' ↔ gw.registry.getCall msg.getCallId = none ∧
      (gw.isFull = true ∨ gw.rtpServer.leaves env.net = []) := by
  rw [World.unchanged_iff]
  cases heff with
  | busy hnone hfull => simp [hnone, hfull]
  | refusedNew _ _ _ hnone hroom hsame hop =>
    simp only [hsame, hop, hnone, hroom, true_and, false_or, Bool.false_eq_true]
    constructor
    · intro hall
      refine List.eq_nil_iff_forall_not_mem.mpr ?_
      intro p hp
      exact hsound.leaves_fresh hp ((hall p).mp (Or.inr hp))
    · intro hnil p
      simp [hnil]
  | refusedOld _ _ _ session hold hcalls _ =>
    constructor
    · intro hall
      have hgone := hcalls msg.getCallId
      rw [hall.1, hold, if_pos rfl] at hgone
      cases hgone
    · rintro ⟨hnone, -⟩
      rw [hnone] at hold
      cases hold
  | accepted => simp [okResponse] at hcode

/--
**Which rejected INVITEs change nothing**: retransmissions, and those for a call that is not
registered, if the gateway is full or the search for a port leaves none open besides the one it
finds.
-/
theorem rejected_invite_unchanged_iff {config : Config} {hardwareConcurrency : Nat} {w : World}
    (hw : (machine config hardwareConcurrency).Reachable w) {env : Env} {msg : SipMessage}
    {sender : SockAddr} {r : Gateway × List Sent} (hreq : msg.isRequest = true)
    (hinv : msg.method = .invite) (hr : w.gateway.handleSipMessage env msg sender = .ok r)
    (hrej : ∃ out ∈ r.2, 300 ≤ out.1.statusCode) :
    Unchanged w.gateway r.1 ↔ w.gateway.transactions[msg.txKey]? ≠ none ∨
      (w.gateway.registry.getCall msg.getCallId = none ∧
        (w.gateway.isFull = true ∨ w.gateway.rtpServer.leaves env.net = [])) := by
  have h := (callInv hw).ports
  obtain ⟨out, hout, hcode⟩ := hrej
  cases handleSipMessage_handled hr with
  | ignored => cases hout
  | resent _ _ sent hsent =>
    refine ⟨fun _ => Or.inl fun hnone => ?_, fun _ => ⟨rfl, rfl, rfl, fun _ => Iff.rfl⟩⟩
    unfold retransmission at hsent
    rw [hnone] at hsent
    cases hsent
  | acked _ _ hack => rw [hinv] at hack; cases hack
  | response _ hres => rw [hreq] at hres; cases hres
  | executed hid _ _ hnew rep hrep =>
    rw [execute, if_pos hinv] at hrep
    obtain ⟨-, res, hsent, heff⟩ := h.invite hrep
    have hrejected : 300 ≤ res.statusCode := by
      -- the 100 does not reject
      have htrying : (trying env msg).statusCode = 100 := createResponse_statusCode _ _ _ _
      rcases hsent with hsent | hsent <;> rw [hsent] at hout <;>
        simp only [List.map_cons, List.map_nil, List.mem_cons, List.not_mem_nil, or_false] at hout
      · rwa [hout] at hcode
      · rcases hout with rfl | rfl
        · rw [htrying] at hcode
          omega
        · exact hcode
    have heffect := InviteEffect.unchanged_iff h.sound heff hrejected
    rw [World.unchanged_iff] at heffect ⊢
    rw [hnew]
    simpa using heffect

/-- An INVITE without an offer, for a call nobody has: the 488 leaves everything as it was. -/
theorem rejected_invite_unchanged_iff_new :
    ∃ r : Gateway × List Sent, (start exampleConfig 1).gateway.handleSipMessage { start := 0 }
        (exampleRequest (bytes "INVITE") (bytes "b") (bytes "call") []).val {} = .ok r ∧
      r.2.map (·.1.statusCode) = [100, 488] ∧ Unchanged (start exampleConfig 1).gateway r.1 := by
  obtain ⟨r, hr, hp⟩ := exists_handled (show ((start exampleConfig 1).gateway.handleSipMessage
      { start := 0 } (exampleRequest (bytes "INVITE") (bytes "b") (bytes "call") []).val {}
      ).toOption.any (fun r => (∃ out ∈ r.2, 300 ≤ out.1.statusCode) ∧
        r.2.map (·.1.statusCode) = [100, 488]) = true by decide +kernel)
  obtain ⟨hrej, hcodes⟩ := of_decide_eq_true hp
  have hiff := rejected_invite_unchanged_iff (Machine.Reachable.init rfl) (by decide +kernel)
    (by decide +kernel) hr hrej
  have hnew : (start exampleConfig 1).gateway.rtpServer.leaves ({ start := 0 } : Env).net = [] := by
    decide +kernel
  exact ⟨r, hr, hcodes, hiff.mpr (Or.inr ⟨by decide +kernel, Or.inr hnew⟩)⟩

/-- An INVITE without an offer inside a call is answered 488 and ends the call. -/
theorem rejected_invite_ends_call :
    ∃ (w : World) (r : Gateway × List Sent), (machine exampleConfig 1).Reachable w ∧
      w.gateway.registry.count = 1 ∧
      w.gateway.handleSipMessage { start := 1 }
        (exampleRequest (bytes "INVITE") (bytes "b2") (bytes "call") []).val {} = .ok r ∧
      r.2.map (·.1.statusCode) = [100, 488] ∧ ¬ Unchanged w.gateway r.1 := by
  set w := exampleRun [⟨{ start := 0 }, .sip (exampleInvite (bytes "b1")) {}⟩] with hw
  have hcount : w.gateway.registry.count = 1 := by decide +kernel
  obtain ⟨r, hr, hafter⟩ := exists_handled (show (w.gateway.handleSipMessage { start := 1 }
      (exampleRequest (bytes "INVITE") (bytes "b2") (bytes "call") []).val {}).toOption.any
      (fun r => r.2.map (·.1.statusCode) = [100, 488] ∧ r.1.registry.count = 0) = true by
    decide +kernel)
  obtain ⟨hcodes, hnone⟩ := of_decide_eq_true hafter
  refine ⟨w, r, exampleRun_reachable (by decide +kernel), hcount, hr, hcodes, fun hsame => ?_⟩
  rw [CallRegistry.count, hsame.calls] at hnone
  rw [CallRegistry.count] at hcount
  omega

end World

end SipGateway
