import SipGateway.Properties.Transactions

/-!
# Ports, calls and the tables between them

`PortInv` ties the session table, the two port tables of the registry and the workers' socket
tables together. `InviteEffect` says what an INVITE does to them, whatever way it ends, and
`dropCall` is the one way a call goes.

What runs keep follows in `Properties.Calls`.
-/

namespace SipGateway

open Infra

namespace Gateway

variable {gw gw' : Gateway} {env : Env} {msg : SipMessage}

/-- Every registered call has a port of its own, and every port of a call is open. -/
structure PortInv (gw : Gateway) : Prop where
  sound : gw.rtpServer.Sound
  tables : gw.registry.Consistent
  own : ∀ c s, gw.registry.getCall c = some s →
    0 < s.localRtpPort ∧ gw.registry.portMap[s.localRtpPort]? = some c
  isOpen : ∀ (p : Int) (c : Bytes), gw.registry.portMap[p]? = some c → gw.rtpServer.IsOpen p

/-- The invariant looks at the registry and the pool only. -/
theorem PortInv.congr (h : gw.PortInv) (hreg : gw'.registry = gw.registry)
    (hrtp : gw'.rtpServer = gw.rtpServer) : gw'.PortInv where
  sound := hrtp ▸ h.sound
  tables := hreg ▸ h.tables
  own := by rw [hreg]; exact h.own
  isOpen := by rw [hreg, hrtp]; exact h.isOpen

/-- A pool with more open ports. -/
theorem PortInv.grow (h : gw.PortInv) (hreg : gw'.registry = gw.registry)
    (hsound : gw'.rtpServer.Sound) (hopen : ∀ p, gw.rtpServer.IsOpen p → gw'.rtpServer.IsOpen p) :
    gw'.PortInv where
  sound := hsound
  tables := hreg ▸ h.tables
  own := by rw [hreg]; exact h.own
  isOpen := by rw [hreg]; exact fun p c hp => hopen p (h.isOpen p c hp)

/-- A call is taken out, and at most its own ports are closed. -/
theorem PortInv.removeCall (h : gw.PortInv) {c : Bytes}
    (hreg : gw'.registry = gw.registry.removeCall c) (hsound : gw'.rtpServer.Sound)
    (hopen : ∀ p, gw.rtpServer.IsOpen p → gw.registry.portMap[p]? ≠ some c →
      gw'.rtpServer.IsOpen p) : gw'.PortInv where
  sound := hsound
  tables := hreg ▸ h.tables.removeCall c
  own c' s hs := by
    rw [hreg, CallRegistry.getCall_removeCall] at hs
    split at hs
    · cases hs
    · next hne =>
      obtain ⟨hpos, hp⟩ := h.own c' s hs
      refine ⟨hpos, ?_⟩
      rw [hreg, CallRegistry.portMap_removeCall h.tables, hp, if_neg]
      exact fun he => hne (Option.some.inj he)
  isOpen p c' hp := by
    rw [hreg, CallRegistry.portMap_removeCall h.tables] at hp
    split at hp
    · cases hp
    · next hne => exact hopen p (h.isOpen p c' hp) hne

/-! ## Dropping a call -/

theorem dropCall_rtpServer_some {c : Bytes} {s : CallSession}
    (hs : gw.registry.getCall c = some s) :
    (gw.dropCall c).rtpServer = (s.terminate gw.rtpServer).2 := by
  unfold dropCall
  rw [hs]

theorem dropCall_rtpServer_none {c : Bytes} (hs : gw.registry.getCall c = none) :
    (gw.dropCall c).rtpServer = gw.rtpServer := by
  unfold dropCall
  rw [hs]

/-- The pool after a registered call was dropped: its port is closed, and no other. -/
theorem isOpen_dropCall (hsound : gw.rtpServer.Sound) {c : Bytes} {s : CallSession}
    (hs : gw.registry.getCall c = some s) (hpos : 0 < s.localRtpPort) (p : Int) :
    (gw.dropCall c).rtpServer.IsOpen p ↔ p ≠ s.localRtpPort ∧ gw.rtpServer.IsOpen p := by
  rw [dropCall_rtpServer_some hs, CallSession.terminate_of_port hpos]
  exact RtpServer.isOpen_releasePort hsound _ _

theorem sound_dropCall (hsound : gw.rtpServer.Sound) (c : Bytes) :
    (gw.dropCall c).rtpServer.Sound := by
  cases hs : gw.registry.getCall c with
  | none => rw [dropCall_rtpServer_none hs]; exact hsound
  | some s =>
    rw [dropCall_rtpServer_some hs]
    unfold CallSession.terminate
    split
    · exact hsound.releasePort _
    · exact hsound

/-- **Dropping a call keeps the invariant**, whether it was registered or not. -/
theorem PortInv.dropCall (h : gw.PortInv) (c : Bytes) : (gw.dropCall c).PortInv := by
  refine h.removeCall (c := c) rfl (sound_dropCall h.sound c) fun p hp hne => ?_
  cases hs : gw.registry.getCall c with
  | none => rw [dropCall_rtpServer_none hs]; exact hp
  | some s =>
    obtain ⟨hpos, hown⟩ := h.own c s hs
    refine (isOpen_dropCall h.sound hs hpos p).mpr ⟨fun he => hne ?_, hp⟩
    rw [he]
    exact hown

/-- The pool after a call was dropped. -/
theorem PortInv.isOpen_dropCall_iff (h : gw.PortInv) (c : Bytes) (p : Int) :
    (gw.dropCall c).rtpServer.IsOpen p ↔
      gw.rtpServer.IsOpen p ∧ ∀ s, gw.registry.getCall c = some s → p ≠ s.localRtpPort := by
  cases hs : gw.registry.getCall c with
  | none => rw [dropCall_rtpServer_none hs]; simp
  | some s =>
    rw [isOpen_dropCall h.sound hs (h.own c s hs).1]
    simp [and_comm]

/-- A session is written back with the port it had. -/
theorem PortInv.update (h : gw.PortInv) {c : Bytes} {s s' : CallSession}
    (hs : gw.registry.getCall c = some s) (hport : s'.localRtpPort = s.localRtpPort)
    (hreg : gw'.registry = gw.registry.setSession c s') (hrtp : gw'.rtpServer = gw.rtpServer) :
    gw'.PortInv where
  sound := hrtp ▸ h.sound
  tables := hreg ▸ h.tables.setSession c s'
  own c' t ht := by
    rw [hreg, CallRegistry.getCall_setSession] at ht
    rw [hreg, CallRegistry.setSession_portMap]
    split at ht
    · next he =>
      rw [hs] at ht
      cases ht
      rw [hport, he]
      exact h.own c s hs
    · exact h.own c' t ht
  isOpen := by rw [hreg, CallRegistry.setSession_portMap, hrtp]; exact h.isOpen

/-- The branches with one response leave calls and ports alone, or end the call. -/
theorem simpleBranch_calls (h : gw.PortInv) (hreq : msg.isRequest = true) :
    ((gw.simpleBranch msg).2.2.registry = gw.registry ∧
      (gw.simpleBranch msg).2.2.rtpServer = gw.rtpServer) ∨
    ((gw.simpleBranch msg).2.2.registry = (gw.dropCall msg.getCallId).registry ∧
      (gw.simpleBranch msg).2.2.rtpServer = (gw.dropCall msg.getCallId).rtpServer) := by
  unfold simpleBranch
  split
  · next hbye =>
    cases hs : gw.registry.getCall msg.getCallId with
    | none =>
      refine Or.inl ?_
      unfold endCall
      rw [hs]
      exact ⟨rfl, rfl⟩
    | some s =>
      have := endCall_eq_dropCall hreq hbye hs (h.own _ _ hs).1.le
      exact Or.inr ⟨this.2, this.1⟩
  · unfold cancelCall
    split
    · exact Or.inl ⟨rfl, rfl⟩
    · exact Or.inr ⟨rfl, rfl⟩
  all_goals exact Or.inl ⟨rfl, rfl⟩

/-! ## What an INVITE does -/

/-- The ways an INVITE can change calls and ports. -/
inductive InviteEffect (gw : Gateway) (env : Env) (msg : SipMessage) : Gateway → SipMessage → Prop
    where
  /-- a new call, and the gateway is full -/
  | busy (hnew : gw.registry.getCall msg.getCallId = none) (hfull : gw.isFull = true) :
      InviteEffect gw env msg gw (busyHere env msg)
  /-- a new call is refused: the registry is as before -/
  | refusedNew (gw' : Gateway) (res : SipMessage) (hcode : 300 ≤ res.statusCode)
      (hnew : gw.registry.getCall msg.getCallId = none) (hroom : gw.isFull = false)
      (hreg : gw'.registry = gw.registry)
      (hopen : ∀ q, gw'.rtpServer.IsOpen q ↔
        gw.rtpServer.IsOpen q ∨ q ∈ gw.rtpServer.leaves env.net) :
      InviteEffect gw env msg gw' res
  /-- a registered call is refused, and goes -/
  | refusedOld (gw' : Gateway) (res : SipMessage) (hcode : 300 ≤ res.statusCode)
      (session : CallSession) (hold : gw.registry.getCall msg.getCallId = some session)
      (hcalls : ∀ c, gw'.registry.getCall c =
        if c = msg.getCallId then none else gw.registry.getCall c)
      (hopen : ∀ q, gw'.rtpServer.IsOpen q ↔ q ≠ session.localRtpPort ∧
        (gw.rtpServer.IsOpen q ∨ q ∈ gw.rtpServer.leaves env.net)) :
      InviteEffect gw env msg gw' res
  /-- the call gets a new port, whether it had one or not -/
  | accepted (gw' : Gateway) (p : Int) (session session' : CallSession) (sdp : SdpSession)
      (hfinds : gw.rtpServer.finds env.net = some p)
      (hsdp : SdpParser.parse msg.body = .ok (some sdp))
      (hoffer : SdpAnswer.Negotiable sdp gw.config.codecPreference)
      (hstart : session.startPipeline env gw.config p sdp.connectionIp (remotePort sdp)
        (SdpAnswer.generate sdp gw.config.bindIp p gw.config.codecPreference).2.payloadType
          = .ok session')
      (hport : session'.localRtpPort = p)
      (hcalls : ∀ c, gw'.registry.getCall c =
        if c = msg.getCallId then some session' else gw.registry.getCall c)
      (hopen : ∀ q, gw'.rtpServer.IsOpen q ↔
        (gw.rtpServer.IsOpen q ∨ q ∈ gw.rtpServer.leaves env.net) ∨ q = p) :
      InviteEffect gw env msg gw'
        (okResponse gw.config env msg
          (SdpAnswer.generate sdp gw.config.bindIp p gw.config.codecPreference).1)

/-- A port the pool finds belongs to no call. -/
theorem PortInv.portMap_of_finds (h : gw.PortInv) {p : Int}
    (hfinds : gw.rtpServer.finds env.net = some p) : gw.registry.portMap[p]? = none := by
  cases hc : gw.registry.portMap[p]? with
  | none => rfl
  | some c => exact absurd (h.isOpen p c hc) (h.sound.finds_some hfinds).2.1

/-- The registry an INVITE works on, for an old call and for a new one. -/
structure Opened (gw gw₁ : Gateway) (c : Bytes) (session : CallSession) : Prop where
  rtpServer : gw₁.rtpServer = gw.rtpServer
  config : gw₁.config = gw.config
  tables : gw₁.registry.Consistent
  portMap : gw₁.registry.portMap = gw.registry.portMap
  registered : gw₁.registry.getCall c = some session
  others : ∀ c', c' ≠ c → gw₁.registry.getCall c' = gw.registry.getCall c'

theorem PortInv.opened (h : gw.PortInv) {gw₁ : Gateway} {session : CallSession}
    (hopen : gw.openCall env msg = some (gw₁, session)) :
    Opened gw gw₁ msg.getCallId session := by
  rcases openCall_some hopen with ⟨hold, rfl⟩ | ⟨hnew, -, -, rfl⟩
  · exact ⟨rfl, rfl, h.tables, rfl, hold, fun _ _ => rfl⟩
  · refine ⟨rfl, rfl, h.tables.addCall _ _, CallRegistry.addCall_portMap _ _ _, ?_, fun c hc => ?_⟩
    · rw [CallRegistry.getCall_addCall, if_pos ⟨rfl, hnew⟩]
    · rw [CallRegistry.getCall_addCall, if_neg (fun hcc => hc hcc.1)]

/-- An accepted offer. -/
theorem PortInv.accept (h : gw.PortInv) {gw₁ : Gateway} {session session' : CallSession}
    (ho : Opened gw gw₁ msg.getCallId session) {p : Int}
    (hfinds : gw.rtpServer.finds env.net = some p) (hport : session'.localRtpPort = p)
    (hgw' : gw' = { gw₁ with
      rtpServer := (gw.rtpServer.allocatePort env.net).1
      registry := (gw₁.registry.registerRtpPort p msg.getCallId).setSession msg.getCallId
        session' }) :
    gw'.PortInv ∧
    (∀ c, gw'.registry.getCall c =
      if c = msg.getCallId then some session' else gw.registry.getCall c) ∧
    (∀ q, gw'.rtpServer.IsOpen q ↔
      (gw.rtpServer.IsOpen q ∨ q ∈ gw.rtpServer.leaves env.net) ∨ q = p) := by
  have halloc := RtpServer.allocatePort_spec env.net h.sound
  have hreg : gw'.registry = (gw₁.registry.registerRtpPort p msg.getCallId).setSession
      msg.getCallId session' := by rw [hgw']
  have hrtp : gw'.rtpServer = (gw.rtpServer.allocatePort env.net).1 := by rw [hgw']
  have hfree : gw₁.registry.portMap[p]? = none := by
    rw [ho.portMap]
    exact h.portMap_of_finds hfinds
  have hpos := (h.sound.finds_some hfinds).1
  have hcalls : ∀ c, gw'.registry.getCall c =
      if c = msg.getCallId then some session' else gw.registry.getCall c := by
    intro c
    rw [hreg, CallRegistry.getCall_setSession]
    split
    · rw [CallRegistry.getCall_registerRtpPort, ho.registered]
      rfl
    · next hne => rw [CallRegistry.getCall_registerRtpPort, ho.others c hne]
  have hopen : ∀ q, gw'.rtpServer.IsOpen q ↔
      (gw.rtpServer.IsOpen q ∨ q ∈ gw.rtpServer.leaves env.net) ∨ q = p := by
    intro q
    rw [hrtp, halloc.isOpen, hfinds, Option.some.injEq, or_assoc, eq_comm (a := q)]
  have hmap : ∀ q : Int, gw'.registry.portMap[q]? =
      if q = p then some msg.getCallId else gw.registry.portMap[q]? := by
    intro q
    rw [hreg, CallRegistry.setSession_portMap, CallRegistry.portMap_registerRtpPort, ho.portMap]
  refine ⟨⟨hrtp ▸ halloc.sound, ?_, fun c s hs => ?_, fun q c hq => ?_⟩, hcalls, hopen⟩
  · rw [hreg]
    exact (ho.tables.registerRtpPort hfree ho.registered).setSession _ _
  · rw [hcalls] at hs
    split at hs
    · next he =>
      cases hs
      rw [hmap, hport, if_pos rfl, he]
      exact ⟨hpos, rfl⟩
    · obtain ⟨hspos, hown⟩ := h.own c s hs
      refine ⟨hspos, ?_⟩
      rw [hmap, if_neg, hown]
      -- its port was open, and the pool found one that was not
      intro he
      rw [he, h.portMap_of_finds hfinds] at hown
      cases hown
  · rw [hmap] at hq
    rw [hopen]
    split at hq
    · next he => exact Or.inr he
    · exact Or.inl (Or.inl (h.isOpen q c hq))

/-- A registry with at most some ports of the call entered besides. -/
structure Enters (reg reg' : CallRegistry) (c : Bytes) : Prop where
  tables : reg'.Consistent
  calls : ∀ c', reg'.getCall c' = reg.getCall c'
  others : ∀ (q : Int) (c' : Bytes), c' ≠ c →
    (reg'.portMap[q]? = some c' ↔ reg.portMap[q]? = some c')

theorem PortInv.enters_self (h : gw.PortInv) (c : Bytes) : Enters gw.registry gw.registry c :=
  ⟨h.tables, fun _ => rfl, fun _ _ _ => Iff.rfl⟩

/-- The port that the pool finds is entered. -/
theorem PortInv.enters (h : gw.PortInv) {p : Int} (hfinds : gw.rtpServer.finds env.net = some p)
    {c : Bytes} {session : CallSession} (hold : gw.registry.getCall c = some session) :
    Enters gw.registry (gw.registry.registerRtpPort p c) c := by
  have hfree := h.portMap_of_finds hfinds
  refine ⟨h.tables.registerRtpPort hfree hold,
    fun _ => CallRegistry.getCall_registerRtpPort _ _ _ _, ?_⟩
  intro q c' hc
  rw [CallRegistry.portMap_registerRtpPort]
  split
  · next hqp =>
    rw [hqp, hfree]
    simpa using Ne.symm hc
  · rfl

/-- With the call its ports go, whatever was entered before. -/
theorem Enters.portMap_removeCall {reg reg' : CallRegistry} {c : Bytes} (h : Enters reg reg' c)
    (q : Int) (c' : Bytes) :
    (reg'.removeCall c).portMap[q]? = some c' ↔ c' ≠ c ∧ reg.portMap[q]? = some c' := by
  rw [CallRegistry.portMap_removeCall h.tables]
  constructor
  · intro hq
    split at hq
    · cases hq
    · next hne =>
      have hc : c' ≠ c := fun he => hne (he ▸ hq)
      exact ⟨hc, (h.others q c' hc).mp hq⟩
  · rintro ⟨hc, hq⟩
    rw [(h.others q c' hc).mpr hq, if_neg]
    exact fun he => hc (Option.some.inj he)

/-- A refused offer for a call that was registered before. -/
theorem PortInv.refuseOld (h : gw.PortInv) {session : CallSession}
    (hold : gw.registry.getCall msg.getCallId = some session) {rtp : RtpServer}
    {reg : CallRegistry} (hsound : rtp.Sound) (hreg : Enters gw.registry reg msg.getCallId)
    (hopen : ∀ q, rtp.IsOpen q ↔ gw.rtpServer.IsOpen q ∨ q ∈ gw.rtpServer.leaves env.net)
    (hgw' : gw' = { gw with rtpServer := rtp, registry := reg }.dropCall msg.getCallId) :
    gw'.PortInv ∧
    (∀ c, gw'.registry.getCall c =
      if c = msg.getCallId then none else gw.registry.getCall c) ∧
    (∀ q, gw'.rtpServer.IsOpen q ↔ q ≠ session.localRtpPort ∧
      (gw.rtpServer.IsOpen q ∨ q ∈ gw.rtpServer.leaves env.net)) := by
  obtain ⟨hpos, hown⟩ := h.own _ _ hold
  have hreg' : gw'.registry = reg.removeCall msg.getCallId := by rw [hgw', dropCall_registry]
  have hdrop : ∀ q, gw'.rtpServer.IsOpen q ↔ q ≠ session.localRtpPort ∧
      (gw.rtpServer.IsOpen q ∨ q ∈ gw.rtpServer.leaves env.net) := by
    intro q
    rw [hgw', isOpen_dropCall (s := session) hsound ((hreg.calls _).trans hold) hpos, hopen]
  have hcalls : ∀ c, gw'.registry.getCall c =
      if c = msg.getCallId then none else gw.registry.getCall c := by
    intro c
    rw [hreg', CallRegistry.getCall_removeCall, hreg.calls]
  have hmap : ∀ (q : Int) (c : Bytes), gw'.registry.portMap[q]? = some c ↔
      c ≠ msg.getCallId ∧ gw.registry.portMap[q]? = some c := by
    intro q c
    rw [hreg']
    exact hreg.portMap_removeCall q c
  refine ⟨⟨?_, ?_, ?_, ?_⟩, hcalls, hdrop⟩
  · rw [hgw']
    exact sound_dropCall hsound _
  · rw [hreg']
    exact hreg.tables.removeCall _
  · intro c s hs
    rw [hcalls] at hs
    split at hs
    · cases hs
    · next hne =>
      obtain ⟨hspos, hsown⟩ := h.own c s hs
      exact ⟨hspos, (hmap _ _).mpr ⟨hne, hsown⟩⟩
  · intro q c hq
    obtain ⟨hne, hq⟩ := (hmap q c).mp hq
    -- the closed port is entered for the dropped call alone
    refine (hdrop q).mpr ⟨fun he => ?_, Or.inl (h.isOpen q c hq)⟩
    rw [he, hown] at hq
    exact hne (Option.some.inj hq).symm

/-- A refused offer for a call that this INVITE had just added. -/
theorem PortInv.refuseNew (h : gw.PortInv) (hnew : gw.registry.getCall msg.getCallId = none)
    {session : CallSession} (hport : session.localRtpPort = 0) {rtp : RtpServer}
    {reg : CallRegistry} (hsound : rtp.Sound)
    (hreg : reg = (gw.registry.addCall msg.getCallId session).1 ∨
      ∃ p, gw.rtpServer.finds env.net = some p ∧
        reg = (gw.registry.addCall msg.getCallId session).1.registerRtpPort p msg.getCallId)
    (hopen : ∀ q, rtp.IsOpen q ↔ gw.rtpServer.IsOpen q ∨ q ∈ gw.rtpServer.leaves env.net)
    (hgw' : gw' = { gw with rtpServer := rtp, registry := reg }.dropCall msg.getCallId) :
    gw'.PortInv ∧ gw'.registry = gw.registry ∧
    (∀ q, gw'.rtpServer.IsOpen q ↔ gw.rtpServer.IsOpen q ∨ q ∈ gw.rtpServer.leaves env.net) := by
  have hget : reg.getCall msg.getCallId = some session := by
    rcases hreg with rfl | ⟨p, -, rfl⟩
    · rw [CallRegistry.getCall_addCall, if_pos ⟨rfl, hnew⟩]
    · rw [CallRegistry.getCall_registerRtpPort, CallRegistry.getCall_addCall, if_pos ⟨rfl, hnew⟩]
  have hsame : gw'.registry = gw.registry := by
    rw [hgw', dropCall_registry]
    rcases hreg with rfl | ⟨p, hfinds, rfl⟩
    · exact CallRegistry.removeCall_addCall h.tables hnew session
    · exact CallRegistry.removeCall_registerRtpPort_addCall h.tables hnew session
        (h.portMap_of_finds hfinds)
  -- the session has no port yet, so its destructor releases nothing
  have hrtp : gw'.rtpServer = rtp := by
    rw [hgw', dropCall_rtpServer_some hget]
    exact CallSession.terminate_of_no_port hport _
  have hopen' : ∀ q, gw'.rtpServer.IsOpen q ↔
      gw.rtpServer.IsOpen q ∨ q ∈ gw.rtpServer.leaves env.net := by
    rw [hrtp]
    exact hopen
  exact ⟨h.grow hsame (hrtp ▸ hsound) fun q hq => (hopen' q).mpr (Or.inl hq), hsame, hopen'⟩

/-- The pool when the search found nothing, and when what it found was given back. -/
theorem isOpen_refused (env : Env) (hsound : gw.rtpServer.Sound) :
    (gw.rtpServer.finds env.net = none → ∀ q,
      (gw.rtpServer.allocatePort env.net).1.IsOpen q ↔
        gw.rtpServer.IsOpen q ∨ q ∈ gw.rtpServer.leaves env.net) ∧
    (∀ p, gw.rtpServer.finds env.net = some p → ∀ q,
      ((gw.rtpServer.allocatePort env.net).1.releasePort p).IsOpen q ↔
        gw.rtpServer.IsOpen q ∨ q ∈ gw.rtpServer.leaves env.net) := by
  have halloc := RtpServer.allocatePort_spec env.net hsound
  refine ⟨fun hfinds q => ?_, fun p hfinds q => ?_⟩
  · rw [halloc.isOpen, hfinds]
    simp
  · obtain ⟨-, hclosed, hleft⟩ := hsound.finds_some hfinds
    rw [RtpServer.isOpen_releasePort halloc.sound, halloc.isOpen, hfinds, Option.some.injEq]
    constructor
    · rintro ⟨hne, hq | hq | hq⟩
      · exact Or.inl hq
      · exact Or.inr hq
      · exact absurd hq.symm hne
    · rintro (hq | hq)
      · exact ⟨fun he => hclosed (he ▸ hq), Or.inl hq⟩
      · exact ⟨fun he => hleft (he ▸ hq), Or.inr (Or.inl hq)⟩

/-- **An INVITE keeps the invariant and has one of the four effects.** -/
theorem PortInv.invite (h : gw.PortInv) {tx : SipTransaction} {r : Reply}
    (hr : gw.handleInvite env msg tx = .ok r) :
    r.gateway.PortInv ∧ ∃ res, (r.sent = [res] ∨ r.sent = [trying env msg, res]) ∧
      InviteEffect gw env msg r.gateway res := by
  cases handleInvite_invited hr with
  | busy hnew hfull => exact ⟨h, _, Or.inl rfl, InviteEffect.busy hnew hfull⟩
  | answered gw₁ gw₂ session sdp res hopen hsdp hanswer =>
    have ho := h.opened hopen
    have halloc := (RtpServer.allocatePort_spec env.net h.sound).sound
    obtain ⟨hnone, hback⟩ := isOpen_refused env h.sound
    rcases openCall_some hopen with ⟨hold, rfl⟩ | ⟨hnew, hroom, hsession, rfl⟩
    · -- the call was registered
      cases answerOffer_answered h.sound hanswer with
      | noPort hfinds =>
        obtain ⟨hinv, hcalls, hop⟩ := h.refuseOld hold halloc (h.enters_self _)
          (hnone hfinds) rfl
        exact ⟨hinv, _, Or.inr rfl,
          InviteEffect.refusedOld _ _ (by simp) session hold hcalls hop⟩
      | refused p hfinds hoffer =>
        obtain ⟨hinv, hcalls, hop⟩ := h.refuseOld hold (halloc.releasePort p)
          (h.enters hfinds hold) (hback p hfinds) rfl
        exact ⟨hinv, _, Or.inr rfl,
          InviteEffect.refusedOld _ _ (by simp) session hold hcalls hop⟩
      | accepted p hfinds hoffer session' hstart =>
        have hport := (CallSession.startPipeline_fields hstart).1
        obtain ⟨hinv, hcalls, hop⟩ := h.accept ho hfinds hport rfl
        exact ⟨hinv, _, Or.inr rfl,
          InviteEffect.accepted _ p session session' sdp hfinds hsdp hoffer hstart hport hcalls hop⟩
    · -- the call was added by this INVITE, without a port
      have hzero : session.localRtpPort = 0 := by rw [hsession]; rfl
      cases answerOffer_answered (by exact h.sound) hanswer with
      | noPort hfinds =>
        obtain ⟨hinv, hsame, hop⟩ := h.refuseNew hnew hzero halloc (Or.inl rfl) (hnone hfinds) rfl
        exact ⟨hinv, _, Or.inr rfl, InviteEffect.refusedNew _ _ (by simp) hnew hroom hsame hop⟩
      | refused p hfinds hoffer =>
        obtain ⟨hinv, hsame, hop⟩ := h.refuseNew hnew hzero (halloc.releasePort p)
          (Or.inr ⟨p, hfinds, rfl⟩) (hback p hfinds) rfl
        exact ⟨hinv, _, Or.inr rfl, InviteEffect.refusedNew _ _ (by simp) hnew hroom hsame hop⟩
      | accepted p hfinds hoffer session' hstart =>
        have hport := (CallSession.startPipeline_fields hstart).1
        obtain ⟨hinv, hcalls, hop⟩ := h.accept ho hfinds hport rfl
        exact ⟨hinv, _, Or.inr rfl,
          InviteEffect.accepted _ p session session' sdp hfinds hsdp hoffer hstart hport hcalls hop⟩

/-! ## The ranges of the workers -/

theorem terminate_ranges (session : CallSession) (rtp : RtpServer) :
    (session.terminate rtp).2.ranges = rtp.ranges := by
  unfold CallSession.terminate
  dsimp only
  split
  · exact RtpServer.ranges_releasePort _ _
  · rfl

theorem dropCall_ranges (gw : Gateway) (c : Bytes) :
    (gw.dropCall c).rtpServer.ranges = gw.rtpServer.ranges := by
  unfold dropCall
  dsimp only
  split
  · exact terminate_ranges _ _
  · rfl

theorem simpleBranch_ranges (gw : Gateway) (msg : SipMessage) :
    (gw.simpleBranch msg).2.2.rtpServer.ranges = gw.rtpServer.ranges := by
  unfold simpleBranch
  split
  · unfold endCall
    split
    · rfl
    · next session _ =>
      refine (dropCall_ranges _ _).trans ?_
      show (session.onSipMessage msg gw.rtpServer).2.ranges = _
      unfold CallSession.onSipMessage
      split
      · exact terminate_ranges _ _
      · rfl
  · unfold cancelCall
    split
    · rfl
    · exact dropCall_ranges _ _
  all_goals rfl

theorem handleInvite_ranges (hs : gw.rtpServer.Sound) {tx : SipTransaction} {r : Reply}
    (hr : gw.handleInvite env msg tx = .ok r) :
    r.gateway.rtpServer.ranges = gw.rtpServer.ranges := by
  cases handleInvite_invited hr with
  | busy => rfl
  | answered gw₁ gw₂ session sdp res hopen hsdp hanswer =>
    have hsame : gw₁.rtpServer = gw.rtpServer := by
      rcases openCall_some hopen with ⟨-, rfl⟩ | ⟨-, -, -, rfl⟩ <;> rfl
    rw [← hsame] at hs ⊢
    have halloc := (RtpServer.allocatePort_spec env.net hs).ranges
    cases answerOffer_answered hs hanswer with
    | noPort => exact (dropCall_ranges _ _).trans halloc
    | refused p =>
      exact (dropCall_ranges _ _).trans ((RtpServer.ranges_releasePort _ _).trans halloc)
    | accepted => exact halloc

end Gateway

end SipGateway
