import SipGateway.Call.Registry

/-!
# Who will give a port back

The port tables beside the port pool, while calls are being taken apart. A session that is out
of the registry still has its port (`loose`), and a call that is about to be removed may have
routes to ports that are closed already (`going`).

Each operation of the registry and of the pool has one lemma: under which condition it keeps
the ledger.
-/

namespace SipGateway

open Infra

namespace CallSession

/-- The port `terminate` would release. -/
def ports (session : CallSession) : List Int :=
  if 0 < session.localRtpPort then [session.localRtpPort] else []

theorem mem_ports {session : CallSession} {p : Int} :
    p ∈ session.ports ↔ 0 < session.localRtpPort ∧ p = session.localRtpPort := by
  unfold ports
  split
  · next h => simp [h]
  · next h => simp [h]

theorem nodup_ports (session : CallSession) : session.ports.Nodup := by
  unfold ports
  split <;> simp

end CallSession

/--
The tables and the pool agree, but for the routes of the calls in `going`; `loose` are the ports
of the sessions that are not registered any more.
-/
structure Ledger (reg : CallRegistry) (rtp : RtpServer) (loose : List Int) (going : Bytes → Prop) :
    Prop where
  sound : rtp.Sound
  inverse : Inverse reg.portMap reg.callToPorts
  routed : ∀ (p : Int) (c : Bytes), reg.portMap[p]? = some c →
    going c ∨ (∃ s, reg.getCall c = some s) ∧ rtp.IsOpen p
  own : ∀ c s, reg.getCall c = some s → ∀ p ∈ s.ports,
    reg.portMap[p]? = some c ∧ rtp.IsOpen p
  held : ∀ p ∈ loose, reg.portMap[p]? = none ∧ rtp.IsOpen p
  distinct : loose.Nodup

namespace Ledger

variable {reg : CallRegistry} {rtp : RtpServer} {loose : List Int} {going : Bytes → Prop}

theorem start {rtp : RtpServer} (hs : rtp.Sound) (going : Bytes → Prop) :
    Ledger {} rtp [] going where
  sound := hs
  inverse := Inverse.empty
  routed p c h := by simp at h
  own c s h := by simp [CallRegistry.getCall] at h
  held p h := by cases h
  distinct := List.nodup_nil

/-- More calls may be going. -/
theorem mono (h : Ledger reg rtp loose going) {going' : Bytes → Prop}
    (hgoing : ∀ c, going c → going' c) : Ledger reg rtp loose going' :=
  { h with routed := fun p c hp => (h.routed p c hp).imp (hgoing c) id }

/-- A session that is forgotten with its port open does no harm to the others. -/
theorem forget (h : Ledger reg rtp loose going) {loose' : List Int} (hsub : ∀ p ∈ loose', p ∈ loose)
    (hnodup : loose'.Nodup) : Ledger reg rtp loose' going :=
  { h with
    held := fun p hp => h.held p (hsub p hp)
    distinct := hnodup }

/-- An open port without a route becomes that of a session outside of the registry. -/
theorem loosen (h : Ledger reg rtp loose going) {p : Int} (hroute : reg.portMap[p]? = none)
    (hopen : rtp.IsOpen p) (hfresh : p ∉ loose) : Ledger reg rtp (p :: loose) going :=
  { h with
    held := by
      intro q hq
      rcases List.mem_cons.mp hq with rfl | hq
      · exact ⟨hroute, hopen⟩
      · exact h.held q hq
    distinct := List.nodup_cons.mpr ⟨hfresh, h.distinct⟩ }

/-- A port that nobody is left to give back can be released. -/
theorem releasePort (h : Ledger reg rtp loose going) {p : Int}
    (hroute : ∀ c, reg.portMap[p]? = some c → going c ∧ ∀ s, reg.getCall c = some s → p ∉ s.ports)
    (hfresh : p ∉ loose) : Ledger reg (rtp.releasePort p) loose going where
  sound := h.sound.releasePort p
  inverse := h.inverse
  routed q c hq := by
    rw [RtpServer.isOpen_releasePort h.sound]
    by_cases he : q = p
    · exact Or.inl (hroute c (he ▸ hq)).1
    · exact (h.routed q c hq).imp_right fun hr => ⟨hr.1, he, hr.2⟩
  own c s hs q hq := by
    obtain ⟨hown, hopen⟩ := h.own c s hs q hq
    rw [RtpServer.isOpen_releasePort h.sound]
    refine ⟨hown, ?_, hopen⟩
    rintro rfl
    exact (hroute c hown).2 s hs hq
  held q hq := by
    obtain ⟨hnone, hopen⟩ := h.held q hq
    rw [RtpServer.isOpen_releasePort h.sound]
    exact ⟨hnone, fun he => hfresh (he ▸ hq), hopen⟩
  distinct := h.distinct

/-- The destructor of a session that is not registered any more. -/
theorem terminate {s : CallSession} (h : Ledger reg rtp (s.ports ++ loose) going) :
    Ledger reg (s.terminate rtp).2 loose going := by
  obtain ⟨-, hnodup, hdisjoint⟩ := List.nodup_append.mp h.distinct
  have hrest := h.forget (fun p hp => List.mem_append_right _ hp) hnodup
  unfold CallSession.terminate
  dsimp only
  split
  · next hpos =>
    have hmem : s.localRtpPort ∈ s.ports := CallSession.mem_ports.mpr ⟨hpos, rfl⟩
    refine hrest.releasePort ?_ fun hp => hdisjoint _ hmem _ hp rfl
    intro c hc
    rw [(h.held _ (List.mem_append_left _ hmem)).1] at hc
    cases hc
  · exact hrest

/-- **`removeCall`** leaves the session of the call outside, with its port. -/
theorem removeCall (h : Ledger reg rtp loose going) (c : Bytes) :
    Ledger (reg.removeCall c) rtp ((reg.getCall c).elim [] CallSession.ports ++ loose)
      fun d => going d ∧ d ≠ c := by
  have hmap : ∀ p : Int, (reg.removeCall c).portMap[p]? =
      if reg.portMap[p]? = some c then none else reg.portMap[p]? :=
    fun p => getElem?_dropOwner h.inverse c p
  have hports : ∀ p ∈ (reg.getCall c).elim [] CallSession.ports,
      reg.portMap[p]? = some c ∧ rtp.IsOpen p := by
    intro p hp
    cases hs : reg.getCall c with
    | none => rw [hs] at hp; cases hp
    | some s => rw [hs] at hp; exact h.own c s hs p hp
  constructor
  case sound => exact h.sound
  case inverse => exact h.inverse.dropOwner c
  case routed =>
    intro p d hp
    rw [hmap] at hp
    split at hp
    · cases hp
    · next hne =>
      have hdc : d ≠ c := fun he => hne (he ▸ hp)
      rw [CallRegistry.getCall_removeCall, if_neg hdc]
      exact (h.routed p d hp).imp_left fun hgoing => ⟨hgoing, hdc⟩
  case own =>
    intro d s hs p hp
    rw [CallRegistry.getCall_removeCall] at hs
    split at hs
    · cases hs
    · next hdc =>
      obtain ⟨hown, hopen⟩ := h.own d s hs p hp
      rw [hmap, hown, if_neg fun he => hdc (Option.some.inj he)]
      exact ⟨rfl, hopen⟩
  case held =>
    intro p hp
    rw [hmap]
    rcases List.mem_append.mp hp with hp | hp
    · rw [if_pos (hports p hp).1]
      exact ⟨rfl, (hports p hp).2⟩
    · obtain ⟨hnone, hopen⟩ := h.held p hp
      rw [hnone]
      exact ⟨ite_self _, hopen⟩
  case distinct =>
    refine List.nodup_append.mpr ⟨?_, h.distinct, ?_⟩
    · cases reg.getCall c with
      | none => exact List.nodup_nil
      | some s => exact s.nodup_ports
    · rintro p hp q hq rfl
      have := (hports p hp).1
      rw [(h.held p hq).1] at this
      cases this

/-- **`registerRtpPort`**, for a call that is registered or about to be removed. -/
theorem registerRtpPort (h : Ledger reg rtp loose going) {p : Int} {c : Bytes}
    (hroute : reg.portMap[p]? = none) (hopen : rtp.IsOpen p) (hfresh : p ∉ loose)
    (hcall : going c ∨ ∃ s, reg.getCall c = some s) :
    Ledger (reg.registerRtpPort p c) rtp loose going where
  sound := h.sound
  inverse := h.inverse.assign hroute c
  routed q d hq := by
    rw [CallRegistry.portMap_registerRtpPort] at hq
    rw [CallRegistry.getCall_registerRtpPort]
    split at hq
    · next he =>
      cases hq
      exact hcall.imp_right fun hs => ⟨hs, he ▸ hopen⟩
    · exact h.routed q d hq
  own d s hs q hq := by
    rw [CallRegistry.getCall_registerRtpPort] at hs
    obtain ⟨hown, hq⟩ := h.own d s hs q hq
    have hne : q ≠ p := by
      rintro rfl
      rw [hroute] at hown
      cases hown
    rw [CallRegistry.portMap_registerRtpPort, if_neg hne]
    exact ⟨hown, hq⟩
  held q hq := by
    have hne : q ≠ p := fun he => hfresh (he ▸ hq)
    rw [CallRegistry.portMap_registerRtpPort, if_neg hne]
    exact h.held q hq
  distinct := h.distinct

/-- **`addCall`**, with a session that has no port yet. -/
theorem addCall (h : Ledger reg rtp loose going) (c : Bytes) {s : CallSession}
    (hs : s.ports = []) : Ledger (reg.addCall c s).1 rtp loose going := by
  refine { h with inverse := ?_, routed := ?_, own := ?_, held := ?_ }
  · rw [CallRegistry.addCall_portMap, CallRegistry.addCall_callToPorts]
    exact h.inverse
  · intro p d hp
    rw [CallRegistry.addCall_portMap] at hp
    refine (h.routed p d hp).imp_right fun hr => ⟨?_, hr.2⟩
    rw [CallRegistry.getCall_addCall]
    split
    · exact ⟨s, rfl⟩
    · exact hr.1
  · intro d t ht p hp
    rw [CallRegistry.addCall_portMap]
    rw [CallRegistry.getCall_addCall] at ht
    split at ht
    · cases ht
      rw [hs] at hp
      cases hp
    · exact h.own d t ht p hp
  · rw [CallRegistry.addCall_portMap]
    exact h.held

/-- A change to a registered session, whose port is open and routed to the call. -/
theorem setSession (h : Ledger reg rtp loose going) {c : Bytes} {s : CallSession}
    (hown : ∀ p ∈ s.ports, reg.portMap[p]? = some c ∧ rtp.IsOpen p) :
    Ledger (reg.setSession c s) rtp loose going := by
  refine { h with inverse := ?_, routed := ?_, own := ?_, held := ?_ }
  · rw [CallRegistry.setSession_portMap, CallRegistry.setSession_callToPorts]
    exact h.inverse
  · intro p d hp
    rw [CallRegistry.setSession_portMap] at hp
    refine (h.routed p d hp).imp_right fun hr => ⟨?_, hr.2⟩
    obtain ⟨t, ht⟩ := hr.1
    rw [CallRegistry.getCall_setSession]
    split
    · next he => exact ⟨s, by rw [← he, ht]; rfl⟩
    · exact ⟨t, ht⟩
  · intro d t ht p hp
    rw [CallRegistry.setSession_portMap]
    rw [CallRegistry.getCall_setSession] at ht
    split at ht
    · next he =>
      obtain ⟨_, -, rfl⟩ := Option.map_eq_some_iff.mp ht
      exact he ▸ hown p hp
    · exact h.own d t ht p hp
  · rw [CallRegistry.setSession_portMap]
    exact h.held

/-- **`allocatePort`** opens ports that were closed. -/
theorem allocatePort (h : Ledger reg rtp loose going) (net : Int → SocketAttempt) :
    Ledger reg (rtp.allocatePort net).1 loose going := by
  have halloc := RtpServer.allocatePort_spec net h.sound
  have hopen : ∀ q, rtp.IsOpen q → (rtp.allocatePort net).1.IsOpen q :=
    fun q hq => (halloc.isOpen q).mpr (Or.inl hq)
  exact
    { h with
      sound := halloc.sound
      routed := fun p c hp => (h.routed p c hp).imp_right fun hr => ⟨hr.1, hopen p hr.2⟩
      own := fun c s hs p hp => (h.own c s hs p hp).imp_right (hopen p)
      held := fun p hp => (h.held p hp).imp_right (hopen p) }

/-- The port it returns is nobody's, as long as no call is going. -/
theorem fresh (h : Ledger reg rtp loose fun _ => False) {net : Int → SocketAttempt} {p : Int}
    (hfinds : rtp.finds net = some p) :
    reg.portMap[p]? = none ∧ (rtp.allocatePort net).1.IsOpen p ∧ p ∉ loose := by
  have hclosed := (h.sound.finds_some hfinds).2.1
  refine ⟨?_, ((RtpServer.allocatePort_spec net h.sound).isOpen p).mpr (Or.inr (Or.inr hfinds)), ?_⟩
  · by_contra hne
    obtain ⟨c, hc⟩ := Option.ne_none_iff_exists'.mp hne
    rcases h.routed p c hc with hgoing | hr
    · exact hgoing
    · exact hclosed hr.2
  · exact fun hp => hclosed (h.held p hp).2

end Ledger

end SipGateway
