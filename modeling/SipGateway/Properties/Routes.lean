import SipGateway.App.Cutting
import SipGateway.App.World

/-!
# Routes while calls are cut off

The port tables under every interleaving of the SIP thread with `cut`.

One step breaks them: `registerRtpPort` for a call that was cut off since the SIP thread looked it
up or added it (`cut_leaves_route`). `KnownCall` is the condition that leaves this step out, and
`no_orphan_routes` what holds then whenever the SIP thread is outside of `handleSipMessage`.
-/

namespace SipGateway

open Infra

namespace Threads

variable {w : Threads} {h : Handling} {p : Int}

/-! ## Every step -/

instance (offer : SdpSession) (preference : List Bytes) :
    Decidable (SdpAnswer.Negotiable offer preference) :=
  decidable_of_iff _ (SdpAnswer.generate_ne_nil_iff offer [] 0 preference)

/-- `registerRtpPort` comes next for a call that is not in `calls_`, with a codec of ours. -/
def registersUnknown (w : Threads) : Event → Bool
  | .turn _ => w.sip.any fun h =>
    match h.place with
    | .register sdp _ => (w.gateway.registry.getCall h.msg.getCallId).isNone &&
      decide (SdpAnswer.Negotiable sdp w.gateway.config.codecPreference)
    | _ => false
  | _ => false

/--
The condition: when `registerRtpPort` is called, the call is in `calls_` (it was not cut off since
the SIP thread looked it up or added it), or the offer has no codec of ours.
-/
def KnownCall (w : Threads) (e : Event) : Prop := w.registersUnknown e = false

instance (w : Threads) (e : Event) : Decidable (w.KnownCall e) :=
  inferInstanceAs (Decidable (_ = _))

theorem KnownCall.register {env : Env} {sdp : SdpSession} (hknown : w.KnownCall (.turn env))
    (hsip : w.sip = some h) (hplace : h.place = .register sdp p) :
    w.gateway.registry.getCall h.msg.getCallId ≠ none ∨
      ¬ SdpAnswer.Negotiable sdp w.gateway.config.codecPreference := by
  unfold KnownCall registersUnknown at hknown
  simp only [hsip, Option.any_some, hplace, Bool.and_eq_false_iff, Option.isNone_eq_false_iff,
    decide_eq_false_iff_not] at hknown
  exact hknown.imp_left Option.isSome_iff_ne_none.mp

/-- `generate`, and `startPipeline` or the 488. -/
theorem Inv.answer (hinv : w.Inv) (hsip : w.sip = some h) {sdp : SdpSession}
    (hplace : h.place = .answer sdp p) {env : Env} {r : Gateway × Handling}
    (hr : h.answer w.gateway env sdp p = some r) : (w.after r.1 r.2).Inv := by
  have hgen := SdpAnswer.generate_ne_nil_iff sdp w.gateway.config.bindIp p
    w.gateway.config.codecPreference
  unfold Handling.answer at hr
  dsimp only at hr
  split at hr
  · next hempty =>
    cases hr
    exact hinv.refuse hsip hplace (fun hn => hgen.mpr hn (List.isEmpty_iff.mp hempty))
      (sameTables_respond _ _ _ _)
  · next hfull =>
    have hoffer := hgen.mp fun he => hfull (List.isEmpty_iff.mpr he)
    simp only [SessionRef.startPipeline, Option.pure_def, Option.bind_eq_bind,
      Option.bind_eq_some_iff, Option.some.injEq] at hr
    obtain ⟨ref, hsession, ⟨gw, ref'⟩, ⟨s, hs, s', hs', hset⟩, rfl⟩ := hr
    have hport : s'.localRtpPort = p := by
      cases hstart : s.startPipeline env w.gateway.config p sdp.connectionIp
          (Gateway.remotePort sdp) (SdpAnswer.generate sdp w.gateway.config.bindIp p
            w.gateway.config.codecPreference).2.payloadType with
      | error e => rw [hstart] at hs'; cases hs'
      | ok t =>
        rw [hstart] at hs'
        cases hs'
        exact (CallSession.startPipeline_fields hstart).1
    have hsame := sameTables_respond gw h.msg (Gateway.okResponse gw.config env h.msg
      (SdpAnswer.generate sdp w.gateway.config.bindIp p
        w.gateway.config.codecPreference).1) (env.now 2)
    cases ref with
    | registered =>
      cases hset
      exact hinv.accept_registered hsip hplace hoffer hsession hport hsame.registry
        hsame.rtpServer
    | detached t =>
      cases hset
      exact hinv.accept_detached hsip hplace hoffer hsession hport hsame.registry
        hsame.rtpServer

/-- `onSipMessage`, on whichever object `session` refers to. -/
theorem Inv.bye (hinv : w.Inv) (hsip : w.sip = some h) {ref : SessionRef}
    (hsession : h.session = some ref) {r : Gateway × SessionRef}
    (hr : ref.onSipMessage w.gateway h.msg = some r) :
    (w.after r.1 { h with session := some r.2, place := .remove }).Inv := by
  unfold SessionRef.onSipMessage at hr
  obtain ⟨s, hs, rfl⟩ := Option.map_eq_some_iff.mp hr
  cases ref with
  | registered => exact hinv.bye_registered hsip hsession hs
  | detached t =>
    cases hs
    exact hinv.bye_detached hsip hsession

/-- **A step of the SIP thread keeps the invariant.** -/
theorem Inv.turn (hinv : w.Inv) (hsip : w.sip = some h) {env : Env}
    (hknown : w.KnownCall (.turn env)) {r : Gateway × Option Handling}
    (hr : h.turn w.gateway env = some r) : Inv { w with gateway := r.1, sip := r.2 } := by
  unfold Handling.turn at hr
  dsimp only at hr
  cases hplace : h.place with
  | lookup =>
    simp only [hplace, Option.some.injEq] at hr
    subst hr
    exact hinv.lookup hsip hplace
  | dispatch =>
    simp only [hplace, Option.some.injEq] at hr
    subst hr
    obtain ⟨hsame, q, hq, hport, hnew⟩ := dispatch_spec h w.gateway env
    rw [hq]
    exact hinv.move hsip (by rw [hplace]; nofun) hsame hport hnew
      fun c hc => ((going_iff hsip hplace).mp hc).2
  | count =>
    simp only [hplace] at hr
    have hsession := (hinv.fits h hsip).new (Or.inl hplace)
    have hstay : ∀ c, ¬ w.going c := fun c hc => ((going_iff hsip hplace).mp hc).2
    have hmove : ∀ {gw : Gateway} {q : Place}, SameTables w.gateway gw → q.hasPort = false →
        (w.after gw (h.goto q)).Inv := fun hsame hport =>
      hinv.move hsip (by rw [hplace]; nofun) hsame hport (fun _ => hsession) hstay
    split at hr
    · cases hr
      exact hmove (sameTables_respond _ _ _ _) rfl
    · cases hr
      exact hmove ⟨rfl, rfl, rfl⟩ rfl
  | add =>
    simp only [hplace, Option.some.injEq] at hr
    subst hr
    obtain ⟨hadded, hnext⟩ := hinv.add hsip hplace (s := (CallSession.create h.msg.getCallId
      (env.system 0)).init h.msg) rfl
    dsimp only
    rw [hadded, if_pos rfl]
    exact hnext
  | offer =>
    simp only [hplace] at hr
    have hstay : ∀ c, ¬ w.going c := fun c hc => ((going_iff hsip hplace).mp hc).2
    have hmove : ∀ {gw : Gateway} {q : Place}, SameTables w.gateway gw → q.hasPort = false →
        (q = .count ∨ q = .add → h.session = none) → (w.after gw (h.goto q)).Inv :=
      fun hsame hport hnew => hinv.move hsip (by rw [hplace]; nofun) hsame hport hnew hstay
    split at hr
    · cases hr
    · cases hr
      exact hmove ((sameTables_respond _ _ _ _).trans (sameTables_respond _ _ _ _)) rfl nofun
    · next sdp _ =>
      cases hr
      exact hmove (sameTables_respond _ _ _ _) rfl nofun
  | allocate sdp =>
    simp only [hplace] at hr
    have halloc := (RtpServer.allocatePort_spec env.net hinv.ledger.sound).result
    split at hr
    · cases hr
      refine hinv.goto hsip (by rw [hplace]; nofun) (sameTables_respond _ _ _ _).registry rfl
        nofun ?_
      rw [(sameTables_respond _ _ _ _).rtpServer]
      refine (hinv.ledger.allocatePort env.net).mono fun c hc => ?_
      exact ((going_iff hsip hplace).mp hc).2.elim
    · next hpos =>
      cases hr
      cases hfinds : w.gateway.rtpServer.finds env.net with
      | none =>
        rw [hfinds] at halloc
        exact absurd (halloc ▸ by decide) hpos
      | some p =>
        rw [hfinds, Option.getD_some] at halloc
        rw [halloc]
        exact hinv.allocate hsip hplace hfinds
  | register sdp p =>
    simp only [hplace, Option.some.injEq] at hr
    subst hr
    exact hinv.register hsip hplace (hknown.register hsip hplace)
  | answer sdp p =>
    simp only [hplace] at hr
    obtain ⟨r', hr', rfl⟩ := Option.map_eq_some_iff.mp hr
    exact hinv.answer hsip hplace hr'
  | bye =>
    simp only [hplace, Option.pure_def, Option.bind_eq_bind, Option.bind_eq_some_iff,
      Option.some.injEq] at hr
    obtain ⟨ref, hsession, r', hr', rfl⟩ := hr
    exact hinv.bye hsip hsession hr'
  | remove =>
    simp only [hplace, Option.some.injEq] at hr
    subst hr
    exact hinv.remove hsip hplace
  | leave =>
    simp only [hplace] at hr
    split at hr
    · next s hsession =>
      cases hr
      exact hinv.leave_detached hsip hplace hsession
    · cases hr
      exact hinv.leave_other hsip hplace

/-- **Every step that meets the condition keeps the invariant.** -/
theorem Inv.step (hinv : w.Inv) {e : Event} (hen : w.canHappen e = true) (hknown : w.KnownCall e)
    {w' : Threads} (hs : w.step e = some w') : w'.Inv := by
  cases e with
  | arrive msg =>
    have hsip : w.sip = none := Option.isNone_iff_eq_none.mp hen
    have hidle : Ledger w.gateway.registry w.gateway.rtpServer
        (w.cli.elim [] CallSession.ports) fun _ => False := by
      have hledger := hinv.ledger
      unfold loose at hledger
      rw [hsip] at hledger
      refine hledger.mono ?_
      rintro c ⟨h, hh, -⟩
      rw [hsip] at hh
      cases hh
    unfold Threads.step at hs
    cases hs
    split
    · exact ⟨hidle.mono fun _ hf => hf.elim, fun h' hh' => by cases hh'⟩
    · refine ⟨hidle.mono fun _ hf => hf.elim, fun h' hh' => ?_⟩
      cases hh'
      exact fits_of_hasPort rfl nofun nofun (fun _ he => by cases he) fun _ hne => absurd rfl hne
  | turn env =>
    unfold Threads.step at hs
    obtain ⟨h, hsip, hs⟩ := Option.bind_eq_some_iff.mp hs
    obtain ⟨r, hr, rfl⟩ := Option.map_eq_some_iff.mp hs
    exact hinv.turn hsip hknown hr
  | cleanup env =>
    have hsip : w.sip = none := Option.isNone_iff_eq_none.mp hen
    have hsame : SameTables w.gateway (w.gateway.cleanupTransactions env) := by
      unfold Gateway.cleanupTransactions
      dsimp only
      split <;> exact ⟨rfl, rfl, rfl⟩
    cases hs
    refine ⟨?_, fun h hh => absurd (hsip.symm.trans hh) nofun⟩
    show Ledger (w.gateway.cleanupTransactions env).registry
      (w.gateway.cleanupTransactions env).rtpServer w.loose _
    rw [hsame.registry, hsame.rtpServer]
    refine hinv.ledger.mono ?_
    rintro c ⟨h, hh, -⟩
    rw [hsip] at hh
    cases hh
  | cut c =>
    have hcli : w.cli = none := by
      unfold canHappen locked at hen
      simpa using hen
    cases hs
    exact hinv.cut hcli c
  | destroy =>
    unfold Threads.step at hs
    obtain ⟨s, hcli, rfl⟩ := Option.map_eq_some_iff.mp hs
    exact hinv.destroy hcli

theorem inv_of_reach {config : Config} {hardwareConcurrency : Nat}
    (hw : (machine config hardwareConcurrency).Reach KnownCall w) : w.Inv :=
  hw.invariant
    (fun w hinit => by
      cases hinit
      exact ⟨Ledger.start (RtpServer.init_sound _ _ _ _) _, fun h hh => by cases hh⟩)
    (fun _ _ _ _ hinv hen hknown hs => hinv.step hen hknown hs)

/-! ## No orphans -/

/-- Every route belongs to a registered call and leads to an open port. -/
structure NoOrphans (gw : Gateway) : Prop where
  mapped : ∀ (p : Int) (c : Bytes), gw.registry.portMap[p]? = some c → c ∈ gw.registry.calls
  listed : ∀ c ∈ gw.registry.callToPorts, c ∈ gw.registry.calls
  isOpen : ∀ p ∈ gw.registry.portMap, gw.rtpServer.IsOpen p

/--
**No orphan routes.**

In every run in which no call is cut off between its lookup and `registerRtpPort`, the port tables
are in order whenever the SIP thread is outside of `handleSipMessage`.
-/
theorem no_orphan_routes {config : Config} {hardwareConcurrency : Nat} {w : Threads}
    (hw : (machine config hardwareConcurrency).Reach KnownCall w) (hidle : w.sip = none) :
    NoOrphans w.gateway := by
  have hledger := (inv_of_reach hw).ledger
  have hrouted : ∀ (p : Int) (c : Bytes), w.gateway.registry.portMap[p]? = some c →
      c ∈ w.gateway.registry.calls ∧ w.gateway.rtpServer.IsOpen p := by
    intro p c hp
    rcases hledger.routed p c hp with ⟨h, hsip, -⟩ | ⟨hcall, hopen⟩
    · rw [hidle] at hsip
      cases hsip
    · exact ⟨(mem_iff_exists_getElem? _ _).mpr hcall, hopen⟩
  refine ⟨fun p c hp => (hrouted p c hp).1, fun c hc => ?_, fun p hp => ?_⟩
  · obtain ⟨ports, hports⟩ := (mem_iff_exists_getElem? _ _).mp hc
    cases ports with
    | nil => exact absurd hports (hledger.inverse.nonempty c)
    | cons p ports =>
      have hp : p ∈ keysOf w.gateway.registry.callToPorts c := by simp [keysOf, hports]
      exact (hrouted p c ((hledger.inverse.listed p c).mp hp)).1
  · obtain ⟨c, hc⟩ := (mem_iff_exists_getElem? _ _).mp hp
    exact (hrouted p c hc).2

/-- An INVITE up to `addCall`. -/
def inviteUpToAdd : List Event :=
  [.arrive (World.exampleInvite (bytes "b")), .turn { start := 0 }, .turn { start := 0 },
    .turn { start := 0 }, .turn { start := 0 }]

/-- What is left of it. -/
def inviteFromOffer : List Event :=
  [.turn { start := 0 }, .turn { start := 0 }, .turn { start := 0 }, .turn { start := 0 },
    .turn { start := 0 }]

/-- Another call is cut off in between. -/
theorem no_orphan_routes_other_call : ∃ w, (machine World.exampleConfig 1).Reach KnownCall w ∧
    (w.sip = none ∧ w.gateway.registry.portMap[(20000 : Int)]? = some (bytes "call")) ∧
    NoOrphans w.gateway := by
  obtain ⟨w, hw, hp⟩ := Machine.exists_reach (M := machine World.exampleConfig 1)
    (p := fun w => w.sip.isNone &&
      w.gateway.registry.portMap[(20000 : Int)]? = some (bytes "call"))
    KnownCall rfl (show ((_ : Machine Threads Event).replay (start World.exampleConfig 1)
      (inviteUpToAdd ++ [.cut (bytes "other")] ++ inviteFromOffer)).any _ = true by decide +kernel)
  rw [Bool.and_eq_true, Option.isNone_iff_eq_none, decide_eq_true_eq] at hp
  exact ⟨w, hw, hp, no_orphan_routes hw hp.1⟩

/-- The call itself is cut off behind `addCall`; its route stays, and leads to a closed port. -/
theorem cut_leaves_route : ∃ w, (machine World.exampleConfig 1).Reachable w ∧ w.sip = none ∧
    w.gateway.registry.portMap[(20000 : Int)]? = some (bytes "call") ∧
    w.gateway.registry.getCall (bytes "call") = none ∧
    ¬ w.gateway.rtpServer.IsOpen 20000 ∧ ¬ NoOrphans w.gateway := by
  obtain ⟨w, hw, hp⟩ := Machine.exists_reach (M := machine World.exampleConfig 1)
    (p := fun w => w.sip.isNone &&
      (w.gateway.registry.portMap[(20000 : Int)]? = some (bytes "call") &&
      ((w.gateway.registry.getCall (bytes "call")).isNone &&
        !decide (w.gateway.rtpServer.IsOpen 20000))))
    (fun _ _ => True) rfl (show ((_ : Machine Threads Event).replay (start World.exampleConfig 1)
      (inviteUpToAdd ++ [.cut (bytes "call")] ++ inviteFromOffer)).any _ = true by decide +kernel)
  simp only [Bool.and_eq_true, Option.isNone_iff_eq_none, decide_eq_true_eq, Bool.not_eq_true',
    decide_eq_false_iff_not] at hp
  obtain ⟨hidle, hroute, hgone, hclosed⟩ := hp
  refine ⟨w, hw, hidle, hroute, hgone, hclosed, fun hno => ?_⟩
  obtain ⟨s, hs⟩ := (mem_iff_exists_getElem? _ _).mp (hno.mapped _ _ hroute)
  exact absurd (hgone.symm.trans hs) nofun

end Threads

end SipGateway
