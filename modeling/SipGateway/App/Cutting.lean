import SipGateway.App.Threads
import SipGateway.Call.Ledger

/-!
# The SIP thread and the command line keep the ledger

`Threads.Inv` is the ledger of the ports together with what is known at the place the SIP thread
has reached. There is one theorem for every step of either thread; all of them keep the
invariant, but `Inv.register` needs the call to be registered still, or to be removed next.
-/

namespace SipGateway

open Infra

/-- The port the last reference to an object gives back. -/
def SessionRef.ports : SessionRef → List Int
  | .registered => []
  | .detached session => session.ports

/-- The places at which the SIP thread has a port of its own. -/
def Place.hasPort : Place → Bool
  | .register _ _ | .answer _ _ => true
  | _ => false

/-- Whether the routes of a call are about to be removed by the SIP thread. -/
def Handling.Going (h : Handling) (preference : List Bytes) (c : Bytes) : Prop :=
  c = h.msg.getCallId ∧
  match h.place with
  | .remove => True
  | .answer sdp _ => ¬ SdpAnswer.Negotiable sdp preference
  | _ => False

namespace Threads

/-- The ports of the sessions that are not registered any more. -/
def loose (w : Threads) : List Int :=
  (w.sip.bind (·.session)).elim [] SessionRef.ports ++ w.cli.elim [] CallSession.ports

def going (w : Threads) (c : Bytes) : Prop :=
  ∃ h, w.sip = some h ∧ h.Going w.gateway.config.codecPreference c

/-- What is known about the variable `localRtpPort`. -/
structure Placed (w : Threads) (h : Handling) (p : Int) : Prop where
  isOpen : w.gateway.rtpServer.IsOpen p
  fresh : p ∉ w.loose
  route : ∀ c, w.gateway.registry.portMap[p]? = some c → c = h.msg.getCallId
  other : ∀ s, w.gateway.registry.getCall h.msg.getCallId = some s → p ∉ s.ports

/-- What is known at the place the SIP thread has reached. -/
structure Fits (w : Threads) (h : Handling) : Prop where
  registered : h.session = some .registered →
    ∃ s, w.gateway.registry.getCall h.msg.getCallId = some s
  detached : ∀ s, h.session = some (.detached s) →
    w.gateway.registry.getCall h.msg.getCallId = none
  unknown : h.session = none → h.place ≠ .lookup →
    w.gateway.registry.getCall h.msg.getCallId = none
  new : h.place = .count ∨ h.place = .add → h.session = none
  register : ∀ sdp p, h.place = .register sdp p →
    w.Placed h p ∧ w.gateway.registry.portMap[p]? = none
  answer : ∀ sdp p, h.place = .answer sdp p → w.Placed h p ∧
    (SdpAnswer.Negotiable sdp w.gateway.config.codecPreference →
      (h.session = some .registered →
        w.gateway.registry.portMap[p]? = some h.msg.getCallId) ∧
      ∀ s, h.session = some (.detached s) → w.gateway.registry.portMap[p]? = none)

/-- The invariant of the two threads. -/
structure Inv (w : Threads) : Prop where
  ledger : Ledger w.gateway.registry w.gateway.rtpServer w.loose w.going
  fits : ∀ h, w.sip = some h → w.Fits h

/-- At a place without a port only the variable `session` counts. -/
theorem fits_of_hasPort {w : Threads} {h : Handling} (hport : h.place.hasPort = false)
    (hnew : h.place = .count ∨ h.place = .add → h.session = none)
    (hregistered : h.session = some .registered →
      ∃ s, w.gateway.registry.getCall h.msg.getCallId = some s)
    (hdetached : ∀ s, h.session = some (.detached s) →
      w.gateway.registry.getCall h.msg.getCallId = none)
    (hunknown : h.session = none → h.place ≠ .lookup →
      w.gateway.registry.getCall h.msg.getCallId = none) : w.Fits h := by
  refine
    { registered := hregistered
      detached := hdetached
      unknown := hunknown
      new := hnew
      register := fun sdp p hplace => ?_
      answer := fun sdp p hplace => ?_ }
  · rw [hplace] at hport
    cases hport
  · rw [hplace] at hport
    cases hport

/-! ## The command line -/

variable {w : Threads} {h : Handling} {p : Int} {c : Bytes}

theorem portMap_removeCall (hinv : w.Inv) (c : Bytes) (p : Int) :
    (w.gateway.registry.removeCall c).portMap[p]? =
      if w.gateway.registry.portMap[p]? = some c then none
      else w.gateway.registry.portMap[p]? :=
  getElem?_dropOwner hinv.ledger.inverse c p

/-- The port of the SIP thread is not that of a registered session. -/
theorem Placed.not_mem_ports (hp : w.Placed h p) (hinv : w.Inv) (c : Bytes) :
    p ∉ (w.gateway.registry.getCall c).elim [] CallSession.ports := by
  cases hs : w.gateway.registry.getCall c with
  | none => exact List.not_mem_nil
  | some s =>
    intro hmem
    have hc : c = h.msg.getCallId := hp.route c (hinv.ledger.own c s hs p hmem).1
    exact hp.other s (hc ▸ hs) hmem

/-- What is known about the port is still known after a `removeCall`. -/
theorem Placed.removeCall (hp : w.Placed h p) (hinv : w.Inv) {w' : Threads} {h' : Handling}
    (hreg : w'.gateway.registry = w.gateway.registry.removeCall c)
    (hrtp : w'.gateway.rtpServer = w.gateway.rtpServer) (hmsg : h'.msg = h.msg)
    (hloose : ∀ q ∈ w'.loose, q ∈ (w.gateway.registry.getCall c).elim [] CallSession.ports ∨
      q ∈ w.loose) : w'.Placed h' p where
  isOpen := hrtp ▸ hp.isOpen
  fresh hmem := (hloose p hmem).elim (hp.not_mem_ports hinv c) hp.fresh
  route d hd := by
    rw [hreg, portMap_removeCall hinv] at hd
    split at hd
    · cases hd
    · rw [hmsg]
      exact hp.route d hd
  other s hs := by
    rw [hreg, hmsg, CallRegistry.getCall_removeCall] at hs
    split at hs
    · cases hs
    · exact hp.other s hs

theorem exists_of_refersTo (hrefers : w.refersTo c = true) :
    ∃ h, w.sip = some h ∧ h.msg.getCallId = c ∧ h.session = some .registered := by
  unfold refersTo at hrefers
  cases hsip : w.sip with
  | none => rw [hsip] at hrefers; cases hrefers
  | some h =>
    rw [hsip, Option.any_some, Bool.and_eq_true, decide_eq_true_eq] at hrefers
    refine ⟨h, rfl, hrefers.1, ?_⟩
    have hmatch := hrefers.2
    split at hmatch
    · assumption
    · cases hmatch

/-- The session that is cut off stays with the SIP thread. -/
theorem Inv.cut_referred (hinv : w.Inv) (hrefers : w.refersTo c = true) : (w.cut c).Inv := by
  have hledger := hinv.ledger.removeCall c
  obtain ⟨h, hsip, hid, hsession⟩ := exists_of_refersTo hrefers
  have hfits := hinv.fits h hsip
  obtain ⟨s, hs⟩ := hfits.registered hsession
  rw [hid] at hs
  have hold : w.loose = w.cli.elim [] CallSession.ports := by
    unfold loose
    rw [hsip, Option.bind_some, hsession]
    rfl
  have hcut : w.cut c =
      { gateway := { w.gateway with registry := w.gateway.registry.removeCall c }
        sip := some { h with session := some (.detached s) }, cli := w.cli } := by
    unfold Threads.cut
    dsimp only
    rw [if_pos hrefers, hsip, hs]
    rfl
  have hplaced : ∀ p, w.Placed h p →
      (w.cut c).Placed { h with session := some (.detached s) } p := by
    intro p hp
    rw [hcut]
    refine hp.removeCall hinv rfl rfl rfl fun q hq => ?_
    rw [hs, hold]
    exact List.mem_append.mp hq
  rw [hs, hold] at hledger
  rw [hcut] at hplaced ⊢
  refine ⟨hledger.mono fun d hd => ?_, fun h' hh' => ?_⟩
  · obtain ⟨⟨h', hh', hgoing⟩, hne⟩ := hd
    rw [hsip] at hh'
    cases hh'
    exact absurd (hgoing.1.trans hid) hne
  · cases hh'
    have hgone : (w.gateway.registry.removeCall c).getCall h.msg.getCallId = none := by
      rw [CallRegistry.getCall_removeCall, if_pos hid]
    refine
      { registered := nofun
        detached := fun _ _ => hgone
        unknown := nofun
        new := fun hplace => absurd (hfits.new hplace) (by rw [hsession]; nofun)
        register := fun sdp p hplace => ?_
        answer := fun sdp p hplace => ?_ }
    · obtain ⟨hp, hroute⟩ := hfits.register sdp p hplace
      refine ⟨hplaced p hp, ?_⟩
      show (w.gateway.registry.removeCall c).portMap[p]? = none
      rw [portMap_removeCall hinv, hroute, ite_self]
    · obtain ⟨hp, -⟩ := hfits.answer sdp p hplace
      refine ⟨hplaced p hp, fun _ => ⟨nofun, fun _ _ => ?_⟩⟩
      show (w.gateway.registry.removeCall c).portMap[p]? = none
      rw [portMap_removeCall hinv]
      split
      · rfl
      · next hne =>
        cases hd : w.gateway.registry.portMap[p]? with
        | none => rfl
        | some d => exact absurd (by rw [hd, hp.route d hd, hid]) hne

/-- The session that is cut off is left to the command line, to be destroyed. -/
theorem Inv.cut_unreferred (hinv : w.Inv) (hcli : w.cli = none) (hrefers : ¬ w.refersTo c = true) :
    (w.cut c).Inv := by
  have hledger := hinv.ledger.removeCall c
  have hold : w.loose = (w.sip.bind (·.session)).elim [] SessionRef.ports := by
    unfold loose
    rw [hcli]
    exact List.append_nil _
  have hcut : w.cut c =
      { gateway := { w.gateway with registry := w.gateway.registry.removeCall c }
        sip := w.sip, cli := w.gateway.registry.getCall c } := if_neg hrefers
  have hsub : ∀ q ∈ (w.cut c).loose,
      q ∈ (w.gateway.registry.getCall c).elim [] CallSession.ports ∨ q ∈ w.loose := by
    intro q hq
    rw [hcut] at hq
    rw [hold]
    exact (List.mem_append.mp hq).symm
  have hnodup : (w.cut c).loose.Nodup := by
    rw [hcut]
    show ((w.sip.bind (·.session)).elim [] SessionRef.ports ++
      (w.gateway.registry.getCall c).elim [] CallSession.ports).Nodup
    rw [List.nodup_append_comm, ← hold]
    exact hledger.distinct
  have hplaced : ∀ h p, w.Placed h p → (w.cut c).Placed h p := by
    intro h p hp
    exact hp.removeCall hinv (by rw [hcut]) (by rw [hcut]) rfl hsub
  rw [hcut] at hplaced hsub hnodup ⊢
  refine ⟨(hledger.mono fun d hd => hd.1).forget
    (fun q hq => List.mem_append.mpr (hsub q hq)) hnodup, fun h hsip => ?_⟩
  have hfits := hinv.fits h hsip
  -- a registered object of the SIP thread is that of another call
  have hother : h.session = some .registered → h.msg.getCallId ≠ c := by
    intro hsession hid
    refine hrefers ?_
    unfold refersTo
    rw [show w.sip = some h from hsip, Option.any_some, hsession, hid]
    simp
  have hgone : w.gateway.registry.getCall h.msg.getCallId = none →
      (w.gateway.registry.removeCall c).getCall h.msg.getCallId = none := by
    intro hnone
    rw [CallRegistry.getCall_removeCall, hnone, ite_self]
  refine
    { registered := fun hsession => ?_
      detached := fun s hs => hgone (hfits.detached s hs)
      unknown := fun hnone hplace => hgone (hfits.unknown hnone hplace)
      new := hfits.new
      register := fun sdp p hplace => ?_
      answer := fun sdp p hplace => ?_ }
  · obtain ⟨s, hs⟩ := hfits.registered hsession
    refine ⟨s, ?_⟩
    show (w.gateway.registry.removeCall c).getCall h.msg.getCallId = some s
    rw [CallRegistry.getCall_removeCall, if_neg (hother hsession), hs]
  · obtain ⟨hp, hroute⟩ := hfits.register sdp p hplace
    refine ⟨hplaced h p hp, ?_⟩
    show (w.gateway.registry.removeCall c).portMap[p]? = none
    rw [portMap_removeCall hinv, hroute, ite_self]
  · obtain ⟨hp, hoffer⟩ := hfits.answer sdp p hplace
    refine ⟨hplaced h p hp, fun hneg => ⟨fun hsession => ?_, fun s hsession => ?_⟩⟩
    · show (w.gateway.registry.removeCall c).portMap[p]? = some h.msg.getCallId
      rw [portMap_removeCall hinv, (hoffer hneg).1 hsession,
        if_neg fun he => hother hsession (Option.some.inj he)]
    · show (w.gateway.registry.removeCall c).portMap[p]? = none
      rw [portMap_removeCall hinv, (hoffer hneg).2 s hsession, ite_self]

theorem Inv.cut (hinv : w.Inv) (hcli : w.cli = none) (c : Bytes) : (w.cut c).Inv := by
  by_cases hrefers : w.refersTo c = true
  · exact hinv.cut_referred hrefers
  · exact hinv.cut_unreferred hcli hrefers

/-- The destructor on the command line. -/
theorem Inv.destroy (hinv : w.Inv) {s : CallSession} (hcli : w.cli = some s) :
    Inv { w with
      gateway := { w.gateway with rtpServer := (s.terminate w.gateway.rtpServer).2 }
      cli := none } := by
  have hloose : w.loose = (w.sip.bind (·.session)).elim [] SessionRef.ports ++ s.ports := by
    unfold loose
    rw [hcli]
    rfl
  have hledger := hinv.ledger
  rw [hloose] at hledger
  have hswap : Ledger w.gateway.registry w.gateway.rtpServer
      (s.ports ++ (w.sip.bind (·.session)).elim [] SessionRef.ports) w.going :=
    hledger.forget (fun p hp => List.mem_append.mpr (List.mem_append.mp hp).symm)
      (List.nodup_append_comm.mp hledger.distinct)
  have hafter : ∀ g : Gateway, loose { gateway := g, sip := w.sip, cli := none } =
      (w.sip.bind (·.session)).elim [] SessionRef.ports := fun _ => List.append_nil _
  refine ⟨by rw [hafter]; exact hswap.terminate, fun h hsip => ?_⟩
  have hfits := hinv.fits h hsip
  have hplaced : ∀ p, w.Placed h p → Placed
      { w with
        gateway := { w.gateway with rtpServer := (s.terminate w.gateway.rtpServer).2 }
        cli := none } h p := by
    intro p hp
    refine { hp with isOpen := ?_, fresh := ?_ }
    · -- the port that is released is another one
      show (s.terminate w.gateway.rtpServer).2.IsOpen p
      unfold CallSession.terminate
      dsimp only
      split
      · next hpos =>
        rw [RtpServer.isOpen_releasePort hledger.sound]
        refine ⟨fun he => hp.fresh ?_, hp.isOpen⟩
        rw [hloose, he]
        exact List.mem_append_right _ (CallSession.mem_ports.mpr ⟨hpos, rfl⟩)
      · exact hp.isOpen
    · rw [hafter]
      intro hmem
      refine hp.fresh ?_
      rw [hloose]
      exact List.mem_append_left _ hmem
  exact
    { hfits with
      register := fun sdp p hplace =>
        ⟨hplaced p (hfits.register sdp p hplace).1, (hfits.register sdp p hplace).2⟩
      answer := fun sdp p hplace =>
        ⟨hplaced p (hfits.answer sdp p hplace).1, (hfits.answer sdp p hplace).2⟩ }

/-! ## The SIP thread -/

/-- What the ledger looks at, and the configuration. -/
structure SameTables (gw gw' : Gateway) : Prop where
  registry : gw'.registry = gw.registry
  rtpServer : gw'.rtpServer = gw.rtpServer
  config : gw'.config = gw.config

theorem sameTables_respond (gw : Gateway) (msg res : SipMessage) (now : Nat) :
    SameTables gw (gw.respond msg res now) := by
  unfold Gateway.respond
  split <;> exact ⟨rfl, rfl, rfl⟩

theorem SameTables.trans {gw₁ gw₂ gw₃ : Gateway} (h₁ : SameTables gw₁ gw₂)
    (h₂ : SameTables gw₂ gw₃) : SameTables gw₁ gw₃ :=
  ⟨h₂.registry.trans h₁.registry, h₂.rtpServer.trans h₁.rtpServer, h₂.config.trans h₁.config⟩

/-- The state after a step of the SIP thread that does not leave the function. -/
def after (w : Threads) (gw : Gateway) (h : Handling) : Threads :=
  { w with gateway := gw, sip := some h }

theorem loose_after (hsip : w.sip = some h) (gw : Gateway) (h' : Handling)
    (hsession : h'.session = h.session) : (w.after gw h').loose = w.loose := by
  unfold loose after
  rw [hsip, Option.bind_some, Option.bind_some, hsession]

theorem going_after {gw : Gateway} {h' : Handling} :
    (w.after gw h').going c ↔ h'.Going gw.config.codecPreference c := by
  unfold going after
  simp

theorem going_of_sip (hsip : w.sip = some h) :
    w.going c ↔ h.Going w.gateway.config.codecPreference c := by
  unfold going
  rw [hsip]
  simp

/-- The place decides whether a call is about to be removed. -/
theorem going_iff (hsip : w.sip = some h) {q : Place} (hplace : h.place = q) :
    w.going c ↔ (h.goto q).Going w.gateway.config.codecPreference c := by
  rw [going_of_sip hsip, ← hplace]
  rfl

/-- A step to a place without a port, that leaves the registry as it is. -/
theorem Inv.goto (hinv : w.Inv) (hsip : w.sip = some h) (hlookup : h.place ≠ .lookup)
    {gw : Gateway} {q : Place} (hreg : gw.registry = w.gateway.registry)
    (hport : q.hasPort = false) (hnew : q = .count ∨ q = .add → h.session = none)
    (hledger : Ledger w.gateway.registry gw.rtpServer w.loose (w.after gw (h.goto q)).going) :
    (w.after gw (h.goto q)).Inv := by
  have hfits := hinv.fits h hsip
  refine ⟨?_, fun h' hh' => ?_⟩
  · rw [loose_after hsip gw (h.goto q) rfl]
    exact hreg ▸ hledger
  · cases hh'
    exact fits_of_hasPort hport hnew (hreg ▸ hfits.registered) (hreg ▸ hfits.detached)
      fun hnone _ => hreg ▸ hfits.unknown hnone hlookup

/-- A step from a place where nothing is going, that touches no table. -/
theorem Inv.move (hinv : w.Inv) (hsip : w.sip = some h) (hlookup : h.place ≠ .lookup)
    {gw : Gateway} {q : Place} (hsame : SameTables w.gateway gw) (hport : q.hasPort = false)
    (hnew : q = .count ∨ q = .add → h.session = none)
    (hstay : ∀ c, ¬ w.going c) : (w.after gw (h.goto q)).Inv := by
  refine hinv.goto hsip hlookup hsame.registry hport hnew ?_
  rw [hsame.rtpServer]
  refine hinv.ledger.mono fun c hc => ?_
  exact absurd hc (hstay c)

theorem Inv.lookup (hinv : w.Inv) (hsip : w.sip = some h) (hplace : h.place = .lookup) :
    (w.after w.gateway
      { h with
        session := (w.gateway.registry.getCall h.msg.getCallId).map fun _ => SessionRef.registered
        place := .dispatch }).Inv := by
  have hloose : ∀ session : Option SessionRef, session = none ∨ session = some .registered →
      ∀ h' : Handling, h'.session = session →
        (w.after w.gateway h').loose = w.cli.elim [] CallSession.ports := by
    rintro session hsession h' rfl
    unfold loose after
    rw [Option.bind_some]
    rcases hsession with he | he <;> rw [he] <;> rfl
  have hsession : ∀ o : Option CallSession,
      (o.map fun _ => SessionRef.registered) = none ∨
      (o.map fun _ => SessionRef.registered) = some .registered := by
    intro o
    cases o <;> simp
  refine ⟨?_, fun h' hh' => ?_⟩
  · rw [hloose _ (hsession _) _ rfl]
    have hdistinct := hinv.ledger.distinct
    refine (hinv.ledger.forget (fun p hp => List.mem_append_right _ hp)
      (List.nodup_append.mp hdistinct).2.1).mono fun c hc => ?_
    exact ((going_iff hsip hplace).mp hc).2.elim
  · cases hh'
    refine fits_of_hasPort rfl nofun (fun hs => ?_)
      (fun s hs => ?_) (fun hs _ => Option.map_eq_none_iff.mp hs)
    · obtain ⟨s, hs, -⟩ := Option.map_eq_some_iff.mp hs
      exact ⟨s, hs⟩
    · obtain ⟨_, _, he⟩ := Option.map_eq_some_iff.mp hs
      cases he

/-- The branches below `transactionsMutex_` touch no table. -/
theorem dispatch_spec (h : Handling) (gw : Gateway) (env : Env) :
    SameTables gw (h.dispatch gw env).1 ∧ ∃ q, (h.dispatch gw env).2 = h.goto q ∧
      q.hasPort = false ∧ (q = .count ∨ q = .add → h.session = none) := by
  unfold Handling.dispatch
  split
  · split
    · exact ⟨⟨rfl, rfl, rfl⟩, _, rfl, rfl, nofun⟩
    · split
      · refine ⟨?_, _, rfl, rfl, nofun⟩
        unfold Gateway.handleAck
        split <;> exact ⟨rfl, rfl, rfl⟩
      · have hstored : SameTables gw { gw with
            transactions := gw.transactions.insert h.msg.txKey
              (SipTransaction.create h.msg (env.now 0)) } := ⟨rfl, rfl, rfl⟩
        unfold Handling.branch
        dsimp only
        split
        · refine ⟨hstored, _, rfl, ?_⟩
          cases h.session with
          | none => exact ⟨rfl, fun _ => rfl⟩
          | some ref => exact ⟨rfl, nofun⟩
        · refine ⟨hstored.trans (sameTables_respond _ _ _ _), _, rfl, ?_⟩
          cases h.session <;> exact ⟨rfl, nofun⟩
        · refine ⟨hstored.trans (sameTables_respond _ _ _ _), _, rfl, ?_⟩
          cases h.session <;> exact ⟨rfl, nofun⟩
        all_goals
          exact ⟨hstored.trans (sameTables_respond _ _ _ _), _, rfl, rfl, nofun⟩
  · refine ⟨?_, _, rfl, rfl, nofun⟩
    unfold Gateway.handleResponse
    split <;> exact ⟨rfl, rfl, rfl⟩

/-- `addCall`: the session is new, so it is added. -/
theorem Inv.add (hinv : w.Inv) (hsip : w.sip = some h) (hplace : h.place = .add) {s : CallSession}
    (hs : s.ports = []) :
    (w.gateway.registry.addCall h.msg.getCallId s).2 = true ∧
    (w.after { w.gateway with registry := (w.gateway.registry.addCall h.msg.getCallId s).1 }
      { h with session := some .registered, place := .offer }).Inv := by
  have hfits := hinv.fits h hsip
  have hsession := hfits.new (Or.inr hplace)
  have hnone := hfits.unknown hsession (by rw [hplace]; nofun)
  refine ⟨?_, ?_, fun h' hh' => ?_⟩
  · unfold CallRegistry.addCall
    rw [if_neg ((not_mem_iff_getElem?_none _ _).mpr hnone)]
  · have hloose : (w.after
        { w.gateway with registry := (w.gateway.registry.addCall h.msg.getCallId s).1 }
        { h with session := some .registered, place := .offer }).loose = w.loose := by
      unfold loose after
      rw [hsip, Option.bind_some, Option.bind_some, hsession]
      rfl
    rw [hloose]
    refine (hinv.ledger.addCall _ hs).mono fun c hc => ?_
    exact ((going_iff hsip hplace).mp hc).2.elim
  · cases hh'
    refine fits_of_hasPort rfl nofun (fun _ => ⟨s, ?_⟩) (fun _ he => by cases he) nofun
    show (w.gateway.registry.addCall h.msg.getCallId s).1.getCall h.msg.getCallId = some s
    rw [CallRegistry.getCall_addCall, if_pos ⟨rfl, hnone⟩]

/-- `allocatePort`, when it finds a port. -/
theorem Inv.allocate (hinv : w.Inv) (hsip : w.sip = some h) {sdp : SdpSession}
    (hplace : h.place = .allocate sdp) {net : Int → SocketAttempt}
    (hfinds : w.gateway.rtpServer.finds net = some p) :
    (w.after { w.gateway with rtpServer := (w.gateway.rtpServer.allocatePort net).1 }
      (h.goto (.register sdp p))).Inv := by
  have hfits := hinv.fits h hsip
  have hstay : ∀ c, ¬ w.going c := by
    intro c hc
    exact ((going_iff hsip hplace).mp hc).2
  obtain ⟨hroute, hopen, hfresh⟩ := (hinv.ledger.mono hstay).fresh hfinds
  have hloose := loose_after hsip
    { w.gateway with rtpServer := (w.gateway.rtpServer.allocatePort net).1 }
    (h.goto (.register sdp p)) rfl
  refine ⟨?_, fun h' hh' => ?_⟩
  · rw [hloose]
    exact (hinv.ledger.allocatePort net).mono fun c hc => absurd hc (hstay c)
  · cases hh'
    refine
      { registered := hfits.registered
        detached := hfits.detached
        unknown := fun hnone _ => hfits.unknown hnone (by rw [hplace]; nofun)
        new := nofun
        register := ?_
        answer := nofun }
    intro sdp' p' he
    obtain ⟨rfl, rfl⟩ := Place.register.inj he
    refine ⟨⟨hopen, by rw [hloose]; exact hfresh, fun c hc => ?_, fun s hs hmem => ?_⟩, hroute⟩
    · exact absurd (hroute.symm.trans hc) nofun
    · exact absurd (hroute.symm.trans (hinv.ledger.own _ s hs _ hmem).1) nofun

/--
`registerRtpPort`.

**The step that the condition is about**: the call is still registered, or the offer has no codec
of ours, so that the SIP thread removes the call again.
-/
theorem Inv.register (hinv : w.Inv) (hsip : w.sip = some h) {sdp : SdpSession}
    (hplace : h.place = .register sdp p)
    (hknown : w.gateway.registry.getCall h.msg.getCallId ≠ none ∨
      ¬ SdpAnswer.Negotiable sdp w.gateway.config.codecPreference) :
    (w.after
      { w.gateway with
        registry := w.gateway.registry.registerRtpPort p h.msg.getCallId }
      (h.goto (.answer sdp p))).Inv := by
  have hfits := hinv.fits h hsip
  obtain ⟨hp, hroute⟩ := hfits.register sdp p hplace
  have hloose := loose_after hsip
    { w.gateway with registry := w.gateway.registry.registerRtpPort p h.msg.getCallId }
    (h.goto (.answer sdp p)) rfl
  have hown : (w.gateway.registry.registerRtpPort p h.msg.getCallId).portMap[p]?
      = some h.msg.getCallId := by
    rw [CallRegistry.portMap_registerRtpPort, if_pos rfl]
  refine ⟨?_, fun h' hh' => ?_⟩
  · rw [hloose]
    have hledger : Ledger w.gateway.registry w.gateway.rtpServer w.loose
        ((h.goto (.answer sdp p)).Going w.gateway.config.codecPreference) := by
      refine hinv.ledger.mono fun c hc => ?_
      exact ((going_iff hsip hplace).mp hc).2.elim
    refine (hledger.registerRtpPort hroute hp.isOpen hp.fresh ?_).mono
      fun c hc => going_after.mpr hc
    refine hknown.symm.imp (fun hneg => ⟨rfl, hneg⟩) Option.ne_none_iff_exists'.mp
  · cases hh'
    refine
      { registered := hfits.registered
        detached := hfits.detached
        unknown := fun hnone _ => hfits.unknown hnone (by rw [hplace]; nofun)
        new := nofun
        register := nofun
        answer := ?_ }
    intro sdp' p' he
    obtain ⟨rfl, rfl⟩ := Place.answer.inj he
    refine ⟨⟨hp.isOpen, by rw [hloose]; exact hp.fresh, fun c hc => ?_, hp.other⟩,
      fun hneg => ⟨fun _ => hown, fun s hs => ?_⟩⟩
    · exact (Option.some.inj (hown.symm.trans hc)).symm
    · -- the object would have been cut off, and so would the call
      exact absurd (hfits.detached s hs) (hknown.resolve_right fun hn => hn hneg)

/-- The 488 gives the port back, and goes on to `removeCall`. -/
theorem Inv.refuse (hinv : w.Inv) (hsip : w.sip = some h) {sdp : SdpSession}
    (hplace : h.place = .answer sdp p)
    (hoffer : ¬ SdpAnswer.Negotiable sdp w.gateway.config.codecPreference) {gw : Gateway}
    (hsame : SameTables w.gateway gw) :
    (w.after { gw with rtpServer := gw.rtpServer.releasePort p } (h.goto .remove)).Inv := by
  have hfits := hinv.fits h hsip
  obtain ⟨hp, -⟩ := hfits.answer sdp p hplace
  refine hinv.goto hsip (by rw [hplace]; nofun) hsame.registry rfl nofun ?_
  show Ledger _ (gw.rtpServer.releasePort p) _ _
  rw [hsame.rtpServer]
  have hgoing : w.going h.msg.getCallId := (going_iff hsip hplace).mpr ⟨rfl, hoffer⟩
  refine (hinv.ledger.releasePort (fun c hc => ?_) hp.fresh).mono fun c hc => ?_
  · rw [hp.route c hc]
    exact ⟨hgoing, hp.other⟩
  · rw [going_after]
    exact ⟨((going_of_sip hsip).mp hc).1, trivial⟩

/-- `startPipeline` on an object that is still registered. -/
theorem Inv.accept_registered (hinv : w.Inv) (hsip : w.sip = some h) {sdp : SdpSession}
    (hplace : h.place = .answer sdp p)
    (hoffer : SdpAnswer.Negotiable sdp w.gateway.config.codecPreference)
    (hsession : h.session = some .registered) {s : CallSession} (hport : s.localRtpPort = p)
    {gw : Gateway}
    (hreg : gw.registry = w.gateway.registry.setSession h.msg.getCallId s)
    (hrtp : gw.rtpServer = w.gateway.rtpServer) :
    (w.after gw { h with session := some .registered, place := .leave }).Inv := by
  have hfits := hinv.fits h hsip
  obtain ⟨hp, hroutes⟩ := hfits.answer sdp p hplace
  have hown : ∀ q ∈ s.ports, w.gateway.registry.portMap[q]? = some h.msg.getCallId ∧
      w.gateway.rtpServer.IsOpen q := by
    intro q hq
    obtain ⟨-, rfl⟩ := CallSession.mem_ports.mp hq
    rw [hport]
    exact ⟨(hroutes hoffer).1 hsession, hp.isOpen⟩
  refine ⟨?_, fun h' hh' => ?_⟩
  · rw [loose_after hsip gw { h with session := some .registered, place := .leave } hsession.symm]
    show Ledger gw.registry gw.rtpServer _ _
    rw [hreg, hrtp]
    refine (hinv.ledger.setSession hown).mono fun c hc => ?_
    exact absurd hoffer ((going_iff hsip hplace).mp hc).2
  · cases hh'
    obtain ⟨t, ht⟩ := hfits.registered hsession
    refine fits_of_hasPort rfl nofun (fun _ => ⟨s, ?_⟩) (fun _ he => by cases he) nofun
    show gw.registry.getCall h.msg.getCallId = some s
    rw [hreg, CallRegistry.getCall_setSession, if_pos rfl, ht]
    rfl

/-- `startPipeline` on an object that was cut off after its port was registered. -/
theorem Inv.accept_detached (hinv : w.Inv) (hsip : w.sip = some h) {sdp : SdpSession}
    (hplace : h.place = .answer sdp p)
    (hoffer : SdpAnswer.Negotiable sdp w.gateway.config.codecPreference) {s s' : CallSession}
    (hsession : h.session = some (.detached s)) (hport : s'.localRtpPort = p) {gw : Gateway}
    (hreg : gw.registry = w.gateway.registry) (hrtp : gw.rtpServer = w.gateway.rtpServer) :
    (w.after gw { h with session := some (.detached s'), place := .leave }).Inv := by
  have hfits := hinv.fits h hsip
  obtain ⟨hp, hroutes⟩ := hfits.answer sdp p hplace
  have hold : w.loose = s.ports ++ w.cli.elim [] CallSession.ports := by
    unfold loose
    rw [hsip, Option.bind_some, hsession]
    rfl
  have hrest : ∀ q ∈ w.cli.elim [] CallSession.ports, q ∈ w.loose := by
    intro q hq
    rw [hold]
    exact List.mem_append_right _ hq
  have hdistinct := hinv.ledger.distinct
  rw [hold] at hdistinct
  have hcli := hinv.ledger.forget hrest (List.nodup_append.mp hdistinct).2.1
  have hports : Ledger w.gateway.registry w.gateway.rtpServer
      (s'.ports ++ w.cli.elim [] CallSession.ports) w.going := by
    unfold CallSession.ports
    split
    · rw [hport]
      exact hcli.loosen ((hroutes hoffer).2 s hsession) hp.isOpen
        fun hmem => hp.fresh (hrest p hmem)
    · exact hcli
  refine ⟨?_, fun h' hh' => ?_⟩
  · show Ledger gw.registry gw.rtpServer (s'.ports ++ w.cli.elim [] CallSession.ports) _
    rw [hreg, hrtp]
    refine hports.mono fun c hc => ?_
    exact absurd hoffer ((going_iff hsip hplace).mp hc).2
  · cases hh'
    refine fits_of_hasPort rfl nofun nofun (fun _ _ => ?_) nofun
    show gw.registry.getCall h.msg.getCallId = none
    rw [hreg, hfits.detached s hsession]

theorem ports_terminate (s : CallSession) (rtp : RtpServer) : (s.terminate rtp).1.ports = [] := by
  unfold CallSession.terminate CallSession.ports
  dsimp only
  refine if_neg ?_
  split
  · exact lt_irrefl 0
  · assumption

/-- `onSipMessage` on a registered object: the port may go, and its route goes next. -/
theorem Inv.bye_registered (hinv : w.Inv) (hsip : w.sip = some h)
    (hsession : h.session = some .registered) {s : CallSession}
    (hs : w.gateway.registry.getCall h.msg.getCallId = some s) :
    (w.after
      { w.gateway with
        registry := w.gateway.registry.setSession h.msg.getCallId
          (s.onSipMessage h.msg w.gateway.rtpServer).1
        rtpServer := (s.onSipMessage h.msg w.gateway.rtpServer).2 }
      { h with session := some .registered, place := .remove }).Inv := by
  have hfits := hinv.fits h hsip
  have hledger : Ledger w.gateway.registry w.gateway.rtpServer w.loose
      (· = h.msg.getCallId) := hinv.ledger.mono fun c hc => ((going_of_sip hsip).mp hc).1
  have hset : ∀ s', (w.gateway.registry.setSession h.msg.getCallId s').getCall h.msg.getCallId
      = some s' := by
    intro s'
    rw [CallRegistry.getCall_setSession, if_pos rfl, hs]
    rfl
  have hbye : Ledger (w.gateway.registry.setSession h.msg.getCallId
      (s.onSipMessage h.msg w.gateway.rtpServer).1)
      (s.onSipMessage h.msg w.gateway.rtpServer).2 w.loose (· = h.msg.getCallId) := by
    unfold CallSession.onSipMessage
    split
    · have hports := ports_terminate s w.gateway.rtpServer
      have hcleared := hledger.setSession (c := h.msg.getCallId)
        (s := (s.terminate w.gateway.rtpServer).1) (by rw [hports]; nofun)
      rw [show (s.terminate w.gateway.rtpServer).2 = if s.localRtpPort > 0 then
        w.gateway.rtpServer.releasePort s.localRtpPort else w.gateway.rtpServer from rfl]
      split
      · next hpos =>
        have hmem : s.localRtpPort ∈ s.ports := CallSession.mem_ports.mpr ⟨hpos, rfl⟩
        have hown := (hinv.ledger.own _ s hs _ hmem).1
        refine hcleared.releasePort (fun c hc => ?_) fun hloose => ?_
        · rw [CallRegistry.setSession_portMap, hown] at hc
          cases hc
          refine ⟨rfl, fun t ht => ?_⟩
          rw [hset] at ht
          cases ht
          rw [hports]
          exact List.not_mem_nil
        · exact absurd (hown.symm.trans (hinv.ledger.held _ hloose).1) nofun
      · exact hcleared
    · exact hledger.setSession fun p hp => hinv.ledger.own _ s hs p hp
  refine ⟨?_, fun h' hh' => ?_⟩
  · rw [loose_after hsip _ { h with session := some .registered, place := .remove }
      hsession.symm]
    exact hbye.mono fun c hc => going_after.mpr ⟨hc, trivial⟩
  · cases hh'
    exact fits_of_hasPort rfl nofun (fun _ => ⟨_, hset _⟩) (fun _ he => by cases he) nofun

/-- `onSipMessage` on an object that was cut off. -/
theorem Inv.bye_detached (hinv : w.Inv) (hsip : w.sip = some h) {s : CallSession}
    (hsession : h.session = some (.detached s)) :
    (w.after { w.gateway with rtpServer := (s.onSipMessage h.msg w.gateway.rtpServer).2 }
      { h with
        session := some (.detached (s.onSipMessage h.msg w.gateway.rtpServer).1)
        place := .remove }).Inv := by
  have hfits := hinv.fits h hsip
  have hold : w.loose = s.ports ++ w.cli.elim [] CallSession.ports := by
    unfold loose
    rw [hsip, Option.bind_some, hsession]
    rfl
  have hledger := hinv.ledger
  rw [hold] at hledger
  refine ⟨?_, fun h' hh' => ?_⟩
  · show Ledger w.gateway.registry (s.onSipMessage h.msg w.gateway.rtpServer).2
      ((s.onSipMessage h.msg w.gateway.rtpServer).1.ports ++ w.cli.elim [] CallSession.ports) _
    have hgoing : ∀ c, w.going c → c = h.msg.getCallId :=
      fun c hc => ((going_of_sip hsip).mp hc).1
    unfold CallSession.onSipMessage
    split
    · rw [ports_terminate]
      exact hledger.terminate.mono fun c hc => going_after.mpr ⟨hgoing c hc, trivial⟩
    · exact hledger.mono fun c hc => going_after.mpr ⟨hgoing c hc, trivial⟩
  · cases hh'
    exact fits_of_hasPort rfl nofun nofun (fun _ _ => hfits.detached s hsession) nofun

/-- The variable `session` after `removeCall`. -/
def keptSession (w : Threads) (h : Handling) : Option SessionRef :=
  match h.session with
  | some .registered => (w.gateway.registry.getCall h.msg.getCallId).map SessionRef.detached
  | ref => ref

theorem keptSession_ports (hinv : w.Inv) (hsip : w.sip = some h) (hplace : h.place = .remove) :
    (keptSession w h).elim [] SessionRef.ports ++ w.cli.elim [] CallSession.ports =
      (w.gateway.registry.getCall h.msg.getCallId).elim [] CallSession.ports ++ w.loose := by
  have hfits := hinv.fits h hsip
  unfold keptSession loose
  rw [hsip, Option.bind_some]
  cases hsession : h.session with
  | none => rw [hfits.unknown hsession (by rw [hplace]; nofun)]; rfl
  | some ref =>
    cases ref with
    | registered =>
      obtain ⟨s, hs⟩ := hfits.registered hsession
      rw [hs]
      rfl
    | detached s => rw [hfits.detached s hsession]; rfl

/-- `removeCall` on the SIP thread. -/
theorem Inv.remove (hinv : w.Inv) (hsip : w.sip = some h) (hplace : h.place = .remove) :
    (w.after { w.gateway with registry := w.gateway.registry.removeCall h.msg.getCallId }
      { h with session := keptSession w h, place := .leave }).Inv := by
  have hgone : (w.gateway.registry.removeCall h.msg.getCallId).getCall h.msg.getCallId = none := by
    rw [CallRegistry.getCall_removeCall, if_pos rfl]
  refine ⟨?_, fun h' hh' => ?_⟩
  · show Ledger _ _ ((keptSession w h).elim [] SessionRef.ports ++
      w.cli.elim [] CallSession.ports) _
    rw [keptSession_ports hinv hsip hplace]
    refine (hinv.ledger.removeCall h.msg.getCallId).mono fun c hc => ?_
    exact absurd ((going_of_sip hsip).mp hc.1).1 hc.2
  · cases hh'
    refine fits_of_hasPort rfl nofun (fun hs => ?_) (fun _ _ => hgone) (fun _ _ => hgone)
    -- no registered object is left
    have hs : keptSession w h = some .registered := hs
    unfold keptSession at hs
    split at hs
    · obtain ⟨_, -, he⟩ := Option.map_eq_some_iff.mp hs
      cases he
    · next hne => exact absurd hs hne

/-- The end of the function: an object that was cut off is destroyed with `session`. -/
theorem Inv.leave_detached (hinv : w.Inv) (hsip : w.sip = some h) (hplace : h.place = .leave)
    {s : CallSession} (hsession : h.session = some (.detached s)) :
    Inv { w with
      gateway := { w.gateway with rtpServer := (s.terminate w.gateway.rtpServer).2 }
      sip := none } := by
  have hold : w.loose = s.ports ++ w.cli.elim [] CallSession.ports := by
    unfold loose
    rw [hsip, Option.bind_some, hsession]
    rfl
  have hledger := hinv.ledger
  rw [hold] at hledger
  refine ⟨?_, fun h' hh' => by cases hh'⟩
  show Ledger _ (s.terminate w.gateway.rtpServer).2 (w.cli.elim [] CallSession.ports) _
  refine hledger.terminate.mono fun c hc => ?_
  exact ((going_iff hsip hplace).mp hc).2.elim

/-- The end of the function, when `session` is null or not the last reference. -/
theorem Inv.leave_other (hinv : w.Inv) (hsip : w.sip = some h) (hplace : h.place = .leave) :
    Inv { w with sip := none } := by
  have hdistinct := hinv.ledger.distinct
  refine ⟨?_, fun h' hh' => by cases hh'⟩
  show Ledger _ _ (w.cli.elim [] CallSession.ports) _
  refine (hinv.ledger.forget (fun p hp => List.mem_append_right _ hp)
    (List.nodup_append.mp hdistinct).2.1).mono fun c hc => ?_
  exact ((going_iff hsip hplace).mp hc).2.elim

end Threads

end SipGateway
