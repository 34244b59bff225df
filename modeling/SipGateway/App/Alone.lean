import SipGateway.App.Threads

/-!
# The SIP thread when nobody comes between

`Gateway.handleSipMessage` handles a message in one go, `Handling.turn` in steps that the command
line may come between. When it does not, both lead to the same gateway
(`handleSipMessage_finishes`). So what the coarse model does with a message, or with a `cut`, is a
run of the fine one (`reachable_handleSipMessage`, `reachable_dropCall`).
-/

namespace SipGateway

open Infra

/-- The steps of the SIP thread, to the end of the function. -/
inductive Finishes (env : Env) : Gateway → Handling → Gateway → Prop where
  | last {gw gw' : Gateway} {h : Handling} (hturn : h.turn gw env = some (gw', none)) :
      Finishes env gw h gw'
  | next {gw gw₁ gw' : Gateway} {h h₁ : Handling} (hturn : h.turn gw env = some (gw₁, some h₁))
      (hrest : Finishes env gw₁ h₁ gw') : Finishes env gw h gw'

/-- The SIP thread has looked the call up. -/
def Handling.found (gw : Gateway) (msg : SipMessage) : Handling where
  msg := msg
  session := (gw.registry.getCall msg.getCallId).map fun _ => .registered
  place := .dispatch

@[simp] theorem Handling.found_msg (gw : Gateway) (msg : SipMessage) :
    (Handling.found gw msg).msg = msg := rfl

/-- The gateway with a transaction stored for a request. -/
def Gateway.store (gw : Gateway) (msg : SipMessage) (tx : SipTransaction) : Gateway :=
  { gw with transactions := gw.transactions.insert msg.txKey tx }

variable {gw gw' : Gateway} {env : Env} {msg res : SipMessage} {tx : SipTransaction} {now : Nat}

/-- The response goes into the transaction that was stored. -/
theorem Gateway.respond_store :
    (gw.store msg tx).respond msg res now = gw.store msg (tx.sendResponse res now) := by
  have htx : (gw.store msg tx).transactions[msg.txKey]? = some tx :=
    (getElem?_insert_key _ _ _ _).trans (if_pos rfl)
  unfold Gateway.respond
  rw [htx]
  have htwice : (gw.transactions.insert msg.txKey tx).insert msg.txKey (tx.sendResponse res now) =
      gw.transactions.insert msg.txKey (tx.sendResponse res now) := by
    refine Std.ExtTreeMap.ext_getElem? fun k => ?_
    rw [getElem?_insert_key, getElem?_insert_key, getElem?_insert_key]
    split <;> rfl
  exact congrArg (fun transactions => { gw with transactions := transactions }) htwice

namespace Finishes

/-! ## The end of the function -/

/-- A registered session stays. -/
theorem leave {session : Option SessionRef} (h : ∀ s, session ≠ some (.detached s)) :
    Finishes env gw { msg := msg, session := session, place := .leave } gw := by
  refine Finishes.last ?_
  cases session with
  | none => rfl
  | some ref =>
    cases ref with
    | registered => rfl
    | detached s => exact absurd rfl (h s)

/-- `removeCall`; the session goes with the reference of the thread. -/
theorem remove :
    Finishes env gw { msg := msg, session := some .registered, place := .remove }
      (gw.dropCall msg.getCallId) := by
  refine Finishes.next rfl (Finishes.last ?_)
  unfold Gateway.dropCall Handling.turn
  cases gw.registry.getCall msg.getCallId <;> rfl

/-- The same with a transaction in the table, and a response before it. -/
theorem remove_store :
    Finishes env ((gw.store msg tx).respond msg res now)
      { msg := msg, session := some .registered, place := .remove }
      ((gw.dropCall msg.getCallId).store msg (tx.sendResponse res now)) := by
  rw [Gateway.respond_store]
  exact remove

/-! ## The INVITE branch -/

/-- There is no codec in common: 488, and the port goes back. -/
theorem refused (gw : Gateway) {sdp : SdpSession} {port : Int}
    (hempty : (SdpAnswer.generate sdp gw.config.bindIp port gw.config.codecPreference).1.isEmpty =
      true) :
    Finishes env (gw.store msg tx)
      { msg := msg, session := some .registered, place := .answer sdp port }
      (({ gw with rtpServer := gw.rtpServer.releasePort port }.dropCall msg.getCallId).store msg
        (tx.sendResponse (SipResponseBuilder.createResponse (env.system 1) msg 488
          (bytes "Not Acceptable Here")) (env.now 2))) := by
  have hturn : ∀ h : Handling, h.msg = msg → h.session = some .registered →
      h.answer (gw.store msg tx) env sdp port =
        some ({ gw with rtpServer := gw.rtpServer.releasePort port }.store msg
          (tx.sendResponse (SipResponseBuilder.createResponse (env.system 1) msg 488
            (bytes "Not Acceptable Here")) (env.now 2)), h.goto .remove) := by
    rintro h rfl -
    refine (if_pos hempty).trans ?_
    rw [Gateway.respond_store]
    rfl
  refine Finishes.next (congrArg (Option.map _) (hturn _ rfl rfl)) ?_
  exact remove

/-- The pipeline starts: 200. -/
theorem accepted (gw : Gateway) {session session' : CallSession} {sdp : SdpSession} {port : Int}
    (hcall : gw.registry.getCall msg.getCallId = some session)
    (hanswer : (SdpAnswer.generate sdp gw.config.bindIp port
      gw.config.codecPreference).1.isEmpty ≠ true)
    (hstart : session.startPipeline env gw.config port sdp.connectionIp (Gateway.remotePort sdp)
      (SdpAnswer.generate sdp gw.config.bindIp port gw.config.codecPreference).2.payloadType =
        .ok session') :
    Finishes env (gw.store msg tx)
      { msg := msg, session := some .registered, place := .answer sdp port }
      ({ gw with registry := gw.registry.setSession msg.getCallId session' }.store msg
        (tx.sendResponse (Gateway.okResponse gw.config env msg
          (SdpAnswer.generate sdp gw.config.bindIp port gw.config.codecPreference).1)
          (env.now 2))) := by
  have hturn : ∀ h : Handling, h.msg = msg → h.session = some .registered →
      h.answer (gw.store msg tx) env sdp port =
        some ({ gw with registry := gw.registry.setSession msg.getCallId session' }.store msg
          (tx.sendResponse (Gateway.okResponse gw.config env msg
            (SdpAnswer.generate sdp gw.config.bindIp port gw.config.codecPreference).1)
            (env.now 2)), { h with place := .leave }) := by
    rintro h rfl hsession
    have href : SessionRef.registered.startPipeline (gw.store h.msg tx) env h.msg sdp port
        (SdpAnswer.generate sdp gw.config.bindIp port gw.config.codecPreference).2.payloadType =
          some ({ gw with registry := gw.registry.setSession h.msg.getCallId session' }.store h.msg
            tx, .registered) := by
      have hget : SessionRef.registered.get (gw.store h.msg tx) h.msg.getCallId = some session :=
        hcall
      have hstore : session.startPipeline env (gw.store h.msg tx).config port sdp.connectionIp
          (Gateway.remotePort sdp) (SdpAnswer.generate sdp gw.config.bindIp port
            gw.config.codecPreference).2.payloadType = .ok session' := hstart
      unfold SessionRef.startPipeline
      rw [hget, Option.bind_eq_bind, Option.bind_some, hstore]
      rfl
    refine (if_neg hanswer).trans ?_
    rw [hsession, Option.bind_eq_bind, Option.bind_some, Option.bind_eq_bind]
    refine (congrArg (Option.bind · _) href).trans ?_
    exact congrArg (fun gw => some (gw, Handling.mk h.msg (some .registered) .leave))
      Gateway.respond_store
  refine Finishes.next (congrArg (Option.map _) (hturn _ rfl rfl)) ?_
  exact leave fun _ hdetached => by cases hdetached

/-- What follows the parsing of the offer. -/
theorem answerOffer {session : CallSession} {sdp : SdpSession}
    (hcall : gw.registry.getCall msg.getCallId = some session)
    (h : gw.answerOffer env msg session sdp = .ok (gw', res)) :
    Finishes env (gw.store msg tx)
      { msg := msg, session := some .registered, place := .allocate sdp }
      (gw'.store msg (tx.sendResponse res (env.now 2))) := by
  unfold Gateway.answerOffer at h
  dsimp only at h
  split at h
  · next hport =>
    cases h
    refine Finishes.next ?_ remove_store
    exact if_pos hport
  · next hport =>
    refine Finishes.next (if_neg hport) (Finishes.next rfl ?_)
    split at h
    · next hempty =>
      cases h
      exact refused { gw with
        rtpServer := (gw.rtpServer.allocatePort env.net).1
        registry := gw.registry.registerRtpPort (gw.rtpServer.allocatePort env.net).2
          msg.getCallId } hempty
    · next hanswer =>
      cases hstart : session.startPipeline env gw.config (gw.rtpServer.allocatePort env.net).2
          sdp.connectionIp (Gateway.remotePort sdp) (SdpAnswer.generate sdp gw.config.bindIp
            (gw.rtpServer.allocatePort env.net).2 gw.config.codecPreference).2.payloadType with
      | error e => rw [hstart] at h; cases h
      | ok session' =>
        rw [hstart] at h
        cases h
        exact accepted { gw with
          rtpServer := (gw.rtpServer.allocatePort env.net).1
          registry := gw.registry.registerRtpPort (gw.rtpServer.allocatePort env.net).2
            msg.getCallId } hcall hanswer hstart

/-- Busy: 486. -/
theorem busy (hfull : gw.isFull = true) :
    Finishes env (gw.store msg tx) { msg := msg, place := .count }
      (gw.store msg (tx.sendResponse (Gateway.busyHere env msg) (env.now 1))) := by
  refine Finishes.next (if_pos hfull) ?_
  rw [Gateway.respond_store]
  exact leave fun _ hdetached => by cases hdetached

/-- A new call. -/
theorem added (hnew : gw.registry.getCall msg.getCallId = none) (hfull : gw.isFull = false)
    (hrest : Finishes env ({ gw with registry := (gw.registry.addCall msg.getCallId
        ((CallSession.create msg.getCallId (env.system 0)).init msg)).1 }.store msg tx)
      { msg := msg, session := some .registered, place := .offer } gw') :
    Finishes env (gw.store msg tx) { msg := msg, place := .count } gw' := by
  have hroom : ¬ (gw.store msg tx).isFull = true := by
    rw [show (gw.store msg tx).isFull = gw.isFull from rfl, hfull]
    exact nofun
  have hadd : ∀ session, gw.registry.addCall msg.getCallId session =
      ((gw.registry.addCall msg.getCallId session).1, true) := by
    intro session
    unfold CallRegistry.addCall
    rw [if_neg ((not_mem_iff_getElem?_none _ _).mpr hnew)]
  refine Finishes.next (if_neg hroom) (Finishes.next ?_ hrest)
  unfold Handling.turn
  dsimp only [Handling.goto]
  rw [show (gw.store msg tx).registry = gw.registry from rfl, hadd]
  rfl

/-- From the 100 on. -/
theorem offer {session : CallSession} {sdp : SdpSession}
    (hcall : gw.registry.getCall msg.getCallId = some session)
    (hsdp : SdpParser.parse msg.body = .ok (some sdp))
    (h : gw.answerOffer env msg session sdp = .ok (gw', res)) :
    Finishes env (gw.store msg tx) { msg := msg, session := some .registered, place := .offer }
      (gw'.store msg ((tx.sendResponse (Gateway.trying env msg) (env.now 1)).sendResponse res
        (env.now 2))) := by
  refine Finishes.next ?_ (answerOffer hcall h)
  unfold Handling.turn
  dsimp only
  rw [hsdp, Gateway.respond_store]
  rfl

/-- The INVITE branch behind the dispatch. -/
theorem invite {r : Gateway.Reply} (h : gw.handleInvite env msg tx = .ok r) :
    Finishes env (gw.store msg tx)
      { msg := msg
        session := (gw.registry.getCall msg.getCallId).map fun _ => .registered
        place := if (gw.registry.getCall msg.getCallId).isNone then .count else .offer }
      (r.gateway.store msg r.transaction) := by
  cases Gateway.handleInvite_invited h with
  | busy hnew hfull =>
    rw [hnew]
    exact busy hfull
  | answered gw₁ gw₂ session sdp res hopen hsdp hanswer =>
    rcases Gateway.openCall_some hopen with ⟨hcall, rfl⟩ | ⟨hnew, hfull, hsession, hgw₁⟩
    · rw [hcall]
      exact offer hcall hsdp hanswer
    · have hcall : gw₁.registry.getCall msg.getCallId = some session := by
        rw [hgw₁, CallRegistry.getCall_addCall, if_pos ⟨rfl, hnew⟩]
      rw [hnew]
      subst hgw₁ hsession
      exact added hnew hfull (offer hcall hsdp hanswer)

/-! ## The other branches -/

/-- A branch with one response, and nothing behind it. -/
theorem reply {session : Option SessionRef} (h : ∀ s, session ≠ some (.detached s)) :
    Finishes env ((gw.store msg tx).respond msg res now)
      { msg := msg, session := session, place := .leave }
      (gw.store msg (tx.sendResponse res now)) := by
  rw [Gateway.respond_store]
  exact leave h

theorem reply_none :
    Finishes env ((gw.store msg tx).respond msg res now) { msg := msg, place := .leave }
      (gw.store msg (tx.sendResponse res now)) :=
  reply fun _ hdetached => by cases hdetached

/-- The BYE branch of a call that is there. -/
theorem bye {session : CallSession} (hcall : gw.registry.getCall msg.getCallId = some session) :
    Finishes env ((gw.store msg tx).respond msg res now)
      { msg := msg, session := some .registered, place := .bye }
      ((gw.endCall msg).store msg (tx.sendResponse res now)) := by
  rw [Gateway.respond_store]
  have href : SessionRef.registered.onSipMessage (gw.store msg (tx.sendResponse res now)) msg =
      some ({ gw with
        registry := gw.registry.setSession msg.getCallId
          (session.onSipMessage msg gw.rtpServer).1
        rtpServer := (session.onSipMessage msg gw.rtpServer).2 }.store msg
          (tx.sendResponse res now), .registered) :=
    congrArg (Option.map _) hcall
  refine Finishes.next (congrArg (Option.bind · _) href) ?_
  unfold Gateway.endCall
  rw [hcall]
  exact remove

/-- The CANCEL branch of a call that is there. -/
theorem cancel {session : CallSession} (hcall : gw.registry.getCall msg.getCallId = some session) :
    Finishes env ((gw.store msg tx).respond msg res now)
      { msg := msg, session := some .registered, place := .remove }
      ((gw.cancelCall msg).store msg (tx.sendResponse res now)) := by
  unfold Gateway.cancelCall
  rw [hcall]
  exact remove_store

/-- What `getCall` gave: the registered object, or none. -/
theorem not_detached (call : Option CallSession) (s : CallSession) :
    call.map (fun _ => SessionRef.registered) ≠ some (.detached s) := by
  cases call <;> exact nofun

/-- The chain over the methods. -/
theorem branch {r : Gateway.Reply} (h : gw.execute env msg tx = .ok r) :
    Finishes env ((Handling.found gw msg).branch (gw.store msg tx) env).1
      ((Handling.found gw msg).branch (gw.store msg tx) env).2
      (r.gateway.store msg r.transaction) := by
  unfold Gateway.execute at h
  have hleave := not_detached (gw.registry.getCall msg.getCallId)
  split at h
  · next hinvite =>
    unfold Handling.branch Handling.found
    dsimp only
    rw [hinvite]
    dsimp only [Handling.goto]
    rw [Option.isNone_map]
    exact invite h
  · next hother =>
    unfold Gateway.simpleBranch at h
    unfold Handling.branch Handling.found
    dsimp only
    cases hmethod : msg.method with
    | invite => exact absurd hmethod hother
    | bye =>
      rw [hmethod] at h
      cases h
      cases hcall : gw.registry.getCall msg.getCallId with
      | none =>
        rw [Gateway.endCall, hcall]
        exact reply_none
      | some session => exact bye hcall
    | cancel =>
      rw [hmethod] at h
      cases h
      cases hcall : gw.registry.getCall msg.getCallId with
      | none =>
        rw [Gateway.cancelCall, hcall]
        exact reply_none
      | some session => exact cancel hcall
    | ack | options | refer | unknown =>
      rw [hmethod] at h
      cases h
      exact reply hleave

end Finishes

/--
**Alone, the SIP thread does what `handleSipMessage` does**, for every message it does not ignore.
-/
theorem handleSipMessage_finishes {sender : SockAddr} {sent : List Sent}
    (hid : msg.getCallId.isEmpty = false)
    (h : gw.handleSipMessage env msg sender = .ok (gw', sent)) :
    Finishes env gw { msg := msg } gw' := by
  have hleave := Finishes.not_detached (gw.registry.getCall msg.getCallId)
  unfold Gateway.handleSipMessage at h
  rw [if_neg (by rw [hid]; exact nofun)] at h
  have hdispatch : Finishes env ((Handling.found gw msg).dispatch gw env).1
      ((Handling.found gw msg).dispatch gw env).2 gw' := by
    unfold Handling.dispatch
    rw [Handling.found_msg]
    split at h
    · next hrequest =>
      rw [if_pos hrequest]
      cases hretransmission : gw.retransmission msg with
      | some resent =>
        rw [hretransmission] at h
        cases h
        exact Finishes.leave hleave
      | none =>
        rw [hretransmission] at h
        dsimp only at h ⊢
        split at h
        · next hack =>
          cases h
          rw [if_pos hack]
          exact Finishes.leave hleave
        · next hack =>
          rw [if_neg hack]
          cases hexecute : gw.execute env msg (SipTransaction.create msg (env.now 0)) with
          | error e => rw [hexecute] at h; cases h
          | ok r =>
            simp only [hexecute, bind, Except.bind, pure, Except.pure] at h
            split at h
            · cases h
            · next r' hgone =>
              cases h
              obtain rfl := Gateway.leave_ok hgone
              exact Finishes.branch hexecute
    · next hresponse =>
      cases h
      rw [if_neg hresponse]
      exact Finishes.leave hleave
  exact Finishes.next rfl (Finishes.next rfl hdispatch)

/-! ## Runs of both threads -/

namespace Threads

variable {config : Config} {hardwareConcurrency : Nat} {w : Threads}

/-- The command line rests: the SIP thread can go on to the end of the function. -/
theorem reachable_finished {h : Handling} (hfinishes : Finishes env gw h gw')
    (hw : (machine config hardwareConcurrency).Reachable
      { gateway := gw, sip := some h, cli := none }) :
    (machine config hardwareConcurrency).Reachable
      { gateway := gw', sip := none, cli := none } := by
  have henabled : ∀ (gw : Gateway) (h : Handling), (machine config hardwareConcurrency).enabled
      { gateway := gw, sip := some h, cli := none } (.turn env) := by
    intro gw h
    simp [machine, canHappen, locked]
  have hstep : ∀ (gw gw₁ : Gateway) (h : Handling) (next : Option Handling),
      h.turn gw env = some (gw₁, next) →
      (machine config hardwareConcurrency).step { gateway := gw, sip := some h, cli := none }
        (.turn env) = some { gateway := gw₁, sip := next, cli := none } := by
    intro gw gw₁ h next hturn
    simp [machine, Threads.step, hturn]
  induction hfinishes with
  | last hturn => exact hw.next (henabled _ _) (hstep _ _ _ _ hturn)
  | next hturn _ ih => exact ih (hw.next (henabled _ _) (hstep _ _ _ _ hturn))

/-- **A message handled in one go is a run of the SIP thread.** -/
theorem reachable_handleSipMessage (hw : (machine config hardwareConcurrency).Reachable w)
    (hsip : w.sip = none) (hcli : w.cli = none) (msg : Received) {sender : SockAddr}
    {sent : List Sent} (h : w.gateway.handleSipMessage env msg.val sender = .ok (gw', sent)) :
    (machine config hardwareConcurrency).Reachable { w with gateway := gw' } := by
  obtain ⟨gw, sip, cli⟩ := w
  subst hsip hcli
  cases hid : msg.val.getCallId.isEmpty with
  | true =>
    rw [Gateway.handleSipMessage, if_pos hid] at h
    cases h
    exact hw
  | false =>
    refine reachable_finished (handleSipMessage_finishes hid h) (hw.next (e := .arrive msg) rfl ?_)
    simp [machine, Threads.step, hid]

/-- **So is a line of the command line**: the tables first, then the destructor. -/
theorem reachable_dropCall (hw : (machine config hardwareConcurrency).Reachable w)
    (hsip : w.sip = none) (hcli : w.cli = none) (callId : Bytes) :
    (machine config hardwareConcurrency).Reachable
      { w with gateway := w.gateway.dropCall callId } := by
  obtain ⟨gw, sip, cli⟩ := w
  subst hsip hcli
  have hcut : (machine config hardwareConcurrency).Reachable
      { gateway := { gw with registry := gw.registry.removeCall callId }
        sip := none
        cli := gw.registry.getCall callId } :=
    hw.next (e := .cut callId) rfl rfl
  unfold Gateway.dropCall
  cases hcall : gw.registry.getCall callId with
  | none =>
    rw [hcall] at hcut
    exact hcut
  | some session =>
    rw [hcall] at hcut
    exact hcut.next (e := .destroy) rfl rfl

end Threads

end SipGateway
