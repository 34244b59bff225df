import SipGateway.App.Gateway

/-!
# What one step can do

The dispatcher taken apart once: every way `handleSipMessage`, the INVITE branch and the answer to
an offer can end, with what is known on each way. The properties of runs are case analyses over
`Handled`, `Invited` and `Answered`; none of them unfolds the dispatcher again.
-/

namespace SipGateway

open Infra

namespace Gateway

variable {gw : Gateway} {env : Env} {msg : SipMessage} {sender : SockAddr}

/-! ## What the teardowns leave alone -/

@[simp] theorem dropCall_transactions (gw : Gateway) (callId : Bytes) :
    (gw.dropCall callId).transactions = gw.transactions := rfl

@[simp] theorem dropCall_config (gw : Gateway) (callId : Bytes) :
    (gw.dropCall callId).config = gw.config := rfl

@[simp] theorem dropCall_lastCleanup (gw : Gateway) (callId : Bytes) :
    (gw.dropCall callId).lastCleanup = gw.lastCleanup := rfl

@[simp] theorem dropCall_registry (gw : Gateway) (callId : Bytes) :
    (gw.dropCall callId).registry = gw.registry.removeCall callId := rfl

/-- What a step inside a call leaves alone. -/
structure SameFrame (gw gw' : Gateway) : Prop where
  transactions : gw'.transactions = gw.transactions
  config : gw'.config = gw.config
  lastCleanup : gw'.lastCleanup = gw.lastCleanup

theorem SameFrame.refl (gw : Gateway) : SameFrame gw gw := ⟨rfl, rfl, rfl⟩

theorem endCall_sameFrame (gw : Gateway) (msg : SipMessage) : SameFrame gw (gw.endCall msg) := by
  unfold endCall
  split <;> exact ⟨rfl, rfl, rfl⟩

theorem cancelCall_sameFrame (gw : Gateway) (msg : SipMessage) :
    SameFrame gw (gw.cancelCall msg) := by
  unfold cancelCall
  split <;> exact ⟨rfl, rfl, rfl⟩

theorem simpleBranch_sameFrame (gw : Gateway) (msg : SipMessage) :
    SameFrame gw (gw.simpleBranch msg).2.2 := by
  unfold simpleBranch
  split
  · exact endCall_sameFrame gw msg
  · exact cancelCall_sameFrame gw msg
  all_goals exact SameFrame.refl gw

theorem openCall_sameFrame {gw gw' : Gateway} {session : CallSession}
    (h : gw.openCall env msg = some (gw', session)) : SameFrame gw gw' := by
  unfold openCall at h
  split at h
  · cases h; exact SameFrame.refl gw
  · split at h
    · cases h
    · cases h; exact ⟨rfl, rfl, rfl⟩

/-- A BYE ends the call the way a CANCEL and the command line do: its port is given back once. -/
theorem endCall_eq_dropCall (hmsg : msg.isRequest = true) (hbye : msg.method = .bye)
    {session : CallSession} (hs : gw.registry.getCall msg.getCallId = some session)
    (hport : 0 ≤ session.localRtpPort) :
    (gw.endCall msg).rtpServer = (gw.dropCall msg.getCallId).rtpServer ∧
    (gw.endCall msg).registry = (gw.dropCall msg.getCallId).registry := by
  have hset : ∀ s, (gw.registry.setSession msg.getCallId s).getCall msg.getCallId = some s := by
    intro s
    rw [CallRegistry.getCall_setSession, if_pos rfl, hs]
    rfl
  have hnone : (session.terminate gw.rtpServer).1.localRtpPort = 0 := by
    rcases hport.lt_or_eq with hpos | hzero
    · exact CallSession.terminate_localRtpPort hpos _
    · simp [CallSession.terminate, ← hzero]
  constructor
  · simp only [endCall, hs, CallSession.onSipMessage, hmsg, hbye, and_self, if_true, dropCall, hset]
    exact CallSession.terminate_of_no_port hnone _
  · simp only [endCall, hs, CallSession.onSipMessage, hmsg, hbye, and_self, if_true, dropCall]
    have hmem : msg.getCallId ∈ gw.registry.calls :=
      (mem_iff_exists_getElem? _ _).mpr ⟨session, hs⟩
    unfold CallRegistry.setSession CallRegistry.removeCall
    rw [if_pos hmem]
    congr 1
    refine Std.ExtTreeMap.ext_getElem? fun k => ?_
    simp only [getElem?_erase_key, getElem?_insert_key]
    split <;> rfl

/-! ## The answer to an offer -/

/-- The ways `answerOffer` can end. -/
inductive Answered (gw : Gateway) (env : Env) (msg : SipMessage) (session : CallSession)
    (sdp : SdpSession) : Gateway × SipMessage → Prop where
  /-- no worker has a port: 500 -/
  | noPort (hfinds : gw.rtpServer.finds env.net = none) :
      Answered gw env msg session sdp
        ({ gw with rtpServer := (gw.rtpServer.allocatePort env.net).1 }.dropCall msg.getCallId,
          SipResponseBuilder.createResponse (env.system 1) msg 500
            (bytes "Internal Server Error (No Ports)"))
  /-- the offer has no codec of ours: 488 -/
  | refused (p : Int) (hfinds : gw.rtpServer.finds env.net = some p)
      (hoffer : ¬ SdpAnswer.Negotiable sdp gw.config.codecPreference) :
      Answered gw env msg session sdp
        ({ gw with
            rtpServer := (gw.rtpServer.allocatePort env.net).1.releasePort p
            registry := gw.registry.registerRtpPort p msg.getCallId }.dropCall msg.getCallId,
          SipResponseBuilder.createResponse (env.system 1) msg 488 (bytes "Not Acceptable Here"))
  /-- the pipeline starts: 200 -/
  | accepted (p : Int) (hfinds : gw.rtpServer.finds env.net = some p)
      (hoffer : SdpAnswer.Negotiable sdp gw.config.codecPreference) (session' : CallSession)
      (hstart : session.startPipeline env gw.config p sdp.connectionIp (remotePort sdp)
        (SdpAnswer.generate sdp gw.config.bindIp p gw.config.codecPreference).2.payloadType
          = .ok session') :
      Answered gw env msg session sdp
        ({ gw with
            rtpServer := (gw.rtpServer.allocatePort env.net).1
            registry := (gw.registry.registerRtpPort p msg.getCallId).setSession msg.getCallId
              session' },
          okResponse gw.config env msg
            (SdpAnswer.generate sdp gw.config.bindIp p gw.config.codecPreference).1)

theorem answerOffer_answered {session : CallSession} {sdp : SdpSession} {r : Gateway × SipMessage}
    (hs : gw.rtpServer.Sound) (h : gw.answerOffer env msg session sdp = .ok r) :
    Answered gw env msg session sdp r := by
  have halloc := (RtpServer.allocatePort_spec env.net hs).result
  unfold answerOffer at h
  dsimp only at h
  cases hfinds : gw.rtpServer.finds env.net with
  | none =>
    rw [hfinds, Option.getD_none] at halloc
    rw [halloc, if_pos (by decide)] at h
    cases h
    exact Answered.noPort hfinds
  | some p =>
    rw [hfinds, Option.getD_some] at halloc
    rw [halloc, if_neg (by have := (hs.finds_some hfinds).1; omega)] at h
    have hgen := SdpAnswer.generate_ne_nil_iff sdp gw.config.bindIp p gw.config.codecPreference
    split at h
    · next hempty =>
      cases h
      refine Answered.refused p hfinds fun hoffer => hgen.mpr hoffer ?_
      exact List.isEmpty_iff.mp hempty
    · next hfull =>
      have hoffer := hgen.mp fun he => hfull (List.isEmpty_iff.mpr he)
      simp only [bind, Except.bind, pure, Except.pure] at h
      split at h
      · cases h
      · next session' hstart =>
        cases h
        exact Answered.accepted p hfinds hoffer session' hstart

/-! ## The INVITE branch -/

/-- Whether an INVITE gets past the limit on calls. -/
def Admitted (gw : Gateway) (msg : SipMessage) : Prop :=
  msg.method = .invite ∧ (gw.registry.getCall msg.getCallId ≠ none ∨ gw.isFull = false)

theorem openCall_none (h : gw.openCall env msg = none) :
    gw.registry.getCall msg.getCallId = none ∧ gw.isFull = true := by
  unfold openCall at h
  split at h
  · cases h
  · next hnew =>
    split at h
    · next hfull => exact ⟨hnew, hfull⟩
    · cases h

theorem openCall_some {gw' : Gateway} {session : CallSession}
    (h : gw.openCall env msg = some (gw', session)) :
    (gw.registry.getCall msg.getCallId = some session ∧ gw' = gw) ∨
    (gw.registry.getCall msg.getCallId = none ∧ gw.isFull = false ∧
      session = (CallSession.create msg.getCallId (env.system 0)).init msg ∧
      gw' = { gw with registry := (gw.registry.addCall msg.getCallId session).1 }) := by
  unfold openCall at h
  split at h
  · next s hs =>
    cases h
    exact Or.inl ⟨hs, rfl⟩
  · next hnew =>
    split at h
    · cases h
    · next hfull =>
      cases h
      exact Or.inr ⟨hnew, by simpa using hfull, rfl, rfl⟩

/-- The responses of the INVITE branch that do not depend on the offer. -/
def busyHere (env : Env) (msg : SipMessage) : SipMessage :=
  SipResponseBuilder.createResponse (env.system 1) msg 486 (bytes "Busy Here")

def trying (env : Env) (msg : SipMessage) : SipMessage :=
  SipResponseBuilder.createResponse (env.system 1) msg 100 (bytes "Trying")

/-- The ways the INVITE branch can end. The `400` branch is never reached. -/
inductive Invited (gw : Gateway) (env : Env) (msg : SipMessage) (tx : SipTransaction) :
    Reply → Prop where
  | busy (hnew : gw.registry.getCall msg.getCallId = none) (hfull : gw.isFull = true) :
      Invited gw env msg tx
        { gateway := gw
          transaction := tx.sendResponse (busyHere env msg) (env.now 1)
          sent := [busyHere env msg] }
  | answered (gw₁ gw₂ : Gateway) (session : CallSession) (sdp : SdpSession) (res : SipMessage)
      (hopen : gw.openCall env msg = some (gw₁, session))
      (hsdp : SdpParser.parse msg.body = .ok (some sdp))
      (hanswer : gw₁.answerOffer env msg session sdp = .ok (gw₂, res)) :
      Invited gw env msg tx
        { gateway := gw₂
          transaction :=
            (tx.sendResponse (trying env msg) (env.now 1)).sendResponse res (env.now 2)
          sent := [trying env msg, res] }

theorem handleInvite_invited {tx : SipTransaction} {r : Reply}
    (h : gw.handleInvite env msg tx = .ok r) : Invited gw env msg tx r := by
  unfold handleInvite at h
  split at h
  · next hnone =>
    obtain ⟨hnew, hfull⟩ := openCall_none hnone
    cases h
    exact Invited.busy hnew hfull
  · next gw₁ session hopen =>
    cases hparse : SdpParser.parse msg.body with
    | error e => rw [hparse] at h; cases h
    | ok o =>
      obtain ⟨sdp, rfl⟩ := SdpParser.parse_some hparse
      rw [hparse] at h
      cases hanswer : gw₁.answerOffer env msg session sdp with
      | error cause => simp [hanswer] at h
      | ok p =>
        simp only [hanswer, Except.ok.injEq] at h
        subst h
        exact Invited.answered gw₁ p.1 session sdp p.2 hopen hparse hanswer

/-! ## A request -/

/-- The final status codes the gateway uses. -/
def IsFinal (res : SipMessage) : Prop := 200 ≤ res.statusCode ∧ res.statusCode ≤ 699

/-- What the execution of a request comes to, as its transaction sees it. -/
structure Replied (gw : Gateway) (env : Env) (msg : SipMessage) (tx : SipTransaction) (r : Reply) :
    Prop where
  frame : SameFrame gw r.gateway
  answered : ∃ res, IsFinal res ∧ (msg.method = .unknown → res.statusCode = 501) ∧
    ((¬ Admitted gw msg ∧ r.sent = [res] ∧ r.transaction = tx.sendResponse res (env.now 1)) ∨
     (Admitted gw msg ∧ r.sent = [trying env msg, res] ∧
      r.transaction = (tx.sendResponse (trying env msg) (env.now 1)).sendResponse res (env.now 2)))

theorem answerOffer_frame {session : CallSession} {sdp : SdpSession} {r : Gateway × SipMessage}
    (h : gw.answerOffer env msg session sdp = .ok r) :
    SameFrame gw r.1 ∧ IsFinal r.2 := by
  unfold answerOffer at h
  dsimp only at h
  split at h
  · cases h; exact ⟨⟨rfl, rfl, rfl⟩, by simp [IsFinal]⟩
  · split at h
    · cases h; exact ⟨⟨rfl, rfl, rfl⟩, by simp [IsFinal]⟩
    · simp only [bind, Except.bind, pure, Except.pure] at h
      split at h
      · cases h
      · cases h; exact ⟨⟨rfl, rfl, rfl⟩, by simp [IsFinal, okResponse]⟩

theorem simpleBranch_code (gw : Gateway) (msg : SipMessage) :
    200 ≤ (gw.simpleBranch msg).1 ∧ (gw.simpleBranch msg).1 ≤ 699 ∧
    (msg.method = .unknown → (gw.simpleBranch msg).1 = 501) := by
  unfold simpleBranch
  cases msg.method <;> simp

/-- **Every executed request gets one final response, behind a 100 if it is an admitted INVITE.** -/
theorem execute_replied {tx : SipTransaction} {r : Reply} (h : gw.execute env msg tx = .ok r) :
    Replied gw env msg tx r := by
  unfold execute at h
  split at h
  · next hinv =>
    have hknown : ∀ res : SipMessage, msg.method = .unknown → res.statusCode = 501 := by
      intro _ hu
      rw [hinv] at hu
      cases hu
    cases handleInvite_invited h with
    | busy hnew hfull =>
      refine ⟨SameFrame.refl gw, busyHere env msg, by simp [IsFinal, busyHere], hknown _,
        Or.inl ⟨?_, rfl, rfl⟩⟩
      rintro ⟨-, hreg | hroom⟩
      · exact hreg hnew
      · rw [hfull] at hroom; cases hroom
    | answered gw₁ gw₂ session sdp res hopen hsdp hanswer =>
      obtain ⟨hframe, hfinal⟩ := answerOffer_frame hanswer
      have hopened := openCall_sameFrame hopen
      refine ⟨⟨hframe.transactions.trans hopened.transactions, hframe.config.trans hopened.config,
        hframe.lastCleanup.trans hopened.lastCleanup⟩, res, hfinal, hknown _,
        Or.inr ⟨⟨hinv, ?_⟩, rfl, rfl⟩⟩
      rcases openCall_some hopen with ⟨hreg, -⟩ | ⟨-, hroom, -⟩
      · exact Or.inl (by rw [hreg]; simp)
      · exact Or.inr hroom
  · next hinv =>
    obtain ⟨hlow, hhigh, hunknown⟩ := simpleBranch_code gw msg
    simp only [Except.ok.injEq] at h
    subst h
    exact ⟨simpleBranch_sameFrame gw msg, _, by simp [IsFinal, hlow, hhigh],
      fun hu => by rw [createResponse_statusCode, hunknown hu],
      Or.inl ⟨fun ha => hinv ha.1, rfl, rfl⟩⟩

/-! ## The dispatcher -/

/-- The ways `handleSipMessage` can end. -/
inductive Handled (gw : Gateway) (env : Env) (msg : SipMessage) (sender : SockAddr) :
    Gateway × List Sent → Prop where
  | ignored (hid : msg.getCallId = []) : Handled gw env msg sender (gw, [])
  | resent (hid : msg.getCallId ≠ []) (hreq : msg.isRequest = true) (sent : List SipMessage)
      (hsent : gw.retransmission msg = some sent) :
      Handled gw env msg sender (gw, sent.map (·, sender))
  | acked (hid : msg.getCallId ≠ []) (hreq : msg.isRequest = true) (hack : msg.method = .ack)
      (hnone : gw.retransmission msg = none) : Handled gw env msg sender (gw.handleAck env msg, [])
  | executed (hid : msg.getCallId ≠ []) (hreq : msg.isRequest = true) (hack : msg.method ≠ .ack)
      (hnew : gw.transactions[msg.txKey]? = none) (r : Reply)
      (hr : gw.execute env msg (SipTransaction.create msg (env.now 0)) = .ok r) :
      Handled gw env msg sender
        ({ r.gateway with transactions := gw.transactions.insert msg.txKey r.transaction },
          r.sent.map (·, sender))
  | response (hid : msg.getCallId ≠ []) (hreq : msg.isRequest = false) :
      Handled gw env msg sender (gw.handleResponse env msg, [])

/-- Only a request whose key is free is executed. -/
theorem retransmission_eq_none (hack : msg.method ≠ .ack) (h : gw.retransmission msg = none) :
    gw.transactions[msg.txKey]? = none := by
  unfold retransmission at h
  split at h
  · next hnone => exact hnone
  · split at h
    · cases h
    · rw [if_pos hack] at h
      cases h

/-- A session that goes at the end of the handler can only end the process. -/
theorem leave_ok {callId : Bytes} {r r' : Reply} (h : gw.leave callId r = .ok r') : r' = r := by
  unfold leave at h
  split at h
  · split at h
    · cases h
    · simpa using h.symm
  · simpa using h.symm

/-- **Every run of the dispatcher is one of the five.** -/
theorem handleSipMessage_handled {r : Gateway × List Sent}
    (h : gw.handleSipMessage env msg sender = .ok r) : Handled gw env msg sender r := by
  unfold handleSipMessage at h
  split at h
  · next hid =>
    cases h
    exact Handled.ignored (List.isEmpty_iff.mp hid)
  · next hid =>
    rw [List.isEmpty_iff] at hid
    split at h
    · next hreq =>
      split at h
      · next sent hsent =>
        cases h
        exact Handled.resent hid hreq sent hsent
      · next hnone =>
        split at h
        · next hack =>
          cases h
          exact Handled.acked hid hreq hack hnone
        · next hack =>
          simp only [bind, Except.bind, pure, Except.pure] at h
          split at h
          · cases h
          · next r hr =>
            split at h
            · cases h
            · next r' hleave =>
              cases h
              obtain rfl := leave_ok hleave
              rw [(execute_replied hr).frame.transactions]
              exact Handled.executed hid hreq hack (retransmission_eq_none hack hnone) r' hr
    · next hreq =>
      cases h
      exact Handled.response hid (by simpa using hreq)

/-- A non-ACK request whose key is in the table changes nothing. -/
theorem handleSipMessage_of_stored (hid : msg.getCallId ≠ []) (hreq : msg.isRequest = true)
    (hack : msg.method ≠ .ack) {tx : SipTransaction}
    (htx : gw.transactions[msg.txKey]? = some tx) :
    gw.handleSipMessage env msg sender =
      .ok (gw, if tx.shouldResendResponse msg = true
        then tx.lastResponse.toList.map (·, sender) else []) := by
  unfold handleSipMessage retransmission
  rw [if_neg (by rwa [List.isEmpty_iff]), if_pos hreq, htx]
  dsimp only
  by_cases hres : tx.shouldResendResponse msg = true
  · rw [if_pos hres, if_pos hres]
    cases tx.lastResponse with
    | none => simp [hack]
    | some res => rfl
  · rw [if_neg hres, if_neg hres]
    simp [hack]

end Gateway

end SipGateway
