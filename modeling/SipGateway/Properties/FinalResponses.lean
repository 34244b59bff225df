import SipGateway.Properties.Calls

/-!
# One final response for each executed request

An executed request gets one final response, which its transaction remembers, unless the process
ends before it is sent. Beside the exceptions there is one way: an INVITE starts a new pipeline
where the reader loop of the old client has ended by itself. The new client is assigned over the
old one, whose `stop` does nothing any more, and the `std::thread` in it is still joinable.

`executed_answered_iff`: there and only there the final response is missing.
-/

namespace SipGateway

open Infra

namespace Gateway

variable {gw : Gateway} {env : Env} {msg : SipMessage} {sender : SockAddr}

/-! ## Where the process ends -/

/--
The INVITE starts a new pipeline for a call whose client has ended by itself: the call is
registered, there is a port for it, and the offer has a codec.
-/
def ReplacesEnded (gw : Gateway) (env : Env) (msg : SipMessage) : Prop :=
  msg.method = .invite ∧ ∃ session sdp, gw.registry.getCall msg.getCallId = some session ∧
    session.ClientEnded gw.config.mode ∧ SdpParser.parse msg.body = .ok (some sdp) ∧
    gw.rtpServer.finds env.net ≠ none ∧ SdpAnswer.Negotiable sdp gw.config.codecPreference

/-- The answer to an offer drops such a client when it comes to the pipeline. -/
theorem answerOffer_joinable_iff (hs : gw.rtpServer.Sound) {session : CallSession}
    {sdp : SdpSession} : gw.answerOffer env msg session sdp = .error .joinable ↔
      gw.rtpServer.finds env.net ≠ none ∧
      SdpAnswer.Negotiable sdp gw.config.codecPreference ∧
      session.ClientEnded gw.config.mode := by
  have halloc := (RtpServer.allocatePort_spec env.net hs).result
  unfold answerOffer
  dsimp only
  cases hfinds : gw.rtpServer.finds env.net with
  | none =>
    rw [hfinds, Option.getD_none] at halloc
    rw [halloc, if_pos (by decide)]
    simp
  | some p =>
    rw [hfinds, Option.getD_some] at halloc
    rw [halloc, if_neg (by have := (hs.finds_some hfinds).1; omega)]
    have hgen := SdpAnswer.generate_ne_nil_iff sdp gw.config.bindIp p gw.config.codecPreference
    split
    · next hempty =>
      have hoffer : ¬ SdpAnswer.Negotiable sdp gw.config.codecPreference := fun hoffer =>
        hgen.mpr hoffer (List.isEmpty_iff.mp hempty)
      simp [hoffer]
    · next hfull =>
      have hoffer := hgen.mp fun he => hfull (List.isEmpty_iff.mpr he)
      have hjoinable : session.startPipeline env gw.config p sdp.connectionIp (remotePort sdp)
          (SdpAnswer.generate sdp gw.config.bindIp p gw.config.codecPreference).2.payloadType =
            .error .joinable ↔ session.ClientEnded gw.config.mode :=
        CallSession.startPipeline_joinable_iff
      rw [← hjoinable]
      simp only [bind, Except.bind, pure, Except.pure]
      split
      · next cause hstart => simp [hstart, hoffer]
      · next started hstart => simp [hstart]

/-- A session that is new has no client. -/
theorem not_clientEnded_init (callId : Bytes) (sysNow : Nat) (msg : SipMessage)
    (mode : GatewayMode) :
    ¬ ((CallSession.create callId sysNow).init msg).ClientEnded mode := by
  rintro (⟨-, client, hclient, -⟩ | ⟨-, client, hclient, -⟩) <;> cases hclient

/-- Where an INVITE ends the process so, the 100 has been sent and nothing else. -/
theorem handleInvite_joinable_iff (hs : gw.rtpServer.Sound) (hinvite : msg.method = .invite)
    {tx : SipTransaction} {sent : List SipMessage} :
    gw.handleInvite env msg tx = .error { cause := .joinable, sent := sent } ↔
      gw.ReplacesEnded env msg ∧ sent = [trying env msg] := by
  unfold handleInvite
  cases hopen : gw.openCall env msg with
  | none =>
    have hnew := (openCall_none hopen).1
    simp [ReplacesEnded, hnew]
  | some p =>
    obtain ⟨gw₁, session⟩ := p
    dsimp only
    cases hparse : SdpParser.parse msg.body with
    | error e => simp [ReplacesEnded, hparse]
    | ok o =>
      obtain ⟨sdp, rfl⟩ := SdpParser.parse_some hparse
      have hreplaces : gw₁.answerOffer env msg session sdp = .error .joinable ↔
          gw.ReplacesEnded env msg := by
        rcases openCall_some hopen with ⟨hold, rfl⟩ | ⟨hnew, -, rfl, rfl⟩
        · rw [answerOffer_joinable_iff hs]
          unfold ReplacesEnded
          simp only [hinvite, hold, hparse, true_and, Option.some.injEq, Except.ok.injEq]
          constructor
          · rintro ⟨hport, hoffer, hended⟩
            exact ⟨session, sdp, rfl, hended, rfl, hport, hoffer⟩
          · rintro ⟨_, _, rfl, hended, rfl, hport, hoffer⟩
            exact ⟨hport, hoffer, hended⟩
        · rw [answerOffer_joinable_iff (by exact hs)]
          refine iff_of_false (fun h => not_clientEnded_init _ _ _ _ h.2.2) ?_
          rintro ⟨-, session, sdp, hold, -⟩
          rw [hnew] at hold
          cases hold
      rw [← hreplaces]
      dsimp only
      cases hanswer : gw₁.answerOffer env msg session sdp with
      | error cause =>
        simp only [Except.error.injEq, Death.mk.injEq]
        exact and_congr_right' eq_comm
      | ok r => simp

/-! ## What is sent in a step -/

/-- The responses of a step, also of one in which the process ends. -/
def sentIn (gw : Gateway) (env : Env) (msg : SipMessage) (sender : SockAddr) : List Sent :=
  match gw.handleSipMessage env msg sender with
  | .ok r => r.2
  | .error death => death.sent.map (·, sender)

/-- An exception that nobody catches ends the process in the step. -/
def Throws (gw : Gateway) (env : Env) (msg : SipMessage) (sender : SockAddr) : Prop :=
  ∃ e sent, gw.handleSipMessage env msg sender = .error { cause := .uncaught e, sent := sent }

/-- The destructor of a thread that is joinable ends it. -/
def Aborts (gw : Gateway) (env : Env) (msg : SipMessage) (sender : SockAddr) : Bool :=
  match gw.handleSipMessage env msg sender with
  | .error death => death.cause = .joinable
  | .ok _ => false

theorem not_throws_of_aborts (h : gw.Aborts env msg sender = true) :
    ¬ gw.Throws env msg sender := by
  rintro ⟨e, sent, hthrows⟩
  simp [Aborts, hthrows] at h

theorem not_throws_of_isOk (h : (gw.handleSipMessage env msg sender).isOk = true) :
    ¬ gw.Throws env msg sender := by
  rintro ⟨e, sent, hthrows⟩
  rw [hthrows] at h
  cases h

/-- A request that is executed. -/
structure IsNew (gw : Gateway) (msg : SipMessage) : Prop where
  callId : msg.getCallId ≠ []
  request : msg.isRequest = true
  noAck : msg.method ≠ .ack
  free : gw.transactions[msg.txKey]? = none

instance (gw : Gateway) (msg : SipMessage) : Decidable (gw.IsNew msg) :=
  decidable_of_iff (msg.getCallId ≠ [] ∧ msg.isRequest = true ∧ msg.method ≠ .ack ∧
      gw.transactions[msg.txKey]? = none)
    ⟨fun ⟨h1, h2, h3, h4⟩ => ⟨h1, h2, h3, h4⟩, fun ⟨h1, h2, h3, h4⟩ => ⟨h1, h2, h3, h4⟩⟩

theorem retransmission_of_free (h : gw.transactions[msg.txKey]? = none) :
    gw.retransmission msg = none := by
  unfold retransmission
  rw [h]

/-- The dispatcher executes it. -/
theorem IsNew.handleSipMessage_eq (h : gw.IsNew msg) :
    gw.handleSipMessage env msg sender =
      gw.execute env msg (SipTransaction.create msg (env.now 0)) >>= fun r =>
        gw.leave msg.getCallId r >>= fun r =>
          pure ({ r.gateway with
              transactions := r.gateway.transactions.insert msg.txKey r.transaction },
            r.sent.map (·, sender)) := by
  have hid : msg.getCallId.isEmpty = false := by simpa using h.callId
  unfold handleSipMessage
  rw [hid, if_neg Bool.false_ne_true, if_pos h.request, retransmission_of_free h.free]
  dsimp only
  rw [if_neg h.noAck]

/-- What is executed to its end is sent, whatever goes behind it. -/
theorem IsNew.sentIn_of_ok (h : gw.IsNew msg) {r : Reply}
    (hr : gw.execute env msg (SipTransaction.create msg (env.now 0)) = .ok r) :
    gw.sentIn env msg sender = r.sent.map (·, sender) := by
  unfold sentIn
  rw [h.handleSipMessage_eq, hr]
  simp only [bind, Except.bind, pure, Except.pure]
  cases hleave : gw.leave msg.getCallId r with
  | error death =>
    -- `leave` sends nothing, and ends with what was sent before
    unfold leave at hleave
    split at hleave
    · split at hleave <;> cases hleave
      rfl
    · cases hleave
  | ok r' =>
    obtain rfl := leave_ok hleave
    rfl

theorem IsNew.handleSipMessage_of_error (h : gw.IsNew msg) {death : Death}
    (hr : gw.execute env msg (SipTransaction.create msg (env.now 0)) = .error death) :
    gw.handleSipMessage env msg sender = .error death := by
  rw [h.handleSipMessage_eq, hr]
  rfl

/-- Only an INVITE can end the process before it is answered. -/
theorem execute_error {tx : SipTransaction} {death : Death}
    (h : gw.execute env msg tx = .error death) :
    msg.method = .invite ∧ gw.handleInvite env msg tx = .error death := by
  unfold execute at h
  split at h
  · next hinvite => exact ⟨hinvite, h⟩
  · cases h

/-- The responses of a step: one final one, behind a 100 if the request is an admitted INVITE. -/
def OneFinal (gw : Gateway) (msg : SipMessage) (sender : SockAddr) (sent : List Sent)
    (res : SipMessage) : Prop :=
  200 ≤ res.statusCode ∧
    ((gw.Admitted msg ∧ ∃ prov, prov.statusCode = 100 ∧ sent = [(prov, sender), (res, sender)]) ∨
     (¬ gw.Admitted msg ∧ sent = [(res, sender)]))

/-- The step sends one final response, and the transaction that is stored then remembers it. -/
def AnswersOnce (gw : Gateway) (env : Env) (msg : SipMessage) (sender : SockAddr) : Prop :=
  ∃ res, OneFinal gw msg sender (gw.sentIn env msg sender) res ∧
    ∀ r, gw.handleSipMessage env msg sender = .ok r →
      ∃ tx : SipTransaction, r.1.transactions[msg.txKey]? = some tx ∧ tx.lastResponse = some res

/-- What is executed to its end is answered once. -/
theorem IsNew.answersOnce (h : gw.IsNew msg) {rep : Reply}
    (hrep : gw.execute env msg (SipTransaction.create msg (env.now 0)) = .ok rep) :
    gw.AnswersOnce env msg sender := by
  obtain ⟨-, res, hfinal, -, hcases⟩ := execute_replied hrep
  refine ⟨res, ⟨hfinal.1, ?_⟩, fun r hr => ?_⟩
  · rw [h.sentIn_of_ok hrep]
    rcases hcases with ⟨hadm, hsent, -⟩ | ⟨hadm, hsent, -⟩
    · exact Or.inr ⟨hadm, by rw [hsent]; rfl⟩
    · exact Or.inl ⟨hadm, trying env msg, createResponse_statusCode _ _ _ _, by rw [hsent]; rfl⟩
  · cases handleSipMessage_handled hr with
    | ignored hempty => exact absurd hempty h.callId
    | resent _ _ sent hsent => rw [retransmission_of_free h.free] at hsent; cases hsent
    | acked _ _ hack _ => exact absurd hack h.noAck
    | response _ hres => rw [h.request] at hres; cases hres
    | executed _ _ _ _ rep' hrep' =>
      rw [hrep] at hrep'
      cases hrep'
      refine ⟨rep.transaction, by rw [getElem?_insert_key, if_pos rfl], ?_⟩
      rcases hcases with ⟨-, -, he⟩ | ⟨-, -, he⟩ <;> rw [he] <;>
        exact SipTransaction.sendResponse_lastResponse _ _ _

/-- A 100 alone is no answer. -/
theorem not_oneFinal_of_codes {sent : List Sent} {res : SipMessage}
    (h : sent.map (·.1.statusCode) = [100]) : ¬ OneFinal gw msg sender sent res := by
  rintro ⟨hfinal, ⟨-, prov, -, rfl⟩ | ⟨-, rfl⟩⟩
  · simp at h
  · simp only [List.map_cons, List.map_nil, List.cons.injEq, and_true] at h
    omega

/-- **When a request is answered once**, if nothing is thrown. -/
theorem IsNew.answersOnce_iff (h : gw.IsNew msg) (hs : gw.rtpServer.Sound)
    (hthrows : ¬ gw.Throws env msg sender) :
    gw.AnswersOnce env msg sender ↔ ¬ gw.ReplacesEnded env msg := by
  cases hrep : gw.execute env msg (SipTransaction.create msg (env.now 0)) with
  | ok rep =>
    refine iff_of_true (h.answersOnce hrep) fun hreplaces => ?_
    have hdies : gw.handleInvite env msg (SipTransaction.create msg (env.now 0)) =
        .error { cause := .joinable, sent := [trying env msg] } :=
      (handleInvite_joinable_iff hs hreplaces.1).mpr ⟨hreplaces, rfl⟩
    rw [execute, if_pos hreplaces.1, hdies] at hrep
    cases hrep
  | error death =>
    obtain ⟨hinvite, hdies⟩ := execute_error hrep
    have hhandle : gw.handleSipMessage env msg sender = .error death :=
      h.handleSipMessage_of_error hrep
    obtain ⟨cause, sent⟩ := death
    cases cause with
    | uncaught e => exact absurd ⟨e, sent, hhandle⟩ hthrows
    | joinable =>
      obtain ⟨hreplaces, rfl⟩ := (handleInvite_joinable_iff hs hinvite).mp hdies
      have hcodes : (gw.sentIn env msg sender).map (·.1.statusCode) = [100] := by
        unfold sentIn
        rw [hhandle]
        simp [trying]
      refine iff_of_false ?_ fun hno => hno hreplaces
      rintro ⟨res, hone, -⟩
      exact not_oneFinal_of_codes hcodes hone

end Gateway

namespace World

open Gateway

/-! ## What the table remembers -/

/-- What a stored transaction knows of the request `x` it was created for. -/
structure Remembers (w : World) (tx : SipTransaction) (x : ExecutedRequest) (res : SipMessage) :
    Prop where
  answer : w.answerOf x = some res
  last : tx.lastResponse = some res
  final : 200 ≤ res.statusCode
  terminated : tx.state = .terminated ↔ x.method = bytes "INVITE" ∧ res.statusCode < 300
  otherwise : tx.state ≠ .terminated → tx.state = .completed ∨ tx.state = .confirmed
  confirmed : tx.state = .confirmed →
    x.method = bytes "INVITE" ∧ 300 ≤ res.statusCode ∧ w.AckedAfter x

/--
Every executed request is answered once, unless it replaces a client that has ended by itself; the
table remembers the answer.
-/
structure AnsweredOnce (w : World) : Prop where
  executed : ∀ env msg sender, w.gateway.IsNew msg → ¬ w.gateway.Throws env msg sender →
    (w.gateway.AnswersOnce env msg sender ↔ ¬ w.gateway.ReplacesEnded env msg)
  table : ∀ (k : Bytes) (tx : SipTransaction), w.gateway.transactions[k]? = some tx →
    ∃ x ∈ w.executed, x.stored = true ∧ x.key = k ∧ x.transaction = tx ∧
      ∃ res, w.Remembers tx x res
  ack : ∀ env msg sender, msg.isRequest = true → msg.method = .ack →
    w.gateway.transactions[msg.txKey]? = none → w.gateway.sentIn env msg sender = []

theorem RecordOk.remembers {w : World} {x : ExecutedRequest} (h : w.RecordOk x) :
    ∃ res, w.Remembers x.transaction x res := by
  obtain ⟨res, hset⟩ := h.settled
  have hinvite : x.transaction.isInviteTransaction = true ↔ x.method = bytes "INVITE" := by
    unfold SipTransaction.isInviteTransaction
    rw [h.method, decide_eq_true_eq]
  have hcases : (x.method = bytes "INVITE" ∧ res.statusCode < 300 ∧
        x.transaction.state = .terminated) ∨
      (x.method = bytes "INVITE" ∧ 300 ≤ res.statusCode ∧
        (x.transaction.state = .completed ∨ x.transaction.state = .confirmed)) ∨
      (x.method ≠ bytes "INVITE" ∧ x.transaction.state = .completed) := by
    by_cases hm : x.method = bytes "INVITE"
    · rcases lt_or_ge res.statusCode 300 with hok | hbad
      · exact Or.inl ⟨hm, hok, hset.success (hinvite.mpr hm) hok⟩
      · exact Or.inr (Or.inl ⟨hm, hbad, hset.failure (hinvite.mpr hm) hbad⟩)
    · refine Or.inr (Or.inr ⟨hm, hset.other ?_⟩)
      rw [← Bool.not_eq_true, hinvite]
      exact hm
  refine ⟨res, h.answer.trans hset.last, hset.last, hset.final.1, ?_, ?_, ?_⟩
  · rcases hcases with ⟨hm, hok, hst⟩ | ⟨hm, hbad, hst | hst⟩ | ⟨hm, hst⟩ <;> rw [hst]
    · simp [hm, hok]
    · simp [Int.not_lt.mpr hbad]
    · simp [Int.not_lt.mpr hbad]
    · simp [hm]
  · intro hne
    rcases hcases with ⟨-, -, hst⟩ | ⟨-, -, hst⟩ | ⟨-, hst⟩
    · exact absurd hst hne
    · exact hst
    · exact Or.inl hst
  · intro hconf
    rcases hcases with ⟨-, -, hst⟩ | ⟨hm, hbad, -⟩ | ⟨-, hst⟩
    · rw [hst] at hconf; cases hconf
    · exact ⟨hm, hbad, h.confirmed hconf⟩
    · rw [hst] at hconf; cases hconf

/--
**Each executed request gets exactly one final response, and the table remembers it**, unless it
replaces a client that has ended by itself: then it gets none.
-/
theorem executed_answered_iff {config : Config} {hardwareConcurrency : Nat} {w : World}
    (hw : (machine config hardwareConcurrency).Reachable w) : w.AnsweredOnce where
  executed env msg sender hnew hthrows := hnew.answersOnce_iff (callInv hw).ports.sound hthrows
  table k tx htx := by
    have hinv := transactionInv hw
    obtain ⟨x, hx, hst, hkey⟩ := hinv.complete k tx htx
    have h := hinv.records x hx
    have htx' : x.transaction = tx := by
      have hget := h.stored hst
      rw [hkey, htx] at hget
      exact (Option.some.inj hget).symm
    obtain ⟨res, hres⟩ := h.remembers
    exact ⟨x, hx, hst, hkey, htx', res, htx' ▸ hres⟩
  ack env msg sender hreq hack hnew := by
    have hnone := retransmission_of_free hnew
    unfold sentIn handleSipMessage
    split
    · next r hr =>
      rw [if_pos hreq, hnone] at hr
      simp only [if_pos hack] at hr
      split at hr <;> cases hr <;> rfl
    · next death hdeath =>
      rw [if_pos hreq, hnone] at hdeath
      simp only [if_pos hack] at hdeath
      split at hdeath <;> cases hdeath

/-! ## A bot that hangs up -/

/-- The gateway for a bot, with two ports and one codec. -/
def exampleBotConfig : Config := { exampleConfig with mode := .grpc }

/-- A call is accepted, and then the bot closes the stream. -/
def exampleHangup : List Event :=
  [⟨{ start := 0 }, .sip (exampleInvite (bytes "b")) {}⟩,
    ⟨{ start := 1 }, .media (bytes "call") .readerEnds⟩]

/-- The next INVITE for the call. -/
def exampleReinvite : SipMessage := (exampleInvite (bytes "c")).val

theorem exists_hungUp {p : World → Bool} (h : ((machine exampleBotConfig 1).replay
      (start exampleBotConfig 1) exampleHangup).any p = true) :
    ∃ w, (machine exampleBotConfig 1).Reachable w ∧ p w = true := by
  obtain ⟨w, hw, hp⟩ := (Option.any_eq_true _ _).mp h
  exact ⟨w, Machine.replay_reach _ (fun _ _ _ => trivial) (Machine.Reach.init rfl) hw, hp⟩

/-- It is executed, and ends the process behind the 100. -/
def dropsBot (w : World) : Bool :=
  w.gateway.IsNew exampleReinvite && w.gateway.Aborts { start := 2 } exampleReinvite {} &&
    (w.gateway.sentIn { start := 2 } exampleReinvite {}).map (·.1.statusCode) = [100]

theorem dropsBot_iff {w : World} : w.dropsBot = true ↔ w.gateway.IsNew exampleReinvite ∧
    w.gateway.Aborts { start := 2 } exampleReinvite {} = true ∧
    (w.gateway.sentIn { start := 2 } exampleReinvite {}).map (·.1.statusCode) = [100] := by
  unfold dropsBot
  simp only [Bool.and_eq_true, decide_eq_true_eq, and_assoc]

/-- **A new INVITE after the bot has hung up gets no final response**, and nothing is thrown. -/
theorem reinvite_unanswered :
    ∃ w : World, (machine exampleBotConfig 1).Reachable w ∧ w.gateway.IsNew exampleReinvite ∧
      ¬ w.gateway.Throws { start := 2 } exampleReinvite {} ∧
      ¬ ∃ res, OneFinal w.gateway exampleReinvite {}
        (w.gateway.sentIn { start := 2 } exampleReinvite {}) res := by
  obtain ⟨w, hw, hdrops⟩ := exists_hungUp (p := dropsBot) (by decide +kernel)
  obtain ⟨hnew, haborts, hcodes⟩ := dropsBot_iff.mp hdrops
  exact ⟨w, hw, hnew, not_throws_of_aborts haborts,
    fun ⟨res, hone⟩ => not_oneFinal_of_codes hcodes hone⟩

/-- There the INVITE replaces an ended client, and an OPTIONS request is answered. -/
theorem executed_answered_iff_hungUp :
    ∃ w : World, w.AnsweredOnce ∧ w.gateway.ReplacesEnded { start := 2 } exampleReinvite ∧
      w.gateway.AnswersOnce { start := 2 } exampleOptions.val {} := by
  obtain ⟨w, hw, hp⟩ := exists_hungUp (p := fun w => w.dropsBot &&
    w.gateway.IsNew exampleOptions.val &&
    (w.gateway.handleSipMessage { start := 2 } exampleOptions.val {}).isOk) (by decide +kernel)
  simp only [Bool.and_eq_true, decide_eq_true_eq] at hp
  obtain ⟨⟨hdrops, hnew⟩, hok⟩ := hp
  obtain ⟨hnew', haborts, hcodes⟩ := dropsBot_iff.mp hdrops
  have h := executed_answered_iff hw
  refine ⟨w, h, ?_, ?_⟩
  · by_contra hno
    obtain ⟨res, hone, -⟩ :=
      (h.executed _ _ {} hnew' (not_throws_of_aborts haborts)).mpr hno
    exact not_oneFinal_of_codes hcodes hone
  · refine (h.executed _ _ {} hnew (not_throws_of_isOk hok)).mpr fun hreplaces => ?_
    have hmethod : exampleOptions.val.method = .options := by decide +kernel
    rw [hreplaces.1] at hmethod
    cases hmethod

end World

end SipGateway
