import SipGateway.Properties.Isolation

/-!
# Which transaction a response finds

The dispatcher looks a response up under its Call-ID, its branch and the method of the message,
which the parser fills in requests only. `responses_find_iff` says when a response finds its
transaction all the same, and no other: when its CSeq names no method.
-/

namespace SipGateway

open Infra

/-- A response answers a request with its Call-ID, its branch and the method of its CSeq. -/
def ExecutedRequest.AnsweredBy (x : ExecutedRequest) (msg : SipMessage) : Prop :=
  msg.getCallId = x.callId ∧ msg.getBranch = x.branch ∧ msg.getCSeqMethodStr = x.method

instance (x : ExecutedRequest) (msg : SipMessage) : Decidable (x.AnsweredBy msg) :=
  inferInstanceAs (Decidable (_ ∧ _ ∧ _))

/-! ## The dispatcher on a response -/

/-- The key of a response has no method. -/
theorem txKey_of_response {msg : Received} (hres : msg.val.isRequest = false) :
    msg.val.txKey = makeKey msg.val.getCallId msg.val.getBranch [] := by
  unfold SipMessage.txKey
  rw [(msg.property.response hres).2]

theorem handleSipMessage_response {gw : Gateway} {msg : SipMessage}
    (hres : msg.isRequest = false) (env : Env) (sender : SockAddr) :
    gw.handleSipMessage env msg sender =
      .ok (if msg.getCallId = [] then gw else gw.handleResponse env msg, []) := by
  unfold Gateway.handleSipMessage
  rw [hres]
  by_cases hid : msg.getCallId = []
  · rw [if_pos (List.isEmpty_iff.mpr hid), if_pos hid]
  · rw [if_neg (by rwa [List.isEmpty_iff]), if_neg Bool.false_ne_true, if_neg hid]

/-- A transaction notes when it got a response. -/
theorem receiveResponse_ne {tx : SipTransaction} {now : Nat} (h : tx.lastActive < now)
    (msg : SipMessage) : tx.receiveResponse msg now ≠ tx := by
  intro heq
  have hactive := congrArg SipTransaction.lastActive heq
  rw [SipTransaction.receiveResponse_lastActive] at hactive
  omega

namespace World

/-- **A response finds its transaction**, and no other. -/
structure Delivers (w : World) (msg : SipMessage) : Prop where
  /-- the transaction it answers gets it -/
  passed : ∀ x ∈ w.executed, x.stored = true → x.AnsweredBy msg → ∀ env sender,
    w.clock ≤ env.start → ∃ r, w.gateway.handleSipMessage env msg sender = .ok r ∧
      r.1.transactions = w.gateway.transactions.insert x.key
        (x.transaction.receiveResponse msg (env.now 0))
  /-- if there is none, nothing changes -/
  ignored : (∀ x ∈ w.executed, x.stored = true → ¬ x.AnsweredBy msg) → ∀ env sender,
    w.clock ≤ env.start → ∃ r, w.gateway.handleSipMessage env msg sender = .ok r ∧
      r.1.transactions = w.gateway.transactions

/-- The response names no method, or answers nothing and looks like no answer. -/
structure Findable (w : World) (msg : SipMessage) : Prop where
  noMethod : ∀ x ∈ w.executed, x.stored = true → x.AnsweredBy msg → msg.getCSeqMethodStr = []
  /-- an unexpected response has not the pieces of a stored request -/
  unexpected : msg.getCallId ≠ [] → (∀ x ∈ w.executed, x.stored = true → ¬ x.AnsweredBy msg) →
    ∀ x ∈ w.executed, x.stored = true →
      idPieces msg.getCallId msg.getBranch [] ≠ idPieces x.callId x.branch x.method

section

variable {config : Config} {hardwareConcurrency : Nat} {w : World} {msg : Received}

theorem Findable.delivers (hw : (machine config hardwareConcurrency).Reachable w)
    (hres : msg.val.isRequest = false) (h : w.Findable msg.val) : w.Delivers msg.val where
  passed x hx hst hans env sender _ := by
    have hok := (transactionInv hw).records x hx
    obtain ⟨hc, hb, hm⟩ := hans
    have hkey : msg.val.txKey = x.key := by
      rw [txKey_of_response hres, hc, hb, ← h.noMethod x hx hst ⟨hc, hb, hm⟩, hm]
      rfl
    refine ⟨_, handleSipMessage_response hres env sender, ?_⟩
    rw [if_neg (hc ▸ hok.callId)]
    unfold Gateway.handleResponse
    rw [hkey, hok.stored hst]
  ignored hno env sender _ := by
    refine ⟨_, handleSipMessage_response hres env sender, ?_⟩
    by_cases hid : msg.val.getCallId = []
    · rw [if_pos hid]
    · rw [if_neg hid]
      unfold Gateway.handleResponse
      cases htx : w.gateway.transactions[msg.val.txKey]? with
      | none => rfl
      | some tx =>
        obtain ⟨x, hx, hst, hk⟩ := (transactionInv hw).complete _ tx htx
        rw [txKey_of_response hres] at hk
        exact absurd (makeKey_eq_iff.mp hk.symm) (h.unexpected hid hno x hx hst)

/-- What the dispatcher makes of a stored transaction, at a time that is new to it. -/
theorem response_lookup (hw : (machine config hardwareConcurrency).Reachable w)
    (hres : msg.val.isRequest = false) (hid : msg.val.getCallId ≠ []) {x : ExecutedRequest}
    (hx : x ∈ w.executed) (hst : x.stored = true) {env : Env} {sender : SockAddr}
    {r : Gateway × List Sent}
    (hr : w.gateway.handleSipMessage env msg.val sender = .ok r) :
    r.1.transactions[x.key]? = some (if x.key = msg.val.txKey
      then x.transaction.receiveResponse msg.val (env.now 0) else x.transaction) := by
  rw [handleSipMessage_response hres, if_neg hid] at hr
  cases hr
  rw [handleResponse_lookup, ((transactionInv hw).records x hx).stored hst]
  split <;> rfl

/-- There are times new to a transaction. -/
theorem exists_later (w : World) (tx : SipTransaction) :
    ∃ env : Env, w.clock ≤ env.start ∧ tx.lastActive < env.now 0 := by
  refine ⟨{ start := w.clock + tx.lastActive + 1 }, ?_, ?_⟩
  · show w.clock ≤ w.clock + tx.lastActive + 1
    omega
  · show tx.lastActive < w.clock + tx.lastActive + 1
    omega

theorem Delivers.findable (hw : (machine config hardwareConcurrency).Reachable w)
    (hres : msg.val.isRequest = false) (h : w.Delivers msg.val) : w.Findable msg.val where
  noMethod x hx hst hans := by
    have hid : msg.val.getCallId ≠ [] := hans.1 ▸ ((transactionInv hw).records x hx).callId
    obtain ⟨env, hclock, hlate⟩ := w.exists_later x.transaction
    obtain ⟨r, hr, htable⟩ := h.passed x hx hst hans env {} hclock
    have hfound := response_lookup hw hres hid hx hst hr
    rw [htable, getElem?_insert_key, if_pos rfl] at hfound
    by_cases hkey : x.key = msg.val.txKey
    · rw [txKey_of_response hres, hans.1, hans.2.1] at hkey
      exact hans.2.2.trans (List.append_cancel_left hkey)
    · rw [if_neg hkey] at hfound
      exact absurd (Option.some.inj hfound) (receiveResponse_ne hlate msg.val)
  unexpected hid hno x hx hst hpieces := by
    obtain ⟨env, hclock, hlate⟩ := w.exists_later x.transaction
    obtain ⟨r, hr, htable⟩ := h.ignored hno env {} hclock
    have hkey : x.key = msg.val.txKey := by
      rw [txKey_of_response hres]
      exact makeKey_eq_iff.mpr hpieces.symm
    have hfound := response_lookup hw hres hid hx hst hr
    rw [htable, ((transactionInv hw).records x hx).stored hst, if_pos hkey] at hfound
    exact absurd (Option.some.inj hfound).symm (receiveResponse_ne hlate msg.val)

/--
**When a response finds its transaction, and no other**: when the method of its CSeq is empty, or
it answers no stored request and its Call-ID and branch do not look like the whole of one.
-/
theorem responses_find_iff (hw : (machine config hardwareConcurrency).Reachable w)
    (hres : msg.val.isRequest = false) : w.Delivers msg.val ↔ w.Findable msg.val :=
  ⟨Delivers.findable hw hres, Findable.delivers hw hres⟩

end

/-! ## Two responses -/

/-- A `200` with the Call-ID and the branch of `exampleOptions`, and this CSeq. -/
def exampleResponse (cseq : Bytes) : Received where
  val := (((({ statusCode := 200, statusPhrase := bytes "OK" } : SipMessage).addHeader
    (bytes "Via") (bytes "SIP/2.0/UDP 10.0.0.1;branch=b")).addHeader (bytes "Call-ID")
      (bytes "call")).addHeader (bytes "CSeq") cseq)
  property := ⟨nofun, fun _ => ⟨rfl, rfl⟩⟩

theorem responses_find_iff_other :
    (exampleRun [⟨{ start := 0 }, .sip exampleOptions {}⟩]).Delivers
        (exampleResponse (bytes "1 INVITE")).val ↔
      (exampleRun [⟨{ start := 0 }, .sip exampleOptions {}⟩]).Findable
        (exampleResponse (bytes "1 INVITE")).val :=
  responses_find_iff (exampleRun_reachable (by decide +kernel)) rfl

/-- The response to a stored OPTIONS request: its transaction is not found. -/
theorem response_unknown :
    ∃ (w : World) (x : ExecutedRequest), (machine exampleConfig 1).Reachable w ∧
      x ∈ w.executed ∧ x.stored = true ∧
      SipParser.parse (bytes ("SIP/2.0 200 OK\r\nVia: SIP/2.0/UDP 10.0.0.1;branch=b\r\n" ++
        "Call-ID: call\r\nCSeq: 1 OPTIONS\r\n\r\n")) =
          .ok (some (exampleResponse (bytes "1 OPTIONS")).val) ∧
      x.AnsweredBy (exampleResponse (bytes "1 OPTIONS")).val ∧
      (w.gateway.handleSipMessage { start := 5 } (exampleResponse (bytes "1 OPTIONS")).val
        {}).toOption.map (·.1.transactions[x.key]?) = some (some x.transaction) ∧
      ¬ w.Delivers (exampleResponse (bytes "1 OPTIONS")).val := by
  set w := exampleRun [⟨{ start := 0 }, .sip exampleOptions {}⟩] with hw
  have hreach : (machine exampleConfig 1).Reachable w := exampleRun_reachable (by decide +kernel)
  obtain ⟨x, hx, hp⟩ := List.any_eq_true.mp (show w.executed.any (fun x =>
      x.stored ∧ x.AnsweredBy (exampleResponse (bytes "1 OPTIONS")).val ∧
      (w.gateway.handleSipMessage { start := 5 } (exampleResponse (bytes "1 OPTIONS")).val
        {}).toOption.map (·.1.transactions[x.key]?) = some (some x.transaction)) = true by
    decide +kernel)
  obtain ⟨hst, hans, hsame⟩ := of_decide_eq_true hp
  refine ⟨w, x, hreach, hx, hst, by decide +kernel, hans, hsame, fun h => ?_⟩
  exact absurd ((h.findable hreach rfl).noMethod x hx hst hans) (by decide +kernel)

end World

end SipGateway
