import SipGateway.App.World

/-!
# Transactions over whole runs

The transaction table against the requests that were executed: every record of an executed
request is either still in the table, settled, or was evicted at least 33 seconds after its last
activity (`RecordOk`), and nothing else is in the table (`TransactionInv`).

From that invariant:

* `retransmission_answered_iff` — which retransmissions are answered
* `executed_at_most_once` — a retransmission within 32 seconds changes nothing
-/

namespace SipGateway

open Infra

/-! ## Settled transactions -/

/-- A transaction whose request got its final response `res`. -/
structure SipTransaction.Settled (tx : SipTransaction) (res : SipMessage) : Prop where
  last : tx.lastResponse = some res
  final : Gateway.IsFinal res
  success : tx.isInviteTransaction = true → res.statusCode < 300 → tx.state = .terminated
  failure : tx.isInviteTransaction = true → 300 ≤ res.statusCode →
    tx.state = .completed ∨ tx.state = .confirmed
  other : tx.isInviteTransaction = false → tx.state = .completed

namespace SipTransaction

variable {tx : SipTransaction} {res msg : SipMessage} {now : Nat}

/-- A final response settles an open transaction. -/
theorem sendResponse_settled (hopen : tx.isOpen = true) (hfinal : Gateway.IsFinal res) :
    (tx.sendResponse res now).Settled res ∧ (tx.sendResponse res now).state ≠ .confirmed := by
  obtain ⟨hlow, hhigh⟩ := hfinal
  have hinvite : (tx.sendResponse res now).isInviteTransaction = tx.isInviteTransaction := by
    simp [isInviteTransaction]
  have hstate : (tx.sendResponse res now).state =
      if tx.isInviteTransaction = true ∧ res.statusCode < 300 then .terminated
      else .completed := by
    unfold sendResponse
    simp only [isOpen, isInviteTransaction, decide_eq_true_eq, Bool.or_eq_true] at hopen ⊢
    grind
  refine ⟨⟨sendResponse_lastResponse _ _ _, ⟨hlow, hhigh⟩, ?_, ?_, ?_⟩, ?_⟩
  · intro hinv hok
    rw [hstate, if_pos ⟨hinvite ▸ hinv, hok⟩]
  · intro hinv hbad
    rw [hstate, if_neg (by omega)]
    exact Or.inl rfl
  · intro hinv
    rw [hstate, if_neg (by rw [← hinvite, hinv]; simp)]
  · rw [hstate]
    split <;> simp

/-- A provisional response leaves a transaction open. -/
theorem sendResponse_isOpen (hopen : tx.isOpen = true) (hcode : res.statusCode = 100) :
    (tx.sendResponse res now).isOpen = true := by
  unfold sendResponse
  simp only [isOpen, isInviteTransaction, hcode] at hopen ⊢
  grind

theorem create_isOpen (req : SipMessage) (now : Nat) : (create req now).isOpen = true := rfl

/-- A settled transaction stays so under an ACK, which can only confirm a refused INVITE. -/
theorem Settled.receiveRequest (h : tx.Settled res) (msg : SipMessage) (now : Nat) :
    (tx.receiveRequest msg now).Settled res ∧
    ((tx.receiveRequest msg now).state = .confirmed →
      tx.state = .confirmed ∨ msg.method = .ack) := by
  have hsucc := h.success
  have hfail := h.failure
  have hother := h.other
  have hinvite : (tx.receiveRequest msg now).isInviteTransaction = tx.isInviteTransaction := by
    simp [isInviteTransaction]
  have hstate : (tx.receiveRequest msg now).state =
      if tx.isInviteTransaction = true ∧ msg.method = .ack ∧
        (tx.state = .completed ∨ tx.state = .confirmed) then .confirmed else tx.state := by
    unfold SipTransaction.receiveRequest
    simp only [isInviteTransaction]
    grind
  refine ⟨⟨by rw [receiveRequest_lastResponse]; exact h.last, h.final, ?_, ?_, ?_⟩, ?_⟩
  · intro hinv hok
    rw [hinvite] at hinv
    rw [hstate, hsucc hinv hok, if_neg (by simp)]
  · intro hinv hbad
    rw [hinvite] at hinv
    rw [hstate]
    split
    · exact Or.inr rfl
    · exact hfail hinv hbad
  · intro hinv
    rw [hinvite] at hinv
    rw [hstate, if_neg (by simp [hinv])]
    exact hother hinv
  · intro hconf
    rw [hstate] at hconf
    split at hconf
    · next hack => exact Or.inr hack.2.1
    · exact Or.inl hconf

/-- A response cannot move a settled transaction that is no INVITE. -/
theorem Settled.receiveResponse (h : tx.Settled res) (hinv : tx.isInviteTransaction = false)
    (msg : SipMessage) (now : Nat) :
    (tx.receiveResponse msg now).Settled res ∧
    (tx.receiveResponse msg now).state = .completed := by
  have hother := h.other hinv
  have hinvite : (tx.receiveResponse msg now).isInviteTransaction = false := by
    rw [← hinv]
    simp [isInviteTransaction]
  have hstate : (tx.receiveResponse msg now).state = .completed := by
    unfold SipTransaction.receiveResponse
    simp only [isInviteTransaction] at hinv ⊢
    grind
  refine ⟨⟨by rw [receiveResponse_lastResponse]; exact h.last, h.final, ?_, ?_, ?_⟩, hstate⟩
  · intro hi; rw [hinvite] at hi; cases hi
  · intro hi; rw [hinvite] at hi; cases hi
  · exact fun _ => hstate

end SipTransaction

/-! ## Keys -/

/-- A key ends with its method. -/
theorem makeKey_getLast? (callId branch : Bytes) {method : Bytes} (h : method ≠ []) :
    (makeKey callId branch method).getLast? = method.getLast? := by
  unfold makeKey
  rw [List.getLast?_append_of_ne_nil _ h]

/-- The key of a response is never that of an INVITE. -/
theorem makeKey_invite_ne_response (c b c' b' : Bytes) :
    makeKey c b (bytes "INVITE") ≠ makeKey c' b' [] := by
  intro h
  have hlast := congrArg List.getLast? h
  rw [makeKey_getLast? c b (by decide)] at hlast
  unfold makeKey at hlast
  rw [List.append_nil, List.getLast?_append_of_ne_nil _ (by simp)] at hlast
  revert hlast
  decide

/-! ## The invariant -/

namespace World

/-- The last response sent when the request was executed. -/
def answerOf (w : World) (x : ExecutedRequest) : Option SipMessage :=
  w.trace[x.step]?.bind (·.responses.getLast?)

/-- An ACK for the INVITE key of the record, handled after its answer. -/
def AckedAfter (w : World) (x : ExecutedRequest) : Prop :=
  ∃ j entry, x.step < j ∧ w.trace[j]? = some entry ∧ entry.msg.isRequest = true ∧
    entry.msg.method = .ack ∧ entry.msg.inviteTxKey = x.key

/-- What holds of the record of an executed request. -/
structure RecordOk (w : World) (x : ExecutedRequest) : Prop where
  callId : x.callId ≠ []
  branch : x.transaction.branch = x.branch
  method : x.transaction.method = x.method
  step : x.step < w.trace.length
  answer : w.answerOf x = x.transaction.lastResponse
  settled : ∃ res, x.transaction.Settled res
  stored : x.stored = true → w.gateway.transactions[x.key]? = some x.transaction
  evicted : x.stored = false → x.transaction.lastActive + 33000000000 ≤ w.clock
  confirmed : x.transaction.state = .confirmed → w.AckedAfter x
  unknown : SipParser.parseMethod x.method = .unknown →
    ∀ res, x.transaction.lastResponse = some res → res.statusCode = 501

/-- The records against the table. -/
structure TransactionInv (w : World) : Prop where
  records : ∀ x ∈ w.executed, w.RecordOk x
  complete : ∀ k tx, w.gateway.transactions[k]? = some tx →
    ∃ x ∈ w.executed, x.stored = true ∧ x.key = k

/-- What a step can do to the transaction of a stored record. -/
inductive Touched (w w' : World) (x : ExecutedRequest) : Prop where
  | same (h : w'.gateway.transactions[x.key]? = some x.transaction)
  | acked (msg : SipMessage) (now : Nat) (sent : List Sent)
      (h : w'.gateway.transactions[x.key]? = some (x.transaction.receiveRequest msg now))
      (htrace : w'.trace = w.trace ++ [{ msg := msg, sent := sent }])
      (hreq : msg.isRequest = true) (hack : msg.method = .ack) (hkey : msg.inviteTxKey = x.key)
  | response (msg : SipMessage) (now : Nat)
      (h : w'.gateway.transactions[x.key]? = some (x.transaction.receiveResponse msg now))
      (hinv : x.transaction.isInviteTransaction = false)
  | evicted (h : w'.gateway.transactions[x.key]? = none)
      (hage : x.transaction.lastActive + 33000000000 ≤ w'.clock)

theorem answerOf_append {w w' : World} {x : ExecutedRequest} {more : List TraceEntry}
    (htrace : w'.trace = w.trace ++ more) (hstep : x.step < w.trace.length) :
    w'.answerOf x = w.answerOf x := by
  unfold answerOf
  rw [htrace, List.getElem?_append_left hstep]

theorem AckedAfter.append {w w' : World} {x : ExecutedRequest} {more : List TraceEntry}
    (htrace : w'.trace = w.trace ++ more) (h : w.AckedAfter x) : w'.AckedAfter x := by
  obtain ⟨j, entry, hlt, hj, hreq, hack, hkey⟩ := h
  refine ⟨j, entry, hlt, ?_, hreq, hack, hkey⟩
  rw [htrace, List.getElem?_append_left (List.getElem?_eq_some_iff.mp hj).1, hj]

/-- A record that is looked up again after a step. -/
theorem RecordOk.refresh {w : World} {x : ExecutedRequest} (h : w.RecordOk x) (w' : World)
    {more : List TraceEntry} (htrace : w'.trace = w.trace ++ more) (hclock : w.clock ≤ w'.clock)
    (htouched : x.stored = true → Touched w w' x) : w'.RecordOk (x.refresh w'.gateway) := by
  obtain ⟨res, hset⟩ := h.settled
  have hstep : x.step < w'.trace.length := by
    rw [htrace, List.length_append]
    exact Nat.lt_of_lt_of_le h.step (Nat.le_add_right _ _)
  have hanswer : w'.answerOf x = x.transaction.lastResponse :=
    (answerOf_append htrace h.step).trans h.answer
  have hconf : x.transaction.state = .confirmed → w'.AckedAfter x :=
    fun hc => (h.confirmed hc).append htrace
  unfold ExecutedRequest.refresh
  by_cases hst : x.stored = true
  · rw [if_pos hst]
    cases htouched hst with
    | same hget =>
      rw [hget]
      exact ⟨h.callId, h.branch, h.method, hstep, hanswer, ⟨res, hset⟩, fun _ => hget,
        fun hf => absurd (hf.symm.trans hst) (by simp), hconf, h.unknown⟩
    | acked msg now sent hget htr hreq hack hkey =>
      rw [hget]
      obtain ⟨hset', hst'⟩ := hset.receiveRequest msg now
      refine ⟨h.callId, (SipTransaction.receiveRequest_branch _ _ _).trans h.branch,
        (SipTransaction.receiveRequest_method _ _ _).trans h.method, hstep,
        hanswer.trans (SipTransaction.receiveRequest_lastResponse _ _ _).symm, ⟨res, hset'⟩,
        fun _ => hget, fun hf => absurd (hf.symm.trans hst) (by simp), fun hc => ?_, ?_⟩
      · refine ⟨w.trace.length, { msg := msg, sent := sent }, h.step, ?_, hreq, hack, hkey⟩
        rw [htr, List.getElem?_append_right (Nat.le_refl _), Nat.sub_self]
        rfl
      · intro hu r hr
        exact h.unknown hu r ((SipTransaction.receiveRequest_lastResponse _ _ _).symm.trans hr)
    | response msg now hget hinv =>
      rw [hget]
      obtain ⟨hset', hcomp⟩ := hset.receiveResponse hinv msg now
      refine ⟨h.callId, (SipTransaction.receiveResponse_branch _ _ _).trans h.branch,
        (SipTransaction.receiveResponse_method _ _ _).trans h.method, hstep,
        hanswer.trans (SipTransaction.receiveResponse_lastResponse _ _ _).symm, ⟨res, hset'⟩,
        fun _ => hget, fun hf => absurd (hf.symm.trans hst) (by simp), fun hc => ?_, ?_⟩
      · exact absurd (hcomp.symm.trans hc) (by simp)
      · intro hu r hr
        exact h.unknown hu r ((SipTransaction.receiveResponse_lastResponse _ _ _).symm.trans hr)
    | evicted hget hage =>
      rw [hget]
      exact ⟨h.callId, h.branch, h.method, hstep, hanswer, ⟨res, hset⟩, by simp, fun _ => hage,
        hconf, h.unknown⟩
  · -- a record of an evicted transaction is not looked up any more
    rw [if_neg hst]
    refine ⟨h.callId, h.branch, h.method, hstep, hanswer, ⟨res, hset⟩, fun hs => absurd hs hst,
      fun hf => (h.evicted hf).trans hclock, hconf, h.unknown⟩

/-! ## One step -/

theorem handleAck_lookup (gw : Gateway) (env : Env) (msg : SipMessage) (k : Bytes) :
    (gw.handleAck env msg).transactions[k]? =
      if k = msg.inviteTxKey then
        gw.transactions[k]?.map fun tx => tx.receiveRequest msg (env.now 1)
      else gw.transactions[k]? := by
  unfold Gateway.handleAck
  split
  · next tx htx =>
    rw [getElem?_insert_key]
    split
    · next he => rw [he, htx]; rfl
    · rfl
  · next hnone =>
    split
    · next he => rw [he, hnone]; rfl
    · rfl

theorem handleResponse_lookup (gw : Gateway) (env : Env) (msg : SipMessage) (k : Bytes) :
    (gw.handleResponse env msg).transactions[k]? =
      if k = msg.txKey then
        gw.transactions[k]?.map fun tx => tx.receiveResponse msg (env.now 0)
      else gw.transactions[k]? := by
  unfold Gateway.handleResponse
  split
  · next tx htx =>
    rw [getElem?_insert_key]
    split
    · next he => rw [he, htx]; rfl
    · rfl
  · next hnone =>
    split
    · next he => rw [he, hnone]; rfl
    · rfl

/-- The clean-up keeps a transaction or takes it out at the right age. -/
theorem cleanupTransactions_lookup (gw : Gateway) (env : Env) (k : Bytes) {tx : SipTransaction}
    (h : gw.transactions[k]? = some tx) :
    (gw.cleanupTransactions env).transactions[k]? = some tx ∨
    ((gw.cleanupTransactions env).transactions[k]? = none ∧
      tx.lastActive + 33000000000 ≤ env.now 1) := by
  unfold Gateway.cleanupTransactions
  dsimp only
  split
  · exact Or.inl h
  · rw [Std.ExtTreeMap.getElem?_filter', h]
    by_cases hexp : Gateway.expired (env.now 1) tx = true
    · refine Or.inr ⟨by simp [hexp], ?_⟩
      unfold Gateway.expired at hexp
      dsimp only at hexp
      simp only [Bool.or_eq_true, Bool.and_eq_true, decide_eq_true_eq] at hexp
      omega
    · exact Or.inl (by simp [hexp])

theorem cleanupTransactions_subset (gw : Gateway) (env : Env) (k : Bytes) {tx : SipTransaction}
    (h : (gw.cleanupTransactions env).transactions[k]? = some tx) :
    gw.transactions[k]? = some tx := by
  unfold Gateway.cleanupTransactions at h
  dsimp only at h
  split at h
  · exact h
  · rw [Std.ExtTreeMap.getElem?_filter', Option.filter_eq_some_iff] at h
    exact h.1

/-- The steps other than SIP messages reach the table through the clean-up only. -/
theorem Other.transactions {gw gw' : Gateway} {env : Env} (h : Other gw env gw') :
    gw'.transactions = gw.transactions ∨ gw' = gw.cleanupTransactions env := by
  cases h with
  | cleanup => exact Or.inr rfl
  | cli line =>
    unfold Gateway.cliLine
    split <;> exact Or.inl rfl
  | rtp localPort pkt sender =>
    unfold Gateway.handleRtpPacket
    split <;> exact Or.inl rfl
  | media callId ev =>
    unfold Gateway.handleMedia
    split <;> exact Or.inl rfl

/-- What a SIP message does to the transaction of a stored record. -/
theorem touched_of_sip {w : World} {env : Env} {msg : Received} {sender : SockAddr}
    {r : Gateway × List Sent} (hr : Gateway.Handled w.gateway env msg.val sender r)
    {x : ExecutedRequest} (hx : w.RecordOk x) (hst : x.stored = true) :
    Touched w (w.afterSip env msg.val r) x := by
  have hget := hx.stored hst
  obtain ⟨res, hset⟩ := hx.settled
  cases hr with
  | ignored => exact Touched.same hget
  | resent => exact Touched.same hget
  | acked hid hreq hack hnone =>
    by_cases hk : x.key = msg.val.inviteTxKey
    · refine Touched.acked msg.val (env.now 1) [] ?_ rfl hreq hack hk.symm
      show (w.gateway.handleAck env msg.val).transactions[x.key]? = _
      rw [handleAck_lookup, if_pos hk, hget]
      rfl
    · refine Touched.same ?_
      show (w.gateway.handleAck env msg.val).transactions[x.key]? = _
      rw [handleAck_lookup, if_neg hk, hget]
  | executed hid hreq hack hnew rep hrep =>
    refine Touched.same ?_
    show (w.gateway.transactions.insert msg.val.txKey rep.transaction)[x.key]? = _
    rw [getElem?_insert_key, if_neg, hget]
    -- the key of a stored record is not executed again
    intro hk
    rw [← hk, hget] at hnew
    cases hnew
  | response hid hreq =>
    by_cases hk : x.key = msg.val.txKey
    · refine Touched.response msg.val (env.now 0) ?_ ?_
      · show (w.gateway.handleResponse env msg.val).transactions[x.key]? = _
        rw [handleResponse_lookup, if_pos hk, hget]
        rfl
      · -- a response has no method, so its key is not that of an INVITE
        have hmethod := (msg.property.response hreq).2
        unfold SipTransaction.isInviteTransaction
        rw [hx.method, decide_eq_false_iff_not]
        intro hinv
        unfold ExecutedRequest.key SipMessage.txKey at hk
        rw [hinv, hmethod] at hk
        exact makeKey_invite_ne_response _ _ _ _ hk
    · refine Touched.same ?_
      show (w.gateway.handleResponse env msg.val).transactions[x.key]? = _
      rw [handleResponse_lookup, if_neg hk, hget]

theorem touched_of_other {w : World} {env : Env} {gw' : Gateway} (h : Other w.gateway env gw')
    {x : ExecutedRequest} (hx : w.RecordOk x) (hst : x.stored = true) :
    Touched w (w.afterOther env gw') x := by
  have hget := hx.stored hst
  rcases h.transactions with he | rfl
  · exact Touched.same (show gw'.transactions[x.key]? = _ by rw [he, hget])
  · rcases cleanupTransactions_lookup w.gateway env x.key hget with hkeep | ⟨hgone, hage⟩
    · exact Touched.same hkeep
    · exact Touched.evicted hgone (hage.trans (env.now_le_now (by omega)))

/-- The record of a request that was just executed. -/
theorem recordOk_new {w : World} {env : Env} {msg : Received} {sender : SockAddr}
    {rep : Gateway.Reply} (hid : msg.val.getCallId ≠ []) (hreq : msg.val.isRequest = true)
    (hrep : w.gateway.execute env msg.val (SipTransaction.create msg.val (env.now 0)) = .ok rep)
    (gw' : Gateway) (hgw : gw'.transactions[msg.val.txKey]? = some rep.transaction) :
    (w.afterSip env msg.val (gw', rep.sent.map (·, sender))).RecordOk
      (w.recordOf msg.val rep.transaction) := by
  obtain ⟨-, res, hfinal, hunknown, hcases⟩ := Gateway.execute_replied hrep
  have hopen := SipTransaction.create_isOpen msg.val (env.now 0)
  have hsettled : rep.transaction.Settled res ∧ rep.transaction.state ≠ .confirmed := by
    rcases hcases with ⟨-, -, he⟩ | ⟨-, -, he⟩
    · rw [he]; exact SipTransaction.sendResponse_settled hopen hfinal
    · rw [he]
      exact SipTransaction.sendResponse_settled
        (SipTransaction.sendResponse_isOpen hopen (createResponse_statusCode _ _ _ _)) hfinal
  have hlast : rep.sent.getLast? = some res := by
    rcases hcases with ⟨-, he, -⟩ | ⟨-, he, -⟩ <;> rw [he] <;> rfl
  have hids : rep.transaction.branch = msg.val.getBranch ∧
      rep.transaction.method = msg.val.methodStr := by
    rcases hcases with ⟨-, -, he⟩ | ⟨-, -, he⟩ <;> rw [he] <;> simp [SipTransaction.create]
  refine ⟨hid, hids.1, hids.2, ?_, ?_, ⟨res, hsettled.1⟩, fun _ => hgw, nofun,
    fun hc => absurd hc hsettled.2, fun hu res' hres' => ?_⟩
  · show w.trace.length < (w.trace ++ [_]).length
    simp
  · show ((w.trace ++ [_])[w.trace.length]?.bind _) = rep.transaction.lastResponse
    rw [List.getElem?_append_right (Nat.le_refl _), Nat.sub_self, hsettled.1.last, ← hlast]
    simp [TraceEntry.responses, Function.comp_def]
  · cases hsettled.1.last.symm.trans hres'
    exact hunknown ((msg.property.request hreq).trans hu)

theorem newlyExecuted_eq {w : World} {msg : SipMessage} {gw' : Gateway}
    (h : ¬ (msg.getCallId ≠ [] ∧ msg.isRequest = true ∧ msg.method ≠ .ack ∧
      w.gateway.transactions[msg.txKey]? = none)) : w.newlyExecuted msg gw' = [] := by
  unfold newlyExecuted
  exact if_neg h

/-- Looking at the table again does not change what a record is about. -/
theorem refresh_ids (gw : Gateway) (x : ExecutedRequest) :
    (x.refresh gw).callId = x.callId ∧ (x.refresh gw).branch = x.branch ∧
      (x.refresh gw).method = x.method := by
  unfold ExecutedRequest.refresh
  split
  · split <;> exact ⟨rfl, rfl, rfl⟩
  · exact ⟨rfl, rfl, rfl⟩

theorem key_refresh (gw : Gateway) (x : ExecutedRequest) : (x.refresh gw).key = x.key := by
  obtain ⟨hcallId, hbranch, hmethod⟩ := refresh_ids gw x
  unfold ExecutedRequest.key
  rw [hcallId, hbranch, hmethod]

/-- A record whose key is still in the table stays stored. -/
theorem stored_refresh {gw : Gateway} {x : ExecutedRequest} {tx : SipTransaction}
    (hst : x.stored = true) (h : gw.transactions[x.key]? = some tx) :
    (x.refresh gw).stored = true := by
  unfold ExecutedRequest.refresh
  rw [if_pos hst, h]
  exact hst

/-- An entry that was in the table and still is has its record. -/
theorem TransactionInv.exists_refreshed {w : World} (h : w.TransactionInv) {gw' : Gateway}
    {k : Bytes} {tx tx' : SipTransaction} (hold : w.gateway.transactions[k]? = some tx)
    (hnew : gw'.transactions[k]? = some tx') :
    ∃ y ∈ w.executed.map (·.refresh gw'), y.stored = true ∧ y.key = k := by
  obtain ⟨x, hx, hst, hkey⟩ := h.complete k tx hold
  exact ⟨x.refresh gw', List.mem_map.mpr ⟨x, hx, rfl⟩, stored_refresh hst (hkey ▸ hnew),
    (key_refresh gw' x).trans hkey⟩

theorem TransactionInv.afterOther {w : World} (h : w.TransactionInv) {env : Env}
    (hclock : w.clock ≤ env.now 2) {gw' : Gateway} (hother : Other w.gateway env gw') :
    (w.afterOther env gw').TransactionInv := by
  constructor
  · intro y hy
    obtain ⟨x, hx, rfl⟩ := List.mem_map.mp hy
    exact (h.records x hx).refresh (w.afterOther env gw') (List.append_nil _).symm hclock
      (touched_of_other hother (h.records x hx))
  · intro k tx hk
    have hold : w.gateway.transactions[k]? = some tx := by
      rcases hother.transactions with he | rfl
      · rw [← he]
        exact hk
      · exact cleanupTransactions_subset _ _ _ hk
    exact h.exists_refreshed hold hk

section AfterSip

variable {w : World} {env : Env} {msg : Received} {sender : SockAddr} {r : Gateway × List Sent}

/-- The records of before, behind a SIP message. -/
theorem TransactionInv.refreshed (h : w.TransactionInv) (hclock : w.clock ≤ env.now 2)
    (hr : Gateway.Handled w.gateway env msg.val sender r) :
    ∀ x ∈ w.executed, (w.afterSip env msg.val r).RecordOk (x.refresh r.1) := by
  intro x hx
  exact (h.records x hx).refresh (w.afterSip env msg.val r) rfl hclock
    (touched_of_sip hr (h.records x hx))

/-- A message that is not executed, and adds no key to the table. -/
theorem TransactionInv.unexecuted (h : w.TransactionInv) (hclock : w.clock ≤ env.now 2)
    (hr : Gateway.Handled w.gateway env msg.val sender r)
    (hnot : ¬ (msg.val.getCallId ≠ [] ∧ msg.val.isRequest = true ∧ msg.val.method ≠ .ack ∧
      w.gateway.transactions[msg.val.txKey]? = none))
    (hsub : ∀ k : Bytes, w.gateway.transactions[k]? = none → r.1.transactions[k]? = none) :
    (w.afterSip env msg.val r).TransactionInv := by
  have hexec : (w.afterSip env msg.val r).executed = w.executed.map (·.refresh r.1) := by
    unfold afterSip
    rw [newlyExecuted_eq hnot, List.append_nil]
  constructor
  · intro y hy
    rw [hexec] at hy
    obtain ⟨x, hx, rfl⟩ := List.mem_map.mp hy
    exact h.refreshed hclock hr x hx
  · intro k tx hk
    rw [hexec]
    cases hold : w.gateway.transactions[k]? with
    | none =>
      have hnone := hsub k hold
      rw [show r.1.transactions[k]? = some tx from hk] at hnone
      cases hnone
    | some tx' => exact h.exists_refreshed hold hk

/-- A request that is executed: one more record, for the key it adds. -/
theorem TransactionInv.execute (h : w.TransactionInv) (hclock : w.clock ≤ env.now 2)
    (hid : msg.val.getCallId ≠ []) (hreq : msg.val.isRequest = true)
    (hack : msg.val.method ≠ .ack) (hnew : w.gateway.transactions[msg.val.txKey]? = none)
    {rep : Gateway.Reply}
    (hrep : w.gateway.execute env msg.val (SipTransaction.create msg.val (env.now 0)) = .ok rep)
    (hr : r = ({ rep.gateway with
        transactions := w.gateway.transactions.insert msg.val.txKey rep.transaction },
      rep.sent.map (·, sender))) :
    (w.afterSip env msg.val r).TransactionInv := by
  have hhandled : Gateway.Handled w.gateway env msg.val sender r :=
    hr ▸ Gateway.Handled.executed hid hreq hack hnew rep hrep
  have hlook : ∀ k, r.1.transactions[k]? =
      if k = msg.val.txKey then some rep.transaction else w.gateway.transactions[k]? := by
    intro k
    rw [hr]
    exact getElem?_insert_key _ _ _ _
  have hfresh : w.newlyExecuted msg.val r.1 = [w.recordOf msg.val rep.transaction] := by
    unfold newlyExecuted
    rw [if_pos ⟨hid, hreq, hack, hnew⟩, hlook, if_pos rfl]
    rfl
  constructor
  · intro y hy
    rcases List.mem_append.mp hy with hy | hy
    · obtain ⟨x, hx, rfl⟩ := List.mem_map.mp hy
      exact h.refreshed hclock hhandled x hx
    · rw [hfresh, List.mem_singleton] at hy
      have hget := hlook msg.val.txKey
      rw [if_pos rfl] at hget
      rw [hy, show r = (r.1, rep.sent.map (·, sender)) by rw [hr]]
      exact recordOk_new hid hreq hrep _ hget
  · intro k tx hk
    by_cases hkk : k = msg.val.txKey
    · refine ⟨w.recordOf msg.val rep.transaction, List.mem_append_right _ ?_, rfl, hkk.symm⟩
      rw [hfresh]
      exact List.mem_singleton_self _
    · have hold := hlook k
      rw [if_neg hkk, show r.1.transactions[k]? = some tx from hk] at hold
      obtain ⟨y, hy, hkept⟩ := h.exists_refreshed hold.symm hk
      exact ⟨y, List.mem_append_left _ hy, hkept⟩

end AfterSip

/-- **The records stay true to the table.** -/
theorem TransactionInv.next {w w' : World} {e : Event} (h : w.TransactionInv)
    (hen : w.clock ≤ e.env.start) (hs : Stepped w e w') : w'.TransactionInv := by
  have hclock : w.clock ≤ e.env.now 2 := hen.trans (e.env.start_le_now 2)
  cases hs with
  | other gw' hact hother => exact h.afterOther hclock hother
  | sip msg sender r hact hr =>
    have hhandled := hr
    cases hr with
    | ignored hid => exact h.unexecuted hclock hhandled (fun hn => hn.1 hid) fun _ hk => hk
    | resent hid hreq sent hsent =>
      refine h.unexecuted hclock hhandled (fun hn => ?_) fun _ hk => hk
      unfold Gateway.retransmission at hsent
      rw [hn.2.2.2] at hsent
      cases hsent
    | acked hid hreq hack hnone =>
      refine h.unexecuted hclock hhandled (fun hn => hn.2.2.1 hack) fun k hk => ?_
      rw [handleAck_lookup, hk]
      split <;> rfl
    | response hid hreq =>
      refine h.unexecuted hclock hhandled (fun hn => ?_) fun k hk => ?_
      · rw [hn.2.1] at hreq
        cases hreq
      · rw [handleResponse_lookup, hk]
        split <;> rfl
    | executed hid hreq hack hnew rep hrep =>
      exact h.execute hclock hid hreq hack hnew hrep rfl

theorem transactionInv {config : Config} {hardwareConcurrency : Nat} {w : World}
    (hw : (machine config hardwareConcurrency).Reachable w) : w.TransactionInv :=
  hw.invariant
    (fun _ h => by
      cases h
      exact ⟨by simp [start], fun k tx hk => by simp [start] at hk⟩)
    (fun _ _ _ _ h hen hs => h.next hen (step_stepped hs))

/-! ## Retransmissions -/

theorem RecordOk.callId_ne {w : World} {x : ExecutedRequest} (h : w.RecordOk x)
    {msg : SipMessage} (hids : x.SameIds msg) : msg.getCallId ≠ [] := by
  rw [hids.1]
  exact h.callId

theorem SameIds.txKey {x : ExecutedRequest} {msg : SipMessage} (hids : x.SameIds msg) :
    msg.txKey = x.key := by
  obtain ⟨hc, hb, hm⟩ := hids
  unfold SipMessage.txKey ExecutedRequest.key
  rw [hc, hb, hm]

/-- The step of a retransmission whose transaction is still stored. -/
theorem RecordOk.handleSipMessage {w : World} {x : ExecutedRequest} (h : w.RecordOk x)
    (hst : x.stored = true) {msg : SipMessage} (hreq : msg.isRequest = true)
    (hack : msg.method ≠ .ack) (hids : x.SameIds msg) (env : Env) (sender : SockAddr) :
    w.gateway.handleSipMessage env msg sender = .ok (w.gateway,
      if x.transaction.shouldResendResponse msg = true
      then x.transaction.lastResponse.toList.map (·, sender) else []) :=
  Gateway.handleSipMessage_of_stored (h.callId_ne hids) hreq hack
    (by rw [SameIds.txKey hids]; exact h.stored hst)

/-- The record is that of an INVITE that got a 2xx. -/
def AcceptedInvite (w : World) (x : ExecutedRequest) : Prop :=
  x.method = bytes "INVITE" ∧ ∃ res, w.answerOf x = some res ∧ res.statusCode < 300

/-- The step of a retransmission sends the last response again, and nothing else. -/
def AnsweredAgain (w : World) (x : ExecutedRequest) (env : Env) (msg : SipMessage)
    (sender : SockAddr) : Prop :=
  ∃ gw' res, w.answerOf x = some res ∧
    w.gateway.handleSipMessage env msg sender = .ok (gw', [(res, sender)])

/-- Both kinds of transactions answer in COMPLETED, which an accepted INVITE never reaches. -/
theorem RecordOk.shouldResend_iff {w : World} {x : ExecutedRequest} (h : w.RecordOk x)
    (hstate : x.transaction.state ≠ .confirmed) {msg : SipMessage} (hids : x.SameIds msg) :
    x.transaction.shouldResendResponse msg = true ↔ ¬ w.AcceptedInvite x := by
  obtain ⟨res, hset⟩ := h.settled
  have hbranch : ¬ (msg.getBranch ≠ x.transaction.branch) := by
    rw [h.branch, hids.2.1]
    simp
  have hresend : x.transaction.shouldResendResponse msg = true ↔
      x.transaction.state = .proceeding ∨ x.transaction.state = .completed := by
    unfold SipTransaction.shouldResendResponse
    rw [if_neg hbranch]
    simp
  have hans : w.answerOf x = some res := h.answer.trans hset.last
  have hacc : w.AcceptedInvite x ↔
      x.transaction.isInviteTransaction = true ∧ res.statusCode < 300 := by
    unfold AcceptedInvite SipTransaction.isInviteTransaction
    rw [hans, h.method]
    simp
  rw [hresend, hacc]
  by_cases hinv : x.transaction.isInviteTransaction = true
  · rcases lt_or_ge res.statusCode 300 with hok | hbad
    · -- TERMINATED
      rw [hset.success hinv hok]
      simp [hinv, hok]
    · have hcompleted := (hset.failure hinv hbad).resolve_right hstate
      rw [hcompleted]
      simp [Int.not_lt.mpr hbad]
  · rw [hset.other (by simpa using hinv)]
    simp [hinv]

/--
**Which retransmissions are answered.**

A retransmission of an executed request whose transaction is stored and not confirmed gets the
last response again, unless the request was an INVITE answered with a 2xx.
-/
theorem retransmission_answered_iff {config : Config} {hardwareConcurrency : Nat} {w : World}
    (hw : (machine config hardwareConcurrency).Reachable w) {x : ExecutedRequest}
    (hx : x ∈ w.executed) (hst : x.stored = true) (hstate : x.transaction.state ≠ .confirmed)
    {msg : SipMessage} (hreq : msg.isRequest = true) (hack : msg.method ≠ .ack)
    (hids : x.SameIds msg) (env : Env) (sender : SockAddr) :
    w.AnsweredAgain x env msg sender ↔ ¬ w.AcceptedInvite x := by
  have h := (transactionInv hw).records x hx
  have hstep := h.handleSipMessage hst hreq hack hids env sender
  obtain ⟨res, hset⟩ := h.settled
  have hans : w.answerOf x = some res := h.answer.trans hset.last
  rw [← h.shouldResend_iff hstate hids]
  unfold AnsweredAgain
  rw [hstep, hset.last]
  constructor
  · rintro ⟨gw', res', -, hsent⟩
    by_contra hno
    rw [if_neg hno] at hsent
    simp at hsent
  · intro hyes
    rw [if_pos hyes]
    exact ⟨w.gateway, res, hans, rfl⟩

/-- An OPTIONS request, sent twice. -/
def exampleOptions : Received := exampleRequest (bytes "OPTIONS") (bytes "b") (bytes "call") []

theorem retransmission_answered_iff_options :
    ∃ (w : World) (x : ExecutedRequest), (machine exampleConfig 1).Reachable w ∧
      x ∈ w.executed ∧ x.SameIds exampleOptions.val ∧
      w.AnsweredAgain x { start := 5 } exampleOptions.val {} := by
  set w := exampleRun [⟨{ start := 0 }, .sip exampleOptions {}⟩] with hw
  have hreach : (machine exampleConfig 1).Reachable w := exampleRun_reachable (by decide +kernel)
  obtain ⟨x, hx, hp⟩ := List.any_eq_true.mp (show w.executed.any (fun x =>
      x.stored ∧ x.transaction.state ≠ .confirmed ∧ x.SameIds exampleOptions.val) = true by
    decide +kernel)
  obtain ⟨hst, hstate, hids⟩ := of_decide_eq_true hp
  have hiff := retransmission_answered_iff hreach hx hst hstate
    (show exampleOptions.val.isRequest = true by decide +kernel) (by decide +kernel) hids
    { start := 5 } {}
  refine ⟨w, x, hreach, hx, hids, hiff.mpr ?_⟩
  -- it was no INVITE
  rintro ⟨hmethod, -⟩
  rw [← hids.2.2] at hmethod
  revert hmethod
  decide +kernel

/-- An accepted INVITE whose 200 was lost: the client's retransmission is dropped. -/
theorem retransmission_dropped :
    ∃ (w : World) (x : ExecutedRequest), (machine exampleConfig 1).Reachable w ∧
      x ∈ w.executed ∧ x.stored = true ∧ x.transaction.state ≠ .confirmed ∧
      x.SameIds (exampleInvite (bytes "b")).val ∧
      (w.answerOf x).map (·.statusCode) = some 200 ∧
      ¬ w.AnsweredAgain x { start := 5 } (exampleInvite (bytes "b")).val {} := by
  set w := exampleRun [⟨{ start := 0 }, .sip (exampleInvite (bytes "b")) {}⟩] with hw
  obtain ⟨x, hx, hp⟩ := List.any_eq_true.mp (show w.executed.any (fun x =>
      x.stored ∧ x.transaction.state ≠ .confirmed ∧
      x.SameIds (exampleInvite (bytes "b")).val ∧
      (w.answerOf x).map (·.statusCode) = some 200) = true by decide +kernel)
  obtain ⟨hst, hstate, hids, hans⟩ := of_decide_eq_true hp
  refine ⟨w, x, exampleRun_reachable (by decide +kernel), hx, hst, hstate, hids,
    hans, ?_⟩
  rintro ⟨gw', res, -, hsent⟩
  have hnothing : (w.gateway.handleSipMessage { start := 5 } (exampleInvite (bytes "b")).val {}
      ).toOption.map (·.2) = some [] := by
    decide +kernel
  rw [hsent] at hnothing
  simp [Except.toOption] at hnothing

/--
**Requests are executed at most once.**

Within 32 (whole) seconds of the last activity of its transaction, the retransmission of an
executed request leaves the gateway as it is and sends nothing but the last response.
-/
theorem executed_at_most_once {config : Config} {hardwareConcurrency : Nat} {w : World}
    (hw : (machine config hardwareConcurrency).Reachable w) {x : ExecutedRequest}
    (hx : x ∈ w.executed) {msg : SipMessage} (hreq : msg.isRequest = true)
    (hack : msg.method ≠ .ack) (hids : x.SameIds msg) {env : Env} (hclock : w.clock ≤ env.start)
    (hage : (env.start - x.transaction.lastActive) / 1000000000 ≤ 32) (sender : SockAddr) :
    ∃ sent, w.gateway.handleSipMessage env msg sender = .ok (w.gateway, sent) ∧
      (sent = [] ∨ ∃ tx res, w.gateway.transactions[msg.txKey]? = some tx ∧
        tx.lastResponse = some res ∧ sent = [(res, sender)]) := by
  have h := (transactionInv hw).records x hx
  have hst : x.stored = true := by
    by_contra hno
    have := h.evicted (by simpa using hno)
    omega
  refine ⟨_, h.handleSipMessage hst hreq hack hids env sender, ?_⟩
  obtain ⟨res, hset⟩ := h.settled
  rw [hset.last]
  split
  · have hstored := h.stored hst
    rw [← SameIds.txKey hids] at hstored
    exact Or.inr ⟨x.transaction, res, hstored, hset.last, rfl⟩
  · exact Or.inl rfl

theorem executed_at_most_once_options :
    ∃ (w : World) (sent : List Sent),
      w.gateway.handleSipMessage { start := 32999999999 } exampleOptions.val {}
        = .ok (w.gateway, sent) ∧
      (sent = [] ∨ ∃ tx res, w.gateway.transactions[exampleOptions.val.txKey]? = some tx ∧
        tx.lastResponse = some res ∧ sent = [(res, {})]) := by
  set w := exampleRun [⟨{ start := 0 }, .sip exampleOptions {}⟩] with hw
  obtain ⟨x, hx, hp⟩ := List.any_eq_true.mp (show w.executed.any (fun x =>
      x.SameIds exampleOptions.val ∧
      (32999999999 - x.transaction.lastActive) / 1000000000 ≤ 32) = true by decide +kernel)
  obtain ⟨hids, hage⟩ := of_decide_eq_true hp
  exact ⟨w, executed_at_most_once (exampleRun_reachable (by decide +kernel)) (hx)
    (by decide +kernel) (by decide +kernel) hids (by decide +kernel) hage _⟩

end World

end SipGateway
