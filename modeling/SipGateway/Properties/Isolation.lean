import SipGateway.Properties.Transactions

/-!
# Which transaction a request finds

The key of a transaction is the text `Call-ID:branch:METHOD`, and any of the three may have colons
of its own. `transactions_isolated_iff` says when a request finds no transaction but its own: when
no stored transaction has the same pieces between colons, divided differently. Without colons in
branches and methods that is always so (`isolates_of_no_colon`).
-/

namespace SipGateway

open Infra

/-! ## Keys and their pieces -/

/-- The pieces between the colons of a Call-ID, a branch and a method, one after the other. -/
def idPieces (callId branch method : Bytes) : List Bytes :=
  callId.splitOn colon ++ branch.splitOn colon ++ method.splitOn colon

/-- A text is told by its pieces. -/
theorem splitOn_inj {s t : Bytes} {sep : UInt8} (h : s.splitOn sep = t.splitOn sep) : s = t := by
  have hjoin := congrArg ([sep].intercalate) h
  simpa using hjoin

theorem splitOn_makeKey (c b m : Bytes) : (makeKey c b m).splitOn colon = idPieces c b m := by
  unfold makeKey idPieces
  rw [List.append_assoc, List.singleton_append, List.splitOn_append_cons_self, List.append_assoc,
    List.singleton_append, List.splitOn_append_cons_self]

/-- Equal keys are equal pieces. -/
theorem makeKey_eq_iff {c b m c' b' m' : Bytes} :
    makeKey c b m = makeKey c' b' m' ↔ idPieces c b m = idPieces c' b' m' := by
  rw [← splitOn_makeKey, ← splitOn_makeKey]
  exact ⟨fun h => by rw [h], splitOn_inj⟩

/-- Without colons in branch and method the key gives the three texts back. -/
theorem makeKey_inj_of_not_mem {c b m c' b' m' : Bytes} (hb : colon ∉ b) (hm : colon ∉ m)
    (hb' : colon ∉ b') (hm' : colon ∉ m') (h : makeKey c b m = makeKey c' b' m') :
    c = c' ∧ b = b' ∧ m = m' := by
  rw [makeKey_eq_iff] at h
  unfold idPieces at h
  rw [List.splitOn_eq_singleton hb, List.splitOn_eq_singleton hm, List.splitOn_eq_singleton hb',
    List.splitOn_eq_singleton hm'] at h
  obtain ⟨h, hmethod⟩ := List.append_inj' h rfl
  obtain ⟨hcallId, hbranch⟩ := List.append_inj' h rfl
  exact ⟨splitOn_inj hcallId, List.singleton_inj.mp hbranch, List.singleton_inj.mp hmethod⟩

/-! ## What the dispatcher looks up -/

namespace Gateway

variable {gw : Gateway} {env : Env} {msg : SipMessage} {sender : SockAddr} {k : Bytes}

/-- The gateway with another transaction table. -/
def withTable (gw : Gateway) (table : Std.ExtTreeMap Bytes SipTransaction) : Gateway :=
  { gw with transactions := table }

/-- The gateway without the transaction of a key. -/
def forget (gw : Gateway) (k : Bytes) : Gateway := gw.withTable (gw.transactions.erase k)

/-- The keys under which `handleSipMessage` looks for a transaction. -/
def lookups (gw : Gateway) (msg : SipMessage) : List Bytes :=
  if msg.getCallId = [] then []
  else if msg.isRequest ∧ msg.method = .ack ∧ gw.retransmission msg = none then
    [msg.txKey, msg.inviteTxKey]
  else [msg.txKey]

section Table

variable (gw env msg) (table : Std.ExtTreeMap Bytes SipTransaction)

theorem openCall_withTable : (gw.withTable table).openCall env msg =
    (gw.openCall env msg).map fun p => (p.1.withTable table, p.2) := by
  unfold openCall
  dsimp only [withTable]
  cases gw.registry.getCall msg.getCallId with
  | some session => rfl
  | none =>
    show (if gw.isFull = true then _ else _) = _
    by_cases hfull : gw.isFull = true
    · rw [if_pos hfull, if_pos hfull]
      rfl
    · rw [if_neg hfull, if_neg hfull]
      rfl

theorem answerOffer_withTable (session : CallSession) (sdp : SdpSession) :
    (gw.withTable table).answerOffer env msg session sdp =
      (gw.answerOffer env msg session sdp).map fun p => (p.1.withTable table, p.2) := by
  unfold answerOffer
  dsimp only [withTable]
  split
  · rfl
  · split
    · rfl
    · simp only [bind, Except.bind]
      split <;> rfl

theorem handleInvite_withTable (tx : SipTransaction) :
    (gw.withTable table).handleInvite env msg tx =
      (gw.handleInvite env msg tx).map
        fun r => { r with gateway := r.gateway.withTable table } := by
  unfold handleInvite
  rw [openCall_withTable]
  cases gw.openCall env msg with
  | none => rfl
  | some p =>
    simp only [Option.map_some]
    cases SdpParser.parse msg.body with
    | error e => rfl
    | ok o =>
      cases o with
      | none => rfl
      | some sdp =>
        dsimp only
        rw [answerOffer_withTable]
        cases p.1.answerOffer env msg p.2 sdp <;> rfl

theorem simpleBranch_withTable : (gw.withTable table).simpleBranch msg =
    ((gw.simpleBranch msg).1, (gw.simpleBranch msg).2.1,
      (gw.simpleBranch msg).2.2.withTable table) := by
  unfold simpleBranch
  cases msg.method <;> try rfl
  · dsimp only
    unfold endCall
    dsimp only [withTable]
    cases gw.registry.getCall msg.getCallId <;> rfl
  · dsimp only
    unfold cancelCall
    dsimp only [withTable]
    cases gw.registry.getCall msg.getCallId <;> rfl

/-- The branches of the requests do not look at the table. -/
theorem execute_withTable (tx : SipTransaction) :
    (gw.withTable table).execute env msg tx =
      (gw.execute env msg tx).map fun r => { r with gateway := r.gateway.withTable table } := by
  unfold execute
  split
  · exact handleInvite_withTable gw env msg table tx
  · rw [simpleBranch_withTable]
    rfl

/-- Nor does the end of the handler. -/
theorem leave_withTable (callId : Bytes) (r : Reply) :
    (gw.withTable table).leave callId { r with gateway := r.gateway.withTable table } =
      (gw.leave callId r).map fun r => { r with gateway := r.gateway.withTable table } := by
  have hdestroy : (gw.withTable table).destroyCall callId = gw.destroyCall callId := rfl
  unfold leave
  rw [hdestroy]
  by_cases hgone : r.gateway.registry.getCall callId = none
  · rw [if_pos hgone, if_pos (by exact hgone)]
    cases gw.destroyCall callId <;> rfl
  · rw [if_neg hgone, if_neg (by exact hgone)]
    rfl

end Table

/-- The key is not among those of a request whose Call-ID is given. -/
theorem retransmission_forget (hid : msg.getCallId ≠ []) (hk : k ∉ gw.lookups msg) :
    (gw.forget k).retransmission msg = gw.retransmission msg := by
  have hne : msg.txKey ≠ k := by
    rintro rfl
    refine hk ?_
    unfold lookups
    rw [if_neg hid]
    split <;> simp
  unfold retransmission
  rw [show (gw.forget k).transactions = gw.transactions.erase k from rfl, getElem?_erase_key,
    if_neg hne]

theorem handleAck_forget (hk : k ≠ msg.inviteTxKey) :
    (gw.forget k).handleAck env msg = (gw.handleAck env msg).forget k := by
  unfold handleAck
  rw [show (gw.forget k).transactions = gw.transactions.erase k from rfl, getElem?_erase_key,
    if_neg hk.symm]
  cases gw.transactions[msg.inviteTxKey]? with
  | none => rfl
  | some tx =>
    have herase := erase_insert_comm gw.transactions hk (tx.receiveRequest msg (env.now 1))
    exact congrArg gw.withTable herase.symm

theorem handleResponse_forget (hk : k ≠ msg.txKey) :
    (gw.forget k).handleResponse env msg = (gw.handleResponse env msg).forget k := by
  unfold handleResponse
  rw [show (gw.forget k).transactions = gw.transactions.erase k from rfl, getElem?_erase_key,
    if_neg hk.symm]
  cases gw.transactions[msg.txKey]? with
  | none => rfl
  | some tx =>
    have herase := erase_insert_comm gw.transactions hk (tx.receiveResponse msg (env.now 0))
    exact congrArg gw.withTable herase.symm

/--
**What is not looked up makes no difference.**

Without the transaction of such a key the dispatcher does and sends the same.
-/
theorem handleSipMessage_forget (hk : k ∉ gw.lookups msg) :
    (gw.forget k).handleSipMessage env msg sender =
      (gw.handleSipMessage env msg sender).map fun r => (r.1.forget k, r.2) := by
  unfold handleSipMessage
  by_cases hid : msg.getCallId = []
  · rw [if_pos (List.isEmpty_iff.mpr hid), if_pos (List.isEmpty_iff.mpr hid)]
    rfl
  · have hempty : ¬ msg.getCallId.isEmpty = true := by rwa [List.isEmpty_iff]
    rw [if_neg hempty, if_neg hempty, retransmission_forget hid hk]
    unfold lookups at hk
    rw [if_neg hid] at hk
    by_cases hreq : msg.isRequest = true
    · rw [if_pos hreq, if_pos hreq]
      cases hsent : gw.retransmission msg with
      | some sent => rfl
      | none =>
        dsimp only
        by_cases hack : msg.method = .ack
        · rw [if_pos ⟨hreq, hack, hsent⟩] at hk
          rw [if_pos hack, if_pos hack, handleAck_forget (by simp at hk; exact hk.2)]
          rfl
        · rw [if_neg fun h => hack h.2.1, List.mem_singleton] at hk
          rw [if_neg hack, if_neg hack, show gw.forget k = gw.withTable _ from rfl,
            execute_withTable]
          cases hrep : gw.execute env msg (SipTransaction.create msg (env.now 0)) with
          | error e => rfl
          | ok r =>
            have herase := erase_insert_comm gw.transactions hk r.transaction
            simp only [Except.map, bind, Except.bind, leave_withTable]
            cases hleave : gw.leave msg.getCallId r with
            | error death => rfl
            | ok r' =>
              obtain rfl := leave_ok hleave
              rw [← (execute_replied hrep).frame.transactions] at herase ⊢
              show Except.ok (r'.gateway.withTable _, _) = Except.ok (r'.gateway.withTable _, _)
              rewrite [herase]
              rfl
    · rw [if_neg hreq, if_neg hreq]
      rw [if_neg fun h => hreq h.1, List.mem_singleton] at hk
      rw [handleResponse_forget hk]
      rfl

/-- Nor does the dispatcher touch it. -/
theorem Handled.lookup {r : Gateway × List Sent} (h : Handled gw env msg sender r)
    (hk : k ∉ gw.lookups msg) : r.1.transactions[k]? = gw.transactions[k]? := by
  unfold lookups at hk
  cases h with
  | ignored hid => rfl
  | resent hid hreq sent hsent => rfl
  | acked hid hreq hack hnone =>
    rw [if_neg hid, if_pos ⟨hreq, hack, hnone⟩] at hk
    rw [World.handleAck_lookup, if_neg (by simp at hk; exact hk.2)]
  | executed hid hreq hack hnew rep hrep =>
    rw [if_neg hid, if_neg fun h => hack h.2.1, List.mem_singleton] at hk
    rw [getElem?_insert_key, if_neg hk]
  | response hid hreq =>
    rw [if_neg hid, if_neg fun h => absurd (hreq.symm.trans h.1) (by simp),
      List.mem_singleton] at hk
    rw [World.handleResponse_lookup, if_neg hk]

end Gateway

/-! ## Isolation -/

namespace ExecutedRequest

/-- Whether a request has to do with this one: it is the same again, or the ACK to this INVITE. -/
def Concerns (x : ExecutedRequest) (msg : SipMessage) : Prop :=
  x.SameIds msg ∨ (msg.method = .ack ∧ msg.getCallId = x.callId ∧ msg.getBranch = x.branch ∧
    x.method = bytes "INVITE")

/-- Whether Call-ID, branch and a method have the pieces of this request, divided differently. -/
def Redivides (x : ExecutedRequest) (msg : SipMessage) (method : Bytes) : Prop :=
  idPieces msg.getCallId msg.getBranch method = idPieces x.callId x.branch x.method ∧
    ¬ (msg.getCallId = x.callId ∧ msg.getBranch = x.branch ∧ method = x.method)

instance (x : ExecutedRequest) (msg : SipMessage) (method : Bytes) :
    Decidable (x.Redivides msg method) :=
  inferInstanceAs (Decidable (_ ∧ ¬ (_ ∧ _ ∧ _)))

theorem redivides_iff {x : ExecutedRequest} {msg : SipMessage} {method : Bytes} :
    x.Redivides msg method ↔ makeKey msg.getCallId msg.getBranch method = x.key ∧
      ¬ (msg.getCallId = x.callId ∧ msg.getBranch = x.branch ∧ method = x.method) :=
  and_congr_left' makeKey_eq_iff.symm

end ExecutedRequest

namespace World

/-- **A request has to do with no transaction but its own.** -/
structure Isolates (w : World) (msg : SipMessage) : Prop where
  /-- no other is looked up -/
  lookups : ∀ x ∈ w.executed, x.stored = true → x.key ∈ w.gateway.lookups msg → x.Concerns msg
  /-- nor overwritten -/
  kept : ∀ x ∈ w.executed, x.stored = true → ¬ x.Concerns msg → ∀ env sender r,
    w.gateway.handleSipMessage env msg sender = .ok r →
      r.1.transactions[x.key]? = some x.transaction
  /-- nor does it matter that another is there -/
  unaware : ∀ x ∈ w.executed, x.stored = true → ¬ x.Concerns msg → ∀ env sender,
    (w.gateway.forget x.key).handleSipMessage env msg sender =
      (w.gateway.handleSipMessage env msg sender).map fun r => (r.1.forget x.key, r.2)
  /-- only the same request again is a retransmission -/
  suppressed : msg.getCallId ≠ [] → w.gateway.retransmission msg ≠ none →
    ∃ x ∈ w.executed, x.stored = true ∧ x.SameIds msg
  /-- an ACK reaches its INVITE -/
  acked : msg.method = .ack → ∀ x ∈ w.executed, x.stored = true →
    x.key ∈ w.gateway.lookups msg →
      x.callId = msg.getCallId ∧ x.branch = msg.getBranch ∧ x.method = bytes "INVITE"

/-- No stored transaction is that of the same pieces, divided differently. -/
def Unambiguous (w : World) (msg : SipMessage) : Prop :=
  ∀ x ∈ w.executed, x.stored = true → ¬ x.Redivides msg msg.methodStr ∧
    (msg.method = .ack → ¬ x.Redivides msg (bytes "INVITE"))

/-- No ACK is executed. -/
theorem executed_ne_ack {config : Config} {hardwareConcurrency : Nat} {w : World}
    (hw : (machine config hardwareConcurrency).Reachable w) :
    ∀ x ∈ w.executed, x.method ≠ bytes "ACK" := by
  refine Machine.Reachable.invariant (P := fun w => ∀ x ∈ w.executed, x.method ≠ bytes "ACK")
    (fun _ h => by cases h; simp [start]) (fun v e v' _ ih _ hs => ?_) hw
  cases step_stepped hs with
  | sip msg sender r hact hr =>
    intro x hx
    rcases List.mem_append.mp hx with hx | hx
    · obtain ⟨y, hy, rfl⟩ := List.mem_map.mp hx
      rw [(refresh_ids _ y).2.2]
      exact ih y hy
    · unfold newlyExecuted at hx
      split at hx
      · next hnew =>
        obtain ⟨tx, -, rfl⟩ : ∃ tx, r.1.transactions[msg.val.txKey]? = some tx ∧
            v.recordOf msg.val tx = x := by simpa using hx
        intro hm
        refine hnew.2.2.1 ?_
        rw [msg.property.request hnew.2.1, show msg.val.methodStr = bytes "ACK" from hm]
        decide
      · cases hx
  | other gw' hact h =>
    intro x hx
    obtain ⟨y, hy, rfl⟩ := List.mem_map.mp hx
    rw [(refresh_ids _ y).2.2]
    exact ih y hy

theorem methodStr_of_ack {msg : Received} (hreq : msg.val.isRequest = true)
    (hack : msg.val.method = .ack) : msg.val.methodStr = bytes "ACK" := by
  rw [msg.property.request hreq] at hack
  unfold SipParser.parseMethod at hack
  grind

theorem mem_lookups_iff {gw : Gateway} {msg : SipMessage} {k : Bytes} :
    k ∈ gw.lookups msg ↔ msg.getCallId ≠ [] ∧ (k = msg.txKey ∨
      (msg.isRequest = true ∧ msg.method = .ack ∧ gw.retransmission msg = none ∧
        k = msg.inviteTxKey)) := by
  unfold Gateway.lookups
  split
  · next hid => simp [hid]
  · next hid =>
    split
    · next hack => simp [hid, hack]
    · next hack => simp [hid]; tauto

section

variable {config : Config} {hardwareConcurrency : Nat} {w : World} {msg : Received}

/-- What is looked up concerns the request, if no stored transaction is ambiguous. -/
theorem Unambiguous.concerns (h : msg.val.getCallId ≠ [] → w.Unambiguous msg.val)
    {x : ExecutedRequest} (hx : x ∈ w.executed) (hst : x.stored = true)
    (hk : x.key ∈ w.gateway.lookups msg.val) : x.Concerns msg.val := by
  obtain ⟨hid, hk⟩ := mem_lookups_iff.mp hk
  obtain ⟨hown, hinvite⟩ := h hid x hx hst
  rcases hk with hk | ⟨-, hack, -, hk⟩
  · by_contra hno
    exact hown (ExecutedRequest.redivides_iff.mpr ⟨hk.symm, fun he => hno (Or.inl he)⟩)
  · by_contra hno
    refine hinvite hack (ExecutedRequest.redivides_iff.mpr ⟨hk.symm, fun he => hno ?_⟩)
    exact Or.inr ⟨hack, he.1, he.2.1, he.2.2.symm⟩

/-- A transaction found under the key of a request is that of the same request. -/
theorem sameIds_of_txKey (hreq : msg.val.isRequest = true) {x : ExecutedRequest}
    (hk : x.key = msg.val.txKey) (hconcerns : x.Concerns msg.val) : x.SameIds msg.val := by
  rcases hconcerns with hsame | ⟨hack, hc, hb, hm⟩
  · exact hsame
  · -- the key of an ACK does not end as that of an INVITE
    unfold ExecutedRequest.key SipMessage.txKey at hk
    rw [hc, hb, hm, methodStr_of_ack hreq hack] at hk
    exact absurd (List.append_cancel_left hk) (by decide)

theorem Unambiguous.isolates (hw : (machine config hardwareConcurrency).Reachable w)
    (hreq : msg.val.isRequest = true) (h : msg.val.getCallId ≠ [] → w.Unambiguous msg.val) :
    w.Isolates msg.val where
  lookups x hx hst hk := concerns h hx hst hk
  kept x hx hst hno env sender r hr := by
    rw [(Gateway.handleSipMessage_handled hr).lookup fun hk => hno (concerns h hx hst hk)]
    exact ((transactionInv hw).records x hx).stored hst
  unaware x hx hst hno env sender :=
    Gateway.handleSipMessage_forget fun hk => hno (concerns h hx hst hk)
  suppressed hid hsent := by
    cases htx : w.gateway.transactions[msg.val.txKey]? with
    | none =>
      unfold Gateway.retransmission at hsent
      rw [htx] at hsent
      exact absurd rfl hsent
    | some tx =>
      obtain ⟨x, hx, hst, hk⟩ := (transactionInv hw).complete _ tx htx
      refine ⟨x, hx, hst, sameIds_of_txKey hreq hk (concerns h hx hst ?_)⟩
      exact mem_lookups_iff.mpr ⟨hid, Or.inl hk⟩
  acked hack x hx hst hk := by
    rcases concerns h hx hst hk with hsame | ⟨-, hc, hb, hm⟩
    · refine absurd ?_ (executed_ne_ack hw x hx)
      rw [← hsame.2.2]
      exact methodStr_of_ack hreq hack
    · exact ⟨hc.symm, hb.symm, hm⟩

theorem Isolates.unambiguous (hw : (machine config hardwareConcurrency).Reachable w)
    (hreq : msg.val.isRequest = true) (h : w.Isolates msg.val) (hid : msg.val.getCallId ≠ []) :
    w.Unambiguous msg.val := by
  refine fun x hx hst => ⟨fun hred => ?_, fun hack hred => ?_⟩
  · obtain ⟨hk, hno⟩ := ExecutedRequest.redivides_iff.mp hred
    have hlook := h.lookups x hx hst (mem_lookups_iff.mpr ⟨hid, Or.inl hk.symm⟩)
    exact hno (sameIds_of_txKey hreq hk.symm hlook)
  · obtain ⟨hk, hno⟩ := ExecutedRequest.redivides_iff.mp hred
    have hnone : w.gateway.retransmission msg.val = none := by
      by_contra hsent
      obtain ⟨y, hy, -, hsame⟩ := h.suppressed hid hsent
      refine executed_ne_ack hw y hy ?_
      rw [← hsame.2.2]
      exact methodStr_of_ack hreq hack
    obtain ⟨hc, hb, hm⟩ := h.acked hack x hx hst
      (mem_lookups_iff.mpr ⟨hid, Or.inr ⟨hreq, hack, hnone, hk.symm⟩⟩)
    exact hno ⟨hc.symm, hb.symm, hm.symm⟩

/--
**When a request finds no transaction but its own**: when no stored request has the same pieces
between the colons of Call-ID, branch and method, divided differently.

For an ACK the method is also `INVITE`. A request without a Call-ID finds none.
-/
theorem transactions_isolated_iff (hw : (machine config hardwareConcurrency).Reachable w)
    (hreq : msg.val.isRequest = true) :
    w.Isolates msg.val ↔ (msg.val.getCallId ≠ [] → w.Unambiguous msg.val) :=
  ⟨Isolates.unambiguous hw hreq, Unambiguous.isolates hw hreq⟩

/-- Colons in Call-IDs alone do no harm. -/
theorem isolates_of_no_colon (hw : (machine config hardwareConcurrency).Reachable w)
    (hreq : msg.val.isRequest = true)
    (hstored : ∀ x ∈ w.executed, colon ∉ x.branch ∧ colon ∉ x.method)
    (hb : colon ∉ msg.val.getBranch) (hm : colon ∉ msg.val.methodStr) :
    w.Isolates msg.val := by
  refine Unambiguous.isolates hw hreq fun _ x hx _ => ?_
  obtain ⟨hxb, hxm⟩ := hstored x hx
  refine ⟨fun hred => ?_, fun _ hred => ?_⟩
  · obtain ⟨hk, hno⟩ := ExecutedRequest.redivides_iff.mp hred
    exact hno (makeKey_inj_of_not_mem hb hm hxb hxm hk)
  · obtain ⟨hk, hno⟩ := ExecutedRequest.redivides_iff.mp hred
    exact hno (makeKey_inj_of_not_mem hb (by decide) hxb hxm hk)

end

/-! ## Two requests -/

/-- An OPTIONS request with the Call-ID `a` and the branch `b:c`, and one with `a:b` and `c`. -/
def colonInBranch : Received := exampleRequest (bytes "OPTIONS") (bytes "b:c") (bytes "a") []

def colonInCallId : Received := exampleRequest (bytes "OPTIONS") (bytes "c") (bytes "a:b") []

theorem transactions_isolated_iff_options :
    (exampleRun [⟨{ start := 0 }, .sip exampleOptions {}⟩]).Isolates colonInCallId.val ↔
      (colonInCallId.val.getCallId ≠ [] →
        (exampleRun [⟨{ start := 0 }, .sip exampleOptions {}⟩]).Unambiguous colonInCallId.val) :=
  transactions_isolated_iff (exampleRun_reachable (by decide +kernel)) (by decide +kernel)

/-- The second of the two requests gets no answer. -/
theorem colons_suppress :
    ∃ (w : World) (x : ExecutedRequest), (machine exampleConfig 1).Reachable w ∧
      x ∈ w.executed ∧ x.stored = true ∧
      SipParser.parse (bytes ("OPTIONS  SIP/2.0\r\n" ++
        "Via: SIP/2.0/UDP 10.0.0.1;branch=b:c\r\nCall-ID: a\r\n\r\n")) =
          .ok (some colonInBranch.val) ∧ x.SameIds colonInBranch.val ∧
      SipParser.parse (bytes ("OPTIONS  SIP/2.0\r\n" ++
        "Via: SIP/2.0/UDP 10.0.0.1;branch=c\r\nCall-ID: a:b\r\n\r\n")) =
          .ok (some colonInCallId.val) ∧ ¬ x.SameIds colonInCallId.val ∧
      (w.gateway.handleSipMessage { start := 5 } colonInCallId.val {}).toOption.map
        (·.2.length) = some 0 ∧
      ¬ w.Isolates colonInCallId.val := by
  set w := exampleRun [⟨{ start := 0 }, .sip colonInBranch {}⟩] with hw
  obtain ⟨x, hx, hp⟩ := List.any_eq_true.mp (show w.executed.any (fun x =>
      x.stored ∧ x.SameIds colonInBranch.val ∧ ¬ x.SameIds colonInCallId.val ∧
      x.key ∈ w.gateway.lookups colonInCallId.val ∧
      colonInCallId.val.method ≠ .ack) = true by decide +kernel)
  obtain ⟨hst, hsame, hno, hk, hack⟩ := of_decide_eq_true hp
  refine ⟨w, x, exampleRun_reachable (by decide +kernel), hx, hst, by decide +kernel, hsame,
    by decide +kernel, hno, by decide +kernel, fun h => ?_⟩
  rcases h.lookups x hx hst hk with hsame' | hinvite
  · exact hno hsame'
  · exact hack hinvite.1

end World

end SipGateway
