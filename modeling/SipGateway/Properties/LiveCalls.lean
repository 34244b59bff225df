import SipGateway.Properties.OneCall

/-!
# Which calls there are

A call is registered if and only if the last word about it was a 200 for an INVITE
(`registered_iff_last_word`). The last word is found from outside: from the requests that come in
for the first time, the answers to the INVITEs among them and the lines of the command line.
-/

namespace SipGateway

open Infra

namespace World

open Gateway

variable {config : Config} {hardwareConcurrency : Nat} {w w' : World} {e : Event} {c : Bytes}

/-- The request is answered with a 200. -/
def answersOk (w : World) (env : Env) (msg : SipMessage) (sender : SockAddr) : Bool :=
  match w.gateway.handleSipMessage env msg sender with
  | .ok r => r.2.any fun sent => sent.1.statusCode = 200
  | .error _ => false

/-- The message is ignored, or it is a repetition of one that is still remembered. -/
def IsOld (w : World) (msg : SipMessage) : Prop :=
  msg.getCallId = [] ∨ msg.txKey ∈ w.gateway.transactions

instance (w : World) (msg : SipMessage) : Decidable (w.IsOld msg) :=
  inferInstanceAs (Decidable (_ ∨ _))

/-- What the event says of a call: that it is accepted, or that it is refused, hung up or cut. -/
def verdict (w : World) (c : Bytes) (e : Event) : Option Bool :=
  if Governs c e then
    match e.action with
    | .sip msg sender =>
      if w.IsOld msg.val then none
      else some (msg.val.method = .invite ∧ w.answersOk e.env msg.val sender)
    | _ => some false
  else none

/-- Whether the last word about the call was that it is accepted. -/
def lastWord (c : Bytes) : World → List Event → Bool → Bool
  | _, [], word => word
  | w, e :: es, word =>
    match w.step e with
    | some w' => lastWord c w' es ((w.verdict c e).getD word)
    | none => word

def IsRegistered (w : World) (c : Bytes) : Bool := (w.gateway.registry.getCall c).isSome

theorem isRegistered_of_sameCall (h : SameCall w.gateway w'.gateway c) :
    w'.IsRegistered c = w.IsRegistered c := congrArg Option.isSome h.getCall

theorem isSome_of_dropped {gw gw' : Gateway} (hreg : gw'.registry = (gw.dropCall c).registry) :
    (gw'.registry.getCall c).isSome = false := by
  rw [hreg, dropCall_registry, CallRegistry.getCall_removeCall, if_pos rfl]
  rfl

/-- An INVITE that is executed decides about its call by its answer. -/
theorem isRegistered_of_invite (hports : w.gateway.PortInv) {env : Env} {msg : SipMessage}
    {tx : SipTransaction} {r : Reply} (hr : w.gateway.handleInvite env msg tx = .ok r) :
    (r.gateway.registry.getCall msg.getCallId).isSome =
      r.sent.any fun res => res.statusCode = 200 := by
  obtain ⟨-, res, hsent, heffect⟩ := hports.invite hr
  -- a 100 may come before the final response
  have hany : (r.sent.any fun res => res.statusCode = 200) = decide (res.statusCode = 200) := by
    have htrying : (trying env msg).statusCode = 100 := createResponse_statusCode ..
    rcases hsent with hsent | hsent <;> rw [hsent] <;> simp [htrying]
  rw [hany]
  generalize r.gateway = gw' at heffect
  rcases heffect with ⟨hnew, -⟩ | ⟨_, _, hcode, hnew, -, hreg, -⟩ |
    ⟨_, _, hcode, session, hold, hcalls, -⟩ |
    ⟨_, p, session, session', sdp, _, _, _, _, _, hcalls, -⟩
  · have hcode : (busyHere env msg).statusCode = 486 := createResponse_statusCode ..
    simp [hnew, hcode]
  · have hne : res.statusCode ≠ 200 := by omega
    rw [hreg]
    simp [hnew, hne]
  · have hne : res.statusCode ≠ 200 := by omega
    simp [hcalls, hne]
  · have hcode : (okResponse w.gateway.config env msg (SdpAnswer.generate sdp
        w.gateway.config.bindIp p w.gateway.config.codecPreference).1).statusCode = 200 :=
      createResponse_statusCode ..
    simp [hcalls, hcode]

/-- A BYE or a CANCEL that is executed ends its call. -/
theorem isRegistered_of_hangUp (hports : w.gateway.PortInv) {msg : SipMessage}
    (hreq : msg.isRequest = true) (hmethod : msg.method = .bye ∨ msg.method = .cancel) :
    ((w.gateway.simpleBranch msg).2.2.registry.getCall msg.getCallId).isSome = false := by
  unfold simpleBranch
  rcases hmethod with hbye | hcancel
  · rw [hbye]
    cases hs : w.gateway.registry.getCall msg.getCallId with
    | none =>
      simp only [endCall, hs]
      rfl
    | some s =>
      exact isSome_of_dropped (endCall_eq_dropCall hreq hbye hs (hports.own _ _ hs).1.le).2
  · rw [hcancel]
    cases hs : w.gateway.registry.getCall msg.getCallId with
    | none =>
      simp only [cancelCall, hs]
      rfl
    | some s =>
      simp only [cancelCall, hs]
      exact isSome_of_dropped rfl

/-- An event that does not govern a call neither registers nor ends it. -/
theorem isRegistered_of_not_governs (hports : w.gateway.PortInv) (hgoverns : ¬ Governs c e)
    (hstep : w.step e = some w') : w'.IsRegistered c = w.IsRegistered c := by
  -- a session that is written back is written back to a call that is registered
  have hset : ∀ (d : Bytes) (s : CallSession),
      ((w.gateway.registry.setSession d s).getCall c).isSome = w.IsRegistered c := by
    intro d s
    rw [CallRegistry.getCall_setSession]
    split
    · next hd => rw [Option.isSome_map, IsRegistered, hd]
    · rfl
  obtain ⟨env, action⟩ := e
  cases action with
  | sip msg sender => exact isRegistered_of_sameCall (sameCall_sip hports hgoverns hstep)
  | cleanup =>
    cases hstep
    exact isRegistered_of_sameCall (sameCall_cleanup w.gateway env c)
  | cli line =>
    obtain rfl := step_cli hstep
    exact isRegistered_of_sameCall (sameCall_cli hports hgoverns)
  | rtp localPort pkt sender =>
    cases hstep
    show ((w.gateway.handleRtpPacket localPort pkt sender).1.registry.getCall c).isSome = _
    unfold handleRtpPacket
    split
    · exact hset _ _
    · rfl
  | media callId ev =>
    cases hstep
    show ((w.gateway.handleMedia callId ev).registry.getCall c).isSome = _
    unfold Gateway.handleMedia
    split
    · exact hset _ _
    · rfl

/-- A request other than ACK is ignored or answered from its transaction, or it is executed. -/
theorem old_or_executed {env : Env} {msg : Received} {sender : SockAddr}
    (hreq : msg.val.isRequest = true) (hack : msg.val.method ≠ .ack)
    (hstep : w.step ⟨env, .sip msg sender⟩ = some w') :
    (w.IsOld msg.val ∧ w'.gateway = w.gateway) ∨
    (¬ w.IsOld msg.val ∧ ∃ rep,
      w.gateway.execute env msg.val (SipTransaction.create msg.val (env.now 0)) = .ok rep ∧
      w'.gateway.registry = rep.gateway.registry ∧
      w.answersOk env msg.val sender = rep.sent.any fun res => res.statusCode = 200) := by
  cases hr : w.gateway.handleSipMessage env msg.val sender with
  | error ex => simp [step, hr] at hstep
  | ok r =>
    simp only [step, hr, Option.some.injEq] at hstep
    subst hstep
    unfold answersOk
    rw [hr]
    cases handleSipMessage_handled hr with
    | ignored hid => exact Or.inl ⟨Or.inl hid, rfl⟩
    | resent hid _ sent hsent =>
      have hmem : msg.val.txKey ∈ w.gateway.transactions := by
        by_contra hnot
        rw [retransmission, getElem?_neg _ _ hnot] at hsent
        cases hsent
      exact Or.inl ⟨Or.inr hmem, rfl⟩
    | acked _ _ hack' => exact absurd hack' hack
    | response _ hreq' =>
      rw [hreq] at hreq'
      cases hreq'
    | executed hid _ _ hnew rep hrep =>
      have hfresh : ¬ w.IsOld msg.val := by
        rintro (h | h)
        · exact hid h
        · rw [getElem?_pos _ _ h] at hnew
          cases hnew
      refine Or.inr ⟨hfresh, rep, hrep, rfl, ?_⟩
      dsimp only
      rw [List.any_map]
      rfl

/-- A request that governs a call registers or ends it, if it is new. -/
theorem isRegistered_of_executed (hports : w.gateway.PortInv) {env : Env} {msg : SipMessage}
    {rep : Reply} (hreq : msg.isRequest = true)
    (hmethod : msg.method = .invite ∨ msg.method = .bye ∨ msg.method = .cancel)
    (hrep : w.gateway.execute env msg (SipTransaction.create msg (env.now 0)) = .ok rep) :
    (rep.gateway.registry.getCall msg.getCallId).isSome =
      decide (msg.method = .invite ∧ rep.sent.any (fun res => res.statusCode = 200)) := by
  by_cases hinv : msg.method = .invite
  · rw [Gateway.execute, if_pos hinv] at hrep
    simp only [isRegistered_of_invite hports hrep, hinv, true_and, Bool.decide_eq_true]
  · rw [Gateway.execute, if_neg hinv, Except.ok.injEq] at hrep
    subst hrep
    simp only [hinv, false_and, decide_false]
    exact isRegistered_of_hangUp hports hreq (hmethod.resolve_left hinv)

/-- A step changes whether a call is registered as the event says. -/
theorem isRegistered_step (hports : w.gateway.PortInv) (hstep : w.step e = some w') :
    w'.IsRegistered c = (w.verdict c e).getD (w.IsRegistered c) := by
  unfold verdict
  by_cases hgoverns : Governs c e
  · rw [if_pos hgoverns]
    obtain ⟨env, action⟩ := e
    cases action with
    | sip msg sender =>
      obtain ⟨rfl, hreq, hmethod⟩ := hgoverns
      have hack : msg.val.method ≠ .ack := by
        rcases hmethod with h | h | h <;> simp [h]
      dsimp only
      unfold IsRegistered
      rcases old_or_executed hreq hack hstep with ⟨hold, hsame⟩ | ⟨hfresh, rep, hrep, hreg, hanswer⟩
      · rw [if_pos hold, hsame, Option.getD_none]
      · rw [if_neg hfresh, hreg, hanswer, Option.getD_some]
        exact isRegistered_of_executed hports hreq hmethod hrep
    | cli line =>
      obtain ⟨hcut, rfl⟩ := hgoverns
      obtain rfl := step_cli hstep
      show ((w.gateway.cliLine line).registry.getCall (line.drop 4)).isSome = false
      rw [cliLine, if_pos hcut]
      exact isSome_of_dropped rfl
    | cleanup => exact absurd hgoverns id
    | rtp localPort pkt sender => exact absurd hgoverns id
    | media callId ev => exact absurd hgoverns id
  · rw [if_neg hgoverns]
    exact isRegistered_of_not_governs hports hgoverns hstep

/--
**The registered calls are the accepted ones.** In every run, a Call-ID is registered if and only if
the last of what came for it was an INVITE that was answered with a 200: no BYE or CANCEL in a new
transaction, no refused INVITE and no line that cuts it off came after. Whatever else is handled
changes nothing.
-/
theorem registered_iff_last_word {events : List Event}
    (hrun : (machine config hardwareConcurrency).replay (start config hardwareConcurrency) events
      = some w) :
    w.IsRegistered c = lastWord c (start config hardwareConcurrency) events false := by
  have hgeneral : ∀ (es : List Event) (w₀ : World),
      (machine config hardwareConcurrency).Reachable w₀ →
      (machine config hardwareConcurrency).replay w₀ es = some w →
      w.IsRegistered c = lastWord c w₀ es (w₀.IsRegistered c) := by
    intro es
    induction es with
    | nil =>
      intro w₀ _ hrun
      cases hrun
      rfl
    | cons e es ih =>
      intro w₀ hw hrun
      rw [Machine.replay] at hrun
      split at hrun
      · next hen =>
        obtain ⟨w₁, hstep, hrest⟩ := Option.bind_eq_some_iff.mp hrun
        have hstep' : w₀.step e = some w₁ := hstep
        rw [ih w₁ (hw.next hen hstep) hrest, lastWord, hstep',
          isRegistered_step (callInv hw).ports hstep']
      · cases hrun
  rw [hgeneral events _ (Machine.Reach.init rfl) hrun]
  rfl

/-- One call is set up and stays, its INVITE comes twice; another is set up and hung up. -/
theorem registered_iff_last_word_example :
    ∃ w, (machine exampleConfig 1).replay (start exampleConfig 1)
        (exampleCall ++ exampleOthers ++ exampleCall) = some w ∧
      w.IsRegistered (bytes "call") = true ∧ w.IsRegistered (bytes "other") = false := by
  obtain ⟨w, hrun⟩ := Option.isSome_iff_exists.mp (show ((machine exampleConfig 1).replay
    (start exampleConfig 1) (exampleCall ++ exampleOthers ++ exampleCall)).isSome = true by
      decide +kernel)
  exact ⟨w, hrun, (registered_iff_last_word hrun).trans (by decide +kernel),
    (registered_iff_last_word hrun).trans (by decide +kernel)⟩

end World

end SipGateway
