import SipGateway.Properties.Transactions

/-!
# What the clean-up leaves

Every stored transaction is finished, so that the clean-up never needs its rule of 64 seconds. It
leaves exactly the transactions that were active in the last 33 seconds, and from there on only
younger ones come (`swept_table`).
-/

namespace SipGateway

open Infra

/-- The states the clean-up takes out after 32 seconds. -/
def SipTransaction.Finished (tx : SipTransaction) : Prop :=
  tx.state = .terminated ∨ tx.state = .completed ∨ tx.state = .confirmed

theorem SipTransaction.Settled.finished {tx : SipTransaction} {res : SipMessage}
    (h : tx.Settled res) : tx.Finished := by
  unfold SipTransaction.Finished
  cases hinv : tx.isInviteTransaction with
  | false => exact Or.inr (Or.inl (h.other hinv))
  | true =>
    rcases lt_or_ge res.statusCode 300 with hok | hbad
    · exact Or.inl (h.success hinv hok)
    · exact Or.inr (h.failure hinv hbad)

/-- A finished transaction is taken out when it has not been active for 33 seconds. -/
theorem Gateway.expired_iff {now : Nat} {tx : SipTransaction} (h : tx.Finished) :
    Gateway.expired now tx = true ↔ tx.lastActive + 33000000000 ≤ now := by
  have hstate : (tx.state = .terminated ∨ tx.state = .completed) ∨ tx.state = .confirmed :=
    or_assoc.mpr h
  unfold Gateway.expired
  dsimp only
  simp only [Bool.or_eq_true, Bool.and_eq_true, decide_eq_true_eq, hstate, true_and]
  omega

namespace World

variable {config : Config} {hardwareConcurrency : Nat} {w w' : World} {e : Event} {k : Bytes}
  {tx : SipTransaction}

theorem TransactionInv.finished (h : w.TransactionInv)
    (htx : w.gateway.transactions[k]? = some tx) : tx.Finished := by
  obtain ⟨x, hx, hstored, hkey⟩ := h.complete k tx htx
  have hrecord := h.records x hx
  have hget := hrecord.stored hstored
  rw [hkey, htx] at hget
  cases hget
  obtain ⟨res, hsettled⟩ := hrecord.settled
  exact hsettled.finished

/-- A clean-up that does its work, since the last one was five seconds ago. -/
def Sweeps (w : World) (e : Event) : Prop :=
  e.action = .cleanup ∧
    5 ≤ (e.env.now 1 - w.gateway.lastCleanup.getD (e.env.now 0)) / 1000000000

instance (w : World) (e : Event) : Decidable (w.Sweeps e) :=
  match h : e.action with
  | .cleanup => decidable_of_iff
      (5 ≤ (e.env.now 1 - w.gateway.lastCleanup.getD (e.env.now 0)) / 1000000000)
      (by simp [Sweeps, h])
  | .sip _ _ => isFalse (by simp [Sweeps, h])
  | .cli _ => isFalse (by simp [Sweeps, h])
  | .rtp _ _ _ => isFalse (by simp [Sweeps, h])
  | .media _ _ => isFalse (by simp [Sweeps, h])

theorem Sweeps.lookup (h : w.Sweeps e) (k : Bytes) :
    (w.gateway.cleanupTransactions e.env).transactions[k]? =
      w.gateway.transactions[k]?.filter fun tx => !Gateway.expired (e.env.now 1) tx := by
  unfold Gateway.cleanupTransactions
  dsimp only
  rw [if_neg (Nat.not_lt.mpr h.2)]
  exact Std.ExtTreeMap.getElem?_filter' ..

/-! ## Activity -/

/-- A stored transaction was so before with the same activity, or has been active just now. -/
theorem active_of_step (hen : w.clock ≤ e.env.start) (hstep : Stepped w e w')
    (htx : w'.gateway.transactions[k]? = some tx) :
    (∃ tx', w.gateway.transactions[k]? = some tx' ∧ tx'.lastActive = tx.lastActive) ∨
      w.clock ≤ tx.lastActive := by
  have hclock : ∀ i, w.clock ≤ e.env.now i := fun i => hen.trans (e.env.start_le_now i)
  cases hstep with
  | other gw' hact hother =>
    change gw'.transactions[k]? = some tx at htx
    rcases hother.transactions with hsame | rfl
    · rw [hsame] at htx
      exact Or.inl ⟨tx, htx, rfl⟩
    · exact Or.inl ⟨tx, cleanupTransactions_subset w.gateway e.env k htx, rfl⟩
  | sip msg sender r hact hr =>
    change r.1.transactions[k]? = some tx at htx
    cases hr with
    | ignored => exact Or.inl ⟨tx, htx, rfl⟩
    | resent => exact Or.inl ⟨tx, htx, rfl⟩
    | acked =>
      rw [handleAck_lookup] at htx
      split at htx
      · obtain ⟨tx', -, rfl⟩ := Option.map_eq_some_iff.mp htx
        exact Or.inr ((hclock 1).trans_eq (SipTransaction.receiveRequest_lastActive ..).symm)
      · exact Or.inl ⟨tx, htx, rfl⟩
    | response =>
      rw [handleResponse_lookup] at htx
      split at htx
      · obtain ⟨tx', -, rfl⟩ := Option.map_eq_some_iff.mp htx
        exact Or.inr ((hclock 0).trans_eq (SipTransaction.receiveResponse_lastActive ..).symm)
      · exact Or.inl ⟨tx, htx, rfl⟩
    | executed hid hreq hack hnew rep hrep =>
      rw [getElem?_insert_key] at htx
      split at htx
      · cases htx
        obtain ⟨-, res, -, -, hanswered⟩ := Gateway.execute_replied hrep
        rcases hanswered with ⟨-, -, htx⟩ | ⟨-, -, htx⟩
        · rw [htx, SipTransaction.sendResponse_lastActive]
          exact Or.inr (hclock 1)
        · rw [htx, SipTransaction.sendResponse_lastActive]
          exact Or.inr (hclock 2)
      · exact Or.inl ⟨tx, htx, rfl⟩

/-- The time has come, and every stored transaction was active after some other time. -/
structure ActiveSince (now since : Nat) (w : World) : Prop where
  clock : now ≤ w.clock
  active : ∀ (k : Bytes) (tx : SipTransaction), w.gateway.transactions[k]? = some tx →
    now < tx.lastActive + since

theorem ActiveSince.step {now since : Nat} (h : ActiveSince now since w) (hsince : 0 < since)
    (hen : w.clock ≤ e.env.start) (hstep : w.step e = some w') : ActiveSince now since w' := by
  have hstepped := step_stepped hstep
  have hclock : w'.clock = e.env.now 2 := by cases hstepped <;> rfl
  have hlater : now ≤ e.env.now 2 := (h.clock.trans hen).trans (e.env.start_le_now 2)
  refine ⟨hclock ▸ hlater, ?_⟩
  intro k tx htx
  rcases active_of_step hen hstepped htx with ⟨tx', htx', hactive⟩ | hactive
  · exact hactive ▸ h.active k tx' htx'
  · have := h.clock
    omega

theorem ActiveSince.replay {now since : Nat} (h : ActiveSince now since w) (hsince : 0 < since)
    {events : List Event}
    (hrun : (machine config hardwareConcurrency).replay w events = some w') :
    ActiveSince now since w' := by
  induction events generalizing w with
  | nil =>
    rw [Machine.replay, Option.some.injEq] at hrun
    exact hrun ▸ h
  | cons e events ih =>
    rw [Machine.replay] at hrun
    split at hrun
    · next hen =>
      obtain ⟨w₁, hstep, hrest⟩ := Option.bind_eq_some_iff.mp hrun
      exact ih (h.step hsince hen hstep) hrest
    · cases hrun

/--
**What a clean-up leaves, for good.** Every stored transaction is finished, at any time. A clean-up
keeps exactly the transactions that were active in the 33 seconds before it, and no transaction that
was not so will be in the table again.
-/
theorem swept_table (hw : (machine config hardwareConcurrency).Reachable w) :
    (∀ (k : Bytes) (tx : SipTransaction), w.gateway.transactions[k]? = some tx → tx.Finished) ∧
    ∀ e w', w.clock ≤ e.env.start → w.Sweeps e → w.step e = some w' →
      (∀ (k : Bytes) (tx : SipTransaction), w'.gateway.transactions[k]? = some tx ↔
        w.gateway.transactions[k]? = some tx ∧ e.env.now 1 < tx.lastActive + 33000000000) ∧
      ∀ events w'', (machine config hardwareConcurrency).replay w' events = some w'' →
        ∀ (k : Bytes) (tx : SipTransaction), w''.gateway.transactions[k]? = some tx →
          tx.Finished ∧ e.env.now 1 < tx.lastActive + 33000000000 := by
  have hfinished : ∀ {w : World}, (machine config hardwareConcurrency).Reachable w →
      ∀ (k : Bytes) (tx : SipTransaction), w.gateway.transactions[k]? = some tx → tx.Finished :=
    fun hw _ _ htx => (transactionInv hw).finished htx
  refine ⟨hfinished hw, ?_⟩
  intro e w' hen hsweep hstep
  have hgateway : w' = w.afterOther e.env (w.gateway.cleanupTransactions e.env) := by
    unfold step at hstep
    rw [hsweep.1] at hstep
    exact (Option.some.inj hstep).symm
  have hkept : ∀ (k : Bytes) (tx : SipTransaction), w'.gateway.transactions[k]? = some tx ↔
      w.gateway.transactions[k]? = some tx ∧ e.env.now 1 < tx.lastActive + 33000000000 := by
    intro k tx
    rw [hgateway]
    show (w.gateway.cleanupTransactions e.env).transactions[k]? = some tx ↔ _
    rw [hsweep.lookup, Option.filter_eq_some_iff]
    refine and_congr_right fun htx => ?_
    rw [Bool.not_eq_true', ← Bool.not_eq_true, Gateway.expired_iff (hfinished hw k tx htx)]
    exact Nat.not_le
  refine ⟨hkept, ?_⟩
  intro events w'' hrun k tx htx
  have hactive : ActiveSince (e.env.now 1) 33000000000 w' := by
    refine ⟨?_, fun k tx htx => ((hkept k tx).mp htx).2⟩
    rw [hgateway]
    exact e.env.now_le_now (by decide)
  have hreach : (machine config hardwareConcurrency).Reachable w'' :=
    Machine.replay_reach events (fun _ _ _ => trivial) (hw.next hen hstep) hrun
  exact ⟨hfinished hreach k tx htx, (hactive.replay (by decide) hrun).active k tx htx⟩

/-- Two requests, 20 seconds apart, and the first turn of the clean-up between them. -/
def exampleUnswept : List Event :=
  [⟨{ start := 0 }, .sip (exampleRequest (bytes "OPTIONS") (bytes "a") (bytes "call") []) {}⟩,
    ⟨{ start := 0 }, .cleanup⟩,
    ⟨{ start := 20000000000 },
      .sip (exampleRequest (bytes "OPTIONS") (bytes "b") (bytes "call") []) {}⟩]

/-- 40 seconds behind the first of them, the second is left. -/
theorem swept_table_two :
    (exampleRun exampleUnswept).gateway.transactions.size = 2 ∧
    ∃ w', (exampleRun exampleUnswept).step ⟨{ start := 40000000000 }, .cleanup⟩ = some w' ∧
      w'.gateway.transactions.size = 1 ∧
      ∀ (k : Bytes) (tx : SipTransaction), w'.gateway.transactions[k]? = some tx →
        tx.Finished ∧ 40000000000 < tx.lastActive + 33000000000 := by
  obtain ⟨w', hstep⟩ := Option.isSome_iff_exists.mp (show ((exampleRun exampleUnswept).step
    ⟨{ start := 40000000000 }, .cleanup⟩).isSome = true from rfl)
  have hsize : (((exampleRun exampleUnswept).step ⟨{ start := 40000000000 }, .cleanup⟩).map
      fun w => w.gateway.transactions.size) = some 1 := by
    decide +kernel
  rw [hstep] at hsize
  have h := (swept_table (exampleRun_reachable (by decide +kernel))).2 _ w' (by decide +kernel)
    (by decide +kernel) hstep
  exact ⟨by decide +kernel, w', hstep, Option.some.inj hsize, h.2 [] w' rfl⟩

end World

end SipGateway
