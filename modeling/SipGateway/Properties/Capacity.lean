import SipGateway.App.Cutting
import SipGateway.App.World

/-!
# The limit on calls

The SIP thread counts the calls and adds one under two separate locks, and the command line may
remove calls in between. `calls_capped`: the limit holds all the same, in every interleaving.
-/

namespace SipGateway

open Infra

namespace Gateway

/-- No call is added, and the configuration stays. -/
structure NoMore (gw gw' : Gateway) : Prop where
  count : gw'.registry.count ≤ gw.registry.count
  config : gw'.config = gw.config

variable {gw gw' gw'' : Gateway}

theorem NoMore.trans (h : NoMore gw gw') (h' : NoMore gw' gw'') : NoMore gw gw'' where
  count := h'.count.trans h.count
  config := h'.config.trans h.config

theorem NoMore.of_tables (h : Threads.SameTables gw gw') : NoMore gw gw' where
  count := by rw [h.registry]
  config := h.config

theorem noMore_respond (gw : Gateway) (msg res : SipMessage) (now : Nat) :
    NoMore gw (gw.respond msg res now) :=
  NoMore.of_tables (Threads.sameTables_respond gw msg res now)

theorem count_removeCall (reg : CallRegistry) (c : Bytes) :
    (reg.removeCall c).count ≤ reg.count := by
  unfold CallRegistry.count CallRegistry.removeCall
  dsimp only
  rw [Std.ExtTreeMap.size_erase]
  split <;> omega

theorem count_setSession (reg : CallRegistry) (c : Bytes) (s : CallSession) :
    (reg.setSession c s).count = reg.count := by
  unfold CallRegistry.count CallRegistry.setSession
  split
  · next hmem =>
    exact Std.ExtTreeMap.size_insert.trans (if_pos hmem)
  · rfl

theorem count_addCall (reg : CallRegistry) (c : Bytes) (s : CallSession) :
    (reg.addCall c s).1.count ≤ reg.count + 1 := by
  unfold CallRegistry.count CallRegistry.addCall
  split
  · exact Nat.le_succ _
  · dsimp only
    rw [Std.ExtTreeMap.size_insert]
    split <;> omega

end Gateway

namespace Threads

open Gateway

variable {n : Nat} {w w' : Threads} {h : Handling} {env : Env}

/-- The limit is `n` and holds, and there is room at the place a call is added. -/
structure Capped (n : Nat) (w : Threads) : Prop where
  limit : sizeT w.gateway.config.maxCalls = n
  count : w.gateway.registry.count ≤ n
  room : ∀ h, w.sip = some h → h.place = .add → w.gateway.registry.count < n

/-- A step that adds no call, and does not lead to where one is added. -/
theorem Capped.noMore (h : w.Capped n) (hmore : NoMore w.gateway w'.gateway)
    (hplace : ∀ h', w'.sip = some h' → h'.place = .add → ∃ h, w.sip = some h ∧ h.place = .add) :
    w'.Capped n := by
  refine ⟨hmore.config ▸ h.limit, hmore.count.trans h.count, ?_⟩
  intro h' hh' hadd
  obtain ⟨h₀, hh₀, hadd₀⟩ := hplace h' hh' hadd
  exact lt_of_le_of_lt hmore.count (h.room h₀ hh₀ hadd₀)

/-- A session is written back, wherever it is. -/
theorem noMore_set (gw : Gateway) (c : Bytes) (s : CallSession) (ref : SessionRef) :
    NoMore gw (ref.set gw c s).1 := by
  cases ref with
  | registered => exact ⟨(count_setSession gw.registry c s).le, rfl⟩
  | detached t => exact ⟨Nat.le_refl _, rfl⟩

theorem noMore_answer {gw : Gateway} {sdp : SdpSession} {p : Int} {r : Gateway × Handling}
    (hr : h.answer gw env sdp p = some r) : NoMore gw r.1 ∧ r.2.place ≠ .add := by
  unfold Handling.answer at hr
  dsimp only at hr
  split at hr
  · cases hr
    obtain ⟨hcount, hconfig⟩ := noMore_respond gw h.msg
      (SipResponseBuilder.createResponse (env.system 1) h.msg 488 (bytes "Not Acceptable Here"))
      (env.now 2)
    exact ⟨⟨hcount, hconfig⟩, nofun⟩
  · simp only [SessionRef.startPipeline, Option.pure_def, Option.bind_eq_bind,
      Option.bind_eq_some_iff, Option.some.injEq] at hr
    obtain ⟨ref, -, ⟨gw', ref'⟩, ⟨s, -, s', -, hset⟩, rfl⟩ := hr
    have hmore := noMore_set gw h.msg.getCallId s' ref
    rw [hset] at hmore
    exact ⟨hmore.trans (noMore_respond _ _ _ _), nofun⟩

theorem noMore_onSipMessage {gw : Gateway} {ref : SessionRef} {msg : SipMessage}
    {r : Gateway × SessionRef} (hr : ref.onSipMessage gw msg = some r) : NoMore gw r.1 := by
  unfold SessionRef.onSipMessage at hr
  obtain ⟨s, -, rfl⟩ := Option.map_eq_some_iff.mp hr
  have hmore := noMore_set { gw with rtpServer := (s.onSipMessage msg gw.rtpServer).2 }
    msg.getCallId (s.onSipMessage msg gw.rtpServer).1 ref
  exact ⟨hmore.count, hmore.config⟩

theorem dispatch_place (h : Handling) (gw : Gateway) (env : Env) :
    (h.dispatch gw env).2.place ≠ .add := by
  unfold Handling.dispatch
  split
  · split
    · nofun
    · split
      · nofun
      · unfold Handling.branch
        dsimp only
        split
        · dsimp only [Handling.goto]
          split <;> nofun
        · dsimp only [Handling.goto]
          split <;> nofun
        · dsimp only [Handling.goto]
          split <;> nofun
        all_goals nofun
  · nofun

/-- A step of the SIP thread. -/
theorem Capped.turn (hcap : w.Capped n) (hsip : w.sip = some h) {r : Gateway × Option Handling}
    (hr : h.turn w.gateway env = some r) : Capped n { w with gateway := r.1, sip := r.2 } := by
  -- at every place but two the count does not grow and nothing is promised
  have hquiet : NoMore w.gateway r.1 → (∀ h', r.2 = some h' → h'.place ≠ .add) →
      Capped n { w with gateway := r.1, sip := r.2 } := fun hmore hplace =>
    hcap.noMore hmore fun h' hh' hadd => absurd hadd (hplace h' hh')
  unfold Handling.turn at hr
  dsimp only at hr
  cases hplace : h.place with
  | lookup =>
    simp only [hplace, Option.some.injEq] at hr
    subst hr
    exact hquiet ⟨Nat.le_refl _, rfl⟩ (by rintro _ ⟨⟩; nofun)
  | dispatch =>
    simp only [hplace, Option.some.injEq] at hr
    subst hr
    exact hquiet (NoMore.of_tables (dispatch_spec h w.gateway env).1)
      (by rintro _ ⟨⟩; exact dispatch_place h w.gateway env)
  | count =>
    simp only [hplace] at hr
    split at hr
    · cases hr
      exact hquiet (noMore_respond _ _ _ _) (by rintro _ ⟨⟩; nofun)
    · next hroom =>
      cases hr
      have hlt : w.gateway.registry.count < n := by
        unfold isFull at hroom
        rw [hcap.limit] at hroom
        exact not_le.mp (by simpa using hroom)
      exact ⟨hcap.limit, hcap.count, fun _ _ _ => hlt⟩
  | add =>
    simp only [hplace, Option.some.injEq] at hr
    subst hr
    refine ⟨hcap.limit, ?_, by rintro _ ⟨⟩; nofun⟩
    exact (count_addCall w.gateway.registry h.msg.getCallId _).trans (hcap.room h hsip hplace)
  | offer =>
    simp only [hplace] at hr
    split at hr
    · cases hr
    · cases hr
      exact hquiet ((noMore_respond _ _ _ _).trans (noMore_respond _ _ _ _))
        (by rintro _ ⟨⟩; nofun)
    · cases hr
      exact hquiet (noMore_respond _ _ _ _) (by rintro _ ⟨⟩; nofun)
  | allocate sdp =>
    simp only [hplace] at hr
    split at hr
    · cases hr
      obtain ⟨hcount, hconfig⟩ := noMore_respond
        { w.gateway with rtpServer := (w.gateway.rtpServer.allocatePort env.net).1 } h.msg
        (SipResponseBuilder.createResponse (env.system 1) h.msg 500
          (bytes "Internal Server Error (No Ports)")) (env.now 2)
      exact hquiet ⟨hcount, hconfig⟩ (by rintro _ ⟨⟩; nofun)
    · cases hr
      exact hquiet ⟨Nat.le_refl _, rfl⟩ (by rintro _ ⟨⟩; nofun)
  | register sdp p =>
    simp only [hplace, Option.some.injEq] at hr
    subst hr
    exact hquiet ⟨Nat.le_refl _, rfl⟩ (by rintro _ ⟨⟩; nofun)
  | answer sdp p =>
    simp only [hplace] at hr
    obtain ⟨r', hr', rfl⟩ := Option.map_eq_some_iff.mp hr
    obtain ⟨hmore, hnext⟩ := noMore_answer hr'
    exact hquiet hmore (by rintro _ ⟨⟩; exact hnext)
  | bye =>
    simp only [hplace, Option.pure_def, Option.bind_eq_bind, Option.bind_eq_some_iff,
      Option.some.injEq] at hr
    obtain ⟨ref, -, r', hr', rfl⟩ := hr
    exact hquiet (noMore_onSipMessage hr') (by rintro _ ⟨⟩; nofun)
  | remove =>
    simp only [hplace, Option.some.injEq] at hr
    subst hr
    exact hquiet ⟨count_removeCall _ _, rfl⟩ (by rintro _ ⟨⟩; nofun)
  | leave =>
    simp only [hplace] at hr
    split at hr <;> (cases hr; exact hquiet ⟨Nat.le_refl _, rfl⟩ (by rintro _ ⟨⟩))

theorem Capped.step (hcap : w.Capped n) {e : Event} (hs : w.step e = some w') :
    w'.Capped n := by
  cases e with
  | arrive msg =>
    cases hs
    refine hcap.noMore ⟨Nat.le_refl _, rfl⟩ fun h' hh' hadd => ?_
    dsimp only at hh'
    split at hh'
    · cases hh'
    · cases hh'
      cases hadd
  | turn env =>
    unfold Threads.step at hs
    obtain ⟨h, hsip, hs⟩ := Option.bind_eq_some_iff.mp hs
    obtain ⟨r, hr, rfl⟩ := Option.map_eq_some_iff.mp hs
    exact hcap.turn hsip hr
  | cleanup env =>
    cases hs
    refine hcap.noMore ?_ fun h' hh' hadd => ⟨h', hh', hadd⟩
    show NoMore w.gateway (w.gateway.cleanupTransactions env)
    unfold Gateway.cleanupTransactions
    dsimp only
    split <;> exact ⟨Nat.le_refl _, rfl⟩
  | cut c =>
    cases hs
    unfold Threads.cut
    dsimp only
    split
    · refine hcap.noMore ⟨count_removeCall _ _, rfl⟩ fun h' hh' hadd => ?_
      obtain ⟨h₀, hh₀, rfl⟩ := Option.map_eq_some_iff.mp hh'
      exact ⟨h₀, hh₀, hadd⟩
    · exact hcap.noMore ⟨count_removeCall _ _, rfl⟩ fun h' hh' hadd => ⟨h', hh', hadd⟩
  | destroy =>
    unfold Threads.step at hs
    obtain ⟨s, -, rfl⟩ := Option.map_eq_some_iff.mp hs
    exact hcap.noMore ⟨Nat.le_refl _, rfl⟩ fun h' hh' hadd => ⟨h', hh', hadd⟩

/--
**The limit on calls is kept**, in every interleaving of the SIP thread with the command line,
although counting and adding are two critical sections.
-/
theorem calls_capped {config : Config} {hardwareConcurrency : Nat}
    (hw : (machine config hardwareConcurrency).Reachable w) :
    w.gateway.registry.count ≤ sizeT config.maxCalls := by
  generalize hn : sizeT config.maxCalls = n
  have hcap : w.Capped n := by
    refine hw.invariant ?_ ?_
    · rintro w rfl
      exact ⟨hn, Nat.zero_le _, by rintro h ⟨⟩⟩
    · intro w e w' _ hcap _ hs
      exact hcap.step hs
  exact hcap.count

/-- Room for one call. -/
def exampleOneCall : Config := { World.exampleConfig with maxCalls := 1 }

/-- An INVITE up to the end, and the INVITE of another call up to where it is counted. -/
def exampleTwoInvites : List Event :=
  [.arrive (World.exampleInvite (bytes "b"))] ++ List.replicate 9 (.turn { start := 0 }) ++
    [.arrive (World.exampleRequest (bytes "INVITE") (bytes "d") (bytes "other") [])] ++
    List.replicate 4 (.turn { start := 0 })

theorem calls_capped_at_one : ∃ w, (machine exampleOneCall 1).Reachable w ∧
    w.gateway.registry.count = 1 ∧ w.gateway.registry.count ≤ sizeT exampleOneCall.maxCalls := by
  obtain ⟨w, hw, hp⟩ := Machine.exists_reach (M := machine exampleOneCall 1)
    (p := fun w => w.gateway.registry.count = 1) (fun _ _ => True) rfl
    (show ((_ : Machine Threads Event).replay (start exampleOneCall 1)
      exampleTwoInvites).any _ = true by decide +kernel)
  exact ⟨w, hw, of_decide_eq_true hp, calls_capped hw⟩

end Threads

end SipGateway
