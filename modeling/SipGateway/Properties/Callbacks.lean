import SipGateway.Call.Ownership

/-!
# Callbacks into stages

`terminate` stops a client before it lets go of the pipeline, so the thread is joined when the
stage goes. `startPipeline` on a session that has a client assigns `pipeline_` first: the stage of
the old pipeline goes while the thread of the old client may be calling into it.

As long as no client of the session can call at that assignment, every callback leads to a stage
of the current pipeline (`Safe`), in every run.
-/

namespace SipGateway

open Infra

/-- Between the new pipeline and its core stage. -/
def SessionPc.exchanging : SessionPc → Bool
  | .newClient | .connecting | .addCore => true
  | _ => false

namespace SessionObjects

variable {config : Config} {session : CallSession} {s s' : SessionObjects} {k : ClientId}
  {peer : Peer} {stage : StageId}

/-- The member refers to no client whose thread can call a callback. -/
def memberQuiet (s : SessionObjects) (peer : Peer) : Bool :=
  (s.member peer).all fun k => s.clients[k]?.all fun c => !c.life.mayCall || c.audioCb.isNone

/-- `startPipeline` assigns `pipeline_` only while no client of the session can call back. -/
def StartsQuiet (s : SessionObjects) : Event → Prop
  | .advance _ => s.pc = .newPipeline → s.memberQuiet .bot = true ∧ s.memberQuiet .tcp = true
  | _ => True

instance (s : SessionObjects) (e : Event) : Decidable (StartsQuiet s e) :=
  match e with
  | .advance _ =>
    inferInstanceAs (Decidable
      (s.pc = .newPipeline → s.memberQuiet .bot = true ∧ s.memberQuiet .tcp = true))
  | .startPipeline | .terminate | .frameStart | .frameEnd _ | .client _ _ => isTrue trivial

/-- `pipeline_` leads to the stage. -/
def Leads (s : SessionObjects) (stage : StageId) : Prop :=
  ∃ p stages, s.pipeline = some p ∧ s.pipelines[p]? = some stages ∧ stage ∈ stages

theorem Leads.referenced (h : s.Leads stage) : stage ∈ s.referencedStages := by
  obtain ⟨p, stages, hp, hstages, hmem⟩ := h
  refine List.mem_flatMap.mpr ⟨p, ?_, ?_⟩
  · rw [hp]
    exact List.mem_append_left _ List.mem_cons_self
  · rw [hstages]
    exact hmem

/-- More stages. -/
theorem Leads.addStage (h : s.Leads stage) (client : Option ClientId) :
    (s.addStage client).Leads stage := by
  obtain ⟨p, stages, hp, hstages, hmem⟩ := h
  refine ⟨p, stages ++ [s.stages.length], hp, ?_, List.mem_append_left _ hmem⟩
  simp only [SessionObjects.addStage, hp]
  rw [List.getElem?_modify_eq, hstages]
  rfl

/-- The stage that was just added. -/
theorem leads_addStage (h : s.HasPipeline) (client : Option ClientId) :
    (s.addStage client).Leads s.stages.length := by
  obtain ⟨p, hp, hlt⟩ := h
  refine ⟨p, s.pipelines[p] ++ [s.stages.length], hp, ?_, List.mem_append_right _ (by simp)⟩
  simp only [SessionObjects.addStage, hp]
  rw [List.getElem?_modify_eq, List.getElem?_eq_getElem hlt]
  rfl

/-! ## The invariant -/

structure Safe (s : SessionObjects) : Prop where
  current : ∀ k stage, s.CanCall k stage → (∃ peer, s.member peer = some k) ∧ s.Leads stage
  quiet : s.pc.exchanging = true → ∀ k stage, ¬ s.CanCall k stage

theorem Safe.of_quiet (h : ∀ k stage, ¬ s.CanCall k stage) : Safe s :=
  ⟨fun k stage hcall => absurd hcall (h k stage), fun _ => h⟩

/-- Nobody can call who could not before, and the members and their stages are still there. -/
theorem Safe.transfer (h : Safe s) (hcall : ∀ k stage, s'.CanCall k stage → s.CanCall k stage)
    (hmember : ∀ peer k stage, s'.CanCall k stage → s.member peer = some k →
      s'.member peer = some k)
    (hleads : ∀ stage, s.Leads stage → s'.Leads stage)
    (hpc : s'.pc = s.pc ∨ s'.pc.exchanging = false) : Safe s' := by
  refine ⟨?_, ?_⟩
  · intro k stage hcalls
    obtain ⟨⟨peer, hk⟩, hstage⟩ := h.current k stage (hcall k stage hcalls)
    exact ⟨⟨peer, hmember peer k stage hcalls hk⟩, hleads stage hstage⟩
  · intro hexchanging k stage hcalls
    rcases hpc with hpc | hpc
    · exact h.quiet (hpc ▸ hexchanging) k stage (hcall k stage hcalls)
    · cases hpc.symm.trans hexchanging

/-- The same with no change to the members. -/
theorem Safe.transfer_same (h : Safe s)
    (hcall : ∀ k stage, s'.CanCall k stage → s.CanCall k stage)
    (hmember : ∀ peer, s'.member peer = s.member peer)
    (hleads : ∀ stage, s.Leads stage → s'.Leads stage)
    (hpc : s'.pc = s.pc ∨ s'.pc.exchanging = false) : Safe s' :=
  h.transfer hcall (fun peer _ _ _ hk => (hmember peer).trans hk) hleads hpc

/-- A destructor that begins changes nothing for the reader thread. -/
theorem canCall_collect : s.collect.CanCall k stage ↔ s.CanCall k stage := by
  constructor
  · rintro ⟨c, hc, hcall⟩
    rw [getElem?_collect, Option.map_eq_some_iff] at hc
    obtain ⟨c, hc, rfl⟩ := hc
    refine ⟨c, hc, ?_⟩
    split at hcall
    · exact ClientObject.destroy_callsInto.mp hcall
    · exact hcall
  · rintro ⟨c, hc, hcall⟩
    refine ⟨if k ∈ s.dying then c.destroy else c, by rw [getElem?_collect, hc]; rfl, ?_⟩
    split
    · exact ClientObject.destroy_callsInto.mpr hcall
    · exact hcall

theorem Safe.collect (h : Safe s) : Safe s.collect :=
  h.transfer_same (fun _ _ => canCall_collect.mp) (member_congr rfl rfl)
    (fun _ => id) (Or.inl rfl)

theorem Safe.release (h : Safe s) : Safe s.release :=
  h.transfer_same (fun _ _ => canCall_collect.mp) (member_congr rfl rfl)
    (fun _ => id) (Or.inl rfl)

/-- With quiet members there is nobody else who could call. -/
theorem Safe.quiet_of_members (h : Safe s) (hbot : s.memberQuiet .bot = true)
    (htcp : s.memberQuiet .tcp = true) (k : ClientId) (stage : StageId) : ¬ s.CanCall k stage := by
  intro hcalls
  obtain ⟨⟨peer, hk⟩, -⟩ := h.current k stage hcalls
  obtain ⟨c, hc, hcall, hcb⟩ := hcalls
  have hquiet : s.memberQuiet peer = true := by cases peer <;> assumption
  rw [memberQuiet, hk, Option.all_some, hc, Option.all_some, hcall, hcb] at hquiet
  cases hquiet

/-! ### The statements of `startPipeline` -/

theorem Safe.newClient (h : Safe s) (hpc : s.pc = .newClient) (life : ClientLife)
    (client : Option ClientId) (peer : Peer) :
    Safe ({ s with
      clients := s.clients ++ [ClientObject.mk life none]
      pc := .connecting }.setMember client peer) := by
  refine Safe.of_quiet ?_
  rintro k stage ⟨c, hc, hcall, hcb⟩
  rw [setMember_clients, List.getElem?_append] at hc
  split at hc
  · exact h.quiet (by rw [hpc]; rfl) k stage ⟨c, hc, hcall, hcb⟩
  · obtain ⟨rfl⟩ := List.mem_singleton.mp (List.mem_of_getElem? hc)
    cases hcb

/-- The new client has no callback yet. -/
theorem Safe.connect (h : Safe s) (ho : Owned config s) (hpc : s.pc = .connecting) {env : Env}
    (hk : config.mode.peer.bind s.member = some k) {next : SessionObjects}
    (hs : s.clientStep k (.connect env) = some next) (pc : SessionPc) :
    Safe { next with pc := pc } := by
  obtain ⟨peer, hmode, hk⟩ := Option.bind_eq_some_iff.mp hk
  obtain ⟨c, life, hc, -, rfl⟩ := clientStep_eq hs
  have hplace := ho.place
  rw [hpc] at hplace
  obtain ⟨-, peer', k', c', hmode', hk', hc', -, hcb⟩ := hplace
  obtain rfl : peer = peer' := Option.some.inj (hmode.symm.trans hmode')
  obtain rfl : k = k' := Option.some.inj (hk.symm.trans hk')
  obtain rfl : c = c' := Option.some.inj (hc.symm.trans hc')
  refine Safe.of_quiet ?_
  rintro k' stage ⟨c', hget, hcall, hcb'⟩
  rcases getElem?_set hget with ⟨rfl, rfl⟩ | ⟨-, hget⟩
  · cases hcb.symm.trans hcb'
  · exact h.quiet (by rw [hpc]; rfl) k' stage ⟨c', hget, hcall, hcb'⟩

/-- The callback of the new client leads to the stage that is added with it. -/
theorem Safe.addCore (h : Safe s) (ho : Owned config s) (hpc : s.pc = .addCore)
    (hk : s.member peer = some k) (client : Option ClientId) :
    Safe { (s.setAudioCallback k s.stages.length).addStage client with pc := .addRecorder } := by
  have hpipeline := ho.place
  rw [hpc] at hpipeline
  refine ⟨?_, nofun⟩
  rintro k' stage ⟨c', hget, hcall⟩
  obtain ⟨c, hc, rfl⟩ := Option.map_eq_some_iff.mp
    ((getElem?_setAudioCallback k k' s.stages.length).symm.trans hget)
  split at hcall
  · next heq =>
    subst heq
    obtain ⟨-, hcb⟩ := hcall
    cases hcb
    refine ⟨⟨peer, by cases peer <;> exact hk⟩, ?_⟩
    have hthere : (s.setAudioCallback k s.stages.length).HasPipeline := hpipeline
    exact leads_addStage hthere client
  · exact absurd ⟨c, hc, hcall⟩ (h.quiet (by rw [hpc]; rfl) k' stage)

/-! ### The statements of `terminate` -/

/-- Calling `stop` moves the owner, not the reader thread. -/
theorem Safe.stop (h : Safe s) {next : SessionObjects} (hs : s.clientStep k .stop = some next)
    (peer : Peer) : Safe { next with waiting := [k], pc := .dropping peer } := by
  obtain ⟨c, life, hc, hlife, rfl⟩ := clientStep_eq hs
  refine h.transfer_same ?_ (member_congr rfl rfl) (fun _ => id) (Or.inr rfl)
  rintro k' stage ⟨c', hget, hcall, hcb⟩
  rcases getElem?_set hget with ⟨rfl, rfl⟩ | ⟨-, hget⟩
  · exact ⟨c, hc, (ClientLife.step_stop hlife).2.symm.trans hcall, hcb⟩
  · exact ⟨c', hget, hcall, hcb⟩

/-- The client whose `stop` is back calls nobody, so its member can go. -/
theorem Safe.drop (h : Safe s) (ho : Owned config s) (hpc : s.pc = .dropping peer)
    (hreturned : s.returned = true) :
    Safe ({ s with pc := afterDrop peer }.setMember none peer) := by
  refine h.transfer ?_ ?_ ?_ ?_
  · rintro k stage ⟨c, hc, hcall⟩
    rw [setMember_clients] at hc
    exact ⟨c, hc, hcall⟩
  · rintro peer' k stage ⟨c, hc, hcall, -⟩ hk
    rw [setMember_clients] at hc
    rw [member_setMember, if_neg ?_]
    · cases peer' <;> exact hk
    · rintro rfl
      obtain ⟨c', hc', hstopped⟩ := ho.stopped hpc hreturned hk
      obtain rfl : c = c' := Option.some.inj (hc.symm.trans hc')
      cases hcall.symm.trans hstopped
  · rintro stage ⟨p, stages, hp, hstages, hmem⟩
    exact ⟨p, stages, by rw [setMember_pipeline]; exact hp,
      by rw [setMember_pipelines]; exact hstages, hmem⟩
  · rw [setMember_pc]
    cases peer <;> exact Or.inr rfl

/-- **Every statement keeps the callbacks safe**, if the pipeline is replaced in a quiet moment. -/
theorem Safe.advance (h : Safe s) (ho : Owned config s) {env : Env}
    (hen : s.enabled (.advance env) = true) (hquiet : StartsQuiet s (.advance env))
    (hs : s.advance config session env = some s') : Safe s' := by
  rw [enabled, Bool.and_eq_true] at hen
  have hplace := ho.place
  unfold SessionObjects.advance at hs
  cases hpc : s.pc with
  | idle => rw [hpc] at hs; cases hs; exact h
  | newPipeline =>
    rw [hpc] at hs
    cases hs
    obtain ⟨hbot, htcp⟩ := hquiet hpc
    have hnobody := h.quiet_of_members hbot htcp
    exact Safe.release (Safe.of_quiet hnobody)
  | newClient =>
    rw [hpc] at hs
    have hnobody := h.quiet (by rw [hpc]; rfl)
    dsimp only at hs
    split at hs
    · next peer _ =>
      cases hs
      exact (h.newClient hpc (.create config session peer) _ peer).release
    · cases hs
      exact Safe.of_quiet hnobody
  | connecting =>
    rw [hpc] at hs
    obtain ⟨k, hk, hs⟩ := Option.bind_eq_some_iff.mp hs
    obtain ⟨next, hnext, hs⟩ := Option.bind_eq_some_iff.mp hs
    cases hs
    exact h.connect ho hpc hk hnext _
  | addCore =>
    rw [hpc] at hs
    obtain ⟨k, hk, hs⟩ := Option.bind_eq_some_iff.mp hs
    obtain ⟨peer, -, hk⟩ := Option.bind_eq_some_iff.mp hk
    cases hs
    exact h.addCore ho hpc hk (some k)
  | addRecorder =>
    rw [hpc] at hs
    cases hs
    split
    · exact h.transfer_same (fun _ _ => id) (member_congr rfl rfl)
        (fun stage hleads => hleads.addStage none) (Or.inr rfl)
    · exact h.transfer_same (fun _ _ => id) (member_congr rfl rfl) (fun _ => id) (Or.inr rfl)
  | stopping peer =>
    rw [hpc] at hs
    dsimp only at hs
    split at hs
    · next k hk =>
      obtain ⟨next, hnext, rfl⟩ := Option.map_eq_some_iff.mp hs
      exact h.stop hnext peer
    · cases hs
      refine h.transfer_same (fun _ _ => id) (member_congr rfl rfl) (fun _ => id) ?_
      cases peer <;> exact Or.inr rfl
  | dropping peer =>
    rw [hpc] at hs
    cases hs
    exact (h.drop ho hpc hen.2).release
  | dropPipeline =>
    rw [hpc] at hs hplace
    cases hs
    obtain ⟨hbot, htcp⟩ := hplace
    have hnobody := h.quiet_of_members (by rw [memberQuiet, hbot]; rfl)
      (by rw [memberQuiet, htcp]; rfl)
    exact Safe.release (Safe.of_quiet hnobody)

theorem Safe.next (h : Safe s) (ho : Owned config s) {e : Event} (hen : s.enabled e = true)
    (hquiet : StartsQuiet s e) (hs : step config session s e = some s') : Safe s' := by
  cases e with
  | startPipeline | terminate =>
    cases hs
    exact h.transfer_same (fun _ _ => id) (member_congr rfl rfl) (fun _ => id) (Or.inr rfl)
  | advance env => exact h.advance ho hen hquiet hs
  | frameStart =>
    cases hs
    exact h.transfer_same (fun _ _ => id) (member_congr rfl rfl) (fun _ => id) (Or.inl rfl)
  | frameEnd p =>
    cases hs
    exact Safe.collect (h.transfer_same (fun _ _ => id) (member_congr rfl rfl) (fun _ => id)
      (Or.inl rfl))
  | client k e =>
    obtain ⟨-, c, life, hc, hmove, rfl⟩ := ho.client hen hs
    refine h.transfer_same ?_ (member_congr rfl rfl) (fun _ => id) (Or.inl rfl)
    rintro k' stage ⟨c', hget, hcall, hcb⟩
    rcases getElem?_set hget with ⟨rfl, rfl⟩ | ⟨-, hget⟩
    · exact ⟨c, hc, hmove.quieter hcall, hcb⟩
    · exact ⟨c', hget, hcall, hcb⟩

theorem safe (h : (machine config session).Reach StartsQuiet s) : Safe s := by
  refine h.invariant (fun s (hs : s = {}) => ?_) fun _ _ _ hr h hen hquiet hs =>
    h.next (owned hr.reachable) hen hquiet hs
  rw [hs]
  refine Safe.of_quiet ?_
  rintro k stage ⟨c, hc, -⟩
  cases hc

/-! ## The results -/

/--
**No client calls back into a stage that has gone**, in every run in which `startPipeline` replaces
the pipeline only while no client of the session can call back.
-/
theorem callbacks_safe (h : (machine config session).Reach StartsQuiet s) : s.CallbacksSafe := by
  intro k stage hcalls
  exact ((safe h).current k stage hcalls).2.referenced

/-- The next statements of the thread with the lock. -/
def advances (n : Nat) : List Event := List.replicate n (.advance { start := 0 })

def bridgeConfig : Config := { mode := .grpc }

/-- A client is stopped by `terminate`; the next `startPipeline` then finds none. -/
def restarted : List Event :=
  List.flatten [[.startPipeline], advances 5, [.client 0 .readerTests, .frameStart, .terminate],
    advances 1, List.replicate 3 (.client 0 .advance),
    [.client 0 (.botReads none), .client 0 .readerClears, .client 0 .advance], advances 3,
    [.frameEnd 0, .startPipeline], advances 5, [.client 1 .readerTests]]

instance (config : Config) (session : CallSession) (s : SessionObjects) (e : Event) :
    Decidable ((machine config session).enabled s e) :=
  inferInstanceAs (Decidable (s.enabled e = true))

/-- A Boolean test of `CanCall`. -/
def canCall (s : SessionObjects) (k : ClientId) (stage : StageId) : Bool :=
  s.clients[k]?.any fun c => c.life.mayCall && c.audioCb = some stage

theorem canCall_of_test (h : s.canCall k stage = true) : s.CanCall k stage := by
  unfold canCall at h
  cases hc : s.clients[k]? with
  | none => rw [hc] at h; cases h
  | some c =>
    rw [hc, Option.any_some, Bool.and_eq_true, decide_eq_true_eq] at h
    exact ⟨c, hc, h⟩

theorem callbacks_safe_restarted : ∃ s : SessionObjects,
    s.CanCall 1 1 ∧ s.CallbacksSafe := by
  obtain ⟨s, hs, hp⟩ := Machine.exists_reach StartsQuiet
    (show (machine bridgeConfig (.create (bytes "call") 0)).init {} from rfl)
    (show (((machine bridgeConfig (.create (bytes "call") 0)).restrict StartsQuiet).replay {}
      restarted).any (fun s => s.canCall 1 1) = true by decide +kernel)
  exact ⟨s, canCall_of_test hp, callbacks_safe hs⟩

/-- The second `startPipeline` of a re-INVITE, up to its assignment of `pipeline_`. -/
def reinvited : List Event :=
  List.flatten [[.startPipeline], advances 5, [.client 0 .readerTests, .startPipeline], advances 1]

/-- The first client is still reading, and its callback captured the stage of the old pipeline. -/
theorem reinvite_strands_callback : ∃ s : SessionObjects,
    (machine bridgeConfig (.create (bytes "call") 0)).Reachable s ∧
      s.CanCall 0 0 ∧ 0 ∉ s.referencedStages := by
  obtain ⟨s, hs, hp⟩ := Machine.exists_reach (fun _ _ => True)
    (show (machine bridgeConfig (.create (bytes "call") 0)).init {} from rfl)
    (show (((machine bridgeConfig (.create (bytes "call") 0)).restrict fun _ _ => True).replay {}
      reinvited).any (fun s => s.canCall 0 0 && decide (0 ∉ s.referencedStages)) = true by
        decide +kernel)
  rw [Bool.and_eq_true, decide_eq_true_eq] at hp
  exact ⟨s, hs, canCall_of_test hp.1, hp.2⟩

/-! ### Outside of the condition -/

/-- A client the member refers to can call a stage, when it is not quiet. -/
theorem canCall_of_loud (h : s.memberQuiet peer = false) : ∃ k stage, s.CanCall k stage := by
  unfold memberQuiet at h
  cases hk : s.member peer with
  | none => rw [hk] at h; cases h
  | some k =>
    rw [hk, Option.all_some] at h
    cases hc : s.clients[k]? with
    | none => rw [hc] at h; cases h
    | some c =>
      rw [hc, Option.all_some, Bool.or_eq_false_iff, Bool.not_eq_false'] at h
      cases hcb : c.audioCb with
      | none => rw [hcb] at h; cases h.2
      | some stage => exact ⟨k, stage, c, hc, h.1, hcb⟩

/-- At any other moment the assignment strands a callback, when no packet holds a pipeline. -/
theorem strands_callback (hpc : s.pc = .newPipeline) (hframes : s.frames = []) {env : Env}
    (hloud : ¬ StartsQuiet s (.advance env)) (hs : s.advance config session env = some s') :
    ¬ s'.CallbacksSafe := by
  have hcalls : ∃ k stage, s.CanCall k stage := by
    by_contra hnobody
    refine hloud fun _ => ⟨?_, ?_⟩
    · by_contra hbot
      exact hnobody (canCall_of_loud (Bool.not_eq_true _ ▸ hbot))
    · by_contra htcp
      exact hnobody (canCall_of_loud (Bool.not_eq_true _ ▸ htcp))
  obtain ⟨k, stage, hcall⟩ := hcalls
  unfold SessionObjects.advance at hs
  rw [hpc] at hs
  cases hs
  intro hsafe
  have hstage := hsafe k stage (canCall_collect.mpr hcall)
  -- the new pipeline is empty, and nobody holds the old one
  rw [referencedStages] at hstage
  simp [release, SessionObjects.collect, hframes] at hstage

end SessionObjects

end SipGateway
