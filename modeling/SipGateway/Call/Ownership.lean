import SipGateway.Call.Objects

/-!
# Who owns the objects of a session

What holds in every run of `startPipeline`, `terminate`, packets and reader threads. Each client
lives as its own machine says, and a client that a member refers to is between two calls, except
while `terminate` stops it (`Owned`). Behind that `stop` its thread is out of the loop.
-/

namespace SipGateway

open Infra

/-! ## One client -/

/-- Inside a `stop` that has cleared `running_`. -/
def OwnerPc.pastClear : OwnerPc → Bool
  | .stopping .releasing _ | .stopping .joining _ => true
  | _ => false

namespace ThreadedClient

variable {C A M : Type} {T : ThreadedClient C A M} {s s' : Lifetime C A} {e : LifeEvent A M}

theorem mayCall_of_reader {pc : ReaderPc} (hpc : pc = .testing ∨ pc = .receiving)
    (h : s.reader = some pc) : s.mayCall = true := by
  rcases hpc with rfl | rfl <;> simp [Lifetime.mayCall, h]

/-- What the loop of a client relies on. -/
def LoopGuarded (T : ThreadedClient C A M) (s : Lifetime C A) : Prop :=
  s.mayCall = true → T.running s.client = true ∨ s.owner.pastClear = true

/-- A `stop` that is back has joined the thread, or found it behind its loop. -/
theorem LoopGuarded.afterStop (h : LoopGuarded T s) {pc : StopPc} {d : Bool}
    (howner : s.owner = .stopping pc d) :
    (∃ pc', (T.advance s).owner = .stopping pc' d) ∨
      (T.advance s).owner = .afterStop d ∧ (T.advance s).mayCall = false := by
  unfold ThreadedClient.advance
  rw [howner]
  cases pc with
  | testing =>
    dsimp only
    split
    · exact Or.inl ⟨.clearing, rfl⟩
    · next hstopped =>
      refine Or.inr ⟨rfl, ?_⟩
      by_contra hcall
      rw [Bool.not_eq_false] at hcall
      rcases h hcall with hrun | hpast
      · exact hstopped hrun
      · rw [howner] at hpast
        cases hpast
  | clearing => exact Or.inl ⟨.releasing, rfl⟩
  | releasing => exact Or.inl ⟨.joining, rfl⟩
  | joining => exact Or.inr ⟨rfl, rfl⟩

theorem LoopGuarded.advance (h : LoopGuarded T s) : LoopGuarded T (T.advance s) := by
  unfold ThreadedClient.advance
  split
  · next d howner =>
    split
    · next hrun => exact fun _ => Or.inl hrun
    · next hstopped =>
      intro hcall
      rcases h hcall with hrun | hpast
      · exact absurd hrun hstopped
      · rw [howner] at hpast
        cases hpast
  · exact fun _ => Or.inr rfl
  · exact fun _ => Or.inr rfl
  · exact fun hcall => by cases hcall
  all_goals exact h

theorem LoopGuarded.next (h : LoopGuarded T s) (hen : enabled s e = true)
    (hs : T.step s e = some s') : LoopGuarded T s' := by
  cases e with
  | connect a =>
    simp only [step] at hs
    split at hs
    · cases hs
    · next client ok hconn =>
      have hrun := T.running_connect _ _ _ _ hconn
      simp only [enabled, Bool.and_eq_true, decide_eq_true_eq] at hen
      cases hs
      intro hcall
      cases ok with
      | true => exact Or.inl hrun
      | false =>
        rcases h hcall with hrunning | hpast
        · exact Or.inl (hrun.trans hrunning)
        · rw [hen.1] at hpast
          cases hpast
  | stop =>
    simp only [enabled, decide_eq_true_eq] at hen
    cases hs
    exact fun hcall => Or.inl ((h hcall).resolve_right (by rw [hen]; exact nofun))
  | destroy =>
    simp only [enabled, decide_eq_true_eq] at hen
    cases hs
    exact fun hcall => Or.inl ((h hcall).resolve_right (by rw [hen]; exact nofun))
  | advance =>
    cases hs
    exact h.advance
  | readerTests =>
    simp only [enabled, Bool.and_eq_true, decide_eq_true_eq] at hen
    cases hs
    exact fun _ => h (mayCall_of_reader (Or.inl rfl) hen.2)
  | readerReceives m =>
    simp only [enabled, Bool.and_eq_true, decide_eq_true_eq] at hen
    cases hs
    exact fun _ => h (mayCall_of_reader (Or.inr rfl) hen.2)
  | readerClears =>
    cases hs
    exact fun hcall => by cases hcall

/-- In every life the thread is in its loop only with the flag set, or with a `stop` behind it. -/
theorem loopGuarded (h : T.machine.Reachable s) : LoopGuarded T s := by
  refine h.invariant (fun s hs hcall => ?_) fun _ _ _ _ h hen hs => h.next hen hs
  rw [hs.1] at hcall
  cases hcall

/-- Only `connect` puts a thread into its loop. -/
theorem mayCall_of_step (hen : enabled s e = true) (hs : T.step s e = some s')
    (hc : ∀ a, e ≠ .connect a) (hcall : s'.mayCall = true) : s.mayCall = true := by
  cases e with
  | connect a => exact absurd rfl (hc a)
  | stop => cases hs; exact hcall
  | destroy => cases hs; exact hcall
  | advance =>
    cases hs
    unfold ThreadedClient.advance at hcall
    split at hcall
    · split at hcall <;> exact hcall
    · exact hcall
    · exact hcall
    · cases hcall
    all_goals exact hcall
  | readerTests =>
    simp only [enabled, Bool.and_eq_true, decide_eq_true_eq] at hen
    exact mayCall_of_reader (Or.inl rfl) hen.2
  | readerReceives m =>
    simp only [enabled, Bool.and_eq_true, decide_eq_true_eq] at hen
    exact mayCall_of_reader (Or.inr rfl) hen.2
  | readerClears => cases hs; cases hcall

theorem attempted_of_step (hs : T.step s e = some s') (hc : ∀ a, e ≠ .connect a) :
    s'.attempted = s.attempted := by
  cases e with
  | connect a => exact absurd rfl (hc a)
  | advance =>
    cases hs
    unfold ThreadedClient.advance
    split
    · split <;> rfl
    all_goals rfl
  | stop | destroy | readerTests | readerReceives m | readerClears => cases hs; rfl

/-- Between two calls on a client its owner stays where it is. -/
theorem idle_of_step (hen : enabled s e = true) (hs : T.step s e = some s')
    (hstop : e ≠ .stop) (hdestroy : e ≠ .destroy) (howner : s.owner = .idle) :
    s'.owner = .idle := by
  cases e with
  | connect a =>
    simp only [step] at hs
    split at hs
    · cases hs
    · cases hs
      exact howner
  | stop => exact absurd rfl hstop
  | destroy => exact absurd rfl hdestroy
  | advance =>
    rw [enabled, canAdvance, howner] at hen
    cases hen
  | readerTests => cases hs; exact howner
  | readerReceives m => cases hs; exact howner
  | readerClears => cases hs; exact howner

/-- While `stop` is under way, it goes on, and comes back to a thread that calls nobody. -/
theorem stopping_of_step (h : T.machine.Reachable s) (hen : enabled s e = true)
    (hs : T.step s e = some s') {pc : StopPc} (howner : s.owner = .stopping pc false) :
    (∃ pc', s'.owner = .stopping pc' false) ∨ s'.owner = .idle ∧ s'.mayCall = false := by
  cases e with
  | connect a => simp [enabled, howner] at hen
  | stop => simp [enabled, howner] at hen
  | destroy => simp [enabled, howner] at hen
  | advance => cases hs; exact (loopGuarded h).afterStop howner
  | readerTests => cases hs; exact Or.inl ⟨pc, howner⟩
  | readerReceives m => cases hs; exact Or.inl ⟨pc, howner⟩
  | readerClears => cases hs; exact Or.inl ⟨pc, howner⟩

end ThreadedClient

namespace ClientEvent

theorem forBot_byItself {e : ClientEvent} {le : LifeEvent Bool Unit} (h : e.forBot = some le)
    (hown : e.byItself = true) : (∀ a, le ≠ .connect a) ∧ le ≠ .stop ∧ le ≠ .destroy := by
  cases e <;> cases h <;> first | (cases hown; done) | exact ⟨nofun, nofun, nofun⟩

theorem forTcp_byItself {e : ClientEvent} {le : LifeEvent SocketAnswers AudioSocketFrame}
    (h : e.forTcp = some le) (hown : e.byItself = true) :
    (∀ a, le ≠ .connect a) ∧ le ≠ .stop ∧ le ≠ .destroy := by
  cases e <;> cases h <;> first | (cases hown; done) | exact ⟨nofun, nofun, nofun⟩

end ClientEvent

namespace ClientLife

variable {life life' : ClientLife} {e : ClientEvent}

/-- A run of its own machine led here. -/
def Lived : ClientLife → Prop
  | .bot life => voiceBotThreads.machine.Reachable life
  | .tcp life => audioSocketThreads.machine.Reachable life

theorem lived_create (config : Config) (session : CallSession) (peer : Peer) :
    (create config session peer).Lived := by
  cases peer with
  | bot => exact Machine.Reachable.init ⟨rfl, rfl⟩
  | tcp => exact Machine.Reachable.init ⟨rfl, rfl⟩

theorem step_bot {life : Lifetime VoiceBotClient Bool} (h : step (.bot life) e = some life') :
    ∃ le next, e.forBot = some le ∧ voiceBotThreads.step life le = some next ∧
      life' = .bot next := by
  obtain ⟨le, hle, hstep⟩ := Option.bind_eq_some_iff.mp h
  obtain ⟨next, hnext, rfl⟩ := Option.map_eq_some_iff.mp hstep
  exact ⟨le, next, hle, hnext, rfl⟩

theorem step_tcp {life : Lifetime AudioSocketClient SocketAnswers}
    (h : step (.tcp life) e = some life') :
    ∃ le next, e.forTcp = some le ∧ audioSocketThreads.step life le = some next ∧
      life' = .tcp next := by
  obtain ⟨le, hle, hstep⟩ := Option.bind_eq_some_iff.mp h
  obtain ⟨next, hnext, rfl⟩ := Option.map_eq_some_iff.mp hstep
  exact ⟨le, next, hle, hnext, rfl⟩

/-- What the session does with a client, and what the client does, are steps of its machine. -/
theorem Lived.next (h : life.Lived) (hen : life.enabled e = true)
    (hs : life.step e = some life') : life'.Lived := by
  cases life with
  | bot life =>
    obtain ⟨le, next, hle, hnext, rfl⟩ := step_bot hs
    rw [enabled, hle, Option.any_some] at hen
    exact Machine.Reachable.next h hen hnext
  | tcp life =>
    obtain ⟨le, next, hle, hnext, rfl⟩ := step_tcp hs
    rw [enabled, hle, Option.any_some] at hen
    exact Machine.Reachable.next h hen hnext

theorem peer_step (hs : life.step e = some life') : life'.peer = life.peer := by
  cases life with
  | bot life =>
    obtain ⟨_, _, -, -, rfl⟩ := step_bot hs
    rfl
  | tcp life =>
    obtain ⟨_, _, -, -, rfl⟩ := step_tcp hs
    rfl

/-- A `stop` that was called on the client is under way, or is back with no callback to come. -/
def Stopping (life : ClientLife) : Prop :=
  (∃ pc, life.owner = .stopping pc false) ∨ life.owner = .idle ∧ life.mayCall = false

/-- What becomes of a client when nobody makes a call on it. -/
structure Moves (life life' : ClientLife) : Prop where
  peer : life'.peer = life.peer
  attempted : life'.attempted = life.attempted
  quieter : life'.mayCall = true → life.mayCall = true
  idle : life.owner = .idle → life'.owner = .idle
  stopping : life.Stopping → life'.Stopping

theorem Moves.refl (life : ClientLife) : Moves life life := ⟨rfl, rfl, id, id, id⟩

/-- `quieter`, `idle` and what a running `stop` does are all that `stopping` needs. -/
theorem Moves.of_stop (hpeer : life'.peer = life.peer)
    (hattempted : life'.attempted = life.attempted)
    (hquieter : life'.mayCall = true → life.mayCall = true)
    (hidle : life.owner = .idle → life'.owner = .idle)
    (hstop : ∀ pc, life.owner = .stopping pc false → life'.Stopping) : Moves life life' := by
  refine ⟨hpeer, hattempted, hquieter, hidle, ?_⟩
  rintro (⟨pc, hpc⟩ | ⟨howner, hcall⟩)
  · exact hstop pc hpc
  · refine Or.inr ⟨hidle howner, ?_⟩
    by_contra hcall'
    rw [Bool.not_eq_false] at hcall'
    rw [hquieter hcall'] at hcall
    cases hcall

theorem moves_of_step (h : life.Lived) (hown : e.byItself = true) (hen : life.enabled e = true)
    (hs : life.step e = some life') : Moves life life' := by
  have hpeer := peer_step hs
  cases life with
  | bot life =>
    obtain ⟨le, next, hle, hnext, rfl⟩ := step_bot hs
    obtain ⟨hconnect, hstop, hdestroy⟩ := ClientEvent.forBot_byItself hle hown
    rw [enabled, hle, Option.any_some] at hen
    exact Moves.of_stop hpeer (ThreadedClient.attempted_of_step hnext hconnect)
      (ThreadedClient.mayCall_of_step hen hnext hconnect)
      (ThreadedClient.idle_of_step hen hnext hstop hdestroy)
      fun _ hpc => ThreadedClient.stopping_of_step h hen hnext hpc
  | tcp life =>
    obtain ⟨le, next, hle, hnext, rfl⟩ := step_tcp hs
    obtain ⟨hconnect, hstop, hdestroy⟩ := ClientEvent.forTcp_byItself hle hown
    rw [enabled, hle, Option.any_some] at hen
    exact Moves.of_stop hpeer (ThreadedClient.attempted_of_step hnext hconnect)
      (ThreadedClient.mayCall_of_step hen hnext hconnect)
      (ThreadedClient.idle_of_step hen hnext hstop hdestroy)
      fun _ hpc => ThreadedClient.stopping_of_step h hen hnext hpc

/-! The three calls a session makes. -/

theorem enabled_connect (env : Env) (howner : life.owner = .idle)
    (hfresh : life.attempted = false) : life.enabled (.connect env) = true := by
  have hunattempted : (!life.attempted) = true := by rw [hfresh]; rfl
  cases life with
  | bot life => exact Bool.and_eq_true_iff.mpr ⟨decide_eq_true howner, hunattempted⟩
  | tcp life => exact Bool.and_eq_true_iff.mpr ⟨decide_eq_true howner, hunattempted⟩

theorem owner_connect {env : Env} (hs : life.step (.connect env) = some life')
    (howner : life.owner = .idle) (hfresh : life.attempted = false) : life'.owner = .idle := by
  have hen := enabled_connect env howner hfresh
  cases life with
  | bot life =>
    obtain ⟨le, next, hle, hnext, rfl⟩ := step_bot hs
    rw [enabled, hle, Option.any_some] at hen
    cases hle
    exact ThreadedClient.idle_of_step hen hnext nofun nofun howner
  | tcp life =>
    obtain ⟨le, next, hle, hnext, rfl⟩ := step_tcp hs
    rw [enabled, hle, Option.any_some] at hen
    cases hle
    exact ThreadedClient.idle_of_step hen hnext nofun nofun howner

theorem enabled_stop (howner : life.owner = .idle) : life.enabled .stop = true := by
  cases life with
  | bot life => exact decide_eq_true howner
  | tcp life => exact decide_eq_true howner

theorem step_stop (hs : life.step .stop = some life') :
    life'.owner = .stopping .testing false ∧ life'.mayCall = life.mayCall := by
  cases life with
  | bot life => cases hs; exact ⟨rfl, rfl⟩
  | tcp life => cases hs; exact ⟨rfl, rfl⟩

theorem enabled_destroy (howner : life.owner = .idle) : life.enabled .destroy = true := by
  cases life with
  | bot life => exact decide_eq_true howner
  | tcp life => exact decide_eq_true howner

theorem step_destroy (life : ClientLife) :
    ∃ life', life.step .destroy = some life' ∧ life'.mayCall = life.mayCall := by
  cases life with
  | bot life => exact ⟨_, rfl, rfl⟩
  | tcp life => exact ⟨_, rfl, rfl⟩

end ClientLife

namespace ClientObject

variable {c : ClientObject} {stage : StageId}

theorem destroy_callsInto : c.destroy.CallsInto stage ↔ c.CallsInto stage := by
  obtain ⟨life', hstep, hcall⟩ := ClientLife.step_destroy c.life
  rw [CallsInto, CallsInto, destroy, hstep, Option.getD_some, hcall]

theorem destroy_lived (h : c.life.Lived) (howner : c.life.owner = .idle) :
    c.destroy.life.Lived := by
  obtain ⟨life', hstep, -⟩ := ClientLife.step_destroy c.life
  rw [destroy, hstep]
  exact h.next (ClientLife.enabled_destroy howner) hstep

end ClientObject

namespace SessionObjects

variable {config : Config} {session : CallSession} {s s' : SessionObjects} {k : ClientId}
  {peer : Peer} {c : ClientObject} {stage : StageId}

/-! ## The objects -/

@[simp] theorem setMember_clients (client : Option ClientId) (peer : Peer) :
    (s.setMember client peer).clients = s.clients := by
  cases peer <;> rfl

@[simp] theorem setMember_pipeline (client : Option ClientId) (peer : Peer) :
    (s.setMember client peer).pipeline = s.pipeline := by
  cases peer <;> rfl

@[simp] theorem setMember_pipelines (client : Option ClientId) (peer : Peer) :
    (s.setMember client peer).pipelines = s.pipelines := by
  cases peer <;> rfl

@[simp] theorem setMember_pc (client : Option ClientId) (peer : Peer) :
    (s.setMember client peer).pc = s.pc := by
  cases peer <;> rfl

/-- Nothing happened to the members. -/
theorem member_congr (hbot : s'.botClient = s.botClient) (htcp : s'.tcpClient = s.tcpClient)
    (peer : Peer) : s'.member peer = s.member peer := by
  cases peer with
  | bot => exact hbot
  | tcp => exact htcp

theorem member_setMember (client : Option ClientId) (peer peer' : Peer) :
    (s.setMember client peer).member peer' = if peer' = peer then client else s.member peer' := by
  cases peer <;> cases peer' <;> rfl

theorem mem_referencedClients (h : s.member peer = some k) : k ∈ s.referencedClients := by
  unfold referencedClients
  cases peer with
  | bot =>
    rw [show s.botClient = some k from h]
    simp
  | tcp =>
    rw [show s.tcpClient = some k from h]
    simp

/-- A client the session refers to does not go. -/
theorem not_mem_dying (h : s.member peer = some k) : k ∉ s.dying := by
  intro hk
  have hunreferenced := (List.mem_filter.mp hk).2
  rw [Bool.and_eq_true, decide_eq_true_eq] at hunreferenced
  exact hunreferenced.1 (mem_referencedClients h)

theorem idle_of_mem_dying (hk : k ∈ s.dying) (hc : s.clients[k]? = some c) :
    c.life.owner = .idle := by
  have hidle := (List.mem_filter.mp hk).2
  rw [Bool.and_eq_true, hc] at hidle
  exact of_decide_eq_true hidle.2

theorem getElem?_collect (k : ClientId) :
    s.collect.clients[k]? =
      s.clients[k]?.map fun c => if k ∈ s.dying then c.destroy else c := by
  rw [collect, List.getElem?_mapIdx]

theorem clientStep_eq {e : ClientEvent} (h : s.clientStep k e = some s') :
    ∃ c life, s.clients[k]? = some c ∧ c.life.step e = some life ∧
      s' = { s with clients := s.clients.set k { c with life := life } } := by
  unfold clientStep at h
  obtain ⟨c, hc, h⟩ := Option.bind_eq_some_iff.mp h
  obtain ⟨life, hlife, h⟩ := Option.bind_eq_some_iff.mp h
  split at h
  · cases h
  · exact ⟨c, life, hc, hlife, (Option.some.inj h).symm⟩

/-- A client after another one has changed, or it has itself. -/
theorem getElem?_set {k' : ClientId} {c' : ClientObject} {cs : List ClientObject}
    (h : (cs.set k c)[k']? = some c') : k' = k ∧ c' = c ∨ k' ≠ k ∧ cs[k']? = some c' := by
  rw [List.getElem?_set] at h
  split at h
  · next hk =>
    split at h
    · exact Or.inl ⟨hk.symm, (Option.some.inj h).symm⟩
    · cases h
  · next hk => exact Or.inr ⟨Ne.symm hk, h⟩

/-- The other way round: where a client is after the change. -/
theorem getElem?_set_of {k' : ClientId} {c c' : ClientObject} {cs : List ClientObject}
    (hc : cs[k]? = some c) (hc' : cs[k']? = some c') (new : ClientObject) :
    k = k' ∧ c = c' ∧ (cs.set k new)[k']? = some new ∨
      k ≠ k' ∧ (cs.set k new)[k']? = some c' := by
  by_cases hk : k = k'
  · subst hk
    refine Or.inl ⟨rfl, Option.some.inj (hc.symm.trans hc'), ?_⟩
    exact List.getElem?_set_self (List.getElem?_eq_some_iff.mp hc).1
  · refine Or.inr ⟨hk, ?_⟩
    rw [List.getElem?_set_ne hk]
    exact hc'

/-! ## What holds in every run -/

/-- The owner of a client a member refers to: idle, but for the `stop` of `terminate`. -/
def Attends (s : SessionObjects) (peer : Peer) (k : ClientId) (life : ClientLife) : Prop :=
  if s.pc = .dropping peer then s.waiting = [k] ∧ life.Stopping else life.owner = .idle

/-- `pipeline_` is there. -/
def HasPipeline (s : SessionObjects) : Prop :=
  ∃ p, s.pipeline = some p ∧ p < s.pipelines.length

/-- What the thread with the lock has got done. -/
def PlaceOk (config : Config) (s : SessionObjects) : SessionPc → Prop
  | .newClient | .addCore | .addRecorder => s.HasPipeline
  | .connecting =>
    s.HasPipeline ∧ ∃ peer k c, config.mode.peer = some peer ∧ s.member peer = some k ∧
      s.clients[k]? = some c ∧ c.life.attempted = false ∧ c.audioCb = none
  | .stopping .tcp => s.member .bot = none
  | .dropping .bot => s.member .bot ≠ none
  | .dropping .tcp => s.member .bot = none ∧ s.member .tcp ≠ none
  | .dropPipeline => s.member .bot = none ∧ s.member .tcp = none
  | .idle | .newPipeline | .stopping .bot => True

structure Owned (config : Config) (s : SessionObjects) : Prop where
  lived : ∀ (k : ClientId) (c : ClientObject), s.clients[k]? = some c → c.life.Lived
  held : ∀ peer k, s.member peer = some k →
    ∃ c, s.clients[k]? = some c ∧ c.life.peer = peer ∧ s.Attends peer k c.life
  place : PlaceOk config s s.pc

theorem Owned.init : Owned config {} := by
  refine ⟨?_, ?_, trivial⟩
  · intro k c hc
    cases hc
  · intro peer k hk
    cases peer <;> cases hk

/-- Outside of the `stop` of `terminate` the members are idle. -/
theorem Owned.idle (h : Owned config s) (hpc : s.pc ≠ .dropping peer)
    (hk : s.member peer = some k) :
    ∃ c, s.clients[k]? = some c ∧ c.life.peer = peer ∧ c.life.owner = .idle := by
  obtain ⟨c, hc, hpeer, hattends⟩ := h.held peer k hk
  rw [Attends, if_neg hpc] at hattends
  exact ⟨c, hc, hpeer, hattends⟩

/-- Nothing but the clients has changed, and they only by themselves. -/
theorem Owned.transfer (h : Owned config s) (hmember : ∀ peer, s'.member peer = s.member peer)
    (hpipeline : s'.pipeline = s.pipeline) (hpipelines : s'.pipelines = s.pipelines)
    (hpc : s'.pc = s.pc) (hwaiting : s'.waiting = s.waiting ∨ ∀ peer, s.pc ≠ .dropping peer)
    (hlived : ∀ (k : ClientId) (c : ClientObject), s'.clients[k]? = some c → c.life.Lived)
    (hmoves : ∀ peer k c, s.member peer = some k → s.clients[k]? = some c →
      ∃ c', s'.clients[k]? = some c' ∧ c'.audioCb = c.audioCb ∧ c.life.Moves c'.life) :
    Owned config s' := by
  have hpipeline' : s.HasPipeline → s'.HasPipeline := by
    rw [HasPipeline, HasPipeline, hpipeline, hpipelines]
    exact id
  refine ⟨hlived, ?_, ?_⟩
  · intro peer k hk
    rw [hmember] at hk
    obtain ⟨c, hc, hpeer, hattends⟩ := h.held peer k hk
    obtain ⟨c', hc', -, hmove⟩ := hmoves peer k c hk hc
    refine ⟨c', hc', hmove.peer.trans hpeer, ?_⟩
    unfold Attends at hattends ⊢
    rw [hpc]
    split
    · next hdropping =>
      rw [if_pos hdropping] at hattends
      rcases hwaiting with hwaiting | hpc'
      · exact ⟨hwaiting.trans hattends.1, hmove.stopping hattends.2⟩
      · exact absurd hdropping (hpc' peer)
    · next hdropping =>
      rw [if_neg hdropping] at hattends
      exact hmove.idle hattends
  · have hplace := h.place
    have hbot := hmember .bot
    have htcp := hmember .tcp
    rw [hpc]
    cases hpc' : s.pc with
    | connecting =>
      rw [hpc'] at hplace
      obtain ⟨hthere, peer, k, c, hmode, hk, hc, hattempted, hcb⟩ := hplace
      obtain ⟨c', hc', hcb', hmove⟩ := hmoves peer k c hk hc
      exact ⟨hpipeline' hthere, peer, k, c', hmode, (hmember peer).trans hk, hc',
        hmove.attempted.trans hattempted, hcb'.trans hcb⟩
    | newClient | addCore | addRecorder =>
      rw [hpc'] at hplace
      exact hpipeline' hplace
    | stopping peer | dropping peer =>
      rw [hpc'] at hplace
      cases peer <;> simp only [PlaceOk, hbot, htcp] <;> exact hplace
    | dropPipeline =>
      rw [hpc'] at hplace
      simp only [PlaceOk, hbot, htcp]
      exact hplace
    | idle | newPipeline => trivial

theorem getElem?_collect_member (hk : s.member peer = some k) (hc : s.clients[k]? = some c) :
    s.collect.clients[k]? = some c := by
  rw [getElem?_collect, hc, Option.map_some, if_neg (not_mem_dying hk)]

theorem Owned.lived_collect (h : Owned config s) (hc : s.collect.clients[k]? = some c) :
    c.life.Lived := by
  rw [getElem?_collect, Option.map_eq_some_iff] at hc
  obtain ⟨c, hc, rfl⟩ := hc
  split
  · next hk => exact ClientObject.destroy_lived (h.lived k c hc) (idle_of_mem_dying hk hc)
  · exact h.lived k c hc

/-- Destructors of clients that are not members any more. -/
theorem Owned.collect (h : Owned config s) : Owned config s.collect :=
  h.transfer (member_congr rfl rfl) rfl rfl rfl (Or.inl rfl)
    (fun _ _ hc => h.lived_collect hc)
    fun _ _ c hk hc => ⟨c, getElem?_collect_member hk hc, rfl, .refl c.life⟩

/-- The same in the thread with the lock, which waits for nobody else then. -/
theorem Owned.release (h : Owned config s) (hpc : ∀ peer, s.pc ≠ .dropping peer) :
    Owned config s.release :=
  h.transfer (member_congr rfl rfl) rfl rfl rfl (Or.inr hpc)
    (fun _ _ hc => h.lived_collect hc)
    fun _ _ c hk hc => ⟨c, getElem?_collect_member hk hc, rfl, .refl c.life⟩

/-! ## The steps -/

theorem attends_idle {life : ClientLife} (hpc : s.pc ≠ .dropping peer)
    (h : life.owner = .idle) : s.Attends peer k life := by
  rw [Attends, if_neg hpc]
  exact h

/-- The thread with the lock goes on, with idle members before and after. -/
theorem Owned.goto (h : Owned config s) (hpc : ∀ peer, s.pc ≠ .dropping peer)
    (hpc' : ∀ peer, s'.pc ≠ .dropping peer) (hmember : ∀ peer, s'.member peer = s.member peer)
    (hlived : ∀ (k : ClientId) (c : ClientObject), s'.clients[k]? = some c → c.life.Lived)
    (hclients : ∀ peer k c, s.member peer = some k → s.clients[k]? = some c →
      c.life.owner = .idle →
      ∃ c', s'.clients[k]? = some c' ∧ c'.life.peer = c.life.peer ∧ c'.life.owner = .idle)
    (hplace : PlaceOk config s' s'.pc) : Owned config s' := by
  refine ⟨hlived, ?_, hplace⟩
  intro peer k hk
  rw [hmember] at hk
  obtain ⟨c, hc, hpeer, howner⟩ := h.idle (hpc peer) hk
  obtain ⟨c', hc', hpeer', howner'⟩ := hclients peer k c hk hc howner
  exact ⟨c', hc', hpeer'.trans hpeer, attends_idle (hpc' peer) howner'⟩

/-- The same with no change to the clients. -/
theorem Owned.goto_same (h : Owned config s) (hpc : ∀ peer, s.pc ≠ .dropping peer)
    (hpc' : ∀ peer, s'.pc ≠ .dropping peer) (hmember : ∀ peer, s'.member peer = s.member peer)
    (hclients : s'.clients = s.clients) (hplace : PlaceOk config s' s'.pc) : Owned config s' := by
  refine h.goto hpc hpc' hmember ?_ ?_ hplace
  · rw [hclients]
    exact h.lived
  · intro peer k c _ hc howner
    rw [hclients]
    exact ⟨c, hc, rfl, howner⟩

theorem HasPipeline.addStage (h : s.HasPipeline) (client : Option ClientId) :
    (s.addStage client).HasPipeline := by
  obtain ⟨p, hp, hlt⟩ := h
  refine ⟨p, hp, ?_⟩
  simp only [SessionObjects.addStage, hp]
  rw [List.length_modify]
  exact hlt

/-- `pipeline_ = std::make_shared<MediaPipeline>()`. -/
theorem Owned.newPipeline (h : Owned config s) (hpc : s.pc = .newPipeline) :
    Owned config { s with
      pipelines := s.pipelines ++ [[]]
      pipeline := some s.pipelines.length
      pc := .newClient } := by
  refine h.goto_same (fun peer => by rw [hpc]; exact nofun) (fun _ => nofun)
    (member_congr rfl rfl) rfl ?_
  exact ⟨s.pipelines.length, rfl, by simp⟩

/-- A new client, and the member that refers to it. -/
theorem Owned.newClient (h : Owned config s) (hpc : s.pc = .newClient) (session : CallSession)
    (hmode : config.mode.peer = some peer) :
    Owned config ({ s with
      clients := s.clients ++ [ClientObject.mk (.create config session peer) none]
      pc := .connecting }.setMember (some s.clients.length) peer) := by
  have hpeer : (ClientLife.create config session peer).peer = peer := by cases peer <;> rfl
  have howner : (ClientLife.create config session peer).owner = .idle := by cases peer <;> rfl
  have hattempted : (ClientLife.create config session peer).attempted = false := by
    cases peer <;> rfl
  have hnew : (s.clients ++ [ClientObject.mk (.create config session peer) none])[
      s.clients.length]? = some (.mk (.create config session peer) none) := by simp
  refine ⟨?_, ?_, ?_⟩
  · intro k c hc
    rw [setMember_clients, List.getElem?_append] at hc
    split at hc
    · exact h.lived k c hc
    · obtain ⟨rfl⟩ := List.mem_singleton.mp (List.mem_of_getElem? hc)
      exact ClientLife.lived_create config session peer
  · intro peer' k hk
    rw [member_setMember] at hk
    split at hk
    · next heq =>
      cases hk
      refine ⟨_, by rw [setMember_clients]; exact hnew, hpeer.trans heq.symm, ?_⟩
      exact attends_idle (by rw [setMember_pc]; exact nofun) howner
    · have hk' : s.member peer' = some k := by cases peer' <;> exact hk
      obtain ⟨c, hc, hpeer', howner'⟩ := h.idle (by rw [hpc]; exact nofun) hk'
      refine ⟨c, ?_, hpeer', attends_idle (by rw [setMember_pc]; exact nofun) howner'⟩
      rw [setMember_clients]
      exact (List.getElem?_append_left (List.getElem?_eq_some_iff.mp hc).1).trans hc
  · have hplace := h.place
    rw [hpc] at hplace
    rw [setMember_pc]
    refine ⟨?_, peer, s.clients.length, _, hmode, ?_, by rw [setMember_clients]; exact hnew,
      hattempted, rfl⟩
    · cases peer <;> exact hplace
    · rw [member_setMember, if_pos rfl]

/-- `connect`, on the client that was just constructed. -/
theorem Owned.connect (h : Owned config s) (hpc : s.pc = .connecting) {env : Env}
    (hk : config.mode.peer.bind s.member = some k) {next : SessionObjects}
    (hs : s.clientStep k (.connect env) = some next) {pc : SessionPc}
    (hpc' : pc = .addCore ∨ pc = .addRecorder) : Owned config { next with pc := pc } := by
  obtain ⟨peer, hmode, hk⟩ := Option.bind_eq_some_iff.mp hk
  obtain ⟨c, life, hc, hlife, rfl⟩ := clientStep_eq hs
  have hplace := h.place
  rw [hpc] at hplace
  obtain ⟨hpipeline, peer', k', c', hmode', hk', hc', hfresh, -⟩ := hplace
  obtain rfl : peer = peer' := Option.some.inj (hmode.symm.trans hmode')
  obtain rfl : k = k' := Option.some.inj (hk.symm.trans hk')
  obtain rfl : c = c' := Option.some.inj (hc.symm.trans hc')
  obtain ⟨c', hc', -, howner⟩ := h.idle (by rw [hpc]; exact nofun) hk
  obtain rfl : c = c' := Option.some.inj (hc.symm.trans hc')
  refine h.goto (fun peer => by rw [hpc]; exact nofun) ?_ (member_congr rfl rfl)
    ?_ ?_ ?_
  · rcases hpc' with rfl | rfl <;> exact fun _ => nofun
  · intro k' c' hget
    rcases getElem?_set hget with ⟨rfl, rfl⟩ | ⟨-, hget⟩
    · exact (h.lived k' c hc).next (ClientLife.enabled_connect env howner hfresh) hlife
    · exact h.lived k' c' hget
  · intro peer' k' c' hk' hc' howner'
    rcases getElem?_set_of hc hc' { c with life := life } with ⟨rfl, rfl, hget⟩ | ⟨-, hget⟩
    · exact ⟨_, hget, ClientLife.peer_step hlife, ClientLife.owner_connect hlife howner hfresh⟩
    · exact ⟨c', hget, rfl, howner'⟩
  · rcases hpc' with rfl | rfl <;> exact hpipeline

theorem getElem?_setAudioCallback (k k' : ClientId) (stage : StageId) :
    (s.setAudioCallback k stage).clients[k']? =
      s.clients[k']?.map fun c => if k = k' then { c with audioCb := some stage } else c := by
  rw [setAudioCallback, List.getElem?_modify]
  rfl

/-- The callback and its stage. -/
theorem Owned.addCore (h : Owned config s) (hpc : s.pc = .addCore) (k : ClientId)
    (stage : StageId) (client : Option ClientId) :
    Owned config { (s.setAudioCallback k stage).addStage client with pc := .addRecorder } := by
  have hplace := h.place
  rw [hpc] at hplace
  have hget : ∀ {k' : ClientId} {c' : ClientObject}, s.clients[k']? = some c' →
      ∃ c'' : ClientObject, (s.setAudioCallback k stage).clients[k']? = some c'' ∧
        c''.life = c'.life := by
    intro k' c' hc'
    rw [getElem?_setAudioCallback, hc', Option.map_some]
    exact ⟨_, rfl, by split <;> rfl⟩
  refine h.goto (fun peer => by rw [hpc]; exact nofun) (fun _ => nofun)
    (member_congr rfl rfl) ?_ ?_ ?_
  · intro k' c' hc'
    obtain ⟨c, hc, rfl⟩ := Option.map_eq_some_iff.mp
      ((getElem?_setAudioCallback k k' stage).symm.trans hc')
    split <;> exact h.lived k' c hc
  · intro peer k' c' _ hc' howner
    obtain ⟨c'', hc'', hlife⟩ := hget hc'
    exact ⟨c'', hc'', by rw [hlife], by rw [hlife]; exact howner⟩
  · have hpipeline : (s.setAudioCallback k stage).HasPipeline := hplace
    exact hpipeline.addStage client

/-- `stop`, on a member; the other one is another client. -/
theorem Owned.stop (h : Owned config s) (hpc : s.pc = .stopping peer)
    (hk : s.member peer = some k) {next : SessionObjects}
    (hs : s.clientStep k .stop = some next) :
    Owned config { next with waiting := [k], pc := .dropping peer } := by
  obtain ⟨c, life, hc, hlife, rfl⟩ := clientStep_eq hs
  have hidle : ∀ peer', s.pc ≠ .dropping peer' := fun peer' => by rw [hpc]; exact nofun
  obtain ⟨c', hc', hpeer, howner⟩ := h.idle (hidle peer) hk
  obtain rfl : c = c' := Option.some.inj (hc.symm.trans hc')
  refine ⟨?_, ?_, ?_⟩
  · intro k' c' hget
    rcases getElem?_set hget with ⟨rfl, rfl⟩ | ⟨-, hget⟩
    · exact (h.lived k' c hc).next (ClientLife.enabled_stop howner) hlife
    · exact h.lived k' c' hget
  · intro peer' k' hk'
    have hk' : s.member peer' = some k' := by cases peer' <;> exact hk'
    obtain ⟨c', hc', hpeer', howner'⟩ := h.idle (hidle peer') hk'
    rcases getElem?_set_of hc hc' { c with life := life } with
      ⟨rfl, rfl, hget⟩ | ⟨hne, hget⟩
    · obtain rfl : peer = peer' := hpeer.symm.trans hpeer'
      refine ⟨_, hget, (ClientLife.peer_step hlife).trans hpeer, ?_⟩
      rw [Attends, if_pos rfl]
      exact ⟨rfl, Or.inl ⟨.testing, (ClientLife.step_stop hlife).1⟩⟩
    · refine ⟨c', hget, hpeer', attends_idle ?_ howner'⟩
      rintro ⟨⟩
      exact hne (Option.some.inj (hk.symm.trans hk'))
  · have hplace := h.place
    rw [hpc] at hplace
    cases peer with
    | bot => exact fun hnone => by cases hk.symm.trans hnone
    | tcp => exact ⟨hplace, fun hnone => by cases hk.symm.trans hnone⟩

/-- There is no client to stop. -/
theorem Owned.skip (h : Owned config s) (hpc : s.pc = .stopping peer)
    (hnone : s.member peer = none) : Owned config { s with pc := afterDrop peer } := by
  have hplace := h.place
  rw [hpc] at hplace
  refine h.goto_same (fun peer => by rw [hpc]; exact nofun) ?_ (member_congr rfl rfl)
    rfl ?_
  · cases peer <;> exact fun _ => nofun
  · cases peer with
    | bot => exact hnone
    | tcp => exact ⟨hplace, hnone⟩

/-- Once `stop` is back, its client has a thread that calls nobody. -/
theorem Owned.stopped (h : Owned config s) (hpc : s.pc = .dropping peer)
    (hreturned : s.returned = true) (hk : s.member peer = some k) :
    ∃ c, s.clients[k]? = some c ∧ c.life.mayCall = false := by
  obtain ⟨c, hc, -, hattends⟩ := h.held peer k hk
  rw [Attends, if_pos hpc] at hattends
  obtain ⟨hwaiting, hstopping⟩ := hattends
  refine ⟨c, hc, ?_⟩
  rw [returned, hwaiting, List.all_cons, hc, Option.all_some] at hreturned
  rcases hstopping with ⟨pc, howner⟩ | ⟨-, hcall⟩
  · rw [howner] at hreturned
    cases hreturned
  · exact hcall

/-- `botClient_ = nullptr`, or `tcpClient_`. -/
theorem Owned.drop (h : Owned config s) (hpc : s.pc = .dropping peer) :
    Owned config ({ s with pc := afterDrop peer }.setMember none peer) := by
  have hplace := h.place
  rw [hpc] at hplace
  refine ⟨?_, ?_, ?_⟩
  · rw [setMember_clients]
    exact h.lived
  · intro peer' k hk
    rw [member_setMember] at hk
    split at hk
    · cases hk
    · next hne =>
      have hk' : s.member peer' = some k := by cases peer' <;> exact hk
      have hother : s.pc ≠ .dropping peer' := by
        rw [hpc]
        rintro ⟨⟩
        exact hne rfl
      obtain ⟨c, hc, hpeer, howner⟩ := h.idle hother hk'
      refine ⟨c, by rw [setMember_clients]; exact hc, hpeer, attends_idle ?_ howner⟩
      rw [setMember_pc]
      cases peer <;> exact nofun
  · cases peer with
    | bot => exact rfl
    | tcp => exact ⟨hplace.1, rfl⟩

/-- **Every statement of `startPipeline` and `terminate` keeps the order of the objects.** -/
theorem Owned.advance (h : Owned config s) {env : Env}
    (hs : s.advance config session env = some s') : Owned config s' := by
  have hplace := h.place
  unfold SessionObjects.advance at hs
  cases hpc : s.pc with
  | idle => rw [hpc] at hs; cases hs; exact h
  | newPipeline =>
    rw [hpc] at hs
    cases hs
    exact (h.newPipeline hpc).release fun _ => nofun
  | newClient =>
    rw [hpc] at hs hplace
    dsimp only at hs
    split at hs
    · next peer hmode =>
      cases hs
      exact (h.newClient hpc session hmode).release fun _ => by rw [setMember_pc]; exact nofun
    · cases hs
      refine h.goto_same (fun peer => by rw [hpc]; exact nofun) (fun _ => nofun)
        (member_congr rfl rfl) rfl ?_
      have hpipeline : s.HasPipeline := hplace
      exact hpipeline.addStage none
  | connecting =>
    rw [hpc] at hs
    obtain ⟨k, hk, hs⟩ := Option.bind_eq_some_iff.mp hs
    obtain ⟨next, hnext, hs⟩ := Option.bind_eq_some_iff.mp hs
    cases hs
    refine h.connect hpc hk hnext ?_
    split
    · exact Or.inl rfl
    · exact Or.inr rfl
  | addCore =>
    rw [hpc] at hs
    obtain ⟨k, -, hs⟩ := Option.bind_eq_some_iff.mp hs
    cases hs
    exact h.addCore hpc k s.stages.length (some k)
  | addRecorder =>
    rw [hpc] at hs
    cases hs
    refine h.goto_same (fun peer => by rw [hpc]; exact nofun) (fun _ => nofun) ?_ ?_ trivial
    · intro peer
      split <;> cases peer <;> rfl
    · split <;> rfl
  | stopping peer =>
    rw [hpc] at hs
    dsimp only at hs
    split at hs
    · next k hk =>
      obtain ⟨next, hnext, rfl⟩ := Option.map_eq_some_iff.mp hs
      exact h.stop hpc hk hnext
    · next hnone =>
      cases hs
      exact h.skip hpc hnone
  | dropping peer =>
    rw [hpc] at hs
    cases hs
    refine (h.drop hpc).release ?_
    intro peer'
    rw [setMember_pc]
    cases peer <;> exact nofun
  | dropPipeline =>
    rw [hpc] at hs
    cases hs
    have hdropped : Owned config { s with pipeline := none, pc := .idle } :=
      h.goto_same (fun peer => by rw [hpc]; exact nofun) (fun _ => nofun)
        (member_congr rfl rfl) rfl trivial
    exact hdropped.release fun _ => nofun

/-- What a client does by itself. -/
theorem Owned.client (h : Owned config s) {e : ClientEvent}
    (hen : s.enabled (.client k e) = true) (hs : s.clientStep k e = some s') :
    Owned config s' ∧ ∃ c life, s.clients[k]? = some c ∧ c.life.Moves life ∧
      s' = { s with clients := s.clients.set k { c with life := life } } := by
  obtain ⟨c, life, hc, hlife, rfl⟩ := clientStep_eq hs
  rw [enabled, hc, Option.any_some, Bool.and_eq_true] at hen
  have hmove := ClientLife.moves_of_step (h.lived k c hc) hen.1 hen.2 hlife
  refine ⟨?_, c, life, hc, hmove, rfl⟩
  refine h.transfer (member_congr rfl rfl) rfl rfl rfl (Or.inl rfl) ?_ ?_
  · intro k' c' hget
    rcases getElem?_set hget with ⟨rfl, rfl⟩ | ⟨-, hget⟩
    · exact (h.lived k' c hc).next hen.2 hlife
    · exact h.lived k' c' hget
  · intro peer k' c' hk' hc'
    rcases getElem?_set_of hc hc' { c with life := life } with ⟨rfl, rfl, hget⟩ | ⟨-, hget⟩
    · exact ⟨_, hget, rfl, hmove⟩
    · exact ⟨c', hget, rfl, .refl c'.life⟩

theorem Owned.next (h : Owned config s) {e : Event} (hen : s.enabled e = true)
    (hs : step config session s e = some s') : Owned config s' := by
  have hidle : s.pc = .idle → ∀ peer, s.pc ≠ .dropping peer := fun hpc peer => by
    rw [hpc]
    exact nofun
  cases e with
  | startPipeline =>
    cases hs
    exact h.goto_same (hidle (of_decide_eq_true hen)) (fun _ => nofun)
      (member_congr rfl rfl) rfl trivial
  | terminate =>
    cases hs
    exact h.goto_same (hidle (of_decide_eq_true hen)) (fun _ => nofun)
      (member_congr rfl rfl) rfl trivial
  | advance env => exact h.advance hs
  | frameStart =>
    cases hs
    exact h.transfer (member_congr rfl rfl) rfl rfl rfl (Or.inl rfl) h.lived
      fun _ _ c _ hc => ⟨c, hc, rfl, .refl c.life⟩
  | frameEnd p =>
    cases hs
    refine Owned.collect (h.transfer (member_congr rfl rfl) rfl rfl rfl (Or.inl rfl)
      h.lived ?_)
    exact fun _ _ c _ hc => ⟨c, hc, rfl, .refl c.life⟩
  | client k e => exact (h.client hen hs).1

/-- **In every run** the objects of a session are in order. -/
theorem owned (h : (machine config session).Reachable s) : Owned config s :=
  h.invariant (fun s (hs : s = {}) => hs ▸ Owned.init) fun _ _ _ _ h hen hs => h.next hen hs

end SessionObjects

end SipGateway
