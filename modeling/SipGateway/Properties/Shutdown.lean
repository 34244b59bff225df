import SipGateway.Media.Shutdown

/-!
# Shutting a client down

Whoever clears `running_` first decides whether `stop` does anything. As long as the reader loop
clears it only behind a `stop` that has tested it, every life ends with the thread joined and the
connection let go (`destroyed_shutDown`). Once the loop was first, no life does (`lost_forever`).
-/

namespace SipGateway

open Infra

namespace ThreadedClient

variable {C A M : Type} {T : ThreadedClient C A M} {s s' : Lifetime C A} {e : LifeEvent A M}

/-- The reader loop does not clear the flag before a `stop` has tested it. -/
def StopsFirst (s : Lifetime C A) (e : LifeEvent A M) : Prop :=
  e = .readerClears → s.owner.pastTest = true

instance (s : Lifetime C A) (e : LifeEvent A M) : Decidable (StopsFirst s e) :=
  match e with
  | .readerClears => decidable_of_iff (s.owner.pastTest = true) ⟨fun h _ => h, fun h => h rfl⟩
  | .connect _ | .stop | .destroy | .advance | .readerTests | .readerReceives _ =>
    isTrue nofun

/-! ## The invariant -/

/-- A life in which `stop` was first so far. -/
structure ShutdownInv (T : ThreadedClient C A M) (s : Lifetime C A) : Prop where
  unattempted : s.attempted = false → s.connected = none ∧ s.reader = none
  /-- an unjoined thread will be joined: the flag still says so, or a `stop` is on its way -/
  joinable : s.reader ≠ none → T.running s.client = true ∨ s.owner.pastTest = true
  holds : ∀ a, s.connected = some a → T.Holds a s.client ∨ T.Released a s.client
  joining : ∀ a, s.connected = some a → (∃ d, s.owner = .stopping .joining d) →
    T.Released a s.client
  joined : ∀ a, s.connected = some a → s.reader = none → T.Released a s.client
  destroyed : s.owner = .destroyed → s.reader = none

theorem ShutdownInv.init (h : s = { client := s.client }) : ShutdownInv T s := by
  rw [h]
  exact ⟨fun _ => ⟨rfl, rfl⟩, fun h => absurd rfl h, nofun, nofun, nofun, fun _ => rfl⟩

/-- Connecting. -/
theorem ShutdownInv.connect (h : ShutdownInv T s) (hidle : s.owner = .idle)
    (hfirst : s.attempted = false) {a : A} {client : C} {ok : Bool}
    (hc : T.connect s.client a = .ok (client, ok)) :
    ShutdownInv T { s with
      client := client
      attempted := true
      connected := if ok then some a else none
      reader := if ok then some .testing else s.reader } := by
  have hrun := T.running_connect _ _ _ _ hc
  obtain ⟨-, hreader⟩ := h.unattempted hfirst
  cases ok with
  | false =>
    refine ⟨nofun, ?_, nofun, nofun, nofun, ?_⟩
    · exact fun hr => absurd hreader hr
    · exact fun _ => hreader
  | true =>
    -- the owner is idle: neither joining nor destroyed
    refine ⟨nofun, fun _ => Or.inl (by simpa using hrun), ?_, ?_, nofun, ?_⟩
    · intro a' ha'
      cases ha'
      exact Or.inl (T.holds_connect _ _ _ hc)
    · rintro _ - ⟨d, hd⟩
      rw [hidle] at hd
      cases hd
    · intro hd
      rw [hidle] at hd
      cases hd

/-- One statement of `stop`. -/
theorem ShutdownInv.advance (h : ShutdownInv T s) : ShutdownInv T (T.advance s) := by
  unfold ThreadedClient.advance
  split
  · next d howner =>
    split
    · exact ⟨h.unattempted, fun _ => Or.inr rfl, h.holds, nofun, h.joined, nofun⟩
    · next hstopped =>
      -- `stop` returns at once, and there is no thread it would have to join
      have hnone : s.reader = none := by
        by_contra hr
        rcases h.joinable hr with hrun | hpast
        · exact hstopped hrun
        · rw [howner] at hpast
          cases hpast
      refine ⟨h.unattempted, fun hr => absurd hnone hr, h.holds, ?_, h.joined, fun _ => hnone⟩
      exact fun a ha _ => h.joined a ha hnone
  · next d howner =>
    refine ⟨h.unattempted, fun _ => Or.inr rfl, fun a ha => ?_, nofun, fun a ha hr => ?_, nofun⟩
    · rcases h.holds a ha with hh | hr
      · exact Or.inl (T.holds_clearRunning _ _ hh)
      · exact Or.inr (T.released_clearRunning _ _ hr)
    · exact T.released_clearRunning _ _ (h.joined a ha hr)
  · next d howner =>
    have hreleased : ∀ a, s.connected = some a → T.Released a (T.release s.client) :=
      fun a ha => T.released_release _ _ (h.holds a ha)
    exact ⟨h.unattempted, fun _ => Or.inr rfl, fun a ha => Or.inr (hreleased a ha),
      fun a ha _ => hreleased a ha, fun a ha _ => hreleased a ha, nofun⟩
  · next d howner =>
    have hreleased : ∀ a, s.connected = some a → T.Released a s.client :=
      fun a ha => h.joining a ha ⟨d, howner⟩
    exact ⟨fun hu => ⟨(h.unattempted hu).1, rfl⟩, fun hr => absurd rfl hr, h.holds,
      fun a ha _ => hreleased a ha, fun a ha _ => hreleased a ha, fun _ => rfl⟩
  all_goals exact h

/-- The reader thread, as long as it leaves the flag alone. -/
theorem ShutdownInv.reader (h : ShutdownInv T s) (halive : s.owner ≠ .destroyed)
    (hreader : s.reader ≠ none) (pc : ReaderPc) : ShutdownInv T { s with reader := some pc } :=
  ⟨fun hu => absurd (h.unattempted hu).2 hreader, fun _ => h.joinable hreader, h.holds,
    h.joining, nofun, fun hd => absurd hd halive⟩

/-- The end of the reader loop, behind a `stop`. -/
theorem ShutdownInv.readerClears (h : ShutdownInv T s) (halive : s.owner ≠ .destroyed)
    (hreader : s.reader ≠ none) (hpast : s.owner.pastTest = true) :
    ShutdownInv T { s with client := T.clearRunning s.client, reader := some .done } := by
  refine ⟨fun hu => absurd (h.unattempted hu).2 hreader, fun _ => Or.inr hpast, fun a ha => ?_,
    fun a ha hj => T.released_clearRunning _ _ (h.joining a ha hj), nofun,
    fun hd => absurd hd halive⟩
  rcases h.holds a ha with hh | hr
  · exact Or.inl (T.holds_clearRunning _ _ hh)
  · exact Or.inr (T.released_clearRunning _ _ hr)

/-- **Every step keeps the invariant**, if `stop` is first. -/
theorem ShutdownInv.next (h : ShutdownInv T s) (hen : enabled s e = true) (hc : StopsFirst s e)
    (hs : T.step s e = some s') : ShutdownInv T s' := by
  cases e with
  | connect a =>
    simp only [enabled, Bool.and_eq_true, decide_eq_true_eq, Bool.not_eq_true'] at hen
    simp only [step] at hs
    split at hs
    · cases hs
    · next client ok hconn =>
      cases hs
      exact h.connect hen.1 hen.2 hconn
  | stop =>
    simp only [enabled, decide_eq_true_eq] at hen
    cases hs
    refine ⟨h.unattempted, fun hr => ?_, h.holds, nofun, h.joined, nofun⟩
    exact Or.inl ((h.joinable hr).resolve_right (by rw [hen]; simp [OwnerPc.pastTest]))
  | destroy =>
    simp only [enabled, decide_eq_true_eq] at hen
    cases hs
    refine ⟨h.unattempted, fun hr => ?_, h.holds, nofun, h.joined, nofun⟩
    exact Or.inl ((h.joinable hr).resolve_right (by rw [hen]; simp [OwnerPc.pastTest]))
  | advance =>
    cases hs
    exact h.advance
  | readerTests =>
    simp only [enabled, Bool.and_eq_true, decide_eq_true_eq] at hen
    cases hs
    exact h.reader hen.1 (by rw [hen.2]; simp) _
  | readerReceives m =>
    simp only [enabled, Bool.and_eq_true, decide_eq_true_eq] at hen
    cases hs
    exact h.reader hen.1 (by rw [hen.2]; simp) _
  | readerClears =>
    simp only [enabled, Bool.and_eq_true, decide_eq_true_eq] at hen
    cases hs
    exact h.readerClears hen.1 (by rw [hen.2]; simp) (hc rfl)

theorem shutdownInv (h : T.machine.Reach StopsFirst s) : ShutdownInv T s :=
  h.invariant (fun _ (hi : _ ∧ _) => ShutdownInv.init hi.1)
    fun _ _ _ _ h hen hc hs => h.next hen hc hs

/-- **A client whose `stop` was always first is shut down when it is destroyed.** -/
theorem destroyed_shutDown (h : T.machine.Reach StopsFirst s) : T.ShutDown s := by
  intro hd a ha
  have hinv := shutdownInv h
  exact ⟨hinv.destroyed hd, hinv.joined a ha (hinv.destroyed hd)⟩

/-! ## When the reader loop is first -/

/-- A thread nobody will join: `stop` finds the flag cleared from now on. -/
structure Lost (T : ThreadedClient C A M) (s : Lifetime C A) : Prop where
  running : T.running s.client = false
  reader : s.reader ≠ none
  untested : s.owner.pastTest = false
  attempted : s.attempted = true

theorem Lost.advance (h : Lost T s) : Lost T (T.advance s) := by
  have hbehind : ∀ pc d, pc ≠ .testing → s.owner ≠ .stopping pc d := by
    intro pc d hpc howner
    have huntested := h.untested
    rw [howner] at huntested
    cases pc <;> first | exact hpc rfl | cases huntested
  unfold ThreadedClient.advance
  split
  · next d howner =>
    rw [if_neg (by rw [h.running]; simp)]
    refine ⟨h.running, h.reader, ?_, h.attempted⟩
    cases d <;> rfl
  · next d howner => exact absurd howner (hbehind _ _ nofun)
  · next d howner => exact absurd howner (hbehind _ _ nofun)
  · next d howner => exact absurd howner (hbehind _ _ nofun)
  all_goals exact h

theorem Lost.next (h : Lost T s) (hen : enabled s e = true) (hs : T.step s e = some s') :
    Lost T s' := by
  cases e with
  | connect a =>
    simp only [enabled, Bool.and_eq_true, Bool.not_eq_true', h.attempted] at hen
    cases hen.2
  | stop => cases hs; exact ⟨h.running, h.reader, rfl, h.attempted⟩
  | destroy => cases hs; exact ⟨h.running, h.reader, rfl, h.attempted⟩
  | advance => cases hs; exact h.advance
  | readerTests => cases hs; exact ⟨h.running, nofun, h.untested, h.attempted⟩
  | readerReceives m => cases hs; exact ⟨h.running, nofun, h.untested, h.attempted⟩
  | readerClears =>
    cases hs
    exact ⟨T.running_clearRunning _, nofun, h.untested, h.attempted⟩

/-- Only a client that was connected has a thread. -/
theorem attempted_of_reader (h : T.machine.Reachable s) : s.reader ≠ none → s.attempted = true := by
  refine h.invariant (P := fun s => s.reader ≠ none → s.attempted = true) ?_ ?_
  · rintro s ⟨hs, -⟩ hr
    rw [hs] at hr
    exact absurd rfl hr
  · rintro s e s' - h hen hs
    have hsome : ∀ {p : Bool} {pc},
        (p && decide (s.reader = some pc)) = true → s.reader ≠ none := by
      intro p pc hp
      rw [Bool.and_eq_true, decide_eq_true_eq] at hp
      rw [hp.2]
      exact nofun
    cases e with
    | connect a =>
      simp only [machine, step] at hs
      split at hs
      · cases hs
      · cases hs
        exact fun _ => rfl
    | stop => cases hs; exact h
    | destroy => cases hs; exact h
    | advance =>
      cases hs
      unfold ThreadedClient.advance
      repeat' split
      all_goals first | exact h | exact fun hr => absurd rfl hr
    | readerTests => cases hs; exact fun _ => h (hsome hen)
    | readerReceives m => cases hs; exact fun _ => h (hsome hen)
    | readerClears => cases hs; exact fun _ => h (hsome hen)

/--
**A client whose reader loop was first is never shut down**: however its life goes on, its thread
stays unjoined, to the destructor and beyond.
-/
theorem lost_forever (hw : T.machine.Reachable s)
    (hen : T.machine.enabled s .readerClears)
    (hfirst : ¬ StopsFirst s (.readerClears : LifeEvent A M))
    (hs : T.step s .readerClears = some s') {t : Lifetime C A}
    (ht : (T.machine.resumeAt s').Reachable t) : t.reader ≠ none := by
  have huntested : s.owner.pastTest = false := by
    rw [← Bool.not_eq_true]
    exact fun hpast => hfirst fun _ => hpast
  have hreader : s.reader ≠ none := by
    simp only [machine, enabled, Bool.and_eq_true, decide_eq_true_eq] at hen
    rw [hen.2]
    exact nofun
  have hattempted := attempted_of_reader hw hreader
  have hlost : Lost T s' := by
    cases hs
    exact ⟨T.running_clearRunning _, nofun, huntested, hattempted⟩
  refine (ht.invariant (P := Lost T) ?_ fun _ _ _ _ h hen hs => h.next hen hs).reader
  rintro _ rfl
  exact hlost

end ThreadedClient

/-! ## The two clients -/

open ThreadedClient

/--
**Both clients shut down completely** in every life in which a `stop` has tested `running_` before
the reader loop clears it: the thread is joined, and the socket of the one is closed.
-/
theorem clients_shut_down {s : Lifetime AudioSocketClient SocketAnswers}
    {t : Lifetime VoiceBotClient Bool} (hs : audioSocketThreads.machine.Reach StopsFirst s)
    (ht : voiceBotThreads.machine.Reach StopsFirst t) :
    (s.owner = .destroyed → ∀ a, s.connected = some a →
      s.reader = none ∧ a.sock ∈ s.client.closed) ∧
    (t.owner = .destroyed → ∀ a, t.connected = some a → t.reader = none) := by
  refine ⟨destroyed_shutDown hs, ?_⟩
  intro hd a ha
  exact (destroyed_shutDown ht hd a ha).1

instance {C A M : Type} (T : ThreadedClient C A M) (s : Lifetime C A) (e : LifeEvent A M) :
    Decidable (T.machine.enabled s e) :=
  inferInstanceAs (Decidable (enabled s e = true))

/-- A client that was just constructed. -/
def exampleSocket : Lifetime AudioSocketClient SocketAnswers where
  client :=
    { target := bytes "127.0.0.1:9092", callId := bytes "call", fromUser := [], toUser := [] }

def exampleBot : Lifetime VoiceBotClient Bool where
  client := { target := bytes "127.0.0.1:50051", callId := bytes "call" }

/-- The session stops the client while its reader waits, and drops it. -/
def stoppedLife {A M : Type} (a : A) : List (LifeEvent A M) :=
  [.connect a, .readerTests, .stop, .advance, .advance, .advance, .readerReceives none,
    .readerClears, .advance, .destroy, .advance]

theorem clients_shut_down_stopped :
    (∃ s : Lifetime AudioSocketClient SocketAnswers, s.owner = .destroyed ∧
      s.connected = some { sock := 3, connects := true } ∧ s.reader = none ∧
      3 ∈ s.client.closed) ∧
    ∃ s : Lifetime VoiceBotClient Bool, s.owner = .destroyed ∧ s.connected = some true ∧
      s.reader = none := by
  obtain ⟨s, hs, hp⟩ := Machine.exists_reach StopsFirst
    (show audioSocketThreads.machine.init exampleSocket from ⟨rfl, rfl⟩)
    (show ((audioSocketThreads.machine.restrict StopsFirst).replay exampleSocket
      (stoppedLife { sock := 3, connects := true })).any (fun s => decide (s.owner = .destroyed ∧
        s.connected = some { sock := 3, connects := true })) = true by decide +kernel)
  obtain ⟨t, ht, hq⟩ := Machine.exists_reach StopsFirst
    (show voiceBotThreads.machine.init exampleBot from ⟨rfl, rfl⟩)
    (show ((voiceBotThreads.machine.restrict StopsFirst).replay exampleBot
      (stoppedLife true)).any (fun t => decide (t.owner = .destroyed ∧
        t.connected = some true)) = true by decide +kernel)
  obtain ⟨hdestroyed, hconnected⟩ := of_decide_eq_true hp
  obtain ⟨hdestroyed', hconnected'⟩ := of_decide_eq_true hq
  obtain ⟨hsocket, hbot⟩ := clients_shut_down hs ht
  exact ⟨⟨s, hdestroyed, hconnected, hsocket hdestroyed _ hconnected⟩,
    t, hdestroyed', hconnected', hbot hdestroyed' _ hconnected'⟩

/-- The connection ends by itself; the session stops the client afterwards, and drops it. -/
def endedLife {A M : Type} (a : A) : List (LifeEvent A M) :=
  [.connect a, .readerTests, .readerReceives none, .readerClears, .stop, .advance, .destroy,
    .advance]

/-- Both destructors then run with a joinable thread, and the socket is open. -/
theorem destroyed_unjoined :
    (∃ s : Lifetime AudioSocketClient SocketAnswers, audioSocketThreads.machine.Reachable s ∧
      s.owner = .destroyed ∧ s.connected = some { sock := 3, connects := true } ∧
      s.reader = some .done ∧ 3 ∉ s.client.closed) ∧
    ∃ s : Lifetime VoiceBotClient Bool, voiceBotThreads.machine.Reachable s ∧
      s.owner = .destroyed ∧ s.connected = some true ∧ s.reader = some .done := by
  obtain ⟨s, hs, hp⟩ := Machine.exists_reach (fun _ _ => True)
    (show audioSocketThreads.machine.init exampleSocket from ⟨rfl, rfl⟩)
    (show ((audioSocketThreads.machine.restrict fun _ _ => True).replay exampleSocket
      (endedLife { sock := 3, connects := true })).any (fun s => decide (s.owner = .destroyed ∧
        s.connected = some { sock := 3, connects := true } ∧ s.reader = some .done ∧
        3 ∉ s.client.closed)) = true by decide +kernel)
  obtain ⟨t, ht, hq⟩ := Machine.exists_reach (fun _ _ => True)
    (show voiceBotThreads.machine.init exampleBot from ⟨rfl, rfl⟩)
    (show ((voiceBotThreads.machine.restrict fun _ _ => True).replay exampleBot
      (endedLife true)).any (fun t => decide (t.owner = .destroyed ∧ t.connected = some true ∧
        t.reader = some .done)) = true by decide +kernel)
  exact ⟨⟨s, hs, of_decide_eq_true hp⟩, t, ht, of_decide_eq_true hq⟩

end SipGateway
