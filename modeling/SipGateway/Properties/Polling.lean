import SipGateway.App.Polling

/-!
# Datagrams are handled in order

What the main loop does with its socket is a run of the gateway (`Polled.world`), so everything
said of these runs holds of datagrams. Every datagram that came in is handled once and in order
(`datagrams_in_order`), and when no more come, all of them are after a few turns
(`all_datagrams_handled`).
-/

namespace SipGateway

open Infra

/-- The message in a datagram, if there is one. -/
def messageOf (datagram : Datagram) : Option SipMessage :=
  if datagram.1.isEmpty then none
  else match SipParser.parse (datagram.1.take MainLoop.bufferSize) with
    | .ok msg => msg
    | .error _ => none

/-- How many turns the main thread needs at most to come to `recvfrom`. -/
def LoopPlace.distance : LoopPlace → Nat
  | .polling | .stopped => 0
  | .testing => 1
  | .sleeping => 2
  | .cleaning => 3

namespace World

variable {w w' : World} {e : Event}

/-- A step adds its SIP message to the trace. -/
theorem step_trace (h : w.step e = some w') :
    w'.trace.map TraceEntry.msg = w.trace.map TraceEntry.msg ++
      match e.action with
      | .sip msg _ => [msg.val]
      | _ => [] := by
  unfold step at h
  split at h
  · next msg sender hact =>
    split at h
    · cases h
      rw [hact]
      exact List.map_append
    · cases h
  case h_3 line hact =>
    split at h
    · cases h
      rw [hact]
      exact (List.append_nil _).symm
    · cases h
  all_goals
    next hact =>
      cases h
      rw [hact]
      exact (List.append_nil _).symm

end World

namespace MainLoop

variable {config : Config} {hardwareConcurrency : Nat} {l l' : MainLoop} {e : LoopEvent}

/-- The state of the gateway is that of a run, and its messages are those that were read. -/
structure Polled (config : Config) (hardwareConcurrency : Nat) (l : MainLoop) : Prop where
  world : (World.machine config hardwareConcurrency).Reachable l.world
  order : ∃ read, read ++ l.socket = l.arrived ∧
    l.world.trace.map TraceEntry.msg = read.filterMap messageOf

/-- The gateway makes a step that is no SIP message. -/
theorem Polled.other (h : Polled config hardwareConcurrency l) {ev : Event} {w : World}
    (hsip : ∀ msg sender, ev.action ≠ .sip msg sender) (hclock : l.world.clock ≤ ev.env.start)
    (hstep : l.world.step ev = some w) (place : LoopPlace) :
    Polled config hardwareConcurrency { l with world := w, place := place } where
  world := h.world.next hclock hstep
  order := by
    obtain ⟨read, hread, htrace⟩ := h.order
    refine ⟨read, hread, ?_⟩
    have hadds := World.step_trace hstep
    show w.trace.map TraceEntry.msg = _
    rw [hadds, htrace]
    split
    · next msg sender hact => exact absurd hact (hsip msg sender)
    · exact List.append_nil _

/-- A datagram is read. -/
theorem Polled.handle (h : Polled config hardwareConcurrency l) {datagram : Datagram}
    {rest : List Datagram} (hsocket : l.socket = datagram :: rest)
    (hne : datagram.1.isEmpty = false) {env : Env} (hclock : l.world.clock ≤ env.start)
    (hhandle : { l with socket := rest }.handle env datagram = some l') :
    Polled config hardwareConcurrency l' := by
  obtain ⟨hworld, read, hread, htrace⟩ := h
  have hread' : (read ++ [datagram]) ++ rest = l.arrived := by
    rw [← hread, hsocket, List.append_assoc, List.singleton_append]
  have hmessage : ∀ r, SipParser.parse (datagram.1.take bufferSize) = .ok r →
      (read ++ [datagram]).filterMap messageOf = l.world.trace.map TraceEntry.msg ++ r.toList := by
    intro r hr
    rw [List.filterMap_append, htrace]
    have hone : messageOf datagram = r := by
      unfold messageOf
      rw [hne, hr]
      rfl
    cases r with
    | none => rw [List.filterMap_cons_none hone]; rfl
    | some msg => rw [List.filterMap_cons_some hone]; rfl
  unfold MainLoop.handle at hhandle
  split at hhandle
  · next msg hparse =>
    obtain ⟨w, hstep, rfl⟩ := Option.map_eq_some_iff.mp hhandle
    have hnext : (World.machine config hardwareConcurrency).Reachable w :=
      hworld.next (e := ⟨env, .sip ⟨msg, SipParser.parse_wellFormed hparse⟩ datagram.2⟩)
        hclock hstep
    refine ⟨hnext, read ++ [datagram], hread', ?_⟩
    rw [hmessage _ hparse]
    exact World.step_trace hstep
  · next hparse =>
    cases hhandle
    refine ⟨hworld, read ++ [datagram], hread', ?_⟩
    rw [hmessage _ hparse]
    exact (List.append_nil _).symm
  · cases hhandle

theorem Polled.turn (h : Polled config hardwareConcurrency l) {env : Env}
    (hclock : l.world.clock ≤ env.start) (hturn : l.turn env = some l') :
    Polled config hardwareConcurrency l' := by
  unfold MainLoop.turn at hturn
  split at hturn
  · cases hturn
    exact ⟨h.world, h.order⟩
  · unfold receive at hturn
    split at hturn
    · cases hturn
      exact ⟨h.world, h.order⟩
    · next datagram rest hsocket =>
      split at hturn
      · next hempty =>
        cases hturn
        obtain ⟨hworld, read, hread, htrace⟩ := h
        refine ⟨hworld, read ++ [datagram], ?_, ?_⟩
        · rw [← hread, hsocket, List.append_assoc, List.singleton_append]
        · have hnone : messageOf datagram = none := if_pos hempty
          rw [List.filterMap_append, List.filterMap_cons_none hnone, List.filterMap_nil,
            List.append_nil]
          exact htrace
      · next hne =>
        exact h.handle hsocket (Bool.eq_false_of_not_eq_true hne) hclock hturn
  · obtain ⟨w, hstep, rfl⟩ := Option.map_eq_some_iff.mp hturn
    exact h.other (by rintro _ _ ⟨⟩) hclock hstep .sleeping
  · cases hturn
    exact ⟨h.world, h.order⟩
  · cases hturn
    exact h

theorem Polled.step (h : Polled config hardwareConcurrency l) (hen : l.Can e)
    (hstep : l.step e = some l') : Polled config hardwareConcurrency l' := by
  cases e with
  | arrive datagram =>
    cases hstep
    obtain ⟨hworld, read, hread, htrace⟩ := h
    refine ⟨hworld, read, ?_, htrace⟩
    show read ++ (l.socket ++ [datagram]) = l.arrived ++ [datagram]
    rw [← hread, List.append_assoc]
  | turn env => exact h.turn hen hstep
  | fail =>
    cases hstep
    exact ⟨h.world, h.order⟩
  | exit =>
    cases hstep
    exact ⟨h.world, h.order⟩
  | other ev =>
    obtain ⟨w, hw, rfl⟩ := Option.map_eq_some_iff.mp hstep
    refine h.other ?_ hen.2 hw l.place
    intro msg sender hact
    have hby := hen.1
    rw [hact] at hby
    cases hby

theorem polled_of_reach {cond : MainLoop → LoopEvent → Prop}
    (hl : (machine config hardwareConcurrency).Reach cond l) :
    Polled config hardwareConcurrency l := by
  refine hl.invariant ?_ ?_
  · rintro l rfl
    exact ⟨Machine.Reachable.init rfl, [], rfl, rfl⟩
  · intro l e l' _ h hen _ hstep
    exact h.step hen hstep

/--
**Datagrams are handled in order.** Whatever the network and the other threads do: what the gateway
has done is a run of its own, and the SIP messages of this run are those of the datagrams that were
read, one by one in the order they came in; the others are still in the socket.
-/
theorem datagrams_in_order (hl : (machine config hardwareConcurrency).Reachable l) :
    (World.machine config hardwareConcurrency).Reachable l.world ∧
    ∃ read, read ++ l.socket = l.arrived ∧
      l.world.trace.map TraceEntry.msg = read.filterMap messageOf :=
  ⟨(polled_of_reach hl).world, (polled_of_reach hl).order⟩

/-- An empty line to keep the path open, and a request behind it. -/
def exampleDatagrams : List LoopEvent :=
  [.arrive (bytes "\r\n", {}),
    .arrive (bytes "OPTIONS sip:h SIP/2.0\r\nCall-ID: call\r\nVia: SIP/2.0/UDP h;branch=a\r\n\r\n",
      {})]

/-- The main loop after the two datagrams and some turns. -/
def exampleLoop (turns : Nat) : MainLoop :=
  ((machine World.exampleConfig 1).replay { world := World.start World.exampleConfig 1 }
    (exampleDatagrams ++ List.replicate turns (.turn { start := 0 }))).getD
      { world := World.start World.exampleConfig 1 }

theorem exampleLoop_reachable (turns : Nat)
    (h : ((machine World.exampleConfig 1).replay { world := World.start World.exampleConfig 1 }
      (exampleDatagrams ++ List.replicate turns (.turn { start := 0 }))).isSome = true) :
    (machine World.exampleConfig 1).Reachable (exampleLoop turns) := by
  obtain ⟨l, hl⟩ := Option.isSome_iff_exists.mp h
  have hloop : exampleLoop turns = l := by
    unfold exampleLoop
    rw [hl, Option.getD_some]
  rw [hloop]
  exact Machine.replay_reach _ (fun _ _ _ => trivial) (Machine.Reach.init rfl) hl

/-- The first is read, the second still in the socket. -/
theorem datagrams_in_order_first :
    (exampleLoop 2).socket.length = 1 ∧ (exampleLoop 2).arrived.length = 2 ∧
    (World.machine World.exampleConfig 1).Reachable (exampleLoop 2).world ∧
    ∃ read, read ++ (exampleLoop 2).socket = (exampleLoop 2).arrived ∧
      (exampleLoop 2).world.trace.map TraceEntry.msg = read.filterMap messageOf := by
  have h := datagrams_in_order (exampleLoop_reachable 2 (by decide +kernel))
  exact ⟨by decide +kernel, by decide +kernel, h.1, h.2⟩

/-! ## The socket is emptied -/

/-- Turns to an empty socket, at most. -/
def turnsLeft (l : MainLoop) : Nat := 4 * l.socket.length + l.place.distance

/-- The main thread is in its loop and not told to leave it. -/
structure Looping (l : MainLoop) : Prop where
  shouldExit : l.shouldExit = false
  place : l.place ≠ .stopped

/-- Nothing comes in, nothing fails, and the loop is to go on. -/
def Undisturbed : LoopEvent → Prop
  | .turn _ | .other _ => True
  | _ => False

instance (e : LoopEvent) : Decidable (Undisturbed e) :=
  match e with
  | .turn _ | .other _ => isTrue trivial
  | .arrive _ | .fail | .exit => isFalse not_false

/-- The main thread has come nearer to an empty socket, or there is nothing in it. -/
structure Nearer (l l' : MainLoop) : Prop where
  looping : l'.Looping
  arrived : l'.arrived = l.arrived
  nearer : l'.turnsLeft < l.turnsLeft ∨ l'.socket = []
  stays : l.socket = [] → l'.socket = []

theorem Looping.turn (h : l.Looping) {env : Env} (hturn : l.turn env = some l') : Nearer l l' := by
  obtain ⟨world, shouldExit, place, socket, arrived⟩ := l
  have hexit : shouldExit = false := h.shouldExit
  subst hexit
  unfold MainLoop.turn at hturn
  cases place with
  | testing =>
    cases hturn
    refine ⟨⟨rfl, nofun⟩, rfl, Or.inl ?_, id⟩
    exact Nat.lt_succ_self _
  | polling =>
    unfold receive at hturn
    dsimp only at hturn
    cases socket with
    | nil =>
      cases hturn
      exact ⟨⟨rfl, nofun⟩, rfl, Or.inr rfl, id⟩
    | cons datagram rest =>
      dsimp only at hturn
      split at hturn
      · cases hturn
        refine ⟨⟨rfl, nofun⟩, rfl, Or.inl ?_, nofun⟩
        show 4 * rest.length + 3 < 4 * (rest.length + 1) + 0
        omega
      · have hless : 4 * rest.length + 0 < 4 * (rest.length + 1) + 0 := by omega
        unfold MainLoop.handle at hturn
        split at hturn
        · obtain ⟨w, -, rfl⟩ := Option.map_eq_some_iff.mp hturn
          exact ⟨⟨rfl, nofun⟩, rfl, Or.inl hless, nofun⟩
        · cases hturn
          exact ⟨⟨rfl, nofun⟩, rfl, Or.inl hless, nofun⟩
        · cases hturn
  | cleaning =>
    obtain ⟨w, -, rfl⟩ := Option.map_eq_some_iff.mp hturn
    exact ⟨⟨rfl, nofun⟩, rfl, Or.inl (Nat.lt_succ_self _), id⟩
  | sleeping =>
    cases hturn
    exact ⟨⟨rfl, nofun⟩, rfl, Or.inl (Nat.lt_succ_self _), id⟩
  | stopped => exact absurd rfl h.place

/-- The turns of the main thread among some events. -/
def turns (events : List LoopEvent) : Nat :=
  events.countP fun e => e matches .turn _

theorem Looping.replay (h : l.Looping) {events : List LoopEvent}
    (hundisturbed : ∀ e ∈ events, Undisturbed e)
    (hrun : (machine config hardwareConcurrency).replay l events = some l')
    (hturns : l.turnsLeft ≤ turns events ∨ l.socket = []) :
    l'.socket = [] ∧ l'.arrived = l.arrived := by
  induction events generalizing l with
  | nil =>
    rw [Machine.replay, Option.some.injEq] at hrun
    subst hrun
    refine ⟨?_, rfl⟩
    rcases hturns with hturns | hempty
    · have hzero : 4 * l.socket.length + l.place.distance ≤ 0 := hturns
      exact List.length_eq_zero_iff.mp (by omega)
    · exact hempty
  | cons e events ih =>
    rw [Machine.replay] at hrun
    split at hrun
    · next hen =>
      obtain ⟨l₁, hstep, hrest⟩ := Option.bind_eq_some_iff.mp hrun
      have hmore : ∀ e ∈ events, Undisturbed e :=
        fun e he => hundisturbed e (List.mem_cons_of_mem _ he)
      cases e with
      | turn env =>
        have hnearer := h.turn hstep
        have hcount : turns (.turn env :: events) = turns events + 1 :=
          List.countP_cons_of_pos rfl
        obtain ⟨hsocket, harrived⟩ := ih hnearer.looping hmore hrest (by
          rcases hturns with hturns | hempty
          · rcases hnearer.nearer with hless | hempty
            · left
              omega
            · exact Or.inr hempty
          · exact Or.inr (hnearer.stays hempty))
        exact ⟨hsocket, harrived.trans hnearer.arrived⟩
      | other ev =>
        obtain ⟨w, -, rfl⟩ := Option.map_eq_some_iff.mp hstep
        exact ih (l := { l with world := w }) ⟨h.shouldExit, h.place⟩ hmore hrest hturns
      | arrive datagram => exact (hundisturbed _ List.mem_cons_self).elim
      | fail => exact (hundisturbed _ List.mem_cons_self).elim
      | exit => exact (hundisturbed _ List.mem_cons_self).elim
    · cases hrun

/--
**All datagrams are handled.** When nothing more comes in and the loop goes on, then after four
turns for every datagram in the socket and three more, with any steps of the other threads between
them, the messages of all datagrams that ever came in have been handled, in their order.
-/
theorem all_datagrams_handled (hl : (machine config hardwareConcurrency).Reachable l)
    (hlooping : l.Looping) {events : List LoopEvent} (hundisturbed : ∀ e ∈ events, Undisturbed e)
    (hturns : 4 * l.socket.length + 3 ≤ turns events)
    (hrun : (machine config hardwareConcurrency).replay l events = some l') :
    l'.world.trace.map TraceEntry.msg = l.arrived.filterMap messageOf := by
  have hplace : l.place.distance ≤ 3 := by cases l.place <;> decide
  have hleft : l.turnsLeft ≤ turns events := by
    unfold turnsLeft
    omega
  obtain ⟨hempty, harrived⟩ := hlooping.replay hundisturbed hrun (Or.inl hleft)
  have hreach := Machine.replay_reach events (fun _ _ _ => trivial) hl hrun
  obtain ⟨read, hread, htrace⟩ := (polled_of_reach hreach).order
  rw [hempty, List.append_nil, harrived] at hread
  rw [htrace, hread]

/-- The two datagrams in the socket, and eleven turns. -/
theorem all_datagrams_handled_two :
    (exampleLoop 0).socket.length = 2 ∧
    ∃ l', (machine World.exampleConfig 1).replay (exampleLoop 0)
        (List.replicate 11 (.turn { start := 0 })) = some l' ∧
      l'.world.trace.length = 1 ∧
      l'.world.trace.map TraceEntry.msg = (exampleLoop 0).arrived.filterMap messageOf := by
  obtain ⟨l', hrun⟩ := Option.isSome_iff_exists.mp (show ((machine World.exampleConfig 1).replay
    (exampleLoop 0) (List.replicate 11 (.turn { start := 0 }))).isSome = true by decide +kernel)
  have hlength : ((machine World.exampleConfig 1).replay (exampleLoop 0)
      (List.replicate 11 (.turn { start := 0 }))).map (fun l => l.world.trace.length) = some 1 := by
    decide +kernel
  rw [hrun] at hlength
  have hlooping : (exampleLoop 0).Looping := ⟨by decide +kernel, by decide +kernel⟩
  have h := all_datagrams_handled (exampleLoop_reachable 0 (by decide +kernel)) hlooping
    (by decide +kernel) (by decide +kernel) hrun
  exact ⟨by decide +kernel, l', hrun, Option.some.inj hlength, h⟩

end MainLoop

end SipGateway
