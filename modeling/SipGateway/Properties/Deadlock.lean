import SipGateway.App.Locking

/-!
# No deadlock

The mutexes are taken, and threads joined, in the order of `ranking`. So however the threads of the
gateway interleave, none of them is caught in a circle of waiting (`no_deadlock`), as long as no
signal comes to a thread that is inside of the logger. Such a thread hangs for good, with the
logger locked (`signal_while_logging_hangs`).
-/

namespace SipGateway

open Infra Locks

namespace Locking

/-- What is taken while other things are had ranks above them. -/
def Mutex.rank : Mutex → Nat
  | .transactions => 1
  | .registry => 2
  | .session _ => 3
  | .rtpServer => 4
  | .rtpWorker _ => 5
  | .jitterBuffer _ | .stage _ | .recorder _ | .send _ => 6
  | .logger => 7

/-- A thread that is joined under a mutex ranks above this mutex and below those it takes. -/
def Thread.rank : Thread → Nat
  | .main => 0
  | .cli | .rtpWorker _ => 1
  | .botReader _ | .socketReader _ | .recorder _ => 4

def ranking : Ranking Mutex Thread where
  lock := Mutex.rank
  thread := Thread.rank
  bound := 7
  lock_le m := by cases m <;> simp [Mutex.rank]
  thread_le t := by cases t <;> simp [Thread.rank]

variable {n : Nat}

@[simp] theorem ranking_lock (m : Mutex) : ranking.lock m = m.rank := rfl

@[simp] theorem ranking_thread (t : Thread) : ranking.thread t = t.rank := rfl

/-! ## Every function follows the ranks -/

theorem log_ranked (h : n < 7) : log.Ranked ranking n := by
  simp [log, Mutex.rank, h]

namespace RtpServer

theorem init_ranked (h : n < 7) : init.Ranked ranking n := by
  simp [init, RtpWorker.start, log_ranked h]

theorem allocatePort_ranked (h : n < 4) : allocatePort.Ranked ranking n := by
  simp [allocatePort, RtpWorker.allocatePort, Mutex.rank, log_ranked, h]

theorem releasePort_ranked (h : n < 5) : releasePort.Ranked ranking n := by
  simp [releasePort, RtpWorker.releasePort, Mutex.rank, h]

theorem setPacketHandler_ranked (h : n < 5) : setPacketHandler.Ranked ranking n := by
  simp [setPacketHandler, RtpWorker.setPacketHandler, Mutex.rank, h]

theorem send_ranked (h : n < 5) : send.Ranked ranking n := by
  simp [send, RtpWorker.send, Mutex.rank, h]

end RtpServer

theorem VoiceBotClient.stop_ranked (h : n < 4) (i : Nat) : (stop i).Ranked ranking n := by
  simp [stop, Thread.rank, h]

theorem VoiceBotClient.drop_ranked (h : n < 4) : drop.Ranked ranking n := by
  simp [drop, stop_ranked h]

theorem AudioSocketClient.stop_ranked (h : n < 4) (i : Nat) : (stop i).Ranked ranking n := by
  simp [stop, Thread.rank, h]

theorem AudioSocketClient.drop_ranked (h : n < 4) : drop.Ranked ranking n := by
  simp [drop, stop_ranked h]

theorem RecorderStage.destroy_ranked (h : n < 4) (i : Nat) : (destroy i).Ranked ranking n := by
  have h6 : n < 6 := by omega
  simp [destroy, Mutex.rank, Thread.rank, h, h6]

namespace MediaPipeline

theorem processUplink_ranked (h : n < 6) : processUplink.Ranked ranking n := by
  simp [processUplink, AudioSocketClient.sendAudio, RecorderStage.processUplink, Mutex.rank, h]

theorem processDownlink_ranked (h : n < 6) : processDownlink.Ranked ranking n := by
  simp [processDownlink, RecorderStage.processDownlink, Mutex.rank, h]

/-- The end of a pipeline may join readers and recorders. -/
theorem drop_ranked (h : n < 4) : drop.Ranked ranking n := by
  simp [drop, VoiceBotClient.drop_ranked h, AudioSocketClient.drop_ranked h,
    RecorderStage.destroy_ranked h]

end MediaPipeline

namespace CallSession

theorem terminate_ranked (h : n < 3) (i : Nat) : (terminate i).Ranked ranking n := by
  simp [terminate, Mutex.rank, h, RtpServer.releasePort_ranked, VoiceBotClient.stop_ranked,
    VoiceBotClient.drop_ranked, AudioSocketClient.stop_ranked, AudioSocketClient.drop_ranked,
    MediaPipeline.drop_ranked]

theorem drop_ranked (h : n < 3) : drop.Ranked ranking n := by
  simp [drop, terminate_ranked h]

theorem startPipeline_ranked (h : n < 3) (i : Nat) : (startPipeline i).Ranked ranking n := by
  simp [startPipeline, startBot, startSocket, VoiceBotClient.connect, AudioSocketClient.connect,
    RecorderStage.create, Mutex.rank, h, VoiceBotClient.drop_ranked, AudioSocketClient.drop_ranked,
    MediaPipeline.drop_ranked, log_ranked]

theorem processRtpFrame_ranked (h : n < 3) (i : Nat) : (processRtpFrame i).Ranked ranking n := by
  have h4 : n < 4 := by omega
  have h5 : n < 5 := by omega
  have h6 : n < 6 := by omega
  simp [processRtpFrame, Mutex.rank, h, h6, MediaPipeline.processUplink_ranked h6,
    MediaPipeline.processDownlink_ranked h6, RtpServer.send_ranked h5,
    MediaPipeline.drop_ranked h4]

theorem onRtpPacket_ranked (h : n < 3) (i : Nat) : (onRtpPacket i).Ranked ranking n := by
  simp [onRtpPacket, Mutex.rank, h, log_ranked, processRtpFrame_ranked h]

end CallSession

theorem CallRegistry.removeCall_ranked (h : n < 2) : removeCall.Ranked ranking n := by
  simp [removeCall, Mutex.rank, h, CallSession.drop_ranked]

namespace GatewayApp

theorem refuse_ranked (h : n < 2) : refuse.Ranked ranking n := by
  have h7 : n < 7 := by omega
  simp [refuse, SipServer.sendResponse, log_ranked h7, CallRegistry.removeCall_ranked h]

theorem answerInvite_ranked (h : n < 2) (i : Nat) : (answerInvite i).Ranked ranking n := by
  have h3 : n < 3 := by omega
  have h4 : n < 4 := by omega
  have h5 : n < 5 := by omega
  have h7 : n < 7 := by omega
  simp [answerInvite, SipServer.sendResponse, CallRegistry.registerRtpPort, Mutex.rank, h,
    log_ranked h7, refuse_ranked h, RtpServer.allocatePort_ranked h4,
    RtpServer.releasePort_ranked h5, CallRegistry.removeCall_ranked h,
    CallSession.startPipeline_ranked h3]

theorem execute_ranked (h : n < 2) (i : Nat) : (execute i).Ranked ranking n := by
  have h3 : n < 3 := by omega
  have h7 : n < 7 := by omega
  simp [execute, handleInvite, handleBye, handleCancel, SipServer.sendResponse, CallRegistry.count,
    CallRegistry.addCall, CallSession.init, CallSession.onSipMessage, Mutex.rank, h,
    log_ranked h7, answerInvite_ranked h, CallRegistry.removeCall_ranked h,
    CallSession.terminate_ranked h3]

theorem handleSipMessage_ranked : handleSipMessage.Ranked ranking 0 := by
  simp [handleSipMessage, CallRegistry.getCall, SipServer.sendResponse, Mutex.rank, log_ranked,
    execute_ranked, CallSession.drop_ranked]

theorem handleRtpPacket_ranked : handleRtpPacket.Ranked ranking 1 := by
  simp [handleRtpPacket, CallRegistry.getCallByPort, Mutex.rank, CallSession.onRtpPacket_ranked,
    CallSession.drop_ranked]

end GatewayApp

theorem programs_ranked (t : Thread) :
    (programs.program t).Ranked ranking (ranking.thread t) := by
  cases t with
  | main =>
    simp [programs, main, GatewayApp.init, GatewayApp.run, GatewayApp.cleanupTransactions,
      GatewayApp.destroy, SipServer.start, SipServer.poll, RtpWorker.stop, Mutex.rank,
      Thread.rank, log_ranked,
      RtpServer.init_ranked, RtpServer.setPacketHandler_ranked,
      GatewayApp.handleSipMessage_ranked, CallSession.drop_ranked]
  | cli =>
    simp [programs, GatewayApp.cliLoop, CallRegistry.count, handleSignal, Mutex.rank, Thread.rank,
      log_ranked, CallRegistry.removeCall_ranked]
  | rtpWorker i =>
    simp [programs, RtpWorker.run, Mutex.rank, Thread.rank, GatewayApp.handleRtpPacket_ranked]
  | botReader i =>
    simp [programs, VoiceBotClient.readerLoop, Mutex.rank, Thread.rank, log_ranked]
  | socketReader i =>
    simp [programs, AudioSocketClient.readerLoop, Mutex.rank, Thread.rank, log_ranked]
  | recorder i =>
    simp [programs, RecorderStage.workerLoop, Mutex.rank, Thread.rank]

/-! ## The threads together -/

variable {s s' : Locks Mutex Thread} {t : Thread}

/-- A signal does not come to a thread that is inside of the logger. -/
def SignalOutsideLogger (s : Locks Mutex Thread) : Move Thread → Prop
  | .go _ _ _ => True
  | .interrupt t => s.owner .logger ≠ some t

instance (s : Locks Mutex Thread) (e : Move Thread) : Decidable (SignalOutsideLogger s e) :=
  match e with
  | .go _ _ _ => isTrue trivial
  | .interrupt t => inferInstanceAs (Decidable (s.owner .logger ≠ some t))

/-- Outside of the logger a thread may log. -/
theorem handlerRanked_of_outside {e : Move Thread} (hsound : s.Sound)
    (h : SignalOutsideLogger s e) : HandlerRanked ranking programs s e := by
  rintro t rfl
  refine log_ranked ?_
  rcases ranking.level_eq t (s.todo t) with hlevel | ⟨m, hm, hlevel⟩
  · rw [hlevel]
    cases t <;> simp [Thread.rank]
  · rw [hlevel]
    have howner := (hsound.owned m t).mpr hm
    cases m with
    | logger => exact absurd howner h
    | _ => simp [Mutex.rank]

/--
**No deadlock.** However the threads interleave, as long as signals come to threads outside of the
logger: no thread waits for itself through others, and from every thread that has not ended the
waiting leads to one that can go on.
-/
theorem no_deadlock (hs : (machine programs .main).Reach SignalOutsideLogger s)
    (ht : s.todo t ≠ []) :
    ¬ Relation.TransGen s.Waits t t ∧ ∃ u, Relation.ReflTransGen s.Waits t u ∧ s.Ready u := by
  have hsound := sound_of_reach hs
  have hfollows := follows_of_reach programs_ranked
    (fun _ _ hsound hc => handlerRanked_of_outside hsound hc) hs
  refine ⟨fun hloop => ?_, leads_to_ready hsound hfollows ht⟩
  exact (level_lt_of_transGen hsound hfollows hloop).false

/-- The threads up to where the first one writes that the gateway runs. -/
def exampleLogging : Locks Mutex Thread :=
  ((machine programs .main).replay (start programs .main)
    ((List.range 41).map fun i => .go .main (i ∉ [14, 18, 21, 29, 32]) 0)).getD
      (start programs .main)

/-- The command line comes to the logger, too. -/
def exampleCli : List (Move Thread) := List.replicate 4 (.go .cli true 0)

theorem exampleLogging_reach :
    (machine programs .main).Reach SignalOutsideLogger exampleLogging := by
  obtain ⟨s, hs⟩ := Option.isSome_iff_exists.mp (show ((machine programs .main).replay
    (start programs .main) ((List.range 41).map fun i =>
      Move.go Thread.main (i ∉ [14, 18, 21, 29, 32]) 0)).isSome = true by decide +kernel)
  have hreach : (machine programs .main).Reach SignalOutsideLogger s := by
    refine Machine.replay_reach _ ?_ (Machine.Reach.init rfl) hs
    intro e he s
    obtain ⟨i, -, rfl⟩ := List.mem_map.mp he
    trivial
  unfold exampleLogging
  rwa [hs, Option.getD_some]

theorem no_deadlock_waiting :
    ∃ s, (machine programs .main).replay exampleLogging exampleCli = some s ∧ ¬ s.Ready .cli ∧
      ¬ Relation.TransGen s.Waits .cli .cli ∧
      ∃ u, Relation.ReflTransGen s.Waits .cli u ∧ s.Ready u := by
  obtain ⟨s, hs⟩ := Option.isSome_iff_exists.mp (show ((machine programs .main).replay
    exampleLogging exampleCli).isSome = true by decide +kernel)
  have hreach : (machine programs .main).Reach SignalOutsideLogger s := by
    refine Machine.replay_reach _ ?_ exampleLogging_reach hs
    intro e he s
    rw [List.eq_of_mem_replicate he]
    trivial
  have hwaits : (((machine programs .main).replay exampleLogging exampleCli).all fun s =>
      decide (s.todo .cli ≠ []) && !decide (s.Ready .cli)) = true := by
    decide +kernel
  rw [hs] at hwaits
  simp only [Option.all_some, Bool.and_eq_true, decide_eq_true_eq, Bool.not_eq_true',
    decide_eq_false_iff_not] at hwaits
  exact ⟨s, hs, hwaits.2, no_deadlock hreach hwaits.1⟩

/--
**A signal while logging.** A thread to which a signal comes inside of the logger never leaves it:
in every continuation it still has the mutex that it wants next.
-/
theorem signal_while_logging_hangs (hs : (machine programs .main).Reachable s)
    (ht : s.owner .logger = some t) {events : List (Move Thread)}
    (hrun : (machine programs .main).replay (s.next programs (.interrupt t)) events = some s') :
    s'.Hung t .logger := by
  have hsound := sound_of_reach hs
  have halive : s.todo t ≠ [] := List.ne_nil_of_mem ((hsound.owned _ _).mp ht)
  have hmoved : Moved programs s (.interrupt t) _ := next_moved (P := programs) halive
  have hhandler : programs.handler.TakesFirst .logger := Eq.refl Mutex.logger
  have hung : (s.next programs (.interrupt t)).Hung t .logger :=
    ⟨⟨_, _, Function.update_self .., hhandler⟩, ht⟩
  exact hung.replay (hsound.moved hmoved) hhandler hrun

theorem signal_while_logging_hangs_cli :
    ∃ s, (machine programs .main).replay (exampleLogging.next programs (.interrupt .main))
      exampleCli = some s ∧ s.Hung .main .logger := by
  obtain ⟨s, hs⟩ := Option.isSome_iff_exists.mp (show ((machine programs .main).replay
    (exampleLogging.next programs (.interrupt .main)) exampleCli).isSome = true by decide +kernel)
  exact ⟨s, hs, signal_while_logging_hangs exampleLogging_reach.reachable (by decide +kernel) hs⟩

end Locking

end SipGateway
