import SipGateway.Infra.Conveyor
import SipGateway.Infra.Machine
import SipGateway.Properties.Fidelity

/-!
# The downlink buffers

`GrpcBridgeStage` and `AudioSocketStage` keep audio for the caller in a buffer of two seconds.
Audio arrives on the thread of the client, frames are taken on that of the packets, both under
the mutex of the stage, so a run is any sequence of the two.

A `Flow` is a stage with what an observer of it would write down. `flow_conveyor` says that this
is a conveyor for 16000 bytes with frames of 160.
-/

namespace SipGateway

open Infra

/-- A stage with a downlink buffer. -/
inductive DownlinkStage where
  | grpcBridge (st : GrpcBridgeStage)
  | audioSocket (st : AudioSocketStage)
deriving DecidableEq, Repr

namespace DownlinkStage

def buffer : DownlinkStage → Bytes
  | .grpcBridge st => st.downlinkBuffer
  | .audioSocket st => st.downlinkBuffer

/-- The G.711 bytes a stage accepts of some audio: those the bot sends, or an encoding. -/
def accepts (data : Bytes) : DownlinkStage → Bytes
  | .grpcBridge _ => data
  | .audioSocket st => if data.length % 2 = 0 then st.appended data else []

/-- `onBotAudio` and `onAudioSocketData`. -/
def arrive (data : Bytes) : DownlinkStage → DownlinkStage
  | .grpcBridge st => .grpcBridge (st.onBotAudio data)
  | .audioSocket st => .audioSocket (st.onAudioSocketData data)

/-- `processDownlink`. -/
def processDownlink (audio : Bytes) : DownlinkStage → DownlinkStage × Bytes
  | .grpcBridge st => (.grpcBridge (st.processDownlink audio).1, (st.processDownlink audio).2)
  | .audioSocket st => (.audioSocket (st.processDownlink audio).1, (st.processDownlink audio).2)

theorem boundBuffer_eq_newest (buffer : Bytes) : boundBuffer buffer = newest 16000 buffer := by
  unfold boundBuffer newest
  split
  · rfl
  · rw [Nat.sub_eq_zero_of_le (by omega), List.drop_zero]

/-- An arrival keeps the newest 16000 bytes. -/
theorem arrive_buffer {stage : DownlinkStage} (hlen : stage.buffer.length ≤ 16000) (data : Bytes) :
    (stage.arrive data).buffer = newest 16000 (stage.buffer ++ stage.accepts data) := by
  cases stage with
  | grpcBridge st => exact boundBuffer_eq_newest _
  | audioSocket st =>
    unfold arrive accepts buffer at *
    dsimp only at hlen ⊢
    split
    · next heven => rw [st.onAudioSocketData_eq heven, boundBuffer_eq_newest]
    · next hodd =>
      -- an odd number of bytes is no audio
      have hsame : st.onAudioSocketData data = st := by
        unfold AudioSocketStage.onAudioSocketData
        rw [if_pos hodd]
      rw [hsame, List.append_nil, newest, Nat.sub_eq_zero_of_le hlen, List.drop_zero]

/-- A frame is taken when there is one. -/
theorem processDownlink_full {stage : DownlinkStage} (h : 160 ≤ stage.buffer.length)
    (audio : Bytes) :
    (stage.processDownlink audio).1.buffer = stage.buffer.drop 160 ∧
    (stage.processDownlink audio).2 = stage.buffer.take 160 := by
  cases stage with
  | grpcBridge st =>
    simp only [buffer] at h
    simp [processDownlink, GrpcBridgeStage.processDownlink, buffer, h]
  | audioSocket st =>
    simp only [buffer] at h
    simp [processDownlink, AudioSocketStage.processDownlink, buffer, h]

/-- Otherwise nothing happens. -/
theorem processDownlink_short {stage : DownlinkStage} (h : ¬ 160 ≤ stage.buffer.length)
    (audio : Bytes) : stage.processDownlink audio = (stage, audio) := by
  cases stage with
  | grpcBridge st =>
    simp only [buffer] at h
    simp [processDownlink, GrpcBridgeStage.processDownlink, h]
  | audioSocket st =>
    simp only [buffer] at h
    simp [processDownlink, AudioSocketStage.processDownlink, h]

end DownlinkStage

/-- A stage, what it has accepted so far, and what has left its buffer. -/
structure Flow where
  stage : DownlinkStage
  accepted : Bytes := []
  gone : List (Departure UInt8) := []

namespace Flow

inductive FlowEvent where
  /-- audio from the client -/
  | arrive (data : Bytes)
  /-- a frame for the caller -/
  | processDownlink (audio : Bytes)
deriving DecidableEq, Repr

/--
One call, written down from outside. Of the bytes before an arrival and those it accepts, as many
as are missing after it are taken to have been dropped, from the front; a call that shortens the
buffer has emitted what it returns.
-/
def step (flow : Flow) : FlowEvent → Flow
  | .arrive data =>
    let before := flow.stage.buffer ++ flow.stage.accepts data
    let stage := flow.stage.arrive data
    { stage := stage
      accepted := flow.accepted ++ flow.stage.accepts data
      gone := flow.gone ++ [.dropped (before.take (before.length - stage.buffer.length))] }
  | .processDownlink audio =>
    let r := flow.stage.processDownlink audio
    { stage := r.1
      accepted := flow.accepted
      gone := flow.gone ++
        if r.1.buffer.length < flow.stage.buffer.length then [.emitted r.2] else [] }

/-- Any calls in any order, on a new stage of either kind. -/
def machine : Machine Flow FlowEvent where
  init flow := flow = { stage := flow.stage } ∧ flow.stage.buffer = []
  enabled _ _ := True
  step flow e := some (flow.step e)

/-- A flow seen as a conveyor. -/
structure Shows (flow : Flow) (c : Conveyor 16000 160 UInt8) : Prop where
  accepted : flow.accepted = c.accepted
  gone : flow.gone = c.gone
  buffer : flow.stage.buffer = c.queue

variable {flow : Flow} {c : Conveyor 16000 160 UInt8}

theorem Shows.arrive (h : flow.Shows c) (data : Bytes) :
    (flow.step (.arrive data)).Shows (c.put (flow.stage.accepts data)) := by
  have hbuffer := DownlinkStage.arrive_buffer (h.buffer ▸ c.bounded) data
  -- what is missing afterwards is the overflow
  have hmissing : (flow.stage.buffer ++ flow.stage.accepts data).length -
      (flow.stage.arrive data).buffer.length =
      (flow.stage.buffer ++ flow.stage.accepts data).length - 16000 := by
    rw [hbuffer, length_newest]
    omega
  refine ⟨?_, ?_, ?_⟩
  · rw [Conveyor.put_accepted, ← h.accepted]
    rfl
  · rw [Conveyor.put_gone, ← h.gone, ← h.buffer, overflow, ← hmissing]
    rfl
  · rw [Conveyor.put_queue, ← h.buffer]
    exact hbuffer

theorem Shows.emit (h : flow.Shows c) (hfull : 160 ≤ c.queue.length) (audio : Bytes) :
    (flow.step (.processDownlink audio)).Shows (c.emit hfull) := by
  have hfull' : 160 ≤ flow.stage.buffer.length := by rwa [h.buffer]
  obtain ⟨hbuffer, hframe⟩ := DownlinkStage.processDownlink_full hfull' audio
  have hshorter : (flow.stage.processDownlink audio).1.buffer.length <
      flow.stage.buffer.length := by
    rw [hbuffer, List.length_drop]
    omega
  refine ⟨h.accepted, ?_, ?_⟩
  · rw [Conveyor.emit_gone, ← h.gone, ← h.buffer, ← hframe]
    simp only [step, if_pos hshorter]
  · rw [Conveyor.emit_queue, ← h.buffer]
    exact hbuffer

theorem Shows.idle (h : flow.Shows c) (hshort : ¬ 160 ≤ c.queue.length) (audio : Bytes) :
    (flow.step (.processDownlink audio)).Shows c := by
  rw [← h.buffer] at hshort
  refine ⟨h.accepted, ?_, ?_⟩
  · simp [step, DownlinkStage.processDownlink_short hshort, h.gone]
  · simp [step, DownlinkStage.processDownlink_short hshort, h.buffer]

/-- **Both stages are conveyors.** -/
theorem flow_conveyor (h : machine.Reachable flow) : ∃ c, flow.Shows c := by
  refine Machine.Reachable.invariant (P := fun flow => ∃ c, flow.Shows c) ?_ ?_ h
  · rintro flow ⟨hnew, hbuffer⟩
    refine ⟨Conveyor.empty, ?_, ?_, hbuffer⟩ <;> rw [hnew] <;> rfl
  · rintro flow e flow' - ⟨c, hc⟩ - hstep
    cases hstep
    cases e with
    | arrive data => exact ⟨_, hc.arrive data⟩
    | processDownlink audio =>
      by_cases hfull : 160 ≤ c.queue.length
      · exact ⟨_, hc.emit hfull audio⟩
      · exact ⟨c, hc.idle hfull audio⟩

/--
**The downlink is first-in first-out and drops the oldest**, whatever calls there have been.

Nothing accepted is lost but what is dropped, and nothing is reordered; an arrival keeps the
newest 16000 bytes; a call for a frame returns the next 160 bytes, or does nothing.
-/
theorem downlink_fifo (h : machine.Reachable flow) :
    flow.accepted = departedItems flow.gone ++ flow.stage.buffer ∧
    (∀ data, (flow.step (.arrive data)).gone =
        flow.gone ++ [.dropped (overflow 16000 (flow.stage.buffer ++ flow.stage.accepts data))] ∧
      (flow.stage.arrive data).buffer =
        newest 16000 (flow.stage.buffer ++ flow.stage.accepts data) ∧
      (flow.stage.arrive data).buffer.length ≤ 16000) ∧
    ∀ audio, if 160 ≤ flow.stage.buffer.length then
        (flow.stage.processDownlink audio).2 = flow.stage.buffer.take 160 ∧
        (flow.stage.processDownlink audio).1.buffer = flow.stage.buffer.drop 160 ∧
        (flow.step (.processDownlink audio)).gone =
          flow.gone ++ [.emitted (flow.stage.buffer.take 160)]
      else flow.stage.processDownlink audio = (flow.stage, audio) := by
  obtain ⟨c, hc⟩ := flow_conveyor h
  refine ⟨?_, fun data => ?_, fun audio => ?_⟩
  · rw [hc.accepted, hc.gone, hc.buffer]
    exact c.conserved
  · have hbuffer := DownlinkStage.arrive_buffer (hc.buffer ▸ c.bounded) data
    refine ⟨?_, hbuffer, ?_⟩
    · rw [(hc.arrive data).gone, Conveyor.put_gone, ← hc.gone, ← hc.buffer]
    · rw [hbuffer]
      exact length_newest_le _ _
  · split
    · next hfull =>
      obtain ⟨hbuffer, hframe⟩ := DownlinkStage.processDownlink_full hfull audio
      have hfull' : 160 ≤ c.queue.length := by rwa [← hc.buffer]
      refine ⟨hframe, hbuffer, ?_⟩
      rw [(hc.emit hfull' audio).gone, Conveyor.emit_gone, ← hc.gone, ← hc.buffer]
    · next hshort => exact DownlinkStage.processDownlink_short hshort audio

/-- A run in which more arrives at once than there is room for, and a frame is taken. -/
theorem downlink_fifo_overfull :
    ∃ flow : Flow, machine.Reachable flow ∧
      flow.accepted = departedItems flow.gone ++ flow.stage.buffer := by
  have hinit : machine.Reachable ({ stage := .grpcBridge {} } : Flow) :=
    Machine.Reachable.init ⟨rfl, rfl⟩
  have harrive := hinit.next (e := .arrive (List.replicate 16001 0)) trivial rfl
  have hreach := harrive.next (e := .processDownlink []) trivial rfl
  exact ⟨_, hreach, (downlink_fifo hreach).1⟩

end Flow

end SipGateway
