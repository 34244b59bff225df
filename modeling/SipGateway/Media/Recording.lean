import SipGateway.Infra.Handoff
import SipGateway.Media.Recorder

/-!
# The threads of a recorder

`RecorderStage` as a hand-over through a queue: media threads call `processUplink` and
`processDownlink`, `workerLoop` writes the files, and the destructor stops the worker, joins it
and closes the files.

The worker and the media threads share the queue only, so `processChunk` may be looked at with an
empty queue.
-/

namespace SipGateway

open Infra

/-! ## Writing -/

namespace OutputFile

variable (file : OutputFile)

@[simp] theorem write_nil : file.write [] = file := by
  unfold write
  split <;> simp

theorem write_append (a b : Bytes) : (file.write a).write b = file.write (a ++ b) := by
  unfold write
  split <;> simp_all

@[simp] theorem write_isOpen (data : Bytes) : (file.write data).isOpen = file.isOpen := by
  unfold write
  split <;> rfl

@[simp] theorem write_path (data : Bytes) : (file.write data).path = file.path := by
  unfold write
  split <;> rfl

theorem write_content {file : OutputFile} (h : file.isOpen = true) (data : Bytes) :
    (file.write data).content = file.content ++ data := by
  unfold write
  rw [if_pos h]

theorem writeAt_length {file : OutputFile} {pos : Nat} {data : Bytes}
    (h : pos + data.length ≤ file.content.length) :
    (file.writeAt pos data).content.length = file.content.length := by
  unfold writeAt
  simp only [List.length_append, List.length_take, List.length_drop]
  omega

/-- What stands behind the place stays. -/
theorem writeAt_drop {file : OutputFile} {pos n : Nat} {data : Bytes}
    (h : pos ≤ file.content.length) (hn : pos + data.length ≤ n) :
    (file.writeAt pos data).content.drop n = file.content.drop n := by
  have hlen : (file.content.take pos ++ data).length = pos + data.length := by
    rw [List.length_append, List.length_take_of_le h]
  unfold writeAt
  rw [List.drop_append, List.drop_eq_nil_of_le (by omega), List.nil_append, hlen, List.drop_drop]
  congr 1
  omega

end OutputFile

theorem WavWriter.le_length (n v : Nat) : (le n v).length = n := by
  induction n generalizing v with
  | zero => rfl
  | succ n ih => rw [le, List.length_cons, ih]

/-- The sizes in the header are all that changes at the end. -/
theorem WavWriter.updateHeader_drop {file : OutputFile} (h : 44 ≤ file.content.length) :
    (updateHeader file).content.drop 44 = file.content.drop 44 := by
  unfold updateHeader
  rw [OutputFile.writeAt_drop, OutputFile.writeAt_drop]
  · omega
  · rw [le_length]
    omega
  · rw [OutputFile.writeAt_length]
    · omega
    · rw [le_length]
      omega
  · rw [le_length]

namespace RecorderStage

/-! ## The queue and the rest -/

/-- The stage with an empty queue: what the worker works on. -/
def withoutQueue (st : RecorderStage) : RecorderStage := { st with queue := [] }

/-- What a chunk leaves alone. -/
theorem processChunk_frame (st : RecorderStage) (chunk : Chunk) :
    (st.processChunk chunk).queue = st.queue ∧
      (st.processChunk chunk).recordingMode = st.recordingMode ∧
      (st.processChunk chunk).payloadType = st.payloadType ∧
      (st.processChunk chunk).mixedFile.isOpen = st.mixedFile.isOpen := by
  unfold processChunk flushDownlink flushUplink mixCommon
  grind [OutputFile.write_isOpen]

theorem processChunk_withoutQueue (st : RecorderStage) (chunk : Chunk) :
    (st.processChunk chunk).withoutQueue = st.withoutQueue.processChunk chunk := by
  unfold withoutQueue processChunk flushDownlink flushUplink mixCommon decode
  dsimp only
  grind

/-- One call of `processUplink` or `processDownlink`. -/
def process (st : RecorderStage) (chunk : Chunk) : RecorderStage :=
  if chunk.isUplink then st.processUplink chunk.data else st.processDownlink chunk.data

theorem process_eq {chunk : Chunk} (st : RecorderStage) (h : chunk.data.isEmpty = false) :
    st.process chunk = { st with queue := st.queue ++ [chunk] } := by
  obtain ⟨isUplink, data⟩ := chunk
  unfold process processUplink processDownlink enqueue
  rw [show data.isEmpty = false from h]
  cases isUplink <;> rfl

/-- `RecorderStage` and its threads. -/
def threads : Handoff RecorderStage Chunk where
  queue := RecorderStage.queue
  accepts chunk := !chunk.data.isEmpty
  push := process
  takeAll := withoutQueue
  handle := processChunk
  finish := close
  queue_push st chunk h := by rw [process_eq st (by simpa using h)]
  queue_takeAll _ := rfl
  queue_handle st chunk := (processChunk_frame st chunk).1
  queue_finish _ := rfl
  takeAll_push st chunk := by
    unfold process processUplink processDownlink enqueue withoutQueue
    split <;> split <;> rfl
  takeAll_takeAll _ := rfl
  takeAll_handle := processChunk_withoutQueue
  takeAll_of_empty st h := by
    unfold withoutQueue
    rw [← h]

end RecorderStage

end SipGateway
