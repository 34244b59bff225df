import SipGateway.Media.Recording

/-!
# What a recording holds

* `recorder_hand_off` — the worker processes every chunk once and in order, however it batches
* `recording_complete_iff` — when a mixed recording has all the audio

The samples of one direction wait in a buffer for those of the other, and what still waits at the
end is not written.
-/

namespace SipGateway

open Infra

namespace RecorderStage

/-! ## The hand-over -/

/-- The bytes of the chunks of one direction. -/
def audioOf (isUplink : Bool) (chunks : List Chunk) : Bytes :=
  (chunks.filter fun chunk => chunk.isUplink = isUplink).flatMap Chunk.data

theorem audioOf_cons (isUplink : Bool) (chunk : Chunk) (chunks : List Chunk) :
    audioOf isUplink (chunk :: chunks) =
      (if chunk.isUplink = isUplink then chunk.data else []) ++ audioOf isUplink chunks := by
  unfold audioOf
  by_cases h : chunk.isUplink = isUplink <;> simp [h]

/-- Raw mode: a chunk goes to the file of its direction. -/
theorem processChunk_raw {st : RecorderStage} (h : st.recordingMode = false) (chunk : Chunk) :
    (st.processChunk chunk).uplinkFile =
        st.uplinkFile.write (if chunk.isUplink = true then chunk.data else []) ∧
    (st.processChunk chunk).downlinkFile =
        st.downlinkFile.write (if chunk.isUplink = false then chunk.data else []) := by
  unfold processChunk
  rw [h, if_neg Bool.false_ne_true]
  cases hup : chunk.isUplink <;> simp

/-- All chunks: each file gets those of its direction, one behind the other. -/
theorem foldl_processChunk_raw (chunks : List Chunk) {st : RecorderStage}
    (h : st.recordingMode = false) :
    (chunks.foldl processChunk st).uplinkFile = st.uplinkFile.write (audioOf true chunks) ∧
    (chunks.foldl processChunk st).downlinkFile =
      st.downlinkFile.write (audioOf false chunks) := by
  induction chunks generalizing st with
  | nil => simp [audioOf]
  | cons chunk chunks ih =>
    obtain ⟨hup, hdown⟩ := processChunk_raw h chunk
    obtain ⟨ihup, ihdown⟩ := ih ((processChunk_frame st chunk).2.1.trans h)
    rw [List.foldl_cons, ihup, ihdown, hup, hdown, OutputFile.write_append,
      OutputFile.write_append, audioOf_cons, audioOf_cons]
    exact ⟨rfl, rfl⟩

/-- The states the threads of a recorder can reach. -/
def Running (created : RecorderStage) (s : HandoffState RecorderStage Chunk) : Prop :=
  (threads.machine created).Reachable s

/-- What holds while chunks are handed over, and when that is over. -/
structure HandsOver (created : RecorderStage) (s : HandoffState RecorderStage Chunk) : Prop where
  /-- processed, taken out, still in the queue: nothing is lost, doubled or out of order -/
  order : s.handled ++ (s.worker.batch ++ s.object.queue) = s.offered
  /-- the files and buffers are what the processed chunks make of them, whatever the batches -/
  files : s.owner ≠ .gone → s.object.withoutQueue = s.handled.foldl processChunk created
  exit : s.worker = .done → s.handled = s.offered ∧ s.object.queue = []
  destroyed : s.owner = .gone → s.worker = .done ∧
    s.object = (s.offered.foldl processChunk created).close
  raw : created.recordingMode = false → s.worker = .done →
    s.object.uplinkFile.content =
      (created.uplinkFile.write (audioOf true s.offered)).content ∧
    s.object.downlinkFile.content =
      (created.downlinkFile.write (audioOf false s.offered)).content
  /-- once the destructor is at its join, nobody goes on but the worker, and it returns -/
  join : s.owner = .joining → s.worker ≠ .done → ∀ e, threads.enabled s e = true ↔ e = .worker
  returns : s.owner = .joining → ∃ n t,
    (threads.machine created).replay s (List.replicate n .worker) = some t ∧ t.worker = .done

theorem create_queue (recordingMode : Bool) (pathPrefix callId : Bytes) (payloadType : Int)
    (opens : Bytes → Bool) :
    (create recordingMode pathPrefix callId payloadType opens).queue = [] := by
  unfold create
  split <;> rfl

/-- A stage that is destroyed has processed all that was offered, and closed its files. -/
theorem Running.object_of_gone {recordingMode : Bool} {pathPrefix callId : Bytes}
    {payloadType : Int} {opens : Bytes → Bool} {s : HandoffState RecorderStage Chunk}
    (hs : Running (create recordingMode pathPrefix callId payloadType opens) s)
    (hgone : s.owner = .gone) :
    s.worker = .done ∧ s.object = (s.offered.foldl processChunk
      (create recordingMode pathPrefix callId payloadType opens)).close := by
  have h := Handoff.reachable_inv (H := threads) (create_queue _ _ _ _ _) hs
  have hdone := h.joined (Or.inr hgone)
  exact ⟨hdone, h.handled_eq hdone ▸ h.finished hgone⟩

/--
**The hand-over loses and reorders nothing**, in every interleaving of the media threads, the
worker and the destructor.
-/
theorem recorder_hand_off (recordingMode : Bool) (pathPrefix callId : Bytes) (payloadType : Int)
    (opens : Bytes → Bool) {s : HandoffState RecorderStage Chunk}
    (hs : Running (create recordingMode pathPrefix callId payloadType opens) s) :
    HandsOver (create recordingMode pathPrefix callId payloadType opens) s := by
  have hdestroyed := hs.object_of_gone
  have h := Handoff.reachable_inv (H := threads) (create_queue _ _ _ _ _) hs
  set created := create recordingMode pathPrefix callId payloadType opens
  refine
    { order := h.order
      files := h.content
      exit := fun hdone => ⟨h.handled_eq hdone, (h.done hdone).2⟩
      destroyed := hdestroyed
      raw := fun hraw hdone => ?_
      join := fun howner hdone => (h.joining howner hdone).1
      returns := fun howner => ?_ }
  · obtain ⟨hup, hdown⟩ := foldl_processChunk_raw s.offered hraw
    rw [← hup, ← hdown]
    by_cases hgone : s.owner = .gone
    · rw [(hdestroyed hgone).2]
      exact ⟨rfl, rfl⟩
    · have hfiles : s.object.withoutQueue = s.offered.foldl processChunk created :=
        h.handled_eq hdone ▸ h.content hgone
      rw [← hfiles]
      exact ⟨rfl, rfl⟩
  · obtain ⟨n, t, hreplay, -, hdone⟩ := h.drains howner
    exact ⟨n, t, hreplay, hdone⟩

/-- The media threads hand over some chunks, one after the other; the worker is not quick. -/
def handOver (chunks : List Chunk) : List (HandoffEvent Chunk) :=
  chunks.flatMap fun chunk => [.offer chunk, .producer, .producer, .producer]

/-- The destructor, the worker up to its return, and the end of the destructor. -/
def shutDown (n : Nat) : List (HandoffEvent Chunk) :=
  [.destroy, .owner, .owner, .owner, .owner] ++ List.replicate n .worker ++ [.owner, .owner]

/-- The state at the end of a run, if the events can happen in that order. -/
def recorded (created : RecorderStage) (es : List (HandoffEvent Chunk)) :
    Option (HandoffState RecorderStage Chunk) :=
  (threads.machine created).replay { object := created } es

theorem recorded_running {created : RecorderStage} {es : List (HandoffEvent Chunk)}
    {s : HandoffState RecorderStage Chunk} (h : recorded created es = some s) :
    Running created s :=
  Machine.replay_reach es (fun _ _ _ => trivial) (Machine.Reach.init rfl) h

theorem exists_recorded {created : RecorderStage} {es : List (HandoffEvent Chunk)}
    {p : HandoffState RecorderStage Chunk → Bool} (h : (recorded created es).any p = true) :
    ∃ s, Running created s ∧ p s = true := by
  cases hs : recorded created es with
  | none => rw [hs] at h; cases h
  | some s => exact ⟨s, recorded_running hs, by rwa [hs] at h⟩

/-- The worker sleeps, is woken for the first of two chunks and takes both out at once. -/
theorem recorder_hand_off_raw :
    ∃ s, s.owner = .gone ∧ s.object.uplinkFile.content = [1, 2] ∧
      HandsOver (create false (bytes "rec") (bytes "call") 0 fun _ => true) s := by
  obtain ⟨s, hs, hp⟩ := @exists_recorded (create false (bytes "rec") (bytes "call") 0 fun _ => true)
    ([.worker, .worker] ++ handOver [⟨true, [1, 2]⟩, ⟨false, [3]⟩] ++ shutDown 11)
    (fun s => s.owner = .gone ∧ s.object.uplinkFile.content = [1, 2]) (by decide +kernel)
  obtain ⟨hgone, hcontent⟩ := of_decide_eq_true hp
  exact ⟨s, hgone, hcontent, recorder_hand_off _ _ _ _ _ hs⟩

end RecorderStage

/-! ## The mix -/

/-- What a written sample was made of. -/
inductive Contribution where
  | both (ul dl : Int)
  | uplink (ul : Int)
  | downlink (dl : Int)
deriving DecidableEq, Repr

namespace Contribution

/-- The sample that is written: two make a sum, cut to 16 bits. -/
def value : Contribution → Int
  | .both ul dl => clampInt16 (ul + dl)
  | .uplink ul => ul
  | .downlink dl => dl

def ul? : Contribution → Option Int
  | .both ul _ | .uplink ul => some ul
  | .downlink _ => none

def dl? : Contribution → Option Int
  | .both _ dl | .downlink dl => some dl
  | .uplink _ => none

end Contribution

namespace RecorderStage

/-- The stage with the samples of a chunk in their buffer. -/
def buffered (st : RecorderStage) (chunk : Chunk) : RecorderStage :=
  if chunk.isUplink then { st with ulBuffer := st.ulBuffer ++ st.decode chunk.data }
  else { st with dlBuffer := st.dlBuffer ++ st.decode chunk.data }

/-- What `processChunk` makes the samples of that it writes. -/
def contributions (st : RecorderStage) (chunk : Chunk) : List Contribution :=
  let st := st.buffered chunk
  let mixed := st.mixCommon
  List.zipWith Contribution.both st.ulBuffer st.dlBuffer ++
    (if mixed.ulBuffer.length > 8000 then mixed.ulBuffer.map Contribution.uplink else []) ++
    (if mixed.dlBuffer.length > 8000 then mixed.dlBuffer.map Contribution.downlink else [])

/-- The contributions of one chunk after the other. -/
def journal (st : RecorderStage) : List Chunk → List Contribution
  | [] => []
  | chunk :: chunks => st.contributions chunk ++ (st.processChunk chunk).journal chunks

/-- A stage in mixed mode with its file open. -/
structure Mixing (st : RecorderStage) : Prop where
  mode : st.recordingMode = true
  isOpen : st.mixedFile.isOpen = true

theorem Mixing.processChunk_eq {st : RecorderStage} (h : st.Mixing) (chunk : Chunk) :
    st.processChunk chunk = (st.buffered chunk).mixCommon.flushUplink.flushDownlink := by
  unfold processChunk
  rw [if_pos h.mode, if_pos h.isOpen]
  rfl

theorem Mixing.processChunk {st : RecorderStage} (h : st.Mixing) (chunk : Chunk) :
    (st.processChunk chunk).Mixing := by
  obtain ⟨-, hmode, -, hopen⟩ := processChunk_frame st chunk
  exact ⟨hmode.trans h.mode, hopen.trans h.isOpen⟩

theorem Mixing.foldl {st : RecorderStage} (h : st.Mixing) (chunks : List Chunk) :
    (chunks.foldl RecorderStage.processChunk st).Mixing := by
  induction chunks generalizing st with
  | nil => exact h
  | cons chunk chunks ih => exact ih (h.processChunk chunk)

theorem pcmBytes_append (a b : List Int) : pcmBytes (a ++ b) = pcmBytes a ++ pcmBytes b :=
  List.flatMap_append

section Flush

variable (st : RecorderStage)

/-- What is too much for a buffer, and what is not. -/
def overflowing (buffer : List Int) : List Int := if buffer.length > 8000 then buffer else []

def kept (buffer : List Int) : List Int := if buffer.length > 8000 then [] else buffer

theorem overflowing_append_kept (buffer : List Int) :
    overflowing buffer ++ kept buffer = buffer := by
  unfold overflowing kept
  split <;> simp

theorem flushUplink_eq : st.flushUplink =
    { st with
      mixedFile := st.mixedFile.write (pcmBytes (overflowing st.ulBuffer))
      ulBuffer := kept st.ulBuffer } := by
  unfold flushUplink overflowing kept
  split
  · rfl
  · simp [pcmBytes]

theorem flushDownlink_eq : st.flushDownlink =
    { st with
      mixedFile := st.mixedFile.write (pcmBytes (overflowing st.dlBuffer))
      dlBuffer := kept st.dlBuffer } := by
  unfold flushDownlink overflowing kept
  split
  · rfl
  · simp [pcmBytes]

end Flush

/-- The three writes of a chunk, and what is left in the buffers. -/
theorem Mixing.processChunk_fields {st : RecorderStage} (h : st.Mixing) (chunk : Chunk) :
    let ul := (st.buffered chunk).ulBuffer
    let dl := (st.buffered chunk).dlBuffer
    let mixLen := min ul.length dl.length
    (st.processChunk chunk).mixedFile = st.mixedFile.write
        (pcmBytes (List.zipWith mixSample ul dl ++ overflowing (ul.drop mixLen) ++
          overflowing (dl.drop mixLen))) ∧
      (st.processChunk chunk).ulBuffer = kept (ul.drop mixLen) ∧
      (st.processChunk chunk).dlBuffer = kept (dl.drop mixLen) := by
  have hfile : (st.buffered chunk).mixedFile = st.mixedFile := by
    unfold buffered
    split <;> rfl
  rw [h.processChunk_eq, flushDownlink_eq, flushUplink_eq]
  unfold mixCommon
  dsimp only
  rw [hfile, OutputFile.write_append, OutputFile.write_append, pcmBytes_append, pcmBytes_append,
    List.append_assoc]
  exact ⟨rfl, rfl, rfl⟩

theorem contributions_eq (st : RecorderStage) (chunk : Chunk) :
    let ul := (st.buffered chunk).ulBuffer
    let dl := (st.buffered chunk).dlBuffer
    let mixLen := min ul.length dl.length
    st.contributions chunk = List.zipWith Contribution.both ul dl ++
      (overflowing (ul.drop mixLen)).map Contribution.uplink ++
      (overflowing (dl.drop mixLen)).map Contribution.downlink := by
  unfold contributions mixCommon overflowing
  dsimp only
  split <;> split <;> simp

/-- The worker decodes as the payload type says. -/
theorem decode_eq (st : RecorderStage) (data : Bytes) :
    st.decode data = G711Utils.samples st.payloadType data := rfl

/-- The file grows by the contributions. -/
theorem Mixing.content {st : RecorderStage} (h : st.Mixing) (chunk : Chunk) :
    (st.processChunk chunk).mixedFile.content =
      st.mixedFile.content ++ pcmBytes ((st.contributions chunk).map Contribution.value) := by
  rw [(h.processChunk_fields chunk).1, OutputFile.write_content h.isOpen, contributions_eq]
  simp only [List.map_append, List.map_map, List.map_zipWith]
  rw [show Contribution.value ∘ Contribution.uplink = id from rfl,
    show Contribution.value ∘ Contribution.downlink = id from rfl, List.map_id, List.map_id]
  rfl

theorem filterMap_zipWith_both (ul dl : List Int) :
    (List.zipWith Contribution.both ul dl).filterMap Contribution.ul? =
        ul.take (min ul.length dl.length) ∧
      (List.zipWith Contribution.both ul dl).filterMap Contribution.dl? =
        dl.take (min ul.length dl.length) := by
  induction ul generalizing dl with
  | nil => simp
  | cons u ul ih =>
    cases dl with
    | nil => simp
    | cons d dl =>
      have := ih dl
      simp only [List.length_cons, Nat.add_min_add_right, List.take_succ_cons,
        List.zipWith_cons_cons, List.filterMap_cons, Contribution.ul?, Contribution.dl?, this,
        and_self]

theorem filterMap_map_uplink (ul : List Int) :
    (ul.map Contribution.uplink).filterMap Contribution.ul? = ul ∧
      (ul.map Contribution.uplink).filterMap Contribution.dl? = [] := by
  induction ul with
  | nil => simp
  | cons v ul ih => simp [Contribution.ul?, Contribution.dl?, ih]

theorem filterMap_map_downlink (dl : List Int) :
    (dl.map Contribution.downlink).filterMap Contribution.ul? = [] ∧
      (dl.map Contribution.downlink).filterMap Contribution.dl? = dl := by
  induction dl with
  | nil => simp
  | cons v dl ih => simp [Contribution.ul?, Contribution.dl?, ih]

/-- Samples of either direction, waiting or new, are written or wait on. -/
theorem Mixing.samples {st : RecorderStage} (h : st.Mixing) (chunk : Chunk) :
    let new := G711Utils.samples st.payloadType chunk.data
    (st.contributions chunk).filterMap Contribution.ul? ++ (st.processChunk chunk).ulBuffer =
        st.ulBuffer ++ (if chunk.isUplink = true then new else []) ∧
      (st.contributions chunk).filterMap Contribution.dl? ++ (st.processChunk chunk).dlBuffer =
        st.dlBuffer ++ (if chunk.isUplink = false then new else []) := by
  intro new
  have hul : (st.buffered chunk).ulBuffer =
      st.ulBuffer ++ (if chunk.isUplink = true then new else []) := by
    unfold buffered
    split <;> simp [decode_eq, new, *]
  have hdl : (st.buffered chunk).dlBuffer =
      st.dlBuffer ++ (if chunk.isUplink = false then new else []) := by
    unfold buffered
    split <;> simp [decode_eq, new, *]
  obtain ⟨-, hul', hdl'⟩ := h.processChunk_fields chunk
  rw [hul', hdl', ← hul, ← hdl, contributions_eq]
  obtain ⟨hbothUl, hbothDl⟩ :=
    filterMap_zipWith_both (st.buffered chunk).ulBuffer (st.buffered chunk).dlBuffer
  rw [List.filterMap_append, List.filterMap_append, List.filterMap_append, List.filterMap_append,
    hbothUl, hbothDl, (filterMap_map_uplink _).1, (filterMap_map_uplink _).2,
    (filterMap_map_downlink _).1, (filterMap_map_downlink _).2, List.append_nil, List.append_nil,
    List.append_assoc, List.append_assoc, overflowing_append_kept, overflowing_append_kept,
    List.take_append_drop, List.take_append_drop]
  exact ⟨rfl, rfl⟩

/-! ## The samples of a whole run -/

/-- The samples that the audio of one direction stands for. -/
def samplesOf (st : RecorderStage) (isUplink : Bool) (chunks : List Chunk) : List Int :=
  G711Utils.samples st.payloadType (audioOf isUplink chunks)

/-- **Every sample is written once and in order, or still waits**, after any chunks. -/
theorem Mixing.journal_eq {st : RecorderStage} (h : st.Mixing) (chunks : List Chunk) :
    (chunks.foldl RecorderStage.processChunk st).mixedFile.content =
        st.mixedFile.content ++ pcmBytes ((st.journal chunks).map Contribution.value) ∧
      (st.journal chunks).filterMap Contribution.ul? ++
          (chunks.foldl RecorderStage.processChunk st).ulBuffer =
        st.ulBuffer ++ st.samplesOf true chunks ∧
      (st.journal chunks).filterMap Contribution.dl? ++
          (chunks.foldl RecorderStage.processChunk st).dlBuffer =
        st.dlBuffer ++ st.samplesOf false chunks := by
  unfold samplesOf
  induction chunks generalizing st with
  | nil =>
    have hnone : G711Utils.samples st.payloadType [] = [] :=
      List.length_eq_zero_iff.mp (G711Utils.length_samples _ [])
    simp [journal, audioOf, hnone, pcmBytes]
  | cons chunk chunks ih =>
    obtain ⟨ihcontent, ihul, ihdl⟩ := ih (h.processChunk chunk)
    obtain ⟨hul, hdl⟩ := h.samples chunk
    obtain ⟨-, -, hpayload, -⟩ := processChunk_frame st chunk
    rw [hpayload] at ihul ihdl
    rw [List.foldl_cons, journal, audioOf_cons, audioOf_cons, G711Utils.samples_append,
      G711Utils.samples_append, G711Utils.samples_ite, G711Utils.samples_ite, ihcontent, h.content]
    refine ⟨?_, ?_, ?_⟩
    · rw [List.map_append, pcmBytes_append, List.append_assoc]
    · rw [List.filterMap_append, List.append_assoc, ihul, ← List.append_assoc, hul,
        List.append_assoc]
    · rw [List.filterMap_append, List.append_assoc, ihdl, ← List.append_assoc, hdl,
        List.append_assoc]

/-! ## What waits -/

/--
How far the uplink is ahead of the downlink, in samples. A direction that is more than a second
ahead is written, and nobody is ahead any more.
-/
def balanceStep (z : Int) (chunk : Chunk) : Int :=
  let z := if chunk.isUplink then z + chunk.data.length else z - chunk.data.length
  if z > 8000 ∨ z < -8000 then 0 else z

def balance (chunks : List Chunk) : Int := chunks.foldl balanceStep 0

/-- One of the buffers is empty, and the other tells who is ahead. -/
structure Ahead (st : RecorderStage) (z : Int) : Prop where
  difference : (st.ulBuffer.length : Int) - st.dlBuffer.length = z
  oneEmpty : st.ulBuffer.length = 0 ∨ st.dlBuffer.length = 0

theorem kept_length (buffer : List Int) :
    (kept buffer).length = if buffer.length > 8000 then 0 else buffer.length := by
  unfold kept
  split <;> rfl

theorem Ahead.processChunk {st : RecorderStage} {z : Int} (hz : st.Ahead z) (h : st.Mixing)
    (chunk : Chunk) : (st.processChunk chunk).Ahead (balanceStep z chunk) := by
  have hul : (st.buffered chunk).ulBuffer.length =
      st.ulBuffer.length + if chunk.isUplink = true then chunk.data.length else 0 := by
    unfold buffered
    split <;> simp [decode_eq, *]
  have hdl : (st.buffered chunk).dlBuffer.length =
      st.dlBuffer.length + if chunk.isUplink = true then 0 else chunk.data.length := by
    unfold buffered
    split <;> simp [decode_eq, *]
  obtain ⟨-, hul', hdl'⟩ := h.processChunk_fields chunk
  obtain ⟨hdifference, hempty⟩ := hz
  have hlen : (st.processChunk chunk).ulBuffer.length = _ := congrArg List.length hul'
  have hlen' : (st.processChunk chunk).dlBuffer.length = _ := congrArg List.length hdl'
  rw [kept_length, List.length_drop, hul, hdl] at hlen hlen'
  refine ⟨?_, ?_⟩
  · rw [hlen, hlen']
    unfold balanceStep
    subst hdifference
    grind
  · rw [hlen, hlen']
    grind

theorem Ahead.foldl {st : RecorderStage} {z : Int} (hz : st.Ahead z) (h : st.Mixing)
    (chunks : List Chunk) :
    (chunks.foldl RecorderStage.processChunk st).Ahead (chunks.foldl balanceStep z) := by
  induction chunks generalizing st z with
  | nil => exact hz
  | cons chunk chunks ih => exact ih (hz.processChunk h chunk) (h.processChunk chunk)

theorem Ahead.eq_zero_iff {st : RecorderStage} {z : Int} (hz : st.Ahead z) :
    z = 0 ↔ st.ulBuffer = [] ∧ st.dlBuffer = [] := by
  rw [← List.length_eq_zero_iff, ← List.length_eq_zero_iff]
  have := hz.difference
  have := hz.oneEmpty
  omega

/-! ## The finished recording -/

/-- The mixed recording has every sample of either direction, in order. -/
structure Complete (created : RecorderStage) (s : HandoffState RecorderStage Chunk) : Prop where
  written : s.object.mixedFile.content.drop 44 =
    pcmBytes ((created.journal s.offered).map Contribution.value)
  uplinks : (created.journal s.offered).filterMap Contribution.ul? =
    created.samplesOf true s.offered
  downlinks : (created.journal s.offered).filterMap Contribution.dl? =
    created.samplesOf false s.offered

/-- The destructor writes the sizes and closes the file. -/
theorem Mixing.close_content {st : RecorderStage} (h : st.Mixing) :
    st.close.mixedFile.content = (WavWriter.updateHeader st.mixedFile).content := by
  unfold close
  dsimp only
  rw [if_pos h.isOpen]
  rfl

section Finished

variable {pathPrefix callId : Bytes} {payloadType : Int} {opens : Bytes → Bool}

/-- In mixed mode the constructor opens one file and writes the header. -/
theorem create_mixed
    (hopen : opens (pathPrefix ++ bytes "/" ++ callId ++ bytes ".mixed.wav") = true) :
    (create true pathPrefix callId payloadType opens).Mixing ∧
      (create true pathPrefix callId payloadType opens).mixedFile.content =
        WavWriter.header 8000 1 16 ∧
      (create true pathPrefix callId payloadType opens).Ahead 0 := by
  unfold create
  rw [if_pos rfl]
  exact ⟨⟨rfl, (OutputFile.write_isOpen _ _).trans hopen⟩,
    OutputFile.write_content (by exact hopen) _, ⟨rfl, Or.inl rfl⟩⟩

/--
**When a mixed recording has all the audio**: when nobody is ahead at the end.

What was written is always what the journal says; a sample that still waits when the stage is
destroyed is in no contribution.
-/
theorem recording_complete_iff
    (hopen : opens (pathPrefix ++ bytes "/" ++ callId ++ bytes ".mixed.wav") = true)
    {s : HandoffState RecorderStage Chunk}
    (hs : Running (create true pathPrefix callId payloadType opens) s) (hgone : s.owner = .gone) :
    Complete (create true pathPrefix callId payloadType opens) s ↔ balance s.offered = 0 := by
  obtain ⟨hmix, hheader, hahead⟩ := @create_mixed pathPrefix callId payloadType opens hopen
  obtain ⟨-, hobject⟩ := hs.object_of_gone hgone
  set created := create true pathPrefix callId payloadType opens
  obtain ⟨hcontent, hul, hdl⟩ := hmix.journal_eq s.offered
  obtain ⟨hulStart, hdlStart⟩ := hahead.eq_zero_iff.mp rfl
  rw [hulStart, List.nil_append] at hul
  rw [hdlStart, List.nil_append] at hdl
  rw [balance, (hahead.foldl hmix s.offered).eq_zero_iff]
  constructor
  · intro h
    rw [h.uplinks] at hul
    rw [h.downlinks] at hdl
    exact ⟨List.append_right_eq_self.mp hul, List.append_right_eq_self.mp hdl⟩
  · rintro ⟨hulEnd, hdlEnd⟩
    rw [hulEnd, List.append_nil] at hul
    rw [hdlEnd, List.append_nil] at hdl
    refine ⟨?_, hul, hdl⟩
    have hlen : (WavWriter.header 8000 1 16).length = 44 := by decide
    rw [hobject, (hmix.foldl s.offered).close_content, WavWriter.updateHeader_drop, hcontent,
      hheader, ← hlen, List.drop_left]
    rw [hcontent, hheader, List.length_append, hlen]
    exact Nat.le_add_right _ _

end Finished

/-- As much uplink as downlink: nothing is lost. -/
theorem recording_complete_iff_balanced :
    ∃ s, Running (create true (bytes "rec") (bytes "call") 0 fun _ => true) s ∧
      s.owner = .gone ∧ s.offered = [⟨true, [1, 2]⟩, ⟨false, [3, 4]⟩] ∧
      Complete (create true (bytes "rec") (bytes "call") 0 fun _ => true) s := by
  obtain ⟨s, hs, hp⟩ := @exists_recorded (create true (bytes "rec") (bytes "call") 0 fun _ => true)
    (handOver [⟨true, [1, 2]⟩, ⟨false, [3, 4]⟩] ++ shutDown 11)
    (fun s => s.owner = .gone ∧ s.offered = [⟨true, [1, 2]⟩, ⟨false, [3, 4]⟩]) (by decide +kernel)
  obtain ⟨hgone, hoffered⟩ := of_decide_eq_true hp
  refine ⟨s, hs, hgone, hoffered, (recording_complete_iff rfl hs hgone).mpr ?_⟩
  rw [hoffered]
  decide +kernel

/-- Two samples of uplink and none of downlink: the recording is empty. -/
theorem one_way_lost :
    ∃ s, Running (create true (bytes "rec") (bytes "call") 0 fun _ => true) s ∧
      s.owner = .gone ∧ s.offered = [⟨true, [1, 2]⟩] ∧
      s.object.mixedFile.content.length = 44 ∧
      ¬ Complete (create true (bytes "rec") (bytes "call") 0 fun _ => true) s := by
  obtain ⟨s, hs, hp⟩ := @exists_recorded (create true (bytes "rec") (bytes "call") 0 fun _ => true)
    (handOver [⟨true, [1, 2]⟩] ++ shutDown 10)
    (fun s => s.owner = .gone ∧ s.offered = [⟨true, [1, 2]⟩] ∧
      s.object.mixedFile.content.length = 44) (by decide +kernel)
  obtain ⟨hgone, hoffered, hlen⟩ := of_decide_eq_true hp
  refine ⟨s, hs, hgone, hoffered, hlen, fun h => ?_⟩
  have huplinks := h.uplinks
  rw [hoffered] at huplinks
  revert huplinks
  decide +kernel

end RecorderStage

end SipGateway
