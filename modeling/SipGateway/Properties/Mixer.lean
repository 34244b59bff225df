import SipGateway.Properties.Recording

/-!
# The mixer between two chunks

`mixer_invariant`: whatever chunks the worker has processed, one of the two buffers is empty,
neither holds more than a second, and what was written together with the buffers is all the audio
so far. `mixed_while_running` says so of every state of the threads.
-/

namespace SipGateway

open Infra

namespace RecorderStage

/-- No buffer holds more than a second. -/
structure Short (st : RecorderStage) : Prop where
  uplink : st.ulBuffer.length ≤ 8000
  downlink : st.dlBuffer.length ≤ 8000

theorem kept_length_le (buffer : List Int) : (kept buffer).length ≤ 8000 := by
  rw [kept_length]
  split
  · exact Nat.zero_le _
  · next h => exact Nat.not_lt.mp h

/-- What is too much is flushed before the next chunk. -/
theorem Mixing.short {st : RecorderStage} (h : st.Mixing) (chunk : Chunk) :
    (st.processChunk chunk).Short := by
  obtain ⟨-, hul, hdl⟩ := h.processChunk_fields chunk
  refine ⟨?_, ?_⟩
  · rw [hul]
    exact kept_length_le _
  · rw [hdl]
    exact kept_length_le _

theorem Short.foldl {st : RecorderStage} (hst : st.Short) (h : st.Mixing) (chunks : List Chunk) :
    (chunks.foldl RecorderStage.processChunk st).Short := by
  induction chunks generalizing st with
  | nil => exact hst
  | cons chunk chunks ih => exact ih (h.short chunk) (h.processChunk chunk)

/-- What the mixer has made of some chunks: the buffers, and a script of what was written. -/
structure Mixed (created : RecorderStage) (chunks : List Chunk) (st : RecorderStage)
    (script : List Contribution) : Prop where
  oneEmpty : st.ulBuffer = [] ∨ st.dlBuffer = []
  short : st.Short
  /-- every sample of the file is an uplink sample, a downlink sample or the sum of two -/
  written : st.mixedFile.content =
    created.mixedFile.content ++ pcmBytes (script.map Contribution.value)
  /-- the script takes the samples of either direction in order, and the buffer is the rest -/
  uplink : created.samplesOf true chunks = script.filterMap Contribution.ul? ++ st.ulBuffer
  downlink : created.samplesOf false chunks = script.filterMap Contribution.dl? ++ st.dlBuffer

section

variable {pathPrefix callId : Bytes} {payloadType : Int} {opens : Bytes → Bool}

/-- **The invariant of the mixer**, after any number of chunks of any size. -/
theorem mixer_invariant
    (hopen : opens (pathPrefix ++ bytes "/" ++ callId ++ bytes ".mixed.wav") = true)
    (chunks : List Chunk) :
    ∃ script, Mixed (create true pathPrefix callId payloadType opens) chunks
      (chunks.foldl RecorderStage.processChunk
        (create true pathPrefix callId payloadType opens)) script := by
  obtain ⟨hmix, -, hahead⟩ := @create_mixed pathPrefix callId payloadType opens hopen
  set created := create true pathPrefix callId payloadType opens
  obtain ⟨hulStart, hdlStart⟩ := hahead.eq_zero_iff.mp rfl
  have hshort : created.Short := ⟨by rw [hulStart]; decide, by rw [hdlStart]; decide⟩
  obtain ⟨hcontent, hul, hdl⟩ := hmix.journal_eq chunks
  rw [hulStart, List.nil_append] at hul
  rw [hdlStart, List.nil_append] at hdl
  refine ⟨created.journal chunks, ?_⟩
  exact
    { oneEmpty := (hahead.foldl hmix chunks).oneEmpty.imp List.length_eq_zero_iff.mp
        List.length_eq_zero_iff.mp
      short := hshort.foldl hmix chunks
      written := hcontent
      uplink := hul.symm
      downlink := hdl.symm }

/-- What a recorder has mixed whose queue aside is what the chunks have made of it. -/
theorem mixed_of_chunks
    (hopen : opens (pathPrefix ++ bytes "/" ++ callId ++ bytes ".mixed.wav") = true)
    {st : RecorderStage} {chunks : List Chunk}
    (hst : st.withoutQueue = chunks.foldl RecorderStage.processChunk
      (create true pathPrefix callId payloadType opens)) :
    ∃ script, Mixed (create true pathPrefix callId payloadType opens) chunks st script := by
  obtain ⟨hmix, -, hahead⟩ := @create_mixed pathPrefix callId payloadType opens hopen
  set created := create true pathPrefix callId payloadType opens
  obtain ⟨hulStart, hdlStart⟩ := hahead.eq_zero_iff.mp rfl
  have hshort : created.Short := ⟨by simp [hulStart], by simp [hdlStart]⟩
  have hahead' := hahead.foldl hmix chunks
  have hshort' := hshort.foldl hmix chunks
  have hjournal := hmix.journal_eq chunks
  rw [← hst] at hahead' hshort' hjournal
  obtain ⟨hcontent, hul, hdl⟩ := hjournal
  rw [hulStart, List.nil_append] at hul
  rw [hdlStart, List.nil_append] at hdl
  exact ⟨created.journal chunks, hahead'.oneEmpty.imp List.length_eq_zero_iff.mp
    List.length_eq_zero_iff.mp, ⟨hshort'.uplink, hshort'.downlink⟩, hcontent, hul.symm, hdl.symm⟩

/-- The same while the threads run: the chunks are those the worker is done with. -/
theorem mixed_while_running
    (hopen : opens (pathPrefix ++ bytes "/" ++ callId ++ bytes ".mixed.wav") = true)
    {s : HandoffState RecorderStage Chunk}
    (hs : Running (create true pathPrefix callId payloadType opens) s) (howner : s.owner ≠ .gone) :
    ∃ script, Mixed (create true pathPrefix callId payloadType opens) s.handled s.object
      script := by
  have hqueue : threads.queue (create true pathPrefix callId payloadType opens) = [] := by
    show (create true pathPrefix callId payloadType opens).queue = []
    simp [create]
  have hinv := Handoff.reachable_inv (H := threads) hqueue hs
  exact mixed_of_chunks hopen (hinv.content howner)

end

/-- Two samples of uplink and one of downlink: one is mixed, one waits. -/
theorem mixer_invariant_uneven :
    ∃ script, Mixed (create true (bytes "rec") (bytes "call") 0 fun _ => true)
      [⟨true, [1, 2]⟩, ⟨false, [3]⟩]
      ([⟨true, [1, 2]⟩, ⟨false, [3]⟩].foldl RecorderStage.processChunk
        (create true (bytes "rec") (bytes "call") 0 fun _ => true)) script :=
  mixer_invariant rfl _

end RecorderStage

end SipGateway
