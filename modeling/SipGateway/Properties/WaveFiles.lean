import SipGateway.Media.Wave
import SipGateway.Properties.Recording

/-!
# Recordings are wave files

* `wave_wellFormed` — header, blocks of samples, sizes: a player reads the samples back
* `recording_wellFormed` — so it does from a recording, when the threads are done
-/

namespace SipGateway

open Infra

/-- What a player should read: one channel of 16-bit samples, 8000 of them a second. -/
def WaveFile.telephone (samples : List Int) : WaveFile where
  riffSize := 36 + 2 * samples.length
  audioFormat := 1
  channels := 1
  sampleRate := 8000
  byteRate := 16000
  blockAlign := 2
  bitsPerSample := 16
  dataSize := 2 * samples.length
  samples := samples

namespace WavWriter

/-- A player reads the samples off a finished file. -/
theorem decode_updateHeader {file : OutputFile} {pcm : List Int}
    (hcontent : file.content = header 8000 1 16 ++ pcmBytes pcm)
    (hpcm : ∀ v ∈ pcm, -32768 ≤ v ∧ v ≤ 32767) (hsize : 44 + 2 * pcm.length < 4294967296) :
    WaveFile.decode (updateHeader file).content = some (WaveFile.telephone pcm) := by
  have hlen := length_pcmBytes pcm
  have hsize' : 44 + (pcmBytes pcm).length < 4294967296 := by rwa [hlen]
  have heven : (pcmBytes pcm).length % 2 = 0 := by omega
  have hdata : (waveChunk 8000 1 16 _ hsize' heven).data.length = 36 + 2 * pcm.length := by
    rw [waveChunk]
    dsimp only
    rw [chunks_encode _ _ _ hsize' heven, length_chunks, hlen]
  unfold WaveFile.decode
  rw [updateHeader_encode hcontent hsize' heven, RiffFile.decode_encode rfl rfl rfl]
  dsimp only
  have hfmt : (fmtChunk 8000 1 16).data =
      [1, 0, 1, 0, 0x40, 0x1F, 0, 0, 0x80, 0x3E, 0, 0, 2, 0, 16, 0] := by decide
  have hpcmData : (dataChunk (pcmBytes pcm) hsize').data = pcmBytes pcm := rfl
  rw [if_pos ⟨rfl, rfl, length_fmtChunk_data 8000 1 16, rfl⟩, hdata, hfmt, hpcmData, hlen,
    pcmOfBytes_pcmBytes hpcm]
  rfl

theorem writeBlocks_content {file : OutputFile} (hopen : file.isOpen = true)
    (blocks : List (List Int16)) :
    (writeBlocks file blocks).content =
      file.content ++ pcmBytes (blocks.flatten.map Int16.toInt) := by
  induction blocks generalizing file with
  | nil => simp [writeBlocks, pcmBytes]
  | cons block blocks ih =>
    have hnext : (file.write (pcmBytes (block.map Int16.toInt))).isOpen = true := by
      rw [OutputFile.write_isOpen, hopen]
    rw [writeBlocks, List.foldl_cons]
    show (writeBlocks _ blocks).content = _
    rw [ih hnext, OutputFile.write_content hopen, List.flatten_cons, List.map_append,
      RecorderStage.pcmBytes_append, List.append_assoc]

/--
**A finished file is well formed.**

Whatever blocks of samples are written behind the header, a player finds the sizes right and reads
the samples in order.
-/
theorem wave_wellFormed (path : Bytes) (blocks : List (List Int16))
    (hsize : 44 + 2 * blocks.flatten.length < 4294967296) :
    let file := updateHeader (writeBlocks
      (({ path := path, isOpen := true } : OutputFile).write (header 8000 1 16)) blocks)
    WaveFile.decode file.content =
      some
        { riffSize := file.content.length - 8
          audioFormat := 1
          channels := 1
          sampleRate := 8000
          byteRate := 16000
          blockAlign := 2
          bitsPerSample := 16
          dataSize := 2 * blocks.flatten.length
          samples := blocks.flatten.map Int16.toInt } := by
  set opened := ({ path := path, isOpen := true } : OutputFile).write (header 8000 1 16)
  have hopened : opened.isOpen = true := rfl
  have hcontent : (writeBlocks opened blocks).content =
      header 8000 1 16 ++ pcmBytes (blocks.flatten.map Int16.toInt) :=
    writeBlocks_content hopened blocks
  have hrange : ∀ v ∈ blocks.flatten.map Int16.toInt, -32768 ≤ v ∧ v ≤ 32767 := by
    intro v hv
    obtain ⟨sample, -, rfl⟩ := List.mem_map.mp hv
    exact ⟨sample.le_toInt, Int.le_of_lt_add_one sample.toInt_lt⟩
  have hlen : (updateHeader (writeBlocks opened blocks)).content.length =
      44 + 2 * blocks.flatten.length := by
    have hbytes : (writeBlocks opened blocks).content.length = 44 + 2 * blocks.flatten.length := by
      rw [hcontent, List.length_append, length_header, length_pcmBytes, List.length_map]
    rw [updateHeader_length (by omega), hbytes]
  have hdecode := decode_updateHeader hcontent hrange (by rwa [List.length_map])
  dsimp only
  rw [hdecode, hlen, WaveFile.telephone, List.length_map, Nat.sub_add_comm (by decide)]

theorem wave_wellFormed_two_blocks :
    WaveFile.decode (updateHeader (writeBlocks
      (({ path := bytes "a.wav", isOpen := true } : OutputFile).write (header 8000 1 16))
      [[1, -2], [3]])).content =
        some (WaveFile.telephone [1, -2, 3]) :=
  wave_wellFormed (bytes "a.wav") [[1, -2], [3]] (by decide)

end WavWriter

namespace RecorderStage

/-! ## Recordings -/

/-- What is written fits into 16 bits: a decoded sample does, and a sum is cut. -/
theorem Mixing.journal_mem {st : RecorderStage} (h : st.Mixing) (hul : st.ulBuffer = [])
    (hdl : st.dlBuffer = []) (chunks : List Chunk) :
    ∀ v ∈ (st.journal chunks).map Contribution.value, -32768 ≤ v ∧ v ≤ 32767 := by
  obtain ⟨-, huplink, hdownlink⟩ := h.journal_eq chunks
  rw [hul, List.nil_append] at huplink
  rw [hdl, List.nil_append] at hdownlink
  intro v hv
  obtain ⟨c, hc, rfl⟩ := List.mem_map.mp hv
  cases c with
  | both ul dl => exact clampInt16_mem _
  | uplink ul =>
    refine G711Utils.samples_mem st.payloadType (audioOf true chunks) ul ?_
    show ul ∈ st.samplesOf true chunks
    rw [← huplink]
    exact List.mem_append_left _ (List.mem_filterMap.mpr ⟨_, hc, rfl⟩)
  | downlink dl =>
    refine G711Utils.samples_mem st.payloadType (audioOf false chunks) dl ?_
    show dl ∈ st.samplesOf false chunks
    rw [← hdownlink]
    exact List.mem_append_left _ (List.mem_filterMap.mpr ⟨_, hc, rfl⟩)

/-- A recording is a wave file once the stage is destroyed, with the samples of its journal. -/
theorem recording_wellFormed {pathPrefix callId : Bytes} {payloadType : Int}
    {opens : Bytes → Bool}
    (hopen : opens (pathPrefix ++ bytes "/" ++ callId ++ bytes ".mixed.wav") = true)
    {s : HandoffState RecorderStage Chunk}
    (hs : Running (create true pathPrefix callId payloadType opens) s) (hgone : s.owner = .gone)
    (hsize : s.object.mixedFile.content.length < 4294967296) :
    WaveFile.decode s.object.mixedFile.content = some (WaveFile.telephone
      (((create true pathPrefix callId payloadType opens).journal s.offered).map
        Contribution.value)) := by
  obtain ⟨hmix, hheader, hahead⟩ := @create_mixed pathPrefix callId payloadType opens hopen
  obtain ⟨-, hobject⟩ := hs.object_of_gone hgone
  set created := create true pathPrefix callId payloadType opens
  obtain ⟨hul, hdl⟩ := hahead.eq_zero_iff.mp rfl
  obtain ⟨hcontent, -, -⟩ := hmix.journal_eq s.offered
  rw [hheader] at hcontent
  set samples := (created.journal s.offered).map Contribution.value with hsamples
  have hlen : (s.offered.foldl RecorderStage.processChunk created).mixedFile.content.length =
      44 + 2 * samples.length := by
    rw [hcontent, List.length_append, WavWriter.length_header, length_pcmBytes]
  rw [hobject, (hmix.foldl s.offered).close_content] at hsize ⊢
  rw [WavWriter.updateHeader_length (by omega), hlen] at hsize
  exact WavWriter.decode_updateHeader hcontent (hmix.journal_mem hul hdl s.offered) hsize

end RecorderStage

end SipGateway
