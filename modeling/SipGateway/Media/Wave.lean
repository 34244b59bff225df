import SipGateway.Infra.Riff
import SipGateway.Media.Recording

/-!
# Wave files

What a player makes of a file of PCM samples (`WaveFile.decode`), and what `WavWriter` makes: the
header, the samples and the two sizes written into the header are the encoding of one `RIFF` chunk
(`updateHeader_encode`).
-/

namespace SipGateway

open Infra

/-- What a wave file says about its samples, and the samples. -/
structure WaveFile where
  riffSize : Nat
  audioFormat : Nat
  channels : Nat
  sampleRate : Nat
  byteRate : Nat
  blockAlign : Nat
  bitsPerSample : Nat
  dataSize : Nat
  samples : List Int
deriving DecidableEq

/--
Reads a canonical file: a `RIFF` chunk of the form `WAVE` that fills the file, and in it a `fmt `
chunk of 16 bytes, a `data` chunk of 16-bit samples, and nothing else.

The sizes are those the file gives; a chunk with another size is not read.
-/
def WaveFile.decode (file : Bytes) : Option WaveFile :=
  match RiffFile.decode file with
  | some { size, form, chunks := [fmt, data] } =>
    if form = bytes "WAVE" ∧ fmt.id = bytes "fmt " ∧ fmt.data.length = 16 ∧
        data.id = bytes "data" then
      some
        { riffSize := size
          audioFormat := leValue (fmt.data.take 2)
          channels := leValue ((fmt.data.drop 2).take 2)
          sampleRate := leValue ((fmt.data.drop 4).take 4)
          byteRate := leValue ((fmt.data.drop 8).take 4)
          blockAlign := leValue ((fmt.data.drop 12).take 2)
          bitsPerSample := leValue ((fmt.data.drop 14).take 2)
          dataSize := data.data.length
          samples := pcmOfBytes data.data }
    else none
  | _ => none

/-- What stands at a place is replaced by as many bytes. -/
theorem OutputFile.writeAt_middle {file : OutputFile} {before old after data : Bytes}
    (hcontent : file.content = before ++ (old ++ after)) (hlen : old.length = data.length) :
    (file.writeAt before.length data).content = before ++ (data ++ after) := by
  have hskip : (before ++ old).length = before.length + data.length := by
    rw [List.length_append, hlen]
  unfold writeAt
  dsimp only
  rw [hcontent, List.take_left, ← List.append_assoc before old after, ← hskip, List.drop_left,
    List.append_assoc]

namespace WavWriter

theorem le_eq_littleEndian (n v : Nat) : le n v = littleEndian n v := by
  induction n generalizing v with
  | zero => rfl
  | succ n ih => rw [le, littleEndian, ih]

/-- A size, in the arithmetic of `uint32_t`. -/
theorem le_sub {pos n : Nat} (hle : n ≤ pos) (hlt : pos < 4294967296) :
    le 4 (pos + 4294967296 - n) = littleEndian 4 (pos - n) := by
  rw [le_eq_littleEndian, ← littleEndian_mod 4 (pos + 4294967296 - n)]
  congr 1
  omega

section

variable (sampleRate channels bitsPerSample : Nat)

/-- The format, behind its size. -/
def fmtChunk : RiffChunk where
  id := bytes "fmt "
  data := le 2 1 ++ le 2 channels ++ le 4 sampleRate ++
    le 4 (sampleRate * channels * bitsPerSample / 8) ++ le 2 (channels * bitsPerSample / 8) ++
    le 2 bitsPerSample
  id_length := rfl
  data_length := by
    simp only [List.length_append, le_length]
    decide

/-- The samples, behind their size. -/
def dataChunk (pcm : Bytes) (h : 44 + pcm.length < 4294967296) : RiffChunk where
  id := bytes "data"
  data := pcm
  id_length := rfl
  data_length := by omega

theorem length_fmtChunk_data : (fmtChunk sampleRate channels bitsPerSample).data.length = 16 := by
  unfold fmtChunk
  simp only [List.length_append, le_length]

theorem length_fmtChunk : (fmtChunk sampleRate channels bitsPerSample).encode.length = 24 := by
  rw [RiffChunk.length_encode, length_fmtChunk_data]

/-- What stands between the two sizes of a file. -/
def betweenSizes : Bytes :=
  bytes "WAVE" ++ ((fmtChunk sampleRate channels bitsPerSample).encode ++ bytes "data")

theorem length_betweenSizes : (betweenSizes sampleRate channels bitsPerSample).length = 32 := by
  unfold betweenSizes
  rw [List.length_append, List.length_append, length_fmtChunk]
  rfl

/-- The header is that of two chunks in a file, with the sizes left out. -/
theorem header_eq : header sampleRate channels bitsPerSample =
    bytes "RIFF" ++ (le 4 0 ++ (betweenSizes sampleRate channels bitsPerSample ++ le 4 0)) := by
  unfold header betweenSizes RiffChunk.encode
  rw [length_fmtChunk_data, ← le_eq_littleEndian]
  unfold fmtChunk RiffChunk.padding
  simp

/-- The form and the two chunks, as bytes. -/
theorem chunks_encode {pcm : Bytes} (h : 44 + pcm.length < 4294967296)
    (heven : pcm.length % 2 = 0) :
    bytes "WAVE" ++ [fmtChunk sampleRate channels bitsPerSample, dataChunk pcm h].flatMap
        RiffChunk.encode =
      betweenSizes sampleRate channels bitsPerSample ++ (littleEndian 4 pcm.length ++ pcm) := by
  have hdata : (dataChunk pcm h).encode = bytes "data" ++ (littleEndian 4 pcm.length ++ pcm) := by
    unfold RiffChunk.encode dataChunk RiffChunk.padding
    dsimp only
    rw [heven, List.replicate_zero, List.append_nil]
  rw [List.flatMap_cons, List.flatMap_singleton, hdata]
  unfold betweenSizes
  simp only [List.append_assoc]

theorem length_chunks (pcm : Bytes) :
    (betweenSizes sampleRate channels bitsPerSample ++
      (littleEndian 4 pcm.length ++ pcm)).length = 36 + pcm.length := by
  rw [List.length_append, List.length_append, length_littleEndian, length_betweenSizes]
  omega

/-- The whole file. -/
def waveChunk (pcm : Bytes) (h : 44 + pcm.length < 4294967296) (heven : pcm.length % 2 = 0) :
    RiffChunk where
  id := bytes "RIFF"
  data := bytes "WAVE" ++
    [fmtChunk sampleRate channels bitsPerSample, dataChunk pcm h].flatMap RiffChunk.encode
  id_length := rfl
  data_length := by
    rw [chunks_encode _ _ _ h heven, length_chunks]
    omega

variable {sampleRate channels bitsPerSample}

theorem length_header : (header sampleRate channels bitsPerSample).length = 44 := by
  simp only [header_eq, List.length_append, length_betweenSizes, le_length]
  rfl

/-- The file with its sizes written into it. -/
theorem updateHeader_content {file : OutputFile} {pcm : Bytes}
    (hcontent : file.content = header sampleRate channels bitsPerSample ++ pcm)
    (h : 44 + pcm.length < 4294967296) :
    (updateHeader file).content = bytes "RIFF" ++ (littleEndian 4 (36 + pcm.length) ++
      (betweenSizes sampleRate channels bitsPerSample ++ (littleEndian 4 pcm.length ++ pcm))) := by
  have hlen : file.content.length = 44 + pcm.length := by
    rw [hcontent, List.length_append, length_header]
  have hparts : file.content = bytes "RIFF" ++ (le 4 0 ++
      (betweenSizes sampleRate channels bitsPerSample ++ (le 4 0 ++ pcm))) := by
    rw [hcontent, header_eq]
    simp only [List.append_assoc]
  have hfileSize : le 4 (44 + pcm.length + 4294967296 - 8) = littleEndian 4 (36 + pcm.length) := by
    rw [le_sub (by omega) h]
    congr 1
    omega
  have hdataSize : le 4 (44 + pcm.length + 4294967296 - 44) = littleEndian 4 pcm.length := by
    rw [le_sub (by omega) h, Nat.add_sub_cancel_left]
  have hfirst : (file.writeAt 4 (littleEndian 4 (36 + pcm.length))).content =
      bytes "RIFF" ++ (littleEndian 4 (36 + pcm.length) ++
        (betweenSizes sampleRate channels bitsPerSample ++ (le 4 0 ++ pcm))) :=
    OutputFile.writeAt_middle hparts rfl
  -- the second size stands behind all of this
  set before := bytes "RIFF" ++ (littleEndian 4 (36 + pcm.length) ++
    betweenSizes sampleRate channels bitsPerSample) with hbefore
  have hplace : before.length = 40 := by
    rw [hbefore, List.length_append, List.length_append, length_littleEndian, length_betweenSizes]
    rfl
  have hsecond : (file.writeAt 4 (littleEndian 4 (36 + pcm.length))).content =
      before ++ (le 4 0 ++ pcm) := by
    rw [hfirst, hbefore]
    simp only [List.append_assoc]
  have hfour : (le 4 0).length = (littleEndian 4 pcm.length).length := by
    rw [le_length, length_littleEndian]
  unfold updateHeader
  dsimp only
  rw [hlen, hfileSize, hdataSize, ← hplace, OutputFile.writeAt_middle hsecond hfour, hbefore]
  simp only [List.append_assoc]

/-- **The finished file is one chunk.** -/
theorem updateHeader_encode {file : OutputFile} {pcm : Bytes}
    (hcontent : file.content = header sampleRate channels bitsPerSample ++ pcm)
    (h : 44 + pcm.length < 4294967296) (heven : pcm.length % 2 = 0) :
    (updateHeader file).content =
      (waveChunk sampleRate channels bitsPerSample pcm h heven).encode := by
  have hodd : (36 + pcm.length) % 2 = 0 := by omega
  rw [updateHeader_content hcontent h, RiffChunk.encode, waveChunk]
  dsimp only
  rw [chunks_encode _ _ _ h heven, length_chunks, RiffChunk.padding, hodd, List.replicate_zero,
    List.append_nil]

end

/-- The sizes are written over what is there. -/
theorem updateHeader_length {file : OutputFile} (h : 44 ≤ file.content.length) :
    (updateHeader file).content.length = file.content.length := by
  have hfirst (v : Nat) : (file.writeAt 4 (le 4 v)).content.length = file.content.length := by
    refine OutputFile.writeAt_length ?_
    rw [le_length]
    omega
  unfold updateHeader
  dsimp only
  rw [OutputFile.writeAt_length, hfirst]
  rw [hfirst, le_length]
  exact h

/-- Blocks of samples are written one after the other, each with one `write`. -/
def writeBlocks (file : OutputFile) (blocks : List (List Int16)) : OutputFile :=
  blocks.foldl (fun file block => file.write (pcmBytes (block.map Int16.toInt))) file

end WavWriter

end SipGateway
