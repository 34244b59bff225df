import SipGateway.Util.G711

/-!
# The recorder

`RecorderStage.cpp`: the media thread puts chunks into a queue; a worker thread takes the whole
queue at once and writes each chunk to the files, in mixed mode through two sample buffers.
`WavWriter` writes the header of the mixed file, and its sizes at the end.
-/

namespace SipGateway

open Infra

/-- An output file: its path and what has been written to it. -/
structure OutputFile where
  path : Bytes := []
  isOpen : Bool := false
  content : Bytes := []
deriving DecidableEq, Repr

/-- `file.write`, on a file that may not be open. -/
def OutputFile.write (file : OutputFile) (data : Bytes) : OutputFile :=
  if file.isOpen then { file with content := file.content ++ data } else file

/-- `file.seekp(pos); file.write(..)`, at a place inside of the file. -/
def OutputFile.writeAt (file : OutputFile) (pos : Nat) (data : Bytes) : OutputFile :=
  { file with content := file.content.take pos ++ data ++ file.content.drop (pos + data.length) }

def OutputFile.close (file : OutputFile) : OutputFile := { file with isOpen := false }

namespace WavWriter

/-- An integer of `n` bytes, on a little-endian host. -/
def le : Nat → Nat → Bytes
  | 0, _ => []
  | n + 1, v => UInt8.ofNat v :: le n (v / 256)

/-- `WavWriter::writeHeader`, with the two sizes still 0. -/
def header (sampleRate channels bitsPerSample : Nat) : Bytes :=
  bytes "RIFF" ++ le 4 0 ++ bytes "WAVE" ++ bytes "fmt " ++ le 4 16 ++ le 2 1 ++ le 2 channels ++
    le 4 sampleRate ++ le 4 (sampleRate * channels * bitsPerSample / 8) ++
    le 2 (channels * bitsPerSample / 8) ++ le 2 bitsPerSample ++ bytes "data" ++ le 4 0

/-- `WavWriter::updateHeader`: the two sizes, in the arithmetic of `uint32_t`. -/
def updateHeader (file : OutputFile) : OutputFile :=
  let currentPos := file.content.length
  let fileSize := currentPos + 4294967296 - 8
  let dataSize := currentPos + 4294967296 - 44
  (file.writeAt 4 (le 4 fileSize)).writeAt 40 (le 4 dataSize)

end WavWriter

/-- `struct Chunk`. -/
structure Chunk where
  isUplink : Bool
  data : Bytes
deriving DecidableEq, Repr

/-- `class RecorderStage`. -/
structure RecorderStage where
  recordingMode : Bool
  payloadType : Int
  uplinkFile : OutputFile := {}
  downlinkFile : OutputFile := {}
  mixedFile : OutputFile := {}
  queue : List Chunk := []
  ulBuffer : List Int := []
  dlBuffer : List Int := []
deriving DecidableEq, Repr

namespace RecorderStage

/-- The constructor; `opens` says which paths can be opened. -/
def create (recordingMode : Bool) (pathPrefix callId : Bytes) (payloadType : Int)
    (opens : Bytes → Bool) : RecorderStage :=
  if recordingMode then
    let path := pathPrefix ++ bytes "/" ++ callId ++ bytes ".mixed.wav"
    { recordingMode := recordingMode, payloadType := payloadType,
      mixedFile :=
        ({ path := path, isOpen := opens path } : OutputFile).write (WavWriter.header 8000 1 16) }
  else
    let upPath := pathPrefix ++ bytes "/" ++ callId ++ bytes ".uplink.raw"
    let downPath := pathPrefix ++ bytes "/" ++ callId ++ bytes ".downlink.raw"
    { recordingMode := recordingMode, payloadType := payloadType,
      uplinkFile := { path := upPath, isOpen := opens upPath },
      downlinkFile := { path := downPath, isOpen := opens downPath } }

/-- `queue_.push_back`, for a chunk that is not empty. -/
def enqueue (st : RecorderStage) (isUplink : Bool) (audio : Bytes) : RecorderStage :=
  if audio.isEmpty then st
  else { st with queue := st.queue ++ [{ isUplink := isUplink, data := audio }] }

def processUplink (st : RecorderStage) (audio : Bytes) : RecorderStage := st.enqueue true audio

def processDownlink (st : RecorderStage) (audio : Bytes) : RecorderStage := st.enqueue false audio

/-! ## The worker -/

/-- The law `workerLoop` decodes a chunk with. -/
def decode (st : RecorderStage) (data : Bytes) : List Int :=
  if st.payloadType = 0 then G711Utils.decodeULaw data else G711Utils.decodeALaw data

/-- A sample of the mix. -/
def mixSample (ul dl : Int) : Int := clampInt16 (ul + dl)

/-- The common prefix of the two buffers is mixed and written. -/
def mixCommon (st : RecorderStage) : RecorderStage :=
  let mixLen := min st.ulBuffer.length st.dlBuffer.length
  { st with
    mixedFile := st.mixedFile.write (pcmBytes (List.zipWith mixSample st.ulBuffer st.dlBuffer))
    ulBuffer := st.ulBuffer.drop mixLen
    dlBuffer := st.dlBuffer.drop mixLen }

/-- A buffer of more than a second is written as it is. -/
def flushUplink (st : RecorderStage) : RecorderStage :=
  if st.ulBuffer.length > 8000 then
    { st with mixedFile := st.mixedFile.write (pcmBytes st.ulBuffer), ulBuffer := [] }
  else st

def flushDownlink (st : RecorderStage) : RecorderStage :=
  if st.dlBuffer.length > 8000 then
    { st with mixedFile := st.mixedFile.write (pcmBytes st.dlBuffer), dlBuffer := [] }
  else st

/-- The body of the inner loop of `workerLoop`. -/
def processChunk (st : RecorderStage) (chunk : Chunk) : RecorderStage :=
  if st.recordingMode then
    if st.mixedFile.isOpen then
      let st := if chunk.isUplink
        then { st with ulBuffer := st.ulBuffer ++ st.decode chunk.data }
        else { st with dlBuffer := st.dlBuffer ++ st.decode chunk.data }
      st.mixCommon.flushUplink.flushDownlink
    else st
  else if chunk.isUplink then { st with uplinkFile := st.uplinkFile.write chunk.data }
  else { st with downlinkFile := st.downlinkFile.write chunk.data }

/-- One round of `workerLoop`: the queue is taken out and processed. -/
def drain (st : RecorderStage) : RecorderStage :=
  st.queue.foldl processChunk { st with queue := [] }

/-- The destructor, behind the join. What is left in the two buffers is not looked at. -/
def close (st : RecorderStage) : RecorderStage :=
  { st with
    uplinkFile := st.uplinkFile.close
    downlinkFile := st.downlinkFile.close
    mixedFile := if st.mixedFile.isOpen then (WavWriter.updateHeader st.mixedFile).close
      else st.mixedFile }

end RecorderStage

end SipGateway
