import SipGateway.Media.Recorder

/-!
# Stages and the pipeline

`media/stages` and `MediaPipeline.cpp`. Uplink audio passes every stage unchanged; downlink
audio starts empty and is filled or read by the stages in order.

A stage that owns a client does not hold it here: it returns the call it makes on it.
-/

namespace SipGateway

open Infra

/-- A call of a stage on its client. -/
inductive ClientCall where
  /-- `VoiceBotClient::sendAudio` -/
  | botAudio (data : Bytes) (seq : UInt64)
  /-- `AudioSocketClient::sendAudio` -/
  | socketAudio (pcmData : Bytes)
deriving DecidableEq, Repr

/-- The part behind the last 16000 bytes is dropped. -/
def boundBuffer (buffer : Bytes) : Bytes :=
  if buffer.length > 16000 then buffer.drop (buffer.length - 16000) else buffer

/-! ## The stages -/

/-- `class EchoStage`. -/
structure EchoStage where
  buffer : Bytes := []
  hasData : Bool := false
deriving DecidableEq, Repr

namespace EchoStage

def processUplink (st : EchoStage) (audio : Bytes) : EchoStage :=
  if audio.isEmpty then st else { buffer := audio, hasData := true }

def processDownlink (st : EchoStage) (audio : Bytes) : EchoStage × Bytes :=
  if st.hasData then
    ({ st with hasData := false }, if audio.isEmpty then st.buffer else audio)
  else (st, audio)

end EchoStage

/-- `class GrpcBridgeStage`. -/
structure GrpcBridgeStage where
  downlinkBuffer : Bytes := []
  seq : UInt64 := 0
deriving DecidableEq, Repr

namespace GrpcBridgeStage

def onBotAudio (st : GrpcBridgeStage) (data : Bytes) : GrpcBridgeStage :=
  { st with downlinkBuffer := boundBuffer (st.downlinkBuffer ++ data) }

def processUplink (st : GrpcBridgeStage) (audio : Bytes) : GrpcBridgeStage × List ClientCall :=
  if audio.isEmpty then (st, []) else ({ st with seq := st.seq + 1 }, [.botAudio audio st.seq])

def processDownlink (st : GrpcBridgeStage) (audio : Bytes) : GrpcBridgeStage × Bytes :=
  if st.downlinkBuffer.length ≥ 160 then
    ({ st with downlinkBuffer := st.downlinkBuffer.drop 160 }, st.downlinkBuffer.take 160)
  else (st, audio)

end GrpcBridgeStage

/-- `class AudioSocketStage`. -/
structure AudioSocketStage where
  payloadType : Int
  downlinkBuffer : Bytes := []
deriving DecidableEq, Repr

namespace AudioSocketStage

/-- `Apply gain (3x to address 'low voice')`. -/
def gain (sample : Int) : Int := clampInt16 (sample * 3)

/-- The law audio from the peer is encoded with. -/
def encode (st : AudioSocketStage) (pcm : List Int) : Bytes :=
  if st.payloadType = 0 then G711Utils.encodeULaw pcm else G711Utils.encodeALaw pcm

/-- The law audio of the caller is decoded with. -/
def decode (st : AudioSocketStage) (audio : Bytes) : List Int :=
  if st.payloadType = 0 then G711Utils.decodeULaw audio else G711Utils.decodeALaw audio

def onAudioSocketData (st : AudioSocketStage) (data : Bytes) : AudioSocketStage :=
  if data.length % 2 ≠ 0 then st
  else
    let encoded := st.encode ((pcmOfBytes data).map gain)
    { st with downlinkBuffer := boundBuffer (st.downlinkBuffer ++ encoded) }

def processUplink (st : AudioSocketStage) (audio : Bytes) : List ClientCall :=
  if audio.isEmpty then [] else [.socketAudio (pcmBytes ((st.decode audio).map gain))]

def processDownlink (st : AudioSocketStage) (audio : Bytes) : AudioSocketStage × Bytes :=
  if st.downlinkBuffer.length ≥ 160 then
    ({ st with downlinkBuffer := st.downlinkBuffer.drop 160 }, st.downlinkBuffer.take 160)
  else (st, audio)

end AudioSocketStage

/-! ## The pipeline -/

/-- `class Stage`. -/
inductive Stage where
  | echo (st : EchoStage)
  | grpcBridge (st : GrpcBridgeStage)
  | audioSocket (st : AudioSocketStage)
  | recorder (st : RecorderStage)
deriving DecidableEq, Repr

namespace Stage

def processUplink (audio : Bytes) : Stage → Stage × List ClientCall
  | .echo st => (.echo (st.processUplink audio), [])
  | .grpcBridge st => (.grpcBridge (st.processUplink audio).1, (st.processUplink audio).2)
  | .audioSocket st => (.audioSocket st, st.processUplink audio)
  | .recorder st => (.recorder (st.processUplink audio), [])

def processDownlink (audio : Bytes) : Stage → Stage × Bytes
  | .echo st => (.echo (st.processDownlink audio).1, (st.processDownlink audio).2)
  | .grpcBridge st => (.grpcBridge (st.processDownlink audio).1, (st.processDownlink audio).2)
  | .audioSocket st => (.audioSocket (st.processDownlink audio).1, (st.processDownlink audio).2)
  | .recorder st => (.recorder (st.processDownlink audio), audio)

end Stage

/-- `class MediaPipeline`. -/
structure MediaPipeline where
  stages : List Stage := []
deriving DecidableEq, Repr

namespace MediaPipeline

def addStage (pl : MediaPipeline) (stage : Stage) : MediaPipeline :=
  { stages := pl.stages ++ [stage] }

def processUplink (pl : MediaPipeline) (input : Bytes) : MediaPipeline × List ClientCall :=
  ({ stages := pl.stages.map fun stage => (stage.processUplink input).1 },
    pl.stages.flatMap fun stage => (stage.processUplink input).2)

/-- The loop of `processDownlink` over the stages. -/
def downlinkLoop : List Stage → Bytes → List Stage × Bytes
  | [], current => ([], current)
  | stage :: rest, current =>
    let r := stage.processDownlink current
    let q := downlinkLoop rest r.2
    (r.1 :: q.1, q.2)

def processDownlink (pl : MediaPipeline) : MediaPipeline × Bytes :=
  ({ stages := (downlinkLoop pl.stages []).1 }, (downlinkLoop pl.stages []).2)

end MediaPipeline

end SipGateway
