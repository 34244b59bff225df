import SipGateway.Sip.Message
import SipGateway.Rtp.Packet
import SipGateway.Rtp.Server
import SipGateway.Media.Clients
import SipGateway.Media.Stage
import SipGateway.App.Config

/-!
# Call sessions

`CallSession.cpp`. A session owns its RTP port, its pipeline and the client behind it; it gives
the port back in `terminate`, which the destructor calls too.

`dialog_` is never set and is left out. The client of the bridge stage is the one the session
holds, so the session makes the calls the stages ask for.
-/

namespace SipGateway

open Infra

/-- `class CallSession`. -/
structure CallSession where
  callId : Bytes
  fromUser : Bytes := []
  toUser : Bytes := []
  pipeline : Option MediaPipeline := none
  botClient : Option VoiceBotClient := none
  tcpClient : Option AudioSocketClient := none
  jitterBuffer : JitterBuffer := {}
  localRtpPort : Int := 0
  remoteRtpAddr : SockAddr := {}
  rtpLocked : Bool := false
  payloadType : Int := 0
  ssrc : UInt32 := 0
  outgoingTimestamp : UInt32 := 0
  outgoingSeq : UInt16 := 0
deriving DecidableEq

namespace CallSession

/-- The constructor; `sysNow` is the count of `system_clock` the SSRC is taken from. -/
def create (callId : Bytes) (sysNow : Nat) : CallSession :=
  { callId := callId
    ssrc := UInt32.ofNat sysNow
    outgoingSeq := UInt16.ofNat (UInt32.ofNat sysNow &&& 0xFFFF).toNat
    outgoingTimestamp := UInt32.ofNat sysNow }

def init (session : CallSession) (invite : SipMessage) : CallSession :=
  { session with fromUser := invite.getFromUser, toUser := invite.getToUser }

/-- `terminate`; the clients are stopped and dropped with their references. -/
def terminate (session : CallSession) (rtp : RtpServer) : CallSession × RtpServer :=
  ({ session with localRtpPort := if session.localRtpPort > 0 then 0 else session.localRtpPort
                  botClient := none, tcpClient := none, pipeline := none },
    if session.localRtpPort > 0 then rtp.releasePort session.localRtpPort else rtp)

/-- `onSipMessage`. -/
def onSipMessage (session : CallSession) (msg : SipMessage) (rtp : RtpServer) :
    CallSession × RtpServer :=
  if msg.isRequest ∧ msg.method = .bye then session.terminate rtp else (session, rtp)

/-- What becomes of the process when the object in `botClient_` goes. -/
def dropBot (session : CallSession) : Except Fatal Unit :=
  match session.botClient with
  | some client => client.destroy
  | none => .ok ()

/-- What becomes of the process when the object in `tcpClient_` goes. -/
def dropTcp (session : CallSession) : Except Fatal Unit :=
  match session.tcpClient with
  | some client => client.destroy
  | none => .ok ()

/-- What becomes of the process when the session goes: `terminate` drops its clients. -/
def destroy (session : CallSession) : Except Fatal Unit := do
  session.dropBot
  session.dropTcp

/-! ## Starting the pipeline -/

/-- `remoteRtpAddr_` after `htons(remotePort)` and `inet_pton(remoteIp)`. -/
def remoteAddr (old : SockAddr) (remoteIp : Bytes) (remotePort : Int) : SockAddr :=
  { addr := (inetPton remoteIp).getD old.addr, port := UInt16.ofInt remotePort }

/--
The core stage, with the client that belongs to it.

The client of an earlier INVITE goes where the new one is assigned.
-/
def startCore (session : CallSession) (env : Env) (config : Config) (payloadType : Int) :
    Except Fatal (CallSession × List Stage) :=
  match config.mode with
  | .grpc => do
    session.dropBot
    let client : VoiceBotClient := { target := config.grpcTarget, callId := session.callId }
    let (client, ok) := client.connect env.botStream
    if ok then
      pure ({ session with
        botClient := some (client.sendConfig 8000 (if payloadType = 8 then 8 else 0)) },
        [.grpcBridge {}])
    else pure ({ session with botClient := some client }, [])
  | .audiosocket => do
    session.dropTcp
    let client : AudioSocketClient :=
      { target := config.audiosocketTarget, callId := session.callId,
        fromUser := session.fromUser, toUser := session.toUser }
    let (client, ok) ←
      (client.connect env.tcpSocket env.tcpConnects env.epoch).mapError Fatal.uncaught
    pure ({ session with tcpClient := some client },
      if ok then [.audioSocket { payloadType := payloadType }] else [])
  | .echo => .ok (session, [.echo {}])

/-- The recorder stage, when recording is on. -/
def recorderStages (callId : Bytes) (env : Env) (config : Config) (payloadType : Int) :
    List Stage :=
  if config.recordingMode then
    [.recorder (RecorderStage.create config.recordingMode config.recordingPath callId payloadType
      env.opensFile)]
  else []

/--
`startPipeline`. It throws when `AudioSocketClient::connect` does, and ends the process when it
drops a client whose reader thread nobody has joined.
-/
def startPipeline (session : CallSession) (env : Env) (config : Config) (localRtpPort : Int)
    (remoteIp : Bytes) (remotePort payloadType : Int) : Except Fatal CallSession := do
  -- an earlier port is overwritten, not released
  let session := { session with
    localRtpPort := localRtpPort
    payloadType := payloadType
    remoteRtpAddr := remoteAddr session.remoteRtpAddr remoteIp remotePort }
  let (session, core) ← session.startCore env config payloadType
  let stages := core ++ recorderStages session.callId env config payloadType
  pure { session with pipeline := some (stages.foldl MediaPipeline.addStage {}) }

/-! ## Packets -/

/-- Makes the calls the stages ask for, each on the client it is for. -/
def callClients (session : CallSession) (calls : List ClientCall) : CallSession :=
  calls.foldl (fun session call =>
    match call with
    | .botAudio data seq =>
      { session with botClient := session.botClient.map (·.sendAudio data seq) }
    | .socketAudio pcmData =>
      { session with tcpClient := session.tcpClient.map (·.sendAudio pcmData) }) session

/-- A packet on its way out: the local port it leaves through and where it goes. -/
structure Outgoing where
  localPort : Int
  packet : RtpPacket
  dest : SockAddr
deriving DecidableEq

/-- `processRtpFrame`, on the packet the jitter buffer gave. -/
def processFrame (session : CallSession) (pkt : RtpPacket) : CallSession × Option Outgoing :=
  match session.pipeline with
  | none => (session, none)
  | some pl =>
    let (pl, calls) := pl.processUplink pkt.getPayload
    let (pl, dlPayload) := pl.processDownlink
    let session := { session.callClients calls with pipeline := some pl }
    if dlPayload ≠ [] ∧ session.localRtpPort > 0 then
      let ts := session.outgoingTimestamp + 160
      let seq := session.outgoingSeq + 1
      let sendPkt := (RtpPacket.empty.setHeader (UInt8.ofInt session.payloadType) seq ts
        session.ssrc).setPayload dlPayload
      ({ session with outgoingTimestamp := ts, outgoingSeq := seq },
        some { localPort := session.localRtpPort, packet := sendPkt,
               dest := session.remoteRtpAddr })
    else (session, none)

def processRtpFrame (session : CallSession) : CallSession × Option Outgoing :=
  let (pkt, jitterBuffer) := session.jitterBuffer.pop
  let session := { session with jitterBuffer := jitterBuffer }
  match pkt with
  | none => (session, none)
  | some pkt => session.processFrame pkt

/-- `Symmetric RTP lock`: the first packet fixes the remote address, for good. -/
def lockRemote (session : CallSession) (sender : SockAddr) : CallSession :=
  if session.rtpLocked then session
  else { session with remoteRtpAddr := sender, rtpLocked := true }

def pushPacket (session : CallSession) (pkt : RtpPacket) : CallSession :=
  { session with jitterBuffer := session.jitterBuffer.push pkt }

/-- `onRtpPacket`: a packet of another payload type does no more than lock the address. -/
def onRtpPacket (session : CallSession) (pkt : RtpPacket) (sender : SockAddr) :
    CallSession × Option Outgoing :=
  if (pkt.getPayloadType.toNat : Int) = session.payloadType then
    ((session.lockRemote sender).pushPacket pkt).processRtpFrame
  else (session.lockRemote sender, none)

/-- What the threads behind the stages do on their own. -/
inductive MediaEvent where
  /-- the bot's `onBotAudio` callback -/
  | botAudio (data : Bytes)
  /-- the peer's `onAudioSocketData` callback -/
  | socketData (data : Bytes)
  /-- one round of the recorder's `workerLoop` -/
  | recorderTurn
  /-- the `readerLoop` of the client ends: the stream is closed or broken, or the peer says so -/
  | readerEnds
deriving DecidableEq, Repr

/-- The stage a media event is for takes it. -/
def MediaEvent.apply : MediaEvent → Stage → Stage
  | .botAudio data, .grpcBridge st => .grpcBridge (st.onBotAudio data)
  | .socketData data, .audioSocket st => .audioSocket (st.onAudioSocketData data)
  | .recorderTurn, .recorder st => .recorder st.drain
  | _, stage => stage

/-- The end of a reader loop is for the client. -/
def MediaEvent.applyBot : MediaEvent → VoiceBotClient → VoiceBotClient
  | .readerEnds, client => client.readerEnds
  | _, client => client

def MediaEvent.applyTcp : MediaEvent → AudioSocketClient → AudioSocketClient
  | .readerEnds, client => client.readerEnds
  | _, client => client

def onMedia (session : CallSession) (ev : MediaEvent) : CallSession :=
  { session with
    botClient := session.botClient.map ev.applyBot
    tcpClient := session.tcpClient.map ev.applyTcp
    pipeline := session.pipeline.map fun pl => { stages := pl.stages.map ev.apply } }

/-! ## What happens to the port and the address -/

@[simp] theorem create_localRtpPort (callId : Bytes) (sysNow : Nat) :
    (create callId sysNow).localRtpPort = 0 := rfl

@[simp] theorem init_localRtpPort (session : CallSession) (invite : SipMessage) :
    (session.init invite).localRtpPort = session.localRtpPort := rfl

/-- A session without a port leaves the pool alone when it goes. -/
theorem terminate_of_no_port {session : CallSession} (h : session.localRtpPort = 0)
    (rtp : RtpServer) : (session.terminate rtp).2 = rtp := by
  unfold terminate
  simp [h]

/-- A session with a port gives it back. -/
theorem terminate_of_port {session : CallSession} (h : 0 < session.localRtpPort)
    (rtp : RtpServer) : (session.terminate rtp).2 = rtp.releasePort session.localRtpPort :=
  if_pos h

/-- No port is left after `terminate`. -/
theorem terminate_localRtpPort {session : CallSession} (h : 0 < session.localRtpPort)
    (rtp : RtpServer) : (session.terminate rtp).1.localRtpPort = 0 :=
  if_pos h

theorem callClients_localRtpPort (calls : List ClientCall) (session : CallSession) :
    (session.callClients calls).localRtpPort = session.localRtpPort := by
  unfold callClients
  induction calls generalizing session with
  | nil => rfl
  | cons call calls ih =>
    rw [List.foldl_cons, ih]
    cases call <;> rfl

theorem processFrame_localRtpPort (session : CallSession) (pkt : RtpPacket) :
    (session.processFrame pkt).1.localRtpPort = session.localRtpPort := by
  unfold processFrame
  split
  · rfl
  · dsimp only
    split <;> exact callClients_localRtpPort _ session

theorem processRtpFrame_localRtpPort (session : CallSession) :
    session.processRtpFrame.1.localRtpPort = session.localRtpPort := by
  unfold processRtpFrame
  dsimp only
  split
  · rfl
  · exact processFrame_localRtpPort _ _

theorem lockRemote_localRtpPort (session : CallSession) (sender : SockAddr) :
    (session.lockRemote sender).localRtpPort = session.localRtpPort := by
  unfold lockRemote
  split <;> rfl

/-- A packet never touches the port. -/
@[simp] theorem onRtpPacket_localRtpPort (session : CallSession) (pkt : RtpPacket)
    (sender : SockAddr) :
    (session.onRtpPacket pkt sender).1.localRtpPort = session.localRtpPort := by
  unfold onRtpPacket
  split
  · exact (processRtpFrame_localRtpPort _).trans (lockRemote_localRtpPort session sender)
  · exact lockRemote_localRtpPort session sender

@[simp] theorem onMedia_localRtpPort (session : CallSession) (ev : MediaEvent) :
    (session.onMedia ev).localRtpPort = session.localRtpPort := rfl

end CallSession

end SipGateway
