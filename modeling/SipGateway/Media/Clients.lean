import SipGateway.Infra.Bytes

/-!
# The clients behind the media stages

`VoiceBotClient.cpp` and `AudioSocketClient.cpp`, as far as the thread that handles calls and
packets runs them: connecting, sending and letting go of the connection. What has been sent is
kept in `written`, and which descriptors were closed in `closed`.
Of the reader thread a client has `joinable` here, and `stop` is over when it returns. The steps of
both threads beside each other follow in `Media.Shutdown`.
-/

namespace SipGateway

open Infra

/-- How the process can end inside a step. -/
inductive Fatal where
  /-- an exception nobody catches -/
  | uncaught (e : StdException)
  /-- `std::terminate`: the destructor of a `std::thread` that is joinable -/
  | joinable
deriving DecidableEq, Repr

/-! ## The gRPC voice bot -/

/-- `enum Codec` of `voicebot.proto`, as far as `sendConfig` uses it. -/
inductive BotCodec where
  | pcmu
  | pcma
deriving DecidableEq, Repr

/-- The payload of a `CallEvent`. -/
inductive CallPayload where
  | config (sampleRate : Int) (codec : BotCodec)
  | audio (data : Bytes) (seq : UInt64)
  | hangup
deriving DecidableEq, Repr

/-- `message CallEvent`. -/
structure CallEvent where
  callId : Bytes
  payload : CallPayload
deriving DecidableEq, Repr

/-- `class VoiceBotClient`; of `context_` only whether it was cancelled. -/
structure VoiceBotClient where
  target : Bytes
  callId : Bytes
  context : Option Bool := none
  running : Bool := false
  /-- `readerThread_.joinable()` -/
  joinable : Bool := false
  written : List CallEvent := []
deriving DecidableEq, Repr

namespace VoiceBotClient

/-- `connect`; `stream` says whether `StreamCall` gave a stream. -/
def connect (client : VoiceBotClient) (stream : Bool) : VoiceBotClient × Bool :=
  if stream then ({ client with context := some false, running := true, joinable := true }, true)
  else ({ client with context := some false }, false)

/-- `stream_->Write(event)`, unless the client is not running. -/
def write (client : VoiceBotClient) (payload : CallPayload) : VoiceBotClient :=
  if client.running then
    { client with written := client.written ++ [{ callId := client.callId, payload := payload }] }
  else client

/-- `sendConfig`: 0 is PCMU, anything else PCMA. -/
def sendConfig (client : VoiceBotClient) (rate codec : Int) : VoiceBotClient :=
  client.write (.config rate (if codec = 0 then .pcmu else .pcma))

def sendAudio (client : VoiceBotClient) (data : Bytes) (seq : UInt64) : VoiceBotClient :=
  client.write (.audio data seq)

/-- `if (context_) context_->TryCancel()`. -/
def tryCancel (client : VoiceBotClient) : VoiceBotClient :=
  { client with context := client.context.map fun _ => true }

/-- `running_ = false` behind the loop of `readerLoop`, which ends with the stream. -/
def readerEnds (client : VoiceBotClient) : VoiceBotClient := { client with running := false }

/-- `stop`, up to the end of the join. -/
def stop (client : VoiceBotClient) : VoiceBotClient :=
  if client.running then { client.tryCancel with running := false, joinable := false } else client

/-- The destructor: `stop`, and then the thread goes. -/
def destroy (client : VoiceBotClient) : Except Fatal Unit :=
  if client.stop.joinable then .error .joinable else .ok ()

/-- The reader loop has ended by itself, and nobody has joined the thread. -/
def Ended (client : VoiceBotClient) : Prop := client.running = false ∧ client.joinable = true

instance (client : VoiceBotClient) : Decidable client.Ended := inferInstanceAs (Decidable (_ ∧ _))

theorem destroy_eq (client : VoiceBotClient) :
    client.destroy = if client.Ended then .error .joinable else .ok () := by
  have hstop : client.stop.joinable = true ↔ client.Ended := by
    unfold stop Ended
    split <;> simp [*]
  unfold destroy
  simp only [hstop]

end VoiceBotClient

/-! ## The AudioSocket peer -/

/-- `class AudioSocketClient`. -/
structure AudioSocketClient where
  target : Bytes
  callId : Bytes
  fromUser : Bytes
  toUser : Bytes
  sockfd : Int := -1
  running : Bool := false
  /-- `readerThread_.joinable()` -/
  joinable : Bool := false
  written : Bytes := []
  closed : List Int := []
deriving DecidableEq, Repr

namespace AudioSocketClient

/-- `if (s.size() > n) s = s.substr(s.size() - n)`. -/
def lastBytes (n : Nat) (s : Bytes) : Bytes := if s.length > n then s.drop (s.length - n) else s

/-- `<< std::setw(n) << std::setfill('0') << s`. -/
def zeroPadded (n : Nat) (s : Bytes) : Bytes := List.replicate (n - s.length) 48 ++ s

/-- The packet of `sendUuid`: dialer (10), epoch (7) and dialed (15) behind a header. -/
def uuidPacket (client : AudioSocketClient) (epoch : Nat) : Bytes :=
  [0x01, 0x00, 0x20] ++ zeroPadded 10 (lastBytes 10 client.fromUser) ++
    zeroPadded 7 (lastBytes 7 (natDecimal epoch)) ++ zeroPadded 15 (lastBytes 15 client.toUser)

/-- `sendAll` when no `send` fails. -/
def sendAll (client : AudioSocketClient) (data : Bytes) : AudioSocketClient :=
  { client with written := client.written ++ data }

def sendUuid (client : AudioSocketClient) (epoch : Nat) : AudioSocketClient :=
  client.sendAll (client.uuidPacket epoch)

/--
`connect`; `sock` is the result of `socket`, `connects` whether `::connect` succeeds.

The port of the target goes through an unguarded `std::stoi`.
-/
def connect (client : AudioSocketClient) (sock : Int) (connects : Bool) (epoch : Nat) :
    Except StdException (AudioSocketClient × Bool) :=
  match findByte colon client.target 0 with
  | none => .ok (client, false)
  | some colonPos => do
    let _port ← stoi (← substrFrom client.target (colonPos + 1))
    if sock < 0 then pure ({ client with sockfd := sock }, false)
    else if connects then
      pure (({ client with sockfd := sock, running := true, joinable := true }).sendUuid epoch,
        true)
    else pure ({ client with sockfd := -1, closed := client.closed ++ [sock] }, false)

/-- `sendAudio`: type `0x10`, a two-byte length, the data. -/
def sendAudio (client : AudioSocketClient) (pcmData : Bytes) : AudioSocketClient :=
  if client.sockfd < 0 ∨ pcmData = [] then client
  else
    let len := if pcmData.length > 0xFFFF then 0xFFFF else pcmData.length
    (client.sendAll [0x10, UInt8.ofNat (len / 256), UInt8.ofNat len]).sendAll (pcmData.take len)

/-- The terminate packet, `shutdown` and `close`. -/
def closeSocket (client : AudioSocketClient) : AudioSocketClient :=
  if 0 ≤ client.sockfd then
    { client.sendAll [0, 0, 0] with sockfd := -1, closed := client.closed ++ [client.sockfd] }
  else client

/-- `running_ = false` behind the loop of `readerLoop`. -/
def readerEnds (client : AudioSocketClient) : AudioSocketClient := { client with running := false }

/-- `stop`, up to the end of the join. -/
def stop (client : AudioSocketClient) : AudioSocketClient :=
  if client.running then { client.closeSocket with running := false, joinable := false }
  else client

/-- The destructor: `stop`, and then the thread goes. -/
def destroy (client : AudioSocketClient) : Except Fatal Unit :=
  if client.stop.joinable then .error .joinable else .ok ()

/-- The reader loop has ended by itself, and nobody has joined the thread. -/
def Ended (client : AudioSocketClient) : Prop := client.running = false ∧ client.joinable = true

instance (client : AudioSocketClient) : Decidable client.Ended :=
  inferInstanceAs (Decidable (_ ∧ _))

theorem destroy_eq (client : AudioSocketClient) :
    client.destroy = if client.Ended then .error .joinable else .ok () := by
  have hstop : client.stop.joinable = true ↔ client.Ended := by
    unfold stop Ended
    split <;> simp [*]
  unfold destroy
  simp only [hstop]

end AudioSocketClient

end SipGateway
