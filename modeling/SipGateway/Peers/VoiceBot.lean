import SipGateway.Infra.Text
import SipGateway.Media.Clients

/-!
# The echo bot

`grpc_server/server.py`: the servicer at the other end of `StreamCall`, which sends the audio it is
given back. What it prints is left out, and with it the call id and the configuration it remembers
for that.
-/

namespace SipGateway

open Infra

/-- `BotControl.Type`. -/
inductive BotControl where
  | hangup
  | transfer
deriving DecidableEq, Repr

/-- `message CallAction`. -/
inductive CallAction where
  | audio (data : Bytes) (seq : UInt64)
  | control (type : BotControl)
deriving DecidableEq, Repr

/-- The body of the loop of `StreamCall`: what it yields, and whether it goes on. -/
def VoiceBotServicer.streamCall : CallPayload → List CallAction × Bool
  | .config _ _ => ([], true)
  | .audio data seq => ([.audio data seq], true)
  | .hangup => ([.control .hangup], false)

/-- The bot takes an event from its stream; one whose call id is no text ends the stream. -/
def VoiceBotServicer.next (event : CallEvent) : List CallAction × Bool :=
  if validUtf8 event.callId then streamCall event.payload else ([], false)

/-- A round of `VoiceBotClient::readerLoop`: what the audio callback is called with. -/
def CallAction.audioCb : CallAction → Option Bytes
  | .audio data _ => some data
  -- `setControlCallback` is never called
  | .control _ => none

end SipGateway
