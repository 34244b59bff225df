import SipGateway.Infra.Ranks

/-!
# What the threads lock

Every function of the gateway that takes a mutex, starts or joins a thread, or calls one that does,
with these and its calls only. A condition becomes a choice and an object any object of its class;
a reference that is dropped may be the last one. Waiting for the network, for the terminal or on
the condition variable of a recorder is no waiting here.
-/

namespace SipGateway

open Infra

namespace Locking

/-- The mutexes; those of objects with the number of the object. -/
inductive Mutex where
  /-- `Logger::mutex_` -/
  | logger
  /-- `GatewayApp::transactionsMutex_` -/
  | transactions
  /-- `CallRegistry::mutex_` -/
  | registry
  /-- `CallSession::mutex_` -/
  | session (i : Nat)
  /-- `JitterBuffer::mutex_` -/
  | jitterBuffer (i : Nat)
  /-- `RtpServer::mutex_` -/
  | rtpServer
  /-- `RtpWorker::mutex_` -/
  | rtpWorker (i : Nat)
  /-- `GrpcBridgeStage::mutex_` and `AudioSocketStage::mutex_` -/
  | stage (i : Nat)
  /-- `RecorderStage::mutex_` -/
  | recorder (i : Nat)
  /-- `AudioSocketClient::sendMutex_` -/
  | send (i : Nat)
deriving DecidableEq, Repr

inductive Thread where
  | main
  /-- `GatewayApp::cliThread_` -/
  | cli
  /-- `RtpWorker::thread_` -/
  | rtpWorker (i : Nat)
  /-- `VoiceBotClient::readerThread_` -/
  | botReader (i : Nat)
  /-- `AudioSocketClient::readerThread_` -/
  | socketReader (i : Nat)
  /-- `RecorderStage::worker_` -/
  | recorder (i : Nat)
deriving DecidableEq, Repr

open Code

/-- `LOG_INFO(...)` and the like: `isEnabled`, and `log` when it is. -/
def log : Code Mutex Thread :=
  block [locked .logger skip, perhaps (locked .logger skip)]

/-! ## Signals -/

/-- `SignalHandler::handleSignal`. -/
def handleSignal : Code Mutex Thread := log

/-! ## Ports -/

namespace RtpWorker

def allocatePort (i : Nat) : Code Mutex Thread := locked (.rtpWorker i) (loop log)

def releasePort (i : Nat) : Code Mutex Thread := locked (.rtpWorker i) skip

def setPacketHandler (i : Nat) : Code Mutex Thread := locked (.rtpWorker i) skip

def send (i : Nat) : Code Mutex Thread := locked (.rtpWorker i) skip

/-- The constructor, and `start`. -/
def start (i : Nat) : Code Mutex Thread := block [perhaps log, spawn (.rtpWorker i), log]

/-- `stop`, from the destructor. -/
def stop (i : Nat) : Code Mutex Thread := perhaps (join (.rtpWorker i))

end RtpWorker

namespace RtpServer

def init : Code Mutex Thread := block [log, loop (any RtpWorker.start)]

def allocatePort : Code Mutex Thread :=
  locked .rtpServer (block [loop (any RtpWorker.allocatePort), perhaps log])

def releasePort : Code Mutex Thread := perhaps (any RtpWorker.releasePort)

def setPacketHandler : Code Mutex Thread := loop (any RtpWorker.setPacketHandler)

def send : Code Mutex Thread := perhaps (any RtpWorker.send)

end RtpServer

/-! ## Media -/

namespace VoiceBotClient

/-- `readerLoop`, with the callback of the stage. -/
def readerLoop : Code Mutex Thread :=
  block [loop (perhaps (any fun i => locked (.stage i) skip)), log]

def connect (i : Nat) : Code Mutex Thread := perhaps (spawn (.botReader i))

def stop (i : Nat) : Code Mutex Thread := perhaps (join (.botReader i))

/-- A reference to the client is dropped. -/
def drop : Code Mutex Thread := perhaps (any stop)

end VoiceBotClient

namespace AudioSocketClient

/-- `readerLoop`, with the callback of the stage. -/
def readerLoop : Code Mutex Thread :=
  block [loop (perhaps (any fun i => locked (.stage i) skip)), perhaps log, log]

/-- `connect`, with `sendUuid`. -/
def connect (i : Nat) : Code Mutex Thread := perhaps (block [spawn (.socketReader i), log])

def sendAudio (i : Nat) : Code Mutex Thread := perhaps (locked (.send i) skip)

def stop (i : Nat) : Code Mutex Thread := perhaps (join (.socketReader i))

/-- A reference to the client is dropped. -/
def drop : Code Mutex Thread := perhaps (any stop)

end AudioSocketClient

namespace RecorderStage

/-- The constructor. -/
def create (i : Nat) : Code Mutex Thread := block [perhaps log, spawn (.recorder i)]

def processUplink (i : Nat) : Code Mutex Thread := perhaps (locked (.recorder i) skip)

def processDownlink (i : Nat) : Code Mutex Thread := perhaps (locked (.recorder i) skip)

/-- `workerLoop`; the wait gives the mutex back and takes it again. -/
def workerLoop (i : Nat) : Code Mutex Thread := loop (locked (.recorder i) skip)

/-- The destructor. -/
def destroy (i : Nat) : Code Mutex Thread :=
  block [locked (.recorder i) skip, perhaps (join (.recorder i))]

end RecorderStage

namespace MediaPipeline

/-- The stages, of whatever kinds; `GrpcBridgeStage` and `EchoStage` take no mutex here. -/
def processUplink : Code Mutex Thread :=
  loop (perhaps (either (any AudioSocketClient.sendAudio) (any RecorderStage.processUplink)))

def processDownlink : Code Mutex Thread :=
  loop (perhaps (either (any fun i => locked (.stage i) skip) (any RecorderStage.processDownlink)))

/-- The destructor of the last reference, with the stages; a bridge has a reference to its
client. -/
def drop : Code Mutex Thread :=
  perhaps (loop (perhaps (either (either VoiceBotClient.drop AudioSocketClient.drop)
    (any RecorderStage.destroy))))

end MediaPipeline

/-! ## Sessions -/

namespace CallSession

/-- `init`. -/
def init : Code Mutex Thread := log

def terminate (i : Nat) : Code Mutex Thread :=
  locked (.session i) (block [
    perhaps RtpServer.releasePort,
    perhaps (block [any VoiceBotClient.stop, VoiceBotClient.drop]),
    perhaps (block [any AudioSocketClient.stop, AudioSocketClient.drop]),
    MediaPipeline.drop])

/-- A reference to a session is dropped; the destructor terminates it. -/
def drop : Code Mutex Thread := perhaps (any terminate)

/-- What `startPipeline` does in the mode `GRPC`. -/
def startBot : Code Mutex Thread :=
  block [VoiceBotClient.drop, any VoiceBotClient.connect, perhaps log]

/-- What `startPipeline` does in the mode `AUDIOSOCKET`. -/
def startSocket : Code Mutex Thread :=
  block [AudioSocketClient.drop, any AudioSocketClient.connect, perhaps log]

def startPipeline (i : Nat) : Code Mutex Thread :=
  locked (.session i) (block [
    MediaPipeline.drop,
    perhaps (either startBot startSocket),
    perhaps (any RecorderStage.create)])

def processRtpFrame (i : Nat) : Code Mutex Thread :=
  block [
    locked (.jitterBuffer i) skip,
    perhaps (block [
      locked (.session i) skip,
      perhaps (block [
        MediaPipeline.processUplink,
        MediaPipeline.processDownlink,
        perhaps (block [locked (.session i) skip, RtpServer.send])]),
      MediaPipeline.drop])]

def onRtpPacket (i : Nat) : Code Mutex Thread :=
  either
    (block [locked (.session i) (block [perhaps log, locked (.jitterBuffer i) skip]),
      processRtpFrame i])
    (locked (.session i) (perhaps log))

/-- `onSipMessage`, of a BYE. -/
def onSipMessage (i : Nat) : Code Mutex Thread := perhaps (block [log, terminate i])

end CallSession

namespace CallRegistry

def addCall : Code Mutex Thread := locked .registry skip

def getCall : Code Mutex Thread := locked .registry skip

/-- `calls_.erase` may drop the last reference. -/
def removeCall : Code Mutex Thread := locked .registry CallSession.drop

def registerRtpPort : Code Mutex Thread := locked .registry skip

def getCallByPort : Code Mutex Thread := locked .registry skip

def count : Code Mutex Thread := locked .registry skip

end CallRegistry

/-! ## Signalling -/

namespace SipServer

/-- `start`; each of the functions of `Net` may log. -/
def start : Code Mutex Thread := loop log

def sendResponse : Code Mutex Thread := block [log, log]

end SipServer

namespace GatewayApp

/-- An answer to an INVITE that ends the call. -/
def refuse : Code Mutex Thread := block [SipServer.sendResponse, CallRegistry.removeCall]

/-- The INVITE branch from the 100 on. -/
def answerInvite (i : Nat) : Code Mutex Thread :=
  block [SipServer.sendResponse,
    either refuse (block [RtpServer.allocatePort,
      either refuse (block [CallRegistry.registerRtpPort, log,
        either (block [SipServer.sendResponse, RtpServer.releasePort, CallRegistry.removeCall])
          (block [CallSession.startPipeline i, SipServer.sendResponse])])])]

def handleInvite (i : Nat) : Code Mutex Thread :=
  either (answerInvite i)
    (block [CallRegistry.count, either SipServer.sendResponse
      (block [CallSession.init, CallRegistry.addCall, answerInvite i])])

def handleBye (i : Nat) : Code Mutex Thread :=
  block [SipServer.sendResponse,
    perhaps (block [CallSession.onSipMessage i, CallRegistry.removeCall])]

def handleCancel : Code Mutex Thread :=
  block [SipServer.sendResponse, perhaps CallRegistry.removeCall]

/-- The chain over the methods: INVITE, BYE, CANCEL, ACK, REFER and the others. -/
def execute (i : Nat) : Code Mutex Thread :=
  either (handleInvite i) (either (handleBye i) (either handleCancel (either skip
    (either (block [SipServer.sendResponse, log]) SipServer.sendResponse))))

/-- `handleSipMessage` of a message with a Call-ID; the local variable `session` is dropped behind
the block. -/
def handleSipMessage : Code Mutex Thread :=
  block [
    CallRegistry.getCall,
    locked .transactions (either
      (either (perhaps (block [log, SipServer.sendResponse])) (any execute))
      log),
    CallSession.drop]

def cleanupTransactions : Code Mutex Thread := perhaps (locked .transactions (loop (perhaps log)))

/-- `handleRtpPacket`; the local variable `session` is dropped at the end. -/
def handleRtpPacket : Code Mutex Thread :=
  block [CallRegistry.getCallByPort, perhaps (any CallSession.onRtpPacket), CallSession.drop]

/-- `cliLoop`; the signal that `exit` raises comes to this thread. -/
def cliLoop : Code Mutex Thread :=
  loop (perhaps (either
    (block [locked .logger skip, perhaps (block [CallRegistry.count, locked .logger skip])])
    (either (block [CallRegistry.removeCall, log]) handleSignal)))

end GatewayApp

/-- `SipServer::poll`. -/
def SipServer.poll : Code Mutex Thread :=
  block [loop (block [log, log, either (perhaps GatewayApp.handleSipMessage) log]), perhaps log]

/-- `RtpWorker::loop`. -/
def RtpWorker.run (i : Nat) : Code Mutex Thread :=
  loop (perhaps (block [locked (.rtpWorker i) skip, perhaps GatewayApp.handleRtpPacket]))

namespace GatewayApp

def init : Code Mutex Thread :=
  block [locked .logger skip, RtpServer.init, RtpServer.setPacketHandler, SipServer.start]

def run : Code Mutex Thread :=
  block [spawn .cli, log, loop (block [SipServer.poll, cleanupTransactions]), log]

/-- The destructor. -/
def destroy : Code Mutex Thread := perhaps (join .cli)

end GatewayApp

/-- `main`, and behind it the destructors of the registry and the RTP server. -/
def main : Code Mutex Thread :=
  block [perhaps (block [GatewayApp.init, perhaps GatewayApp.run]), GatewayApp.destroy,
    loop CallSession.drop, loop (any RtpWorker.stop)]

def programs : Programs Mutex Thread where
  program
    | .main => main
    | .cli => GatewayApp.cliLoop
    | .rtpWorker i => RtpWorker.run i
    | .botReader _ => VoiceBotClient.readerLoop
    | .socketReader _ => AudioSocketClient.readerLoop
    | .recorder i => RecorderStage.workerLoop i
  handler := handleSignal

end Locking

end SipGateway
