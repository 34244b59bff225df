import SipGateway.Call.Session
import SipGateway.Media.Shutdown

/-!
# The objects of a session

`CallSession::startPipeline` and `terminate` once more, as what they do to objects with reference
counts. The session refers to its pipeline and its clients, a pipeline to its stages, a bridge
stage to its client, and a packet inside `processRtpFrame` to the pipeline it found. A client has
no reference to a stage: its audio callback captured the bare `this` of the one it was given to.

The thread inside `startPipeline` or `terminate` holds the lock and goes from one assignment of a
member to the next. The reader threads take no lock, and a packet only to copy the reference.
What goes through the stages and over the connections is left out.
-/

namespace SipGateway

open Infra

abbrev ClientId := Nat
abbrev StageId := Nat
abbrev PipelineId := Nat

/-! ## Clients -/

/-- Which of `botClient_` and `tcpClient_`. -/
inductive Peer where
  | bot
  | tcp
deriving DecidableEq, Repr

/-- The member that `startPipeline` sets in a mode. -/
def GatewayMode.peer : GatewayMode → Option Peer
  | .grpc => some .bot
  | .audiosocket => some .tcp
  | .echo => none

/-- A client of either kind in its life. -/
inductive ClientLife where
  | bot (life : Lifetime VoiceBotClient Bool)
  | tcp (life : Lifetime AudioSocketClient SocketAnswers)

/-- `LifeEvent`, for both kinds. -/
inductive ClientEvent where
  | connect (env : Env)
  | stop
  | destroy
  | advance
  | readerTests
  | botReads (action : Option Unit)
  | socketReads (frame : Option AudioSocketFrame)
  | readerClears

namespace ClientEvent

def forBot : ClientEvent → Option (LifeEvent Bool Unit)
  | .connect env => some (.connect env.botStream)
  | .stop => some .stop
  | .destroy => some .destroy
  | .advance => some .advance
  | .readerTests => some .readerTests
  | .botReads action => some (.readerReceives action)
  | .socketReads _ => none
  | .readerClears => some .readerClears

def forTcp : ClientEvent → Option (LifeEvent SocketAnswers AudioSocketFrame)
  | .connect env =>
    some (.connect { sock := env.tcpSocket, connects := env.tcpConnects, epoch := env.epoch })
  | .stop => some .stop
  | .destroy => some .destroy
  | .advance => some .advance
  | .readerTests => some .readerTests
  | .botReads _ => none
  | .socketReads frame => some (.readerReceives frame)
  | .readerClears => some .readerClears

/-- Not a call somebody makes on the client. -/
def byItself : ClientEvent → Bool
  | .connect _ | .stop | .destroy => false
  | _ => true

end ClientEvent

/-- The reader thread can call the audio callback; it is `receiving` until the callback is back. -/
def Lifetime.mayCall {C A : Type} (s : Lifetime C A) : Bool :=
  s.reader = some .testing || s.reader = some .receiving

namespace ClientLife

def peer : ClientLife → Peer
  | .bot _ => .bot
  | .tcp _ => .tcp

def owner : ClientLife → OwnerPc
  | .bot life => life.owner
  | .tcp life => life.owner

def reader : ClientLife → Option ReaderPc
  | .bot life => life.reader
  | .tcp life => life.reader

def attempted : ClientLife → Bool
  | .bot life => life.attempted
  | .tcp life => life.attempted

def connected : ClientLife → Bool
  | .bot life => life.connected.isSome
  | .tcp life => life.connected.isSome

def mayCall : ClientLife → Bool
  | .bot life => life.mayCall
  | .tcp life => life.mayCall

def enabled : ClientLife → ClientEvent → Bool
  | .bot life, e => e.forBot.any (ThreadedClient.enabled life)
  | .tcp life, e => e.forTcp.any (ThreadedClient.enabled life)

def step : ClientLife → ClientEvent → Option ClientLife
  | .bot life, e => e.forBot.bind fun e => (voiceBotThreads.step life e).map .bot
  | .tcp life, e => e.forTcp.bind fun e => (audioSocketThreads.step life e).map .tcp

/-- `std::make_shared<VoiceBotClient>(..)` or `std::make_shared<AudioSocketClient>(..)`. -/
def create (config : Config) (session : CallSession) : Peer → ClientLife
  | .bot => .bot { client := { target := config.grpcTarget, callId := session.callId } }
  | .tcp => .tcp { client :=
      { target := config.audiosocketTarget, callId := session.callId,
        fromUser := session.fromUser, toUser := session.toUser } }

end ClientLife

/-- A client; `audioCb` is the stage its callback captured. -/
structure ClientObject where
  life : ClientLife
  audioCb : Option StageId := none

namespace ClientObject

/-- The reader thread can run code of this stage. -/
def CallsInto (c : ClientObject) (stage : StageId) : Prop :=
  c.life.mayCall = true ∧ c.audioCb = some stage

/-- The last reference goes: the destructor begins. -/
def destroy (c : ClientObject) : ClientObject :=
  { c with life := (c.life.step .destroy).getD c.life }

end ClientObject

/-! ## The session -/

/-- Where the thread that has the lock is. -/
inductive SessionPc where
  | idle
  /-- `pipeline_ = std::make_shared<MediaPipeline>()` -/
  | newPipeline
  /-- `botClient_ = ..` or `tcpClient_ = ..`, or the echo stage -/
  | newClient
  /-- `if (..->connect())` -/
  | connecting
  /-- `addStage`, with the stage that takes the client -/
  | addCore
  | addRecorder
  /-- `if (botClient_) botClient_->stop()`, and alike for `tcpClient_` -/
  | stopping (peer : Peer)
  /-- `stop` is back: `botClient_ = nullptr`, and alike for `tcpClient_` -/
  | dropping (peer : Peer)
  /-- `pipeline_ = nullptr` -/
  | dropPipeline
deriving DecidableEq, Repr

/--
A session and the objects made for it, each named by its number.

Of a stage there is the client it keeps, of a pipeline its stages; `frames` are the copies of
`pipeline_` that packets hold. The thread with the lock waits in `stop`, or in the destructor, of
the clients in `waiting`.
-/
structure SessionObjects where
  clients : List ClientObject := []
  stages : List (Option ClientId) := []
  pipelines : List (List StageId) := []
  pipeline : Option PipelineId := none
  botClient : Option ClientId := none
  tcpClient : Option ClientId := none
  frames : List PipelineId := []
  pc : SessionPc := .idle
  waiting : List ClientId := []

namespace SessionObjects

def member (s : SessionObjects) : Peer → Option ClientId
  | .bot => s.botClient
  | .tcp => s.tcpClient

def setMember (s : SessionObjects) (client : Option ClientId) : Peer → SessionObjects
  | .bot => { s with botClient := client }
  | .tcp => { s with tcpClient := client }

/-! ### References -/

/-- The stages somebody still refers to, through `pipeline_` or through a packet's copy. -/
def referencedStages (s : SessionObjects) : List StageId :=
  (s.pipeline.toList ++ s.frames).flatMap fun p => s.pipelines[p]?.getD []

def referencedClients (s : SessionObjects) : List ClientId :=
  s.botClient.toList ++ s.tcpClient.toList ++
    s.referencedStages.filterMap fun stage => s.stages[stage]?.join

/-- The clients whose last reference has gone. -/
def dying (s : SessionObjects) : List ClientId :=
  (List.range s.clients.length).filter fun k =>
    k ∉ s.referencedClients && s.clients[k]?.any fun c => c.life.owner = .idle

/-- Their destructors begin. -/
def collect (s : SessionObjects) : SessionObjects :=
  { s with clients := s.clients.mapIdx fun k c => if k ∈ s.dying then c.destroy else c }

/-- The same in the thread with the lock, which waits for them. -/
def release (s : SessionObjects) : SessionObjects :=
  { s.collect with waiting := s.dying }

/-! ### Steps -/

/-- `pipeline_->addStage(..)`, with a stage that was just constructed. -/
def addStage (s : SessionObjects) (client : Option ClientId) : SessionObjects :=
  { s with
    stages := s.stages ++ [client]
    pipelines := match s.pipeline with
      | some p => s.pipelines.modify p (· ++ [s.stages.length])
      | none => s.pipelines }

/-- `client_->setAudioCallback([this] ..)`. -/
def setAudioCallback (s : SessionObjects) (k : ClientId) (stage : StageId) : SessionObjects :=
  { s with clients := s.clients.modify k fun c => { c with audioCb := some stage } }

/--
A step of a client.

A destructor that is through with a thread still joinable ends the process.
-/
def clientStep (s : SessionObjects) (k : ClientId) (e : ClientEvent) : Option SessionObjects := do
  let c ← s.clients[k]?
  let life ← c.life.step e
  if life.owner = .destroyed ∧ life.reader ≠ none then none
  else some { s with clients := s.clients.set k { c with life := life } }

/-- `terminate` behind its block for a client. -/
def afterDrop : Peer → SessionPc
  | .bot => .stopping .tcp
  | .tcp => .dropPipeline

/-- The next statement of `startPipeline` or `terminate`. -/
def advance (config : Config) (session : CallSession) (s : SessionObjects) (env : Env) :
    Option SessionObjects :=
  match s.pc with
  | .idle => some s
  | .newPipeline =>
    some { s with
      pipelines := s.pipelines ++ [[]]
      pipeline := some s.pipelines.length
      pc := .newClient }.release
  | .newClient =>
    match config.mode.peer with
    | some peer =>
      let client : ClientObject := { life := .create config session peer }
      some ({ s with clients := s.clients ++ [client], pc := .connecting }.setMember
        (some s.clients.length) peer).release
    | none => some { s.addStage none with pc := .addRecorder }
  | .connecting => do
    let k ← config.mode.peer.bind s.member
    let s ← s.clientStep k (.connect env)
    pure { s with
      pc := if s.clients[k]?.any (·.life.connected) then .addCore else .addRecorder }
  | .addCore => do
    let k ← config.mode.peer.bind s.member
    -- the constructor of the stage sets the callback
    pure { (s.setAudioCallback k s.stages.length).addStage (some k) with pc := .addRecorder }
  | .addRecorder =>
    some { if config.recordingMode then s.addStage none else s with pc := .idle }
  | .stopping peer =>
    match s.member peer with
    | some k => (s.clientStep k .stop).map ({ · with waiting := [k], pc := .dropping peer })
    | none => some { s with pc := afterDrop peer }
  | .dropping peer => some ({ s with pc := afterDrop peer }.setMember none peer).release
  | .dropPipeline => some { s with pipeline := none, pc := .idle }.release

/-- Nobody the thread with the lock waits for is inside `stop`. -/
def returned (s : SessionObjects) : Bool :=
  s.waiting.all fun k =>
    s.clients[k]?.all fun c => c.life.owner = .idle || c.life.owner = .destroyed

inductive Event where
  | startPipeline
  | terminate
  | advance (env : Env)
  /-- a packet copies `pipeline_`, under the lock -/
  | frameStart
  | frameEnd (p : PipelineId)
  | client (k : ClientId) (e : ClientEvent)

def enabled (s : SessionObjects) : Event → Bool
  | .startPipeline | .terminate => s.pc = .idle
  | .advance _ => s.pc ≠ .idle && s.returned
  | .frameStart => s.pc = .idle && s.pipeline.isSome
  | .frameEnd p => p ∈ s.frames
  | .client k e => e.byItself && s.clients[k]?.any (·.life.enabled e)

def step (config : Config) (session : CallSession) (s : SessionObjects) :
    Event → Option SessionObjects
  | .startPipeline => some { s with pc := .newPipeline }
  | .terminate => some { s with pc := .stopping .bot }
  | .advance env => s.advance config session env
  | .frameStart => some { s with frames := s.pipeline.toList ++ s.frames }
  | .frameEnd p => some { s with frames := s.frames.erase p }.collect
  | .client k e => s.clientStep k e

/-- A session from its construction on, in a gateway with this configuration. -/
def machine (config : Config) (session : CallSession) : Machine SessionObjects Event where
  init s := s = {}
  enabled s e := s.enabled e = true
  step := step config session

/-- The reader thread of a client is running and can run code of a stage. -/
def CanCall (s : SessionObjects) (k : ClientId) (stage : StageId) : Prop :=
  ∃ c, s.clients[k]? = some c ∧ c.CallsInto stage

/-- No reader thread can call into a stage that nobody refers to any more. -/
def CallbacksSafe (s : SessionObjects) : Prop :=
  ∀ k stage, s.CanCall k stage → stage ∈ s.referencedStages

end SessionObjects

end SipGateway
