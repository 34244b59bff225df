import SipGateway.Sip.Transaction
import SipGateway.Sdp.Answer
import SipGateway.Call.Registry

/-!
# The gateway

`GatewayApp.cpp`: the dispatcher for SIP messages, the clean-up of transactions, the command
line and the delivery of packets, over the registry, the port pool and the transaction table.

Every function here is one event handled to completion. The sessions and transactions of the
source are shared objects; here they live in the tables and are written back.
The `Except.error` of a step is the end of the process: an uncaught exception, or a reader thread
that is destroyed while it is joinable.
-/

namespace SipGateway

open Infra

/-- `class GatewayApp`, with the singletons it works on. -/
structure Gateway where
  config : Config := {}
  registry : CallRegistry := {}
  rtpServer : RtpServer := {}
  transactions : Std.ExtTreeMap Bytes SipTransaction := ∅
  /-- `static lastCleanup`, set by the first call of `cleanupTransactions` -/
  lastCleanup : Option Nat := none

/-- A response and where it is sent. -/
abbrev Sent := SipMessage × SockAddr

/-- `callId + ":" + branch + ":" + method`. -/
def makeKey (callId branch method : Bytes) : Bytes :=
  callId ++ [colon] ++ branch ++ [colon] ++ method

namespace SipMessage

/-- `txKey`. -/
def txKey (msg : SipMessage) : Bytes := makeKey msg.getCallId msg.getBranch msg.methodStr

/-- `inviteTxKey`. -/
def inviteTxKey (msg : SipMessage) : Bytes :=
  makeKey msg.getCallId msg.getBranch (bytes "INVITE")

end SipMessage

namespace Gateway

/-- The last reference to a session goes with `removeCall`, and the destructor terminates it. -/
def dropCall (gw : Gateway) (callId : Bytes) : Gateway :=
  { gw with
    registry := gw.registry.removeCall callId
    rtpServer := match gw.registry.getCall callId with
      | some session => (session.terminate gw.rtpServer).2
      | none => gw.rtpServer }

/-- What becomes of the process then: the session drops its clients. -/
def destroyCall (gw : Gateway) (callId : Bytes) : Except Fatal Unit :=
  match gw.registry.getCall callId with
  | some session => session.destroy
  | none => .ok ()

/-! ## Requests -/

/-- An `int` that is compared with a `size_t`. -/
def sizeT (v : Int) : Nat := (v % 18446744073709551616).toNat

/-- `count() >= maxCalls`. -/
def isFull (gw : Gateway) : Bool := gw.registry.count ≥ sizeT gw.config.maxCalls

/-- The session an INVITE works on: the registered one, or a new one unless the gateway is full. -/
def openCall (gw : Gateway) (env : Env) (msg : SipMessage) : Option (Gateway × CallSession) :=
  match gw.registry.getCall msg.getCallId with
  | some session => some (gw, session)
  | none =>
    if gw.isFull then none
    else
      let session := (CallSession.create msg.getCallId (env.system 0)).init msg
      some ({ gw with registry := (gw.registry.addCall msg.getCallId session).1 }, session)

/-- The loop over the media: the port of the last audio section. -/
def remotePort (sdp : SdpSession) : Int :=
  sdp.media.foldl (fun port m => if m.type = bytes "audio" then m.port else port) 0

/-- The `200 OK` with the answer. -/
def okResponse (config : Config) (env : Env) (msg : SipMessage) (sdpAnswer : Bytes) : SipMessage :=
  let res := SipResponseBuilder.createResponse (env.system 1) msg 200 (bytes "OK")
  let res := res.addHeader (bytes "Content-Type") (bytes "application/sdp")
  let res := res.addHeader (bytes "Contact")
    (bytes "<sip:" ++ config.bindIp ++ [colon] ++ decimal config.sipPort ++ bytes ">")
  { res with body := sdpAnswer }

/-- What follows the parsing of the offer: the gateway, and the final response. -/
def answerOffer (gw : Gateway) (env : Env) (msg : SipMessage) (session : CallSession)
    (sdp : SdpSession) : Except Fatal (Gateway × SipMessage) :=
  let callId := msg.getCallId
  let (rtpServer, localRtpPort) := gw.rtpServer.allocatePort env.net
  let gw := { gw with rtpServer := rtpServer }
  if localRtpPort < 0 then
    -- also when the call was there before this INVITE
    .ok (gw.dropCall callId,
      SipResponseBuilder.createResponse (env.system 1) msg 500
        (bytes "Internal Server Error (No Ports)"))
  else
    let gw := { gw with registry := gw.registry.registerRtpPort localRtpPort callId }
    let (sdpAnswer, codec) :=
      SdpAnswer.generate sdp gw.config.bindIp localRtpPort gw.config.codecPreference
    if sdpAnswer.isEmpty then
      .ok ({ gw with rtpServer := gw.rtpServer.releasePort localRtpPort }.dropCall callId,
        SipResponseBuilder.createResponse (env.system 1) msg 488 (bytes "Not Acceptable Here"))
    else do
      -- the port that a registered session already has is not released
      let session ← session.startPipeline env gw.config localRtpPort sdp.connectionIp
        (remotePort sdp) codec.payloadType
      pure ({ gw with registry := gw.registry.setSession callId session },
        okResponse gw.config env msg sdpAnswer)

/-- A request being executed: the gateway, its transaction, and what was sent for it. -/
structure Reply where
  gateway : Gateway
  transaction : SipTransaction
  sent : List SipMessage := []

/-- `transaction->sendResponse(res); sipServer_->sendResponse(res, sender);` -/
def Reply.respond (r : Reply) (res : SipMessage) (now : Nat) : Reply :=
  { r with transaction := r.transaction.sendResponse res now, sent := r.sent ++ [res] }

/-- The end of the process inside a step, and the responses that were sent before it. -/
structure Death where
  cause : Fatal
  sent : List SipMessage

/-- The INVITE branch. -/
def handleInvite (gw : Gateway) (env : Env) (msg : SipMessage) (tx : SipTransaction) :
    Except Death Reply :=
  match gw.openCall env msg with
  | none =>
    .ok (Reply.respond { gateway := gw, transaction := tx }
      (SipResponseBuilder.createResponse (env.system 1) msg 486 (bytes "Busy Here")) (env.now 1))
  | some (gw, session) =>
    let r : Reply := Reply.respond { gateway := gw, transaction := tx }
      (SipResponseBuilder.createResponse (env.system 1) msg 100 (bytes "Trying")) (env.now 1)
    match SdpParser.parse msg.body with
    | .error e => .error { cause := .uncaught e, sent := r.sent }
    | .ok none =>
      .ok ({ r with gateway := gw.dropCall msg.getCallId }.respond
        (SipResponseBuilder.createResponse (env.system 1) msg 400 (bytes "Bad Request (No SDP)"))
        (env.now 2))
    | .ok (some sdp) =>
      match gw.answerOffer env msg session sdp with
      | .error cause => .error { cause := cause, sent := r.sent }
      | .ok (gw, res) => .ok ({ r with gateway := gw }.respond res (env.now 2))

/-- The BYE branch, behind its response. -/
def endCall (gw : Gateway) (msg : SipMessage) : Gateway :=
  match gw.registry.getCall msg.getCallId with
  | none => gw
  | some session =>
    let (session, rtpServer) := session.onSipMessage msg gw.rtpServer
    { gw with
      registry := gw.registry.setSession msg.getCallId session
      rtpServer := rtpServer }.dropCall msg.getCallId

/-- The CANCEL branch, behind its response. -/
def cancelCall (gw : Gateway) (msg : SipMessage) : Gateway :=
  match gw.registry.getCall msg.getCallId with
  | none => gw
  | some _ => gw.dropCall msg.getCallId

/-- The branches with one response: its code and phrase, and what becomes of the gateway. -/
def simpleBranch (gw : Gateway) (msg : SipMessage) : Int × Bytes × Gateway :=
  match msg.method with
  | .bye => (200, bytes "OK", gw.endCall msg)
  | .cancel => (200, bytes "OK", gw.cancelCall msg)
  | .refer => (202, bytes "Accepted", gw)
  | .options => (200, bytes "OK", gw)
  | _ => (501, bytes "Not Implemented", gw)

/-- The chain over the methods, for every method but ACK. -/
def execute (gw : Gateway) (env : Env) (msg : SipMessage) (tx : SipTransaction) :
    Except Death Reply :=
  if msg.method = .invite then gw.handleInvite env msg tx
  else
    let (code, phrase, gw') := gw.simpleBranch msg
    .ok (Reply.respond { gateway := gw', transaction := tx }
      (SipResponseBuilder.createResponse (env.system 1) msg code phrase) (env.now 1))

/-- What is sent without executing a request whose key is in the table. -/
def retransmission (gw : Gateway) (msg : SipMessage) : Option (List SipMessage) :=
  match gw.transactions[msg.txKey]? with
  | none => none
  | some tx =>
    match if tx.shouldResendResponse msg then tx.lastResponse else none with
    | some res => some [res]
    -- an ACK goes on, although its key is in the table
    | none => if msg.method ≠ .ack then some [] else none

/-- The ACK branch. -/
def handleAck (gw : Gateway) (env : Env) (msg : SipMessage) : Gateway :=
  match gw.transactions[msg.inviteTxKey]? with
  | some tx =>
    { gw with transactions :=
        gw.transactions.insert msg.inviteTxKey (tx.receiveRequest msg (env.now 1)) }
  | none => gw

/-- The branch for responses; they have no method, so their key ends in a colon. -/
def handleResponse (gw : Gateway) (env : Env) (msg : SipMessage) : Gateway :=
  match gw.transactions[msg.txKey]? with
  | some tx =>
    { gw with
      transactions := gw.transactions.insert msg.txKey (tx.receiveResponse msg (env.now 0)) }
  | none => gw

/-- The end of the handler, where a session goes that is not registered any more. -/
def leave (gw : Gateway) (callId : Bytes) (r : Reply) : Except Death Reply :=
  if r.gateway.registry.getCall callId = none then
    match gw.destroyCall callId with
    | .error cause => .error { cause := cause, sent := r.sent }
    | .ok _ => .ok r
  else .ok r

/-- `GatewayApp::handleSipMessage`: the gateway, and what was sent, in order. -/
def handleSipMessage (gw : Gateway) (env : Env) (msg : SipMessage) (sender : SockAddr) :
    Except Death (Gateway × List Sent) :=
  if msg.getCallId.isEmpty then .ok (gw, [])
  else if msg.isRequest then
    match gw.retransmission msg with
    | some sent => .ok (gw, sent.map (·, sender))
    | none =>
      if msg.method = .ack then .ok (gw.handleAck env msg, [])
      else do
        -- the source stores the transaction first; no branch but that of ACK looks at the table
        let r ← gw.execute env msg (SipTransaction.create msg (env.now 0))
        let r ← gw.leave msg.getCallId r
        pure ({ r.gateway with
            transactions := r.gateway.transactions.insert msg.txKey r.transaction },
          r.sent.map (·, sender))
  else .ok (gw.handleResponse env msg, [])

/-- One round of `SipServer::poll`: an empty datagram is skipped, one that is no message dropped. -/
def receive (gw : Gateway) (env : Env) (datagram : Bytes) (sender : SockAddr) :
    Except Death (Gateway × List Sent) :=
  if datagram.isEmpty then .ok (gw, [])
  else
    match SipParser.parse datagram with
    | .error e => .error { cause := .uncaught e, sent := [] }
    | .ok none => .ok (gw, [])
    | .ok (some msg) => gw.handleSipMessage env msg sender

/-! ## Everything else that happens -/

/-- Whether the clean-up takes a transaction out; ages are in whole seconds. -/
def expired (now : Nat) (tx : SipTransaction) : Bool :=
  let age := (now - tx.lastActive) / 1000000000
  ((tx.state = .terminated || tx.state = .completed || tx.state = .confirmed) && age > 32) ||
    age > 64

/-- `GatewayApp::cleanupTransactions`; it does its work at most every five seconds. -/
def cleanupTransactions (gw : Gateway) (env : Env) : Gateway :=
  let lastCleanup := gw.lastCleanup.getD (env.now 0)
  let now := env.now 1
  if (now - lastCleanup) / 1000000000 < 5 then { gw with lastCleanup := some lastCleanup }
  else
    { gw with
      lastCleanup := some now
      transactions := gw.transactions.filter fun _ tx => !expired now tx }

/-- `GatewayApp::handleRtpPacket`, and the socket the answer leaves through. -/
def handleRtpPacket (gw : Gateway) (localPort : Int) (pkt : RtpPacket) (sender : SockAddr) :
    Gateway × Option (Int × RtpPacket × SockAddr) :=
  match gw.registry.portMap[localPort]?, gw.registry.getCallByPort localPort with
  | some callId, some session =>
    let (session, out) := session.onRtpPacket pkt sender
    ({ gw with registry := gw.registry.setSession callId session },
      out.bind fun out =>
        (gw.rtpServer.send out.localPort).map fun fd => (fd, out.packet, out.dest))
  | _, _ => (gw, none)

/-- A thread behind a stage of a session has something to hand over. -/
def handleMedia (gw : Gateway) (callId : Bytes) (ev : CallSession.MediaEvent) : Gateway :=
  match gw.registry.getCall callId with
  | some session => { gw with registry := gw.registry.setSession callId (session.onMedia ev) }
  | none => gw

/-- One line of `cliLoop`; `list`, `exit` and `quit` change nothing here. -/
def cliLine (gw : Gateway) (line : Bytes) : Gateway :=
  if (bytes "cut ").isPrefixOf line then gw.dropCall (line.drop 4) else gw

/-- What becomes of the process at the line. -/
def cliSurvives (gw : Gateway) (line : Bytes) : Except Fatal Unit :=
  if (bytes "cut ").isPrefixOf line then gw.destroyCall (line.drop 4) else .ok ()

end Gateway

end SipGateway
