import SipGateway.Infra.Machine
import SipGateway.App.Steps

/-!
# The SIP thread beside the command line

`GatewayApp::handleSipMessage` and `cut <id>` of `cliLoop`, taken apart at the methods of the
registry, the port pool and the session, which are the ones that take a lock.

The SIP thread has a place in the function and the local variable `session`. `removeCall` on the
command line is two steps: the tables first, then, with the registry still locked, the destructor
of a session nobody else refers to. A destructor that ends the process is not told from one that
comes to its end: the steps behind it are possible here, and make no difference to a run before it.
-/

namespace SipGateway

open Infra

/-- The local variable `session`, when it is not null. -/
inductive SessionRef where
  /-- the object that `calls_` has for the Call-ID -/
  | registered
  /-- an object that is not in `calls_` any more; there is no other reference to it -/
  | detached (session : CallSession)

/-- The place the SIP thread has reached. -/
inductive Place where
  /-- `getCall` -/
  | lookup
  /-- the transactions, and the chain over the methods -/
  | dispatch
  /-- `count` -/
  | count
  /-- `addCall` -/
  | add
  /-- the 100, and the parsing of the offer -/
  | offer
  /-- `allocatePort` -/
  | allocate (sdp : SdpSession)
  /-- `registerRtpPort` -/
  | register (sdp : SdpSession) (port : Int)
  /-- `SdpAnswer::generate`, and `startPipeline` or `releasePort` -/
  | answer (sdp : SdpSession) (port : Int)
  /-- `onSipMessage` -/
  | bye
  /-- `removeCall` -/
  | remove
  /-- the end of the function, where `session` goes -/
  | leave

/-- The places at which a method of the registry comes next. -/
def Place.locksRegistry : Place → Bool
  | .lookup | .count | .add | .register _ _ | .remove => true
  | _ => false

/-- A SIP message being handled. -/
structure Handling where
  msg : SipMessage
  session : Option SessionRef := none
  place : Place := .lookup

/-- Both threads; `cli` is a session whose destructor the command line has still to run. -/
structure Threads where
  gateway : Gateway
  sip : Option Handling := none
  cli : Option CallSession := none

namespace SessionRef

/-- The object referred to. -/
def get (gw : Gateway) (callId : Bytes) : SessionRef → Option CallSession
  | .registered => gw.registry.getCall callId
  | .detached session => some session

/-- A change to the object referred to. -/
def set (gw : Gateway) (callId : Bytes) (session : CallSession) :
    SessionRef → Gateway × SessionRef
  | .registered =>
    ({ gw with registry := gw.registry.setSession callId session }, .registered)
  | .detached _ => (gw, .detached session)

/-- `session->onSipMessage(msg, sender)`. -/
def onSipMessage (ref : SessionRef) (gw : Gateway) (msg : SipMessage) :
    Option (Gateway × SessionRef) :=
  (ref.get gw msg.getCallId).map fun session =>
    let (session, rtpServer) := session.onSipMessage msg gw.rtpServer
    ref.set { gw with rtpServer := rtpServer } msg.getCallId session

/-- `session->startPipeline(...)`; where it does not come to its end, the process has ended. -/
def startPipeline (ref : SessionRef) (gw : Gateway) (env : Env) (msg : SipMessage)
    (sdp : SdpSession) (port payloadType : Int) : Option (Gateway × SessionRef) := do
  let session ← ref.get gw msg.getCallId
  let session ← (session.startPipeline env gw.config port sdp.connectionIp
    (Gateway.remotePort sdp) payloadType).toOption
  pure (ref.set gw msg.getCallId session)

end SessionRef

/-- `transaction->sendResponse(res)`, for the transaction stored at the dispatch. -/
def Gateway.respond (gw : Gateway) (msg res : SipMessage) (now : Nat) : Gateway :=
  match gw.transactions[msg.txKey]? with
  | some tx =>
    { gw with transactions := gw.transactions.insert msg.txKey (tx.sendResponse res now) }
  | none => gw

namespace Handling

/-- Goes on at a place. -/
def goto (h : Handling) (place : Place) : Handling := { h with place := place }

/-- The chain over the methods, up to the next lock. -/
def branch (h : Handling) (gw : Gateway) (env : Env) : Gateway × Handling :=
  let reply (code : Int) (phrase : Bytes) : Gateway :=
    gw.respond h.msg (SipResponseBuilder.createResponse (env.system 1) h.msg code phrase)
      (env.now 1)
  match h.msg.method with
  | .invite => (gw, h.goto (if h.session.isNone then .count else .offer))
  | .bye => (reply 200 (bytes "OK"), h.goto (if h.session.isNone then .leave else .bye))
  | .cancel => (reply 200 (bytes "OK"), h.goto (if h.session.isNone then .leave else .remove))
  | .refer => (reply 202 (bytes "Accepted"), h.goto .leave)
  | .options => (reply 200 (bytes "OK"), h.goto .leave)
  | _ => (reply 501 (bytes "Not Implemented"), h.goto .leave)

/-- What happens under `transactionsMutex_` before the next lock. -/
def dispatch (h : Handling) (gw : Gateway) (env : Env) : Gateway × Handling :=
  if h.msg.isRequest then
    match gw.retransmission h.msg with
    | some _ => (gw, h.goto .leave)
    | none =>
      if h.msg.method = .ack then (gw.handleAck env h.msg, h.goto .leave)
      else
        h.branch { gw with
          transactions := gw.transactions.insert h.msg.txKey
            (SipTransaction.create h.msg (env.now 0)) } env
  else (gw.handleResponse env h.msg, h.goto .leave)

/-- `generate`, and what the answer leads to. -/
def answer (h : Handling) (gw : Gateway) (env : Env) (sdp : SdpSession) (port : Int) :
    Option (Gateway × Handling) :=
  let (sdpAnswer, codec) :=
    SdpAnswer.generate sdp gw.config.bindIp port gw.config.codecPreference
  if sdpAnswer.isEmpty then
    let gw := gw.respond h.msg (SipResponseBuilder.createResponse (env.system 1) h.msg 488
      (bytes "Not Acceptable Here")) (env.now 2)
    some ({ gw with rtpServer := gw.rtpServer.releasePort port }, h.goto .remove)
  else do
    let ref ← h.session
    let (gw, ref) ← ref.startPipeline gw env h.msg sdp port codec.payloadType
    pure (gw.respond h.msg (Gateway.okResponse gw.config env h.msg sdpAnswer) (env.now 2),
      { h with session := some ref, place := .leave })

/-- One step of the SIP thread, up to the end of the function. -/
def turn (h : Handling) (gw : Gateway) (env : Env) : Option (Gateway × Option Handling) :=
  let callId := h.msg.getCallId
  match h.place with
  | .lookup =>
    let session := (gw.registry.getCall callId).map fun _ => SessionRef.registered
    some (gw, some { h with session := session, place := .dispatch })
  | .dispatch => some ((h.dispatch gw env).1, some (h.dispatch gw env).2)
  | .count =>
    if gw.isFull then
      some (gw.respond h.msg (Gateway.busyHere env h.msg) (env.now 1), some (h.goto .leave))
    else some (gw, some (h.goto .add))
  | .add =>
    let session := (CallSession.create callId (env.system 0)).init h.msg
    let (registry, added) := gw.registry.addCall callId session
    let ref := if added then SessionRef.registered else .detached session
    some ({ gw with registry := registry }, some { h with session := some ref, place := .offer })
  | .offer =>
    let gw := gw.respond h.msg (Gateway.trying env h.msg) (env.now 1)
    match SdpParser.parse h.msg.body with
    | .error _ => none
    | .ok none =>
      some (gw.respond h.msg (SipResponseBuilder.createResponse (env.system 1) h.msg 400
        (bytes "Bad Request (No SDP)")) (env.now 2), some (h.goto .remove))
    | .ok (some sdp) => some (gw, some (h.goto (.allocate sdp)))
  | .allocate sdp =>
    let (rtpServer, port) := gw.rtpServer.allocatePort env.net
    let gw := { gw with rtpServer := rtpServer }
    if port < 0 then
      some (gw.respond h.msg (SipResponseBuilder.createResponse (env.system 1) h.msg 500
        (bytes "Internal Server Error (No Ports)")) (env.now 2), some (h.goto .remove))
    else some (gw, some (h.goto (.register sdp port)))
  | .register sdp port =>
    some ({ gw with registry := gw.registry.registerRtpPort port callId },
      some (h.goto (.answer sdp port)))
  | .answer sdp port => (h.answer gw env sdp port).map fun r => (r.1, some r.2)
  | .bye => do
    let ref ← h.session
    let (gw, ref) ← ref.onSipMessage gw h.msg
    pure (gw, some { h with session := some ref, place := .remove })
  | .remove =>
    -- the object outlives its entry in `calls_` until `session` goes
    let session := match h.session with
      | some .registered => (gw.registry.getCall callId).map SessionRef.detached
      | ref => ref
    some ({ gw with registry := gw.registry.removeCall callId },
      some { h with session := session, place := .leave })
  | .leave =>
    match h.session with
    | some (.detached session) =>
      some ({ gw with rtpServer := (session.terminate gw.rtpServer).2 }, none)
    | _ => some (gw, none)

end Handling

namespace Threads

/-- What happens next. -/
inductive Event where
  /-- `handleSipMessage` is called -/
  | arrive (msg : Received)
  /-- the SIP thread makes its next step -/
  | turn (env : Env)
  /-- `cleanupTransactions`, on the SIP thread too -/
  | cleanup (env : Env)
  /-- `removeCall` on the command line -/
  | cut (callId : Bytes)
  /-- the destructor `removeCall` runs there -/
  | destroy

/-- The registry is locked while the command line runs a destructor. -/
def locked (w : Threads) : Bool := w.cli.isSome

/-- Whether an event can come next. -/
def canHappen (w : Threads) : Event → Bool
  | .arrive _ | .cleanup _ => w.sip.isNone
  | .turn _ => w.sip.any fun h => !(h.place.locksRegistry && w.locked)
  | .cut _ => !w.locked
  | .destroy => w.locked

/-- Whether the SIP thread refers to the registered object of a call. -/
def refersTo (w : Threads) (callId : Bytes) : Bool :=
  w.sip.any fun h => h.msg.getCallId = callId && h.session matches some .registered

/-- `CallRegistry::removeCall`, on the command line. -/
def cut (w : Threads) (callId : Bytes) : Threads :=
  let gateway := { w.gateway with registry := w.gateway.registry.removeCall callId }
  if w.refersTo callId then
    { gateway := gateway
      sip := w.sip.map fun h =>
        { h with session := (w.gateway.registry.getCall callId).map SessionRef.detached }
      cli := w.cli }
  else { gateway := gateway, sip := w.sip, cli := w.gateway.registry.getCall callId }

def step (w : Threads) : Event → Option Threads
  | .arrive msg =>
    some { w with sip := if msg.val.getCallId.isEmpty then none else some { msg := msg.val } }
  | .turn env =>
    w.sip.bind fun h => (h.turn w.gateway env).map fun r => { w with gateway := r.1, sip := r.2 }
  | .cleanup env => some { w with gateway := w.gateway.cleanupTransactions env }
  | .cut callId => some (w.cut callId)
  | .destroy =>
    w.cli.map fun session =>
      { w with
        gateway := { w.gateway with rtpServer := (session.terminate w.gateway.rtpServer).2 }
        cli := none }

/-- An initialised gateway, both threads outside of the functions. -/
def start (config : Config) (hardwareConcurrency : Nat) : Threads where
  gateway :=
    { config := config
      rtpServer := RtpServer.init config.rtpPortStart config.rtpPortEnd 0 hardwareConcurrency }

/-- The two threads in any interleaving. -/
def machine (config : Config) (hardwareConcurrency : Nat) : Machine Threads Event where
  init w := w = start config hardwareConcurrency
  enabled w e := w.canHappen e = true
  step := step

instance (config : Config) (hardwareConcurrency : Nat) (w : Threads) (e : Event) :
    Decidable ((machine config hardwareConcurrency).enabled w e) :=
  inferInstanceAs (Decidable (w.canHappen e = true))

end Threads

end SipGateway
