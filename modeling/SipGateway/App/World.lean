import SipGateway.Infra.Machine
import SipGateway.App.Steps

/-!
# Runs of the gateway

The gateway as a machine. Its events are SIP messages, turns of the clean-up, lines on the
command line, RTP packets and what the threads behind the stages hand over, in any order.

Beside the gateway a state keeps what a run has been like so far: the SIP messages handled with
what was sent for each, and a record of every executed request with its transaction object.
No function of the gateway reads these.
-/

namespace SipGateway

open Infra

/-- One event, without what the system answers meanwhile. -/
inductive Action where
  | sip (msg : Received) (sender : SockAddr)
  | cleanup
  | cli (line : Bytes)
  | rtp (localPort : Int) (pkt : RtpPacket) (sender : SockAddr)
  | media (callId : Bytes) (ev : CallSession.MediaEvent)

structure Event where
  env : Env
  action : Action

/-- A handled SIP message and what was sent in its step. -/
structure TraceEntry where
  msg : SipMessage
  sent : List Sent

/-- The responses of an entry, without their addresses. -/
def TraceEntry.responses (entry : TraceEntry) : List SipMessage := entry.sent.map Prod.fst

/--
An executed request: the index of its step in the trace, what identifies it, and its transaction
object, as it was when it was last in the table (`stored` while it still is).
-/
structure ExecutedRequest where
  step : Nat
  callId : Bytes
  branch : Bytes
  method : Bytes
  transaction : SipTransaction
  stored : Bool

namespace ExecutedRequest

def key (x : ExecutedRequest) : Bytes := makeKey x.callId x.branch x.method

/-- Looks at the table again. -/
def refresh (gw : Gateway) (x : ExecutedRequest) : ExecutedRequest :=
  if x.stored then
    match gw.transactions[x.key]? with
    | some tx => { x with transaction := tx }
    | none => { x with stored := false }
  else x

/-- Whether a request has the Call-ID, the topmost Via branch and the method of this one. -/
def SameIds (x : ExecutedRequest) (msg : SipMessage) : Prop :=
  msg.getCallId = x.callId ∧ msg.getBranch = x.branch ∧ msg.methodStr = x.method

instance (x : ExecutedRequest) (msg : SipMessage) : Decidable (x.SameIds msg) :=
  inferInstanceAs (Decidable (_ ∧ _ ∧ _))

end ExecutedRequest

structure World where
  gateway : Gateway
  clock : Nat := 0
  trace : List TraceEntry := []
  executed : List ExecutedRequest := []

namespace World

/-- The record of a request that is executed in the next step. -/
def recordOf (w : World) (msg : SipMessage) (tx : SipTransaction) : ExecutedRequest where
  step := w.trace.length
  callId := msg.getCallId
  branch := msg.getBranch
  method := msg.methodStr
  transaction := tx
  stored := true

/-- The records a SIP message adds: one, if it is a request that is executed. -/
def newlyExecuted (w : World) (msg : SipMessage) (gw' : Gateway) : List ExecutedRequest :=
  if msg.getCallId ≠ [] ∧ msg.isRequest ∧ msg.method ≠ .ack ∧
      w.gateway.transactions[msg.txKey]? = none then
    (gw'.transactions[msg.txKey]?.map fun tx => w.recordOf msg tx).toList
  else []

/-- The state after a SIP message. -/
def afterSip (w : World) (env : Env) (msg : SipMessage) (r : Gateway × List Sent) : World where
  gateway := r.1
  clock := env.now 2
  trace := w.trace ++ [{ msg := msg, sent := r.2 }]
  executed := w.executed.map (·.refresh r.1) ++ w.newlyExecuted msg r.1

/-- The state after anything else. -/
def afterOther (w : World) (env : Env) (gw' : Gateway) : World where
  gateway := gw'
  clock := env.now 2
  trace := w.trace
  executed := w.executed.map (·.refresh gw')

/--
One event. The process ends with an exception in the handler of a SIP message, and with a reader
thread that is destroyed unjoined in the handler or at the command line.
-/
def step (w : World) (e : Event) : Option World :=
  match e.action with
  | .sip msg sender =>
    match w.gateway.handleSipMessage e.env msg.val sender with
    | .ok r => some (w.afterSip e.env msg.val r)
    | .error _ => none
  | .cleanup => some (w.afterOther e.env (w.gateway.cleanupTransactions e.env))
  | .cli line =>
    match w.gateway.cliSurvives line with
    | .ok _ => some (w.afterOther e.env (w.gateway.cliLine line))
    | .error _ => none
  | .rtp localPort pkt sender =>
    some (w.afterOther e.env (w.gateway.handleRtpPacket localPort pkt sender).1)
  | .media callId ev => some (w.afterOther e.env (w.gateway.handleMedia callId ev))

/-- An initialised gateway: the port pool for the configuration, and no calls. -/
def start (config : Config) (hardwareConcurrency : Nat) : World where
  gateway :=
    { config := config
      rtpServer := RtpServer.init config.rtpPortStart config.rtpPortEnd 0 hardwareConcurrency }

/-- The gateway as a machine. The clock never goes back. -/
def machine (config : Config) (hardwareConcurrency : Nat) : Machine World Event where
  init w := w = start config hardwareConcurrency
  enabled w e := w.clock ≤ e.env.start
  step := step

instance (config : Config) (hardwareConcurrency : Nat) (w : World) (e : Event) :
    Decidable ((machine config hardwareConcurrency).enabled w e) :=
  inferInstanceAs (Decidable (w.clock ≤ e.env.start))

/-! ## Steps -/

/-- What the steps other than SIP messages do to the gateway. -/
inductive Other (gw : Gateway) (env : Env) : Gateway → Prop where
  | cleanup : Other gw env (gw.cleanupTransactions env)
  | cli (line : Bytes) : Other gw env (gw.cliLine line)
  | rtp (localPort : Int) (pkt : RtpPacket) (sender : SockAddr) :
      Other gw env (gw.handleRtpPacket localPort pkt sender).1
  | media (callId : Bytes) (ev : CallSession.MediaEvent) : Other gw env (gw.handleMedia callId ev)

/-- The two kinds of steps. -/
inductive Stepped (w : World) (e : Event) : World → Prop where
  | sip (msg : Received) (sender : SockAddr) (r : Gateway × List Sent)
      (hact : e.action = .sip msg sender)
      (hr : Gateway.Handled w.gateway e.env msg.val sender r) :
      Stepped w e (w.afterSip e.env msg.val r)
  | other (gw' : Gateway) (hact : ∀ msg sender, e.action ≠ .sip msg sender)
      (h : Other w.gateway e.env gw') : Stepped w e (w.afterOther e.env gw')

theorem step_stepped {w w' : World} {e : Event} (h : w.step e = some w') : Stepped w e w' := by
  unfold step at h
  split at h
  · next msg sender hact =>
    split at h
    · next r hr =>
      cases h
      exact Stepped.sip msg sender r hact (Gateway.handleSipMessage_handled hr)
    · cases h
  · next hact =>
    cases h
    exact Stepped.other _ (by rw [hact]; simp) Other.cleanup
  · next line hact =>
    split at h
    · cases h
      exact Stepped.other _ (by rw [hact]; simp) (Other.cli line)
    · cases h
  · next localPort pkt sender hact =>
    cases h
    exact Stepped.other _ (by rw [hact]; simp) (Other.rtp localPort pkt sender)
  · next callId ev hact =>
    cases h
    exact Stepped.other _ (by rw [hact]; simp) (Other.media callId ev)

/-- A line on the command line that does not end the process. -/
theorem step_cli {w w' : World} {env : Env} {line : Bytes}
    (h : w.step ⟨env, .cli line⟩ = some w') : w' = w.afterOther env (w.gateway.cliLine line) := by
  simp only [step] at h
  split at h
  · simpa using h.symm
  · cases h

/-! ## A small gateway -/

/-- A request with the headers the dispatcher reads. -/
def exampleRequest (method branch callId body : Bytes) : Received where
  val := (({ isRequest := true, method := SipParser.parseMethod method, methodStr := method,
             body := body } : SipMessage).addHeader (bytes "Via")
    (bytes "SIP/2.0/UDP 10.0.0.1;branch=" ++ branch)).addHeader (bytes "Call-ID") callId
  property := ⟨fun _ => rfl, nofun⟩

/-- An INVITE with an offer of PCMU, in a new transaction for every branch. -/
def exampleInvite (branch : Bytes) : Received :=
  exampleRequest (bytes "INVITE") branch (bytes "call")
    (bytes "c=IN IP4 10.0.0.1\r\nm=audio 4000 RTP/AVP 0\r\n")

/-- Two ports and one codec. -/
def exampleConfig : Config :=
  { rtpPortStart := 20000, rtpPortEnd := 20003, codecPreference := [bytes "PCMU"] }

/-- The state after some events. -/
def exampleRun (es : List Event) : World :=
  ((machine exampleConfig 1).replay (start exampleConfig 1) es).getD (start exampleConfig 1)

theorem exampleRun_reach {es : List Event} {cond : World → Event → Prop}
    (hc : ∀ e ∈ es, ∀ w, cond w e)
    (h : ((machine exampleConfig 1).replay (start exampleConfig 1) es).isSome = true) :
    (machine exampleConfig 1).Reach cond (exampleRun es) := by
  obtain ⟨w, hw⟩ := Option.isSome_iff_exists.mp h
  unfold exampleRun
  rw [hw, Option.getD_some]
  exact Machine.replay_reach es hc (Machine.Reach.init rfl) hw

theorem exampleRun_reachable {es : List Event}
    (h : ((machine exampleConfig 1).replay (start exampleConfig 1) es).isSome = true) :
    (machine exampleConfig 1).Reachable (exampleRun es) :=
  exampleRun_reach (fun _ _ _ => trivial) h

/-- A step of the dispatcher that can be evaluated. -/
theorem exists_handled {gw : Gateway} {env : Env} {msg : SipMessage} {sender : SockAddr}
    {p : Gateway × List Sent → Bool}
    (h : (gw.handleSipMessage env msg sender).toOption.any p = true) :
    ∃ r, gw.handleSipMessage env msg sender = .ok r ∧ p r = true := by
  cases hr : gw.handleSipMessage env msg sender with
  | error e => rw [hr] at h; cases h
  | ok r => rw [hr] at h; exact ⟨r, rfl, h⟩

end World

end SipGateway
