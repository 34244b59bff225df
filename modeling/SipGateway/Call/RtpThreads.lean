import SipGateway.Call.Frames
import SipGateway.Infra.Machine
import SipGateway.Rtp.Jitter

/-!
# Several RTP threads in one session

A call that got a second port keeps the first one in the registry, so two workers can be in
`onRtpPacket` of one session at the same time. Here any number of threads are, each of them
stopped wherever it gives a mutex back, and the SIP thread may start the pipeline again or
terminate the session between any two of their steps.

What the stages answer comes with the event and may be any bytes; of the pipeline itself only
whether there is one is looked at.
-/

namespace SipGateway

open Infra

/-- What `processRtpFrame` copies under the mutex, next to the pipeline. -/
structure MediaCopies where
  remoteAddr : SockAddr
  localPort : Int
  pType : Int
deriving DecidableEq

/-- Where a thread is. -/
inductive RtpPlace where
  /-- in `epoll_wait` -/
  | waiting
  /-- before `jitterBuffer_.pop()` -/
  | popping
  /-- before the copies -/
  | copying (frame : RtpPacket)
  /-- before the pipeline -/
  | playing (frame : RtpPacket) (copies : MediaCopies)
  /-- before the counters -/
  | numbering (dlPayload : Bytes) (copies : MediaCopies)
  /-- before `RtpServer::send` -/
  | sending (out : CallSession.Outgoing)
deriving DecidableEq

/-- What happens next. -/
inductive RtpThreadsEvent where
  /-- a packet comes to a thread -/
  | receive (i : Nat) (pkt : RtpPacket) (sender : SockAddr)
  /-- a thread goes on; before the pipeline, with its answer -/
  | go (i : Nat) (answer : Bytes)
  | startPipeline (env : Env) (config : Config) (localRtpPort : Int) (remoteIp : Bytes)
      (remotePort payloadType : Int)
  | terminate

/--
A session with the threads that are in it.

The lists are read by no function: the packets accepted and those of them dropped as duplicates,
the frames popped, those that went into a pipeline and those for which there was none, the packets
in the order they were numbered and in the order they went out, and all that there was to copy.
-/
structure RtpThreads where
  session : CallSession
  threads : List RtpPlace
  accepted : List RtpPacket := []
  lost : List RtpPacket := []
  frames : List RtpPacket := []
  played : List RtpPacket := []
  skipped : List RtpPacket := []
  numbered : List CallSession.Outgoing := []
  sent : List CallSession.Outgoing := []
  settings : List MediaCopies := []

namespace CallSession

def copies (session : CallSession) : MediaCopies where
  remoteAddr := session.remoteRtpAddr
  localPort := session.localRtpPort
  pType := session.payloadType

/-- The packet `processRtpFrame` makes from its copies and the counters it has just moved on. -/
def numberedPacket (session : CallSession) (copies : MediaCopies) (dlPayload : Bytes) : RtpPacket :=
  (RtpPacket.empty.setHeader (UInt8.ofInt copies.pType) (session.outgoingSeq + 1)
    (session.outgoingTimestamp + 160) session.ssrc).setPayload dlPayload

end CallSession

namespace RtpThreads

/-- A thread goes to another place. -/
def goto (w : RtpThreads) (i : Nat) (place : RtpPlace) : RtpThreads :=
  { w with threads := w.threads.set i place }

/-- The session is written. -/
def write (w : RtpThreads) (session : CallSession) : RtpThreads :=
  { w with session := session, settings := w.settings ++ [session.copies] }

/-- The first block of `onRtpPacket`. -/
def receive (w : RtpThreads) (i : Nat) (pkt : RtpPacket) (sender : SockAddr) : RtpThreads :=
  let locked := w.write (w.session.lockRemote sender)
  if w.session.accepts pkt then
    { locked with
      session := locked.session.pushPacket pkt
      threads := w.threads.set i .popping
      accepted := w.accepted ++ [pkt]
      lost := if JitterBuffer.Duplicate pkt w.session.jitterBuffer.buffer then w.lost ++ [pkt]
        else w.lost }
  else locked

/-- `jitterBuffer_.pop()`. -/
def pop (w : RtpThreads) (i : Nat) : RtpThreads :=
  match w.session.jitterBuffer.pop with
  | (none, _) => w.goto i .waiting
  | (some frame, jitterBuffer) =>
    { w.goto i (.copying frame) with
      session := { w.session with jitterBuffer := jitterBuffer }
      frames := w.frames ++ [frame] }

/-- The second block. -/
def copy (w : RtpThreads) (i : Nat) (frame : RtpPacket) : RtpThreads :=
  match w.session.pipeline with
  | none => { w.goto i .waiting with skipped := w.skipped ++ [frame] }
  | some _ => w.goto i (.playing frame w.session.copies)

/-- The pipeline, and whether there is something to be sent. -/
def play (w : RtpThreads) (i : Nat) (frame : RtpPacket) (copies : MediaCopies)
    (dlPayload : Bytes) : RtpThreads :=
  let played := { w with played := w.played ++ [frame] }
  if dlPayload ≠ [] ∧ copies.localPort > 0 then played.goto i (.numbering dlPayload copies)
  else played.goto i .waiting

/-- The third block, and the packet. -/
def number (w : RtpThreads) (i : Nat) (dlPayload : Bytes) (copies : MediaCopies) : RtpThreads :=
  let out : CallSession.Outgoing :=
    { localPort := copies.localPort
      packet := w.session.numberedPacket copies dlPayload
      dest := copies.remoteAddr }
  { w.goto i (.sending out) with
    session := { w.session with
      outgoingTimestamp := w.session.outgoingTimestamp + 160
      outgoingSeq := w.session.outgoingSeq + 1 }
    numbered := w.numbered ++ [out] }

/-- The next step of a thread in `onRtpPacket`. -/
def go (w : RtpThreads) (i : Nat) (answer : Bytes) : RtpThreads :=
  match w.threads[i]? with
  | none | some .waiting => w
  | some .popping => w.pop i
  | some (.copying frame) => w.copy i frame
  | some (.playing frame copies) => w.play i frame copies answer
  | some (.numbering dlPayload copies) => w.number i dlPayload copies
  | some (.sending out) => { w.goto i .waiting with sent := w.sent ++ [out] }

def Can (w : RtpThreads) : RtpThreadsEvent → Prop
  | .receive i _ _ => w.threads[i]? = some .waiting
  | .go .. | .startPipeline .. | .terminate => True

instance (w : RtpThreads) (e : RtpThreadsEvent) : Decidable (w.Can e) :=
  match e with
  | .receive i _ _ => inferInstanceAs (Decidable (w.threads[i]? = some .waiting))
  | .go .. | .startPipeline .. | .terminate => isTrue trivial

def step (w : RtpThreads) : RtpThreadsEvent → Option RtpThreads
  | .receive i pkt sender => some (w.receive i pkt sender)
  | .go i answer => some (w.go i answer)
  | .startPipeline env config localRtpPort remoteIp remotePort payloadType =>
    match w.session.startPipeline env config localRtpPort remoteIp remotePort payloadType with
    | .ok session => some (w.write session)
    | .error _ => none
  | .terminate => some (w.write (w.session.terminate {}).1)

/-- A number of threads and a session that has had no packet. -/
def machine : Machine RtpThreads RtpThreadsEvent where
  init w := ∃ n session, session.jitterBuffer.buffer = [] ∧
    w = { session := session, threads := List.replicate n .waiting,
          settings := [session.copies] }
  enabled := Can
  step := step

instance (w : RtpThreads) (e : RtpThreadsEvent) : Decidable (machine.enabled w e) :=
  inferInstanceAs (Decidable (w.Can e))

theorem step_startPipeline {w w' : RtpThreads} {env : Env} {config : Config} {localRtpPort : Int}
    {remoteIp : Bytes} {remotePort payloadType : Int}
    (h : w.step (.startPipeline env config localRtpPort remoteIp remotePort payloadType) =
      some w') :
    ∃ session, w.session.startPipeline env config localRtpPort remoteIp remotePort payloadType =
      .ok session ∧ w' = w.write session := by
  unfold step at h
  dsimp only at h
  split at h
  · next session hstart =>
    cases h
    exact ⟨session, hstart, rfl⟩
  · cases h

end RtpThreads

end SipGateway
