import SipGateway.Infra.Machine
import SipGateway.Media.Framing

/-!
# Two threads that write to one connection

`AudioSocketClient::sendAudio` on the media thread and `stop` on the signalling thread, from the
UUID frame on. A `send` transmits some bytes from the front of what it is given; it fails once the
connection was shut down. That `send` raises SIGPIPE too, which ends a process that does not ignore
it; a run goes on behind it, so that it covers the process that does.

`sendMutex_` is taken by `sendAudio` alone, so no thread ever waits for it.
-/

namespace SipGateway

open Infra

/-- Where the media thread is inside `sendAudio`. -/
inductive AudioPc where
  | idle
  /-- in the first `sendAll`, with so much of the header left; the data comes next -/
  | header (left data : Bytes)
  /-- in the second `sendAll` -/
  | payload (left : Bytes)
deriving DecidableEq, Repr

namespace AudioPc

/-- What is still to be sent of the frame. -/
def left : AudioPc → Bytes
  | .idle => []
  | .header left data => left ++ data
  | .payload left => left

/-- What the next `send` is given. -/
def window : AudioPc → Bytes
  | .idle => []
  | .header left _ => left
  | .payload left => left

/-- `sent += n`, in the loop of `sendAll`. -/
def sent (n : Nat) : AudioPc → AudioPc
  | .idle => .idle
  | .header left data => if left.drop n = [] then .payload data else .header (left.drop n) data
  | .payload left => if left.drop n = [] then .idle else .payload (left.drop n)

/-- `return false`: nobody looks at what the first `sendAll` returns. -/
def failed : AudioPc → AudioPc
  | .idle => .idle
  | .header _ data => .payload data
  | .payload _ => .idle

/-- Part of the frame has been sent, and part of it has not. -/
def midFrame : AudioPc → Bool
  | .idle => false
  | .header left _ => left.length < 3
  | .payload _ => true

end AudioPc

/-- Where the signalling thread is inside `stop`. -/
inductive HangupPc where
  | idle
  /-- `running_ = false;` -/
  | clearing
  /-- `sendAll(terminate, 3)` -/
  | terminating (left : Bytes)
  /-- `shutdown(sockfd_, SHUT_RDWR)` -/
  | shutting
  /-- `close(sockfd_)` -/
  | closing
  /-- `sockfd_ = -1` -/
  | forgetting
  | joining
deriving DecidableEq, Repr

/-- Part of the terminate packet has been sent, and part of it has not. -/
def HangupPc.midFrame : HangupPc → Bool
  | .terminating left => left.length < 3
  | _ => false

/-- The connection and the two threads that write to it; `calls` are the `pcmData` so far. -/
structure Wire where
  sockfd : Int
  running : Bool := true
  writable : Bool := true
  sent : Bytes := []
  calls : List Bytes := []
  media : AudioPc := .idle
  hangup : HangupPc := .idle
deriving DecidableEq, Repr

inductive WireEvent where
  | sendAudio (pcmData : Bytes)
  /-- the `send` of the media thread transmits so many bytes -/
  | mediaSends (n : Nat)
  | mediaFails
  | stop
  /-- the signalling thread executes a statement of `stop` other than `send` -/
  | advance
  /-- the `send` of the signalling thread transmits so many bytes -/
  | hangupSends (n : Nat)
  /-- `running_ = false` at the end of the reader loop -/
  | readerEnds
deriving DecidableEq, Repr

namespace Wire

/-- The terminate packet. -/
def terminate : Bytes := [0x00, 0x00, 0x00]

/-- `sendAudio` up to its first `sendAll`. -/
def sendAudio (w : Wire) (pcmData : Bytes) : Wire :=
  if w.sockfd < 0 ∨ pcmData = [] then w
  else
    let len := if pcmData.length > 0xFFFF then 0xFFFF else pcmData.length
    { w with
      calls := w.calls ++ [pcmData]
      media := .header (AudioSocketFrame.header 0x10 len) (pcmData.take len) }

/-- The next statement of `stop`. -/
def advance (w : Wire) : Wire :=
  match w.hangup with
  | .idle => w
  | .clearing =>
    { w with running := false, hangup := if w.sockfd ≥ 0 then .terminating terminate else .joining }
  | .terminating _ => w
  | .shutting => { w with writable := false, hangup := .closing }
  | .closing => { w with hangup := .forgetting }
  | .forgetting => { w with sockfd := -1, hangup := .joining }
  | .joining => { w with hangup := .idle }

/-- The events that can come next. -/
def enabled (w : Wire) : WireEvent → Bool
  | .sendAudio _ => w.media = .idle
  | .mediaSends n => w.writable && 0 < n && n ≤ w.media.window.length
  | .mediaFails => !w.writable && w.media ≠ .idle
  | .stop => w.hangup = .idle
  | .advance => true
  | .hangupSends n =>
    match w.hangup with
    | .terminating left => w.writable && 0 < n && n ≤ left.length
    | _ => false
  | .readerEnds => true

def step (w : Wire) : WireEvent → Option Wire
  | .sendAudio pcmData => some (w.sendAudio pcmData)
  | .mediaSends n =>
    some { w with sent := w.sent ++ w.media.window.take n, media := w.media.sent n }
  | .mediaFails => some { w with media := w.media.failed }
  | .stop => some (if w.running then { w with hangup := .clearing } else w)
  | .advance => some w.advance
  | .hangupSends n =>
    match w.hangup with
    | .terminating left =>
      some { w with
        sent := w.sent ++ left.take n
        hangup := if left.drop n = [] then .shutting else .terminating (left.drop n) }
    | _ => none
  | .readerEnds => some { w with running := false }

/-- A connection behind its UUID frame, and what the two threads make of it. -/
def machine : Machine Wire WireEvent where
  init w := w = { sockfd := w.sockfd } ∧ 0 ≤ w.sockfd
  enabled w e := enabled w e = true
  step := step

instance (w : Wire) (e : WireEvent) : Decidable (machine.enabled w e) :=
  inferInstanceAs (Decidable (enabled w e = true))

end Wire

end SipGateway
