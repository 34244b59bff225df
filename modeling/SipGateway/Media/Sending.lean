import SipGateway.Media.Reader
import SipGateway.Media.Stage

/-!
# Sending in pieces

A `send` may transmit a part of what it is given. `AudioSocketClient::sendAll` calls it until
nothing is left, so that its callers write whole frames (`sendAll_written`): they do what
`AudioSocketClient` in `Media/Clients.lean` says they do (`sendAudioOn_written`).
-/

namespace SipGateway

open Infra

/-- What the calls of `send` on a socket return: the `k`-th one, when it is given so many bytes. -/
abbrev SendResults := Nat → Nat → Int

/-- No call fails, and every call transmits something. -/
def PartialWrites (results : SendResults) : Prop :=
  ∀ k asked, 0 < asked → 0 < results k asked ∧ results k asked ≤ asked

/-- A connected socket: how many calls of `send` there were, and what they transmitted. -/
structure ConnectedSocket where
  sends : Nat := 0
  written : Bytes := []
deriving DecidableEq, Repr

namespace ConnectedSocket

variable (results : SendResults) (sock : ConnectedSocket)

/-- `send`, and what it returns. -/
def send (data : Bytes) : ConnectedSocket × Int :=
  let n := results sock.sends data.length
  ({ sends := sock.sends + 1, written := sock.written ++ data.take n.toNat }, n)

/-- The loop of `sendAll`, with so many bytes behind it. -/
def sendLoop (data : Bytes) (sent : Nat) (sock : ConnectedSocket) : ConnectedSocket × Bool :=
  if sent < data.length then
    let r := sock.send results (data.drop sent)
    if r.2 ≤ 0 then (r.1, false) else sendLoop data (sent + r.2.toNat) r.1
  else (sock, true)
termination_by data.length - sent
decreasing_by
  have hgo : ¬ (sock.send results (data.drop sent)).2 ≤ 0 := ‹_›
  omega

/-- `AudioSocketClient::sendAll`. -/
def sendAll (data : Bytes) : ConnectedSocket × Bool := sendLoop results data 0 sock

variable {results}

/-- What is left of the data is written, in however many pieces. -/
theorem sendLoop_written (h : PartialWrites results) (data : Bytes) (sent : Nat) :
    (sendLoop results data sent sock).1.written = sock.written ++ data.drop sent ∧
      (sendLoop results data sent sock).2 = true := by
  fun_induction sendLoop results data sent sock with
  | case1 sent sock hlt r hfail =>
    have hleft : 0 < (data.drop sent).length := by rw [List.length_drop]; omega
    exact absurd (h sock.sends _ hleft).1 (not_lt.mpr hfail)
  | case2 sent sock hlt r hgo ih =>
    have hwritten : r.1.written = sock.written ++ (data.drop sent).take r.2.toNat := rfl
    obtain ⟨ihwritten, ihdone⟩ := ih
    refine ⟨?_, ihdone⟩
    rw [ihwritten, hwritten, List.append_assoc, ← List.drop_drop, List.take_append_drop]
  | case3 sent sock hend =>
    rw [List.drop_of_length_le (not_lt.mp hend), List.append_nil]
    exact ⟨rfl, rfl⟩

/-- **`sendAll` sends all**, if no `send` fails. -/
theorem sendAll_written (h : PartialWrites results) (data : Bytes) :
    (sock.sendAll results data).1.written = sock.written ++ data ∧
      (sock.sendAll results data).2 = true :=
  sock.sendLoop_written h data 0

end ConnectedSocket

/-! ## The callers -/

namespace AudioSocketClient

variable (results : SendResults) (client : AudioSocketClient)

def sendUuidOn (epoch : Nat) (sock : ConnectedSocket) : ConnectedSocket :=
  (sock.sendAll results (client.uuidPacket epoch)).1

/-- `sendAudio`; nobody looks at what either `sendAll` returns. -/
def sendAudioOn (pcmData : Bytes) (sock : ConnectedSocket) : ConnectedSocket :=
  if client.sockfd < 0 ∨ pcmData = [] then sock
  else
    let len := if pcmData.length > 0xFFFF then 0xFFFF else pcmData.length
    let sock := (sock.sendAll results (AudioSocketFrame.header 0x10 len)).1
    (sock.sendAll results (pcmData.take len)).1

variable {results client}

theorem sendUuidOn_written (h : PartialWrites results) {sock : ConnectedSocket}
    (hsock : sock.written = client.written) (epoch : Nat) :
    (client.sendUuidOn results epoch sock).written = (client.sendUuid epoch).written := by
  unfold sendUuidOn sendUuid sendAll
  rw [(sock.sendAll_written h _).1, hsock]

theorem sendAudioOn_written (h : PartialWrites results) {sock : ConnectedSocket}
    (hsock : sock.written = client.written) (pcmData : Bytes) :
    (client.sendAudioOn results pcmData sock).written = (client.sendAudio pcmData).written := by
  unfold sendAudioOn sendAudio
  split
  · exact hsock
  · dsimp only
    rw [(ConnectedSocket.sendAll_written _ h _).1, (sock.sendAll_written h _).1, hsock]
    rfl

end AudioSocketClient

/-! ## The stage -/

namespace AudioSocketStage

/-- `processUplink` on a connected client. -/
def uplinkOn (st : AudioSocketStage) (results : SendResults) (client : AudioSocketClient)
    (sock : ConnectedSocket) (audio : Bytes) : ConnectedSocket :=
  (st.processUplink audio).foldl (fun sock call =>
    match call with
    | .socketAudio pcmData => client.sendAudioOn results pcmData sock
    | .botAudio _ _ => sock) sock

/-- The socket of a client that sent its UUID and then some payloads, one after the other. -/
def uplinkRun (st : AudioSocketStage) (results : SendResults) (client : AudioSocketClient)
    (epoch : Nat) (payloads : List Bytes) : ConnectedSocket :=
  payloads.foldl (st.uplinkOn results client) (client.sendUuidOn results epoch {})

end AudioSocketStage

end SipGateway
