import SipGateway.Infra.Pipe
import SipGateway.Infra.Text
import SipGateway.Media.Reader

/-!
# The AudioSocket server

`audio_socket/server.py`: `handle_client` reads frames, records their audio and sends every frame
back. What it prints and the header of the recording are left out.

The other end is the reader thread of `AudioSocketClient`, here round by round as the frames come.
-/

namespace SipGateway

open Infra

/-! ## Frames -/

namespace AudioSocketFrame

theorem next?_more {stream rest : Bytes} {frame : AudioSocketFrame}
    (h : next? stream = some (frame, rest)) (more : Bytes) :
    next? (stream ++ more) = some (frame, rest ++ more) := by
  obtain ⟨hstream, hfits⟩ := next?_eq_some h
  rw [hstream, List.append_assoc, next?_encode hfits]

/-- Frames as the bytes of a connection. -/
def framing : Framing AudioSocketFrame UInt8 where
  encode := encode
  next? := next?
  Fits := Fits
  next?_nil := rfl
  next?_encode := next?_encode
  next?_append := next?_more

end AudioSocketFrame

/-! ## The server -/

/-- A connection of `handle_client`: what has arrived and is not read, and what is recorded. -/
structure AudioSocketServer where
  unread : Bytes := []
  wav : Bytes := []
  connected : Bool := true

namespace AudioSocketServer

/--
What the loop does with a frame: the connection afterwards, and what is written.

The text of a UUID frame is decoded for the log; when it is no UTF-8, the exception ends the loop.
-/
def handle (server : AudioSocketServer) (frame : AudioSocketFrame) : AudioSocketServer × Bytes :=
  if frame.type = 0x01 ∧ ¬ validUtf8 frame.payload then ({ server with connected := false }, [])
  else
    ({ server with
        wav := if frame.type = 0x10 then server.wav ++ frame.payload else server.wav },
      frame.encode)

/-- A round of the loop, on the frame in front. -/
def round (server : AudioSocketServer) : Option (AudioSocketServer × Bytes) :=
  if server.connected then
    (AudioSocketFrame.next? server.unread).map fun (frame, rest) =>
      { server with unread := rest }.handle frame
  else none

variable {server server' : AudioSocketServer} {echoed : Bytes}

theorem round_cases (h : server.round = some (server', echoed)) :
    ∃ frame rest, AudioSocketFrame.next? server.unread = some (frame, rest) ∧
      ({ server with unread := rest } : AudioSocketServer).handle frame = (server', echoed) := by
  unfold round at h
  split at h
  · obtain ⟨⟨frame, rest⟩, hnext, hround⟩ := Option.map_eq_some_iff.mp h
    exact ⟨frame, rest, hnext, hround⟩
  · cases h

theorem handle_uuid {frame : AudioSocketFrame} (htype : frame.type = 0x01)
    (hutf8 : validUtf8 frame.payload = true) : server.handle frame = (server, frame.encode) := by
  unfold handle
  rw [if_neg fun hbad => hbad.2 hutf8, if_neg (by rw [htype]; decide)]

theorem handle_audio {frame : AudioSocketFrame} (htype : frame.type = 0x10) :
    server.handle frame = ({ server with wav := server.wav ++ frame.payload }, frame.encode) := by
  unfold handle
  rw [if_neg fun hbad => absurd (htype.symm.trans hbad.1) (by decide), if_pos htype]

end AudioSocketServer

/-! ## The reader thread of the client -/

namespace AudioSocketClient

/-- A round of `readerLoop` on a frame: what `audioCb` is called with, and whether it goes on. -/
def readerRound (frame : AudioSocketFrame) : Option Bytes × Bool :=
  if frame.payload.length > 0 then
    if frame.type = 0x10 then (some frame.payload, true)
    else if frame.type = 0x00 then (none, false)
    else (none, true)
  else if frame.type = 0x00 then (none, false)
  else (none, true)

theorem readerRound_type (frame : AudioSocketFrame) :
    (readerRound frame).2 = decide (frame.type ≠ 0) := by
  have hne : (0x10 : UInt8) ≠ 0 := by decide
  unfold readerRound
  split
  · split
    · next h => simp [h]
    · split <;> simp_all
  · split <;> simp_all

theorem readerRound_audio (frame : AudioSocketFrame) : (readerRound frame).1.toList =
    if frame.type = 0x10 ∧ frame.payload ≠ [] then [frame.payload] else [] := by
  by_cases haudio : frame.type = 0x10 ∧ frame.payload ≠ []
  · rw [if_pos haudio, readerRound, if_pos (List.length_pos_iff.mpr haudio.2), if_pos haudio.1]
    rfl
  · rw [if_neg haudio, readerRound]
    split
    · next hlen =>
      rw [if_neg fun htype => haudio ⟨htype, List.length_pos_iff.mp hlen⟩]
      split <;> rfl
    · split <;> rfl

theorem readerRound_uuid {frame : AudioSocketFrame} (htype : frame.type = 0x01) :
    readerRound frame = (none, true) := by
  unfold readerRound
  rw [htype]
  split <;> rfl

theorem readerRound_of_audio {frame : AudioSocketFrame} (htype : frame.type = 0x10)
    (hpayload : frame.payload ≠ []) : readerRound frame = (some frame.payload, true) := by
  unfold readerRound
  rw [if_pos (List.length_pos_iff.mpr hpayload), if_pos htype]

/-- `readerLoop` makes these rounds. -/
theorem readerRounds_round {junk : Nat → Nat → UInt8} {stream rest : Bytes}
    {frame : AudioSocketFrame} {fuel : Nat}
    (h : AudioSocketFrame.next? stream = some (frame, rest)) :
    readerRounds true junk (fuel + 1) stream =
      if (readerRound frame).2 then
        (readerRounds true junk fuel rest).map ((readerRound frame).1.toList ++ ·)
      else some [] := by
  rw [readerRounds_frame h, readerRound_type, readerRound_audio]
  by_cases hend : frame.type = 0
  · simp [hend]
  · simp [hend]

end AudioSocketClient

end SipGateway
