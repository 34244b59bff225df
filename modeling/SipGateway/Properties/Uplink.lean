import SipGateway.Call.Session
import SipGateway.Media.Sending

/-!
# Uplink audio at the AudioSocket peer

`uplink_arrives`: the peer that takes the stream apart finds the UUID frame, which always has the
length it gives, and behind it one audio frame for each payload, in order, with the amplified
samples; whatever parts of the data the single `send` transmits.

A session has its client write without looking at the parts; the bytes are the same
(`uplinkRun_session`).
-/

namespace SipGateway

open Infra

/-! ## The UUID frame -/

namespace AudioSocketClient

/-- A text is cut or filled up to its width. -/
theorem length_zeroPadded_lastBytes (n : Nat) (s : Bytes) :
    (zeroPadded n (lastBytes n s)).length = n := by
  unfold zeroPadded lastBytes
  rw [List.length_append, List.length_replicate]
  split
  · rw [List.length_drop]
    omega
  · omega

/-- The frame `sendUuid` sends: 32 characters, whatever the users are called. -/
theorem uuidPacket_encode (client : AudioSocketClient) (epoch : Nat) :
    ∃ text, text.length = 32 ∧ client.uuidPacket epoch =
      AudioSocketFrame.encode { type := 0x01, payload := text } := by
  set text := zeroPadded 10 (lastBytes 10 client.fromUser) ++
    (zeroPadded 7 (lastBytes 7 (natDecimal epoch)) ++
      zeroPadded 15 (lastBytes 15 client.toUser)) with htext
  have hlen : text.length = 32 := by
    rw [htext, List.length_append, List.length_append, length_zeroPadded_lastBytes,
      length_zeroPadded_lastBytes, length_zeroPadded_lastBytes]
  refine ⟨text, hlen, ?_⟩
  unfold uuidPacket AudioSocketFrame.encode
  dsimp only
  rw [hlen, htext]
  simp only [List.append_assoc]
  rfl

theorem length_uuidPacket (client : AudioSocketClient) (epoch : Nat) :
    (client.uuidPacket epoch).length = 35 := by
  obtain ⟨text, hlen, hpacket⟩ := client.uuidPacket_encode epoch
  rw [hpacket, AudioSocketFrame.length_encode, hlen]

/-- A call of `sendAudio` writes a frame. -/
theorem sendAudioOn_frame {results : SendResults} (h : PartialWrites results)
    {client : AudioSocketClient} (hfd : 0 ≤ client.sockfd) {pcmData : Bytes} (hne : pcmData ≠ [])
    (hle : pcmData.length ≤ 0xFFFF) (sock : ConnectedSocket) :
    (client.sendAudioOn results pcmData sock).written =
      sock.written ++ AudioSocketFrame.encode { type := 0x10, payload := pcmData } := by
  unfold sendAudioOn
  rw [if_neg (not_or.mpr ⟨not_lt.mpr hfd, hne⟩), if_neg (not_lt.mpr hle)]
  dsimp only
  rw [(ConnectedSocket.sendAll_written _ h _).1, (sock.sendAll_written h _).1, List.take_length,
    List.append_assoc]
  rfl

end AudioSocketClient

/-! ## Audio frames -/

namespace AudioSocketStage

variable {results : SendResults} {client : AudioSocketClient} {st : AudioSocketStage}
  {audio : Bytes} {payloads : List Bytes}

/-- The frame of a payload: its samples three times as loud, as far as 16 bits go. -/
def uplinkFrame (st : AudioSocketStage) (audio : Bytes) : AudioSocketFrame where
  type := 0x10
  payload := pcmBytes ((G711Utils.samples st.payloadType audio).map fun v => clampInt16 (3 * v))

theorem length_uplinkFrame (st : AudioSocketStage) (audio : Bytes) :
    (st.uplinkFrame audio).payload.length = 2 * audio.length := by
  unfold uplinkFrame
  rw [length_pcmBytes, List.length_map, G711Utils.length_samples]

theorem uplinkFrame_fits (h : audio.length ≤ 1488) : (st.uplinkFrame audio).Fits := by
  unfold AudioSocketFrame.Fits
  rw [length_uplinkFrame]
  omega

theorem uplinkFrame_ne_nil (h : 1 ≤ audio.length) : (st.uplinkFrame audio).payload ≠ [] := by
  rw [← List.length_pos_iff, length_uplinkFrame]
  omega

/-- The stage decodes as the payload type says. -/
theorem decode_eq (st : AudioSocketStage) (audio : Bytes) :
    st.decode audio = G711Utils.samples st.payloadType audio := rfl

theorem gain_eq : gain = fun v => clampInt16 (3 * v) := by
  funext v
  unfold gain
  rw [Int.mul_comm]

theorem processUplink_eq (h : 1 ≤ audio.length) :
    st.processUplink audio = [.socketAudio (st.uplinkFrame audio).payload] := by
  unfold processUplink uplinkFrame
  rw [if_neg (by simpa using List.ne_nil_of_length_pos h), decode_eq, gain_eq]

/-- What the run has written: the UUID packet and the frames. -/
theorem uplinkRun_written (h : PartialWrites results) (hfd : 0 ≤ client.sockfd) (epoch : Nat)
    (hlen : ∀ audio ∈ payloads, 1 ≤ audio.length ∧ audio.length ≤ 1488) :
    (st.uplinkRun results client epoch payloads).written =
      client.uuidPacket epoch ++ (payloads.map st.uplinkFrame).flatMap AudioSocketFrame.encode := by
  have hstart : (client.sendUuidOn results epoch {}).written = client.uuidPacket epoch :=
    (ConnectedSocket.sendAll_written _ h _).1
  rw [← hstart]
  unfold uplinkRun
  generalize client.sendUuidOn results epoch {} = sock
  induction payloads generalizing sock with
  | nil => exact (List.append_nil _).symm
  | cons audio payloads ih =>
    obtain ⟨⟨hpos, hle⟩, hrest⟩ := List.forall_mem_cons.mp hlen
    have hone : (st.uplinkOn results client sock audio).written =
        sock.written ++ (st.uplinkFrame audio).encode := by
      unfold uplinkOn
      rw [processUplink_eq hpos]
      exact client.sendAudioOn_frame h hfd (uplinkFrame_ne_nil hpos) (uplinkFrame_fits hle) sock
    rw [List.foldl_cons, ih hrest, hone, List.map_cons, List.flatMap_cons, List.append_assoc]

/-- What a peer finds in a stream. -/
structure Arrives (st : AudioSocketStage) (client : AudioSocketClient) (epoch : Nat)
    (payloads : List Bytes) (stream : Bytes) : Prop where
  uuid : stream.take 35 = client.uuidPacket epoch
  /-- one frame for each payload, in order, and nothing else -/
  frames : AudioSocketFrame.split (stream.drop 35) = (payloads.map st.uplinkFrame, [])
  samples : ∀ audio ∈ payloads, pcmOfBytes (st.uplinkFrame audio).payload =
    (G711Utils.samples st.payloadType audio).map fun v => clampInt16 (3 * v)
  /-- a peer that reads as `readerLoop` does gets the bytes of these frames -/
  read : ∀ junk, AudioSocketClient.readerLoop true junk (stream.drop 35) =
    some (payloads.map fun audio => (st.uplinkFrame audio).payload)

/-- The frames of payloads are all delivered. -/
theorem audioOf_uplinkFrames (hlen : ∀ audio ∈ payloads, 1 ≤ audio.length) :
    AudioSocketClient.audioOf (payloads.map st.uplinkFrame) =
      payloads.map fun audio => (st.uplinkFrame audio).payload := by
  induction payloads with
  | nil => rfl
  | cons audio payloads ih =>
    obtain ⟨hpos, hrest⟩ := List.forall_mem_cons.mp hlen
    have htype : (st.uplinkFrame audio).type ≠ 0 := show (0x10 : UInt8) ≠ 0 by decide
    rw [List.map_cons, AudioSocketClient.audioOf_cons htype,
      if_pos ⟨rfl, uplinkFrame_ne_nil hpos⟩, ih hrest]
    rfl

/--
**Uplink audio arrives intact**, and the UUID frame always has 32 characters.

The socket takes any part of what it is given, but something, and never fails.
-/
theorem uplink_arrives (client : AudioSocketClient) (epoch : Nat) (st : AudioSocketStage) :
    ((client.uuidPacket epoch).length = 35 ∧ ∃ text, text.length = 32 ∧
      client.uuidPacket epoch = AudioSocketFrame.encode { type := 0x01, payload := text }) ∧
    ∀ results payloads, PartialWrites results → 0 ≤ client.sockfd →
      (∀ audio ∈ payloads, 1 ≤ audio.length ∧ audio.length ≤ 1488) →
        st.Arrives client epoch payloads (st.uplinkRun results client epoch payloads).written := by
  have huuid := client.length_uuidPacket epoch
  refine ⟨⟨huuid, client.uuidPacket_encode epoch⟩, fun results payloads h hfd hlen => ?_⟩
  have hwritten := st.uplinkRun_written h hfd epoch hlen
  have hdrop : (st.uplinkRun results client epoch payloads).written.drop 35 =
      (payloads.map st.uplinkFrame).flatMap AudioSocketFrame.encode := by
    rw [hwritten, List.drop_left' huuid]
  have hsplit : AudioSocketFrame.split
      ((st.uplinkRun results client epoch payloads).written.drop 35) =
        (payloads.map st.uplinkFrame, []) := by
    have hfits : ∀ frame ∈ payloads.map st.uplinkFrame, frame.Fits := by
      intro frame hframe
      obtain ⟨audio, haudio, rfl⟩ := List.mem_map.mp hframe
      exact uplinkFrame_fits (hlen audio haudio).2
    have hsplit := @AudioSocketFrame.split_append _ [] hfits rfl
    rwa [List.append_nil, ← hdrop] at hsplit
  exact
    { uuid := by rw [hwritten, List.take_left' huuid]
      frames := hsplit
      samples := fun audio _ => pcmOfBytes_pcmBytes fun v hv => by
        obtain ⟨k, -, rfl⟩ := List.mem_map.mp hv
        exact clampInt16_mem _
      read := fun junk => by
        rw [AudioSocketClient.readerLoop_eq, AudioSocketClient.delivered, hsplit,
          audioOf_uplinkFrames fun audio haudio => (hlen audio haudio).1]
        dsimp only
        rw [show AudioSocketClient.padded [] = [] from rfl, ite_self, List.append_nil] }

/-- Two payloads, byte by byte. -/
theorem uplink_arrives_slowly :
    ({ payloadType := 0 } : AudioSocketStage).Arrives
      { target := [], callId := [], fromUser := [], toUser := [], sockfd := 3 } 0 [[0], [1, 2]]
      (({ payloadType := 0 } : AudioSocketStage).uplinkRun (fun _ _ => 1)
        { target := [], callId := [], fromUser := [], toUser := [], sockfd := 3 } 0
        [[0], [1, 2]]).written :=
  (uplink_arrives _ 0 _).2 (fun _ _ => 1) [[0], [1, 2]]
    (fun _ _ h => ⟨Int.one_pos, Int.ofNat_le.mpr h⟩) (by decide) (by decide)

/-! ## The client of a session -/

/-- `connect` writes what the socket is given for it. -/
theorem connect_written (h : PartialWrites results) {client' : AudioSocketClient} {sock : Int}
    {connects : Bool} {epoch : Nat} (hconnect : client.connect sock connects epoch =
      .ok (client', true)) (hnew : client.written = []) :
    client'.written = (client'.sendUuidOn results epoch {}).written := by
  have hsent : (client.sendUuidOn results epoch {}).written = (client.sendUuid epoch).written :=
    AudioSocketClient.sendUuidOn_written h hnew.symm epoch
  unfold AudioSocketClient.connect at hconnect
  split at hconnect
  · cases hconnect
  · simp only [bind, Except.bind, pure, Except.pure] at hconnect
    split at hconnect
    · cases hconnect
    · split at hconnect
      · cases hconnect
      · split at hconnect
        · cases hconnect
        · split at hconnect
          · cases hconnect
            exact hsent.symm
          · cases hconnect

/-- Of the client only the descriptor counts. -/
theorem uplinkOn_congr {client' : AudioSocketClient} (hfd : client'.sockfd = client.sockfd) :
    st.uplinkOn results client' = st.uplinkOn results client := by
  funext sock audio
  unfold uplinkOn AudioSocketClient.sendAudioOn
  rw [hfd]

/-- So does the call that the stage asks the session for. -/
theorem callClients_written (h : PartialWrites results) {session : CallSession}
    (hclient : session.tcpClient = some client) {sock : ConnectedSocket}
    (hsock : sock.written = client.written) (audio : Bytes) :
    ∃ client', (session.callClients (st.processUplink audio)).tcpClient = some client' ∧
      client'.sockfd = client.sockfd ∧
      (st.uplinkOn results client sock audio).written = client'.written := by
  unfold uplinkOn processUplink
  split
  · exact ⟨client, hclient, rfl, hsock⟩
  · refine ⟨client.sendAudio (pcmBytes ((st.decode audio).map gain)), ?_, ?_, ?_⟩
    · exact congrArg (Option.map _) hclient
    · unfold AudioSocketClient.sendAudio
      split <;> rfl
    · exact AudioSocketClient.sendAudioOn_written h hsock _

/-- From payload to payload, the socket and the client have written the same. -/
theorem foldl_callClients_written (h : PartialWrites results) {session : CallSession}
    (hclient : session.tcpClient = some client) {sock : ConnectedSocket}
    (hsock : sock.written = client.written) (payloads : List Bytes) :
    ∃ client', (payloads.foldl (fun session audio =>
        session.callClients (st.processUplink audio)) session).tcpClient = some client' ∧
      (payloads.foldl (st.uplinkOn results client) sock).written = client'.written := by
  induction payloads generalizing session client sock with
  | nil => exact ⟨client, hclient, hsock⟩
  | cons audio payloads ih =>
    obtain ⟨client₁, hclient₁, hfd, hsock₁⟩ := st.callClients_written h hclient hsock audio
    rw [List.foldl_cons, List.foldl_cons, ← uplinkOn_congr hfd]
    rw [← uplinkOn_congr hfd] at hsock₁
    exact ih hclient₁ hsock₁

/-- A session that connects its client and handles some payloads has it write `uplinkRun`. -/
theorem uplinkRun_session (h : PartialWrites results) {client' : AudioSocketClient} {sock : Int}
    {connects : Bool} {epoch : Nat} (hconnect : client.connect sock connects epoch =
      .ok (client', true)) (hnew : client.written = []) {session : CallSession}
    (hclient : session.tcpClient = some client') (payloads : List Bytes) :
    ∃ after, (payloads.foldl (fun session audio =>
        session.callClients (st.processUplink audio)) session).tcpClient = some after ∧
      (st.uplinkRun results client' epoch payloads).written = after.written :=
  foldl_callClients_written h hclient (connect_written h hconnect hnew).symm payloads

end AudioSocketStage

end SipGateway
