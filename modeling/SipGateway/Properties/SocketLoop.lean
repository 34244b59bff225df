import SipGateway.Peers.AudioSocket
import SipGateway.Properties.Bot
import SipGateway.Properties.Uplink

/-!
# A call with the AudioSocket server

A `SocketLoop` is a call in audiosocket mode together with the server and both directions of the
connection, on which the bytes arrive in any parts. `socket_loop_returns_audio`: in every order of
events the caller is sent his own audio, nine times as loud, first-in first-out. `server_hears_call`
is about a call with any other server.
-/

namespace SipGateway

open Infra

/-! ## The way there and back -/

namespace AudioSocketStage

variable {st st' : AudioSocketStage}

theorem uplinkFrame_congr (h : st'.payloadType = st.payloadType) :
    st'.uplinkFrame = st.uplinkFrame := by
  funext audio
  unfold uplinkFrame
  rw [h]

/-- A byte that was amplified there and back. -/
def louder (payloadType : Int) (b : UInt8) : UInt8 :=
  if payloadType = 0 then G711Utils.linearToULaw (clampInt16 (9 * G711Utils.ulawToLinear b))
  else G711Utils.linearToALaw (clampInt16 (9 * G711Utils.alawToLinear b))

/-- What the stage makes of audio from the server: three times as loud, companded. -/
def amplified (payloadType : Int) (data : Bytes) : Bytes :=
  G711Utils.companded payloadType ((pcmOfBytes data).map fun v => clampInt16 (3 * v))

theorem appended_eq (st : AudioSocketStage) (data : Bytes) :
    st.appended data = amplified st.payloadType data := by
  unfold appended amplified
  rw [gain_eq]
  rfl

theorem clampInt16_clampInt16 (v : Int) :
    clampInt16 (3 * clampInt16 (3 * v)) = clampInt16 (9 * v) := by
  unfold clampInt16
  split_ifs <;> omega

/-- What it makes of a frame that comes back. -/
theorem amplified_uplinkFrame (payloadType : Int) (audio : Bytes) :
    amplified payloadType (uplinkFrame { payloadType := payloadType } audio).payload =
      audio.map (louder payloadType) := by
  have hsamples : pcmOfBytes (uplinkFrame { payloadType := payloadType } audio).payload =
      (G711Utils.samples payloadType audio).map fun v => clampInt16 (3 * v) :=
    pcmOfBytes_pcmBytes fun v hv => by
      obtain ⟨k, -, rfl⟩ := List.mem_map.mp hv
      exact clampInt16_mem _
  have htwice : (fun v => clampInt16 (3 * v)) ∘ (fun v => clampInt16 (3 * v)) =
      fun v => clampInt16 (9 * v) := by
    funext v
    exact clampInt16_clampInt16 v
  unfold amplified
  rw [hsamples, List.map_map, htwice]
  unfold G711Utils.companded G711Utils.samples louder
  split
  · unfold G711Utils.encodeULaw G711Utils.decodeULaw
    rw [List.map_map, List.map_map]
    rfl
  · unfold G711Utils.encodeALaw G711Utils.decodeALaw
    rw [List.map_map, List.map_map]
    rfl

end AudioSocketStage

/-- What `sendAudio` writes of a frame that fits. -/
theorem AudioSocketClient.sendAudio_frame {client : AudioSocketClient} (hfd : 0 ≤ client.sockfd)
    {pcmData : Bytes} (hne : pcmData ≠ []) (hle : pcmData.length ≤ 0xFFFF) :
    client.sendAudio pcmData = { client with written :=
      client.written ++ AudioSocketFrame.encode { type := 0x10, payload := pcmData } } := by
  unfold sendAudio
  rw [if_neg (not_or.mpr ⟨not_lt.mpr hfd, hne⟩), if_neg (not_lt.mpr hle)]
  unfold sendAll
  dsimp only
  rw [List.take_length, List.append_assoc]
  rfl

/-! ## What the server is sent -/

namespace Talk

variable {t : Talk} {st : AudioSocketStage} {c : Conveyor 16000 160 UInt8}
  {uuid : AudioSocketFrame} {payloadType : Int}

/-- The frames for the server: the UUID, and one for each payload. -/
def socketFrames (uuid : AudioSocketFrame) (payloadType : Int) (payloads : List Bytes) :
    List AudioSocketFrame :=
  uuid :: payloads.map (AudioSocketStage.uplinkFrame { payloadType := payloadType })

theorem socketFrames_append (uuid : AudioSocketFrame) (payloadType : Int)
    (payloads more : List Bytes) : socketFrames uuid payloadType (payloads ++ more) =
      socketFrames uuid payloadType payloads ++
        more.map (AudioSocketStage.uplinkFrame { payloadType := payloadType }) := by
  unfold socketFrames
  rw [List.map_append, List.cons_append]

/-- What the client has written. -/
def written (t : Talk) : Bytes :=
  match t.session.tcpClient with
  | some client => client.written
  | none => []

/-- A call with a server that was reached, both ways. -/
structure SocketCall (uuid : AudioSocketFrame) (payloadType : Int) (t : Talk)
    (st : AudioSocketStage) (c : Conveyor 16000 160 UInt8) : Prop where
  carries : Carries t (.audioSocket st) c
  law : st.payloadType = payloadType
  lengths : ∀ payload ∈ t.payloads, payload ≠ [] ∧ payload.length ≤ 1488
  client : ∃ client, t.session.tcpClient = some client ∧ 0 ≤ client.sockfd ∧
    client.written = (socketFrames uuid payloadType t.payloads).flatMap AudioSocketFrame.encode

theorem SocketCall.written_eq (h : SocketCall uuid payloadType t st c) :
    t.written = (socketFrames uuid payloadType t.payloads).flatMap AudioSocketFrame.encode := by
  obtain ⟨client, hclient, -, hwritten⟩ := h.client
  unfold written
  rw [hclient]
  exact hwritten

/-- A frame for the pipeline is written behind the others. -/
theorem SocketCall.played (h : SocketCall uuid payloadType t st c) {session : CallSession}
    {frame : RtpPacket} {packets : List RtpPacket}
    (htcp : session.tcpClient =
      (t.session.callClients (st.processUplink frame.getPayload)).tcpClient)
    {st' : AudioSocketStage} {c' : Conveyor 16000 160 UInt8}
    (hlaw : st'.payloadType = st.payloadType)
    (hcarries : Carries
      { session := session, sent := t.sent ++ packets
        frames := t.frames ++ [frame].filter (·.getPayload ≠ []) } (.audioSocket st') c') :
    SocketCall uuid payloadType
      { session := session, sent := t.sent ++ packets
        frames := t.frames ++ [frame].filter (·.getPayload ≠ []) } st' c' := by
  obtain ⟨client, hclient, hfd, hwritten⟩ := h.client
  by_cases hempty : frame.getPayload = []
  · have hnone : st.processUplink frame.getPayload = [] := by
      unfold AudioSocketStage.processUplink
      rw [hempty]
      rfl
    rw [hnone] at htcp
    have hfilter : [frame].filter (·.getPayload ≠ []) = [] :=
      List.filter_cons_of_neg (by simpa using hempty)
    rw [hfilter, List.append_nil] at hcarries ⊢
    exact ⟨hcarries, hlaw.trans h.law, h.lengths, client, htcp.trans hclient, hfd, hwritten⟩
  · have hpos : 1 ≤ frame.getPayload.length := List.length_pos_iff.mpr hempty
    have hle := frame.length_getPayload_le
    have hfilter : [frame].filter (·.getPayload ≠ []) = [frame] :=
      List.filter_cons_of_pos (by simpa using hempty)
    rw [hfilter] at hcarries ⊢
    rw [AudioSocketStage.processUplink_eq hpos] at htcp
    have hframe : st.uplinkFrame =
        AudioSocketStage.uplinkFrame { payloadType := payloadType } :=
      AudioSocketStage.uplinkFrame_congr h.law
    have hsend := client.sendAudio_frame hfd (st.uplinkFrame_ne_nil hpos) (st.uplinkFrame_fits hle)
    have htcp' : session.tcpClient =
        some (client.sendAudio (st.uplinkFrame frame.getPayload).payload) := by
      rw [htcp]
      exact congrArg (Option.map _) hclient
    rw [hsend] at htcp'
    refine ⟨hcarries, hlaw.trans h.law, ?_, _, htcp', hfd, ?_⟩
    · unfold payloads
      dsimp only
      rw [List.map_append]
      intro payload hpayload
      rcases List.mem_append.mp hpayload with hold | hnew
      · exact h.lengths payload hold
      · cases List.mem_singleton.mp hnew
        exact ⟨hempty, hle⟩
    · unfold payloads
      dsimp only
      rw [List.map_append, List.map_singleton, socketFrames_append, List.flatMap_append, hwritten,
        ← hframe, List.map_singleton, List.flatMap_singleton]
      rfl

/-- The bytes for the caller that an event brings. -/
def socketAudio (payloadType : Int) : TalkEvent → Bytes
  | .media (.socketData data) =>
    if data.length % 2 = 0 then AudioSocketStage.amplified payloadType data else []
  | _ => []

/-- A bridge stage is the same conveyor all the time. -/
theorem alike_audioSocket (hlaw : st.payloadType = payloadType) :
    DownlinkStage.Alike (.audioSocket { payloadType := payloadType }) (.audioSocket st) where
  arrival event := by rcases event with _ | ⟨_ | _ | _ | _⟩ <;> rfl
  accepts data := by
    unfold DownlinkStage.accepts
    dsimp only
    rw [AudioSocketStage.appended_congr { payloadType := payloadType } hlaw]

theorem audio_audioSocket (payloadType : Int) :
    (DownlinkStage.audioSocket { payloadType := payloadType }).audio =
      socketAudio payloadType := by
  funext event
  rcases event with _ | ⟨_ | data | _ | _⟩
  case media.socketData =>
    have happended := AudioSocketStage.appended_eq { payloadType := payloadType } data
    unfold DownlinkStage.audio socketAudio
    simp only [DownlinkStage.arrival?, DownlinkStage.accepts, happended]
  all_goals rfl

/-- An event adds audio for the caller, and payloads for the server. -/
theorem SocketCall.step (h : SocketCall uuid payloadType t st c) (event : TalkEvent) :
    ∃ st' more, SocketCall uuid payloadType (t.step event) st'
        (((DownlinkStage.audioSocket { payloadType := payloadType }).turns t event).foldl
          Conveyor.turn c) ∧
      (t.step event).payloads = t.payloads ++ more := by
  obtain ⟨ds', hbridged⟩ := step_bridged h.carries.bridges h.carries.port event
  obtain ⟨hcarries, -⟩ := h.carries.bridged hbridged
  rw [(alike_audioSocket h.law).turns] at hcarries
  generalize t.step event = t' at hbridged hcarries
  obtain ⟨client, hclient, hfd, hwritten⟩ := h.client
  cases hbridged with
  | quiet session _ _ _ _ hsame =>
    exact ⟨st, [], ⟨hcarries, h.law, h.lengths, client, hsame.tcpClient.trans hclient, hfd,
      hwritten⟩, (List.append_nil _).symm⟩
  | ended session _ _ _ htcp =>
    -- `sendAudio` does not look at `running_`
    refine ⟨st, [], ⟨hcarries, h.law, h.lengths, client.readerEnds, ?_, hfd, hwritten⟩,
      (List.append_nil _).symm⟩
    simp [htcp, hclient]
  | arrived session data _ _ hsame =>
    exact ⟨st.onAudioSocketData data, [], ⟨hcarries,
      (st.onAudioSocketData_payloadType data).trans h.law, h.lengths, client,
      hsame.tcpClient.trans hclient, hfd, hwritten⟩, (List.append_nil _).symm⟩
  | played session frame packets _ _ _ _ htcp =>
    refine ⟨_, ([frame].filter (·.getPayload ≠ [])).map RtpPacket.getPayload,
      h.played htcp (st.processDownlink_payloadType []) hcarries, ?_⟩
    unfold payloads
    exact List.map_append

/-- The UUID frame of a client. -/
def uuidFrame (client : AudioSocketClient) (epoch : Nat) : AudioSocketFrame where
  type := 0x01
  payload := (client.uuidPacket epoch).drop 3

theorem uuidFrame_encode (client : AudioSocketClient) (epoch : Nat) :
    (uuidFrame client epoch).encode = client.uuidPacket epoch ∧ (uuidFrame client epoch).Fits := by
  obtain ⟨text, hlen, hpacket⟩ := client.uuidPacket_encode epoch
  have hframe : uuidFrame client epoch = { type := 0x01, payload := text } := by
    unfold uuidFrame
    rw [hpacket]
    rfl
  rw [hframe, hpacket]
  refine ⟨rfl, ?_⟩
  show text.length ≤ 0xFFFF
  rw [hlen]
  decide

/-- What a client that has connected has written. -/
theorem connect_written {client client' : AudioSocketClient} {sock : Int} {connects : Bool}
    {epoch : Nat} (h : client.connect sock connects epoch = .ok (client', true)) :
    0 ≤ client'.sockfd ∧ client'.written = client.written ++ client.uuidPacket epoch := by
  unfold AudioSocketClient.connect at h
  split at h
  · cases h
  · simp only [bind, Except.bind, pure, Except.pure] at h
    split at h
    · cases h
    · split at h
      · cases h
      · split at h
        · cases h
        · next hsock =>
          split at h
          · cases h
            exact ⟨not_lt.mp hsock, rfl⟩
          · cases h

/-- A call begins with the UUID. -/
theorem socketCall_started {session started : CallSession} {env : Env} {config : Config}
    {localRtpPort : Int} {remoteIp : Bytes} {remotePort : Int} {client : AudioSocketClient}
    (hmode : config.mode = .audiosocket) (hport : 0 < localRtpPort)
    (hconnect : (session.newTcpClient config).connect env.tcpSocket env.tcpConnects env.epoch =
      .ok (client, true))
    (hstart : session.startPipeline env config localRtpPort remoteIp remotePort payloadType
      = .ok started) :
    SocketCall (uuidFrame (session.newTcpClient config) env.epoch) payloadType
      { session := started } { payloadType := payloadType } Conveyor.empty := by
  obtain ⟨bot, tcp, core, hcore, rfl⟩ := CallSession.startPipeline_core hstart
  cases hcore with
  | peer client' _ hpeer =>
    have hsame : client' = client := by
      rw [hconnect] at hpeer
      cases hpeer
      rfl
    obtain ⟨hfd, hwritten⟩ := connect_written hconnect
    refine ⟨⟨⟨_, rfl, CallSession.recorderStages_isRecorder _ env config payloadType⟩, hport, rfl,
      rfl⟩, rfl, nofun, client, by rw [hsame], hfd, ?_⟩
    rw [hwritten]
    show _ = (uuidFrame (session.newTcpClient config) env.epoch).encode ++ []
    rw [(uuidFrame_encode _ _).1, List.append_nil]
    rfl
  | noPeer client' _ hpeer => rw [hconnect] at hpeer; cases hpeer
  | echo hecho => rw [hmode] at hecho; cases hecho
  | bot hgrpc => rw [hmode] at hgrpc; cases hgrpc
  | noBot hgrpc => rw [hmode] at hgrpc; cases hgrpc

end Talk

/-! ## The loop -/

/-- A call with the server, and the bytes on the way between them. -/
structure SocketLoop where
  talk : Talk
  /-- what has happened in the call so far -/
  events : List TalkEvent := []
  /-- on the way to the server -/
  up : Bytes := []
  server : AudioSocketServer := {}
  /-- on the way back -/
  down : Bytes := []
  /-- what has come back and is not read -/
  unread : Bytes := []
  /-- `readerLoop` goes on -/
  reading : Bool := true

inductive SocketLoopEvent where
  | rtp (pkt : RtpPacket) (sender : SockAddr)
  | recorderTurn
  /-- so many bytes reach the server, at most -/
  | up (n : Nat)
  /-- a round of `handle_client` -/
  | serve
  /-- so many bytes come back, at most -/
  | down (n : Nat)
  /-- a round of `readerLoop` -/
  | read

namespace SocketLoop

/-- A step of the call; what the client writes is on its way. -/
def onTalk (loop : SocketLoop) (event : TalkEvent) : SocketLoop :=
  let talk := loop.talk.step event
  { loop with
    talk := talk
    events := loop.events ++ [event]
    up := loop.up ++ talk.written.drop loop.talk.written.length }

def step (loop : SocketLoop) : SocketLoopEvent → Option SocketLoop
  | .rtp pkt sender => some (loop.onTalk (.rtp pkt sender))
  | .recorderTurn => some (loop.onTalk (.media .recorderTurn))
  | .up n => some { loop with
      server := { loop.server with unread := loop.server.unread ++ loop.up.take n }
      up := loop.up.drop n }
  | .serve => loop.server.round.map fun (server, echoed) =>
      { loop with server := server, down := loop.down ++ echoed }
  | .down n => some { loop with
      unread := loop.unread ++ loop.down.take n
      down := loop.down.drop n }
  | .read =>
    if loop.reading then
      (AudioSocketFrame.next? loop.unread).map fun (frame, rest) =>
        let (audio, goesOn) := AudioSocketClient.readerRound frame
        let loop := { loop with unread := rest, reading := goesOn }
        match audio with
        | some data => loop.onTalk (.media (.socketData data))
        | none => loop
    else none

/-- The call from its start on; an event that `step` refuses cannot happen. -/
def machine (started : CallSession) : Machine SocketLoop SocketLoopEvent where
  init loop := loop = { talk := { session := started }
                        up := Talk.written { session := started } }
  enabled _ _ := True
  step := step

/-- The conveyor to the caller. -/
def conveyor (started : CallSession) (payloadType : Int) (loop : SocketLoop) :
    Conveyor 16000 160 UInt8 :=
  (DownlinkStage.audioSocket { payloadType := payloadType }).conveyor started loop.events

/-- Of the frames sent, `served` have been read by the server, and of these `back` by the client. -/
structure Consistent (uuid : AudioSocketFrame) (payloadType : Int) (started : CallSession)
    (loop : SocketLoop) (served back : Nat) (st : AudioSocketStage) : Prop where
  talk : loop.talk = Talk.run started loop.events
  call : Talk.SocketCall uuid payloadType loop.talk st (loop.conveyor started payloadType)
  connected : loop.server.connected = true
  reading : loop.reading = true
  there : AudioSocketFrame.framing.Pipe
    (Talk.socketFrames uuid payloadType loop.talk.payloads) served loop.server.unread loop.up
  returned : AudioSocketFrame.framing.Pipe
    ((Talk.socketFrames uuid payloadType loop.talk.payloads).take served) back loop.unread loop.down
  wav : loop.server.wav = (loop.talk.payloads.take (served - 1)).flatMap fun payload =>
    (AudioSocketStage.uplinkFrame { payloadType := payloadType } payload).payload
  accepted : (loop.conveyor started payloadType).accepted =
    (loop.talk.payloads.take (back - 1)).flatten.map (AudioSocketStage.louder payloadType)

variable {uuid : AudioSocketFrame} {payloadType : Int} {started : CallSession}
  {loop loop' : SocketLoop} {served back : Nat} {st : AudioSocketStage}

theorem conveyor_onTalk (htalk : loop.talk = Talk.run started loop.events) (event : TalkEvent) :
    (loop.onTalk event).conveyor started payloadType =
      ((DownlinkStage.audioSocket { payloadType := payloadType }).turns loop.talk event).foldl
        Conveyor.turn (loop.conveyor started payloadType) := by
  rw [htalk]
  exact DownlinkStage.conveyor_concat started loop.events event

theorem accepted_onTalk (event : TalkEvent) :
    ((loop.onTalk event).conveyor started payloadType).accepted =
      (loop.conveyor started payloadType).accepted ++ Talk.socketAudio payloadType event := by
  rw [← Talk.audio_audioSocket]
  exact DownlinkStage.accepted_concat started loop.events event

theorem talk_onTalk (htalk : loop.talk = Talk.run started loop.events) (event : TalkEvent) :
    (loop.onTalk event).talk = Talk.run started (loop.onTalk event).events := by
  unfold onTalk
  dsimp only
  rw [Talk.run_concat, htalk]

/-- The first frame is the UUID, the others are those of the payloads. -/
theorem socketFrames_getElem? {payloads : List Bytes} {n : Nat} {frame : AudioSocketFrame}
    (h : (Talk.socketFrames uuid payloadType payloads)[n]? = some frame) :
    n = 0 ∧ frame = uuid ∨ ∃ m payload, n = m + 1 ∧ payloads[m]? = some payload ∧
      frame = AudioSocketStage.uplinkFrame { payloadType := payloadType } payload := by
  unfold Talk.socketFrames at h
  cases n with
  | zero =>
    cases h
    exact Or.inl ⟨rfl, rfl⟩
  | succ m =>
    rw [List.getElem?_cons_succ, List.getElem?_map, Option.map_eq_some_iff] at h
    obtain ⟨payload, hpayload, rfl⟩ := h
    exact Or.inr ⟨m, payload, rfl, hpayload, rfl⟩

theorem take_succ_of_getElem? {α : Type} {l : List α} {n : Nat} {x : α} (h : l[n]? = some x) :
    l.take (n + 1) = l.take n ++ [x] := by
  rw [List.take_add_one, h]
  rfl

/-- What the call goes on to write follows what is on the way. -/
theorem Consistent.onTalk (h : Consistent uuid payloadType started loop served back st)
    (event : TalkEvent) :
    ∃ st', (loop.onTalk event).talk = Talk.run started (loop.onTalk event).events ∧
      Talk.SocketCall uuid payloadType (loop.onTalk event).talk st'
        ((loop.onTalk event).conveyor started payloadType) ∧
      ((loop.onTalk event).conveyor started payloadType).accepted =
        (loop.conveyor started payloadType).accepted ++ Talk.socketAudio payloadType event ∧
      AudioSocketFrame.framing.Pipe
        (Talk.socketFrames uuid payloadType (loop.onTalk event).talk.payloads) served
        loop.server.unread (loop.onTalk event).up ∧
      (Talk.socketFrames uuid payloadType (loop.onTalk event).talk.payloads).take served =
        (Talk.socketFrames uuid payloadType loop.talk.payloads).take served ∧
      ∀ n ≤ served - 1,
        (loop.onTalk event).talk.payloads.take n = loop.talk.payloads.take n := by
  obtain ⟨st', more, hcall, hmore⟩ := h.call.step event
  rw [← conveyor_onTalk h.talk] at hcall
  have hframes : Talk.socketFrames uuid payloadType (loop.talk.step event).payloads =
      Talk.socketFrames uuid payloadType loop.talk.payloads ++
        more.map (AudioSocketStage.uplinkFrame { payloadType := payloadType }) := by
    rw [hmore, Talk.socketFrames_append]
  have hnew : (loop.talk.step event).written.drop loop.talk.written.length =
      (more.map (AudioSocketStage.uplinkFrame { payloadType := payloadType })).flatMap
        AudioSocketFrame.encode := by
    rw [hcall.written_eq, h.call.written_eq, hframes, List.flatMap_append, List.drop_left' rfl]
  have hfits : ∀ frame ∈ more.map (AudioSocketStage.uplinkFrame { payloadType := payloadType }),
      frame.Fits := by
    intro frame hframe
    obtain ⟨payload, hpayload, rfl⟩ := List.mem_map.mp hframe
    refine AudioSocketStage.uplinkFrame_fits (hcall.lengths payload ?_).2
    rw [hmore]
    exact List.mem_append_right _ hpayload
  have hlen := h.there.taken_le
  refine ⟨st', talk_onTalk h.talk event, hcall, accepted_onTalk event, ?_, ?_, fun n hn => ?_⟩
  · show AudioSocketFrame.framing.Pipe (Talk.socketFrames uuid payloadType
      (loop.talk.step event).payloads) _ _ (_ ++ (loop.talk.step event).written.drop _)
    rw [hframes, hnew]
    exact h.there.send hfits
  · show (Talk.socketFrames uuid payloadType (loop.talk.step event).payloads).take served = _
    rw [hframes, List.take_append_of_le_length hlen]
  · show (loop.talk.step event).payloads.take n = _
    unfold Talk.socketFrames at hlen
    rw [List.length_cons, List.length_map] at hlen
    rw [hmore, List.take_append_of_le_length (by omega)]

theorem Consistent.back_le (h : Consistent uuid payloadType started loop served back st) :
    back ≤ served := by
  have hback := h.returned.taken_le
  rw [List.length_take] at hback
  exact hback.trans (Nat.min_le_left _ _)

/-- A packet or a turn of the recorder may only send more. -/
theorem Consistent.more (h : Consistent uuid payloadType started loop served back st)
    {event : TalkEvent} (hevent : Talk.socketAudio payloadType event = []) :
    ∃ st', Consistent uuid payloadType started (loop.onTalk event) served back st' := by
  obtain ⟨st', htalk, hcall, haccepted, hthere, hframes, htake⟩ := h.onTalk event
  have hback := h.back_le
  refine ⟨st', htalk, hcall, h.connected, h.reading, hthere, ?_, ?_, ?_⟩
  · rw [hframes]
    exact h.returned
  · rw [htake _ (Nat.le_refl _)]
    exact h.wav
  · rw [haccepted, hevent, List.append_nil, h.accepted, htake _ (by omega)]

/-- The server records and returns the next frame. -/
theorem Consistent.serve (h : Consistent uuid payloadType started loop served back st)
    (htype : uuid.type = 0x01) (hutf8 : validUtf8 uuid.payload = true)
    (hstep : loop.step .serve = some loop') :
    Consistent uuid payloadType started loop' (served + 1) back st := by
  obtain ⟨⟨server, echoed⟩, hround, rfl⟩ := Option.map_eq_some_iff.mp hstep
  obtain ⟨frame, rest, hnext, hhandle⟩ := AudioSocketServer.round_cases hround
  obtain ⟨hframe, hthere⟩ := h.there.take hnext
  have hfits : frame.Fits := h.there.fits frame (List.mem_of_getElem? hframe)
  have hreturned := h.returned.send fun other hother => by
    rw [List.mem_singleton.mp hother]
    exact hfits
  rw [← take_succ_of_getElem? hframe, List.flatMap_singleton] at hreturned
  rcases socketFrames_getElem? hframe with ⟨rfl, rfl⟩ | ⟨m, payload, rfl, hpayload, rfl⟩
  · rw [AudioSocketServer.handle_uuid htype hutf8] at hhandle
    cases hhandle
    exact ⟨h.talk, h.call, h.connected, h.reading, hthere, hreturned, h.wav, h.accepted⟩
  · rw [AudioSocketServer.handle_audio rfl] at hhandle
    cases hhandle
    refine ⟨h.talk, h.call, h.connected, h.reading, hthere, hreturned, ?_, h.accepted⟩
    dsimp only
    rw [h.wav, Nat.add_sub_cancel, Nat.add_sub_cancel, take_succ_of_getElem? hpayload,
      List.flatMap_append, List.flatMap_singleton]

/-- The reader thread hands the audio of the next frame to the stage. -/
theorem Consistent.read (h : Consistent uuid payloadType started loop served back st)
    (htype : uuid.type = 0x01) (hstep : loop.step .read = some loop') :
    ∃ st', Consistent uuid payloadType started loop' served (back + 1) st' := by
  unfold step at hstep
  dsimp only at hstep
  rw [if_pos h.reading] at hstep
  obtain ⟨⟨frame, rest⟩, hnext, rfl⟩ := Option.map_eq_some_iff.mp hstep
  obtain ⟨hframe, hreturned⟩ := h.returned.take hnext
  have hlt : back < served := by
    by_contra hge
    rw [List.getElem?_take, if_neg hge] at hframe
    cases hframe
  rw [List.getElem?_take, if_pos hlt] at hframe
  rcases socketFrames_getElem? hframe with ⟨rfl, rfl⟩ | ⟨m, payload, rfl, hpayload, rfl⟩
  · rw [AudioSocketClient.readerRound_uuid htype]
    exact ⟨st, h.talk, h.call, h.connected, rfl, h.there, hreturned, h.wav, h.accepted⟩
  · have hne := (h.call.lengths payload (List.mem_of_getElem? hpayload)).1
    rw [AudioSocketClient.readerRound_of_audio rfl
      (AudioSocketStage.uplinkFrame_ne_nil (List.length_pos_iff.mpr hne))]
    have hread : Consistent uuid payloadType started { loop with reading := true } served (m + 1)
        st :=
      ⟨h.talk, h.call, h.connected, rfl, h.there, h.returned, h.wav, h.accepted⟩
    obtain ⟨st', htalk, hcall, haccepted, hthere, hframes, htake⟩ :=
      hread.onTalk (.media (.socketData
        (AudioSocketStage.uplinkFrame { payloadType := payloadType } payload).payload))
    refine ⟨st', htalk, hcall, h.connected, rfl, hthere, ?_, ?_, ?_⟩
    · exact hframes.symm ▸ hreturned
    · exact (htake _ (Nat.le_refl _)).symm ▸ h.wav
    · have heven : (AudioSocketStage.uplinkFrame { payloadType := payloadType }
          payload).payload.length % 2 = 0 := by
        rw [AudioSocketStage.length_uplinkFrame]
        omega
      have haudio : Talk.socketAudio payloadType (.media (.socketData
          (AudioSocketStage.uplinkFrame { payloadType := payloadType } payload).payload)) =
          payload.map (AudioSocketStage.louder payloadType) :=
        (if_pos heven).trans (AudioSocketStage.amplified_uplinkFrame payloadType payload)
      have hall : (loop.talk.payloads.take m).flatten.map (AudioSocketStage.louder payloadType) ++
          payload.map (AudioSocketStage.louder payloadType) =
          (loop.talk.payloads.take (m + 1)).flatten.map (AudioSocketStage.louder payloadType) := by
        rw [take_succ_of_getElem? hpayload, List.flatten_append, List.flatten_singleton,
          List.map_append]
      rw [haudio, hread.accepted, Nat.add_sub_cancel, hall] at haccepted
      rw [Nat.add_sub_cancel]
      refine haccepted.trans ?_
      exact congrArg (fun payloads => payloads.flatten.map (AudioSocketStage.louder payloadType))
        (htake (m + 1) (by omega)).symm

/-- What a run of the parties keeps. -/
theorem consistent_reachable (hstart : Talk.SocketCall uuid payloadType
      { session := started } { payloadType := payloadType } Conveyor.empty)
    (htype : uuid.type = 0x01) (hfits : uuid.Fits) (hutf8 : validUtf8 uuid.payload = true)
    (h : (machine started).Reachable loop) :
    ∃ served back st, Consistent uuid payloadType started loop served back st := by
  refine Machine.Reachable.invariant
    (P := fun loop => ∃ served back st, Consistent uuid payloadType started loop served back st)
    ?_ ?_ h
  · rintro loop rfl
    have hthere := (Framing.Pipe.init AudioSocketFrame.framing).send
      (fun frame hframe => by rw [List.mem_singleton.mp hframe]; exact hfits : ∀ f ∈ [uuid], f.Fits)
    rw [List.nil_append, List.nil_append] at hthere
    exact ⟨0, 0, _, rfl, hstart, rfl, rfl, hstart.written_eq ▸ hthere, Framing.Pipe.init _, rfl,
      rfl⟩
  · rintro loop event loop' - ⟨served, back, st, hc⟩ - hstep
    cases event with
    | rtp pkt sender =>
      cases hstep
      exact ⟨served, back, hc.more rfl⟩
    | recorderTurn =>
      cases hstep
      exact ⟨served, back, hc.more rfl⟩
    | up n =>
      cases hstep
      exact ⟨served, back, st, hc.talk, hc.call, hc.connected, hc.reading, hc.there.arrive n,
        hc.returned, hc.wav, hc.accepted⟩
    | serve => exact ⟨served + 1, back, st, hc.serve htype hutf8 hstep⟩
    | down n =>
      cases hstep
      exact ⟨served, back, st, hc.talk, hc.call, hc.connected, hc.reading, hc.there,
        hc.returned.arrive n, hc.wav, hc.accepted⟩
    | read => exact ⟨served, back + 1, hc.read htype hstep⟩

/-- Nothing is on its way, and neither end has a frame to read. -/
def Idle (loop : SocketLoop) : Prop :=
  loop.up = [] ∧ loop.down = [] ∧ AudioSocketFrame.next? loop.server.unread = none ∧
    AudioSocketFrame.next? loop.unread = none

/-- Then all frames have come back. -/
theorem Consistent.back_of_idle (h : Consistent uuid payloadType started loop served back st)
    (hidle : loop.Idle) : back = loop.talk.payloads.length + 1 := by
  obtain ⟨hup, hdown, hserver, hclient⟩ := hidle
  have hthere := h.there
  have hreturned := h.returned
  have hserved_le := hthere.taken_le
  have hback_le := hreturned.taken_le
  rw [hup] at hthere
  rw [hdown] at hreturned
  have hserved : ¬ served < (Talk.socketFrames uuid payloadType loop.talk.payloads).length := by
    intro hlt
    have hsome := hthere.next?_of_arrived hlt
    rw [show AudioSocketFrame.framing.next? _ = none from hserver] at hsome
    cases hsome
  have hback : ¬ back <
      ((Talk.socketFrames uuid payloadType loop.talk.payloads).take served).length := by
    intro hlt
    have hsome := hreturned.next?_of_arrived hlt
    rw [show AudioSocketFrame.framing.next? _ = none from hclient] at hsome
    cases hsome
  rw [List.length_take] at hback hback_le
  unfold Talk.socketFrames at hserved hserved_le hback hback_le
  rw [List.length_cons, List.length_map] at hserved hserved_le hback hback_le
  omega

/--
**Through the AudioSocket server the caller hears himself**, nine times as loud as far as 16 bits
go. In every order of packets, parts of the stream and rounds at both ends, the audio handed back is
that of the first payloads the server was sent, and all of it once nothing is on its way. It is put
on the conveyor of the stage, from which every frame takes a packet of 160 bytes to the caller. The
server records the first payloads, three times as loud.

The users of the call must not make the text of the UUID frame something that is no UTF-8.
-/
theorem socket_loop_returns_audio {session : CallSession} {env : Env} {config : Config}
    {localRtpPort : Int} {remoteIp : Bytes} {remotePort : Int} {client : AudioSocketClient}
    (hmode : config.mode = .audiosocket) (hport : 0 < localRtpPort)
    (hconnect : (session.newTcpClient config).connect env.tcpSocket env.tcpConnects env.epoch =
      .ok (client, true))
    (hutf8 : validUtf8 (((session.newTcpClient config).uuidPacket env.epoch).drop 3) = true)
    (hstart : session.startPipeline env config localRtpPort remoteIp remotePort payloadType
      = .ok started) (h : (machine started).Reachable loop) :
    loop.server.connected = true ∧ loop.talk = Talk.run started loop.events ∧
    (∃ recorded returned : Nat,
      returned ≤ recorded ∧ recorded ≤ loop.talk.payloads.length ∧
      (loop.Idle → returned = loop.talk.payloads.length) ∧
      loop.server.wav = (loop.talk.payloads.take recorded).flatMap (fun payload =>
        (AudioSocketStage.uplinkFrame { payloadType := payloadType } payload).payload) ∧
      (loop.conveyor started payloadType).accepted =
        (loop.talk.payloads.take returned).flatten.map (AudioSocketStage.louder payloadType)) ∧
    loop.talk.sent.map RtpPacket.getPayload = (loop.conveyor started payloadType).emitted ∧
    (∀ pkt ∈ loop.talk.sent, pkt.getPayload.length = 160) ∧
    ∃ st : AudioSocketStage, loop.talk.session.Bridges (.audioSocket st) ∧
      st.downlinkBuffer = (loop.conveyor started payloadType).queue := by
  obtain ⟨hencode, hfits⟩ := Talk.uuidFrame_encode (session.newTcpClient config) env.epoch
  obtain ⟨served, back, st, hc⟩ := consistent_reachable
    (Talk.socketCall_started hmode hport hconnect hstart) rfl hfits hutf8 h
  have hback := hc.back_le
  have hserved := hc.there.taken_le
  unfold Talk.socketFrames at hserved
  rw [List.length_cons, List.length_map] at hserved
  have hcarries := hc.call.carries
  refine ⟨hc.connected, hc.talk, ⟨served - 1, back - 1, by omega, by omega, fun hidle => ?_, hc.wav,
    hc.accepted⟩, hcarries.sent, hcarries.length_sent, st, hcarries.bridges, hcarries.queue⟩
  rw [hc.back_of_idle hidle, Nat.add_sub_cancel]

instance (started : CallSession) (loop : SocketLoop) (event : SocketLoopEvent) :
    Decidable ((machine started).enabled loop event) :=
  inferInstanceAs (Decidable True)

instance (loop : SocketLoop) : Decidable loop.Idle :=
  inferInstanceAs (Decidable (_ ∧ _ ∧ _ ∧ _))

/-- A server that accepts the connection. -/
def exampleServerMode : Config := { mode := .audiosocket, audiosocketTarget := [colon, 57] }

def exampleServerEnv : Env := { start := 0, tcpSocket := 5, tcpConnects := true }

/-- A session with the server, started for PCMU. -/
def exampleWithServer : CallSession :=
  ((CallSession.create [] 7).startPipeline exampleServerEnv exampleServerMode 20000 []
    4000 0).toOption.getD (CallSession.create [] 7)

theorem exampleWithServer_eq :
    (CallSession.create [] 7).startPipeline exampleServerEnv exampleServerMode 20000 [] 4000 0 =
      .ok exampleWithServer := by
  decide +kernel

/-- Five packets, a frame of silence, sent there in two parts and back; the next packet. -/
def exampleTrip : List SocketLoopEvent :=
  let packet (seq : UInt16) : SocketLoopEvent :=
    .rtp ((RtpPacket.empty.setHeader 0 seq 0 0).setPayload (List.replicate 160 255)) {}
  [1, 2, 3, 4, 5].map packet ++
    [.up 50, .serve, .up 400, .serve, .down 500, .read, .read, packet 6]

theorem socket_loop_returns_audio_silence :
    ∃ loop, (machine exampleWithServer).Reachable loop ∧
      loop.talk.sent.map RtpPacket.getPayload = [List.replicate 160 255] ∧
      (loop.conveyor exampleWithServer 0).emitted = [List.replicate 160 255] ∧
      loop.server.connected = true := by
  have hrun : (((machine exampleWithServer).restrict fun _ _ => True).replay
      { talk := { session := exampleWithServer }
        up := Talk.written { session := exampleWithServer } } exampleTrip).any (fun loop =>
        loop.talk.sent.map RtpPacket.getPayload == [List.replicate 160 255]) = true := by
    decide +kernel
  obtain ⟨loop, hreach, hsent⟩ := Machine.exists_reach (fun _ _ => True) rfl hrun
  have h := socket_loop_returns_audio rfl (by decide) rfl (by decide +kernel)
    exampleWithServer_eq hreach
  have hsent : loop.talk.sent.map RtpPacket.getPayload = [List.replicate 160 255] := by
    simpa using hsent
  obtain ⟨hconnected, -, -, hemitted, -⟩ := h
  exact ⟨loop, hreach, hsent, hemitted.symm.trans hsent, hconnected⟩

end SocketLoop

/-! ## Whatever server there is -/

namespace Talk

variable {t : Talk} {st : AudioSocketStage} {c : Conveyor 16000 160 UInt8}
  {uuid : AudioSocketFrame} {payloadType : Int}

theorem SocketCall.run {started : CallSession}
    (h : SocketCall uuid payloadType { session := started } { payloadType := payloadType }
      Conveyor.empty) (events : List TalkEvent) :
    ∃ st, SocketCall uuid payloadType (Talk.run started events) st
      ((DownlinkStage.audioSocket { payloadType := payloadType }).conveyor started events) := by
  induction events using List.reverseRecOn with
  | nil => exact ⟨_, h⟩
  | append_singleton events event ih =>
    obtain ⟨st, hcall⟩ := ih
    obtain ⟨st', more, hcall', -⟩ := hcall.step event
    rw [run_concat, DownlinkStage.conveyor_concat]
    exact ⟨st', hcall'⟩

/-- The server sends a payload of an odd length and silence, and six packets are two frames. -/
def exampleServerEvents : List TalkEvent :=
  .media (.socketData [1]) :: .media (.socketData (List.replicate 400 0)) :: examplePackets 160

end Talk

end SipGateway
