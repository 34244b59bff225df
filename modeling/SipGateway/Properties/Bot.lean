import SipGateway.Peers.VoiceBot
import SipGateway.Properties.Bridge

/-!
# A call with a voice bot

`bot_hears_call`: the bot is sent the configuration and then every frame of the caller, numbered,
until the stream ends.

A `BotLoop` is such a call together with the echo bot, the two directions of the stream between
them, and the reader thread. `bot_loop_returns_audio`: in every order of events the caller is sent
his own audio, first-in first-out.
-/

namespace SipGateway

open Infra

/-! ## What the bot is sent -/

/-- The stream to the bot for some frames: the configuration, and the audio with its number. -/
def botEvents (callId : Bytes) (payloadType : Int) (payloads : List Bytes) : List CallEvent :=
  { callId := callId, payload := .config 8000 (CallSession.announcedCodec payloadType) } ::
    payloads.zipIdx.map fun p => { callId := callId, payload := .audio p.1 (UInt64.ofNat p.2) }

theorem botEvents_concat (callId : Bytes) (payloadType : Int) (payloads : List Bytes)
    (payload : Bytes) : botEvents callId payloadType (payloads ++ [payload]) =
      botEvents callId payloadType payloads ++
        [{ callId := callId, payload := .audio payload (UInt64.ofNat payloads.length) }] := by
  unfold botEvents
  rw [List.zipIdx_append, List.map_append, List.cons_append]
  simp

theorem GrpcBridgeStage.processDownlink_seq (st : GrpcBridgeStage) (audio : Bytes) :
    (st.processDownlink audio).1.seq = st.seq := by
  unfold processDownlink
  split <;> rfl

namespace Talk

variable {t : Talk} {st : GrpcBridgeStage} {callId : Bytes} {payloadType : Int}

/-- The payloads of the frames the session was given. -/
def payloads (t : Talk) : List Bytes := t.frames.map RtpPacket.getPayload

/-- The client of a call that goes on has written all there was to write. -/
structure Heard (callId : Bytes) (payloadType : Int) (t : Talk) (st : GrpcBridgeStage) : Prop where
  seq : st.seq = UInt64.ofNat t.frames.length
  client : ∃ client, t.session.botClient = some client ∧ client.running = true ∧
    client.callId = callId ∧ client.written = botEvents callId payloadType t.payloads

theorem Heard.congr (h : Heard callId payloadType t st) {session : CallSession}
    {st' : GrpcBridgeStage} (hseq : st'.seq = st.seq)
    (hbot : session.botClient = t.session.botClient) :
    Heard callId payloadType { t with session := session } st' where
  seq := hseq.trans h.seq
  client := by
    dsimp only
    rw [hbot]
    exact h.client

/-- A frame is written behind the others. -/
theorem Heard.played (h : Heard callId payloadType t st) {session : CallSession}
    {frame : RtpPacket} {packets : List RtpPacket}
    (hbot : session.botClient =
      (t.session.callClients (st.processUplink frame.getPayload).2).botClient) :
    Heard callId payloadType
      { session := session, sent := t.sent ++ packets
        frames := t.frames ++ [frame].filter (·.getPayload ≠ []) }
      ((st.processUplink frame.getPayload).1.processDownlink []).1 := by
  obtain ⟨client, hclient, hrunning, hid, hwritten⟩ := h.client
  by_cases hempty : frame.getPayload = []
  · have huplink : st.processUplink frame.getPayload = (st, []) := by
      unfold GrpcBridgeStage.processUplink
      rw [hempty]
      rfl
    rw [huplink] at hbot ⊢
    rw [List.filter_cons_of_neg (by simpa using hempty), List.filter_nil, List.append_nil]
    exact ⟨(st.processDownlink_seq []).trans h.seq, client, hbot.trans hclient, hrunning, hid,
      hwritten⟩
  · have huplink : st.processUplink frame.getPayload =
        ({ st with seq := st.seq + 1 }, [.botAudio frame.getPayload st.seq]) := by
      unfold GrpcBridgeStage.processUplink
      rw [if_neg (by simpa using hempty)]
    have hbot' : session.botClient = some (client.sendAudio frame.getPayload st.seq) := by
      rw [huplink] at hbot
      rw [hbot]
      exact congrArg (Option.map _) hclient
    have hsend : client.sendAudio frame.getPayload st.seq = { client with
        written := client.written ++
          [{ callId := client.callId, payload := .audio frame.getPayload st.seq }] } :=
      if_pos hrunning
    rw [huplink, List.filter_cons_of_pos (by simpa using hempty), List.filter_nil]
    refine ⟨?_, _, hbot', ?_⟩
    · rw [GrpcBridgeStage.processDownlink_seq, List.length_append, List.length_singleton]
      dsimp only
      rw [h.seq, UInt64.ofNat_add]
      rfl
    · rw [hsend]
      refine ⟨hrunning, hid, ?_⟩
      dsimp only
      rw [payloads, List.map_append, List.map_singleton, botEvents_concat, hwritten, hid, h.seq,
        List.length_map]
      rfl

/-- A call with a bot, both ways. -/
structure BotCall (callId : Bytes) (payloadType : Int) (t : Talk) (st : GrpcBridgeStage)
    (c : Conveyor 16000 160 UInt8) : Prop where
  carries : Carries t (.grpcBridge st) c
  heard : Heard callId payloadType t st

variable {c : Conveyor 16000 160 UInt8}

/-- The audio an event brings from the bot. -/
def botAudio : TalkEvent → Bytes
  | .media (.botAudio data) => data
  | _ => []

/-- A bridge stage is the same conveyor all the time. -/
theorem alike_grpcBridge (st : GrpcBridgeStage) :
    DownlinkStage.Alike (.grpcBridge {}) (.grpcBridge st) where
  arrival event := by rcases event with _ | ⟨_ | _ | _ | _⟩ <;> rfl
  accepts _ := rfl

theorem audio_grpcBridge : (DownlinkStage.grpcBridge {}).audio = botAudio := by
  funext event
  rcases event with _ | ⟨_ | _ | _ | _⟩ <;> rfl

/-- An event adds audio from the bot, and frames for it. -/
theorem BotCall.step (h : BotCall callId payloadType t st c) {event : TalkEvent}
    (hends : event.endsReader = false) :
    ∃ st', BotCall callId payloadType (t.step event) st'
        (((DownlinkStage.grpcBridge {}).turns t event).foldl Conveyor.turn c) ∧
      t.payloads <+: (t.step event).payloads := by
  obtain ⟨ds', hbridged⟩ := step_bridged h.carries.bridges h.carries.port event
  obtain ⟨hcarries, -⟩ := h.carries.bridged hbridged
  rw [(alike_grpcBridge st).turns] at hcarries
  generalize t.step event = t' at hbridged hcarries
  cases hbridged with
  | quiet session _ _ _ _ hsame =>
    exact ⟨st, ⟨hcarries, h.heard.congr rfl hsame.botClient⟩, List.prefix_rfl⟩
  | ended session hevent =>
    subst hevent
    cases hends
  | arrived session data _ _ hsame =>
    exact ⟨st.onBotAudio data, ⟨hcarries, h.heard.congr rfl hsame.botClient⟩, List.prefix_rfl⟩
  | played session frame packets _ _ _ hbot =>
    refine ⟨_, ⟨hcarries, h.heard.played hbot⟩, ?_⟩
    unfold payloads
    rw [List.map_append]
    exact List.prefix_append _ _

/-- A call begins with the configuration. -/
theorem botCall_started {session started : CallSession} {env : Env} {config : Config}
    {localRtpPort : Int} {remoteIp : Bytes} {remotePort : Int}
    (hmode : config.mode = .grpc) (hstream : env.botStream = true) (hport : 0 < localRtpPort)
    (hstart : session.startPipeline env config localRtpPort remoteIp remotePort payloadType
      = .ok started) :
    BotCall session.callId payloadType { session := started } {} Conveyor.empty := by
  obtain ⟨bot, tcp, core, hcore, rfl⟩ := CallSession.startPipeline_core hstart
  cases hcore with
  | bot =>
    refine ⟨⟨⟨_, rfl, CallSession.recorderStages_isRecorder _ env config payloadType⟩, hport, rfl,
      rfl⟩, rfl, _, rfl, rfl, rfl, rfl⟩
  | echo hecho => rw [hmode] at hecho; cases hecho
  | noBot _ hno => rw [hstream] at hno; cases hno
  | peer _ hpeer => rw [hmode] at hpeer; cases hpeer
  | noPeer _ hpeer => rw [hmode] at hpeer; cases hpeer

theorem BotCall.run {started : CallSession}
    (h : BotCall callId payloadType { session := started } {} Conveyor.empty)
    {events : List TalkEvent} (hends : ∀ event ∈ events, event.endsReader = false) :
    ∃ st, BotCall callId payloadType (Talk.run started events) st
      ((DownlinkStage.grpcBridge {}).conveyor started events) := by
  induction events using List.reverseRecOn with
  | nil => exact ⟨{}, h⟩
  | append_singleton events event ih =>
    obtain ⟨st, hcall⟩ := ih fun e he => hends e (List.mem_append_left _ he)
    obtain ⟨st', hcall', -⟩ := hcall.step (hends event (by simp))
    rw [run_concat, DownlinkStage.conveyor_concat]
    exact ⟨st', hcall'⟩

/-! ### When the stream has ended -/

/-- The client has written so much, and will write nothing any more. -/
def Closed (t : Talk) (written : List CallEvent) : Prop :=
  ∃ client, t.session.botClient = some client ∧ client.running = false ∧ client.written = written

theorem callClients_of_ended (calls : List ClientCall) {session : CallSession}
    {client : VoiceBotClient} (hclient : session.botClient = some client)
    (hended : client.running = false) : (session.callClients calls).botClient = some client := by
  unfold CallSession.callClients
  induction calls generalizing session with
  | nil => exact hclient
  | cons call calls ih =>
    rw [List.foldl_cons]
    cases call with
    | botAudio data seq =>
      refine ih ?_
      simp [hclient, VoiceBotClient.sendAudio, VoiceBotClient.write, hended]
    | socketAudio data => exact ih hclient

theorem Closed.bridged {written : List CallEvent} (h : t.Closed written) {ds ds' : DownlinkStage}
    {event : TalkEvent} {t' : Talk} (hbridged : Bridged t ds event t' ds') : t'.Closed written := by
  obtain ⟨client, hclient, hended, hwritten⟩ := h
  cases hbridged with
  | quiet session _ _ _ _ hsame =>
    exact ⟨client, hsame.botClient.trans hclient, hended, hwritten⟩
  | arrived session data _ _ hsame =>
    exact ⟨client, hsame.botClient.trans hclient, hended, hwritten⟩
  | ended session _ _ hbot =>
    exact ⟨client.readerEnds, by simp [hbot, hclient], rfl, hwritten⟩
  | played session frame packets _ _ _ hbot =>
    exact ⟨client, hbot.trans (callClients_of_ended _ hclient hended), hended, hwritten⟩

/-- Nothing is written behind the end of the stream, whatever happens. -/
theorem Closed.run {written : List CallEvent} {ds : DownlinkStage} (h : t.Closed written)
    (hcarries : Carries t ds c) (events : List TalkEvent) :
    (events.foldl Talk.step t).Closed written := by
  induction events generalizing t ds c with
  | nil => exact h
  | cons event events ih =>
    obtain ⟨ds', hbridged⟩ := step_bridged hcarries.bridges hcarries.port event
    exact ih (h.bridged hbridged) (hcarries.bridged hbridged).1

/-- The end of the stream closes the client. -/
theorem BotCall.ends (h : BotCall callId payloadType t st c) {event : TalkEvent}
    (hends : event.endsReader = true) :
    (t.step event).Closed (botEvents callId payloadType t.payloads) := by
  obtain ⟨client, hclient, -, -, hwritten⟩ := h.heard.client
  rcases event with _ | ⟨_ | _ | _ | _⟩ <;> cases hends
  refine ⟨client.readerEnds, ?_, rfl, hwritten⟩
  exact congrArg (Option.map VoiceBotClient.readerEnds) hclient

/-- The events before the stream ends. -/
def untilEnd (events : List TalkEvent) : List TalkEvent := events.takeWhile (!·.endsReader)

theorem endsReader_of_mem_untilEnd {events : List TalkEvent} {event : TalkEvent}
    (h : event ∈ untilEnd events) : event.endsReader = false := by
  simpa using List.mem_takeWhile_imp h

/-- What has been written at any time. -/
theorem BotCall.written_run {started : CallSession}
    (h : BotCall callId payloadType { session := started } {} Conveyor.empty)
    (events : List TalkEvent) :
    ∃ client, (Talk.run started events).session.botClient = some client ∧
      client.written =
        botEvents callId payloadType (Talk.run started (untilEnd events)).payloads := by
  have hnever : ∀ event ∈ untilEnd events, event.endsReader = false := fun _ hmem =>
    endsReader_of_mem_untilEnd hmem
  obtain ⟨st, hcall⟩ := h.run hnever
  have hsplit : untilEnd events ++ events.dropWhile (!·.endsReader) = events :=
    List.takeWhile_append_dropWhile
  cases hrest : events.dropWhile (!·.endsReader) with
  | nil =>
    rw [hrest, List.append_nil] at hsplit
    rw [hsplit] at hcall ⊢
    obtain ⟨client, hclient, -, -, hwritten⟩ := hcall.heard.client
    exact ⟨client, hclient, hwritten⟩
  | cons event rest =>
    have hends : event.endsReader = true := by
      have hhead := List.head_dropWhile_not (fun e : TalkEvent => !e.endsReader)
        (by rw [hrest]; exact List.cons_ne_nil _ _ : events.dropWhile (!·.endsReader) ≠ [])
      simpa [hrest] using hhead
    obtain ⟨ds', hbridged⟩ := step_bridged hcall.carries.bridges hcall.carries.port event
    obtain ⟨client, hclient, -, hwritten⟩ :=
      (hcall.ends hends).run (hcall.carries.bridged hbridged).1 rest
    have hrun : Talk.run started events =
        rest.foldl Talk.step ((Talk.run started (untilEnd events)).step event) := by
      conv_lhs => rw [← hsplit, hrest]
      exact List.foldl_append
    rw [hrun]
    exact ⟨client, hclient, hwritten⟩

/-- A call to a bot that is there. -/
def exampleBotMode : Config := { mode := .grpc }

def exampleBotEnv : Env := { start := 0, botStream := true }

/-- A session with a bot, started for PCMU. -/
def exampleWithBot : CallSession :=
  ((CallSession.create [] 7).startPipeline exampleBotEnv exampleBotMode 20000 []
    4000 0).toOption.getD (CallSession.create [] 7)

theorem exampleWithBot_eq :
    (CallSession.create [] 7).startPipeline exampleBotEnv exampleBotMode 20000 [] 4000 0 =
      .ok exampleWithBot := rfl

/-- The bot speaks, six packets are two frames for it, and the stream ends before the next. -/
def exampleBotEvents : List TalkEvent :=
  .media (.botAudio (List.replicate 200 9)) :: examplePackets 160 ++
    [.media .readerEnds, .rtp ((RtpPacket.empty.setHeader 0 7 0 0).setPayload [1]) {}]

end Talk

/-! ## The loop through the echo bot -/

/-- A call with the echo bot: how far the bot has read what was written, and what it has yielded;
how far the reader thread has read that. -/
structure BotLoop where
  talk : Talk
  /-- what has happened in the call so far -/
  events : List TalkEvent := []
  served : Nat := 0
  streaming : Bool := true
  actions : List CallAction := []
  read : Nat := 0

inductive BotLoopEvent where
  | rtp (pkt : RtpPacket) (sender : SockAddr)
  | recorderTurn
  /-- the bot takes the next event -/
  | serve
  /-- the reader thread takes the next action -/
  | read

namespace BotLoop

/-- What has been written to the stream. -/
def written (loop : BotLoop) : List CallEvent :=
  match loop.talk.session.botClient with
  | some client => client.written
  | none => []

/-- An event of the call. -/
def onTalk (loop : BotLoop) (event : TalkEvent) : BotLoop :=
  { loop with talk := loop.talk.step event, events := loop.events ++ [event] }

def step (loop : BotLoop) : BotLoopEvent → Option BotLoop
  | .rtp pkt sender => some (loop.onTalk (.rtp pkt sender))
  | .recorderTurn => some (loop.onTalk (.media .recorderTurn))
  | .serve =>
    if loop.streaming then
      (loop.written[loop.served]?).map fun event =>
        let (yielded, goesOn) := VoiceBotServicer.next event
        { loop with
          served := loop.served + 1
          streaming := goesOn
          actions := loop.actions ++ yielded }
    else none
  | .read =>
    (loop.actions[loop.read]?).map fun action =>
      let loop := { loop with read := loop.read + 1 }
      match action.audioCb with
      | some data => loop.onTalk (.media (.botAudio data))
      | none => loop

/-- The call from its start on; an event that `step` refuses cannot happen. -/
def machine (started : CallSession) : Machine BotLoop BotLoopEvent where
  init loop := loop = { talk := { session := started } }
  enabled _ _ := True
  step := step

/-- The conveyor to the caller. -/
def conveyor (started : CallSession) (loop : BotLoop) : Conveyor 16000 160 UInt8 :=
  (DownlinkStage.grpcBridge {}).conveyor started loop.events

/-- What holds between the parties. -/
structure Consistent (callId : Bytes) (payloadType : Int) (started : CallSession) (loop : BotLoop)
    (st : GrpcBridgeStage) : Prop where
  talk : loop.talk = Talk.run started loop.events
  call : Talk.BotCall callId payloadType loop.talk st (loop.conveyor started)
  utf8 : validUtf8 callId = true
  streaming : loop.streaming = true
  served : loop.served ≤ loop.talk.payloads.length + 1
  /-- of what the bot has read, all but the configuration was audio -/
  actions : loop.actions = (loop.talk.payloads.take (loop.served - 1)).zipIdx.map fun p =>
    .audio p.1 (UInt64.ofNat p.2)
  read : loop.read ≤ loop.actions.length
  accepted : (loop.conveyor started).accepted = (loop.talk.payloads.take loop.read).flatten

variable {callId : Bytes} {payloadType : Int} {started : CallSession} {loop loop' : BotLoop}
  {st : GrpcBridgeStage}

theorem conveyor_onTalk (htalk : loop.talk = Talk.run started loop.events) (event : TalkEvent) :
    (loop.onTalk event).conveyor started =
      ((DownlinkStage.grpcBridge {}).turns loop.talk event).foldl Conveyor.turn
        (loop.conveyor started) := by
  rw [htalk]
  exact DownlinkStage.conveyor_concat started loop.events event

theorem accepted_onTalk (event : TalkEvent) :
    ((loop.onTalk event).conveyor started).accepted =
      (loop.conveyor started).accepted ++ Talk.botAudio event := by
  rw [← Talk.audio_grpcBridge]
  exact DownlinkStage.accepted_concat started loop.events event

theorem talk_onTalk (htalk : loop.talk = Talk.run started loop.events) (event : TalkEvent) :
    (loop.onTalk event).talk = Talk.run started (loop.onTalk event).events := by
  unfold onTalk
  dsimp only
  rw [Talk.run_concat, htalk]

theorem Consistent.written (h : Consistent callId payloadType started loop st) :
    loop.written = botEvents callId payloadType loop.talk.payloads := by
  obtain ⟨client, hclient, -, -, hwritten⟩ := h.call.heard.client
  unfold BotLoop.written
  rw [hclient]
  exact hwritten

theorem Consistent.length_actions (h : Consistent callId payloadType started loop st) :
    loop.actions.length = loop.served - 1 := by
  have hserved := h.served
  rw [h.actions, List.length_map, List.length_zipIdx, List.length_take]
  omega

/-- A packet or a turn of the recorder may only add frames. -/
theorem Consistent.onTalk (h : Consistent callId payloadType started loop st) {event : TalkEvent}
    (hends : event.endsReader = false) (hevent : Talk.botAudio event = []) :
    ∃ st', Consistent callId payloadType started (loop.onTalk event) st' := by
  obtain ⟨st', hcall, hprefix⟩ := h.call.step hends
  rw [← conveyor_onTalk h.talk] at hcall
  have hserved := h.served
  have hread := h.read
  rw [h.length_actions] at hread
  have htake : ∀ n ≤ loop.talk.payloads.length,
      (loop.talk.step event).payloads.take n = loop.talk.payloads.take n := by
    intro n hn
    obtain ⟨more, hmore⟩ := hprefix
    rw [← hmore, List.take_append_of_le_length hn]
  refine ⟨st', talk_onTalk h.talk event, hcall, h.utf8, h.streaming,
    hserved.trans (Nat.succ_le_succ hprefix.length_le), ?_, h.read, ?_⟩
  · show loop.actions = _
    rw [h.actions]
    exact congrArg (fun payloads => List.map _ (List.zipIdx payloads)) (htake _ (by omega)).symm
  · rw [accepted_onTalk, hevent, List.append_nil, h.accepted]
    exact congrArg List.flatten (htake _ (by omega)).symm

/-- The bot reads what was written, in order: the configuration, or the next frame. -/
theorem Consistent.serve (h : Consistent callId payloadType started loop st)
    (hstep : loop.step .serve = some loop') :
    Consistent callId payloadType started loop' st := by
  have hserved := h.served
  have hread := h.read
  unfold step at hstep
  rw [if_pos h.streaming, h.written] at hstep
  obtain ⟨event, hevent, rfl⟩ := Option.map_eq_some_iff.mp hstep
  cases hn : loop.served with
  | zero =>
    rw [hn] at hevent
    cases hevent
    dsimp only [VoiceBotServicer.next]
    rw [if_pos h.utf8]
    refine ⟨h.talk, h.call, h.utf8, rfl, by dsimp only; omega, ?_, ?_, h.accepted⟩
    · dsimp only [VoiceBotServicer.streamCall]
      rw [h.actions, hn, List.append_nil]
    · exact h.read.trans (by simp)
  | succ n =>
    rw [hn] at hevent
    unfold botEvents at hevent
    rw [List.getElem?_cons_succ, List.getElem?_map, List.getElem?_zipIdx] at hevent
    cases hpayload : loop.talk.payloads[n]? with
    | none =>
      rw [hpayload] at hevent
      cases hevent
    | some payload =>
      rw [hpayload] at hevent
      cases hevent
      have hlt : n < loop.talk.payloads.length := (List.getElem?_eq_some_iff.mp hpayload).1
      have htake : loop.talk.payloads.take (n + 1) = loop.talk.payloads.take n ++ [payload] := by
        rw [List.take_add_one, hpayload]
        rfl
      dsimp only [VoiceBotServicer.next]
      rw [if_pos h.utf8]
      refine ⟨h.talk, h.call, h.utf8, rfl, by dsimp only; omega, ?_, ?_, h.accepted⟩
      · dsimp only [VoiceBotServicer.streamCall]
        rw [h.actions, hn, Nat.add_sub_cancel, Nat.add_sub_cancel, htake, List.zipIdx_append,
          List.map_append, List.length_take_of_le hlt.le]
        simp
      · exact h.read.trans (by simp)

/-- The reader thread reads what the bot has yielded, in order, and hands it to the stage. -/
theorem Consistent.read_step (h : Consistent callId payloadType started loop st)
    (hstep : loop.step .read = some loop') :
    ∃ st', Consistent callId payloadType started loop' st' := by
  have hserved := h.served
  unfold step at hstep
  obtain ⟨action, haction, rfl⟩ := Option.map_eq_some_iff.mp hstep
  have hlt : loop.read < loop.actions.length := (List.getElem?_eq_some_iff.mp haction).1
  rw [h.actions, List.getElem?_map, List.getElem?_zipIdx] at haction
  cases hpayload : (loop.talk.payloads.take (loop.served - 1))[loop.read]? with
  | none =>
    rw [hpayload] at haction
    cases haction
  | some payload =>
    rw [hpayload] at haction
    cases haction
    have hpayload' : loop.talk.payloads[loop.read]? = some payload := by
      rw [List.getElem?_take] at hpayload
      split at hpayload
      · exact hpayload
      · cases hpayload
    have htake : loop.talk.payloads.take (loop.read + 1) =
        loop.talk.payloads.take loop.read ++ [payload] := by
      rw [List.take_add_one, hpayload']
      rfl
    have hends : (TalkEvent.media (.botAudio payload)).endsReader = false := rfl
    obtain ⟨st', hcall, -⟩ := h.call.step hends
    rw [← conveyor_onTalk h.talk] at hcall
    refine ⟨st', talk_onTalk h.talk _, hcall, h.utf8, h.streaming, h.served, h.actions, hlt, ?_⟩
    have haccepted : ((loop.onTalk (.media (.botAudio payload))).conveyor started).accepted =
        (loop.conveyor started).accepted ++ payload := accepted_onTalk _
    rw [h.accepted] at haccepted
    refine haccepted.trans ?_
    show _ = (loop.talk.payloads.take (loop.read + 1)).flatten
    rw [htake, List.flatten_append, List.flatten_singleton]

/-- What a run of the parties keeps. -/
theorem consistent_reachable (hstart : Talk.BotCall callId payloadType { session := started } {}
    Conveyor.empty) (hutf8 : validUtf8 callId = true) (h : (machine started).Reachable loop) :
    ∃ st, Consistent callId payloadType started loop st := by
  refine Machine.Reachable.invariant
    (P := fun loop => ∃ st, Consistent callId payloadType started loop st) ?_ ?_ h
  · rintro loop rfl
    exact ⟨{}, rfl, hstart, hutf8, rfl, Nat.zero_le _, rfl, Nat.zero_le _, rfl⟩
  · rintro loop event loop' - ⟨st, hc⟩ - hstep
    cases event with
    | rtp pkt sender =>
      cases hstep
      exact hc.onTalk rfl rfl
    | recorderTurn =>
      cases hstep
      exact hc.onTalk rfl rfl
    | serve => exact ⟨st, hc.serve hstep⟩
    | read => exact hc.read_step hstep

/--
**Through the echo bot the caller hears himself.** In every order of packets, turns of the bot
and of the reader thread, the audio handed back is that of the first frames the bot was sent, as
many as the reader thread has read. It is put on the conveyor of the stage, from which every frame
takes a packet of 160 bytes to the caller, without a gap as long as the buffer has not overflowed.
-/
theorem bot_loop_returns_audio {session : CallSession} {env : Env} {config : Config}
    {localRtpPort : Int} {remoteIp : Bytes} {remotePort : Int}
    (hmode : config.mode = .grpc) (hstream : env.botStream = true) (hport : 0 < localRtpPort)
    (hutf8 : validUtf8 session.callId = true)
    (hstart : session.startPipeline env config localRtpPort remoteIp remotePort payloadType
      = .ok started) (h : (machine started).Reachable loop) :
    loop.streaming = true ∧ loop.read ≤ loop.talk.payloads.length ∧
    loop.talk = Talk.run started loop.events ∧
    (∃ st : GrpcBridgeStage, loop.talk.session.Bridges (.grpcBridge st) ∧
      st.downlinkBuffer = (loop.conveyor started).queue) ∧
    loop.talk.sent.map RtpPacket.getPayload = (loop.conveyor started).emitted ∧
    (∀ pkt ∈ loop.talk.sent, pkt.getPayload.length = 160) ∧
    (loop.conveyor started).accepted = (loop.talk.payloads.take loop.read).flatten ∧
    ((∀ items, Departure.dropped items ∈ (loop.conveyor started).gone → items = []) →
      (loop.talk.payloads.take loop.read).flatten =
        (loop.conveyor started).emitted.flatten ++ (loop.conveyor started).queue) := by
  obtain ⟨st, hc⟩ :=
    consistent_reachable (Talk.botCall_started hmode hstream hport hstart) hutf8 h
  have hserved := hc.served
  have hread := hc.read
  rw [hc.length_actions] at hread
  have hcarries := hc.call.carries
  refine ⟨hc.streaming, by omega, hc.talk, ⟨st, hcarries.bridges, hcarries.queue⟩, hcarries.sent,
    hcarries.length_sent, hc.accepted, fun hdrop => ?_⟩
  rw [← hc.accepted]
  exact (loop.conveyor started).accepted_of_no_drop hdrop

instance (started : CallSession) (loop : BotLoop) (event : BotLoopEvent) :
    Decidable ((machine started).enabled loop event) :=
  inferInstanceAs (Decidable True)

/-- Five packets, a frame; the bot and the reader thread hand it back; the next frame. -/
def exampleRound : List BotLoopEvent :=
  let packet (seq : UInt16) : BotLoopEvent :=
    .rtp ((RtpPacket.empty.setHeader 0 seq 0 0).setPayload (List.replicate 160 7)) {}
  ([1, 2, 3, 4, 5].map packet) ++ [.serve, .serve, .read, packet 6]

theorem bot_loop_returns_audio_round :
    ∃ loop, (machine Talk.exampleWithBot).Reachable loop ∧
      loop.talk.sent.map RtpPacket.getPayload = [List.replicate 160 7] ∧
      (loop.conveyor Talk.exampleWithBot).emitted = [List.replicate 160 7] ∧
      (loop.conveyor Talk.exampleWithBot).accepted =
        (loop.talk.payloads.take loop.read).flatten := by
  have hrun : (((machine Talk.exampleWithBot).restrict fun _ _ => True).replay
      { talk := { session := Talk.exampleWithBot } } exampleRound).any (fun loop =>
        loop.talk.sent.map RtpPacket.getPayload == [List.replicate 160 7]) = true := by
    decide +kernel
  obtain ⟨loop, hreach, hsent⟩ := Machine.exists_reach (fun _ _ => True) rfl hrun
  have h := bot_loop_returns_audio rfl rfl (by decide) (by decide +kernel)
    Talk.exampleWithBot_eq hreach
  obtain ⟨-, -, -, -, hemitted, -, haccepted, -⟩ := h
  have hsent : loop.talk.sent.map RtpPacket.getPayload = [List.replicate 160 7] := by
    simpa using hsent
  exact ⟨loop, hreach, hsent, hemitted.symm.trans hsent, haccepted⟩

end BotLoop

end SipGateway
