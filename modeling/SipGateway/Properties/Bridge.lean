import SipGateway.Properties.Downlink
import SipGateway.Properties.Echo

/-!
# A call behind a bridge stage

`GrpcBridgeStage` and `AudioSocketStage` in the pipeline of a session, with at most recorders behind
them. `step_bridged` says what one event does to such a call: to the stage, to the clients and to
what is sent. The stage is a conveyor to the caller, the one that the events say (`conveyor`,
`Carries.run`): what arrives is put on it, and every frame that is played takes 160 bytes.
-/

namespace SipGateway

open Infra

/-! ## A frame -/

namespace AudioSocketStage

variable (st : AudioSocketStage)

theorem processDownlink_payloadType (audio : Bytes) :
    (st.processDownlink audio).1.payloadType = st.payloadType := by
  unfold processDownlink
  split <;> rfl

theorem onAudioSocketData_payloadType (data : Bytes) :
    (st.onAudioSocketData data).payloadType = st.payloadType := by
  unfold onAudioSocketData
  split <;> rfl

theorem appended_congr {st' : AudioSocketStage} (h : st'.payloadType = st.payloadType)
    (data : Bytes) : st'.appended data = st.appended data := by
  unfold appended encode
  rw [h]

end AudioSocketStage

namespace DownlinkStage

variable (ds : DownlinkStage) (payload current : Bytes)

def toStage : DownlinkStage → Stage
  | .grpcBridge st => .grpcBridge st
  | .audioSocket st => .audioSocket st

/-- `processUplink`, and the calls it makes. -/
def uplink (payload : Bytes) : DownlinkStage → DownlinkStage × List ClientCall
  | .grpcBridge st => (.grpcBridge (st.processUplink payload).1, (st.processUplink payload).2)
  | .audioSocket st => (.audioSocket st, st.processUplink payload)

/-- The stage after a frame. -/
def afterFrame (ds : DownlinkStage) (payload : Bytes) : DownlinkStage :=
  ((ds.uplink payload).1.processDownlink []).1

/-- The audio for the caller that a frame brings out. -/
def frameOut (ds : DownlinkStage) : Bytes :=
  if 160 ≤ ds.buffer.length then ds.buffer.take 160 else []

theorem toStage_uplink : ds.toStage.processUplink payload =
    ((ds.uplink payload).1.toStage, (ds.uplink payload).2) := by
  cases ds <;> rfl

@[simp] theorem uplink_buffer : (ds.uplink payload).1.buffer = ds.buffer := by
  cases ds with
  | grpcBridge st =>
    unfold uplink buffer GrpcBridgeStage.processUplink
    dsimp only
    split <;> rfl
  | audioSocket st => rfl

@[simp] theorem uplink_accepts (data : Bytes) :
    (ds.uplink payload).1.accepts data = ds.accepts data := by
  cases ds <;> rfl

@[simp] theorem processDownlink_accepts (data : Bytes) :
    (ds.processDownlink current).1.accepts data = ds.accepts data := by
  cases ds with
  | grpcBridge st => rfl
  | audioSocket st =>
    unfold processDownlink accepts
    dsimp only
    rw [st.appended_congr (st.processDownlink_payloadType current)]

@[simp] theorem afterFrame_accepts (data : Bytes) :
    (ds.afterFrame payload).accepts data = ds.accepts data := by
  unfold afterFrame
  rw [processDownlink_accepts, uplink_accepts]

@[simp] theorem arrive_accepts (data data' : Bytes) :
    (ds.arrive data).accepts data' = ds.accepts data' := by
  cases ds with
  | grpcBridge st => rfl
  | audioSocket st =>
    unfold arrive accepts
    dsimp only
    rw [st.appended_congr (st.onAudioSocketData_payloadType data)]

theorem processDownlink_nil :
    ((ds.uplink payload).1.processDownlink []).2 = ds.frameOut := by
  unfold frameOut
  split
  · next hfull =>
    rw [(processDownlink_full (by rwa [uplink_buffer]) []).2, uplink_buffer]
  · next hshort => rw [processDownlink_short (by rwa [uplink_buffer]) []]

theorem takeFrame_toStage : ds.toStage.takeFrame payload [] =
    ((ds.afterFrame payload).toStage, ds.frameOut) := by
  unfold Stage.takeFrame afterFrame
  rw [toStage_uplink, ← ds.processDownlink_nil payload]
  cases (ds.uplink payload).1 <;> rfl

end DownlinkStage

/-! ## A session with such a stage -/

namespace CallSession

variable {session : CallSession} {ds : DownlinkStage}

/-- The pipeline is the stage and recorders behind it. -/
def Bridges (session : CallSession) (ds : DownlinkStage) : Prop :=
  ∃ recorders, session.pipeline = some { stages := ds.toStage :: recorders } ∧
    ∀ stage ∈ recorders, stage.isRecorder

theorem recorders_calls {recorders : List Stage} (h : ∀ stage ∈ recorders, stage.isRecorder)
    (payload : Bytes) : recorders.flatMap (fun stage => (stage.processUplink payload).2) = [] := by
  rw [List.flatMap_eq_nil_iff]
  intro stage hstage
  have hrecorder := h stage hstage
  cases stage with
  | recorder st => rfl
  | echo st => cases hrecorder
  | grpcBridge st => cases hrecorder
  | audioSocket st => cases hrecorder

/-- The calls of the stages look at the clients only. -/
theorem callClients_congr {session' : CallSession} (calls : List ClientCall)
    (hbot : session'.botClient = session.botClient)
    (htcp : session'.tcpClient = session.tcpClient) :
    (session'.callClients calls).botClient = (session.callClients calls).botClient ∧
      (session'.callClients calls).tcpClient = (session.callClients calls).tcpClient := by
  unfold callClients
  induction calls generalizing session session' with
  | nil => exact ⟨hbot, htcp⟩
  | cons call calls ih =>
    rw [List.foldl_cons, List.foldl_cons]
    cases call with
    | botAudio data seq => exact ih (congrArg (Option.map (·.sendAudio data seq)) hbot) htcp
    | socketAudio data => exact ih hbot (congrArg (Option.map (·.sendAudio data)) htcp)

/-- What a frame does behind a bridge stage. -/
theorem Bridges.processFrame (h : session.Bridges ds) (frame : RtpPacket) :
    (session.processFrame frame).1.Bridges (ds.afterFrame frame.getPayload) ∧
    (session.processFrame frame).1.botClient =
      (session.callClients (ds.uplink frame.getPayload).2).botClient ∧
    (session.processFrame frame).1.tcpClient =
      (session.callClients (ds.uplink frame.getPayload).2).tcpClient ∧
    (session.processFrame frame).2 =
      if ds.frameOut ≠ [] ∧ 0 < session.localRtpPort then
        some { localPort := session.localRtpPort, packet := session.outgoingPacket ds.frameOut,
               dest := session.remoteRtpAddr }
      else none := by
  obtain ⟨recorders, hpl, hrecorders⟩ := h
  have hcalls : (MediaPipeline.processUplink { stages := ds.toStage :: recorders }
      frame.getPayload).2 = (ds.uplink frame.getPayload).2 := by
    unfold MediaPipeline.processUplink
    rw [List.flatMap_cons, recorders_calls hrecorders, List.append_nil, ds.toStage_uplink]
  have hdown : (MediaPipeline.processUplink { stages := ds.toStage :: recorders }
      frame.getPayload).1.processDownlink =
        ({ stages := (ds.afterFrame frame.getPayload).toStage ::
            (MediaPipeline.frameLoop frame.getPayload recorders ds.frameOut).1 }, ds.frameOut) := by
    show MediaPipeline.takeFrame _ _ = _
    rw [MediaPipeline.takeFrame_eq, MediaPipeline.frameLoop_cons, ds.takeFrame_toStage]
    dsimp only
    rw [MediaPipeline.frameLoop_of_recorders hrecorders]
  have hstill : ∀ stage ∈ (MediaPipeline.frameLoop frame.getPayload recorders ds.frameOut).1,
      stage.isRecorder :=
    MediaPipeline.frameLoop_forall
      (fun stage hstage _ => (Stage.takeFrame_isRecorder stage).trans hstage) hrecorders
  obtain ⟨bot, tcp, hclients⟩ := session.callClients_eq (ds.uplink frame.getPayload).2
  unfold CallSession.processFrame
  rw [hpl]
  dsimp only
  rw [hdown, hcalls, hclients]
  dsimp only
  split
  · exact ⟨⟨_, rfl, hstill⟩, rfl, rfl, rfl⟩
  · exact ⟨⟨_, rfl, hstill⟩, rfl, rfl, rfl⟩

end CallSession

/-! ## One event -/

/-- The audio an event hands to the stage. -/
def DownlinkStage.arrival? : DownlinkStage → TalkEvent → Option Bytes
  | .grpcBridge _, .media (.botAudio data) => some data
  | .audioSocket _, .media (.socketData data) => some data
  | _, _ => none

namespace DownlinkStage

variable (ds : DownlinkStage)

@[simp] theorem afterFrame_arrival? (payload : Bytes) (event : TalkEvent) :
    (ds.afterFrame payload).arrival? event = ds.arrival? event := by
  cases ds <;> rcases event with _ | ⟨_ | _ | _ | _⟩ <;> rfl

@[simp] theorem arrive_arrival? (data : Bytes) (event : TalkEvent) :
    (ds.arrive data).arrival? event = ds.arrival? event := by
  cases ds <;> rcases event with _ | ⟨_ | _ | _ | _⟩ <;> rfl

end DownlinkStage

/-- The client's reader loop ends with the event. -/
def TalkEvent.endsReader : TalkEvent → Bool
  | .media .readerEnds => true
  | _ => false

/-- The event brings a frame out of the jitter buffer, for which the stage is asked for audio. -/
def Talk.asks (t : Talk) : TalkEvent → Bool
  | .rtp pkt _ => (t.session.frameFor pkt).isSome
  | .media _ => false

namespace DownlinkStage

variable (ds : DownlinkStage)

/-- The audio for the caller that an event brings. -/
def audio (event : TalkEvent) : Bytes :=
  match ds.arrival? event with
  | some data => ds.accepts data
  | none => []

/-- What an event does to the buffer of the stage: data is put, and a frame takes. -/
def turns (t : Talk) (event : TalkEvent) : List (Conveyor.Turn UInt8) :=
  match ds.arrival? event with
  | some data => [.put (ds.accepts data)]
  | none => if t.asks event then [.take] else []

/-- The same for events one after the other. -/
def script : Talk → List TalkEvent → List (Conveyor.Turn UInt8)
  | _, [] => []
  | t, event :: events => ds.turns t event ++ script (t.step event) events

/-- The conveyor to the caller, from the start of a session on. -/
def conveyor (started : CallSession) (events : List TalkEvent) : Conveyor 16000 160 UInt8 :=
  Conveyor.run (ds.script { session := started } events)

/-- Stages that what happens is the same for. -/
structure Alike (ds ds' : DownlinkStage) : Prop where
  arrival : ∀ event, ds'.arrival? event = ds.arrival? event
  accepts : ∀ data, ds'.accepts data = ds.accepts data

variable {ds}

theorem Alike.turns {ds' : DownlinkStage} (h : Alike ds ds') (t : Talk) (event : TalkEvent) :
    ds'.turns t event = ds.turns t event := by
  unfold DownlinkStage.turns
  simp only [h.arrival, h.accepts]

theorem Alike.trans {ds' ds'' : DownlinkStage} (h : Alike ds ds') (h' : Alike ds' ds'') :
    Alike ds ds'' where
  arrival event := (h'.arrival event).trans (h.arrival event)
  accepts data := (h'.accepts data).trans (h.accepts data)

theorem alike_refl (ds : DownlinkStage) : Alike ds ds := ⟨fun _ => rfl, fun _ => rfl⟩

theorem script_concat (t : Talk) (events : List TalkEvent) (event : TalkEvent) :
    ds.script t (events ++ [event]) =
      ds.script t events ++ ds.turns (events.foldl Talk.step t) event := by
  induction events generalizing t with
  | nil => exact List.append_nil _
  | cons first events ih =>
    simp only [List.cons_append, script, List.foldl_cons, ih, List.append_assoc]

theorem conveyor_concat (started : CallSession) (events : List TalkEvent) (event : TalkEvent) :
    ds.conveyor started (events ++ [event]) =
      (ds.turns (Talk.run started events) event).foldl Conveyor.turn
        (ds.conveyor started events) := by
  unfold conveyor
  rw [script_concat, Conveyor.run_append]
  rfl

/-- What an event puts on the conveyor does not depend on the session. -/
theorem turns_items (t : Talk) (event : TalkEvent) :
    (ds.turns t event).flatMap Conveyor.Turn.items = ds.audio event := by
  unfold DownlinkStage.turns audio
  cases ds.arrival? event with
  | some data => simp [Conveyor.Turn.items]
  | none =>
    dsimp only
    split <;> simp [Conveyor.Turn.items]

theorem conveyor_accepted (started : CallSession) (events : List TalkEvent) :
    (ds.conveyor started events).accepted = events.flatMap ds.audio := by
  have hscript : ∀ t : Talk, (ds.script t events).flatMap Conveyor.Turn.items =
      events.flatMap ds.audio := by
    induction events with
    | nil => intro t; rfl
    | cons event events ih =>
      intro t
      rw [script, List.flatMap_append, turns_items, ih, List.flatMap_cons]
  unfold conveyor
  rw [Conveyor.accepted_run, hscript]

theorem accepted_concat (started : CallSession) (events : List TalkEvent) (event : TalkEvent) :
    (ds.conveyor started (events ++ [event])).accepted =
      (ds.conveyor started events).accepted ++ ds.audio event := by
  rw [conveyor_accepted, conveyor_accepted, List.flatMap_append, List.flatMap_singleton]

end DownlinkStage

namespace Talk

variable {t : Talk} {ds : DownlinkStage}

/-- The other session has the same clients, and the same port. -/
structure SameClients (session session' : CallSession) : Prop where
  botClient : session'.botClient = session.botClient
  tcpClient : session'.tcpClient = session.tcpClient
  localRtpPort : session'.localRtpPort = session.localRtpPort

/-- The four things an event can do to a call behind a bridge stage. -/
inductive Bridged (t : Talk) (ds : DownlinkStage) (event : TalkEvent) :
    Talk → DownlinkStage → Prop where
  | quiet (session : CallSession) (harrival : ds.arrival? event = none)
      (hasks : t.asks event = false) (hends : event.endsReader = false)
      (hbridges : session.Bridges ds) (hsame : SameClients t.session session) :
      Bridged t ds event { t with session := session } ds
  | ended (session : CallSession) (hevent : event = .media .readerEnds)
      (hbridges : session.Bridges ds)
      (hbot : session.botClient = t.session.botClient.map (·.readerEnds))
      (htcp : session.tcpClient = t.session.tcpClient.map (·.readerEnds))
      (hport : session.localRtpPort = t.session.localRtpPort) :
      Bridged t ds event { t with session := session } ds
  | arrived (session : CallSession) (data : Bytes) (harrival : ds.arrival? event = some data)
      (hbridges : session.Bridges (ds.arrive data)) (hsame : SameClients t.session session) :
      Bridged t ds event { t with session := session } (ds.arrive data)
  | played (session : CallSession) (frame : RtpPacket) (packets : List RtpPacket)
      (harrival : ds.arrival? event = none) (hasks : t.asks event = true)
      (hbridges : session.Bridges (ds.afterFrame frame.getPayload))
      (hbot : session.botClient =
        (t.session.callClients (ds.uplink frame.getPayload).2).botClient)
      (htcp : session.tcpClient =
        (t.session.callClients (ds.uplink frame.getPayload).2).tcpClient)
      (hport : session.localRtpPort = t.session.localRtpPort)
      (hpackets : packets.map RtpPacket.getPayload =
        if 160 ≤ ds.buffer.length then [ds.buffer.take 160] else []) :
      Bridged t ds event
        { session := session
          sent := t.sent ++ packets
          frames := t.frames ++ [frame].filter (·.getPayload ≠ []) }
        (ds.afterFrame frame.getPayload)

theorem lockRemote_sameClients (session : CallSession) (sender : SockAddr) :
    SameClients session (session.lockRemote sender) := by
  unfold CallSession.lockRemote
  split <;> exact ⟨rfl, rfl, rfl⟩

theorem bridges_of_pipeline {session session' : CallSession}
    (h : session'.pipeline = session.pipeline) (hb : session.Bridges ds) : session'.Bridges ds := by
  unfold CallSession.Bridges at hb ⊢
  rwa [h]

/-- Only the end of the reader loop concerns the clients. -/
theorem onMedia_sameClients {ev : CallSession.MediaEvent} (h : ev ≠ .readerEnds)
    (session : CallSession) : SameClients session (session.onMedia ev) := by
  cases ev with
  | readerEnds => exact absurd rfl h
  | botAudio data | socketData data | recorderTurn =>
    exact ⟨Option.map_id', Option.map_id', rfl⟩

/-- Media events reach the stage, a recorder behind it, or the client. -/
theorem onMedia_bridged (h : t.session.Bridges ds) (ev : CallSession.MediaEvent) :
    ∃ ds', Bridged t ds (.media ev) (t.step (.media ev)) ds' := by
  obtain ⟨recorders, hpl, hrecorders⟩ := h
  have hstill : ∀ stage ∈ recorders.map ev.apply, stage.isRecorder := by
    intro stage hstage
    obtain ⟨recorder, hrecorder, rfl⟩ := List.mem_map.mp hstage
    exact (ev.apply_kind recorder).2.trans (hrecorders recorder hrecorder)
  have hpl' : (t.session.onMedia ev).pipeline =
      some { stages := ev.apply ds.toStage :: recorders.map ev.apply } := by
    unfold CallSession.onMedia
    dsimp only
    rw [hpl]
    rfl
  by_cases hend : ev = .readerEnds
  · subst hend
    have hstage : CallSession.MediaEvent.readerEnds.apply ds.toStage = ds.toStage := by
      cases ds <;> rfl
    rw [hstage] at hpl'
    exact ⟨ds, Bridged.ended _ rfl ⟨_, hpl', hstill⟩ rfl rfl rfl⟩
  have hsame := onMedia_sameClients hend t.session
  cases harrival : ds.arrival? (.media ev) with
  | none =>
    have hstage : ev.apply ds.toStage = ds.toStage := by
      cases ds <;> cases ev <;> first | rfl | cases harrival
    have hends : (TalkEvent.media ev).endsReader = false := by
      cases ev <;> first | rfl | exact absurd rfl hend
    rw [hstage] at hpl'
    exact ⟨ds, Bridged.quiet _ harrival rfl hends ⟨_, hpl', hstill⟩ hsame⟩
  | some data =>
    have hstage : ev.apply ds.toStage = (ds.arrive data).toStage := by
      cases ds <;> cases ev <;> first | cases harrival; rfl | cases harrival
    rw [hstage] at hpl'
    exact ⟨_, Bridged.arrived _ data harrival ⟨_, hpl', hstill⟩ hsame⟩

/-- **What one event does to a call behind a bridge stage.** -/
theorem step_bridged (h : t.session.Bridges ds) (hport : 0 < t.session.localRtpPort)
    (event : TalkEvent) : ∃ ds', Bridged t ds event (t.step event) ds' := by
  cases event with
  | media ev => exact onMedia_bridged h ev
  | rtp pkt sender =>
    have harrival : ds.arrival? (.rtp pkt sender) = none := by cases ds <;> rfl
    have hlock := lockRemote_sameClients t.session sender
    have hbuffering : SameClients t.session (t.session.buffering pkt sender) :=
      ⟨hlock.botClient, hlock.tcpClient, hlock.localRtpPort⟩
    cases hframe : t.session.frameFor pkt with
    | none =>
      have hasks : t.asks (.rtp pkt sender) = false := by simp [asks, hframe]
      refine ⟨ds, ?_⟩
      rcases CallSession.onRtpPacket_of_no_frame hframe with hrtp | hrtp
      · have hstep : t.step (.rtp pkt sender) =
            { t with session := t.session.lockRemote sender } := by
          unfold step
          dsimp only
          rw [hframe, hrtp]
          simp
        rw [hstep]
        exact Bridged.quiet _ harrival hasks rfl
          (bridges_of_pipeline (lockRemote_sameStream t.session sender).pipeline h) hlock
      · have hstep : t.step (.rtp pkt sender) =
            { t with session := t.session.buffering pkt sender } := by
          unfold step
          dsimp only
          rw [hframe, hrtp]
          simp
        rw [hstep]
        exact Bridged.quiet _ harrival hasks rfl
          (bridges_of_pipeline (buffering_sameStream t.session pkt sender).pipeline h) hbuffering
    | some frame =>
      have hbefore : (t.session.buffering pkt sender).Bridges ds :=
        bridges_of_pipeline (buffering_sameStream t.session pkt sender).pipeline h
      obtain ⟨hbridges, hbot, htcp, hout⟩ := hbefore.processFrame frame
      obtain ⟨hbot', htcp'⟩ := CallSession.callClients_congr
        (ds.uplink frame.getPayload).2 hbuffering.botClient hbuffering.tcpClient
      have hasks : t.asks (.rtp pkt sender) = true := by simp [asks, hframe]
      have hfilter : [frame].filter (t.session.Answerable ·) =
          [frame].filter (·.getPayload ≠ []) := by
        simp [CallSession.Answerable, hport]
      refine ⟨ds.afterFrame frame.getPayload, ?_⟩
      rw [step_of_frame hframe, hfilter, hout]
      refine Bridged.played _ frame _ harrival hasks hbridges (hbot.trans hbot')
        (htcp.trans htcp') ?_ ?_
      · exact (CallSession.processFrame_localRtpPort _ frame).trans hbuffering.localRtpPort
      · rw [hbuffering.localRtpPort]
        by_cases hfull : 160 ≤ ds.buffer.length
        · have hframeOut : ds.frameOut = ds.buffer.take 160 := if_pos hfull
          have hne : ds.buffer.take 160 ≠ [] := by
            intro hnil
            have hlen := List.length_take_of_le hfull
            rw [hnil] at hlen
            cases hlen
          rw [if_pos hfull, hframeOut, if_pos ⟨hne, hport⟩]
          show [RtpPacket.getPayload (RtpPacket.setPayload _ _)] = _
          rw [RtpPacket.getPayload_setPayload, List.take_of_length_le
            ((List.length_take_le 160 ds.buffer).trans (by omega))]
        · rw [if_neg hfull, DownlinkStage.frameOut, if_neg hfull, if_neg (by simp)]
          rfl

/-! ## The conveyor to the caller -/

/-- The stage as a conveyor, whose frames are what was sent. -/
structure Carries (t : Talk) (ds : DownlinkStage) (c : Conveyor 16000 160 UInt8) : Prop where
  bridges : t.session.Bridges ds
  port : 0 < t.session.localRtpPort
  queue : ds.buffer = c.queue
  sent : t.sent.map RtpPacket.getPayload = c.emitted

variable {c : Conveyor 16000 160 UInt8}

theorem Carries.arrived (h : Carries t ds c) {session : CallSession} {data : Bytes}
    (hbridges : session.Bridges (ds.arrive data)) (hsame : SameClients t.session session) :
    Carries { t with session := session } (ds.arrive data) (c.put (ds.accepts data)) where
  bridges := hbridges
  port := hsame.localRtpPort ▸ h.port
  queue := by
    rw [Conveyor.put_queue, ← h.queue]
    exact DownlinkStage.arrive_buffer (h.queue ▸ c.bounded) data
  sent := by rw [Conveyor.put_emitted]; exact h.sent

theorem Carries.played (h : Carries t ds c) {session : CallSession} {payload : Bytes}
    {packets frames : List RtpPacket} (hbridges : session.Bridges (ds.afterFrame payload))
    (hport : session.localRtpPort = t.session.localRtpPort)
    (hpackets : packets.map RtpPacket.getPayload =
      if 160 ≤ ds.buffer.length then [ds.buffer.take 160] else []) :
    Carries { session := session, sent := t.sent ++ packets, frames := frames }
      (ds.afterFrame payload) (c.turn .take) := by
  have hsent : (t.sent ++ packets).map RtpPacket.getPayload =
      c.emitted ++ packets.map RtpPacket.getPayload := by rw [List.map_append, h.sent]
  by_cases hfull : 160 ≤ c.queue.length
  · have hfull' : 160 ≤ ds.buffer.length := h.queue ▸ hfull
    rw [c.turn_take_of_le hfull]
    refine ⟨hbridges, hport ▸ h.port, ?_, ?_⟩
    · unfold DownlinkStage.afterFrame
      rw [(DownlinkStage.processDownlink_full (by rwa [DownlinkStage.uplink_buffer]) []).1,
        DownlinkStage.uplink_buffer, h.queue]
      rfl
    · rw [Conveyor.emit_emitted, hsent, hpackets, if_pos hfull', h.queue]
  · have hshort : ¬ 160 ≤ ds.buffer.length := h.queue ▸ hfull
    rw [c.turn_take_of_lt hfull]
    refine ⟨hbridges, hport ▸ h.port, ?_, ?_⟩
    · unfold DownlinkStage.afterFrame
      rw [DownlinkStage.processDownlink_short (by rwa [DownlinkStage.uplink_buffer]) [],
        DownlinkStage.uplink_buffer, h.queue]
    · rw [hsent, hpackets, if_neg hshort, List.append_nil]

/-- Nothing but whole frames is sent. -/
theorem Carries.length_sent (h : Carries t ds c) :
    ∀ pkt ∈ t.sent, pkt.getPayload.length = 160 := by
  intro pkt hpkt
  refine c.length_of_mem_emitted (h.sent ▸ ?_)
  exact List.mem_map_of_mem hpkt

/-- **An event does to the conveyor what it does to the buffer of the stage.** -/
theorem Carries.bridged (h : Carries t ds c) {event : TalkEvent} {t' : Talk} {ds' : DownlinkStage}
    (hbridged : Bridged t ds event t' ds') :
    Carries t' ds' ((ds.turns t event).foldl Conveyor.turn c) ∧ DownlinkStage.Alike ds ds' := by
  unfold DownlinkStage.turns
  cases hbridged with
  | quiet session harrival hasks hends hbridges hsame =>
    simp only [harrival, hasks, Bool.false_eq_true, if_false]
    exact ⟨⟨hbridges, hsame.localRtpPort ▸ h.port, h.queue, h.sent⟩, ds.alike_refl⟩
  | ended session hevent hbridges hbot htcp hport =>
    subst hevent
    have hnone : ds.arrival? (.media .readerEnds) = none := by cases ds <;> rfl
    simp only [hnone, asks, Bool.false_eq_true, if_false]
    exact ⟨⟨hbridges, hport ▸ h.port, h.queue, h.sent⟩, ds.alike_refl⟩
  | arrived session data harrival hbridges hsame =>
    rw [harrival]
    exact ⟨h.arrived hbridges hsame, ⟨ds.arrive_arrival? data, ds.arrive_accepts data⟩⟩
  | played session frame packets harrival hasks hbridges hbot htcp hport hpackets =>
    simp only [harrival, hasks, if_true]
    exact ⟨h.played hbridges hport hpackets,
      ⟨ds.afterFrame_arrival? _, ds.afterFrame_accepts _⟩⟩

/-- **A whole run of the call is the run of its conveyor.** -/
theorem Carries.run {started : CallSession} (h : Carries { session := started } ds Conveyor.empty)
    (events : List TalkEvent) :
    ∃ ds', Carries (Talk.run started events) ds' (ds.conveyor started events) ∧
      DownlinkStage.Alike ds ds' := by
  induction events using List.reverseRecOn with
  | nil => exact ⟨ds, h, ds.alike_refl⟩
  | append_singleton events event ih =>
    obtain ⟨ds₁, hcarries, halike⟩ := ih
    obtain ⟨ds₂, hbridged⟩ := step_bridged hcarries.bridges hcarries.port event
    obtain ⟨hcarries', halike'⟩ := hcarries.bridged hbridged
    rw [halike.turns, ← DownlinkStage.conveyor_concat] at hcarries'
    rw [run_concat]
    exact ⟨ds₂, hcarries', halike.trans halike'⟩

end Talk

end SipGateway
