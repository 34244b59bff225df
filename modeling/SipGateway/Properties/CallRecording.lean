import SipGateway.Call.Starting
import SipGateway.Properties.Mixer
import SipGateway.Properties.Stream

/-!
# A call that is recorded

`recording_transparent`: a call is the same with and without a recorder, the recorder aside.

`call_is_recorded`: the recorder of a call is given what the caller said and what he was sent, all
of it and in order, so the mixed file has it but for what still waits in the buffers.
-/

namespace SipGateway

open Infra

/-! ## Leaving the recorders out -/

namespace MediaPipeline

variable {payload current : Bytes} {stages : List Stage}

def withoutRecorders (pl : MediaPipeline) : MediaPipeline :=
  { stages := pl.stages.filter (!·.isRecorder) }

theorem frameLoop_filter (stages : List Stage) :
    (frameLoop payload (stages.filter (!·.isRecorder)) current).1 =
        (frameLoop payload stages current).1.filter (!·.isRecorder) ∧
      (frameLoop payload (stages.filter (!·.isRecorder)) current).2 =
        (frameLoop payload stages current).2 := by
  induction stages generalizing current with
  | nil => exact ⟨rfl, rfl⟩
  | cons stage stages ih =>
    rw [frameLoop_cons]
    cases hstage : stage.isRecorder with
    | true =>
      rw [List.filter_cons_of_neg (by simp [hstage]), List.filter_cons_of_neg (by simp [hstage]),
        Stage.takeFrame_of_recorder hstage]
      exact ih
    | false =>
      obtain ⟨hstages, hout⟩ := @ih (stage.takeFrame payload current).2
      rw [List.filter_cons_of_pos (by simp [hstage]), List.filter_cons_of_pos (by simp [hstage]),
        frameLoop_cons, hstages, hout]
      exact ⟨rfl, rfl⟩

theorem takeFrame_withoutRecorders (pl : MediaPipeline) (payload : Bytes) :
    pl.withoutRecorders.takeFrame payload =
      ((pl.takeFrame payload).1.withoutRecorders, (pl.takeFrame payload).2) := by
  obtain ⟨hstages, hout⟩ := @frameLoop_filter payload [] pl.stages
  rw [takeFrame_eq, takeFrame_eq]
  exact Prod.ext (congrArg MediaPipeline.mk hstages) hout

/-- A recorder calls no client. -/
theorem processUplink_calls_withoutRecorders (pl : MediaPipeline) (payload : Bytes) :
    (pl.withoutRecorders.processUplink payload).2 = (pl.processUplink payload).2 := by
  obtain ⟨stages⟩ := pl
  show (stages.filter _).flatMap _ = stages.flatMap _
  induction stages with
  | nil => rfl
  | cons stage stages ih =>
    cases hstage : stage.isRecorder with
    | true =>
      have hcalls : (stage.processUplink payload).2 = [] := by
        cases stage with
        | recorder st => rfl
        | echo st => cases hstage
        | grpcBridge st => cases hstage
        | audioSocket st => cases hstage
      rw [List.filter_cons_of_neg (by simp [hstage]), List.flatMap_cons, hcalls, ih,
        List.nil_append]
    | false =>
      rw [List.filter_cons_of_pos (by simp [hstage]), List.flatMap_cons, List.flatMap_cons, ih]

end MediaPipeline

namespace CallSession

variable {session : CallSession} {pkt frame : RtpPacket} {sender : SockAddr}

def withoutRecorders (session : CallSession) : CallSession :=
  { session with pipeline := session.pipeline.map MediaPipeline.withoutRecorders }

theorem callClients_withoutRecorders (session : CallSession) (calls : List ClientCall) :
    session.withoutRecorders.callClients calls = (session.callClients calls).withoutRecorders := by
  unfold callClients
  induction calls generalizing session with
  | nil => rfl
  | cons call calls ih =>
    rw [List.foldl_cons, List.foldl_cons, ← ih]
    cases call <;> rfl

theorem processFrame_withoutRecorders (session : CallSession) (frame : RtpPacket) :
    session.withoutRecorders.processFrame frame =
      ((session.processFrame frame).1.withoutRecorders, (session.processFrame frame).2) := by
  unfold processFrame
  cases hpl : session.pipeline with
  | none =>
    have hnone : session.withoutRecorders.pipeline = none := by
      unfold withoutRecorders
      rw [hpl]
      rfl
    rw [hnone]
  | some pl =>
    have hsome : session.withoutRecorders.pipeline = some pl.withoutRecorders := by
      unfold withoutRecorders
      rw [hpl]
      rfl
    have htake : (pl.withoutRecorders.processUplink frame.getPayload).1.processDownlink = _ :=
      pl.takeFrame_withoutRecorders frame.getPayload
    rw [hsome]
    dsimp only
    rw [pl.processUplink_calls_withoutRecorders, htake, callClients_withoutRecorders]
    generalize session.callClients (pl.processUplink frame.getPayload).2 = called
    dsimp only [withoutRecorders, MediaPipeline.takeFrame]
    by_cases hsend : (pl.processUplink frame.getPayload).1.processDownlink.2 ≠ [] ∧
        called.localRtpPort > 0
    · refine (if_pos hsend).trans ?_
      rw [if_pos hsend]
      rfl
    · refine (if_neg hsend).trans ?_
      rw [if_neg hsend]
      rfl

theorem lockRemote_withoutRecorders :
    session.withoutRecorders.lockRemote sender = (session.lockRemote sender).withoutRecorders := by
  unfold lockRemote
  split <;> (split <;> first | rfl | contradiction)

theorem onRtpPacket_withoutRecorders (session : CallSession) (pkt : RtpPacket)
    (sender : SockAddr) : session.withoutRecorders.onRtpPacket pkt sender =
      ((session.onRtpPacket pkt sender).1.withoutRecorders,
        (session.onRtpPacket pkt sender).2) := by
  have hbuffering : session.withoutRecorders.buffering pkt sender =
      (session.buffering pkt sender).withoutRecorders := by
    unfold buffering
    rw [lockRemote_withoutRecorders]
    rfl
  cases haccepts : session.accepts pkt with
  | false =>
    have hplain : session.withoutRecorders.accepts pkt = false := haccepts
    rw [onRtpPacket_of_not_accepts haccepts, onRtpPacket_of_not_accepts hplain,
      lockRemote_withoutRecorders]
  | true =>
    have hplain : session.withoutRecorders.accepts pkt = true := haccepts
    rw [onRtpPacket_of_accepts haccepts, onRtpPacket_of_accepts hplain, hbuffering]
    cases hpop : (session.jitterBuffer.push pkt).pop.1 with
    | none =>
      have hsame : (session.withoutRecorders.jitterBuffer.push pkt).pop.1 = none := hpop
      rw [hsame]
    | some frame =>
      have hsame : (session.withoutRecorders.jitterBuffer.push pkt).pop.1 = some frame := hpop
      rw [hsame]
      exact processFrame_withoutRecorders _ _

theorem onMedia_withoutRecorders (session : CallSession) (ev : MediaEvent) :
    session.withoutRecorders.onMedia ev = (session.onMedia ev).withoutRecorders := by
  have hfilter : ∀ stages : List Stage, (stages.filter (!·.isRecorder)).map ev.apply =
      (stages.map ev.apply).filter (!·.isRecorder) := by
    intro stages
    rw [List.filter_map]
    refine congrArg (List.map ev.apply) (List.filter_congr fun stage _ => ?_)
    exact congrArg (!·) (ev.apply_kind stage).2.symm
  unfold onMedia withoutRecorders MediaPipeline.withoutRecorders
  cases hpl : session.pipeline with
  | none => rfl
  | some pl => simp [hfilter]

/-- Starting without recording is starting with it and leaving the recorder out. -/
theorem startPipeline_withoutRecorders (session : CallSession) (env : Env) (config : Config)
    (localRtpPort : Int) (remoteIp : Bytes) (remotePort payloadType : Int) :
    session.startPipeline env { config with recordingMode := false } localRtpPort remoteIp
        remotePort payloadType =
      (session.startPipeline env config localRtpPort remoteIp remotePort payloadType).map
        withoutRecorders := by
  set opened : CallSession := { session with
    localRtpPort := localRtpPort
    payloadType := payloadType
    remoteRtpAddr := remoteAddr session.remoteRtpAddr remoteIp remotePort }
  have hcore : opened.startCore env { config with recordingMode := false } payloadType =
      opened.startCore env config payloadType := rfl
  unfold startPipeline
  show (opened.startCore env { config with recordingMode := false } payloadType >>= _) =
    Except.map _ (opened.startCore env config payloadType >>= _)
  rw [hcore]
  cases hr : opened.startCore env config payloadType with
  | error ex => rfl
  | ok r =>
    obtain ⟨bot, tcp, -, hstages⟩ := startCore_core hr
    have hkeeps : r.2.filter (!·.isRecorder) = r.2 := by
      generalize r.2 = core at hstages
      cases hstages <;> rfl
    have hdrops : (recorderStages r.1.callId env config payloadType).filter (!·.isRecorder) =
        [] := by
      rw [List.filter_eq_nil_iff]
      intro stage hstage
      simp [recorderStages_isRecorder _ _ _ _ stage hstage]
    refine congrArg Except.ok ?_
    unfold withoutRecorders MediaPipeline.withoutRecorders
    simp only [Option.map_some, foldl_addStage, List.nil_append, List.filter_append, hkeeps,
      hdrops, List.append_nil]
    congr 3
    exact congrArg MediaPipeline.mk ((foldl_addStage _ _).trans (List.append_nil r.2))

end CallSession

namespace Talk

def withoutRecorders (t : Talk) : Talk := { t with session := t.session.withoutRecorders }

theorem step_withoutRecorders (t : Talk) (event : TalkEvent) :
    t.withoutRecorders.step event = (t.step event).withoutRecorders := by
  cases event with
  | rtp pkt sender =>
    unfold step
    dsimp only [withoutRecorders]
    rw [CallSession.onRtpPacket_withoutRecorders]
    rfl
  | media ev =>
    exact congrArg (fun session => { t with session := session })
      (t.session.onMedia_withoutRecorders ev)

theorem run_withoutRecorders (session : CallSession) (events : List TalkEvent) :
    run session.withoutRecorders events = (run session events).withoutRecorders := by
  unfold run
  have hfold : ∀ t : Talk, events.foldl step t.withoutRecorders =
      (events.foldl step t).withoutRecorders := by
    induction events with
    | nil => exact fun _ => rfl
    | cons event events ih =>
      intro t
      rw [List.foldl_cons, List.foldl_cons, step_withoutRecorders, ih]
  exact hfold { session := session }

/--
**Recording changes nothing else.** A call that is started without recording starts, or fails, as
the same call with it; and whatever happens, it sends the same packets and has the same state, but
for the recorder.
-/
theorem recording_transparent (session : CallSession) (env : Env) (config : Config)
    (localRtpPort : Int) (remoteIp : Bytes) (remotePort payloadType : Int)
    (events : List TalkEvent) :
    (session.startPipeline env { config with recordingMode := false } localRtpPort remoteIp
        remotePort payloadType).map (run · events) =
      (session.startPipeline env config localRtpPort remoteIp remotePort payloadType).map
        fun started => (run started events).withoutRecorders := by
  rw [CallSession.startPipeline_withoutRecorders]
  cases session.startPipeline env config localRtpPort remoteIp remotePort payloadType with
  | error ex => rfl
  | ok started => exact congrArg Except.ok (run_withoutRecorders started events)

end Talk

/-! ## What the recorder is given -/

namespace RecorderStage

theorem audioOf_append (isUplink : Bool) (a b : List Chunk) :
    audioOf isUplink (a ++ b) = audioOf isUplink a ++ audioOf isUplink b := by
  unfold audioOf
  rw [List.filter_append, List.flatMap_append]

/-- The audio of a frame and its answer is put into the queue. -/
theorem takeFrame_queue (st : RecorderStage) (payload current : Bytes) :
    ∃ chunks, (st.processUplink payload).processDownlink current =
        { st with queue := st.queue ++ chunks } ∧
      audioOf true chunks = payload ∧ audioOf false chunks = current := by
  unfold processUplink processDownlink enqueue
  cases payload with
  | nil =>
    cases current with
    | nil => exact ⟨[], by simp, rfl, rfl⟩
    | cons c cs => exact ⟨[⟨false, c :: cs⟩], rfl, rfl, by simp [audioOf]⟩
  | cons b bs =>
    cases current with
    | nil => exact ⟨[⟨true, b :: bs⟩], rfl, by simp [audioOf], rfl⟩
    | cons c cs =>
      exact ⟨[⟨true, b :: bs⟩, ⟨false, c :: cs⟩], by simp, by simp [audioOf], by simp [audioOf]⟩

theorem foldl_withoutQueue (st : RecorderStage) (chunks : List Chunk) :
    (chunks.foldl processChunk st).withoutQueue = chunks.foldl processChunk st.withoutQueue := by
  induction chunks generalizing st with
  | nil => rfl
  | cons chunk chunks ih => rw [List.foldl_cons, List.foldl_cons, ih, processChunk_withoutQueue]

theorem foldl_queue (st : RecorderStage) (chunks : List Chunk) :
    (chunks.foldl processChunk st).queue = st.queue := by
  induction chunks generalizing st with
  | nil => rfl
  | cons chunk chunks ih => exact (ih _).trans (processChunk_frame st chunk).1

/-- The worker takes out the whole queue. -/
theorem drain_withoutQueue (st : RecorderStage) :
    st.drain.withoutQueue = st.queue.foldl processChunk st.withoutQueue :=
  foldl_withoutQueue st.withoutQueue st.queue

theorem drain_queue (st : RecorderStage) : st.drain.queue = [] :=
  foldl_queue st.withoutQueue st.queue

end RecorderStage

theorem MediaPipeline.frameLoop_append (a b : List Stage) (payload current : Bytes) :
    frameLoop payload (a ++ b) current =
      ((frameLoop payload a current).1 ++ (frameLoop payload b (frameLoop payload a current).2).1,
        (frameLoop payload b (frameLoop payload a current).2).2) := by
  induction a generalizing current with
  | nil => rfl
  | cons stage a ih => rw [List.cons_append, frameLoop_cons, frameLoop_cons, ih]; rfl

/-- What goes out fits into a packet. -/
theorem MediaPipeline.Fits.frame_length {mode : GatewayMode} {pl : MediaPipeline}
    (h : pl.Fits mode) (frame : RtpPacket) : (pl.takeFrame frame.getPayload).2.length ≤ 1488 := by
  have hout := (h.takeFrame frame.getPayload).2
  split at hout
  · rw [hout]
    exact frame.length_getPayload_le
  · rcases hout with hout | hout
    · simp [hout]
    · omega

namespace Talk

open RecorderStage

variable {created st : RecorderStage} {mode : GatewayMode} {t : Talk} {handled : List Chunk}

/-- The recorder behind a call: what it has handled and what is in its queue is what was heard and
what was sent. -/
structure Taped (created : RecorderStage) (t : Talk) (handled : List Chunk)
    (st : RecorderStage) : Prop where
  pipeline : ∃ core, t.session.pipeline = some { stages := core ++ [.recorder st] }
  port : 0 < t.session.localRtpPort
  files : st.withoutQueue = handled.foldl processChunk created
  uplink : audioOf true (handled ++ st.queue) = t.frames.flatMap RtpPacket.getPayload
  downlink : audioOf false (handled ++ st.queue) = t.sent.flatMap RtpPacket.getPayload

theorem Taped.congr (h : Taped created t handled st) {session : CallSession}
    (hsame : SameStream t.session session) :
    Taped created { t with session := session } handled st where
  pipeline := by
    obtain ⟨core, hpl⟩ := h.pipeline
    exact ⟨core, hsame.pipeline.trans hpl⟩
  port := hsame.localRtpPort ▸ h.port
  files := h.files
  uplink := h.uplink
  downlink := h.downlink

theorem Taped.media (h : Taped created t handled st) (ev : CallSession.MediaEvent) :
    ∃ handled' st', Taped created (t.step (.media ev)) handled' st' := by
  obtain ⟨⟨core, hpl⟩, hport, hfiles, huplink, hdownlink⟩ := h
  have hpl' : (t.session.onMedia ev).pipeline =
      some { stages := core.map ev.apply ++ [ev.apply (.recorder st)] } := by
    unfold CallSession.onMedia
    dsimp only
    rw [hpl]
    simp
  cases ev with
  | botAudio data => exact ⟨handled, st, ⟨_, hpl'⟩, hport, hfiles, huplink, hdownlink⟩
  | socketData data => exact ⟨handled, st, ⟨_, hpl'⟩, hport, hfiles, huplink, hdownlink⟩
  | readerEnds => exact ⟨handled, st, ⟨_, hpl'⟩, hport, hfiles, huplink, hdownlink⟩
  | recorderTurn =>
    refine ⟨handled ++ st.queue, st.drain, ⟨_, hpl'⟩, hport, ?_, ?_, ?_⟩
    · rw [drain_withoutQueue, hfiles, List.foldl_append]
    · rw [drain_queue, List.append_nil]
      exact huplink
    · rw [drain_queue, List.append_nil]
      exact hdownlink

/-- However `processFrame` ends, the frame and what is sent for it go to the recorder. -/
theorem Taped.processed (h : Taped created t handled st)
    (hfits : ∀ pl, t.session.pipeline = some pl → pl.Fits mode) {session : CallSession}
    {frame : RtpPacket} {r : CallSession × Option CallSession.Outgoing}
    (hsame : SameStream t.session session) (hprocessed : CallSession.Processed session frame r) :
    ∃ st', Taped created
      { session := r.1
        sent := t.sent ++ (r.2.map CallSession.Outgoing.packet).toList
        frames := t.frames ++ [frame].filter (t.session.Answerable ·) } handled st' := by
  obtain ⟨⟨core, hpl⟩, hport, hfiles, huplink, hdownlink⟩ := h
  have hpl' := hsame.pipeline.trans hpl
  have hopen : 0 < session.localRtpPort := hsame.localRtpPort ▸ hport
  obtain ⟨chunks, hqueue, hup, hdown⟩ := st.takeFrame_queue frame.getPayload
    (MediaPipeline.frameLoop frame.getPayload core []).2
  -- the recorder comes behind the other stages and leaves the audio as it is
  have htake : ({ stages := core ++ [.recorder st] } : MediaPipeline).takeFrame frame.getPayload =
      ({ stages := (MediaPipeline.frameLoop frame.getPayload core []).1 ++
          [.recorder { st with queue := st.queue ++ chunks }] },
        (MediaPipeline.frameLoop frame.getPayload core []).2) := by
    rw [MediaPipeline.takeFrame_eq, MediaPipeline.frameLoop_append, ← hqueue]
    rfl
  have hlength := (hfits _ hpl).frame_length frame
  rw [htake] at hlength
  have hframes : ([frame].filter (t.session.Answerable ·)).flatMap RtpPacket.getPayload =
      frame.getPayload := by
    by_cases hempty : frame.getPayload = []
    · simp [CallSession.Answerable, hempty]
    · simp [CallSession.Answerable, hempty, hport]
  have htaped : ∀ {session' : CallSession} {packets : List RtpPacket},
      session'.pipeline = some { stages := (MediaPipeline.frameLoop frame.getPayload core []).1 ++
        [.recorder { st with queue := st.queue ++ chunks }] } →
      session'.localRtpPort = session.localRtpPort →
      packets.flatMap RtpPacket.getPayload =
        (MediaPipeline.frameLoop frame.getPayload core []).2 →
      Taped created
        { session := session', sent := t.sent ++ packets
          frames := t.frames ++ [frame].filter (t.session.Answerable ·) } handled
        { st with queue := st.queue ++ chunks } := by
    intro session' packets hpipeline hport' hpackets
    refine ⟨⟨_, hpipeline⟩, hport' ▸ hopen, hfiles, ?_, ?_⟩
    · show audioOf true (handled ++ (st.queue ++ chunks)) = _
      rw [← List.append_assoc, audioOf_append, huplink, hup, List.flatMap_append, hframes]
    · show audioOf false (handled ++ (st.queue ++ chunks)) = _
      rw [← List.append_assoc, audioOf_append, hdownlink, hdown, List.flatMap_append, hpackets]
  cases hprocessed with
  | idle hnone =>
    rw [hpl'] at hnone
    cases hnone
  | silent pl bot tcp hsome hout =>
    rw [hpl'] at hsome
    cases hsome
    rw [htake] at hout ⊢
    have hnil := hout.resolve_right (not_le.mpr hopen)
    exact ⟨_, htaped rfl rfl hnil.symm⟩
  | sent pl bot tcp hsome hout hopen' =>
    rw [hpl'] at hsome
    cases hsome
    rw [htake] at hout ⊢
    refine ⟨_, htaped rfl rfl ?_⟩
    simp only [Option.map_some, Option.toList_some, List.flatMap_singleton]
    exact (RtpPacket.getPayload_setPayload _ _).trans (List.take_of_length_le hlength)

theorem Taped.step (h : Taped created t handled st)
    (hfits : ∀ pl, t.session.pipeline = some pl → pl.Fits mode) (event : TalkEvent) :
    ∃ handled' st', Taped created (t.step event) handled' st' := by
  cases event with
  | media ev => exact h.media ev
  | rtp pkt sender =>
    cases hframe : t.session.frameFor pkt with
    | none =>
      obtain ⟨session, hstep, hsame⟩ := step_of_no_frame hframe sender
      rw [hstep]
      exact ⟨handled, st, h.congr hsame⟩
    | some frame =>
      rw [step_of_frame hframe]
      obtain ⟨st', htaped⟩ := h.processed hfits (buffering_sameStream t.session pkt sender)
        (CallSession.processFrame_processed _ frame)
      exact ⟨handled, st', htaped⟩

theorem run_taped {session : CallSession} {core : List Stage}
    (hpl : session.pipeline = some { stages := core ++ [.recorder created] })
    (hfits : ∃ pl, session.pipeline = some pl ∧ pl.Fits mode)
    (hport : 0 < session.localRtpPort) (hqueue : created.queue = []) (events : List TalkEvent) :
    ∃ handled st, Taped created (run session events) handled st := by
  induction events using List.reverseRecOn with
  | nil =>
    refine ⟨[], created, ⟨core, hpl⟩, hport, ?_, ?_, ?_⟩
    · show { created with queue := [] } = created
      rw [← hqueue]
    · rw [hqueue]
      rfl
    · rw [hqueue]
      rfl
  | append_singleton events event ih =>
    obtain ⟨handled, st, htaped⟩ := ih
    obtain ⟨pl, hpl', hplfits⟩ := (run_running hfits events).pipeline
    rw [show run session (events ++ [event]) = (run session events).step event from
      List.foldl_concat ..]
    have hfits' : ∀ pl', (run session events).session.pipeline = some pl' → pl'.Fits mode := by
      intro pl' hsome
      rw [hpl'] at hsome
      cases hsome
      exact hplfits
    exact htaped.step hfits' event

/--
**The recording of a call.** Whatever packets and media events come, once the recorder's worker has
taken out its queue: the chunks it was given are, of one direction, the audio of the frames played
and, of the other, the audio sent, all of it and in order. The mixed file has it all, but for at
most a second that waits in the buffer of the direction that is ahead.
-/
theorem call_is_recorded {session started : CallSession} {env : Env} {config : Config}
    {localRtpPort : Int} {remoteIp : Bytes} {remotePort payloadType : Int}
    (hmode : config.recordingMode = true) (hport : 0 < localRtpPort)
    (hstart : session.startPipeline env config localRtpPort remoteIp remotePort payloadType
      = .ok started)
    (hopens : env.opensFile (config.recordingPath ++ bytes "/" ++ session.callId ++
      bytes ".mixed.wav") = true) (events : List TalkEvent) :
    ∃ core st chunks script,
      (run started events).session.pipeline = some { stages := core ++ [.recorder st] } ∧
      Mixed (create true config.recordingPath session.callId payloadType env.opensFile) chunks
        st.drain script ∧
      audioOf true chunks = (run started events).frames.flatMap RtpPacket.getPayload ∧
      audioOf false chunks = (run started events).sent.flatMap RtpPacket.getPayload := by
  obtain ⟨bot, tcp, core, -, hstarted⟩ := CallSession.startPipeline_core hstart
  have hpl : started.pipeline = some { stages := core ++ [.recorder
      (create true config.recordingPath session.callId payloadType env.opensFile)] } := by
    rw [hstarted]
    unfold CallSession.recorderStages
    rw [if_pos hmode, hmode]
  have hport' : 0 < started.localRtpPort :=
    (CallSession.startPipeline_fields hstart).1 ▸ hport
  obtain ⟨handled, st, htaped⟩ := run_taped hpl (CallSession.startPipeline_fits hstart) hport'
    (create_queue ..) events
  have hdrained : st.drain.withoutQueue = (handled ++ st.queue).foldl processChunk
      (create true config.recordingPath session.callId payloadType env.opensFile) := by
    rw [drain_withoutQueue, htaped.files, List.foldl_append]
  obtain ⟨script, hmixed⟩ := mixed_of_chunks hopens hdrained
  obtain ⟨core', hpl'⟩ := htaped.pipeline
  exact ⟨core', st, _, script, hpl', hmixed, htaped.uplink, htaped.downlink⟩

/-- An echo call that is recorded. -/
def exampleTaped : Except Fatal CallSession :=
  (CallSession.create (bytes "call") 7).startPipeline { start := 0, opensFile := fun _ => true }
    { recordingMode := true, recordingPath := bytes "rec" } 20000 [] 4000 0

theorem call_is_recorded_echo :
    ∃ started st chunks script, exampleTaped = .ok started ∧
      (run started (examplePackets 2)).session.pipeline.any
        (fun pl => pl.stages.getLast? = some (.recorder st)) ∧
      Mixed (create true (bytes "rec") (bytes "call") 0 fun _ => true) chunks st.drain script ∧
      audioOf true chunks = [0, 0, 0, 0] ∧ audioOf false chunks = [0, 0, 0, 0] := by
  cases hstart : exampleTaped with
  | error ex =>
    have hok : exampleTaped.isOk = true := by decide +kernel
    rw [hstart] at hok
    cases hok
  | ok started =>
    have haudio : exampleTaped.toOption.map (fun started =>
        ((run started (examplePackets 2)).frames.flatMap RtpPacket.getPayload,
          (run started (examplePackets 2)).sent.flatMap RtpPacket.getPayload)) =
        some ([0, 0, 0, 0], [0, 0, 0, 0]) := by
      decide +kernel
    rw [hstart] at haudio
    obtain ⟨hplayed, hsent⟩ := Prod.ext_iff.mp (Option.some.inj haudio)
    obtain ⟨core, st, chunks, script, hpl, hmixed, hup, hdown⟩ :=
      call_is_recorded rfl (by decide) hstart rfl (examplePackets 2)
    refine ⟨started, st, chunks, script, rfl, ?_, hmixed, hup.trans hplayed, hdown.trans hsent⟩
    rw [hpl]
    simp

end Talk

end SipGateway
