import SipGateway.Call.Frames
import SipGateway.Call.Starting
import SipGateway.Rtp.Header

/-!
# The stream a session sends

A `Talk` is a started session that receives packets and media events, with what it has sent.
Sequence number, timestamp and SSRC go on whatever happens (`Talk.Running`), but the timestamp
always by 160.

`continuous_iff`: that is the length of every packet of a bridge stage; an echo is as long as the
frame it answers.
-/

namespace SipGateway

open Infra

/-! ## The pipeline of a started session -/

/-- The kind of pipeline a mode calls for. -/
def MediaPipeline.Fits (mode : GatewayMode) (pl : MediaPipeline) : Prop :=
  if mode = .echo then pl.Echoing else pl.Bridging

namespace CallSession

variable {session session' : CallSession} {env : Env} {config : Config} {payloadType : Int}

theorem recorderStages_isRecorder (callId : Bytes) (env : Env) (config : Config)
    (payloadType : Int) :
    ∀ stage ∈ recorderStages callId env config payloadType, stage.isRecorder := by
  intro stage hstage
  unfold recorderStages at hstage
  split at hstage
  · rw [List.mem_singleton.mp hstage]
    rfl
  · cases hstage

/-- One echo in echo mode, and none in the other modes. -/
theorem Core.stages {bot : Option VoiceBotClient} {tcp : Option AudioSocketClient}
    {core : List Stage} (h : Core session env config payloadType bot tcp core) :
    if config.mode = .echo then core = [.echo {}] else ∀ stage ∈ core, stage.isEcho = false := by
  cases h with
  | echo hmode => rw [if_pos hmode]
  | bot hmode _ | noBot hmode _ | peer _ hmode _ | noPeer _ hmode _ =>
    rw [if_neg (by rw [hmode]; decide)]
    simp [Stage.isEcho]

theorem startPipeline_fits {localRtpPort : Int} {remoteIp : Bytes} {remotePort : Int}
    (h : session.startPipeline env config localRtpPort remoteIp remotePort payloadType
      = .ok session') :
    ∃ pl, session'.pipeline = some pl ∧ pl.Fits config.mode := by
  obtain ⟨bot, tcp, core, hcore, rfl⟩ := startPipeline_core h
  refine ⟨_, rfl, ?_⟩
  have hstages := hcore.stages
  have hrecorders := recorderStages_isRecorder session.callId env config payloadType
  unfold MediaPipeline.Fits
  split
  · next hmode =>
    rw [if_pos hmode] at hstages
    refine ⟨{}, _, ?_, rfl, hrecorders⟩
    rw [hstages]
    rfl
  · next hmode =>
    rw [if_neg hmode] at hstages
    intro stage hstage
    rcases List.mem_append.mp hstage with hstage | hstage
    · exact hstages stage hstage
    · cases stage with
      | echo st => cases hrecorders _ hstage
      | grpcBridge st => rfl
      | audioSocket st => rfl
      | recorder st => rfl

end CallSession

/-! ## What keeps the pipeline of its kind -/

/-- Nothing that happens behind the stages makes one an echo. -/
theorem CallSession.MediaEvent.apply_kind (ev : CallSession.MediaEvent) (stage : Stage) :
    (ev.apply stage).isEcho = stage.isEcho ∧ (ev.apply stage).isRecorder = stage.isRecorder := by
  cases ev <;> cases stage <;> exact ⟨rfl, rfl⟩

namespace MediaPipeline

variable {mode : GatewayMode} {pl : MediaPipeline}

theorem Fits.takeFrame (h : pl.Fits mode) (payload : Bytes) :
    (pl.takeFrame payload).1.Fits mode ∧
      if mode = .echo then (pl.takeFrame payload).2 = payload
      else (pl.takeFrame payload).2 = [] ∨ (pl.takeFrame payload).2.length = 160 := by
  unfold Fits at h ⊢
  by_cases hmode : mode = .echo
  · simp only [if_pos hmode] at h ⊢
    exact h.takeFrame payload
  · simp only [if_neg hmode] at h ⊢
    exact h.takeFrame payload

theorem Fits.media (h : pl.Fits mode) (ev : CallSession.MediaEvent) :
    ({ stages := pl.stages.map ev.apply } : MediaPipeline).Fits mode := by
  unfold Fits at h ⊢
  by_cases hmode : mode = .echo
  · rw [if_pos hmode] at h ⊢
    obtain ⟨st, recorders, hstages, hdata, hrecorders⟩ := h
    refine ⟨st, recorders.map ev.apply, ?_, hdata, ?_⟩
    · rw [hstages, List.map_cons]
      cases ev <;> rfl
    · intro stage hstage
      obtain ⟨recorder, hrecorder, rfl⟩ := List.mem_map.mp hstage
      exact (ev.apply_kind recorder).2.trans (hrecorders recorder hrecorder)
  · rw [if_neg hmode] at h ⊢
    intro stage hstage
    obtain ⟨bridge, hbridge, rfl⟩ := List.mem_map.mp hstage
    exact (ev.apply_kind bridge).1.trans (h bridge hbridge)

end MediaPipeline

/-! ## A session that talks -/

/-- What a session meets while it runs. -/
inductive TalkEvent where
  | rtp (pkt : RtpPacket) (sender : SockAddr)
  | media (ev : CallSession.MediaEvent)

/--
A session, the packets it has sent, and the frames it has been given: those the jitter buffer
let go that carry audio, as long as there is a port to answer from.
-/
structure Talk where
  session : CallSession
  sent : List RtpPacket := []
  frames : List RtpPacket := []

namespace CallSession

/-- A frame with audio that can be answered. -/
def Answerable (session : CallSession) (frame : RtpPacket) : Prop :=
  frame.getPayload ≠ [] ∧ 0 < session.localRtpPort

instance (session : CallSession) (frame : RtpPacket) : Decidable (session.Answerable frame) :=
  inferInstanceAs (Decidable (frame.getPayload ≠ [] ∧ 0 < session.localRtpPort))

end CallSession

namespace Talk

def step (t : Talk) : TalkEvent → Talk
  | .rtp pkt sender =>
    { session := (t.session.onRtpPacket pkt sender).1
      sent := t.sent ++
        ((t.session.onRtpPacket pkt sender).2.map CallSession.Outgoing.packet).toList
      frames := t.frames ++ (t.session.frameFor pkt).toList.filter (t.session.Answerable ·) }
  | .media ev => { t with session := t.session.onMedia ev }

/-- The events one after the other, from a session that was just started. -/
def run (session : CallSession) (events : List TalkEvent) : Talk :=
  events.foldl step { session := session }

/-- The second packet goes on where the first one ends. -/
structure Continues (payloadType : Int) (a b : RtpPacket) : Prop where
  payloadType_left : (a.getPayloadType.toNat : Int) = payloadType
  payloadType_right : (b.getPayloadType.toNat : Int) = payloadType
  ssrc : b.getSsrc = a.getSsrc
  sequence : b.getSequenceNumber = a.getSequenceNumber + 1
  timestamp : b.getTimestamp = a.getTimestamp + UInt32.ofNat a.getPayload.length

instance (payloadType : Int) (a b : RtpPacket) : Decidable (Continues payloadType a b) :=
  decidable_of_iff ((a.getPayloadType.toNat : Int) = payloadType ∧
      (b.getPayloadType.toNat : Int) = payloadType ∧ b.getSsrc = a.getSsrc ∧
      b.getSequenceNumber = a.getSequenceNumber + 1 ∧
      b.getTimestamp = a.getTimestamp + UInt32.ofNat a.getPayload.length)
    ⟨fun ⟨h1, h2, h3, h4, h5⟩ => ⟨h1, h2, h3, h4, h5⟩,
      fun ⟨h1, h2, h3, h4, h5⟩ => ⟨h1, h2, h3, h4, h5⟩⟩

/-- Every packet goes on where the one before it ends. -/
def Continuous (payloadType : Int) (t : Talk) : Prop := t.sent.IsChain (Continues payloadType)

instance (payloadType : Int) (t : Talk) : Decidable (t.Continuous payloadType) :=
  inferInstanceAs (Decidable (t.sent.IsChain (Continues payloadType)))

/-! ### What a packet adds to the stream -/

/-- What belongs to the stream is the same in both sessions. -/
structure SameStream (session session' : CallSession) : Prop where
  pipeline : session'.pipeline = session.pipeline
  payloadType : session'.payloadType = session.payloadType
  ssrc : session'.ssrc = session.ssrc
  localRtpPort : session'.localRtpPort = session.localRtpPort
  outgoingSeq : session'.outgoingSeq = session.outgoingSeq
  outgoingTimestamp : session'.outgoingTimestamp = session.outgoingTimestamp

theorem lockRemote_sameStream (session : CallSession) (sender : SockAddr) :
    SameStream session (session.lockRemote sender) := by
  unfold CallSession.lockRemote
  split <;> exact ⟨rfl, rfl, rfl, rfl, rfl, rfl⟩

theorem buffering_sameStream (session : CallSession) (pkt : RtpPacket) (sender : SockAddr) :
    SameStream session (session.buffering pkt sender) := by
  obtain ⟨h1, h2, h3, h4, h5, h6⟩ := lockRemote_sameStream session sender
  exact ⟨h1, h2, h3, h4, h5, h6⟩

/-- A payload type that a packet carries goes into seven bits. -/
theorem payloadType_of_accepts {session : CallSession} {pkt : RtpPacket}
    (h : session.accepts pkt = true) :
    (((UInt8.ofInt session.payloadType) &&& 0x7F).toNat : Int) = session.payloadType := by
  have htype : (pkt.getPayloadType.toNat : Int) = session.payloadType := by
    simpa [CallSession.accepts] using h
  have hseven : pkt.getPayloadType &&& 0x7F = pkt.getPayloadType := by
    unfold RtpPacket.getPayloadType
    split
    · rfl
    · rw [UInt8.and_assoc]
      rfl
  rw [← htype]
  have hcast : UInt8.ofInt (pkt.getPayloadType.toNat : Int) = pkt.getPayloadType := by
    have hlt := pkt.getPayloadType.toNat_lt
    rw [← UInt8.toNat_inj]
    simp only [UInt8.ofInt, UInt8.toNat_ofNat']
    omega
  rw [hcast, hseven]

/-- What every event keeps. -/
structure Running (mode : GatewayMode) (start : CallSession) (t : Talk) : Prop where
  pipeline : ∃ pl, t.session.pipeline = some pl ∧ pl.Fits mode
  payloadType : t.session.payloadType = start.payloadType
  ssrc : t.session.ssrc = start.ssrc
  last : ∀ p, t.sent.getLast? = some p → p.getSequenceNumber = t.session.outgoingSeq ∧
    p.getTimestamp = t.session.outgoingTimestamp
  chain : t.sent.IsChain fun a b =>
    b.getSequenceNumber = a.getSequenceNumber + 1 ∧ b.getTimestamp = a.getTimestamp + 160
  all : ∀ p ∈ t.sent, (p.getPayloadType.toNat : Int) = start.payloadType ∧ p.getSsrc = start.ssrc
  payloads : if mode = .echo then
      t.sent.map RtpPacket.getPayload = t.frames.map RtpPacket.getPayload
    else ∀ p ∈ t.sent, p.getPayload.length = 160

variable {mode : GatewayMode} {start : CallSession} {t : Talk}

theorem Running.media (h : t.Running mode start) (ev : CallSession.MediaEvent) :
    (t.step (.media ev)).Running mode start := by
  obtain ⟨⟨pl, hpl, hfits⟩, h2, h3, h4, h5, h6, h7⟩ := h
  refine ⟨⟨_, ?_, hfits.media ev⟩, h2, h3, h4, h5, h6, h7⟩
  show Option.map _ t.session.pipeline = _
  rw [hpl]
  rfl

/-- Nothing is sent, and the counters stay. -/
theorem Running.silent (h : t.Running mode start) (session : CallSession) {pl : MediaPipeline}
    (hpl : session.pipeline = some pl) (hfits : pl.Fits mode)
    (htype : session.payloadType = start.payloadType) (hssrc : session.ssrc = start.ssrc)
    (hseq : session.outgoingSeq = t.session.outgoingSeq)
    (hts : session.outgoingTimestamp = t.session.outgoingTimestamp) {frames : List RtpPacket}
    (hframes : mode = .echo → frames = t.frames) :
    Running mode start { session := session, sent := t.sent, frames := frames } := by
  refine ⟨⟨pl, hpl, hfits⟩, htype, hssrc, ?_, h.chain, h.all, ?_⟩
  · intro p hp
    dsimp only
    rw [hseq, hts]
    exact h.last p hp
  · have hbefore := h.payloads
    by_cases hmode : mode = .echo
    · rw [if_pos hmode] at hbefore ⊢
      dsimp only
      rw [hframes hmode, hbefore]
    · rw [if_neg hmode] at hbefore ⊢
      exact hbefore

/-- The packet that carries the audio, read back. -/
theorem outgoingPacket_fields {session : CallSession} {dlPayload : Bytes}
    (htype : (((UInt8.ofInt session.payloadType) &&& 0x7F).toNat : Int) = session.payloadType) :
    ((session.outgoingPacket dlPayload).getPayloadType.toNat : Int) = session.payloadType ∧
    (session.outgoingPacket dlPayload).getSequenceNumber = session.outgoingSeq + 1 ∧
    (session.outgoingPacket dlPayload).getTimestamp = session.outgoingTimestamp + 160 ∧
    (session.outgoingPacket dlPayload).getSsrc = session.ssrc ∧
    (session.outgoingPacket dlPayload).getPayload = dlPayload.take 1488 := by
  have hheaded := (RtpPacket.setHeader_headed RtpPacket.empty (UInt8.ofInt session.payloadType)
    (session.outgoingSeq + 1) (session.outgoingTimestamp + 160) session.ssrc).setPayload dlPayload
  refine ⟨?_, hheaded.getSequenceNumber, hheaded.getTimestamp, hheaded.getSsrc,
    RtpPacket.getPayload_setPayload _ dlPayload⟩
  unfold CallSession.outgoingPacket
  rw [hheaded.getPayloadType]
  exact htype

/-- A packet goes out behind the others. -/
theorem Running.sent (h : t.Running mode start) (session : CallSession) (frame : RtpPacket)
    {pl : MediaPipeline} {packet : RtpPacket} (hpl : session.pipeline = some pl)
    (hfits : pl.Fits mode)
    (htype : session.payloadType = start.payloadType) (hssrc : session.ssrc = start.ssrc)
    (hseq : session.outgoingSeq = t.session.outgoingSeq + 1)
    (hts : session.outgoingTimestamp = t.session.outgoingTimestamp + 160)
    (hpacket : (packet.getPayloadType.toNat : Int) = start.payloadType ∧
      packet.getSequenceNumber = session.outgoingSeq ∧
      packet.getTimestamp = session.outgoingTimestamp ∧ packet.getSsrc = start.ssrc)
    (hpayload : if mode = .echo then packet.getPayload = frame.getPayload
      else packet.getPayload.length = 160) {frames : List RtpPacket}
    (hframes : mode = .echo → frames = t.frames ++ [frame]) :
    Running mode start { session := session, sent := t.sent ++ [packet], frames := frames } := by
  obtain ⟨hp1, hp2, hp3, hp4⟩ := hpacket
  refine ⟨⟨pl, hpl, hfits⟩, htype, hssrc, ?_, ?_, ?_, ?_⟩
  · intro p hp
    rw [List.getLast?_concat] at hp
    cases hp
    exact ⟨hp2, hp3⟩
  · refine List.isChain_append.mpr ⟨h.chain, List.isChain_singleton _, ?_⟩
    intro a ha b hb
    cases hb
    obtain ⟨haseq, hats⟩ := h.last a ha
    rw [hp2, hp3, hseq, hts, haseq, hats]
    exact ⟨rfl, rfl⟩
  · intro p hp
    rcases List.mem_append.mp hp with hp | hp
    · exact h.all p hp
    · rw [List.mem_singleton.mp hp]
      exact ⟨hp1, hp4⟩
  · have hbefore := h.payloads
    by_cases hmode : mode = .echo
    · rw [if_pos hmode] at hpayload hbefore ⊢
      dsimp only
      rw [hframes hmode, List.map_append, List.map_append, hbefore, List.map_singleton,
        List.map_singleton, hpayload]
    · rw [if_neg hmode] at hpayload hbefore ⊢
      intro p hp
      rcases List.mem_append.mp hp with hp | hp
      · exact hbefore p hp
      · rw [List.mem_singleton.mp hp]
        exact hpayload

/-- A packet the jitter buffer lets no frame go for. -/
theorem step_of_no_frame {pkt : RtpPacket} (hframe : t.session.frameFor pkt = none)
    (sender : SockAddr) : ∃ session, t.step (.rtp pkt sender) = { t with session := session } ∧
      SameStream t.session session := by
  unfold step
  dsimp only
  rw [hframe]
  rcases CallSession.onRtpPacket_of_no_frame hframe with hrtp | hrtp
  · rw [hrtp]
    exact ⟨_, by simp, lockRemote_sameStream t.session sender⟩
  · rw [hrtp]
    exact ⟨_, by simp, buffering_sameStream t.session pkt sender⟩

theorem step_of_frame {pkt frame : RtpPacket} (hframe : t.session.frameFor pkt = some frame)
    (sender : SockAddr) : t.step (.rtp pkt sender) =
      { session := ((t.session.buffering pkt sender).processFrame frame).1
        sent := t.sent ++ (((t.session.buffering pkt sender).processFrame frame).2.map
          CallSession.Outgoing.packet).toList
        frames := t.frames ++ [frame].filter (t.session.Answerable ·) } := by
  obtain ⟨-, hrtp⟩ : _ ∧ t.session.onRtpPacket pkt sender = _ :=
    CallSession.onRtpPacket_of_frame hframe
  unfold step
  dsimp only
  rw [hframe, hrtp]
  rfl

/-- However `processFrame` ends, the stream goes on. -/
theorem Running.processed (h : t.Running mode start) {session : CallSession} {frame : RtpPacket}
    {r : CallSession × Option CallSession.Outgoing} (hsame : SameStream t.session session)
    (hseven : (((UInt8.ofInt session.payloadType) &&& 0x7F).toNat : Int) = session.payloadType)
    (hprocessed : CallSession.Processed session frame r) :
    Running mode start
      { session := r.1
        sent := t.sent ++ (r.2.map CallSession.Outgoing.packet).toList
        frames := t.frames ++ [frame].filter (t.session.Answerable ·) } := by
  obtain ⟨pl, hpl, hfits⟩ := h.pipeline
  obtain ⟨hfits', hout'⟩ := hfits.takeFrame frame.getPayload
  have htype := hsame.payloadType.trans h.payloadType
  have hssrc := hsame.ssrc.trans h.ssrc
  have hport := hsame.localRtpPort
  cases hprocessed with
  | idle hnone =>
    rw [hsame.pipeline, hpl] at hnone
    cases hnone
  | silent pl' bot tcp hpl' hout =>
    rw [hsame.pipeline, hpl] at hpl'
    cases hpl'
    simp only [Option.map_none, Option.toList_none, List.append_nil]
    refine h.silent { session with pipeline := _, botClient := bot, tcpClient := tcp }
      rfl hfits' htype hssrc hsame.outgoingSeq hsame.outgoingTimestamp ?_
    intro hmode
    rw [if_pos hmode] at hout'
    have hno : ¬ t.session.Answerable frame := by
      rintro ⟨haudio, hopen⟩
      rw [hout', hport] at hout
      rcases hout with hnil | hclosed
      · exact haudio hnil
      · exact absurd hopen (not_lt.mpr hclosed)
    rw [List.filter_cons_of_neg (by simpa using hno), List.filter_nil, List.append_nil]
  | sent pl' bot tcp hpl' hout hopen =>
    rw [hsame.pipeline, hpl] at hpl'
    cases hpl'
    obtain ⟨hp1, hp2, hp3, hp4, hp5⟩ :=
      @outgoingPacket_fields _ (pl.takeFrame frame.getPayload).2 hseven
    simp only [Option.map_some, Option.toList_some]
    refine h.sent { session with
        pipeline := _, botClient := bot, tcpClient := tcp
        outgoingTimestamp := session.outgoingTimestamp + 160
        outgoingSeq := session.outgoingSeq + 1 } frame
      rfl hfits' htype hssrc ?_ ?_ ⟨hp1.trans htype, hp2, hp3, hp4.trans hssrc⟩ ?_ ?_
    · exact congrArg (· + 1) hsame.outgoingSeq
    · exact congrArg (· + 160) hsame.outgoingTimestamp
    · rw [hp5]
      by_cases hmode : mode = .echo
      · rw [if_pos hmode] at hout' ⊢
        rw [hout', List.take_of_length_le (RtpPacket.length_getPayload_le frame)]
      · rw [if_neg hmode] at hout' ⊢
        have hlen := hout'.resolve_left hout
        rw [List.take_of_length_le (by omega), hlen]
    · intro hmode
      rw [if_pos hmode] at hout'
      have hyes : t.session.Answerable frame := by
        refine ⟨?_, ?_⟩
        · rwa [hout'] at hout
        · rwa [hport] at hopen
      rw [List.filter_cons_of_pos (by simpa using hyes), List.filter_nil]

theorem Running.rtp (h : t.Running mode start) (pkt : RtpPacket) (sender : SockAddr) :
    (t.step (.rtp pkt sender)).Running mode start := by
  cases hframe : t.session.frameFor pkt with
  | none =>
    obtain ⟨session, hstep, hsame⟩ := step_of_no_frame hframe sender
    obtain ⟨pl, hpl, hfits⟩ := h.pipeline
    rw [hstep]
    exact h.silent session (hsame.pipeline.trans hpl) hfits (hsame.payloadType.trans h.payloadType)
      (hsame.ssrc.trans h.ssrc) hsame.outgoingSeq hsame.outgoingTimestamp fun _ => rfl
  | some frame =>
    obtain ⟨haccepts, -⟩ : _ ∧ t.session.onRtpPacket pkt sender = _ :=
      CallSession.onRtpPacket_of_frame hframe
    have hsame := buffering_sameStream t.session pkt sender
    have hseven := payloadType_of_accepts haccepts
    rw [← hsame.payloadType] at hseven
    rw [step_of_frame hframe]
    exact h.processed hsame hseven ((t.session.buffering pkt sender).processFrame_processed frame)

theorem run_running {mode : GatewayMode} {session : CallSession}
    (h : ∃ pl, session.pipeline = some pl ∧ pl.Fits mode) (events : List TalkEvent) :
    (run session events).Running mode session := by
  induction events using List.reverseRecOn with
  | nil =>
    refine ⟨h, rfl, rfl, nofun, List.isChain_nil, nofun, ?_⟩
    split
    · rfl
    · exact nofun
  | append_singleton events event ih =>
    have hconcat : run session (events ++ [event]) = (run session events).step event :=
      List.foldl_concat ..
    rw [hconcat]
    cases event with
    | rtp pkt sender => exact ih.rtp pkt sender
    | media ev => exact ih.media ev

/-! ### Timestamps -/

/-- In a chain, a relation that comes down to a property of the first of two neighbours. -/
theorem isChain_iff_of_left {α : Type} {R S : α → α → Prop} {P Q : α → Prop} {l : List α}
    (hall : ∀ a ∈ l, Q a) (hchain : l.IsChain R)
    (h : ∀ a b, Q a → Q b → R a b → (S a b ↔ P a)) :
    l.IsChain S ↔ ∀ a ∈ l.dropLast, P a := by
  induction l with
  | nil => exact iff_of_true List.isChain_nil nofun
  | cons a l ih =>
    cases l with
    | nil => exact iff_of_true (List.isChain_singleton a) nofun
    | cons b l =>
      obtain ⟨hab, hrest⟩ := List.isChain_cons_cons.mp hchain
      obtain ⟨ha, htail⟩ := List.forall_mem_cons.mp hall
      rw [List.isChain_cons_cons, List.dropLast_cons_cons, List.forall_mem_cons,
        h a b ha (htail b List.mem_cons_self) hab, ih htail hrest]

theorem timestamp_iff {a b : RtpPacket} (h : b.getTimestamp = a.getTimestamp + 160) :
    b.getTimestamp = a.getTimestamp + UInt32.ofNat a.getPayload.length ↔
      a.getPayload.length = 160 := by
  have hle := a.length_getPayload_le
  rw [h, UInt32.add_right_inj, ← UInt32.toNat_inj]
  simp only [UInt32.toNat_ofNat', UInt32.reduceToNat]
  omega

/-- The stream is continuous if and only if all packets but the last are 160 bytes long. -/
theorem Running.steps_by_160_iff (h : t.Running mode start) :
    t.Continuous start.payloadType ↔ ∀ p ∈ t.sent.dropLast, p.getPayload.length = 160 := by
  refine isChain_iff_of_left h.all h.chain ?_
  intro a b ha hb hab
  rw [← timestamp_iff hab.2]
  constructor
  · intro hcontinues
    exact hcontinues.timestamp
  · intro hts
    exact ⟨ha.1, hb.1, hb.2.trans ha.2.symm, hab.1, hts⟩

/--
**When the outgoing stream is continuous.** Payload type, SSRC and sequence number are right in
every mode. The timestamps are right behind a bridge. In echo mode every frame that is answered,
except the last, must carry exactly 160 bytes.
-/
theorem continuous_iff {session started : CallSession} {env : Env} {config : Config}
    {localRtpPort : Int} {remoteIp : Bytes} {remotePort payloadType : Int}
    (h : session.startPipeline env config localRtpPort remoteIp remotePort payloadType
      = .ok started) (events : List TalkEvent) :
    (run started events).Continuous payloadType ↔
      (config.mode = .echo →
        ∀ frame ∈ (run started events).frames.dropLast, frame.getPayload.length = 160) := by
  have hrunning := run_running (CallSession.startPipeline_fits h) events
  have htype := (CallSession.startPipeline_fields h).2.2
  have hiff := hrunning.steps_by_160_iff
  have hpayloads := hrunning.payloads
  rw [htype] at hiff
  rw [hiff]
  by_cases hmode : config.mode = .echo
  · rw [if_pos hmode] at hpayloads
    have hdrop := congrArg List.dropLast hpayloads
    rw [← List.map_dropLast, ← List.map_dropLast] at hdrop
    have hall : ∀ packets : List RtpPacket, (∀ p ∈ packets, p.getPayload.length = 160) ↔
        ∀ payload ∈ packets.map RtpPacket.getPayload, payload.length = 160 := by
      intro packets
      rw [List.forall_mem_map]
    rw [hall, hdrop, ← hall]
    exact ⟨fun h _ => h, fun h => h hmode⟩
  · rw [if_neg hmode] at hpayloads
    exact iff_of_true (fun p hp => hpayloads p (List.mem_of_mem_dropLast hp))
      fun hecho => absurd hecho hmode

/-- A session in echo mode, started for PCMU. -/
def exampleStarted : CallSession :=
  ((CallSession.create [] 7).startPipeline { start := 0 } {} 20000 [] 4000 0).toOption.getD
    (CallSession.create [] 7)

/-- Six packets with as many samples each. -/
def examplePackets (samples : Nat) : List TalkEvent :=
  [1, 2, 3, 4, 5, 6].map fun seq =>
    .rtp ((RtpPacket.empty.setHeader 0 seq 0 0).setPayload (List.replicate samples 0)) {}

theorem exampleStarted_eq :
    (CallSession.create [] 7).startPipeline { start := 0 } {} 20000 [] 4000 0 =
      .ok exampleStarted := rfl

/-- Frames of 20 ms are echoed in a continuous stream. -/
theorem continuous_at_20ms :
    (run exampleStarted (examplePackets 160)).Continuous 0 ∧
    (run exampleStarted (examplePackets 160)).sent.length = 2 := by
  refine ⟨?_, by decide +kernel⟩
  exact (continuous_iff exampleStarted_eq (examplePackets 160)).mpr fun _ => by decide +kernel

/-- Frames of 10 ms are echoed with timestamps that run twice too fast. -/
theorem not_continuous_at_10ms :
    (CallSession.create [] 7).startPipeline { start := 0 } {} 20000 [] 4000 0 =
      .ok exampleStarted ∧
    ¬ (run exampleStarted (examplePackets 80)).Continuous 0 :=
  ⟨rfl, by decide +kernel⟩

end Talk

end SipGateway
