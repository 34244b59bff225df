import SipGateway.Sdp.Answer
import SipGateway.Call.Starting

/-!
# The codec of the answer and the codec of the media path

The answer chooses a codec by name; the consumers of a started pipeline go by the payload type
number. `agreesWith_iff` says for which pairs the two come out the same.
-/

namespace SipGateway

open Infra

/-- Every consumer of the session treats its audio as the named codec. -/
structure Treats (config : Config) (session : CallSession) (name : Bytes) : Prop where
  audioSocket : ∀ pl st, session.pipeline = some pl → Stage.audioSocket st ∈ pl.stages →
    (st.encode = G711Utils.encodeULaw ↔ name = bytes "PCMU") ∧
    (st.encode = G711Utils.encodeALaw ↔ name = bytes "PCMA") ∧
    (st.decode = G711Utils.decodeULaw ↔ name = bytes "PCMU") ∧
    (st.decode = G711Utils.decodeALaw ↔ name = bytes "PCMA")
  recorder : ∀ pl st, session.pipeline = some pl → Stage.recorder st ∈ pl.stages →
    (st.decode = G711Utils.decodeULaw ↔ name = bytes "PCMU") ∧
    (st.decode = G711Utils.decodeALaw ↔ name = bytes "PCMA")
  bot : config.mode = .grpc → ∀ client callId rate codec, session.botClient = some client →
    { callId := callId, payload := .config rate codec } ∈ client.written →
    (codec = .pcmu ↔ name = bytes "PCMU")

/-- Whatever pipeline is started with the payload type, its consumers treat it as the codec. -/
def AgreesWith (payloadType : Int) (name : Bytes) : Prop :=
  ∀ (session : CallSession) (env : Env) (config : Config) (localRtpPort : Int) (remoteIp : Bytes)
    (remotePort : Int) (session' : CallSession),
    session.startPipeline env config localRtpPort remoteIp remotePort payloadType = .ok session' →
    Treats config session' name

/-! ## The two laws -/

theorem encodeULaw_ne : G711Utils.encodeULaw ≠ G711Utils.encodeALaw := by
  intro h
  have h0 : [G711Utils.linearToULaw 0] = [G711Utils.linearToALaw 0] := congrFun h [0]
  exact G711Utils.linearToULaw_zero_ne (List.cons.inj h0).1

theorem decodeULaw_ne : G711Utils.decodeULaw ≠ G711Utils.decodeALaw := by
  intro h
  have h0 : [G711Utils.ulawToLinear 0] = [G711Utils.alawToLinear 0] := congrFun h [0]
  exact G711Utils.ulawToLinear_zero_ne (List.cons.inj h0).1

theorem pcmu_ne : bytes "PCMU" ≠ bytes "PCMA" := by decide

theorem audioSocket_encode (st : AudioSocketStage) :
    st.encode = if st.payloadType = 0 then G711Utils.encodeULaw else G711Utils.encodeALaw := by
  funext pcm
  unfold AudioSocketStage.encode
  split <;> rfl

theorem audioSocket_decode (st : AudioSocketStage) :
    st.decode = if st.payloadType = 0 then G711Utils.decodeULaw else G711Utils.decodeALaw := by
  funext audio
  unfold AudioSocketStage.decode
  split <;> rfl

theorem recorder_decode (st : RecorderStage) :
    st.decode = if st.payloadType = 0 then G711Utils.decodeULaw else G711Utils.decodeALaw := by
  funext data
  unfold RecorderStage.decode
  split <;> rfl

/-- The two payload types that stand for their codecs by themselves. -/
def StaticPair (payloadType : Int) (name : Bytes) : Prop :=
  (payloadType = 0 ∧ name = bytes "PCMU") ∨ (payloadType = 8 ∧ name = bytes "PCMA")

theorem StaticPair.agreesWith {payloadType : Int} {name : Bytes} (h : StaticPair payloadType name) :
    AgreesWith payloadType name := by
  intro session env config localRtpPort remoteIp remotePort session' hstart
  obtain ⟨haudio, hrec, hbot⟩ := CallSession.startPipeline_consumers hstart
  rcases h with ⟨rfl, rfl⟩ | ⟨rfl, rfl⟩
  · refine ⟨fun pl st hpl hst => ?_, fun pl st hpl hst => ?_,
      fun hm client callId rate codec hc hev => ?_⟩
    · rw [audioSocket_encode, audioSocket_decode, haudio pl st hpl hst]
      simp [encodeULaw_ne, decodeULaw_ne, pcmu_ne]
    · rw [recorder_decode, hrec pl st hpl hst]
      simp [decodeULaw_ne, pcmu_ne]
    · rw [hbot hm client callId rate codec hc hev]
      simp [CallSession.announcedCodec]
  · refine ⟨fun pl st hpl hst => ?_, fun pl st hpl hst => ?_,
      fun hm client callId rate codec hc hev => ?_⟩
    · rw [audioSocket_encode, audioSocket_decode, haudio pl st hpl hst]
      simp [encodeULaw_ne.symm, decodeULaw_ne.symm, pcmu_ne.symm]
    · rw [recorder_decode, hrec pl st hpl hst]
      simp [decodeULaw_ne.symm, pcmu_ne.symm]
    · rw [hbot hm client callId rate codec hc hev]
      simp [CallSession.announcedCodec, pcmu_ne.symm]

/-- A gateway with a bot and a recorder, which tell the payload types apart by different rules. -/
def botAndRecorder : Config := { mode := .grpc, recordingMode := true }

theorem AgreesWith.staticPair {payloadType : Int} {name : Bytes}
    (h : AgreesWith payloadType name) : StaticPair payloadType name := by
  obtain ⟨session', hstart, hrec, hbot⟩ : ∃ session' : CallSession,
      ({ callId := [] } : CallSession).startPipeline { start := 0 } botAndRecorder 1 [] 1
        payloadType = .ok session' ∧
      (∃ pl st, session'.pipeline = some pl ∧ Stage.recorder st ∈ pl.stages) ∧
      ∃ client, session'.botClient = some client ∧
        { callId := [], payload :=
            .config 8000 (CallSession.announcedCodec payloadType) } ∈ client.written := by
    refine ⟨_, rfl, ⟨_, RecorderStage.create true botAndRecorder.recordingPath [] payloadType
      (fun _ => true), rfl, ?_⟩, _, rfl, ?_⟩
    · exact List.mem_cons_of_mem _ List.mem_cons_self
    · unfold CallSession.announcedCodec
      by_cases h8 : payloadType = 8 <;>
        simp [VoiceBotClient.sendConfig, VoiceBotClient.write, h8]
  have htreats := h _ _ _ _ _ _ _ hstart
  obtain ⟨-, hrecPt, -⟩ := CallSession.startPipeline_consumers hstart
  obtain ⟨pl, st, hpl, hst⟩ := hrec
  obtain ⟨client, hclient, hev⟩ := hbot
  obtain ⟨hu, ha⟩ := htreats.recorder pl st hpl hst
  have hcodec := htreats.bot rfl client _ _ _ hclient hev
  rw [recorder_decode, hrecPt pl st hpl hst] at hu ha
  by_cases h0 : payloadType = 0
  · exact Or.inl ⟨h0, hu.mp (if_pos h0)⟩
  · have hname := ha.mp (if_neg h0)
    refine Or.inr ⟨?_, hname⟩
    -- a name that is not PCMU must not be announced as such
    by_contra h8
    have hpcmu := hcodec.mp (by unfold CallSession.announcedCodec; rw [if_neg h8])
    exact pcmu_ne (hpcmu.symm.trans hname)

/-- **The consumers agree with a codec exactly for the two static pairs.** -/
theorem agreesWith_iff (payloadType : Int) (name : Bytes) :
    AgreesWith payloadType name ↔ StaticPair payloadType name :=
  ⟨AgreesWith.staticPair, StaticPair.agreesWith⟩

/-! ## The negotiated codec -/

/--
**When the negotiated codec and the media path agree**: the payload type the answer is about is
a static one, with its own codec. Neither a dynamic payload type nor a remapped one will do.
-/
theorem negotiated_agrees_iff {offer : SdpSession} {localIp : Bytes} {localPort : Int}
    {preference : List Bytes} (hpref : ∀ q ∈ preference, q = bytes "PCMU" ∨ q = bytes "PCMA")
    (hanswer : (SdpAnswer.generate offer localIp localPort preference).1 ≠ []) :
    ∃ codec, SdpAnswer.generate offer localIp localPort preference =
        (SdpAnswer.answerText localIp localPort codec, codec) ∧
      SdpAnswer.rtpmapLine codec ∈
        (lines (SdpAnswer.answerText localIp localPort codec)).map stripCr ∧
      (AgreesWith codec.payloadType codec.name ↔
        ∃ audio, SdpAnswer.firstAudio offer = some audio ∧
          (SdpAnswer.Chosen offer audio preference 0 (bytes "PCMU") ∨
           SdpAnswer.Chosen offer audio preference 8 (bytes "PCMA"))) := by
  obtain ⟨audio, pt, name, haudio, hchosen, -, hgen⟩ := SdpAnswer.generate_chosen hanswer
  refine ⟨_, hgen, SdpAnswer.rtpmapLine_mem_answerText _ _ ?_, ?_⟩
  · obtain ⟨before, after, hpre, -⟩ := hchosen.prefers
    show nl ∉ name
    rcases hpref name (by rw [hpre]; simp) with rfl | rfl <;> decide
  · rw [agreesWith_iff]
    constructor
    · rintro (⟨rfl, rfl⟩ | ⟨rfl, rfl⟩)
      · exact ⟨audio, haudio, Or.inl hchosen⟩
      · exact ⟨audio, haudio, Or.inr hchosen⟩
    · rintro ⟨audio', haudio', hstatic⟩
      rw [haudio] at haudio'
      cases haudio'
      rcases hstatic with h | h
      · exact Or.inl (hchosen.unique h)
      · exact Or.inr (hchosen.unique h)

/-- An offer of PCMU under its own payload type. -/
def staticOffer : SdpSession :=
  { media :=
      [{ type := bytes "audio", port := 4000, proto := bytes "RTP/AVP", payloadTypes := [0] }] }

theorem negotiated_agrees_iff_static :
    (SdpAnswer.generate staticOffer [] 20000 [bytes "PCMU"]).2 =
        { payloadType := 0, name := bytes "PCMU", rate := 8000 } ∧
      AgreesWith 0 (bytes "PCMU") := by
  have hanswer : (SdpAnswer.generate staticOffer [] 20000 [bytes "PCMU"]).1 ≠ [] := by
    decide +kernel
  have hcodec : (SdpAnswer.generate staticOffer [] 20000 [bytes "PCMU"]).2 =
      { payloadType := 0, name := bytes "PCMU", rate := 8000 } := by
    decide +kernel
  obtain ⟨codec, hgenerate, -, hiff⟩ := negotiated_agrees_iff (by simp) hanswer
  rw [hgenerate] at hcodec
  dsimp only at hcodec
  subst hcodec
  refine ⟨by rw [hgenerate], hiff.mpr ⟨_, rfl, Or.inl ?_⟩⟩
  exact { prefers := ⟨[], [], rfl, by simp⟩, offers := ⟨[], [], rfl, by simp⟩, named := by decide }

/-- PCMU under payload type 96: the answer says PCMU, the recorder decodes A-law. -/
theorem dynamic_payload_type_disagrees :
    ((SdpParser.parse (bytes "m=audio 4000 RTP/AVP 96\r\na=rtpmap:96 PCMU/8000\r\n")
      ).toOption.bind id).any (fun offer =>
        (SdpAnswer.generate offer [] 20000 [bytes "PCMU"]).2
          = { payloadType := 96, name := bytes "PCMU", rate := 8000 } ∧
        (SdpAnswer.generate offer [] 20000 [bytes "PCMU"]).1 ≠ []) = true ∧
    ¬ AgreesWith 96 (bytes "PCMU") := by
  refine ⟨by decide +kernel, fun h => ?_⟩
  rcases h.staticPair with ⟨hpt, -⟩ | ⟨hpt, -⟩ <;> exact absurd hpt (by decide)

end SipGateway
