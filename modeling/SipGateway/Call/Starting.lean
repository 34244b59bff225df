import SipGateway.Call.Session

/-!
# What `startPipeline` leaves behind

Every way `startPipeline` can come to its end (`Core`), with the client and the stages there are
then; and when it ends the process, since it drops a client that has not been shut down
(`startPipeline_joinable_iff`).
-/

namespace SipGateway

open Infra

namespace CallSession

variable {session started : CallSession} {env : Env} {config : Config} {payloadType : Int}

/-- The codec `sendConfig` announces for a payload type. -/
def announcedCodec (payloadType : Int) : BotCodec := if payloadType = 8 then .pcma else .pcmu

/-- The client of a bot that was reached, the configuration sent. -/
def connectedBot (callId : Bytes) (config : Config) (payloadType : Int) : VoiceBotClient where
  target := config.grpcTarget
  callId := callId
  context := some false
  running := true
  joinable := true
  written := [{ callId := callId, payload := .config 8000 (announcedCodec payloadType) }]

/-- The client of a peer, before `connect`. -/
def newTcpClient (session : CallSession) (config : Config) : AudioSocketClient where
  target := config.audiosocketTarget
  callId := session.callId
  fromUser := session.fromUser
  toUser := session.toUser

/-- The clients and the core stage, by mode and by what the network answered. -/
inductive Core (session : CallSession) (env : Env) (config : Config) (payloadType : Int) :
    Option VoiceBotClient → Option AudioSocketClient → List Stage → Prop where
  | echo (hmode : config.mode = .echo) :
      Core session env config payloadType session.botClient session.tcpClient [.echo {}]
  | bot (hmode : config.mode = .grpc) (hstream : env.botStream = true) :
      Core session env config payloadType (some (connectedBot session.callId config payloadType))
        session.tcpClient [.grpcBridge {}]
  | noBot (hmode : config.mode = .grpc) (hstream : env.botStream = false) :
      Core session env config payloadType
        (some { target := config.grpcTarget, callId := session.callId, context := some false })
        session.tcpClient []
  | peer (client : AudioSocketClient) (hmode : config.mode = .audiosocket)
      (hconnect : (session.newTcpClient config).connect env.tcpSocket env.tcpConnects env.epoch =
        .ok (client, true)) :
      Core session env config payloadType session.botClient (some client)
        [.audioSocket { payloadType := payloadType }]
  | noPeer (client : AudioSocketClient) (hmode : config.mode = .audiosocket)
      (hconnect : (session.newTcpClient config).connect env.tcpSocket env.tcpConnects env.epoch =
        .ok (client, false)) :
      Core session env config payloadType session.botClient (some client) []

/-- A client that was there before could go without ending the process. -/
theorem startCore_core {r : CallSession × List Stage}
    (h : session.startCore env config payloadType = .ok r) :
    ∃ bot tcp, r.1 = { session with botClient := bot, tcpClient := tcp } ∧
      Core session env config payloadType bot tcp r.2 := by
  unfold startCore at h
  split at h
  · next hmode =>
    cases hdrop : session.dropBot with
    | error cause => simp [bind, Except.bind, hdrop] at h
    | ok u =>
      simp only [bind, Except.bind, pure, Except.pure, hdrop] at h
      cases hstream : env.botStream with
      | true =>
        let reached : VoiceBotClient :=
          { target := config.grpcTarget, callId := session.callId, context := some false,
            running := true, joinable := true }
        have hconfig : reached.sendConfig 8000 (if payloadType = 8 then 8 else 0) =
            connectedBot session.callId config payloadType := by
          unfold connectedBot announcedCodec VoiceBotClient.sendConfig
          split <;> rfl
        rw [hstream] at h
        cases h
        exact ⟨_, _, rfl, hconfig ▸ Core.bot hmode hstream⟩
      | false =>
        rw [hstream] at h
        cases h
        exact ⟨_, _, rfl, Core.noBot hmode hstream⟩
  · next hmode =>
    cases hdrop : session.dropTcp with
    | error cause => simp [bind, Except.bind, hdrop] at h
    | ok u =>
      cases hconnect : (session.newTcpClient config).connect env.tcpSocket env.tcpConnects
          env.epoch with
      | error e =>
        unfold newTcpClient at hconnect
        simp [bind, Except.bind, hdrop, hconnect, Except.mapError] at h
      | ok r =>
        have hconnect' := hconnect
        unfold newTcpClient at hconnect'
        simp only [bind, Except.bind, pure, Except.pure, hdrop, hconnect', Except.mapError] at h
        obtain ⟨client, ok⟩ := r
        cases h
        cases ok with
        | true => exact ⟨_, _, rfl, Core.peer client hmode hconnect⟩
        | false => exact ⟨_, _, rfl, Core.noPeer client hmode hconnect⟩
  · next hmode =>
    cases h
    exact ⟨_, _, rfl, Core.echo hmode⟩

theorem foldl_addStage (stages : List Stage) (pl : MediaPipeline) :
    (stages.foldl MediaPipeline.addStage pl).stages = pl.stages ++ stages := by
  induction stages generalizing pl with
  | nil => exact (List.append_nil _).symm
  | cons stage stages ih =>
    rw [List.foldl_cons, ih]
    simp [MediaPipeline.addStage]

/-- **What `startPipeline` leaves behind.** -/
theorem startPipeline_core {localRtpPort : Int} {remoteIp : Bytes} {remotePort : Int}
    (h : session.startPipeline env config localRtpPort remoteIp remotePort payloadType
      = .ok started) :
    ∃ bot tcp core, Core session env config payloadType bot tcp core ∧
      started = { session with
        localRtpPort := localRtpPort
        payloadType := payloadType
        remoteRtpAddr := remoteAddr session.remoteRtpAddr remoteIp remotePort
        botClient := bot
        tcpClient := tcp
        pipeline := some { stages :=
          core ++ recorderStages session.callId env config payloadType } } := by
  unfold startPipeline at h
  simp only [bind, Except.bind, pure, Except.pure] at h
  split at h
  · cases h
  · next r hr =>
    obtain ⟨bot, tcp, hsession, hcore⟩ := startCore_core hr
    cases h
    refine ⟨bot, tcp, r.2, ?_, ?_⟩
    · generalize r.2 = core at hcore
      cases hcore with
      | echo hmode => exact Core.echo hmode
      | bot hmode hstream => exact Core.bot hmode hstream
      | noBot hmode hstream => exact Core.noBot hmode hstream
      | peer client hmode hconnect => exact Core.peer client hmode hconnect
      | noPeer client hmode hconnect => exact Core.noPeer client hmode hconnect
    · have hpl : ∀ stages : List Stage, stages.foldl MediaPipeline.addStage {} =
          { stages := stages } := fun stages => congrArg MediaPipeline.mk (foldl_addStage stages {})
      rw [hsession]
      dsimp only
      rw [hpl]

/-- **What `startPipeline` writes into the session**, whatever stages it starts. -/
theorem startPipeline_fields {localRtpPort : Int} {remoteIp : Bytes} {remotePort : Int}
    (h : session.startPipeline env config localRtpPort remoteIp remotePort payloadType
      = .ok started) :
    started.localRtpPort = localRtpPort ∧
    started.remoteRtpAddr = remoteAddr session.remoteRtpAddr remoteIp remotePort ∧
    started.payloadType = payloadType := by
  obtain ⟨bot, tcp, core, -, rfl⟩ := startPipeline_core h
  exact ⟨rfl, rfl, rfl⟩

/-- The core stage knows the payload type, and the bot is told a codec for it. -/
theorem Core.consumers {bot : Option VoiceBotClient} {tcp : Option AudioSocketClient}
    {core : List Stage} (h : Core session env config payloadType bot tcp core) :
    (∀ st, Stage.audioSocket st ∈ core → st.payloadType = payloadType) ∧
    (∀ st, Stage.recorder st ∉ core) ∧
    (config.mode = .grpc → ∀ client callId rate codec, bot = some client →
      { callId := callId, payload := .config rate codec } ∈ client.written →
      codec = announcedCodec payloadType) := by
  cases h with
  | echo hmode => exact ⟨by simp, by simp, by simp [hmode]⟩
  | bot hmode hstream =>
    refine ⟨by simp, by simp, fun _ client callId rate codec hclient hev => ?_⟩
    cases hclient
    unfold connectedBot at hev
    simp only [List.mem_singleton, CallEvent.mk.injEq, CallPayload.config.injEq] at hev
    exact hev.2.2
  | noBot hmode hstream =>
    refine ⟨by simp, by simp, fun _ client callId rate codec hclient hev => ?_⟩
    cases hclient
    cases hev
  | peer client hmode hconnect => exact ⟨by simp, by simp, by simp [hmode]⟩
  | noPeer client hmode hconnect => exact ⟨by simp, by simp, by simp [hmode]⟩

/-- **What the consumers of a started pipeline go by** is the payload type it was started with. -/
theorem startPipeline_consumers {localRtpPort : Int} {remoteIp : Bytes} {remotePort : Int}
    (h : session.startPipeline env config localRtpPort remoteIp remotePort payloadType
      = .ok started) :
    (∀ pl st, started.pipeline = some pl → Stage.audioSocket st ∈ pl.stages →
      st.payloadType = payloadType) ∧
    (∀ pl st, started.pipeline = some pl → Stage.recorder st ∈ pl.stages →
      st.payloadType = payloadType) ∧
    (config.mode = .grpc → ∀ client callId rate codec, started.botClient = some client →
      { callId := callId, payload := .config rate codec } ∈ client.written →
      codec = announcedCodec payloadType) := by
  obtain ⟨bot, tcp, core, hcore, rfl⟩ := startPipeline_core h
  obtain ⟨haudio, hrec, hbot⟩ := hcore.consumers
  refine ⟨fun pl st hpl hst => ?_, fun pl st hpl hst => ?_, hbot⟩
  · cases hpl
    rcases List.mem_append.mp hst with hst | hst
    · exact haudio st hst
    · unfold recorderStages at hst
      split at hst <;> simp at hst
  · cases hpl
    rcases List.mem_append.mp hst with hst | hst
    · exact absurd hst (hrec st)
    · unfold recorderStages at hst
      split at hst
      · rw [List.mem_singleton] at hst
        cases hst
        unfold RecorderStage.create
        split <;> rfl
      · cases hst

/-! ## A client that is dropped -/

/-- The client that a new pipeline replaces: its reader loop has ended by itself. -/
def ClientEnded (session : CallSession) (mode : GatewayMode) : Prop :=
  (mode = .grpc ∧ ∃ client, session.botClient = some client ∧ client.Ended) ∨
  (mode = .audiosocket ∧ ∃ client, session.tcpClient = some client ∧ client.Ended)

theorem dropBot_cases (session : CallSession) :
    (session.dropBot = .ok () ∧ ¬ ∃ client, session.botClient = some client ∧ client.Ended) ∨
    (session.dropBot = .error .joinable ∧
      ∃ client, session.botClient = some client ∧ client.Ended) := by
  unfold dropBot
  cases session.botClient with
  | none => simp
  | some client => by_cases hended : client.Ended <;> simp [client.destroy_eq, hended]

theorem dropTcp_cases (session : CallSession) :
    (session.dropTcp = .ok () ∧ ¬ ∃ client, session.tcpClient = some client ∧ client.Ended) ∨
    (session.dropTcp = .error .joinable ∧
      ∃ client, session.tcpClient = some client ∧ client.Ended) := by
  unfold dropTcp
  cases session.tcpClient with
  | none => simp
  | some client => by_cases hended : client.Ended <;> simp [client.destroy_eq, hended]

theorem startCore_joinable_iff : session.startCore env config payloadType = .error .joinable ↔
    session.ClientEnded config.mode := by
  unfold startCore ClientEnded
  split
  · next hmode =>
    rw [hmode]
    rcases session.dropBot_cases with ⟨hdrop, hno⟩ | ⟨hdrop, hended⟩
    · simp only [bind, Except.bind, pure, Except.pure, hdrop, hno, and_false, reduceCtorEq,
        false_and, or_self, iff_false]
      split <;> simp
    · simp [bind, Except.bind, hdrop, hended]
  · next hmode =>
    rw [hmode]
    rcases session.dropTcp_cases with ⟨hdrop, hno⟩ | ⟨hdrop, hended⟩
    · simp only [bind, Except.bind, pure, Except.pure, hdrop, hno, and_false, reduceCtorEq,
        false_and, or_self, iff_false]
      -- `connect` may throw
      split
      · next cause hconnect =>
        unfold Except.mapError at hconnect
        split at hconnect
        · cases hconnect
          simp
        · cases hconnect
      · simp
    · simp [bind, Except.bind, hdrop, hended]
  · next hmode =>
    rw [hmode]
    simp

/-- **When a new pipeline ends the process**: it drops a client whose reader loop has ended. -/
theorem startPipeline_joinable_iff {localRtpPort : Int} {remoteIp : Bytes} {remotePort : Int} :
    session.startPipeline env config localRtpPort remoteIp remotePort payloadType
      = .error .joinable ↔ session.ClientEnded config.mode := by
  let opened : CallSession := { session with
    localRtpPort := localRtpPort
    payloadType := payloadType
    remoteRtpAddr := remoteAddr session.remoteRtpAddr remoteIp remotePort }
  have hopened : opened.ClientEnded config.mode ↔ session.ClientEnded config.mode := Iff.rfl
  rw [← hopened, ← @startCore_joinable_iff opened env config payloadType]
  unfold startPipeline
  dsimp only
  cases hcore : opened.startCore env config payloadType with
  | error cause => simp [bind, Except.bind]
  | ok r => simp [bind, Except.bind, pure, Except.pure]

end CallSession

end SipGateway
