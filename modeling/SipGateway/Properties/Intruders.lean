import SipGateway.Call.Frames

/-!
# Datagrams that are no RTP packets

Whatever arrives on the port of a call is handed to `onRtpPacket`; nothing asks for its version,
and a packet that is too short reads as payload type 0 and sequence number 0.

`undisturbed_iff` says which packets leave a session alone: the remote address has to be
locked, and the packet must not be accepted, be a duplicate, or pass a pipeline that rests.
-/

namespace SipGateway

open Infra

/-! ## The jitter buffer -/

namespace JitterBuffer

variable {pkt : RtpPacket} {jb : JitterBuffer}

/-- The packet is given out at once, and the buffer is what it was before. -/
def PlaysAtOnce (pkt : RtpPacket) (buffer : List RtpPacket) : Prop :=
  4 ≤ buffer.length ∧ ∃ front, buffer.head? = some front ∧ Earlier pkt front

theorem PlaysAtOnce.insertOrdered {buffer : List RtpPacket} (h : PlaysAtOnce pkt buffer) :
    insertOrdered pkt buffer = pkt :: buffer := by
  obtain ⟨-, front, hfront, hearlier⟩ := h
  cases buffer with
  | nil => cases hfront
  | cons cur rest =>
    cases hfront
    exact insertOrdered_earlier rest hearlier

theorem PlaysAtOnce.pop (h : PlaysAtOnce pkt jb.buffer) : (jb.push pkt).pop = (some pkt, jb) := by
  unfold push
  rw [h.insertOrdered]
  exact pop_of_long (Nat.succ_le_succ h.1)

theorem pop_of_duplicate (h : Duplicate pkt jb.buffer) (hlen : jb.buffer.length < 5) :
    (jb.push pkt).pop = (none, jb) := by
  have hpush : jb.push pkt = jb := by
    unfold push
    rw [insertOrdered_of_duplicate h]
  rw [hpush, pop_of_short hlen]

/-- A packet the buffer grows by at the front was put there. -/
theorem playsAtOnce_of_front {front : RtpPacket} {rest : List RtpPacket}
    (hdup : ¬ Duplicate pkt rest) (hpush : JitterBuffer.insertOrdered pkt rest = front :: rest)
    (hperm : (front :: rest).Perm (pkt :: rest)) (hlen : 4 ≤ rest.length) :
    PlaysAtOnce pkt rest := by
  have hfront : front = pkt :=
    List.singleton_perm_singleton.mp ((List.perm_append_right_iff rest).mp hperm)
  cases rest with
  | nil => cases hlen
  | cons cur tail =>
    refine ⟨hlen, cur, rfl, ?_⟩
    by_contra hlater
    have hseq : pkt.getSequenceNumber ≠ cur.getSequenceNumber := fun he => hdup (Or.inl he)
    rw [insertOrdered_later tail hseq hlater, hfront] at hpush
    exact hseq (congrArg RtpPacket.getSequenceNumber (List.cons.inj hpush).1.symm)

/-- The packets that leave the buffer as it was. -/
theorem push_pop_eq_self_iff : (jb.push pkt).pop.2 = jb ↔
    (Duplicate pkt jb.buffer ∧ jb.buffer.length < 5) ∨ PlaysAtOnce pkt jb.buffer := by
  constructor
  · intro hsame
    by_cases hdup : Duplicate pkt jb.buffer
    · refine Or.inl ⟨hdup, ?_⟩
      -- a buffer of five gives one out
      by_contra hlong
      have hpush : jb.push pkt = jb := by
        unfold push
        rw [insertOrdered_of_duplicate hdup]
      rw [hpush] at hsame
      obtain ⟨buffer⟩ := jb
      cases buffer with
      | nil => exact hlong (Nat.succ_pos _)
      | cons front rest =>
        rw [pop_of_long (Nat.not_lt.mp hlong)] at hsame
        have := congrArg (fun jb => jb.buffer.length) hsame
        simp at this
    · have hlen := length_insertOrdered hdup
      have hperm := insertOrdered_perm hdup
      right
      cases hpush : insertOrdered pkt jb.buffer with
      | nil => rw [hpush] at hlen; cases hlen
      | cons front rest =>
        rw [hpush] at hlen hperm
        have hpop : jb.push pkt = { buffer := front :: rest } := by
          unfold push
          rw [hpush]
        rw [hpop] at hsame
        by_cases hshort : (front :: rest).length < 5
        · rw [pop_of_short hshort] at hsame
          rw [← hsame] at hlen
          simp at hlen
        · rw [pop_of_long (Nat.not_lt.mp hshort)] at hsame
          rw [← hsame] at hpush hdup hperm ⊢
          exact playsAtOnce_of_front hdup hpush hperm (by simpa using hshort)
  · rintro (⟨hdup, hlen⟩ | hatonce)
    · rw [pop_of_duplicate hdup hlen]
    · rw [hatonce.pop]

end JitterBuffer

/-! ## The stages -/

theorem EchoStage.frame_eq_self_iff (st : EchoStage) (payload current : Bytes) :
    ((st.processUplink payload).processDownlink current).1 = st ↔
      st.hasData = false ∧ (payload = [] ∨ st.buffer = payload) := by
  obtain ⟨buffer, hasData⟩ := st
  cases payload with
  | nil => cases hasData <;> simp [processUplink, processDownlink]
  | cons b bs =>
    show EchoStage.mk (b :: bs) false = EchoStage.mk buffer hasData ↔ _
    rw [EchoStage.mk.injEq]
    constructor
    · rintro ⟨rfl, rfl⟩
      exact ⟨rfl, Or.inr rfl⟩
    · rintro ⟨rfl, hnil | hbuffer⟩
      · cases hnil
      · exact ⟨hbuffer.symm, rfl⟩

/-- A buffer gives out frames of 160 bytes as long as it can. -/
theorem drop_frame_eq_self_iff (buffer : Bytes) :
    buffer.drop 160 = buffer ∧ 160 ≤ buffer.length ↔ False := by
  refine iff_false_intro ?_
  rintro ⟨hdrop, hlen⟩
  have := congrArg List.length hdrop
  rw [List.length_drop] at this
  omega

theorem GrpcBridgeStage.downlink_eq_self_iff (st : GrpcBridgeStage) (current : Bytes) :
    (st.processDownlink current).1 = st ↔ st.downlinkBuffer.length < 160 := by
  unfold processDownlink
  split
  · next hlong =>
    refine iff_of_false (fun he => ?_) (Nat.not_lt.mpr hlong)
    exact (drop_frame_eq_self_iff _).mp ⟨congrArg downlinkBuffer he, hlong⟩
  · next hshort => exact iff_of_true rfl (Nat.not_le.mp hshort)

theorem AudioSocketStage.downlink_eq_self_iff (st : AudioSocketStage) (current : Bytes) :
    (st.processDownlink current).1 = st ↔ st.downlinkBuffer.length < 160 := by
  unfold processDownlink
  split
  · next hlong =>
    refine iff_of_false (fun he => ?_) (Nat.not_lt.mpr hlong)
    exact (drop_frame_eq_self_iff _).mp ⟨congrArg downlinkBuffer he, hlong⟩
  · next hshort => exact iff_of_true rfl (Nat.not_le.mp hshort)

namespace Stage

variable {payload current : Bytes}

/-- The stage holds after the frame what it held before. -/
def Still (payload : Bytes) : Stage → Prop
  | .echo st => st.hasData = false ∧ (payload = [] ∨ st.buffer = payload)
  | .grpcBridge st => st.downlinkBuffer.length < 160 ∧ payload = []
  | .audioSocket st => st.downlinkBuffer.length < 160
  | .recorder _ => payload = []

theorem takeFrame_eq_self_iff (hcurrent : payload = [] → current = []) (stage : Stage) :
    (stage.takeFrame payload current).1 = stage ↔ stage.Still payload := by
  cases stage with
  | echo st => exact (Stage.echo.injEq _ _).to_iff.trans (st.frame_eq_self_iff payload current)
  | grpcBridge st =>
    refine (Stage.grpcBridge.injEq _ _).to_iff.trans ?_
    cases payload with
    | nil =>
      exact (st.downlink_eq_self_iff current).trans (and_iff_left rfl).symm
    | cons b bs =>
      refine iff_of_false (fun he => ?_) (fun h => List.cons_ne_nil b bs h.2)
      have hseq : st.seq + 1 = st.seq := by
        have := congrArg GrpcBridgeStage.seq he
        unfold GrpcBridgeStage.processDownlink at this
        split at this <;> exact this
      simp at hseq
  | audioSocket st =>
    exact (Stage.audioSocket.injEq _ _).to_iff.trans (st.downlink_eq_self_iff current)
  | recorder st =>
    refine (Stage.recorder.injEq _ _).to_iff.trans ?_
    cases payload with
    | nil =>
      rw [hcurrent rfl]
      exact iff_of_true rfl rfl
    | cons b bs =>
      refine iff_of_false (fun he => ?_) (List.cons_ne_nil b bs)
      have hlen := congrArg (fun st => st.queue.length) he
      unfold RecorderStage.processDownlink RecorderStage.processUplink
        RecorderStage.enqueue at hlen
      cases current <;> simp at hlen

/-- What a still stage passes on. -/
theorem Still.takeFrame_snd {stage : Stage} (h : stage.Still payload) :
    (stage.takeFrame payload current).2 =
      if stage.isEcho ∧ current = [] then payload else current := by
  cases stage with
  | echo st =>
    obtain ⟨buffer, hasData⟩ := st
    obtain ⟨hdata, -⟩ := h
    have hdata : hasData = false := hdata
    subst hdata
    cases payload <;> cases current <;> rfl
  | grpcBridge st =>
    obtain ⟨hlen, hnil⟩ := h
    subst hnil
    show (st.processDownlink current).2 = _
    unfold GrpcBridgeStage.processDownlink
    rw [if_neg (Nat.not_le.mpr hlen), if_neg (fun he => Bool.false_ne_true he.1)]
  | audioSocket st =>
    show (st.processDownlink current).2 = _
    unfold AudioSocketStage.processDownlink
    rw [if_neg (Nat.not_le.mpr h), if_neg (fun he => Bool.false_ne_true he.1)]
  | recorder st => rw [if_neg (fun he => Bool.false_ne_true he.1)]; rfl

end Stage

/-! ## The pipeline -/

namespace MediaPipeline

variable {payload current : Bytes}

theorem frameLoop_eq_self_iff (hcurrent : payload = [] → current = []) (stages : List Stage) :
    (frameLoop payload stages current).1 = stages ↔ ∀ stage ∈ stages, stage.Still payload := by
  induction stages generalizing current with
  | nil => exact iff_of_true rfl nofun
  | cons stage stages ih =>
    rw [frameLoop_cons, List.cons.injEq, List.forall_mem_cons,
      Stage.takeFrame_eq_self_iff hcurrent]
    refine and_congr_right fun hstill => ih ?_
    intro hnil
    rw [hstill.takeFrame_snd, hnil, hcurrent hnil, ite_self]

/-- Still stages send audio if and only if one of them is an echo of it. -/
theorem frameLoop_silent_iff {stages : List Stage} (h : ∀ stage ∈ stages, stage.Still payload) :
    (frameLoop payload stages current).2 = [] ↔
      current = [] ∧ (payload = [] ∨ ∀ stage ∈ stages, stage.isEcho = false) := by
  induction stages generalizing current with
  | nil => exact (and_iff_left (Or.inr nofun)).symm
  | cons stage stages ih =>
    obtain ⟨hstill, hrest⟩ := List.forall_mem_cons.mp h
    rw [frameLoop_cons, ih hrest, hstill.takeFrame_snd, List.forall_mem_cons]
    cases hecho : stage.isEcho <;> by_cases hcurrent : current = [] <;>
      by_cases hpayload : payload = [] <;> simp [hcurrent, hpayload]

end MediaPipeline

/-! ## The session -/

namespace AudioSocketClient

/-- The peer is connected. -/
def Connected (client : AudioSocketClient) : Prop := 0 ≤ client.sockfd

theorem sendAudio_of_not_connected {client : AudioSocketClient} (h : ¬ client.Connected)
    (data : Bytes) : client.sendAudio data = client :=
  if_pos (Or.inl (not_le.mp h))

theorem sendAudio_of_connected {client : AudioSocketClient} (h : client.Connected) {data : Bytes}
    (hdata : data ≠ []) :
    (client.sendAudio data).Connected ∧
      client.written.length < (client.sendAudio data).written.length := by
  unfold sendAudio
  rw [if_neg (not_or.mpr ⟨not_lt.mpr h, hdata⟩)]
  refine ⟨h, ?_⟩
  simp only [sendAll, List.length_append, List.length_cons]
  omega

end AudioSocketClient

namespace Stage

/--
The stage neither keeps nor passes on anything of a frame. An echo stage that holds the same frame
already rests if there is no port to send from, an AudioSocket stage if no peer is connected.
-/
def Rests (session : CallSession) (payload : Bytes) : Stage → Prop
  | .echo st => st.hasData = false ∧
      (payload = [] ∨ (st.buffer = payload ∧ session.localRtpPort ≤ 0))
  | .grpcBridge st => st.downlinkBuffer.length < 160 ∧ payload = []
  | .audioSocket st => st.downlinkBuffer.length < 160 ∧
      (payload = [] ∨ ∀ client, session.tcpClient = some client → ¬ client.Connected)
  | .recorder _ => payload = []

theorem rests_iff (session : CallSession) (payload : Bytes) (stage : Stage) :
    stage.Rests session payload ↔ stage.Still payload ∧
      (stage.isEcho → payload = [] ∨ session.localRtpPort ≤ 0) ∧
      ((stage.processUplink payload).2 ≠ [] →
        ∀ client, session.tcpClient = some client → ¬ client.Connected) := by
  cases payload with
  | nil => cases stage <;> simp [Rests, Still, processUplink, GrpcBridgeStage.processUplink,
      AudioSocketStage.processUplink]
  | cons b bs =>
    cases stage <;> simp [Rests, Still, isEcho, processUplink, AudioSocketStage.processUplink,
      and_assoc]

/-- A still stage asks for calls on the AudioSocket peer only. -/
theorem Still.calls {payload : Bytes} {stage : Stage} (h : stage.Still payload) :
    ∀ call ∈ (stage.processUplink payload).2, ∃ data, call = .socketAudio data ∧ data ≠ [] := by
  intro call hcall
  cases stage with
  | echo st => cases hcall
  | grpcBridge st =>
    obtain ⟨-, hnil⟩ := h
    subst hnil
    cases hcall
  | audioSocket st =>
    cases payload with
    | nil => cases hcall
    | cons b bs =>
      refine ⟨_, List.mem_singleton.mp hcall, ?_⟩
      unfold AudioSocketStage.decode
      split <;> simp [G711Utils.decodeULaw, G711Utils.decodeALaw, pcmBytes]
  | recorder st => cases hcall

end Stage

namespace CallSession

variable {session : CallSession} {pkt frame : RtpPacket} {sender : SockAddr} {pl : MediaPipeline}

theorem callClients_of_not_connected {calls : List ClientCall}
    (hcalls : ∀ call ∈ calls, ∃ data, call = ClientCall.socketAudio data ∧ data ≠ [])
    (h : ∀ client, session.tcpClient = some client → ¬ client.Connected) :
    session.callClients calls = session := by
  unfold callClients
  induction calls with
  | nil => rfl
  | cons call calls ih =>
    obtain ⟨⟨data, rfl, -⟩, hrest⟩ := List.forall_mem_cons.mp hcalls
    have hsame : session.tcpClient.map (·.sendAudio data) = session.tcpClient := by
      cases htcp : session.tcpClient with
      | none => rfl
      | some client =>
        exact congrArg some (AudioSocketClient.sendAudio_of_not_connected (h client htcp) data)
    rw [List.foldl_cons]
    dsimp only
    rw [hsame]
    exact ih hrest

/-- Every call on a connected peer puts something on the wire. -/
theorem callClients_of_connected {calls : List ClientCall} {client : AudioSocketClient}
    (hcalls : ∀ call ∈ calls, ∃ data, call = ClientCall.socketAudio data ∧ data ≠ [])
    (htcp : session.tcpClient = some client) (h : client.Connected) :
    ∃ client', (session.callClients calls).tcpClient = some client' ∧
      client.written.length + calls.length ≤ client'.written.length := by
  unfold callClients
  induction calls generalizing session client with
  | nil => exact ⟨client, htcp, le_rfl⟩
  | cons call calls ih =>
    obtain ⟨⟨data, rfl, hdata⟩, hrest⟩ := List.forall_mem_cons.mp hcalls
    obtain ⟨hconnected, hgrown⟩ := AudioSocketClient.sendAudio_of_connected h hdata
    have hnext : CallSession.tcpClient
        { session with tcpClient := session.tcpClient.map (·.sendAudio data) } =
        some (client.sendAudio data) := by
      rw [htcp]
      rfl
    obtain ⟨client', htcp', hlen⟩ := ih hrest hnext hconnected
    refine ⟨client', htcp', ?_⟩
    rw [List.length_cons]
    omega

theorem callClients_eq_self_iff {calls : List ClientCall}
    (hcalls : ∀ call ∈ calls, ∃ data, call = ClientCall.socketAudio data ∧ data ≠ []) :
    session.callClients calls = session ↔
      (calls ≠ [] → ∀ client, session.tcpClient = some client → ¬ client.Connected) := by
  constructor
  · intro hsame hne client htcp hconnected
    obtain ⟨client', htcp', hlen⟩ := callClients_of_connected hcalls htcp hconnected
    rw [hsame, htcp] at htcp'
    cases htcp'
    have := List.length_pos_iff.mpr hne
    omega
  · intro h
    by_cases hnil : calls = []
    · rw [hnil]
      rfl
    · exact callClients_of_not_connected hcalls (h hnil)

theorem still_calls {payload : Bytes} {stages : List Stage}
    (h : ∀ stage ∈ stages, stage.Still payload) :
    ∀ call ∈ stages.flatMap (fun stage => (stage.processUplink payload).2),
      ∃ data, call = ClientCall.socketAudio data ∧ data ≠ [] := by
  intro call hcall
  obtain ⟨stage, hstage, hin⟩ := List.mem_flatMap.mp hcall
  exact (h stage hstage).calls call hin

/-- Every stage of the pipeline rests on the payload. -/
def Rests (session : CallSession) (payload : Bytes) : Prop :=
  ∀ pl, session.pipeline = some pl → ∀ stage ∈ pl.stages, stage.Rests session payload

/-- A frame that leaves the pipeline and the clients alone, and sends nothing. -/
theorem processFrame_eq_self (hpl : session.pipeline = some pl) :
    session.processFrame frame = (session, none) ↔
      (pl.takeFrame frame.getPayload).1 = pl ∧
      session.callClients (pl.processUplink frame.getPayload).2 = session ∧
      ((pl.takeFrame frame.getPayload).2 = [] ∨ session.localRtpPort ≤ 0) := by
  obtain ⟨bot, tcp, hcalls⟩ := session.callClients_eq (pl.processUplink frame.getPayload).2
  rw [hcalls]
  unfold processFrame
  rw [hpl]
  dsimp only
  rw [hcalls]
  dsimp only
  split
  · next hsend =>
    refine iff_of_false (fun he => Option.some_ne_none _ (Prod.mk.inj he).2) ?_
    rintro ⟨-, -, hout | hport⟩
    · exact hsend.1 hout
    · exact absurd hsend.2 (not_lt.mpr hport)
  · next hsend =>
    have hout : (pl.takeFrame frame.getPayload).2 = [] ∨ session.localRtpPort ≤ 0 := by
      by_contra hno
      rw [not_or, not_le] at hno
      exact hsend hno
    constructor
    · intro he
      have hsession := (Prod.mk.inj he).1
      have hpipeline := congrArg pipeline hsession
      have hbot := congrArg botClient hsession
      have htcp := congrArg tcpClient hsession
      dsimp only at hpipeline hbot htcp
      rw [hpl] at hpipeline
      subst hbot htcp
      refine ⟨Option.some.inj hpipeline, ?_, hout⟩
      rw [← hpl]
    · rintro ⟨hpipeline, hclients, -⟩
      have hbot := congrArg botClient hclients
      have htcp := congrArg tcpClient hclients
      dsimp only at hbot htcp
      subst hbot htcp
      show ({ session with pipeline := some (pl.takeFrame frame.getPayload).1 }, none) =
        (session, none)
      rw [hpipeline, ← hpl]

theorem processFrame_eq_self_iff :
    session.processFrame frame = (session, none) ↔ session.Rests frame.getPayload := by
  cases hpl : session.pipeline with
  | none =>
    refine iff_of_true ?_ (fun pl hsome => ?_)
    · unfold processFrame
      rw [hpl]
    · rw [hpl] at hsome
      cases hsome
  | some pl =>
    have hrests : session.Rests frame.getPayload ↔
        ∀ stage ∈ pl.stages, stage.Rests session frame.getPayload := by
      unfold Rests
      rw [hpl]
      exact ⟨fun h => h pl rfl, fun h pl' he => Option.some.inj he ▸ h⟩
    have hloop : pl.takeFrame frame.getPayload =
        ({ stages := (MediaPipeline.frameLoop frame.getPayload pl.stages []).1 },
          (MediaPipeline.frameLoop frame.getPayload pl.stages []).2) := rfl
    have hstages : (pl.takeFrame frame.getPayload).1 = pl ↔
        ∀ stage ∈ pl.stages, stage.Still frame.getPayload := by
      rw [hloop, MediaPipeline.mk.injEq]
      exact MediaPipeline.frameLoop_eq_self_iff (fun _ => rfl) pl.stages
    rw [hrests, processFrame_eq_self hpl, hstages, hloop]
    dsimp only
    constructor
    · rintro ⟨hstill, hclients, hout⟩ stage hstage
      rw [MediaPipeline.frameLoop_silent_iff hstill] at hout
      have hdead := (callClients_eq_self_iff (still_calls hstill)).mp hclients
      refine (Stage.rests_iff session _ stage).mpr ⟨hstill stage hstage, ?_, ?_⟩
      · intro hecho
        rcases hout with ⟨-, hpayload | hnone⟩ | hport
        · exact Or.inl hpayload
        · rw [hnone stage hstage] at hecho
          cases hecho
        · exact Or.inr hport
      · intro hne
        refine hdead fun hnil => hne ?_
        exact List.flatMap_eq_nil_iff.mp hnil stage hstage
    · intro hall
      have hstill : ∀ stage ∈ pl.stages, stage.Still frame.getPayload :=
        fun stage hstage => ((Stage.rests_iff session _ stage).mp (hall stage hstage)).1
      refine ⟨hstill, ?_, ?_⟩
      · refine (callClients_eq_self_iff (still_calls hstill)).mpr fun hne => ?_
        obtain ⟨call, hcall⟩ := List.exists_mem_of_ne_nil _ hne
        obtain ⟨stage, hstage, hin⟩ := List.mem_flatMap.mp hcall
        exact ((Stage.rests_iff session _ stage).mp (hall stage hstage)).2.2
          (List.ne_nil_of_mem hin)
      · rw [MediaPipeline.frameLoop_silent_iff hstill]
        by_cases hport : session.localRtpPort ≤ 0
        · exact Or.inr hport
        · refine Or.inl ⟨rfl, ?_⟩
          by_cases hpayload : frame.getPayload = []
          · exact Or.inl hpayload
          · refine Or.inr fun stage hstage => ?_
            have hecho := ((Stage.rests_iff session _ stage).mp (hall stage hstage)).2.1
            by_contra hyes
            rcases hecho (by simpa using hyes) with hnil | hno
            · exact hpayload hnil
            · exact hport hno

/-! ## The packet -/

theorem processFrame_rtpLocked (session : CallSession) (frame : RtpPacket) :
    (session.processFrame frame).1.rtpLocked = session.rtpLocked := by
  have h := session.processFrame_processed frame
  generalize session.processFrame frame = r at h
  cases h <;> rfl

theorem lockRemote_rtpLocked : (session.lockRemote sender).rtpLocked = true := by
  unfold lockRemote
  split
  · next h => exact h
  · rfl

theorem lockRemote_of_locked (h : session.rtpLocked = true) :
    session.lockRemote sender = session := if_pos h

theorem buffering_eq_self (hlocked : session.rtpLocked = true)
    (hpop : (session.jitterBuffer.push pkt).pop.2 = session.jitterBuffer) :
    session.buffering pkt sender = session := by
  unfold buffering
  rw [lockRemote_of_locked hlocked, hpop]

theorem onRtpPacket_rtpLocked (session : CallSession) (pkt : RtpPacket) (sender : SockAddr) :
    (session.onRtpPacket pkt sender).1.rtpLocked = true := by
  cases h : session.accepts pkt with
  | false =>
    rw [onRtpPacket_of_not_accepts h]
    exact lockRemote_rtpLocked
  | true =>
    rw [onRtpPacket_of_accepts h]
    split
    · exact lockRemote_rtpLocked
    · exact (processFrame_rtpLocked _ _).trans lockRemote_rtpLocked

/-- What has to hold of a session for a packet to leave it alone. -/
structure Ignores (session : CallSession) (pkt : RtpPacket) : Prop where
  locked : session.rtpLocked = true
  accepted : session.accepts pkt = true →
    (JitterBuffer.Duplicate pkt session.jitterBuffer.buffer ∧
      session.jitterBuffer.buffer.length < 5) ∨
    (JitterBuffer.PlaysAtOnce pkt session.jitterBuffer.buffer ∧ session.Rests pkt.getPayload)

theorem onRtpPacket_eq_self_iff (session : CallSession) (pkt : RtpPacket) (sender : SockAddr) :
    session.onRtpPacket pkt sender = (session, none) ↔ session.Ignores pkt := by
  constructor
  · intro hsame
    have hlocked : session.rtpLocked = true := by
      have := session.onRtpPacket_rtpLocked pkt sender
      rwa [hsame] at this
    refine ⟨hlocked, fun haccepts => ?_⟩
    have hjb := session.onRtpPacket_jitterBuffer pkt sender
    rw [hsame, if_pos haccepts] at hjb
    refine (JitterBuffer.push_pop_eq_self_iff.mp hjb.symm).imp id fun hatonce => ⟨hatonce, ?_⟩
    rw [onRtpPacket_of_accepts haccepts, hatonce.pop] at hsame
    dsimp only at hsame
    rw [buffering_eq_self hlocked (by rw [hatonce.pop])] at hsame
    exact processFrame_eq_self_iff.mp hsame
  · rintro ⟨hlocked, haccepted⟩
    cases haccepts : session.accepts pkt with
    | false => rw [onRtpPacket_of_not_accepts haccepts, lockRemote_of_locked hlocked]
    | true =>
      rw [onRtpPacket_of_accepts haccepts]
      rcases haccepted haccepts with ⟨hdup, hlen⟩ | ⟨hatonce, hrests⟩
      · have hpop := JitterBuffer.pop_of_duplicate hdup hlen
        rw [hpop]
        dsimp only
        rw [buffering_eq_self hlocked (by rw [hpop])]
      · rw [hatonce.pop]
        dsimp only
        rw [buffering_eq_self hlocked (by rw [hatonce.pop])]
        exact processFrame_eq_self_iff.mpr hrests

/-! ## What a datagram must not touch -/

/-- The packet has the fixed header of RTP, version 2. -/
def IsRtp (pkt : RtpPacket) : Prop := 12 ≤ pkt.size ∧ pkt.getVersion = 2

/-- Everything about the call is as it was, and nothing was sent to anyone. -/
structure Undisturbed (session : CallSession) (r : CallSession × Option Outgoing) : Prop where
  remoteRtpAddr : r.1.remoteRtpAddr = session.remoteRtpAddr
  rtpLocked : r.1.rtpLocked = session.rtpLocked
  jitterBuffer : r.1.jitterBuffer = session.jitterBuffer
  pipeline : r.1.pipeline = session.pipeline
  outgoingSeq : r.1.outgoingSeq = session.outgoingSeq
  outgoingTimestamp : r.1.outgoingTimestamp = session.outgoingTimestamp
  botClient : r.1.botClient = session.botClient
  tcpClient : r.1.tcpClient = session.tcpClient
  nothingSent : r.2 = none

theorem processFrame_rest (session : CallSession) (frame : RtpPacket) :
    (session.processFrame frame).1.callId = session.callId ∧
    (session.processFrame frame).1.fromUser = session.fromUser ∧
    (session.processFrame frame).1.toUser = session.toUser ∧
    (session.processFrame frame).1.ssrc = session.ssrc := by
  have h := session.processFrame_processed frame
  generalize session.processFrame frame = r at h
  cases h <;> exact ⟨rfl, rfl, rfl, rfl⟩

theorem lockRemote_rest (session : CallSession) (sender : SockAddr) :
    (session.lockRemote sender).callId = session.callId ∧
    (session.lockRemote sender).fromUser = session.fromUser ∧
    (session.lockRemote sender).toUser = session.toUser ∧
    (session.lockRemote sender).ssrc = session.ssrc := by
  unfold lockRemote
  split <;> exact ⟨rfl, rfl, rfl, rfl⟩

/-- The fields no packet touches. -/
theorem onRtpPacket_rest (session : CallSession) (pkt : RtpPacket) (sender : SockAddr) :
    (session.onRtpPacket pkt sender).1.callId = session.callId ∧
    (session.onRtpPacket pkt sender).1.fromUser = session.fromUser ∧
    (session.onRtpPacket pkt sender).1.toUser = session.toUser ∧
    (session.onRtpPacket pkt sender).1.ssrc = session.ssrc := by
  cases h : session.accepts pkt with
  | false =>
    rw [onRtpPacket_of_not_accepts h]
    exact lockRemote_rest session sender
  | true =>
    rw [onRtpPacket_of_accepts h]
    split
    · exact lockRemote_rest session sender
    · obtain ⟨h1, h2, h3, h4⟩ := (session.buffering pkt sender).processFrame_rest ‹_›
      obtain ⟨g1, g2, g3, g4⟩ := lockRemote_rest session sender
      exact ⟨h1.trans g1, h2.trans g2, h3.trans g3, h4.trans g4⟩

theorem undisturbed_iff_eq_self :
    Undisturbed session (session.onRtpPacket pkt sender) ↔
      session.onRtpPacket pkt sender = (session, none) := by
  constructor
  · intro h
    obtain ⟨hcallId, hfromUser, htoUser, hssrc⟩ := session.onRtpPacket_rest pkt sender
    have hport := session.onRtpPacket_localRtpPort pkt sender
    have htype := session.onRtpPacket_payloadType pkt sender
    obtain ⟨h1, h2, h3, h4, h5, h6, h7, h8, h9⟩ := h
    generalize session.onRtpPacket pkt sender = r at *
    obtain ⟨session', out⟩ := r
    cases session'
    cases session
    simp_all
  · intro h
    rw [h]
    exact ⟨rfl, rfl, rfl, rfl, rfl, rfl, rfl, rfl, rfl⟩

/--
**Which datagrams leave a call alone**, RTP packets or not. The remote address has to be locked
already. A packet of another payload type is dropped then, and so is a duplicate. One that goes
through the buffer at once must meet stages that rest.
-/
theorem undisturbed_iff (session : CallSession) (pkt : RtpPacket) (sender : SockAddr) :
    Undisturbed session (session.onRtpPacket pkt sender) ↔ session.Ignores pkt :=
  undisturbed_iff_eq_self.trans (onRtpPacket_eq_self_iff session pkt sender)

/-- One byte from anywhere takes over the media of a call that waits for its first packet. -/
theorem short_datagram_locks :
    ¬ IsRtp (RtpPacket.empty.parse 1) ∧
    ¬ Undisturbed (create [] 0)
      ((create [] 0).onRtpPacket (RtpPacket.empty.parse 1) { addr := 9, port := 9 }) := by
  constructor
  · rintro ⟨hsize, -⟩
    revert hsize
    decide
  · intro h
    exact absurd h.rtpLocked (by decide +kernel)

end CallSession

end SipGateway
