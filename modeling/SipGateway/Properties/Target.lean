import SipGateway.Sdp.Sections
import SipGateway.Properties.Calls

/-!
# Where the audio of a call goes

The codec of an answer is negotiated for the first audio section of the offer. The destination is
put together from other places: the port of the last audio section, and the last address of the
body. `sent_to_negotiated_iff` says when they are those of the first section all the same.
-/

namespace SipGateway

open Infra

namespace SdpOffer

/-- The session has the destination of the section: it was started with it, and it stored it. -/
structure SentTo (offer : SdpOffer) (sec : SdpSection) (sdp : SdpSession) (session : CallSession) :
    Prop where
  address : offer.addressFor sec = some sdp.connectionIp
  port : Gateway.remotePort sdp = sec.media.port
  storedAddress : inetPton sdp.connectionIp = some session.remoteRtpAddr.addr
  storedPort : (session.remoteRtpAddr.port.toNat : Int) = sec.media.port

/-- The other lines of the body agree with the section, whose destination can be stored. -/
structure OneTarget (body : Bytes) (sec : SdpSection) : Prop where
  lastPort : ∀ last, (ofBody body).audioSections.getLast? = some last →
    last.media.port = sec.media.port
  lastAddress : lastAddress (linesOf body) = (ofBody body).addressFor sec
  dottedQuad : ∃ ip, (ofBody body).addressFor sec = some ip ∧ inetPton ip ≠ none
  portRange : 0 ≤ sec.media.port ∧ sec.media.port < 65536

end SdpOffer

/-! ## The loop over the media -/

theorem Gateway.foldl_remotePort (media : List SdpMedia) (port : Int) :
    media.foldl (fun port m => if m.type = bytes "audio" then m.port else port) port =
      ((media.filter fun m => m.type = bytes "audio").getLast?.map SdpMedia.port).getD port := by
  induction media generalizing port with
  | nil => rfl
  | cons m media ih =>
    rw [List.foldl_cons, ih]
    by_cases hm : m.type = bytes "audio"
    · rw [if_pos hm, List.filter_cons_of_pos (by simpa using hm), List.getLast?_cons]
      cases (media.filter fun m => m.type = bytes "audio").getLast? <;> rfl
    · rw [if_neg hm, List.filter_cons_of_neg (by simpa using hm)]

/-- The port is that of the last audio section. -/
theorem Gateway.remotePort_sections {body : Bytes} {sdp : SdpSession}
    (h : SdpParser.parse body = .ok (some sdp)) :
    remotePort sdp = ((SdpOffer.ofBody body).audioSections.getLast?.map
      fun sec => sec.media.port).getD 0 := by
  unfold remotePort SdpOffer.audioSections
  rw [foldl_remotePort, (SdpParser.parse_sections h).2, List.filter_map, List.getLast?_map,
    Option.map_map]
  rfl

/-! ## What is stored -/

/-- `htons` keeps a port that has 16 bits. -/
theorem toNat_ofInt_eq_iff (port : Int) :
    ((UInt16.ofInt port).toNat : Int) = port ↔ 0 ≤ port ∧ port < 65536 := by
  have hmod : ((UInt16.ofInt port).toNat : Int) = port % 65536 := by
    unfold UInt16.ofInt
    rw [UInt16.toNat_ofNat']
    omega
  rw [hmod]
  omega

/-- A session that was started with the destination the dispatcher puts together. -/
theorem SdpOffer.sentTo_iff {body : Bytes} {sdp : SdpSession} {sec : SdpSection}
    {session : CallSession} {old : SockAddr} (hsdp : SdpParser.parse body = .ok (some sdp))
    (hsec : (ofBody body).audioSections.head? = some sec)
    (haddr : session.remoteRtpAddr =
      CallSession.remoteAddr old sdp.connectionIp (Gateway.remotePort sdp)) :
    (ofBody body).SentTo sec sdp session ↔ OneTarget body sec := by
  have hip := (SdpParser.parse_sections hsdp).1
  obtain ⟨last, hlast⟩ : ∃ last, (ofBody body).audioSections.getLast? = some last := by
    refine Option.ne_none_iff_exists'.mp fun hnone => ?_
    rw [List.getLast?_eq_none_iff.mp hnone] at hsec
    cases hsec
  have hport : Gateway.remotePort sdp = last.media.port := by
    rw [Gateway.remotePort_sections hsdp, hlast]
    rfl
  have hstored := toNat_ofInt_eq_iff (Gateway.remotePort sdp)
  constructor
  · rintro ⟨haddress, hsame, hquad, hbits⟩
    have hsome : inetPton sdp.connectionIp ≠ none := by rw [hquad]; simp
    refine ⟨fun last' hlast' => ?_, ?_, ⟨_, haddress, hsome⟩, ?_⟩
    · rw [hlast] at hlast'
      cases hlast'
      rw [← hport, hsame]
    · rw [haddress, hip]
      cases hl : lastAddress (linesOf body) with
      | some ip => rfl
      | none =>
        -- the empty text is no address
        rw [hip, hl] at hsome
        exact absurd (by decide) hsome
    · rw [haddr, ← hsame] at hbits
      rw [← hsame]
      exact hstored.mp hbits
  · rintro ⟨hlastPort, hlastAddress, ⟨ip, hfor, hquad⟩, hrange⟩
    have hsame : Gateway.remotePort sdp = sec.media.port := hport.trans (hlastPort last hlast)
    have hconn : sdp.connectionIp = ip := by
      rw [hip, hlastAddress, hfor]
      rfl
    obtain ⟨addr, hquad⟩ := Option.ne_none_iff_exists'.mp hquad
    refine ⟨by rw [hconn, hfor], hsame, ?_, ?_⟩
    · rw [haddr, hconn]
      simp [CallSession.remoteAddr, hquad]
    · rw [haddr, ← hsame]
      exact hstored.mpr (hsame ▸ hrange)

/-! ## Every accepted offer -/

namespace World

open Gateway

/-- What an accepted INVITE came to: `sec` is the section its codec was negotiated for. -/
structure AcceptedOffer (gw : Gateway) (env : Env) (msg : SipMessage) (r : Gateway × List Sent)
    (sdp : SdpSession) (sec : SdpSection) (codec : NegotiatedCodec) (session : CallSession) :
    Prop where
  parsed : SdpParser.parse msg.body = .ok (some sdp)
  chosen : SdpAnswer.Chosen sdp sec.media gw.config.codecPreference codec.payloadType codec.name
  answered : ∃ out ∈ r.2, out.1.statusCode = 200 ∧
    out.1.body = SdpAnswer.answerText gw.config.bindIp session.localRtpPort codec
  started : ∃ old : CallSession, old.startPipeline env gw.config session.localRtpPort
    sdp.connectionIp (remotePort sdp) codec.payloadType = .ok session
  registered : r.1.registry.getCall msg.getCallId = some session

/-- An INVITE that is answered 200 was executed and accepted. -/
theorem accepted_of_ok {config : Config} {hardwareConcurrency : Nat} {w : World}
    (hw : (machine config hardwareConcurrency).Reachable w) {env : Env} {msg : Received}
    {sender : SockAddr} {r : Gateway × List Sent} (hreq : msg.val.isRequest = true)
    (hinv : msg.val.method = .invite)
    (hr : w.gateway.handleSipMessage env msg.val sender = .ok r)
    (hok : ∃ out ∈ r.2, out.1.statusCode = 200) :
    ∃ sdp sec codec session, (SdpOffer.ofBody msg.val.body).audioSections.head? = some sec ∧
      AcceptedOffer w.gateway env msg.val r sdp sec codec session := by
  have h := callInv hw
  obtain ⟨out, hout, hcode⟩ := hok
  cases handleSipMessage_handled hr with
  | ignored => cases hout
  | resent _ _ sent hsent =>
    obtain ⟨res, hres, rfl⟩ := List.mem_map.mp hout
    exact absurd hcode (h.transactions.resent_ne_200 hreq hinv hsent res hres)
  | acked _ _ hack => rw [hinv] at hack; cases hack
  | response _ hres => rw [hreq] at hres; cases hres
  | executed hid _ _ hnew rep hrep =>
    rw [execute, if_pos hinv] at hrep
    obtain ⟨-, res, hsent, heff⟩ := h.ports.invite hrep
    have hmem : res ∈ rep.sent ∧ ∀ x ∈ rep.sent, x = res ∨ x.statusCode = 100 := by
      have htrying : (trying env msg.val).statusCode = 100 := createResponse_statusCode _ _ _ _
      rcases hsent with hsent | hsent <;> simp [hsent, htrying]
    have h200 : res.statusCode = 200 := by
      obtain ⟨x, hx, rfl⟩ := List.mem_map.mp hout
      rcases hmem.2 x hx with rfl | hx
      · exact hcode
      · rw [hx] at hcode
        cases hcode
    dsimp only
    generalize rep.gateway = gw₁ at heff
    cases heff with
    | busy => simp [busyHere] at h200
    | refusedNew _ _ h300 => omega
    | refusedOld _ _ h300 => omega
    | accepted _ p old session sdp hfinds hsdp hoffer hstart hport hcalls _ =>
      have hne := (SdpAnswer.generate_ne_nil_iff sdp w.gateway.config.bindIp p
        w.gateway.config.codecPreference).mpr hoffer
      obtain ⟨audio, pt, name, haudio, hchosen, -, hgen⟩ := SdpAnswer.generate_chosen hne
      rw [SdpAnswer.firstAudio_sections hsdp, Option.map_eq_some_iff] at haudio
      obtain ⟨sec, hsec, rfl⟩ := haudio
      rw [hgen] at hstart hmem
      refine ⟨sdp, sec, { payloadType := pt, name := name, rate := 8000 }, session, hsec,
        hsdp, hchosen, ⟨_, List.mem_map_of_mem hmem.1, h200, ?_⟩, ⟨old, ?_⟩, ?_⟩
      · rw [hport]
        rfl
      · rw [hport]
        exact hstart
      · rw [hcalls, if_pos rfl]

/--
**When the audio goes where it was negotiated**: whenever an INVITE is answered 200, its session
has the destination of the section the codec was negotiated for exactly if the last audio section
has the same port, of 16 bits, and the last address of the body is the one in effect for the
section.
-/
theorem sent_to_negotiated_iff {config : Config} {hardwareConcurrency : Nat} {w : World}
    (hw : (machine config hardwareConcurrency).Reachable w) {env : Env} {msg : Received}
    {sender : SockAddr} {r : Gateway × List Sent} (hreq : msg.val.isRequest = true)
    (hinv : msg.val.method = .invite)
    (hr : w.gateway.handleSipMessage env msg.val sender = .ok r)
    (hok : ∃ out ∈ r.2, out.1.statusCode = 200) :
    ∃ sdp sec codec session, (SdpOffer.ofBody msg.val.body).audioSections.head? = some sec ∧
      AcceptedOffer w.gateway env msg.val r sdp sec codec session ∧
      ((SdpOffer.ofBody msg.val.body).SentTo sec sdp session ↔
        SdpOffer.OneTarget msg.val.body sec) := by
  obtain ⟨sdp, sec, codec, session, hsec, hacc⟩ := accepted_of_ok hw hreq hinv hr hok
  obtain ⟨old, hstart⟩ := hacc.started
  exact ⟨sdp, sec, codec, session, hsec, hacc,
    SdpOffer.sentTo_iff hacc.parsed hsec (CallSession.startPipeline_fields hstart).2.1⟩

/-- An INVITE that is answered 200 at a new gateway. -/
theorem exists_ok (msg : Received) (h : ((start exampleConfig 1).gateway.handleSipMessage
      { start := 0 } msg.val {}).toOption.any
        (fun r => decide (∃ out ∈ r.2, out.1.statusCode = 200)) = true) :
    ∃ r, (start exampleConfig 1).gateway.handleSipMessage { start := 0 } msg.val {} = .ok r ∧
      ∃ out ∈ r.2, out.1.statusCode = 200 := by
  obtain ⟨r, hr, hok⟩ := exists_handled h
  exact ⟨r, hr, of_decide_eq_true hok⟩

/-- With one audio section and one address. -/
theorem sent_to_negotiated_iff_single :
    ∃ (r : Gateway × List Sent) (sdp : SdpSession) (sec : SdpSection) (codec : NegotiatedCodec)
      (session : CallSession),
      AcceptedOffer (start exampleConfig 1).gateway { start := 0 }
        (exampleInvite (bytes "b")).val r sdp sec codec session ∧
      ((SdpOffer.ofBody (exampleInvite (bytes "b")).val.body).SentTo sec sdp session ↔
        SdpOffer.OneTarget (exampleInvite (bytes "b")).val.body sec) := by
  obtain ⟨r, hr, hok⟩ := exists_ok (exampleInvite (bytes "b")) (by decide +kernel)
  obtain ⟨sdp, sec, codec, session, -, hacc, hiff⟩ := sent_to_negotiated_iff
    (Machine.Reachable.init rfl) (by decide +kernel) (by decide +kernel) hr hok
  exact ⟨r, sdp, sec, codec, session, hacc, hiff⟩

/-- A second audio section on another port. -/
def twoAudioOffer : Bytes :=
  bytes "c=IN IP4 10.0.0.1\r\nm=audio 4000 RTP/AVP 0\r\nm=audio 5000 RTP/AVP 0\r\n"

/-- A video section with an address of its own. -/
def videoOffer : Bytes :=
  bytes "c=IN IP4 10.0.0.1\r\nm=audio 4000 RTP/AVP 0\r\n" ++
    bytes "m=video 5000 RTP/AVP 31\r\nc=IN IP4 10.0.0.2\r\n"

/-- The offer is accepted, and the audio goes somewhere else than to the negotiated section. -/
def SentElsewhere (body : Bytes) : Prop :=
  ∃ (r : Gateway × List Sent) (sdp : SdpSession) (sec : SdpSection) (codec : NegotiatedCodec)
    (session : CallSession),
    (start exampleConfig 1).gateway.handleSipMessage { start := 0 }
      (exampleRequest (bytes "INVITE") (bytes "b") (bytes "call") body).val {} = .ok r ∧
    (SdpOffer.ofBody body).audioSections.head? = some sec ∧
    AcceptedOffer (start exampleConfig 1).gateway { start := 0 }
      (exampleRequest (bytes "INVITE") (bytes "b") (bytes "call") body).val r sdp sec codec
      session ∧
    ¬ (SdpOffer.ofBody body).SentTo sec sdp session

theorem sentElsewhere {body : Bytes} (hok : ((start exampleConfig 1).gateway.handleSipMessage
      { start := 0 } (exampleRequest (bytes "INVITE") (bytes "b") (bytes "call") body).val {}
      ).toOption.any (fun r => decide (∃ out ∈ r.2, out.1.statusCode = 200)) = true)
    (hnot : ∀ sec, (SdpOffer.ofBody body).audioSections.head? = some sec →
      ¬ SdpOffer.OneTarget body sec) : SentElsewhere body := by
  obtain ⟨r, hr, hok⟩ := exists_ok _ hok
  have hstart : (machine exampleConfig 1).Reachable (start exampleConfig 1) :=
    Machine.Reachable.init rfl
  obtain ⟨sdp, sec, codec, session, hsec, hacc⟩ := accepted_of_ok hstart rfl
    (show SipParser.parseMethod (bytes "INVITE") = .invite by decide) hr hok
  obtain ⟨old, hpipeline⟩ := hacc.started
  refine ⟨r, sdp, sec, codec, session, hr, hsec, hacc, fun hsent => ?_⟩
  exact hnot sec hsec ((SdpOffer.sentTo_iff hacc.parsed hsec
    (CallSession.startPipeline_fields hpipeline).2.1).mp hsent)

/-- The port of one section with the codec of another, and the address of a third. -/
theorem audio_sent_elsewhere : SentElsewhere twoAudioOffer ∧ SentElsewhere videoOffer := by
  constructor
  · refine sentElsewhere (by decide +kernel) ?_
    intro sec hsec htarget
    have hfirst : (SdpOffer.ofBody twoAudioOffer).audioSections.head?.map (·.media.port)
        = some 4000 := by decide +kernel
    obtain ⟨last, hlast, hport⟩ := Option.map_eq_some_iff.mp (show
      (SdpOffer.ofBody twoAudioOffer).audioSections.getLast?.map (·.media.port) = some 5000 by
        decide +kernel)
    rw [hsec, Option.map_some, ← htarget.lastPort last hlast, hport] at hfirst
    exact absurd hfirst (by decide)
  · refine sentElsewhere (by decide +kernel) ?_
    intro sec hsec htarget
    have hfor : (SdpOffer.ofBody videoOffer).audioSections.head?.map
        (SdpOffer.ofBody videoOffer).addressFor = some (some (bytes "10.0.0.1")) := by
      decide +kernel
    have hlast : SdpOffer.lastAddress (SdpOffer.linesOf videoOffer)
        = some (bytes "10.0.0.2") := by decide +kernel
    rw [hsec, Option.map_some, Option.some.injEq, ← htarget.lastAddress, hlast] at hfor
    exact absurd hfor (by decide)

end World

end SipGateway
