import SipGateway.Properties.EndToEnd
import SipGateway.Properties.Pool
import SipGateway.Properties.Readback
import SipGateway.Properties.Responses

/-!
# What the caller reads in a 200

`caller_told_right` takes an INVITE from the datagram it comes in to the text of the 200 that leaves
for it, and back: who parses the text finds the answer to his own request, and in its body the
address and the port where the gateway listens for the call, and the payload type its session plays.
-/

namespace SipGateway

open Infra

/-- The workers of an inverted range have no ports. -/
theorem RtpServer.range_of_inRange {startPort endPort p : Int} {n i : Nat} (hn : 0 < n)
    (h : (initWorker startPort endPort n i).inRange p = true) : startPort ≤ endPort := by
  obtain ⟨hwidth, hlow, -⟩ := inRange_initWorker hn h
  by_contra hinverted
  have hopposite : 0 ≤ (-(endPort - startPort + 1)).tdiv n :=
    Int.tdiv_nonneg (by omega) (Int.natCast_nonneg n)
  rw [Int.neg_tdiv] at hopposite
  have hzero : (endPort - startPort + 1).tdiv n = 0 := by omega
  rw [hzero, Int.mul_zero, Int.add_zero] at hlow
  have hshort : p ≤ (initWorker startPort endPort n i).endPort := by
    simp only [RtpWorker.inRange, Bool.and_eq_true, decide_eq_true_eq] at h
    exact h.2
  unfold initWorker at hshort
  dsimp only at hshort
  rw [hzero, Int.mul_zero] at hshort
  split at hshort <;> omega

namespace World

open Gateway

variable {config : Config} {hardwareConcurrency : Nat} {w : World}

/-- A port that the pool finds is in the configured range. -/
theorem mem_range_of_finds (hw : (machine config hardwareConcurrency).Reachable w)
    {net : Int → SocketAttempt} {p : Int} (h : w.gateway.rtpServer.finds net = some p) :
    0 < p ∧ p ≤ config.rtpPortEnd := by
  obtain ⟨hpos, -, worker, hworker, hfree⟩ := RtpServer.search_some h
  obtain ⟨i, hi, hstart, hend⟩ := Pool.exists_initWorker (ranges_eq hw) (List.mem_rotate.mp hworker)
  have hin : (RtpServer.initWorker config.rtpPortStart config.rtpPortEnd
      (RtpServer.resolveThreads 0 hardwareConcurrency) i).inRange p = true := by
    rw [RtpWorker.inRange, ← hstart, ← hend]
    exact (RtpWorker.mem_free hfree).1
  have hthreads := RtpServer.resolveThreads_pos 0 hardwareConcurrency
  have hle := RtpServer.range_of_inRange hthreads hin
  exact ⟨hpos, (RtpServer.le_endPort_of_inRange hthreads hle hi hin).2⟩

/-- What `back`, read by the caller who sent `req`, says of the session of his call. -/
structure TellsRight (config : Config) (gw : Gateway) (req back : SipMessage)
    (session : CallSession) : Prop where
  response : back.isRequest = false
  code : back.statusCode = 200
  via : (back.headers.equalRange (bytes "via")).map trim
    = (req.headers.equalRange (bytes "via")).map trim
  single : ∀ name ∈ [bytes "From", bytes "Call-ID", bytes "CSeq"],
    (back.getHeader name).map trim = (req.getHeader name).map trim
  /-- the address, the port and the payload type, under the name the offer gives it -/
  body : ∃ offer answer, SdpParser.parse req.body = .ok (some offer) ∧
    SdpParser.parse back.body = .ok (some answer) ∧
    answer.connectionIp = config.bindIp ∧
    answer.media =
      [{ type := bytes "audio", port := session.localRtpPort, proto := bytes "RTP/AVP",
         payloadTypes := [session.payloadType] }] ∧
    SdpAnswer.codecName answer session.payloadType = SdpAnswer.codecName offer session.payloadType ∧
    SdpAnswer.codecName answer session.payloadType ∈ config.codecPreference
  /-- the port is open, and what comes there is for the session -/
  isOpen : gw.rtpServer.IsOpen session.localRtpPort
  route : gw.registry.getCallByPort session.localRtpPort = some session

/-- A 200 for an INVITE is the answer to an offer that is accepted in this step. -/
theorem ok_answers (hw : (machine config hardwareConcurrency).Reachable w) {env : Env}
    {msg : Received} {sender : SockAddr} {r : Gateway × List Sent}
    (hreq : msg.val.isRequest = true) (hinv : msg.val.method = .invite)
    (hr : w.gateway.handleSipMessage env msg.val sender = .ok r) {out : Sent} (hout : out ∈ r.2)
    (hok : out.1.statusCode = 200) :
    r.1.PortInv ∧ ∃ p session sdp, w.gateway.rtpServer.finds env.net = some p ∧
      SdpParser.parse msg.val.body = .ok (some sdp) ∧
      SdpAnswer.Negotiable sdp config.codecPreference ∧
      r.1.registry.getCall msg.val.getCallId = some session ∧ session.localRtpPort = p ∧
      session.payloadType =
        (SdpAnswer.generate sdp config.bindIp p config.codecPreference).2.payloadType ∧
      out = (okResponse config env msg.val
        (SdpAnswer.generate sdp config.bindIp p config.codecPreference).1, sender) := by
  have h := callInv hw
  have hconfig := config_eq hw
  cases handleSipMessage_handled hr with
  | ignored => cases hout
  | resent _ _ sent hsent =>
    -- the transaction of an INVITE is over with its 200, which is not sent again
    obtain ⟨res, hres, rfl⟩ := List.mem_map.mp hout
    exact absurd hok (h.transactions.resent_ne_200 hreq hinv hsent res hres)
  | acked _ _ hack =>
    rw [hinv] at hack
    cases hack
  | response _ hres =>
    rw [hreq] at hres
    cases hres
  | executed hid _ _ hnew rep hrep =>
    rw [execute, if_pos hinv] at hrep
    obtain ⟨hports, res, hsent, heffect⟩ := h.ports.invite hrep
    obtain ⟨x, hx, rfl⟩ := List.mem_map.mp hout
    have htrying : (trying env msg.val).statusCode = 100 := createResponse_statusCode ..
    -- a 200 is no `trying`, so it is the final response
    have hres : x = res := by
      rcases hsent with hsent | hsent
      · rw [hsent, List.mem_singleton] at hx
        exact hx
      · rw [hsent, List.mem_cons, List.mem_singleton] at hx
        rcases hx with rfl | hx
        · rw [htrying] at hok
          cases hok
        · exact hx
    subst hres
    refine ⟨hports.congr rfl rfl, ?_⟩
    dsimp only at hok ⊢
    generalize rep.gateway = gw' at heffect
    rcases heffect with ⟨hnew, -⟩ | ⟨_, _, hcode, -⟩ | ⟨_, _, hcode, -⟩ |
      ⟨_, p, old, session, sdp, hfinds, hsdp, hoffer, hstart, hport, hcalls, -⟩
    · simp [busyHere] at hok
    · omega
    · omega
    · rw [hconfig] at hoffer hstart ⊢
      refine ⟨p, session, sdp, hfinds, hsdp, hoffer, ?_, hport,
        (CallSession.startPipeline_fields hstart).2.2, rfl⟩
      rw [hcalls, if_pos rfl]

/-- The configured address and ports can stand in an SDP body. -/
structure CanAnnounce (config : Config) : Prop where
  nonempty : config.bindIp ≠ []
  noSpace : ∀ b ∈ config.bindIp, isSpace b = false
  end_le : config.rtpPortEnd ≤ 65535

/-- The 200 as it is built and sent, read by the caller. -/
theorem parse_okResponse {buffer : Bytes} {msg : SipMessage}
    (hparse : SipParser.parse buffer = .ok (some msg)) (hversion : msg.version = bytes "SIP/2.0")
    (hconfig : CanAnnounce config) (env : Env) {body : Bytes} (hsize : body.length < 2 ^ 31) :
    ∃ back, SipParser.parse (okResponse config env msg body).toString = .ok (some back) ∧
      back.isRequest = false ∧ back.statusCode = 200 ∧ back.body = body ∧
      (back.headers.equalRange (bytes "via")).map trim
        = (msg.headers.equalRange (bytes "via")).map trim ∧
      ∀ name ∈ [bytes "From", bytes "Call-ID", bytes "CSeq"],
        (back.getHeader name).map trim = (msg.getHeader name).map trim := by
  let contact := bytes "<sip:" ++ config.bindIp ++ [colon] ++ decimal config.sipPort ++ bytes ">"
  have hbuilt : okResponse config env msg body = responseTo (env.system 1) msg 200 (bytes "OK")
      (some (bytes "application/sdp")) (some contact) body := rfl
  have hcontact : nl ∉ contact := by
    have hip : nl ∉ config.bindIp := fun hm => absurd (hconfig.noSpace nl hm) (by decide)
    simp only [contact, List.mem_append, List.mem_singleton, not_or]
    exact ⟨⟨⟨⟨by decide, hip⟩, by decide⟩, nl_not_mem_decimal _⟩, by decide⟩
  have hsendable : (responseTo (env.system 1) msg 200 (bytes "OK")
      (some (bytes "application/sdp")) (some contact) body).Sendable := by
    refine responseTo_sendable _ (parse_noLineBreak hparse) hversion (by decide) (by decide)
      ?_ ?_ hsize
    · rintro _ ⟨⟩
      decide
    · rintro _ ⟨⟩
      exact hcontact
  obtain ⟨back, hback, hread⟩ := SipParser.parse_toString hsendable
  rw [hbuilt]
  refine ⟨back, hback, hread.response, ?_, ?_, ?_, ?_⟩
  · rw [hread.code, responseTo_eq]
    exact congrArg SipMessage.statusCode (addFields_spec _ _).1
  · rw [hread.body, responseTo_eq]
  · rw [hread.fields _ (by decide), map_trim_map_trim, responseTo_via]
  · intro name hname
    have hne : name.map toLower ≠ bytes "content-length" := by
      simp only [List.mem_cons, List.not_mem_nil, or_false] at hname
      rcases hname with rfl | rfl | rfl <;> decide
    rw [readBack_getHeader hread hne, responseTo_getHeader _ _ _ _ _ _ _ hname]

/-- The body of the 200, read by the caller. -/
theorem parse_answer (hconfig : CanAnnounce config) {body : Bytes} {offer : SdpSession}
    (hsdp : SdpParser.parse body = .ok (some offer))
    (hoffer : SdpAnswer.Negotiable offer config.codecPreference) {p : Int} (hpos : 0 < p)
    (hle : p ≤ 65535) :
    let generated := SdpAnswer.generate offer config.bindIp p config.codecPreference
    let pt := generated.2.payloadType
    ∃ answer, SdpParser.parse generated.1 = .ok (some answer) ∧
      answer.connectionIp = config.bindIp ∧
      answer.media = [{ type := bytes "audio", port := p, proto := bytes "RTP/AVP",
                        payloadTypes := [pt] }] ∧
      SdpAnswer.codecName answer pt = SdpAnswer.codecName offer pt ∧
      SdpAnswer.codecName answer pt ∈ config.codecPreference := by
  have hread := SdpParser.parse_wellRead hsdp
  obtain ⟨audio, pt, name, haudio, hchosen, -, hgen⟩ := SdpAnswer.generate_chosen
    ((SdpAnswer.generate_ne_nil_iff offer config.bindIp p config.codecPreference).mpr hoffer)
  have hport : fitsInt p = true := by
    unfold fitsInt
    simp only [Bool.and_eq_true, decide_eq_true_eq]
    omega
  have hfits : fitsInt pt = true := by
    obtain ⟨before, after, hpts, -⟩ := hchosen.offers
    exact hread.payloadTypes audio (List.mem_of_find?_eq_some haudio) pt (by simp [hpts])
  have hname : 47 ∉ name ∧ nl ∉ name := hchosen.named ▸ SdpAnswer.codecName_of_wellRead hread pt
  have hanswer := @SdpParser.parse_answerText config.bindIp hconfig.nonempty hconfig.noSpace p
    hport { payloadType := pt, name := name, rate := 8000 } hfits hname
  have hpreferred : name ∈ config.codecPreference := by
    obtain ⟨before, after, hprefers, -⟩ := hchosen.prefers
    simp [hprefers]
  rw [hgen]
  refine ⟨_, hanswer, rfl, rfl, ?_, ?_⟩
  · rw [hchosen.named]
    simp [SdpAnswer.codecName]
  · simpa [SdpAnswer.codecName, getElem?_insert_key] using hpreferred

/--
**What the caller is told is right.** Whatever has happened before, when an INVITE that was parsed
from a datagram is answered with a 200, the 200 goes back to where the INVITE came from, its text is
parsed as the answer to that INVITE, and the body names the address of the gateway, a port that is
open and leads to the session of the call, and the payload type the session plays, for a codec that
is offered and preferred.
-/
theorem caller_told_right (hw : (machine config hardwareConcurrency).Reachable w)
    (hconfig : CanAnnounce config) {buffer : Bytes} {msg : SipMessage}
    (hparse : SipParser.parse buffer = .ok (some msg)) (hversion : msg.version = bytes "SIP/2.0")
    (hreq : msg.isRequest = true) (hinv : msg.method = .invite) {env : Env} {sender : SockAddr}
    {r : Gateway × List Sent} (hr : w.gateway.handleSipMessage env msg sender = .ok r)
    {out : Sent} (hout : out ∈ r.2) (hok : out.1.statusCode = 200)
    (hsize : out.1.body.length < 2 ^ 31) :
    out.2 = sender ∧ ∃ back session, SipParser.parse out.1.toString = .ok (some back) ∧
      r.1.registry.getCall msg.getCallId = some session ∧
      TellsRight config r.1 msg back session := by
  let received : Received := ⟨msg, SipParser.parse_wellFormed hparse⟩
  have hreq' : received.val.isRequest = true := hreq
  obtain ⟨hports, p, session, offer, hfinds, hsdp, hoffer, hcall, rfl, hpt, rfl⟩ :=
    ok_answers hw hreq' hinv hr hout hok
  obtain ⟨back, hback, hresponse, hcode, hbody, hvia, hsingle⟩ :=
    parse_okResponse hparse hversion hconfig env hsize
  obtain ⟨hpos, hend⟩ := mem_range_of_finds hw hfinds
  obtain ⟨answer, hanswer, hip, hmedia, hname, hpreferred⟩ :=
    parse_answer hconfig hsdp hoffer hpos (hend.trans hconfig.end_le)
  rw [← hpt] at hmedia hname hpreferred
  have hown := (hports.own _ _ hcall).2
  exact ⟨rfl, back, session, hback, hcall,
    { response := hresponse
      code := hcode
      via := hvia
      single := hsingle
      body := ⟨offer, answer, hsdp, by rw [hbody]; exact hanswer, hip, hmedia, hname, hpreferred⟩
      isOpen := hports.isOpen _ _ hown
      route := (CallRegistry.getCallByPort_of hown).trans hcall }⟩

/-- An INVITE as it comes in. -/
def exampleDatagram : Bytes :=
  bytes ("INVITE sip:b SIP/2.0\r\nVia: SIP/2.0/UDP 10.0.0.1;branch=b\r\nCall-ID: call\r\n" ++
    "Content-Length: 43\r\n\r\nc=IN IP4 10.0.0.1\r\nm=audio 4000 RTP/AVP 0\r\n")

/-- A datagram that can be parsed and checked. -/
theorem exists_parsed {buffer : Bytes} {p : SipMessage → Bool}
    (h : ((SipParser.parse buffer).toOption.bind id).any p = true) :
    ∃ msg, SipParser.parse buffer = .ok (some msg) ∧ p msg = true := by
  cases hparse : SipParser.parse buffer with
  | error e =>
    rw [hparse] at h
    cases h
  | ok r =>
    rw [hparse] at h
    cases r with
    | none => cases h
    | some msg => exact ⟨msg, rfl, h⟩

theorem caller_told_right_first : ∃ msg r out back session,
    SipParser.parse exampleDatagram = .ok (some msg) ∧
    (start exampleConfig 1).gateway.handleSipMessage { start := 0 } msg {} = .ok r ∧ out ∈ r.2 ∧
    out.1.statusCode = 200 ∧ SipParser.parse out.1.toString = .ok (some back) ∧
    TellsRight exampleConfig r.1 msg back session := by
  obtain ⟨msg, hparse, hmsg⟩ := exists_parsed (show
    ((SipParser.parse exampleDatagram).toOption.bind id).any (fun msg =>
      (decide (msg.version = bytes "SIP/2.0") && msg.isRequest && decide (msg.method = .invite)) &&
        ((start exampleConfig 1).gateway.handleSipMessage { start := 0 } msg {}).toOption.any
          fun r => r.2.any fun out =>
            decide (out.1.statusCode = 200) && decide (out.1.body.length < 2 ^ 31)) = true by
      decide +kernel)
  simp only [Bool.and_eq_true, decide_eq_true_eq] at hmsg
  obtain ⟨⟨⟨hversion, hreq⟩, hinv⟩, hanswers⟩ := hmsg
  obtain ⟨r, hr, hsent⟩ := exists_handled hanswers
  obtain ⟨out, hout, hok⟩ := List.any_eq_true.mp hsent
  simp only [Bool.and_eq_true, decide_eq_true_eq] at hok
  have hconfig : CanAnnounce exampleConfig :=
    ⟨by decide, by decide +kernel, by decide⟩
  obtain ⟨-, back, session, hback, -, htells⟩ := caller_told_right (Machine.Reach.init rfl) hconfig
    hparse hversion hreq hinv hr hout hok.1 hok.2
  exact ⟨msg, r, out, back, session, hparse, hr, hout, hok.1, hback, htells⟩

end World

end SipGateway
