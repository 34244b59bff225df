import SipGateway.Infra.Text
import SipGateway.Infra.Tables
import SipGateway.Sdp.Answer

/-!
# The answer is read back

The text of `SdpAnswer::generate` through `SdpParser::parse`. Writer and parser share no code:
each of the eight lines is followed through the parser on its own, and what the codec name may
contain comes from the parse of the offer.
-/

namespace SipGateway

open Infra

/-! ## What the parser puts into an offer -/

namespace SdpParser

theorem not_mem_encodingName (codec : Bytes) : 47 ∉ encodingName codec := by
  unfold encodingName
  split
  · next slash h =>
    obtain ⟨a, b, rfl, ha, rfl⟩ := findByte_eq_some.mp h
    rwa [List.take_left]
  · next h => exact findByte_eq_none.mp h

theorem mem_of_mem_encodingName {b : UInt8} {codec : Bytes} (h : b ∈ encodingName codec) :
    b ∈ codec := by
  unfold encodingName at h
  split at h
  · exact List.mem_of_mem_take h
  · exact h

/-- A codec name has no slash, and nothing in it that the line has not. -/
theorem parseRtpmap_name {value : Bytes} {pt : Int} {name : Bytes}
    (h : parseRtpmap value = .ok (some (pt, name))) : 47 ∉ name ∧ ∀ b ∈ name, b ∈ value := by
  by_cases hv : ∃ num rest, value = bytes "rtpmap:" ++ (num ++ sp :: rest) ∧ sp ∉ num
  · obtain ⟨num, rest, rfl, hnum⟩ := hv
    rw [parseRtpmap_eq hnum] at h
    cases hn : stoi num with
    | error e => simp [hn, Except.map] at h
    | ok n =>
      simp only [hn, Except.map, Except.ok.injEq, Option.some.injEq, Prod.mk.injEq] at h
      obtain ⟨-, rfl⟩ := h
      refine ⟨not_mem_encodingName rest, fun b hb => ?_⟩
      have hrest := mem_of_mem_encodingName hb
      simp [hrest]
  · rw [parseRtpmap_total hv] at h
    simp at h

/-- What holds of every session the parser builds. -/
structure WellRead (session : SdpSession) : Prop where
  payloadTypes : ∀ m ∈ session.media, ∀ pt ∈ m.payloadTypes, fitsInt pt = true
  names : ∀ (pt : Int) (name : Bytes), session.rtpMap[pt]? = some name → 47 ∉ name ∧ nl ∉ name

theorem wellRead_empty : WellRead {} where
  payloadTypes m hm := by cases hm
  names pt name h := by simp at h

theorem parseMedia_payloadTypes {value : Bytes} {pt : Int}
    (h : pt ∈ (parseMedia value).payloadTypes) : fitsInt pt = true :=
  IStream.fitsInt_of_mem_ints h

theorem WellRead.parseLine {session session' : SdpSession} {line : Bytes} (h : WellRead session)
    (hnl : nl ∉ line) (hline : parseLine session line = .ok session') : WellRead session' := by
  unfold SdpParser.parseLine at hline
  split at hline
  · cases hline
    exact h
  · next type value hs =>
    have hvalue : nl ∉ value := by
      intro hm
      have htrim : nl ∈ trim line := by
        rw [splitLine_eq_some.mp hs]
        exact List.mem_cons_of_mem _ (List.mem_cons_of_mem _ hm)
      exact hnl (mem_of_mem_trim htrim)
    split at hline
    · cases hline; exact ⟨h.payloadTypes, h.names⟩
    split at hline
    · cases hline; exact ⟨h.payloadTypes, h.names⟩
    split at hline
    · cases hline; exact ⟨h.payloadTypes, h.names⟩
    split at hline
    · cases hline; exact ⟨h.payloadTypes, h.names⟩
    split at hline
    · cases hline
      refine ⟨fun m hm => ?_, h.names⟩
      rcases List.mem_append.mp hm with hm | hm
      · exact h.payloadTypes m hm
      · rw [List.mem_singleton] at hm
        subst hm
        exact fun pt hpt => parseMedia_payloadTypes hpt
    split at hline
    · cases hr : parseRtpmap value with
      | error e => simp [bind, Except.bind, hr] at hline
      | ok r =>
        simp only [bind, Except.bind, hr, pure, Except.pure] at hline
        split at hline
        · next pt codec =>
          cases hline
          refine ⟨h.payloadTypes, fun q name hq => ?_⟩
          rw [getElem?_insert_key] at hq
          split at hq
          · cases hq
            obtain ⟨hslash, hsub⟩ := parseRtpmap_name hr
            exact ⟨hslash, fun hm => hvalue (hsub _ hm)⟩
          · exact h.names q name hq
        · cases hline; exact h
    · cases hline; exact h

theorem foldlM_parseLine_wellRead (ls : List Bytes) (hnl : ∀ l ∈ ls, nl ∉ l)
    {session session' : SdpSession} (h : WellRead session)
    (hls : ls.foldlM SdpParser.parseLine session = .ok session') : WellRead session' := by
  induction ls generalizing session with
  | nil =>
    cases hls
    exact h
  | cons line ls ih =>
    rw [List.foldlM_cons] at hls
    cases hline : SdpParser.parseLine session line with
    | error e => rw [hline] at hls; cases hls
    | ok mid =>
      rw [hline] at hls
      exact ih (fun l hl => hnl l (List.mem_cons_of_mem _ hl))
        (h.parseLine (hnl line List.mem_cons_self) hline) hls

theorem parse_wellRead {body : Bytes} {session : SdpSession}
    (h : parse body = .ok (some session)) : WellRead session := by
  unfold parse at h
  cases hf : (lines body).foldlM SdpParser.parseLine ({} : SdpSession) with
  | error e => rw [hf] at h; simp [bind, Except.bind] at h
  | ok session' =>
    rw [hf] at h
    simp only [bind, Except.bind, pure, Except.pure, Except.ok.injEq, Option.some.injEq] at h
    subst h
    refine foldlM_parseLine_wellRead _ (fun l hl => ?_) wellRead_empty hf
    obtain ⟨p, hp, rfl⟩ := List.mem_map.mp hl
    exact nl_not_mem_of_getlines hp

/-! ## The lines of an answer -/

/-- A line that begins and ends with something other than a blank. -/
theorem splitLine_written {type : UInt8} (htype : isBlank type = false) (value : Bytes)
    {last : Bytes} (hne : last ≠ []) (hlast : ∀ b ∈ last, isBlank b = false) :
    splitLine (type :: 61 :: (value ++ last) ++ [cr]) = some (type, value ++ last) := by
  rw [splitLine_eq_some, trim_append_blank (by decide)]
  refine trim_eq_self ?_ ?_
  · intro b hb
    cases hb
    exact htype
  · intro b hb
    have hmem : (type :: 61 :: (value ++ last)).getLast? = last.getLast? := by
      rw [show type :: 61 :: (value ++ last) = (type :: 61 :: value) ++ last by simp,
        List.getLast?_append_of_ne_nil _ hne]
    rw [hmem] at hb
    exact hlast b (List.mem_of_getLast? hb)

theorem isBlank_of_isSpace {b : UInt8} (h : isSpace b = false) : isBlank b = false := by
  rw [Bool.eq_false_iff]
  intro hb
  simp only [isBlank, Bool.or_eq_true, beq_iff_eq] at hb
  rcases hb with ((rfl | rfl) | rfl) | rfl <;> simp [isSpace, sp, tab, cr, nl] at h

theorem decimal_ne_nil (v : Int) : decimal v ≠ [] := by
  cases v with
  | ofNat n => exact natDecimal_ne_nil n
  | negSucc n => exact List.cons_ne_nil _ _

/-- A number has a sign and digits and nothing else in it. -/
theorem isSpace_of_mem_decimal {v : Int} {b : UInt8} (h : b ∈ decimal v) : isSpace b = false := by
  cases v with
  | ofNat n => exact isSpace_of_isDigit (natDecimal_isDigit n h)
  | negSucc n =>
    rcases List.mem_cons.mp h with rfl | h
    · decide
    · exact isSpace_of_isDigit (natDecimal_isDigit _ h)

theorem sp_not_mem_of_isSpace {s : Bytes} (h : ∀ b ∈ s, isSpace b = false) : sp ∉ s :=
  fun hm => absurd (h sp hm) (by decide)

section Lines

variable {localIp : Bytes} (hne : localIp ≠ []) (hip : ∀ b ∈ localIp, isSpace b = false)
  (session : SdpSession)

include hne hip

theorem parseLine_origin :
    parseLine session (bytes "o=- 123456 123456 IN IP4 " ++ localIp ++ [cr]) =
      .ok { session with origin := bytes "- 123456 123456 IN IP4 " ++ localIp } := by
  have hs : splitLine (bytes "o=- 123456 123456 IN IP4 " ++ localIp ++ [cr]) =
      some (111, bytes "- 123456 123456 IN IP4 " ++ localIp) :=
    splitLine_written (by decide) (bytes "- 123456 123456 IN IP4 ") hne
      fun b hb => isBlank_of_isSpace (hip b hb)
  unfold parseLine
  rw [hs]
  rfl

/-- The connection line gives the address it was written with. -/
theorem parseLine_connection :
    parseLine session (bytes "c=IN IP4 " ++ localIp ++ [cr]) =
      .ok { session with connectionIp := localIp } := by
  have hs : splitLine (bytes "c=IN IP4 " ++ localIp ++ [cr]) =
      some (99, bytes "IN IP4 " ++ localIp) :=
    splitLine_written (by decide) (bytes "IN IP4 ") hne fun b hb => isBlank_of_isSpace (hip b hb)
  have haddr : connectionAddress (bytes "IN IP4 " ++ localIp) = some localIp := by
    have hlast : rfindByte sp (bytes "IN IP4 " ++ localIp) = some 6 :=
      rfindByte_append (bytes "IN IP4") (sp_not_mem_of_isSpace hip)
    have hfound : findStr (bytes "IN IP4") (bytes "IN IP4 " ++ localIp) ≠ none := by
      simp [bytes, findStr]
    unfold connectionAddress
    rw [if_pos hfound, hlast]
    rfl
  unfold parseLine
  rw [hs]
  simp [haddr]

end Lines

/-- The media line gives the port and the payload type it was written with. -/
theorem parseLine_media {localPort pt : Int} (hport : fitsInt localPort = true)
    (hpt : fitsInt pt = true) (session : SdpSession) :
    parseLine session (SdpAnswer.mediaLine localPort pt ++ [cr]) =
      .ok { session with media := session.media ++
        [{ type := bytes "audio", port := localPort, proto := bytes "RTP/AVP",
           payloadTypes := [pt] }] } := by
  have hs : splitLine (SdpAnswer.mediaLine localPort pt ++ [cr]) =
      some (109, (bytes "audio " ++ decimal localPort ++ bytes " RTP/AVP ") ++ decimal pt) := by
    have h := splitLine_written (show isBlank 109 = false by decide)
      (bytes "audio " ++ decimal localPort ++ bytes " RTP/AVP ") (decimal_ne_nil pt)
      fun b hb => isBlank_of_isSpace (isSpace_of_mem_decimal hb)
    simpa [SdpAnswer.mediaLine, bytes] using h
  have hsp : ∀ b ∈ [sp], isSpace b = true := by simp [isSpace, sp]
  have hmedia : parseMedia ((bytes "audio " ++ decimal localPort ++ bytes " RTP/AVP ") ++
      decimal pt) = { type := bytes "audio", port := localPort, proto := bytes "RTP/AVP",
                      payloadTypes := [pt] } := by
    have htext : (bytes "audio " ++ decimal localPort ++ bytes " RTP/AVP ") ++ decimal pt =
        [] ++ (bytes "audio" ++ ([sp] ++ (decimal localPort ++ ([sp] ++ (bytes "RTP/AVP" ++
          ([sp] ++ (decimal pt ++ []))))))) := by simp [bytes, sp]
    unfold parseMedia
    rw [htext]
    dsimp only
    rw [IStream.word_append (by simp) (by simp [bytes]) (by simp [bytes, isSpace])
      (by simp [isSpace, sp])]
    dsimp only
    rw [IStream.int_append hsp hport (by simp [isDigit, sp])]
    dsimp only
    rw [IStream.word_append hsp (by simp [bytes]) (by simp [bytes, isSpace])
      (by simp [isSpace, sp])]
    dsimp only
    rw [IStream.ints_eq, IStream.int_append hsp hpt (by simp)]
    rfl
  unfold parseLine
  rw [hs]
  dsimp only
  rw [hmedia]
  rfl

theorem splitLine_rtpmap (codec : NegotiatedCodec) :
    splitLine (SdpAnswer.rtpmapLine codec ++ [cr]) =
      some (97, bytes "rtpmap:" ++ (decimal codec.payloadType ++
        sp :: (codec.name ++ 47 :: decimal codec.rate))) := by
  have h := splitLine_written (show isBlank 97 = false by decide)
    (bytes "rtpmap:" ++ (decimal codec.payloadType ++ [sp] ++ codec.name ++ [47]))
    (decimal_ne_nil codec.rate)
    fun b hb => isBlank_of_isSpace (isSpace_of_mem_decimal hb)
  simpa [SdpAnswer.rtpmapLine, bytes] using h

/-- The rtpmap line gives the codec it was written with, unless the name has a slash in it. -/
theorem parseLine_rtpmap {codec : NegotiatedCodec} (hpt : fitsInt codec.payloadType = true)
    (hname : 47 ∉ codec.name) (session : SdpSession) :
    parseLine session (SdpAnswer.rtpmapLine codec ++ [cr]) =
      .ok { session with rtpMap := session.rtpMap.insert codec.payloadType codec.name } := by
  have hsp : sp ∉ decimal codec.payloadType :=
    sp_not_mem_of_isSpace fun b hb => isSpace_of_mem_decimal hb
  have hslash : encodingName (codec.name ++ 47 :: decimal codec.rate) = codec.name := by
    unfold encodingName
    rw [findByte_eq_some.mpr ⟨codec.name, decimal codec.rate, rfl, hname, rfl⟩]
    exact List.take_left
  unfold parseLine
  rw [splitLine_rtpmap]
  dsimp only
  rw [parseRtpmap_eq hsp, stoi_decimal hpt, hslash]
  rfl

/-- **The text of an answer, read by the parser.** -/
theorem parse_answerText {localIp : Bytes} (hne : localIp ≠ [])
    (hip : ∀ b ∈ localIp, isSpace b = false) {localPort : Int} (hport : fitsInt localPort = true)
    {codec : NegotiatedCodec} (hpt : fitsInt codec.payloadType = true)
    (hname : 47 ∉ codec.name ∧ nl ∉ codec.name) :
    parse (SdpAnswer.answerText localIp localPort codec) = .ok (some
      { version := bytes "0"
        origin := bytes "- 123456 123456 IN IP4 " ++ localIp
        sessionName := bytes "Gateway"
        connectionIp := localIp
        media := [{ type := bytes "audio", port := localPort, proto := bytes "RTP/AVP",
                    payloadTypes := [codec.payloadType] }]
        rtpMap := (∅ : Std.ExtTreeMap Int Bytes).insert codec.payloadType codec.name }) := by
  have hnlIp : nl ∉ localIp := fun hm => absurd (hip nl hm) (by decide)
  have hlines : ∀ l ∈ SdpAnswer.answerLines localIp localPort codec, nl ∉ l := by
    intro l hl
    simp only [SdpAnswer.answerLines, List.mem_cons, List.not_mem_nil, or_false] at hl
    rcases hl with rfl | rfl | rfl | rfl | rfl | rfl | rfl | rfl <;>
      simp [SdpAnswer.mediaLine, SdpAnswer.rtpmapLine, bytes, nl_not_mem_decimal, hnlIp,
        hname.2] <;> decide
  unfold parse SdpAnswer.answerText
  rw [lines_flatMap_crlf _ hlines]
  have hversion : parseLine {} (bytes "v=0" ++ [cr]) = .ok { version := bytes "0" } := rfl
  have hname' : ∀ session, parseLine session (bytes "s=Gateway" ++ [cr]) =
      .ok { session with sessionName := bytes "Gateway" } := fun _ => rfl
  have htime : ∀ session, parseLine session (bytes "t=0 0" ++ [cr]) = .ok session := fun _ => rfl
  have hsendrecv : ∀ session, parseLine session (bytes "a=sendrecv" ++ [cr]) = .ok session :=
    fun _ => rfl
  simp only [SdpAnswer.answerLines, List.map_cons, List.map_nil, List.foldlM_cons,
    List.foldlM_nil, bind, Except.bind, pure, Except.pure, hversion, parseLine_origin hne hip,
    hname', parseLine_connection hne hip, htime, parseLine_media hport hpt,
    parseLine_rtpmap hpt hname.1, hsendrecv, List.nil_append]

end SdpParser

namespace SdpAnswer

theorem codecName_cases (offer : SdpSession) (pt : Int) :
    (∃ name, offer.rtpMap[pt]? = some name ∧ codecName offer pt = name) ∨
    codecName offer pt ∈ [bytes "PCMU", bytes "PCMA", []] := by
  unfold codecName
  split
  · next name h => exact Or.inl ⟨name, h, rfl⟩
  · refine Or.inr ?_
    split
    · simp
    · split <;> simp

/-- A codec name of a parsed offer can stand in an rtpmap line. -/
theorem codecName_of_wellRead {offer : SdpSession} (h : SdpParser.WellRead offer) (pt : Int) :
    47 ∉ codecName offer pt ∧ nl ∉ codecName offer pt := by
  rcases codecName_cases offer pt with ⟨name, hmap, hname⟩ | hstatic
  · rw [hname]
    exact h.names pt name hmap
  · simp only [List.mem_cons, List.not_mem_nil, or_false] at hstatic
    rcases hstatic with he | he | he <;> rw [he] <;> decide

/--
**The answer reads back as what was negotiated**, whatever offer was parsed and whatever is
preferred.
-/
theorem answer_reads_back {body : Bytes} {offer : SdpSession}
    (hoffer : SdpParser.parse body = .ok (some offer)) {localIp : Bytes} (hne : localIp ≠ [])
    (hip : ∀ b ∈ localIp, isSpace b = false) {localPort : Int}
    (hport : 1 ≤ localPort ∧ localPort ≤ 65535) {preference : List Bytes}
    (hanswer : (generate offer localIp localPort preference).1 ≠ []) :
    ∃ session, SdpParser.parse (generate offer localIp localPort preference).1
        = .ok (some session) ∧
      session.connectionIp = localIp ∧
      session.media =
        [{ type := bytes "audio", port := localPort, proto := bytes "RTP/AVP",
           payloadTypes := [(generate offer localIp localPort preference).2.payloadType] }] ∧
      ∀ pt : Int, session.rtpMap[pt]? =
        if pt = (generate offer localIp localPort preference).2.payloadType
        then some (generate offer localIp localPort preference).2.name else none := by
  have hread := SdpParser.parse_wellRead hoffer
  obtain ⟨audio, pt, name, haudio, hchosen, -, hgen⟩ := generate_chosen hanswer
  have hpt : fitsInt pt = true := by
    obtain ⟨before, after, hpts, -⟩ := hchosen.offers
    exact hread.payloadTypes audio (List.mem_of_find?_eq_some haudio) pt (by simp [hpts])
  have hname : 47 ∉ name ∧ nl ∉ name := hchosen.named ▸ codecName_of_wellRead hread pt
  have hfits : fitsInt localPort = true := by
    unfold fitsInt
    simp only [Bool.and_eq_true, decide_eq_true_eq]
    omega
  rw [hgen]
  refine ⟨_, SdpParser.parse_answerText hne hip hfits hpt hname, rfl, rfl, fun q => ?_⟩
  rw [getElem?_insert_key]
  simp

/-- An offer with a payload type that has to be looked up. -/
def dynamicOffer : Bytes := bytes "m=audio 4000 RTP/AVP 96\r\na=rtpmap:96 PCMU/8000/1\r\n"

theorem answer_reads_back_dynamic :
    ∃ offer session, SdpParser.parse dynamicOffer = .ok (some offer) ∧
      SdpParser.parse (generate offer (bytes "10.0.0.1") 20000 [bytes "PCMU"]).1
        = .ok (some session) ∧
      session.connectionIp = bytes "10.0.0.1" := by
  have hsome : ((SdpParser.parse dynamicOffer).toOption.bind id).any (fun offer =>
      (generate offer (bytes "10.0.0.1") 20000 [bytes "PCMU"]).1 ≠ []) = true := by
    decide +kernel
  obtain ⟨offer, hoffer, hanswer⟩ : ∃ offer, SdpParser.parse dynamicOffer = .ok (some offer) ∧
      (generate offer (bytes "10.0.0.1") 20000 [bytes "PCMU"]).1 ≠ [] := by
    cases hparse : SdpParser.parse dynamicOffer with
    | error e => rw [hparse] at hsome; cases hsome
    | ok r =>
      rw [hparse] at hsome
      cases r with
      | none => cases hsome
      | some offer => exact ⟨offer, rfl, of_decide_eq_true hsome⟩
  obtain ⟨session, hback, hconn, -⟩ := answer_reads_back hoffer
    (show bytes "10.0.0.1" ≠ [] by decide) (by simp [bytes, isSpace])
    (show (1 : Int) ≤ 20000 ∧ (20000 : Int) ≤ 65535 by decide) hanswer
  exact ⟨offer, session, hoffer, hback, hconn⟩

end SdpAnswer

end SipGateway
