import SipGateway.Sip.Wire

/-!
# Responses over the wire

A request that the parser accepted, a response built for it, the text of the response, and what
the parser makes of that text.

The values of the request can hold anything but a line break, folded lines included
(`parse_noLineBreak`); so the response is one that `parse_toString` speaks of.
-/

namespace SipGateway

open Infra SipMessage SipParser

/-! ## What the parser puts into the header map -/

/-- No value of the header map has a line break in it. -/
def NoLineBreak (msg : SipMessage) : Prop := ∀ f ∈ msg.headers.entries, nl ∉ f.2

theorem NoLineBreak.addHeader {msg : SipMessage} (h : NoLineBreak msg) (name : Bytes)
    {value : Bytes} (hvalue : nl ∉ value) : NoLineBreak (msg.addHeader name value) := by
  intro f hf
  rcases Multimap.mem_insertEntry.mp hf with rfl | hf
  · exact hvalue
  · exact h f hf

theorem headerLine_noLineBreak {st st' : HeaderState} {line : Bytes} (hline : nl ∉ line)
    (hst : NoLineBreak st.msg) (h : headerLine st line = .ok st') : NoLineBreak st'.msg := by
  unfold headerLine at h
  split at h
  · split at h
    · cases h
      exact hst
    · cases h
      intro f hf
      rcases Multimap.mem_modifyEntry hf with hf | ⟨g, hg, rfl⟩
      · exact hst f hf
      · -- a continuation is added behind a blank
        simp only [List.mem_append, not_or]
        exact ⟨⟨hst g hg, by decide⟩, fun hm => hline (mem_of_mem_trim hm)⟩
  · split at h
    · cases h
      exact hst
    · next pos hpos =>
      have hlt := (findByte_lt hpos).2
      rw [substr_of_le _ (Nat.zero_le _),
        substrFrom_of_le (show pos + 1 ≤ line.length by omega)] at h
      simp only [bind, Except.bind, pure, Except.pure, Except.ok.injEq] at h
      subst h
      refine hst.addHeader _ ?_
      intro hm
      exact hline (List.mem_of_mem_drop (mem_of_mem_trim hm))

theorem headerLoop_noLineBreak {ls : List (Bytes × Bytes)} (hls : ∀ l ∈ ls, nl ∉ l.1) :
    ∀ {st : HeaderState} {r : HeaderState × Bytes}, NoLineBreak st.msg →
      headerLoop ls st = .ok r → NoLineBreak r.1.msg := by
  induction ls with
  | nil =>
    intro st r hst h
    cases h
    exact hst
  | cons l more ih =>
    obtain ⟨line, rest⟩ := l
    intro st r hst h
    rw [headerLoop] at h
    split at h
    · cases h
      exact hst
    · obtain ⟨st', hst'⟩ := headerLine_total st (stripCr line)
      rw [hst'] at h
      have hline : nl ∉ stripCr line :=
        fun hm => hls (line, rest) List.mem_cons_self (mem_of_mem_stripCr hm)
      exact ih (fun l hl => hls l (List.mem_cons_of_mem _ hl))
        (headerLine_noLineBreak hline hst hst') h

/-- **No header value that the parser returns has a line break in it.** -/
theorem parse_noLineBreak {buffer : Bytes} {msg : SipMessage}
    (h : parse buffer = .ok (some msg)) : NoLineBreak msg := by
  obtain ⟨line, rest, more, start, r, hlines, hfirst, hloop, rfl⟩ := parse_eq_some h
  have hmore : ∀ l ∈ more, nl ∉ l.1 := by
    intro l hl
    exact nl_not_mem_of_getlines (s := buffer) (by
      rw [hlines]
      exact List.mem_cons_of_mem _ hl)
  have hstart : NoLineBreak start := by
    intro f hf
    rw [parseFirstLine_headers hfirst] at hf
    cases hf
  exact headerLoop_noLineBreak hmore hstart hloop

/-! ## The fields of a response -/

/-- `addHeader` for one field after the other. -/
def addFields (msg : SipMessage) (fields : List (Bytes × Bytes)) : SipMessage :=
  fields.foldl (fun msg f => msg.addHeader f.1 f.2) msg

theorem addFields_append (msg : SipMessage) (fields more : List (Bytes × Bytes)) :
    addFields msg (fields ++ more) = addFields (addFields msg fields) more := List.foldl_append

/-- Fields of one name. -/
def named (name : Bytes) (values : List Bytes) : List (Bytes × Bytes) := values.map (name, ·)

/-- The values of one name among some fields. -/
def valuesOf (k : Bytes) (fields : List (Bytes × Bytes)) : List Bytes :=
  (fields.filter fun f => f.1.map toLower = k).map Prod.snd

@[simp] theorem valuesOf_append (k : Bytes) (fields more : List (Bytes × Bytes)) :
    valuesOf k (fields ++ more) = valuesOf k fields ++ valuesOf k more := by
  unfold valuesOf
  rw [List.filter_append, List.map_append]

@[simp] theorem valuesOf_named (k name : Bytes) (values : List Bytes) :
    valuesOf k (named name values) = if name.map toLower = k then values else [] := by
  unfold valuesOf named
  rw [List.filter_map, List.map_map]
  by_cases hk : name.map toLower = k <;> simp [Function.comp_def, hk]

theorem equalRange_addFields (k : Bytes) (fields : List (Bytes × Bytes)) :
    ∀ msg : SipMessage, (addFields msg fields).headers.equalRange k
      = msg.headers.equalRange k ++ valuesOf k fields := by
  induction fields with
  | nil =>
    intro msg
    exact (List.append_nil _).symm
  | cons f fields ih =>
    intro msg
    have hcons : addFields msg (f :: fields) = addFields (msg.addHeader f.1 f.2) fields := rfl
    rw [hcons, ih, equalRange_addHeader, List.append_assoc]
    unfold valuesOf
    by_cases hk : f.1.map toLower = k <;> simp [hk]

/-- Fields only change the header map, and only by putting themselves into it. -/
theorem addFields_spec (fields : List (Bytes × Bytes)) : ∀ msg : SipMessage,
    { addFields msg fields with headers := msg.headers } = msg ∧
    ∀ f ∈ (addFields msg fields).headers.entries,
      f ∈ msg.headers.entries ∨ ∃ g ∈ fields, f = (g.1.map toLower, g.2) := by
  induction fields with
  | nil => exact fun msg => ⟨rfl, fun f hf => .inl hf⟩
  | cons g fields ih =>
    intro msg
    obtain ⟨hrest, hmem⟩ := ih (msg.addHeader g.1 g.2)
    refine ⟨?_, ?_⟩
    · have := congrArg (fun m : SipMessage => { m with headers := msg.headers }) hrest
      exact this
    · intro f hf
      rcases hmem f hf with hf | ⟨g', hg', rfl⟩
      · rcases Multimap.mem_insertEntry.mp hf with rfl | hf
        · exact .inr ⟨g, List.mem_cons_self, rfl⟩
        · exact .inl hf
      · exact .inr ⟨g', List.mem_cons_of_mem _ hg', rfl⟩

/-- The To of a response: a final one has a tag. -/
def toValue (sysNow : Nat) (code : Int) (value : Bytes) : Bytes :=
  if code ≥ 200 ∧ findStr (bytes "tag=") value = none then
    value ++ bytes ";tag=gen" ++ natDecimal (sysNow % 1000000)
  else value

/-- The fields `createResponse` adds, in its order. -/
def responseFields (sysNow : Nat) (req : SipMessage) (code : Int) : List (Bytes × Bytes) :=
  named (bytes "Via") (req.headers.equalRange (bytes "via"))
    ++ named (bytes "From") (req.getHeader (bytes "From")).toList
    ++ named (bytes "To") ((req.getHeader (bytes "To")).map (toValue sysNow code)).toList
    ++ named (bytes "Call-ID") (req.getHeader (bytes "Call-ID")).toList
    ++ named (bytes "CSeq") (req.getHeader (bytes "CSeq")).toList
    ++ named (bytes "User-Agent") [bytes "SIP-RTP-Gateway"]

/-- A field that is copied when it is there. -/
theorem addFields_named_map (msg : SipMessage) (name : Bytes) (value : Option Bytes)
    (f : Bytes → Bytes) :
    addFields msg (named name (value.map f).toList) =
      match value with
      | some value => msg.addHeader name (f value)
      | none => msg := by
  cases value <;> rfl

theorem addFields_named_toList (msg : SipMessage) (name : Bytes) (value : Option Bytes) :
    addFields msg (named name value.toList) =
      match value with
      | some value => msg.addHeader name value
      | none => msg := by
  cases value <;> rfl

theorem addFields_named (name : Bytes) (values : List Bytes) (msg : SipMessage) :
    addFields msg (named name values) =
      values.foldl (fun res via => res.addHeader name via) msg := by
  unfold addFields named
  rw [List.foldl_map]

theorem createResponse_eq (sysNow : Nat) (req : SipMessage) (code : Int) (phrase : Bytes) :
    SipResponseBuilder.createResponse sysNow req code phrase
      = addFields { isRequest := false, version := req.version, statusCode := code,
                    statusPhrase := phrase } (responseFields sysNow req code) := by
  unfold responseFields
  rw [addFields_append, addFields_append, addFields_append, addFields_append, addFields_append,
    addFields_named_toList, addFields_named_toList, addFields_named_map, addFields_named_toList,
    addFields_named (bytes "Via")]
  rfl

/-- A response with what a handler puts on top of `createResponse`. -/
def finished (res : SipMessage) (contentType contact : Option Bytes) (body : Bytes) : SipMessage :=
  let res := match contentType with
    | some value => res.addHeader (bytes "Content-Type") value
    | none => res
  let res := match contact with
    | some value => res.addHeader (bytes "Contact") value
    | none => res
  { res with body := body }

theorem finished_eq (res : SipMessage) (contentType contact : Option Bytes) (body : Bytes) :
    finished res contentType contact body
      = { addFields res (named (bytes "Content-Type") contentType.toList
            ++ named (bytes "Contact") contact.toList) with body := body } := by
  unfold finished addFields named
  rw [List.foldl_append]
  cases contentType <;> cases contact <;> rfl

/-! ## What is built can be sent -/

theorem NoLineBreak.equalRange {msg : SipMessage} (h : NoLineBreak msg) {k value : Bytes}
    (hvalue : value ∈ msg.headers.equalRange k) : nl ∉ value := by
  obtain ⟨f, hf, rfl⟩ := List.mem_map.mp hvalue
  exact h f (List.mem_of_mem_filter hf)

theorem NoLineBreak.getHeader {msg : SipMessage} (h : NoLineBreak msg) {name value : Bytes}
    (hvalue : value ∈ (msg.getHeader name).toList) : nl ∉ value := by
  rw [Option.mem_toList, getHeader_eq_head?] at hvalue
  exact h.equalRange (List.mem_of_head? hvalue)

/-- A name under which `addHeader` may put a field into a response that is to be sent. -/
def IsSendableName (name : Bytes) : Prop :=
  IsFieldName (name.map toLower) ∧ (name.map toLower).map toLower = name.map toLower ∧
    name.map toLower ≠ bytes "content-length"

instance (name : Bytes) : Decidable (IsSendableName name) := inferInstanceAs (Decidable (_ ∧ _))

def IsSendableField (f : Bytes × Bytes) : Prop := IsSendableName f.1 ∧ nl ∉ f.2

theorem named_sendable {name : Bytes} {values : List Bytes} (hname : IsSendableName name)
    (hvalues : ∀ value ∈ values, nl ∉ value) : ∀ f ∈ named name values, IsSendableField f := by
  intro f hf
  obtain ⟨value, hvalue, rfl⟩ := List.mem_map.mp hf
  exact ⟨hname, hvalues value hvalue⟩

theorem nl_not_mem_toValue (sysNow : Nat) (code : Int) {value : Bytes} (h : nl ∉ value) :
    nl ∉ toValue sysNow code value := by
  unfold toValue
  split
  · simp only [List.mem_append, not_or]
    exact ⟨⟨h, by decide⟩, not_mem_natDecimal (by decide) _⟩
  · exact h

theorem responseFields_sendable {req : SipMessage} (h : NoLineBreak req) (sysNow : Nat)
    (code : Int) : ∀ f ∈ responseFields sysNow req code, IsSendableField f := by
  have hto : ∀ value ∈ ((req.getHeader (bytes "To")).map (toValue sysNow code)).toList,
      nl ∉ value := by
    intro value hvalue
    obtain ⟨old, hold, rfl⟩ := Option.map_eq_some_iff.mp (Option.mem_toList.mp hvalue)
    exact nl_not_mem_toValue _ _ (h.getHeader (Option.mem_toList.mpr hold))
  have hagent : ∀ value ∈ [bytes "SIP-RTP-Gateway"], nl ∉ value := by decide
  unfold responseFields
  simp only [List.forall_mem_append]
  exact ⟨⟨⟨⟨⟨named_sendable (by decide) fun _ => h.equalRange,
    named_sendable (by decide) fun _ => h.getHeader⟩,
    named_sendable (by decide) hto⟩,
    named_sendable (by decide) fun _ => h.getHeader⟩,
    named_sendable (by decide) fun _ => h.getHeader⟩,
    named_sendable (by decide) hagent⟩

section Response

variable (sysNow : Nat) (req : SipMessage) (code : Int) (phrase : Bytes)
  (contentType contact : Option Bytes) (body : Bytes)

/-- The response to `req` as it is handed to `toString`. -/
def responseTo : SipMessage :=
  finished (SipResponseBuilder.createResponse sysNow req code phrase) contentType contact body

/-- All the fields of the response. -/
def allFields : List (Bytes × Bytes) :=
  responseFields sysNow req code
    ++ (named (bytes "Content-Type") contentType.toList ++ named (bytes "Contact") contact.toList)

theorem responseTo_eq :
    responseTo sysNow req code phrase contentType contact body
      = { addFields { isRequest := false, version := req.version, statusCode := code,
                      statusPhrase := phrase }
            (allFields sysNow req code contentType contact) with body := body } := by
  unfold responseTo allFields
  rw [finished_eq, createResponse_eq, ← addFields_append]

theorem responseTo_equalRange (k : Bytes) :
    (responseTo sysNow req code phrase contentType contact body).headers.equalRange k
      = valuesOf k (allFields sysNow req code contentType contact) := by
  rw [responseTo_eq]
  show (addFields _ _).headers.equalRange k = _
  rw [equalRange_addFields]
  rfl

/-- **The Via fields are those of the request, in their order.** -/
theorem responseTo_via :
    (responseTo sysNow req code phrase contentType contact body).headers.equalRange (bytes "via")
      = req.headers.equalRange (bytes "via") := by
  rw [responseTo_equalRange]
  unfold allFields responseFields
  simp +decide only [valuesOf_append, valuesOf_named, if_true, if_false, List.append_nil]

/-- The single fields that a response takes from its request. -/
theorem responseTo_getHeader {name : Bytes}
    (h : name ∈ [bytes "From", bytes "Call-ID", bytes "CSeq"]) :
    (responseTo sysNow req code phrase contentType contact body).getHeader name
      = req.getHeader name := by
  rw [getHeader_eq_head?, responseTo_equalRange]
  unfold allFields responseFields
  simp only [List.mem_cons, List.not_mem_nil, or_false] at h
  rcases h with rfl | rfl | rfl <;>
    simp +decide only [valuesOf_append, valuesOf_named, if_true, if_false, List.append_nil,
      List.nil_append, Option.head?_toList]

variable {req code phrase contentType contact body}

theorem responseTo_sendable (hreq : NoLineBreak req) (hversion : req.version = bytes "SIP/2.0")
    (hcode : 100 ≤ code ∧ code ≤ 699) (hphrase : nl ∉ phrase)
    (htype : ∀ value ∈ contentType, nl ∉ value) (hcontact : ∀ value ∈ contact, nl ∉ value)
    (hbody : body.length < 2 ^ 31) :
    (responseTo sysNow req code phrase contentType contact body).Sendable := by
  have hfields : ∀ f ∈ allFields sysNow req code contentType contact, IsSendableField f := by
    unfold allFields
    simp only [List.forall_mem_append]
    exact ⟨responseFields_sendable hreq sysNow code,
      named_sendable (by decide) fun value hvalue => htype value (Option.mem_toList.mp hvalue),
      named_sendable (by decide) fun value hvalue => hcontact value (Option.mem_toList.mp hvalue)⟩
  let start : SipMessage :=
    { isRequest := false, version := req.version, statusCode := code, statusPhrase := phrase }
  obtain ⟨hstart, hmem⟩ := addFields_spec (allFields sysNow req code contentType contact) start
  have hentries : ∀ f ∈ (addFields start
      (allFields sysNow req code contentType contact)).headers.entries,
      ∃ g, IsSendableField g ∧ f = (g.1.map toLower, g.2) := by
    intro f hf
    rcases hmem f hf with hf | ⟨g, hg, he⟩
    · cases hf
    · exact ⟨g, hfields g hg, he⟩
  have hstart' := fun {α : Type} (get : SipMessage → α) => congrArg get hstart
  rw [responseTo_eq]
  refine
    { response := hstart' isRequest
      version := (hstart' version).trans hversion
      code := ?_
      phrase := ?_
      names := ?_
      values := ?_
      noLength := ?_
      body := hbody }
  · rw [show (addFields start _).statusCode = code from hstart' statusCode]
    omega
  · rw [show (addFields start _).statusPhrase = phrase from hstart' statusPhrase]
    exact hphrase
  · intro f hf
    obtain ⟨g, hg, rfl⟩ := hentries f hf
    exact ⟨hg.1.1, hg.1.2.1⟩
  · intro f hf
    obtain ⟨g, hg, rfl⟩ := hentries f hf
    exact hg.2
  · intro f hf
    obtain ⟨g, hg, rfl⟩ := hentries f hf
    exact hg.1.2.2

end Response

/-! ## There and back -/

/-- What of a response to `req` comes back, values being compared without the blanks around them. -/
structure Survives (req res back : SipMessage) : Prop where
  response : back.isRequest = false
  code : back.statusCode = res.statusCode
  phrase : back.statusPhrase = res.statusPhrase
  body : back.body = res.body
  via : (back.headers.equalRange (bytes "via")).map trim
    = (res.headers.equalRange (bytes "via")).map trim
  single : ∀ name ∈ [bytes "From", bytes "To", bytes "Call-ID", bytes "CSeq"],
    (back.getHeader name).map trim = (res.getHeader name).map trim
  viaOfRequest : (back.headers.equalRange (bytes "via")).map trim
    = (req.headers.equalRange (bytes "via")).map trim
  singleOfRequest : ∀ name ∈ [bytes "From", bytes "Call-ID", bytes "CSeq"],
    (back.getHeader name).map trim = (req.getHeader name).map trim

theorem map_trim_map_trim (values : List Bytes) : (values.map trim).map trim = values.map trim := by
  rw [List.map_map]
  exact List.map_congr_left fun value _ => trim_trim value

theorem readBack_getHeader {res back : SipMessage} (h : ReadBack res back) {name : Bytes}
    (hname : name.map toLower ≠ bytes "content-length") :
    (back.getHeader name).map trim = (res.getHeader name).map trim := by
  rw [getHeader_eq_head?, getHeader_eq_head?, h.fields _ hname, List.head?_map, Option.map_map]
  exact Option.map_congr fun value _ => trim_trim value

/--
**Responses survive the wire.**

The text of a response to an accepted message parses; code, phrase and body come back unchanged,
the fields up to the blanks around them, and all but the To are those of the request.
-/
theorem responses_survive {buffer : Bytes} {req : SipMessage}
    (hparse : parse buffer = .ok (some req)) (hversion : req.version = bytes "SIP/2.0")
    (sysNow : Nat) {code : Int} (hcode : 100 ≤ code ∧ code ≤ 699) {phrase : Bytes}
    (hphrase : nl ∉ phrase) {contentType contact : Option Bytes}
    (htype : ∀ value ∈ contentType, nl ∉ value) (hcontact : ∀ value ∈ contact, nl ∉ value)
    {body : Bytes} (hbody : body.length < 2 ^ 31) :
    ∃ back, parse (responseTo sysNow req code phrase contentType contact body).toString
        = .ok (some back) ∧
      back.statusCode = code ∧ back.statusPhrase = phrase ∧ back.body = body ∧
      Survives req (responseTo sysNow req code phrase contentType contact body) back := by
  have hreq := parse_noLineBreak hparse
  obtain ⟨back, hback, hread⟩ := parse_toString
    (responseTo_sendable sysNow hreq hversion hcode hphrase htype hcontact hbody)
  have hvia : (back.headers.equalRange (bytes "via")).map trim
      = (req.headers.equalRange (bytes "via")).map trim := by
    rw [hread.fields _ (by decide), map_trim_map_trim, responseTo_via]
  have hsingle : ∀ name ∈ [bytes "From", bytes "Call-ID", bytes "CSeq"],
      (back.getHeader name).map trim = (req.getHeader name).map trim := by
    intro name hname
    have hne : name.map toLower ≠ bytes "content-length" := by
      simp only [List.mem_cons, List.not_mem_nil, or_false] at hname
      rcases hname with rfl | rfl | rfl <;> decide
    rw [readBack_getHeader hread hne, responseTo_getHeader _ _ _ _ _ _ _ hname]
  have hstart := (addFields_spec (allFields sysNow req code contentType contact)
    { isRequest := false, version := req.version, statusCode := code, statusPhrase := phrase }).1
  have hcode' : back.statusCode = code := by
    rw [hread.code, responseTo_eq]
    exact congrArg statusCode hstart
  have hphrase' : back.statusPhrase = phrase := by
    rw [hread.phrase, responseTo_eq]
    exact congrArg statusPhrase hstart
  have hbody' : back.body = body := by rw [hread.body, responseTo_eq]
  refine ⟨back, hback, hcode', hphrase', hbody',
    { response := hread.response
      code := hread.code
      phrase := hread.phrase
      body := hread.body
      via := ?_
      single := ?_
      viaOfRequest := hvia
      singleOfRequest := hsingle }⟩
  · rw [hread.fields _ (by decide), map_trim_map_trim]
  · intro name hname
    refine readBack_getHeader hread ?_
    simp only [List.mem_cons, List.not_mem_nil, or_false] at hname
    rcases hname with rfl | rfl | rfl | rfl <;> decide

/-- Two Vias, a folded line that continues the first of them, and a CSeq without a value. -/
def foldedRequest : Bytes :=
  bytes "INVITE sip:b SIP/2.0\r\nVia: x\r\nVia: y\r\n\tz\r\nTo: <sip:b>\r\nCSeq:\r\n\r\n"

/-- Answered with a body that looks like header fields. -/
theorem responses_survive_folded : ∃ req back, parse foldedRequest = .ok (some req) ∧
    parse (responseTo 7 req 200 (bytes "OK") none none (bytes "To: x\r\n\r\n")).toString
      = .ok (some back) ∧
    Survives req (responseTo 7 req 200 (bytes "OK") none none (bytes "To: x\r\n\r\n")) back := by
  have haccepted : ((parse foldedRequest).toOption.bind id).any
      (fun req => req.isRequest && req.version = bytes "SIP/2.0") = true := by decide +kernel
  obtain ⟨r, hr⟩ := parse_total foldedRequest
  rw [hr] at haccepted
  cases r with
  | none => cases haccepted
  | some req =>
    have hversion : req.version = bytes "SIP/2.0" := by
      have h : (req.isRequest && decide (req.version = bytes "SIP/2.0")) = true := haccepted
      rw [Bool.and_eq_true, decide_eq_true_eq] at h
      exact h.2
    obtain ⟨back, hback, -, -, -, hsurvives⟩ := @responses_survive _ req hr hversion 7 200
      (by decide) (bytes "OK") (by decide) none none nofun nofun (bytes "To: x\r\n\r\n") (by decide)
    exact ⟨req, back, hr, hback, hsurvives⟩

end SipGateway
