import SipGateway.Sip.Message

/-!
# The SIP parser

`SipParser.cpp`. A datagram is read with `std::getline`: the first line, header lines with
their continuations up to an empty line, then `Content-Length` bytes of body.

Exceptions are kept: the status line stands in a `try` block, the Content-Length in another,
everything else would let an exception of `substr` or `stoi` escape.
`parse_total` says that none does.
-/

namespace SipGateway

open Infra

namespace SipParser

/-- `SipParser::parseMethod`. -/
def parseMethod (sv : Bytes) : SipMethod :=
  if sv = bytes "INVITE" then .invite
  else if sv = bytes "ACK" then .ack
  else if sv = bytes "BYE" then .bye
  else if sv = bytes "CANCEL" then .cancel
  else if sv = bytes "OPTIONS" then .options
  else if sv = bytes "REFER" then .refer
  else .unknown

/-! ## The first line -/

/-- What stands in the `try` block: code and phrase of a status line. -/
def statusLine (line : Bytes) (firstSpace secondSpace : Nat) :
    Except StdException (Int × Bytes) := do
  let code ← stoi (← substr line (firstSpace + 1) (secondSpace - firstSpace - 1))
  let phrase ← substrFrom line (secondSpace + 1)
  pure (code, phrase)

/-- `SIP/2.0 200 OK`. -/
def parseStatusLine (line : Bytes) : Except StdException (Option SipMessage) :=
  match findByte sp line 0 with
  | none => .ok none
  | some firstSpace =>
    match findByte sp line (firstSpace + 1) with
    | none => .ok none
    | some secondSpace =>
      match statusLine line firstSpace secondSpace with
      | .ok (code, phrase) =>
        .ok (some { isRequest := false, statusCode := code, statusPhrase := phrase })
      | .error _ => .ok none  -- catch (...)

/-- `INVITE sip:user@host SIP/2.0`. -/
def parseRequestLine (line : Bytes) : Except StdException (Option SipMessage) :=
  match findByte sp line 0, rfindByte sp line with
  | some firstSpace, some lastSpace =>
    if firstSpace ≠ lastSpace then do
      let method := (← substr line 0 firstSpace).map toUpper
      let uri ← substr line (firstSpace + 1) (lastSpace - firstSpace - 1)
      let version ← substrFrom line (lastSpace + 1)
      pure (some { isRequest := true, methodStr := method, method := parseMethod method,
                   uri := uri, version := version })
    else .ok none
  | _, _ => .ok none

def parseFirstLine (line : Bytes) : Except StdException (Option SipMessage) :=
  if (bytes "SIP/2.0").isPrefixOf line then parseStatusLine line else parseRequestLine line

/-! ## Headers -/

/-- The variables of the header loop. -/
structure HeaderState where
  msg : SipMessage
  contentLength : Int := 0
  lastName : Bytes := []

/-- `catch (...) { contentLength = 0; }` -/
def contentLengthOf (value : Bytes) : Int :=
  match stoi value with
  | .ok n => n
  | .error _ => 0

/-- A line that starts with a space or a tab continues the field named last. -/
def isFolded (line : Bytes) : Bool := line.head? = some sp || line.head? = some tab

/-- The body of the header loop, for a line that is not empty. -/
def headerLine (st : HeaderState) (line : Bytes) : Except StdException HeaderState :=
  if isFolded line then
    if st.lastName.isEmpty then .ok st
    else
      -- `find` may be an earlier field of that name
      .ok { st with msg := { st.msg with
        headers := st.msg.headers.modifyFirst st.lastName (· ++ [sp] ++ trim line) } }
  else
    match findByte colon line 0 with
    | none => .ok st
    | some pos => do
      let name := trim (← substr line 0 pos)
      let value := trim (← substrFrom line (pos + 1))
      let lastName := name.map toLower
      pure
        { msg := st.msg.addHeader name value
          lastName := lastName
          contentLength :=
            if lastName = bytes "content-length" then contentLengthOf value
            else st.contentLength }

/-- The header loop: the final variables and the rest of the stream. -/
def headerLoop : List (Bytes × Bytes) → HeaderState →
    Except StdException (HeaderState × Bytes)
  | [], st => .ok (st, [])
  | (line, rest) :: more, st =>
    let line := stripCr line
    if line.isEmpty then .ok (st, rest)
    else do headerLoop more (← headerLine st line)

/-- `SipParser::parse`. -/
def parse (buffer : Bytes) : Except StdException (Option SipMessage) :=
  match getlines buffer with
  | [] => .ok none
  | (line, _) :: more => do
    match ← parseFirstLine (stripCr line) with
    | none => pure none
    | some msg =>
      let (st, rest) ← headerLoop more { msg := msg }
      let body := if st.contentLength > 0 then rest.take st.contentLength.toNat else []
      pure (some { st.msg with body := body })

/-! ## No exception escapes -/

theorem parseStatusLine_total (line : Bytes) : ∃ r, parseStatusLine line = .ok r := by
  unfold parseStatusLine
  split
  · exact ⟨_, rfl⟩
  · split
    · exact ⟨_, rfl⟩
    · split <;> exact ⟨_, rfl⟩

theorem parseRequestLine_total (line : Bytes) : ∃ r, parseRequestLine line = .ok r := by
  unfold parseRequestLine
  split
  · next firstSpace lastSpace hf hl =>
    have h1 := (findByte_lt hf).2
    have h2 := rfindByte_lt hl
    split
    · rw [substr_of_le _ (Nat.zero_le _),
        substr_of_le _ (show firstSpace + 1 ≤ line.length by omega),
        substrFrom_of_le (show lastSpace + 1 ≤ line.length by omega)]
      exact ⟨_, rfl⟩
    · exact ⟨_, rfl⟩
  · exact ⟨_, rfl⟩

theorem parseFirstLine_total (line : Bytes) : ∃ r, parseFirstLine line = .ok r := by
  unfold parseFirstLine
  split
  · exact parseStatusLine_total line
  · exact parseRequestLine_total line

theorem headerLine_total (st : HeaderState) (line : Bytes) :
    ∃ st', headerLine st line = .ok st' := by
  unfold headerLine
  split
  · split <;> exact ⟨_, rfl⟩
  · split
    · exact ⟨_, rfl⟩
    · next pos hpos =>
      have hlt := (findByte_lt hpos).2
      rw [substr_of_le _ (Nat.zero_le _), substrFrom_of_le (show pos + 1 ≤ line.length by omega)]
      exact ⟨_, rfl⟩

theorem headerLoop_total (ls : List (Bytes × Bytes)) (st : HeaderState) :
    ∃ r, headerLoop ls st = .ok r := by
  induction ls generalizing st with
  | nil => exact ⟨_, rfl⟩
  | cons l more ih =>
    obtain ⟨line, rest⟩ := l
    rw [headerLoop]
    split
    · exact ⟨_, rfl⟩
    · obtain ⟨st', hst'⟩ := headerLine_total st (stripCr line)
      rw [hst']
      exact ih st'

/--
**The SIP parser lets no exception escape**, whatever the bytes.

The buffer for the body has as many bytes as Content-Length says, up to 2 GiB. Its allocation is
taken to succeed.
-/
theorem parse_total (buffer : Bytes) : ∃ r, parse buffer = .ok r := by
  unfold parse
  split
  · exact ⟨_, rfl⟩
  · next line _ more _ =>
    obtain ⟨r, hr⟩ := parseFirstLine_total (stripCr line)
    rw [hr]
    cases r with
    | none => exact ⟨_, rfl⟩
    | some msg =>
      obtain ⟨p, hp⟩ := headerLoop_total more { msg := msg }
      refine ⟨some { p.1.msg with
        body := if p.1.contentLength > 0 then p.2.take p.1.contentLength.toNat else [] }, ?_⟩
      show (headerLoop more { msg := msg } >>= _) = _
      rw [hp]
      rfl

/-- The message that the first line and the header loop lead to. -/
def withBody (r : HeaderState × Bytes) : SipMessage :=
  { r.1.msg with
    body := if r.1.contentLength > 0 then r.2.take r.1.contentLength.toNat else [] }

theorem parse_of_lines {buffer line rest : Bytes} {more : List (Bytes × Bytes)}
    {start : SipMessage} {r : HeaderState × Bytes} (hlines : getlines buffer = (line, rest) :: more)
    (hstart : parseFirstLine (stripCr line) = .ok (some start))
    (hloop : headerLoop more { msg := start } = .ok r) :
    parse buffer = .ok (some (withBody r)) := by
  unfold parse
  rw [hlines]
  show (parseFirstLine (stripCr line) >>= _) = _
  rw [hstart]
  show (headerLoop more { msg := start } >>= _) = _
  rw [hloop]
  rfl

/-- **What a message was parsed from**: a first line, and lines for the header loop. -/
theorem parse_eq_some {buffer : Bytes} {msg : SipMessage} (h : parse buffer = .ok (some msg)) :
    ∃ line rest more start r, getlines buffer = (line, rest) :: more ∧
      parseFirstLine (stripCr line) = .ok (some start) ∧
      headerLoop more { msg := start } = .ok r ∧ msg = withBody r := by
  cases hlines : getlines buffer with
  | nil =>
    unfold parse at h
    rw [hlines] at h
    cases h
  | cons p more =>
    obtain ⟨line, rest⟩ := p
    obtain ⟨first, hfirst⟩ := parseFirstLine_total (stripCr line)
    cases first with
    | none =>
      unfold parse at h
      rw [hlines] at h
      have h' : (parseFirstLine (stripCr line) >>= _) = _ := h
      rw [hfirst] at h'
      cases h'
    | some start =>
      obtain ⟨r, hr⟩ := headerLoop_total more { msg := start }
      rw [parse_of_lines hlines hfirst hr] at h
      cases h
      exact ⟨line, rest, more, start, r, rfl, hfirst, hr, rfl⟩

end SipParser

/-! ## Messages as the parser fills them -/

/--
What the first line fixes for good: `method` is read off `methodStr` in a request,
and neither is set in a response.
-/
structure SipMessage.WellFormed (msg : SipMessage) : Prop where
  request : msg.isRequest = true → msg.method = SipParser.parseMethod msg.methodStr
  response : msg.isRequest = false → msg.method = .unknown ∧ msg.methodStr = []

/-- A message the dispatcher can be handed. -/
abbrev Received := { msg : SipMessage // msg.WellFormed }

namespace SipParser

/-- Whether two messages have the same first line. -/
def SameStart (a b : SipMessage) : Prop :=
  a.isRequest = b.isRequest ∧ a.method = b.method ∧ a.methodStr = b.methodStr

theorem SameStart.wellFormed {a b : SipMessage} (h : SameStart a b) (hb : b.WellFormed) :
    a.WellFormed where
  request hr := by rw [h.2.1, h.2.2]; exact hb.request (h.1 ▸ hr)
  response hr := by rw [h.2.1, h.2.2]; exact hb.response (h.1 ▸ hr)

theorem parseFirstLine_wellFormed {line : Bytes} {msg : SipMessage}
    (h : parseFirstLine line = .ok (some msg)) : msg.WellFormed := by
  unfold parseFirstLine at h
  split at h
  · unfold parseStatusLine at h
    split at h
    · simp at h
    · split at h
      · simp at h
      · split at h
        · simp only [Except.ok.injEq, Option.some.injEq] at h
          subst h
          exact ⟨by simp, fun _ => ⟨rfl, rfl⟩⟩
        · simp at h
  · unfold parseRequestLine at h
    split at h
    · next firstSpace lastSpace hf hl =>
      have h1 := (findByte_lt hf).2
      have h2 := rfindByte_lt hl
      split at h
      · rw [substr_of_le _ (Nat.zero_le _),
          substr_of_le _ (show firstSpace + 1 ≤ line.length by omega),
          substrFrom_of_le (show lastSpace + 1 ≤ line.length by omega)] at h
        simp only [bind, Except.bind, pure, Except.pure, Except.ok.injEq, Option.some.injEq] at h
        subst h
        exact ⟨fun _ => rfl, by simp⟩
      · simp at h
    · simp at h

/-- The first line is no header field. -/
theorem parseFirstLine_headers {line : Bytes} {msg : SipMessage}
    (h : parseFirstLine line = .ok (some msg)) : msg.headers = Multimap.empty := by
  unfold parseFirstLine parseStatusLine parseRequestLine at h
  split at h
  · grind
  · split at h
    · next firstSpace lastSpace hf hl =>
      have h1 := (findByte_lt hf).2
      have h2 := rfindByte_lt hl
      split at h
      · rw [substr_of_le _ (Nat.zero_le _),
          substr_of_le _ (show firstSpace + 1 ≤ line.length by omega),
          substrFrom_of_le (show lastSpace + 1 ≤ line.length by omega)] at h
        simp only [bind, Except.bind, pure, Except.pure, Except.ok.injEq, Option.some.injEq] at h
        rw [← h]
      · cases h
    · cases h

theorem headerLine_sameStart {st st' : HeaderState} {line : Bytes}
    (h : headerLine st line = .ok st') : SameStart st'.msg st.msg := by
  unfold headerLine at h
  split at h
  · split at h <;> (simp only [Except.ok.injEq] at h; subst h; exact ⟨rfl, rfl, rfl⟩)
  · split at h
    · simp only [Except.ok.injEq] at h; subst h; exact ⟨rfl, rfl, rfl⟩
    · next pos hpos =>
      have hlt := (findByte_lt hpos).2
      rw [substr_of_le _ (Nat.zero_le _),
        substrFrom_of_le (show pos + 1 ≤ line.length by omega)] at h
      simp only [bind, Except.bind, pure, Except.pure, Except.ok.injEq] at h
      subst h
      exact ⟨rfl, rfl, rfl⟩

theorem headerLoop_sameStart (ls : List (Bytes × Bytes)) (st : HeaderState)
    {r : HeaderState × Bytes} (h : headerLoop ls st = .ok r) : SameStart r.1.msg st.msg := by
  induction ls generalizing st with
  | nil =>
    simp only [headerLoop, Except.ok.injEq] at h
    subst h
    exact ⟨rfl, rfl, rfl⟩
  | cons l more ih =>
    obtain ⟨line, rest⟩ := l
    rw [headerLoop] at h
    split at h
    · simp only [Except.ok.injEq] at h; subst h; exact ⟨rfl, rfl, rfl⟩
    · obtain ⟨st', hst'⟩ := headerLine_total st (stripCr line)
      rw [hst'] at h
      obtain ⟨a1, a2, a3⟩ := ih st' h
      obtain ⟨b1, b2, b3⟩ := headerLine_sameStart hst'
      exact ⟨a1.trans b1, a2.trans b2, a3.trans b3⟩

/-- **What the parser returns is well formed.** -/
theorem parse_wellFormed {buffer : Bytes} {msg : SipMessage} (h : parse buffer = .ok (some msg)) :
    msg.WellFormed := by
  obtain ⟨line, rest, more, start, r, -, hstart, hloop, rfl⟩ := parse_eq_some h
  have hsame : SameStart (withBody r) r.1.msg := ⟨rfl, rfl, rfl⟩
  exact hsame.wellFormed
    ((headerLoop_sameStart more _ hloop).wellFormed (parseFirstLine_wellFormed hstart))

end SipParser

end SipGateway
