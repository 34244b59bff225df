import SipGateway.Sdp.Answer

/-!
# The sections of an offer

An offer read as its author means it: lines for the whole session, then media sections, each an
`m=` line with the lines that follow it. A `c=` line is about the section it stands in, and one
before the first section about all those without their own.

The parser knows no sections. `parse_sections` says what of them is left in an `SdpSession`: the
media in order, and one address, the last of the whole body.
-/

namespace SipGateway

open Infra

/-- A line as the parser takes it apart. -/
abbrev SdpLine := UInt8 × Bytes

namespace SdpLine

def isConnection (l : SdpLine) : Bool := l.1 == 99

def isMedia (l : SdpLine) : Bool := l.1 == 109

/-- The IP4 address of a `c=` line. -/
def address (l : SdpLine) : Option Bytes :=
  if l.isConnection then SdpParser.connectionAddress l.2 else none

/-- What an `m=` line describes. -/
def media (l : SdpLine) : Option SdpMedia :=
  if l.isMedia then some (SdpParser.parseMedia l.2) else none

end SdpLine

/-- A media section: its `m=` line and what follows it. -/
structure SdpSection where
  media : SdpMedia
  lines : List SdpLine
deriving DecidableEq

namespace SdpSection

/-- The sections among some lines. -/
def ofLines : List SdpLine → List SdpSection
  | [] => []
  | l :: ls =>
    match l.media with
    | some m => { media := m, lines := ls.takeWhile (!·.isMedia) } :: ofLines ls
    | none => ofLines ls

end SdpSection

/-- An offer: the lines before the first section, and the sections. -/
structure SdpOffer where
  session : List SdpLine
  sections : List SdpSection
deriving DecidableEq

namespace SdpOffer

/-- The lines of a body. -/
def linesOf (body : Bytes) : List SdpLine := (lines body).filterMap SdpParser.splitLine

def ofBody (body : Bytes) : SdpOffer where
  session := (linesOf body).takeWhile (!·.isMedia)
  sections := SdpSection.ofLines (linesOf body)

/-- The last IP4 address that some lines give. -/
def lastAddress (ls : List SdpLine) : Option Bytes := (ls.filterMap SdpLine.address).getLast?

/-- The IP4 address in effect for a section: its own if it has a `c=` line, else the session's. -/
def addressFor (offer : SdpOffer) (sec : SdpSection) : Option Bytes :=
  if sec.lines.any (·.isConnection) then lastAddress sec.lines else lastAddress offer.session

/-- The sections for audio. -/
def audioSections (offer : SdpOffer) : List SdpSection :=
  offer.sections.filter fun sec => sec.media.type = bytes "audio"

end SdpOffer

/-! ## What the parser keeps of the sections -/

namespace SdpSection

theorem ofLines_media (ls : List SdpLine) :
    (ofLines ls).map SdpSection.media = ls.filterMap SdpLine.media := by
  induction ls with
  | nil => rfl
  | cons l ls ih =>
    unfold ofLines
    split
    · next m hm => rw [List.map_cons, ih, List.filterMap_cons_some hm]
    · next hm => rw [ih, List.filterMap_cons_none hm]

end SdpSection

namespace SdpParser

/-- What a line does to the address and the media. -/
theorem parseLine_keeps {session session' : SdpSession} {line : Bytes}
    (h : parseLine session line = .ok session') :
    session'.connectionIp =
      ((splitLine line).bind SdpLine.address).getD session.connectionIp ∧
    session'.media = session.media ++ ((splitLine line).bind SdpLine.media).toList := by
  unfold parseLine at h
  unfold SdpLine.address SdpLine.media SdpLine.isConnection SdpLine.isMedia
  split at h
  · next hs =>
    cases h
    simp [hs]
  · next type value hs =>
    rw [hs]
    simp only [Option.bind_some, beq_iff_eq]
    by_cases hc : type = 99
    · subst hc
      cases h
      simp
    · by_cases hm : type = 109
      · subst hm
        cases h
        simp
      · rw [if_neg hc, if_neg hm]
        simp only [if_neg hc, if_neg hm, Option.getD_none, Option.toList_none,
          List.append_nil] at h ⊢
        -- the other types touch other fields
        repeat' split at h
        all_goals try (cases h; exact ⟨rfl, rfl⟩)
        cases hr : parseRtpmap value with
        | error e => simp [bind, Except.bind, hr] at h
        | ok r =>
          simp only [bind, Except.bind, hr, pure, Except.pure] at h
          split at h <;> (cases h; exact ⟨rfl, rfl⟩)

/-- The last address of the lines wins, and every `m=` line adds its media. -/
theorem foldlM_parseLine_keeps (ls : List Bytes) (session session' : SdpSession)
    (h : ls.foldlM parseLine session = .ok session') :
    session'.connectionIp =
      (SdpOffer.lastAddress (ls.filterMap splitLine)).getD session.connectionIp ∧
    session'.media = session.media ++ (ls.filterMap splitLine).filterMap SdpLine.media := by
  induction ls generalizing session with
  | nil =>
    cases h
    exact ⟨rfl, (List.append_nil _).symm⟩
  | cons line ls ih =>
    rw [List.foldlM_cons] at h
    cases hline : parseLine session line with
    | error e => rw [hline] at h; cases h
    | ok mid =>
      rw [hline] at h
      -- the first line is read into `session`, and the others into what comes of it
      obtain ⟨hip, hmedia⟩ := parseLine_keeps hline
      obtain ⟨hip', hmedia'⟩ := ih mid h
      rw [hip', hmedia', hip, hmedia]
      unfold SdpOffer.lastAddress
      cases hs : splitLine line with
      | none => simp [hs]
      | some l =>
        rw [List.filterMap_cons_some hs]
        simp only [Option.bind_some]
        constructor
        · cases ha : SdpLine.address l with
          | none => rw [List.filterMap_cons_none ha]; rfl
          | some a => rw [List.filterMap_cons_some ha, List.getLast?_cons]; rfl
        · cases hm : SdpLine.media l with
          | none => simp [hm]
          | some m => simp [hm]

/-- **What is left of the sections**: their media, and the last address of the body. -/
theorem parse_sections {body : Bytes} {session : SdpSession} (h : parse body = .ok (some session)) :
    session.connectionIp = (SdpOffer.lastAddress (SdpOffer.linesOf body)).getD [] ∧
    session.media = (SdpOffer.ofBody body).sections.map SdpSection.media := by
  unfold parse at h
  cases hf : (lines body).foldlM parseLine ({} : SdpSession) with
  | error e => rw [hf] at h; simp [bind, Except.bind] at h
  | ok session' =>
    rw [hf] at h
    simp only [bind, Except.bind, pure, Except.pure, Except.ok.injEq, Option.some.injEq] at h
    subst h
    obtain ⟨hip, hmedia⟩ := foldlM_parseLine_keeps _ _ _ hf
    refine ⟨hip, ?_⟩
    rw [hmedia, List.nil_append]
    exact (SdpSection.ofLines_media _).symm

end SdpParser

/-- The codec is negotiated for the first audio section. -/
theorem SdpAnswer.firstAudio_sections {body : Bytes} {session : SdpSession}
    (h : SdpParser.parse body = .ok (some session)) :
    firstAudio session = (SdpOffer.ofBody body).audioSections.head?.map SdpSection.media := by
  unfold firstAudio SdpOffer.audioSections
  rw [(SdpParser.parse_sections h).2, List.find?_map, List.head?_filter]
  rfl

end SipGateway
