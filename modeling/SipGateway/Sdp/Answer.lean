import SipGateway.Sdp.Parser

/-!
# The SDP answer

`SdpAnswer.cpp`: the codec is the first preference that the first audio section offers.
-/

namespace SipGateway

open Infra

/-- `struct NegotiatedCodec`. -/
structure NegotiatedCodec where
  payloadType : Int := -1
  name : Bytes := []
  rate : Int := 0
deriving DecidableEq

namespace SdpAnswer

/-- The first audio section. -/
def firstAudio (offer : SdpSession) : Option SdpMedia :=
  offer.media.find? fun m => m.type = bytes "audio"

/-- The name of an offered payload type: its rtpmap entry, or the static default. -/
def codecName (offer : SdpSession) (pt : Int) : Bytes :=
  match offer.rtpMap[pt]? with
  | some name => name
  | none => if pt = 0 then bytes "PCMU" else if pt = 8 then bytes "PCMA" else []

/-- The two nested loops up to `goto codec_found`. -/
def negotiate (offer : SdpSession) (audio : SdpMedia) : List Bytes → NegotiatedCodec
  | [] => {}
  | pref :: rest =>
    match audio.payloadTypes.find? fun pt => codecName offer pt = pref with
    | some pt => { payloadType := pt, name := codecName offer pt, rate := 8000 }
    | none => negotiate offer audio rest

/-- The `m=` line of the answer. -/
def mediaLine (localPort payloadType : Int) : Bytes :=
  bytes "m=audio " ++ decimal localPort ++ bytes " RTP/AVP " ++ decimal payloadType

/-- The `a=rtpmap:` line of the answer. -/
def rtpmapLine (codec : NegotiatedCodec) : Bytes :=
  bytes "a=rtpmap:" ++ decimal codec.payloadType ++ [sp] ++ codec.name ++ [47] ++
    decimal codec.rate

/-- The lines written to the stream, each followed by `\r\n`. -/
def answerLines (localIp : Bytes) (localPort : Int) (codec : NegotiatedCodec) : List Bytes :=
  [bytes "v=0",
   bytes "o=- 123456 123456 IN IP4 " ++ localIp,
   bytes "s=Gateway",
   bytes "c=IN IP4 " ++ localIp,
   bytes "t=0 0",
   mediaLine localPort codec.payloadType,
   rtpmapLine codec,
   bytes "a=sendrecv"]

/-- The text of the answer. -/
def answerText (localIp : Bytes) (localPort : Int) (codec : NegotiatedCodec) : Bytes :=
  (answerLines localIp localPort codec).flatMap (· ++ [cr, nl])

/-- `SdpAnswer::generate`: the text (empty without a codec) and `outCodec`. -/
def generate (offer : SdpSession) (localIp : Bytes) (localPort : Int) (preference : List Bytes) :
    Bytes × NegotiatedCodec :=
  match firstAudio offer with
  | none => ([], {})
  | some audio =>
    let codec := negotiate offer audio preference
    if codec.payloadType = -1 then ([], codec)
    else (answerText localIp localPort codec, codec)

/-! ## What the loops choose -/

/--
The choice of the loops, said without them: `name` is the first preference any offered payload
type has as its name, and `pt` the first offered payload type with that name.
-/
structure Chosen (offer : SdpSession) (audio : SdpMedia) (preference : List Bytes)
    (pt : Int) (name : Bytes) : Prop where
  prefers : ∃ before after, preference = before ++ name :: after ∧
    ∀ q ∈ before, ∀ x ∈ audio.payloadTypes, codecName offer x ≠ q
  offers : ∃ before after, audio.payloadTypes = before ++ pt :: after ∧
    ∀ x ∈ before, codecName offer x ≠ name
  named : codecName offer pt = name

theorem negotiate_cases (offer : SdpSession) (audio : SdpMedia) (preference : List Bytes) :
    (negotiate offer audio preference = {} ∧
      ∀ q ∈ preference, ∀ x ∈ audio.payloadTypes, codecName offer x ≠ q) ∨
    ∃ pt name, negotiate offer audio preference =
      { payloadType := pt, name := name, rate := 8000 } ∧
      Chosen offer audio preference pt name := by
  induction preference with
  | nil => exact Or.inl ⟨rfl, by simp⟩
  | cons pref rest ih =>
    rw [negotiate]
    split
    · next pt hpt =>
      obtain ⟨hp, l, r, hlr, hl⟩ := List.find?_eq_some_iff_append.mp hpt
      have hname : codecName offer pt = pref := by simpa using hp
      refine Or.inr ⟨pt, pref, by rw [hname], ⟨[], rest, rfl, by simp⟩, ⟨l, r, hlr, ?_⟩, hname⟩
      intro x hx
      simpa using hl x hx
    · next hnone =>
      have hno : ∀ x ∈ audio.payloadTypes, codecName offer x ≠ pref := by
        intro x hx
        simpa using List.find?_eq_none.mp hnone x hx
      rcases ih with ⟨he, hall⟩ | ⟨pt, name, he, hc⟩
      · refine Or.inl ⟨he, fun q hq => ?_⟩
        rcases List.mem_cons.mp hq with rfl | hq
        · exact hno
        · exact hall q hq
      · obtain ⟨⟨before, after, hpre, hbef⟩, hoff, hnm⟩ := hc
        refine Or.inr ⟨pt, name, he, ⟨pref :: before, after, by rw [hpre]; rfl, ?_⟩, hoff, hnm⟩
        intro q hq
        rcases List.mem_cons.mp hq with rfl | hq
        · exact hno
        · exact hbef q hq

/-- At most one payload type is chosen. -/
theorem Chosen.unique {offer : SdpSession} {audio : SdpMedia} {preference : List Bytes}
    {pt pt' : Int} {name name' : Bytes} (h : Chosen offer audio preference pt name)
    (h' : Chosen offer audio preference pt' name') : pt = pt' ∧ name = name' := by
  have hmem : ∀ {q n}, Chosen offer audio preference q n → q ∈ audio.payloadTypes := by
    intro q n hq
    obtain ⟨before, after, hpts, -⟩ := hq.offers
    rw [hpts]
    simp
  have hname : name = name' := by
    obtain ⟨b, a, hp, hb⟩ := h.prefers
    obtain ⟨b', a', hp', hb'⟩ := h'.prefers
    rw [hp] at hp'
    rcases List.append_eq_append_iff.mp hp' with ⟨c, hc, hc'⟩ | ⟨c, hc, hc'⟩
    · cases c with
      | nil => exact (List.cons.inj hc').1
      | cons x c =>
        -- the first name would come before the second, where nothing is offered
        have hx : name = x := (List.cons.inj hc').1
        exact absurd h.named (hb' name (by rw [hc, ← hx]; simp) pt (hmem h))
    · cases c with
      | nil => exact (List.cons.inj hc').1.symm
      | cons x c =>
        have hx : name' = x := (List.cons.inj hc').1
        exact absurd h'.named (hb name' (by rw [hc, ← hx]; simp) pt' (hmem h'))
  subst hname
  refine ⟨?_, rfl⟩
  obtain ⟨b, a, hp, hb⟩ := h.offers
  obtain ⟨b', a', hp', hb'⟩ := h'.offers
  rw [hp] at hp'
  rcases List.append_eq_append_iff.mp hp' with ⟨c, hc, hc'⟩ | ⟨c, hc, hc'⟩
  · cases c with
    | nil => exact (List.cons.inj hc').1
    | cons x c =>
      have hx : pt = x := (List.cons.inj hc').1
      exact absurd h.named (hb' pt (by rw [hc, ← hx]; simp))
  · cases c with
    | nil => exact (List.cons.inj hc').1.symm
    | cons x c =>
      have hx : pt' = x := (List.cons.inj hc').1
      exact absurd h'.named (hb pt' (by rw [hc, ← hx]; simp))

theorem generate_of_firstAudio {offer : SdpSession} {audio : SdpMedia}
    (h : firstAudio offer = some audio) (localIp : Bytes) (localPort : Int)
    (preference : List Bytes) :
    generate offer localIp localPort preference =
      if (negotiate offer audio preference).payloadType = -1
      then ([], negotiate offer audio preference)
      else (answerText localIp localPort (negotiate offer audio preference),
        negotiate offer audio preference) := by
  unfold generate
  rw [h]

/-- A non-empty answer comes from a codec the loops found. -/
theorem generate_chosen {offer : SdpSession} {localIp : Bytes} {localPort : Int}
    {preference : List Bytes}
    (h : (generate offer localIp localPort preference).1 ≠ []) :
    ∃ audio pt name, firstAudio offer = some audio ∧ Chosen offer audio preference pt name ∧
      pt ≠ -1 ∧ generate offer localIp localPort preference =
        (answerText localIp localPort { payloadType := pt, name := name, rate := 8000 },
          { payloadType := pt, name := name, rate := 8000 }) := by
  cases ha : firstAudio offer with
  | none => simp [generate, ha] at h
  | some audio =>
    rw [generate_of_firstAudio ha] at h ⊢
    by_cases hpt : (negotiate offer audio preference).payloadType = -1
    · simp [hpt] at h
    · rw [if_neg hpt]
      rcases negotiate_cases offer audio preference with ⟨he, -⟩ | ⟨pt, name, he, hc⟩
      · rw [he] at hpt
        exact absurd rfl hpt
      · rw [he] at hpt ⊢
        exact ⟨audio, pt, name, rfl, hc, hpt, rfl⟩

theorem answerText_ne_nil (localIp : Bytes) (localPort : Int) (codec : NegotiatedCodec) :
    answerText localIp localPort codec ≠ [] := by
  simp [answerText, answerLines]

/-- The port in the `m=` line of a body. -/
def AdvertisesPort (body : Bytes) (port : Int) : Prop :=
  ∃ payloadType : Int, mediaLine port payloadType ∈ (lines body).map stripCr

/-- The lines of the answer can be read back. -/
theorem mem_lines_answerText {localIp : Bytes} {localPort : Int} {codec : NegotiatedCodec}
    {line : Bytes} (h : line ∈ answerLines localIp localPort codec) (hnl : nl ∉ line) :
    line ∈ (lines (answerText localIp localPort codec)).map stripCr :=
  List.mem_map.mpr ⟨line ++ [cr], mem_lines_flatMap hnl h, stripCr_append_cr line⟩

/-- **An answer advertises the port it was made for.** -/
theorem answerText_advertisesPort (localIp : Bytes) (localPort : Int) (codec : NegotiatedCodec) :
    AdvertisesPort (answerText localIp localPort codec) localPort := by
  refine ⟨codec.payloadType, mem_lines_answerText (by simp [answerLines]) ?_⟩
  unfold mediaLine
  simp only [List.mem_append, not_or]
  exact ⟨⟨⟨by decide, nl_not_mem_decimal _⟩, by decide⟩, nl_not_mem_decimal _⟩

/-- An answer names its codec. -/
theorem rtpmapLine_mem_answerText (localIp : Bytes) (localPort : Int) {codec : NegotiatedCodec}
    (h : nl ∉ codec.name) :
    rtpmapLine codec ∈ (lines (answerText localIp localPort codec)).map stripCr := by
  refine mem_lines_answerText (by simp [answerLines]) ?_
  unfold rtpmapLine
  simp only [List.mem_append, not_or]
  exact ⟨⟨⟨⟨⟨by decide, nl_not_mem_decimal _⟩, by decide⟩, h⟩, by decide⟩, nl_not_mem_decimal _⟩

/-- Whether the offer leads to an answer; neither the local address nor the port matters. -/
def Negotiable (offer : SdpSession) (preference : List Bytes) : Prop :=
  ∃ audio, firstAudio offer = some audio ∧ (negotiate offer audio preference).payloadType ≠ -1

theorem generate_ne_nil_iff (offer : SdpSession) (localIp : Bytes) (localPort : Int)
    (preference : List Bytes) :
    (generate offer localIp localPort preference).1 ≠ [] ↔ Negotiable offer preference := by
  cases ha : firstAudio offer with
  | none => simp [generate, Negotiable, ha]
  | some audio =>
    rw [generate_of_firstAudio ha, Negotiable, ha]
    by_cases h : (negotiate offer audio preference).payloadType = -1
    · simp [h]
    · simp [h, answerText_ne_nil]

/-- The answer to a negotiable offer, for any port. -/
theorem generate_of_negotiable {offer : SdpSession} {preference : List Bytes}
    (h : Negotiable offer preference) (localIp : Bytes) (localPort : Int) :
    ∃ codec, (generate offer localIp localPort preference).1 =
      answerText localIp localPort codec := by
  obtain ⟨audio, haudio, hpt⟩ := h
  exact ⟨_, by rw [generate_of_firstAudio haudio, if_neg hpt]⟩

end SdpAnswer

end SipGateway
