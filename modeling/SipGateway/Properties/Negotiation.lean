import SipGateway.Sdp.Answer

/-!
# The codec that is negotiated

`SdpAnswer::generate` looks for a preference with two nested loops and a `goto`. `Chosen` says
which pair they find; here it is related to what the answer says and to when there is one.
-/

namespace SipGateway

open Infra

namespace SdpAnswer

/-- Whether a payload type of the first audio section has a name we prefer. -/
def OffersPreferred (offer : SdpSession) (preference : List Bytes) : Prop :=
  ∃ audio, firstAudio offer = some audio ∧
    ∃ pt ∈ audio.payloadTypes, codecName offer pt ∈ preference

/-- A text whose one `m=` line and one `a=rtpmap:` line are about the codec. -/
structure IsAbout (text localIp : Bytes) (localPort : Int) (codec : NegotiatedCodec) : Prop where
  text_eq : text = (answerLines localIp localPort codec).flatMap (· ++ [cr, nl])
  media : (answerLines localIp localPort codec).filter ((bytes "m=").isPrefixOf ·) =
    [mediaLine localPort codec.payloadType]
  rtpmap : (answerLines localIp localPort codec).filter ((bytes "a=rtpmap:").isPrefixOf ·) =
    [rtpmapLine codec]

theorem answerText_isAbout (localIp : Bytes) (localPort : Int) (codec : NegotiatedCodec) :
    IsAbout (answerText localIp localPort codec) localIp localPort codec :=
  ⟨rfl, rfl, rfl⟩

theorem Chosen.mem_payloadTypes {offer : SdpSession} {audio : SdpMedia} {preference : List Bytes}
    {pt : Int} {name : Bytes} (h : Chosen offer audio preference pt name) :
    pt ∈ audio.payloadTypes := by
  obtain ⟨before, after, hpts, -⟩ := h.offers
  simp [hpts]

theorem Chosen.mem_preference {offer : SdpSession} {audio : SdpMedia} {preference : List Bytes}
    {pt : Int} {name : Bytes} (h : Chosen offer audio preference pt name) :
    name ∈ preference := by
  obtain ⟨before, after, hpref, -⟩ := h.prefers
  simp [hpref]

theorem firstAudio_mem {offer : SdpSession} {audio : SdpMedia}
    (h : firstAudio offer = some audio) : audio ∈ offer.media :=
  List.mem_of_find?_eq_some h

/-- When the loops find nothing, no preferred name is offered. -/
theorem negotiate_eq_none_iff {offer : SdpSession} {audio : SdpMedia}
    (hpts : ∀ pt ∈ audio.payloadTypes, 0 ≤ pt) (preference : List Bytes) :
    (negotiate offer audio preference).payloadType = -1 ↔
      ∀ pt ∈ audio.payloadTypes, codecName offer pt ∉ preference := by
  rcases negotiate_cases offer audio preference with ⟨he, hno⟩ | ⟨pt, name, he, hc⟩
  · rw [he]
    refine iff_of_true rfl fun pt hpt hmem => ?_
    exact hno _ hmem pt hpt rfl
  · have hpt := hpts pt hc.mem_payloadTypes
    rw [he]
    refine iff_of_false ?_ fun hno => ?_
    · dsimp only
      omega
    · exact hno pt hc.mem_payloadTypes (hc.named ▸ hc.mem_preference)

/-- Two sections, the static number of PCMU given to another codec, and both of ours offered. -/
def remappedOffer : SdpSession :=
  { media :=
      [{ type := bytes "video", port := 4002, payloadTypes := [31] },
       { type := bytes "audio", port := 4000, payloadTypes := [0, 8, 96] }]
    rtpMap := ((∅ : Std.ExtTreeMap Int Bytes).insert 0 (bytes "opus")).insert 96 (bytes "PCMU") }

example : (generate remappedOffer [49] 20000 [bytes "PCMU", bytes "PCMA"]).2 =
    { payloadType := 96, name := bytes "PCMU", rate := 8000 } := by decide +kernel

end SdpAnswer

end SipGateway
