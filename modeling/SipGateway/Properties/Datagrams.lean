import SipGateway.App.World

/-!
# Datagrams that end the process

Nothing between `SipServer::poll` and `main` catches an exception. The SIP parser throws none; the
SDP parser reads one number without a guard.
-/

namespace SipGateway

open Infra

/-- Neither parser lets an exception escape. -/
def SurvivesParsing (datagram : Bytes) : Prop :=
  ∃ r, SipParser.parse datagram = .ok r ∧
    ∀ msg, r = some msg → ∃ sdp, SdpParser.parse msg.body = .ok sdp

/--
**Which datagrams the parsers survive**: those whose body has, in each of its `a=rtpmap:` lines
with a space, a number that `std::stoi` takes.

A Content-Length of up to 2 GiB is taken to find the memory it asks for.
-/
theorem survivesParsing_iff (datagram : Bytes) :
    SurvivesParsing datagram ↔ ∀ msg, SipParser.parse datagram = .ok (some msg) →
      ∀ line ∈ lines msg.body, SdpParser.NumberedRtpmap line := by
  obtain ⟨r, hr⟩ := SipParser.parse_total datagram
  unfold SurvivesParsing
  rw [hr]
  constructor
  · rintro ⟨r', hr', hall⟩ msg hmsg
    cases hr'
    exact (SdpParser.parse_ok_iff msg.body).mp (hall msg (Except.ok.inj hmsg))
  · intro hall
    exact ⟨r, rfl, fun msg hmsg => (SdpParser.parse_ok_iff msg.body).mpr (hall msg (by rw [hmsg]))⟩

/-- An INVITE whose offer has an rtpmap without a number. -/
def badRtpmap : Bytes :=
  bytes "INVITE sip:b SIP/2.0\r\nCall-ID: a\r\nContent-Length: 14\r\n\r\na=rtpmap:x y\r\n"

/-- The SIP parser takes it, the SDP parser throws, and with it the dispatcher. -/
theorem badRtpmap_kills :
    ¬ SurvivesParsing badRtpmap ∧
    (World.start World.exampleConfig 1).gateway.receive { start := 0 } badRtpmap {} matches
      .error ⟨.uncaught .invalidArgument, _⟩ := by
  constructor
  · rintro ⟨r, hr, hall⟩
    have hparse : ((SipParser.parse badRtpmap).toOption.bind id).any (fun msg =>
        SdpParser.parse msg.body matches .error .invalidArgument) = true := by decide +kernel
    rw [hr] at hparse
    cases r with
    | none => cases hparse
    | some msg =>
      obtain ⟨sdp, hsdp⟩ := hall msg rfl
      simp [Except.toOption, hsdp] at hparse
  · decide +kernel

end SipGateway
