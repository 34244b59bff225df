import SipGateway.Util.Companding
import SipGateway.Media.Stage

/-!
# Downlink audio keeps its loudness

`AudioSocketStage::onAudioSocketData` raises every sample threefold, cuts what no longer fits and
encodes the rest. `transcoding_faithful_iff` says which samples come out near what went in.
-/

namespace SipGateway

open Infra

namespace AudioSocketStage

/-- The bytes `onAudioSocketData` puts behind the buffer. -/
def appended (st : AudioSocketStage) (data : Bytes) : Bytes :=
  st.encode ((pcmOfBytes data).map gain)

theorem onAudioSocketData_eq (st : AudioSocketStage) {data : Bytes} (h : data.length % 2 = 0) :
    (st.onAudioSocketData data).downlinkBuffer =
      boundBuffer (st.downlinkBuffer ++ st.appended data) := by
  unfold onAudioSocketData
  rw [if_neg (by omega)]
  rfl

theorem gain_mem (k : Int) : -32768 ≤ gain k ∧ gain k ≤ 32767 := clampInt16_mem _

/-- The samples that are cut at the lower end. -/
theorem gain_eq_min_iff (k : Int) : gain k = -32768 ↔ k < -10922 := by
  unfold gain clampInt16
  split
  · omega
  · split <;> omega

/-- One sample there and back, under the law of the stage. -/
def roundTrip (st : AudioSocketStage) (s : Int) : Int :=
  if st.payloadType = 0 then G711Utils.ulawToLinear (G711Utils.linearToULaw s)
  else G711Utils.alawToLinear (G711Utils.linearToALaw s)

/-- Decoding what was encoded, sample by sample. -/
theorem decode_encode (st : AudioSocketStage) (pcm : List Int) :
    st.decode (st.encode pcm) = pcm.map st.roundTrip := by
  unfold decode encode roundTrip G711Utils.decodeULaw G711Utils.encodeULaw G711Utils.decodeALaw
    G711Utils.encodeALaw
  split <;> simp [*]

theorem roundTrip_near_iff (st : AudioSocketStage) {s : Int} (h : -32768 ≤ s) (h' : s ≤ 32767) :
    G711Utils.Near (st.roundTrip s) s ↔ s ≠ -32768 := by
  by_cases hs : s = -32768
  · subst hs
    refine iff_of_false ?_ (by simp)
    unfold roundTrip
    split
    · exact G711Utils.not_near_min.1
    · exact G711Utils.not_near_min.2
  · refine iff_of_true ?_ hs
    unfold roundTrip
    split
    · exact G711Utils.ulaw_near (by omega) h'
    · exact G711Utils.alaw_near (by omega) h'

/--
**Which samples are transcoded faithfully**: all but those the gain cuts at -32768, that is
below -10922.
-/
theorem transcoding_faithful_iff (st : AudioSocketStage) {data : Bytes}
    (heven : data.length % 2 = 0) {i : Nat} {k : Int} (hk : (pcmOfBytes data)[i]? = some k) :
    (st.onAudioSocketData data).downlinkBuffer =
      boundBuffer (st.downlinkBuffer ++ st.appended data) ∧
    ∃ d, (st.decode (st.appended data))[i]? = some d ∧
      (32 * |d - gain k| ≤ |gain k| + 256 ↔ -10922 ≤ k) := by
  refine ⟨st.onAudioSocketData_eq heven, st.roundTrip (gain k), ?_, ?_⟩
  · unfold appended
    rw [decode_encode]
    simp [hk]
  · have hnear := st.roundTrip_near_iff (gain_mem k).1 (gain_mem k).2
    rw [ne_eq, gain_eq_min_iff, not_lt] at hnear
    exact hnear

theorem transcoding_faithful_iff_quiet :
    ∃ d, (({ payloadType := 0 } : AudioSocketStage).decode
        (({ payloadType := 0 } : AudioSocketStage).appended [100, 0]))[0]? = some d ∧
      (32 * |d - gain 100| ≤ |gain 100| + 256 ↔ -10922 ≤ (100 : Int)) :=
  (@transcoding_faithful_iff { payloadType := 0 } [100, 0] (by decide) 0 100 (by decide)).2

/-- The loudest negative sample comes out as silence, in both laws. -/
theorem loudest_is_silenced :
    [(0 : Int), 8].Forall fun payloadType =>
      (({ payloadType := payloadType } : AudioSocketStage).onAudioSocketData
        [0x00, 0x80]).downlinkBuffer.length = 1 ∧
      ¬ ∀ s ∈ (pcmOfBytes [0x00, 0x80]).map gain,
        ∀ d ∈ ({ payloadType := payloadType } : AudioSocketStage).decode
          (({ payloadType := payloadType } : AudioSocketStage).onAudioSocketData
            [0x00, 0x80]).downlinkBuffer,
          32 * |d - s| ≤ |s| + 256 := by
  refine ⟨?_, ?_⟩ <;> decide +kernel

end AudioSocketStage

end SipGateway
