import SipGateway.Infra.Bytes

/-!
# G.711

`G711Utils.h`, in the arithmetic of the source: `int` intermediate values, `int16_t` variables
that wrap, `uint8_t` results.
-/

namespace SipGateway

open Infra

/-- A value stored in an `int16_t`. -/
def toInt16 (v : Int) : Int := (v + 32768) % 65536 - 32768

/-- `if (v > 32767) v = 32767; if (v < -32768) v = -32768;` -/
def clampInt16 (v : Int) : Int := if v > 32767 then 32767 else if v < -32768 then -32768 else v

/-- `memcpy` of `int16_t` samples into bytes, on a little-endian host. -/
def pcmBytes (pcm : List Int) : Bytes :=
  pcm.flatMap fun v => [UInt8.ofNat (v % 65536).toNat, UInt8.ofNat ((v % 65536).toNat / 256)]

/-- `memcpy` of bytes into `int16_t` samples, on a little-endian host. -/
def pcmOfBytes : Bytes → List Int
  | lo :: hi :: rest => toInt16 (lo.toNat + 256 * hi.toNat : Nat) :: pcmOfBytes rest
  | _ => []

/-! ## Samples as bytes -/

theorem length_pcmBytes (pcm : List Int) : (pcmBytes pcm).length = 2 * pcm.length := by
  induction pcm with
  | nil => rfl
  | cons v pcm ih =>
    show (pcmBytes pcm).length + 2 = 2 * (pcm.length + 1)
    rw [ih]
    omega

/-- A value of 16 bits is read back from its two bytes. -/
theorem toInt16_bytes {v : Int} (h : -32768 ≤ v) (h' : v ≤ 32767) :
    toInt16 ((UInt8.ofNat (v % 65536).toNat).toNat +
      256 * (UInt8.ofNat ((v % 65536).toNat / 256)).toNat : Nat) = v := by
  rw [UInt8.toNat_ofNat', UInt8.toNat_ofNat']
  unfold toInt16
  omega

/-- Samples of 16 bits are read back from their bytes. -/
theorem pcmOfBytes_pcmBytes {pcm : List Int} (h : ∀ v ∈ pcm, -32768 ≤ v ∧ v ≤ 32767) :
    pcmOfBytes (pcmBytes pcm) = pcm := by
  induction pcm with
  | nil => rfl
  | cons v pcm ih =>
    obtain ⟨⟨hlow, hhigh⟩, hrest⟩ := List.forall_mem_cons.mp h
    show toInt16 _ :: pcmOfBytes (pcmBytes pcm) = _
    rw [toInt16_bytes hlow hhigh, ih hrest]

theorem clampInt16_mem (v : Int) : -32768 ≤ clampInt16 v ∧ clampInt16 v ≤ 32767 := by
  unfold clampInt16
  split
  · omega
  · split <;> omega

theorem toInt16_mem (v : Int) : -32768 ≤ toInt16 v ∧ toInt16 v ≤ 32767 := by
  unfold toInt16
  omega

/-! ## The two laws -/

namespace G711Utils

def ulawToLinear (ulaw : UInt8) : Int :=
  let u := (~~~ulaw).toNat
  let t : Int := ((u % 16) * 8 + 0x84) * 2 ^ (u / 16 % 8)
  toInt16 (if u ≥ 0x80 then 0x84 - t else t - 0x84)

def alawToLinear (alaw : UInt8) : Int :=
  let a := (alaw ^^^ 0x55).toNat
  let t : Int := (a % 16) * 16
  let seg := a / 16 % 8
  let t := if seg ≠ 0 then (t + 0x108) * 2 ^ (seg - 1) else t + 8
  toInt16 (if a ≥ 0x80 then t else -t)

/-- The chain of comparisons both encoders have. -/
def segment (pcm : Int) : Nat :=
  if pcm ≤ 0xFF then 0
  else if pcm ≤ 0x1FF then 1
  else if pcm ≤ 0x3FF then 2
  else if pcm ≤ 0x7FF then 3
  else if pcm ≤ 0xFFF then 4
  else if pcm ≤ 0x1FFF then 5
  else if pcm ≤ 0x3FFF then 6
  else 7

/-- `(seg << 4) | ((pcm >> shift) & 0x0F)`. -/
def packSegment (seg : Nat) (pcm : Int) (shift : Nat) : UInt8 :=
  UInt8.ofNat ((seg <<< 4) ||| ((pcm / 2 ^ shift) % 16).toNat)

def linearToULaw (pcm : Int) : UInt8 :=
  let mask : UInt8 := if pcm < 0 then 0x7F else 0xFF
  let pcm := if pcm < 0 then toInt16 (-pcm) else pcm
  let pcm := if pcm > 32635 then 32635 else pcm
  let pcm := toInt16 (pcm + 0x84)
  let seg := segment pcm
  packSegment seg pcm (seg + 3) ^^^ mask

def linearToALaw (pcm : Int) : UInt8 :=
  let mask : UInt8 := if pcm ≥ 0 then 0xD5 else 0x55
  let pcm := if pcm ≥ 0 then pcm else toInt16 (-pcm)
  let pcm := if pcm > 32767 then 32767 else pcm
  let seg := segment pcm
  packSegment seg pcm (if seg < 2 then 4 else seg + 3) ^^^ mask

def decodeULaw (input : Bytes) : List Int := input.map ulawToLinear

def decodeALaw (input : Bytes) : List Int := input.map alawToLinear

def encodeULaw (input : List Int) : Bytes := input.map linearToULaw

def encodeALaw (input : List Int) : Bytes := input.map linearToALaw

/-- The samples that audio of a payload type stands for: 0 is PCMU, anything else taken for PCMA. -/
def samples (payloadType : Int) (audio : Bytes) : List Int :=
  if payloadType = 0 then decodeULaw audio else decodeALaw audio

/-- The audio of a payload type that stands for some samples. -/
def companded (payloadType : Int) (pcm : List Int) : Bytes :=
  if payloadType = 0 then encodeULaw pcm else encodeALaw pcm

theorem samples_append (payloadType : Int) (a b : Bytes) :
    samples payloadType (a ++ b) = samples payloadType a ++ samples payloadType b := by
  unfold samples decodeULaw decodeALaw
  split <;> exact List.map_append

@[simp] theorem length_samples (payloadType : Int) (audio : Bytes) :
    (samples payloadType audio).length = audio.length := by
  unfold samples decodeULaw decodeALaw
  split <;> exact List.length_map _

theorem samples_ite (payloadType : Int) (p : Prop) [Decidable p] (audio : Bytes) :
    samples payloadType (if p then audio else []) =
      if p then samples payloadType audio else [] := by
  split
  · rfl
  · exact List.length_eq_zero_iff.mp (length_samples payloadType [])

theorem samples_mem (payloadType : Int) (audio : Bytes) :
    ∀ v ∈ samples payloadType audio, -32768 ≤ v ∧ v ≤ 32767 := by
  intro v hv
  unfold samples decodeULaw decodeALaw at hv
  split at hv
  · obtain ⟨b, -, rfl⟩ := List.mem_map.mp hv
    exact toInt16_mem _
  · obtain ⟨b, -, rfl⟩ := List.mem_map.mp hv
    exact toInt16_mem _

/-- The two laws read the byte `0` differently. -/
theorem ulawToLinear_zero_ne : ulawToLinear 0 ≠ alawToLinear 0 := by decide

/-- The two laws write silence differently. -/
theorem linearToULaw_zero_ne : linearToULaw 0 ≠ linearToALaw 0 := by decide

end G711Utils

end SipGateway
