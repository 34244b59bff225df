import SipGateway.Media.Shutdown

/-!
# AudioSocket frames as bytes

A frame is a type, a length of two bytes with the high one first, and so many bytes of payload.
`split` takes a stream apart into the complete frames it starts with and what is left over. It is
the only way to do so (`split_append`), and what is left over is the start of a frame.
-/

namespace SipGateway

open Infra

namespace AudioSocketFrame

/-- The three bytes in front of a payload. -/
def header (type : UInt8) (len : Nat) : Bytes := [type, UInt8.ofNat (len / 256), UInt8.ofNat len]

def encode (frame : AudioSocketFrame) : Bytes :=
  header frame.type frame.payload.length ++ frame.payload

/-- `(header[1] << 8) | header[2]`. -/
def lengthField (hi lo : UInt8) : Nat := 256 * hi.toNat + lo.toNat

/-- The length goes into two bytes. -/
def Fits (frame : AudioSocketFrame) : Prop := frame.payload.length ≤ 0xFFFF

theorem lengthField_lt (hi lo : UInt8) : lengthField hi lo < 65536 := by
  have hhi := hi.toNat_lt
  have hlo := lo.toNat_lt
  unfold lengthField
  omega

theorem lengthField_of_le {n : Nat} (h : n ≤ 0xFFFF) :
    lengthField (UInt8.ofNat (n / 256)) (UInt8.ofNat n) = n := by
  simp only [lengthField, UInt8.toNat_ofNat']
  omega

theorem header_lengthField (type hi lo : UInt8) :
    header type (lengthField hi lo) = [type, hi, lo] := by
  have hhi := hi.toNat_lt
  have hlo := lo.toNat_lt
  unfold header lengthField
  congr 2
  · rw [← UInt8.toNat_inj, UInt8.toNat_ofNat']
    omega
  · congr 1
    rw [← UInt8.toNat_inj, UInt8.toNat_ofNat']
    omega

/-! ## The first frame -/

/-- The first frame of a stream, if it is complete, and what comes behind it. -/
def next? : Bytes → Option (AudioSocketFrame × Bytes)
  | type :: hi :: lo :: rest =>
    if lengthField hi lo ≤ rest.length then
      some ({ type := type, payload := rest.take (lengthField hi lo) },
        rest.drop (lengthField hi lo))
    else none
  | _ => none

theorem next?_cons (type hi lo : UInt8) (rest : Bytes) : next? (type :: hi :: lo :: rest) =
    if lengthField hi lo ≤ rest.length then
      some ({ type := type, payload := rest.take (lengthField hi lo) },
        rest.drop (lengthField hi lo))
    else none := rfl

theorem next?_encode {frame : AudioSocketFrame} (h : frame.Fits) (rest : Bytes) :
    next? (frame.encode ++ rest) = some (frame, rest) := by
  obtain ⟨type, payload⟩ := frame
  have hlen := lengthField_of_le h
  show next? (type :: _ :: _ :: (payload ++ rest)) = _
  rw [next?_cons, hlen, if_pos (by rw [List.length_append]; exact Nat.le_add_right _ _),
    List.take_left' rfl, List.drop_left' rfl]

theorem next?_eq_some {stream rest : Bytes} {frame : AudioSocketFrame}
    (h : next? stream = some (frame, rest)) :
    stream = frame.encode ++ rest ∧ frame.Fits := by
  unfold next? at h
  split at h
  · next type hi lo bytes =>
    split at h
    · next hle =>
      cases h
      have hlen : (bytes.take (lengthField hi lo)).length = lengthField hi lo :=
        List.length_take_of_le hle
      refine ⟨?_, ?_⟩
      · unfold encode
        dsimp only
        rw [hlen, header_lengthField, List.append_assoc, List.take_append_drop]
        rfl
      · unfold Fits
        dsimp only
        rw [hlen]
        exact Nat.le_of_lt_succ (lengthField_lt hi lo)
    · cases h
  · cases h

theorem length_encode (frame : AudioSocketFrame) :
    frame.encode.length = frame.payload.length + 3 := by
  unfold encode
  rw [List.length_append]
  exact Nat.add_comm 3 _

theorem next?_length {stream rest : Bytes} {frame : AudioSocketFrame}
    (h : next? stream = some (frame, rest)) : rest.length < stream.length := by
  have hlen := congrArg List.length (next?_eq_some h).1
  rw [List.length_append, length_encode] at hlen
  omega

/-! ## All frames -/

/-- So many rounds of taking off the first frame. -/
def splitRounds : Nat → Bytes → List AudioSocketFrame × Bytes
  | 0, stream => ([], stream)
  | fuel + 1, stream =>
    match next? stream with
    | none => ([], stream)
    | some (frame, rest) => (frame :: (splitRounds fuel rest).1, (splitRounds fuel rest).2)

/-- The complete frames a stream starts with, and what is left over. -/
def split (stream : Bytes) : List AudioSocketFrame × Bytes := splitRounds stream.length stream

/-- Rounds beyond the length of the stream change nothing. -/
theorem splitRounds_eq_split {fuel : Nat} {stream : Bytes} (h : stream.length ≤ fuel) :
    splitRounds fuel stream = split stream := by
  unfold split
  generalize hk : stream.length = k at h
  induction k using Nat.strong_induction_on generalizing fuel stream with
  | _ k ih =>
    cases hnext : next? stream with
    | none =>
      cases fuel <;> cases k <;> simp [splitRounds, hnext]
    | some r =>
      obtain ⟨frame, rest⟩ := r
      have hlt := next?_length hnext
      obtain ⟨fuel, rfl⟩ : ∃ m, fuel = m + 1 := ⟨fuel - 1, by omega⟩
      obtain ⟨k, rfl⟩ : ∃ m, k = m + 1 := ⟨k - 1, by omega⟩
      simp only [splitRounds, hnext]
      rw [ih rest.length (by omega) rfl (by omega : rest.length ≤ fuel),
        ih rest.length (by omega) rfl (by omega : rest.length ≤ k)]

theorem split_of_none {stream : Bytes} (h : next? stream = none) : split stream = ([], stream) := by
  unfold split
  cases stream.length <;> simp [splitRounds, h]

theorem split_of_some {stream rest : Bytes} {frame : AudioSocketFrame}
    (h : next? stream = some (frame, rest)) :
    split stream = (frame :: (split rest).1, (split rest).2) := by
  have hlt := next?_length h
  rw [← splitRounds_eq_split (Nat.le_succ stream.length), splitRounds, h]
  dsimp only
  rw [splitRounds_eq_split hlt.le]

/-- A stream of frames with a rest behind them is taken apart into these. -/
theorem split_append {frames : List AudioSocketFrame} {rest : Bytes}
    (hfits : ∀ frame ∈ frames, frame.Fits) (hnone : next? rest = none) :
    split (frames.flatMap encode ++ rest) = (frames, rest) := by
  induction frames with
  | nil => exact split_of_none hnone
  | cons frame frames ih =>
    obtain ⟨hframe, hframes⟩ := List.forall_mem_cons.mp hfits
    rw [List.flatMap_cons, List.append_assoc, split_of_some (next?_encode hframe _), ih hframes]

end AudioSocketFrame

end SipGateway
