import SipGateway.Media.Framing

/-!
# The reader of the AudioSocket client

`AudioSocketClient::readerLoop` on the bytes a peer sends before it closes the connection. `recv`
with `MSG_WAITALL` returns what was asked for, or what is left when that is less; the loop only
asks whether it is positive.
-/

namespace SipGateway

open Infra

namespace AudioSocketClient

/--
So many rounds of the loop, and what the callback is called with; `none` when it still runs then.

`audioCb` says whether a callback is set. `junk` is what the header array of a round holds before
`recv`; the payload vector holds zeros.
-/
def readerRounds (audioCb : Bool) (junk : Nat → Nat → UInt8) : Nat → Bytes → Option (List Bytes)
  | 0, _ => none
  | fuel + 1, stream =>
    let got := stream.take 3
    if got = [] then some []
    else
      let type := got.getD 0 (junk fuel 0)
      let len := AudioSocketFrame.lengthField (got.getD 1 (junk fuel 1)) (got.getD 2 (junk fuel 2))
      let stream := stream.drop 3
      if len > 0 then
        let part := stream.take len
        if part = [] then some []
        else
          let payload := part ++ List.replicate (len - part.length) 0
          if type = 0x10 ∧ audioCb then
            (readerRounds audioCb junk fuel (stream.drop len)).map (payload :: ·)
          else if type = 0 then some []
          else readerRounds audioCb junk fuel (stream.drop len)
      else if type = 0 then some []
      else readerRounds audioCb junk fuel stream

/-- `readerLoop`: every round takes a byte at least, and the last one finds none. -/
def readerLoop (audioCb : Bool) (junk : Nat → Nat → UInt8) (stream : Bytes) : Option (List Bytes) :=
  readerRounds audioCb junk (stream.length + 1) stream

/-! ## What should be delivered -/

/-- The audio of frames, up to the first that ends the stream. -/
def audioOf (frames : List AudioSocketFrame) : List Bytes :=
  ((frames.takeWhile fun frame => frame.type ≠ 0).filter fun frame =>
    frame.type = 0x10 ∧ frame.payload ≠ []).map AudioSocketFrame.payload

/-- The payloads of the complete audio frames before the first complete terminate frame. -/
def delivered (stream : Bytes) : List Bytes := audioOf (AudioSocketFrame.split stream).1

/-- What is left over are the header of an audio frame and a part of its payload. -/
def CutInAudio (tail : Bytes) : Prop := ∃ hi lo part, tail = 0x10 :: hi :: lo :: part ∧ part ≠ []

/-- What the loop makes of an audio payload that was cut short: zeros up to its length. -/
def padded : Bytes → List Bytes
  | type :: hi :: lo :: part =>
    if type = 0x10 ∧ part ≠ [] then
      [part ++ List.replicate (AudioSocketFrame.lengthField hi lo - part.length) 0]
    else []
  | _ => []

theorem padded_cons (type hi lo : UInt8) (part : Bytes) : padded (type :: hi :: lo :: part) =
    if type = 0x10 ∧ part ≠ [] then
      [part ++ List.replicate (AudioSocketFrame.lengthField hi lo - part.length) 0]
    else [] := rfl

theorem padded_eq_nil_iff (tail : Bytes) : padded tail = [] ↔ ¬ CutInAudio tail := by
  unfold padded CutInAudio
  split
  · next type hi lo part =>
    split
    · next h =>
      refine iff_of_false (List.cons_ne_nil _ _) fun hno => hno ?_
      exact ⟨hi, lo, part, by rw [h.1], h.2⟩
    · next h =>
      refine iff_of_true rfl ?_
      rintro ⟨hi', lo', part', heq, hpart⟩
      cases heq
      exact h ⟨rfl, hpart⟩
  · next hshort =>
    refine iff_of_true rfl ?_
    rintro ⟨hi, lo, part, heq, -⟩
    exact hshort _ hi lo part heq

theorem audioOf_terminate {frame : AudioSocketFrame} (h : frame.type = 0)
    (frames : List AudioSocketFrame) : audioOf (frame :: frames) = [] := by
  unfold audioOf
  rw [List.takeWhile_cons_of_neg (by simpa using h)]
  rfl

theorem audioOf_cons {frame : AudioSocketFrame} (h : frame.type ≠ 0)
    (frames : List AudioSocketFrame) :
    audioOf (frame :: frames) =
      (if frame.type = 0x10 ∧ frame.payload ≠ [] then [frame.payload] else []) ++
        audioOf frames := by
  unfold audioOf
  rw [List.takeWhile_cons_of_pos (by simpa using h), List.filter_cons]
  split
  · next haudio => rw [if_pos (by simpa using haudio)]; rfl
  · next hother => rw [if_neg (by simpa using hother)]; rfl

/-! ## One round -/

variable {junk : Nat → Nat → UInt8} {stream rest : Bytes} {frame : AudioSocketFrame} {fuel : Nat}

theorem readerRounds_nil (audioCb : Bool) : readerRounds audioCb junk (fuel + 1) [] = some [] := rfl

/-- A round that gets a whole header. -/
theorem readerRounds_header (type hi lo : UInt8) (bytes : Bytes) :
    readerRounds true junk (fuel + 1) (type :: hi :: lo :: bytes) =
      if AudioSocketFrame.lengthField hi lo > 0 then
        if bytes.take (AudioSocketFrame.lengthField hi lo) = [] then some []
        else if type = 0x10 then
          (readerRounds true junk fuel (bytes.drop (AudioSocketFrame.lengthField hi lo))).map
            ((bytes.take (AudioSocketFrame.lengthField hi lo) ++ List.replicate
              (AudioSocketFrame.lengthField hi lo -
                (bytes.take (AudioSocketFrame.lengthField hi lo)).length) 0) :: ·)
        else if type = 0 then some []
        else readerRounds true junk fuel (bytes.drop (AudioSocketFrame.lengthField hi lo))
      else if type = 0 then some []
      else readerRounds true junk fuel bytes := by
  rw [readerRounds, if_neg (by simp)]
  simp

/-- A round on a complete frame. -/
theorem readerRounds_frame (h : AudioSocketFrame.next? stream = some (frame, rest)) :
    readerRounds true junk (fuel + 1) stream =
      if frame.type = 0 then some []
      else (readerRounds true junk fuel rest).map
        ((if frame.type = 0x10 ∧ frame.payload ≠ [] then [frame.payload] else []) ++ ·) := by
  unfold AudioSocketFrame.next? at h
  split at h
  · next type hi lo bytes =>
    rw [readerRounds_header]
    generalize AudioSocketFrame.lengthField hi lo = len at h ⊢
    split at h
    · next hle =>
      cases h
      have hlen : (bytes.take len).length = len := List.length_take_of_le hle
      dsimp only
      rw [hlen, Nat.sub_self, List.replicate_zero, List.append_nil]
      by_cases hpos : len > 0
      · have hne : bytes.take len ≠ [] := by
          intro hnil
          rw [hnil] at hlen
          exact absurd hlen.symm (Nat.ne_of_gt hpos)
        rw [if_pos hpos, if_neg hne]
        by_cases haudio : type = 0x10
        · subst haudio
          rw [if_pos rfl, if_neg (by decide), if_pos ⟨rfl, hne⟩]
          rfl
        · have hother : ¬ (type = 0x10 ∧ bytes.take len ≠ []) := fun he => haudio he.1
          rw [if_neg haudio]
          simp only [if_neg hother, List.nil_append, Option.map_id']
      · have hzero : len = 0 := Nat.eq_zero_of_not_pos hpos
        subst hzero
        simp
    · cases h
  · cases h

/-- The rounds on what does not hold a complete frame. -/
theorem readerRounds_tail (h : AudioSocketFrame.next? stream = none)
    (hfuel : stream.length < fuel) :
    readerRounds true junk fuel stream = some (padded stream) := by
  obtain ⟨fuel, rfl⟩ : ∃ m, fuel = m + 1 := ⟨fuel - 1, by omega⟩
  match stream, h, hfuel with
  | [], _, _ => rfl
  | [type], _, hfuel =>
    obtain ⟨fuel, rfl⟩ : ∃ m, fuel = m + 1 := ⟨fuel - 1, by simp at hfuel; omega⟩
    rw [readerRounds, if_neg (by simp)]
    simp [readerRounds, padded]
  | [type, hi], _, hfuel =>
    obtain ⟨fuel, rfl⟩ : ∃ m, fuel = m + 1 := ⟨fuel - 1, by simp at hfuel; omega⟩
    rw [readerRounds, if_neg (by simp)]
    simp [readerRounds, padded]
  | type :: hi :: lo :: bytes, h, hfuel =>
    obtain ⟨fuel, rfl⟩ : ∃ m, fuel = m + 1 := ⟨fuel - 1, by simp at hfuel; omega⟩
    have hcut : ¬ AudioSocketFrame.lengthField hi lo ≤ bytes.length := by
      intro hle
      rw [AudioSocketFrame.next?_cons, if_pos hle] at h
      cases h
    rw [readerRounds_header, padded_cons]
    generalize AudioSocketFrame.lengthField hi lo = len at hcut ⊢
    rw [if_pos (by omega), List.take_of_length_le (by omega), List.drop_of_length_le (by omega),
      readerRounds_nil]
    by_cases hnil : bytes = []
    · rw [if_pos hnil, if_neg (fun he => he.2 hnil)]
    · rw [if_neg hnil]
      by_cases haudio : type = 0x10
      · rw [if_pos haudio, if_pos ⟨haudio, hnil⟩]
        rfl
      · have hother : ¬ (type = 0x10 ∧ bytes ≠ []) := fun he => haudio he.1
        rw [if_neg haudio, if_neg hother, ite_self]

/-! ## The whole loop -/

/-- Before a terminate frame nothing has ended the stream. -/
def Unterminated (frames : List AudioSocketFrame) : Prop := ∀ frame ∈ frames, frame.type ≠ 0

instance (frames : List AudioSocketFrame) : Decidable (Unterminated frames) :=
  inferInstanceAs (Decidable (∀ frame ∈ frames, frame.type ≠ 0))

/-- What the callback is called with: the complete frames, and a cut one made whole with zeros. -/
theorem readerRounds_eq (hfuel : stream.length < fuel) :
    readerRounds true junk fuel stream = some (delivered stream ++
      if Unterminated (AudioSocketFrame.split stream).1 then
        padded (AudioSocketFrame.split stream).2
      else []) := by
  induction fuel generalizing stream with
  | zero => exact absurd hfuel (Nat.not_lt_zero _)
  | succ fuel ih =>
    unfold delivered
    cases hnext : AudioSocketFrame.next? stream with
    | none =>
      rw [readerRounds_tail hnext hfuel, AudioSocketFrame.split_of_none hnext]
      have hnone : Unterminated [] := nofun
      dsimp only
      rw [if_pos hnone]
      rfl
    | some r =>
      obtain ⟨frame, rest⟩ := r
      have hlt := AudioSocketFrame.next?_length hnext
      rw [readerRounds_frame hnext, AudioSocketFrame.split_of_some hnext]
      dsimp only
      by_cases hend : frame.type = 0
      · have hterminated : ¬ Unterminated (frame :: (AudioSocketFrame.split rest).1) :=
          fun h => h frame List.mem_cons_self hend
        rw [if_pos hend, audioOf_terminate hend, if_neg hterminated]
        rfl
      · have hiff : Unterminated (frame :: (AudioSocketFrame.split rest).1) ↔
            Unterminated (AudioSocketFrame.split rest).1 := by
          unfold Unterminated
          rw [List.forall_mem_cons]
          exact and_iff_right hend
        rw [if_neg hend, audioOf_cons hend, ih (by omega), Option.map_some, ← List.append_assoc]
        simp only [hiff]
        rfl

theorem readerLoop_eq (stream : Bytes) :
    readerLoop true junk stream = some (delivered stream ++
      if Unterminated (AudioSocketFrame.split stream).1 then
        padded (AudioSocketFrame.split stream).2
      else []) :=
  readerRounds_eq (Nat.lt_succ_self _)

end AudioSocketClient

end SipGateway
