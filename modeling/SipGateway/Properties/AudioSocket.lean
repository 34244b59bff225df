import SipGateway.Media.Reader
import SipGateway.Media.Wire

/-!
# The AudioSocket connection

What is read: `readerLoop_delivers_iff` says for which streams the callback gets the complete audio
frames and nothing else.

What is written: as long as neither thread writes into a frame of the other, the connection
carries whole frames (`wire_framed`). Nothing in the code makes the threads wait for each other.
-/

namespace SipGateway

open Infra

/-! ## Reading -/

namespace AudioSocketClient

/--
**When the reader delivers the right audio**: unless the peer closes the connection inside the
payload of an audio frame, with no terminate frame before it. The loop ends in any case.
-/
theorem readerLoop_delivers_iff (junk : Nat → Nat → UInt8) (stream : Bytes) :
    (∃ payloads, readerLoop true junk stream = some payloads) ∧
    (readerLoop true junk stream = some (delivered stream) ↔
      ¬ (Unterminated (AudioSocketFrame.split stream).1 ∧
        CutInAudio (AudioSocketFrame.split stream).2)) := by
  rw [readerLoop_eq]
  refine ⟨⟨_, rfl⟩, ?_⟩
  rw [Option.some.injEq, List.append_right_eq_self, not_and]
  constructor
  · intro hnil hopen
    rw [if_pos hopen] at hnil
    exact (padded_eq_nil_iff _).mp hnil
  · intro hcut
    split
    · next hopen => exact (padded_eq_nil_iff _).mpr (hcut hopen)
    · rfl

/-- An audio frame of four bytes is cut after two: the callback gets the two and two zeros. -/
theorem cut_frame_delivered :
    readerLoop true (fun _ _ => 0) [0x10, 0, 4, 7, 9] = some [[7, 9, 0, 0]] ∧
    delivered [0x10, 0, 4, 7, 9] = [] := by
  decide

end AudioSocketClient

/-! ## Writing -/

/-- The frame of a call of `sendAudio`; longer data is capped. -/
def audioFrame (pcmData : Bytes) : AudioSocketFrame where
  type := 0x10
  payload := pcmData.take 0xFFFF

/-- The frame `stop` sends. -/
def terminateFrame : AudioSocketFrame where
  type := 0x00

/-- The frames one after the other, as bytes. -/
def encodeFrames (frames : List AudioSocketFrame) : Bytes := frames.flatMap AudioSocketFrame.encode

namespace Wire

/-- The audio frames are those of these calls, and the others are terminate frames. -/
structure FramesOf (calls : List Bytes) (frames : List AudioSocketFrame) : Prop where
  legit : ∀ frame ∈ frames, frame = terminateFrame ∨ ∃ pcmData, frame = audioFrame pcmData
  audio : frames.filter (fun frame => frame.type = 0x10) = calls.map audioFrame

/-- What is on the connection is the start of whole frames. -/
def Framed (w : Wire) : Prop := ∃ frames, FramesOf w.calls frames ∧ w.sent <+: encodeFrames frames

/-- Neither thread sends a byte while the other is in the middle of a frame. -/
def TakesTurns (w : Wire) : WireEvent → Prop
  | .mediaSends _ => w.hangup.midFrame = false
  | .hangupSends _ => w.media.midFrame = false
  | _ => True

instance (w : Wire) (e : WireEvent) : Decidable (TakesTurns w e) :=
  match e with
  | .mediaSends _ => inferInstanceAs (Decidable (w.hangup.midFrame = false))
  | .hangupSends _ => inferInstanceAs (Decidable (w.media.midFrame = false))
  | .sendAudio _ | .mediaFails | .stop | .advance | .readerEnds => isTrue trivial

/-! ### Frames -/

variable {calls : List Bytes} {frames : List AudioSocketFrame} {pcmData : Bytes}

theorem encodeFrames_append (frames more : List AudioSocketFrame) :
    encodeFrames (frames ++ more) = encodeFrames frames ++ encodeFrames more :=
  List.flatMap_append

theorem encodeFrames_singleton (frame : AudioSocketFrame) : encodeFrames [frame] = frame.encode :=
  List.flatMap_singleton ..

theorem FramesOf.nil : FramesOf [] [] := ⟨nofun, rfl⟩

theorem FramesOf.terminate (h : FramesOf calls frames) :
    FramesOf calls (frames ++ [terminateFrame]) := by
  refine ⟨?_, ?_⟩
  · intro frame hframe
    rcases List.mem_append.mp hframe with hframe | hframe
    · exact h.legit frame hframe
    · exact Or.inl (List.mem_singleton.mp hframe)
  · rw [List.filter_append, h.audio]
    exact List.append_nil _

theorem FramesOf.call (h : FramesOf calls frames) (pcmData : Bytes) :
    FramesOf (calls ++ [pcmData]) (frames ++ [audioFrame pcmData]) := by
  refine ⟨?_, ?_⟩
  · intro frame hframe
    rcases List.mem_append.mp hframe with hframe | hframe
    · exact h.legit frame hframe
    · exact Or.inr ⟨pcmData, List.mem_singleton.mp hframe⟩
  · rw [List.filter_append, h.audio, List.map_append]
    rfl

/-! ### The invariant -/

/-- How far the media thread is with the frames of the calls. -/
inductive AudioProgress (calls : List Bytes) (frames : List AudioSocketFrame) :
    AudioPc → Bytes → Prop where
  | idle (h : FramesOf calls frames) : AudioProgress calls frames .idle []
  | header {earlier : List Bytes} {pcmData part left : Bytes} (h : FramesOf earlier frames)
      (hcalls : calls = earlier ++ [pcmData]) (hne : pcmData ≠ []) (hleft : left ≠ [])
      (hheader : part ++ left = AudioSocketFrame.header 0x10 (pcmData.take 0xFFFF).length) :
      AudioProgress calls frames (.header left (pcmData.take 0xFFFF)) part
  | payload {earlier : List Bytes} {pcmData part left : Bytes} (h : FramesOf earlier frames)
      (hcalls : calls = earlier ++ [pcmData]) (hleft : left ≠ []) (hpart : part ≠ [])
      (hframe : part ++ left = (audioFrame pcmData).encode) :
      AudioProgress calls frames (.payload left) part

/-- How far the signalling thread is with its frame. -/
inductive HangupProgress : HangupPc → Bytes → Prop where
  | terminating {part left : Bytes} (hleft : left ≠ []) (h : part ++ left = terminate) :
      HangupProgress (.terminating left) part
  | other {pc : HangupPc} (h : ∀ left, pc ≠ .terminating left) : HangupProgress pc []

/-- Whole frames, and behind them a part of one that a thread is sending. -/
structure OnWire (w : Wire) (frames : List AudioSocketFrame) (audio hangup : Bytes) : Prop where
  sent : w.sent = encodeFrames frames ++ (audio ++ hangup)
  media : AudioProgress w.calls frames w.media audio
  stop : HangupProgress w.hangup hangup
  turns : audio = [] ∨ hangup = []

/-- While the connection is up there are whole frames and a part of one; later, a prefix. -/
def WireInv (w : Wire) : Prop :=
  if w.writable then ∃ frames audio hangup, OnWire w frames audio hangup else Framed w

/-! ### Sending a part -/

variable {pc : AudioPc} {part : Bytes} {n : Nat} {w w' : Wire}

theorem length_header (type : UInt8) (len : Nat) : (AudioSocketFrame.header type len).length = 3 :=
  rfl

theorem AudioProgress.part_eq_nil (h : AudioProgress calls frames pc part)
    (hmid : pc.midFrame = false) : part = [] := by
  cases h with
  | idle => rfl
  | header hframes hcalls hne hleft hheader =>
    have hlen := congrArg List.length hheader
    rw [List.length_append, length_header] at hlen
    have hlong : ¬ _ < 3 := of_decide_eq_false hmid
    exact List.length_eq_zero_iff.mp (by omega)
  | payload => cases hmid

theorem HangupProgress.part_eq_nil {pc : HangupPc} (h : HangupProgress pc part)
    (hmid : pc.midFrame = false) : part = [] := by
  cases h with
  | terminating hleft hpart =>
    have hlen := congrArg List.length hpart
    rw [List.length_append] at hlen
    have hlong : ¬ _ < 3 := of_decide_eq_false hmid
    have hthree : terminate.length = 3 := rfl
    exact List.length_eq_zero_iff.mp (by omega)
  | other => rfl

/-- A `send` of the media thread completes its frame, or gets on with it. -/
theorem AudioProgress.sends (h : AudioProgress calls frames pc part) (hpos : 0 < n)
    (hle : n ≤ pc.window.length) :
    (∃ frame, AudioProgress calls (frames ++ [frame]) (pc.sent n) [] ∧
        part ++ pc.window.take n = frame.encode) ∨
      AudioProgress calls frames (pc.sent n) (part ++ pc.window.take n) := by
  cases h with
  | idle => exact absurd (hpos.trans_le hle) (Nat.not_lt_zero 0)
  | @header earlier pcmData part left hframes hcalls hne hleft hheader =>
    right
    show AudioProgress calls frames (if left.drop n = [] then _ else _) (part ++ left.take n)
    have hsplit := List.take_append_drop n left
    split
    · next hdone =>
      rw [hdone, List.append_nil] at hsplit
      rw [hsplit, hheader]
      refine AudioProgress.payload hframes hcalls ?_ (List.cons_ne_nil _ _) rfl
      cases pcmData with
      | nil => exact absurd rfl hne
      | cons b bs => exact List.cons_ne_nil _ _
    · next hmore =>
      refine AudioProgress.header hframes hcalls hne hmore ?_
      rw [List.append_assoc, hsplit, hheader]
  | @payload earlier pcmData part left hframes hcalls hleft hpart hframe =>
    show (∃ frame, AudioProgress calls _ (if left.drop n = [] then _ else _) [] ∧
      part ++ left.take n = _) ∨ AudioProgress calls frames (if left.drop n = [] then _ else _)
        (part ++ left.take n)
    have hsplit := List.take_append_drop n left
    split
    · next hdone =>
      rw [hdone, List.append_nil] at hsplit
      left
      refine ⟨audioFrame pcmData, ?_, by rw [hsplit, hframe]⟩
      rw [hcalls]
      exact AudioProgress.idle (hframes.call pcmData)
    · next hmore =>
      right
      refine AudioProgress.payload hframes hcalls hmore ?_ ?_
      · exact fun hnil => hpart (List.append_eq_nil_iff.mp hnil).1
      · rw [List.append_assoc, hsplit, hframe]

/-- A terminate packet between the frames changes nothing for the calls. -/
theorem AudioProgress.terminate (h : AudioProgress calls frames pc part) :
    AudioProgress calls (frames ++ [terminateFrame]) pc part := by
  cases h with
  | idle hframes => exact AudioProgress.idle hframes.terminate
  | header hframes hcalls hne hleft hheader =>
    exact AudioProgress.header hframes.terminate hcalls hne hleft hheader
  | payload hframes hcalls hleft hpart hframe =>
    exact AudioProgress.payload hframes.terminate hcalls hleft hpart hframe

/-- With the frame the media thread is at, the frames are those of all calls. -/
theorem AudioProgress.complete (h : AudioProgress calls frames pc part) :
    ∃ more, FramesOf calls (frames ++ more) ∧ part <+: encodeFrames more := by
  cases h with
  | idle hframes => exact ⟨[], by rwa [List.append_nil], List.nil_prefix⟩
  | @header earlier pcmData part left hframes hcalls hne hleft hheader =>
    refine ⟨[audioFrame pcmData], ?_, left ++ pcmData.take 0xFFFF, ?_⟩
    · rw [hcalls]
      exact hframes.call pcmData
    · rw [encodeFrames_singleton, ← List.append_assoc, hheader]
      rfl
  | @payload earlier pcmData part left hframes hcalls hleft hpart hframe =>
    refine ⟨[audioFrame pcmData], ?_, left, ?_⟩
    · rw [hcalls]
      exact hframes.call pcmData
    · rw [encodeFrames_singleton, hframe]

theorem HangupProgress.prefix_terminate {pc : HangupPc} (h : HangupProgress pc part) :
    part <+: terminateFrame.encode := by
  cases h with
  | @terminating part left hleft hpart => exact ⟨left, hpart⟩
  | other => exact List.nil_prefix

/-- Whole frames and a part of one are the start of whole frames. -/
theorem OnWire.framed {audio hangup : Bytes} (h : OnWire w frames audio hangup) : w.Framed := by
  obtain ⟨hsent, hmedia, hstop, hturns⟩ := h
  rcases hturns with rfl | rfl
  · obtain ⟨more, hmore, -⟩ := hmedia.terminate.complete
    refine ⟨_, hmore, ?_⟩
    rw [hsent, encodeFrames_append, encodeFrames_append, encodeFrames_singleton, List.nil_append,
      List.append_assoc]
    exact (List.prefix_append_right_inj _).mpr
      (hstop.prefix_terminate.trans (List.prefix_append _ _))
  · obtain ⟨more, hmore, hpart⟩ := hmedia.complete
    refine ⟨_, hmore, ?_⟩
    rw [hsent, encodeFrames_append, List.append_nil]
    exact (List.prefix_append_right_inj _).mpr hpart

theorem Framed.call (h : w.Framed) (pcmData : Bytes) (media : AudioPc) :
    Framed { w with calls := w.calls ++ [pcmData], media := media } := by
  obtain ⟨frames, hframes, hsent⟩ := h
  refine ⟨frames ++ [audioFrame pcmData], hframes.call pcmData, ?_⟩
  rw [encodeFrames_append]
  exact hsent.trans (List.prefix_append _ _)

/-! ### The steps -/

theorem WireInv.sendAudio (h : WireInv w) (hidle : w.media = .idle) (pcmData : Bytes) :
    WireInv (w.sendAudio pcmData) := by
  unfold Wire.sendAudio
  split
  · exact h
  · next hgo =>
    have hlen : (if pcmData.length > 0xFFFF then 0xFFFF else pcmData.length) =
        (pcmData.take 0xFFFF).length := by
      rw [List.length_take]
      split <;> omega
    have htake : pcmData.take (pcmData.take 0xFFFF).length = pcmData.take 0xFFFF := by
      rw [List.length_take, ← List.take_eq_take_min]
    dsimp only
    rw [hlen, htake]
    unfold WireInv at h ⊢
    dsimp only
    by_cases hup : w.writable
    · rw [if_pos hup] at h ⊢
      obtain ⟨frames, audio, hangup, hsent, hmedia, hstop, hturns⟩ := h
      rw [hidle] at hmedia
      cases hmedia with
      | idle hframes =>
        refine ⟨frames, [], hangup, hsent, ?_, hstop, hturns⟩
        exact AudioProgress.header hframes rfl (fun hnil => hgo (Or.inr hnil))
          (List.cons_ne_nil _ _) rfl
    · rw [if_neg hup] at h ⊢
      exact h.call pcmData _

theorem WireInv.mediaSends (h : WireInv w) (hup : w.writable) (hpos : 0 < n)
    (hle : n ≤ w.media.window.length) (hturn : w.hangup.midFrame = false) :
    WireInv { w with sent := w.sent ++ w.media.window.take n, media := w.media.sent n } := by
  unfold WireInv at h ⊢
  rw [if_pos hup] at h ⊢
  obtain ⟨frames, audio, hangup, hsent, hmedia, hstop, hturns⟩ := h
  have hnil := hstop.part_eq_nil hturn
  subst hnil
  rcases hmedia.sends hpos hle with ⟨frame, hnext, hencode⟩ | hnext
  · refine ⟨frames ++ [frame], [], [], ?_, hnext, hstop, Or.inl rfl⟩
    dsimp only
    rw [hsent, encodeFrames_append, encodeFrames_singleton, ← hencode]
    simp
  · refine ⟨frames, audio ++ w.media.window.take n, [], ?_, hnext, hstop, Or.inr rfl⟩
    dsimp only
    rw [hsent]
    simp

theorem WireInv.hangupSends (h : WireInv w) {left : Bytes} (hleft : w.hangup = .terminating left)
    (hup : w.writable) (hturn : w.media.midFrame = false) :
    WireInv { w with
      sent := w.sent ++ left.take n
      hangup := if left.drop n = [] then .shutting else .terminating (left.drop n) } := by
  unfold WireInv at h ⊢
  rw [if_pos hup] at h ⊢
  obtain ⟨frames, audio, hangup, hsent, hmedia, hstop, hturns⟩ := h
  have hnil := hmedia.part_eq_nil hturn
  subst hnil
  rw [hleft] at hstop
  cases hstop with
  | other hno => exact absurd rfl (hno left)
  | terminating hne hpart =>
    have hsplit := List.take_append_drop n left
    by_cases hdone : left.drop n = []
    · rw [hdone, List.append_nil] at hsplit
      rw [if_pos hdone, hsplit]
      refine ⟨frames ++ [terminateFrame], [], [], ?_, hmedia.terminate,
        HangupProgress.other nofun, Or.inl rfl⟩
      dsimp only
      rw [hsent, encodeFrames_append, encodeFrames_singleton, List.append_assoc, List.nil_append,
        hpart]
      exact (List.append_nil _).symm
    · rw [if_neg hdone]
      refine ⟨frames, [], hangup ++ left.take n, ?_, hmedia,
        HangupProgress.terminating hdone ?_, Or.inl rfl⟩
      · dsimp only
        rw [hsent]
        simp
      · rw [List.append_assoc, hsplit, hpart]

/-- What does not send and leaves the media thread alone. -/
theorem WireInv.other (h : WireInv w) (hsent : w'.sent = w.sent) (hcalls : w'.calls = w.calls)
    (hmedia : w'.media = w.media) (hup : w'.writable = w.writable)
    (hhangup : ∀ part, HangupProgress w.hangup part → HangupProgress w'.hangup part) :
    WireInv w' := by
  unfold WireInv at h ⊢
  rw [hup]
  split
  · next hopen =>
    rw [if_pos hopen] at h
    obtain ⟨frames, audio, hangup, h1, h2, h3, h4⟩ := h
    refine ⟨frames, audio, hangup, ?_, ?_, hhangup hangup h3, h4⟩
    · rw [hsent, h1]
    · rw [hcalls, hmedia]
      exact h2
  · next hdown =>
    rw [if_neg hdown] at h
    unfold Framed at h ⊢
    rw [hsent, hcalls]
    exact h

/-- Where no part of the terminate packet is on the wire, another such place may follow. -/
theorem HangupProgress.move {pc pc' : HangupPc} (hpc : ∀ left, pc ≠ .terminating left)
    (hpc' : HangupProgress pc' []) : ∀ part, HangupProgress pc part → HangupProgress pc' part := by
  intro part h
  cases h with
  | terminating hleft hpart => exact absurd rfl (hpc _)
  | other => exact hpc'

theorem WireInv.advance (h : WireInv w) : WireInv w.advance := by
  unfold Wire.advance
  split
  · exact h
  · next hpc =>
    refine h.other rfl rfl rfl rfl (HangupProgress.move (by rw [hpc]; nofun) ?_)
    show HangupProgress (if w.sockfd ≥ 0 then _ else _) []
    split
    · exact HangupProgress.terminating (List.cons_ne_nil _ _) rfl
    · exact HangupProgress.other nofun
  · exact h
  · next hpc =>
    -- from here on nothing is sent, so a prefix of whole frames is all that is left to keep
    unfold WireInv at h ⊢
    dsimp only
    rw [if_neg Bool.false_ne_true]
    by_cases hup : w.writable
    · rw [if_pos hup] at h
      obtain ⟨frames, audio, hangup, hwire⟩ := h
      exact hwire.framed
    · rw [if_neg hup] at h
      exact h
  · next hpc =>
    refine h.other rfl rfl rfl rfl (HangupProgress.move (by rw [hpc]; nofun) ?_)
    exact HangupProgress.other nofun
  · next hpc =>
    refine h.other rfl rfl rfl rfl (HangupProgress.move (by rw [hpc]; nofun) ?_)
    exact HangupProgress.other nofun
  · next hpc =>
    refine h.other rfl rfl rfl rfl (HangupProgress.move (by rw [hpc]; nofun) ?_)
    exact HangupProgress.other nofun

/-- The media thread meets an error only when the connection is down. -/
theorem WireInv.mediaFails (h : WireInv w) (hdown : w.writable = false) (media : AudioPc) :
    WireInv { w with media := media } := by
  unfold WireInv at h ⊢
  dsimp only
  rw [hdown] at h ⊢
  exact h

theorem WireInv.init (h : w = { sockfd := w.sockfd }) : WireInv w := by
  rw [h]
  refine ⟨[], [], [], rfl, AudioProgress.idle FramesOf.nil, HangupProgress.other nofun, Or.inl rfl⟩

theorem WireInv.framed (h : WireInv w) : w.Framed := by
  unfold WireInv at h
  split at h
  · obtain ⟨frames, audio, hangup, hwire⟩ := h
    exact hwire.framed
  · exact h

theorem WireInv.step {e : WireEvent} (h : WireInv w) (hen : machine.enabled w e)
    (hturn : TakesTurns w e) (hstep : machine.step w e = some w') : WireInv w' := by
  have hen : enabled w e = true := hen
  have hstep : Wire.step w e = some w' := hstep
  cases e with
  | sendAudio pcmData =>
    cases hstep
    exact h.sendAudio (of_decide_eq_true hen) pcmData
  | mediaSends n =>
    cases hstep
    simp only [enabled, Bool.and_eq_true, decide_eq_true_eq] at hen
    exact h.mediaSends hen.1.1 hen.1.2 hen.2 hturn
  | mediaFails =>
    cases hstep
    simp only [enabled, Bool.and_eq_true, Bool.not_eq_true'] at hen
    exact h.mediaFails hen.1 _
  | stop =>
    cases hstep
    split
    · have hidle : w.hangup = .idle := of_decide_eq_true hen
      refine h.other rfl rfl rfl rfl (HangupProgress.move (by rw [hidle]; nofun) ?_)
      exact HangupProgress.other nofun
    · exact h
  | advance =>
    cases hstep
    exact h.advance
  | hangupSends n =>
    unfold enabled at hen
    unfold Wire.step at hstep
    dsimp only at hen hstep
    split at hstep
    · next left hleft =>
      cases hstep
      rw [hleft] at hen
      simp only [Bool.and_eq_true] at hen
      exact h.hangupSends hleft hen.1.1 hturn
    · cases hstep
  | readerEnds =>
    cases hstep
    exact h.other rfl rfl rfl rfl fun _ hpart => hpart

/--
**As long as the threads take turns the connection carries whole frames**: the frames of the calls
of `sendAudio`, each with its own data, and terminate packets between them.
-/
theorem wire_framed (h : machine.Reach TakesTurns w) : w.Framed := by
  have hinv : WireInv w := by
    refine h.invariant (fun w (hinit : machine.init w) => WireInv.init hinit.1) ?_
    intro w e w' _ hinv hen hturn hstep
    exact hinv.step hen hturn hstep
  exact hinv.framed

/-- A frame in two parts, and then the connection is shut down. -/
def exampleTurns : List WireEvent :=
  [.sendAudio [7, 7, 7], .mediaSends 3, .mediaSends 1, .stop, .advance, .mediaSends 2,
    .hangupSends 2, .hangupSends 1, .advance, .advance, .advance]

theorem wire_framed_turns : ∃ w : Wire, w.Framed ∧
    w.sent = [0x10, 0, 3, 7, 7, 7, 0, 0, 0] ∧ w.sockfd = -1 := by
  obtain ⟨w, hw, hp⟩ := Machine.exists_reach TakesTurns
    (show machine.init { sockfd := 3 } from ⟨rfl, by decide⟩)
    (show ((machine.restrict TakesTurns).replay { sockfd := 3 } exampleTurns).any (fun w =>
      decide (w.sent = [0x10, 0, 3, 7, 7, 7, 0, 0, 0] ∧ w.sockfd = -1)) = true by decide +kernel)
  exact ⟨w, wire_framed hw, of_decide_eq_true hp⟩

/-- The terminate packet goes out behind the first byte of three. -/
def exampleCollision : List WireEvent :=
  [.sendAudio [7, 7, 7], .mediaSends 3, .mediaSends 1, .stop, .advance, .hangupSends 3,
    .mediaSends 2]

/-- The terminate packet inside an audio frame. -/
theorem terminate_inside_audio : ∃ w : Wire, machine.Reachable w ∧ ¬ w.Framed := by
  obtain ⟨w, hw, hp⟩ := Machine.exists_reach (fun _ _ => True)
    (show machine.init { sockfd := 3 } from ⟨rfl, by decide⟩)
    (show ((machine.restrict fun _ _ => True).replay { sockfd := 3 } exampleCollision).any
      (fun w => decide (w.sent = [0x10, 0, 3, 7, 0, 0, 0, 7, 7] ∧ w.calls = [[7, 7, 7]])) = true
      by decide +kernel)
  refine ⟨w, hw, ?_⟩
  obtain ⟨hsent, hcalls⟩ := of_decide_eq_true hp
  rintro ⟨frames, ⟨hlegit, haudio⟩, tail, htail⟩
  rw [hsent] at htail
  rw [hcalls] at haudio
  cases frames with
  | nil => cases htail
  | cons frame frames =>
    rcases hlegit frame List.mem_cons_self with rfl | ⟨pcmData, rfl⟩
    · exact absurd (List.cons.inj htail).1 (by decide)
    · rw [List.filter_cons_of_pos (by rfl)] at haudio
      have hframe : audioFrame pcmData = audioFrame [7, 7, 7] := (List.cons.inj haudio).1
      rw [encodeFrames, List.flatMap_cons, hframe] at htail
      simp [AudioSocketFrame.encode, AudioSocketFrame.header, audioFrame] at htail

end Wire

end SipGateway
