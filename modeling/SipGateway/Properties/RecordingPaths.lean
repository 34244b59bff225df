import SipGateway.Infra.Paths
import SipGateway.Media.Recording
import SipGateway.App.World

/-!
# Where recordings go

The path of a recording is put together from `recording_path`, the Call-ID as it was received, and
a suffix. `recordings_inside_iff` says for which Call-IDs the file is an entry of the directory, in
every directory, and another one for every call.
-/

namespace SipGateway

open Infra

/-! ## The file of a call -/

/-- The text behind the slash. -/
def mixedName (callId : Bytes) : Bytes := callId ++ bytes ".mixed.wav"

namespace RecorderStage

/--
The files that the constructor opens, by the names the system gets: `open` ends a name at its first
NUL.

In a directory without a name `create_directories` throws before anything is opened, and a NUL in
the name of the directory makes every path that of the directory itself, which cannot be written.
-/
def openedFiles (st : RecorderStage) (recordingPath : Bytes) : List Bytes :=
  if recordingPath = [] ∨ 0 ∈ recordingPath then []
  else ([st.uplinkFile, st.downlinkFile, st.mixedFile].filter (·.isOpen)).map (cStr ·.path)

end RecorderStage

namespace CallSession

/-- A pipeline started for the Call-ID, with that recording path, opens the file. -/
def Records (callId recordingPath file : Bytes) : Prop :=
  ∃ (session session' : CallSession) (env : Env) (config : Config) (localRtpPort : Int)
    (remoteIp : Bytes) (remotePort payloadType : Int) (pl : MediaPipeline) (st : RecorderStage),
    session.callId = callId ∧ config.recordingPath = recordingPath ∧
    session.startPipeline env config localRtpPort remoteIp remotePort payloadType = .ok session' ∧
    session'.pipeline = some pl ∧ Stage.recorder st ∈ pl.stages ∧
    file ∈ st.openedFiles recordingPath

/-- **The recorder of a started pipeline** is made from the Call-ID of the session. -/
theorem startPipeline_recorder {session session' : CallSession} {env : Env} {config : Config}
    {localRtpPort : Int} {remoteIp : Bytes} {remotePort payloadType : Int} {pl : MediaPipeline}
    {st : RecorderStage}
    (h : session.startPipeline env config localRtpPort remoteIp remotePort payloadType
      = .ok session') (hpl : session'.pipeline = some pl) (hst : Stage.recorder st ∈ pl.stages) :
    st = RecorderStage.create true config.recordingPath session.callId payloadType
      env.opensFile := by
  obtain ⟨bot, tcp, core, hcore, rfl⟩ := startPipeline_core h
  obtain ⟨-, hrec, -⟩ := hcore.consumers
  cases hpl
  have hst := (List.mem_append.mp hst).resolve_left (hrec st)
  unfold recorderStages at hst
  split at hst
  · next hmode =>
    rw [List.mem_singleton, hmode] at hst
    cases hst
    rfl
  · cases hst

/-- A recorder opens one file, if any. -/
theorem mem_openedFiles_create {recordingPath callId file : Bytes} {payloadType : Int}
    {opens : Bytes → Bool} :
    file ∈ (RecorderStage.create true recordingPath callId payloadType opens).openedFiles
        recordingPath ↔
      recordingPath ≠ [] ∧ 0 ∉ recordingPath ∧
        opens (recordingPath ++ bytes "/" ++ callId ++ bytes ".mixed.wav") = true ∧
        file = cStr (recordingPath ++ bytes "/" ++ callId ++ bytes ".mixed.wav") := by
  unfold RecorderStage.openedFiles RecorderStage.create
  generalize recordingPath ++ bytes "/" ++ callId ++ bytes ".mixed.wav" = path
  by_cases hdir : recordingPath = [] ∨ 0 ∈ recordingPath
  · rw [if_pos hdir]
    refine iff_of_false List.not_mem_nil fun h => ?_
    exact hdir.elim h.1 h.2.1
  · rw [if_neg hdir, if_pos rfl]
    rw [not_or] at hdir
    by_cases hopen : opens path = true
    · simp [hopen, hdir]
    · simp [hopen]

/-- The name ends at a NUL of the Call-ID, not before. -/
theorem cStr_path {recordingPath : Bytes} (h : 0 ∉ recordingPath) (callId : Bytes) :
    cStr (recordingPath ++ bytes "/" ++ callId ++ bytes ".mixed.wav") =
      recordingPath ++ slash :: cStr (mixedName callId) := by
  have hall : ∀ b ∈ recordingPath, (b != 0) = true := by
    intro b hb
    rw [bne_iff_ne]
    exact fun he => h (he ▸ hb)
  unfold cStr mixedName
  rw [List.append_assoc, List.append_assoc, List.takeWhile_append_of_pos hall]
  rfl

/-- **Which file a call opens.** -/
theorem records_iff {callId recordingPath file : Bytes} :
    Records callId recordingPath file ↔
      recordingPath ≠ [] ∧ 0 ∉ recordingPath ∧
        file = recordingPath ++ slash :: cStr (mixedName callId) := by
  constructor
  · rintro ⟨session, session', env, config, _, _, _, _, pl, st, rfl, rfl, hstart, hpl, hst, hfile⟩
    rw [startPipeline_recorder hstart hpl hst, mem_openedFiles_create] at hfile
    obtain ⟨hne, hzero, -, hfile⟩ := hfile
    exact ⟨hne, hzero, hfile.trans (cStr_path hzero _)⟩
  · rintro ⟨hne, hzero, rfl⟩
    have hfile := (@mem_openedFiles_create recordingPath callId _ 0 fun _ => true).mpr
      ⟨hne, hzero, rfl, (cStr_path hzero callId).symm⟩
    refine ⟨create callId 0, _, { start := 0 },
      { recordingMode := true, recordingPath := recordingPath }, 0, [], 0, 0, _, _, rfl, rfl, rfl,
      rfl, ?_, hfile⟩
    exact List.mem_append_right _ (List.mem_singleton.mpr rfl)

/-! ## Inside the directory -/

/-- What is wanted of the files of two calls. -/
structure StayInside (recordingPath file file' : Bytes) (different : Prop) : Prop where
  first : (resolve recordingPath).IsChild (resolve file)
  second : (resolve recordingPath).IsChild (resolve file')
  apart : different → resolve file ≠ resolve file'

/--
**When recordings stay inside the recording directory**, whatever its path, and apart.

The Call-ID with its suffix, as far as the first NUL, has to come down to one name by itself, and
different Call-IDs to different names.
-/
theorem recordings_inside_iff (callId callId' : Bytes) :
    (∀ recordingPath file file', Records callId recordingPath file →
      Records callId' recordingPath file' →
        StayInside recordingPath file file' (callId ≠ callId')) ↔
      ∃ name name', Inside (cStr (mixedName callId)) name ∧
        Inside (cStr (mixedName callId')) name' ∧ (callId ≠ callId' → name ≠ name') := by
  constructor
  · intro h
    have hall : ∀ dir : Bytes, dir ≠ [] → 0 ∉ dir →
        StayInside dir (dir ++ slash :: cStr (mixedName callId))
          (dir ++ slash :: cStr (mixedName callId')) (callId ≠ callId') :=
      fun dir hne hzero => h dir _ _ (records_iff.mpr ⟨hne, hzero, rfl⟩)
        (records_iff.mpr ⟨hne, hzero, rfl⟩)
    obtain ⟨name, hname⟩ := inside_of_isChild fun dir hne hzero => (hall dir hne hzero).first
    obtain ⟨name', hname'⟩ := inside_of_isChild fun dir hne hzero => (hall dir hne hzero).second
    refine ⟨name, name', hname, hname', fun hne heq => ?_⟩
    subst heq
    refine (hall [dot] (by decide) (by decide)).apart hne ?_
    rw [hname.resolve_eq (by decide), hname'.resolve_eq (by decide)]
  · rintro ⟨name, name', hname, hname', hapart⟩ dir file file' hfile hfile'
    obtain ⟨hne, -, rfl⟩ := records_iff.mp hfile
    obtain ⟨-, -, rfl⟩ := records_iff.mp hfile'
    refine ⟨⟨name, hname.resolve_eq hne⟩, ⟨name', hname'.resolve_eq hne⟩, fun hdiff heq => ?_⟩
    rw [hname.resolve_eq hne, hname'.resolve_eq hne] at heq
    simp only [Location.mk.injEq, List.cons.injEq, true_and, and_true] at heq
    exact hapart hdiff heq

theorem mixedName_length (callId : Bytes) : (mixedName callId).length = callId.length + 10 := by
  unfold mixedName
  rw [List.length_append]
  rfl

/-- A Call-ID without slashes and NULs is a name. -/
theorem inside_of_plain {callId : Bytes} (hslash : slash ∉ callId) (hzero : 0 ∉ callId) :
    Inside (cStr (mixedName callId)) (mixedName callId) := by
  have hlen := mixedName_length callId
  have hall : ∀ b ∈ mixedName callId, (b != 0) = true := by
    intro b hb
    rw [bne_iff_ne]
    rintro rfl
    exact (List.mem_append.mp hb).elim hzero (by decide)
  have htext : cStr (mixedName callId) = mixedName callId := List.takeWhile_eq_self_iff.mpr hall
  have hone : (mixedName callId).splitOn slash = [mixedName callId] := by
    refine List.splitOn_eq_singleton fun hm => ?_
    exact (List.mem_append.mp hm).elim hslash (by decide)
  have hname : ∀ piece : Bytes, piece.length < 10 → mixedName callId ≠ piece := by
    rintro piece hpiece rfl
    omega
  unfold Inside
  rw [htext, hone, within, if_neg (not_or.mpr ⟨hname _ (by decide), hname _ (by decide)⟩),
    if_neg (hname _ (by decide))]
  rfl

/-- Recordings of such Call-IDs stay inside and apart. -/
theorem recordings_inside_of_plain {callId callId' : Bytes} (hslash : slash ∉ callId)
    (hzero : 0 ∉ callId) (hslash' : slash ∉ callId') (hzero' : 0 ∉ callId') {recordingPath file
    file' : Bytes} (h : Records callId recordingPath file)
    (h' : Records callId' recordingPath file') :
    StayInside recordingPath file file' (callId ≠ callId') := by
  obtain ⟨hne, -, rfl⟩ := records_iff.mp h
  obtain ⟨-, -, rfl⟩ := records_iff.mp h'
  have hname := inside_of_plain hslash hzero
  have hname' := inside_of_plain hslash' hzero'
  refine ⟨⟨_, hname.resolve_eq hne⟩, ⟨_, hname'.resolve_eq hne⟩, fun hdiff heq => ?_⟩
  rw [hname.resolve_eq hne, hname'.resolve_eq hne] at heq
  simp only [Location.mk.injEq, List.cons.injEq, true_and, and_true] at heq
  exact hdiff (List.append_cancel_right heq)

/-! ## A Call-ID that leads out -/

def recordingConfig : Config :=
  { World.exampleConfig with recordingMode := true, recordingPath := bytes "rec" }

/-- An INVITE with the Call-ID `../x`. -/
def escapingInvite : Bytes :=
  bytes ("INVITE sip:x SIP/2.0\r\nVia: SIP/2.0/UDP 10.0.0.1;branch=b\r\nCall-ID: ../x\r\n" ++
    "Content-Length: 43\r\n\r\nc=IN IP4 10.0.0.1\r\nm=audio 4000 RTP/AVP 0\r\n")

/-- Its file is beside the directory; and the Call-IDs `a` and `./a` have the same file. -/
theorem recording_escapes :
    ((World.start recordingConfig 1).gateway.receive { start := 0 } escapingInvite {}
      ).toOption.any (fun r => (r.1.registry.getCall (bytes "../x")).any fun session =>
        session.pipeline.any fun pl => pl.stages.any fun stage =>
          match stage with
          | .recorder st => st.openedFiles (bytes "rec") = [bytes "rec/../x.mixed.wav"]
          | _ => false) = true ∧
    ¬ (resolve (bytes "rec")).IsChild (resolve (bytes "rec/../x.mixed.wav")) ∧
    (∃ file file', Records (bytes "a") (bytes "rec") file ∧
      Records (bytes "./a") (bytes "rec") file' ∧ resolve file = resolve file') ∧
    ¬ ∀ recordingPath file file', Records (bytes "../x") recordingPath file →
      Records (bytes "../x") recordingPath file' →
        StayInside recordingPath file file' (bytes "../x" ≠ bytes "../x") := by
  have hout : ¬ (resolve (bytes "rec")).IsChild (resolve (bytes "rec/../x.mixed.wav")) := by
    intro h
    exact absurd h.length (by decide +kernel)
  have hescapes : Records (bytes "../x") (bytes "rec") (bytes "rec/../x.mixed.wav") :=
    records_iff.mpr ⟨by decide, by decide, by decide⟩
  refine ⟨by decide +kernel, hout, ⟨_, _, records_iff.mpr ⟨by decide, by decide, rfl⟩,
    records_iff.mpr ⟨by decide, by decide, rfl⟩, by decide +kernel⟩, fun h => ?_⟩
  exact hout (h _ _ _ hescapes hescapes).first

end CallSession

end SipGateway
