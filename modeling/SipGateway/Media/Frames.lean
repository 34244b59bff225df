import SipGateway.Media.Stage

/-!
# What a frame does to the stages

A frame takes a stage through `processUplink` and then `processDownlink` (`takeFrame`), and the
pipeline through all of them in order (`frameLoop`).

Three things can come out at the end: nothing, 160 bytes of a bridge stage, or what an echo stage
was given (`frameLoop_of_bridges`, `frameLoop_of_echo`).
-/

namespace SipGateway

open Infra

theorem GrpcBridgeStage.downlink_frame (st : GrpcBridgeStage) (current : Bytes) :
    (st.processDownlink current).2 = current ∨ (st.processDownlink current).2.length = 160 := by
  unfold processDownlink
  split
  · next hlong => exact Or.inr (List.length_take_of_le hlong)
  · exact Or.inl rfl

theorem AudioSocketStage.downlink_frame (st : AudioSocketStage) (current : Bytes) :
    (st.processDownlink current).2 = current ∨ (st.processDownlink current).2.length = 160 := by
  unfold processDownlink
  split
  · next hlong => exact Or.inr (List.length_take_of_le hlong)
  · exact Or.inl rfl

namespace Stage

variable {payload current : Bytes}

/-- A stage after a frame, and the downlink audio behind it. -/
def takeFrame (payload current : Bytes) (stage : Stage) : Stage × Bytes :=
  (stage.processUplink payload).1.processDownlink current

/-- The stage is an `EchoStage`. -/
def isEcho : Stage → Bool
  | .echo _ => true
  | _ => false

/-- The stage is a `RecorderStage`. -/
def isRecorder : Stage → Bool
  | .recorder _ => true
  | _ => false

@[simp] theorem takeFrame_isEcho (stage : Stage) :
    (stage.takeFrame payload current).1.isEcho = stage.isEcho := by
  cases stage <;> rfl

@[simp] theorem takeFrame_isRecorder (stage : Stage) :
    (stage.takeFrame payload current).1.isRecorder = stage.isRecorder := by
  cases stage <;> rfl

/-- A stage that is no echo passes the audio on or fills in a frame of its own. -/
theorem takeFrame_of_not_echo {stage : Stage} (h : stage.isEcho = false) :
    (stage.takeFrame payload current).2 = current ∨
      (stage.takeFrame payload current).2.length = 160 := by
  cases stage with
  | echo st => cases h
  | grpcBridge st => exact (st.processUplink payload).1.downlink_frame current
  | audioSocket st => exact st.downlink_frame current
  | recorder st => exact Or.inl rfl

theorem takeFrame_of_recorder {stage : Stage} (h : stage.isRecorder) :
    (stage.takeFrame payload current).2 = current := by
  cases stage with
  | recorder st => rfl
  | echo st => cases h
  | grpcBridge st => cases h
  | audioSocket st => cases h

end Stage

/-- An echo stage that holds nothing back is given the frame, returns it, and holds nothing. -/
theorem EchoStage.takeFrame {st : EchoStage} (h : st.hasData = false) (payload : Bytes) :
    ((Stage.echo st).takeFrame payload []).2 = payload ∧
      ∃ st', ((Stage.echo st).takeFrame payload []).1 = .echo st' ∧ st'.hasData = false := by
  obtain ⟨buffer, hasData⟩ := st
  have h : hasData = false := h
  subst h
  cases payload with
  | nil => exact ⟨rfl, _, rfl, rfl⟩
  | cons b bs => exact ⟨rfl, _, rfl, rfl⟩

namespace MediaPipeline

variable {payload current : Bytes}

/-- The downlink loop over the stages as the uplink audio left them. -/
def frameLoop (payload : Bytes) (stages : List Stage) (current : Bytes) : List Stage × Bytes :=
  downlinkLoop (stages.map fun stage => (stage.processUplink payload).1) current

theorem frameLoop_cons (stage : Stage) (stages : List Stage) :
    frameLoop payload (stage :: stages) current =
      ((stage.takeFrame payload current).1 ::
        (frameLoop payload stages (stage.takeFrame payload current).2).1,
      (frameLoop payload stages (stage.takeFrame payload current).2).2) := rfl

theorem frameLoop_forall {P : Stage → Prop} {stages : List Stage}
    (hstep : ∀ stage, P stage → ∀ current, P (stage.takeFrame payload current).1)
    (h : ∀ stage ∈ stages, P stage) :
    ∀ stage ∈ (frameLoop payload stages current).1, P stage := by
  induction stages generalizing current with
  | nil => exact nofun
  | cons stage stages ih =>
    obtain ⟨hstage, hrest⟩ := List.forall_mem_cons.mp h
    rw [frameLoop_cons]
    exact List.forall_mem_cons.mpr ⟨hstep stage hstage current, ih hrest⟩

theorem frameLoop_of_bridges {stages : List Stage} (h : ∀ stage ∈ stages, stage.isEcho = false) :
    (frameLoop payload stages current).2 = current ∨
      (frameLoop payload stages current).2.length = 160 := by
  induction stages generalizing current with
  | nil => exact Or.inl rfl
  | cons stage stages ih =>
    obtain ⟨hstage, hrest⟩ := List.forall_mem_cons.mp h
    rw [frameLoop_cons]
    rcases @ih (stage.takeFrame payload current).2 hrest with hsame | hframe
    · dsimp only
      rw [hsame]
      exact Stage.takeFrame_of_not_echo hstage
    · exact Or.inr hframe

theorem frameLoop_of_recorders {stages : List Stage} (h : ∀ stage ∈ stages, stage.isRecorder) :
    (frameLoop payload stages current).2 = current := by
  induction stages generalizing current with
  | nil => rfl
  | cons stage stages ih =>
    obtain ⟨hstage, hrest⟩ := List.forall_mem_cons.mp h
    rw [frameLoop_cons]
    exact (ih hrest).trans (Stage.takeFrame_of_recorder hstage)

end MediaPipeline

/-! ## The two kinds of pipeline -/

namespace MediaPipeline

variable {pl : MediaPipeline}

/-- The pipeline and the downlink audio after a frame. -/
def takeFrame (pl : MediaPipeline) (payload : Bytes) : MediaPipeline × Bytes :=
  (pl.processUplink payload).1.processDownlink

theorem takeFrame_eq (pl : MediaPipeline) (payload : Bytes) : pl.takeFrame payload =
    ({ stages := (frameLoop payload pl.stages []).1 }, (frameLoop payload pl.stages []).2) := rfl

/-- An echo stage that holds nothing back, and at most recorders behind it. -/
def Echoing (pl : MediaPipeline) : Prop :=
  ∃ st recorders, pl.stages = .echo st :: recorders ∧ st.hasData = false ∧
    ∀ stage ∈ recorders, stage.isRecorder

/-- No echo stage. -/
def Bridging (pl : MediaPipeline) : Prop := ∀ stage ∈ pl.stages, stage.isEcho = false

theorem Echoing.takeFrame (h : pl.Echoing) (payload : Bytes) :
    (pl.takeFrame payload).1.Echoing ∧ (pl.takeFrame payload).2 = payload := by
  obtain ⟨st, recorders, hstages, hdata, hrecorders⟩ := h
  obtain ⟨hout, st', hst', hdata'⟩ := EchoStage.takeFrame hdata payload
  rw [takeFrame_eq, hstages, frameLoop_cons, hst', hout]
  refine ⟨⟨st', _, rfl, hdata', ?_⟩, frameLoop_of_recorders hrecorders⟩
  exact frameLoop_forall (fun stage hstage _ => (Stage.takeFrame_isRecorder stage).trans hstage)
    hrecorders

theorem Bridging.takeFrame (h : pl.Bridging) (payload : Bytes) :
    (pl.takeFrame payload).1.Bridging ∧
      ((pl.takeFrame payload).2 = [] ∨ (pl.takeFrame payload).2.length = 160) := by
  rw [takeFrame_eq]
  exact ⟨frameLoop_forall (fun stage hstage _ => (Stage.takeFrame_isEcho stage).trans hstage) h,
    frameLoop_of_bridges h⟩

end MediaPipeline

end SipGateway
