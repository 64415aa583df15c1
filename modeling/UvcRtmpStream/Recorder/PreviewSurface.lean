import UvcRtmpStream.Recorder.ActivitySpec

/-!
# The preview surface across a pause

When a camera is opened while the activity is resumed and the texture is available, the preview is
meant to come up (`PreviewComesUp`): `startPreviewSession` needs a preview surface, and does nothing
without one.

The surface is made by `onSurfaceTextureAvailable` and released by `closeCamera` on a pause. A
texture that stays available across the pause is not announced again, and `onResume` opens the
camera without making a surface. So the activity holds a surface exactly when one was announced
since the last pause (`previewSurface_recorderRun`), and that decides when the preview comes up
(`previewComesUp_iff`).
-/

set_option autoImplicit false
set_option relaxedAutoImplicit false

namespace UvcRtmpStream.Recorder

open UvcRtmpStream.Foundations UvcRtmpStream.Platform

/-- Every camera that is opened while the activity is resumed and the texture is available finds a
preview surface. -/
def PreviewComesUp (events : List RecorderEvent) : Prop :=
  ∀ before camera sessionFails after,
    events = before ++ .onOpened camera sessionFails :: after →
      (recorderRun .initial (before ++ [.onOpened camera sessionFails])).lifecycle = .resumed →
      (recorderRun .initial (before ++ [.onOpened camera sessionFails])).textureAvailable = true →
      (recorderRun .initial (before ++ [.onOpened camera sessionFails])).previewSurface.isSome

/-- Whether a texture is announced and no pause came since, after an event. -/
def announcedAfter (announced : Bool) : RecorderEvent → Bool
  | .onSurfaceTextureAvailable _ => true
  | .onPause => false
  | _ => announced

/-- A texture was announced after the last pause. -/
def AnnouncedSincePause (events : List RecorderEvent) : Prop :=
  events.foldl announcedAfter false = true

instance (events : List RecorderEvent) : Decidable (AnnouncedSincePause events) :=
  inferInstanceAs (Decidable (_ = true))

/-- The camera and the surface that a preview needs. -/
structure PreviewParts where
  cameraDevice : Option ℕ
  previewSurface : Option ℕ

/-- The preview's part of the state. -/
def MainActivity.previewParts (s : MainActivity) : PreviewParts :=
  ⟨s.cameraDevice, s.previewSurface⟩

/-- What an event makes of the camera and the surface. -/
def previewPartsAfter (s : MainActivity) : RecorderEvent → PreviewParts
  | .onPause => ⟨none, none⟩
  | .onSurfaceTextureAvailable _ => ⟨s.cameraDevice, some s.nextHandle⟩
  | .onOpened camera _ => ⟨some camera, s.previewSurface⟩
  | .onDisconnected _ | .onError _ => ⟨none, s.previewSurface⟩
  | _ => s.previewParts

theorem previewParts_recorderStep (s : MainActivity) (event : RecorderEvent) :
    (recorderStep s event).previewParts = previewPartsAfter s event := by
  have hparts : ∀ {view view' : CameraView}, view' = view →
      PreviewParts.mk view'.cameraDevice view'.previewSurface =
        ⟨view.cameraDevice, view.previewSurface⟩ := fun hview ↦ hview ▸ rfl
  have hkeeps : ∀ {s' : MainActivity}, s'.camera = s.camera → s'.previewParts = s.previewParts :=
    fun hview ↦ hparts hview
  cases event with
  | onResume accepted => exact view_onResume (fun _ _ _ ↦ rfl) s accepted
  | onPause =>
    exact hparts (congrArg (fun view : CameraView × ReplayView × ClipView ↦ view.1)
      (outside_closeCamera s))
  | onSurfaceTextureAvailable accepted => exact view_openCamera (fun _ _ ↦ rfl) _ accepted
  | onSurfaceTextureDestroyed => rfl
  | onRequestPermissionsResult granted accepted =>
    exact view_onRequestPermissionsResult (fun _ _ _ ↦ rfl) s granted accepted
  | onOpened camera sessionFails => exact hparts (camera_onOpened s camera sessionFails)
  | onDisconnected camera => rfl
  | onError camera => rfl
  | onConfigured session => rfl
  | startRecording encoderFault muxerFault sessionFails =>
    exact hkeeps (congrArg Prod.fst (outside_startRecording s _ _ _))
  | stopRecording sessionFails =>
    exact hkeeps (congrArg Prod.fst (outside_stopRecording s sessionFails))
  | onOutputFormatChanged codec format muxerFault =>
    exact hkeeps (congrArg Prod.fst (outside_onOutputFormatChanged s codec format muxerFault))
  | onOutputBufferAvailable codec output =>
    exact hkeeps (camera_onOutputBufferAvailable s codec output)
  | saveReplayClip seconds => exact hkeeps (camera_saveReplayClip s seconds)
  | clipAddTrack worker createFails => rfl
  | clipWriteSamples worker => rfl

/-- What an event does to the preview surface. -/
theorem previewSurface_recorderStep (s : MainActivity) (event : RecorderEvent) :
    (recorderStep s event).previewSurface.isSome =
      announcedAfter s.previewSurface.isSome event := by
  refine (congrArg (fun parts : PreviewParts ↦ parts.previewSurface.isSome)
    (previewParts_recorderStep s event)).trans ?_
  cases event <;> rfl

/-- The activity holds a preview surface exactly when a texture was announced after the last
pause. -/
theorem previewSurface_recorderRun (events : List RecorderEvent) :
    (recorderRun .initial events).previewSurface.isSome ↔ AnnouncedSincePause events := by
  have hrun : ∀ s : MainActivity, (recorderRun s events).previewSurface.isSome =
      events.foldl announcedAfter s.previewSurface.isSome := by
    induction events with
    | nil => exact fun _ ↦ rfl
    | cons event rest ih =>
      intro s
      rw [recorderRun, run_cons, List.foldl_cons, ← previewSurface_recorderStep]
      exact ih _
  rw [hrun]
  exact Iff.rfl

/-- Along any events the preview always comes up exactly when every camera that is opened while the
activity is resumed and the texture is available comes after an announcement of the texture that is
later than the last pause. -/
theorem previewComesUp_iff (events : List RecorderEvent) :
    PreviewComesUp events ↔
      ∀ before camera sessionFails after,
        events = before ++ .onOpened camera sessionFails :: after →
          (recorderRun .initial before).lifecycle = .resumed →
          (recorderRun .initial before).textureAvailable = true →
          AnnouncedSincePause before := by
  have hopened : ∀ before camera sessionFails,
      (recorderRun .initial (before ++ [.onOpened camera sessionFails])).lifecycle =
          (recorderRun .initial before).lifecycle ∧
        (recorderRun .initial (before ++ [.onOpened camera sessionFails])).textureAvailable =
          (recorderRun .initial before).textureAvailable := by
    intro before camera sessionFails
    have hview := camera_onOpened (recorderRun .initial before) camera sessionFails
    rw [recorderRun, run_append]
    exact ⟨congrArg CameraView.lifecycle hview, congrArg CameraView.textureAvailable hview⟩
  have hsurface : ∀ before camera sessionFails,
      (recorderRun .initial (before ++ [.onOpened camera sessionFails])).previewSurface.isSome ↔
        AnnouncedSincePause before := by
    intro before camera sessionFails
    rw [previewSurface_recorderRun, AnnouncedSincePause, List.foldl_append]
    exact Iff.rfl
  unfold PreviewComesUp
  refine forall_congr' fun before ↦ forall_congr' fun camera ↦ forall_congr' fun sessionFails ↦
    forall_congr' fun after ↦ imp_congr_right fun _ ↦ ?_
  rw [(hopened before camera sessionFails).1, (hopened before camera sessionFails).2, hsurface]

/-- The permission dialog of a first start: the texture is announced, the dialog pauses the
activity, the permission is granted, and the resumed activity opens the camera without a preview
surface. -/
theorem not_previewComesUp_permission_dialog :
    ¬ PreviewComesUp
      [.onResume true, .onSurfaceTextureAvailable true, .onPause,
        .onRequestPermissionsResult true true, .onResume true, .onOpened 0 false] := by
  intro h
  have hsurface := h
    [.onResume true, .onSurfaceTextureAvailable true, .onPause,
      .onRequestPermissionsResult true true, .onResume true] 0 false [] rfl rfl rfl
  exact absurd hsurface (by decide)

end UvcRtmpStream.Recorder
