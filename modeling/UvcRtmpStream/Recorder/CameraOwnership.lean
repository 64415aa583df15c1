import UvcRtmpStream.Recorder.PreviewSurface

/-!
# Who owns the camera

The activity is meant to own at most one open device, the one in `cameraDevice`, and none while it
is paused (`OwnsCamera`). Every request to open a camera is answered later by `onOpened`, from three
places that may each have made one, and `onOpened` stores the device whatever the field holds and
whether or not the activity is paused. `onDisconnected` and `onError` close the device they are
called for, and clear the field whichever device it holds.

`KeepsOwnership` says of each callback when it does no harm. A callback that breaks it breaks the
ownership at once, so along every possible run the two hold together (`camera_ownership_iff`).
-/

set_option autoImplicit false
set_option relaxedAutoImplicit false

namespace UvcRtmpStream.Recorder

open UvcRtmpStream.Foundations UvcRtmpStream.Platform

/-- The open devices are the one in `cameraDevice`, if any, and none while paused. -/
def OwnsCamera (s : MainActivity) : Prop :=
  s.openDevices = s.cameraDevice.toList ∧ (s.lifecycle = .paused → s.openDevices = [])

instance (s : MainActivity) : Decidable (OwnsCamera s) :=
  inferInstanceAs (Decidable (_ ∧ _))

/-- What the camera manager does: it opens a device in answer to a request, and a new one. -/
def CameraPossible (s : MainActivity) : RecorderEvent → Prop
  | .onOpened camera _ => 0 < s.pendingOpens ∧ camera ∉ s.openDevices
  | _ => True

instance (s : MainActivity) : (event : RecorderEvent) → Decidable (CameraPossible s event)
  | .onOpened _ _ => inferInstanceAs (Decidable (_ ∧ _))
  | .onResume _ | .onPause | .onSurfaceTextureAvailable _ | .onSurfaceTextureDestroyed
  | .onRequestPermissionsResult _ _ | .onConfigured _ | .startRecording _ _ _ | .stopRecording _
  | .onOutputFormatChanged _ _ _ | .onOutputBufferAvailable _ _ | .onDisconnected _
  | .onError _ | .saveReplayClip _ | .clipAddTrack _ _ | .clipWriteSamples _ =>
    instDecidableTrue

/-- A device is opened while the activity is not paused and has none; a device is disconnected or
fails while the activity has that one or none. -/
def KeepsOwnership (s : MainActivity) : RecorderEvent → Prop
  | .onOpened _ _ => s.cameraDevice = none ∧ s.lifecycle ≠ .paused
  | .onDisconnected camera => s.cameraDevice = none ∨ s.cameraDevice = some camera
  | .onError camera => s.cameraDevice = none ∨ s.cameraDevice = some camera
  | _ => True

instance (s : MainActivity) : (event : RecorderEvent) → Decidable (KeepsOwnership s event)
  | .onOpened _ _ => inferInstanceAs (Decidable (_ ∧ _))
  | .onDisconnected _ | .onError _ => inferInstanceAs (Decidable (_ ∨ _))
  | .onResume _ | .onPause | .onSurfaceTextureAvailable _ | .onSurfaceTextureDestroyed
  | .onRequestPermissionsResult _ _ | .onConfigured _ | .startRecording _ _ _ | .stopRecording _
  | .onOutputFormatChanged _ _ _ | .onOutputBufferAvailable _ _ | .saveReplayClip _
  | .clipAddTrack _ _ | .clipWriteSamples _ =>
    instDecidableTrue

/-! ### One event -/

/-- Ownership is a matter of the camera part of the state. -/
theorem OwnsCamera.congr {s s' : MainActivity} (h : OwnsCamera s)
    (hview : s'.camera = s.camera) : OwnsCamera s' := by
  have hdevices := congrArg CameraView.openDevices hview
  have hdevice := congrArg CameraView.cameraDevice hview
  have hlifecycle := congrArg CameraView.lifecycle hview
  simp only [MainActivity.camera] at hdevices hdevice hlifecycle
  unfold OwnsCamera at *
  rw [hdevices, hdevice, hlifecycle]
  exact h

theorem OwnsCamera.openCamera {s : MainActivity} (h : OwnsCamera s) (accepted : Bool) :
    OwnsCamera (openCamera s accepted) := by
  unfold Recorder.openCamera
  split_ifs
  · exact h
  · exact h

/-- Ownership after `onOpened`. -/
theorem ownsCamera_onOpened_iff {s : MainActivity} (h : OwnsCamera s) (camera : ℕ)
    (sessionFails : Bool) :
    OwnsCamera (recorderStep s (.onOpened camera sessionFails)) ↔
      s.cameraDevice = none ∧ s.lifecycle ≠ .paused := by
  have hview := camera_onOpened s camera sessionFails
  have hdevices := congrArg CameraView.openDevices hview
  have hdevice := congrArg CameraView.cameraDevice hview
  have hlifecycle := congrArg CameraView.lifecycle hview
  simp only [MainActivity.camera] at hdevices hdevice hlifecycle
  unfold OwnsCamera
  rw [hdevices, hdevice, hlifecycle, h.1]
  cases s.cameraDevice with
  | none => simp
  | some current => simp

/-- Ownership after a device was closed and the field cleared. -/
theorem ownsCamera_closeDevice_iff {s : MainActivity} (h : OwnsCamera s) (camera : ℕ) :
    OwnsCamera { closeDevice s camera with cameraDevice := none } ↔
      s.cameraDevice = none ∨ s.cameraDevice = some camera := by
  unfold OwnsCamera closeDevice
  simp only [h.1]
  cases s.cameraDevice with
  | none => simp
  | some current =>
    by_cases hsame : current = camera
    · simp [hsame]
    · simp [hsame]

/-- A pause closes the device that the activity owns. -/
theorem ownsCamera_onPause {s : MainActivity} (h : OwnsCamera s) :
    OwnsCamera (recorderStep s .onPause) := by
  have hview := outside_closeCamera s
  have hdevices := congrArg (fun view ↦ view.1.openDevices) hview
  have hdevice := congrArg (fun view ↦ view.1.cameraDevice) hview
  simp only [MainActivity.outside, MainActivity.camera] at hdevices hdevice
  have hnone : (closeCamera s).openDevices = [] := by
    rw [hdevices, h.1]
    cases s.cameraDevice <;> simp
  exact ⟨by rw [recorderStep, hnone, hdevice]; rfl, fun _ ↦ hnone⟩

/-- The step lemma: after an event the activity owns its camera exactly when the event kept it. -/
theorem ownsCamera_recorderStep_iff {s : MainActivity} (h : OwnsCamera s) (event : RecorderEvent) :
    OwnsCamera (recorderStep s event) ↔ KeepsOwnership s event := by
  cases event with
  | onResume accepted =>
    refine iff_of_true ?_ trivial
    have hresumed : OwnsCamera { s with lifecycle := .resumed } := ⟨h.1, by simp⟩
    simp only [recorderStep]
    split_ifs
    · exact hresumed.openCamera accepted
    · exact hresumed
  | onPause => exact iff_of_true (ownsCamera_onPause h) trivial
  | onSurfaceTextureAvailable accepted =>
    have hannounced : OwnsCamera { s with
        textureAvailable := true
        previewSurface := some s.nextHandle
        nextHandle := s.nextHandle + 1 } := h
    exact iff_of_true (hannounced.openCamera accepted) trivial
  | onSurfaceTextureDestroyed => exact iff_of_true h trivial
  | onRequestPermissionsResult granted accepted =>
    refine iff_of_true ?_ trivial
    have hgranted : OwnsCamera { s with permission := true } := h
    simp only [recorderStep]
    split_ifs
    · exact hgranted.openCamera accepted
    · exact h
  | onOpened camera sessionFails => exact ownsCamera_onOpened_iff h camera sessionFails
  | onDisconnected camera => exact ownsCamera_closeDevice_iff h camera
  | onError camera => exact ownsCamera_closeDevice_iff h camera
  | onConfigured session => exact iff_of_true h trivial
  | startRecording encoderFault muxerFault sessionFails =>
    exact iff_of_true (h.congr (congrArg Prod.fst (outside_startRecording s _ _ _))) trivial
  | stopRecording sessionFails =>
    exact iff_of_true (h.congr (congrArg Prod.fst (outside_stopRecording s _))) trivial
  | onOutputFormatChanged codec format muxerFault =>
    exact iff_of_true (h.congr (congrArg Prod.fst (outside_onOutputFormatChanged s _ _ _)))
      trivial
  | onOutputBufferAvailable codec output =>
    exact iff_of_true (h.congr (camera_onOutputBufferAvailable s _ _)) trivial
  | saveReplayClip seconds =>
    exact iff_of_true (h.congr (camera_saveReplayClip s _)) trivial
  | clipAddTrack worker createFails => exact iff_of_true h trivial
  | clipWriteSamples worker => exact iff_of_true h trivial

/-! ### Runs -/

/-- Camera ownership along any events: it holds in every state exactly when every callback keeps
it. -/
theorem camera_ownership_iff (events : List RecorderEvent) :
    Throughout recorderStep OwnsCamera .initial events ↔
      Meets recorderStep KeepsOwnership .initial events :=
  throughout_iff_meets (fun _ h ↦ h)
    (fun _ event h _ hkeeps ↦ (ownsCamera_recorderStep_iff h event).mpr hkeeps)
    (fun _ event h _ hbroken howns ↦ hbroken ((ownsCamera_recorderStep_iff h event).mp howns))
    ⟨rfl, by simp [MainActivity.initial]⟩ (meets_of_forall fun _ _ ↦ trivial)

/-- After the permission dialog two requests are unanswered. Both devices are opened, and the first
is disconnected by the second: the activity loses the one that stays open. -/
theorem not_ownsCamera_two_requests :
    Meets recorderStep CameraPossible .initial
        [.onResume true, .onSurfaceTextureAvailable true, .onPause,
          .onRequestPermissionsResult true true, .onResume true, .onOpened 0 false,
          .onOpened 1 false, .onDisconnected 0] ∧
      ¬ Throughout recorderStep OwnsCamera .initial
        [.onResume true, .onSurfaceTextureAvailable true, .onPause,
          .onRequestPermissionsResult true true, .onResume true, .onOpened 0 false,
          .onOpened 1 false, .onDisconnected 0] := by
  refine ⟨by decide, fun h ↦ ?_⟩
  have hend := h _ (List.prefix_refl _)
  exact absurd hend (by decide)

end UvcRtmpStream.Recorder
