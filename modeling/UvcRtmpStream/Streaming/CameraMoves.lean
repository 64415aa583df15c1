import UvcRtmpStream.Foundations.Lists
import UvcRtmpStream.Streaming.StreamServiceSpec

/-!
# What the methods do to the cameras

The view of the service is the stored camera and all cameras without their preview (`CameraView`).
Only `onConnect` and `onDestroy` touch it, and the other methods leave it alone on every exit. What
`onConnect` does to it depends on how the calls on the new camera end (`CameraMove`).
-/

set_option autoImplicit false
set_option relaxedAutoImplicit false

namespace UvcRtmpStream.Streaming

open UvcRtmpStream.Foundations UvcRtmpStream.Platform UvcRtmpStream.Replay

/-- A camera without its preview: whether it is open, and whether it was destroyed. -/
def UVCCamera.lifetime (camera : UVCCamera) : UVCCamera := { camera with previewing := false }

/-- A camera that is open. -/
def UVCCamera.opened : UVCCamera := ⟨true, true, false⟩

/-- A camera that was destroyed. -/
def UVCCamera.destroyed : UVCCamera := ⟨false, false, false⟩

/-- A call on a camera that neither opens nor destroys it. -/
def UVCCamera.KeepsLifetime (effect : UVCCamera → UVCCamera) : Prop :=
  ∀ camera, (effect camera).lifetime = camera.lifetime

theorem UVCCamera.keepsLifetime_startPreview : KeepsLifetime UVCCamera.startPreview := by
  intro camera
  unfold UVCCamera.startPreview
  split_ifs <;> rfl

theorem UVCCamera.keepsLifetime_stopPreview : KeepsLifetime UVCCamera.stopPreview := by
  intro camera
  unfold UVCCamera.stopPreview
  split_ifs <;> rfl

theorem UVCCamera.lifetime_destroy (camera : UVCCamera) :
    camera.destroy.lifetime = UVCCamera.destroyed := rfl

theorem UVCCamera.keepsLifetime_id : KeepsLifetime id := fun _ ↦ rfl

/-- All cameras without their preview. -/
def lifetimes (cameras : List UVCCamera) : List UVCCamera := cameras.map UVCCamera.lifetime

/-! ### Methods of an object -/

/-- The cameras, as the methods of an object see them. -/
def Usb.lifetimes (u : Usb) : List UVCCamera := Streaming.lifetimes u.devices.cameras

section Objects

variable (uvcCamera : Option ℕ)

theorem lifetimes_call {effect : Usb → Usb} (heffect : ∀ u, (effect u).lifetimes = u.lifetimes) :
    Leaves Usb.lifetimes (call effect) :=
  leaves_call (fun _ _ ↦ rfl) heffect

theorem lifetimes_ask {effect : Usb → Usb} (heffect : ∀ u, (effect u).lifetimes = u.lifetimes) :
    Leaves Usb.lifetimes (ask effect) :=
  leaves_ask (fun _ _ ↦ rfl) heffect

theorem lifetimes_onGl (effect : GlInterface → GlInterface) :
    Leaves Usb.lifetimes (onGl effect) := lifetimes_call fun _ ↦ rfl

theorem lifetimes_onRtmp (rtmpCall : RtmpCall) : Leaves Usb.lifetimes (onRtmp rtmpCall) :=
  lifetimes_call fun _ ↦ rfl

theorem lifetimes_onVideoEncoder (effect : VideoEncoder → VideoEncoder) :
    Leaves Usb.lifetimes (onVideoEncoder effect) := lifetimes_call fun _ ↦ rfl

theorem lifetimes_onCamera {effect : UVCCamera → UVCCamera}
    (heffect : UVCCamera.KeepsLifetime effect) :
    Leaves Usb.lifetimes (onCamera uvcCamera effect) :=
  leaves_onCamera (fun _ _ ↦ rfl) fun u camera ↦
    map_modify_of_eq heffect u.devices.cameras camera

/-- What leaves the setting alone leaves the cameras alone. -/
theorem lifetimes_of_setting {method : UsbM Unit} (h : Leaves Usb.setting method) :
    Leaves Usb.lifetimes method :=
  h.comp Usb.lifetimes fun _ ↦ rfl

theorem lifetimes_startPreview : Leaves Usb.lifetimes (startPreview uvcCamera) := by
  refine .bind .get fun u ↦ .whenever ?_
  refine .bind (lifetimes_onGl _) fun _ ↦ .bind (lifetimes_onGl _) fun _ ↦
    .bind (lifetimes_onGl _) fun _ ↦ ?_
  refine .bind (lifetimes_onCamera uvcCamera UVCCamera.keepsLifetime_id) fun _ ↦
    .bind (lifetimes_onCamera uvcCamera UVCCamera.keepsLifetime_startPreview) fun _ ↦ ?_
  exact .modify fun _ ↦ rfl

theorem lifetimes_stopPreview : Leaves Usb.lifetimes (stopPreview uvcCamera) := by
  refine .bind .get fun u ↦ .whenever (.bind (lifetimes_onGl _) fun _ ↦ ?_)
  refine .bind (lifetimes_onCamera uvcCamera UVCCamera.keepsLifetime_stopPreview) fun _ ↦ ?_
  exact .modify fun _ ↦ rfl

theorem lifetimes_prepareVideo (parameters : VideoParameters) :
    Leaves Usb.lifetimes (prepareVideo parameters uvcCamera) := by
  refine .bind .get fun u ↦ .bind (.whenever ?_) fun _ ↦ lifetimes_ask fun _ ↦ rfl
  exact .bind (lifetimes_stopPreview uvcCamera) fun _ ↦ .modify fun _ ↦ rfl

theorem lifetimes_prepareAudio : Leaves Usb.lifetimes prepareAudio :=
  .bind (lifetimes_call fun _ ↦ rfl) fun _ ↦ .bind (lifetimes_onRtmp _) fun _ ↦
    lifetimes_ask fun _ ↦ rfl

theorem lifetimes_startEncoders : Leaves Usb.lifetimes (startEncoders uvcCamera) := by
  refine .bind (lifetimes_onVideoEncoder _) fun _ ↦ .bind (lifetimes_call fun _ ↦ rfl) fun _ ↦
    .bind (lifetimes_call fun _ ↦ rfl) fun _ ↦
    .bind (lifetimes_onCamera uvcCamera UVCCamera.keepsLifetime_stopPreview) fun _ ↦ ?_
  refine .bind (lifetimes_onGl _) fun _ ↦ .bind (lifetimes_onGl _) fun _ ↦
    .bind (lifetimes_onGl _) fun _ ↦ .bind (lifetimes_onGl _) fun _ ↦ ?_
  refine .bind (lifetimes_onCamera uvcCamera UVCCamera.keepsLifetime_id) fun _ ↦
    .bind (lifetimes_onCamera uvcCamera UVCCamera.keepsLifetime_startPreview) fun _ ↦
    .bind (lifetimes_ask fun _ ↦ rfl) fun _ ↦ .bind (.whenever (lifetimes_onGl _)) fun _ ↦ ?_
  exact .modify fun _ ↦ rfl

theorem lifetimes_resetVideoEncoder : Leaves Usb.lifetimes resetVideoEncoder :=
  .bind (lifetimes_onGl _) fun _ ↦ .bind (lifetimes_onVideoEncoder _) fun _ ↦ lifetimes_onGl _

theorem lifetimes_startStream (url : String) :
    Leaves Usb.lifetimes (startStream uvcCamera url) := by
  refine .bind (.modify fun _ ↦ rfl) fun _ ↦ .bind .get fun u ↦ ?_
  refine .bind (.ite (lifetimes_startEncoders uvcCamera) lifetimes_resetVideoEncoder) fun _ ↦ ?_
  refine .bind (.bind .get fun _ ↦ .bind (lifetimes_onRtmp _) fun _ ↦ lifetimes_onRtmp _) fun _ ↦ ?_
  exact .modify fun _ ↦ rfl

theorem lifetimes_stopStream : Leaves Usb.lifetimes (stopStream uvcCamera) := by
  refine .bind .get fun u ↦ .bind (.whenever ?_) fun _ ↦ .whenever ?_
  · exact .bind (.modify fun _ ↦ rfl) fun _ ↦ lifetimes_onRtmp _
  · refine .bind (lifetimes_call fun _ ↦ rfl) fun _ ↦ .bind (lifetimes_onGl _) fun _ ↦ ?_
    refine .bind (.whenever (.bind (lifetimes_onGl _) fun _ ↦
      lifetimes_onCamera uvcCamera UVCCamera.keepsLifetime_stopPreview)) fun _ ↦ ?_
    exact .bind (lifetimes_onVideoEncoder _) fun _ ↦ .bind (lifetimes_call fun _ ↦ rfl) fun _ ↦
      .modify fun _ ↦ rfl

theorem lifetimes_startRecord : Leaves Usb.lifetimes (startRecord uvcCamera) := by
  have hcreate : Leaves Usb.lifetimes createMuxer := lifetimes_call fun _ ↦ rfl
  refine .bind hcreate fun _ ↦ .bind (.modify fun _ ↦ rfl) fun _ ↦ .bind .get fun u ↦ ?_
  exact .ite (lifetimes_startEncoders uvcCamera) (.whenever lifetimes_resetVideoEncoder)

theorem lifetimes_stopRecord : Leaves Usb.lifetimes (stopRecord uvcCamera) := by
  have hdrop : ∀ held started, Leaves Usb.lifetimes (dropMuxer held started) :=
    fun held started ↦ lifetimes_of_setting (setting_dropMuxer held started)
  exact .bind (.modify fun _ ↦ rfl) fun _ ↦ .bind .get fun u ↦ .bind (hdrop _ _) fun _ ↦
    .bind (.modify fun _ ↦ rfl) fun _ ↦ .whenever (lifetimes_stopStream uvcCamera)

theorem lifetimes_replaceGlInterface (glInterface : ℕ) :
    Leaves Usb.lifetimes (replaceGlInterface glInterface uvcCamera) := by
  refine .bind .get fun u ↦ .ite ?_ (.modify fun _ ↦ rfl)
  refine .bind (lifetimes_onCamera uvcCamera UVCCamera.keepsLifetime_stopPreview) fun _ ↦
    .bind (lifetimes_onGl _) fun _ ↦ .bind (lifetimes_onGl _) fun _ ↦
    .bind (.modify fun _ ↦ rfl) fun _ ↦ ?_
  refine .bind (lifetimes_onGl _) fun _ ↦ .bind (lifetimes_onGl _) fun _ ↦
    .bind (lifetimes_onGl _) fun _ ↦ .bind (lifetimes_onGl _) fun _ ↦
    .bind (.whenever (lifetimes_onGl _)) fun _ ↦ ?_
  exact .bind (lifetimes_onCamera uvcCamera UVCCamera.keepsLifetime_id) fun _ ↦
    lifetimes_onCamera uvcCamera UVCCamera.keepsLifetime_startPreview

theorem lifetimes_replaceView (openGlView : Option ℕ) :
    Leaves Usb.lifetimes (replaceView openGlView uvcCamera) := by
  cases openGlView with
  | some view => exact lifetimes_replaceGlInterface uvcCamera view
  | none =>
    refine .bind .get fun u ↦ .bind (lifetimes_call fun _ ↦ rfl) fun _ ↦ ?_
    exact lifetimes_replaceGlInterface uvcCamera _

/-- The encoders have no part in the cameras. -/
theorem lifetimes_callback (encoderCallback : EncoderCallback) :
    Leaves Usb.lifetimes encoderCallback.method :=
  lifetimes_of_setting (setting_callback encoderCallback)

end Objects

/-! ### Methods of the service -/

/-- The stored camera, and all cameras without their preview. -/
structure CameraView where
  uvcCamera : Option ℕ
  cameras : List UVCCamera

/-- The cameras part of the state. -/
def ServiceState.cameraView (s : ServiceState) : CameraView :=
  ⟨s.service.uvcCamera, lifetimes s.devices.cameras⟩

section Service

variable {α : Type} {method : UsbM α}

theorem cameraView_onObject (h : Leaves Usb.lifetimes method) (object : ℕ) :
    Leaves ServiceState.cameraView (onObject object method) := by
  refine h.zoom fun s u u' hu hsame ↦ ?_
  obtain ⟨-, hdevices⟩ := usb_eq_some hu
  have hcameras : lifetimes u'.devices.cameras = lifetimes u.devices.cameras := hsame
  rw [ServiceState.cameraView, ServiceState.cameraView, hcameras, hdevices]

theorem cameraView_onRtmpUSB (h : Leaves Usb.lifetimes method) :
    Leaves ServiceState.cameraView (onRtmpUSB method) := by
  refine .bind .get fun s ↦ ?_
  cases s.service.rtmpUSB with
  | none => exact .throw _
  | some object => exact cameraView_onObject h object

theorem cameraView_withRtmpUSB {method : UsbM Unit} (h : Leaves Usb.lifetimes method) :
    Leaves ServiceState.cameraView (withRtmpUSB method) :=
  .bind .get fun _ ↦ .whenever (cameraView_onRtmpUSB h)

theorem cameraView_onDevices {effect : Devices → Devices}
    (heffect : ∀ devices, (effect devices).cameras = devices.cameras) :
    Leaves ServiceState.cameraView (onDevices effect) := by
  have hinner : Leaves Devices.cameras (do
      let _ ← answer
      modify effect : EStateM JavaException Devices Unit) :=
    (leaves_answer fun _ _ ↦ rfl).bind fun _ ↦ .modify heffect
  refine hinner.zoom fun s devices devices' hdevices hsame ↦ ?_
  obtain rfl := Option.some.inj hdevices
  rw [ServiceState.cameraView, ServiceState.cameraView, hsame]

theorem cameraView_stopStream (force : Bool) :
    Leaves ServiceState.cameraView (StreamService.stopStream force) :=
  .bind (.whenever (.modify fun _ ↦ rfl)) fun _ ↦ .bind .get fun s ↦
    .whenever (cameraView_onRtmpUSB (lifetimes_stopStream s.service.uvcCamera))

theorem cameraView_stopPreview : Leaves ServiceState.cameraView StreamService.stopPreview :=
  .bind .get fun s ↦ .whenever (cameraView_onRtmpUSB (lifetimes_stopPreview s.service.uvcCamera))

theorem cameraView_startPreview : Leaves ServiceState.cameraView StreamService.startPreview :=
  .bind .get fun s ↦ cameraView_withRtmpUSB (lifetimes_startPreview s.service.uvcCamera)

theorem cameraView_prepareEncoders (parameters : VideoParameters) (uvcCamera : Option ℕ) :
    Leaves ServiceState.cameraView (prepareEncoders parameters uvcCamera) :=
  .bind (cameraView_onRtmpUSB (lifetimes_prepareVideo uvcCamera parameters)) fun _ ↦
    .ite (cameraView_onRtmpUSB lifetimes_prepareAudio) (.pure _)

theorem cameraView_startStreamRtp (endpoint : String) :
    Leaves ServiceState.cameraView (StreamService.startStreamRtp endpoint) := by
  refine .bind .get fun s ↦ .ite (.bind (.modify fun _ ↦ rfl) fun _ ↦ ?_) (.pure _)
  refine .bind (cameraView_prepareEncoders _ _) fun _ ↦ .ite ?_ (.pure _)
  exact .bind (cameraView_onRtmpUSB (lifetimes_startStream _ endpoint)) fun _ ↦ .pure _

theorem cameraView_startLocalRecording (outputPath : String) :
    Leaves ServiceState.cameraView (StreamService.startLocalRecording outputPath) := by
  refine .bind .get fun s ↦ .ite (.pure _) (.tryCatch ?_ fun _ ↦ .pure _)
  refine .bind (cameraView_prepareEncoders _ _) fun _ ↦ .ite ?_ (.pure _)
  exact .bind (cameraView_onRtmpUSB (lifetimes_startRecord _)) fun _ ↦ .pure _

theorem cameraView_stopLocalRecording :
    Leaves ServiceState.cameraView StreamService.stopLocalRecording :=
  .bind .get fun s ↦ .whenever (.tryCatch
    (cameraView_onRtmpUSB (lifetimes_stopRecord s.service.uvcCamera)) fun _ ↦ .pure ())

theorem cameraView_setView (view : Option ℕ) :
    Leaves ServiceState.cameraView (StreamService.setView view) :=
  .bind (.modify fun _ ↦ rfl) fun _ ↦ .bind .get fun s ↦
    cameraView_withRtmpUSB (lifetimes_replaceView s.service.uvcCamera view)

theorem cameraView_prepareStreamRtp :
    Leaves ServiceState.cameraView StreamService.prepareStreamRtp := by
  have hgl : Leaves ServiceState.cameraView newGlInterface := by
    refine .bind .get fun s ↦ ?_
    cases s.service.openGlView with
    | some view => exact .pure view
    | none => exact .bind (cameraView_onDevices fun _ ↦ rfl) fun _ ↦ .pure _
  have hnew : Leaves ServiceState.cameraView newRtmpUSB :=
    .bind hgl fun _ ↦ .bind (cameraView_onDevices (by exact fun _ ↦ rfl)) fun _ ↦
      .bind .get fun _ ↦ .bind (.modify fun _ ↦ rfl) fun _ ↦ .pure _
  exact .bind (cameraView_stopStream false) fun _ ↦ .bind cameraView_stopPreview fun _ ↦
    .bind hnew fun _ ↦ .modify fun _ ↦ rfl

theorem cameraView_resumeStream : Leaves ServiceState.cameraView resumeStream := by
  refine .bind .get fun s ↦ ?_
  cases s.service.endpoint with
  | none => exact .pure _
  | some endpoint => exact .bind (cameraView_startStreamRtp endpoint) fun _ ↦ .pure _

end Service

/-! ### The calls of `onConnect` on the new camera -/

namespace CameraView

/-- One more camera. -/
def add (v : CameraView) (camera : UVCCamera) : CameraView :=
  { v with cameras := v.cameras ++ [camera] }

/-- The camera is destroyed. -/
def destroy (v : CameraView) (camera : ℕ) : CameraView :=
  { v with cameras := v.cameras.modify camera fun _ ↦ UVCCamera.destroyed }

/-- The camera has its native pointer. -/
def Alive (v : CameraView) (camera : ℕ) : Prop :=
  (v.cameras[camera]?).any UVCCamera.nativePtr = true

/-- The camera is stored. -/
def store (v : CameraView) (camera : ℕ) : CameraView := { v with uvcCamera := some camera }

end CameraView

/-- One of the dimensions is zero. -/
def CameraSize.isEmpty (size : CameraSize) : Bool := size.width = 0 ∨ size.height = 0

/-- The cameras, the outcomes of the calls to come, and the size that was chosen last. -/
structure ConnectView where
  cameras : CameraView
  outcomes : List Outcome
  cameraSize : CameraSize

/-- What `onConnect` works on before it stores the camera. -/
def ServiceState.connectView (s : ServiceState) : ConnectView :=
  ⟨s.cameraView, s.devices.outcomes, s.service.cameraSize⟩

/-- A call on the devices that changes the cameras. -/
theorem triple_onDevices (c : ConnectView) {effect : Devices → Devices}
    (change : List UVCCamera → List UVCCamera)
    (houtcomes : ∀ devices, (effect devices).outcomes = devices.outcomes)
    (hcameras : ∀ devices,
      lifetimes (effect devices).cameras = change (lifetimes devices.cameras)) :
    Triple (fun s ↦ s.connectView = c) (onDevices effect)
      (fun _ s ↦ firstThrows c.outcomes = false ∧ s.connectView =
        { c with cameras.cameras := change c.cameras.cameras, outcomes := c.outcomes.tail })
      (fun _ s ↦ firstThrows c.outcomes = true ∧
        s.connectView = { c with outcomes := c.outcomes.tail }) := by
  have hset : ∀ (s : ServiceState) (devices : Devices), ServiceState.connectView
      { s with devices := effect devices } =
        ⟨⟨s.service.uvcCamera, change (lifetimes devices.cameras)⟩, devices.outcomes,
          s.service.cameraSize⟩ := by
    intro s devices
    simp only [ServiceState.connectView, ServiceState.cameraView, houtcomes, hcameras]
  rintro s rfl
  obtain ⟨service, objects, cameras, interfaces, muxers, replay, outcomes, writes⟩ := s
  cases outcomes with
  | nil => exact ⟨rfl, hset _ _⟩
  | cons outcome rest =>
    cases outcome with
    | returns value => exact ⟨rfl, hset _ _⟩
    | throws exception => exact ⟨rfl, rfl⟩

theorem triple_onUvcCamera (c : ConnectView) (camera : ℕ) {effect : UVCCamera → UVCCamera}
    (change : UVCCamera → UVCCamera)
    (hchange : ∀ held, (effect held).lifetime = change held.lifetime) :
    Triple (fun s ↦ s.connectView = c) (onUvcCamera camera effect)
      (fun _ s ↦ firstThrows c.outcomes = false ∧ s.connectView =
        { c with
          cameras.cameras := c.cameras.cameras.modify camera change
          outcomes := c.outcomes.tail })
      (fun _ s ↦ firstThrows c.outcomes = true ∧
        s.connectView = { c with outcomes := c.outcomes.tail }) := by
  exact triple_onDevices c (fun cameras ↦ cameras.modify camera change) (fun _ ↦ rfl)
    fun devices ↦ map_modify change hchange devices.cameras camera

theorem ServiceState.alive_iff {s : ServiceState} {camera : ℕ} :
    (s.devices.cameras[camera]?).any UVCCamera.nativePtr = true ↔ s.cameraView.Alive camera := by
  rw [CameraView.Alive, ServiceState.cameraView, lifetimes, List.getElem?_map]
  cases s.devices.cameras[camera]? <;> exact Iff.rfl

theorem CameraView.not_alive_destroy (v : CameraView) (camera : ℕ) :
    ¬ (v.destroy camera).Alive camera := by
  rw [CameraView.Alive, CameraView.destroy, List.getElem?_modify_eq]
  cases v.cameras[camera]? with
  | none => exact Bool.false_ne_true
  | some held => exact Bool.false_ne_true

/-- An empty size is refused; for another one the native call is made while there is a native
pointer. -/
theorem triple_setPreviewSize (c : ConnectView) (camera : ℕ) (size : CameraSize) :
    Triple (fun s ↦ s.connectView = c) (setPreviewSize camera size)
      (fun _ s ↦ size.isEmpty = false ∧ s.cameraView = c.cameras ∧
        (c.cameras.Alive camera → firstThrows c.outcomes = false))
      (fun exception s ↦
        size.isEmpty = true ∧ exception = .illegalArgument ∧ s.connectView = c ∨
          size.isEmpty = false ∧ c.cameras.Alive camera ∧ firstThrows c.outcomes = true ∧
            s.connectView = { c with outcomes := c.outcomes.tail }) := by
  refine triple_read fun s hs ↦ ?_
  obtain rfl := hs
  by_cases hempty : size.width = 0 ∨ size.height = 0
  · rw [if_pos hempty]
    exact Triple.throw fun _ ht ↦ Or.inl ⟨decide_eq_true hempty, rfl, ht⟩
  rw [if_neg hempty]
  have hnonempty : size.isEmpty = false := decide_eq_false hempty
  refine Triple.whenever (fun halive ↦ ?_) fun hskip t ht ↦ ⟨hnonempty, ?_, fun halive ↦ ?_⟩
  · refine (triple_onUvcCamera s.connectView camera id UVCCamera.keepsLifetime_id).mono
      (fun _ h ↦ h) ?_ ?_
    · rintro _ t ⟨hreturns, ht⟩
      refine ⟨hnonempty, ?_, fun _ ↦ hreturns⟩
      exact (congrArg ConnectView.cameras ht).trans
        (congrArg (CameraView.mk s.service.uvcCamera) (List.modify_id camera _))
    · rintro exception t ⟨hthrows, ht⟩
      exact Or.inr ⟨hnonempty, ServiceState.alive_iff.mp halive, hthrows, ht⟩
  · exact congrArg ConnectView.cameras ht
  · exact absurd (hskip.symm.trans (ServiceState.alive_iff.mpr halive)) Bool.false_ne_true

/-- The part of `choosePreviewSize` after an `IllegalArgumentException`. -/
def retryPreviewSize (camera : ℕ) : ServiceM Bool := do
  onUvcCamera camera UVCCamera.destroy
  let s ← get
  tryCatch
    (do
      setPreviewSize camera s.service.cameraSize
      pure true)
    fun exception ↦ if exception = .illegalArgument then pure false else throw exception

/-- The second attempt is made on a camera that was destroyed: it makes no native call, and ends
with an exception for an empty size only. -/
theorem triple_retryPreviewSize (c : ConnectView) (camera : ℕ) :
    Triple (fun s ↦ s.connectView = c) (retryPreviewSize camera)
      (fun usable s ↦ firstThrows c.outcomes = false ∧ usable = !c.cameraSize.isEmpty ∧
        s.cameraView = c.cameras.destroy camera)
      (fun _ s ↦ firstThrows c.outcomes = true ∧ s.cameraView = c.cameras) := by
  refine ((triple_onUvcCamera c camera (fun _ ↦ UVCCamera.destroyed)
    UVCCamera.lifetime_destroy).mono (fun _ h ↦ h) (fun _ _ h ↦ h)
    fun _ _ h ↦ ⟨h.1, congrArg ConnectView.cameras h.2⟩).bind fun _ ↦
    .assume fun hreturns ↦ triple_read fun s hs ↦ ?_
  have hsize : s.service.cameraSize = c.cameraSize := congrArg ConnectView.cameraSize hs
  rw [hsize]
  refine ((triple_setPreviewSize _ camera c.cameraSize).bind fun _ ↦ Triple.pure ?_).tryCatch
    fun exception ↦ ?_
  · rintro t ⟨hnonempty, ht, -⟩
    exact ⟨hreturns, by rw [hnonempty]; rfl, ht⟩
  · rintro t (⟨hempty, rfl, ht⟩ | ⟨-, halive, -, -⟩)
    · exact ⟨hreturns, by rw [hempty]; rfl, congrArg ConnectView.cameras ht⟩
    · exact absurd halive (c.cameras.not_alive_destroy camera)

/-- How `choosePreviewSize` returns: the camera is to be used or not, and it may have been
destroyed. -/
inductive Chosen (v : CameraView) (camera : ℕ) (supportedSizes : List CameraSize)
    (outcomes : List Outcome) : Bool → CameraView → Prop
  | accepted {size : CameraSize} (hsize : largestSize supportedSizes = some size)
    (hnonempty : size.isEmpty = false) (hreturns : firstThrows outcomes = false) :
    Chosen v camera supportedSizes outcomes true v
  /-- The size is empty, and refused again. -/
  | refused {size : CameraSize} (hsize : largestSize supportedSizes = some size)
    (hempty : size.isEmpty = true) (hreturns : firstThrows outcomes = false) :
    Chosen v camera supportedSizes outcomes false (v.destroy camera)
  /-- The native call refused the size; the second attempt makes no call. -/
  | retried (hthrows : firstThrows outcomes = true) :
    Chosen v camera supportedSizes outcomes true (v.destroy camera)

/-- The first attempt of `choosePreviewSize`. -/
def useLargestSize (camera : ℕ) (supportedSizes : List CameraSize) : ServiceM Bool :=
  (largestSize supportedSizes).elim (throw .noSuchElement) fun size ↦ do
    modify fun s ↦
      { s with
        service.cameraSize := size
        service.streamSize := size
        service.recordingSize := size }
    setPreviewSize camera size
    pure true

theorem choosePreviewSize_eq (camera : ℕ) (supportedSizes : List CameraSize) :
    choosePreviewSize camera supportedSizes =
      tryCatch (useLargestSize camera supportedSizes) fun exception ↦
        if exception = .illegalArgument then retryPreviewSize camera else throw exception := by
  unfold choosePreviewSize useLargestSize
  cases largestSize supportedSizes with
  | none => rfl
  | some size => rfl

theorem triple_choosePreviewSize (c : ConnectView) {camera : ℕ}
    (halive : c.cameras.Alive camera) (supportedSizes : List CameraSize) :
    Triple (fun s ↦ s.connectView = c) (choosePreviewSize camera supportedSizes)
      (fun usable s ↦ Chosen c.cameras camera supportedSizes c.outcomes usable s.cameraView)
      (fun _ s ↦ (largestSize supportedSizes = none ∨ firstThrows c.outcomes = true) ∧
        s.cameraView = c.cameras) := by
  -- how the first attempt ends with an exception
  let thrown : JavaException → ServiceState → Prop := fun exception s ↦
    s.cameraView = c.cameras ∧
      (largestSize supportedSizes = none ∧ exception ≠ .illegalArgument ∨
        largestSize supportedSizes = some s.service.cameraSize ∧
          (s.service.cameraSize.isEmpty = true ∧ exception = .illegalArgument ∧
              s.devices.outcomes = c.outcomes ∨
            s.service.cameraSize.isEmpty = false ∧ firstThrows c.outcomes = true))
  have hattempt : Triple (fun s ↦ s.connectView = c) (useLargestSize camera supportedSizes)
      (fun usable s ↦ Chosen c.cameras camera supportedSizes c.outcomes usable s.cameraView)
      thrown := by
    unfold useLargestSize
    cases hsize : largestSize supportedSizes with
    | none =>
      exact Triple.throw fun s hs ↦ ⟨congrArg ConnectView.cameras hs, Or.inl ⟨hsize, nofun⟩⟩
    | some size =>
      refine triple_change (fun c : ConnectView ↦ { c with cameraSize := size }) (fun _ ↦ rfl)
        (((triple_setPreviewSize _ camera size).mono (fun _ h ↦ h) (fun _ _ h ↦ h) ?_).bind
          fun _ ↦ Triple.pure ?_)
      · rintro exception s (⟨hempty, hillegal, hs⟩ | ⟨hnonempty, -, hthrows, hs⟩)
        · obtain rfl : s.service.cameraSize = size := congrArg ConnectView.cameraSize hs
          exact ⟨congrArg ConnectView.cameras hs, Or.inr ⟨hsize, Or.inl
            ⟨hempty, hillegal, congrArg ConnectView.outcomes hs⟩⟩⟩
        · obtain rfl : s.service.cameraSize = size := congrArg ConnectView.cameraSize hs
          exact ⟨congrArg ConnectView.cameras hs, Or.inr ⟨hsize, Or.inr ⟨hnonempty, hthrows⟩⟩⟩
      · rintro s ⟨hnonempty, hs, hreturns⟩
        rw [hs]
        exact .accepted hsize hnonempty (hreturns halive)
  rw [choosePreviewSize_eq]
  refine hattempt.tryCatch fun exception ↦ ?_
  by_cases hillegal : exception = .illegalArgument
  · rw [if_pos hillegal]
    rintro s ⟨hs, ⟨-, hother⟩ | ⟨hsize, hcause⟩⟩
    · exact absurd hillegal hother
    rw [← hs]
    refine (triple_retryPreviewSize s.connectView camera).mono (fun _ h ↦ h) ?_ ?_ s rfl
    · rintro usable t ⟨hreturns, husable, ht⟩
      rw [ht]
      rcases hcause with ⟨hempty, -, houtcomes⟩ | ⟨hnonempty, hthrows⟩
      · rw [husable, ServiceState.connectView, hempty]
        exact .refused hsize hempty (houtcomes ▸ hreturns)
      · rw [husable, ServiceState.connectView, hnonempty]
        exact .retried hthrows
    · rintro _ t ⟨hthrows, ht⟩
      refine ⟨Or.inr ?_, ht⟩
      rcases hcause with ⟨-, -, houtcomes⟩ | ⟨-, hthrew⟩
      · exact houtcomes ▸ hthrows
      · exact hthrew
  · rw [if_neg hillegal]
    refine Triple.throw ?_
    rintro s ⟨hs, ⟨hnone, -⟩ | ⟨-, ⟨-, hother, -⟩ | ⟨-, hthrows⟩⟩⟩
    · exact ⟨Or.inl hnone, hs⟩
    · exact absurd hother hillegal
    · exact ⟨Or.inr hthrows, hs⟩

/-! ### What the events do -/

/-- How `onConnect` leaves the cameras. The calls on the new camera are its constructor, the clone
of the control block and the native connection of `open`, and what follows on a chosen size. -/
inductive CameraMove (v : CameraView) (supportedSizes : List CameraSize) (outcomes : List Outcome) :
    CameraView → Prop
  /-- The constructor throws. -/
  | refused (hthrows : firstThrows outcomes = true) :
    CameraMove v supportedSizes outcomes v
  /-- There is no clone of the control block. -/
  | unopened (hreturns : firstThrows outcomes = false)
    (hthrows : firstThrows outcomes.tail = true) :
    CameraMove v supportedSizes outcomes (v.add UVCCamera.new)
  /-- The control block is set, and the native connection fails. -/
  | unconnected (hnew : firstThrows outcomes = false) (hopens : firstThrows outcomes.tail = false)
    (hthrows : firstThrows outcomes.tail.tail = true) :
    CameraMove v supportedSizes outcomes (v.add UVCCamera.opened)
  | stored (hnew : firstThrows outcomes = false) (hopens : firstThrows outcomes.tail = false)
    (hconnects : firstThrows outcomes.tail.tail = false)
    (hreturns : firstThrows outcomes.tail.tail.tail = false) {size : CameraSize}
    (hsize : largestSize supportedSizes = some size) (hnonempty : size.isEmpty = false) :
    CameraMove v supportedSizes outcomes ((v.add UVCCamera.opened).store v.cameras.length)
  /-- The camera is destroyed, for its size is empty. -/
  | dropped (hnew : firstThrows outcomes = false) (hopens : firstThrows outcomes.tail = false)
    (hconnects : firstThrows outcomes.tail.tail = false)
    (hreturns : firstThrows outcomes.tail.tail.tail = false) {size : CameraSize}
    (hsize : largestSize supportedSizes = some size) (hempty : size.isEmpty = true) :
    CameraMove v supportedSizes outcomes (v.add UVCCamera.destroyed)
  /-- An exception leaves `onConnect` after `open`. -/
  | lost (hnew : firstThrows outcomes = false) (hopens : firstThrows outcomes.tail = false)
    (hconnects : firstThrows outcomes.tail.tail = false)
    (hcause : largestSize supportedSizes = none ∨ firstThrows outcomes.tail.tail.tail = true) :
    CameraMove v supportedSizes outcomes (v.add UVCCamera.opened)
  /-- The camera is destroyed and stored. -/
  | stale (hnew : firstThrows outcomes = false) (hopens : firstThrows outcomes.tail = false)
    (hconnects : firstThrows outcomes.tail.tail = false)
    (hthrows : firstThrows outcomes.tail.tail.tail = true) :
    CameraMove v supportedSizes outcomes ((v.add UVCCamera.destroyed).store v.cameras.length)

theorem CameraView.destroy_add (v : CameraView) (camera : UVCCamera) :
    (v.add camera).destroy v.cameras.length = v.add UVCCamera.destroyed :=
  congrArg (CameraView.mk v.uvcCamera) (modify_append_last v.cameras camera _)

/-- The last camera. -/
theorem CameraView.getElem?_add_last (v : CameraView) (added : UVCCamera) :
    (v.add added).cameras[v.cameras.length]? = some added := by
  rw [add, List.getElem?_append_right (Nat.le_refl _), Nat.sub_self]
  rfl

theorem CameraView.alive_add (v : CameraView) :
    (v.add UVCCamera.opened).Alive v.cameras.length := by
  rw [Alive, getElem?_add_last]
  rfl

/-- The new camera, until it is to be used or not. -/
theorem triple_openNewCamera (c : ConnectView) (supportedSizes : List CameraSize) :
    Triple (fun s ↦ s.connectView = c)
      (openNewCamera c.cameras.cameras.length supportedSizes)
      (fun usable s ↦ CameraMove c.cameras supportedSizes c.outcomes
        (if usable then s.cameraView.store c.cameras.cameras.length else s.cameraView))
      (fun _ s ↦ CameraMove c.cameras supportedSizes c.outcomes s.cameraView) := by
  have hadd : ∀ devices : Devices, lifetimes (devices.cameras ++ [UVCCamera.new]) =
      lifetimes devices.cameras ++ [UVCCamera.new] := fun devices ↦ List.map_append
  have hopen : ∀ held : UVCCamera, held.openCamera.lifetime = held.lifetime.openCamera :=
    fun _ ↦ rfl
  refine Triple.bind ((triple_onDevices c (· ++ [UVCCamera.new]) (by exact fun _ ↦ rfl) hadd).mono
    (fun _ h ↦ h) (fun _ _ h ↦ h) ?_) fun _ ↦ .assume fun hnew ↦ ?_
  · rintro _ s ⟨hthrows, hs⟩
    have hview : s.cameraView = c.cameras := congrArg ConnectView.cameras hs
    rw [hview]
    exact .refused hthrows
  refine Triple.bind (Triple.bind ((triple_onUvcCamera _ _ UVCCamera.openCamera hopen).mono
    (fun _ h ↦ h) (fun _ _ h ↦ h) ?_) fun _ ↦ .assume fun hopens ↦ ?_ :
      Triple _ (openUvcCamera _) (fun _ s ↦ (firstThrows c.outcomes.tail = false ∧
        firstThrows c.outcomes.tail.tail = false) ∧
          s.connectView = ⟨c.cameras.add UVCCamera.opened, c.outcomes.tail.tail.tail,
            c.cameraSize⟩) _) fun _ ↦ .assume fun ⟨hopens, hconnects⟩ ↦ ?_
  · rintro _ s ⟨hthrows, hs⟩
    have hview : s.cameraView = c.cameras.add UVCCamera.new := congrArg ConnectView.cameras hs
    rw [hview]
    exact .unopened hnew hthrows
  · have hopened : (c.cameras.cameras ++ [UVCCamera.new]).modify c.cameras.cameras.length
        UVCCamera.openCamera = c.cameras.cameras ++ [UVCCamera.opened] := modify_append_last ..
    rw [hopened]
    refine (triple_onUvcCamera ⟨c.cameras.add UVCCamera.opened, _, _⟩ _ id
      UVCCamera.keepsLifetime_id).mono (fun _ h ↦ h) ?_ ?_
    · rintro _ s ⟨hconnects, hs⟩
      rw [List.modify_id] at hs
      exact ⟨⟨hopens, hconnects⟩, hs⟩
    · rintro _ s ⟨hthrows, hs⟩
      have hview : s.cameraView = c.cameras.add UVCCamera.opened :=
        congrArg ConnectView.cameras hs
      rw [hview]
      exact .unconnected hnew hopens hthrows
  refine (triple_choosePreviewSize ⟨c.cameras.add UVCCamera.opened, _, _⟩ c.cameras.alive_add
    supportedSizes).mono (fun _ h ↦ h) (fun usable s hchosen ↦ ?_) ?_
  · generalize s.cameraView = w at hchosen
    cases hchosen with
    | accepted hsize hnonempty hreturns =>
      exact .stored hnew hopens hconnects hreturns hsize hnonempty
    | refused hsize hempty hreturns =>
      have hview := c.cameras.destroy_add UVCCamera.opened
      exact hview ▸ .dropped hnew hopens hconnects hreturns hsize hempty
    | retried hthrows =>
      have hview := c.cameras.destroy_add UVCCamera.opened
      exact hview ▸ .stale hnew hopens hconnects hthrows
  · rintro _ s ⟨hcause, hs⟩
    rw [hs]
    exact .lost hnew hopens hconnects hcause

theorem triple_onConnect_cameras (c : ConnectView) (supportedSizes : List CameraSize) :
    Triple (fun s ↦ s.connectView = c) (StreamService.onConnect supportedSizes)
      (fun _ s ↦ CameraMove c.cameras supportedSizes c.outcomes s.cameraView)
      (fun _ s ↦ CameraMove c.cameras supportedSizes c.outcomes s.cameraView) := by
  have huse : ∀ camera, Leaves ServiceState.cameraView (do
      StreamService.prepareStreamRtp
      onRtmpUSB (Streaming.startPreview (some camera))) :=
    fun camera ↦ .bind cameraView_prepareStreamRtp fun _ ↦
      cameraView_onRtmpUSB (lifetimes_startPreview (some camera))
  rw [onConnect_eq]
  refine Triple.bind (triple_read fun s hs ↦ ?_ : Triple _ (connectCamera supportedSizes)
    (fun _ s ↦ CameraMove c.cameras supportedSizes c.outcomes s.cameraView) _) fun usable ↦
    (Leaves.whenever cameraView_resumeStream).keeps _
  have hlength : s.devices.cameras.length = c.cameras.cameras.length := by
    rw [← hs, ServiceState.connectView, ServiceState.cameraView, lifetimes, List.length_map]
  rw [hlength]
  refine (triple_openNewCamera c supportedSizes).bind fun usable ↦ ?_
  cases usable with
  | false => exact Triple.bind (Triple.pure fun _ h ↦ h) fun _ ↦ Triple.pure fun _ h ↦ h
  | true =>
    refine Triple.bind (triple_update (fun _ h ↦ h) ((huse c.cameras.cameras.length).keeps
      (CameraMove c.cameras supportedSizes c.outcomes))) fun _ ↦ Triple.pure fun _ h ↦ h

/-- `onDestroy` destroys the stored camera, unless an exception comes before that. -/
theorem triple_onDestroy_cameras (v : CameraView) :
    Triple (fun s ↦ s.cameraView = v) StreamService.onDestroy
      (fun _ s ↦ s.cameraView = v ∨ ∃ camera, v.uvcCamera = some camera ∧
        s.cameraView = v.destroy camera)
      (fun _ s ↦ s.cameraView = v ∨ ∃ camera, v.uvcCamera = some camera ∧
        s.cameraView = v.destroy camera) := by
  have hdestroy : Triple (fun s ↦ s.cameraView = v) destroyCamera
      (fun _ s ↦ s.cameraView = v ∨ ∃ camera, v.uvcCamera = some camera ∧
        s.cameraView = v.destroy camera)
      (fun _ s ↦ s.cameraView = v ∨ ∃ camera, v.uvcCamera = some camera ∧
        s.cameraView = v.destroy camera) := by
    refine triple_read_eq fun s hs ↦ ?_
    obtain rfl := hs
    cases hcamera : s.service.uvcCamera with
    | none => exact Triple.pure fun t ht ↦ Or.inl (congrArg _ ht)
    | some camera =>
      refine ((triple_onUvcCamera s.connectView camera (fun _ ↦ UVCCamera.destroyed)
        UVCCamera.lifetime_destroy).mono (fun _ ht ↦ congrArg _ ht) ?_ ?_)
      · rintro _ t ⟨-, ht⟩
        exact Or.inr ⟨camera, hcamera, congrArg ConnectView.cameras ht⟩
      · rintro _ t ⟨-, ht⟩
        exact Or.inl (congrArg ConnectView.cameras ht)
  have hquiet : ∀ {method : ServiceM Unit}, Leaves ServiceState.cameraView method →
      Triple (fun s ↦ s.cameraView = v) method (fun _ s ↦ s.cameraView = v)
        (fun _ s ↦ s.cameraView = v ∨ ∃ camera, v.uvcCamera = some camera ∧
          s.cameraView = v.destroy camera) :=
    fun h ↦ (h v).mono (fun _ h ↦ h) (fun _ _ h ↦ h) fun _ _ h ↦ Or.inl h
  exact (hquiet (cameraView_stopStream false)).bind fun _ ↦
    (hquiet cameraView_stopLocalRecording).bind fun _ ↦
    (hquiet (cameraView_onDevices fun _ ↦ rfl)).bind fun _ ↦ hdestroy

/-- The supported sizes of an `onConnect`. -/
def ServiceEvent.supportedSizes : ServiceEvent → Option (List CameraSize)
  | .onConnect supportedSizes => some supportedSizes
  | _ => none

/-- The call is `onDestroy`. -/
def ServiceCall.destroys (serviceCall : ServiceCall) : Bool :=
  match serviceCall.event with
  | .onDestroy => true
  | _ => false

/-- What a call does to the cameras. -/
inductive CameraStep (v : CameraView) (serviceCall : ServiceCall) : CameraView → Prop
  | connects {supportedSizes : List CameraSize} {w : CameraView}
    (hevent : serviceCall.event = .onConnect supportedSizes)
    (hmove : CameraMove v supportedSizes serviceCall.outcomes w) :
    CameraStep v serviceCall w
  | destroys (hevent : serviceCall.destroys = true) {camera : ℕ}
    (hstored : v.uvcCamera = some camera) :
    CameraStep v serviceCall (v.destroy camera)
  | leaves (hevent : serviceCall.event.supportedSizes = none) : CameraStep v serviceCall v

theorem cameraStep_serviceStep (s : ServiceState) (serviceCall : ServiceCall) :
    CameraStep s.cameraView serviceCall (serviceStep s serviceCall).cameraView := by
  obtain ⟨event, outcomes⟩ := serviceCall
  have hquiet : ∀ {program : ServiceM Unit}, event.supportedSizes = none →
      Leaves ServiceState.cameraView program → CameraStep s.cameraView ⟨event, outcomes⟩
        (after program { s with devices.outcomes := outcomes }).cameraView := by
    intro program hevent h
    rw [h.after]
    exact .leaves hevent
  cases event with
  | onConnect supportedSizes =>
    exact .connects rfl ((triple_onConnect_cameras _ supportedSizes).after
      (by exact rfl : ({ s with devices.outcomes := outcomes } : ServiceState).connectView =
        ⟨s.cameraView, outcomes, s.service.cameraSize⟩))
  | onDisconnect => exact hquiet rfl (cameraView_stopStream false)
  | onDettach => exact hquiet rfl (cameraView_stopStream false)
  | startStreamRtp endpoint =>
    exact hquiet rfl (.bind (cameraView_startStreamRtp endpoint) fun _ ↦ .pure _)
  | stopStream force => exact hquiet rfl (cameraView_stopStream force)
  | startLocalRecording outputPath =>
    exact hquiet rfl (.bind (cameraView_startLocalRecording outputPath) fun _ ↦ .pure _)
  | stopLocalRecording => exact hquiet rfl cameraView_stopLocalRecording
  | setVerticalCropEnabled enabled => exact hquiet rfl (.modify fun _ ↦ rfl)
  | setView view => exact hquiet rfl (cameraView_setView view)
  | startPreview => exact hquiet rfl cameraView_startPreview
  | stopPreview => exact hquiet rfl cameraView_stopPreview
  | onDestroy =>
    rcases (triple_onDestroy_cameras s.cameraView).after (by exact rfl :
      ({ s with devices.outcomes := outcomes } : ServiceState).cameraView = s.cameraView)
      with hsame | ⟨camera, hstored, hdestroyed⟩
    · exact (by exact hsame : (serviceStep s ⟨.onDestroy, outcomes⟩).cameraView = s.cameraView) ▸
        .leaves rfl
    · exact (by exact hdestroyed : (serviceStep s ⟨.onDestroy, outcomes⟩).cameraView =
        s.cameraView.destroy camera) ▸ .destroys rfl hstored
  | callback object encoderCallback =>
    exact hquiet rfl (cameraView_onObject (lifetimes_callback encoderCallback) object)

end UvcRtmpStream.Streaming
