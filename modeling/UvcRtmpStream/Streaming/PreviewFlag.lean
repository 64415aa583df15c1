import UvcRtmpStream.Streaming.EncoderLifecycle

/-!
# The preview flag

`isOnPreview()` is meant to say whether the current GL interface and the camera's preview are both
started (`Preview.Truthful`). The flag is a field of its own, which most methods set without
looking.

What the methods do, where they return, is a machine on seven flags (`Preview`), which an object
follows (`shows_usbStep`). From a state in which the flag is right, each of its moves either keeps
it right or makes it wrong, and `KeepsFlag` says which: it goes wrong in `prepareVideo` while a
preview is on, when an off-screen view is stopped, when a stream is started or a view replaced over
a recording without a preview, and with a camera that is not open.
-/

set_option autoImplicit false
set_option relaxedAutoImplicit false

namespace UvcRtmpStream.Streaming

open UvcRtmpStream.Foundations UvcRtmpStream.Platform UvcRtmpStream.Replay

/-! ### The abstract machine -/

/-- The current view, the camera, and what the object takes note of. -/
structure Preview where
  offScreen : Bool
  started : Bool
  opened : Bool
  previewing : Bool
  streaming : Bool
  recording : Bool
  onPreview : Bool

namespace Preview

/-- The view is started, and the camera's preview, if the camera is open. -/
def start (p : Preview) : Preview :=
  { p with started := true, previewing := p.previewing || p.opened }

/-- The view is stopped, and the camera's preview, if the camera is open. -/
def stop (p : Preview) : Preview :=
  { p with started := false, previewing := p.previewing && !p.opened }

def startPreview (p : Preview) : Preview :=
  if !p.streaming && !p.onPreview && !p.offScreen then { p.start with onPreview := true } else p

def stopPreview (p : Preview) : Preview :=
  if !p.streaming && p.onPreview && !p.offScreen then { p.stop with onPreview := false } else p

def prepareVideo (p : Preview) : Preview :=
  if p.onPreview then { p.stopPreview with onPreview := true } else p

def startStream (p : Preview) : Preview :=
  { if p.recording then p else p.start with streaming := true, onPreview := true }

def stopStream (p : Preview) : Preview :=
  { if !p.recording && p.offScreen then p.stop else p with streaming := false }

def startRecord (p : Preview) : Preview :=
  { if p.streaming then p else { p.start with onPreview := true } with recording := true }

def stopRecord (p : Preview) : Preview :=
  if p.streaming then { p with recording := false } else { p with recording := false }.stopStream

/-- A view in a given state takes the place of the current one. -/
def replaceView (p : Preview) (offScreen started : Bool) : Preview :=
  if p.streaming || p.recording || p.onPreview then { p with offScreen := offScreen }.start
  else { p with offScreen := offScreen, started := started }

/-- The flag is set exactly while the view and the camera's preview are both started. -/
def Truthful (p : Preview) : Prop := p.onPreview = (p.started && p.previewing)

instance (p : Preview) : Decidable p.Truthful := inferInstanceAs (Decidable (_ = _))

/-- The camera's preview runs only while the camera is open, and the flag is set while the object
streams. -/
structure Sound (p : Preview) : Prop where
  opened : p.previewing = true → p.opened = true
  streaming : p.streaming = true → p.onPreview = true

end Preview

/-! ### What an object shows -/

/-- The part of the state that the preview is about. -/
structure ScreenView where
  glInterface : ℕ
  interfaces : List GlInterface
  cameras : List UVCCamera
  streaming : Bool
  recording : Bool
  onPreview : Bool

/-- The part of the state that the preview is about. -/
def Usb.screen (u : Usb) : ScreenView where
  glInterface := u.base.glInterface
  interfaces := u.devices.interfaces
  cameras := u.devices.cameras
  streaming := u.base.streaming
  recording := u.base.recording
  onPreview := u.base.onPreview

/-- The preview of an object on a camera. -/
def ScreenView.preview (camera : ℕ) (v : ScreenView) : Preview where
  offScreen := (v.interfaces[v.glInterface]?).any GlInterface.offScreen
  started := (v.interfaces[v.glInterface]?).any GlInterface.started
  opened := (v.cameras[camera]?).any UVCCamera.ctrlBlock
  previewing := (v.cameras[camera]?).any UVCCamera.previewing
  streaming := v.streaming
  recording := v.recording
  onPreview := v.onPreview

/-- The state shows this preview, and the view and the camera exist. -/
structure Shows (camera : ℕ) (p : Preview) (u : Usb) : Prop where
  preview : u.screen.preview camera = p
  view : u.base.glInterface < u.devices.interfaces.length
  camera : camera < u.devices.cameras.length

/-- The view that `replaceView` puts in place, as it is before. -/
def Usb.nextView (u : Usb) (openGlView : Option ℕ) : GlInterface :=
  (openGlView.bind (u.devices.interfaces[·]?)).getD ⟨true, false, false, false⟩

/-- Which of the views are off the screen. -/
def Usb.kinds (u : Usb) : List Bool := u.devices.interfaces.map GlInterface.offScreen

section Methods

variable {camera : ℕ} {p p' : Preview}

theorem Shows.of_screen {u t : Usb} (h : Shows camera p u) (hsame : t.screen = u.screen) :
    Shows camera p t := by
  have hglInterface : t.base.glInterface = u.base.glInterface :=
    congrArg ScreenView.glInterface hsame
  have hinterfaces : t.devices.interfaces = u.devices.interfaces :=
    congrArg ScreenView.interfaces hsame
  have hcameras : t.devices.cameras = u.devices.cameras := congrArg ScreenView.cameras hsame
  refine ⟨(congrArg (ScreenView.preview camera) hsame).trans h.preview, ?_, ?_⟩
  · rw [hglInterface, hinterfaces]
    exact h.view
  · rw [hcameras]
    exact h.camera

/-- What does not touch the part of the state that the preview is about. -/
theorem shows_of_screen {α : Type} {method : UsbM α} (h : Leaves Usb.screen method) :
    Gives (Shows camera p) method fun _ ↦ Shows camera p := by
  intro u hu
  exact (h.gives u.screen).mono (fun _ h ↦ h) (fun _ _ h ↦ hu.of_screen h) (fun _ _ h ↦ h) u rfl

theorem screen_call {effect : Usb → Usb} (heffect : ∀ u, (effect u).screen = u.screen) :
    Leaves Usb.screen (call effect) :=
  leaves_call (fun _ _ ↦ rfl) heffect

theorem screen_ask {effect : Usb → Usb} (heffect : ∀ u, (effect u).screen = u.screen) :
    Leaves Usb.screen (ask effect) :=
  leaves_ask (fun _ _ ↦ rfl) heffect

theorem screen_onRtmp (rtmpCall : RtmpCall) : Leaves Usb.screen (onRtmp rtmpCall) :=
  screen_call fun _ ↦ rfl

/-- What leaves the setting alone leaves the screen alone. -/
theorem screen_of_setting {method : UsbM Unit} (h : Leaves Usb.setting method) :
    Leaves Usb.screen method :=
  h.comp Usb.screen fun _ ↦ rfl

/-- A call of a library. -/
theorem shows_call {effect : Usb → Usb} (h : ∀ u, Shows camera p u → Shows camera p' (effect u)) :
    Gives (Shows camera p) (call effect) fun _ ↦ Shows camera p' :=
  (shows_of_screen (leaves_nextAnswer fun _ _ ↦ rfl)).bind fun _ ↦ Triple.modify h

/-- A call on the view that starts or stops it, or does neither. -/
theorem shows_onGl (change : Bool → Bool) {effect : GlInterface → GlInterface}
    (hview : ∀ gl, (effect gl).offScreen = gl.offScreen)
    (hstarted : ∀ gl, (effect gl).started = change gl.started) :
    Gives (Shows camera p) (onGl effect) fun _ ↦
      Shows camera { p with started := change p.started } := by
  refine shows_call fun u h ↦ ?_
  obtain ⟨gl, hgl⟩ : ∃ gl, u.devices.interfaces[u.base.glInterface]? = some gl :=
    ⟨_, List.getElem?_eq_getElem h.view⟩
  refine ⟨?_, (List.length_modify ..).symm ▸ h.view, h.camera⟩
  simp only [← h.preview, ScreenView.preview, Usb.screen, List.getElem?_modify_eq, hgl,
    Option.map_eq_map, Option.map_some, Option.any_some, hview, hstarted]

/-- A call on the camera. -/
theorem shows_onCamera {uvcCamera : Option ℕ} (hcamera : ∀ held ∈ uvcCamera, held = camera)
    (change : Bool → Bool → Bool) {effect : UVCCamera → UVCCamera}
    (hopened : ∀ uvc, (effect uvc).ctrlBlock = uvc.ctrlBlock)
    (hpreviewing : ∀ uvc, (effect uvc).previewing = change uvc.previewing uvc.ctrlBlock) :
    Gives (Shows camera p) (onCamera uvcCamera effect) fun _ ↦
      Shows camera { p with previewing := change p.previewing p.opened } := by
  cases uvcCamera with
  | none => exact Triple.throw fun _ _ ↦ trivial
  | some held =>
    obtain rfl := hcamera held rfl
    refine shows_call fun u h ↦ ?_
    obtain ⟨uvc, huvc⟩ : ∃ uvc, u.devices.cameras[held]? = some uvc :=
      ⟨_, List.getElem?_eq_getElem h.camera⟩
    refine ⟨?_, h.view, (List.length_modify ..).symm ▸ h.camera⟩
    simp only [← h.preview, ScreenView.preview, Usb.screen, List.getElem?_modify_eq, huvc,
      Option.map_eq_map, Option.map_some, Option.any_some, hopened, hpreviewing]

theorem shows_idleGl {effect : GlInterface → GlInterface}
    (hview : ∀ gl, (effect gl).offScreen = gl.offScreen)
    (hstarted : ∀ gl, (effect gl).started = gl.started) :
    Gives (Shows camera p) (onGl effect) fun _ ↦ Shows camera p :=
  shows_onGl id hview hstarted

theorem shows_startGl :
    Gives (Shows camera p) (onGl fun gl ↦ { gl with started := true }) fun _ ↦
      Shows camera { p with started := true } :=
  shows_onGl (fun _ ↦ true) (fun _ ↦ rfl) fun _ ↦ rfl

theorem shows_stopGl :
    Gives (Shows camera p) (onGl fun gl ↦ { gl with started := false }) fun _ ↦
      Shows camera { p with started := false } :=
  shows_onGl (fun _ ↦ false) (fun _ ↦ rfl) fun _ ↦ rfl

/-- The flag is set. -/
theorem shows_onPreview (on : Bool) :
    Gives (Shows camera p) (modify fun u ↦ { u with base.onPreview := on } : UsbM Unit) fun _ ↦
      Shows camera { p with onPreview := on } :=
  Triple.modify fun _ h ↦ ⟨congrArg (fun p : Preview ↦ { p with onPreview := on }) h.preview,
    h.view, h.camera⟩

variable {uvcCamera : Option ℕ} (hcamera : ∀ held ∈ uvcCamera, held = camera)

include hcamera

theorem shows_textureCamera :
    Gives (Shows camera p) (onCamera uvcCamera id) fun _ ↦ Shows camera p :=
  shows_onCamera hcamera (fun previewing _ ↦ previewing) (fun _ ↦ rfl) fun _ ↦ rfl

theorem shows_startCamera :
    Gives (Shows camera p) (onCamera uvcCamera UVCCamera.startPreview) fun _ ↦
      Shows camera { p with previewing := p.previewing || p.opened } := by
  refine shows_onCamera hcamera (fun previewing opened ↦ previewing || opened) (fun uvc ↦ ?_)
    fun uvc ↦ ?_
  · unfold UVCCamera.startPreview
    split_ifs <;> rfl
  · unfold UVCCamera.startPreview
    split_ifs with hopened <;> simp [hopened]

theorem shows_stopCamera :
    Gives (Shows camera p) (onCamera uvcCamera UVCCamera.stopPreview) fun _ ↦
      Shows camera { p with previewing := p.previewing && !p.opened } := by
  refine shows_onCamera hcamera (fun previewing opened ↦ previewing && !opened) (fun uvc ↦ ?_)
    fun uvc ↦ ?_
  · unfold UVCCamera.stopPreview
    split_ifs <;> rfl
  · unfold UVCCamera.stopPreview
    split_ifs with hopened <;> simp [hopened]

/-- The view and the camera's preview are stopped. -/
theorem shows_stop :
    Gives (Shows camera p)
      (do
        onGl fun gl ↦ { gl with started := false }
        onCamera uvcCamera UVCCamera.stopPreview)
      fun _ ↦ Shows camera p.stop :=
  shows_stopGl.bind fun _ ↦ shows_stopCamera hcamera

theorem shows_startPreview :
    Gives (Shows camera p) (startPreview uvcCamera) fun _ ↦ Shows camera p.startPreview := by
  refine triple_read fun u hu ↦ ?_
  have hcondition : (!u.base.streaming && !u.base.onPreview && !u.offScreen) =
      (!p.streaming && !p.onPreview && !p.offScreen) := by
    rw [← hu.preview]
    rfl
  rw [hcondition, Preview.startPreview]
  refine Triple.whenever (fun htaken ↦ ?_) fun hskipped u hu ↦ ?_
  · rw [if_pos htaken]
    exact Triple.bind (shows_idleGl (fun _ ↦ rfl) fun _ ↦ rfl) fun _ ↦
      Triple.bind (shows_idleGl (fun _ ↦ rfl) fun _ ↦ rfl) fun _ ↦ shows_startGl.bind fun _ ↦
      (shows_textureCamera hcamera).bind fun _ ↦ (shows_startCamera hcamera).bind fun _ ↦
      shows_onPreview true
  · rw [if_neg (Bool.eq_false_iff.mp hskipped)]
    exact hu

theorem shows_stopPreview :
    Gives (Shows camera p) (stopPreview uvcCamera) fun _ ↦ Shows camera p.stopPreview := by
  refine triple_read fun u hu ↦ ?_
  have hcondition : (!u.base.streaming && u.base.onPreview && !u.offScreen) =
      (!p.streaming && p.onPreview && !p.offScreen) := by
    rw [← hu.preview]
    rfl
  rw [hcondition, Preview.stopPreview]
  refine Triple.whenever (fun htaken ↦ ?_) fun hskipped u hu ↦ ?_
  · rw [if_pos htaken]
    exact shows_stopGl.bind fun _ ↦
      (shows_stopCamera hcamera).bind fun _ ↦ shows_onPreview false
  · rw [if_neg (Bool.eq_false_iff.mp hskipped)]
    exact hu

theorem shows_prepareVideo (parameters : VideoParameters) :
    Gives (Shows camera p) (prepareVideo parameters uvcCamera) fun _ ↦
      Shows camera p.prepareVideo := by
  refine triple_read fun u hu ↦ ?_
  have hflag : u.base.onPreview = p.onPreview := congrArg Preview.onPreview hu.preview
  rw [hflag]
  have hstopped : Gives (Shows camera p)
      (whenever p.onPreview do
        stopPreview uvcCamera
        modify fun u ↦ { u with base.onPreview := true })
      fun _ ↦ Shows camera p.prepareVideo := by
    refine Triple.whenever (fun hon ↦ ?_) fun hoff u hu ↦ ?_
    · rw [Preview.prepareVideo, if_pos hon]
      exact (shows_stopPreview hcamera).bind fun _ ↦ shows_onPreview true
    · rw [Preview.prepareVideo, if_neg (Bool.eq_false_iff.mp hoff)]
      exact hu
  exact hstopped.bind fun _ ↦ shows_of_screen (screen_ask fun _ ↦ rfl)

theorem shows_startEncoders :
    Gives (Shows camera p) (startEncoders uvcCamera) fun _ ↦
      Shows camera { p.start with onPreview := true } := by
  have hrestart : ((p.previewing && !p.opened) || p.opened) = (p.previewing || p.opened) := by
    cases p.opened <;> simp
  refine Triple.bind (shows_of_screen (screen_call fun _ ↦ rfl)) fun _ ↦
    Triple.bind (shows_of_screen (screen_call fun _ ↦ rfl)) fun _ ↦
    Triple.bind (shows_of_screen (screen_call fun _ ↦ rfl)) fun _ ↦
    Triple.bind (shows_stopCamera hcamera) fun _ ↦ Triple.bind shows_stopGl fun _ ↦
    Triple.bind (shows_idleGl (fun _ ↦ rfl) fun _ ↦ rfl) fun _ ↦
    Triple.bind (shows_idleGl (fun _ ↦ rfl) fun _ ↦ rfl) fun _ ↦
    Triple.bind shows_startGl fun _ ↦ Triple.bind (shows_textureCamera hcamera) fun _ ↦
    Triple.bind (shows_startCamera hcamera) fun _ ↦
    Triple.bind (shows_of_screen (screen_ask fun _ ↦ rfl)) fun hasInputSurface ↦ ?_
  simp only [hrestart]
  refine Triple.bind (Triple.whenever (fun _ ↦ shows_idleGl (fun _ ↦ rfl) fun _ ↦ rfl)
    fun _ _ h ↦ h) fun _ ↦ shows_onPreview true

omit hcamera in
theorem shows_resetVideoEncoder :
    Gives (Shows camera p) resetVideoEncoder fun _ ↦ Shows camera p :=
  Triple.bind (shows_idleGl (fun _ ↦ rfl) fun _ ↦ rfl) fun _ ↦
    Triple.bind (shows_of_screen (screen_call fun _ ↦ rfl)) fun _ ↦
    shows_idleGl (fun _ ↦ rfl) fun _ ↦ rfl

theorem shows_startStream (url : String) :
    Gives (Shows camera p) (startStream uvcCamera url) fun _ ↦ Shows camera p.startStream := by
  let on : Preview := { p with streaming := true }
  have hstart : Gives (Shows camera on) (do
      let u ← get
      (if !u.base.recording then startEncoders uvcCamera else resetVideoEncoder)
      startStreamRtp url
      modify fun u ↦ { u with base.onPreview := true }) fun _ ↦ Shows camera p.startStream := by
    refine triple_read fun u hu ↦ ?_
    have hrecording : u.base.recording = p.recording := congrArg Preview.recording hu.preview
    rw [hrecording, Preview.startStream]
    have hrtmp : Leaves Usb.screen (startStreamRtp url) :=
      .bind .get fun _ ↦ .bind (screen_onRtmp _) fun _ ↦ screen_onRtmp _
    have hend : ∀ q : Preview, Gives (Shows camera q) (do
        startStreamRtp url
        modify fun u ↦ { u with base.onPreview := true }) fun _ ↦
          Shows camera { q with onPreview := true } := fun q ↦
      Triple.bind (shows_of_screen hrtmp) fun _ ↦ shows_onPreview true
    by_cases hbusy : p.recording = true
    · rw [if_neg (by simp [hbusy]), if_pos hbusy]
      exact Triple.bind shows_resetVideoEncoder fun _ ↦ hend on
    · rw [if_pos (by simp [hbusy]), if_neg hbusy]
      exact Triple.bind (shows_startEncoders hcamera) fun _ ↦ hend _
  refine triple_update (fun u hu ↦ ?_) hstart
  exact ⟨congrArg (fun p : Preview ↦ { p with streaming := true }) hu.preview, hu.view, hu.camera⟩

theorem shows_stopStream :
    Gives (Shows camera p) (stopStream uvcCamera) fun _ ↦ Shows camera p.stopStream := by
  refine triple_read fun u hu ↦ ?_
  have hstreaming : u.base.streaming = p.streaming := congrArg Preview.streaming hu.preview
  have hrecording : u.base.recording = p.recording := congrArg Preview.recording hu.preview
  have hoffScreen : u.offScreen = p.offScreen := congrArg Preview.offScreen hu.preview
  rw [hstreaming, hrecording, hoffScreen]
  let off : Preview := { p with streaming := false }
  have hdisconnect : Gives (Shows camera p)
      (whenever p.streaming do
        modify fun u ↦ { u with base.streaming := false }
        onRtmp .disconnect)
      fun _ ↦ Shows camera off := by
    refine Triple.whenever (fun _ ↦ triple_update (fun u hu ↦ ?_)
      (shows_of_screen (screen_onRtmp _))) fun hoff u hu ↦ ?_
    · exact ⟨congrArg (fun p : Preview ↦ { p with streaming := false }) hu.preview, hu.view,
        hu.camera⟩
    · have hsame : off = p := by
        simp only [off, ← hoff]
      exact hsame ▸ hu
  refine hdisconnect.bind fun _ ↦ Triple.whenever (fun hidle ↦ ?_) fun hbusy u hu ↦ ?_
  · have hpreview : Gives (Shows camera off)
        (whenever p.offScreen do
          onGl fun gl ↦ { gl with started := false }
          onCamera uvcCamera UVCCamera.stopPreview)
        fun _ ↦ Shows camera p.stopStream := by
      refine Triple.whenever (fun hview ↦ ?_) fun hview u hu ↦ ?_
      · rw [Preview.stopStream, if_pos (by simp [hview, hidle])]
        exact shows_stop hcamera
      · rw [Preview.stopStream, if_neg (by simp [hview])]
        exact hu
    exact Triple.bind (shows_of_screen (screen_call fun _ ↦ rfl)) fun _ ↦
      Triple.bind (shows_idleGl (fun _ ↦ rfl) fun _ ↦ rfl) fun _ ↦ hpreview.bind fun _ ↦
      Triple.bind (shows_of_screen (screen_call fun _ ↦ rfl)) fun _ ↦
      Triple.bind (shows_of_screen (screen_call fun _ ↦ rfl)) fun _ ↦
      shows_of_screen (.modify fun _ ↦ rfl)
  · rw [Preview.stopStream, if_neg (by simp [hbusy])]
    exact hu

theorem shows_startRecord :
    Gives (Shows camera p) (startRecord uvcCamera) fun _ ↦ Shows camera p.startRecord := by
  let on : Preview := { p with recording := true }
  have hstart : Gives (Shows camera on) (do
      let u ← get
      if !u.base.streaming then startEncoders uvcCamera
      else whenever u.base.videoEncoder.running resetVideoEncoder) fun _ ↦
        Shows camera p.startRecord := by
    refine triple_read fun u hu ↦ ?_
    have hstreaming : u.base.streaming = p.streaming := congrArg Preview.streaming hu.preview
    rw [hstreaming, Preview.startRecord]
    by_cases hon : p.streaming = true
    · rw [if_neg (by simp [hon]), if_pos hon]
      exact Triple.whenever (fun _ ↦ shows_resetVideoEncoder) fun _ _ h ↦ h
    · rw [if_pos (by simp [hon]), if_neg hon]
      exact shows_startEncoders hcamera
  refine Triple.bind (shows_of_screen (screen_call fun _ ↦ rfl)) fun _ ↦
    triple_update (fun u hu ↦ ?_) hstart
  exact ⟨congrArg (fun p : Preview ↦ { p with recording := true }) hu.preview, hu.view, hu.camera⟩

theorem shows_stopRecord :
    Gives (Shows camera p) (stopRecord uvcCamera) fun _ ↦ Shows camera p.stopRecord := by
  let off : Preview := { p with recording := false }
  have hdrop : ∀ held started, Leaves Usb.screen (dropMuxer held started) :=
    fun held started ↦ screen_of_setting (setting_dropMuxer held started)
  have hstop : Gives (Shows camera off) (do
      let u ← get
      dropMuxer u.base.mediaMuxer.isSome u.base.canRecord
      modify fun u ↦ { u with base.videoTrack := -1, base.audioTrack := -1 }
      whenever (!u.base.streaming) (stopStream uvcCamera)) fun _ ↦ Shows camera p.stopRecord := by
    refine triple_read fun u hu ↦ ?_
    have hstreaming : u.base.streaming = p.streaming := congrArg Preview.streaming hu.preview
    refine Triple.bind (shows_of_screen (hdrop _ _)) fun _ ↦
      Triple.bind (shows_of_screen (.modify fun _ ↦ rfl)) fun _ ↦ ?_
    rw [hstreaming, Preview.stopRecord]
    refine Triple.whenever (fun hidle ↦ ?_) fun hbusy u hu ↦ ?_
    · rw [if_neg (by simpa using hidle)]
      exact shows_stopStream hcamera
    · rw [if_pos (by simpa using hbusy)]
      exact hu
  refine triple_update (fun u hu ↦ ?_) hstop
  exact ⟨congrArg (fun p : Preview ↦ { p with recording := false }) hu.preview, hu.view, hu.camera⟩

omit hcamera in
/-- No call changes the kind of a view. -/
theorem kinds_onGl {effect : GlInterface → GlInterface}
    (hview : ∀ gl, (effect gl).offScreen = gl.offScreen) : Leaves Usb.kinds (onGl effect) := by
  refine leaves_call (fun _ _ ↦ rfl) fun u ↦ ?_
  have hsame : ∀ (interfaces : List GlInterface) (index : ℕ),
      (interfaces.modify index effect).map GlInterface.offScreen =
        interfaces.map GlInterface.offScreen := by
    intro interfaces index
    induction interfaces generalizing index with
    | nil => rw [List.modify_nil]
    | cons gl rest ih =>
      cases index with
      | zero => exact congrArg (· :: rest.map GlInterface.offScreen) (hview gl)
      | succ index => exact congrArg (gl.offScreen :: ·) (ih index)
  exact hsame _ _

omit hcamera in
theorem kinds_onCamera (effect : UVCCamera → UVCCamera) :
    Leaves Usb.kinds (onCamera uvcCamera effect) :=
  leaves_onCamera (fun _ _ ↦ rfl) fun _ _ ↦ rfl

omit hcamera in
theorem shows_and_kinds {method : UsbM Unit} {kinds : List Bool}
    (h : Gives (Shows camera p) method fun _ ↦ Shows camera p') (hkinds : Leaves Usb.kinds method) :
    Gives (fun u ↦ Shows camera p u ∧ u.kinds = kinds) method fun _ u ↦
      Shows camera p' u ∧ u.kinds = kinds :=
  ((h.mono (fun _ h ↦ h.1) (fun _ _ h ↦ h) fun _ _ h ↦ h).and
    ((hkinds.gives kinds).mono (fun _ h ↦ h.2) (fun _ _ h ↦ h) fun _ _ h ↦ h)).mono
    (fun _ h ↦ h) (fun _ _ h ↦ h) fun _ _ _ ↦ trivial

omit hcamera in
/-- Another view takes the place of the current one. -/
theorem Shows.replace {u : Usb} (h : Shows camera p u) {glInterface : ℕ} {gl : GlInterface}
    (hgl : u.devices.interfaces[glInterface]? = some gl) :
    Shows camera { p with offScreen := gl.offScreen, started := gl.started }
      { u with base.glInterface := glInterface } := by
  refine ⟨?_, (List.getElem?_eq_some_iff.mp hgl).1, h.camera⟩
  simp only [← h.preview, ScreenView.preview, Usb.screen, hgl, Option.any_some]

/-- The view that was put in place is started, with the camera's preview. -/
theorem shows_startView (active : Bool) :
    Gives (Shows camera p)
      (do
        onGl fun gl ↦ { gl with initialized := true }
        onGl id
        onGl id
        onGl fun gl ↦ { gl with started := true }
        whenever active (onGl fun gl ↦ { gl with codecSurface := true })
        onCamera uvcCamera id
        onCamera uvcCamera UVCCamera.startPreview)
      fun _ ↦ Shows camera p.start :=
  Triple.bind (shows_idleGl (fun _ ↦ rfl) fun _ ↦ rfl) fun _ ↦
    Triple.bind (shows_idleGl (fun _ ↦ rfl) fun _ ↦ rfl) fun _ ↦
    Triple.bind (shows_idleGl (fun _ ↦ rfl) fun _ ↦ rfl) fun _ ↦
    Triple.bind shows_startGl fun _ ↦ Triple.bind (Triple.whenever (fun _ ↦
      shows_idleGl (fun _ ↦ rfl) fun _ ↦ rfl) fun _ _ h ↦ h) fun _ ↦
    Triple.bind (shows_textureCamera hcamera) fun _ ↦ shows_startCamera hcamera

/-- The view that is put in place is started, if anything is shown. -/
theorem shows_replaceGlInterface (glInterface : ℕ) (gl : GlInterface) :
    Gives (fun u ↦ Shows camera p u ∧ u.devices.interfaces[glInterface]? = some gl)
      (replaceGlInterface glInterface uvcCamera)
      fun _ ↦ Shows camera (p.replaceView gl.offScreen gl.started) := by
  refine triple_read_eq fun u hu ↦ ?_
  have hcondition : (u.base.streaming || u.base.recording || u.base.onPreview) =
      (p.streaming || p.recording || p.onPreview) := by
    rw [← hu.1.preview]
    rfl
  rw [hcondition, Preview.replaceView]
  by_cases hactive : (p.streaming || p.recording || p.onPreview) = true
  · rw [if_pos hactive, if_pos hactive]
    have hkind : u.kinds[glInterface]? = some gl.offScreen := by
      rw [Usb.kinds, List.getElem?_map, hu.2]
      rfl
    -- Whether the new view was started before does not matter.
    have hstart : ∀ started, ({ p with
        offScreen := gl.offScreen, started := started
        previewing := p.previewing && !p.opened } : Preview).start =
          ({ p with offScreen := gl.offScreen } : Preview).start := by
      intro started
      cases p.opened <;> simp [Preview.start]
    have hstopped : Triple (fun t ↦ t = u) (onCamera uvcCamera UVCCamera.stopPreview)
        (fun _ t ↦ Shows camera { p with previewing := p.previewing && !p.opened } t ∧
          t.kinds = u.kinds) fun _ _ ↦ True :=
      (shows_and_kinds (shows_stopCamera hcamera) (kinds_onCamera _)).mono
        (fun t ht ↦ ⟨ht.symm ▸ hu.1, congrArg Usb.kinds ht⟩) (fun _ _ h ↦ h) fun _ _ h ↦ h
    refine hstopped.bind fun _ ↦ Triple.bind (shows_and_kinds (shows_idleGl (fun _ ↦ rfl)
      fun _ ↦ rfl) (kinds_onGl fun _ ↦ rfl)) fun _ ↦
      Triple.bind (shows_and_kinds shows_stopGl (kinds_onGl fun _ ↦ rfl)) fun _ ↦
      triple_update (fun t ht ↦ ?_) (Triple.exists fun started ↦
        hstart started ▸ shows_startView hcamera (u.base.streaming || u.base.recording))
    rw [← ht.2, Usb.kinds, List.getElem?_map] at hkind
    obtain ⟨held, hheld, hsame⟩ := Option.map_eq_some_iff.mp hkind
    have hshown := ht.1.replace hheld
    rw [hsame] at hshown
    exact ⟨held.started, hshown⟩
  · rw [if_neg hactive, if_neg hactive]
    exact Triple.modify fun t ht ↦ ht ▸ hu.1.replace hu.2

theorem shows_replaceView (openGlView : Option ℕ) {u : Usb} (hu : Shows camera p u)
    (hview : ∀ view ∈ openGlView, view < u.devices.interfaces.length) :
    Gives (fun t ↦ t = u) (replaceView openGlView uvcCamera) fun _ ↦
      Shows camera (p.replaceView (u.nextView openGlView).offScreen
        (u.nextView openGlView).started) := by
  cases openGlView with
  | some view =>
    have hgl : u.devices.interfaces[view]? = some (u.nextView (some view)) := by
      simp [Usb.nextView, List.getElem?_eq_getElem (hview view rfl)]
    exact (shows_replaceGlInterface hcamera view _).of_state ⟨hu, hgl⟩
  | none =>
    refine triple_read fun t ht ↦ ?_
    rw [ht]
    have hmade : Gives (fun t ↦ t = u) (call fun u ↦ { u with
        devices.interfaces := u.devices.interfaces ++ [⟨true, false, false, false⟩] }) fun _ t ↦
        Shows camera p t ∧ t.devices.interfaces[u.devices.interfaces.length]? =
          some ⟨true, false, false, false⟩ := by
      have hanswer : Leaves Usb.screen nextAnswer := leaves_nextAnswer fun _ _ ↦ rfl
      refine Triple.bind ((hanswer.gives u.screen).mono (fun _ h ↦ congrArg Usb.screen h)
        (fun _ _ h ↦ h) fun _ _ h ↦ h) fun _ ↦ Triple.modify fun t ht ↦ ?_
      have hinterfaces : t.devices.interfaces = u.devices.interfaces :=
        congrArg ScreenView.interfaces ht
      have hsame := hu.of_screen ht
      refine ⟨⟨?_, ?_, hsame.camera⟩, ?_⟩
      · rw [← hsame.preview]
        simp only [ScreenView.preview, Usb.screen, List.getElem?_append_left hsame.view]
      · rw [List.length_append]
        exact Nat.lt_add_right _ hsame.view
      · rw [hinterfaces, List.getElem?_append_right (Nat.le_refl _), Nat.sub_self]
        rfl
    exact hmade.bind fun _ ↦ shows_replaceGlInterface hcamera _ ⟨true, false, false, false⟩

end Methods

/-! ### The moves -/

namespace Preview

variable {p : Preview} (h : p.Truthful)

include h

theorem truthful_startPreview (hsound : p.Sound) :
    p.startPreview.Truthful ↔
      (p.streaming = false → p.onPreview = false → p.offScreen = false → p.opened = true) := by
  have := hsound.opened
  grind [Truthful, startPreview, start]

theorem truthful_stopPreview : p.stopPreview.Truthful := by
  grind [Truthful, stopPreview, stop]

theorem truthful_prepareVideo :
    p.prepareVideo.Truthful ↔
      (p.onPreview = true → p.streaming = true ∨ p.offScreen = true) := by
  grind [Truthful, prepareVideo, stopPreview, stop]

theorem truthful_startStream (hsound : p.Sound) :
    p.startStream.Truthful ↔ if p.recording then p.onPreview = true else p.opened = true := by
  have := hsound.opened
  grind [Truthful, startStream, start]

theorem truthful_stopStream :
    p.stopStream.Truthful ↔
      (p.offScreen = true → p.onPreview = true → p.recording = true) := by
  grind [Truthful, stopStream, stop]

theorem truthful_startRecord (hsound : p.Sound) :
    p.startRecord.Truthful ↔ p.streaming = true ∨ p.opened = true := by
  have := hsound.opened
  grind [Truthful, startRecord, start]

theorem truthful_stopRecord :
    p.stopRecord.Truthful ↔
      (p.offScreen = true → p.onPreview = true → p.streaming = true) := by
  grind [Truthful, stopRecord, stopStream, stop]

theorem truthful_replaceView (hsound : p.Sound) (offScreen started : Bool) :
    (p.replaceView offScreen started).Truthful ↔
      if p.streaming || p.recording || p.onPreview then p.onPreview = p.opened
      else ¬ (started = true ∧ p.previewing = true) := by
  have := hsound.opened
  grind [Truthful, replaceView, start]

end Preview

/-- The camera that a call is made with. -/
def UsbEvent.uvcCamera : UsbEvent → Option ℕ
  | .prepareVideo _ uvcCamera | .startPreview uvcCamera | .stopPreview uvcCamera
  | .startStream uvcCamera _ | .stopStream uvcCamera | .startRecord uvcCamera
  | .stopRecord uvcCamera | .replaceView _ uvcCamera => uvcCamera
  | .prepareAudio | .callback _ => none

/-- The view that a call is made with. -/
def UsbEvent.openGlView : UsbEvent → Option ℕ
  | .replaceView openGlView _ => openGlView
  | _ => none

/-- What a call does to the preview, with the view that it puts in place. -/
def UsbEvent.previewMove (gl : GlInterface) : UsbEvent → Preview → Preview
  | .prepareVideo _ _, p => p.prepareVideo
  | .startPreview _, p => p.startPreview
  | .stopPreview _, p => p.stopPreview
  | .startStream _ _, p => p.startStream
  | .stopStream _, p => p.stopStream
  | .startRecord _, p => p.startRecord
  | .stopRecord _, p => p.stopRecord
  | .replaceView _ _, p => p.replaceView gl.offScreen gl.started
  | .prepareAudio, p | .callback _, p => p

/-- The call returns, it is made with this camera or with none, and its view exists. -/
def PreviewCall (camera : ℕ) (u : Usb) (usbCall : UsbCall) : Prop :=
  Returns usbCall.event.method { u with devices.outcomes := usbCall.outcomes } ∧
    (∀ held ∈ usbCall.event.uvcCamera, held = camera) ∧
    ∀ view ∈ usbCall.event.openGlView, view < u.devices.interfaces.length

instance (camera : ℕ) (u : Usb) (usbCall : UsbCall) : Decidable (PreviewCall camera u usbCall) :=
  inferInstanceAs (Decidable (_ ∧ _ ∧ _))

/-- The call leaves the flag right. -/
def KeepsFlag (camera : ℕ) (u : Usb) (usbCall : UsbCall) : Prop :=
  let p := u.screen.preview camera
  match usbCall.event with
  | .startPreview _ =>
    p.streaming = false → p.onPreview = false → p.offScreen = false → p.opened = true
  | .prepareVideo _ _ => p.onPreview = true → p.streaming = true ∨ p.offScreen = true
  | .startStream _ _ => if p.recording then p.onPreview = true else p.opened = true
  | .stopStream _ => p.offScreen = true → p.onPreview = true → p.recording = true
  | .startRecord _ => p.streaming = true ∨ p.opened = true
  | .stopRecord _ => p.offScreen = true → p.onPreview = true → p.streaming = true
  | .replaceView openGlView _ =>
    if p.streaming || p.recording || p.onPreview then p.onPreview = p.opened
    else ¬ ((u.nextView openGlView).started = true ∧ p.previewing = true)
  | .stopPreview _ | .prepareAudio | .callback _ => True

/-- `startPreview` is not refused for a view on the screen while the preview is in fact off. -/
def NotRefused (camera : ℕ) (u : Usb) (usbCall : UsbCall) : Prop :=
  let p := u.screen.preview camera
  match usbCall.event with
  | .startPreview _ => p.offScreen = false → (p.started && p.previewing) = false →
    p.streaming = false ∧ p.onPreview = false
  | _ => True

/-- An object follows the machine. -/
theorem shows_usbStep {camera : ℕ} {p : Preview} {u : Usb} {usbCall : UsbCall}
    (h : Shows camera p u) (hcall : PreviewCall camera u usbCall) :
    Shows camera (usbCall.event.previewMove (u.nextView usbCall.event.openGlView) p)
      (usbStep u usbCall) := by
  obtain ⟨event, outcomes⟩ := usbCall
  obtain ⟨hreturns, hcamera, hview⟩ := hcall
  have hstart : Shows camera p { u with devices.outcomes := outcomes } := h.of_screen rfl
  have hquiet : ∀ {method : UsbM Unit}, Leaves Usb.screen method →
      Shows camera p (after method { u with devices.outcomes := outcomes }) :=
    fun hleaves ↦ h.of_screen (hleaves.after _)
  cases event with
  | prepareVideo parameters uvcCamera =>
    have hprepare : Gives (Shows camera p) (UsbEvent.prepareVideo parameters uvcCamera).method
        fun _ ↦ Shows camera p.prepareVideo :=
      Triple.bind (shows_prepareVideo hcamera parameters) fun _ ↦ Triple.pure fun _ h ↦ h
    exact hprepare.after hstart hreturns
  | prepareAudio =>
    exact hquiet (.bind (.bind (screen_call fun _ ↦ rfl) fun _ ↦ .bind (screen_onRtmp _) fun _ ↦
      screen_ask fun _ ↦ rfl) fun _ ↦ .pure _)
  | startPreview uvcCamera => exact (shows_startPreview hcamera).after hstart hreturns
  | stopPreview uvcCamera => exact (shows_stopPreview hcamera).after hstart hreturns
  | startStream uvcCamera url => exact (shows_startStream hcamera url).after hstart hreturns
  | stopStream uvcCamera => exact (shows_stopStream hcamera).after hstart hreturns
  | startRecord uvcCamera => exact (shows_startRecord hcamera).after hstart hreturns
  | stopRecord uvcCamera => exact (shows_stopRecord hcamera).after hstart hreturns
  | replaceView openGlView uvcCamera =>
    exact (shows_replaceView hcamera openGlView hstart hview).after rfl hreturns
  | callback encoderCallback => exact hquiet (screen_of_setting (setting_callback encoderCallback))

namespace Preview

/-- A move keeps the flag right exactly where `KeepsFlag` says so. -/
theorem truthful_move_iff {camera : ℕ} {u : Usb} (h : (u.screen.preview camera).Truthful)
    (hsound : (u.screen.preview camera).Sound) (usbCall : UsbCall) :
    (usbCall.event.previewMove (u.nextView usbCall.event.openGlView)
      (u.screen.preview camera)).Truthful ↔ KeepsFlag camera u usbCall := by
  obtain ⟨event, outcomes⟩ := usbCall
  cases event with
  | prepareVideo parameters uvcCamera => exact truthful_prepareVideo h
  | prepareAudio => exact iff_of_true h trivial
  | startPreview uvcCamera => exact truthful_startPreview h hsound
  | stopPreview uvcCamera => exact iff_of_true (truthful_stopPreview h) trivial
  | startStream uvcCamera url => exact truthful_startStream h hsound
  | stopStream uvcCamera => exact truthful_stopStream h
  | startRecord uvcCamera => exact truthful_startRecord h hsound
  | stopRecord uvcCamera => exact truthful_stopRecord h
  | replaceView openGlView uvcCamera => exact truthful_replaceView h hsound _ _
  | callback encoderCallback => exact iff_of_true h trivial

theorem Sound.move {p : Preview} (h : p.Sound) (gl : GlInterface) (event : UsbEvent) :
    (event.previewMove gl p).Sound := by
  obtain ⟨hopened, hstreaming⟩ := h
  cases event with
  | prepareVideo parameters uvcCamera =>
    constructor <;> grind [UsbEvent.previewMove, prepareVideo, stopPreview, stop]
  | prepareAudio => exact ⟨hopened, hstreaming⟩
  | startPreview uvcCamera => constructor <;> grind [UsbEvent.previewMove, startPreview, start]
  | stopPreview uvcCamera => constructor <;> grind [UsbEvent.previewMove, stopPreview, stop]
  | startStream uvcCamera url => constructor <;> grind [UsbEvent.previewMove, startStream, start]
  | stopStream uvcCamera => constructor <;> grind [UsbEvent.previewMove, stopStream, stop]
  | startRecord uvcCamera => constructor <;> grind [UsbEvent.previewMove, startRecord, start]
  | stopRecord uvcCamera =>
    constructor <;> grind [UsbEvent.previewMove, stopRecord, stopStream, stop]
  | replaceView openGlView uvcCamera =>
    constructor <;> grind [UsbEvent.previewMove, replaceView, start]
  | callback encoderCallback => exact ⟨hopened, hstreaming⟩

end Preview

/-! ### Runs -/

/-- What holds while the flag is right. -/
structure FlagInv (camera : ℕ) (u : Usb) : Prop where
  shows : Shows camera (u.screen.preview camera) u
  truthful : (u.screen.preview camera).Truthful
  sound : (u.screen.preview camera).Sound

theorem flagInv_usbStep_iff {camera : ℕ} {u : Usb} {usbCall : UsbCall} (h : FlagInv camera u)
    (hcall : PreviewCall camera u usbCall) :
    ((usbStep u usbCall).screen.preview camera).Truthful ↔ KeepsFlag camera u usbCall := by
  rw [(shows_usbStep h.shows hcall).preview]
  exact Preview.truthful_move_iff h.truthful h.sound usbCall

theorem flagInv_usbStep {camera : ℕ} {u : Usb} {usbCall : UsbCall} (h : FlagInv camera u)
    (hcall : PreviewCall camera u usbCall) (hkept : KeepsFlag camera u usbCall) :
    FlagInv camera (usbStep u usbCall) := by
  have hshows := shows_usbStep h.shows hcall
  refine ⟨hshows.preview.symm ▸ hshows, (flagInv_usbStep_iff h hcall).mpr hkept, ?_⟩
  rw [hshows.preview]
  exact h.sound.move _ usbCall.event

/-- A new object on a view that exists and a camera whose preview is not running, or is not shown.
Along any calls that return, all with this camera or with none, the flag says in every state whether
the view and the camera's preview are started, if and only if every call meets `KeepsFlag`; and then
`startPreview` is never refused while the preview is off, unless the view is off the screen. -/
theorem preview_flag_iff (glInterface : ℕ) (devices : Devices) (camera : ℕ) (calls : List UsbCall)
    (hview : glInterface < devices.interfaces.length) (hcamera : camera < devices.cameras.length)
    (hopened : devices.cameras[camera].previewing = true →
      devices.cameras[camera].ctrlBlock = true)
    (hoff : ¬ (devices.interfaces[glInterface].started = true ∧
      devices.cameras[camera].previewing = true))
    (hcalls : Meets usbStep (PreviewCall camera) (Usb.initial glInterface devices) calls) :
    (Throughout usbStep (fun u ↦ (u.screen.preview camera).Truthful)
        (Usb.initial glInterface devices) calls ↔
      Meets usbStep (KeepsFlag camera) (Usb.initial glInterface devices) calls) ∧
    (Meets usbStep (KeepsFlag camera) (Usb.initial glInterface devices) calls →
      Meets usbStep (NotRefused camera) (Usb.initial glInterface devices) calls) := by
  have hinit : FlagInv camera (Usb.initial glInterface devices) := by
    have hpreview : (Usb.initial glInterface devices).screen.preview camera =
        ⟨devices.interfaces[glInterface].offScreen, devices.interfaces[glInterface].started,
          devices.cameras[camera].ctrlBlock, devices.cameras[camera].previewing, false, false,
          false⟩ := by
      simp only [ScreenView.preview, Usb.screen, Usb.initial, USBBase.new,
        List.getElem?_eq_getElem hview, List.getElem?_eq_getElem hcamera, Option.any_some]
    refine ⟨⟨rfl, hview, hcamera⟩, ?_, ?_⟩
    · rw [hpreview]
      rw [← Bool.and_eq_true, Bool.not_eq_true] at hoff
      exact hoff.symm
    · rw [hpreview]
      exact ⟨hopened, fun hstreaming ↦ absurd hstreaming Bool.false_ne_true⟩
  refine ⟨?_, fun hkept ↦ ?_⟩
  · exact throughout_iff_meets (fun u h ↦ h.truthful)
      (fun u usbCall h hcall hkept ↦ flagInv_usbStep h hcall hkept)
      (fun u usbCall h hcall hbroken htruthful ↦
        hbroken ((flagInv_usbStep_iff h hcall).mp htruthful)) hinit hcalls
  · refine meets_of_inv (fun u usbCall h hboth ↦ flagInv_usbStep h hboth.1 hboth.2)
      (fun u usbCall h _ ↦ ?_) hinit (hcalls.and hkept)
    obtain ⟨event, outcomes⟩ := usbCall
    cases event with
    | startPreview uvcCamera =>
      intro _ hdark
      have hflag : (u.screen.preview camera).onPreview = false := h.truthful.trans hdark
      refine ⟨Bool.eq_false_iff.mpr fun hstreaming ↦ ?_, hflag⟩
      exact absurd (hflag.symm.trans (h.sound.streaming hstreaming)) Bool.false_ne_true
    | _ => trivial

/-- A preview, a stream, and a view that is replaced while it streams. -/
def previewCalls : List UsbCall :=
  [(UsbEvent.startPreview (some 0)).plain, (UsbEvent.startStream (some 0) "rtmp://host/a").plain,
    (UsbEvent.replaceView none (some 0)).plain, (UsbEvent.replaceView (some 0) (some 0)).plain,
    (UsbEvent.stopStream (some 0)).plain, (UsbEvent.stopPreview (some 0)).plain]

theorem preview_flag_iff_stream :
    (Throughout usbStep (fun u ↦ (u.screen.preview 0).Truthful) (Usb.initial 0 oneCamera)
        previewCalls ↔
      Meets usbStep (KeepsFlag 0) (Usb.initial 0 oneCamera) previewCalls) ∧
    (Meets usbStep (KeepsFlag 0) (Usb.initial 0 oneCamera) previewCalls →
      Meets usbStep (NotRefused 0) (Usb.initial 0 oneCamera) previewCalls) :=
  preview_flag_iff 0 oneCamera 0 previewCalls (by decide) (by decide) (by decide) (by decide)
    (by decide)

/-- `prepareVideo` stops a preview and sets the flag again: the next `startPreview` is refused. -/
theorem not_truthful_prepareVideo :
    ¬ Throughout usbStep (fun u ↦ (u.screen.preview 0).Truthful) (Usb.initial 0 oneCamera)
      [(UsbEvent.startPreview (some 0)).plain,
        (UsbEvent.prepareVideo ⟨640, 480, 30, 1228800, 0, 2⟩ (some 0)).plain] := by
  intro h
  exact absurd (h _ (List.prefix_refl _)) (by decide)

end UvcRtmpStream.Streaming
