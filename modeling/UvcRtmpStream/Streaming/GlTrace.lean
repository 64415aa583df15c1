import UvcRtmpStream.Streaming.USBBaseSpec

/-!
# The calls that a method makes on its GL interface

The state of an object does not tell which calls its GL interface has received. Here every method
that uses the interface is run once more, on a state that also keeps the list of these calls
(`Traced`): each with the interface it is made on and the state the interface is in (`GlUse`).

The methods are those of `USBBase.java` again, with the calls on the interface under their own names
(`GlCall`). Without the list they are the methods of the object (`projects_event`), so the list is
about the same runs (`usb_tracedStep`).
-/

set_option autoImplicit false
set_option relaxedAutoImplicit false

namespace UvcRtmpStream.Streaming

open UvcRtmpStream.Foundations UvcRtmpStream.Platform UvcRtmpStream.Replay

/-- A call on a `GlInterface`. -/
inductive GlCall
  | init
  | setEncoderSize
  | setRotation
  | start
  | stop
  | addMediaCodecSurface
  | removeMediaCodecSurface
  | getSurfaceTexture
  deriving DecidableEq

/-- What the call does to the interface when it returns. -/
def GlCall.effect : GlCall → GlInterface → GlInterface
  | .init => fun gl ↦ { gl with initialized := true }
  | .start => fun gl ↦ { gl with started := true }
  | .stop => fun gl ↦ { gl with started := false }
  | .addMediaCodecSurface => fun gl ↦ { gl with codecSurface := true }
  | .removeMediaCodecSurface => fun gl ↦ { gl with codecSurface := false }
  | .setEncoderSize | .setRotation | .getSurfaceTexture => id

/-- A call that was made: on which interface, and the state it was in. -/
structure GlUse where
  glInterface : ℕ
  call : GlCall
  state : Option GlInterface
  deriving DecidableEq

/-- An object and the devices, with the calls made on GL interfaces so far. -/
structure Traced where
  usb : Usb
  uses : List GlUse

/-- A method of the object that keeps the list. -/
abbrev TracedM := EStateM JavaException Traced

/-- What makes no call on a GL interface. -/
def untraced {α : Type} (method : UsbM α) : TracedM α :=
  zoom (fun t ↦ some t.usb) (fun usb t ↦ { t with usb := usb }) .nullPointer method

/-- A call on the GL interface is put down. -/
def noteGl (glCall : GlCall) : TracedM Unit :=
  modify fun t ↦
    { t with
      uses := t.uses ++ [⟨t.usb.base.glInterface, glCall,
        t.usb.devices.interfaces[t.usb.base.glInterface]?⟩] }

/-- A call on the GL interface. -/
def useGl (glCall : GlCall) : TracedM Unit := do
  noteGl glCall
  untraced (onGl glCall.effect)

namespace Traced

/-- `setPreviewTexture(glInterface.getSurfaceTexture())`. -/
def setPreviewTexture (uvcCamera : Option ℕ) : TracedM Unit := do
  noteGl .getSurfaceTexture
  untraced (onCamera uvcCamera id)

/-- `startPreview`. -/
def startPreview (uvcCamera : Option ℕ) : TracedM Unit := do
  let u ← untraced get
  whenever (!u.base.streaming && !u.base.onPreview && !u.offScreen) do
    useGl .setEncoderSize
    useGl .setRotation
    useGl .start
    setPreviewTexture uvcCamera
    untraced (onCamera uvcCamera UVCCamera.startPreview)
    untraced (modify fun u ↦ { u with base.onPreview := true })

/-- `stopPreview`. -/
def stopPreview (uvcCamera : Option ℕ) : TracedM Unit := do
  let u ← untraced get
  whenever (!u.base.streaming && u.base.onPreview && !u.offScreen) do
    useGl .stop
    untraced (onCamera uvcCamera UVCCamera.stopPreview)
    untraced (modify fun u ↦ { u with base.onPreview := false })

/-- `prepareVideo`. -/
def prepareVideo (parameters : VideoParameters) (uvcCamera : Option ℕ) : TracedM Bool := do
  let u ← untraced get
  whenever u.base.onPreview do
    stopPreview uvcCamera
    untraced (modify fun u ↦ { u with base.onPreview := true })
  untraced (ask fun u ↦ { u with base.videoEncoder.parameters := some parameters })

/-- `startEncoders`. -/
def startEncoders (uvcCamera : Option ℕ) : TracedM Unit := do
  untraced (onVideoEncoder fun encoder ↦
    { encoder with running := true, encoding := encoder.parameters })
  untraced (call fun u ↦ { u with base.audioEncoderRunning := true })
  untraced (call fun u ↦ { u with base.microphoneRunning := true })
  untraced (onCamera uvcCamera UVCCamera.stopPreview)
  useGl .stop
  useGl .setEncoderSize
  useGl .setRotation
  useGl .start
  setPreviewTexture uvcCamera
  untraced (onCamera uvcCamera UVCCamera.startPreview)
  let hasInputSurface ← untraced (ask id)
  whenever hasInputSurface (useGl .addMediaCodecSurface)
  untraced (modify fun u ↦ { u with base.onPreview := true })

/-- `resetVideoEncoder`. -/
def resetVideoEncoder : TracedM Unit := do
  useGl .removeMediaCodecSurface
  untraced (onVideoEncoder fun encoder ↦ { encoder with encoding := encoder.parameters })
  useGl .addMediaCodecSurface

/-- `startStream`. -/
def startStream (uvcCamera : Option ℕ) (url : String) : TracedM Unit := do
  untraced (modify fun u ↦ { u with base.streaming := true })
  let u ← untraced get
  (if !u.base.recording then startEncoders uvcCamera else resetVideoEncoder)
  untraced (startStreamRtp url)
  untraced (modify fun u ↦ { u with base.onPreview := true })

/-- `stopStream`. -/
def stopStream (uvcCamera : Option ℕ) : TracedM Unit := do
  let u ← untraced get
  whenever u.base.streaming do
    untraced (modify fun u ↦ { u with base.streaming := false })
    untraced (onRtmp .disconnect)
  whenever (!u.base.recording) do
    untraced (call fun u ↦ { u with base.microphoneRunning := false })
    useGl .removeMediaCodecSurface
    whenever u.offScreen do
      useGl .stop
      untraced (onCamera uvcCamera UVCCamera.stopPreview)
    untraced (onVideoEncoder fun encoder ↦ { encoder with running := false })
    untraced (call fun u ↦ { u with base.audioEncoderRunning := false })
    untraced (modify fun u ↦ { u with base.videoFormat := none, base.audioFormat := none })

/-- `startRecord`. -/
def startRecord (uvcCamera : Option ℕ) : TracedM Unit := do
  untraced createMuxer
  untraced (modify fun u ↦ { u with base.recording := true })
  let u ← untraced get
  if !u.base.streaming then startEncoders uvcCamera
  else whenever u.base.videoEncoder.running resetVideoEncoder

/-- `stopRecord`. -/
def stopRecord (uvcCamera : Option ℕ) : TracedM Unit := do
  untraced (modify fun u ↦ { u with base.recording := false })
  let u ← untraced get
  untraced (dropMuxer u.base.mediaMuxer.isSome u.base.canRecord)
  untraced (modify fun u ↦ { u with base.videoTrack := -1, base.audioTrack := -1 })
  whenever (!u.base.streaming) (stopStream uvcCamera)

/-- `replaceGlInterface`. -/
def replaceGlInterface (glInterface : ℕ) (uvcCamera : Option ℕ) : TracedM Unit := do
  let u ← untraced get
  if u.base.streaming || u.base.recording || u.base.onPreview then do
    untraced (onCamera uvcCamera UVCCamera.stopPreview)
    useGl .removeMediaCodecSurface
    useGl .stop
    untraced (modify fun u ↦ { u with base.glInterface := glInterface })
    useGl .init
    useGl .setEncoderSize
    useGl .setRotation
    useGl .start
    whenever (u.base.streaming || u.base.recording) (useGl .addMediaCodecSurface)
    setPreviewTexture uvcCamera
    untraced (onCamera uvcCamera UVCCamera.startPreview)
  else untraced (modify fun u ↦ { u with base.glInterface := glInterface })

/-- `replaceView`. -/
def replaceView (openGlView uvcCamera : Option ℕ) : TracedM Unit := do
  match openGlView with
  | some view => replaceGlInterface view uvcCamera
  | none =>
    let u ← untraced get
    untraced (call fun u ↦
      { u with devices.interfaces := u.devices.interfaces ++ [⟨true, false, false, false⟩] })
    replaceGlInterface u.devices.interfaces.length uvcCamera

end Traced

/-- The method that an event runs. -/
def UsbEvent.traced : UsbEvent → TracedM Unit
  | .prepareVideo parameters uvcCamera => do
    let _ ← Traced.prepareVideo parameters uvcCamera
  | .prepareAudio => untraced UsbEvent.prepareAudio.method
  | .startPreview uvcCamera => Traced.startPreview uvcCamera
  | .stopPreview uvcCamera => Traced.stopPreview uvcCamera
  | .startStream uvcCamera url => Traced.startStream uvcCamera url
  | .stopStream uvcCamera => Traced.stopStream uvcCamera
  | .startRecord uvcCamera => Traced.startRecord uvcCamera
  | .stopRecord uvcCamera => Traced.stopRecord uvcCamera
  | .replaceView openGlView uvcCamera => Traced.replaceView openGlView uvcCamera
  | .callback encoderCallback => untraced encoderCallback.method

/-- The state after an event, with the calls that it made on GL interfaces. -/
def tracedStep (u : Usb) (usbCall : UsbCall) : Traced :=
  after usbCall.event.traced ⟨{ u with devices.outcomes := usbCall.outcomes }, []⟩

/-- The calls that an event makes on GL interfaces. -/
def glUses (u : Usb) (usbCall : UsbCall) : List GlUse := (tracedStep u usbCall).uses

/-- The calls that a run makes on GL interfaces. -/
def runUses : Usb → List UsbCall → List GlUse
  | _, [] => []
  | u, usbCall :: rest => glUses u usbCall ++ runUses (usbStep u usbCall) rest

/-! ### Without the list -/

theorem projects_untraced {α : Type} (method : UsbM α) :
    Projects Traced.usb (untraced method) method :=
  projects_zoom fun _ _ ↦ rfl

theorem projects_useGl (glCall : GlCall) :
    Projects Traced.usb (useGl glCall) (onGl glCall.effect) :=
  projects_before (fun _ ↦ rfl) (projects_untraced _)

theorem projects_setPreviewTexture (uvcCamera : Option ℕ) :
    Projects Traced.usb (Traced.setPreviewTexture uvcCamera) (onCamera uvcCamera id) :=
  projects_before (fun _ ↦ rfl) (projects_untraced _)

theorem projects_startPreview (uvcCamera : Option ℕ) :
    Projects Traced.usb (Traced.startPreview uvcCamera) (startPreview uvcCamera) := by
  refine .bind (projects_untraced get) fun u ↦ .whenever ?_
  exact .bind (projects_useGl .setEncoderSize) fun _ ↦ .bind (projects_useGl .setRotation) fun _ ↦
    .bind (projects_useGl .start) fun _ ↦ .bind (projects_setPreviewTexture uvcCamera) fun _ ↦
    .bind (projects_untraced _) fun _ ↦ projects_untraced _

theorem projects_stopPreview (uvcCamera : Option ℕ) :
    Projects Traced.usb (Traced.stopPreview uvcCamera) (stopPreview uvcCamera) := by
  refine .bind (projects_untraced get) fun u ↦ .whenever ?_
  exact .bind (projects_useGl .stop) fun _ ↦ .bind (projects_untraced _) fun _ ↦
    projects_untraced _

theorem projects_prepareVideo (parameters : VideoParameters) (uvcCamera : Option ℕ) :
    Projects Traced.usb (Traced.prepareVideo parameters uvcCamera)
      (prepareVideo parameters uvcCamera) :=
  .bind (projects_untraced get) fun _ ↦ .bind (.whenever (.bind (projects_stopPreview uvcCamera)
    fun _ ↦ projects_untraced _)) fun _ ↦ projects_untraced _

theorem projects_startEncoders (uvcCamera : Option ℕ) :
    Projects Traced.usb (Traced.startEncoders uvcCamera) (startEncoders uvcCamera) := by
  refine .bind (projects_untraced _) fun _ ↦ .bind (projects_untraced _) fun _ ↦
    .bind (projects_untraced _) fun _ ↦ .bind (projects_untraced _) fun _ ↦ ?_
  refine .bind (projects_useGl .stop) fun _ ↦ .bind (projects_useGl .setEncoderSize) fun _ ↦
    .bind (projects_useGl .setRotation) fun _ ↦ .bind (projects_useGl .start) fun _ ↦ ?_
  refine .bind (projects_setPreviewTexture uvcCamera) fun _ ↦ .bind (projects_untraced _) fun _ ↦
    .bind (projects_untraced (ask id)) fun hasInputSurface ↦ ?_
  exact .bind (.whenever (projects_useGl .addMediaCodecSurface)) fun _ ↦ projects_untraced _

theorem projects_resetVideoEncoder :
    Projects Traced.usb Traced.resetVideoEncoder resetVideoEncoder :=
  .bind (projects_useGl .removeMediaCodecSurface) fun _ ↦ .bind (projects_untraced _) fun _ ↦
    projects_useGl .addMediaCodecSurface

theorem projects_startStream (uvcCamera : Option ℕ) (url : String) :
    Projects Traced.usb (Traced.startStream uvcCamera url) (startStream uvcCamera url) := by
  refine .bind (projects_untraced _) fun _ ↦ .bind (projects_untraced get) fun u ↦ ?_
  exact .bind (.ite (projects_startEncoders uvcCamera) projects_resetVideoEncoder) fun _ ↦
    .bind (projects_untraced _) fun _ ↦ projects_untraced _

theorem projects_stopStream (uvcCamera : Option ℕ) :
    Projects Traced.usb (Traced.stopStream uvcCamera) (stopStream uvcCamera) := by
  refine .bind (projects_untraced get) fun u ↦ .bind (.whenever (.bind (projects_untraced _)
    fun _ ↦ projects_untraced _)) fun _ ↦ .whenever ?_
  refine .bind (projects_untraced _) fun _ ↦
    .bind (projects_useGl .removeMediaCodecSurface) fun _ ↦
    .bind (.whenever (.bind (projects_useGl .stop) fun _ ↦ projects_untraced _)) fun _ ↦ ?_
  exact .bind (projects_untraced _) fun _ ↦ .bind (projects_untraced _) fun _ ↦
    projects_untraced _

theorem projects_startRecord (uvcCamera : Option ℕ) :
    Projects Traced.usb (Traced.startRecord uvcCamera) (startRecord uvcCamera) :=
  .bind (projects_untraced _) fun _ ↦ .bind (projects_untraced _) fun _ ↦
    .bind (projects_untraced get) fun _ ↦ .ite (projects_startEncoders uvcCamera)
      (.whenever projects_resetVideoEncoder)

theorem projects_stopRecord (uvcCamera : Option ℕ) :
    Projects Traced.usb (Traced.stopRecord uvcCamera) (stopRecord uvcCamera) := by
  refine .bind (projects_untraced _) fun _ ↦ .bind (projects_untraced get) fun u ↦ ?_
  exact .bind (projects_untraced (dropMuxer u.base.mediaMuxer.isSome u.base.canRecord)) fun _ ↦
    .bind (projects_untraced _) fun _ ↦ .whenever (projects_stopStream uvcCamera)

theorem projects_replaceGlInterface (glInterface : ℕ) (uvcCamera : Option ℕ) :
    Projects Traced.usb (Traced.replaceGlInterface glInterface uvcCamera)
      (replaceGlInterface glInterface uvcCamera) := by
  refine .bind (projects_untraced get) fun u ↦ .ite ?_ (projects_untraced _)
  refine .bind (projects_untraced _) fun _ ↦
    .bind (projects_useGl .removeMediaCodecSurface) fun _ ↦ .bind (projects_useGl .stop) fun _ ↦
    .bind (projects_untraced _) fun _ ↦ ?_
  refine .bind (projects_useGl .init) fun _ ↦ .bind (projects_useGl .setEncoderSize) fun _ ↦
    .bind (projects_useGl .setRotation) fun _ ↦ .bind (projects_useGl .start) fun _ ↦ ?_
  exact .bind (.whenever (projects_useGl .addMediaCodecSurface)) fun _ ↦
    .bind (projects_setPreviewTexture uvcCamera) fun _ ↦ projects_untraced _

theorem projects_replaceView (openGlView uvcCamera : Option ℕ) :
    Projects Traced.usb (Traced.replaceView openGlView uvcCamera)
      (replaceView openGlView uvcCamera) := by
  cases openGlView with
  | some view => exact projects_replaceGlInterface view uvcCamera
  | none =>
    exact .bind (projects_untraced get) fun u ↦ .bind (projects_untraced _) fun _ ↦
      projects_replaceGlInterface _ uvcCamera

/-- Without the list, an event runs the method of the object. -/
theorem projects_event (event : UsbEvent) : Projects Traced.usb event.traced event.method := by
  cases event with
  | prepareVideo parameters uvcCamera =>
    exact .bind (projects_prepareVideo parameters uvcCamera) fun _ ↦ .pure _
  | prepareAudio => exact projects_untraced _
  | startPreview uvcCamera => exact projects_startPreview uvcCamera
  | stopPreview uvcCamera => exact projects_stopPreview uvcCamera
  | startStream uvcCamera url => exact projects_startStream uvcCamera url
  | stopStream uvcCamera => exact projects_stopStream uvcCamera
  | startRecord uvcCamera => exact projects_startRecord uvcCamera
  | stopRecord uvcCamera => exact projects_stopRecord uvcCamera
  | replaceView openGlView uvcCamera => exact projects_replaceView openGlView uvcCamera
  | callback encoderCallback => exact projects_untraced _

theorem usb_tracedStep (u : Usb) (usbCall : UsbCall) :
    (tracedStep u usbCall).usb = usbStep u usbCall :=
  (projects_event usbCall.event).after _

end UvcRtmpStream.Streaming
