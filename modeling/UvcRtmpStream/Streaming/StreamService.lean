import UvcRtmpStream.Streaming.USBBase

/-!
# The streaming service

`StreamService.kt`: a service that opens the UVC camera of a USB event, makes an `RtmpUSB` for it,
and streams and records with that object on request.

The state holds every `RtmpUSB` that was made, not only the one in the service's field: the encoders
of an object that was dropped may go on delivering. Methods of an object run on it and on the
devices (`onRtmpUSB`). A call of the service, a USB event or a callback of an encoder is one step
(`serviceStep`).
-/

set_option autoImplicit false
set_option relaxedAutoImplicit false

namespace UvcRtmpStream.Streaming

open UvcRtmpStream.Foundations UvcRtmpStream.Platform UvcRtmpStream.Replay

/-- A size that a camera supports. -/
structure CameraSize where
  width : Int32
  height : Int32
  deriving DecidableEq

/-- The fields of a `StreamService`, and `openGlView` of its companion object. -/
structure StreamService where
  openGlView : Option ℕ
  endpoint : Option String
  rtmpUSB : Option ℕ
  uvcCamera : Option ℕ
  verticalCropEnabled : Bool
  streamBitrateKbps : Int32
  recordingBitrateKbps : Int32
  cameraSize : CameraSize
  streamSize : CameraSize
  recordingSize : CameraSize

/-- The service with all objects and the devices. -/
structure ServiceState where
  service : StreamService
  objects : List USBBase
  devices : Devices

/-- The service after `onCreate`. -/
def StreamService.new (openGlView : Option ℕ) : StreamService where
  openGlView := openGlView
  endpoint := none
  rtmpUSB := none
  uvcCamera := none
  verticalCropEnabled := false
  streamBitrateKbps := 4000
  recordingBitrateKbps := 12000
  cameraSize := ⟨1280, 960⟩
  streamSize := ⟨1280, 720⟩
  recordingSize := ⟨1280, 720⟩

/-- A method of the service. -/
abbrev ServiceM := EStateM JavaException ServiceState

/-- The object in `rtmpUSB`. -/
def ServiceState.current (s : ServiceState) : Option USBBase :=
  s.service.rtmpUSB.bind (s.objects[·]?)

/-- An object with the devices. -/
def ServiceState.usb (s : ServiceState) (object : ℕ) : Option Usb :=
  (s.objects[object]?).map fun base ↦ ⟨base, s.devices⟩

/-- A method of an object. -/
def onObject {α : Type} (object : ℕ) (method : UsbM α) : ServiceM α :=
  zoom (·.usb object)
    (fun u s ↦ { s with objects := s.objects.set object u.base, devices := u.devices })
    .nullPointer method

/-- `rtmpUSB!!` and a method of it. -/
def onRtmpUSB {α : Type} (method : UsbM α) : ServiceM α := do
  let s ← get
  match s.service.rtmpUSB with
  | none => throw .nullPointer
  | some object => onObject object method

/-- `rtmpUSB?.` and a method of it. -/
def withRtmpUSB (method : UsbM Unit) : ServiceM Unit := do
  let s ← get
  whenever s.service.rtmpUSB.isSome (onRtmpUSB method)

/-- A call of a library on the devices. -/
def onDevices (effect : Devices → Devices) : ServiceM Unit :=
  zoom (fun s ↦ some s.devices) (fun devices s ↦ { s with devices := devices }) .nullPointer do
    let _ ← answer
    modify effect

/-! ### Streaming, recording and preview -/

/-- `stopStream`. -/
def StreamService.stopStream (force : Bool) : ServiceM Unit := do
  whenever force (modify fun s ↦ { s with service.endpoint := none })
  let s ← get
  whenever (s.current.any USBBase.streaming) (onRtmpUSB (Streaming.stopStream s.service.uvcCamera))

/-- `stopPreview`. -/
def StreamService.stopPreview : ServiceM Unit := do
  let s ← get
  whenever (s.current.any USBBase.onPreview) (onRtmpUSB (Streaming.stopPreview s.service.uvcCamera))

/-- `startPreview`. -/
def StreamService.startPreview : ServiceM Unit := do
  let s ← get
  withRtmpUSB (Streaming.startPreview s.service.uvcCamera)

/-- `prepareVideo(..) && prepareAudio()`. -/
def prepareEncoders (parameters : VideoParameters) (uvcCamera : Option ℕ) : ServiceM Bool := do
  let video ← onRtmpUSB (prepareVideo parameters uvcCamera)
  if video then onRtmpUSB prepareAudio else pure false

/-- `startStreamRtp`. -/
def StreamService.startStreamRtp (endpoint : String) : ServiceM Bool := do
  let s ← get
  if s.current.any (fun object ↦ !object.streaming) then do
    modify fun s ↦ { s with service.endpoint := some endpoint }
    let width := if s.service.verticalCropEnabled then 720 else s.service.streamSize.width
    let height := if s.service.verticalCropEnabled then 1280 else s.service.streamSize.height
    let fps := if s.service.verticalCropEnabled then 60 else 30
    let bitrate := s.service.streamBitrateKbps * 1024
    let prepared ← prepareEncoders ⟨width, height, fps, bitrate, 0, 2⟩ s.service.uvcCamera
    if prepared then do
      onRtmpUSB (startStream s.service.uvcCamera endpoint)
      pure true
    else pure false
  else pure false

/-- Kotlin's `Char.isWhitespace`. -/
def isKotlinWhitespace (c : Char) : Bool :=
  (9 ≤ c.toNat && c.toNat ≤ 13) || (28 ≤ c.toNat && c.toNat ≤ 32) || c.toNat == 0xa0 ||
    c.toNat == 0x1680 || (0x2000 ≤ c.toNat && c.toNat ≤ 0x200a) || c.toNat == 0x2028 ||
    c.toNat == 0x2029 || c.toNat == 0x202f || c.toNat == 0x205f || c.toNat == 0x3000

/-- `isBlank`: no character but white space. -/
def isBlank (text : String) : Bool := text.toList.all isKotlinWhitespace

/-- `startLocalRecording`. -/
def StreamService.startLocalRecording (outputPath : String) : ServiceM Bool := do
  let s ← get
  if s.service.rtmpUSB.isNone || s.service.uvcCamera.isNone || isBlank outputPath then pure false
  else
    tryCatch
      (do
        let bitrate := s.service.recordingBitrateKbps * 1024
        let prepared ← prepareEncoders
          ⟨s.service.recordingSize.width, s.service.recordingSize.height, 60, bitrate, 0, 2⟩
          s.service.uvcCamera
        if prepared then do
          onRtmpUSB (startRecord s.service.uvcCamera)
          pure true
        else pure false)
      fun _ ↦ pure false

/-- `stopLocalRecording`. Every exception is ignored. -/
def StreamService.stopLocalRecording : ServiceM Unit := do
  let s ← get
  whenever s.service.rtmpUSB.isSome
    (tryCatch (onRtmpUSB (stopRecord s.service.uvcCamera)) fun _ ↦ pure ())

/-! ### The view -/

/-- `setView`, with a view or with a context. -/
def StreamService.setView (view : Option ℕ) : ServiceM Unit := do
  modify fun s ↦ { s with service.openGlView := view }
  let s ← get
  withRtmpUSB (replaceView view s.service.uvcCamera)

/-! ### USB events -/

/-- The GL interface of a new `RtmpUSB`: the view, or an `OffScreenGlThread` when there is none. -/
def newGlInterface : ServiceM ℕ := do
  let s ← get
  match s.service.openGlView with
  | some view => pure view
  | none =>
    onDevices fun devices ↦
      { devices with interfaces := devices.interfaces ++ [⟨true, false, false, false⟩] }
    pure s.devices.interfaces.length

/-- The constructor of `RtmpUSB`. -/
def newRtmpUSB : ServiceM ℕ := do
  let glInterface ← newGlInterface
  onDevices fun devices ↦
    { devices with
      interfaces := devices.interfaces.modify glInterface fun gl ↦ { gl with initialized := true } }
  let s ← get
  modify fun s ↦ { s with objects := s.objects ++ [USBBase.new glInterface] }
  pure s.objects.length

/-- `prepareStreamRtp`. -/
def StreamService.prepareStreamRtp : ServiceM Unit := do
  StreamService.stopStream false
  StreamService.stopPreview
  let object ← newRtmpUSB
  modify fun s ↦ { s with service.rtmpUSB := some object }

/-- `maxBy` on the area, an `Int` product: the first size with the largest one. -/
def largestSize : List CameraSize → Option CameraSize
  | [] => none
  | size :: sizes => some (sizes.foldl
      (fun best size ↦ if best.width * best.height < size.width * size.height then size else best)
      size)

/-- A call on a camera. -/
def onUvcCamera (camera : ℕ) (effect : UVCCamera → UVCCamera) : ServiceM Unit :=
  onDevices fun devices ↦ { devices with cameras := devices.cameras.modify camera effect }

/-- `UVCCamera.open`: the control block is a clone, if that can be made, and stays set where the
native call that connects fails. -/
def openUvcCamera (camera : ℕ) : ServiceM Unit := do
  onUvcCamera camera UVCCamera.openCamera
  onUvcCamera camera id

/-- `UVCCamera.setPreviewSize`: an `IllegalArgumentException` for an empty size, and whatever the
native call makes of it while there is a native pointer. -/
def setPreviewSize (camera : ℕ) (size : CameraSize) : ServiceM Unit := do
  let s ← get
  if size.width = 0 ∨ size.height = 0 then throw .illegalArgument
  else whenever ((s.devices.cameras[camera]?).any UVCCamera.nativePtr) (onUvcCamera camera id)

/-- The part of `onConnect` that chooses the preview size, the largest supported one. On an
`IllegalArgumentException` the camera is destroyed and another preview mode is tried. Whether the
camera is to be used. -/
def choosePreviewSize (camera : ℕ) (supportedSizes : List CameraSize) : ServiceM Bool :=
  tryCatch
    (do
      match largestSize supportedSizes with
      | none => throw .noSuchElement
      | some size => do
        modify fun s ↦
          { s with
            service.cameraSize := size
            service.streamSize := size
            service.recordingSize := size }
        setPreviewSize camera size
        pure true)
    fun exception ↦
      if exception = .illegalArgument then do
        onUvcCamera camera UVCCamera.destroy
        let s ← get
        tryCatch
          (do
            setPreviewSize camera s.service.cameraSize
            pure true)
          fun exception ↦
            if exception = .illegalArgument then pure false else throw exception
      else throw exception

/-- `onConnect`. -/
def StreamService.onConnect (supportedSizes : List CameraSize) : ServiceM Unit := do
  let s ← get
  let camera := s.devices.cameras.length
  onDevices fun devices ↦ { devices with cameras := devices.cameras ++ [UVCCamera.new] }
  openUvcCamera camera
  let usable ← choosePreviewSize camera supportedSizes
  whenever usable do
    modify fun s ↦ { s with service.uvcCamera := some camera }
    StreamService.prepareStreamRtp
    onRtmpUSB (Streaming.startPreview (some camera))
    let s ← get
    match s.service.endpoint with
    | none => pure ()
    | some endpoint => do
      let _ ← StreamService.startStreamRtp endpoint

/-- `uvcCamera?.destroy()`. -/
def destroyCamera : ServiceM Unit := do
  let s ← get
  match s.service.uvcCamera with
  | none => pure ()
  | some camera => onUvcCamera camera UVCCamera.destroy

/-- `onDestroy`. -/
def StreamService.onDestroy : ServiceM Unit := do
  StreamService.stopStream false
  StreamService.stopLocalRecording
  onDevices id -- usbMonitor.unregister
  destroyCamera

/-! ### The machine -/

/-- A call of the service, a USB event, or a callback of an encoder of some object. -/
inductive ServiceEvent
  | onConnect (supportedSizes : List CameraSize)
  | onDisconnect
  | onDettach
  | startStreamRtp (endpoint : String)
  | stopStream (force : Bool)
  | startLocalRecording (outputPath : String)
  | stopLocalRecording
  | setVerticalCropEnabled (enabled : Bool)
  | setView (view : Option ℕ)
  | startPreview
  | stopPreview
  | onDestroy
  | callback (object : ℕ) (encoderCallback : EncoderCallback)

/-- The method that an event runs. -/
def ServiceEvent.method : ServiceEvent → ServiceM Unit
  | .onConnect supportedSizes => StreamService.onConnect supportedSizes
  | .onDisconnect => StreamService.stopStream false
  | .onDettach => StreamService.stopStream false
  | .startStreamRtp endpoint => do
    let _ ← StreamService.startStreamRtp endpoint
  | .stopStream force => StreamService.stopStream force
  | .startLocalRecording outputPath => do
    let _ ← StreamService.startLocalRecording outputPath
  | .stopLocalRecording => StreamService.stopLocalRecording
  | .setVerticalCropEnabled enabled =>
    modify fun s ↦ { s with service.verticalCropEnabled := enabled }
  | .setView view => StreamService.setView view
  | .startPreview => StreamService.startPreview
  | .stopPreview => StreamService.stopPreview
  | .onDestroy => StreamService.onDestroy
  | .callback object encoderCallback => onObject object encoderCallback.method

/-- An event, with the outcomes of the calls it makes. -/
structure ServiceCall where
  event : ServiceEvent
  outcomes : List Outcome

/-- The state after an event, whether the method returned or threw. -/
def serviceStep (s : ServiceState) (serviceCall : ServiceCall) : ServiceState :=
  after serviceCall.event.method { s with devices.outcomes := serviceCall.outcomes }

/-- A new service, with the devices as they are and no muxer. -/
def ServiceState.initial (openGlView : Option ℕ) (devices : Devices) : ServiceState :=
  ⟨StreamService.new openGlView, [], { devices with muxers := [], writes := [] }⟩

end UvcRtmpStream.Streaming
