import UvcRtmpStream.Foundations.Runs
import UvcRtmpStream.Streaming.Devices

/-!
# One streaming and recording session

`USBBase.java`, with the parts of `RtmpUSB.java` that it calls: one object with its encoders, its
microphone, its RTMP client and a GL interface, which streams and records what the encoders deliver.

A method is a program on the object and the devices (`UsbM`). Every call of a library takes the next
outcome, so every one of them may throw, and an exception leaves the method where it was thrown. A
call of a method is one step (`usbStep`); so is a callback of an encoder, which the library makes on
its own thread.
-/

set_option autoImplicit false
set_option relaxedAutoImplicit false

namespace UvcRtmpStream.Streaming

open UvcRtmpStream.Foundations UvcRtmpStream.Platform UvcRtmpStream.Replay

/-- What `prepareVideoEncoder` is given. -/
structure VideoParameters where
  width : Int32
  height : Int32
  fps : Int32
  bitRate : Int32
  rotation : Int32
  iFrameInterval : Int32
  deriving DecidableEq

/-- `VideoEncoder`: whether it runs, the parameters it was last prepared with, and those it encodes
with since its last `start` or `reset`. -/
structure VideoEncoder where
  running : Bool
  parameters : Option VideoParameters
  encoding : Option VideoParameters
  deriving DecidableEq

/-- A call on the `RtmpClient`. -/
inductive RtmpCall
  | setAudioInfo (sampleRate : Int32) (isStereo : Bool)
  | setVideoResolution (size : Option (Int32 × Int32))
  | connect (url : String)
  | disconnect
  | setVideoInfo
  | sendVideo (h264Buffer : ByteBuffer) (info : BufferInfo)
  | sendAudio (aacBuffer : ByteBuffer) (info : BufferInfo)
  deriving DecidableEq

/-- The fields of a `USBBase`. The RTMP client, a field of `RtmpUSB`, is the list of the calls it
received. -/
structure USBBase where
  videoEncoder : VideoEncoder
  audioEncoderRunning : Bool
  microphoneRunning : Bool
  glInterface : ℕ
  streaming : Bool
  mediaMuxer : Option ℕ
  videoTrack : ℤ
  audioTrack : ℤ
  recording : Bool
  canRecord : Bool
  onPreview : Bool
  videoFormat : Option MediaFormat
  audioFormat : Option MediaFormat
  rtmpClient : List RtmpCall

/-- The fields after a constructor. -/
def USBBase.new (glInterface : ℕ) : USBBase where
  videoEncoder := ⟨false, none, none⟩
  audioEncoderRunning := false
  microphoneRunning := false
  glInterface := glInterface
  streaming := false
  mediaMuxer := none
  videoTrack := -1
  audioTrack := -1
  recording := false
  canRecord := false
  onPreview := false
  videoFormat := none
  audioFormat := none
  rtmpClient := []

/-- An object and the devices. -/
structure Usb where
  base : USBBase
  devices : Devices

/-- A method of the object. -/
abbrev UsbM := EStateM JavaException Usb

/-! ### Calls on the devices -/

/-- The next outcome. -/
def nextAnswer : UsbM Bool :=
  zoom (fun u ↦ some u.devices) (fun devices u ↦ { u with devices := devices }) .nullPointer answer

/-- A call of a library, with its effect when it returns. -/
def call (effect : Usb → Usb) : UsbM Unit := do
  let _ ← nextAnswer
  modify effect

/-- A call of a library that returns a `boolean`. -/
def ask (effect : Usb → Usb) : UsbM Bool := do
  let value ← nextAnswer
  modify effect
  pure value

/-- A call on the video encoder. -/
def onVideoEncoder (effect : VideoEncoder → VideoEncoder) : UsbM Unit :=
  call fun u ↦ { u with base.videoEncoder := effect u.base.videoEncoder }

/-- A call on the GL interface. -/
def onGl (effect : GlInterface → GlInterface) : UsbM Unit :=
  call fun u ↦
    { u with devices.interfaces := u.devices.interfaces.modify u.base.glInterface effect }

/-- A call on a camera that may be null. -/
def onCamera (uvcCamera : Option ℕ) (effect : UVCCamera → UVCCamera) : UsbM Unit :=
  match uvcCamera with
  | none => throw .nullPointer
  | some camera => call fun u ↦ { u with devices.cameras := u.devices.cameras.modify camera effect }

/-- A call on the `RtmpClient`. -/
def onRtmp (rtmpCall : RtmpCall) : UsbM Unit :=
  call fun u ↦ { u with base.rtmpClient := u.base.rtmpClient ++ [rtmpCall] }

/-- `glInterface instanceof OffScreenGlThread`. -/
def Usb.offScreen (u : Usb) : Bool :=
  (u.devices.interfaces[u.base.glInterface]?).any GlInterface.offScreen

/-- The muxer that `mediaMuxer` refers to. -/
def Usb.muxer (u : Usb) : Option MediaMuxer := u.base.mediaMuxer.bind (u.devices.muxers[·]?)

/-- A call on `mediaMuxer`, which throws out of order. -/
def onMuxer {α : Type} (operation : MediaMuxer → Except JavaException (α × MediaMuxer)) :
    UsbM α := do
  let u ← get
  match u.base.mediaMuxer, u.muxer with
  | some index, some muxer =>
    let _ ← nextAnswer
    match operation muxer with
    | .error exception => throw exception
    | .ok (value, muxer) =>
      modify fun u ↦ { u with devices.muxers := u.devices.muxers.set index muxer }
      pure value
  | _, _ => throw .nullPointer

/-- `mediaMuxer.stop()`, which counts as called also when it throws. -/
def stopMuxer : UsbM Unit := do
  modify fun u ↦
    { u with
      devices.muxers := match u.base.mediaMuxer with
        | none => u.devices.muxers
        | some index => u.devices.muxers.modify index MediaMuxer.stopFailed }
  onMuxer fun muxer ↦ .ok ((), muxer.stop)

/-- `mediaMuxer.writeSampleData`. -/
def writeSampleData (track : ℤ) (buffer : ByteBuffer) (info : BufferInfo) : UsbM Unit := do
  modify fun u ↦ { u with devices.writes := u.devices.writes ++ [⟨u.muxer, track, buffer, info⟩] }
  onMuxer fun muxer ↦
    (muxer.writeSampleData track (sampleOf buffer info)).map fun written ↦ ((), written)

/-! ### Preview and encoders -/

/-- `startPreview`. -/
def startPreview (uvcCamera : Option ℕ) : UsbM Unit := do
  let u ← get
  whenever (!u.base.streaming && !u.base.onPreview && !u.offScreen) do
    onGl id -- setEncoderSize
    onGl id -- setRotation
    onGl fun gl ↦ { gl with started := true }
    onCamera uvcCamera id -- setPreviewTexture
    onCamera uvcCamera UVCCamera.startPreview
    modify fun u ↦ { u with base.onPreview := true }

/-- `stopPreview`. -/
def stopPreview (uvcCamera : Option ℕ) : UsbM Unit := do
  let u ← get
  whenever (!u.base.streaming && u.base.onPreview && !u.offScreen) do
    onGl fun gl ↦ { gl with started := false }
    onCamera uvcCamera UVCCamera.stopPreview
    modify fun u ↦ { u with base.onPreview := false }

/-- `prepareVideo`. -/
def prepareVideo (parameters : VideoParameters) (uvcCamera : Option ℕ) : UsbM Bool := do
  let u ← get
  whenever u.base.onPreview do
    stopPreview uvcCamera
    modify fun u ↦ { u with base.onPreview := true }
  ask fun u ↦ { u with base.videoEncoder.parameters := some parameters }

/-- `prepareAudio` with its default values. -/
def prepareAudio : UsbM Bool := do
  call id -- createMicrophone
  onRtmp (.setAudioInfo 32000 true)
  ask id -- prepareAudioEncoder

/-- `startEncoders`. -/
def startEncoders (uvcCamera : Option ℕ) : UsbM Unit := do
  onVideoEncoder fun encoder ↦
    { encoder with running := true, encoding := encoder.parameters }
  call fun u ↦ { u with base.audioEncoderRunning := true }
  call fun u ↦ { u with base.microphoneRunning := true }
  onCamera uvcCamera UVCCamera.stopPreview
  onGl fun gl ↦ { gl with started := false }
  onGl id -- setEncoderSize
  onGl id -- setRotation
  onGl fun gl ↦ { gl with started := true }
  onCamera uvcCamera id -- setPreviewTexture
  onCamera uvcCamera UVCCamera.startPreview
  let hasInputSurface ← ask id
  whenever hasInputSurface (onGl fun gl ↦ { gl with codecSurface := true })
  modify fun u ↦ { u with base.onPreview := true }

/-- `resetVideoEncoder`. -/
def resetVideoEncoder : UsbM Unit := do
  onGl fun gl ↦ { gl with codecSurface := false }
  onVideoEncoder fun encoder ↦ { encoder with encoding := encoder.parameters }
  onGl fun gl ↦ { gl with codecSurface := true }

/-! ### Streaming and recording -/

/-- `RtmpUSB.startStreamRtp`. -/
def startStreamRtp (url : String) : UsbM Unit := do
  let u ← get
  onRtmp (.setVideoResolution (u.base.videoEncoder.parameters.map fun parameters ↦
    if parameters.rotation = 90 ∨ parameters.rotation = 270 then
      (parameters.height, parameters.width)
    else (parameters.width, parameters.height)))
  onRtmp (.connect url)

/-- `startStream`. -/
def startStream (uvcCamera : Option ℕ) (url : String) : UsbM Unit := do
  modify fun u ↦ { u with base.streaming := true }
  let u ← get
  (if !u.base.recording then startEncoders uvcCamera else resetVideoEncoder)
  startStreamRtp url
  modify fun u ↦ { u with base.onPreview := true }

/-- `stopStream`. -/
def stopStream (uvcCamera : Option ℕ) : UsbM Unit := do
  let u ← get
  whenever u.base.streaming do
    modify fun u ↦ { u with base.streaming := false }
    onRtmp .disconnect
  whenever (!u.base.recording) do
    call fun u ↦ { u with base.microphoneRunning := false }
    onGl fun gl ↦ { gl with codecSurface := false }
    whenever u.offScreen do
      onGl fun gl ↦ { gl with started := false }
      onCamera uvcCamera UVCCamera.stopPreview
    onVideoEncoder fun encoder ↦ { encoder with running := false }
    call fun u ↦ { u with base.audioEncoderRunning := false }
    modify fun u ↦ { u with base.videoFormat := none, base.audioFormat := none }

/-- `new MediaMuxer` in `mediaMuxer`. -/
def createMuxer : UsbM Unit :=
  call fun u ↦
    { u with
      base.mediaMuxer := some u.devices.muxers.length
      devices.muxers := u.devices.muxers ++ [MediaMuxer.new] }

/-- `startRecord`. -/
def startRecord (uvcCamera : Option ℕ) : UsbM Unit := do
  createMuxer
  modify fun u ↦ { u with base.recording := true }
  let u ← get
  if !u.base.streaming then startEncoders uvcCamera
  else whenever u.base.videoEncoder.running resetVideoEncoder

/-- `stopRecord`. -/
def stopRecord (uvcCamera : Option ℕ) : UsbM Unit := do
  modify fun u ↦ { u with base.recording := false }
  let u ← get
  whenever u.base.mediaMuxer.isSome do
    whenever u.base.canRecord do
      stopMuxer
      onMuxer fun muxer ↦ .ok ((), muxer.release)
      modify fun u ↦ { u with base.canRecord := false }
    modify fun u ↦ { u with base.mediaMuxer := none }
  modify fun u ↦ { u with base.videoTrack := -1, base.audioTrack := -1 }
  whenever (!u.base.streaming) (stopStream uvcCamera)

/-! ### Callbacks of the encoders -/

/-- The tracks are added and the muxer is started. -/
def beginRecording (videoFormat audioFormat : Option MediaFormat) : UsbM Unit := do
  let videoTrack ← onMuxer (MediaMuxer.addTrack · videoFormat)
  modify fun u ↦ { u with base.videoTrack := videoTrack }
  let audioTrack ← onMuxer (MediaMuxer.addTrack · audioFormat)
  modify fun u ↦ { u with base.audioTrack := audioTrack }
  onMuxer fun muxer ↦ muxer.start.map fun started ↦ ((), started)
  modify fun u ↦ { u with base.canRecord := true }

/-- `ReplayHolder.writeFrame` in its `try`: the frame's buffer as it is left. -/
def writeReplayFrame (now : ℕ) (h264Buffer : ByteBuffer) (info : BufferInfo) (fault : SinkFault) :
    UsbM ByteBuffer := do
  let u ← get
  let written := u.devices.replay.writeFrame now h264Buffer info fault
  modify fun u ↦ { u with devices.replay := written.2 }
  pure written.1

/-- `getVideoData`. -/
def getVideoData (now : ℕ) (h264Buffer : ByteBuffer) (info : BufferInfo) (fault : SinkFault) :
    UsbM Unit := do
  let h264Buffer ← writeReplayFrame now h264Buffer info fault
  let u ← get
  whenever u.base.recording do
    whenever (info.flags == BUFFER_FLAG_KEY_FRAME && !u.base.canRecord &&
        u.base.videoFormat.isSome && u.base.audioFormat.isSome)
      (beginRecording u.base.videoFormat u.base.audioFormat)
    let u ← get
    whenever u.base.canRecord (writeSampleData u.base.videoTrack h264Buffer info)
  whenever u.base.streaming (onRtmp (.sendVideo h264Buffer info))

/-- `getAacData`. -/
def getAacData (aacBuffer : ByteBuffer) (info : BufferInfo) : UsbM Unit := do
  let u ← get
  whenever (u.base.recording && u.base.canRecord)
    (writeSampleData u.base.audioTrack aacBuffer info)
  whenever u.base.streaming (onRtmp (.sendAudio aacBuffer info))

/-- `onSpsPpsVps`. -/
def onSpsPpsVps : UsbM Unit := do
  let u ← get
  whenever u.base.streaming (onRtmp .setVideoInfo)

/-- `onVideoFormat`. -/
def onVideoFormat (mediaFormat : MediaFormat) : UsbM Unit :=
  modify fun u ↦ { u with base.videoFormat := some mediaFormat }

/-- `onAudioFormat`. -/
def onAudioFormat (mediaFormat : MediaFormat) : UsbM Unit :=
  modify fun u ↦ { u with base.audioFormat := some mediaFormat }

/-! ### The view -/

/-- `replaceGlInterface`. -/
def replaceGlInterface (glInterface : ℕ) (uvcCamera : Option ℕ) : UsbM Unit := do
  let u ← get
  if u.base.streaming || u.base.recording || u.base.onPreview then do
    onCamera uvcCamera UVCCamera.stopPreview
    onGl fun gl ↦ { gl with codecSurface := false }
    onGl fun gl ↦ { gl with started := false }
    modify fun u ↦ { u with base.glInterface := glInterface }
    onGl fun gl ↦ { gl with initialized := true }
    onGl id -- setEncoderSize
    onGl id -- setRotation
    onGl fun gl ↦ { gl with started := true }
    whenever (u.base.streaming || u.base.recording)
      (onGl fun gl ↦ { gl with codecSurface := true })
    onCamera uvcCamera id -- setPreviewTexture
    onCamera uvcCamera UVCCamera.startPreview
  else modify fun u ↦ { u with base.glInterface := glInterface }

/-- `replaceView`: with a view on the screen, or with a context, for which an `OffScreenGlThread` is
made. -/
def replaceView (openGlView uvcCamera : Option ℕ) : UsbM Unit := do
  match openGlView with
  | some view => replaceGlInterface view uvcCamera
  | none =>
    let u ← get
    call fun u ↦
      { u with devices.interfaces := u.devices.interfaces ++ [⟨true, false, false, false⟩] }
    replaceGlInterface u.devices.interfaces.length uvcCamera

/-! ### The machine -/

/-- A callback of an encoder. -/
inductive EncoderCallback
  | getVideoData (now : ℕ) (h264Buffer : ByteBuffer) (info : BufferInfo) (fault : SinkFault)
  | getAacData (aacBuffer : ByteBuffer) (info : BufferInfo)
  | onSpsPpsVps
  | onVideoFormat (mediaFormat : MediaFormat)
  | onAudioFormat (mediaFormat : MediaFormat)

/-- The method that a callback runs. -/
def EncoderCallback.method : EncoderCallback → UsbM Unit
  | .getVideoData now h264Buffer info fault => Streaming.getVideoData now h264Buffer info fault
  | .getAacData aacBuffer info => Streaming.getAacData aacBuffer info
  | .onSpsPpsVps => Streaming.onSpsPpsVps
  | .onVideoFormat mediaFormat => Streaming.onVideoFormat mediaFormat
  | .onAudioFormat mediaFormat => Streaming.onAudioFormat mediaFormat

/-- A call of a method, or a callback. -/
inductive UsbEvent
  | prepareVideo (parameters : VideoParameters) (uvcCamera : Option ℕ)
  | prepareAudio
  | startPreview (uvcCamera : Option ℕ)
  | stopPreview (uvcCamera : Option ℕ)
  | startStream (uvcCamera : Option ℕ) (url : String)
  | stopStream (uvcCamera : Option ℕ)
  | startRecord (uvcCamera : Option ℕ)
  | stopRecord (uvcCamera : Option ℕ)
  | replaceView (openGlView uvcCamera : Option ℕ)
  | callback (encoderCallback : EncoderCallback)

/-- The method that an event runs. -/
def UsbEvent.method : UsbEvent → UsbM Unit
  | .prepareVideo parameters uvcCamera => do
    let _ ← Streaming.prepareVideo parameters uvcCamera
  | .prepareAudio => do
    let _ ← Streaming.prepareAudio
  | .startPreview uvcCamera => Streaming.startPreview uvcCamera
  | .stopPreview uvcCamera => Streaming.stopPreview uvcCamera
  | .startStream uvcCamera url => Streaming.startStream uvcCamera url
  | .stopStream uvcCamera => Streaming.stopStream uvcCamera
  | .startRecord uvcCamera => Streaming.startRecord uvcCamera
  | .stopRecord uvcCamera => Streaming.stopRecord uvcCamera
  | .replaceView openGlView uvcCamera => Streaming.replaceView openGlView uvcCamera
  | .callback encoderCallback => encoderCallback.method

/-- An event, with the outcomes of the calls it makes. -/
structure UsbCall where
  event : UsbEvent
  outcomes : List Outcome

/-- The state after an event, whether the method returned or threw. -/
def usbStep (u : Usb) (usbCall : UsbCall) : Usb :=
  after usbCall.event.method { u with devices.outcomes := usbCall.outcomes }

/-- A new object. -/
def Usb.initial (glInterface : ℕ) (devices : Devices) : Usb :=
  ⟨USBBase.new glInterface, { devices with writes := [] }⟩

end UvcRtmpStream.Streaming
