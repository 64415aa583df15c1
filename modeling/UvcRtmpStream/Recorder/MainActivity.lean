import UvcRtmpStream.Foundations.Runs
import UvcRtmpStream.Platform.MediaMuxer
import Mathlib.Algebra.Order.Ring.Int

/-!
# The recorder activity

`MainActivity.java`: an activity that opens a camera, previews it on a texture, encodes it on
request, keeps the encoded frames of the last two minutes in a queue, and muxes the frames of a
recording as they come and those of a clip from the queue.

The state is the activity's fields, the objects they refer to by number, and what the platform
decides: whether the texture is available, which camera requests are unanswered, which devices are
open. A handler of the UI thread or of a codec callback is one step (`recorderStep`). The thread
that `saveReplayClip` starts takes steps of its own, because it reads a shared field later. What can
fail is an argument of the step. An exception that is not caught leaves the handler where it was
thrown.

The queue is filled by one encoder whose input is a surface: its timestamps are nanoseconds in a
`long`, divided by 1000 (`CodecOutput`).
-/

set_option autoImplicit false
set_option relaxedAutoImplicit false

namespace UvcRtmpStream.Recorder

open UvcRtmpStream.Foundations UvcRtmpStream.Platform

/-- `MAX_REPLAY_US`. -/
def MAX_REPLAY_US : Int64 := 120000000

/-- `EncodedFrame`. The `source` is no field of the class and no modelled code reads it: it records
the codec that delivered the frame. -/
structure EncodedFrame where
  data : List UInt8
  presentationTimeUs : Int64
  flags : Int32
  source : ℕ
  deriving DecidableEq

/-- What a codec hands to `onOutputBufferAvailable`: the result of `getOutputBuffer` and the info,
which describes a part of the buffer and carries a surface timestamp. -/
structure CodecOutput where
  buffer : Option ByteBuffer
  info : BufferInfo
  offset_nonneg : 0 ≤ info.offset.toInt
  size_nonneg : 0 ≤ info.size.toInt
  end_le_limit : ∀ outputBuffer ∈ buffer, info.offset.toInt + info.size.toInt ≤ outputBuffer.limit
  timestamp_ge : -2 ^ 63 / 1000 ≤ info.presentationTimeUs.toInt
  timestamp_le : info.presentationTimeUs.toInt ≤ 2 ^ 63 / 1000

/-- A codec's output of one byte, at a whole second. -/
def CodecOutput.oneByte (byte second : UInt8) (flags : Int32) : CodecOutput where
  buffer := some (ByteBuffer.wrap [byte])
  info := ⟨0, 1, Int64.ofNat (second.toNat * 1000000), flags⟩
  offset_nonneg := le_refl _
  size_nonneg := Int.one_nonneg
  end_le_limit := by
    intro outputBuffer hbuffer
    obtain rfl := Option.some.inj hbuffer
    exact le_refl _
  timestamp_ge := by
    have hsecond := second.toNat_lt
    rw [Int64.toInt_ofNat_of_lt (by omega)]
    omega
  timestamp_le := by
    have hsecond := second.toNat_lt
    rw [Int64.toInt_ofNat_of_lt (by omega)]
    omega

/-- Where the thread of a clip is. -/
inductive ClipStage
  | created
  /-- The muxer has the track and is started. -/
  | tracked (muxer : MediaMuxer) (track : ℤ)
  | finished (muxer : MediaMuxer)
  | failed
  deriving DecidableEq

/-- The thread that `saveReplayClip` starts, with the frames it was given. The format that the UI
thread found in `outputFormat` is not passed to it, and is only recorded here. -/
structure ClipWorker where
  seconds : Int32
  frames : List EncodedFrame
  checkedFormat : MediaFormat
  stage : ClipStage

/-- A capture session that was requested, with its surfaces. -/
structure RequestedSession where
  surfaces : List ℕ
  useEncoderSurface : Bool
  deriving DecidableEq

/-- Where the activity is between `onResume` and `onPause`. -/
inductive Lifecycle
  | created
  | resumed
  | paused
  deriving DecidableEq

/-- The activity and its platform. From `permission` on the fields are the platform's. Surfaces and
codecs are numbered by `nextHandle`, sessions and muxers by their place in the lists. -/
structure MainActivity where
  cameraDevice : Option ℕ
  captureSession : Option ℕ
  previewSurface : Option ℕ
  videoEncoder : Option ℕ
  encoderSurface : Option ℕ
  mediaMuxer : Option ℕ
  outputFormat : Option MediaFormat
  videoTrackIndex : ℤ
  muxerStarted : Bool
  recordingActive : Bool
  replayQueue : List EncodedFrame
  lastFrameTimeUs : Int64
  permission : Bool
  textureAvailable : Bool
  lifecycle : Lifecycle
  /-- Accepted `openCamera` requests without an answer. -/
  pendingOpens : ℕ
  /-- Devices that were opened and not closed. -/
  openDevices : List ℕ
  nextHandle : ℕ
  /-- Codecs on which `start` succeeded and `stop` was not called. -/
  runningCodecs : List ℕ
  /-- Every `onOutputFormatChanged` so far: the codec and its format. -/
  announced : List (ℕ × MediaFormat)
  sessions : List RequestedSession
  muxers : List MediaMuxer
  workers : List ClipWorker

/-- The activity after `onCreate`. -/
def MainActivity.initial : MainActivity where
  cameraDevice := none
  captureSession := none
  previewSurface := none
  videoEncoder := none
  encoderSurface := none
  mediaMuxer := none
  outputFormat := none
  videoTrackIndex := -1
  muxerStarted := false
  recordingActive := false
  replayQueue := []
  lastFrameTimeUs := 0
  permission := false
  textureAvailable := false
  lifecycle := .created
  pendingOpens := 0
  openDevices := []
  nextHandle := 0
  runningCodecs := []
  announced := []
  sessions := []
  muxers := []
  workers := []

/-- The state a handler leaves, and the exception that left it. -/
abbrev Handled := Option JavaException × MainActivity

/-- The code after a call, which does not run when the call threw. -/
def Handled.andThen (handled : Handled) (rest : MainActivity → Handled) : Handled :=
  match handled with
  | (some exception, s) => (some exception, s)
  | (none, s) => rest s

/-! ### Camera and preview -/

/-- `startPreviewSession`. A `CameraAccessException` is caught. -/
def startPreviewSession (s : MainActivity) (useEncoderSurface sessionFails : Bool) : MainActivity :=
  match s.cameraDevice, s.previewSurface with
  | some _, some previewSurface =>
    let surfaces := previewSurface :: if useEncoderSurface then s.encoderSurface.toList else []
    { s with
      captureSession := none
      sessions := if sessionFails then s.sessions
        else s.sessions ++ [⟨surfaces, useEncoderSurface⟩] }
  | _, _ => s

/-- The targets that `onConfigured` adds to the capture request, from the fields at that moment. -/
def requestTargets (s : MainActivity) (session : RequestedSession) :
    Except JavaException (List ℕ) :=
  match s.cameraDevice, s.previewSurface with
  | some _, some previewSurface =>
    .ok (previewSurface :: if session.useEncoderSurface then s.encoderSurface.toList else [])
  | _, _ => .error .nullPointer

/-- `openCamera`. Without the permission it is requested instead. Otherwise the camera manager
accepts the request, or there is none, or no suitable camera, or an exception that is caught. -/
def openCamera (s : MainActivity) (accepted : Bool) : MainActivity :=
  if s.permission && accepted then { s with pendingOpens := s.pendingOpens + 1 } else s

/-- `CameraDevice.close`. -/
def closeDevice (s : MainActivity) (camera : ℕ) : MainActivity :=
  { s with openDevices := s.openDevices.filter fun device ↦ decide (device ≠ camera) }

/-! ### Encoder and recording -/

/-- What fails while an encoder is prepared. `createFails` is the `IOException` of
`createEncoderByType`; the others are exceptions that are not caught. `startFails` is `setCallback`
or `start`, which leave the same. -/
inductive EncoderFault
  | none
  | createFails
  | createThrows
  | configureFails
  | inputSurfaceFails
  | startFails
  deriving DecidableEq

/-- `prepareEncoder`. -/
def prepareEncoder (s : MainActivity) (fault : EncoderFault) : Handled :=
  if s.videoEncoder.isSome then (none, s)
  else
    let codec := s.nextHandle
    let s := { s with nextHandle := s.nextHandle + 1 }
    match fault with
    | .createFails => (none, { s with videoEncoder := none, encoderSurface := none })
    | .createThrows => (some .codecException, s)
    | .configureFails => (some .codecException, { s with videoEncoder := some codec })
    | .inputSurfaceFails => (some .illegalState, { s with videoEncoder := some codec })
    | .startFails =>
      (some .codecException, { s with videoEncoder := some codec, encoderSurface := some codec })
    | .none =>
      (none, { s with
        videoEncoder := some codec
        encoderSurface := some codec
        runningCodecs := s.runningCodecs ++ [codec] })

/-- What fails while a muxer is prepared. Only the constructor throws an `IOException`. -/
inductive MuxerFault
  | none
  | createFails
  | addTrackFails
  | startFails
  deriving DecidableEq

/-- `prepareMuxer`. -/
def prepareMuxer (s : MainActivity) (fault : MuxerFault) : Handled :=
  match s.mediaMuxer, s.outputFormat with
  | none, some format =>
    match fault with
    | .createFails => (none, s)
    | .addTrackFails =>
      (some .illegalState, { s with
        mediaMuxer := some s.muxers.length
        muxers := s.muxers ++ [MediaMuxer.new] })
    | .startFails =>
      (some .illegalState, { s with
        mediaMuxer := some s.muxers.length
        videoTrackIndex := 0
        muxers := s.muxers ++ [⟨[format], false, false, false, false, []⟩] })
    | .none =>
      (none, { s with
        mediaMuxer := some s.muxers.length
        videoTrackIndex := 0
        muxerStarted := true
        muxers := s.muxers ++ [MediaMuxer.newStarted format] })
  | _, _ => (none, s)

/-- `startRecording`. -/
def startRecording (s : MainActivity) (encoderFault : EncoderFault) (muxerFault : MuxerFault)
    (sessionFails : Bool) : Handled :=
  if !s.permission then (none, s)
  else if s.cameraDevice.isNone then (none, s)
  else if s.recordingActive then (none, s)
  else
    ((prepareEncoder { s with recordingActive := true } encoderFault).andThen fun s ↦
      if s.outputFormat.isSome then prepareMuxer s muxerFault else (none, s)).andThen fun s ↦
        (none, startPreviewSession s true sessionFails)

/-- `releaseEncoder`. An `IllegalStateException` of `stop` is ignored. -/
def releaseEncoder (s : MainActivity) : MainActivity :=
  { s with
    videoEncoder := none
    encoderSurface := none
    outputFormat := none
    runningCodecs := s.runningCodecs.filter fun codec ↦ decide (s.videoEncoder ≠ some codec) }

/-- The part of `stopRecording` that stops, releases and forgets the muxer. An
`IllegalStateException` of `stop` is ignored, and is not told from a return. -/
def stopMuxer (s : MainActivity) : MainActivity :=
  match s.mediaMuxer with
  | none => s
  | some muxer =>
    { s with
      muxers := s.muxers.modify muxer fun muxer ↦
        (if s.muxerStarted then muxer.stop else muxer).release
      mediaMuxer := none }

/-- `stopRecording`. -/
def stopRecording (s : MainActivity) (sessionFails : Bool) : MainActivity :=
  if !s.recordingActive then s
  else
    let s := { s with recordingActive := false }
    let s := startPreviewSession s false sessionFails
    let s := stopMuxer s
    releaseEncoder { s with muxerStarted := false, videoTrackIndex := -1 }

/-- The part of `closeCamera` that closes the session and the device and releases the surface. -/
def closePreview (s : MainActivity) : MainActivity :=
  let s := { s with captureSession := none }
  let s := match s.cameraDevice with
    | none => s
    | some camera => { closeDevice s camera with cameraDevice := none }
  { s with previewSurface := none }

/-- `closeCamera`. -/
def closeCamera (s : MainActivity) : MainActivity := stopRecording (closePreview s) false

/-! ### Codec callbacks -/

/-- The bytes that `onOutputBufferAvailable` copies out of a duplicate of the buffer. -/
def copyFrame (outputBuffer : ByteBuffer) (info : BufferInfo) :
    Except JavaException (List UInt8) :=
  match outputBuffer.setPosition info.offset.toInt with
  | .error exception => .error exception
  | .ok copyBuffer =>
    match copyBuffer.setLimit (info.offset.toInt + info.size.toInt) with
    | .error exception => .error exception
    | .ok copyBuffer =>
      match copyBuffer.get info.size.toInt.toNat with
      | .error exception => .error exception
      | .ok (data, _) => .ok data

/-- `storeReplayFrame`. -/
def storeReplayFrame (s : MainActivity) (bytes : List UInt8) (presentationTimeUs : Int64)
    (flags : Int32) (source : ℕ) : MainActivity :=
  if bytes.isEmpty then s
  else
    let frame : EncodedFrame := ⟨bytes, presentationTimeUs, flags, source⟩
    { s with
      lastFrameTimeUs := presentationTimeUs
      replayQueue := (s.replayQueue ++ [frame]).dropWhile fun oldest ↦
        decide (presentationTimeUs - oldest.presentationTimeUs > MAX_REPLAY_US) }

/-- The position and the limit that `onOutputBufferAvailable` sets before the write. -/
def delimitFrame (outputBuffer : ByteBuffer) (info : BufferInfo) :
    Except JavaException ByteBuffer :=
  match outputBuffer.setPosition info.offset.toInt with
  | .error exception => .error exception
  | .ok outputBuffer => outputBuffer.setLimit (info.offset.toInt + info.size.toInt)

/-- The write of `onOutputBufferAvailable` to the recording's muxer. -/
def writeRecordedFrame (s : MainActivity) (outputBuffer : ByteBuffer) (info : BufferInfo) :
    Handled :=
  match s.mediaMuxer with
  | none => (none, s)
  | some muxer =>
    if s.recordingActive && s.muxerStarted then
      match delimitFrame outputBuffer info with
      | .error exception => (some exception, s)
      | .ok outputBuffer =>
        match (s.muxers[muxer]?.getD MediaMuxer.new).writeSampleData s.videoTrackIndex
            (sampleOf outputBuffer info) with
        | .error exception => (some exception, s)
        | .ok written => (none, { s with muxers := s.muxers.set muxer written })
    else (none, s)

/-- `onOutputBufferAvailable`. -/
def onOutputBufferAvailable (s : MainActivity) (codec : ℕ) (output : CodecOutput) : Handled :=
  if output.info.flags &&& BUFFER_FLAG_CODEC_CONFIG ≠ 0 then (none, s)
  else
    match output.buffer with
    | none => (none, s)
    | some outputBuffer =>
      if output.info.size.toInt > 0 then
        match copyFrame outputBuffer output.info with
        | .error exception => (some exception, s)
        | .ok data =>
          writeRecordedFrame
            (storeReplayFrame s data output.info.presentationTimeUs output.info.flags codec)
            outputBuffer output.info
      else (none, s)

/-- `onOutputFormatChanged`. -/
def onOutputFormatChanged (s : MainActivity) (codec : ℕ) (format : MediaFormat)
    (muxerFault : MuxerFault) : Handled :=
  let s := { s with outputFormat := some format, announced := s.announced ++ [(codec, format)] }
  if s.recordingActive then prepareMuxer s muxerFault else (none, s)

/-! ### Replay clips -/

/-- The frames that `saveReplayClip` takes from the queue. -/
def clipFrames (s : MainActivity) (seconds : Int32) : List EncodedFrame :=
  let cutoffUs := s.lastFrameTimeUs - seconds.toInt64 * 1000000
  s.replayQueue.filter fun frame ↦ decide (frame.presentationTimeUs ≥ cutoffUs)

/-- `saveReplayClip`, on the UI thread: it starts a thread, unless there is no format or no frame.
-/
def saveReplayClip (s : MainActivity) (seconds : Int32) : MainActivity :=
  match s.outputFormat with
  | none => s
  | some format =>
    let frames := clipFrames s seconds
    if frames.isEmpty then s
    else { s with workers := s.workers ++ [⟨seconds, frames, format, .created⟩] }

/-- The samples that the thread writes: the frames with their times counted from the first. -/
def clipSamples : List EncodedFrame → List Sample
  | [] => []
  | first :: rest =>
    (first :: rest).map fun frame ↦
      ⟨⟨0, Int32.ofNat frame.data.length, frame.presentationTimeUs - first.presentationTimeUs,
        frame.flags⟩, frame.data⟩

/-- The thread up to the start of its muxer. The track gets what is in `outputFormat` now. -/
def ClipWorker.addTrack (worker : ClipWorker) (outputFormat : Option MediaFormat)
    (createFails : Bool) : ClipWorker :=
  match worker.stage with
  | .created =>
    if createFails then { worker with stage := .failed }
    else
      match MediaMuxer.new.addTrack outputFormat with
      | .error _ => { worker with stage := .failed }
      | .ok (track, muxer) =>
        match muxer.start with
        | .error _ => { worker with stage := .failed }
        | .ok muxer => { worker with stage := .tracked muxer track }
  | _ => worker

/-- The rest of the thread: the samples are written, the muxer is stopped and released. -/
def ClipWorker.writeSamples (worker : ClipWorker) : ClipWorker :=
  match worker.stage with
  | .tracked muxer track =>
    match muxer.writeAll track (clipSamples worker.frames) with
    | .error _ => { worker with stage := .failed }
    | .ok muxer => { worker with stage := .finished muxer.stop.release }
  | _ => worker

/-! ### The machine -/

/-- What happens to the activity: a handler of the UI thread or of a callback, with what the
platform decides in it, or a step of the thread of a clip. -/
inductive RecorderEvent
  | onResume (accepted : Bool)
  | onPause
  | onSurfaceTextureAvailable (accepted : Bool)
  | onSurfaceTextureDestroyed
  | onRequestPermissionsResult (granted accepted : Bool)
  | onOpened (camera : ℕ) (sessionFails : Bool)
  | onDisconnected (camera : ℕ)
  | onError (camera : ℕ)
  | onConfigured (session : ℕ)
  | startRecording (encoderFault : EncoderFault) (muxerFault : MuxerFault) (sessionFails : Bool)
  | stopRecording (sessionFails : Bool)
  | onOutputFormatChanged (codec : ℕ) (format : MediaFormat) (muxerFault : MuxerFault)
  | onOutputBufferAvailable (codec : ℕ) (output : CodecOutput)
  | saveReplayClip (seconds : Int32)
  | clipAddTrack (worker : ℕ) (createFails : Bool)
  | clipWriteSamples (worker : ℕ)

/-- The state after an event. -/
def recorderStep (s : MainActivity) : RecorderEvent → MainActivity
  | .onResume accepted =>
    let s := { s with lifecycle := .resumed }
    if s.textureAvailable then openCamera s accepted else s
  | .onPause => { closeCamera s with lifecycle := .paused }
  | .onSurfaceTextureAvailable accepted =>
    openCamera
      { s with
        textureAvailable := true
        previewSurface := some s.nextHandle
        nextHandle := s.nextHandle + 1 } accepted
  | .onSurfaceTextureDestroyed => { s with textureAvailable := false }
  | .onRequestPermissionsResult granted accepted =>
    if granted then openCamera { s with permission := true } accepted else s
  | .onOpened camera sessionFails =>
    let s := { s with
      pendingOpens := s.pendingOpens - 1
      openDevices := s.openDevices ++ [camera]
      cameraDevice := some camera }
    if s.textureAvailable then startPreviewSession s false sessionFails else s
  | .onDisconnected camera => { closeDevice s camera with cameraDevice := none }
  | .onError camera => { closeDevice s camera with cameraDevice := none }
  | .onConfigured session => { s with captureSession := some session }
  | .startRecording encoderFault muxerFault sessionFails =>
    (startRecording s encoderFault muxerFault sessionFails).2
  | .stopRecording sessionFails => stopRecording s sessionFails
  | .onOutputFormatChanged codec format muxerFault =>
    (onOutputFormatChanged s codec format muxerFault).2
  | .onOutputBufferAvailable codec output => (onOutputBufferAvailable s codec output).2
  | .saveReplayClip seconds => saveReplayClip s seconds
  | .clipAddTrack worker createFails =>
    { s with
      workers := s.workers.modify worker fun worker ↦ worker.addTrack s.outputFormat createFails }
  | .clipWriteSamples worker =>
    { s with workers := s.workers.modify worker ClipWorker.writeSamples }

/-- The state after a list of events. -/
abbrev recorderRun (s : MainActivity) (events : List RecorderEvent) : MainActivity :=
  run recorderStep s events

end UvcRtmpStream.Recorder
