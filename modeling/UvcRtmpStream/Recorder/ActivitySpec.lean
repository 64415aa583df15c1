import Mathlib.Tactic.SplitIfs
import UvcRtmpStream.Recorder.MainActivity

/-!
# What the handlers of the activity touch

The activity's fields fall into parts that few handlers touch: the camera and the preview
(`CameraView`), the replay queue (`ReplayView`), the threads of clips with the formats announced so
far (`ClipView`), and the rest, which serves the recording. Starting and stopping a recording
touches only the rest (`outside_startRecording`, `outside_stopRecording`). The handlers that touch
one of the three parts have a lemma that says what becomes of it. Invariants about one part cite
these lemmas and do not look into the handlers.

For any part of the state there is one lemma for each handler: it leaves the part alone if that does
not depend on the fields that the handler sets (`view_openCamera` and its siblings).

`onOutputBufferAvailable_eq` says which frame a codec's output is kept as.
-/

set_option autoImplicit false
set_option relaxedAutoImplicit false

namespace UvcRtmpStream.Recorder

open UvcRtmpStream.Foundations UvcRtmpStream.Platform

/-- The camera, the preview, and what the platform knows of them. -/
@[ext] structure CameraView where
  cameraDevice : Option ℕ
  previewSurface : Option ℕ
  permission : Bool
  textureAvailable : Bool
  lifecycle : Lifecycle
  pendingOpens : ℕ
  openDevices : List ℕ

/-- The replay queue. -/
@[ext] structure ReplayView where
  replayQueue : List EncodedFrame
  lastFrameTimeUs : Int64

/-- The threads of clips, and the formats announced so far. -/
@[ext] structure ClipView where
  workers : List ClipWorker
  announced : List (ℕ × MediaFormat)

namespace MainActivity

/-- The camera part of the state. -/
def camera (s : MainActivity) : CameraView :=
  ⟨s.cameraDevice, s.previewSurface, s.permission, s.textureAvailable, s.lifecycle,
    s.pendingOpens, s.openDevices⟩

/-- The replay part of the state. -/
def replay (s : MainActivity) : ReplayView := ⟨s.replayQueue, s.lastFrameTimeUs⟩

/-- The clip part of the state. -/
def clips (s : MainActivity) : ClipView := ⟨s.workers, s.announced⟩

/-- All that recording does not touch. -/
def outside (s : MainActivity) : CameraView × ReplayView × ClipView :=
  (s.camera, s.replay, s.clips)

end MainActivity

/-! ### The frame in a codec's buffer -/

/-- The position and the limit that `onOutputBufferAvailable` sets are within the buffer. -/
theorem delimitFrame_codecOutput (output : CodecOutput) {outputBuffer : ByteBuffer}
    (hbuffer : output.buffer = some outputBuffer) :
    ∃ delimited, delimitFrame outputBuffer output.info = .ok delimited ∧
      delimited.content = outputBuffer.content ∧
      delimited.position = output.info.offset.toInt.toNat ∧
      delimited.limit = (output.info.offset.toInt + output.info.size.toInt).toNat := by
  have hoffset := output.offset_nonneg
  have hsize := output.size_nonneg
  have hend := output.end_le_limit outputBuffer hbuffer
  have hcapacity := outputBuffer.limit_le_capacity
  obtain ⟨placed, hplace, hcontent, hposition, hlimit⟩ :=
    outputBuffer.setPosition_of_le hoffset (by omega)
  obtain ⟨cut, hcut, hcutContent, hcutPosition, hcutLimit⟩ :=
    @ByteBuffer.setLimit_of_le placed (output.info.offset.toInt + output.info.size.toInt) (by omega)
      (by rw [hcontent]; omega)
  refine ⟨cut, ?_, hcutContent.trans hcontent, ?_, hcutLimit⟩
  · simp only [delimitFrame, hplace, hcut]
  · rw [hcutPosition, hposition]
    omega

/-- The copy of the part of a codec's buffer that the info describes. -/
theorem copyFrame_codecOutput (output : CodecOutput) {outputBuffer : ByteBuffer}
    (hbuffer : output.buffer = some outputBuffer) :
    copyFrame outputBuffer output.info =
      .ok ((outputBuffer.content.drop output.info.offset.toInt.toNat).take
        output.info.size.toInt.toNat) := by
  have hoffset := output.offset_nonneg
  have hsize := output.size_nonneg
  obtain ⟨delimited, hdelimit, hcontent, hposition, hlimit⟩ :=
    delimitFrame_codecOutput output hbuffer
  obtain ⟨moved, hget⟩ := @ByteBuffer.get_of_le delimited output.info.size.toInt.toNat (by
    rw [ByteBuffer.remaining, hposition, hlimit]
    omega)
  have hcopy : copyFrame outputBuffer output.info =
      (delimitFrame outputBuffer output.info).bind fun copyBuffer ↦
        (copyBuffer.get output.info.size.toInt.toNat).map Prod.fst := by
    unfold copyFrame delimitFrame
    cases outputBuffer.setPosition output.info.offset.toInt with
    | error exception => rfl
    | ok positioned =>
      cases hlimited : positioned.setLimit (output.info.offset.toInt + output.info.size.toInt) with
      | error exception => simp only [hlimited, Except.bind]
      | ok copyBuffer =>
        simp only [hlimited, Except.bind]
        cases copyBuffer.get output.info.size.toInt.toNat with
        | error exception => rfl
        | ok read => rfl
  rw [hcopy, hdelimit, Except.bind, hget, Except.map, hcontent, hposition]

/-- A sample that is written to the recording's muxer. -/
def writeSample (s : MainActivity) (sample : Sample) : Handled :=
  match s.mediaMuxer with
  | none => (none, s)
  | some muxer =>
    if s.recordingActive && s.muxerStarted then
      match (s.muxers[muxer]?.getD MediaMuxer.new).writeSampleData s.videoTrackIndex sample with
      | .error exception => (some exception, s)
      | .ok written => (none, { s with muxers := s.muxers.set muxer written })
    else (none, s)

/-- The muxer gets the part of a codec's buffer that the info describes. -/
theorem writeRecordedFrame_codecOutput (s : MainActivity) (output : CodecOutput)
    {outputBuffer : ByteBuffer} (hbuffer : output.buffer = some outputBuffer) :
    writeRecordedFrame s outputBuffer output.info =
      writeSample s (sampleOf outputBuffer output.info) := by
  obtain ⟨delimited, hdelimit, hcontent, -, -⟩ := delimitFrame_codecOutput output hbuffer
  have hsample : sampleOf delimited output.info = sampleOf outputBuffer output.info := by
    unfold sampleOf
    rw [hcontent]
  unfold writeRecordedFrame writeSample
  rw [← hsample]
  cases s.mediaMuxer with
  | none => rfl
  | some muxer =>
    cases hon : s.recordingActive && s.muxerStarted with
    | false => rfl
    | true => exact hdelimit ▸ rfl

/-- The frame that a codec's output is kept as: none for a codec configuration, a null buffer or an
empty one. -/
def deliveredFrame (codec : ℕ) (output : CodecOutput) : Option EncodedFrame :=
  if output.info.flags &&& BUFFER_FLAG_CODEC_CONFIG ≠ 0 then none
  else
    match output.buffer with
    | none => none
    | some outputBuffer =>
      if output.info.size.toInt > 0 then
        some
          { data := (outputBuffer.content.drop output.info.offset.toInt.toNat).take
              output.info.size.toInt.toNat
            presentationTimeUs := output.info.presentationTimeUs
            flags := output.info.flags
            source := codec }
      else none

/-- `onOutputBufferAvailable` stores the frame and then passes it to the recording. -/
theorem onOutputBufferAvailable_eq (s : MainActivity) (codec : ℕ) (output : CodecOutput) :
    onOutputBufferAvailable s codec output =
      match deliveredFrame codec output with
      | none => (none, s)
      | some frame =>
        writeSample
          (storeReplayFrame s frame.data frame.presentationTimeUs frame.flags frame.source)
          ⟨output.info, frame.data⟩ := by
  unfold onOutputBufferAvailable deliveredFrame
  by_cases hconfig : output.info.flags &&& BUFFER_FLAG_CODEC_CONFIG ≠ 0
  · rw [if_pos hconfig, if_pos hconfig]
  · rw [if_neg hconfig, if_neg hconfig]
    cases hbuffer : output.buffer with
    | none => rfl
    | some outputBuffer =>
      by_cases hsize : output.info.size.toInt > 0
      · simp only [if_pos hsize, copyFrame_codecOutput output hbuffer,
          writeRecordedFrame_codecOutput _ output hbuffer]
        rfl
      · simp only [if_neg hsize]

/-! ### A part of the state that a handler does not touch -/

/-- What the first part of a handler establishes and the rest keeps holds after the handler. -/
theorem Handled.andThen_holds (property : MainActivity → Prop) {handled : Handled}
    {rest : MainActivity → Handled} (hfirst : property handled.2)
    (hrest : ∀ s, property s → property (rest s).2) : property (handled.andThen rest).2 := by
  obtain ⟨exception, s⟩ := handled
  cases exception with
  | some exception => exact hfirst
  | none => exact hrest s hfirst

section View

variable {α : Type*} {view : MainActivity → α}

theorem view_startPreviewSession
    (hview : ∀ (s : MainActivity) captureSession sessions,
      view { s with captureSession, sessions } = view s)
    (s : MainActivity) (useEncoderSurface sessionFails : Bool) :
    view (startPreviewSession s useEncoderSurface sessionFails) = view s := by
  unfold startPreviewSession
  split
  · exact hview s _ _
  · rfl

theorem view_openCamera
    (hview : ∀ (s : MainActivity) pendingOpens, view { s with pendingOpens } = view s)
    (s : MainActivity) (accepted : Bool) : view (openCamera s accepted) = view s := by
  unfold openCamera
  split_ifs
  · exact hview s _
  · rfl

theorem view_closePreview
    (hview : ∀ (s : MainActivity) captureSession openDevices cameraDevice previewSurface,
      view { s with captureSession, openDevices, cameraDevice, previewSurface } = view s)
    (s : MainActivity) : view (closePreview s) = view s := by
  cases hdevice : s.cameraDevice with
  | none =>
    have hclosed := hview s none s.openDevices none none
    rw [← hclosed]
    simp only [closePreview, hdevice]
  | some camera =>
    have hclosed := hview s none (closeDevice s camera).openDevices none none
    rw [← hclosed]
    simp only [closePreview, hdevice, closeDevice]

theorem view_prepareEncoder
    (hview : ∀ (s : MainActivity) nextHandle videoEncoder encoderSurface runningCodecs,
      view { s with nextHandle, videoEncoder, encoderSurface, runningCodecs } = view s)
    (s : MainActivity) (fault : EncoderFault) : view (prepareEncoder s fault).2 = view s := by
  unfold prepareEncoder
  split
  · rfl
  · cases fault <;> exact hview s _ _ _ _

theorem view_prepareMuxer
    (hview : ∀ (s : MainActivity) mediaMuxer muxers videoTrackIndex muxerStarted,
      view { s with mediaMuxer, muxers, videoTrackIndex, muxerStarted } = view s)
    (s : MainActivity) (fault : MuxerFault) : view (prepareMuxer s fault).2 = view s := by
  unfold prepareMuxer
  split
  · cases fault with
    | createFails => rfl
    | _ => exact hview s _ _ _ _
  · rfl

theorem view_stopMuxer
    (hview : ∀ (s : MainActivity) muxers mediaMuxer, view { s with muxers, mediaMuxer } = view s)
    (s : MainActivity) : view (stopMuxer s) = view s := by
  unfold stopMuxer
  split
  · rfl
  · exact hview s _ _

theorem view_startRecording
    (hactive : ∀ (s : MainActivity) recordingActive, view { s with recordingActive } = view s)
    (hencoder : ∀ s fault, view (prepareEncoder s fault).2 = view s)
    (hmuxer : ∀ s fault, view (prepareMuxer s fault).2 = view s)
    (hsession : ∀ s sessionFails, view (startPreviewSession s true sessionFails) = view s)
    (s : MainActivity) (encoderFault : EncoderFault) (muxerFault : MuxerFault)
    (sessionFails : Bool) :
    view (startRecording s encoderFault muxerFault sessionFails).2 = view s := by
  unfold startRecording
  split_ifs
  · rfl
  · rfl
  · rfl
  · let keeps : MainActivity → Prop := fun s' ↦ view s' = view s
    refine Handled.andThen_holds keeps (Handled.andThen_holds keeps ?_ fun s' hs ↦ ?_)
      fun s' hs ↦ ?_
    · exact (hencoder _ encoderFault).trans (hactive s true)
    · split_ifs
      · exact (hmuxer s' muxerFault).trans hs
      · exact hs
    · exact (hsession s' sessionFails).trans hs

theorem view_writeSample
    (hview : ∀ (s : MainActivity) muxers, view { s with muxers } = view s)
    (s : MainActivity) (sample : Sample) : view (writeSample s sample).2 = view s := by
  unfold writeSample
  split
  · rfl
  · split_ifs
    · split
      · rfl
      · exact hview s _
    · rfl

theorem view_storeReplayFrame
    (hview : ∀ (s : MainActivity) lastFrameTimeUs replayQueue,
      view { s with lastFrameTimeUs, replayQueue } = view s)
    (s : MainActivity) (bytes : List UInt8) (presentationTimeUs : Int64) (flags : Int32)
    (source : ℕ) : view (storeReplayFrame s bytes presentationTimeUs flags source) = view s := by
  unfold storeReplayFrame
  split_ifs
  · rfl
  · exact hview s _ _

theorem view_onOutputBufferAvailable
    (hqueue : ∀ (s : MainActivity) lastFrameTimeUs replayQueue,
      view { s with lastFrameTimeUs, replayQueue } = view s)
    (hmuxers : ∀ (s : MainActivity) muxers, view { s with muxers } = view s)
    (s : MainActivity) (codec : ℕ) (output : CodecOutput) :
    view (onOutputBufferAvailable s codec output).2 = view s := by
  rw [onOutputBufferAvailable_eq]
  cases deliveredFrame codec output with
  | none => rfl
  | some frame =>
    exact (view_writeSample hmuxers _ _).trans (view_storeReplayFrame hqueue s _ _ _ _)

theorem view_saveReplayClip
    (hview : ∀ (s : MainActivity) workers, view { s with workers } = view s)
    (s : MainActivity) (seconds : Int32) : view (saveReplayClip s seconds) = view s := by
  unfold saveReplayClip
  split
  · rfl
  · dsimp only
    split_ifs
    · rfl
    · exact hview s _

theorem view_onResume
    (hview : ∀ (s : MainActivity) lifecycle pendingOpens,
      view { s with lifecycle, pendingOpens } = view s)
    (s : MainActivity) (accepted : Bool) : view (recorderStep s (.onResume accepted)) = view s := by
  have hresumed := hview s .resumed s.pendingOpens
  simp only [recorderStep]
  split_ifs
  · exact (view_openCamera (fun s ↦ hview s s.lifecycle) _ accepted).trans hresumed
  · exact hresumed

theorem view_onRequestPermissionsResult
    (hview : ∀ (s : MainActivity) permission pendingOpens,
      view { s with permission, pendingOpens } = view s)
    (s : MainActivity) (granted accepted : Bool) :
    view (recorderStep s (.onRequestPermissionsResult granted accepted)) = view s := by
  have hgranted := hview s true s.pendingOpens
  simp only [recorderStep]
  split_ifs
  · exact (view_openCamera (fun s ↦ hview s s.permission) _ accepted).trans hgranted
  · rfl

theorem view_onOpened
    (hdevice : ∀ (s : MainActivity) pendingOpens openDevices cameraDevice,
      view { s with pendingOpens, openDevices, cameraDevice } = view s)
    (hsession : ∀ (s : MainActivity) captureSession sessions,
      view { s with captureSession, sessions } = view s)
    (s : MainActivity) (camera : ℕ) (sessionFails : Bool) :
    view (recorderStep s (.onOpened camera sessionFails)) = view s := by
  have hopened := hdevice s (s.pendingOpens - 1) (s.openDevices ++ [camera]) (some camera)
  simp only [recorderStep]
  split_ifs
  · exact (view_startPreviewSession hsession _ false sessionFails).trans hopened
  · exact hopened

end View

/-! ### Camera and preview -/

section Parts

variable (s : MainActivity)

@[simp] theorem outside_startPreviewSession (useEncoderSurface sessionFails : Bool) :
    (startPreviewSession s useEncoderSurface sessionFails).outside = s.outside :=
  view_startPreviewSession (fun _ _ _ ↦ rfl) s useEncoderSurface sessionFails

/-- A device that is opened becomes the current one. -/
theorem camera_onOpened (camera : ℕ) (sessionFails : Bool) :
    (recorderStep s (.onOpened camera sessionFails)).camera =
      { s.camera with
        pendingOpens := s.pendingOpens - 1
        openDevices := s.openDevices ++ [camera]
        cameraDevice := some camera } := by
  simp only [recorderStep]
  split_ifs
  · exact congrArg Prod.fst (outside_startPreviewSession _ false sessionFails)
  · rfl

/-! ### Recording -/

@[simp] theorem outside_prepareEncoder (fault : EncoderFault) :
    (prepareEncoder s fault).2.outside = s.outside :=
  view_prepareEncoder (fun _ _ _ _ _ ↦ rfl) s fault

@[simp] theorem outside_prepareMuxer (fault : MuxerFault) :
    (prepareMuxer s fault).2.outside = s.outside :=
  view_prepareMuxer (fun _ _ _ _ _ ↦ rfl) s fault

@[simp] theorem outside_startRecording (encoderFault : EncoderFault) (muxerFault : MuxerFault)
    (sessionFails : Bool) :
    (startRecording s encoderFault muxerFault sessionFails).2.outside = s.outside :=
  view_startRecording (fun _ _ ↦ rfl) outside_prepareEncoder outside_prepareMuxer
    (fun s ↦ outside_startPreviewSession s true) s encoderFault muxerFault sessionFails

@[simp] theorem outside_stopMuxer : (stopMuxer s).outside = s.outside :=
  view_stopMuxer (fun _ _ _ ↦ rfl) s

@[simp] theorem outside_stopRecording (sessionFails : Bool) :
    (stopRecording s sessionFails).outside = s.outside := by
  unfold stopRecording
  split_ifs
  · rfl
  · have hstop := outside_stopMuxer
      (startPreviewSession { s with recordingActive := false } false sessionFails)
    rw [outside_startPreviewSession] at hstop
    exact hstop

/-- `closeCamera` closes the device and forgets it and the preview surface. -/
theorem outside_closeCamera :
    (closeCamera s).outside =
      ({ s.camera with
        cameraDevice := none
        previewSurface := none
        openDevices := s.openDevices.filter fun device ↦
          decide (s.cameraDevice ≠ some device) }, s.replay, s.clips) := by
  unfold closeCamera closePreview
  rw [outside_stopRecording]
  cases hdevice : s.cameraDevice with
  | none =>
    simp [MainActivity.outside, MainActivity.camera, MainActivity.replay, MainActivity.clips,
      hdevice]
  | some camera =>
    simp [MainActivity.outside, MainActivity.camera, MainActivity.replay, MainActivity.clips,
      closeDevice, eq_comm]

/-! ### Codec callbacks -/

theorem camera_onOutputBufferAvailable (codec : ℕ) (output : CodecOutput) :
    (onOutputBufferAvailable s codec output).2.camera = s.camera :=
  view_onOutputBufferAvailable (fun _ _ _ ↦ rfl) (fun _ _ ↦ rfl) s codec output

theorem clips_onOutputBufferAvailable (codec : ℕ) (output : CodecOutput) :
    (onOutputBufferAvailable s codec output).2.clips = s.clips :=
  view_onOutputBufferAvailable (fun _ _ _ ↦ rfl) (fun _ _ ↦ rfl) s codec output

/-- A new format is announced. -/
theorem outside_onOutputFormatChanged (codec : ℕ) (format : MediaFormat)
    (muxerFault : MuxerFault) :
    (onOutputFormatChanged s codec format muxerFault).2.outside =
      (s.camera, s.replay, ⟨s.workers, s.announced ++ [(codec, format)]⟩) := by
  unfold onOutputFormatChanged
  dsimp only
  split_ifs
  · rw [outside_prepareMuxer]
    rfl
  · rfl

/-! ### Clips -/

/-- A clip that is requested is a thread with the frames and the format of the moment. -/
theorem outside_saveReplayClip (seconds : Int32) :
    (saveReplayClip s seconds).outside = s.outside ∨
      ∃ format, s.outputFormat = some format ∧ (saveReplayClip s seconds).outside =
        (s.camera, s.replay,
          ⟨s.workers ++ [⟨seconds, clipFrames s seconds, format, .created⟩], s.announced⟩) := by
  unfold saveReplayClip
  split
  · exact Or.inl rfl
  · next format hformat =>
    simp only
    split_ifs
    · exact Or.inl rfl
    · exact Or.inr ⟨format, hformat, rfl⟩

theorem camera_saveReplayClip (seconds : Int32) :
    (saveReplayClip s seconds).camera = s.camera := view_saveReplayClip (fun _ _ ↦ rfl) s seconds

end Parts

/-! ### The part that recording touches -/

/-- What serves the recording: the muxer, and the format it gets. -/
@[ext] structure MuxerView where
  recordingActive : Bool
  muxerStarted : Bool
  mediaMuxer : Option ℕ
  videoTrackIndex : ℤ
  outputFormat : Option MediaFormat
  muxers : List MediaMuxer

/-- The muxer part of the state. -/
def MainActivity.muxing (s : MainActivity) : MuxerView :=
  ⟨s.recordingActive, s.muxerStarted, s.mediaMuxer, s.videoTrackIndex, s.outputFormat, s.muxers⟩

theorem muxing_startPreviewSession (s : MainActivity) (useEncoderSurface sessionFails : Bool) :
    (startPreviewSession s useEncoderSurface sessionFails).muxing = s.muxing :=
  view_startPreviewSession (fun _ _ _ ↦ rfl) s useEncoderSurface sessionFails

theorem muxing_openCamera (s : MainActivity) (accepted : Bool) :
    (openCamera s accepted).muxing = s.muxing := view_openCamera (fun _ _ ↦ rfl) s accepted

theorem muxing_closePreview (s : MainActivity) : (closePreview s).muxing = s.muxing :=
  view_closePreview (fun _ _ _ _ _ ↦ rfl) s

theorem muxing_storeReplayFrame (s : MainActivity) (bytes : List UInt8)
    (presentationTimeUs : Int64) (flags : Int32) (source : ℕ) :
    (storeReplayFrame s bytes presentationTimeUs flags source).muxing = s.muxing :=
  view_storeReplayFrame (fun _ _ _ ↦ rfl) s bytes presentationTimeUs flags source

theorem muxing_prepareEncoder (s : MainActivity) (fault : EncoderFault) :
    (prepareEncoder s fault).2.muxing = s.muxing :=
  view_prepareEncoder (fun _ _ _ _ _ ↦ rfl) s fault

theorem recordingActive_prepareMuxer (s : MainActivity) (fault : MuxerFault) :
    (prepareMuxer s fault).2.recordingActive = s.recordingActive :=
  view_prepareMuxer (fun _ _ _ _ _ ↦ rfl) s fault

theorem muxing_saveReplayClip (s : MainActivity) (seconds : Int32) :
    (saveReplayClip s seconds).muxing = s.muxing := view_saveReplayClip (fun _ _ ↦ rfl) s seconds

/-- The muxer is started, not stopped and not released, and returned the track. -/
def LiveTrack (muxers : List MediaMuxer) (muxer : ℕ) (track : ℤ) : Prop :=
  ∃ held ∈ muxers[muxer]?, held.Running ∧ held.HasTrack track

/-- A new started muxer at the end of the list has track 0. -/
theorem liveTrack_newStarted (muxers : List MediaMuxer) (format : MediaFormat) :
    LiveTrack (muxers ++ [MediaMuxer.newStarted format]) muxers.length 0 :=
  ⟨MediaMuxer.newStarted format, by simp, MediaMuxer.running_newStarted format,
    MediaMuxer.hasTrack_newStarted format⟩

end UvcRtmpStream.Recorder
