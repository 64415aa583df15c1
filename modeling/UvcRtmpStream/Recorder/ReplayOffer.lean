import UvcRtmpStream.Recorder.RecordingExactness

/-!
# When an offered replay can be saved

The replay button is enabled while the queue holds frames, and `saveReplayClip` needs the format of
the encoder, so a replay that is offered can be saved when a queue with frames comes with a format
(`ReplayReady`).

The two part when a recording stops: `releaseEncoder` forgets the format, and the frames stay in the
queue. They part as well when a codec delivers a frame that nobody announced a format for.
`KeepsOffer` says which events do neither, and a run is `ReplayReady` throughout exactly when all
its events are of that kind (`replay_offer_iff`).
-/

set_option autoImplicit false
set_option relaxedAutoImplicit false

namespace UvcRtmpStream.Recorder

open UvcRtmpStream.Foundations UvcRtmpStream.Platform

/-- A queue that holds frames comes with a format, so that the button, when it is enabled, does not
end in the branch that finds the replay not ready. -/
def ReplayReady (s : MainActivity) : Prop := s.replayQueue ≠ [] → s.outputFormat.isSome

instance (s : MainActivity) : Decidable (ReplayReady s) := inferInstanceAs (Decidable (_ → _))

/-- A recording stops with an empty queue only, and a frame is stored while there is a format. -/
def KeepsOffer (s : MainActivity) : RecorderEvent → Prop
  | .stopRecording _ => s.recordingActive = true → s.replayQueue = []
  | .onPause => s.recordingActive = true → s.replayQueue = []
  | .onOutputBufferAvailable codec output =>
    (deliveredFrame codec output).isSome → s.outputFormat.isSome
  | _ => True

instance (s : MainActivity) : (event : RecorderEvent) → Decidable (KeepsOffer s event)
  | .stopRecording _ | .onPause => inferInstanceAs (Decidable (_ → _))
  | .onOutputBufferAvailable codec output =>
    inferInstanceAs (Decidable ((deliveredFrame codec output).isSome → s.outputFormat.isSome))
  | .onResume _ | .onSurfaceTextureAvailable _ | .onSurfaceTextureDestroyed
  | .onRequestPermissionsResult _ _ | .onOpened _ _ | .onDisconnected _ | .onError _
  | .onConfigured _ | .startRecording _ _ _ | .onOutputFormatChanged _ _ _ | .saveReplayClip _
  | .clipAddTrack _ _ | .clipWriteSamples _ =>
    instDecidableTrue

/-! ### The format -/

theorem outputFormat_prepareMuxer (s : MainActivity) (fault : MuxerFault) :
    (prepareMuxer s fault).2.outputFormat = s.outputFormat :=
  view_prepareMuxer (fun _ _ _ _ _ ↦ rfl) s fault

theorem outputFormat_startRecording (s : MainActivity) (encoderFault : EncoderFault)
    (muxerFault : MuxerFault) (sessionFails : Bool) :
    (startRecording s encoderFault muxerFault sessionFails).2.outputFormat = s.outputFormat :=
  view_startRecording (fun _ _ ↦ rfl) (view_prepareEncoder fun _ _ _ _ _ ↦ rfl)
    outputFormat_prepareMuxer (fun s ↦ view_startPreviewSession (fun _ _ _ ↦ rfl) s true) s
    encoderFault muxerFault sessionFails

theorem outputFormat_stopRecording (s : MainActivity) (sessionFails : Bool) :
    (stopRecording s sessionFails).outputFormat =
      if s.recordingActive then none else s.outputFormat := by
  cases hactive : s.recordingActive with
  | false => simp [stopRecording, hactive]
  | true => exact congrArg MuxerView.outputFormat (muxing_stopRecording hactive sessionFails)

/-- What an event makes of the format. -/
def formatAfter (s : MainActivity) : RecorderEvent → Option MediaFormat
  | .stopRecording _ => if s.recordingActive then none else s.outputFormat
  | .onPause => if s.recordingActive then none else s.outputFormat
  | .onOutputFormatChanged _ format _ => some format
  | _ => s.outputFormat

theorem outputFormat_recorderStep (s : MainActivity) (event : RecorderEvent) :
    (recorderStep s event).outputFormat = formatAfter s event := by
  cases event with
  | onResume accepted => exact view_onResume (fun _ _ _ ↦ rfl) s accepted
  | onPause =>
    have hpreview := muxing_closePreview s
    have hstop := outputFormat_stopRecording (closePreview s) false
    rw [show (closePreview s).recordingActive = s.recordingActive from
        congrArg MuxerView.recordingActive hpreview,
      show (closePreview s).outputFormat = s.outputFormat from
        congrArg MuxerView.outputFormat hpreview] at hstop
    exact hstop
  | onSurfaceTextureAvailable accepted => exact view_openCamera (fun _ _ ↦ rfl) _ accepted
  | onSurfaceTextureDestroyed => rfl
  | onRequestPermissionsResult granted accepted =>
    exact view_onRequestPermissionsResult (fun _ _ _ ↦ rfl) s granted accepted
  | onOpened camera sessionFails =>
    exact view_onOpened (fun _ _ _ _ ↦ rfl) (fun _ _ _ ↦ rfl) s camera sessionFails
  | onDisconnected camera => rfl
  | onError camera => rfl
  | onConfigured session => rfl
  | startRecording encoderFault muxerFault sessionFails =>
    exact outputFormat_startRecording s encoderFault muxerFault sessionFails
  | stopRecording sessionFails => exact outputFormat_stopRecording s sessionFails
  | onOutputFormatChanged codec format muxerFault =>
    simp only [recorderStep, onOutputFormatChanged]
    split_ifs
    · exact outputFormat_prepareMuxer _ muxerFault
    · rfl
  | onOutputBufferAvailable codec output =>
    exact view_onOutputBufferAvailable (fun _ _ _ ↦ rfl) (fun _ _ ↦ rfl) s codec output
  | saveReplayClip seconds => exact view_saveReplayClip (fun _ _ ↦ rfl) s seconds
  | clipAddTrack worker createFails => rfl
  | clipWriteSamples worker => rfl

/-! ### The queue -/

/-- A frame that is stored stays in the queue. -/
theorem replayQueue_storeReplayFrame_ne_nil (s : MainActivity) {frame : EncodedFrame}
    (hdata : frame.data ≠ []) :
    (storeReplayFrame s frame.data frame.presentationTimeUs frame.flags
      frame.source).replayQueue ≠ [] := by
  have hnonempty : frame.data.isEmpty = false := by simpa using hdata
  simp only [storeReplayFrame, hnonempty, Bool.false_eq_true, if_false]
  rw [Ne, List.dropWhile_eq_nil_iff]
  intro hall
  -- The frame itself is not older than it is.
  have hself := hall frame (List.mem_append_right _ (List.mem_singleton_self _))
  rw [Int64.sub_self] at hself
  exact absurd hself (by decide)

/-- The queue holds frames after an event if it did before, or if the event delivers one. -/
theorem replayQueue_recorderStep_ne_nil (s : MainActivity) (event : RecorderEvent) :
    (recorderStep s event).replayQueue ≠ [] ↔
      s.replayQueue ≠ [] ∨ (eventFrame event).isSome := by
  cases hframe : eventFrame event with
  | none =>
    have hqueue : (recorderStep s event).replayQueue = s.replayQueue :=
      congrArg ReplayView.replayQueue (replay_recorderStep_of_none hframe)
    simp [hqueue]
  | some frame =>
    have hqueue : (recorderStep s event).replayQueue =
        (storeReplayFrame s frame.data frame.presentationTimeUs frame.flags
          frame.source).replayQueue :=
      congrArg ReplayView.replayQueue (replay_recorderStep_of_some hframe)
    rw [hqueue]
    exact iff_of_true (replayQueue_storeReplayFrame_ne_nil s (eventFrame_spec hframe).2)
      (Or.inr rfl)

/-! ### Runs -/

/-- The step lemma: after an event a replay that is offered can be saved exactly when the event kept
the offer. -/
theorem replayReady_recorderStep_iff {s : MainActivity} (h : ReplayReady s)
    (event : RecorderEvent) : ReplayReady (recorderStep s event) ↔ KeepsOffer s event := by
  have hstop : (s.replayQueue ≠ [] ∨ false = true →
      (if s.recordingActive then none else s.outputFormat).isSome) ↔
        (s.recordingActive = true → s.replayQueue = []) := by
    cases hactive : s.recordingActive with
    | false => simpa [ReplayReady] using h
    | true => simp
  unfold ReplayReady
  rw [replayQueue_recorderStep_ne_nil, outputFormat_recorderStep]
  cases event with
  | stopRecording sessionFails => exact hstop
  | onPause => exact hstop
  | onOutputBufferAvailable codec output =>
    exact ⟨fun hafter hframe ↦ hafter (Or.inr hframe), fun hkeeps hqueue ↦ hqueue.elim h hkeeps⟩
  | onOutputFormatChanged codec format muxerFault => exact iff_of_true (fun _ ↦ rfl) trivial
  | _ => exact iff_of_true (fun hqueue ↦ hqueue.elim h fun hframe ↦ nomatch hframe) trivial

/-- An offered replay can be saved. Along any events, a queue with frames always comes with a format
if and only if no recording is stopped with frames in the queue and no frame is stored without a
format. -/
theorem replay_offer_iff (events : List RecorderEvent) :
    Throughout recorderStep ReplayReady .initial events ↔
      Meets recorderStep KeepsOffer .initial events :=
  throughout_iff_meets (fun _ h ↦ h)
    (fun _ event h _ hkeeps ↦ (replayReady_recorderStep_iff h event).mpr hkeeps)
    (fun _ event h _ hbroken hready ↦ hbroken ((replayReady_recorderStep_iff h event).mp hready))
    (fun hqueue ↦ absurd rfl hqueue) (meets_of_forall fun _ _ ↦ trivial)

/-- A recording of one frame that is stopped: the frame is still offered, and there is no format. -/
theorem not_replayReady_stopped :
    ¬ Throughout recorderStep ReplayReady .initial
      [.onResume true, .onRequestPermissionsResult true true, .onSurfaceTextureAvailable true,
        .onOpened 0 false, .startRecording .none .none false,
        .onOutputFormatChanged 1 ⟨"video/avc", []⟩ .none,
        .onOutputBufferAvailable 1 (.oneByte 1 0 1), .stopRecording false] := by
  intro h
  exact absurd (h _ (List.prefix_refl _)) (by decide)

end UvcRtmpStream.Recorder
