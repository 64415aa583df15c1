import UvcRtmpStream.Recorder.ReplayOffer

/-!
# The encoder of an active recording

`startRecording` sets `recordingActive` and then lets `prepareEncoder` create, configure and start
the codec. Only the `IOException` of the creation is caught, and its handler clears `videoEncoder`
and `encoderSurface` and not the flag; the other exceptions leave `startRecording` where they were
thrown. `ActiveEncoder` says that an active recording has its surface and a codec that runs, and
`TriesAgain` that an attempt whose encoder fails leaves no recording.

A recording ends in `stopRecording` only, which releases the encoder as well, so that no attempt
finds one left over (`EncoderView.Sound`). An attempt that fails is therefore never made good by an
older codec, and both properties hold along a run exactly when no attempt that gets past the checks
of `startRecording` fails (`active_encoder_iff`).
-/

set_option autoImplicit false
set_option relaxedAutoImplicit false

namespace UvcRtmpStream.Recorder

open UvcRtmpStream.Foundations UvcRtmpStream.Platform

/-- The encoder, the codecs that run, and the next number. -/
@[ext] structure EncoderView where
  recordingActive : Bool
  videoEncoder : Option ℕ
  encoderSurface : Option ℕ
  runningCodecs : List ℕ
  nextHandle : ℕ

/-- The encoder part of the state. -/
def MainActivity.encoding (s : MainActivity) : EncoderView :=
  ⟨s.recordingActive, s.videoEncoder, s.encoderSurface, s.runningCodecs, s.nextHandle⟩

/-- An active recording has the surface of its encoder, and the encoder was started. -/
def EncoderView.Active (v : EncoderView) : Prop :=
  v.recordingActive = true →
    v.encoderSurface.isSome ∧ ∃ codec ∈ v.videoEncoder, codec ∈ v.runningCodecs

/-- Between two handlers an active recording has an encoder. -/
def ActiveEncoder (s : MainActivity) : Prop := s.encoding.Active

instance (s : MainActivity) : Decidable (ActiveEncoder s) :=
  inferInstanceAs (Decidable (s.recordingActive = true → _))

/-- An attempt whose encoder fails leaves `recordingActive` false, so that the next one gets past
the check of it. -/
def TriesAgain (s : MainActivity) : RecorderEvent → Prop
  | .startRecording encoderFault muxerFault sessionFails =>
    s.recordingActive = false → encoderFault ≠ .none →
      (startRecording s encoderFault muxerFault sessionFails).2.recordingActive = false
  | _ => True

/-- The checks of `startRecording`. -/
def StartAccepted (s : MainActivity) : Prop :=
  s.permission = true ∧ s.cameraDevice.isSome ∧ s.recordingActive = false

instance (s : MainActivity) : Decidable (StartAccepted s) := inferInstanceAs (Decidable (_ ∧ _))

/-- The encoder of an attempt that gets past the checks is created, configured and started. -/
def EncoderStarts (s : MainActivity) : RecorderEvent → Prop
  | .startRecording encoderFault _ _ => StartAccepted s → encoderFault = .none
  | _ => True

/-! ### What the handlers do with the encoder -/

/-- What stopping a recording leaves. -/
def EncoderView.released (v : EncoderView) : EncoderView where
  recordingActive := false
  videoEncoder := none
  encoderSurface := none
  runningCodecs := v.runningCodecs.filter fun codec ↦ decide (v.videoEncoder ≠ some codec)
  nextHandle := v.nextHandle

theorem encoding_startPreviewSession (s : MainActivity) (useEncoderSurface sessionFails : Bool) :
    (startPreviewSession s useEncoderSurface sessionFails).encoding = s.encoding :=
  view_startPreviewSession (fun _ _ _ ↦ rfl) s useEncoderSurface sessionFails

theorem encoding_prepareMuxer (s : MainActivity) (fault : MuxerFault) :
    (prepareMuxer s fault).2.encoding = s.encoding :=
  view_prepareMuxer (fun _ _ _ _ _ ↦ rfl) s fault

/-- An attempt that gets past the checks leaves what `prepareEncoder` does to the encoder. -/
theorem encoding_startRecording (s : MainActivity) (encoderFault : EncoderFault)
    (muxerFault : MuxerFault) (sessionFails : Bool) :
    (startRecording s encoderFault muxerFault sessionFails).2.encoding =
      if StartAccepted s then
        (prepareEncoder { s with recordingActive := true } encoderFault).2.encoding
      else s.encoding := by
  by_cases haccepted : StartAccepted s
  · rw [if_pos haccepted]
    obtain ⟨hpermission, hdevice, hactive⟩ := haccepted
    let keeps : MainActivity → Prop := fun s' ↦ s'.encoding =
      (prepareEncoder { s with recordingActive := true } encoderFault).2.encoding
    rw [startRecording, if_neg (by simp [hpermission]),
      if_neg (by simp [← Option.not_isSome, hdevice]), if_neg (by simp [hactive])]
    refine Handled.andThen_holds keeps (Handled.andThen_holds keeps rfl fun s' hs ↦ ?_)
      fun s' hs ↦ ?_
    · split_ifs
      · exact (encoding_prepareMuxer s' muxerFault).trans hs
      · exact hs
    · exact (encoding_startPreviewSession s' true sessionFails).trans hs
  · rw [if_neg haccepted]
    unfold startRecording
    split_ifs with hpermission hdevice hactive
    · rfl
    · rfl
    · rfl
    · refine absurd ⟨by simpa using hpermission, ?_, by simpa using hactive⟩ haccepted
      exact Option.isSome_iff_ne_none.mpr (by simpa using hdevice)

theorem encoding_stopRecording (s : MainActivity) (sessionFails : Bool) :
    (stopRecording s sessionFails).encoding =
      if s.recordingActive then s.encoding.released else s.encoding := by
  cases hactive : s.recordingActive with
  | false => simp [stopRecording, hactive]
  | true =>
    have hsession := encoding_startPreviewSession { s with recordingActive := false } false
      sessionFails
    have hmuxer := (@view_stopMuxer _ MainActivity.encoding (fun _ _ _ ↦ rfl) _).trans hsession
    have hreleased := congrArg EncoderView.released hmuxer
    simp only [stopRecording, hactive, Bool.not_true, Bool.false_eq_true, if_false, if_true]
    refine Eq.trans ?_ hreleased
    have hinactive := congrArg EncoderView.recordingActive hmuxer
    exact EncoderView.ext hinactive rfl rfl rfl rfl

/-- What an event makes of the encoder. -/
def encodingAfter (s : MainActivity) : RecorderEvent → EncoderView
  | .onSurfaceTextureAvailable _ => { s.encoding with nextHandle := s.nextHandle + 1 }
  | .startRecording encoderFault _ _ =>
    if StartAccepted s then
      (prepareEncoder { s with recordingActive := true } encoderFault).2.encoding
    else s.encoding
  | .stopRecording _ | .onPause => if s.recordingActive then s.encoding.released else s.encoding
  | _ => s.encoding

theorem encoding_recorderStep (s : MainActivity) (event : RecorderEvent) :
    (recorderStep s event).encoding = encodingAfter s event := by
  cases event with
  | onResume accepted => exact view_onResume (fun _ _ _ ↦ rfl) s accepted
  | onPause =>
    have hpreview : (closePreview s).encoding = s.encoding :=
      view_closePreview (fun _ _ _ _ _ ↦ rfl) s
    have hstop := encoding_stopRecording (closePreview s) false
    rw [hpreview, show (closePreview s).recordingActive = s.recordingActive from
      congrArg EncoderView.recordingActive hpreview] at hstop
    exact hstop
  | onSurfaceTextureAvailable accepted => exact view_openCamera (fun _ _ ↦ rfl) _ accepted
  | onSurfaceTextureDestroyed => rfl
  | onRequestPermissionsResult granted accepted =>
    exact view_onRequestPermissionsResult (fun _ _ _ ↦ rfl) s granted accepted
  | onOpened camera sessionFails =>
    exact view_onOpened (fun _ _ _ _ ↦ rfl) (fun _ _ _ ↦ rfl) s camera sessionFails
  | onDisconnected camera => rfl
  | onError camera => rfl
  | onConfigured session => rfl
  | startRecording encoderFault muxerFault sessionFails =>
    exact encoding_startRecording s encoderFault muxerFault sessionFails
  | stopRecording sessionFails => exact encoding_stopRecording s sessionFails
  | onOutputFormatChanged codec format muxerFault =>
    simp only [recorderStep, onOutputFormatChanged]
    split_ifs
    · exact encoding_prepareMuxer _ muxerFault
    · rfl
  | onOutputBufferAvailable codec output =>
    exact view_onOutputBufferAvailable (fun _ _ _ ↦ rfl) (fun _ _ ↦ rfl) s codec output
  | saveReplayClip seconds => exact view_saveReplayClip (fun _ _ ↦ rfl) s seconds
  | clipAddTrack worker createFails => rfl
  | clipWriteSamples worker => rfl

/-! ### The invariant -/

/-- A recording has a surface and a codec that runs, there is no codec without a recording, and the
next codec is none of those that run. -/
structure EncoderView.Sound (v : EncoderView) : Prop where
  active : v.Active
  inactive : v.recordingActive = false → v.videoEncoder = none
  running_lt : ∀ codec ∈ v.runningCodecs, codec < v.nextHandle

namespace EncoderView.Sound

variable {v : EncoderView}

theorem skip (h : v.Sound) : Sound { v with nextHandle := v.nextHandle + 1 } where
  active := h.active
  inactive := h.inactive
  running_lt := fun codec hcodec ↦ Nat.lt_succ_of_lt (h.running_lt codec hcodec)

theorem released (h : v.Sound) : v.released.Sound where
  active := fun hactive ↦ absurd hactive Bool.false_ne_true
  inactive := fun _ ↦ rfl
  running_lt := fun codec hcodec ↦ h.running_lt codec (List.mem_of_mem_filter hcodec)

end EncoderView.Sound

section Attempts

variable {s : MainActivity}

/-- Without an encoder left over, an attempt ends with one that runs. -/
theorem sound_prepareEncoder (h : s.encoding.Sound) (hnone : s.videoEncoder = none) :
    (prepareEncoder { s with recordingActive := true } .none).2.encoding.Sound := by
  simp only [prepareEncoder, hnone, Option.isSome_none, Bool.false_eq_true, if_false]
  refine ⟨fun _ ↦ ⟨rfl, s.nextHandle, rfl, ?_⟩, fun hinactive ↦ ?_, fun codec hcodec ↦ ?_⟩
  · exact List.mem_append_right _ (List.mem_singleton_self _)
  · exact absurd hinactive Bool.true_eq_false_eq_False
  · rcases List.mem_append.mp hcodec with hrunning | hnew
    · exact Nat.lt_succ_of_lt (h.running_lt codec hrunning)
    · obtain rfl := List.mem_singleton.mp hnew
      exact Nat.lt_succ_self _

/-- An attempt that fails leaves the flag and no codec that runs, whichever call it was. -/
theorem not_active_prepareEncoder (h : s.encoding.Sound) (hnone : s.videoEncoder = none)
    {fault : EncoderFault} (hfault : fault ≠ .none) :
    ¬ (prepareEncoder { s with recordingActive := true } fault).2.encoding.Active := by
  have hnew : s.nextHandle ∉ s.runningCodecs := fun hrunning ↦
    lt_irrefl _ (h.running_lt _ hrunning)
  simp only [prepareEncoder, hnone, Option.isSome_none, Bool.false_eq_true, if_false]
  intro hactive
  cases fault with
  | none => exact hfault rfl
  | createFails | createThrows =>
    -- There is no codec.
    obtain ⟨-, codec, hcodec, -⟩ := hactive rfl
    cases hcodec
  | configureFails | inputSurfaceFails | startFails =>
    -- The codec is there, and it was not started.
    obtain ⟨-, codec, hcodec, hrunning⟩ := hactive rfl
    obtain rfl := Option.some.inj hcodec
    exact hnew hrunning

end Attempts

/-! ### Runs -/

/-- The step lemma: an event whose encoder does not fail keeps the invariant. -/
theorem sound_recorderStep {s : MainActivity} (h : s.encoding.Sound) {event : RecorderEvent}
    (hstarts : EncoderStarts s event) : (recorderStep s event).encoding.Sound := by
  have hstop : (if s.recordingActive then s.encoding.released else s.encoding).Sound := by
    split_ifs
    · exact h.released
    · exact h
  rw [encoding_recorderStep]
  cases event with
  | onSurfaceTextureAvailable accepted => exact h.skip
  | startRecording encoderFault muxerFault sessionFails =>
    simp only [encodingAfter]
    split_ifs with haccepted
    · rw [hstarts haccepted]
      exact sound_prepareEncoder h (h.inactive haccepted.2.2)
    · exact h
  | stopRecording sessionFails => exact hstop
  | onPause => exact hstop
  | _ => exact h

/-- An event whose encoder fails leaves a recording without one. -/
theorem not_activeEncoder_recorderStep {s : MainActivity} (h : s.encoding.Sound)
    {event : RecorderEvent} (hfails : ¬ EncoderStarts s event) :
    ¬ ActiveEncoder (recorderStep s event) := by
  cases event with
  | startRecording encoderFault muxerFault sessionFails =>
    obtain ⟨haccepted, hfault⟩ := Classical.not_imp.mp hfails
    have hafter := encoding_startRecording s encoderFault muxerFault sessionFails
    rw [if_pos haccepted] at hafter
    have hbroken := not_active_prepareEncoder h (h.inactive haccepted.2.2) hfault
    exact fun hactive ↦ hbroken (hafter ▸ hactive)
  | _ => exact absurd trivial hfails

/-- Where no encoder fails there is no attempt to try again. -/
theorem triesAgain_of_encoderStarts (s : MainActivity) (event : RecorderEvent)
    (hstarts : EncoderStarts s event) : TriesAgain s event := by
  cases event with
  | startRecording encoderFault muxerFault sessionFails =>
    intro hinactive hfault
    have hrefused : ¬ StartAccepted s := fun haccepted ↦ hfault (hstarts haccepted)
    have hafter := encoding_startRecording s encoderFault muxerFault sessionFails
    rw [if_neg hrefused] at hafter
    exact (congrArg EncoderView.recordingActive hafter).trans hinactive
  | _ => trivial

/-- An active recording has an encoder. Along any events, in every state an active recording has a
surface and a started encoder, and every attempt whose encoder fails leaves no recording, if and
only if no encoder fails in an attempt that gets past the checks. -/
theorem active_encoder_iff (events : List RecorderEvent) :
    Throughout recorderStep ActiveEncoder .initial events ∧
        Meets recorderStep TriesAgain .initial events ↔
      Meets recorderStep EncoderStarts .initial events := by
  have hsound : MainActivity.initial.encoding.Sound :=
    ⟨fun hactive ↦ absurd hactive Bool.false_ne_true, fun _ ↦ rfl,
      by simp [MainActivity.encoding, MainActivity.initial]⟩
  have hactive : Throughout recorderStep ActiveEncoder .initial events ↔
      Meets recorderStep EncoderStarts .initial events :=
    throughout_iff_meets (fun _ h ↦ h.active) (fun _ _ h _ hstarts ↦ sound_recorderStep h hstarts)
      (fun _ _ h _ hfails ↦ not_activeEncoder_recorderStep h hfails) hsound
      (meets_of_forall fun _ _ ↦ trivial)
  constructor
  · rintro ⟨hencoder, -⟩
    exact hactive.mp hencoder
  · intro hstarts
    exact ⟨hactive.mpr hstarts, hstarts.mono triesAgain_of_encoderStarts⟩

/-- A recording whose codec cannot be created, and a second attempt. -/
def twoAttempts : List RecorderEvent :=
  [.onRequestPermissionsResult true true, .onSurfaceTextureAvailable true, .onOpened 0 false,
    .startRecording .createFails .none false, .startRecording .none .none false]

/-- The recording is active and has no encoder, and the second attempt is not made, although the
codec could be created now. -/
theorem not_activeEncoder_createFails :
    ¬ (Throughout recorderStep ActiveEncoder .initial twoAttempts ∧
        Meets recorderStep TriesAgain .initial twoAttempts) := by
  rintro ⟨hencoder, -⟩
  exact absurd (hencoder _ (List.prefix_refl _)) (by decide)

end UvcRtmpStream.Recorder
