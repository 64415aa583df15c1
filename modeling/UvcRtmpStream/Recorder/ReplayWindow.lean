import UvcRtmpStream.Foundations.SortedWindow
import UvcRtmpStream.Recorder.ActivitySpec

/-!
# The replay window

The replay queue holds the frames of the last two minutes, and a clip of `s` seconds the frames of
the last `min s 120` seconds. Time is the timestamp of the newest frame, not the wall clock, and
frames are assumed to come in order of their timestamps.

`storeReplayFrame` drops frames from the front of the queue while they are too old, which on a
sorted queue is a filter. So the queue stays the filter of everything delivered (`WindowInv`),
across any other event. The timestamps are those of a surface, which keeps the differences in the
code from overflowing (`EncodedFrame.InRange`). `replay_window_exact` reads the queue and the clips
off the invariant.
-/

set_option autoImplicit false
set_option relaxedAutoImplicit false

namespace UvcRtmpStream.Recorder

open UvcRtmpStream.Foundations UvcRtmpStream.Platform

/-- The timestamp of a frame. -/
def EncodedFrame.timeUs (frame : EncodedFrame) : ℤ := frame.presentationTimeUs.toInt

/-- The timestamp is one that a surface can give. -/
def EncodedFrame.InRange (frame : EncodedFrame) : Prop :=
  -2 ^ 63 / 1000 ≤ frame.timeUs ∧ frame.timeUs ≤ 2 ^ 63 / 1000

/-- The frame that an event delivers. -/
def eventFrame : RecorderEvent → Option EncodedFrame
  | .onOutputBufferAvailable codec output => deliveredFrame codec output
  | _ => none

/-- The frames delivered by a list of events, in order: the codec outputs that are no configuration,
not null and not empty. -/
def deliveredFrames (events : List RecorderEvent) : List EncodedFrame :=
  events.filterMap eventFrame

/-- The frames of a list from a time on. -/
def framesSince (timeUs : ℤ) (frames : List EncodedFrame) : List EncodedFrame :=
  frames.filter fun frame ↦ decide (timeUs ≤ frame.timeUs)

/-! ### Timestamp arithmetic -/

/-- A delivered frame has a surface timestamp and is not empty. -/
theorem deliveredFrame_spec {codec : ℕ} {output : CodecOutput} {frame : EncodedFrame}
    (h : deliveredFrame codec output = some frame) : frame.InRange ∧ frame.data ≠ [] := by
  unfold deliveredFrame at h
  cases hbuffer : output.buffer with
  | none => simp [hbuffer] at h
  | some outputBuffer =>
    simp only [hbuffer] at h
    split_ifs at h with hconfig hsize
    obtain rfl := Option.some.inj h
    refine ⟨⟨output.timestamp_ge, output.timestamp_le⟩, ?_⟩
    have hoffset := output.offset_nonneg
    have hend := output.end_le_limit outputBuffer hbuffer
    have hcapacity := outputBuffer.limit_le_capacity
    rw [← List.length_pos_iff, List.length_take, List.length_drop]
    omega

/-- The difference of two surface timestamps does not overflow. -/
theorem toInt_sub_of_inRange {first second : EncodedFrame} (hfirst : first.InRange)
    (hsecond : second.InRange) :
    (first.presentationTimeUs - second.presentationTimeUs).toInt =
      first.timeUs - second.timeUs := by
  unfold EncodedFrame.InRange EncodedFrame.timeUs at *
  rw [Int64.toInt_sub]
  exact Int.bmod_eq_of_le (by omega) (by omega)

/-- The test of the eviction loop. -/
theorem evicted_iff {newest oldest : EncodedFrame} (hnewest : newest.InRange)
    (holdest : oldest.InRange) :
    newest.presentationTimeUs - oldest.presentationTimeUs > MAX_REPLAY_US ↔
      oldest.timeUs < newest.timeUs - 120000000 := by
  have hmax : MAX_REPLAY_US.toInt = 120000000 := by decide
  rw [gt_iff_lt, Int64.lt_iff_toInt_lt, toInt_sub_of_inRange hnewest holdest, hmax]
  omega

/-- The test of the clip's cutoff. -/
theorem ge_cutoff_iff {newest frame : EncodedFrame} (hnewest : newest.InRange) {seconds : Int32}
    (hseconds : 0 ≤ seconds.toInt) :
    frame.presentationTimeUs ≥ newest.presentationTimeUs - seconds.toInt64 * 1000000 ↔
      newest.timeUs - seconds.toInt * 1000000 ≤ frame.timeUs := by
  have hlt := seconds.toInt_lt
  have hmillion : (1000000 : Int64).toInt = 1000000 := by decide
  have hspan : (seconds.toInt64 * 1000000).toInt = seconds.toInt * 1000000 := by
    rw [Int64.toInt_mul, Int32.toInt_toInt64, hmillion]
    exact Int.bmod_eq_of_le (by omega) (by omega)
  have hcutoff : (newest.presentationTimeUs - seconds.toInt64 * 1000000).toInt =
      newest.timeUs - seconds.toInt * 1000000 := by
    unfold EncodedFrame.InRange EncodedFrame.timeUs at *
    rw [Int64.toInt_sub, hspan]
    exact Int.bmod_eq_of_le (by omega) (by omega)
  rw [ge_iff_le, Int64.le_iff_toInt_le, hcutoff]
  rfl

/-! ### The queue -/

/-- What holds of the queue and the frames delivered so far. -/
structure WindowInv (view : ReplayView) (frames : List EncodedFrame) : Prop where
  queue_eq : view.replayQueue = framesSince (view.lastFrameTimeUs.toInt - 120000000) frames
  newest_eq : ∀ newest ∈ frames.getLast?, view.lastFrameTimeUs = newest.presentationTimeUs

/-- Storing a frame keeps the invariant. Assumes: the frame is not empty, frames have surface
timestamps and come in order. -/
theorem WindowInv.store {s : MainActivity} {frames : List EncodedFrame} {frame : EncodedFrame}
    (h : WindowInv s.replay frames) (hdata : frame.data ≠ [])
    (hrange : ∀ other ∈ frames ++ [frame], other.InRange)
    (hsorted : SortedBy EncodedFrame.timeUs (frames ++ [frame])) :
    WindowInv (storeReplayFrame s frame.data frame.presentationTimeUs frame.flags
      frame.source).replay (frames ++ [frame]) := by
  have hnonempty : frame.data.isEmpty = false := by simpa using hdata
  have hframe : frame.InRange := hrange frame (List.mem_append_right _ (List.mem_singleton_self _))
  have hqueue : s.replayQueue = framesSince (s.lastFrameTimeUs.toInt - 120000000) frames :=
    h.queue_eq
  have hsub : (s.replayQueue ++ [frame]).Sublist (frames ++ [frame]) := by
    rw [hqueue]
    exact List.filter_sublist.append_right _
  -- The window moves forward, so what was dropped before is out of the new window too.
  have hforward : ∀ other ∈ frames, frame.timeUs - 120000000 ≤ other.timeUs →
      s.lastFrameTimeUs.toInt - 120000000 ≤ other.timeUs := by
    intro other hother hle
    obtain ⟨newest, hnewest⟩ := Option.isSome_iff_exists.mp
      (List.getLast?_isSome.mpr (List.ne_nil_of_mem hother))
    have hlast : s.lastFrameTimeUs = newest.presentationTimeUs := h.newest_eq newest hnewest
    have hnewestLe := (sortedBy_append.mp hsorted).2.2 newest (List.mem_of_getLast? hnewest) frame
      (List.mem_singleton_self _)
    rw [hlast]
    unfold EncodedFrame.timeUs at *
    omega
  have hstored : (storeReplayFrame s frame.data frame.presentationTimeUs frame.flags
      frame.source).replay = ⟨framesSince (frame.timeUs - 120000000) (frames ++ [frame]),
        frame.presentationTimeUs⟩ := by
    simp only [storeReplayFrame, hnonempty, Bool.false_eq_true, if_false, MainActivity.replay]
    congr 1
    have hevicted : ∀ oldest ∈ s.replayQueue ++ [frame],
        decide (frame.presentationTimeUs - oldest.presentationTimeUs > MAX_REPLAY_US) =
          decide (oldest.timeUs < frame.timeUs - 120000000) :=
      fun oldest holdest ↦
        decide_eq_decide.mpr (evicted_iff hframe (hrange oldest (hsub.subset holdest)))
    rw [dropWhile_congr_of_mem hevicted, dropWhile_eq_filter_of_sorted (hsorted.sublist hsub),
      hqueue]
    simp only [framesSince, List.filter_append, List.filter_filter]
    congr 1
    refine List.filter_congr fun other hother ↦ ?_
    rw [Bool.eq_iff_iff]
    simpa using hforward other hother
  rw [hstored]
  refine ⟨rfl, fun newest hnewest ↦ ?_⟩
  rw [List.getLast?_concat, Option.mem_some_iff] at hnewest
  exact congrArg EncodedFrame.presentationTimeUs hnewest

/-- An event that delivers no frame leaves the queue alone. -/
theorem replay_recorderStep_of_none {s : MainActivity} {event : RecorderEvent}
    (h : eventFrame event = none) : (recorderStep s event).replay = s.replay := by
  cases event with
  | onResume accepted => exact view_onResume (fun _ _ _ ↦ rfl) s accepted
  | onPause => exact congrArg (fun view ↦ view.2.1) (outside_closeCamera s)
  | onSurfaceTextureAvailable accepted => exact view_openCamera (fun _ _ ↦ rfl) _ accepted
  | onSurfaceTextureDestroyed => rfl
  | onRequestPermissionsResult granted accepted =>
    exact view_onRequestPermissionsResult (fun _ _ _ ↦ rfl) s granted accepted
  | onOpened camera sessionFails =>
    exact view_onOpened (fun _ _ _ _ ↦ rfl) (fun _ _ _ ↦ rfl) s camera sessionFails
  | onDisconnected camera => rfl
  | onError camera => rfl
  | onConfigured session => rfl
  | startRecording encoderFault muxerFault sessionFails =>
    exact congrArg (fun view ↦ view.2.1) (outside_startRecording s _ _ _)
  | stopRecording sessionFails =>
    exact congrArg (fun view ↦ view.2.1) (outside_stopRecording s sessionFails)
  | onOutputFormatChanged codec format muxerFault =>
    exact congrArg (fun view ↦ view.2.1) (outside_onOutputFormatChanged s codec format muxerFault)
  | onOutputBufferAvailable codec output =>
    have hnone : deliveredFrame codec output = none := h
    simp only [recorderStep, onOutputBufferAvailable_eq, hnone]
  | saveReplayClip seconds => exact view_saveReplayClip (fun _ _ ↦ rfl) s seconds
  | clipAddTrack worker createFails => rfl
  | clipWriteSamples worker => rfl

/-- An event that delivers a frame stores it. -/
theorem replay_recorderStep_of_some {s : MainActivity} {event : RecorderEvent}
    {frame : EncodedFrame} (h : eventFrame event = some frame) :
    (recorderStep s event).replay =
      (storeReplayFrame s frame.data frame.presentationTimeUs frame.flags frame.source).replay := by
  cases event with
  | onOutputBufferAvailable codec output =>
    have hsome : deliveredFrame codec output = some frame := h
    simp only [recorderStep, onOutputBufferAvailable_eq, hsome]
    exact view_writeSample (fun _ _ ↦ rfl) _ ⟨output.info, frame.data⟩
  | _ => cases h

/-- An event's frame has a surface timestamp and is not empty. -/
theorem eventFrame_spec {event : RecorderEvent} {frame : EncodedFrame}
    (h : eventFrame event = some frame) : frame.InRange ∧ frame.data ≠ [] := by
  cases event with
  | onOutputBufferAvailable codec output => exact deliveredFrame_spec h
  | _ => cases h

/-- The run lemma. -/
theorem WindowInv.run {s : MainActivity} {frames : List EncodedFrame} {events : List RecorderEvent}
    (h : WindowInv s.replay frames) (hrange : ∀ frame ∈ frames, frame.InRange)
    (hsorted : SortedBy EncodedFrame.timeUs (frames ++ deliveredFrames events)) :
    WindowInv (recorderRun s events).replay (frames ++ deliveredFrames events) := by
  induction events generalizing s frames with
  | nil => simpa [deliveredFrames] using h
  | cons event rest ih =>
    rw [recorderRun, run_cons]
    cases hevent : eventFrame event with
    | none =>
      have hdelivered : deliveredFrames (event :: rest) = deliveredFrames rest :=
        List.filterMap_cons_none hevent
      rw [hdelivered] at hsorted ⊢
      exact ih (by rwa [replay_recorderStep_of_none hevent]) hrange hsorted
    | some frame =>
      have hdelivered : frames ++ deliveredFrames (event :: rest) =
          frames ++ [frame] ++ deliveredFrames rest := by
        rw [deliveredFrames, List.filterMap_cons_some hevent, List.append_assoc,
          List.singleton_append]
        rfl
      obtain ⟨hframe, hdata⟩ := eventFrame_spec hevent
      have hrangeNext : ∀ other ∈ frames ++ [frame], other.InRange := by
        intro other hother
        rcases List.mem_append.mp hother with hold | hnew
        · exact hrange other hold
        · rw [List.mem_singleton.mp hnew]
          exact hframe
      rw [hdelivered] at hsorted ⊢
      refine ih ?_ hrangeNext hsorted
      rw [replay_recorderStep_of_some hevent]
      exact h.store hdata hrangeNext (sortedBy_append.mp hsorted).1

/-! ### Clips -/

/-- The samples that a clip saved now gets, when its thread runs at once and without errors. -/
def savedClip (s : MainActivity) (seconds : Int32) : List Sample :=
  let events := [.saveReplayClip seconds, .clipAddTrack s.workers.length false,
    .clipWriteSamples s.workers.length]
  match (recorderRun s events).workers[s.workers.length]? with
  | some ⟨_, _, _, .finished muxer⟩ => muxer.samples.map Prod.snd
  | _ => []

/-- With a format, the clip is the frames from the queue. -/
theorem savedClip_eq {s : MainActivity} (hformat : s.outputFormat.isSome) (seconds : Int32) :
    savedClip s seconds = clipSamples (clipFrames s seconds) := by
  obtain ⟨format, hformat⟩ := Option.isSome_iff_exists.mp hformat
  unfold savedClip
  simp only [recorderRun, run_cons, run_nil, recorderStep, saveReplayClip, hformat]
  by_cases hframes : (clipFrames s seconds).isEmpty
  · rw [if_pos hframes, List.isEmpty_iff.mp hframes]
    simp [clipSamples]
  · rw [if_neg hframes]
    simp only [List.getElem?_modify, if_true]
    simp only [List.getElem?_concat_length, Option.map_eq_map, Option.map_some,
      ClipWorker.addTrack, Bool.false_eq_true, if_false, MediaMuxer.addTrack_new,
      MediaMuxer.start_new_track, ClipWorker.writeSamples,
      MediaMuxer.writeAll_of_running (MediaMuxer.running_newStarted format)
        (MediaMuxer.hasTrack_newStarted format)]
    simp [MediaMuxer.stop, MediaMuxer.release, MediaMuxer.newStarted]

/-- The time of a sample of a clip. -/
def sampleTimeUs (sample : Sample) : ℤ := sample.info.presentationTimeUs.toInt

/-- The samples are those of a clip of some frames: their bytes and flags in order, under times that
start at zero, are in order and do not exceed the length of the clip. -/
structure IsClipOf (frames : List EncodedFrame) (spanUs : ℤ) (samples : List Sample) : Prop where
  content_eq : samples.map (fun sample ↦ (sample.data, sample.info.flags)) =
    frames.map fun frame ↦ (frame.data, frame.flags)
  size_eq : ∀ sample ∈ samples,
    sample.info.offset = 0 ∧ sample.info.size = Int32.ofNat sample.data.length
  starts_at_zero : ∀ first ∈ samples.head?, sampleTimeUs first = 0
  sorted : SortedBy sampleTimeUs samples
  bounded : ∀ sample ∈ samples, 0 ≤ sampleTimeUs sample ∧ sampleTimeUs sample ≤ spanUs

/-- The samples of frames that are in order and span at most the length of the clip. -/
theorem isClipOf_clipSamples {frames : List EncodedFrame} {spanUs : ℤ}
    (hrange : ∀ frame ∈ frames, frame.InRange) (hsorted : SortedBy EncodedFrame.timeUs frames)
    (hspan : ∀ first ∈ frames.head?, ∀ frame ∈ frames, frame.timeUs ≤ first.timeUs + spanUs) :
    IsClipOf frames spanUs (clipSamples frames) := by
  cases frames with
  | nil => exact ⟨rfl, by simp [clipSamples], by simp [clipSamples],
      List.Pairwise.nil, by simp [clipSamples]⟩
  | cons first rest =>
    have htime : ∀ frame ∈ first :: rest,
        (frame.presentationTimeUs - first.presentationTimeUs).toInt =
          frame.timeUs - first.timeUs := fun frame hframe ↦
      toInt_sub_of_inRange (hrange frame hframe) (hrange first List.mem_cons_self)
    have hfirst := (sortedBy_cons.mp hsorted).1
    refine ⟨?_, ?_, ?_, ?_, ?_⟩
    · simp [clipSamples]
    · intro sample hsample
      obtain ⟨frame, -, rfl⟩ := List.mem_map.mp hsample
      exact ⟨rfl, rfl⟩
    · intro sample hsample
      have hhead : sample = ⟨⟨0, Int32.ofNat first.data.length,
          first.presentationTimeUs - first.presentationTimeUs, first.flags⟩, first.data⟩ := by
        simpa [clipSamples, eq_comm] using hsample
      rw [hhead, sampleTimeUs, htime first List.mem_cons_self, sub_self]
    · refine List.pairwise_map.mpr (List.Pairwise.imp_of_mem ?_ hsorted)
      intro earlier later hearlier hlater hle
      simp only [sampleTimeUs, htime earlier hearlier, htime later hlater]
      omega
    · intro sample hsample
      obtain ⟨frame, hframe, rfl⟩ := List.mem_map.mp hsample
      have hle := hspan first rfl frame hframe
      have hge : first.timeUs ≤ frame.timeUs := by
        rcases List.mem_cons.mp hframe with rfl | hrest
        · exact le_refl _
        · exact hfirst frame hrest
      simp only [sampleTimeUs, htime frame hframe]
      omega

/-- The frames of a clip, in terms of everything delivered. -/
theorem WindowInv.clipFrames_eq {s : MainActivity} {frames : List EncodedFrame}
    (h : WindowInv s.replay frames) (hrange : ∀ frame ∈ frames, frame.InRange) {seconds : Int32}
    (hseconds : 0 ≤ seconds.toInt) :
    clipFrames s seconds =
      framesSince (s.lastFrameTimeUs.toInt - min seconds.toInt 120 * 1000000) frames := by
  have hqueue : s.replayQueue = framesSince (s.lastFrameTimeUs.toInt - 120000000) frames :=
    h.queue_eq
  unfold clipFrames
  rw [hqueue]
  simp only [framesSince, List.filter_filter]
  refine List.filter_congr fun frame hframe ↦ ?_
  obtain ⟨newest, hnewest⟩ := Option.isSome_iff_exists.mp
    (List.getLast?_isSome.mpr (List.ne_nil_of_mem hframe))
  have hlast : s.lastFrameTimeUs = newest.presentationTimeUs := h.newest_eq newest hnewest
  have hcutoff := @ge_cutoff_iff newest frame (hrange newest (List.mem_of_getLast? hnewest)) seconds
    hseconds
  rw [hlast, ← Bool.decide_and, decide_eq_decide, hcutoff]
  unfold EncodedFrame.timeUs
  omega

/-- Exactness of the replay window. Assumes: frames delivered in order of their timestamps. After
any events the queue holds exactly the frames of the last 120 seconds, counted from the newest one.
If there is a format, a clip of any length is that of the frames of its length, or of 120 seconds.
-/
theorem replay_window_exact {events : List RecorderEvent}
    (hsorted : SortedBy EncodedFrame.timeUs (deliveredFrames events)) :
    (recorderRun .initial events).replayQueue =
        framesSince ((recorderRun .initial events).lastFrameTimeUs.toInt - 120000000)
          (deliveredFrames events) ∧
      (∀ newest ∈ (deliveredFrames events).getLast?,
        (recorderRun .initial events).lastFrameTimeUs = newest.presentationTimeUs) ∧
      ((recorderRun .initial events).outputFormat.isSome → ∀ seconds : Int32, 0 ≤ seconds.toInt →
        IsClipOf
          (framesSince ((recorderRun .initial events).lastFrameTimeUs.toInt -
            min seconds.toInt 120 * 1000000) (deliveredFrames events))
          (min seconds.toInt 120 * 1000000)
          (savedClip (recorderRun .initial events) seconds)) := by
  have hrange : ∀ frame ∈ deliveredFrames events, frame.InRange := by
    intro frame hframe
    obtain ⟨event, -, hevent⟩ := List.mem_filterMap.mp hframe
    exact (eventFrame_spec hevent).1
  have hstart : WindowInv MainActivity.initial.replay [] := ⟨rfl, by simp⟩
  have hinv := hstart.run (by simp) hsorted
  rw [List.nil_append] at hinv
  refine ⟨hinv.queue_eq, hinv.newest_eq, fun hformat seconds hseconds ↦ ?_⟩
  rw [savedClip_eq hformat, hinv.clipFrames_eq hrange hseconds]
  refine isClipOf_clipSamples (fun frame hframe ↦ hrange frame (List.mem_filter.mp hframe).1)
    (hsorted.sublist List.filter_sublist) fun first hfirst frame hframe ↦ ?_
  obtain ⟨newest, hnewest⟩ := Option.isSome_iff_exists.mp
    (List.getLast?_isSome.mpr (List.ne_nil_of_mem (List.mem_filter.mp hframe).1))
  have hlast : (recorderRun .initial events).lastFrameTimeUs = newest.presentationTimeUs :=
    hinv.newest_eq newest hnewest
  have hle := hsorted.le_getLast hnewest frame (List.mem_filter.mp hframe).1
  have hfirst := (List.mem_filter.mp (List.mem_of_mem_head? hfirst)).2
  rw [decide_eq_true_eq, hlast] at hfirst
  unfold EncodedFrame.timeUs at *
  omega

/-- A session with a format, a codec configuration and two frames 130 seconds apart. -/
def twoFrameSession : List RecorderEvent :=
  [.onOutputFormatChanged 0 ⟨"video/avc", []⟩ .none,
    .onOutputBufferAvailable 0 (.oneByte 9 0 2),
    .onOutputBufferAvailable 0 (.oneByte 1 0 1),
    .onOutputBufferAvailable 0 (.oneByte 2 130 0)]

/-- The window of such a session, and its clip of 30 seconds. -/
theorem replay_window_exact_two_frames :
    (recorderRun .initial twoFrameSession).replayQueue =
        framesSince ((recorderRun .initial twoFrameSession).lastFrameTimeUs.toInt - 120000000)
          (deliveredFrames twoFrameSession) ∧
      IsClipOf
        (framesSince ((recorderRun .initial twoFrameSession).lastFrameTimeUs.toInt -
          min (30 : Int32).toInt 120 * 1000000) (deliveredFrames twoFrameSession))
        (min (30 : Int32).toInt 120 * 1000000)
        (savedClip (recorderRun .initial twoFrameSession) 30) := by
  obtain ⟨hqueue, -, hclip⟩ := @replay_window_exact twoFrameSession (by unfold SortedBy; decide)
  exact ⟨hqueue, hclip (by decide) 30 (by decide)⟩

end UvcRtmpStream.Recorder
