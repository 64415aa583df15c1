import UvcRtmpStream.Recorder.ActivitySpec

/-!
# The format of a clip

A clip is meant to be muxed with the format of the codec session its frames come from
(`MuxedWithOwnFormat`). The thread of the clip does not get the format with the frames: it reads
`outputFormat` when it comes to add the track. By then a stop can have cleared the field, and a new
session can have announced another format. And the queue outlives a session, so the frames of a clip
can come from a session whose format is no longer in the field when the clip is requested.

`FormatStays` excludes both: the frames taken from the queue come from sessions that announced the
format in force, and the thread finds the format that the UI thread found. Runs that meet it mux
every clip with its own format (`clips_muxed_with_own_format`).
-/

set_option autoImplicit false
set_option relaxedAutoImplicit false

namespace UvcRtmpStream.Recorder

open UvcRtmpStream.Foundations UvcRtmpStream.Platform

/-- A thread that adds its track does so with a format, which every session that produced one of its
frames announced. -/
def MuxedWithOwnFormat (s : MainActivity) : RecorderEvent → Prop
  | .clipAddTrack worker createFails =>
    ∀ clip ∈ s.workers[worker]?, clip.stage = .created → createFails = false →
      ∃ format ∈ s.outputFormat, ∀ frame ∈ clip.frames, (frame.source, format) ∈ s.announced
  | _ => True

/-- The frames of a clip that is requested come from sessions that announced the format in force,
and a thread that adds its track finds the format that was in force when the clip was requested. -/
def FormatStays (s : MainActivity) : RecorderEvent → Prop
  | .saveReplayClip seconds =>
    ∀ format ∈ s.outputFormat, ∀ frame ∈ clipFrames s seconds,
      (frame.source, format) ∈ s.announced
  | .clipAddTrack worker createFails =>
    ∀ clip ∈ s.workers[worker]?, clip.stage = .created → createFails = false →
      s.outputFormat = some clip.checkedFormat
  | _ => True

instance (s : MainActivity) : (event : RecorderEvent) → Decidable (FormatStays s event)
  | .saveReplayClip seconds => inferInstanceAs (Decidable (∀ format ∈ s.outputFormat,
      ∀ frame ∈ clipFrames s seconds, (frame.source, format) ∈ s.announced))
  | .clipAddTrack worker createFails => inferInstanceAs (Decidable (∀ clip ∈ s.workers[worker]?,
      clip.stage = .created → createFails = false → s.outputFormat = some clip.checkedFormat))
  | .onResume _ | .onPause | .onSurfaceTextureAvailable _ | .onSurfaceTextureDestroyed
  | .onRequestPermissionsResult _ _ | .onConfigured _ | .startRecording _ _ _ | .stopRecording _
  | .onOutputFormatChanged _ _ _ | .onOutputBufferAvailable _ _ | .onOpened _ _
  | .onDisconnected _ | .onError _ | .clipWriteSamples _ =>
    instDecidableTrue

/-! ### What the thread of a clip was given -/

/-- The frames of every clip come from sessions that announced the format found when the clip was
requested. -/
def ClipsAnnounced (view : ClipView) : Prop :=
  ∀ clip ∈ view.workers, ∀ frame ∈ clip.frames, (frame.source, clip.checkedFormat) ∈ view.announced

/-- The thread of a clip keeps its frames and never looks at the format that was checked. -/
theorem ClipWorker.frames_addTrack (clip : ClipWorker) (outputFormat : Option MediaFormat)
    (createFails : Bool) :
    (clip.addTrack outputFormat createFails).frames = clip.frames ∧
      (clip.addTrack outputFormat createFails).checkedFormat = clip.checkedFormat := by
  unfold ClipWorker.addTrack
  split
  · split_ifs
    · exact ⟨rfl, rfl⟩
    · split
      · exact ⟨rfl, rfl⟩
      · split <;> exact ⟨rfl, rfl⟩
  · exact ⟨rfl, rfl⟩

theorem ClipWorker.frames_writeSamples (clip : ClipWorker) :
    clip.writeSamples.frames = clip.frames ∧
      clip.writeSamples.checkedFormat = clip.checkedFormat := by
  unfold ClipWorker.writeSamples
  split
  · split <;> exact ⟨rfl, rfl⟩
  · exact ⟨rfl, rfl⟩

/-- A step of one thread keeps what the threads were given. -/
theorem ClipsAnnounced.modify {view : ClipView} (h : ClipsAnnounced view) (worker : ℕ)
    {advance : ClipWorker → ClipWorker}
    (hkeeps : ∀ clip, (advance clip).frames = clip.frames ∧
      (advance clip).checkedFormat = clip.checkedFormat) :
    ClipsAnnounced ⟨view.workers.modify worker advance, view.announced⟩ := by
  intro clip hclip frame hframe
  obtain ⟨place, hplace⟩ := List.mem_iff_getElem?.mp hclip
  simp only [List.getElem?_modify] at hplace
  cases hold : view.workers[place]? with
  | none => simp [hold] at hplace
  | some old =>
    have hmem : old ∈ view.workers := List.mem_of_getElem? hold
    rw [hold, Option.map_eq_map, Option.map_some, Option.some_inj] at hplace
    have hgiven : clip.frames = old.frames ∧ clip.checkedFormat = old.checkedFormat := by
      rw [← hplace]
      split_ifs
      · exact hkeeps old
      · exact ⟨rfl, rfl⟩
    rw [hgiven.2]
    exact h old hmem frame (hgiven.1 ▸ hframe)

/-- More announcements do no harm. -/
theorem ClipsAnnounced.announce {view : ClipView} (h : ClipsAnnounced view)
    (announcement : ℕ × MediaFormat) :
    ClipsAnnounced ⟨view.workers, view.announced ++ [announcement]⟩ :=
  fun clip hclip frame hframe ↦ List.mem_append_left _ (h clip hclip frame hframe)

/-- A new thread whose frames come from sessions that announced its format. -/
theorem ClipsAnnounced.add {view : ClipView} (h : ClipsAnnounced view) {clip : ClipWorker}
    (hclip : ∀ frame ∈ clip.frames, (frame.source, clip.checkedFormat) ∈ view.announced) :
    ClipsAnnounced ⟨view.workers ++ [clip], view.announced⟩ := by
  intro other hother
  rcases List.mem_append.mp hother with hold | hnew
  · exact h other hold
  · rw [List.mem_singleton.mp hnew]
    exact hclip

/-- The step lemma. -/
theorem clipsAnnounced_recorderStep {s : MainActivity} {event : RecorderEvent}
    (h : ClipsAnnounced s.clips) (hstays : FormatStays s event) :
    ClipsAnnounced (recorderStep s event).clips := by
  have hsame : ∀ {s' : MainActivity}, s'.clips = s.clips → ClipsAnnounced s'.clips :=
    fun hview ↦ hview ▸ h
  cases event with
  | onResume accepted => exact hsame (view_onResume (fun _ _ _ ↦ rfl) s accepted)
  | onPause => exact hsame (congrArg (fun view ↦ view.2.2) (outside_closeCamera s))
  | onSurfaceTextureAvailable accepted =>
    exact hsame (view_openCamera (fun _ _ ↦ rfl) _ accepted)
  | onSurfaceTextureDestroyed => exact h
  | onRequestPermissionsResult granted accepted =>
    exact hsame (view_onRequestPermissionsResult (fun _ _ _ ↦ rfl) s granted accepted)
  | onOpened camera sessionFails =>
    exact hsame (view_onOpened (fun _ _ _ _ ↦ rfl) (fun _ _ _ ↦ rfl) s camera sessionFails)
  | onDisconnected camera => exact h
  | onError camera => exact h
  | onConfigured session => exact h
  | startRecording encoderFault muxerFault sessionFails =>
    exact hsame (congrArg (fun view ↦ view.2.2) (outside_startRecording s _ _ _))
  | stopRecording sessionFails =>
    exact hsame (congrArg (fun view ↦ view.2.2) (outside_stopRecording s sessionFails))
  | onOutputFormatChanged codec format muxerFault =>
    have hview : (recorderStep s (.onOutputFormatChanged codec format muxerFault)).clips = _ :=
      congrArg (fun view ↦ view.2.2) (outside_onOutputFormatChanged s codec format muxerFault)
    rw [hview]
    exact h.announce (codec, format)
  | onOutputBufferAvailable codec output =>
    exact hsame (clips_onOutputBufferAvailable s codec output)
  | saveReplayClip seconds =>
    rcases outside_saveReplayClip s seconds with hview | ⟨format, hformat, hview⟩
    · exact hsame (congrArg (fun view ↦ view.2.2) hview)
    · have hclips : (recorderStep s (.saveReplayClip seconds)).clips = _ :=
        congrArg (fun view ↦ view.2.2) hview
      rw [hclips]
      exact h.add (hstays format hformat)
  | clipAddTrack worker createFails =>
    exact h.modify worker fun clip ↦ clip.frames_addTrack s.outputFormat createFails
  | clipWriteSamples worker => exact h.modify worker ClipWorker.frames_writeSamples

/-! ### Runs -/

/-- In every run in which the frames of a requested clip come from sessions that announced the
format in force, and the thread finds that format when it adds its track, every clip is muxed with
the format of its own frames. -/
theorem clips_muxed_with_own_format {events : List RecorderEvent}
    (hstays : Meets recorderStep FormatStays .initial events) :
    Meets recorderStep MuxedWithOwnFormat .initial events := by
  refine @meets_of_inv _ _ recorderStep FormatStays MuxedWithOwnFormat
    (fun s ↦ ClipsAnnounced s.clips) _ _ (fun s event ↦ clipsAnnounced_recorderStep) ?_ ?_ hstays
  · intro s event h hstep
    cases event with
    | clipAddTrack worker createFails =>
      intro clip hclip hstage hcreate
      exact ⟨clip.checkedFormat, hstep clip hclip hstage hcreate,
        h clip (List.mem_of_getElem? hclip)⟩
    | _ => trivial
  · intro clip hclip
    exact absurd hclip (List.not_mem_nil)

/-- A recording from its start to the request of a clip: one codec session with one frame. -/
def clipRequested : List RecorderEvent :=
  [.onResume true, .onRequestPermissionsResult true true, .onSurfaceTextureAvailable true,
    .onOpened 0 false, .startRecording .none .none false,
    .onOutputFormatChanged 1 ⟨"video/avc", []⟩ .none,
    .onOutputBufferAvailable 1 (.oneByte 1 0 1),
    .saveReplayClip 30]

/-- A clip whose thread is done before the recording stops. -/
theorem clips_muxed_with_own_format_live :
    Meets recorderStep MuxedWithOwnFormat .initial
      (clipRequested ++ [.clipAddTrack 0 false, .clipWriteSamples 0, .stopRecording false]) :=
  clips_muxed_with_own_format (by decide)

/-- The recording stops before the thread of the clip adds its track: it finds no format. -/
theorem not_muxedWithOwnFormat_stopped :
    ¬ Meets recorderStep MuxedWithOwnFormat .initial
      (clipRequested ++ [.stopRecording false, .clipAddTrack 0 false]) := by
  intro h
  obtain ⟨-, -, hclip, -⟩ := meets_append.mp h
  obtain ⟨format, hformat, -⟩ := hclip _ rfl rfl rfl
  cases hformat

end UvcRtmpStream.Recorder
