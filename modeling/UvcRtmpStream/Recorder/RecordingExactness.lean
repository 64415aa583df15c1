import UvcRtmpStream.Foundations.Lists
import UvcRtmpStream.Recorder.ReplayWindow

/-!
# What a recording contains

A recording's muxer is opened by `startRecording`, when the format of the encoder is known already,
or by `onOutputFormatChanged`, and it is closed by `stopRecording` or `onPause`. In between
`onOutputBufferAvailable` puts every frame both into the replay queue and into the muxer.

The abstract view of this is a row of tapes (`Tapes`): one for each muxer, with what was written to
it, and the one that runs. An event stops the tape that runs, puts the frame it delivers on it,
starts a new one where none runs, or does nothing (`TapeMove`). The view of the activity makes these
moves where only the constructor of the muxer and the creation of the codec fail
(`tapeMove_recorderStep`).
-/

set_option autoImplicit false
set_option relaxedAutoImplicit false

namespace UvcRtmpStream.Recorder

open UvcRtmpStream.Foundations UvcRtmpStream.Platform

/-- What a frame of the queue and a sample of a muxer have in common. -/
structure FrameContent where
  data : List UInt8
  presentationTimeUs : Int64
  flags : Int32
  deriving DecidableEq

/-- The content of a frame. -/
def EncodedFrame.content (frame : EncodedFrame) : FrameContent :=
  ⟨frame.data, frame.presentationTimeUs, frame.flags⟩

/-- The contents of the samples that a muxer was given. -/
def sampleContents (muxer : MediaMuxer) : List FrameContent :=
  muxer.samples.map fun written ↦
    ⟨written.2.data, written.2.info.presentationTimeUs, written.2.info.flags⟩

/-! ### Tapes -/

/-- The tapes of all recordings, and the one that runs. -/
structure Tapes where
  running : Option ℕ
  tapes : List (List FrameContent)

namespace Tapes

/-- The tape that runs stops. -/
def stop (t : Tapes) : Tapes := { t with running := none }

/-- A new tape runs. -/
def start (t : Tapes) : Tapes := ⟨some t.tapes.length, t.tapes ++ [[]]⟩

/-- A frame is put on the tape that runs. -/
def record (t : Tapes) (content : FrameContent) : Tapes :=
  match t.running with
  | none => t
  | some tape => { t with tapes := t.tapes.modify tape (· ++ [content]) }

@[simp] theorem running_record (t : Tapes) (content : FrameContent) :
    (t.record content).running = t.running := by
  unfold record
  cases hrunning : t.running with
  | none => exact hrunning
  | some tape => rfl

/-- The tape that runs gets the frame, and no other one. -/
theorem getElem?_record (t : Tapes) (content : FrameContent) (index : ℕ) :
    (t.record content).tapes[index]? =
      if t.running = some index then t.tapes[index]?.map (· ++ [content]) else t.tapes[index]? := by
  unfold record
  cases hrunning : t.running with
  | none => simp
  | some tape =>
    by_cases hsame : tape = index <;> simp [hsame]

end Tapes

/-- The event is `stopRecording` or `onPause`. -/
def RecorderEvent.stops : RecorderEvent → Bool
  | .stopRecording _ => true
  | .onPause => true
  | _ => false

/-- What an event does to the tapes. -/
inductive TapeMove (event : RecorderEvent) (t : Tapes) : Tapes → Prop
  | stops (hstops : event.stops = true) : TapeMove event t t.stop
  | records (hstops : event.stops = false) {frame : EncodedFrame}
    (hframe : eventFrame event = some frame) :
    TapeMove event t (t.record frame.content)
  | starts (hstops : event.stops = false) (hframe : eventFrame event = none)
    (hnone : t.running = none) :
    TapeMove event t t.start
  | leaves (hstops : event.stops = false) (hframe : eventFrame event = none) : TapeMove event t t

/-! ### The state of a recording -/

/-- The tapes of the muxers. -/
def MuxerView.tapes (v : MuxerView) : Tapes := ⟨v.mediaMuxer, v.muxers.map sampleContents⟩

/-- What holds between the handlers. -/
structure MuxerView.Sound (v : MuxerView) : Prop where
  started : v.muxerStarted = v.mediaMuxer.isSome
  active : v.mediaMuxer.isSome = true → v.recordingActive = true
  live : ∀ muxer ∈ v.mediaMuxer, LiveTrack v.muxers muxer v.videoTrackIndex
  released : ∀ muxer held, v.muxers[muxer]? = some held → v.mediaMuxer ≠ some muxer →
    held.released = true

/-- Only the constructor of the muxer and the creation of the codec fail. -/
def RecorderEvent.FailsToCreateOnly : RecorderEvent → Prop
  | .startRecording encoderFault muxerFault _ =>
    (encoderFault = .none ∨ encoderFault = .createFails) ∧
      (muxerFault = .none ∨ muxerFault = .createFails)
  | .onOutputFormatChanged _ _ muxerFault => muxerFault = .none ∨ muxerFault = .createFails
  | _ => True

/-- A part of a handler that neither stops nor delivers: the recording goes on, or a muxer is opened
while it is active. -/
structure Proceeds (v w : MuxerView) : Prop where
  sound : w.Sound
  active : v.recordingActive = true → w.recordingActive = true
  tapes : w.tapes = v.tapes ∨ v.mediaMuxer = none ∧ w.tapes = v.tapes.start

namespace Proceeds

variable {v w : MuxerView}

theorem refl (h : v.Sound) : Proceeds v v := ⟨h, id, Or.inl rfl⟩

/-- The move of the tapes. -/
theorem tapeMove (h : Proceeds v w) {event : RecorderEvent} (hstops : event.stops = false)
    (hframe : eventFrame event = none) : TapeMove event v.tapes w.tapes := by
  rcases h.tapes with hsame | ⟨hnone, hstart⟩
  · rw [hsame]
    exact .leaves hstops hframe
  · rw [hstart]
    exact .starts hstops hframe hnone

/-- A muxer is opened at most once. -/
theorem trans {x : MuxerView} (h : Proceeds v w) (hnext : Proceeds w x) : Proceeds v x := by
  refine ⟨hnext.sound, hnext.active ∘ h.active, ?_⟩
  rcases h.tapes with hsame | ⟨hnone, hstart⟩
  · have hheld : w.mediaMuxer = v.mediaMuxer := congrArg Tapes.running hsame
    rw [← hsame, ← hheld]
    exact hnext.tapes
  · rcases hnext.tapes with hsame | ⟨hclosed, -⟩
    · exact Or.inr ⟨hnone, hsame.trans hstart⟩
    · cases hclosed.symm.trans (congrArg Tapes.running hstart)

/-- The flag and the format of the recording may change while no muxer is open. -/
theorem activate (h : v.Sound) (active : Bool) (format : Option MediaFormat)
    (hactive : v.recordingActive = true → active = true) :
    Proceeds v { v with recordingActive := active, outputFormat := format } where
  sound := { h with active := fun hheld ↦ hactive (h.active hheld) }
  active := hactive
  tapes := Or.inl rfl

end Proceeds

/-- `prepareMuxer` while the recording is active. -/
theorem proceeds_prepareMuxer {s : MainActivity} (h : s.muxing.Sound)
    (hactive : s.recordingActive = true) {fault : MuxerFault}
    (hfault : fault = .none ∨ fault = .createFails) :
    Proceeds s.muxing (prepareMuxer s fault).2.muxing := by
  unfold prepareMuxer
  split
  · next format hnone hformat =>
    rcases hfault with rfl | rfl
    · refine ⟨⟨rfl, fun _ ↦ hactive, ?_, ?_⟩, fun _ ↦ hactive, Or.inr ⟨hnone, ?_⟩⟩
      · rintro muxer hmuxer
        obtain rfl := Option.some.inj hmuxer
        exact liveTrack_newStarted s.muxers format
      · intro muxer held hheld hother
        have hlength : muxer ≠ s.muxers.length := fun hsame ↦ hother (congrArg some hsame.symm)
        refine h.released muxer held ?_
          fun hsome ↦ Option.some_ne_none muxer (hsome.symm.trans hnone)
        rcases Nat.lt_or_gt_of_ne hlength with hlt | hgt
        · exact (List.getElem?_append_left hlt).symm.trans hheld
        · have hlast : (s.muxers ++ [MediaMuxer.newStarted format]).length ≤ muxer := by
            rw [List.length_append, List.length_singleton]
            exact hgt
          cases (List.getElem?_eq_none hlast).symm.trans hheld
      · simp [MuxerView.tapes, MainActivity.muxing, Tapes.start, sampleContents,
          MediaMuxer.newStarted]
    · exact .refl h
  · exact .refl h

theorem proceeds_startRecording {s : MainActivity} (h : s.muxing.Sound)
    {encoderFault : EncoderFault} {muxerFault : MuxerFault}
    (hfault : muxerFault = .none ∨ muxerFault = .createFails) (sessionFails : Bool) :
    Proceeds s.muxing (startRecording s encoderFault muxerFault sessionFails).2.muxing := by
  unfold startRecording
  split_ifs
  · exact .refl h
  · exact .refl h
  · exact .refl h
  · let proceeds : MainActivity → Prop := fun s' ↦
      Proceeds s.muxing s'.muxing ∧ s'.recordingActive = true
    refine (Handled.andThen_holds proceeds (Handled.andThen_holds proceeds ?_ fun s' hs ↦ ?_)
      fun s' hs ↦ ?_).1
    · have hview := muxing_prepareEncoder { s with recordingActive := true } encoderFault
      refine ⟨hview ▸ ?_, congrArg MuxerView.recordingActive hview⟩
      exact .activate h true s.outputFormat fun _ ↦ rfl
    · split_ifs
      · exact ⟨hs.1.trans (proceeds_prepareMuxer hs.1.sound hs.2 hfault),
          (recordingActive_prepareMuxer s' muxerFault).trans hs.2⟩
      · exact hs
    · have hview := muxing_startPreviewSession s' true sessionFails
      exact ⟨hview ▸ hs.1, (congrArg MuxerView.recordingActive hview).trans hs.2⟩

theorem proceeds_onOutputFormatChanged {s : MainActivity} (h : s.muxing.Sound) (codec : ℕ)
    (format : MediaFormat) {muxerFault : MuxerFault}
    (hfault : muxerFault = .none ∨ muxerFault = .createFails) :
    Proceeds s.muxing (onOutputFormatChanged s codec format muxerFault).2.muxing := by
  have hannounced : Proceeds s.muxing (MainActivity.muxing { s with
      outputFormat := some format, announced := s.announced ++ [(codec, format)] }) :=
    .activate h s.recordingActive (some format) id
  unfold onOutputFormatChanged
  dsimp only
  split_ifs with hactive
  · exact hannounced.trans (proceeds_prepareMuxer hannounced.sound hactive hfault)
  · exact hannounced

/-- The muxers after `stopRecording` while the recording is active. -/
def stoppedMuxers (s : MainActivity) : List MediaMuxer :=
  match s.mediaMuxer with
  | none => s.muxers
  | some muxer =>
    s.muxers.modify muxer fun muxer ↦ (if s.muxerStarted then muxer.stop else muxer).release

theorem muxing_stopRecording {s : MainActivity} (hactive : s.recordingActive = true)
    (sessionFails : Bool) :
    (stopRecording s sessionFails).muxing = ⟨false, false, none, -1, none, stoppedMuxers s⟩ := by
  have hstop : ∀ s' : MainActivity, s'.muxing = { s.muxing with recordingActive := false } →
      (releaseEncoder { stopMuxer s' with muxerStarted := false, videoTrackIndex := -1 }).muxing =
        ⟨false, false, none, -1, none, stoppedMuxers s⟩ := by
    intro s' hs'
    have hmuxer : s'.mediaMuxer = s.mediaMuxer := congrArg MuxerView.mediaMuxer hs'
    have hmuxers : s'.muxers = s.muxers := congrArg MuxerView.muxers hs'
    have hflag : s'.recordingActive = false := congrArg MuxerView.recordingActive hs'
    have hstarted : s'.muxerStarted = s.muxerStarted := congrArg MuxerView.muxerStarted hs'
    unfold stopMuxer stoppedMuxers
    rw [← hmuxer, ← hmuxers, ← hstarted, ← hflag]
    cases hheld : s'.mediaMuxer with
    | none => simp only [releaseEncoder, MainActivity.muxing, hheld]
    | some muxer => rfl
  unfold stopRecording
  rw [hactive]
  exact hstop _ (muxing_startPreviewSession _ false sessionFails)

/-- `stop` and `release` write no sample. -/
theorem sampleContents_stopped (muxer : MediaMuxer) (started : Bool) :
    sampleContents (if started then muxer.stop else muxer).release = sampleContents muxer := by
  cases started <;> rfl

/-- `stopRecording` stops the muxer that is open. -/
theorem stops_stopRecording {s : MainActivity} (h : s.muxing.Sound) (sessionFails : Bool) :
    (stopRecording s sessionFails).muxing.Sound ∧
      (stopRecording s sessionFails).muxing.tapes = s.muxing.tapes.stop := by
  cases hactive : s.recordingActive with
  | false =>
    have hnone : s.mediaMuxer = none := by
      by_contra hheld
      have hset := h.active (Option.isSome_iff_ne_none.mpr hheld)
      exact Bool.false_ne_true (hactive.symm.trans hset)
    have hsame : stopRecording s sessionFails = s := by
      unfold stopRecording
      rw [hactive]
      rfl
    rw [hsame]
    refine ⟨h, ?_⟩
    exact congrArg (Tapes.mk · (s.muxers.map sampleContents)) hnone
  | true =>
    rw [muxing_stopRecording hactive]
    refine ⟨⟨rfl, nofun, nofun, fun muxer held hheld _ ↦ ?_⟩, congrArg (Tapes.mk none) ?_⟩
    · have hold : ∀ held, s.muxers[muxer]? = some held → s.mediaMuxer ≠ some muxer →
          held.released = true := fun held ↦ h.released muxer held
      simp only [stoppedMuxers] at hheld
      cases hopen : s.mediaMuxer with
      | none =>
        rw [hopen] at hheld hold
        exact hold held hheld nofun
      | some current =>
        rw [hopen] at hheld hold
        simp only [List.getElem?_modify] at hheld
        by_cases hsame : current = muxer
        · obtain ⟨old, -, rfl⟩ := Option.map_eq_some_iff.mp hheld
          rw [if_pos hsame]
          rfl
        · simp only [if_neg hsame, Option.map_eq_map, Option.map_id'] at hheld
          exact hold held hheld fun hother ↦ hsame (Option.some.inj hother)
    · unfold stoppedMuxers
      cases s.mediaMuxer with
      | none => rfl
      | some current =>
        exact map_modify_of_eq (fun muxer ↦ sampleContents_stopped muxer s.muxerStarted) _ _

/-- A frame is written to the muxer that is open. -/
theorem records_writeSample {s : MainActivity} (h : s.muxing.Sound) (sample : Sample) :
    (writeSample s sample).2.muxing.Sound ∧
      (writeSample s sample).2.muxing.tapes = s.muxing.tapes.record
        ⟨sample.data, sample.info.presentationTimeUs, sample.info.flags⟩ := by
  cases hopen : s.mediaMuxer with
  | none =>
    have hsame : writeSample s sample = (none, s) := by
      unfold writeSample
      rw [hopen]
    rw [hsame]
    refine ⟨h, ?_⟩
    simp [Tapes.record, MuxerView.tapes, MainActivity.muxing, hopen]
  | some muxer =>
    obtain ⟨held, hheld, hrunning, htrack⟩ := h.live muxer hopen
    have hget : s.muxers[muxer]? = some held := hheld
    have hisSome : s.mediaMuxer.isSome = true := Option.isSome_of_eq_some hopen
    have hactive : s.recordingActive = true := h.active hisSome
    have hstarted : s.muxerStarted = true := h.started.trans hisSome
    have hwritten : held.writeSampleData s.videoTrackIndex sample =
        .ok { held with samples := held.samples ++ [(s.videoTrackIndex, sample)] } :=
      MediaMuxer.writeSampleData_of_running hrunning htrack sample
    have hwrite : writeSample s sample = (none, { s with
        muxers := s.muxers.modify muxer fun held ↦
          { held with samples := held.samples ++ [(s.videoTrackIndex, sample)] } }) := by
      unfold writeSample
      simp only [hopen, hactive, hstarted, hget, Option.getD_some, Bool.and_self, if_true, hwritten,
        List.modify_eq_set_getElem?]
      rfl
    rw [hwrite]
    refine ⟨⟨h.started, h.active, fun current hcurrent ↦ ?_, fun index other hother hclosed ↦ ?_⟩,
      ?_⟩
    · obtain rfl := Option.some.inj (hopen.symm.trans hcurrent)
      refine ⟨{ held with samples := held.samples ++ [(s.videoTrackIndex, sample)] }, ?_, hrunning,
        htrack⟩
      rw [MainActivity.muxing, List.getElem?_modify_eq, hget]
      rfl
    · have hne : muxer ≠ index := fun hsame ↦ hclosed (hsame ▸ hopen)
      exact h.released index other ((List.getElem?_modify_ne _ _ hne).symm.trans hother) hclosed
    · let content : FrameContent :=
        ⟨sample.data, sample.info.presentationTimeUs, sample.info.flags⟩
      have happend : ∀ held : MediaMuxer, sampleContents
          { held with samples := held.samples ++ [(s.videoTrackIndex, sample)] } =
            sampleContents held ++ [content] := fun held ↦ List.map_append
      simp only [MuxerView.tapes, MainActivity.muxing, Tapes.record, hopen]
      exact congrArg (Tapes.mk (some muxer)) (map_modify (· ++ [content]) happend s.muxers muxer)

/-! ### Events -/

/-- The entry of the queue and the sample have the same content. -/
theorem content_deliveredFrame {codec : ℕ} {output : CodecOutput} {frame : EncodedFrame}
    (h : deliveredFrame codec output = some frame) :
    frame.content =
      ⟨frame.data, output.info.presentationTimeUs, output.info.flags⟩ := by
  unfold deliveredFrame at h
  cases hbuffer : output.buffer with
  | none => simp [hbuffer] at h
  | some outputBuffer =>
    simp only [hbuffer] at h
    split_ifs at h
    obtain rfl := Option.some.inj h
    rfl

/-- What an event does to the recording and to the tapes. -/
theorem tapeMove_recorderStep {s : MainActivity} (h : s.muxing.Sound) {event : RecorderEvent}
    (honly : event.FailsToCreateOnly) :
    (recorderStep s event).muxing.Sound ∧
      TapeMove event s.muxing.tapes (recorderStep s event).muxing.tapes := by
  have hquiet : ∀ {s' : MainActivity}, s'.muxing = s.muxing → event.stops = false →
      eventFrame event = none →
        s'.muxing.Sound ∧ TapeMove event s.muxing.tapes s'.muxing.tapes := by
    intro s' hview hstops hframe
    rw [hview]
    exact ⟨h, .leaves hstops hframe⟩
  cases event with
  | onResume accepted => exact hquiet (view_onResume (fun _ _ _ ↦ rfl) s accepted) rfl rfl
  | onPause =>
    have hview := muxing_closePreview s
    have hstop := stops_stopRecording (hview.symm ▸ h : (closePreview s).muxing.Sound) false
    rw [hview] at hstop
    refine ⟨hstop.1, ?_⟩
    have htapes : (recorderStep s .onPause).muxing.tapes = s.muxing.tapes.stop := hstop.2
    rw [htapes]
    exact .stops rfl
  | onSurfaceTextureAvailable accepted => exact hquiet (muxing_openCamera _ accepted) rfl rfl
  | onSurfaceTextureDestroyed => exact hquiet rfl rfl rfl
  | onRequestPermissionsResult granted accepted =>
    exact hquiet (view_onRequestPermissionsResult (fun _ _ _ ↦ rfl) s granted accepted) rfl rfl
  | onOpened camera sessionFails =>
    have hview := @view_onOpened _ MainActivity.muxing (fun _ _ _ _ ↦ rfl) (fun _ _ _ ↦ rfl) s
    exact hquiet (hview camera sessionFails) rfl rfl
  | onDisconnected camera => exact hquiet rfl rfl rfl
  | onError camera => exact hquiet rfl rfl rfl
  | onConfigured session => exact hquiet rfl rfl rfl
  | startRecording encoderFault muxerFault sessionFails =>
    have hproceeds := @proceeds_startRecording s h encoderFault muxerFault honly.2 sessionFails
    exact ⟨hproceeds.sound, hproceeds.tapeMove rfl rfl⟩
  | stopRecording sessionFails =>
    obtain ⟨hsound, htapes⟩ := stops_stopRecording h sessionFails
    refine ⟨hsound, ?_⟩
    simp only [recorderStep, htapes]
    exact .stops rfl
  | onOutputFormatChanged codec format muxerFault =>
    have hproceeds := proceeds_onOutputFormatChanged h codec format honly
    exact ⟨hproceeds.sound, hproceeds.tapeMove rfl rfl⟩
  | onOutputBufferAvailable codec output =>
    cases hframe : deliveredFrame codec output with
    | none =>
      have hsame : recorderStep s (.onOutputBufferAvailable codec output) = s := by
        simp only [recorderStep, onOutputBufferAvailable_eq, hframe]
      rw [hsame]
      exact ⟨h, .leaves rfl hframe⟩
    | some frame =>
      have hview := muxing_storeReplayFrame s frame.data frame.presentationTimeUs frame.flags
        frame.source
      have hrecord := @records_writeSample (storeReplayFrame s frame.data frame.presentationTimeUs
        frame.flags frame.source) (hview.symm ▸ h) ⟨output.info, frame.data⟩
      rw [hview, ← content_deliveredFrame hframe] at hrecord
      simp only [recorderStep, onOutputBufferAvailable_eq, hframe]
      refine ⟨hrecord.1, ?_⟩
      rw [hrecord.2]
      exact .records rfl hframe
  | saveReplayClip seconds => exact hquiet (muxing_saveReplayClip s seconds) rfl rfl
  | clipAddTrack worker createFails => exact hquiet rfl rfl rfl
  | clipWriteSamples worker => exact hquiet rfl rfl rfl

/-! ### Runs -/

/-- The events of one recording: the one that opens the muxer, those until it is stopped, and those
from then on. -/
structure RecordedSpan (events : List RecorderEvent) (muxer : ℕ) (start : RecorderEvent)
    (before during rest : List RecorderEvent) : Prop where
  events_eq : events = before ++ start :: (during ++ rest)
  unopened : (recorderRun .initial before).muxers.length = muxer
  opened : (recorderRun .initial (before ++ [start])).mediaMuxer = some muxer
  runs : ∀ event ∈ during, event.stops = false
  stopped : ∀ event ∈ rest.head?, event.stops = true

namespace RecordedSpan

variable {events before during rest : List RecorderEvent} {muxer : ℕ} {start event : RecorderEvent}

/-- The recording goes on. -/
theorem goOn (h : RecordedSpan events muxer start before during []) (hstops : event.stops = false) :
    RecordedSpan (events ++ [event]) muxer start before (during ++ [event]) [] := by
  refine { h with events_eq := ?_, runs := fun other hother ↦ ?_ }
  · rw [h.events_eq]
    simp
  · rcases List.mem_append.mp hother with hold | hnew
    · exact h.runs other hold
    · rw [List.mem_singleton.mp hnew]
      exact hstops

/-- The recording is stopped now, or was stopped before. -/
theorem leave (h : RecordedSpan events muxer start before during rest)
    (hstops : rest = [] → event.stops = true) :
    RecordedSpan (events ++ [event]) muxer start before during (rest ++ [event]) := by
  refine { h with events_eq := ?_, stopped := fun other hother ↦ ?_ }
  · rw [h.events_eq]
    simp
  · cases rest with
    | nil =>
      obtain rfl := Option.some.inj hother
      exact hstops rfl
    | cons first later => exact h.stopped other hother

end RecordedSpan

theorem deliveredFrames_concat (events : List RecorderEvent) (event : RecorderEvent) :
    deliveredFrames (events ++ [event]) = deliveredFrames events ++ (eventFrame event).toList := by
  rw [deliveredFrames, List.filterMap_append]
  cases hframe : eventFrame event <;> simp [deliveredFrames, hframe]

/-- The recordings of a run: every tape holds what was delivered during its recording, which goes on
while the tape runs. -/
def Taped (events : List RecorderEvent) (t : Tapes) : Prop :=
  ∀ muxer tape, t.tapes[muxer]? = some tape → ∃ start before during rest,
    RecordedSpan events muxer start before during rest ∧
      tape = (deliveredFrames during).map EncodedFrame.content ∧
      (rest = [] ↔ t.running = some muxer)

/-- The step lemma. Assumes: the tapes before the event are those of the state it is taken in. -/
theorem Taped.step {events : List RecorderEvent} {event : RecorderEvent} {t t' : Tapes}
    (h : Taped events t) (hlength : (recorderRun .initial events).muxers.length = t.tapes.length)
    (hrunning : (recorderRun .initial (events ++ [event])).mediaMuxer = t'.running)
    (hmove : TapeMove event t t') : Taped (events ++ [event]) t' := by
  intro muxer tape htape
  cases hmove with
  | stops hstops =>
    obtain ⟨start, before, during, rest, hspan, htaped, -⟩ := h muxer tape htape
    refine ⟨start, before, during, rest ++ [event], hspan.leave fun _ ↦ hstops, htaped, ?_⟩
    simp [Tapes.stop]
  | records hstops hframe =>
    rw [Tapes.getElem?_record] at htape
    rw [Tapes.running_record]
    by_cases hruns : t.running = some muxer
    · rw [if_pos hruns, Option.map_eq_some_iff] at htape
      obtain ⟨old, hold, rfl⟩ := htape
      obtain ⟨start, before, during, rest, hspan, rfl, hrest⟩ := h muxer old hold
      obtain rfl := hrest.mpr hruns
      refine ⟨start, before, during ++ [event], [], hspan.goOn hstops, ?_, hrest⟩
      rw [deliveredFrames_concat, hframe, List.map_append]
      rfl
    · rw [if_neg hruns] at htape
      obtain ⟨start, before, during, rest, hspan, htaped, hrest⟩ := h muxer tape htape
      refine ⟨start, before, during, rest ++ [event], hspan.leave fun hnil ↦ ?_, htaped, ?_⟩
      · exact absurd (hrest.mp hnil) hruns
      · simp [hruns]
  | starts hstops hframe hnone =>
    by_cases hnew : muxer = t.tapes.length
    · subst hnew
      rw [Tapes.start, List.getElem?_concat_length, Option.some.injEq] at htape
      refine ⟨event, events, [], [], ⟨rfl, hlength, hrunning, ?_, ?_⟩, htape.symm, ?_⟩
      · exact fun other hother ↦ absurd hother List.not_mem_nil
      · exact fun other hother ↦ absurd hother (Option.not_mem_none other)
      · simp [Tapes.start]
    · have hold : t.tapes[muxer]? = some tape := by
        rw [← htape, Tapes.start, List.getElem?_append]
        split_ifs with hlt
        · rfl
        · rw [List.getElem?_eq_none (Nat.le_of_not_lt hlt), List.getElem?_eq_none]
          rw [List.length_singleton]
          omega
      obtain ⟨start, before, during, rest, hspan, htaped, hrest⟩ := h muxer tape hold
      refine ⟨start, before, during, rest ++ [event], hspan.leave fun hnil ↦ ?_, htaped, ?_⟩
      · cases hnone.symm.trans (hrest.mp hnil)
      · simp [Tapes.start, Ne.symm hnew]
  | leaves hstops hframe =>
    obtain ⟨start, before, during, rest, hspan, htaped, hrest⟩ := h muxer tape htape
    by_cases hnil : rest = []
    · subst hnil
      refine ⟨start, before, during ++ [event], [], hspan.goOn hstops, ?_, hrest⟩
      rw [deliveredFrames_concat, hframe, Option.toList_none, List.append_nil]
      exact htaped
    · refine ⟨start, before, during, rest ++ [event], hspan.leave fun h ↦ absurd h hnil, htaped, ?_⟩
      simp [← hrest, hnil]

/-- The run lemma. -/
theorem taped_recorderRun {events : List RecorderEvent}
    (honly : ∀ event ∈ events, RecorderEvent.FailsToCreateOnly event) :
    (recorderRun .initial events).muxing.Sound ∧
      Taped events (recorderRun .initial events).muxing.tapes := by
  induction events using List.reverseRecOn with
  | nil => exact ⟨⟨rfl, nofun, nofun, nofun⟩, nofun⟩
  | append_singleton events event ih =>
    obtain ⟨hsound, htaped⟩ := ih fun other hother ↦ honly other (List.mem_append_left _ hother)
    obtain ⟨hsoundNext, hmove⟩ := tapeMove_recorderStep hsound
      (honly event (List.mem_append_right _ (List.mem_singleton_self event)))
    have hrun : recorderRun .initial (events ++ [event]) =
        recorderStep (recorderRun .initial events) event := run_append ..
    rw [← hrun] at hsoundNext hmove
    exact ⟨hsoundNext, htaped.step (List.length_map _).symm rfl hmove⟩

/-- The queue gets the frames that are delivered, and loses frames at its front only. -/
theorem replayQueue_recorderRun (s : MainActivity) (events : List RecorderEvent) :
    ∃ dropped, dropped ++ (recorderRun s events).replayQueue =
      s.replayQueue ++ deliveredFrames events := by
  induction events generalizing s with
  | nil => exact ⟨[], (List.append_nil _).symm⟩
  | cons event rest ih =>
    obtain ⟨dropped, hdropped⟩ := ih (recorderStep s event)
    cases hframe : eventFrame event with
    | none =>
      have hsame : (recorderStep s event).replayQueue = s.replayQueue :=
        congrArg ReplayView.replayQueue (replay_recorderStep_of_none hframe)
      refine ⟨dropped, ?_⟩
      rw [recorderRun, run_cons, hdropped, hsame, deliveredFrames, deliveredFrames,
        List.filterMap_cons_none hframe]
    | some frame =>
      obtain ⟨evicted, hevicted⟩ : ∃ evicted, evicted ++ (recorderStep s event).replayQueue =
          s.replayQueue ++ [frame] := by
        have hnonempty : frame.data.isEmpty = false := by simpa using (eventFrame_spec hframe).2
        have hqueue : (recorderStep s event).replayQueue = _ :=
          congrArg ReplayView.replayQueue (replay_recorderStep_of_some hframe)
        rw [hqueue]
        simp only [storeReplayFrame, hnonempty, Bool.false_eq_true, if_false, MainActivity.replay]
        exact ⟨_, List.takeWhile_append_dropWhile⟩
      refine ⟨evicted ++ dropped, ?_⟩
      rw [recorderRun, run_cons, List.append_assoc, hdropped, ← List.append_assoc, hevicted,
        List.append_assoc, deliveredFrames, deliveredFrames, List.filterMap_cons_some hframe,
        List.singleton_append]

/-- What holds of a recording between the handlers. -/
structure RecordingState (s : MainActivity) : Prop where
  single : ∀ first second : ℕ, (s.muxers[first]?).any (!MediaMuxer.released ·) = true →
    (s.muxers[second]?).any (!MediaMuxer.released ·) = true → first = second
  started : s.muxerStarted = true ↔ s.mediaMuxer.isSome = true
  active : s.mediaMuxer.isSome = true → s.recordingActive = true

theorem MuxerView.Sound.recordingState {s : MainActivity} (h : s.muxing.Sound) :
    RecordingState s := by
  have hopen : ∀ index : ℕ, (s.muxers[index]?).any (!MediaMuxer.released ·) = true →
      s.mediaMuxer = some index := by
    intro index hunreleased
    obtain ⟨muxer, hmuxer, hnot⟩ := (Option.any_eq_true _ _).mp hunreleased
    rw [Bool.not_eq_true'] at hnot
    by_contra hother
    exact Bool.false_ne_true (hnot.symm.trans (h.released index muxer hmuxer hother))
  refine ⟨fun first second hfirst hsecond ↦ ?_, ?_, h.active⟩
  · exact Option.some.inj ((hopen first hfirst).symm.trans (hopen second hsecond))
  · have hstarted : s.muxerStarted = s.mediaMuxer.isSome := h.started
    rw [hstarted]

/-- The samples of a muxer are what was delivered from its start to the next stop, and the same was
put into the replay queue. -/
def ExactRecording (events : List RecorderEvent) (muxer : ℕ) (held : MediaMuxer) : Prop :=
  ∃ start before during rest, RecordedSpan events muxer start before during rest ∧
    sampleContents held = (deliveredFrames during).map EncodedFrame.content ∧
    ∃ dropped, dropped ++ (recorderRun .initial (before ++ start :: during)).replayQueue =
      (recorderRun .initial (before ++ [start])).replayQueue ++ deliveredFrames during

/-- Along any handlers and callbacks in which only the constructor of the muxer and the creation of
the codec fail, at most one muxer is unreleased, `muxerStarted` says that there is one, it is there
during an active recording only, and every muxer holds exactly what was delivered until it was
stopped. -/
theorem recordings_exact (events : List RecorderEvent)
    (honly : ∀ event ∈ events, RecorderEvent.FailsToCreateOnly event) :
    Throughout recorderStep RecordingState .initial events ∧
      ∀ muxer held, (recorderRun .initial events).muxers[muxer]? = some held →
        ExactRecording events muxer held := by
  constructor
  · intro taken hpart
    exact (taped_recorderRun fun event hevent ↦
      honly event (hpart.subset hevent)).1.recordingState
  · intro muxer held hheld
    have htape : (recorderRun .initial events).muxing.tapes.tapes[muxer]? =
        some (sampleContents held) := by
      rw [MuxerView.tapes, MainActivity.muxing, List.getElem?_map, hheld]
      rfl
    obtain ⟨start, before, during, rest, hspan, htaped, -⟩ :=
      (taped_recorderRun honly).2 muxer _ htape
    refine ⟨start, before, during, rest, hspan, htaped, ?_⟩
    obtain ⟨dropped, hdropped⟩ :=
      replayQueue_recorderRun (recorderRun .initial (before ++ [start])) during
    refine ⟨dropped, ?_⟩
    rw [← hdropped, recorderRun, recorderRun, recorderRun, ← run_append, List.append_assoc,
      List.singleton_append]

/-- A recording whose muxer cannot be created at first, and one that is stopped by `onPause`. -/
def twoRecordings : List RecorderEvent :=
  [.onRequestPermissionsResult true false, .onOpened 0 false,
    .startRecording .none .none false,
    .onOutputFormatChanged 0 ⟨"video/avc", []⟩ .createFails,
    .onOutputBufferAvailable 0 (.oneByte 1 0 1),
    .onOutputFormatChanged 0 ⟨"video/avc", []⟩ .none,
    .onOutputBufferAvailable 0 (.oneByte 9 0 2),
    .onOutputBufferAvailable 0 (.oneByte 2 1 1),
    .stopRecording false,
    .startRecording .none .none false,
    .onOutputFormatChanged 1 ⟨"video/avc", []⟩ .none,
    .onOutputBufferAvailable 1 (.oneByte 3 2 1),
    .onPause]

theorem recordings_exact_two :
    Throughout recorderStep RecordingState .initial twoRecordings ∧
      ∀ muxer held, (recorderRun .initial twoRecordings).muxers[muxer]? = some held →
        ExactRecording twoRecordings muxer held :=
  recordings_exact twoRecordings (by simp [twoRecordings, RecorderEvent.FailsToCreateOnly])

end UvcRtmpStream.Recorder
