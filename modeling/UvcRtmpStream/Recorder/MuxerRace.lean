import UvcRtmpStream.Recorder.ActivitySpec

/-!
# Stopping a recording while the encoder delivers

`stopRecording` runs on the UI thread and `onOutputBufferAvailable` on the thread of the encoder.
They share `recordingActive`, `muxerStarted`, `mediaMuxer` and `videoTrackIndex` without a lock.
Here the two are cut into the steps that touch these fields (`stopStep`, `deliverStep`), and the
threads take their steps in any order (`raceStep`). Run without interruption the steps do what the
handlers do (`run_stopRecording`, `run_onOutputBufferAvailable`).

Every sample is meant to be written to a muxer that is started, not stopped and not released, and to
a track of that muxer (`WritesAlive`). The encoder tests the fields and then writes, and
`stopRecording` clears `mediaMuxer` and `muxerStarted` only after it stopped the muxer, so both ways
of getting between a test and a write are open. `NoRace` closes them: the muxer is not stopped
between the encoder's test of `mediaMuxer` and its write, and that test is not passed between the
stop and the moment `mediaMuxer` is cleared. Runs without a race write to live muxers only
(`writes_alive`).
-/

set_option autoImplicit false
set_option relaxedAutoImplicit false

namespace UvcRtmpStream.Recorder

open UvcRtmpStream.Foundations UvcRtmpStream.Platform

/-- Where the UI thread is in `stopRecording`. -/
inductive StopPoint
  | idle
  | entered
  /-- `recordingActive` is cleared. -/
  | cleared
  | previewed
  | testedMuxer
  | testedStarted
  /-- `stop` was called, or left out because `muxerStarted` was not set. -/
  | stopped
  | released
  /-- `mediaMuxer` is null. -/
  | forgotten
  | clearedStarted
  | clearedTrack
  deriving DecidableEq

/-- Where the thread of the encoder is in `onOutputBufferAvailable`. -/
inductive DeliverPoint
  | idle
  | stored (sample : Sample)
  | testedActive (sample : Sample)
  | testedStarted (sample : Sample)
  | testedMuxer (sample : Sample)
  | loadedMuxer (muxer : Option ℕ) (sample : Sample)
  /-- `writeSampleData` is about to be called on this muxer with this track. -/
  | loadedTrack (muxer : Option ℕ) (track : ℤ) (sample : Sample)
  deriving DecidableEq

/-- The activity with its two threads. -/
structure Race where
  activity : MainActivity
  ui : StopPoint
  encoder : DeliverPoint

/-- The activity after `onCreate`, with both threads idle. -/
def Race.initial : Race := ⟨.initial, .idle, .idle⟩

/-- What happens: a handler or callback that is taken as one step, the start of one of the two that
are not, or the next step of a thread. -/
inductive RaceEvent
  | handler (event : RecorderEvent)
  | stopRecording
  | onPause
  | ui (sessionFails : Bool)
  | onOutputBufferAvailable (codec : ℕ) (output : CodecOutput)
  | encoder

/-- A call on the muxer in `mediaMuxer`. -/
def onMuxer (s : MainActivity) (call : MediaMuxer → MediaMuxer) : MainActivity :=
  match s.mediaMuxer with
  | none => s
  | some muxer => { s with muxers := s.muxers.modify muxer call }

/-- The next step of `stopRecording`. -/
def stopStep (s : Race) (sessionFails : Bool) : Race :=
  match s.ui with
  | .idle => s
  | .entered =>
    if s.activity.recordingActive then
      { s with activity := { s.activity with recordingActive := false }, ui := .cleared }
    else { s with ui := .idle }
  | .cleared =>
    { s with activity := startPreviewSession s.activity false sessionFails, ui := .previewed }
  | .previewed =>
    { s with ui := if s.activity.mediaMuxer.isSome then .testedMuxer else .forgotten }
  | .testedMuxer => { s with ui := if s.activity.muxerStarted then .testedStarted else .stopped }
  | .testedStarted => { s with activity := onMuxer s.activity MediaMuxer.stop, ui := .stopped }
  | .stopped => { s with activity := onMuxer s.activity MediaMuxer.release, ui := .released }
  | .released => { s with activity := { s.activity with mediaMuxer := none }, ui := .forgotten }
  | .forgotten =>
    { s with activity := { s.activity with muxerStarted := false }, ui := .clearedStarted }
  | .clearedStarted =>
    { s with activity := { s.activity with videoTrackIndex := -1 }, ui := .clearedTrack }
  | .clearedTrack => { s with activity := releaseEncoder s.activity, ui := .idle }

/-- `writeSampleData` on a muxer and a track that were read before. -/
def writeLoaded (s : MainActivity) (muxer : Option ℕ) (track : ℤ) (sample : Sample) :
    MainActivity :=
  match muxer with
  | none => s
  | some muxer =>
    match (s.muxers[muxer]?.getD MediaMuxer.new).writeSampleData track sample with
    | .error _ => s
    | .ok written => { s with muxers := s.muxers.set muxer written }

/-- The next step of `onOutputBufferAvailable`. -/
def deliverStep (s : Race) : Race :=
  match s.encoder with
  | .idle => s
  | .stored sample =>
    { s with encoder := if s.activity.recordingActive then .testedActive sample else .idle }
  | .testedActive sample =>
    { s with encoder := if s.activity.muxerStarted then .testedStarted sample else .idle }
  | .testedStarted sample =>
    { s with encoder := if s.activity.mediaMuxer.isSome then .testedMuxer sample else .idle }
  | .testedMuxer sample => { s with encoder := .loadedMuxer s.activity.mediaMuxer sample }
  | .loadedMuxer muxer sample =>
    { s with encoder := .loadedTrack muxer s.activity.videoTrackIndex sample }
  | .loadedTrack muxer track sample =>
    { s with activity := writeLoaded s.activity muxer track sample, encoder := .idle }

/-- The event is a handler that its thread can take as one step now. -/
def Race.Free (s : Race) : RecorderEvent → Prop
  | .onResume _ | .onSurfaceTextureAvailable _ | .onSurfaceTextureDestroyed
  | .onRequestPermissionsResult _ _ | .startRecording _ _ _ | .saveReplayClip _ => s.ui = .idle
  | .onOutputFormatChanged _ _ _ => s.encoder = .idle
  | .onOpened _ _ | .onDisconnected _ | .onError _ | .onConfigured _
  | .clipAddTrack _ _ | .clipWriteSamples _ => True
  | .onPause | .stopRecording _ | .onOutputBufferAvailable _ _ => False

instance (s : Race) : (event : RecorderEvent) → Decidable (s.Free event)
  | .onResume _ | .onSurfaceTextureAvailable _ | .onSurfaceTextureDestroyed
  | .onRequestPermissionsResult _ _ | .startRecording _ _ _ | .saveReplayClip _ =>
    decEq s.ui .idle
  | .onOutputFormatChanged _ _ _ => decEq s.encoder .idle
  | .onOpened _ _ | .onDisconnected _ | .onError _ | .onConfigured _
  | .clipAddTrack _ _ | .clipWriteSamples _ => instDecidableTrue
  | .onPause | .stopRecording _ | .onOutputBufferAvailable _ _ => instDecidableFalse

/-- The state after an event. A thread that is busy takes up nothing new. -/
def raceStep (s : Race) : RaceEvent → Race
  | .handler event =>
    if s.Free event then { s with activity := recorderStep s.activity event } else s
  | .stopRecording => if s.ui = .idle then { s with ui := .entered } else s
  | .onPause =>
    if s.ui = .idle then
      { s with activity := { closePreview s.activity with lifecycle := .paused }, ui := .entered }
    else s
  | .ui sessionFails => stopStep s sessionFails
  | .onOutputBufferAvailable codec output =>
    match s.encoder, deliveredFrame codec output with
    | .idle, some frame =>
      { s with
        activity := storeReplayFrame s.activity frame.data frame.presentationTimeUs frame.flags
          frame.source
        encoder := .stored ⟨output.info, frame.data⟩ }
    | _, _ => s
  | .encoder => deliverStep s

/-! ### The steps make up the handlers -/

/-- The second part of `stopRecording`: the muxer is stopped, released and forgotten, and the
encoder is released. -/
theorem run_stopMuxer (s : MainActivity) (encoder : DeliverPoint) (sessionFails : Bool) :
    run raceStep ⟨s, .previewed, encoder⟩ (List.replicate 8 (.ui sessionFails)) =
      ⟨releaseEncoder { stopMuxer s with muxerStarted := false, videoTrackIndex := -1 }, .idle,
        encoder⟩ := by
  cases hheld : s.mediaMuxer with
  | none => simp [List.replicate, raceStep, stopStep, stopMuxer, hheld]
  | some muxer =>
    cases hstarted : s.muxerStarted with
    | false =>
      simp [List.replicate, raceStep, stopStep, stopMuxer, onMuxer, hheld, hstarted]
    | true =>
      simp [List.replicate, raceStep, stopStep, stopMuxer, onMuxer, hheld, hstarted,
        List.modify_modify_eq, Function.comp_def]

/-- The steps of `stopRecording`, one after the other, are `stopRecording`. -/
theorem run_stopRecording (s : MainActivity) (encoder : DeliverPoint) (sessionFails : Bool) :
    run raceStep ⟨s, .entered, encoder⟩ (List.replicate 10 (.ui sessionFails)) =
      ⟨stopRecording s sessionFails, .idle, encoder⟩ := by
  cases hactive : s.recordingActive with
  | false => simp [List.replicate, raceStep, stopStep, stopRecording, hactive]
  | true =>
    have hfirst : run raceStep ⟨s, .entered, encoder⟩ (List.replicate 2 (.ui sessionFails)) =
        ⟨startPreviewSession { s with recordingActive := false } false sessionFails, .previewed,
          encoder⟩ := by
      simp [List.replicate, raceStep, stopStep, hactive]
    rw [show 10 = 2 + 8 from rfl, ← List.replicate_append_replicate, run_append, hfirst,
      run_stopMuxer, stopRecording, hactive]
    rfl

/-- The steps from the first test to the write are the write of `onOutputBufferAvailable`. -/
theorem run_writeSample (s : MainActivity) (ui : StopPoint) (sample : Sample) :
    run raceStep ⟨s, ui, .stored sample⟩ (List.replicate 6 .encoder) =
      ⟨(writeSample s sample).2, ui, .idle⟩ := by
  cases hheld : s.mediaMuxer with
  | none =>
    cases hactive : s.recordingActive <;> cases hstarted : s.muxerStarted <;>
      simp [List.replicate, raceStep, deliverStep, writeSample, hactive, hstarted, hheld]
  | some muxer =>
    cases hactive : s.recordingActive with
    | false => simp [List.replicate, raceStep, deliverStep, writeSample, hactive, hheld]
    | true =>
      cases hstarted : s.muxerStarted with
      | false =>
        simp [List.replicate, raceStep, deliverStep, writeSample, hactive, hstarted, hheld]
      | true =>
        cases hwrite : (s.muxers[muxer]?.getD MediaMuxer.new).writeSampleData s.videoTrackIndex
            sample <;>
          simp [List.replicate, raceStep, deliverStep, writeSample, writeLoaded, hactive,
            hstarted, hheld, hwrite]

/-- The steps of `onOutputBufferAvailable`, one after the other, are `onOutputBufferAvailable`. -/
theorem run_onOutputBufferAvailable (s : MainActivity) (ui : StopPoint) (codec : ℕ)
    (output : CodecOutput) :
    run raceStep ⟨s, ui, .idle⟩
        (.onOutputBufferAvailable codec output :: List.replicate 6 .encoder) =
      ⟨(onOutputBufferAvailable s codec output).2, ui, .idle⟩ := by
  rw [onOutputBufferAvailable_eq]
  cases hframe : deliveredFrame codec output with
  | none => simp [List.replicate, raceStep, deliverStep, hframe]
  | some frame =>
    rw [run_cons, raceStep, hframe]
    exact run_writeSample _ ui _

/-! ### The race -/

/-- Between the test of `mediaMuxer` and the write. -/
def DeliverPoint.Committed : DeliverPoint → Prop
  | .testedMuxer _ | .loadedMuxer _ _ | .loadedTrack _ _ _ => True
  | _ => False

/-- The test of `mediaMuxer` is next. -/
def DeliverPoint.TestsMuxer : DeliverPoint → Prop
  | .testedStarted _ => True
  | _ => False

/-- Between the stop of the muxer and the moment the field is cleared. -/
def StopPoint.Stopped : StopPoint → Prop
  | .stopped | .released => True
  | _ => False

/-- After the field is cleared. -/
def StopPoint.Forgot : StopPoint → Prop
  | .forgotten | .clearedStarted | .clearedTrack => True
  | _ => False

instance : (encoder : DeliverPoint) → Decidable encoder.Committed
  | .testedMuxer _ | .loadedMuxer _ _ | .loadedTrack _ _ _ => instDecidableTrue
  | .idle | .stored _ | .testedActive _ | .testedStarted _ => instDecidableFalse

instance : (encoder : DeliverPoint) → Decidable encoder.TestsMuxer
  | .testedStarted _ => instDecidableTrue
  | .idle | .stored _ | .testedActive _ | .testedMuxer _ | .loadedMuxer _ _
  | .loadedTrack _ _ _ => instDecidableFalse

instance : (ui : StopPoint) → Decidable ui.Stopped
  | .stopped | .released => instDecidableTrue
  | .idle | .entered | .cleared | .previewed | .testedMuxer | .testedStarted | .forgotten
  | .clearedStarted | .clearedTrack => instDecidableFalse

/-- A write is made on a muxer that is not null, and alive, with a track of this muxer. -/
def WritesAlive (s : Race) : RaceEvent → Prop
  | .encoder =>
    ∀ muxer track sample, s.encoder = .loadedTrack muxer track sample →
      ∃ held ∈ muxer, LiveTrack s.activity.muxers held track
  | _ => True

/-- The muxer is not stopped between the encoder's test and its write, and the test is not passed
between the stop and the moment the field is cleared. -/
def NoRace (s : Race) : RaceEvent → Prop
  | .ui _ => s.ui = .testedStarted → ¬ s.encoder.Committed
  | .encoder => s.encoder.TestsMuxer → s.activity.mediaMuxer.isSome = true → ¬ s.ui.Stopped
  | _ => True

instance (s : Race) : (event : RaceEvent) → Decidable (NoRace s event)
  | .ui _ => inferInstanceAs (Decidable (_ → ¬ _))
  | .encoder => inferInstanceAs (Decidable (_ → _ → ¬ _))
  | .handler _ | .stopRecording | .onPause | .onOutputBufferAvailable _ _ => instDecidableTrue

/-- What holds in every state of a run without a race. -/
structure RaceInv (view : MuxerView) (ui : StopPoint) (encoder : DeliverPoint) : Prop where
  cleared : ui ≠ .idle → ui ≠ .entered → view.recordingActive = false
  forgot : ui.Forgot → view.mediaMuxer = none
  unstarted : view.mediaMuxer = none → ui ≠ .forgotten → view.muxerStarted = false
  alive : ∀ muxer ∈ view.mediaMuxer, view.muxerStarted = true → ¬ ui.Stopped →
    LiveTrack view.muxers muxer view.videoTrackIndex
  /-- An encoder that saw `muxerStarted` set finds the same muxer or none: a new one needs a new
  format, which only its own thread can announce. -/
  tested : ∀ sample, encoder = .testedStarted sample → view.muxerStarted = true ∨
    view.mediaMuxer = none ∧ (ui.Forgot ∨ view.outputFormat = none)
  committed : encoder.Committed →
    view.mediaMuxer.isSome ∧ view.muxerStarted = true ∧ ¬ ui.Stopped
  loadedMuxer : ∀ muxer sample, encoder = .loadedMuxer muxer sample → muxer = view.mediaMuxer
  loadedTrack : ∀ muxer track sample, encoder = .loadedTrack muxer track sample →
    muxer = view.mediaMuxer ∧ track = view.videoTrackIndex

/-- The invariant of a state. -/
def Race.Inv (s : Race) : Prop := RaceInv s.activity.muxing s.ui s.encoder

/-- Without a muxer the encoder is not about to write. -/
theorem RaceInv.not_committed {view : MuxerView} {ui : StopPoint} {encoder : DeliverPoint}
    (h : RaceInv view ui encoder) (hnone : view.mediaMuxer = none) : ¬ encoder.Committed := by
  intro hcommitted
  have hheld := (h.committed hcommitted).1
  rw [hnone] at hheld
  cases hheld

theorem Race.Inv.congr {s : Race} (h : s.Inv) {activity : MainActivity}
    (hview : activity.muxing = s.activity.muxing) : Race.Inv ⟨activity, s.ui, s.encoder⟩ := by
  unfold Race.Inv
  rw [hview]
  exact h

theorem muxing_onMuxer (s : MainActivity) (call : MediaMuxer → MediaMuxer) :
    ∃ muxers, (onMuxer s call).muxing = { s.muxing with muxers := muxers } := by
  unfold onMuxer
  split
  · exact ⟨s.muxers, rfl⟩
  · exact ⟨_, rfl⟩

theorem ne_loadedMuxer {encoder : DeliverPoint} (hfree : ¬ encoder.Committed) (muxer : Option ℕ)
    (sample : Sample) : encoder ≠ .loadedMuxer muxer sample :=
  fun hloaded ↦ hfree (hloaded ▸ trivial)

theorem ne_loadedTrack {encoder : DeliverPoint} (hfree : ¬ encoder.Committed) (muxer : Option ℕ)
    (track : ℤ) (sample : Sample) : encoder ≠ .loadedTrack muxer track sample :=
  fun hloaded ↦ hfree (hloaded ▸ trivial)

section Stop

variable {view : MuxerView} {ui ui' : StopPoint} {encoder : DeliverPoint}

/-- Before the muxer is stopped, a step of `stopRecording` only moves on. -/
theorem RaceInv.proceed (h : RaceInv view ui encoder) (hui : ¬ ui.Forgot) (hrunning : ¬ ui.Stopped)
    (hui' : ¬ ui'.Forgot) (hrunning' : ¬ ui'.Stopped)
    (hcleared : ui' ≠ .idle → ui' ≠ .entered → view.recordingActive = false) :
    RaceInv view ui' encoder where
  cleared := hcleared
  forgot hforgot := absurd hforgot hui'
  unstarted hnone _ := h.unstarted hnone fun hforgot ↦ hui (hforgot ▸ trivial)
  alive muxer hheld hstarted _ := h.alive muxer hheld hstarted hrunning
  tested sample htested := (h.tested sample htested).imp_right
    fun hgone ↦ ⟨hgone.1, Or.inr (hgone.2.resolve_left hui)⟩
  committed hcommitted := ⟨(h.committed hcommitted).1, (h.committed hcommitted).2.1, hrunning'⟩
  loadedMuxer := h.loadedMuxer
  loadedTrack := h.loadedTrack

/-- The muxer may be stopped and released while the encoder is not about to write. -/
theorem RaceInv.stopped (h : RaceInv view ui encoder) (hactive : view.recordingActive = false)
    (hui : ¬ ui.Forgot) (hfree : ¬ encoder.Committed) (muxers : List MediaMuxer) (next : StopPoint)
    (hstopped : next.Stopped) (hforgot : ¬ next.Forgot) :
    RaceInv { view with muxers := muxers } next encoder where
  cleared _ _ := hactive
  forgot hother := absurd hother hforgot
  unstarted hnone _ := h.unstarted hnone fun hother ↦ hui (hother ▸ trivial)
  alive _ _ _ hrunning := absurd hstopped hrunning
  tested sample htested := (h.tested sample htested).imp_right
    fun hgone ↦ ⟨hgone.1, Or.inr (hgone.2.resolve_left hui)⟩
  committed hcommitted := absurd hcommitted hfree
  loadedMuxer := h.loadedMuxer
  loadedTrack := h.loadedTrack

/-- Once the field is cleared, all that is left is to clear `muxerStarted`. -/
theorem RaceInv.of_forgot (hactive : view.recordingActive = false) (hnone : view.mediaMuxer = none)
    (hfree : ¬ encoder.Committed) (hui : ui.Forgot)
    (hstarted : ui ≠ .forgotten → view.muxerStarted = false) : RaceInv view ui encoder where
  cleared _ _ := hactive
  forgot _ := hnone
  unstarted _ := hstarted
  alive muxer hheld := absurd (hnone.symm.trans hheld) (Option.some_ne_none muxer).symm
  tested _ _ := Or.inr ⟨hnone, Or.inl hui⟩
  committed hcommitted := absurd hcommitted hfree
  loadedMuxer muxer sample hloaded := absurd hloaded (ne_loadedMuxer hfree muxer sample)
  loadedTrack muxer track sample hloaded := absurd hloaded (ne_loadedTrack hfree muxer track sample)

end Stop

theorem inv_stopStep {s : Race} (h : s.Inv) (sessionFails : Bool)
    (hrace : s.ui = .testedStarted → ¬ s.encoder.Committed) :
    (stopStep s sessionFails).Inv := by
  obtain ⟨activity, ui, encoder⟩ := s
  have hinv : RaceInv activity.muxing ui encoder := h
  unfold stopStep Race.Inv
  cases ui with
  | idle => exact h
  | entered =>
    simp only
    split_ifs
    · have hcleared : RaceInv { activity.muxing with recordingActive := false } .entered encoder :=
        { hinv with cleared := fun _ _ ↦ rfl }
      exact hcleared.proceed id id id id fun _ _ ↦ rfl
    · exact hinv.proceed id id id id fun hidle _ ↦ absurd rfl hidle
  | cleared =>
    have hactive := hinv.cleared (by simp) (by simp)
    simp only [muxing_startPreviewSession]
    exact hinv.proceed id id id id fun _ _ ↦ hactive
  | previewed =>
    have hactive := hinv.cleared (by simp) (by simp)
    simp only
    split_ifs with hheld
    · exact hinv.proceed id id id id fun _ _ ↦ hactive
    · have hnone : activity.mediaMuxer = none := Option.not_isSome_iff_eq_none.mp hheld
      exact .of_forgot hactive hnone (hinv.not_committed hnone) trivial
        fun hother ↦ absurd rfl hother
  | testedMuxer =>
    have hactive := hinv.cleared (by simp) (by simp)
    simp only
    split_ifs with hstarted
    · exact hinv.proceed id id id id fun _ _ ↦ hactive
    · -- A muxer that was not started has no samples to come.
      have hfree : ¬ encoder.Committed := fun hcommitted ↦ hstarted (hinv.committed hcommitted).2.1
      exact hinv.stopped hactive id hfree activity.muxers .stopped trivial id
  | testedStarted =>
    have hactive := hinv.cleared (by simp) (by simp)
    obtain ⟨muxers, hview⟩ := muxing_onMuxer activity MediaMuxer.stop
    simp only [hview]
    exact hinv.stopped hactive id (hrace rfl) muxers .stopped trivial id
  | stopped =>
    have hactive := hinv.cleared (by simp) (by simp)
    have hfree : ¬ encoder.Committed := fun hcommitted ↦ (hinv.committed hcommitted).2.2 trivial
    obtain ⟨muxers, hview⟩ := muxing_onMuxer activity MediaMuxer.release
    simp only [hview]
    exact hinv.stopped hactive id hfree muxers .released trivial id
  | released =>
    -- The encoder holds no muxer here, so it does not notice that the field is cleared.
    have hactive := hinv.cleared (by simp) (by simp)
    have hfree : ¬ encoder.Committed := fun hcommitted ↦ (hinv.committed hcommitted).2.2 trivial
    exact .of_forgot hactive rfl hfree trivial fun hother ↦ absurd rfl hother
  | forgotten =>
    have hactive := hinv.cleared (by simp) (by simp)
    have hnone := hinv.forgot trivial
    exact .of_forgot hactive hnone (hinv.not_committed hnone) trivial fun _ ↦ rfl
  | clearedStarted =>
    have hactive := hinv.cleared (by simp) (by simp)
    have hnone := hinv.forgot trivial
    exact .of_forgot hactive hnone (hinv.not_committed hnone) trivial
      fun _ ↦ hinv.unstarted hnone (by simp)
  | clearedTrack =>
    have hnone := hinv.forgot trivial
    exact
      { hinv with
        cleared := fun hidle _ ↦ absurd rfl hidle
        forgot := fun hforgot ↦ hforgot.elim
        unstarted := fun _ _ ↦ hinv.unstarted hnone (by simp)
        tested := fun sample htested ↦ (hinv.tested sample htested).imp_right
          fun hgone ↦ ⟨hgone.1, Or.inr rfl⟩ }

/-- A write leaves every live track live. -/
theorem LiveTrack.writeLoaded {s : MainActivity} {muxer : ℕ} {track : ℤ}
    (h : LiveTrack s.muxers muxer track) (written : Option ℕ) (index : ℤ) (sample : Sample) :
    LiveTrack (writeLoaded s written index sample).muxers muxer track := by
  unfold Recorder.writeLoaded
  split
  · exact h
  · next target =>
    split
    · exact h
    · next accepted haccepted =>
      obtain ⟨held, hheld, hrunning, htrack⟩ := h
      by_cases hsame : target = muxer
      · subst hsame
        have hheld : s.muxers[target]? = some held := hheld
        rw [hheld, Option.getD_some, MediaMuxer.writeSampleData] at haccepted
        split_ifs at haccepted
        obtain rfl := Except.ok.inj haccepted
        refine ⟨{ held with samples := held.samples ++ [(index, sample)] }, ?_, hrunning, htrack⟩
        rw [List.getElem?_set_self (List.getElem?_eq_some_iff.mp hheld).1]
        rfl
      · refine ⟨held, ?_, hrunning, htrack⟩
        rw [List.getElem?_set_ne hsame]
        exact hheld

theorem muxing_writeLoaded (s : MainActivity) (muxer : Option ℕ) (track : ℤ) (sample : Sample) :
    (writeLoaded s muxer track sample).muxing =
      { s.muxing with muxers := (writeLoaded s muxer track sample).muxers } := by
  unfold writeLoaded
  split
  · rfl
  · split <;> rfl

section Encoder

variable {view : MuxerView} {ui : StopPoint} {encoder encoder' : DeliverPoint}

/-- The encoder may always be at a point before its tests. -/
theorem RaceInv.leave (h : RaceInv view ui encoder)
    (huntested : ∀ sample, encoder' ≠ .testedStarted sample) (hfree : ¬ encoder'.Committed) :
    RaceInv view ui encoder' :=
  { h with
    tested := fun sample htested ↦ absurd htested (huntested sample)
    committed := fun hcommitted ↦ absurd hcommitted hfree
    loadedMuxer := fun muxer sample hloaded ↦ absurd hloaded (ne_loadedMuxer hfree muxer sample)
    loadedTrack := fun muxer track sample hloaded ↦
      absurd hloaded (ne_loadedTrack hfree muxer track sample) }

/-- The test of `mediaMuxer` is passed while the muxer is not being stopped. -/
theorem RaceInv.passTest {sample : Sample} (h : RaceInv view ui (.testedStarted sample))
    (hheld : view.mediaMuxer.isSome) (hfree : ¬ ui.Stopped) :
    RaceInv view ui (.testedMuxer sample) := by
  have hstarted : view.muxerStarted = true := by
    rcases h.tested sample rfl with hstarted | ⟨hnone, -⟩
    · exact hstarted
    · rw [hnone] at hheld
      cases hheld
  exact
    { h with
      tested := by simp
      committed := fun _ ↦ ⟨hheld, hstarted, hfree⟩
      loadedMuxer := by simp
      loadedTrack := by simp }

end Encoder

theorem inv_deliverStep {s : Race} (h : s.Inv)
    (hrace : s.encoder.TestsMuxer → s.activity.mediaMuxer.isSome = true → ¬ s.ui.Stopped) :
    (deliverStep s).Inv := by
  obtain ⟨activity, ui, encoder⟩ := s
  have hinv : RaceInv activity.muxing ui encoder := h
  unfold deliverStep Race.Inv
  cases encoder with
  | idle => exact h
  | stored sample =>
    simp only
    split_ifs
    · exact hinv.leave (by simp) id
    · exact hinv.leave (by simp) id
  | testedActive sample =>
    simp only
    split_ifs with hstarted
    · exact
        { hinv with
          tested := fun _ _ ↦ Or.inl hstarted
          committed := fun htested ↦ htested.elim
          loadedMuxer := by simp
          loadedTrack := by simp }
    · exact hinv.leave (by simp) id
  | testedStarted sample =>
    simp only
    split_ifs with hheld
    · exact hinv.passTest hheld (hrace trivial hheld)
    · exact hinv.leave (by simp) id
  | testedMuxer sample =>
    exact
      { hinv with
        tested := by simp
        committed := fun _ ↦ hinv.committed trivial
        loadedMuxer := fun muxer sample hloaded ↦ (DeliverPoint.loadedMuxer.inj hloaded).1.symm
        loadedTrack := by simp }
  | loadedMuxer muxer sample =>
    refine
      { hinv with
        tested := by simp
        committed := fun _ ↦ hinv.committed trivial
        loadedMuxer := by simp
        loadedTrack := fun held track written hloaded ↦ ?_ }
    obtain ⟨rfl, rfl, -⟩ := DeliverPoint.loadedTrack.inj hloaded
    exact ⟨hinv.loadedMuxer muxer sample rfl, rfl⟩
  | loadedTrack muxer track sample =>
    simp only [muxing_writeLoaded]
    exact
      { hinv.leave (by simp) id with
        alive := fun held hheld hstarted hui ↦
          (hinv.alive held hheld hstarted hui).writeLoaded muxer track sample }

/-- A muxer that is prepared while the recording is active. -/
theorem Race.Inv.prepareMuxer {activity : MainActivity} {ui : StopPoint} {encoder : DeliverPoint}
    (h : Race.Inv ⟨activity, ui, encoder⟩) (hactive : activity.recordingActive = true)
    (fault : MuxerFault) : Race.Inv ⟨(prepareMuxer activity fault).2, ui, encoder⟩ := by
  have hinv := h
  obtain ⟨hcleared, hforgot, hunstarted, halive, htested, hcommitted, hmuxer, htrack⟩ := h
  have hui : ui = .idle ∨ ui = .entered := by
    by_contra hother
    rw [not_or] at hother
    exact Bool.false_ne_true ((hcleared hother.1 hother.2).symm.trans hactive)
  unfold Recorder.prepareMuxer
  split
  · next format hheld hformat =>
    have hstarted : activity.muxerStarted = false :=
      hunstarted hheld (by rcases hui with rfl | rfl <;> simp)
    -- The encoder is before its tests: it has seen neither this muxer nor an older one.
    have hfree : ¬ encoder.Committed := by
      intro hencoder
      have hsome := (hcommitted hencoder).1
      simp [MainActivity.muxing, hheld] at hsome
    have huntested : ∀ sample, encoder ≠ .testedStarted sample := by
      intro sample hencoder
      rcases htested sample hencoder with hset | ⟨-, hforgot | hnone⟩
      · exact Bool.false_ne_true (hstarted.symm.trans hset)
      · rcases hui with rfl | rfl <;> exact hforgot
      · exact Option.some_ne_none format (hformat.symm.trans hnone)
    unfold Race.Inv
    have hforgotUi : ¬ ui.Forgot := by rcases hui with rfl | rfl <;> exact id
    have hlive := liveTrack_newStarted activity.muxers format
    cases fault with
    | createFails => exact hinv
    | addTrackFails => constructor <;> grind [MainActivity.muxing, DeliverPoint.Committed]
    | startFails => constructor <;> grind [MainActivity.muxing, DeliverPoint.Committed]
    | none => constructor <;> grind [MainActivity.muxing, DeliverPoint.Committed]
  · exact hinv

/-- A recording is started by the idle UI thread. -/
theorem Race.Inv.startRecording {activity : MainActivity} {encoder : DeliverPoint}
    (h : Race.Inv ⟨activity, .idle, encoder⟩) (encoderFault : EncoderFault)
    (muxerFault : MuxerFault) (sessionFails : Bool) :
    Race.Inv
      ⟨(startRecording activity encoderFault muxerFault sessionFails).2, .idle, encoder⟩ := by
  unfold Recorder.startRecording
  split_ifs
  · exact h
  · exact h
  · exact h
  · have hactivated : Race.Inv ⟨{ activity with recordingActive := true }, .idle, encoder⟩ :=
      { h with cleared := fun hui ↦ absurd rfl hui }
    let active : MainActivity → Prop := fun s ↦
      Race.Inv ⟨s, .idle, encoder⟩ ∧ s.recordingActive = true
    refine (Handled.andThen_holds active (Handled.andThen_holds active ?_ fun s hs ↦ ?_)
      fun s hs ↦ ?_).1
    · have hview := muxing_prepareEncoder { activity with recordingActive := true } encoderFault
      exact ⟨hactivated.congr hview, congrArg MuxerView.recordingActive hview⟩
    · split_ifs
      · exact ⟨hs.1.prepareMuxer hs.2 muxerFault,
          (recordingActive_prepareMuxer s muxerFault).trans hs.2⟩
      · exact hs
    · have hview := muxing_startPreviewSession s true sessionFails
      exact ⟨hs.1.congr hview, (congrArg MuxerView.recordingActive hview).trans hs.2⟩

/-- A format is announced on the idle thread of the encoder. -/
theorem Race.Inv.onOutputFormatChanged {activity : MainActivity} {ui : StopPoint}
    (h : Race.Inv ⟨activity, ui, .idle⟩) (codec : ℕ) (format : MediaFormat)
    (muxerFault : MuxerFault) :
    Race.Inv ⟨(onOutputFormatChanged activity codec format muxerFault).2, ui, .idle⟩ := by
  have hannounced : Race.Inv ⟨{ activity with
      outputFormat := some format, announced := activity.announced ++ [(codec, format)] }, ui,
      .idle⟩ := { h with tested := by simp }
  unfold Recorder.onOutputFormatChanged
  dsimp only
  split_ifs with hactive
  · exact hannounced.prepareMuxer hactive muxerFault
  · exact hannounced

/-- A handler that its thread takes as one step. -/
theorem Race.Inv.handler {s : Race} (h : s.Inv) {event : RecorderEvent} (hfree : s.Free event) :
    Race.Inv ⟨recorderStep s.activity event, s.ui, s.encoder⟩ := by
  obtain ⟨activity, ui, encoder⟩ := s
  cases event with
  | onResume accepted => exact h.congr (view_onResume (fun _ _ _ ↦ rfl) activity accepted)
  | onPause => exact hfree.elim
  | onSurfaceTextureAvailable accepted => exact h.congr (muxing_openCamera _ accepted)
  | onSurfaceTextureDestroyed => exact h
  | onRequestPermissionsResult granted accepted =>
    exact h.congr (view_onRequestPermissionsResult (fun _ _ _ ↦ rfl) activity granted accepted)
  | onOpened camera sessionFails =>
    have hview := @view_onOpened _ MainActivity.muxing (fun _ _ _ _ ↦ rfl) (fun _ _ _ ↦ rfl)
    exact h.congr (hview activity camera sessionFails)
  | onDisconnected camera => exact h
  | onError camera => exact h
  | onConfigured session => exact h
  | startRecording encoderFault muxerFault sessionFails =>
    obtain rfl : ui = .idle := hfree
    exact h.startRecording encoderFault muxerFault sessionFails
  | stopRecording sessionFails => exact hfree.elim
  | onOutputFormatChanged codec format muxerFault =>
    obtain rfl : encoder = .idle := hfree
    exact h.onOutputFormatChanged codec format muxerFault
  | onOutputBufferAvailable codec output => exact hfree.elim
  | saveReplayClip seconds => exact h.congr (muxing_saveReplayClip activity seconds)
  | clipAddTrack worker createFails => exact h
  | clipWriteSamples worker => exact h

/-- The UI thread enters `stopRecording`. -/
theorem Race.Inv.enter {activity : MainActivity} {encoder : DeliverPoint}
    (h : Race.Inv ⟨activity, .idle, encoder⟩) : Race.Inv ⟨activity, .entered, encoder⟩ :=
  { h with
    cleared := fun _ hentered ↦ absurd rfl hentered
    unstarted := fun hnone _ ↦ h.unstarted hnone (by simp) }

/-- The thread of the encoder is called with a frame. -/
theorem Race.Inv.deliver {activity : MainActivity} {ui : StopPoint}
    (h : Race.Inv ⟨activity, ui, .idle⟩) (sample : Sample) :
    Race.Inv ⟨activity, ui, .stored sample⟩ :=
  { h with
    tested := by simp
    committed := fun hstored ↦ hstored.elim
    loadedMuxer := by simp
    loadedTrack := by simp }

/-- The step lemma. -/
theorem inv_raceStep {s : Race} {event : RaceEvent} (h : s.Inv) (hrace : NoRace s event) :
    (raceStep s event).Inv := by
  obtain ⟨activity, ui, encoder⟩ := s
  cases event with
  | handler event =>
    simp only [raceStep]
    split_ifs with hfree
    · exact h.handler hfree
    · exact h
  | stopRecording =>
    simp only [raceStep]
    split_ifs with hui
    · subst hui
      exact h.enter
    · exact h
  | onPause =>
    simp only [raceStep]
    split_ifs with hui
    · subst hui
      exact h.enter.congr (muxing_closePreview activity)
    · exact h
  | ui sessionFails => exact inv_stopStep h sessionFails hrace
  | onOutputBufferAvailable codec output =>
    cases encoder with
    | idle =>
      simp only [raceStep]
      cases deliveredFrame codec output with
      | none => exact h
      | some frame =>
        exact (h.deliver ⟨output.info, frame.data⟩).congr (muxing_storeReplayFrame activity _ _ _ _)
    | _ => exact h
  | encoder => exact inv_deliverStep h hrace

/-! ### Runs -/

/-- In every run of the two threads without a race, over any number of recordings, every sample is
written to a muxer that is started, not stopped and not released, and to a track of that muxer. -/
theorem writes_alive {events : List RaceEvent}
    (hrace : Meets raceStep NoRace .initial events) :
    Meets raceStep WritesAlive .initial events := by
  refine @meets_of_inv _ _ raceStep NoRace WritesAlive Race.Inv _ _
    (fun s event ↦ inv_raceStep) ?_ ?_ hrace
  · intro s event h _
    cases event with
    | encoder =>
      intro muxer track sample hloaded
      have hcommitted := h.committed (by rw [hloaded]; trivial)
      obtain ⟨rfl, rfl⟩ := h.loadedTrack muxer track sample hloaded
      obtain ⟨held, hheld⟩ := Option.isSome_iff_exists.mp hcommitted.1
      exact ⟨held, hheld, h.alive held hheld hcommitted.2.1 hcommitted.2.2⟩
    | _ => trivial
  · constructor <;> simp [Race.initial, MainActivity.initial, MainActivity.muxing,
      StopPoint.Forgot, DeliverPoint.Committed]

/-- A recording up to the point where the encoder has a frame and has tested the three fields. -/
def frameTested : List RaceEvent :=
  [.handler (.onResume true), .handler (.onRequestPermissionsResult true true),
    .handler (.onSurfaceTextureAvailable true), .handler (.onOpened 0 false),
    .handler (.startRecording .none .none false),
    .handler (.onOutputFormatChanged 1 ⟨"video/avc", []⟩ .none),
    .onOutputBufferAvailable 1 (.oneByte 1 0 1),
    .encoder, .encoder, .encoder]

/-- The encoder finishes its write before the recording stops. -/
theorem writes_alive_in_turn :
    Meets raceStep WritesAlive .initial
      (frameTested ++ [.encoder, .stopRecording, .encoder, .ui false, .encoder] ++
        List.replicate 9 (.ui false)) :=
  writes_alive (by decide)

/-- The muxer is stopped after the encoder tested the fields: the sample goes to a stopped muxer. -/
theorem not_writesAlive_stopped :
    ¬ Meets raceStep WritesAlive .initial
      (frameTested ++ ([.stopRecording] ++ List.replicate 6 (.ui false) ++
        [.encoder, .encoder, .encoder])) := by
  intro h
  obtain ⟨-, hrest⟩ := meets_append.mp h
  obtain ⟨-, -, -, hwrite, -⟩ := meets_append.mp hrest
  obtain ⟨held, hheld, muxer, hmuxer, hrunning, -⟩ := hwrite _ _ _ rfl
  cases hheld
  cases hmuxer
  exact absurd hrunning (by decide)

end UvcRtmpStream.Recorder
