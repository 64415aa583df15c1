import UvcRtmpStream.Foundations.Lists
import UvcRtmpStream.Streaming.EncoderLifecycle
import UvcRtmpStream.Streaming.ReplaySink

/-!
# The content of a recording

A recording should begin with the first video frame that has the key-frame bit and arrives when both
formats are known, and contain all frames from then on. `getVideoData` starts the muxer at the first
such frame whose flags are exactly `BUFFER_FLAG_KEY_FRAME`.

The abstract view of a recording is a take (`Take`): the formats, whether it has begun, and the
samples with their tracks. The callbacks act on it as `Take.step` says (`takes_usbStep`), so that
the samples are those of the callbacks from the first frame on that begins the recording
(`samples_foldl`).
-/

set_option autoImplicit false
set_option relaxedAutoImplicit false

namespace UvcRtmpStream.Streaming

open UvcRtmpStream.Foundations UvcRtmpStream.Platform UvcRtmpStream.Replay

/-! ### Takes -/

/-- The sample that a callback has for a recording, with its track: video is track 0, audio track 1.
-/
def EncoderCallback.sample : EncoderCallback → Option (ℤ × Sample)
  | .getVideoData _ h264Buffer info _ => some (0, sampleOf h264Buffer info)
  | .getAacData aacBuffer info => some (1, sampleOf aacBuffer info)
  | .onSpsPpsVps | .onVideoFormat _ | .onAudioFormat _ => none

/-- The flags contain the key-frame bit. -/
def hasKeyFrameFlag (info : BufferInfo) : Bool := info.flags &&& BUFFER_FLAG_KEY_FRAME != 0

/-- The flags are the key-frame bit and no other. -/
def isKeyFrame (info : BufferInfo) : Bool := info.flags == BUFFER_FLAG_KEY_FRAME

theorem hasKeyFrameFlag_of_isKeyFrame {info : BufferInfo} (h : isKeyFrame info = true) :
    hasKeyFrameFlag info = true := by
  rw [isKeyFrame, beq_iff_eq] at h
  rw [hasKeyFrameFlag, h]
  rfl

/-- A recording: the formats that are known, whether it has begun, and its samples. -/
structure Take where
  videoFormat : Option MediaFormat
  audioFormat : Option MediaFormat
  begun : Bool
  samples : List (ℤ × Sample)

namespace Take

/-- A sample is written once the recording has begun. -/
def write (t : Take) (sample : ℤ × Sample) : Take :=
  if t.begun then { t with samples := t.samples ++ [sample] } else t

/-- What a callback does to a recording. -/
def step (t : Take) : EncoderCallback → Take
  | .getVideoData _ h264Buffer info _ =>
    let begins := isKeyFrame info && t.videoFormat.isSome && t.audioFormat.isSome
    { t with begun := t.begun || begins }.write (0, sampleOf h264Buffer info)
  | .getAacData aacBuffer info => t.write (1, sampleOf aacBuffer info)
  | .onSpsPpsVps => t
  | .onVideoFormat mediaFormat => { t with videoFormat := some mediaFormat }
  | .onAudioFormat mediaFormat => { t with audioFormat := some mediaFormat }

end Take

/-- The callbacks from the first video frame on that has a property and arrives when both formats
are known. -/
def fromFirst (begins : BufferInfo → Bool) :
    (videoKnown audioKnown : Bool) → List EncoderCallback → List EncoderCallback
  | _, _, [] => []
  | videoKnown, audioKnown, .getVideoData now h264Buffer info fault :: rest =>
    if begins info && videoKnown && audioKnown then
      .getVideoData now h264Buffer info fault :: rest
    else fromFirst begins videoKnown audioKnown rest
  | _, audioKnown, .onVideoFormat _ :: rest => fromFirst begins true audioKnown rest
  | videoKnown, _, .onAudioFormat _ :: rest => fromFirst begins videoKnown true rest
  | videoKnown, audioKnown, .getAacData _ _ :: rest => fromFirst begins videoKnown audioKnown rest
  | videoKnown, audioKnown, .onSpsPpsVps :: rest => fromFirst begins videoKnown audioKnown rest

/-- The frame that the callbacks begin with, if they do, has no flag but the key-frame bit. -/
def beginsPlainly : List EncoderCallback → Bool
  | .getVideoData _ _ info _ :: _ => isKeyFrame info
  | _ => true

theorem fromFirst_suffix (begins : BufferInfo → Bool) (videoKnown audioKnown : Bool)
    (callbacks : List EncoderCallback) :
    fromFirst begins videoKnown audioKnown callbacks <:+ callbacks := by
  induction callbacks generalizing videoKnown audioKnown with
  | nil => exact List.suffix_refl []
  | cons callback rest ih =>
    cases callback with
    | getVideoData now h264Buffer info fault =>
      rw [fromFirst]
      split_ifs
      · exact List.suffix_refl _
      · exact (ih videoKnown audioKnown).trans (List.suffix_cons _ rest)
    | _ => exact (ih _ _).trans (List.suffix_cons _ rest)

/-- The recording begins with the first frame that has the key-frame bit, if and only if this frame
has no other flag. -/
theorem filterMap_fromFirst_eq_iff (videoKnown audioKnown : Bool)
    (callbacks : List EncoderCallback) :
    (fromFirst isKeyFrame videoKnown audioKnown callbacks).filterMap EncoderCallback.sample =
        (fromFirst hasKeyFrameFlag videoKnown audioKnown callbacks).filterMap
          EncoderCallback.sample ↔
      beginsPlainly (fromFirst hasKeyFrameFlag videoKnown audioKnown callbacks) = true := by
  induction callbacks generalizing videoKnown audioKnown with
  | nil => exact iff_of_true rfl rfl
  | cons callback rest ih =>
    cases callback with
    | getVideoData now h264Buffer info fault =>
      rw [fromFirst, fromFirst]
      cases hplain : isKeyFrame info with
      | true =>
        rw [hasKeyFrameFlag_of_isKeyFrame hplain]
        split_ifs with hknown
        · exact iff_of_true rfl hplain
        · exact ih videoKnown audioKnown
      | false =>
        have hskipped : (false && videoKnown && audioKnown) = false := by
          rw [Bool.false_and, Bool.false_and]
        rw [hskipped, if_neg Bool.false_ne_true]
        split_ifs with hflagged
        · -- The frame is missing from the recording, which is shorter for it.
          refine iff_of_false (fun hsame ↦ ?_) fun hbegins ↦ ?_
          · have hlength := congrArg List.length hsame
            have hle := ((fromFirst_suffix isKeyFrame videoKnown audioKnown rest).sublist.filterMap
              EncoderCallback.sample).length_le
            rw [hlength] at hle
            exact Nat.not_succ_le_self _ hle
          · exact Bool.false_ne_true (hplain.symm.trans hbegins)
        · exact ih videoKnown audioKnown
    | _ => exact ih _ _

/-- A recording that has begun gets every sample. -/
theorem samples_foldl_of_begun (callbacks : List EncoderCallback) {t : Take}
    (hbegun : t.begun = true) :
    (callbacks.foldl Take.step t).samples =
      t.samples ++ callbacks.filterMap EncoderCallback.sample := by
  induction callbacks generalizing t with
  | nil => exact (List.append_nil _).symm
  | cons callback rest ih =>
    have hstep : (t.step callback).begun = true ∧
        (t.step callback).samples = t.samples ++ callback.sample.toList := by
      cases callback <;> simp [Take.step, Take.write, EncoderCallback.sample, hbegun]
    rw [List.foldl_cons, ih hstep.1, hstep.2, List.append_assoc]
    cases hsample : callback.sample <;> simp [hsample]

/-- The samples of a recording are those of the callbacks from the frame on that begins it. -/
theorem samples_foldl (callbacks : List EncoderCallback) {t : Take} (hbegun : t.begun = false) :
    (callbacks.foldl Take.step t).samples =
      t.samples ++ (fromFirst isKeyFrame t.videoFormat.isSome t.audioFormat.isSome
        callbacks).filterMap EncoderCallback.sample := by
  induction callbacks generalizing t with
  | nil => exact (List.append_nil _).symm
  | cons callback rest ih =>
    cases callback with
    | getVideoData now h264Buffer info fault =>
      cases hbegins : isKeyFrame info && t.videoFormat.isSome && t.audioFormat.isSome with
      | false =>
        have hstep : t.step (.getVideoData now h264Buffer info fault) = t := by
          simp only [Take.step, hbegins, hbegun, Bool.or_self, Take.write, Bool.false_eq_true,
            if_false]
          rw [← hbegun]
        rw [List.foldl_cons, hstep, ih hbegun, fromFirst, hbegins]
        rfl
      | true =>
        have hstep : t.step (.getVideoData now h264Buffer info fault) =
            { t with
              begun := true
              samples := t.samples ++ [(0, sampleOf h264Buffer info)] } := by
          simp only [Take.step, hbegins, Bool.or_true, Take.write, if_true]
        rw [List.foldl_cons, hstep, samples_foldl_of_begun rest (by exact rfl), fromFirst, hbegins,
          if_pos rfl, List.append_assoc]
        rfl
    | getAacData aacBuffer info =>
      have hstep : t.step (.getAacData aacBuffer info) = t := by
        simp only [Take.step, Take.write, hbegun, Bool.false_eq_true, if_false]
      rw [List.foldl_cons, hstep, ih hbegun]
      rfl
    | onSpsPpsVps => exact ih hbegun
    | onVideoFormat mediaFormat => exact @ih { t with videoFormat := some mediaFormat } hbegun
    | onAudioFormat mediaFormat => exact @ih { t with audioFormat := some mediaFormat } hbegun

/-! ### The recording of an object -/

/-- The recording of an object, with the formats. -/
structure ContentView where
  record : RecordView
  videoFormat : Option MediaFormat
  audioFormat : Option MediaFormat

/-- The content part of the state. -/
def Usb.content (u : Usb) : ContentView := ⟨u.record, u.base.videoFormat, u.base.audioFormat⟩

/-- The call returns. -/
def Outcome.isReturn : Outcome → Bool
  | .returns _ => true
  | .throws _ => false

/-- The state has this content, and the calls to come return. -/
def Sees (c : ContentView) (u : Usb) : Prop :=
  u.devices.outcomes.all Outcome.isReturn = true ∧ u.content = c

section Methods

variable (c : ContentView)

theorem total_nextAnswer : Total (Sees c) nextAnswer fun _ ↦ Sees c := by
  rintro ⟨base, cameras, interfaces, muxers, replay, outcomes, writes⟩ ⟨hreturns, rfl⟩
  cases outcomes with
  | nil => exact ⟨rfl, rfl⟩
  | cons outcome rest =>
    cases outcome with
    | returns value => exact ⟨hreturns, rfl⟩
    | throws exception => cases hreturns

theorem total_onRtmp (rtmpCall : RtmpCall) : Total (Sees c) (onRtmp rtmpCall) fun _ ↦ Sees c :=
  (total_nextAnswer c).bind fun _ ↦ Triple.modify fun _ h ↦ h

/-- A call that the muxer accepts. -/
theorem total_onMuxer {α : Type} {held : MediaMuxer} (hheld : c.record.muxer = some held)
    {operation : MediaMuxer → Except JavaException (α × MediaMuxer)} {value : α}
    {change : MediaMuxer → MediaMuxer} (hok : operation held = .ok (value, change held)) :
    Total (Sees c) (onMuxer operation) fun result u ↦
      result = value ∧ Sees { c with record := c.record.onMuxer change } u := by
  obtain ⟨index, hindex, hget⟩ := Option.bind_eq_some_iff.mp hheld
  refine triple_read fun u hu ↦ ?_
  have hmuxer : u.base.mediaMuxer = some index := by
    rw [← hindex, ← hu.2]
    rfl
  have hcurrent : u.muxer = some held := by
    rw [← hheld, ← hu.2]
    rfl
  simp only [hmuxer, hcurrent, hok]
  refine (total_nextAnswer c).bind fun _ ↦ triple_update (fun t ht ↦ ?_)
    (Triple.pure fun _ h ↦ ⟨rfl, h⟩)
  refine ⟨ht.1, ?_⟩
  rw [← RecordView.set_eq_onMuxer hindex hheld, ← ht.2]
  rfl

/-- A change of the object's own fields. -/
theorem total_modify (c' : ContentView) {effect : Usb → Usb}
    (houtcomes : ∀ u, (effect u).devices.outcomes = u.devices.outcomes)
    (hcontent : ∀ u, u.content = c → (effect u).content = c') :
    Total (Sees c) (modify effect : UsbM Unit) fun _ ↦ Sees c' :=
  Triple.modify fun u hu ↦ ⟨(houtcomes u).symm ▸ hu.1, hcontent u hu.2⟩

/-- The content after a write. -/
def ContentView.written (c : ContentView) (held : MediaMuxer) (track : ℤ) (buffer : ByteBuffer)
    (info : BufferInfo) : ContentView :=
  { c with
    record := { c.record.onMuxer fun muxer ↦
        { muxer with samples := muxer.samples ++ [(track, sampleOf buffer info)] } with
      writes := c.record.writes ++ [⟨some held, track, buffer, info⟩] } }

/-- The sample is written to the track of a muxer that runs. -/
theorem total_writeSampleData {held : MediaMuxer} (hheld : c.record.muxer = some held) {track : ℤ}
    (hrunning : held.Running) (htrack : held.HasTrack track) (buffer : ByteBuffer)
    (info : BufferInfo) :
    Total (Sees c) (writeSampleData track buffer info) fun _ ↦
      Sees (c.written held track buffer info) := by
  let called : ContentView := { c with record.writes :=
    c.record.writes ++ [⟨some held, track, buffer, info⟩] }
  have hcalled : Total (Sees c) (modify fun u ↦ { u with devices.writes :=
      u.devices.writes ++ [⟨u.muxer, track, buffer, info⟩] } : UsbM Unit) fun _ ↦ Sees called := by
    refine total_modify c called (fun _ ↦ rfl) fun u hu ↦ ?_
    have hcurrent : u.muxer = some held := by
      rw [← hheld, ← hu]
      rfl
    simp only [called, ← hu, hcurrent]
    rfl
  have hok : ((held.writeSampleData track (sampleOf buffer info)).map fun written ↦ ((), written)) =
      .ok ((), { held with samples := held.samples ++ [(track, sampleOf buffer info)] }) := by
    rw [MediaMuxer.writeSampleData_of_running hrunning htrack]
    rfl
  have hwrite := @total_onMuxer called Unit held hheld
    (fun muxer ↦ (muxer.writeSampleData track (sampleOf buffer info)).map fun written ↦
      ((), written)) ()
    (fun muxer ↦ { muxer with samples := muxer.samples ++ [(track, sampleOf buffer info)] }) hok
  exact hcalled.bind fun _ ↦ hwrite.mono (fun _ h ↦ h) (fun _ _ h ↦ h.2) fun _ _ h ↦ h

/-- The content after the muxer was started. -/
def ContentView.begun (c : ContentView) (videoFormat audioFormat : MediaFormat) : ContentView :=
  { c with
    record := { c.record.onMuxer fun _ ↦
        ⟨[videoFormat, audioFormat], true, false, false, false, []⟩ with
      canRecord := true, videoTrack := 0, audioTrack := 1 } }

/-- A new muxer gets its two tracks and is started. -/
theorem total_beginRecording (hnew : c.record.muxer = some MediaMuxer.new)
    (videoFormat audioFormat : MediaFormat) :
    Total (Sees c) (beginRecording (some videoFormat) (some audioFormat)) fun _ ↦
      Sees (c.begun videoFormat audioFormat) := by
  -- the muxer after each of the three calls
  let oneTrack : MediaMuxer := ⟨[videoFormat], false, false, false, false, []⟩
  let twoTracks : MediaMuxer := ⟨[videoFormat, audioFormat], false, false, false, false, []⟩
  let started : MediaMuxer := ⟨[videoFormat, audioFormat], true, false, false, false, []⟩
  let withVideo : ContentView := { c with record :=
    { c.record.onMuxer fun _ ↦ oneTrack with videoTrack := 0 } }
  let withBoth : ContentView := { withVideo with record :=
    { withVideo.record.onMuxer fun _ ↦ twoTracks with audioTrack := 1 } }
  have hone : withVideo.record.muxer = some oneTrack :=
    (c.record.muxer_onMuxer _).trans (congrArg (Option.map _) hnew)
  have htwo : withBoth.record.muxer = some twoTracks :=
    (withVideo.record.muxer_onMuxer _).trans (congrArg (Option.map _) hone)
  have hvideo := @total_onMuxer c ℤ _ hnew (MediaMuxer.addTrack · (some videoFormat)) 0
    (fun _ ↦ oneTrack) rfl
  have haudio := @total_onMuxer withVideo ℤ _ hone (MediaMuxer.addTrack · (some audioFormat)) 1
    (fun _ ↦ twoTracks) rfl
  have hstart := @total_onMuxer withBoth Unit _ htwo
    (fun muxer ↦ muxer.start.map fun started ↦ ((), started)) () (fun _ ↦ started) rfl
  have hrecord : c.record.onMuxer (fun _ ↦ started) =
      ((c.record.onMuxer fun _ ↦ oneTrack).onMuxer fun _ ↦ twoTracks).onMuxer fun _ ↦ started := by
    rw [RecordView.onMuxer_onMuxer, RecordView.onMuxer_onMuxer]
  refine hvideo.bind fun videoTrack ↦ .assume fun hvideoTrack ↦ ?_
  refine Triple.bind (total_modify _ withVideo (by exact fun _ ↦ rfl) fun u hu ↦ ?_) fun _ ↦ ?_
  · rw [hvideoTrack]
    exact congrArg (fun c : ContentView ↦ { c with record.videoTrack := 0 }) hu
  refine haudio.bind fun audioTrack ↦ .assume fun haudioTrack ↦ ?_
  refine Triple.bind (total_modify _ withBoth (by exact fun _ ↦ rfl) fun u hu ↦ ?_) fun _ ↦ ?_
  · rw [haudioTrack]
    exact congrArg (fun c : ContentView ↦ { c with record.audioTrack := 1 }) hu
  refine hstart.bind fun _ ↦ .assume fun _ ↦ total_modify _ _ (by exact fun _ ↦ rfl) fun u hu ↦ ?_
  rw [ContentView.begun, hrecord]
  exact congrArg (fun c : ContentView ↦ { c with record.canRecord := true }) hu

end Methods

/-! ### Callbacks -/

/-- The object records a take with its muxer. -/
structure Takes (muxer : ℕ) (t : Take) (c : ContentView) : Prop where
  recording : c.record.recording = true
  mediaMuxer : c.record.mediaMuxer = some muxer
  canRecord : c.record.canRecord = t.begun
  videoFormat : c.videoFormat = t.videoFormat
  audioFormat : c.audioFormat = t.audioFormat
  fresh : t.begun = false → c.record.muxer = some MediaMuxer.new ∧ t.samples = []
  running : t.begun = true → c.record.videoTrack = 0 ∧ c.record.audioTrack = 1 ∧
    ∃ videoFormat audioFormat, c.record.muxer =
      some ⟨[videoFormat, audioFormat], true, false, false, false, t.samples⟩

/-- The object records a take with its muxer, and the calls to come return. -/
def Records (muxer : ℕ) (t : Take) (u : Usb) : Prop :=
  u.devices.outcomes.all Outcome.isReturn = true ∧ Takes muxer t u.content

section Records

variable {muxer : ℕ} {t : Take}

theorem records_of_sees {program : UsbM Unit} {t' : Take}
    (h : ∀ c, Takes muxer t c → Total (Sees c) program fun _ u ↦
      ∃ c', Takes muxer t' c' ∧ Sees c' u) :
    Total (Records muxer t) program fun _ ↦ Records muxer t' := by
  rintro u ⟨hreturns, htakes⟩
  refine (h u.content htakes).mono (fun _ h ↦ h) (fun _ v hv ↦ ?_) (fun _ _ h ↦ h) u
    ⟨hreturns, rfl⟩
  obtain ⟨c', htakes', hreturns', rfl⟩ := hv
  exact ⟨hreturns', htakes'⟩

/-- The test and the write of a callback: a sample is written to its track once the recording has
begun. -/
theorem records_write {track index : ℤ} (htrack : track = 0 ∨ track = 1)
    (hindex : t.begun = true → index = track) (buffer : ByteBuffer) (info : BufferInfo) :
    Total (Records muxer t) (whenever t.begun (writeSampleData index buffer info)) fun _ ↦
      Records muxer (t.write (track, sampleOf buffer info)) := by
  refine records_of_sees fun c h ↦ ?_
  cases hbegun : t.begun with
  | false =>
    have hwrite : t.write (track, sampleOf buffer info) = t := by
      rw [Take.write, hbegun]
      rfl
    rw [hwrite]
    exact Triple.pure fun u hu ↦ ⟨c, h, hu⟩
  | true =>
    obtain ⟨hvideoTrack, haudioTrack, videoFormat, audioFormat, hheld⟩ := h.running hbegun
    have hwrite : t.write (track, sampleOf buffer info) =
        { t with samples := t.samples ++ [(track, sampleOf buffer info)] } := by
      rw [Take.write, hbegun]
      rfl
    have hhas : MediaMuxer.HasTrack
        ⟨[videoFormat, audioFormat], true, false, false, false, t.samples⟩ track := by
      rcases htrack with rfl | rfl
      · exact ⟨le_refl _, by simp⟩
      · exact ⟨Int.one_nonneg, by simp⟩
    rw [hwrite, hindex hbegun]
    refine (total_writeSampleData c hheld ⟨rfl, rfl, rfl⟩ hhas buffer info).mono (fun _ h ↦ h)
      (fun _ u hu ↦ ⟨_, ?_, hu⟩) fun _ _ h ↦ h
    refine ⟨h.recording, h.mediaMuxer, h.canRecord, h.videoFormat, h.audioFormat, fun hfalse ↦ ?_,
      fun _ ↦ ⟨hvideoTrack, haudioTrack, videoFormat, audioFormat, ?_⟩⟩
    · exact absurd (hfalse.symm.trans hbegun) Bool.false_ne_true
    · exact (c.record.muxer_onMuxer _).trans (congrArg (Option.map _) hheld)

/-- The recording begins with a frame that is to begin it. -/
theorem records_begin (keyFrame : Bool) :
    Total (Records muxer t)
      (whenever (keyFrame && !t.begun && t.videoFormat.isSome && t.audioFormat.isSome)
        (beginRecording t.videoFormat t.audioFormat)) fun _ ↦
      Records muxer { t with
        begun := t.begun || (keyFrame && t.videoFormat.isSome && t.audioFormat.isSome) } := by
  refine records_of_sees fun c h ↦ Triple.whenever (fun hbegins ↦ ?_) fun hskip u hu ↦ ⟨c, ?_, hu⟩
  · simp only [Bool.and_eq_true, Bool.not_eq_true'] at hbegins
    obtain ⟨⟨⟨hkeyFrame, hbegun⟩, hvideo⟩, haudio⟩ := hbegins
    obtain ⟨videoFormat, hvideoFormat⟩ := Option.isSome_iff_exists.mp hvideo
    obtain ⟨audioFormat, haudioFormat⟩ := Option.isSome_iff_exists.mp haudio
    obtain ⟨hnew, hsamples⟩ := h.fresh hbegun
    rw [hvideoFormat, haudioFormat]
    refine (total_beginRecording c hnew videoFormat audioFormat).mono (fun _ h ↦ h)
      (fun _ u hu ↦ ⟨_, ?_, hu⟩) fun _ _ h ↦ h
    refine ⟨h.recording, h.mediaMuxer, ?_, h.videoFormat.trans hvideoFormat,
      h.audioFormat.trans haudioFormat, fun hfalse ↦ ?_, fun _ ↦ ⟨rfl, rfl, videoFormat,
      audioFormat, ?_⟩⟩
    · simp [ContentView.begun, hkeyFrame]
    · simp [hkeyFrame] at hfalse
    · rw [hsamples]
      exact (c.record.muxer_onMuxer _).trans (congrArg (Option.map _) hnew)
  · have hsame : (t.begun || (keyFrame && t.videoFormat.isSome && t.audioFormat.isSome)) =
        t.begun := by
      revert hskip
      cases t.begun <;> cases keyFrame <;> cases t.videoFormat.isSome <;>
        cases t.audioFormat.isSome <;> simp
    rw [hsame]
    exact h

/-- The streaming part of a callback. -/
theorem records_onRtmp (streaming : Bool) (rtmpCall : RtmpCall) :
    Total (Records muxer t) (whenever streaming (onRtmp rtmpCall)) fun _ ↦ Records muxer t :=
  Triple.whenever (fun _ ↦ records_of_sees fun c h ↦
    (total_onRtmp c rtmpCall).mono (fun _ h ↦ h) (fun _ _ hu ↦ ⟨c, h, hu⟩) fun _ _ h ↦ h)
    fun _ _ h ↦ h

theorem records_deliverVideo (now : ℕ) (h264Buffer : ByteBuffer) (info : BufferInfo)
    (fault : SinkFault) :
    Total (Records muxer t) (deliverVideo h264Buffer info) fun _ ↦
      Records muxer (t.step (.getVideoData now h264Buffer info fault)) := by
  let begun : Take := { t with
    begun := t.begun || (isKeyFrame info && t.videoFormat.isSome && t.audioFormat.isSome) }
  have hwrite : Total (Records muxer begun) (do
      let u ← get
      whenever u.base.canRecord (writeSampleData u.base.videoTrack h264Buffer info)) fun _ ↦
        Records muxer (begun.write (0, sampleOf h264Buffer info)) := by
    refine triple_read fun u hu ↦ ?_
    have hcanRecord : u.base.canRecord = begun.begun := hu.2.canRecord
    rw [hcanRecord]
    exact records_write (Or.inl rfl) (fun hbegun ↦ (hu.2.running hbegun).1) h264Buffer info
  refine triple_read fun u hu ↦ ?_
  have hrecording : u.base.recording = true := hu.2.recording
  have hcanRecord : u.base.canRecord = t.begun := hu.2.canRecord
  have hvideoFormat : u.base.videoFormat = t.videoFormat := hu.2.videoFormat
  have haudioFormat : u.base.audioFormat = t.audioFormat := hu.2.audioFormat
  rw [hrecording, hcanRecord, hvideoFormat, haudioFormat]
  exact Triple.bind ((records_begin _).bind fun _ ↦ hwrite) fun _ ↦ records_onRtmp _ _

/-- A callback does to the recording what it does to the take. -/
theorem records_callback (callback : EncoderCallback) :
    Total (Records muxer t) callback.method fun _ ↦ Records muxer (t.step callback) := by
  cases callback with
  | getVideoData now h264Buffer info fault =>
    intro u hu
    let written := u.devices.replay.writeFrame now h264Buffer info fault
    have hbuffer : written.1 = h264Buffer := writeFrame_fst u.devices.replay now _ info fault
    have hrun : EncoderCallback.method (.getVideoData now h264Buffer info fault) u =
        deliverVideo written.1 info (u.withReplay written.2) := rfl
    rw [hrun, hbuffer]
    exact records_deliverVideo now h264Buffer info fault (u.withReplay written.2) hu
  | getAacData aacBuffer info =>
    refine triple_read fun u hu ↦ ?_
    have hrecording : u.base.recording = true := hu.2.recording
    have hcanRecord : u.base.canRecord = t.begun := hu.2.canRecord
    rw [hrecording, hcanRecord, Bool.true_and]
    refine Triple.bind (records_write (Or.inr rfl) (fun hbegun ↦ (hu.2.running hbegun).2.1)
      aacBuffer info) fun _ ↦ records_onRtmp _ _
  | onSpsPpsVps => exact triple_read fun u _ ↦ records_onRtmp u.base.streaming .setVideoInfo
  | onVideoFormat mediaFormat =>
    refine Triple.modify fun u hu ↦ ⟨hu.1, ?_⟩
    exact { hu.2 with videoFormat := rfl }
  | onAudioFormat mediaFormat =>
    refine Triple.modify fun u hu ↦ ⟨hu.1, ?_⟩
    exact { hu.2 with audioFormat := rfl }

end Records

/-! ### Whole recordings -/

/-- The callback of a call, if it is one. -/
def UsbCall.encoderCallback : UsbCall → Option EncoderCallback
  | ⟨.callback encoderCallback, _⟩ => some encoderCallback
  | _ => none

/-- A call between the start of a recording and its stop. The library calls of a callback return. -/
def UsbCall.duringRecording : UsbCall → Bool
  | ⟨.startRecord _, _⟩ => false
  | ⟨.stopRecord _, _⟩ => false
  | ⟨.callback _, outcomes⟩ => outcomes.all Outcome.isReturn
  | _ => true

section Content

variable (uvcCamera : Option ℕ)

theorem content_of_session {α : Type} {method : UsbM α} (h : Leaves Usb.session method) :
    Leaves Usb.content method :=
  h.comp Usb.content fun _ ↦ rfl

theorem content_startEncoders : Leaves Usb.content (startEncoders uvcCamera) :=
  (settled_startEncoders uvcCamera).comp Usb.content fun _ ↦ rfl

theorem content_onRtmp (rtmpCall : RtmpCall) : Leaves Usb.content (onRtmp rtmpCall) :=
  leaves_call (fun _ _ ↦ rfl) fun _ ↦ rfl

theorem content_startStream (url : String) : Leaves Usb.content (startStream uvcCamera url) := by
  refine .bind (.modify fun _ ↦ rfl) fun _ ↦ .bind .get fun u ↦ ?_
  refine .bind (.ite (content_startEncoders uvcCamera)
    (content_of_session session_resetVideoEncoder)) fun _ ↦ ?_
  refine .bind ?_ fun _ ↦ .modify fun _ ↦ rfl
  exact .bind .get fun _ ↦ .bind (content_onRtmp _) fun _ ↦ content_onRtmp _

/-- A recording is started with the formats that are known. -/
theorem formats_startRecord :
    Leaves (fun u : Usb ↦ (u.base.videoFormat, u.base.audioFormat)) (startRecord uvcCamera) := by
  refine .bind (leaves_call (fun _ _ ↦ rfl) fun _ ↦ rfl) fun _ ↦ .bind (.modify fun _ ↦ rfl) fun _ ↦
    .bind .get fun u ↦ .ite ?_ (.whenever ?_)
  · exact (content_startEncoders uvcCamera).comp
      (fun c ↦ (c.videoFormat, c.audioFormat)) fun _ ↦ rfl
  · exact (content_of_session session_resetVideoEncoder).comp
      (fun c ↦ (c.videoFormat, c.audioFormat)) fun _ ↦ rfl

end Content

/-- The recording that `startRecord` begins. -/
theorem takes_startRecord {u : Usb} (hcanRecord : u.base.canRecord = false) (uvcCamera : Option ℕ)
    {outcomes : List Outcome} (hcreated : firstThrows outcomes = false) :
    Takes u.devices.muxers.length ⟨u.base.videoFormat, u.base.audioFormat, false, []⟩
      (usbStep u ⟨.startRecord uvcCamera, outcomes⟩).content := by
  have hrecord : (usbStep u ⟨.startRecord uvcCamera, outcomes⟩).record = u.record.create := by
    have hstart := record_startRecord { u with devices.outcomes := outcomes } uvcCamera
    exact hstart.trans (if_neg (by rw [hcreated]; exact Bool.false_ne_true))
  have hformats := (formats_startRecord uvcCamera).after { u with devices.outcomes := outcomes }
  obtain ⟨hvideoFormat, haudioFormat⟩ := Prod.mk.inj hformats
  have hmuxer : u.record.create.muxer = some MediaMuxer.new := List.getElem?_concat_length
  constructor
  · exact congrArg RecordView.recording hrecord
  · exact congrArg RecordView.mediaMuxer hrecord
  · exact (congrArg RecordView.canRecord hrecord).trans hcanRecord
  · exact hvideoFormat
  · exact haudioFormat
  · exact fun _ ↦ ⟨(congrArg RecordView.muxer hrecord).trans hmuxer, rfl⟩
  · exact fun hbegun ↦ absurd hbegun Bool.false_ne_true

/-- One call during a recording: a callback acts on the take, another method leaves it alone. -/
theorem takes_usbStep {muxer : ℕ} {t : Take} {u : Usb} (h : Takes muxer t u.content)
    {usbCall : UsbCall} (hcall : usbCall.duringRecording = true) :
    Takes muxer (usbCall.encoderCallback.elim t t.step) (usbStep u usbCall).content := by
  obtain ⟨event, outcomes⟩ := usbCall
  have hquiet : ∀ {program : UsbM Unit}, Leaves Usb.content program →
      Takes muxer t (after program { u with devices.outcomes := outcomes }).content :=
    fun hleaves ↦ (hleaves.after { u with devices.outcomes := outcomes }).symm ▸ h
  cases event with
  | prepareVideo parameters uvcCamera =>
    exact hquiet (content_of_session ((session_prepareVideo uvcCamera parameters).bind
      fun _ ↦ .pure _))
  | prepareAudio => exact hquiet (content_of_session (session_prepareAudio.bind fun _ ↦ .pure _))
  | startPreview uvcCamera => exact hquiet (content_of_session (session_startPreview uvcCamera))
  | stopPreview uvcCamera => exact hquiet (content_of_session (session_stopPreview uvcCamera))
  | startStream uvcCamera url => exact hquiet (content_startStream uvcCamera url)
  | stopStream uvcCamera =>
    have hkept := @withoutStream_stopStream { u with devices.outcomes := outcomes } h.recording
      uvcCamera
    have hcontent := congrArg Usb.content hkept
    have hsame : (usbStep u ⟨.stopStream uvcCamera, outcomes⟩).content = u.content := hcontent
    exact hsame.symm ▸ h
  | startRecord uvcCamera => cases hcall
  | stopRecord uvcCamera => cases hcall
  | replaceView openGlView uvcCamera =>
    exact hquiet (content_of_session (session_replaceView uvcCamera openGlView))
  | callback encoderCallback =>
    have hrecords : Records muxer t { u with devices.outcomes := outcomes } := ⟨hcall, h⟩
    exact ((records_callback encoderCallback).after hrecords).2

/-- The calls during a recording act on the take as their callbacks do. -/
theorem takes_run {muxer : ℕ} {calls : List UsbCall}
    (hcalls : ∀ usbCall ∈ calls, usbCall.duringRecording = true) {t : Take} {u : Usb}
    (h : Takes muxer t u.content) :
    Takes muxer ((calls.filterMap UsbCall.encoderCallback).foldl Take.step t)
      (run usbStep u calls).content := by
  induction calls generalizing t u with
  | nil => exact h
  | cons usbCall rest ih =>
    have hstep := ih (fun later hlater ↦ hcalls later (List.mem_cons_of_mem _ hlater))
      (takes_usbStep h (hcalls usbCall List.mem_cons_self))
    cases hcallback : usbCall.encoderCallback with
    | none =>
      rw [hcallback] at hstep
      rw [List.filterMap_cons_none hcallback]
      exact hstep
    | some encoderCallback =>
      rw [hcallback] at hstep
      rw [List.filterMap_cons_some hcallback]
      exact hstep

/-- The samples that a muxer was given. -/
def Usb.samplesOf (u : Usb) (muxer : ℕ) : List (ℤ × Sample) :=
  (u.devices.muxers.map MediaMuxer.samples)[muxer]?.getD []

theorem Takes.samplesOf {muxer : ℕ} {t : Take} {u : Usb} (h : Takes muxer t u.content) :
    u.samplesOf muxer = t.samples := by
  have hmuxer : u.devices.muxers[muxer]? = u.record.muxer := by
    have hmediaMuxer : u.record.mediaMuxer = some muxer := h.mediaMuxer
    rw [RecordView.muxer, hmediaMuxer]
    rfl
  rw [Usb.samplesOf, List.getElem?_map, hmuxer]
  cases hbegun : t.begun with
  | false =>
    obtain ⟨hnew, hsamples⟩ := h.fresh hbegun
    have hheld : u.record.muxer = some MediaMuxer.new := hnew
    rw [hheld, hsamples]
    rfl
  | true =>
    obtain ⟨-, -, videoFormat, audioFormat, hrunning⟩ := h.running hbegun
    have hheld : u.record.muxer =
      some ⟨[videoFormat, audioFormat], true, false, false, false, t.samples⟩ := hrunning
    rw [hheld]
    rfl

/-- Stopping a recording gives no sample to a muxer, on any exit. -/
theorem StopMove.samples {v w : RecordView} (h : StopMove v w) :
    w.muxers.map MediaMuxer.samples = v.muxers.map MediaMuxer.samples := by
  have hchange : ∀ {change : MediaMuxer → MediaMuxer},
      (∀ muxer, (change muxer).samples = muxer.samples) →
        (v.onMuxer change).muxers.map MediaMuxer.samples = v.muxers.map MediaMuxer.samples := by
    intro change hsame
    unfold RecordView.onMuxer
    cases v.mediaMuxer with
    | none => rfl
    | some index => exact map_modify_of_eq hsame _ _
  cases h with
  | discard _ => rfl
  | threw _ hstop =>
    rcases hstop with rfl | rfl
    · exact hchange fun _ ↦ rfl
    · exact hchange fun _ ↦ rfl
  | stopped _ => exact hchange fun _ ↦ rfl

/-- The calls of one recording. -/
def recordingCalls (startCamera : Option ℕ) (startOutcomes : List Outcome) (calls : List UsbCall)
    (stopCamera : Option ℕ) (stopOutcomes : List Outcome) : List UsbCall :=
  ⟨.startRecord startCamera, startOutcomes⟩ :: calls ++ [⟨.stopRecord stopCamera, stopOutcomes⟩]

/-- A recording of an object that does not record, whose muxer can be made: the samples that the
muxer gets are those of the callbacks from the first frame on that has the key-frame bit and arrives
when both formats are known, if and only if this frame has no other flag. -/
theorem recording_content_iff {u : Usb} (hcanRecord : u.base.canRecord = false)
    (startCamera : Option ℕ) {startOutcomes : List Outcome}
    (hcreated : firstThrows startOutcomes = false) {calls : List UsbCall}
    (hcalls : ∀ usbCall ∈ calls, usbCall.duringRecording = true) (stopCamera : Option ℕ)
    (stopOutcomes : List Outcome) :
    let recorded := fromFirst hasKeyFrameFlag u.base.videoFormat.isSome u.base.audioFormat.isSome
      (calls.filterMap UsbCall.encoderCallback)
    (run usbStep u (recordingCalls startCamera startOutcomes calls stopCamera
        stopOutcomes)).samplesOf u.devices.muxers.length =
        recorded.filterMap EncoderCallback.sample ↔
      beginsPlainly recorded = true := by
  intro recorded
  have htakes := takes_run hcalls (takes_startRecord hcanRecord startCamera hcreated)
  have hstop : StopMove _ _ := record_usbStep
    (run usbStep (usbStep u ⟨.startRecord startCamera, startOutcomes⟩) calls)
    ⟨.stopRecord stopCamera, stopOutcomes⟩
  have hkept := congrArg (fun samples ↦ samples[u.devices.muxers.length]?.getD []) hstop.samples
  have hsamples : (run usbStep u (recordingCalls startCamera startOutcomes calls stopCamera
      stopOutcomes)).samplesOf u.devices.muxers.length =
        (fromFirst isKeyFrame u.base.videoFormat.isSome u.base.audioFormat.isSome
          (calls.filterMap UsbCall.encoderCallback)).filterMap EncoderCallback.sample := by
    rw [recordingCalls, run_append, run_cons]
    exact hkept.trans (htakes.samplesOf.trans (samples_foldl _ rfl))
  rw [hsamples]
  exact filterMap_fromFirst_eq_iff _ _ _

/-- Both formats and one frame. -/
def oneFrameCalls (flags : Int32) : List UsbCall :=
  [(UsbEvent.callback (.onVideoFormat ⟨"video/avc", []⟩)).plain,
    (UsbEvent.callback (.onAudioFormat ⟨"audio/mp4a-latm", []⟩)).plain,
    (UsbEvent.callback (.getVideoData 0 (ByteBuffer.wrap [1]) ⟨0, 1, 0, flags⟩
      (.io WriteFault.none))).plain]

/-- A recording of one key frame. -/
theorem recording_content_iff_plain :
    (run usbStep (Usb.initial 0 oneCamera) (recordingCalls (some 0) []
      (oneFrameCalls BUFFER_FLAG_KEY_FRAME) (some 0) [])).samplesOf 0 =
        (fromFirst hasKeyFrameFlag false false ((oneFrameCalls BUFFER_FLAG_KEY_FRAME).filterMap
          UsbCall.encoderCallback)).filterMap EncoderCallback.sample :=
  (@recording_content_iff (Usb.initial 0 oneCamera) rfl (some 0) [] rfl _ (by decide) (some 0)
    []).mpr (by decide)

/-- A key frame that is also the end of the stream (flag 4) does not begin the recording. -/
theorem not_recording_content_flagged :
    (run usbStep (Usb.initial 0 oneCamera) (recordingCalls (some 0) []
      (oneFrameCalls (BUFFER_FLAG_KEY_FRAME ||| 4)) (some 0) [])).samplesOf 0 ≠
        (fromFirst hasKeyFrameFlag false false
          ((oneFrameCalls (BUFFER_FLAG_KEY_FRAME ||| 4)).filterMap
            UsbCall.encoderCallback)).filterMap EncoderCallback.sample := by
  decide

end UvcRtmpStream.Streaming
