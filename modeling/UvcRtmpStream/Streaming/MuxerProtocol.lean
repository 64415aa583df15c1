import UvcRtmpStream.Streaming.USBBaseSpec

/-!
# The muxer protocol of a session

A sample is meant to be written only to a muxer that is started and not stopped, on a track of this
muxer, and `canRecord` is meant to say that the muxer in place is such a muxer (`MuxerProtocol`).

The flag outlives the muxer it is about in two ways: `startRecord` puts a new muxer in place and
does not clear it, and a `stop` that throws leaves `stopRecord` before it is cleared. In both cases
the harm is done by a `startRecord` while the flag is set, and by nothing else
(`muxer_protocol_iff`).
-/

set_option autoImplicit false
set_option relaxedAutoImplicit false

namespace UvcRtmpStream.Streaming

open UvcRtmpStream.Foundations UvcRtmpStream.Platform UvcRtmpStream.Replay

/-- The write is made on a muxer on which `start` was called and `stop` was not, with a track of
this muxer. -/
def MuxerWrite.Legal (write : MuxerWrite) : Prop :=
  ∃ muxer ∈ write.muxer, muxer.Running ∧ muxer.HasTrack write.track

/-- All writes so far were legal, and `canRecord` implies that the current muxer is started and has
both tracks. -/
def MuxerProtocol (v : RecordView) : Prop :=
  (∀ write ∈ v.writes, write.Legal) ∧
    (v.canRecord = true → ∃ muxer ∈ v.muxer, muxer.startCalled = true ∧
      muxer.HasTrack v.videoTrack ∧ muxer.HasTrack v.audioTrack)

/-- No muxer is put in place while `canRecord` is set: its constructor, the first call of
`startRecord`, throws. -/
def FreshStart (u : Usb) (usbCall : UsbCall) : Prop :=
  match usbCall.event with
  | .startRecord _ => u.base.canRecord = true → firstThrows usbCall.outcomes = true
  | _ => True

instance (u : Usb) : (usbCall : UsbCall) → Decidable (FreshStart u usbCall)
  | ⟨.startRecord _, _⟩ => inferInstanceAs (Decidable (_ → _))
  | ⟨.prepareVideo _ _, _⟩ | ⟨.prepareAudio, _⟩ | ⟨.startPreview _, _⟩ | ⟨.stopPreview _, _⟩
  | ⟨.startStream _ _, _⟩ | ⟨.stopStream _, _⟩ | ⟨.stopRecord _, _⟩ | ⟨.replaceView _ _, _⟩
  | ⟨.callback _, _⟩ => instDecidableTrue

/-- What holds as long as no muxer was put in place while `canRecord` was set. -/
structure MuxerInv (v : RecordView) : Prop where
  writes : ∀ write ∈ v.writes, write.Legal
  started : v.canRecord = true → ∃ muxer ∈ v.muxer, muxer.startCalled = true ∧
    muxer.HasTrack v.videoTrack ∧ muxer.HasTrack v.audioTrack
  /-- After a `stop` that threw the flag is set and the muxer stopped, but nothing is recorded. -/
  running : v.recording = true → v.canRecord = true → ∀ muxer ∈ v.muxer, muxer.Running

/-- `stopRecord` keeps the invariant. -/
theorem MuxerInv.stop {v w : RecordView} (h : MuxerInv v) (hmove : StopMove v w) : MuxerInv w := by
  cases hmove with
  | discard hidle =>
    refine ⟨h.writes, fun hcanRecord ↦ ?_, fun hrecording ↦ absurd hrecording Bool.false_ne_true⟩
    obtain ⟨muxer, hmuxer, -⟩ := h.started hcanRecord
    rcases hidle with hoff | hnone
    · exact absurd (hoff.symm.trans hcanRecord) Bool.false_ne_true
    · rw [RecordView.muxer, hnone] at hmuxer
      cases hmuxer
  | @threw hcanRecord change hchange =>
    refine ⟨h.writes, fun _ ↦ ?_, fun hrecording ↦ absurd hrecording Bool.false_ne_true⟩
    obtain ⟨muxer, hmuxer, hstarted⟩ := h.started hcanRecord
    refine ⟨change muxer, (v.muxer_onMuxer change).trans (congrArg _ hmuxer), ?_⟩
    rcases hchange with rfl | rfl
    · exact hstarted
    · exact hstarted
  | stopped hcanRecord =>
    exact ⟨h.writes, fun hset ↦ absurd hset Bool.false_ne_true,
      fun hrecording ↦ absurd hrecording Bool.false_ne_true⟩

/-- A callback keeps the invariant. -/
theorem MuxerInv.deliver {v w : RecordView} (h : MuxerInv v) (hmove : DeliverMove v w) :
    MuxerInv w := by
  cases hmove with
  | addTrack hrecording hcanRecord format =>
    have hoff : ∀ {p : Prop}, v.canRecord = true → p := fun hset ↦
      absurd (hcanRecord.symm.trans hset) Bool.false_ne_true
    exact ⟨h.writes, fun hset ↦ hoff hset, fun _ hset ↦ hoff hset⟩
  | setTracks hrecording hcanRecord videoTrack audioTrack =>
    have hoff : ∀ {p : Prop}, v.canRecord = true → p := fun hset ↦
      absurd (hcanRecord.symm.trans hset) Bool.false_ne_true
    exact ⟨h.writes, fun hset ↦ hoff hset, fun _ hset ↦ hoff hset⟩
  | @start hrecording hcanRecord muxer hmuxer hfresh hvideo haudio =>
    have hstarted : ∀ w : RecordView,
        w = { v.onMuxer fun muxer ↦ { muxer with startCalled := true } with canRecord := true } →
          w.muxer = some { muxer with startCalled := true } := by
      rintro w rfl
      exact (v.muxer_onMuxer _).trans (congrArg _ hmuxer)
    refine ⟨h.writes, fun _ ↦ ⟨_, hstarted _ rfl, rfl, hvideo, haudio⟩, fun _ _ held hheld ↦ ?_⟩
    obtain rfl := Option.some.inj ((hstarted _ rfl).symm.trans hheld)
    exact ⟨rfl, hfresh⟩
  | @write hrecording hcanRecord track htrack buffer info samples =>
    obtain ⟨muxer, hmuxer, hstarted, hvideo, haudio⟩ := h.started hcanRecord
    have hrunning := h.running hrecording hcanRecord muxer hmuxer
    have hwritten : ∀ w : RecordView, w = { v.onMuxer fun muxer ↦
        { muxer with samples := samples muxer } with
          writes := v.writes ++ [⟨v.muxer, track, buffer, info⟩] } →
        w.muxer = some { muxer with samples := samples muxer } := by
      rintro w rfl
      exact (v.muxer_onMuxer _).trans (congrArg _ hmuxer)
    refine ⟨fun write hwrite ↦ ?_, fun _ ↦ ⟨_, hwritten _ rfl, hstarted, hvideo, haudio⟩,
      fun _ _ held hheld ↦ ?_⟩
    · rcases List.mem_append.mp hwrite with hold | hnew
      · exact h.writes write hold
      · rw [List.mem_singleton.mp hnew]
        refine ⟨muxer, hmuxer, hrunning, ?_⟩
        rcases htrack with rfl | rfl
        · exact hvideo
        · exact haudio
    · obtain rfl := Option.some.inj ((hwritten _ rfl).symm.trans hheld)
      exact hrunning

theorem MuxerInv.delivers {v w : RecordView} (h : MuxerInv v) (hmoves : Delivers v w) :
    MuxerInv w := by
  induction hmoves with
  | refl => exact h
  | tail _ hmove ih => exact ih.deliver hmove

/-- A new muxer while the flag is not set keeps the invariant. -/
theorem MuxerInv.create {v : RecordView} (h : MuxerInv v) (hcanRecord : v.canRecord = false) :
    MuxerInv v.create :=
  ⟨h.writes, fun hset ↦ absurd (hcanRecord.symm.trans hset) Bool.false_ne_true,
    fun _ hset ↦ absurd (hcanRecord.symm.trans hset) Bool.false_ne_true⟩

/-- A new muxer is not started. -/
theorem RecordView.muxer_create (v : RecordView) : v.create.muxer = some MediaMuxer.new := by
  simp [RecordView.muxer, RecordView.create]

/-- The step lemma. -/
theorem muxerInv_usbStep {u : Usb} {usbCall : UsbCall} (h : MuxerInv u.record)
    (hfresh : FreshStart u usbCall) : MuxerInv (usbStep u usbCall).record := by
  have hstep := record_usbStep u usbCall
  obtain ⟨event, outcomes⟩ := usbCall
  cases event with
  | startRecord uvcCamera =>
    dsimp only at hstep
    rw [hstep]
    split_ifs with hrefused
    · exact h
    · refine h.create ?_
      by_contra hset
      exact hrefused (hfresh (Bool.not_eq_false _ ▸ hset))
  | stopRecord uvcCamera => exact h.stop hstep
  | callback encoderCallback => exact h.delivers hstep
  | _ =>
    dsimp only at hstep
    rw [hstep]
    exact h

/-- A muxer put in place while the flag is set breaks the protocol at once. -/
theorem not_muxerProtocol_usbStep {u : Usb} {usbCall : UsbCall} (hfresh : ¬ FreshStart u usbCall) :
    ¬ MuxerProtocol (usbStep u usbCall).record := by
  have hstep := record_usbStep u usbCall
  obtain ⟨event, outcomes⟩ := usbCall
  unfold FreshStart at hfresh
  cases event with
  | startRecord uvcCamera =>
    obtain ⟨hset, haccepted⟩ := Classical.not_imp.mp hfresh
    dsimp only at hstep
    rw [hstep, if_neg haccepted]
    rintro ⟨-, hstarted⟩
    obtain ⟨muxer, hmuxer, hcalled, -⟩ := hstarted hset
    rw [RecordView.muxer_create] at hmuxer
    cases hmuxer
    exact Bool.false_ne_true hcalled
  | _ => exact absurd trivial hfresh

/-! ### Runs -/

/-- Along any calls and callbacks on a new object, with any outcomes of the calls it makes, the
muxer protocol is kept exactly when no `startRecord` gets a muxer while `canRecord` is set. -/
theorem muxer_protocol_iff (glInterface : ℕ) (devices : Devices) (calls : List UsbCall) :
    Throughout usbStep (fun u ↦ MuxerProtocol u.record) (Usb.initial glInterface devices) calls ↔
      Meets usbStep FreshStart (Usb.initial glInterface devices) calls := by
  refine @throughout_iff_meets _ _ usbStep FreshStart (fun _ _ ↦ True) _
    (fun u ↦ MuxerInv u.record) _ _ (fun u h ↦ ⟨h.writes, h.started⟩)
    (fun u usbCall h _ hfresh ↦ muxerInv_usbStep h hfresh)
    (fun u usbCall _ _ hbroken ↦ not_muxerProtocol_usbStep hbroken) ?_
    (meets_of_forall fun _ _ ↦ trivial)
  refine ⟨fun write hwrite ↦ ?_, fun hset ↦ ?_, fun hrecording ↦ ?_⟩
  · exact absurd hwrite List.not_mem_nil
  · exact absurd hset Bool.false_ne_true
  · exact absurd hrecording Bool.false_ne_true

/-- One camera, one view on the screen, no replay buffer. -/
def oneCamera : Devices where
  cameras := [UVCCamera.new.openCamera]
  interfaces := [⟨false, true, false, false⟩]
  muxers := []
  replay := ⟨none, FileStore.empty⟩
  outcomes := []
  writes := []

/-- A call all of whose calls return. -/
def UsbEvent.plain (event : UsbEvent) : UsbCall := ⟨event, []⟩

/-- A key frame of one byte. -/
def keyFrame : EncoderCallback :=
  .getVideoData 0 (ByteBuffer.wrap [1]) ⟨0, 1, 0, BUFFER_FLAG_KEY_FRAME⟩ (.io WriteFault.none)

/-- A second `startRecord` without a stop: the next frame is written to a muxer that is not
started. -/
theorem not_muxerProtocol_second_start :
    ¬ Throughout usbStep (fun u ↦ MuxerProtocol u.record) (Usb.initial 0 oneCamera)
      [(UsbEvent.startRecord (some 0)).plain,
        (UsbEvent.callback (.onVideoFormat ⟨"video/avc", []⟩)).plain,
        (UsbEvent.callback (.onAudioFormat ⟨"audio/mp4a-latm", []⟩)).plain,
        (UsbEvent.callback keyFrame).plain,
        (UsbEvent.startRecord (some 0)).plain,
        (UsbEvent.callback keyFrame).plain] := by
  intro h
  obtain ⟨muxer, hmuxer, hrunning, -⟩ :=
    (h _ (List.prefix_refl _)).1
      ⟨some MediaMuxer.new, 0, ByteBuffer.wrap [1], ⟨0, 1, 0, BUFFER_FLAG_KEY_FRAME⟩⟩ (by decide)
  cases hmuxer
  exact absurd hrunning (by decide)

end UvcRtmpStream.Streaming
