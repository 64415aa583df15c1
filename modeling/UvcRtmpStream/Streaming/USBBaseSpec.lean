import Mathlib.Logic.Relation
import Mathlib.Tactic.SplitIfs
import UvcRtmpStream.Streaming.USBBase

/-!
# What the methods of a session touch

The recording of a session is a part of its state (`RecordView`): the flags, the muxer with its
tracks, all muxers, and the writes made so far. Only `startRecord`, `stopRecord` and the callbacks
that deliver data touch it. The other methods leave it alone on every exit.

What the three do to it, on any exit, is said once: `startRecord` either changes nothing or puts a
new muxer in place (`record_startRecord`), `stopRecord` ends the recording in one of three ways
(`StopMove`), and a callback moves it on in steps that need it to be on (`DeliverMove`). Invariants
of the recording are proved for these moves.
-/

set_option autoImplicit false
set_option relaxedAutoImplicit false

namespace UvcRtmpStream.Streaming

open UvcRtmpStream.Foundations UvcRtmpStream.Platform UvcRtmpStream.Replay

/-- The recording part of the state. -/
structure RecordView where
  recording : Bool
  canRecord : Bool
  mediaMuxer : Option ℕ
  videoTrack : ℤ
  audioTrack : ℤ
  muxers : List MediaMuxer
  writes : List MuxerWrite

/-- The recording part of the state. -/
def Usb.record (u : Usb) : RecordView :=
  ⟨u.base.recording, u.base.canRecord, u.base.mediaMuxer, u.base.videoTrack, u.base.audioTrack,
    u.devices.muxers, u.devices.writes⟩

/-! ### Calls -/

section Calls

variable {ν : Type} {view : Usb → ν} {effect : Usb → Usb}

theorem leaves_nextAnswer
    (houtcomes : ∀ u outcomes, view { u with devices.outcomes := outcomes } = view u) :
    Leaves view nextAnswer := by
  refine Leaves.zoom (@leaves_answer _ (fun devices ↦ { devices with outcomes := [] })
    fun _ _ ↦ rfl) fun u devices devices' hdevices hsame ↦ ?_
  obtain rfl := Option.some.inj hdevices
  have hput := houtcomes { u with devices := devices' } []
  have hold := houtcomes u []
  dsimp only at hput hold hsame
  rw [← hput, hsame, hold]

theorem leaves_call (hcall : ∀ u outcomes, view { u with devices.outcomes := outcomes } = view u)
    (heffect : ∀ u, view (effect u) = view u) : Leaves view (call effect) :=
  (leaves_nextAnswer hcall).bind fun _ ↦ .modify heffect

/-- A call on the camera of the caller leaves what no camera changes; on a missing camera it
throws. -/
theorem leaves_onCamera {uvcCamera : Option ℕ} {effect : UVCCamera → UVCCamera}
    (hcall : ∀ u outcomes, view { u with devices.outcomes := outcomes } = view u)
    (heffect : ∀ (u : Usb) camera,
      view { u with devices.cameras := u.devices.cameras.modify camera effect } = view u) :
    Leaves view (onCamera uvcCamera effect) := by
  cases uvcCamera with
  | none => exact .throw _
  | some camera => exact leaves_call hcall fun u ↦ heffect u camera

theorem leaves_ask (hcall : ∀ u outcomes, view { u with devices.outcomes := outcomes } = view u)
    (heffect : ∀ u, view (effect u) = view u) : Leaves view (ask effect) :=
  (leaves_nextAnswer hcall).bind fun value ↦ (Leaves.modify heffect).bind fun _ ↦ .pure value

theorem leaves_onMuxer {α : Type}
    (hcall : ∀ u outcomes, view { u with devices.outcomes := outcomes } = view u)
    (hmuxers : ∀ u muxers, view { u with devices.muxers := muxers } = view u)
    (operation : MediaMuxer → Except JavaException (α × MediaMuxer)) :
    Leaves view (onMuxer operation) := by
  refine .bind .get fun u ↦ ?_
  split
  · refine .bind (leaves_nextAnswer hcall) fun _ ↦ ?_
    split
    · exact .throw _
    · exact .bind (.modify fun u ↦ hmuxers u _) fun _ ↦ .pure _
  · exact .throw _

end Calls

/-! ### The methods that leave the session alone -/

/-- The call connects or disconnects the client. -/
def RtmpCall.isConnection : RtmpCall → Bool
  | .connect _ => true
  | .disconnect => true
  | _ => false

/-- An object without its preview, its view and its parameters: what streams and records, what runs,
and how the client was told to connect. -/
def USBBase.session (base : USBBase) : USBBase :=
  { base with
    videoEncoder := ⟨base.videoEncoder.running, none, none⟩
    glInterface := 0
    onPreview := false
    rtmpClient := base.rtmpClient.filter RtmpCall.isConnection }

/-- The devices without the cameras and the GL interfaces. -/
def Devices.session (devices : Devices) : Devices :=
  { devices with cameras := [], interfaces := [], outcomes := [] }

/-- The session part of the state. -/
def Usb.session (u : Usb) : Usb := ⟨u.base.session, u.devices.session⟩

section Session

variable (uvcCamera : Option ℕ)

theorem session_call {effect : Usb → Usb} (heffect : ∀ u, (effect u).session = u.session) :
    Leaves Usb.session (call effect) :=
  leaves_call (fun _ _ ↦ rfl) heffect

theorem session_ask {effect : Usb → Usb} (heffect : ∀ u, (effect u).session = u.session) :
    Leaves Usb.session (ask effect) :=
  leaves_ask (fun _ _ ↦ rfl) heffect

theorem session_onVideoEncoder {effect : VideoEncoder → VideoEncoder}
    (heffect : ∀ encoder, (effect encoder).running = encoder.running) :
    Leaves Usb.session (onVideoEncoder effect) := by
  refine session_call fun u ↦ ?_
  simp only [Usb.session, USBBase.session, heffect]

theorem session_onGl (effect : GlInterface → GlInterface) : Leaves Usb.session (onGl effect) :=
  session_call fun _ ↦ rfl

theorem session_onCamera (effect : UVCCamera → UVCCamera) :
    Leaves Usb.session (onCamera uvcCamera effect) :=
  leaves_onCamera (fun _ _ ↦ rfl) fun _ _ ↦ rfl

theorem session_onRtmp {rtmpCall : RtmpCall} (hcall : rtmpCall.isConnection = false) :
    Leaves Usb.session (onRtmp rtmpCall) := by
  refine session_call fun u ↦ ?_
  simp [Usb.session, USBBase.session, hcall]

theorem session_startPreview : Leaves Usb.session (startPreview uvcCamera) := by
  refine .bind .get fun u ↦ .whenever ?_
  refine .bind (session_onGl _) fun _ ↦ .bind (session_onGl _) fun _ ↦
    .bind (session_onGl _) fun _ ↦ ?_
  refine .bind (session_onCamera uvcCamera _) fun _ ↦
    .bind (session_onCamera uvcCamera _) fun _ ↦ ?_
  exact .modify fun _ ↦ rfl

theorem session_stopPreview : Leaves Usb.session (stopPreview uvcCamera) := by
  refine .bind .get fun u ↦ .whenever ?_
  refine .bind (session_onGl _) fun _ ↦ .bind (session_onCamera uvcCamera _) fun _ ↦ ?_
  exact .modify fun _ ↦ rfl

theorem session_prepareVideo (parameters : VideoParameters) :
    Leaves Usb.session (prepareVideo parameters uvcCamera) := by
  refine .bind .get fun u ↦ .bind (.whenever ?_) fun _ ↦ session_ask fun _ ↦ rfl
  exact .bind (session_stopPreview uvcCamera) fun _ ↦ .modify fun _ ↦ rfl

theorem session_prepareAudio : Leaves Usb.session prepareAudio :=
  .bind (session_call fun _ ↦ rfl) fun _ ↦ .bind (session_onRtmp rfl) fun _ ↦
    session_ask fun _ ↦ rfl

theorem session_resetVideoEncoder : Leaves Usb.session resetVideoEncoder :=
  .bind (session_onGl _) fun _ ↦ .bind (session_onVideoEncoder fun _ ↦ rfl) fun _ ↦ session_onGl _

theorem session_replaceGlInterface (glInterface : ℕ) :
    Leaves Usb.session (replaceGlInterface glInterface uvcCamera) := by
  refine .bind .get fun u ↦ .ite ?_ (.modify fun _ ↦ rfl)
  refine .bind (session_onCamera uvcCamera _) fun _ ↦ .bind (session_onGl _) fun _ ↦
    .bind (session_onGl _) fun _ ↦ .bind (.modify fun _ ↦ rfl) fun _ ↦ ?_
  refine .bind (session_onGl _) fun _ ↦ .bind (session_onGl _) fun _ ↦
    .bind (session_onGl _) fun _ ↦ .bind (session_onGl _) fun _ ↦
    .bind (.whenever (session_onGl _)) fun _ ↦ ?_
  exact .bind (session_onCamera uvcCamera _) fun _ ↦ session_onCamera uvcCamera _

theorem session_replaceView (openGlView : Option ℕ) :
    Leaves Usb.session (replaceView openGlView uvcCamera) := by
  cases openGlView with
  | some view => exact session_replaceGlInterface uvcCamera view
  | none =>
    refine .bind .get fun u ↦ .bind (session_call fun _ ↦ rfl) fun _ ↦ ?_
    exact session_replaceGlInterface uvcCamera _

theorem session_onSpsPpsVps : Leaves Usb.session onSpsPpsVps :=
  .bind .get fun _ ↦ .whenever (session_onRtmp rfl)

end Session

/-! ### What `startEncoders` touches -/

/-- The session part of the state without what runs. -/
def Usb.settled (u : Usb) : Usb :=
  { u.session with
    base.videoEncoder := ⟨false, none, none⟩
    base.audioEncoderRunning := false
    base.microphoneRunning := false }

/-- `startEncoders` touches the session only in what runs. -/
theorem settled_startEncoders (uvcCamera : Option ℕ) :
    Leaves Usb.settled (startEncoders uvcCamera) := by
  have hcall : ∀ {effect : Usb → Usb}, (∀ u, (effect u).settled = u.settled) →
      Leaves Usb.settled (call effect) := fun heffect ↦ leaves_call (fun _ _ ↦ rfl) heffect
  have hquiet : ∀ {method : UsbM Unit}, Leaves Usb.session method → Leaves Usb.settled method := by
    intro method h
    refine h.comp Usb.settled fun u ↦ ?_
    simp only [Usb.settled, Usb.session, USBBase.session, Devices.session, List.filter_filter,
      Bool.and_self]
  refine .bind (hcall fun _ ↦ rfl) fun _ ↦ .bind (hcall fun _ ↦ rfl) fun _ ↦
    .bind (hcall fun _ ↦ rfl) fun _ ↦ hquiet ?_
  refine .bind (session_onCamera uvcCamera _) fun _ ↦ .bind (session_onGl _) fun _ ↦
    .bind (session_onGl _) fun _ ↦ .bind (session_onGl _) fun _ ↦ .bind (session_onGl _) fun _ ↦ ?_
  refine .bind (session_onCamera uvcCamera _) fun _ ↦ .bind (session_onCamera uvcCamera _) fun _ ↦
    .bind (session_ask fun _ ↦ rfl) fun _ ↦ .bind (.whenever (session_onGl _)) fun _ ↦ ?_
  exact .modify fun _ ↦ rfl

/-! ### The methods that leave the recording alone -/

section Record

variable (uvcCamera : Option ℕ)

/-- What leaves the session alone leaves the recording alone. -/
theorem record_of_session {α : Type} {method : UsbM α} (h : Leaves Usb.session method) :
    Leaves Usb.record method :=
  h.comp Usb.record fun _ ↦ rfl

theorem record_call {effect : Usb → Usb} (heffect : ∀ u, (effect u).record = u.record) :
    Leaves Usb.record (call effect) :=
  leaves_call (fun _ _ ↦ rfl) heffect

theorem record_onVideoEncoder (effect : VideoEncoder → VideoEncoder) :
    Leaves Usb.record (onVideoEncoder effect) := record_call fun _ ↦ rfl

theorem record_onGl (effect : GlInterface → GlInterface) : Leaves Usb.record (onGl effect) :=
  record_of_session (session_onGl effect)

theorem record_onCamera (effect : UVCCamera → UVCCamera) :
    Leaves Usb.record (onCamera uvcCamera effect) :=
  record_of_session (session_onCamera uvcCamera effect)

theorem record_onRtmp (rtmpCall : RtmpCall) : Leaves Usb.record (onRtmp rtmpCall) :=
  record_call fun _ ↦ rfl

theorem record_startEncoders : Leaves Usb.record (startEncoders uvcCamera) :=
  (settled_startEncoders uvcCamera).comp Usb.record fun _ ↦ rfl

theorem record_startStreamRtp (url : String) : Leaves Usb.record (startStreamRtp url) :=
  .bind .get fun _ ↦ .bind (record_onRtmp _) fun _ ↦ record_onRtmp _

theorem record_startStream (url : String) : Leaves Usb.record (startStream uvcCamera url) := by
  refine .bind (.modify fun _ ↦ rfl) fun _ ↦ .bind .get fun u ↦ ?_
  refine .bind (.ite (record_startEncoders uvcCamera)
    (record_of_session session_resetVideoEncoder)) fun _ ↦ ?_
  exact .bind (record_startStreamRtp url) fun _ ↦ .modify fun _ ↦ rfl

theorem record_stopStream : Leaves Usb.record (stopStream uvcCamera) := by
  refine .bind .get fun u ↦ .bind (.whenever ?_) fun _ ↦ .whenever ?_
  · exact .bind (.modify fun _ ↦ rfl) fun _ ↦ record_onRtmp _
  · refine .bind (record_call fun _ ↦ rfl) fun _ ↦ .bind (record_onGl _) fun _ ↦ ?_
    refine .bind (.whenever (.bind (record_onGl _) fun _ ↦ record_onCamera uvcCamera _)) fun _ ↦ ?_
    refine .bind (record_onVideoEncoder _) fun _ ↦ .bind (record_call fun _ ↦ rfl) fun _ ↦ ?_
    exact .modify fun _ ↦ rfl

theorem record_onVideoFormat (mediaFormat : MediaFormat) :
    Leaves Usb.record (onVideoFormat mediaFormat) := .modify fun _ ↦ rfl

theorem record_onAudioFormat (mediaFormat : MediaFormat) :
    Leaves Usb.record (onAudioFormat mediaFormat) := .modify fun _ ↦ rfl

/-- The replay classes have no part in the recording. -/
theorem record_writeReplayFrame (now : ℕ) (h264Buffer : ByteBuffer) (info : BufferInfo)
    (fault : SinkFault) : Leaves Usb.record (writeReplayFrame now h264Buffer info fault) :=
  .bind .get fun _ ↦ .bind (.modify fun _ ↦ rfl) fun _ ↦ .pure _

end Record

/-! ### What the encoders and the muxer leave alone -/

section Setting

/-- The state without what the encoders deliver and where it goes: what is left is touched neither
by a callback nor by what `stopRecord` does with the muxer. -/
def Usb.setting (u : Usb) : Usb :=
  ⟨{ u.base with
      mediaMuxer := none, canRecord := false, videoTrack := -1, audioTrack := -1
      videoFormat := none, audioFormat := none
      rtmpClient := u.base.rtmpClient.filter RtmpCall.isConnection },
    { u.devices with
      muxers := [], replay := ⟨none, FileStore.empty⟩, outcomes := [], writes := [] }⟩

theorem setting_onMuxer {α : Type}
    (operation : MediaMuxer → Except JavaException (α × MediaMuxer)) :
    Leaves Usb.setting (onMuxer operation) :=
  leaves_onMuxer (fun _ _ ↦ rfl) (fun _ _ ↦ rfl) operation

theorem setting_onRtmp {rtmpCall : RtmpCall} (hcall : rtmpCall.isConnection = false) :
    Leaves Usb.setting (onRtmp rtmpCall) := by
  refine leaves_call (fun _ _ ↦ rfl) fun u ↦ ?_
  simp [Usb.setting, hcall]

theorem setting_writeSampleData (track : ℤ) (buffer : ByteBuffer) (info : BufferInfo) :
    Leaves Usb.setting (writeSampleData track buffer info) :=
  .bind (.modify fun _ ↦ rfl) fun _ ↦ setting_onMuxer _

theorem setting_beginRecording (videoFormat audioFormat : Option MediaFormat) :
    Leaves Usb.setting (beginRecording videoFormat audioFormat) :=
  .bind (setting_onMuxer _) fun _ ↦ .bind (.modify fun _ ↦ rfl) fun _ ↦
    .bind (setting_onMuxer _) fun _ ↦ .bind (.modify fun _ ↦ rfl) fun _ ↦
    .bind (setting_onMuxer _) fun _ ↦ .modify fun _ ↦ rfl

/-- The encoders deliver without touching anything else. -/
theorem setting_callback (encoderCallback : EncoderCallback) :
    Leaves Usb.setting encoderCallback.method := by
  cases encoderCallback with
  | getVideoData now h264Buffer info fault =>
    refine .bind (.bind .get fun _ ↦ .bind (.modify fun _ ↦ rfl) fun _ ↦ .pure _) fun buffer ↦
      .bind .get fun u ↦ .bind (.whenever ?_) fun _ ↦ .whenever (setting_onRtmp rfl)
    exact .bind (.whenever (setting_beginRecording _ _)) fun _ ↦ .bind .get fun u ↦
      .whenever (setting_writeSampleData _ _ _)
  | getAacData aacBuffer info =>
    exact .bind .get fun u ↦ .bind (.whenever (setting_writeSampleData _ _ _)) fun _ ↦
      .whenever (setting_onRtmp rfl)
  | onSpsPpsVps => exact .bind .get fun _ ↦ .whenever (setting_onRtmp rfl)
  | onVideoFormat mediaFormat => exact .modify fun _ ↦ rfl
  | onAudioFormat mediaFormat => exact .modify fun _ ↦ rfl

/-- What `stopRecord` does with the muxer. -/
def dropMuxer (held started : Bool) : UsbM Unit :=
  whenever held do
    whenever started do
      stopMuxer
      onMuxer fun muxer ↦ .ok ((), muxer.release)
      modify fun u ↦ { u with base.canRecord := false }
    modify fun u ↦ { u with base.mediaMuxer := none }

theorem setting_dropMuxer (held started : Bool) :
    Leaves Usb.setting (dropMuxer held started) := by
  have hstop : Leaves Usb.setting stopMuxer :=
    .bind (.modify fun _ ↦ rfl) fun _ ↦ setting_onMuxer _
  refine .whenever (.bind (.whenever (hstop.bind fun _ ↦ ?_)) fun _ ↦ .modify fun _ ↦ rfl)
  exact .bind (setting_onMuxer _) fun _ ↦ .modify fun _ ↦ rfl

end Setting

/-! ### The moves of a recording -/

namespace RecordView

/-- The muxer that `mediaMuxer` refers to. -/
def muxer (v : RecordView) : Option MediaMuxer := v.mediaMuxer.bind (v.muxers[·]?)

/-- A change of that muxer. -/
def onMuxer (v : RecordView) (change : MediaMuxer → MediaMuxer) : RecordView :=
  { v with
    muxers := match v.mediaMuxer with
      | none => v.muxers
      | some index => v.muxers.modify index change }

/-- The muxer has one more track. -/
def addTrack (v : RecordView) (format : MediaFormat) : RecordView :=
  v.onMuxer fun muxer ↦ { muxer with tracks := muxer.tracks ++ [format] }

/-- A new muxer is in place. -/
def create (v : RecordView) : RecordView :=
  { v with
    recording := true
    mediaMuxer := some v.muxers.length
    muxers := v.muxers ++ [MediaMuxer.new] }

end RecordView

/-- How `stopRecord` leaves the recording. -/
inductive StopMove (v : RecordView) : RecordView → Prop
  /-- There is no muxer, or none that was started. -/
  | discard (h : v.canRecord = false ∨ v.mediaMuxer = none) :
    StopMove v { v with
      recording := false, mediaMuxer := none, videoTrack := -1, audioTrack := -1 }
  /-- `stop` or `release` threw. -/
  | threw (h : v.canRecord = true) {change : MediaMuxer → MediaMuxer}
      (hchange : change = MediaMuxer.stopFailed ∨ change = MediaMuxer.stop) :
    StopMove v { v.onMuxer change with recording := false }
  | stopped (h : v.canRecord = true) :
    StopMove v { v.onMuxer fun muxer ↦ muxer.stop.release with
      recording := false, canRecord := false, mediaMuxer := none, videoTrack := -1
      audioTrack := -1 }

/-- What a callback does to a recording that is on. -/
inductive DeliverMove (v : RecordView) : RecordView → Prop
  | addTrack (hrecording : v.recording = true) (hcanRecord : v.canRecord = false)
      (format : MediaFormat) :
    DeliverMove v (v.addTrack format)
  | setTracks (hrecording : v.recording = true) (hcanRecord : v.canRecord = false)
      (videoTrack audioTrack : ℤ) :
    DeliverMove v { v with videoTrack := videoTrack, audioTrack := audioTrack }
  /-- The muxer is started with its tracks. -/
  | start (hrecording : v.recording = true) (hcanRecord : v.canRecord = false)
      {muxer : MediaMuxer} (hmuxer : v.muxer = some muxer)
      (hfresh : muxer.stopCalled = false ∧ muxer.released = false)
      (hvideo : muxer.HasTrack v.videoTrack) (haudio : muxer.HasTrack v.audioTrack) :
    DeliverMove v
      { v.onMuxer fun muxer ↦ { muxer with startCalled := true } with canRecord := true }
  /-- `writeSampleData` was called, and the muxer took the sample or not. -/
  | write (hrecording : v.recording = true) (hcanRecord : v.canRecord = true) {track : ℤ}
      (htrack : track = v.videoTrack ∨ track = v.audioTrack)
      (buffer : ByteBuffer) (info : BufferInfo) (samples : MediaMuxer → List (ℤ × Sample)) :
    DeliverMove v
      { v.onMuxer fun muxer ↦ { muxer with samples := samples muxer } with
        writes := v.writes ++ [⟨v.muxer, track, buffer, info⟩] }

/-- What any number of these moves does. -/
abbrev Delivers : RecordView → RecordView → Prop := Relation.ReflTransGen DeliverMove

namespace RecordView

@[simp] theorem muxer_onMuxer (v : RecordView) (change : MediaMuxer → MediaMuxer) :
    (v.onMuxer change).muxer = v.muxer.map change := by
  unfold onMuxer muxer
  cases v.mediaMuxer with
  | none => rfl
  | some index => simp [List.getElem?_modify_eq]

theorem length_onMuxer (v : RecordView) (change : MediaMuxer → MediaMuxer) :
    (v.onMuxer change).muxers.length = v.muxers.length := by
  unfold onMuxer
  cases v.mediaMuxer with
  | none => rfl
  | some index => exact List.length_modify _ _ _

theorem getElem?_onMuxer_of_ne {v : RecordView} (change : MediaMuxer → MediaMuxer) {index : ℕ}
    (hother : v.mediaMuxer ≠ some index) :
    (v.onMuxer change).muxers[index]? = v.muxers[index]? := by
  unfold onMuxer
  cases hheld : v.mediaMuxer with
  | none => rfl
  | some held =>
    have hne : held ≠ index := fun h ↦ hother (hheld.trans (congrArg some h))
    exact List.getElem?_modify_ne change v.muxers hne

theorem getElem?_onMuxer_of_eq {v : RecordView} (change : MediaMuxer → MediaMuxer) {index : ℕ}
    (hheld : v.mediaMuxer = some index) :
    (v.onMuxer change).muxers[index]? = v.muxers[index]?.map change := by
  unfold onMuxer
  rw [hheld]
  exact List.getElem?_modify_eq change index v.muxers

@[simp] theorem onMuxer_onMuxer (v : RecordView) (change change' : MediaMuxer → MediaMuxer) :
    (v.onMuxer change).onMuxer change' = v.onMuxer fun muxer ↦ change' (change muxer) := by
  unfold onMuxer
  cases v.mediaMuxer with
  | none => rfl
  | some index => simp [List.modify_modify_eq, Function.comp_def]

theorem onMuxer_id (v : RecordView) : v.onMuxer (fun muxer ↦ muxer) = v := by
  have hsame : ∀ index, v.muxers.modify index (fun muxer ↦ muxer) = v.muxers :=
    fun index ↦ List.modify_id index v.muxers
  unfold onMuxer
  simp only [hsame]
  obtain ⟨recording, canRecord, mediaMuxer, videoTrack, audioTrack, muxers, writes⟩ := v
  cases mediaMuxer <;> rfl

@[simp] theorem muxer_addTrack (v : RecordView) (format : MediaFormat) :
    (v.addTrack format).muxer =
      v.muxer.map fun muxer ↦ { muxer with tracks := muxer.tracks ++ [format] } :=
  v.muxer_onMuxer _

/-- Replacing the muxer by its changed self. -/
theorem set_eq_onMuxer {v : RecordView} {index : ℕ} {muxer : MediaMuxer}
    (hindex : v.mediaMuxer = some index) (hmuxer : v.muxer = some muxer)
    (change : MediaMuxer → MediaMuxer) :
    { v with muxers := v.muxers.set index (change muxer) } = v.onMuxer change := by
  have hget : v.muxers[index]? = some muxer := by
    rw [← hmuxer, RecordView.muxer, hindex]
    rfl
  have hmodify : v.muxers.modify index change = v.muxers.set index (change muxer) := by
    rw [List.modify_eq_set_getElem?, hget]
    rfl
  simp only [onMuxer, hindex, hmodify]

end RecordView

/-! ### The methods of a recording -/

theorem record_nextAnswer : Leaves Usb.record nextAnswer := leaves_nextAnswer fun _ _ ↦ rfl

/-- A call on the muxer. -/
theorem triple_onMuxer {α : Type} (v : RecordView)
    {operation : MediaMuxer → Except JavaException (α × MediaMuxer)}
    {change : MediaMuxer → MediaMuxer}
    (hchange : ∀ muxer value muxer', operation muxer = .ok (value, muxer') →
      muxer' = change muxer) :
    Triple (fun u ↦ u.record = v) (onMuxer operation)
      (fun value u ↦ ∃ muxer, v.muxer = some muxer ∧ operation muxer = .ok (value, change muxer) ∧
        u.record = v.onMuxer change)
      (fun _ u ↦ u.record = v) := by
  refine triple_read fun u hu ↦ ?_
  have hheld : u.base.mediaMuxer = v.mediaMuxer := congrArg RecordView.mediaMuxer hu
  have hmuxer : u.muxer = v.muxer := congrArg RecordView.muxer hu
  rw [hheld, hmuxer]
  split
  · next index muxer hindex hcurrent =>
    refine Triple.bind (record_nextAnswer v) fun _ ↦ ?_
    cases hoperation : operation muxer with
    | error exception => exact Triple.throw fun _ h ↦ h
    | ok result =>
      obtain ⟨value, muxer'⟩ := result
      obtain rfl := hchange muxer value muxer' hoperation
      refine triple_update (fun u hu ↦ ?_) (Triple.pure fun _ h ↦ h)
      refine ⟨muxer, hcurrent, hoperation, ?_⟩
      rw [← RecordView.set_eq_onMuxer hindex hcurrent, ← hu]
      rfl
  · exact Triple.throw fun _ h ↦ h

/-- Adding a track: its index is a track of the muxer. -/
theorem triple_addTrack (v : RecordView) (format : MediaFormat) :
    Triple (fun u ↦ u.record = v) (onMuxer (MediaMuxer.addTrack · (some format)))
      (fun track u ↦ ∃ muxer, v.muxer = some muxer ∧ track = muxer.tracks.length ∧
        u.record = v.addTrack format)
      (fun _ u ↦ u.record = v) := by
  have hadd : ∀ muxer track (muxer' : MediaMuxer),
      MediaMuxer.addTrack muxer (some format) = .ok (track, muxer') →
      track = muxer.tracks.length ∧ muxer' = { muxer with tracks := muxer.tracks ++ [format] } := by
    intro muxer track muxer' hok
    unfold MediaMuxer.addTrack at hok
    dsimp only at hok
    split_ifs at hok
    cases hok
    exact ⟨rfl, rfl⟩
  refine (triple_onMuxer v fun muxer track muxer' hok ↦ (hadd muxer track muxer' hok).2).mono
    (fun _ h ↦ h) ?_ fun _ _ h ↦ h
  rintro track u ⟨muxer, hmuxer, hok, hu⟩
  exact ⟨muxer, hmuxer, (hadd muxer track _ hok).1, hu⟩

/-- Starting the muxer. -/
theorem triple_startMuxer (v : RecordView) :
    Triple (fun u ↦ u.record = v)
      (onMuxer fun muxer ↦ muxer.start.map fun started ↦ ((), started))
      (fun _ u ↦ ∃ muxer, v.muxer = some muxer ∧
        (muxer.stopCalled = false ∧ muxer.released = false) ∧
        u.record = v.onMuxer fun muxer ↦ { muxer with startCalled := true })
      (fun _ u ↦ u.record = v) := by
  have hstart : ∀ (muxer : MediaMuxer) (value : Unit) (muxer' : MediaMuxer),
      (muxer.start.map fun started ↦ ((), started)) = .ok (value, muxer') →
      (muxer.stopCalled = false ∧ muxer.released = false) ∧
        muxer' = { muxer with startCalled := true } := by
    intro muxer value muxer' hok
    unfold MediaMuxer.start at hok
    split_ifs at hok with hrefused
    · cases hok
    · cases hok
      simp only [Bool.or_eq_true, not_or, Bool.not_eq_true] at hrefused
      exact ⟨⟨hrefused.1.1.2, hrefused.1.2⟩, rfl⟩
  refine (triple_onMuxer v fun muxer value muxer' hok ↦ (hstart muxer value muxer' hok).2).mono
    (fun _ h ↦ h) ?_ fun _ _ h ↦ h
  rintro value u ⟨muxer, hmuxer, hok, hu⟩
  exact ⟨muxer, hmuxer, (hstart muxer value _ hok).1, hu⟩

/-- The tracks are added and the muxer is started, as far as no call throws. -/
theorem delivers_beginRecording {v : RecordView} (hrecording : v.recording = true)
    (hcanRecord : v.canRecord = false) (videoFormat audioFormat : MediaFormat) :
    Triple (fun u ↦ u.record = v) (beginRecording (some videoFormat) (some audioFormat))
      (fun _ u ↦ Delivers v u.record) (fun _ u ↦ Delivers v u.record) := by
  have hvideo : Delivers v (v.addTrack videoFormat) :=
    .single (.addTrack hrecording hcanRecord videoFormat)
  refine Triple.bind ((triple_addTrack v videoFormat).mono (fun _ h ↦ h) (fun _ _ h ↦ h)
    fun _ _ h ↦ h ▸ .refl) fun videoTrack ↦ .exists fun muxer ↦ .assume fun hmuxer ↦
    .assume fun hvideoTrack ↦ ?_
  refine triple_change (fun w ↦ { w with videoTrack := videoTrack }) (fun _ ↦ rfl) ?_
  let withVideo : RecordView := { v.addTrack videoFormat with videoTrack := videoTrack }
  have hset : Delivers v withVideo :=
    hvideo.tail (@DeliverMove.setTracks (v.addTrack videoFormat) hrecording hcanRecord _ _)
  refine Triple.bind ((triple_addTrack withVideo audioFormat).mono (fun _ h ↦ h) (fun _ _ h ↦ h)
    fun _ _ h ↦ h ▸ hset) fun audioTrack ↦ .exists fun muxer' ↦ .assume fun hmuxer' ↦
    .assume fun haudioTrack ↦ ?_
  refine triple_change (fun w ↦ { w with audioTrack := audioTrack }) (fun _ ↦ rfl) ?_
  let withBoth : RecordView := { withVideo.addTrack audioFormat with audioTrack := audioTrack }
  have hboth : Delivers v withBoth :=
    (hset.tail (@DeliverMove.addTrack withVideo hrecording hcanRecord audioFormat)).tail
      (@DeliverMove.setTracks (withVideo.addTrack audioFormat) hrecording hcanRecord _ _)
  refine Triple.bind ((triple_startMuxer withBoth).mono (fun _ h ↦ h) (fun _ _ h ↦ h)
    fun _ _ h ↦ h ▸ hboth) fun _ ↦ .exists fun muxer'' ↦ .assume fun hmuxer'' ↦
    .assume fun hfresh ↦ ?_
  refine Triple.modify fun u hu ↦ hboth.tail ?_
  -- The two indices are the last two tracks of the muxer that was started.
  have hfirst : some muxer' = some { muxer with tracks := muxer.tracks ++ [videoFormat] } :=
    hmuxer'.symm.trans ((v.muxer_addTrack videoFormat).trans (congrArg _ hmuxer))
  have hsecond : some muxer'' = some { muxer' with tracks := muxer'.tracks ++ [audioFormat] } :=
    hmuxer''.symm.trans ((withVideo.muxer_addTrack audioFormat).trans (congrArg _ hmuxer'))
  cases hfirst
  cases hsecond
  have hmove := @DeliverMove.start withBoth hrecording hcanRecord _ hmuxer'' hfresh
    (by
      simp only [MediaMuxer.HasTrack, withBoth, withVideo, RecordView.addTrack, RecordView.onMuxer,
        hvideoTrack, List.length_append, List.length_cons, List.length_nil]
      omega)
    (by
      simp only [MediaMuxer.HasTrack, withBoth, haudioTrack, List.length_append, List.length_cons,
        List.length_nil]
      omega)
  rw [← hu] at hmove
  exact hmove

/-- A write of a recording that is on. -/
theorem delivers_writeSampleData {v : RecordView} (hrecording : v.recording = true)
    (hcanRecord : v.canRecord = true) {track : ℤ}
    (htrack : track = v.videoTrack ∨ track = v.audioTrack) (buffer : ByteBuffer)
    (info : BufferInfo) :
    Triple (fun u ↦ u.record = v) (writeSampleData track buffer info)
      (fun _ u ↦ Delivers v u.record) (fun _ u ↦ Delivers v u.record) := by
  refine triple_change (fun w ↦ { w with writes := w.writes ++ [⟨w.muxer, track, buffer, info⟩] })
    (fun _ ↦ rfl) ?_
  have haccept : ∀ (muxer : MediaMuxer) (value : Unit) (muxer' : MediaMuxer),
      ((muxer.writeSampleData track (sampleOf buffer info)).map fun written ↦ ((), written)) =
          .ok (value, muxer') →
        muxer' = { muxer with samples := muxer.samples ++ [(track, sampleOf buffer info)] } := by
    intro muxer value muxer' hok
    unfold MediaMuxer.writeSampleData at hok
    split_ifs at hok <;> cases hok
    rfl
  refine (triple_onMuxer _ haccept).mono (fun _ h ↦ h) ?_ ?_
  · rintro value u ⟨muxer, -, -, hu⟩
    rw [hu]
    exact .single (.write hrecording hcanRecord htrack buffer info
      fun muxer ↦ muxer.samples ++ [(track, sampleOf buffer info)])
  · intro exception u hu
    have hmove := DeliverMove.write hrecording hcanRecord htrack buffer info MediaMuxer.samples
    have hsame : (v.onMuxer fun muxer ↦ { muxer with samples := muxer.samples }) = v := v.onMuxer_id
    rw [hsame] at hmove
    rw [hu]
    exact .single hmove

theorem recording_of_delivers {v w : RecordView} (h : Delivers v w)
    (hrecording : v.recording = true) : w.recording = true := by
  induction h with
  | refl => exact hrecording
  | tail _ hmove ih => cases hmove <;> exact ih

/-- Callbacks put no other muxer in place. -/
theorem mediaMuxer_of_delivers {v w : RecordView} (h : Delivers v w) :
    w.mediaMuxer = v.mediaMuxer := by
  induction h with
  | refl => rfl
  | tail _ hmove ih => cases hmove <;> exact ih

/-- A program that leaves the recording alone makes no move. -/
theorem Leaves.delivers {program : UsbM Unit} (h : Leaves Usb.record program) (v : RecordView) :
    Keeps (fun u ↦ Delivers v u.record) program := h.keeps _

/-- The recording part of `getVideoData`. -/
theorem delivers_recordFrame {v : RecordView} (hrecording : v.recording = true) {u : Usb}
    (hu : u.record = v) (keyFrame : Bool) (buffer : ByteBuffer) (info : BufferInfo) :
    Triple (fun t ↦ t.record = v)
      (do
        whenever (keyFrame && !u.base.canRecord && u.base.videoFormat.isSome &&
          u.base.audioFormat.isSome) (beginRecording u.base.videoFormat u.base.audioFormat)
        let u ← get
        whenever u.base.canRecord (writeSampleData u.base.videoTrack buffer info))
      (fun _ u ↦ Delivers v u.record) (fun _ u ↦ Delivers v u.record) := by
  have hbegin : Triple (fun t ↦ t.record = v)
      (whenever (keyFrame && !u.base.canRecord && u.base.videoFormat.isSome &&
        u.base.audioFormat.isSome) (beginRecording u.base.videoFormat u.base.audioFormat))
      (fun _ u ↦ Delivers v u.record) (fun _ u ↦ Delivers v u.record) := by
    refine Triple.whenever (fun hkeyFrame ↦ ?_) fun _ s hs ↦ hs ▸ Relation.ReflTransGen.refl
    simp only [Bool.and_eq_true, Bool.not_eq_true'] at hkeyFrame
    obtain ⟨videoFormat, hvideo⟩ := Option.isSome_iff_exists.mp hkeyFrame.1.2
    obtain ⟨audioFormat, haudio⟩ := Option.isSome_iff_exists.mp hkeyFrame.2
    rw [hvideo, haudio]
    have hcanRecord : v.canRecord = false := hu ▸ hkeyFrame.1.1.2
    exact delivers_beginRecording hrecording hcanRecord videoFormat audioFormat
  refine hbegin.bind fun _ ↦ triple_read_eq fun u' hu' ↦ ?_
  refine Triple.whenever (fun hcanRecord ↦ ?_) fun _ s hs ↦ hs ▸ hu'
  have hwrite := @delivers_writeSampleData u'.record (recording_of_delivers hu' hrecording)
    hcanRecord u'.base.videoTrack (Or.inl rfl) buffer info
  exact (hwrite.of_state rfl).mono (fun _ h ↦ h) (fun _ _ h ↦ hu'.trans h)
    fun _ _ h ↦ hu'.trans h

/-- `getVideoData` on the recording. -/
theorem delivers_getVideoData (v : RecordView) (now : ℕ) (h264Buffer : ByteBuffer)
    (info : BufferInfo) (fault : SinkFault) :
    Triple (fun u ↦ u.record = v) (getVideoData now h264Buffer info fault)
      (fun _ u ↦ Delivers v u.record) (fun _ u ↦ Delivers v u.record) := by
  refine ((record_writeReplayFrame now h264Buffer info fault v).mono (fun _ h ↦ h) (fun _ _ h ↦ h)
    fun _ _ h ↦ h ▸ .refl).bind fun buffer ↦ triple_read fun u hu ↦ ?_
  refine Triple.bind (Triple.whenever (fun hrecording ↦ ?_) fun _ s hs ↦ ?_) fun _ ↦
    Leaves.delivers (.whenever (record_onRtmp _)) v
  · have hon : v.recording = true := (congrArg RecordView.recording hu).symm.trans hrecording
    exact delivers_recordFrame hon hu _ _ _
  · rw [hs]

/-- `getAacData` on the recording. -/
theorem delivers_getAacData (v : RecordView) (aacBuffer : ByteBuffer) (info : BufferInfo) :
    Triple (fun u ↦ u.record = v) (getAacData aacBuffer info) (fun _ u ↦ Delivers v u.record)
      (fun _ u ↦ Delivers v u.record) := by
  refine triple_read fun u hu ↦ Triple.bind (Triple.whenever (fun hon ↦ ?_) fun _ s hs ↦ ?_) fun _ ↦
    Leaves.delivers (.whenever (record_onRtmp _)) v
  · rw [Bool.and_eq_true] at hon
    have hrecording : v.recording = true := hu ▸ hon.1
    have hcanRecord : v.canRecord = true := hu ▸ hon.2
    exact delivers_writeSampleData hrecording hcanRecord
      (Or.inr (congrArg RecordView.audioTrack hu)) _ _
  · rw [hs]

/-- A callback moves the recording on. -/
theorem delivers_callback (v : RecordView) (encoderCallback : EncoderCallback) :
    Triple (fun u ↦ u.record = v) encoderCallback.method (fun _ u ↦ Delivers v u.record)
      (fun _ u ↦ Delivers v u.record) := by
  have hquiet : ∀ {program : UsbM Unit}, Leaves Usb.record program →
      Triple (fun u ↦ u.record = v) program (fun _ u ↦ Delivers v u.record)
        (fun _ u ↦ Delivers v u.record) := fun h ↦
    (h v).mono (fun _ h ↦ h) (fun _ _ h ↦ h ▸ Relation.ReflTransGen.refl)
      fun _ _ h ↦ h ▸ Relation.ReflTransGen.refl
  cases encoderCallback with
  | getVideoData now h264Buffer info fault =>
    exact delivers_getVideoData v now h264Buffer info fault
  | getAacData aacBuffer info => exact delivers_getAacData v aacBuffer info
  | onSpsPpsVps => exact hquiet (record_of_session session_onSpsPpsVps)
  | onVideoFormat mediaFormat => exact hquiet (record_onVideoFormat mediaFormat)
  | onAudioFormat mediaFormat => exact hquiet (record_onAudioFormat mediaFormat)

/-- `mediaMuxer.stop()` finalises the muxer where it returns. -/
theorem triple_stopMuxer (v : RecordView) :
    Triple (fun u ↦ u.record = v) stopMuxer (fun _ u ↦ u.record = v.onMuxer MediaMuxer.stop)
      (fun _ u ↦ u.record = v.onMuxer MediaMuxer.stopFailed) := by
  refine triple_change (fun w ↦ w.onMuxer MediaMuxer.stopFailed) (fun _ ↦ rfl) ?_
  have hstop := @triple_onMuxer Unit (v.onMuxer MediaMuxer.stopFailed)
    (fun muxer ↦ .ok ((), muxer.stop)) MediaMuxer.stop fun muxer value muxer' hok ↦ by
      cases hok
      rfl
  refine hstop.mono (fun _ h ↦ h) ?_ fun _ _ h ↦ h
  rintro value u ⟨muxer, -, -, hu⟩
  rw [hu, RecordView.onMuxer_onMuxer]
  rfl

/-- A muxer that was started is stopped and released. -/
theorem triple_finishMuxer (v : RecordView) :
    Triple (fun u ↦ u.record = v)
      (do
        stopMuxer
        onMuxer fun muxer ↦ .ok ((), muxer.release)
        modify fun u ↦ { u with base.canRecord := false })
      (fun _ u ↦ u.record = { v.onMuxer fun muxer ↦ muxer.stop.release with canRecord := false })
      (fun _ u ↦ ∃ change, (change = MediaMuxer.stopFailed ∨ change = MediaMuxer.stop) ∧
        u.record = v.onMuxer change) := by
  have hrelease := @triple_onMuxer Unit (v.onMuxer MediaMuxer.stop)
    (fun muxer ↦ .ok ((), muxer.release)) MediaMuxer.release fun muxer value muxer' hok ↦ by
      cases hok
      rfl
  refine ((triple_stopMuxer v).mono (fun _ h ↦ h) (fun _ _ h ↦ h)
    fun _ _ h ↦ ⟨_, Or.inl rfl, h⟩).bind fun _ ↦ (hrelease.mono (fun _ h ↦ h) (fun _ _ h ↦ h)
      fun _ _ h ↦ ⟨_, Or.inr rfl, h⟩).bind fun _ ↦ .exists fun muxer ↦
    .assume fun _ ↦ .assume fun _ ↦ Triple.modify fun u hu ↦ ?_
  rw [RecordView.onMuxer_onMuxer] at hu
  exact congrArg (fun w : RecordView ↦ { w with canRecord := false }) hu

/-- The end of `stopRecord`. -/
theorem triple_clearTracks (v : RecordView) (uvcCamera : Option ℕ) (streaming : Bool) :
    Triple (fun u ↦ u.record = v)
      (do
        modify fun u ↦ { u with base.videoTrack := -1, base.audioTrack := -1 }
        whenever (!streaming) (stopStream uvcCamera))
      (fun _ u ↦ u.record = { v with videoTrack := -1, audioTrack := -1 })
      (fun _ u ↦ u.record = { v with videoTrack := -1, audioTrack := -1 }) :=
  triple_change (fun w ↦ { w with videoTrack := -1, audioTrack := -1 }) (fun _ ↦ rfl)
    (Leaves.whenever (record_stopStream uvcCamera) _)

/-- `stopRecord` ends the recording. -/
theorem stops_stopRecord (v : RecordView) (uvcCamera : Option ℕ) :
    Triple (fun u ↦ u.record = v) (stopRecord uvcCamera) (fun _ u ↦ StopMove v u.record)
      (fun _ u ↦ StopMove v u.record) := by
  refine triple_change (fun w ↦ { w with recording := false }) (fun _ ↦ rfl)
    (triple_read fun u hu ↦ ?_)
  have hmuxer : u.base.mediaMuxer = v.mediaMuxer := congrArg RecordView.mediaMuxer hu
  have hcanRecord : u.base.canRecord = v.canRecord := congrArg RecordView.canRecord hu
  rw [hmuxer, hcanRecord]
  -- Before the tracks are cleared the muxer is forgotten, and was finished if it had been started.
  have hforget : ∀ {w : RecordView}, StopMove v { w with
      mediaMuxer := none, videoTrack := -1, audioTrack := -1 } →
        Triple (fun u ↦ u.record = w)
          (modify fun u ↦ { u with base.mediaMuxer := none } : UsbM Unit)
          (fun _ u ↦ StopMove v { u.record with videoTrack := -1, audioTrack := -1 })
          (fun _ u ↦ StopMove v u.record) := by
    intro w hmove
    refine Triple.modify fun u hu ↦ ?_
    rw [← hu] at hmove
    exact hmove
  refine Triple.bind (Triple.whenever (fun hheld ↦ ?_) fun hnone u hu ↦ ?_) fun _ s hs ↦
    (triple_clearTracks s.record uvcCamera _).mono (fun _ h ↦ h) (fun _ _ h ↦ h ▸ hs)
      (fun _ _ h ↦ h ▸ hs) s rfl
  · let off : RecordView := { v with recording := false }
    let finished : RecordView :=
      if v.canRecord = true then
        { off.onMuxer fun muxer ↦ muxer.stop.release with canRecord := false }
      else off
    have hfinished : StopMove v { finished with
        mediaMuxer := none, videoTrack := -1, audioTrack := -1 } := by
      unfold finished
      split_ifs with hstarted
      · exact .stopped hstarted
      · exact .discard (Or.inl (Bool.not_eq_true _ ▸ hstarted))
    refine Triple.bind (Triple.whenever (fun hstarted ↦ ?_) fun hidle u hu ↦ ?_) fun _ ↦
      hforget hfinished
    · refine (triple_finishMuxer off).mono (fun _ h ↦ h) (fun _ u hu ↦ ?_) ?_
      · exact hu.trans (if_pos hstarted).symm
      · rintro exception u ⟨change, hchange, hu⟩
        exact hu ▸ .threw hstarted hchange
    · exact hu.trans (if_neg (by simp [hidle])).symm
  · rw [Option.isSome_eq_false_iff, Option.isNone_iff_eq_none] at hnone
    have hmove := StopMove.discard (Or.inr hnone)
    rw [← hnone] at hmove
    rw [hu]
    exact hmove

/-- The next call throws. -/
def firstThrows : List Outcome → Bool
  | .throws _ :: _ => true
  | _ => false

/-- The muxer at a place was started, and its `stop` has returned. -/
def FinalisedAt (muxers : List MediaMuxer) (index : ℕ) : Prop :=
  ∃ muxer ∈ muxers[index]?, muxer.startCalled = true ∧ muxer.finalised = true

/-- A call on the muxer in place returns if the library does and the order of the calls is kept. -/
theorem returns_onMuxer {α : Type} {u : Usb} {index : ℕ} {muxer : MediaMuxer}
    (hheld : u.base.mediaMuxer = some index) (hmuxer : u.devices.muxers[index]? = some muxer)
    (hreturns : firstThrows u.devices.outcomes = false)
    {operation : MediaMuxer → Except JavaException (α × MediaMuxer)} {result : α × MediaMuxer}
    (hok : operation muxer = .ok result) :
    Total (fun t ↦ t = u) (onMuxer operation) fun _ _ ↦ True := by
  have hanswer : Total (fun t ↦ t = u) nextAnswer fun _ _ ↦ True := by
    obtain ⟨base, cameras, interfaces, muxers, replay, outcomes, writes⟩ := u
    rintro _ rfl
    cases outcomes with
    | nil => trivial
    | cons outcome rest =>
      cases outcome with
      | returns value => trivial
      | throws exception => cases hreturns
  refine triple_read fun t ht ↦ ?_
  have hcurrent : t.muxer = some muxer := by
    rw [ht, Usb.muxer, hheld]
    exact hmuxer
  rw [hcurrent, ht, hheld]
  refine hanswer.bind fun _ ↦ ?_
  rw [hok]
  exact triple_update (fun _ h ↦ h) (Triple.pure fun _ h ↦ h)

/-- `mediaMuxer.stop()` finalises a muxer that was started, if it returns. -/
theorem finalises_stopMuxer {u : Usb} {index : ℕ} {muxer : MediaMuxer}
    (hheld : u.base.mediaMuxer = some index) (hmuxer : u.devices.muxers[index]? = some muxer)
    (hstarted : muxer.startCalled = true) (hreturns : firstThrows u.devices.outcomes = false) :
    Total (fun t ↦ t = u) stopMuxer fun _ t ↦ FinalisedAt t.devices.muxers index := by
  let called : Usb :=
    { u with devices.muxers := u.devices.muxers.modify index MediaMuxer.stopFailed }
  have hcalled : called.devices.muxers[index]? = some muxer.stopFailed :=
    (List.getElem?_modify_eq _ _ _).trans (congrArg (Option.map _) hmuxer)
  have hreturned : Total (fun t ↦ t = u) stopMuxer fun _ _ ↦ True := by
    refine triple_update (fun t ht ↦ ?_) (@returns_onMuxer Unit called index muxer.stopFailed hheld
      hcalled hreturns _ ((), muxer.stopFailed.stop) rfl)
    rw [ht, hheld]
  refine (((triple_stopMuxer u.record).of_state rfl).and hreturned).mono (fun _ h ↦ h) ?_
    fun _ _ h ↦ h.2
  rintro value t ⟨ht, -⟩
  refine ⟨muxer.stop, ?_, hstarted, rfl⟩
  have hmuxers : t.devices.muxers = (u.record.onMuxer MediaMuxer.stop).muxers :=
    congrArg RecordView.muxers ht
  rw [hmuxers, Option.mem_def, RecordView.getElem?_onMuxer_of_eq MediaMuxer.stop hheld]
  exact congrArg (Option.map _) hmuxer

/-- `release` does not undo what `stop` did. -/
theorem FinalisedAt.onMuxer {v : RecordView} {index : ℕ} (h : FinalisedAt v.muxers index)
    {change : MediaMuxer → MediaMuxer}
    (hchange : ∀ muxer, (change muxer).startCalled = muxer.startCalled ∧
      (change muxer).finalised = muxer.finalised) :
    FinalisedAt (v.onMuxer change).muxers index := by
  obtain ⟨muxer, hmuxer, hstarted, hfinalised⟩ := h
  by_cases hheld : v.mediaMuxer = some index
  · refine ⟨change muxer, ?_, (hchange muxer).1.trans hstarted, (hchange muxer).2.trans hfinalised⟩
    exact (RecordView.getElem?_onMuxer_of_eq change hheld).trans (congrArg (Option.map _) hmuxer)
  · exact ⟨muxer, (RecordView.getElem?_onMuxer_of_ne change hheld).trans hmuxer, hstarted,
      hfinalised⟩

/-- `mediaMuxer.release()` leaves what is finalised so. -/
theorem finalised_releaseMuxer (index : ℕ) :
    Triple (fun t ↦ FinalisedAt t.devices.muxers index)
      (onMuxer fun muxer ↦ .ok ((), muxer.release))
      (fun _ t ↦ FinalisedAt t.devices.muxers index)
      (fun _ t ↦ FinalisedAt t.devices.muxers index) := by
  intro t ht
  refine ((@triple_onMuxer Unit t.record _ MediaMuxer.release fun muxer value muxer' hok ↦ by
    cases hok
    rfl).mono (fun _ h ↦ h) ?_ fun _ t' ht' ↦ ?_ : Triple (fun t' ↦ t'.record = t.record) _ _ _)
      t rfl
  · rintro value t' ⟨-, -, -, ht'⟩
    change FinalisedAt t'.record.muxers index
    rw [ht']
    exact @FinalisedAt.onMuxer t.record index ht MediaMuxer.release fun _ ↦ ⟨rfl, rfl⟩
  · change FinalisedAt t'.record.muxers index
    rw [ht']
    exact ht

/-- `stopRecord` finalises the muxer in place if that was started and its `stop` returns. -/
theorem finalises_stopRecord {u : Usb} {index : ℕ} {muxer : MediaMuxer}
    (hheld : u.base.mediaMuxer = some index) (hmuxer : u.devices.muxers[index]? = some muxer)
    (hstarted : muxer.startCalled = true) (hcanRecord : u.base.canRecord = true)
    (hreturns : firstThrows u.devices.outcomes = false) (uvcCamera : Option ℕ) :
    Triple (fun t ↦ t = u) (stopRecord uvcCamera)
      (fun _ t ↦ FinalisedAt t.devices.muxers index)
      (fun _ t ↦ FinalisedAt t.devices.muxers index) := by
  let off : Usb := { u with base.recording := false }
  have hoff : Triple (fun t ↦ t = u) (modify fun u ↦ { u with base.recording := false } : UsbM Unit)
      (fun _ t ↦ t = off) (fun _ t ↦ FinalisedAt t.devices.muxers index) :=
    Triple.modify fun t ht ↦ by rw [ht]
  refine hoff.bind fun _ ↦ triple_read fun t ht ↦ ?_
  have hplace : t.base.mediaMuxer = some index := ht ▸ hheld
  have hflag : t.base.canRecord = true := ht ▸ hcanRecord
  rw [hplace, hflag]
  have hfinish := @finalises_stopMuxer off index muxer hheld hmuxer hstarted hreturns
  have hset {effect : Usb → Usb} (heffect : ∀ t, (effect t).devices.muxers = t.devices.muxers) :
      Triple (fun t ↦ FinalisedAt t.devices.muxers index) (modify effect : UsbM Unit)
        (fun _ t ↦ FinalisedAt t.devices.muxers index)
        (fun _ t ↦ FinalisedAt t.devices.muxers index) :=
    Triple.modify fun t ht ↦ (heffect t).symm ▸ ht
  refine Triple.bind (Triple.bind (Triple.bind hfinish.triple fun _ ↦
    (finalised_releaseMuxer index).bind fun _ ↦ hset fun _ ↦ rfl) fun _ ↦ hset fun _ ↦ rfl)
      fun _ ↦ Triple.bind (hset fun _ ↦ rfl) fun _ ↦ ?_
  have hrest : Leaves Usb.record (whenever (!t.base.streaming) (stopStream uvcCamera)) :=
    .whenever (record_stopStream uvcCamera)
  exact hrest.keeps fun v ↦ FinalisedAt v.muxers index

/-- A new muxer in place, unless its constructor throws. -/
theorem triple_createMuxer (u : Usb) :
    Triple (fun t ↦ t = u) createMuxer
      (fun _ t ↦ firstThrows u.devices.outcomes = false ∧
        t.record = { u.record.create with recording := u.base.recording })
      (fun _ t ↦ firstThrows u.devices.outcomes = true ∧ t.record = u.record) := by
  obtain ⟨base, cameras, interfaces, muxers, replay, outcomes, writes⟩ := u
  rintro _ rfl
  cases outcomes with
  | nil => exact ⟨rfl, rfl⟩
  | cons outcome rest =>
    cases outcome with
    | returns value => exact ⟨rfl, rfl⟩
    | throws exception => exact ⟨rfl, rfl⟩

/-- `startRecord` puts a new muxer in place, whatever happens after its constructor. -/
theorem triple_startRecord_record (u : Usb) (uvcCamera : Option ℕ) :
    Triple (fun t ↦ t = u) (startRecord uvcCamera)
      (fun _ t ↦ firstThrows u.devices.outcomes = false ∧ t.record = u.record.create)
      (fun _ t ↦ t.record =
        if firstThrows u.devices.outcomes then u.record else u.record.create) := by
  refine ((triple_createMuxer u).mono (fun _ h ↦ h) (fun _ _ h ↦ h)
    fun _ t ht ↦ ?_).bind fun _ ↦ .assume fun haccepted ↦ ?_
  · rw [ht.1, ht.2]
    rfl
  · rw [haccepted]
    refine triple_change (fun w ↦ { w with recording := true }) (fun _ ↦ rfl)
      (triple_read fun t ht ↦ ?_)
    exact (Leaves.ite (record_startEncoders uvcCamera)
      (.whenever (record_of_session session_resetVideoEncoder)) _).mono (fun _ h ↦ h)
        (fun _ _ h ↦ ⟨rfl, h⟩) fun _ _ h ↦ h

theorem record_startRecord (u : Usb) (uvcCamera : Option ℕ) :
    (after (startRecord uvcCamera) u).record =
      if firstThrows u.devices.outcomes then u.record else u.record.create := by
  refine ((triple_startRecord_record u uvcCamera).mono (fun _ h ↦ h) (fun _ t ht ↦ ?_)
    fun _ _ h ↦ h).after rfl
  rw [ht.1]
  exact ht.2

/-- What an event does to the recording. -/
theorem record_usbStep (u : Usb) (usbCall : UsbCall) :
    match usbCall.event with
    | .startRecord _ => (usbStep u usbCall).record =
        if firstThrows usbCall.outcomes then u.record else u.record.create
    | .stopRecord _ => StopMove u.record (usbStep u usbCall).record
    | .callback _ => Delivers u.record (usbStep u usbCall).record
    | _ => (usbStep u usbCall).record = u.record := by
  obtain ⟨event, outcomes⟩ := usbCall
  have hquiet : ∀ {program : UsbM Unit}, Leaves Usb.record program →
      (after program { u with devices.outcomes := outcomes }).record = u.record :=
    fun h ↦ h.after _
  cases event with
  | prepareVideo parameters uvcCamera =>
    exact hquiet (record_of_session ((session_prepareVideo uvcCamera parameters).bind
      fun _ ↦ .pure _))
  | prepareAudio => exact hquiet (record_of_session (session_prepareAudio.bind fun _ ↦ .pure _))
  | startPreview uvcCamera => exact hquiet (record_of_session (session_startPreview uvcCamera))
  | stopPreview uvcCamera => exact hquiet (record_of_session (session_stopPreview uvcCamera))
  | startStream uvcCamera url => exact hquiet (record_startStream uvcCamera url)
  | stopStream uvcCamera => exact hquiet (record_stopStream uvcCamera)
  | startRecord uvcCamera => exact record_startRecord _ uvcCamera
  | stopRecord uvcCamera => exact (stops_stopRecord _ uvcCamera).after rfl
  | replaceView openGlView uvcCamera =>
    exact hquiet (record_of_session (session_replaceView uvcCamera openGlView))
  | callback encoderCallback => exact (delivers_callback _ encoderCallback).after rfl

end UvcRtmpStream.Streaming
