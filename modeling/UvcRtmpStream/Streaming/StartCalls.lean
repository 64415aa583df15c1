import UvcRtmpStream.Foundations.Answers
import UvcRtmpStream.Streaming.RecordingContent
import UvcRtmpStream.Streaming.StreamServiceSpec

/-!
# The calls of a start

A start of the service runs methods of the object in use one after the other: `prepareVideo` and
`prepareAudio`, and where both return `true`, `startStream` or `startRecord`. While there is an
object this is one program on it (`startAfter`), because `onRtmpUSB` finds again what it put back.

How far a start gets is decided by the outcomes of its calls, which it takes in a fixed order. This
module counts them: `prepareVideo` first stops a preview on the screen with two calls
(`Usb.previewCalls`), the two methods then make four, and their two answers are those of the first
and the last of these (`Usb.Prepares`). `startEncoders` makes eleven calls, and a twelfth where the
encoder has an input surface, and `resetVideoEncoder` makes three.
-/

set_option autoImplicit false
set_option relaxedAutoImplicit false

namespace UvcRtmpStream.Streaming

open UvcRtmpStream.Foundations UvcRtmpStream.Platform UvcRtmpStream.Replay

/-- The outcomes of the calls to come. -/
abbrev Usb.outcomes (u : Usb) : List Outcome := u.devices.outcomes

/-- What the call with this number returns, if it returns. -/
def saysTrue (outcomes : List Outcome) (number : ℕ) : Bool :=
  outcomes[number]? = none ∨ outcomes[number]? = some (.returns true)

theorem saysTrue_drop (outcomes : List Outcome) (taken number : ℕ) :
    saysTrue (outcomes.drop taken) number = saysTrue outcomes (taken + number) := by
  rw [saysTrue, List.getElem?_drop, saysTrue]

/-- The first calls return. -/
abbrev AllReturn (count : ℕ) (outcomes : List Outcome) : Prop :=
  Answered Outcome.isReturn count outcomes

/-- The method makes so many calls, and returns exactly where they do. -/
abbrev MakesCalls {α : Type} (count : List Outcome → ℕ) (method : UsbM α) : Prop :=
  Makes Usb.outcomes Outcome.isReturn count method

/-! ### Calls -/

section Calls

theorem makes_answer : Makes Devices.outcomes Outcome.isReturn (fun _ ↦ 1) answer := by
  rintro outcomes devices rfl
  unfold answer
  cases houtcomes : devices.outcomes with
  | nil => exact ⟨rfl, houtcomes⟩
  | cons outcome rest =>
    cases outcome with
    | returns value => exact ⟨rfl, rfl⟩
    | throws exception => exact Bool.false_ne_true

theorem makes_nextAnswer : MakesCalls (fun _ ↦ 1) nextAnswer :=
  makes_answer.zoom (fun u ↦ ⟨u.devices, rfl, rfl⟩) fun _ _ ↦ rfl

theorem gives_nextAnswer (outcomes : List Outcome) :
    Gives (fun u ↦ u.outcomes = outcomes) nextAnswer fun value _ ↦ value = saysTrue outcomes 0 := by
  rintro ⟨base, cameras, interfaces, muxers, replay, answers, writes⟩ rfl
  cases answers with
  | nil => rfl
  | cons outcome rest =>
    cases outcome with
    | returns value => cases value <;> rfl
    | throws exception => trivial

theorem makes_call {effect : Usb → Usb} (heffect : ∀ u, (effect u).outcomes = u.outcomes) :
    MakesCalls (fun _ ↦ 1) (call effect) :=
  makes_nextAnswer.bind fun _ ↦ .modify heffect

theorem makes_ask {effect : Usb → Usb} (heffect : ∀ u, (effect u).outcomes = u.outcomes) :
    MakesCalls (fun _ ↦ 1) (ask effect) :=
  makes_nextAnswer.bind fun value ↦ (Makes.modify heffect).bind fun _ ↦ .pure value

/-- A call that returns a `boolean` returns what the outcome says. -/
theorem gives_ask (effect : Usb → Usb) (outcomes : List Outcome) :
    Gives (fun u ↦ u.outcomes = outcomes) (ask effect) fun value _ ↦
      value = saysTrue outcomes 0 :=
  (gives_nextAnswer outcomes).bind fun _ ↦
    triple_update (fun _ h ↦ h) (Triple.pure fun _ h ↦ h)

theorem makes_onGl (effect : GlInterface → GlInterface) : MakesCalls (fun _ ↦ 1) (onGl effect) :=
  makes_call fun _ ↦ rfl

theorem makes_onVideoEncoder (effect : VideoEncoder → VideoEncoder) :
    MakesCalls (fun _ ↦ 1) (onVideoEncoder effect) := makes_call fun _ ↦ rfl

theorem makes_onCamera (camera : ℕ) (effect : UVCCamera → UVCCamera) :
    MakesCalls (fun _ ↦ 1) (onCamera (some camera) effect) := makes_call fun _ ↦ rfl

theorem makes_onRtmp (rtmpCall : RtmpCall) : MakesCalls (fun _ ↦ 1) (onRtmp rtmpCall) :=
  makes_call fun _ ↦ rfl

end Calls

/-! ### The methods of a start -/

section Methods

/-- The calls of `startEncoders`: the last one is made for an encoder that has an input surface. -/
def encoderCalls (outcomes : List Outcome) : ℕ := if saysTrue outcomes 10 then 12 else 11

theorem makes_startEncoders (camera : ℕ) :
    MakesCalls encoderCalls (startEncoders (some camera)) := by
  have hshow : ∀ hasInputSurface, MakesCalls (fun _ ↦ if hasInputSurface then 1 else 0) (do
      whenever hasInputSurface (onGl fun gl ↦ { gl with codecSurface := true })
      modify fun u ↦ { u with base.onPreview := true }) := fun _ ↦
    Makes.congr ((makes_onGl _).whenever.bind fun _ ↦ .modify fun _ ↦ rfl) fun _ ↦ rfl
  have hsurface : MakesCalls (fun outcomes ↦ 1 + if saysTrue outcomes 0 then 1 else 0) (do
      let hasInputSurface ← ask id
      whenever hasInputSurface (onGl fun gl ↦ { gl with codecSurface := true })
      modify fun u ↦ { u with base.onPreview := true }) :=
    (makes_ask fun _ ↦ rfl).bind_value (gives_ask id) hshow
  refine Makes.congr (.bind (makes_onVideoEncoder _) fun _ ↦ .bind (makes_call fun _ ↦ rfl) fun _ ↦
    .bind (makes_call fun _ ↦ rfl) fun _ ↦ .bind (makes_onCamera camera _) fun _ ↦
    .bind (makes_onGl _) fun _ ↦ .bind (makes_onGl _) fun _ ↦ .bind (makes_onGl _) fun _ ↦
    .bind (makes_onGl _) fun _ ↦ .bind (makes_onCamera camera _) fun _ ↦
    .bind (makes_onCamera camera _) fun _ ↦ hsurface) fun outcomes ↦ ?_
  simp only [List.drop_drop, saysTrue_drop, encoderCalls]
  split_ifs <;> rfl

theorem makes_resetVideoEncoder : MakesCalls (fun _ ↦ 3) resetVideoEncoder :=
  (makes_onGl _).bind fun _ ↦ (makes_onVideoEncoder _).bind fun _ ↦ makes_onGl _

theorem makes_prepareAudio : MakesCalls (fun _ ↦ 3) prepareAudio :=
  (makes_call fun _ ↦ rfl).bind fun _ ↦ (makes_onRtmp _).bind fun _ ↦ makes_ask fun _ ↦ rfl

/-- `prepareAudio` returns what the last of its calls does. -/
theorem gives_prepareAudio (outcomes : List Outcome) :
    Gives (fun u ↦ u.outcomes = outcomes) prepareAudio fun value _ ↦
      value = saysTrue outcomes 2 := by
  refine ((makes_call fun _ ↦ rfl).gives outcomes).bind fun _ ↦
    ((makes_onRtmp _).gives _).bind fun _ ↦
    (gives_ask id _).mono (fun _ h ↦ h) (fun value _ h ↦ ?_) fun _ _ h ↦ h
  rw [h, List.drop_drop, saysTrue_drop]

end Methods

/-! ### The encoders are prepared -/

/-- The calls with which `prepareVideo` stops a preview on the screen. -/
def Usb.previewCalls (u : Usb) : ℕ :=
  if !u.base.streaming && u.base.onPreview && !u.offScreen then 2 else 0

/-- A preview that is to be stopped has a camera. -/
def Usb.PreviewStops (u : Usb) (uvcCamera : Option ℕ) : Prop :=
  u.previewCalls = 0 ∨ uvcCamera.isSome

/-- The calls of `prepareVideo` and `prepareAudio` return, and their answers are `true`. -/
def Usb.Prepares (u : Usb) (uvcCamera : Option ℕ) : Prop :=
  u.PreviewStops uvcCamera ∧ AllReturn (u.previewCalls + 4) u.outcomes ∧
    saysTrue u.outcomes u.previewCalls = true ∧ saysTrue u.outcomes (u.previewCalls + 3) = true

/-- `prepareVideo(..) && prepareAudio()`. -/
def prepareBoth (parameters : VideoParameters) (uvcCamera : Option ℕ) : UsbM Bool := do
  let video ← prepareVideo parameters uvcCamera
  if video then prepareAudio else pure false

section Prepare

variable (u : Usb) (uvcCamera : Option ℕ)

/-- `prepareVideo` stops the preview, or there is none to be stopped. -/
theorem triple_stopForVideo :
    Triple (fun t ↦ t = u)
      (whenever u.base.onPreview do
        stopPreview uvcCamera
        modify fun u ↦ { u with base.onPreview := true })
      (fun _ t ↦ (u.PreviewStops uvcCamera ∧ AllReturn u.previewCalls u.outcomes) ∧
        t.outcomes = u.outcomes.drop u.previewCalls)
      (fun _ _ ↦ ¬ (u.PreviewStops uvcCamera ∧ AllReturn u.previewCalls u.outcomes)) := by
  have hnone : u.previewCalls = 0 → ∀ t : Usb, t.outcomes = u.outcomes →
      (u.PreviewStops uvcCamera ∧ AllReturn u.previewCalls u.outcomes) ∧
        t.outcomes = u.outcomes.drop u.previewCalls := by
    intro hcalls t ht
    rw [hcalls]
    exact ⟨⟨Or.inl hcalls, answered_zero _ _⟩, ht⟩
  refine Triple.whenever (fun hpreview ↦ ?_) fun hoff t ht ↦ ?_
  · refine Triple.bind (triple_read_eq fun t ht ↦ ?_) fun _ ↦ Triple.modify fun t h ↦ h
    obtain rfl := ht
    refine Triple.whenever (fun hstops ↦ ?_) fun hstays t' ht' ↦ ?_
    · have hcalls : t.previewCalls = 2 := if_pos hstops
      rw [hcalls]
      cases uvcCamera with
      | none =>
        have hno : ¬ (t.PreviewStops none ∧ AllReturn 2 t.outcomes) := by
          rintro ⟨hzero | hsome, -⟩
          · exact absurd (hcalls.symm.trans hzero) (by decide)
          · cases hsome
        refine Triple.bind (((makes_onGl _ t.outcomes).of_state rfl).mono (fun _ h ↦ h)
          (fun _ _ _ ↦ trivial) fun _ _ _ ↦ hno) fun _ ↦ ?_
        exact Triple.bind_throws (Triple.throw fun _ _ ↦ hno)
      | some camera =>
        have hmakes : MakesCalls (fun _ ↦ 2) (do
            onGl fun gl ↦ { gl with started := false }
            onCamera (some camera) UVCCamera.stopPreview
            modify fun u ↦ { u with base.onPreview := false }) :=
          Makes.congr (.bind (makes_onGl _) fun _ ↦ .bind (makes_onCamera camera _) fun _ ↦
            .modify fun _ ↦ rfl) fun _ ↦ rfl
        exact ((hmakes t.outcomes).of_state rfl).mono (fun _ h ↦ h)
          (fun _ _ h ↦ ⟨⟨Or.inr rfl, h.1⟩, h.2⟩) fun _ _ h hall ↦ h hall.2
    · have hcalls : t.previewCalls = 0 := if_neg (Bool.eq_false_iff.mp hstays)
      exact hnone hcalls t' (congrArg Usb.outcomes ht')
  · have hcalls : u.previewCalls = 0 := if_neg (by simp [hoff])
    exact hnone hcalls t (congrArg Usb.outcomes ht)

/-- `prepareVideo` returns what the last of its calls does. -/
theorem triple_prepareVideo (parameters : VideoParameters) :
    Triple (fun t ↦ t = u) (prepareVideo parameters uvcCamera)
      (fun video t ↦ (u.PreviewStops uvcCamera ∧ AllReturn (u.previewCalls + 1) u.outcomes ∧
        saysTrue u.outcomes u.previewCalls = video) ∧
          t.outcomes = u.outcomes.drop (u.previewCalls + 1))
      (fun _ _ ↦ ¬ (u.PreviewStops uvcCamera ∧ AllReturn (u.previewCalls + 1) u.outcomes)) := by
  refine triple_read_eq fun t ht ↦ ?_
  obtain rfl := ht
  refine Triple.bind ((triple_stopForVideo t uvcCamera).mono (fun _ h ↦ h) (fun _ _ h ↦ h)
    fun _ _ hbroken hall ↦ ?_) fun _ ↦ .assume fun hstops ↦ ?_
  · exact hbroken ⟨hall.1, ((answered_add _ _ _ _).mp hall.2).1⟩
  · have hask : MakesCalls (fun _ ↦ 1)
        (ask fun u ↦ { u with base.videoEncoder.parameters := some parameters }) :=
      makes_ask fun _ ↦ rfl
    refine ((hask.rest hstops.2).and (gives_ask _ _)).mono (fun _ h ↦ h) ?_ ?_
    · rintro video t' ⟨⟨hall, houtcomes⟩, hvideo⟩
      rw [saysTrue_drop] at hvideo
      exact ⟨⟨hstops.1, hall, hvideo.symm⟩, houtcomes⟩
    · rintro exception t' ⟨hbroken, -⟩ hall
      exact hbroken hall.2

/-- The encoders are prepared exactly where the calls return with the answers for it. -/
theorem triple_prepareBoth (parameters : VideoParameters) :
    Triple (fun t ↦ t = u) (prepareBoth parameters uvcCamera)
      (fun prepared t ↦ (prepared = true ↔ u.Prepares uvcCamera) ∧
        (prepared = true → t.outcomes = u.outcomes.drop (u.previewCalls + 4)))
      (fun _ _ ↦ ¬ u.Prepares uvcCamera) := by
  refine Triple.bind ((triple_prepareVideo u uvcCamera parameters).mono (fun _ h ↦ h)
    (fun _ _ h ↦ h) fun _ _ hbroken hprepares ↦ ?_) fun video ↦ .assume fun hasked ↦ ?_
  · have hall : AllReturn (u.previewCalls + 1 + 3) u.outcomes := hprepares.2.1
    exact hbroken ⟨hprepares.1, ((answered_add _ _ _ _).mp hall).1⟩
  · obtain ⟨hstops, hreturned, hvideo⟩ := hasked
    cases video with
    | false =>
      refine Triple.pure fun t _ ↦ ⟨iff_of_false Bool.false_ne_true fun hprepares ↦ ?_, nofun⟩
      exact Bool.false_ne_true (hvideo.symm.trans hprepares.2.2.1)
    | true =>
      refine (Triple.and (makes_prepareAudio.rest hreturned) (gives_prepareAudio _)).mono
        (fun _ h ↦ h) ?_ ?_
      · rintro prepared t ⟨⟨hall, houtcomes⟩, hprepared⟩
        rw [saysTrue_drop] at hprepared
        refine ⟨?_, fun _ ↦ houtcomes⟩
        rw [hprepared]
        exact ⟨fun hsays ↦ ⟨hstops, hall, hvideo, hsays⟩, fun hprepares ↦ hprepares.2.2.2⟩
      · rintro exception t ⟨hbroken, -⟩ hprepares
        exact hbroken hprepares.2.1

/-- Preparing the encoders leaves the session alone. -/
theorem session_prepareBoth (parameters : VideoParameters) :
    Leaves Usb.session (prepareBoth parameters uvcCamera) :=
  .bind (session_prepareVideo uvcCamera parameters) fun _ ↦ .ite session_prepareAudio (.pure _)

end Prepare

/-! ### A start on the object in use -/

/-- The encoders are prepared, and then the method runs. -/
def startAfter (parameters : VideoParameters) (uvcCamera : Option ℕ) (method : UsbM Unit) :
    UsbM Bool := do
  let prepared ← prepareBoth parameters uvcCamera
  if prepared then do
    method
    pure true
  else pure false

/-- The object in use with the devices. -/
def ServiceState.currentUsb (s : ServiceState) : Option Usb := s.service.rtmpUSB.bind s.usb

/-- The object in use and the devices become others. -/
def ServiceState.putCurrent (u : Usb) (s : ServiceState) : ServiceState :=
  { s with
    objects := match s.service.rtmpUSB with
      | none => s.objects
      | some object => s.objects.set object u.base
    devices := u.devices }

/-- The object in use is found again where it was put back. -/
theorem currentUsb_putCurrent {s : ServiceState} {u : Usb} (hu : s.currentUsb = some u)
    (u' : Usb) : (s.putCurrent u').currentUsb = some u' := by
  obtain ⟨object, hobject, hheld⟩ := Option.bind_eq_some_iff.mp hu
  obtain ⟨hlt, -⟩ := List.getElem?_eq_some_iff.mp (usb_eq_some hheld).1
  simp only [ServiceState.currentUsb, ServiceState.putCurrent, hobject, Option.bind_some,
    ServiceState.usb, List.getElem?_set_self hlt, Option.map_some]

theorem putCurrent_putCurrent (s : ServiceState) (u u' : Usb) :
    (s.putCurrent u).putCurrent u' = s.putCurrent u' := by
  unfold ServiceState.putCurrent
  cases s.service.rtmpUSB with
  | none => rfl
  | some object => simp only [List.set_set]

theorem putCurrent_self {s : ServiceState} {u : Usb} (hu : s.currentUsb = some u) :
    s.putCurrent u = s := by
  obtain ⟨object, hobject, hheld⟩ := Option.bind_eq_some_iff.mp hu
  obtain ⟨hbase, hdevices⟩ := usb_eq_some hheld
  obtain ⟨hlt, hget⟩ := List.getElem?_eq_some_iff.mp hbase
  have hset : s.objects.set object u.base = s.objects := by rw [← hget, List.set_getElem_self]
  simp only [ServiceState.putCurrent, hobject, hset, ← hdevices]

/-- `rtmpUSB!!` and a method of it is a program on the object in use. -/
theorem onRtmpUSB_eq {α : Type} (method : UsbM α) :
    onRtmpUSB method =
      zoom ServiceState.currentUsb ServiceState.putCurrent .nullPointer method := by
  funext s
  change (match s.service.rtmpUSB with
    | none => throw .nullPointer
    | some object => onObject object method : ServiceM α) s = _
  cases hobject : s.service.rtmpUSB with
  | none => exact (zoom_of_missing (by rw [ServiceState.currentUsb, hobject]; rfl)).symm
  | some object =>
    simp only [onObject, zoom, ServiceState.currentUsb, ServiceState.putCurrent, hobject,
      Option.bind_some]

theorem onRtmpUSB_bind {α β : Type} {method : UsbM α} {next : α → UsbM β} {rest : α → ServiceM β}
    (hrest : ∀ value s u, s.currentUsb = some u → rest value s = onRtmpUSB (next value) s) :
    onRtmpUSB method >>= rest = onRtmpUSB (method >>= next) := by
  rw [onRtmpUSB_eq, onRtmpUSB_eq]
  refine zoom_bind (fun s u u' hu ↦ currentUsb_putCurrent hu u') putCurrent_putCurrent
    fun value s u hu ↦ ?_
  rw [hrest value s u hu, onRtmpUSB_eq]

theorem onRtmpUSB_pure {α : Type} {s : ServiceState} {u : Usb} (hu : s.currentUsb = some u)
    (value : α) : onRtmpUSB (pure value) s = .ok value s := by
  have hrun : onRtmpUSB (pure value) s = .ok value (s.putCurrent u) := by
    rw [onRtmpUSB_eq]
    exact zoom_of_ok hu rfl
  rw [hrun, putCurrent_self hu]

theorem prepareEncoders_eq (parameters : VideoParameters) (uvcCamera : Option ℕ) :
    prepareEncoders parameters uvcCamera = onRtmpUSB (prepareBoth parameters uvcCamera) :=
  onRtmpUSB_bind fun video s u hu ↦ by
    cases video with
    | false => exact (onRtmpUSB_pure hu false).symm
    | true => rfl

/-- A start of the service is one program on the object in use. -/
theorem onRtmpUSB_startAfter (parameters : VideoParameters) (uvcCamera : Option ℕ)
    (method : UsbM Unit) :
    (do
      let prepared ← prepareEncoders parameters uvcCamera
      if prepared then do
        onRtmpUSB method
        pure true
      else pure false) = onRtmpUSB (startAfter parameters uvcCamera method) := by
  rw [prepareEncoders_eq]
  refine onRtmpUSB_bind fun prepared s u hu ↦ ?_
  cases prepared with
  | false => exact (onRtmpUSB_pure hu false).symm
  | true => exact congrFun (onRtmpUSB_bind fun _ s u hu ↦ (onRtmpUSB_pure hu true).symm) s

/-- What a method does to the object in use, in one state of the service. -/
theorem triple_onCurrent {α : Type} {method : UsbM α} {s : ServiceState} {u : Usb}
    (hu : s.currentUsb = some u) {post : α → Usb → Prop} {thrown : JavaException → Usb → Prop}
    (h : Triple (fun t ↦ t = u) method post thrown) :
    Triple (fun t ↦ t = s) (onRtmpUSB method)
      (fun value t ↦ ∃ u', post value u' ∧ t = s.putCurrent u')
      (fun exception t ↦ ∃ u', thrown exception u' ∧ t = s.putCurrent u') := by
  rw [onRtmpUSB_eq]
  refine triple_zoom (fun t ht hnone ↦ ?_) fun t u' ht hu' ↦ ?_
  · rw [ht, hu] at hnone
    cases hnone
  · rw [ht, hu] at hu'
    obtain rfl := Option.some.inj hu'
    exact h.mono (fun _ h ↦ h) (fun _ u' hpost ↦ ⟨u', hpost, ht ▸ rfl⟩)
      fun _ u' hthrown ↦ ⟨u', hthrown, ht ▸ rfl⟩

/-! ### The two starts -/

/-- What `startLocalRecording` prepares the video encoder with. -/
def StreamService.recordingParameters (service : StreamService) : VideoParameters where
  width := service.recordingSize.width
  height := service.recordingSize.height
  fps := 60
  bitRate := service.recordingBitrateKbps * 1024
  rotation := 0
  iFrameInterval := 2

/-- `startLocalRecording` runs `startRecord` after the preparation, and ignores every exception. -/
theorem startLocalRecording_eq (outputPath : String) (s : ServiceState) :
    StreamService.startLocalRecording outputPath s =
      if s.service.rtmpUSB.isNone || s.service.uvcCamera.isNone || isBlank outputPath then
        .ok false s
      else
        tryCatch (onRtmpUSB (startAfter s.service.recordingParameters s.service.uvcCamera
          (startRecord s.service.uvcCamera))) (fun _ ↦ pure false) s := by
  rw [← onRtmpUSB_startAfter]
  change (if s.service.rtmpUSB.isNone || s.service.uvcCamera.isNone || isBlank outputPath then
    pure false else _ : ServiceM Bool) s = _
  split_ifs
  · rfl
  · rfl

/-- There is an object, a camera and a path. -/
def ServiceState.CanRecord (s : ServiceState) (outputPath : String) : Prop :=
  s.currentUsb.isSome ∧ s.service.uvcCamera.isSome ∧ isBlank outputPath = false

/-- Otherwise a recording start returns `false` and changes nothing. -/
theorem startLocalRecording_refused {outputPath : String} {s : ServiceState}
    (hrefused : ¬ s.CanRecord outputPath) :
    StreamService.startLocalRecording outputPath s = .ok false s := by
  rw [startLocalRecording_eq]
  split_ifs with hasked
  · rfl
  · simp only [Bool.or_eq_true, Option.isNone_iff_eq_none, not_or, Bool.not_eq_true] at hasked
    have hnone : s.currentUsb = none := by
      by_contra hsome
      exact hrefused ⟨Option.isSome_iff_ne_none.mpr hsome,
        Option.isSome_iff_ne_none.mpr hasked.1.2, hasked.2⟩
    rw [onRtmpUSB_eq]
    exact tryCatch_of_error (zoom_of_missing hnone)

/-- A recording start that is not refused: every exception becomes `false`. -/
theorem triple_startLocalRecording_current {outputPath : String} {s : ServiceState} {u : Usb}
    (hu : s.currentUsb = some u) (hasked : s.CanRecord outputPath)
    {post : Bool → Usb → Prop} {thrown : JavaException → Usb → Prop}
    (h : Triple (fun t ↦ t = u) (startAfter s.service.recordingParameters s.service.uvcCamera
      (startRecord s.service.uvcCamera)) post thrown) :
    Total (fun t ↦ t = s) (StreamService.startLocalRecording outputPath) fun started t ↦
      ∃ u', (post started u' ∨ started = false ∧ ∃ exception, thrown exception u') ∧
        t = s.putCurrent u' := by
  rintro t rfl
  obtain ⟨-, hcamera, hpath⟩ := hasked
  have hobject : t.service.rtmpUSB.isNone = false := by
    obtain ⟨object, hobject, -⟩ := Option.bind_eq_some_iff.mp hu
    rw [hobject]
    rfl
  rw [startLocalRecording_eq, if_neg (by simp [hobject, hpath, ← Option.not_isSome, hcamera])]
  refine Triple.tryCatch ((triple_onCurrent hu h).mono (fun _ h ↦ h) ?_ fun _ _ h ↦ h)
    (fun exception ↦ Triple.pure ?_) t rfl
  · rintro started s ⟨u', hpost, hs⟩
    exact ⟨u', Or.inl hpost, hs⟩
  · rintro s ⟨u', hthrown, hs⟩
    exact ⟨u', Or.inr ⟨rfl, exception, hthrown⟩, hs⟩

/-- `startStreamRtp` stores the endpoint and runs `startStream` after the preparation, unless the
object in use streams. -/
theorem startStreamRtp_eq (endpoint : String) (s : ServiceState) :
    StreamService.startStreamRtp endpoint s =
      if s.current.any (fun object ↦ !object.streaming) then
        onRtmpUSB (startAfter s.service.streamParameters s.service.uvcCamera
          (startStream s.service.uvcCamera endpoint)) { s with service.endpoint := some endpoint }
      else .ok false s := by
  rw [← onRtmpUSB_startAfter]
  exact startStreamRtp_run endpoint s

theorem current_eq_currentUsb (s : ServiceState) : s.current = s.currentUsb.map Usb.base := by
  unfold ServiceState.current ServiceState.currentUsb
  cases s.service.rtmpUSB with
  | none => rfl
  | some object =>
    rw [Option.bind_some, Option.bind_some, ServiceState.usb, Option.map_map]
    exact Option.map_id.symm ▸ rfl

/-- A stream start while the object streams, or without an object, changes nothing. -/
theorem startStreamRtp_refused {endpoint : String} {s : ServiceState}
    (hbusy : ∀ u ∈ s.currentUsb, u.base.streaming ≠ false) :
    StreamService.startStreamRtp endpoint s = .ok false s := by
  rw [startStreamRtp_eq, if_neg]
  rw [current_eq_currentUsb]
  cases hu : s.currentUsb with
  | none => exact Bool.false_ne_true
  | some u => simpa using hbusy u hu

/-- A stream start that is not refused. -/
theorem triple_startStreamRtp_current {endpoint : String} {s : ServiceState} {u : Usb}
    (hu : s.currentUsb = some u) (hidle : u.base.streaming = false)
    {post : Bool → Usb → Prop} {thrown : JavaException → Usb → Prop}
    (h : Triple (fun t ↦ t = u) (startAfter s.service.streamParameters s.service.uvcCamera
      (startStream s.service.uvcCamera endpoint)) post thrown) :
    Triple (fun t ↦ t = s) (StreamService.startStreamRtp endpoint)
      (fun started t ↦ ∃ u', post started u' ∧
        t = ServiceState.putCurrent u' { s with service.endpoint := some endpoint })
      (fun exception t ↦ ∃ u', thrown exception u' ∧
        t = ServiceState.putCurrent u' { s with service.endpoint := some endpoint }) := by
  have hu' : ServiceState.currentUsb { s with service.endpoint := some endpoint } = some u := hu
  have hany : s.current.any (fun object ↦ !object.streaming) = true := by
    rw [current_eq_currentUsb, hu, Option.map_some, Option.any_some, hidle]
    rfl
  rintro t rfl
  rw [startStreamRtp_eq, if_pos hany]
  exact triple_onCurrent hu' h _ rfl

end UvcRtmpStream.Streaming
