import UvcRtmpStream.Streaming.EncoderLifecycle
import UvcRtmpStream.Streaming.RecordingContent
import UvcRtmpStream.Streaming.RecordingOwnership

/-!
# What `stopRecord` leaves behind

After `stopRecord` nothing is meant to be left of the recordings of an object: the flags and the
track indices are reset, no muxer is in place, every muxer it ever made is released, and what ran
for the recording alone is stopped (`CleanedUp`).

A muxer is released in one place, and only if it was started. So one is lost for good when
`stopRecord` comes before the first key frame, and when `startRecord` finds another in place
(`DropsNoMuxer`). The rest is missed where the method does not get through: `MediaMuxer.stop`
throws, or an off-screen preview is stopped without a camera (`GetsThrough`). There is no other way
(`stopRecord_cleansUp_iff`).
-/

set_option autoImplicit false
set_option relaxedAutoImplicit false

namespace UvcRtmpStream.Streaming

open UvcRtmpStream.Foundations UvcRtmpStream.Platform UvcRtmpStream.Replay

/-- Nothing is left of the recordings of an object that found `existing` muxers when it was made. -/
structure CleanedUp (existing : ℕ) (u : Usb) : Prop where
  recording : u.base.recording = false
  canRecord : u.base.canRecord = false
  mediaMuxer : u.base.mediaMuxer = none
  tracks : u.base.videoTrack = -1 ∧ u.base.audioTrack = -1
  released : ∀ muxer ∈ u.devices.muxers.drop existing, muxer.released = true
  stopped : u.base.streaming = false → u.base.videoEncoder.running = false ∧
    u.base.audioEncoderRunning = false ∧ u.base.microphoneRunning = false

/-- No call of `stopRecord` throws but `MediaMuxer.stop`, which is the first one where there is a
muxer to stop. -/
def OnlyStopThrows (u : Usb) (outcomes : List Outcome) : Prop :=
  outcomes.tail.all Outcome.isReturn = true ∧
    (firstThrows outcomes = true → u.base.mediaMuxer.isSome = true ∧ u.base.canRecord = true)

instance (u : Usb) (outcomes : List Outcome) : Decidable (OnlyStopThrows u outcomes) :=
  inferInstanceAs (Decidable (_ ∧ _))

/-- No muxer is dropped without a release: `startRecord` finds none in place or cannot make another,
and `stopRecord` finds none that was not started. -/
def DropsNoMuxer (u : Usb) (usbCall : UsbCall) : Prop :=
  match usbCall.event with
  | .startRecord _ => u.base.mediaMuxer.isSome = true → firstThrows usbCall.outcomes = true
  | .stopRecord _ => u.base.mediaMuxer.isSome = true → u.base.canRecord = true
  | _ => True

/-- An off-screen preview is stopped without a camera, before the encoders. -/
def StopsNoCamera (u : Usb) (uvcCamera : Option ℕ) : Prop :=
  u.base.streaming = false ∧ u.offScreen = true ∧ uvcCamera = none

/-- `stopRecord` gets as far as there is something to stop. -/
def GetsThrough (u : Usb) (uvcCamera : Option ℕ) (outcomes : List Outcome) : Prop :=
  firstThrows outcomes = false ∧
    (StopsNoCamera u uvcCamera →
      u.base.videoEncoder.running = false ∧ u.base.audioEncoderRunning = false)

/-! ### The muxers of an object -/

namespace RecordView

/-- Every muxer of the object that is not in place is released. -/
def OthersReleased (existing : ℕ) (v : RecordView) : Prop :=
  ∀ index muxer, existing ≤ index → v.muxers[index]? = some muxer → v.mediaMuxer ≠ some index →
    muxer.released = true

/-- The muxer in place was made by the object and is not released, and there is one while
`canRecord` is set. -/
structure Holds (existing : ℕ) (v : RecordView) : Prop where
  counted : existing ≤ v.muxers.length
  held : ∀ index, v.mediaMuxer = some index →
    existing ≤ index ∧ ∃ muxer, v.muxers[index]? = some muxer ∧ muxer.released = false
  started : v.canRecord = true → v.mediaMuxer.isSome = true

variable {existing : ℕ} {v w : RecordView}

/-- A change of the muxer in place does not touch the others. -/
theorem othersReleased_onMuxer (change : MediaMuxer → MediaMuxer) :
    (v.onMuxer change).OthersReleased existing ↔ v.OthersReleased existing := by
  constructor
  · intro h index muxer hmade hmuxer hother
    exact h index muxer hmade ((getElem?_onMuxer_of_ne change hother).trans hmuxer) hother
  · intro h index muxer hmade hmuxer hother
    have hsame := @getElem?_onMuxer_of_ne v change index hother
    exact h index muxer hmade (hsame.symm.trans hmuxer) hother

/-- A change that does not release the muxer in place. -/
theorem Holds.onMuxer (h : v.Holds existing) {change : MediaMuxer → MediaMuxer}
    (hchange : ∀ muxer, (change muxer).released = muxer.released) :
    (v.onMuxer change).Holds existing := by
  refine ⟨(v.length_onMuxer change).symm ▸ h.counted, fun index hheld ↦ ?_, h.started⟩
  obtain ⟨hmade, muxer, hmuxer, hkept⟩ := h.held index hheld
  have hsame := @getElem?_onMuxer_of_eq v change index hheld
  exact ⟨hmade, change muxer, hsame.trans (congrArg (Option.map change) hmuxer),
    (hchange muxer).trans hkept⟩

/-- A new muxer is in place; the one that was in place before is lost. -/
theorem Holds.create (h : v.Holds existing) : v.create.Holds existing := by
  refine ⟨?_, fun index hheld ↦ ?_, fun _ ↦ rfl⟩
  · simp only [RecordView.create, List.length_append]
    exact Nat.le_add_right_of_le h.counted
  · obtain rfl := Option.some.inj hheld
    exact ⟨h.counted, MediaMuxer.new, by simp [RecordView.create], rfl⟩

theorem othersReleased_create (h : v.Holds existing) :
    v.create.OthersReleased existing ↔ v.OthersReleased existing ∧ v.mediaMuxer = none := by
  have hbefore : ∀ {index muxer}, v.muxers[index]? = some muxer →
      v.create.muxers[index]? = some muxer ∧ v.create.mediaMuxer ≠ some index := by
    intro index muxer hmuxer
    have hlt : index < v.muxers.length := (List.getElem?_eq_some_iff.mp hmuxer).1
    refine ⟨(List.getElem?_append_left hlt).trans hmuxer, fun hnew ↦ ?_⟩
    exact absurd (Option.some.inj hnew) (Nat.ne_of_gt hlt)
  constructor
  · intro hreleased
    have hrest : v.OthersReleased existing := fun index muxer hmade hmuxer _ ↦
      hreleased index muxer hmade (hbefore hmuxer).1 (hbefore hmuxer).2
    refine ⟨hrest, ?_⟩
    cases hheld : v.mediaMuxer with
    | none => rfl
    | some index =>
      obtain ⟨hmade, muxer, hmuxer, hkept⟩ := h.held index hheld
      have hlost := hreleased index muxer hmade (hbefore hmuxer).1 (hbefore hmuxer).2
      exact absurd (hkept.symm.trans hlost) Bool.false_ne_true
  · rintro ⟨hreleased, hnone⟩ index muxer hmade hmuxer hother
    rcases Nat.lt_or_ge index v.muxers.length with hlt | hge
    · have hold : v.muxers[index]? = some muxer := (List.getElem?_append_left hlt).symm.trans hmuxer
      exact hreleased index muxer hmade hold (by simp [hnone])
    · -- The only further muxer is the new one.
      have hlast : index < (v.muxers ++ [MediaMuxer.new]).length :=
        (List.getElem?_eq_some_iff.mp hmuxer).1
      rw [List.length_append, List.length_singleton] at hlast
      exact absurd (congrArg some (Nat.le_antisymm hge (Nat.le_of_lt_succ hlast))) hother

/-- What `stopRecord` does to the muxers. -/
theorem Holds.stop (h : v.Holds existing) (hmove : StopMove v w) :
    w.Holds existing ∧
      (w.OthersReleased existing ↔
        v.OthersReleased existing ∧ (v.mediaMuxer.isSome = true → v.canRecord = true)) := by
  cases hmove with
  | discard hidle =>
    have hoff : v.canRecord = false := by
      rcases hidle with hoff | hnone
      · exact hoff
      · refine Bool.eq_false_iff.mpr fun hset ↦ ?_
        exact absurd (h.started hset) (by simp [hnone])
    refine ⟨⟨h.counted, fun _ hheld ↦ absurd hheld (by simp), fun hset ↦ ?_⟩, ?_⟩
    · exact absurd (hoff.symm.trans hset) Bool.false_ne_true
    constructor
    · intro hreleased
      refine ⟨fun index muxer hmade hmuxer _ ↦ hreleased index muxer hmade hmuxer (by simp),
        fun hsome ↦ ?_⟩
      obtain ⟨index, hheld⟩ := Option.isSome_iff_exists.mp hsome
      obtain ⟨hmade, muxer, hmuxer, hkept⟩ := h.held index hheld
      have hlost := hreleased index muxer hmade hmuxer (by simp)
      exact absurd (hkept.symm.trans hlost) Bool.false_ne_true
    · rintro ⟨hreleased, hstarted⟩ index muxer hmade hmuxer -
      refine hreleased index muxer hmade hmuxer fun hheld ↦ ?_
      exact absurd (hoff.symm.trans (hstarted (by simp [hheld]))) Bool.false_ne_true
  | @threw hset change hchange =>
    have hkept : ∀ muxer, (change muxer).released = muxer.released := by
      rcases hchange with rfl | rfl
      · exact fun _ ↦ rfl
      · exact fun _ ↦ rfl
    have hstop := @Holds.onMuxer _ _ h change hkept
    refine ⟨⟨hstop.counted, hstop.held, hstop.started⟩, ?_⟩
    exact (othersReleased_onMuxer change).trans (iff_self_and.mpr fun _ _ ↦ hset)
  | stopped hset =>
    refine ⟨⟨(v.length_onMuxer _).symm ▸ h.counted, fun _ hheld ↦ absurd hheld (by simp),
      fun hset ↦ absurd hset Bool.false_ne_true⟩, ?_⟩
    constructor
    · intro hreleased
      refine ⟨fun index muxer hmade hmuxer hother ↦ ?_, fun _ ↦ hset⟩
      exact hreleased index muxer hmade ((getElem?_onMuxer_of_ne _ hother).trans hmuxer) (by simp)
    · rintro ⟨hreleased, -⟩ index muxer hmade hmuxer -
      rcases muxers_onMuxer hmuxer with ⟨-, muxer', -, rfl⟩ | ⟨hother, hmuxer⟩
      · rfl
      · exact hreleased index muxer hmade hmuxer hother

/-- Where no muxer is left in place, the rest is reset too. -/
theorem Holds.stop_reset (h : v.Holds existing) (hmove : StopMove v w)
    (hnone : w.mediaMuxer = none) :
    w.recording = false ∧ w.canRecord = false ∧ w.videoTrack = -1 ∧ w.audioTrack = -1 := by
  cases hmove with
  | discard hidle =>
    refine ⟨rfl, Bool.eq_false_iff.mpr fun hset ↦ ?_, rfl, rfl⟩
    rcases hidle with hoff | hnone
    · exact absurd (hoff.symm.trans hset) Bool.false_ne_true
    · exact absurd (h.started hset) (by simp [hnone])
  | threw hset =>
    have hnone : v.mediaMuxer = none := hnone
    exact absurd (h.started hset) (by simp [hnone])
  | stopped hset => exact ⟨rfl, rfl, rfl, rfl⟩

/-- A callback drops no muxer. -/
theorem Holds.deliver (h : v.Holds existing) (hmove : DeliverMove v w) :
    w.Holds existing ∧ (w.OthersReleased existing ↔ v.OthersReleased existing) := by
  cases hmove with
  | addTrack hrecording hcanRecord format =>
    exact ⟨h.onMuxer fun _ ↦ rfl, othersReleased_onMuxer _⟩
  | setTracks hrecording hcanRecord videoTrack audioTrack =>
    exact ⟨⟨h.counted, h.held, h.started⟩, Iff.rfl⟩
  | @start hrecording hcanRecord muxer hmuxer hfresh hvideo haudio =>
    have hstart := @Holds.onMuxer _ _ h (fun muxer ↦ { muxer with startCalled := true }) fun _ ↦ rfl
    refine ⟨⟨hstart.counted, hstart.held, fun _ ↦ ?_⟩, othersReleased_onMuxer _⟩
    obtain ⟨index, hheld, -⟩ := Option.bind_eq_some_iff.mp hmuxer
    exact Option.isSome_iff_exists.mpr ⟨index, hheld⟩
  | write hrecording hcanRecord htrack buffer info samples =>
    have hwrite := @Holds.onMuxer _ _ h (fun muxer ↦ { muxer with samples := samples muxer })
      fun _ ↦ rfl
    exact ⟨⟨hwrite.counted, hwrite.held, hwrite.started⟩, othersReleased_onMuxer _⟩

theorem Holds.delivers (h : v.Holds existing) (hmoves : Delivers v w) :
    w.Holds existing ∧ (w.OthersReleased existing ↔ v.OthersReleased existing) := by
  induction hmoves with
  | refl => exact ⟨h, Iff.rfl⟩
  | tail _ hmove ih =>
    obtain ⟨hholds, hsame⟩ := ih.1.deliver hmove
    exact ⟨hholds, hsame.trans ih.2⟩

end RecordView

/-- The step lemma for the muxers. -/
theorem holds_usbStep {existing : ℕ} {u : Usb} (h : u.record.Holds existing) (usbCall : UsbCall) :
    (usbStep u usbCall).record.Holds existing ∧
      ((usbStep u usbCall).record.OthersReleased existing ↔
        u.record.OthersReleased existing ∧ DropsNoMuxer u usbCall) := by
  have hstep := record_usbStep u usbCall
  obtain ⟨event, outcomes⟩ := usbCall
  cases event with
  | startRecord uvcCamera =>
    have hnone : (u.base.mediaMuxer.isSome = true → firstThrows outcomes = true) ↔
        firstThrows outcomes = true ∨ u.record.mediaMuxer = none := by
      change (u.record.mediaMuxer.isSome = true → _) ↔ _
      cases u.record.mediaMuxer <;> simp
    dsimp only [DropsNoMuxer] at hstep ⊢
    rw [hstep, hnone]
    split_ifs with hrefused
    · exact ⟨h, iff_self_and.mpr fun _ ↦ Or.inl hrefused⟩
    · refine ⟨h.create, ?_⟩
      rw [RecordView.othersReleased_create h, or_iff_right hrefused]
  | stopRecord uvcCamera => exact h.stop hstep
  | callback encoderCallback =>
    obtain ⟨hholds, hsame⟩ := h.delivers hstep
    exact ⟨hholds, hsame.trans (and_iff_left trivial).symm⟩
  | _ =>
    dsimp only [DropsNoMuxer] at hstep ⊢
    rw [hstep]
    exact ⟨h, (and_iff_left trivial).symm⟩

/-! ### How far `stopRecord` gets -/

/-- The calls to come return. -/
def Quiet (u : Usb) : Prop := u.devices.outcomes.all Outcome.isReturn = true

/-- The calls to come return, and the lifecycle is `l`. -/
def QuietIn (l : Lifecycle) (u : Usb) : Prop := Quiet u ∧ u.lifecycle = l

section Methods

variable {l : Lifecycle}

/-- A call that returns, with what it changes. -/
theorem total_call_quiet (change : Lifecycle → Lifecycle) {effect : Usb → Usb}
    (hkept : ∀ u, (effect u).devices.outcomes = u.devices.outcomes)
    (heffect : ∀ u, (effect u).lifecycle = change u.lifecycle) :
    Total (QuietIn l) (call effect) fun _ ↦ QuietIn (change l) := by
  have hanswer : Total (QuietIn l) nextAnswer fun _ ↦ QuietIn l := by
    rintro ⟨base, cameras, interfaces, muxers, replay, outcomes, writes⟩ ⟨hquiet, rfl⟩
    cases outcomes with
    | nil => exact ⟨rfl, rfl⟩
    | cons outcome rest =>
      cases outcome with
      | returns value => exact ⟨hquiet, rfl⟩
      | throws exception => cases hquiet
  refine hanswer.bind fun _ ↦ Triple.modify fun u hu ↦ ?_
  exact ⟨(congrArg (List.all · Outcome.isReturn) (hkept u)).trans hu.1,
    (heffect u).trans (congrArg change hu.2)⟩

theorem total_onGl_quiet (effect : GlInterface → GlInterface) :
    Total (QuietIn l) (onGl effect) fun _ ↦ QuietIn l :=
  total_call_quiet id (fun _ ↦ rfl) fun _ ↦ rfl

/-- `stopStream` with nothing streamed or recorded: all there is gets stopped, unless an off-screen
preview is stopped without a camera. -/
theorem triple_stopStream_quiet (hstreaming : l.streaming = false)
    (hrecording : l.recording = false) (offScreen : Bool) (uvcCamera : Option ℕ) :
    Triple (fun u ↦ QuietIn l u ∧ u.offScreen = offScreen) (stopStream uvcCamera)
      (fun _ u ↦ ¬ (offScreen = true ∧ uvcCamera = none) ∧ u.lifecycle = l.setRunning false)
      (fun _ u ↦ (offScreen = true ∧ uvcCamera = none) ∧
        u.lifecycle = { l with microphone := false }) := by
  let quieted : Lifecycle := { l with microphone := false }
  let halfStopped : Lifecycle := { quieted with videoEncoder := false }
  have hmicrophone : Total (QuietIn l) (call fun u ↦ { u with base.microphoneRunning := false })
      fun _ ↦ QuietIn quieted :=
    total_call_quiet (fun l ↦ { l with microphone := false }) (fun _ ↦ rfl) fun _ ↦ rfl
  have hpreview : Triple (QuietIn quieted)
      (whenever offScreen do
        onGl fun gl ↦ { gl with started := false }
        onCamera uvcCamera UVCCamera.stopPreview)
      (fun _ u ↦ ¬ (offScreen = true ∧ uvcCamera = none) ∧ QuietIn quieted u)
      (fun _ u ↦ (offScreen = true ∧ uvcCamera = none) ∧ u.lifecycle = quieted) := by
    refine Triple.whenever (fun hoffScreen ↦ (Total.triple (total_onGl_quiet _)).bind fun _ ↦ ?_)
      fun honScreen u hu ↦ ⟨by simp [honScreen], hu⟩
    cases uvcCamera with
    | none => exact Triple.throw fun u hu ↦ ⟨⟨hoffScreen, rfl⟩, hu.2⟩
    | some camera =>
      have hcamera : Total (QuietIn quieted) (onCamera (some camera) UVCCamera.stopPreview)
          fun _ ↦ QuietIn quieted := total_call_quiet id (fun _ ↦ rfl) fun _ ↦ rfl
      exact Total.triple (hcamera.mono (fun _ h ↦ h) (fun _ _ h ↦ ⟨by simp, h⟩) fun _ _ h ↦ h)
  have hvideo : Total (QuietIn quieted)
      (onVideoEncoder fun encoder ↦ { encoder with running := false })
      fun _ ↦ QuietIn halfStopped :=
    total_call_quiet (fun l ↦ { l with videoEncoder := false }) (fun _ ↦ rfl) fun _ ↦ rfl
  have haudio : Total (QuietIn halfStopped)
      (call fun u ↦ { u with base.audioEncoderRunning := false })
      fun _ ↦ QuietIn (l.setRunning false) :=
    total_call_quiet (fun l ↦ { l with audioEncoder := false }) (fun _ ↦ rfl) fun _ ↦ rfl
  have hskip : ∀ {program : UsbM Unit} {thrown : JavaException → Usb → Prop},
      Triple (fun u ↦ QuietIn l u ∧ u.offScreen = offScreen) (whenever false program)
        (fun _ ↦ QuietIn l) thrown := Triple.pure fun _ hu ↦ hu.1
  refine triple_read fun u hu ↦ ?_
  have hoff : u.base.streaming = false := (congrArg Lifecycle.streaming hu.1.2).trans hstreaming
  have hidle : u.base.recording = false := (congrArg Lifecycle.recording hu.1.2).trans hrecording
  rw [hoff, hidle, hu.2]
  refine hskip.bind fun _ ↦ Triple.whenever (fun _ ↦ ?_) fun hbusy ↦ absurd hbusy (by decide)
  refine (Total.triple hmicrophone).bind fun _ ↦ (Total.triple (total_onGl_quiet _)).bind fun _ ↦
    hpreview.bind fun _ ↦ .assume fun hcamera ↦ (Total.triple hvideo).bind fun _ ↦
    (Total.triple haudio).bind fun _ ↦ Triple.modify fun u hu ↦ ⟨hcamera, hu.2⟩

/-- `mediaMuxer.stop()` where it returns. -/
theorem total_stopMuxer (c : ContentView) {held : MediaMuxer} (hheld : c.record.muxer = some held) :
    Total (Sees c) stopMuxer fun _ ↦
      Sees { c with record := c.record.onMuxer MediaMuxer.stop } := by
  let called : ContentView := { c with record := c.record.onMuxer MediaMuxer.stopFailed }
  have hcalled : called.record.muxer = some held.stopFailed :=
    (c.record.muxer_onMuxer MediaMuxer.stopFailed).trans (congrArg (Option.map _) hheld)
  have hreturns := @total_onMuxer called Unit held.stopFailed hcalled
    (fun muxer ↦ .ok ((), muxer.stop)) () MediaMuxer.stop rfl
  refine (total_modify c called (by exact fun _ ↦ rfl) fun u hu ↦ ?_).bind fun _ ↦
    hreturns.mono (fun _ h ↦ h) (fun _ u hu ↦ ?_) fun _ _ h ↦ h
  · simp only [called, ← hu]
    rfl
  · have hsees := hu.2
    rw [RecordView.onMuxer_onMuxer] at hsees
    exact hsees

/-- What `stopRecord` does with the muxer: no call of it throws, if the muxer is there. -/
theorem total_dropMuxer {u : Usb} (hquiet : Quiet u)
    (hheld : u.base.mediaMuxer.isSome = true → u.muxer.isSome = true) (started : Bool) :
    Total (fun t ↦ t = u) (dropMuxer u.base.mediaMuxer.isSome started) fun _ t ↦
      Quiet t ∧ t.base.mediaMuxer = none := by
  refine Triple.whenever (fun hsome ↦ ?_) fun hnone t ht ↦ ?_
  · obtain ⟨held, hmuxer⟩ := Option.isSome_iff_exists.mp (hheld hsome)
    have hstopped : (u.record.onMuxer MediaMuxer.stop).muxer = some held.stop :=
      (u.record.muxer_onMuxer MediaMuxer.stop).trans (congrArg (Option.map _) hmuxer)
    have hrelease := @total_onMuxer { u.content with record := u.record.onMuxer MediaMuxer.stop }
      Unit held.stop hstopped (fun muxer ↦ .ok ((), muxer.release)) () MediaMuxer.release rfl
    refine Triple.bind (Triple.whenever (fun _ ↦ ?_) fun _ t ht ↦ ht ▸ hquiet) fun _ ↦
      Triple.modify fun t ht ↦ ⟨ht, rfl⟩
    exact ((total_stopMuxer u.content hmuxer).of_state ⟨hquiet, rfl⟩).bind fun _ ↦
      hrelease.bind fun _ ↦ Triple.modify fun t ht ↦ ht.2.1
  · rw [Option.isSome_eq_false_iff, Option.isNone_iff_eq_none] at hnone
    exact ht ▸ ⟨hquiet, hnone⟩

/-- A recording that is stopped while nothing is streamed. -/
theorem Lifecycle.stopRecord_of_idle (l : Lifecycle) (hstreaming : l.streaming = false) :
    l.stopRecord = ({ l with recording := false } : Lifecycle).setRunning false := by
  have hidle : ({ l with recording := false } : Lifecycle).disconnect =
      { l with recording := false } := if_neg (by simp [hstreaming])
  rw [Lifecycle.stopRecord, if_neg (by simp [hstreaming]), Lifecycle.stopStream,
    if_neg Bool.false_ne_true, hidle]

/-- What runs after a `stopRecord` that got through, and after one that stopped no camera. -/
def StopsOutputs (u : Usb) (uvcCamera : Option ℕ) (left : Usb) : Prop :=
  ¬ StopsNoCamera u uvcCamera ∧ left.lifecycle = u.lifecycle.stopRecord ∨
    StopsNoCamera u uvcCamera ∧
      left.lifecycle = { u.lifecycle with recording := false, microphone := false }

/-- The end of `stopRecord`: what ran for the recording alone is stopped. -/
theorem triple_stopOutputs (u : Usb) (uvcCamera : Option ℕ) :
    Triple (fun t ↦ t.base.mediaMuxer = none ∧
        QuietIn { u.lifecycle with recording := false } t ∧ t.offScreen = u.offScreen)
      (whenever (!u.base.streaming) (stopStream uvcCamera))
      (fun _ t ↦ t.base.mediaMuxer = none ∧ StopsOutputs u uvcCamera t)
      (fun _ t ↦ t.base.mediaMuxer = none ∧ StopsOutputs u uvcCamera t) := by
  refine Triple.whenever (fun hoff ↦ ?_) fun hon t ht ↦ ⟨ht.1, Or.inl ⟨?_, ?_⟩⟩
  · rw [Bool.not_eq_true'] at hoff
    have hmuxer : Leaves (fun u ↦ u.base.mediaMuxer) (stopStream uvcCamera) :=
      (record_stopStream uvcCamera).comp RecordView.mediaMuxer fun _ ↦ rfl
    have hstopped := @triple_stopStream_quiet { u.lifecycle with recording := false } hoff rfl
      u.offScreen uvcCamera
    rw [← u.lifecycle.stopRecord_of_idle hoff] at hstopped
    refine Triple.mono (Triple.and ((hmuxer none).mono (fun _ h ↦ h.1) (fun _ _ h ↦ h)
      fun _ _ h ↦ h) (hstopped.mono (fun _ h ↦ h.2) (fun _ _ h ↦ h) fun _ _ h ↦ h))
      (fun _ h ↦ h) (fun _ t ht ↦ ⟨ht.1, Or.inl ⟨fun hstuck ↦ ht.2.1 hstuck.2, ht.2.2⟩⟩)
      fun _ t ht ↦ ⟨ht.1, Or.inr ⟨⟨hoff, ht.2.1⟩, ht.2.2⟩⟩
  · rintro ⟨hoff, -⟩
    simp [hoff] at hon
  · have hon : u.base.streaming = true := by simpa using hon
    have hstreaming : u.lifecycle.streaming = true := hon
    rw [ht.2.1.2, Lifecycle.stopRecord, if_pos hstreaming]

/-- `stopRecord` where no call throws: no muxer is in place, and what ran for the recording is
stopped. -/
theorem triple_stopRecord_quiet {u : Usb} (hquiet : Quiet u)
    (hheld : u.base.mediaMuxer.isSome = true → u.muxer.isSome = true) (uvcCamera : Option ℕ) :
    Triple (fun t ↦ t = u) (stopRecord uvcCamera)
      (fun _ t ↦ t.base.mediaMuxer = none ∧ StopsOutputs u uvcCamera t)
      (fun _ t ↦ t.base.mediaMuxer = none ∧ StopsOutputs u uvcCamera t) := by
  let off : Usb := { u with base.recording := false }
  have hdropped : Total (fun t ↦ t = off) (dropMuxer off.base.mediaMuxer.isSome off.base.canRecord)
      fun _ t ↦ t.base.mediaMuxer = none ∧ QuietIn off.lifecycle t ∧ t.offScreen = u.offScreen := by
    have hoffScreen : Leaves (fun u ↦ (u.lifecycle, u.offScreen))
        (dropMuxer off.base.mediaMuxer.isSome off.base.canRecord) := by
      refine (setting_dropMuxer _ _).comp (fun u ↦ (u.lifecycle, u.offScreen)) fun u ↦ ?_
      simp only [Usb.lifecycle, USBBase.lifecycle, Usb.setting, List.filter_filter, Bool.and_self]
      rfl
    have hkept := ((hoffScreen (off.lifecycle, off.offScreen)).of_state rfl).and
      (total_dropMuxer (show Quiet off from hquiet) hheld off.base.canRecord)
    refine hkept.mono (fun _ h ↦ h) (fun _ t ht ↦ ?_) fun _ _ h ↦ h.2
    exact ⟨ht.2.2, ⟨ht.2.1, congrArg Prod.fst ht.1⟩, congrArg Prod.snd ht.1⟩
  have hrest : ∀ {post : Unit → Usb → Prop} {thrown : JavaException → Usb → Prop},
      Triple (fun t ↦ t.base.mediaMuxer = none ∧ QuietIn off.lifecycle t ∧
        t.offScreen = u.offScreen) (whenever (!u.base.streaming) (stopStream uvcCamera))
        post thrown →
      Triple (fun t ↦ t = off) (do
        let u ← get
        dropMuxer u.base.mediaMuxer.isSome u.base.canRecord
        modify fun u ↦ { u with base.videoTrack := -1, base.audioTrack := -1 }
        whenever (!u.base.streaming) (stopStream uvcCamera)) post thrown := by
    intro post thrown hstop
    refine triple_read fun t ht ↦ ?_
    subst ht
    exact (Total.triple hdropped).bind fun _ ↦ triple_update (fun t ht ↦ ht) hstop
  exact triple_update (fun t ht ↦ ht ▸ rfl) (hrest (triple_stopOutputs u uvcCamera))

/-- Where the first call throws, and is the one that stops the muxer, `canRecord` stays set. -/
theorem triple_stopRecord_throws (uvcCamera : Option ℕ) :
    Triple (fun u ↦ firstThrows u.devices.outcomes = true ∧ u.base.mediaMuxer.isSome = true ∧
        u.base.canRecord = true) (stopRecord uvcCamera)
      (fun _ _ ↦ False) fun _ u ↦ u.base.canRecord = true := by
  have hanswer : Triple (fun u ↦ firstThrows u.devices.outcomes = true ∧ u.base.canRecord = true)
      nextAnswer (fun _ _ ↦ False) fun _ u ↦ u.base.canRecord = true := by
    rintro ⟨base, cameras, interfaces, muxers, replay, outcomes, writes⟩ ⟨hthrows, hset⟩
    cases outcomes with
    | nil => cases hthrows
    | cons outcome rest =>
      cases outcome with
      | returns value => cases hthrows
      | throws exception => exact hset
  have hstop : Triple (fun u ↦ firstThrows u.devices.outcomes = true ∧ u.base.canRecord = true)
      stopMuxer (fun _ _ ↦ False) fun _ u ↦ u.base.canRecord = true := by
    have hcall : Triple (fun u ↦ firstThrows u.devices.outcomes = true ∧ u.base.canRecord = true)
        (onMuxer fun muxer ↦ .ok ((), muxer.stop)) (fun _ _ ↦ False)
        fun _ u ↦ u.base.canRecord = true := by
      refine triple_read fun u hu ↦ ?_
      split
      · exact hanswer.bind_throws
      · exact Triple.throw fun _ h ↦ h.2
    exact triple_update (fun _ h ↦ h) hcall
  have hrest : Triple (fun u ↦ firstThrows u.devices.outcomes = true ∧
      u.base.mediaMuxer.isSome = true ∧ u.base.canRecord = true) (do
        let u ← get
        dropMuxer u.base.mediaMuxer.isSome u.base.canRecord
        modify fun u ↦ { u with base.videoTrack := -1, base.audioTrack := -1 }
        whenever (!u.base.streaming) (stopStream uvcCamera))
      (fun _ _ ↦ False) fun _ u ↦ u.base.canRecord = true := by
    refine triple_read fun u hu ↦ ?_
    rw [hu.2.1, hu.2.2]
    exact (hstop.bind_throws.bind_throws.bind_throws).mono (fun _ h ↦ ⟨h.1, h.2.2⟩)
      (fun _ _ h ↦ h) fun _ _ h ↦ h
  exact triple_update (fun _ h ↦ h) hrest

end Methods

/-! ### One call -/

/-- Where `stop` does not throw either, no call does. -/
theorem OnlyStopThrows.all_isReturn {u : Usb} {outcomes : List Outcome}
    (honly : OnlyStopThrows u outcomes) (hthrows : firstThrows outcomes = false) :
    outcomes.all Outcome.isReturn = true := by
  cases outcomes with
  | nil => rfl
  | cons outcome rest =>
    cases outcome with
    | returns value => exact honly.1
    | throws exception => cases hthrows

theorem RecordView.Holds.isSome_muxer {existing : ℕ} {u : Usb} (h : u.record.Holds existing)
    (hsome : u.base.mediaMuxer.isSome = true) : u.muxer.isSome = true := by
  obtain ⟨index, hindex⟩ := Option.isSome_iff_exists.mp hsome
  obtain ⟨-, muxer, hmuxer, -⟩ := h.held index hindex
  exact Option.isSome_iff_exists.mpr
    ⟨muxer, (congrArg (Option.bind · (u.devices.muxers[·]?)) hindex).trans hmuxer⟩

/-- With no muxer in place, every muxer of the object is one of the others. -/
theorem othersReleased_iff_of_none {existing : ℕ} {u : Usb} (hnone : u.base.mediaMuxer = none) :
    u.record.OthersReleased existing ↔
      ∀ muxer ∈ u.devices.muxers.drop existing, muxer.released = true := by
  constructor
  · intro hothers muxer hmuxer
    obtain ⟨index, hindex⟩ := List.mem_iff_getElem?.mp hmuxer
    rw [List.getElem?_drop] at hindex
    refine hothers (existing + index) muxer (Nat.le_add_right _ _) hindex fun hplace ↦ ?_
    exact absurd (hnone.symm.trans hplace) (Option.some_ne_none _).symm
  · intro hreleased index muxer hmade hmuxer _
    refine hreleased muxer (List.mem_iff_getElem?.mpr ⟨index - existing, ?_⟩)
    rw [List.getElem?_drop, Nat.add_sub_cancel' hmade]
    exact hmuxer

/-- The outputs are stopped, unless the preview could not be: then the encoders are left as they
were. -/
theorem StopsOutputs.stopped_iff {u left : Usb} {uvcCamera : Option ℕ}
    (h : StopsOutputs u uvcCamera left) :
    (left.base.streaming = false → left.base.videoEncoder.running = false ∧
      left.base.audioEncoderRunning = false ∧ left.base.microphoneRunning = false) ↔
    (StopsNoCamera u uvcCamera →
      u.base.videoEncoder.running = false ∧ u.base.audioEncoderRunning = false) := by
  rcases h with ⟨hfree, hleft⟩ | ⟨hstuck, hleft⟩
  · refine iff_of_true (fun hstreaming ↦ ?_) fun hstuck ↦ absurd hstuck hfree
    have hoff : left.lifecycle.streaming = false := hstreaming
    rw [hleft] at hoff
    have hidle : u.lifecycle.streaming = false := by
      refine Bool.eq_false_iff.mpr fun hon ↦ ?_
      rw [Lifecycle.stopRecord, if_pos hon] at hoff
      exact absurd (hoff.symm.trans hon) Bool.false_ne_true
    rw [u.lifecycle.stopRecord_of_idle hidle] at hleft
    exact ⟨congrArg Lifecycle.videoEncoder hleft, congrArg Lifecycle.audioEncoder hleft,
      congrArg Lifecycle.microphone hleft⟩
  · have hvideo : left.base.videoEncoder.running = u.base.videoEncoder.running :=
      congrArg Lifecycle.videoEncoder hleft
    have haudio : left.base.audioEncoderRunning = u.base.audioEncoderRunning :=
      congrArg Lifecycle.audioEncoder hleft
    rw [hvideo, haudio]
    constructor
    · intro hstopped _
      have hstreaming : left.base.streaming = false :=
        (congrArg Lifecycle.streaming hleft).trans hstuck.1
      obtain ⟨hvideo, haudio, -⟩ := hstopped hstreaming
      exact ⟨hvideo, haudio⟩
    · intro hidle _
      exact ⟨(hidle hstuck).1, (hidle hstuck).2, congrArg Lifecycle.microphone hleft⟩

/-- What `stopRecord` leaves behind, from one state. -/
theorem cleanedUp_stopRecord {existing : ℕ} {u : Usb} (hholds : u.record.Holds existing)
    {uvcCamera : Option ℕ} {outcomes : List Outcome} (honly : OnlyStopThrows u outcomes) :
    CleanedUp existing (usbStep u ⟨.stopRecord uvcCamera, outcomes⟩) ↔
      (u.record.OthersReleased existing ∧ DropsNoMuxer u ⟨.stopRecord uvcCamera, outcomes⟩) ∧
        GetsThrough u uvcCamera outcomes := by
  obtain ⟨-, hreleased⟩ := holds_usbStep hholds ⟨.stopRecord uvcCamera, outcomes⟩
  have hmove : StopMove u.record (usbStep u ⟨.stopRecord uvcCamera, outcomes⟩).record :=
    record_usbStep u ⟨.stopRecord uvcCamera, outcomes⟩
  rw [← hreleased]
  cases hthrows : firstThrows outcomes with
  | true =>
    -- `stop` throws, and the flag stays.
    have hset : (usbStep u ⟨.stopRecord uvcCamera, outcomes⟩).base.canRecord = true :=
      ((triple_stopRecord_throws uvcCamera).mono (fun _ h ↦ h) (fun _ _ h ↦ False.elim h)
        fun _ _ h ↦ h).after ⟨hthrows, honly.2 hthrows⟩
    refine iff_of_false (fun hcleaned ↦ ?_) fun hthrough ↦ ?_
    · exact absurd (hcleaned.canRecord.symm.trans hset) Bool.false_ne_true
    · exact absurd (hthrough.2.1.symm.trans hthrows) Bool.false_ne_true
  | false =>
    obtain ⟨hnone, hexit⟩ : (usbStep u ⟨.stopRecord uvcCamera, outcomes⟩).base.mediaMuxer = none ∧
        StopsOutputs u uvcCamera (usbStep u ⟨.stopRecord uvcCamera, outcomes⟩) :=
      (@triple_stopRecord_quiet { u with devices.outcomes := outcomes } (honly.all_isReturn hthrows)
        hholds.isSome_muxer uvcCamera).after rfl
    generalize usbStep u ⟨.stopRecord uvcCamera, outcomes⟩ = left at *
    rw [othersReleased_iff_of_none hnone]
    constructor
    · intro hcleaned
      exact ⟨hcleaned.released, hthrows, hexit.stopped_iff.mp hcleaned.stopped⟩
    · rintro ⟨hothers, -, hthrough⟩
      obtain ⟨hrecording, hcanRecord, hvideoTrack, haudioTrack⟩ := hholds.stop_reset hmove hnone
      exact ⟨hrecording, hcanRecord, hnone, ⟨hvideoTrack, haudioTrack⟩, hothers,
        hexit.stopped_iff.mpr hthrough⟩

/-! ### Runs -/

/-- After any calls and callbacks on a new object, with any outcomes of the calls it makes,
`stopRecord` cleans up, whether or not `MediaMuxer.stop` throws, exactly when no call up to it has
dropped a muxer and it gets through. -/
theorem stopRecord_cleansUp_iff (glInterface : ℕ) (devices : Devices) (calls : List UsbCall)
    (uvcCamera : Option ℕ) (outcomes : List Outcome)
    (honly : OnlyStopThrows (run usbStep (Usb.initial glInterface devices) calls) outcomes) :
    CleanedUp devices.muxers.length (run usbStep (Usb.initial glInterface devices)
        (calls ++ [⟨.stopRecord uvcCamera, outcomes⟩])) ↔
      Meets usbStep DropsNoMuxer (Usb.initial glInterface devices)
          (calls ++ [⟨.stopRecord uvcCamera, outcomes⟩]) ∧
        GetsThrough (run usbStep (Usb.initial glInterface devices) calls) uvcCamera outcomes := by
  have hinit : (Usb.initial glInterface devices).record.Holds devices.muxers.length :=
    ⟨Nat.le_refl _, fun _ hheld ↦ absurd hheld (Option.some_ne_none _).symm,
      fun hset ↦ absurd hset Bool.false_ne_true⟩
  have hfresh : (Usb.initial glInterface devices).record.OthersReleased devices.muxers.length := by
    intro index muxer hmade hmuxer _
    have hlt : index < devices.muxers.length := (List.getElem?_eq_some_iff.mp hmuxer).1
    exact absurd hlt (Nat.not_lt.mpr hmade)
  have hstep : ∀ (u : Usb) (usbCall : UsbCall), u.record.Holds devices.muxers.length →
      (usbStep u usbCall).record.Holds devices.muxers.length :=
    fun _ usbCall h ↦ (holds_usbStep h usbCall).1
  have hholds := inv_run (fun u usbCall h _ ↦ hstep u usbCall h) hinit
    (@meets_of_forall _ _ usbStep (fun _ _ ↦ True) (fun _ _ ↦ trivial) _ calls)
  have hdropped := @property_run_iff _ _ usbStep DropsNoMuxer
    (fun u ↦ u.record.OthersReleased devices.muxers.length) _ _ calls hstep
    (fun u usbCall h ↦ (holds_usbStep h usbCall).2) hinit
  rw [run_append, meets_append, run_cons, run_nil, cleanedUp_stopRecord hholds honly, hdropped,
    meets_cons]
  constructor
  · rintro ⟨⟨⟨-, hcalls⟩, hlast⟩, hthrough⟩
    exact ⟨⟨hcalls, hlast, trivial⟩, hthrough⟩
  · rintro ⟨⟨hcalls, hlast, -⟩, hthrough⟩
    exact ⟨⟨⟨hfresh, hcalls⟩, hlast⟩, hthrough⟩

/-- A recording of one frame. -/
def frameCalls : List UsbCall :=
  [(UsbEvent.startRecord (some 0)).plain,
    (UsbEvent.callback (.onVideoFormat ⟨"video/avc", []⟩)).plain,
    (UsbEvent.callback (.onAudioFormat ⟨"audio/mp4a-latm", []⟩)).plain,
    (UsbEvent.callback keyFrame).plain]

/-- It is cleaned up. -/
theorem stopRecord_cleansUp_frame :
    CleanedUp 0 (run usbStep (Usb.initial 0 oneCamera)
        (frameCalls ++ [(UsbEvent.stopRecord (some 0)).plain])) ↔
      Meets usbStep DropsNoMuxer (Usb.initial 0 oneCamera)
          (frameCalls ++ [(UsbEvent.stopRecord (some 0)).plain]) ∧
        GetsThrough (run usbStep (Usb.initial 0 oneCamera) frameCalls) (some 0) [] :=
  stopRecord_cleansUp_iff 0 oneCamera frameCalls (some 0) [] (by decide)

/-- A recording that is stopped before its first key frame: the muxer is never released. -/
theorem not_cleanedUp_before_frame :
    ¬ CleanedUp 0 (run usbStep (Usb.initial 0 oneCamera)
      [(UsbEvent.startRecord (some 0)).plain, (UsbEvent.stopRecord (some 0)).plain]) := by
  intro h
  exact absurd (h.released MediaMuxer.new (by decide)) (by decide)

end UvcRtmpStream.Streaming
