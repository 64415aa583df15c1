import UvcRtmpStream.Streaming.FailedRecordStart

/-!
# One encoder for two outputs

The stream and the local recording have sizes, frame rates and bit rates of their own, and the
service means the start of one to leave those of the other alone while it runs (`OutputsKept`). They
share one video encoder. `prepareVideo` gives it the new parameters before `startRecord` and
`startStream` look at what is going on, and the reset in their busy branch puts the parameters into
effect.

How an encoder is left is decided by the outcomes up to that reset (`ResetIf`), so the other output
is left alone exactly where the start does not get to the reset, or where the parameters are the
ones it is encoded with already (`KeepsEncoding`). Nothing is needed of the state: the result holds
from any service, with any sizes, bit rates and crop setting.
-/

set_option autoImplicit false
set_option relaxedAutoImplicit false

namespace UvcRtmpStream.Streaming

open UvcRtmpStream.Foundations UvcRtmpStream.Platform UvcRtmpStream.Replay

/-- What a viewer of an output sees of the parameters. -/
structure EncodingRates where
  width : Int32
  height : Int32
  fps : Int32
  bitRate : Int32
  deriving DecidableEq

def VideoParameters.rates (parameters : VideoParameters) : EncodingRates :=
  ⟨parameters.width, parameters.height, parameters.fps, parameters.bitRate⟩

/-- The rates at which an object encodes. -/
def USBBase.rates (base : USBBase) : Option EncodingRates :=
  base.videoEncoder.encoding.map VideoParameters.rates

/-- The objects with a live output encode as before. -/
def RatesKept (live : USBBase → Bool) (s t : ServiceState) : Prop :=
  ∀ (index : ℕ), ∀ object ∈ s.objects[index]?, live object = true →
    t.objects[index]?.map USBBase.rates = some object.rates

/-- A recording start leaves the encoding of a live stream alone, and a stream start that of a
recording. -/
def OutputsKept (s : ServiceState) (serviceCall : ServiceCall) : Prop :=
  match serviceCall.event with
  | .startLocalRecording _ => RatesKept USBBase.streaming s (serviceStep s serviceCall)
  | .startStreamRtp _ => RatesKept USBBase.recording s (serviceStep s serviceCall)
  | _ => True

/-- A recording start gets to the reset of a running encoder, which is the second call after the
constructor of the muxer. -/
def Usb.RecordResets (u : Usb) (uvcCamera : Option ℕ) : Prop :=
  u.CreatesMuxer uvcCamera ∧ u.base.videoEncoder.running = true ∧
    AllReturn 2 (u.outcomes.drop (u.previewCalls + 5))

/-- A stream start gets to the reset, which is the second call after the preparation. -/
def Usb.StreamResets (u : Usb) (uvcCamera : Option ℕ) : Prop :=
  u.Prepares uvcCamera ∧ AllReturn 2 (u.outcomes.drop (u.previewCalls + 4))

/-- A start that resets the encoder of the other output does so to the rates there are. -/
def KeepsEncoding (s : ServiceState) (serviceCall : ServiceCall) : Prop :=
  match serviceCall.event with
  | .startLocalRecording outputPath =>
    ServiceState.CanRecord { s with devices.outcomes := serviceCall.outcomes } outputPath →
    ∀ u ∈ ServiceState.currentUsb { s with devices.outcomes := serviceCall.outcomes },
      u.base.streaming = true → u.RecordResets s.service.uvcCamera →
      u.base.rates = some s.service.recordingParameters.rates
  | .startStreamRtp _ =>
    ∀ u ∈ ServiceState.currentUsb { s with devices.outcomes := serviceCall.outcomes },
      u.base.streaming = false → u.base.recording = true →
      u.StreamResets s.service.uvcCamera →
      u.base.rates = some s.service.streamParameters.rates
  | _ => True

/-! ### What the methods do to the encoder -/

/-- The encoder encodes with new parameters if something happened, and with the old ones if not. -/
def ResetIf (happened : Prop) (new old : Option VideoParameters) (u : Usb) : Prop :=
  happened ∧ u.base.videoEncoder.encoding = new ∨ ¬ happened ∧ u.base.videoEncoder.encoding = old

/-- The method resets the encoder exactly if something happened, whether it returns or throws. -/
abbrev Resets {α : Type} (pre : Usb → Prop) (method : UsbM α) (happened : Prop)
    (new old : Option VideoParameters) : Prop :=
  Triple pre method (fun _ ↦ ResetIf happened new old) fun _ ↦ ResetIf happened new old

theorem Resets.congr {α : Type} {pre : Usb → Prop} {method : UsbM α} {happened happened' : Prop}
    {new old : Option VideoParameters} (h : Resets pre method happened new old)
    (hiff : happened ↔ happened') : Resets pre method happened' new old := propext hiff ▸ h

/-- The video encoder. -/
def Usb.videoEncoder (u : Usb) : VideoEncoder := u.base.videoEncoder

section Encoder

variable (uvcCamera : Option ℕ)

theorem videoEncoder_call {effect : Usb → Usb}
    (heffect : ∀ u, (effect u).videoEncoder = u.videoEncoder) :
    Leaves Usb.videoEncoder (call effect) := leaves_call (fun _ _ ↦ rfl) heffect

theorem videoEncoder_onGl (effect : GlInterface → GlInterface) :
    Leaves Usb.videoEncoder (onGl effect) := videoEncoder_call fun _ ↦ rfl

theorem videoEncoder_onRtmp (rtmpCall : RtmpCall) : Leaves Usb.videoEncoder (onRtmp rtmpCall) :=
  videoEncoder_call fun _ ↦ rfl

theorem videoEncoder_createMuxer : Leaves Usb.videoEncoder createMuxer :=
  videoEncoder_call fun _ ↦ rfl

theorem videoEncoder_stopPreview : Leaves Usb.videoEncoder (stopPreview uvcCamera) :=
  .bind .get fun _ ↦ .whenever (.bind (videoEncoder_onGl _) fun _ ↦
    .bind (leaves_onCamera (fun _ _ ↦ rfl) fun _ _ ↦ rfl) fun _ ↦ .modify fun _ ↦ rfl)

theorem videoEncoder_prepareAudio : Leaves Usb.videoEncoder prepareAudio :=
  .bind (videoEncoder_call fun _ ↦ rfl) fun _ ↦ .bind (videoEncoder_onRtmp _) fun _ ↦
    leaves_ask (fun _ _ ↦ rfl) fun _ ↦ rfl

/-- `prepareVideo` gives the encoder its parameters where it returns, and only then. -/
theorem triple_prepareVideo_encoder (encoder : VideoEncoder) (parameters : VideoParameters) :
    Triple (fun u ↦ u.videoEncoder = encoder) (prepareVideo parameters uvcCamera)
      (fun _ u ↦ u.videoEncoder = { encoder with parameters := some parameters })
      (fun _ u ↦ u.videoEncoder = encoder) := by
  have hpreview : ∀ u : Usb, Leaves Usb.videoEncoder (whenever u.base.onPreview do
      stopPreview uvcCamera
      modify fun u ↦ { u with base.onPreview := true }) := fun _ ↦
    .whenever (.bind (videoEncoder_stopPreview uvcCamera) fun _ ↦ .modify fun _ ↦ rfl)
  refine triple_read fun u _ ↦ Triple.bind (hpreview u encoder) fun _ ↦
    Triple.bind (leaves_nextAnswer (fun _ _ ↦ rfl) encoder) fun value ↦ ?_
  exact triple_update (fun u hu ↦ congrArg
    (fun encoder : VideoEncoder ↦ { encoder with parameters := some parameters }) hu)
    (Triple.pure fun _ h ↦ h)

/-- Preparing both encoders does not change what the video encoder encodes with. -/
theorem triple_prepareBoth_encoder (encoder : VideoEncoder) (parameters : VideoParameters) :
    Triple (fun u ↦ u.videoEncoder = encoder) (prepareBoth parameters uvcCamera)
      (fun _ u ↦ u.videoEncoder = { encoder with parameters := some parameters })
      (fun _ u ↦ u.videoEncoder.encoding = encoder.encoding) := by
  refine Triple.bind ((triple_prepareVideo_encoder uvcCamera encoder parameters).mono
    (fun _ h ↦ h) (fun _ _ h ↦ h) fun _ _ h ↦ congrArg VideoEncoder.encoding h) fun video ↦ ?_
  have hrest : Leaves Usb.videoEncoder (if video then prepareAudio else pure false) :=
    .ite videoEncoder_prepareAudio (.pure _)
  exact (hrest _).mono (fun _ h ↦ h) (fun _ _ h ↦ h) fun _ _ h ↦ by rw [h]

/-- A call that changes the encoder where it returns. -/
theorem triple_call_encoder {effect : Usb → Usb} (change : VideoEncoder → VideoEncoder)
    (houtcomes : ∀ u, (effect u).outcomes = u.outcomes)
    (hchange : ∀ u, (effect u).videoEncoder = change u.videoEncoder) (outcomes : List Outcome)
    (encoder : VideoEncoder) :
    Triple (fun u ↦ u.outcomes = outcomes ∧ u.videoEncoder = encoder) (call effect)
      (fun _ u ↦ AllReturn 1 outcomes ∧ u.outcomes = outcomes.drop 1 ∧
        u.videoEncoder = change encoder)
      (fun _ u ↦ ¬ AllReturn 1 outcomes ∧ u.videoEncoder = encoder) := by
  rintro u ⟨houtcome, hencoder⟩
  have hnext := ((makes_nextAnswer outcomes).of_state houtcome).and
    ((leaves_nextAnswer (fun _ _ ↦ rfl) encoder).of_state (show u.videoEncoder = _ from hencoder))
  refine Triple.bind (hnext.mono (fun _ h ↦ h) (fun _ _ h ↦ h) fun _ _ h ↦ h) (fun value ↦ ?_) u rfl
  refine Triple.modify fun t ht ↦ ⟨ht.1.1, (houtcomes t).trans ht.1.2, ?_⟩
  exact (hchange t).trans (congrArg change ht.2)

theorem triple_onGl_encoder (effect : GlInterface → GlInterface) (outcomes : List Outcome)
    (encoder : VideoEncoder) :
    Triple (fun u ↦ u.outcomes = outcomes ∧ u.videoEncoder = encoder) (onGl effect)
      (fun _ u ↦ AllReturn 1 outcomes ∧ u.outcomes = outcomes.drop 1 ∧ u.videoEncoder = encoder)
      (fun _ u ↦ ¬ AllReturn 1 outcomes ∧ u.videoEncoder = encoder) := by
  refine triple_call_encoder id ?_ ?_ outcomes encoder
  all_goals exact fun _ ↦ rfl

theorem triple_onVideoEncoder (change : VideoEncoder → VideoEncoder) (outcomes : List Outcome)
    (encoder : VideoEncoder) :
    Triple (fun u ↦ u.outcomes = outcomes ∧ u.videoEncoder = encoder) (onVideoEncoder change)
      (fun _ u ↦ AllReturn 1 outcomes ∧ u.outcomes = outcomes.drop 1 ∧
        u.videoEncoder = change encoder)
      (fun _ u ↦ ¬ AllReturn 1 outcomes ∧ u.videoEncoder = encoder) := by
  refine triple_call_encoder change ?_ ?_ outcomes encoder
  all_goals exact fun _ ↦ rfl

/-- A reset puts the parameters into effect with its second call. -/
theorem resets_resetVideoEncoder (outcomes : List Outcome) (encoder : VideoEncoder) :
    Resets (fun u ↦ u.outcomes = outcomes ∧ u.videoEncoder = encoder) resetVideoEncoder
      (AllReturn 2 outcomes) encoder.parameters encoder.encoding := by
  have htwo := answered_add Outcome.isReturn 1 1 outcomes
  refine Triple.bind ((triple_onGl_encoder _ outcomes encoder).mono (fun _ h ↦ h) (fun _ _ h ↦ h)
    fun _ u h ↦ Or.inr ⟨fun hall ↦ h.1 (htwo.mp hall).1, congrArg VideoEncoder.encoding h.2⟩)
    fun _ ↦ .assume fun hfirst ↦ ?_
  refine Triple.bind ((triple_onVideoEncoder _ (outcomes.drop 1) encoder).mono (fun _ h ↦ h)
    (fun _ _ h ↦ h) fun _ u h ↦ Or.inr ⟨fun hall ↦ h.1 (htwo.mp hall).2,
      congrArg VideoEncoder.encoding h.2⟩) fun _ ↦ .assume fun hsecond ↦ ?_
  have hdone : ∀ u : Usb, u.videoEncoder = { encoder with encoding := encoder.parameters } →
      ResetIf (AllReturn 2 outcomes) encoder.parameters encoder.encoding u :=
    fun u hu ↦ Or.inl ⟨htwo.mpr ⟨hfirst, hsecond⟩, congrArg VideoEncoder.encoding hu⟩
  exact (videoEncoder_onGl _ _).mono (fun _ h ↦ h.2) (fun _ u h ↦ hdone u h) fun _ u h ↦ hdone u h

/-- A recording start of an object that streams. -/
theorem resets_startRecord {u : Usb} (hstreaming : u.base.streaming = true) :
    Resets (fun t ↦ t = u) (startRecord uvcCamera)
      (AllReturn 1 u.outcomes ∧ u.base.videoEncoder.running = true ∧
        AllReturn 2 (u.outcomes.drop 1)) u.videoEncoder.parameters u.videoEncoder.encoding := by
  have hcreate := (triple_createMuxer_calls u).and
    ((videoEncoder_createMuxer u.videoEncoder).of_state rfl)
  refine Triple.bind (hcreate.mono (fun _ h ↦ h) (fun _ _ h ↦ h) ?_) fun _ t ht ↦ ?_
  · rintro exception t ⟨⟨hbroken, -⟩, hencoder⟩
    exact Or.inr ⟨fun hall ↦ hbroken hall.1, congrArg VideoEncoder.encoding hencoder⟩
  · obtain ⟨⟨hreturned, hcreated⟩, hencoder⟩ := ht
    have hreset : Resets (fun v ↦ v = { t with base.recording := true })
        (do
          let u ← get
          if !u.base.streaming then startEncoders uvcCamera
          else whenever u.base.videoEncoder.running resetVideoEncoder)
        (AllReturn 1 u.outcomes ∧ u.base.videoEncoder.running = true ∧
          AllReturn 2 (u.outcomes.drop 1)) u.videoEncoder.parameters u.videoEncoder.encoding := by
      refine triple_read_eq fun v hv ↦ ?_
      obtain rfl := hv
      rw [hcreated.streaming_eq, hcreated.running_eq, hstreaming]
      refine Triple.whenever (fun hrunning ↦ ?_) fun hstopped v hv ↦ ?_
      · have hall := (resets_resetVideoEncoder (u.outcomes.drop 1) u.videoEncoder).of_state
          (⟨hcreated.outcomes_eq, hencoder⟩ :
            Usb.outcomes { t with base.recording := true } = u.outcomes.drop 1 ∧
              Usb.videoEncoder { t with base.recording := true } = u.videoEncoder)
        have hiff : AllReturn 2 (u.outcomes.drop 1) ↔ AllReturn 1 u.outcomes ∧
            u.base.videoEncoder.running = true ∧ AllReturn 2 (u.outcomes.drop 1) :=
          ⟨fun h ↦ ⟨hreturned, hrunning, h⟩, fun h ↦ h.2.2⟩
        exact Resets.congr hall hiff
      · rw [hv]
        exact Or.inr ⟨fun hall ↦ Bool.false_ne_true (hstopped.symm.trans hall.2.1),
          congrArg VideoEncoder.encoding hencoder⟩
    exact hreset _ rfl

/-- A stream start of an object that records. -/
theorem resets_startStream {u : Usb} (hrecording : u.base.recording = true) (url : String) :
    Resets (fun t ↦ t = u) (startStream uvcCamera url) (AllReturn 2 u.outcomes)
      u.videoEncoder.parameters u.videoEncoder.encoding := by
  have hconnect : Leaves Usb.videoEncoder (do
      startStreamRtp url
      modify fun u ↦ { u with base.onPreview := true }) :=
    .bind (.bind .get fun _ ↦ .bind (videoEncoder_onRtmp _) fun _ ↦ videoEncoder_onRtmp _) fun _ ↦
      .modify fun _ ↦ rfl
  have hreset : Resets (fun v ↦ v = { u with base.streaming := true })
      (do
        let u ← get
        (if !u.base.recording then startEncoders uvcCamera else resetVideoEncoder)
        startStreamRtp url
        modify fun u ↦ { u with base.onPreview := true })
      (AllReturn 2 u.outcomes) u.videoEncoder.parameters u.videoEncoder.encoding := by
    refine triple_read_eq fun v hv ↦ ?_
    obtain rfl := hv
    rw [hrecording]
    refine Triple.bind ((resets_resetVideoEncoder u.outcomes u.videoEncoder).of_state
      ⟨rfl, rfl⟩) fun _ ↦ ?_
    exact hconnect.keeps fun encoder ↦ AllReturn 2 u.outcomes ∧
      encoder.encoding = u.videoEncoder.parameters ∨ ¬ AllReturn 2 u.outcomes ∧
        encoder.encoding = u.videoEncoder.encoding
  rintro t rfl
  exact hreset _ rfl

/-- A start resets the encoder to its own parameters exactly if it prepares the encoders and its
method then gets to the reset. -/
theorem resets_startAfter {u : Usb} {parameters : VideoParameters} {method : UsbM Unit}
    (reaches : List Outcome → Prop)
    (hmethod : ∀ t : Usb, t.session = u.session →
      Resets (fun t' ↦ t' = t) method (reaches t.outcomes) t.videoEncoder.parameters
        t.videoEncoder.encoding) :
    Resets (fun t ↦ t = u) (startAfter parameters uvcCamera method)
      (u.Prepares uvcCamera ∧ reaches (u.outcomes.drop (u.previewCalls + 4))) (some parameters)
      u.videoEncoder.encoding := by
  have hprepare := ((triple_prepareBoth u uvcCamera parameters).and
    ((session_prepareBoth uvcCamera parameters u.session).of_state rfl)).and
    ((triple_prepareBoth_encoder uvcCamera u.videoEncoder parameters).of_state rfl)
  refine Triple.bind (hprepare.mono (fun _ h ↦ h) (fun _ _ h ↦ h) ?_) fun prepared t ht ↦ ?_
  · rintro exception t ⟨⟨hbroken, -⟩, hencoding⟩
    exact Or.inr ⟨fun hall ↦ hbroken hall.1, hencoding⟩
  · obtain ⟨⟨⟨hprepares, houtcomes⟩, hsession⟩, hencoder⟩ := ht
    have hparameters : t.videoEncoder.parameters = some parameters := by rw [hencoder]
    have hencoding : t.videoEncoder.encoding = u.videoEncoder.encoding := by rw [hencoder]
    cases prepared with
    | false =>
      exact Or.inr ⟨fun hall ↦ Bool.false_ne_true (hprepares.mpr hall.1), hencoding⟩
    | true =>
      have hreset := hmethod t hsession
      rw [houtcomes rfl, hparameters, hencoding] at hreset
      have hiff : reaches (u.outcomes.drop (u.previewCalls + 4)) ↔
          u.Prepares uvcCamera ∧ reaches (u.outcomes.drop (u.previewCalls + 4)) :=
        ⟨fun h ↦ ⟨hprepares.mp rfl, h⟩, fun h ↦ h.2⟩
      have hstart : Resets (fun t' ↦ t' = t) (do
          method
          pure true) _ (some parameters) u.videoEncoder.encoding :=
        Triple.bind (Resets.congr hreset hiff) fun _ ↦ Triple.pure fun _ h ↦ h
      exact hstart t rfl

/-- A whole recording start of an object that streams. -/
theorem resets_recordAttempt {u : Usb} (hstreaming : u.base.streaming = true)
    (parameters : VideoParameters) :
    Resets (fun t ↦ t = u) (startAfter parameters uvcCamera (startRecord uvcCamera))
      (u.RecordResets uvcCamera) (some parameters) u.videoEncoder.encoding := by
  have hmethod : ∀ t : Usb, t.session = u.session →
      Resets (fun t' ↦ t' = t) (startRecord uvcCamera)
        (AllReturn 1 t.outcomes ∧ u.base.videoEncoder.running = true ∧
          AllReturn 2 (t.outcomes.drop 1)) t.videoEncoder.parameters t.videoEncoder.encoding := by
    intro t hsession
    have hon : t.base.streaming = true :=
      (congrArg (fun v ↦ v.base.streaming) hsession).trans hstreaming
    have hrunning : t.base.videoEncoder.running = u.base.videoEncoder.running :=
      congrArg (fun v ↦ v.base.videoEncoder.running) hsession
    rw [← hrunning]
    exact resets_startRecord uvcCamera hon
  have hstart := @resets_startAfter uvcCamera u parameters (startRecord uvcCamera)
    (fun outcomes ↦ AllReturn 1 outcomes ∧ u.base.videoEncoder.running = true ∧
      AllReturn 2 (outcomes.drop 1)) hmethod
  rw [List.drop_drop] at hstart
  exact Resets.congr hstart and_assoc.symm

/-- A whole stream start of an object that records. -/
theorem resets_streamAttempt {u : Usb} (hrecording : u.base.recording = true)
    (parameters : VideoParameters) (url : String) :
    Resets (fun t ↦ t = u) (startAfter parameters uvcCamera (startStream uvcCamera url))
      (u.StreamResets uvcCamera) (some parameters) u.videoEncoder.encoding := by
  refine resets_startAfter uvcCamera (AllReturn 2) fun t hsession ↦ ?_
  have hon : t.base.recording = true :=
    (congrArg (fun v ↦ v.base.recording) hsession).trans hrecording
  exact resets_startStream uvcCamera hon url

end Encoder

/-! ### Steps -/

/-- Only the object in use may encode otherwise than before. -/
theorem ratesKept_putCurrent {live : USBBase → Bool} {s : ServiceState} {u : Usb}
    (hu : s.currentUsb = some u) (u' : Usb) :
    RatesKept live s (s.putCurrent u') ↔ (live u.base = true → u'.base.rates = u.base.rates) := by
  obtain ⟨object, hobject, hheld⟩ := Option.bind_eq_some_iff.mp hu
  obtain ⟨hbase, -⟩ := usb_eq_some hheld
  have hobjects : (s.putCurrent u').objects = s.objects.set object u'.base := by
    simp only [ServiceState.putCurrent, hobject]
  rw [RatesKept, hobjects]
  constructor
  · intro h hlive
    have hat := h object u.base hbase hlive
    rw [List.getElem?_set_self (List.getElem?_eq_some_iff.mp hbase).1] at hat
    exact Option.some.inj hat
  · intro h index base hindex hlive
    by_cases hsame : object = index
    · subst hsame
      obtain rfl := Option.some.inj (hbase.symm.trans hindex)
      rw [List.getElem?_set_self (List.getElem?_eq_some_iff.mp hbase).1, Option.map_some, h hlive]
    · rw [List.getElem?_set_ne hsame, hindex]
      rfl

/-- Where the encoder is reset exactly if something happens, the rates are kept exactly if it does
not happen or the new rates are those there are. -/
theorem rates_eq_iff {happened : Prop} {u u' : Usb} {parameters : VideoParameters}
    (h : ResetIf happened (some parameters) u.videoEncoder.encoding u') :
    u'.base.rates = u.base.rates ↔ (happened → u.base.rates = some parameters.rates) := by
  rcases h with ⟨hhappened, hencoding⟩ | ⟨hnot, hencoding⟩
  · have hrates : u'.base.rates = some parameters.rates := by
      rw [USBBase.rates, hencoding]
      rfl
    rw [hrates]
    exact ⟨fun h _ ↦ h.symm, fun h ↦ (h hhappened).symm⟩
  · have hrates : u'.base.rates = u.base.rates := by
      rw [USBBase.rates, hencoding]
      rfl
    exact iff_of_true hrates fun hhappened ↦ absurd hhappened hnot

/-- How a recording start that is not refused leaves the encoder of a live stream. -/
theorem step_startLocalRecording {s : ServiceState} {u : Usb} {outputPath : String}
    {outcomes : List Outcome}
    (hu : ServiceState.currentUsb { s with devices.outcomes := outcomes } = some u)
    (hasked : ServiceState.CanRecord { s with devices.outcomes := outcomes } outputPath) :
    ∃ u', serviceStep s ⟨.startLocalRecording outputPath, outcomes⟩ =
        ServiceState.putCurrent u' { s with devices.outcomes := outcomes } ∧
      (u.base.streaming = true → ResetIf (u.RecordResets s.service.uvcCamera)
        (some s.service.recordingParameters) u.videoEncoder.encoding u') := by
  let kept : Usb → Prop := fun u' ↦ u.base.streaming = true →
    ResetIf (u.RecordResets s.service.uvcCamera) (some s.service.recordingParameters)
      u.videoEncoder.encoding u'
  have hattempt : Triple (fun t ↦ t = u) (startAfter s.service.recordingParameters
      s.service.uvcCamera (startRecord s.service.uvcCamera)) (fun _ ↦ kept) (fun _ ↦ kept) :=
    .of_after fun t ht hstreaming ↦ (resets_recordAttempt _ hstreaming _).after ht
  obtain ⟨started, t, hrun, u', hexit, rfl⟩ :=
    (triple_startLocalRecording_current hu hasked hattempt).exit rfl
  refine ⟨u', serviceStep_of_ok (bind_of_ok hrun), ?_⟩
  rcases hexit with hkept | ⟨-, -, hkept⟩
  · exact hkept
  · exact hkept

/-- How a stream start that is not refused leaves the encoder of a recording. -/
theorem step_startStreamRtp {s : ServiceState} {u : Usb} {endpoint : String}
    {outcomes : List Outcome}
    (hu : ServiceState.currentUsb { s with devices.outcomes := outcomes } = some u)
    (hidle : u.base.streaming = false) :
    ∃ u', serviceStep s ⟨.startStreamRtp endpoint, outcomes⟩ =
        ServiceState.putCurrent u'
          { s with service.endpoint := some endpoint, devices.outcomes := outcomes } ∧
      (u.base.recording = true → ResetIf (u.StreamResets s.service.uvcCamera)
        (some s.service.streamParameters) u.videoEncoder.encoding u') := by
  let kept : Usb → Prop := fun u' ↦ u.base.recording = true →
    ResetIf (u.StreamResets s.service.uvcCamera) (some s.service.streamParameters)
      u.videoEncoder.encoding u'
  have hattempt : Triple (fun t ↦ t = u) (startAfter s.service.streamParameters
      s.service.uvcCamera (startStream s.service.uvcCamera endpoint)) (fun _ ↦ kept)
      (fun _ ↦ kept) :=
    .of_after fun t ht hrecording ↦ (resets_streamAttempt _ hrecording _ _).after ht
  let left : ServiceState → Prop := fun t ↦ ∃ u', kept u' ∧ t = ServiceState.putCurrent u'
    { s with service.endpoint := some endpoint, devices.outcomes := outcomes }
  have hstart : Triple (fun t ↦ t = { s with devices.outcomes := outcomes })
      (ServiceEvent.startStreamRtp endpoint).method (fun _ ↦ left) (fun _ ↦ left) :=
    (triple_startStreamRtp_current hu hidle hattempt).bind fun _ ↦ Triple.pure fun _ h ↦ h
  obtain ⟨u', hkept, hleft⟩ := Triple.after hstart rfl
  exact ⟨u', hleft, hkept⟩

/-- The step lemma: a start leaves the other output alone exactly where it resets the encoder to the
rates there are, or not at all. -/
theorem outputsKept_iff (s : ServiceState) (serviceCall : ServiceCall) :
    OutputsKept s serviceCall ↔ KeepsEncoding s serviceCall := by
  obtain ⟨event, outcomes⟩ := serviceCall
  cases event with
  | startLocalRecording outputPath =>
    by_cases hasked : ServiceState.CanRecord { s with devices.outcomes := outcomes } outputPath
    · obtain ⟨u, hu⟩ := Option.isSome_iff_exists.mp hasked.1
      obtain ⟨u', hstep, hreset⟩ := step_startLocalRecording hu hasked
      have hkept := @ratesKept_putCurrent USBBase.streaming _ u hu u'
      simp only [OutputsKept, KeepsEncoding, hstep]
      refine hkept.trans ⟨fun h _ u₁ hu₁ hstreaming ↦ ?_, fun h hstreaming ↦ ?_⟩
      · obtain rfl := Option.some.inj (hu.symm.trans hu₁)
        exact (rates_eq_iff (hreset hstreaming)).mp (h hstreaming)
      · exact (rates_eq_iff (hreset hstreaming)).mpr (h hasked u hu hstreaming)
    · have hstep : serviceStep s ⟨.startLocalRecording outputPath, outcomes⟩ =
          { s with devices.outcomes := outcomes } :=
        serviceStep_of_ok (bind_of_ok (startLocalRecording_refused hasked))
      simp only [OutputsKept, KeepsEncoding, hstep]
      refine iff_of_true (fun index object hobject _ ↦ ?_) fun hcan ↦ absurd hcan hasked
      exact congrArg (Option.map USBBase.rates) hobject
  | startStreamRtp endpoint =>
    by_cases hidle : ∃ u ∈ ServiceState.currentUsb { s with devices.outcomes := outcomes },
        u.base.streaming = false
    · obtain ⟨u, hu, hidle⟩ := hidle
      obtain ⟨u', hstep, hreset⟩ := @step_startStreamRtp s u endpoint outcomes hu hidle
      have hkept := @ratesKept_putCurrent USBBase.recording
        { s with service.endpoint := some endpoint, devices.outcomes := outcomes } u hu u'
      simp only [OutputsKept, KeepsEncoding, hstep]
      refine hkept.trans ⟨fun h u₁ hu₁ _ hrecording ↦ ?_, fun h hrecording ↦ ?_⟩
      · obtain rfl := Option.some.inj (hu.symm.trans hu₁)
        exact (rates_eq_iff (hreset hrecording)).mp (h hrecording)
      · exact (rates_eq_iff (hreset hrecording)).mpr (h u hu hidle hrecording)
    · have hrefused := @startStreamRtp_refused endpoint { s with devices.outcomes := outcomes }
        fun u hu hstopped ↦ hidle ⟨u, hu, hstopped⟩
      have hstep : serviceStep s ⟨.startStreamRtp endpoint, outcomes⟩ =
          { s with devices.outcomes := outcomes } := serviceStep_of_ok (bind_of_ok hrefused)
      simp only [OutputsKept, KeepsEncoding, hstep]
      refine iff_of_true (fun index object hobject _ ↦ congrArg (Option.map USBBase.rates) hobject)
        fun u hu hstopped ↦ absurd ⟨u, hu, hstopped⟩ hidle
  | _ => exact Iff.rfl

/-- The two outputs do not change each other's encoding. From any state of the service, with any
sizes, bit rates and crop setting, along any calls and with any outcomes, every recording start
leaves the encoding of a live stream alone, and every stream start that of a recording, if and only
if no start resets the shared encoder to other rates. -/
theorem shared_encoding_iff (s : ServiceState) (calls : List ServiceCall) :
    Meets serviceStep OutputsKept s calls ↔ Meets serviceStep KeepsEncoding s calls :=
  ⟨.mono fun s call ↦ (outputsKept_iff s call).mp, .mono fun s call ↦ (outputsKept_iff s call).mpr⟩

/-- A stream at 30 frames a second and 4000 kbit, and a recording at 60 and 12000. -/
theorem not_outputsKept_recording :
    ¬ Meets serviceStep OutputsKept (ServiceState.initial (some 0) oneCamera)
      [(ServiceEvent.onConnect [⟨640, 480⟩]).plain,
        (ServiceEvent.startStreamRtp "rtmp://host/a").plain,
        (ServiceEvent.startLocalRecording "/storage/clip.mp4").plain] := by
  rintro ⟨-, -, hkept, -⟩
  exact absurd (hkept 0 _ rfl rfl) (by decide)

end UvcRtmpStream.Streaming
