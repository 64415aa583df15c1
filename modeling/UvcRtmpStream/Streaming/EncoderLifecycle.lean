import UvcRtmpStream.Streaming.MuxerProtocol

/-!
# Two outputs, one set of encoders

A stream and a recording share the encoders and the microphone. Each of `startStream`, `stopStream`,
`startRecord` and `stopRecord` looks at the flag of the other output to decide whether to start or
stop them.

What the four do, where they return, is an abstract machine with two flags (`Lifecycle`). Its
invariant is that the encoders run exactly while one of the outputs is on (`Lifecycle.Shared`). An
object follows this machine (`lifecycle_usbStep`), whatever else is called and whatever the encoders
deliver in between.
-/

set_option autoImplicit false
set_option relaxedAutoImplicit false

namespace UvcRtmpStream.Streaming

open UvcRtmpStream.Foundations UvcRtmpStream.Platform UvcRtmpStream.Replay

/-- Which outputs are on, what runs for them, and how the client was told to connect. -/
structure Lifecycle where
  streaming : Bool
  recording : Bool
  videoEncoder : Bool
  audioEncoder : Bool
  microphone : Bool
  connections : List RtmpCall

namespace Lifecycle

/-- The encoders and the microphone are started or stopped. -/
def setRunning (l : Lifecycle) (on : Bool) : Lifecycle :=
  { l with videoEncoder := on, audioEncoder := on, microphone := on }

/-- A stream is started. -/
def startStream (l : Lifecycle) (url : String) : Lifecycle :=
  { if l.recording then l else l.setRunning true with
    streaming := true, connections := l.connections ++ [.connect url] }

/-- The client is disconnected, if it streams. -/
def disconnect (l : Lifecycle) : Lifecycle :=
  if l.streaming then
    { l with streaming := false, connections := l.connections ++ [.disconnect] }
  else l

/-- The stream is stopped. -/
def stopStream (l : Lifecycle) : Lifecycle :=
  if l.recording then l.disconnect else l.disconnect.setRunning false

/-- A recording is started. -/
def startRecord (l : Lifecycle) : Lifecycle :=
  { if l.streaming then l else l.setRunning true with recording := true }

/-- The recording is stopped. -/
def stopRecord (l : Lifecycle) : Lifecycle :=
  if l.streaming then { l with recording := false } else { l with recording := false }.stopStream

/-- What runs, runs exactly while something is streamed or recorded. -/
def Shared (l : Lifecycle) : Prop :=
  l.videoEncoder = (l.streaming || l.recording) ∧ l.audioEncoder = (l.streaming || l.recording) ∧
    l.microphone = (l.streaming || l.recording)

theorem Shared.startStream {l : Lifecycle} (h : l.Shared) (url : String) :
    (l.startStream url).Shared := by
  unfold Lifecycle.startStream
  by_cases hrecording : l.recording = true
  · simp only [Shared, hrecording, Bool.or_true, if_true] at h ⊢
    exact h
  · rw [if_neg hrecording]
    exact ⟨rfl, rfl, rfl⟩

theorem streaming_disconnect (l : Lifecycle) : l.disconnect.streaming = false := by
  unfold disconnect
  by_cases hstreaming : l.streaming = true
  · rw [if_pos hstreaming]
  · rw [if_neg hstreaming]
    exact Bool.eq_false_iff.mpr hstreaming

@[simp] theorem recording_disconnect (l : Lifecycle) : l.disconnect.recording = l.recording := by
  unfold disconnect
  split_ifs <;> rfl

/-- What is stopped is the stream alone, or all there is. -/
theorem Shared.stopStream {l : Lifecycle} (h : l.Shared) : l.stopStream.Shared := by
  unfold Lifecycle.stopStream
  by_cases hrecording : l.recording = true
  · rw [if_pos hrecording]
    have hrunning : l.disconnect.videoEncoder = true ∧ l.disconnect.audioEncoder = true ∧
        l.disconnect.microphone = true := by
      simp only [Shared, hrecording, Bool.or_true] at h
      unfold disconnect
      split_ifs <;> exact h
    simpa [Shared, hrecording] using hrunning
  · rw [if_neg hrecording]
    have hoff : (l.disconnect.streaming || l.disconnect.recording) = false := by
      rw [streaming_disconnect, recording_disconnect, Bool.false_or]
      exact Bool.eq_false_iff.mpr hrecording
    exact ⟨hoff.symm, hoff.symm, hoff.symm⟩

theorem Shared.startRecord {l : Lifecycle} (h : l.Shared) : l.startRecord.Shared := by
  unfold Lifecycle.startRecord
  by_cases hstreaming : l.streaming = true
  · simp only [Shared, hstreaming, Bool.true_or, if_true] at h ⊢
    exact h
  · rw [if_neg hstreaming]
    simp [Shared, setRunning]

theorem Shared.stopRecord {l : Lifecycle} (h : l.Shared) : l.stopRecord.Shared := by
  unfold Lifecycle.stopRecord
  by_cases hstreaming : l.streaming = true
  · simp only [Shared, hstreaming, Bool.true_or, if_true] at h ⊢
    exact h
  · rw [if_neg hstreaming]
    -- The stream is off, so all there is gets stopped.
    have hoff : ({ l with recording := false } : Lifecycle).disconnect =
        { l with recording := false } := if_neg hstreaming
    rw [Lifecycle.stopStream, if_neg Bool.false_ne_true, hoff]
    simp [Shared, setRunning, hstreaming]

end Lifecycle

/-- The lifecycle part of an object. -/
def USBBase.lifecycle (base : USBBase) : Lifecycle where
  streaming := base.streaming
  recording := base.recording
  videoEncoder := base.videoEncoder.running
  audioEncoder := base.audioEncoderRunning
  microphone := base.microphoneRunning
  connections := base.rtmpClient.filter RtmpCall.isConnection

/-- The lifecycle part of the state. -/
def Usb.lifecycle (u : Usb) : Lifecycle := u.base.lifecycle

/-! ### The methods that leave the lifecycle alone -/

section Leave

/-- What leaves the session alone leaves the lifecycle alone. -/
theorem lifecycle_of_session {α : Type} {method : UsbM α} (h : Leaves Usb.session method) :
    Leaves Usb.lifecycle method := by
  refine h.comp Usb.lifecycle fun u ↦ ?_
  simp only [Usb.lifecycle, USBBase.lifecycle, Usb.session, USBBase.session, List.filter_filter,
    Bool.and_self]

theorem lifecycle_call {effect : Usb → Usb}
    (heffect : ∀ u, (effect u).lifecycle = u.lifecycle) : Leaves Usb.lifecycle (call effect) :=
  leaves_call (fun _ _ ↦ rfl) heffect

/-- What leaves the setting alone leaves the lifecycle alone. -/
theorem lifecycle_of_setting {α : Type} {method : UsbM α} (h : Leaves Usb.setting method) :
    Leaves Usb.lifecycle method := by
  refine h.comp Usb.lifecycle fun u ↦ ?_
  simp only [Usb.lifecycle, USBBase.lifecycle, Usb.setting, List.filter_filter, Bool.and_self]

/-- The encoders deliver without starting or stopping anything. -/
theorem lifecycle_callback (encoderCallback : EncoderCallback) :
    Leaves Usb.lifecycle encoderCallback.method :=
  lifecycle_of_setting (setting_callback encoderCallback)

end Leave

/-! ### The four methods -/

section Methods

variable (l : Lifecycle) (uvcCamera : Option ℕ)

/-- A call that changes the lifecycle. -/
theorem gives_call {l : Lifecycle} {effect : Usb → Usb} (change : Lifecycle → Lifecycle)
    (heffect : ∀ u, (effect u).lifecycle = change u.lifecycle) :
    Gives (fun u ↦ u.lifecycle = l) (call effect) fun _ u ↦ u.lifecycle = change l :=
  ((leaves_nextAnswer fun _ _ ↦ rfl).gives l).bind fun _ ↦
    Triple.modify fun u hu ↦ (heffect u).trans (congrArg change hu)

theorem gives_startEncoders :
    Gives (fun u ↦ u.lifecycle = l) (startEncoders uvcCamera) fun _ u ↦
      u.lifecycle = l.setRunning true := by
  refine (gives_call (fun l ↦ { l with videoEncoder := true }) fun _ ↦ rfl).bind fun _ ↦
    (gives_call (fun l ↦ { l with audioEncoder := true }) fun _ ↦ rfl).bind fun _ ↦
    (gives_call (fun l ↦ { l with microphone := true }) fun _ ↦ rfl).bind fun _ ↦
    Leaves.gives (lifecycle_of_session ?_) _
  refine .bind (session_onCamera uvcCamera _) fun _ ↦ .bind (session_onGl _) fun _ ↦
    .bind (session_onGl _) fun _ ↦ .bind (session_onGl _) fun _ ↦ .bind (session_onGl _) fun _ ↦ ?_
  refine .bind (session_onCamera uvcCamera _) fun _ ↦ .bind (session_onCamera uvcCamera _) fun _ ↦
    .bind (session_ask fun _ ↦ rfl) fun _ ↦ .bind (.whenever (session_onGl _)) fun _ ↦ ?_
  exact .modify fun _ ↦ rfl

theorem gives_startStreamRtp (url : String) :
    Gives (fun u ↦ u.lifecycle = l) (startStreamRtp url) fun _ u ↦
      u.lifecycle = { l with connections := l.connections ++ [.connect url] } := by
  refine triple_read fun u _ ↦
    ((lifecycle_of_session (session_onRtmp rfl)).gives l).bind fun _ ↦
    gives_call (fun l ↦ { l with connections := l.connections ++ [.connect url] }) fun u ↦ ?_
  simp [Usb.lifecycle, USBBase.lifecycle, RtmpCall.isConnection]

/-- A stream that is started. -/
theorem gives_startStream (url : String) :
    Gives (fun u ↦ u.lifecycle = l) (startStream uvcCamera url) fun _ u ↦
      u.lifecycle = l.startStream url := by
  refine triple_change (fun l : Lifecycle ↦ { l with streaming := true }) (fun _ ↦ rfl)
    (triple_read fun u hu ↦ ?_)
  have hrecording : u.base.recording = l.recording := congrArg Lifecycle.recording hu
  rw [hrecording, Lifecycle.startStream]
  have hconnect : ∀ l' : Lifecycle, Gives (fun u ↦ u.lifecycle = l')
      (do
        startStreamRtp url
        modify fun u ↦ { u with base.onPreview := true })
      fun _ u ↦ u.lifecycle = { l' with connections := l'.connections ++ [.connect url] } :=
    fun l' ↦ (gives_startStreamRtp l' url).bind fun _ ↦ Triple.modify fun _ hu ↦ hu
  by_cases hbusy : l.recording = true
  · rw [if_neg (by simp [hbusy]), if_pos hbusy]
    exact ((lifecycle_of_session session_resetVideoEncoder).gives _).bind fun _ ↦ hconnect _
  · rw [if_pos (by simp [hbusy]), if_neg hbusy]
    exact (gives_startEncoders _ uvcCamera).bind fun _ ↦ hconnect _

/-- A stream that is stopped. -/
theorem gives_stopStream :
    Gives (fun u ↦ u.lifecycle = l) (stopStream uvcCamera) fun _ u ↦
      u.lifecycle = l.stopStream := by
  refine triple_read fun u hu ↦ ?_
  have hstreaming : u.base.streaming = l.streaming := congrArg Lifecycle.streaming hu
  have hrecording : u.base.recording = l.recording := congrArg Lifecycle.recording hu
  rw [hstreaming, hrecording]
  have hdisconnect : Gives (fun u ↦ u.lifecycle = l)
      (whenever l.streaming do
        modify fun u ↦ { u with base.streaming := false }
        onRtmp .disconnect)
      fun _ u ↦ u.lifecycle = l.disconnect := by
    refine Triple.whenever (fun hon ↦ triple_change (fun l : Lifecycle ↦
      { l with streaming := false }) (fun _ ↦ rfl) ((gives_call (fun l ↦
      { l with connections := l.connections ++ [.disconnect] }) fun u ↦ ?_).mono (fun _ h ↦ h)
      (fun _ u hu ↦ ?_) fun _ _ h ↦ h)) fun hoff u hu ↦ ?_
    · simp [Usb.lifecycle, USBBase.lifecycle, RtmpCall.isConnection]
    · rw [hu, Lifecycle.disconnect, if_pos hon]
    · rw [hu, Lifecycle.disconnect, if_neg (Bool.not_eq_true _ ▸ hoff)]
  refine hdisconnect.bind fun _ ↦ Triple.whenever (fun hidle ↦ ?_) fun hbusy u hu ↦ ?_
  · rw [Bool.not_eq_true'] at hidle
    refine (gives_call (fun l ↦ { l with microphone := false }) fun _ ↦ rfl).bind fun _ ↦
      ((lifecycle_of_session (session_onGl _)).gives _).bind fun _ ↦
      ((lifecycle_of_session (.whenever (.bind (session_onGl _) fun _ ↦
        session_onCamera uvcCamera _))).gives _).bind fun _ ↦
      (gives_call (fun l ↦ { l with videoEncoder := false }) fun _ ↦ rfl).bind fun _ ↦
      (gives_call (fun l ↦ { l with audioEncoder := false }) fun _ ↦ rfl).bind fun _ ↦
      Triple.modify fun u hu ↦ ?_
    rw [Lifecycle.stopStream, if_neg (Bool.not_eq_true _ ▸ hidle)]
    exact hu
  · rw [Bool.not_eq_false'] at hbusy
    rw [hu, Lifecycle.stopStream, if_pos hbusy]

/-- A recording that is started. -/
theorem gives_startRecord :
    Gives (fun u ↦ u.lifecycle = l) (startRecord uvcCamera) fun _ u ↦
      u.lifecycle = l.startRecord := by
  have hcreate : Leaves Usb.lifecycle createMuxer := lifecycle_call fun _ ↦ rfl
  refine (hcreate.gives l).bind fun _ ↦
    triple_change (fun l : Lifecycle ↦ { l with recording := true }) (fun _ ↦ rfl)
      (triple_read fun u hu ↦ ?_)
  have hstreaming : u.base.streaming = l.streaming := congrArg Lifecycle.streaming hu
  rw [hstreaming, Lifecycle.startRecord]
  by_cases hon : l.streaming = true
  · rw [if_neg (by simp [hon]), if_pos hon]
    exact (lifecycle_of_session (.whenever session_resetVideoEncoder)).gives _
  · rw [if_pos (by simp [hon]), if_neg hon]
    exact gives_startEncoders _ uvcCamera

/-- A recording that is stopped. -/
theorem gives_stopRecord :
    Gives (fun u ↦ u.lifecycle = l) (stopRecord uvcCamera) fun _ u ↦
      u.lifecycle = l.stopRecord := by
  refine triple_change (fun l : Lifecycle ↦ { l with recording := false }) (fun _ ↦ rfl)
    (triple_read fun u hu ↦ ?_)
  have hstreaming : u.base.streaming = l.streaming := congrArg Lifecycle.streaming hu
  have hfinish : Leaves Usb.lifecycle (dropMuxer u.base.mediaMuxer.isSome u.base.canRecord) :=
    lifecycle_of_setting (setting_dropMuxer _ _)
  refine (hfinish.gives _).bind fun _ ↦ triple_change id (fun _ ↦ rfl) ?_
  rw [hstreaming, Lifecycle.stopRecord]
  by_cases hon : l.streaming = true
  · rw [if_pos hon]
    exact Triple.whenever (fun hoff ↦ absurd hoff (by simp [hon])) fun _ _ hu ↦ hu
  · rw [if_neg hon]
    exact Triple.whenever (fun _ ↦ gives_stopStream _ uvcCamera) fun hskip ↦
      absurd hskip (by simp [hon])

end Methods

/-! ### Runs -/

/-- What an event does to the lifecycle where its method returns. -/
def UsbEvent.move : UsbEvent → Lifecycle → Lifecycle
  | .startStream _ url, l => l.startStream url
  | .stopStream _, l => l.stopStream
  | .startRecord _, l => l.startRecord
  | .stopRecord _, l => l.stopRecord
  | _, l => l

/-- The method starts or stops an output. -/
def UsbEvent.isLifecycle : UsbEvent → Bool
  | .startStream _ _ => true
  | .stopStream _ => true
  | .startRecord _ => true
  | .stopRecord _ => true
  | _ => false

/-- Where the method starts or stops an output, it returns. -/
def LifecycleReturns (u : Usb) (usbCall : UsbCall) : Prop :=
  usbCall.event.isLifecycle = true →
    Returns usbCall.event.method { u with devices.outcomes := usbCall.outcomes }

instance (u : Usb) (usbCall : UsbCall) : Decidable (LifecycleReturns u usbCall) :=
  inferInstanceAs (Decidable (_ → _))

/-- An object follows the abstract machine. -/
theorem lifecycle_usbStep {u : Usb} {usbCall : UsbCall} (hreturns : LifecycleReturns u usbCall) :
    (usbStep u usbCall).lifecycle = usbCall.event.move u.lifecycle := by
  obtain ⟨event, outcomes⟩ := usbCall
  have hquiet : ∀ {program : UsbM Unit}, Leaves Usb.session program →
      (after program { u with devices.outcomes := outcomes }).lifecycle = u.lifecycle :=
    fun h ↦ (lifecycle_of_session h).after _
  cases event with
  | prepareVideo parameters uvcCamera =>
    exact hquiet ((session_prepareVideo uvcCamera parameters).bind fun _ ↦ .pure _)
  | prepareAudio => exact hquiet (session_prepareAudio.bind fun _ ↦ .pure _)
  | startPreview uvcCamera => exact hquiet (session_startPreview uvcCamera)
  | stopPreview uvcCamera => exact hquiet (session_stopPreview uvcCamera)
  | startStream uvcCamera url => exact (gives_startStream _ uvcCamera url).after rfl (hreturns rfl)
  | stopStream uvcCamera => exact (gives_stopStream _ uvcCamera).after rfl (hreturns rfl)
  | startRecord uvcCamera => exact (gives_startRecord _ uvcCamera).after rfl (hreturns rfl)
  | stopRecord uvcCamera => exact (gives_stopRecord _ uvcCamera).after rfl (hreturns rfl)
  | replaceView openGlView uvcCamera => exact hquiet (session_replaceView uvcCamera openGlView)
  | callback encoderCallback => exact (lifecycle_callback encoderCallback).after _

theorem Lifecycle.Shared.move {l : Lifecycle} (h : l.Shared) (event : UsbEvent) :
    (event.move l).Shared := by
  cases event with
  | startStream uvcCamera url => exact h.startStream url
  | stopStream uvcCamera => exact h.stopStream
  | startRecord uvcCamera => exact h.startRecord
  | stopRecord uvcCamera => exact h.stopRecord
  | _ => exact h

/-- The session without what belongs to the stream. -/
def Usb.withoutStream (u : Usb) : Usb :=
  { u.session with base.streaming := false, base.rtmpClient := [] }

/-- While it records, `stopStream` touches nothing but the stream. -/
theorem withoutStream_stopStream {u : Usb} (hrecording : u.base.recording = true)
    (uvcCamera : Option ℕ) :
    (after (stopStream uvcCamera) u).withoutStream = u.withoutStream := by
  have hkept : Triple (fun s ↦ s = u) (stopStream uvcCamera)
      (fun _ s ↦ s.withoutStream = u.withoutStream)
      (fun _ s ↦ s.withoutStream = u.withoutStream) := by
    have hdisconnect : Leaves Usb.withoutStream (do
        modify fun u ↦ { u with base.streaming := false }
        onRtmp .disconnect) :=
      .bind (.modify fun _ ↦ rfl) fun _ ↦ leaves_call (fun _ _ ↦ rfl) fun _ ↦ rfl
    refine triple_read fun s hs ↦ ((hdisconnect.whenever u.withoutStream).mono
      (fun s hs ↦ congrArg Usb.withoutStream hs) (fun _ _ h ↦ h) fun _ _ h ↦ h).bind fun _ ↦
      Triple.whenever (fun hidle ↦ ?_) fun _ _ h ↦ h
    rw [hs, hrecording] at hidle
    exact absurd hidle (by decide)
  exact hkept.after rfl

/-- Stopping one output leaves the other alone: `stopStream` the recording and what runs for it, and
`stopRecord` the stream and the client's connection. -/
def KeepsOtherOutput (u : Usb) (usbCall : UsbCall) : Prop :=
  match usbCall.event with
  | .stopStream _ => u.base.recording = true →
    (usbStep u usbCall).record = u.record ∧
      (usbStep u usbCall).base.videoFormat = u.base.videoFormat ∧
      (usbStep u usbCall).base.audioFormat = u.base.audioFormat ∧
      (usbStep u usbCall).base.videoEncoder.running = u.base.videoEncoder.running ∧
      (usbStep u usbCall).base.audioEncoderRunning = u.base.audioEncoderRunning ∧
      (usbStep u usbCall).base.microphoneRunning = u.base.microphoneRunning
  | .stopRecord _ => u.base.streaming = true →
    (usbStep u usbCall).base.streaming = true ∧
      (usbStep u usbCall).lifecycle.connections = u.lifecycle.connections
  | _ => True

theorem keepsOtherOutput {u : Usb} {usbCall : UsbCall} (hreturns : LifecycleReturns u usbCall) :
    KeepsOtherOutput u usbCall := by
  have hstep := lifecycle_usbStep hreturns
  obtain ⟨event, outcomes⟩ := usbCall
  cases event with
  | stopStream uvcCamera =>
    intro hrecording
    have hkept := @withoutStream_stopStream { u with devices.outcomes := outcomes } hrecording
      uvcCamera
    have hrecord := congrArg Usb.record hkept
    have hvideoFormat := congrArg (fun u ↦ u.base.videoFormat) hkept
    have haudioFormat := congrArg (fun u ↦ u.base.audioFormat) hkept
    have hvideo := congrArg (fun u ↦ u.base.videoEncoder.running) hkept
    have haudio := congrArg (fun u ↦ u.base.audioEncoderRunning) hkept
    have hmicrophone := congrArg (fun u ↦ u.base.microphoneRunning) hkept
    exact ⟨hrecord, hvideoFormat, haudioFormat, hvideo, haudio, hmicrophone⟩
  | stopRecord uvcCamera =>
    intro hstreaming
    have hmove : (UsbEvent.stopRecord uvcCamera).move u.lifecycle =
        { u.lifecycle with recording := false } := if_pos hstreaming
    rw [hmove] at hstep
    have hconnections := congrArg Lifecycle.connections hstep
    exact ⟨(congrArg Lifecycle.streaming hstep).trans hstreaming, hconnections⟩
  | _ => trivial

/-- Along any calls and callbacks on a new object in which the calls that start or stop an output
return, the encoders and the microphone run exactly while something is streamed or recorded, and
stopping one output leaves the other alone. -/
theorem encoders_shared (glInterface : ℕ) (devices : Devices) (calls : List UsbCall)
    (hreturns : Meets usbStep LifecycleReturns (Usb.initial glInterface devices) calls) :
    Throughout usbStep (fun u ↦ u.lifecycle.Shared) (Usb.initial glInterface devices) calls ∧
      Meets usbStep KeepsOtherOutput (Usb.initial glInterface devices) calls := by
  constructor
  · refine throughout_of_meets (fun u usbCall hshared hcall ↦ ?_) ?_ hreturns
    · rw [lifecycle_usbStep hcall]
      exact hshared.move usbCall.event
    · exact ⟨rfl, rfl, rfl⟩
  · exact hreturns.mono fun _ _ h ↦ keepsOtherOutput h

/-- A stream and a recording that overlap, each stopped while the other is on. -/
theorem encoders_shared_overlapping :
    Throughout usbStep (fun u ↦ u.lifecycle.Shared) (Usb.initial 0 oneCamera)
        [(UsbEvent.startRecord (some 0)).plain,
          (UsbEvent.startStream (some 0) "rtmp://host/a").plain,
          (UsbEvent.stopRecord (some 0)).plain, (UsbEvent.startRecord (some 0)).plain,
          (UsbEvent.stopStream (some 0)).plain, (UsbEvent.stopRecord (some 0)).plain] ∧
      Meets usbStep KeepsOtherOutput (Usb.initial 0 oneCamera)
        [(UsbEvent.startRecord (some 0)).plain,
          (UsbEvent.startStream (some 0) "rtmp://host/a").plain,
          (UsbEvent.stopRecord (some 0)).plain, (UsbEvent.startRecord (some 0)).plain,
          (UsbEvent.stopStream (some 0)).plain, (UsbEvent.stopRecord (some 0)).plain] :=
  encoders_shared 0 oneCamera _ (by decide)

end UvcRtmpStream.Streaming
