import UvcRtmpStream.Streaming.Endpoint

/-!
# A stream start that fails

A `startStreamRtp` that returns `false` is meant to have no effect on the endpoint, which is also
what `isStreaming` is about (`FailureKeepsEndpoint`). It has one exactly where the method has stored
a new endpoint and then cannot prepare the encoders (`PreparesStream`).

While no failure has an effect, none is made up for later: `onConnect` starts a stream only to the
endpoint it finds, and no event but a `startStreamRtp` puts another one there (`NoFailedResume`).
The events after the failure may end with any exception.
-/

set_option autoImplicit false
set_option relaxedAutoImplicit false

namespace UvcRtmpStream.Streaming

open UvcRtmpStream.Foundations UvcRtmpStream.Platform UvcRtmpStream.Replay

/-- `isStreaming` of the service. -/
def StreamService.isStreaming (service : StreamService) : Bool := service.endpoint.isSome

/-- The event is a `startStreamRtp` that returns `false`. -/
def FailsToStart (s : ServiceState) (serviceCall : ServiceCall) (endpoint : String) : Prop :=
  serviceCall.event = .startStreamRtp endpoint ∧
    ∃ t, StreamService.startStreamRtp endpoint { s with devices.outcomes := serviceCall.outcomes } =
      .ok false t

/-- A start that fails leaves the endpoint and `isStreaming` as they were. -/
def FailureKeepsEndpoint (s : ServiceState) (serviceCall : ServiceCall) : Prop :=
  ∀ endpoint, FailsToStart s serviceCall endpoint →
    (serviceStep s serviceCall).service.endpoint = s.service.endpoint ∧
      (serviceStep s serviceCall).service.isStreaming = s.service.isStreaming

/-- A start that is not refused is to the endpoint there is, or preparing the encoders does not
fail. -/
def PreparesStream (s : ServiceState) (serviceCall : ServiceCall) : Prop :=
  ∀ endpoint, serviceCall.event = .startStreamRtp endpoint →
    s.current.any (fun object ↦ !object.streaming) = true →
    s.service.endpoint = some endpoint ∨
      ∀ t, prepareEncoders s.service.streamParameters s.service.uvcCamera
        { s with
          service.endpoint := some endpoint
          devices.outcomes := serviceCall.outcomes } ≠ .ok false t

/-! ### The start -/

/-- `startStreamRtp` returns `false` where it is refused, and where the encoders are not prepared.
-/
theorem startStreamRtp_eq_false_iff {s t : ServiceState} {endpoint : String} :
    StreamService.startStreamRtp endpoint s = .ok false t ↔
      if s.current.any (fun object ↦ !object.streaming) then
        prepareEncoders s.service.streamParameters s.service.uvcCamera
          { s with service.endpoint := some endpoint } = .ok false t
      else s = t := by
  rw [startStreamRtp_run]
  split_ifs with hidle
  · change EStateM.bind _ _ _ = _ ↔ _
    unfold EStateM.bind
    cases prepareEncoders s.service.streamParameters s.service.uvcCamera
        { s with service.endpoint := some endpoint } with
    | error exception t' => simp
    | ok prepared t' =>
      cases prepared with
      | false => exact Iff.rfl
      | true =>
        -- Once it streams it returns `true`, or throws.
        have hany : Triple (fun _ ↦ True) (onRtmpUSB (startStream s.service.uvcCamera endpoint))
            (fun _ _ ↦ True) fun _ _ ↦ True := Triple.of_after fun _ _ ↦ trivial
        have hstarts : Triple (fun _ ↦ True) (do
            onRtmpUSB (startStream s.service.uvcCamera endpoint)
            pure true : ServiceM Bool) (fun started _ ↦ started = true) fun _ _ ↦ True :=
          hany.bind fun _ ↦ Triple.pure fun _ _ ↦ rfl
        refine iff_of_false (fun hok ↦ ?_) (by simp)
        exact Bool.false_ne_true (hstarts.of_ok trivial hok)
  · simp

/-- The step lemma: a start that fails keeps the endpoint exactly where `PreparesStream` says so. -/
theorem failureKeepsEndpoint_iff (s : ServiceState) (serviceCall : ServiceCall) :
    FailureKeepsEndpoint s serviceCall ↔ PreparesStream s serviceCall := by
  obtain ⟨event, outcomes⟩ := serviceCall
  have hafter : ∀ {endpoint t}, event = .startStreamRtp endpoint →
      StreamService.startStreamRtp endpoint { s with devices.outcomes := outcomes } =
        .ok false t → serviceStep s ⟨event, outcomes⟩ = t := by
    rintro endpoint t rfl hfails
    exact serviceStep_of_ok (bind_of_ok hfails)
  have hset : ∀ {endpoint t}, prepareEncoders s.service.streamParameters s.service.uvcCamera
      { s with service.endpoint := some endpoint, devices.outcomes := outcomes } = .ok false t →
        t.service.endpoint = some endpoint := fun hprepared ↦
    (((streams_of_sessions (sessions_prepareEncoders _ _)).comp Streams.endpoint
      fun _ ↦ rfl) _).of_ok rfl hprepared
  constructor
  · rintro hkept endpoint rfl hidle
    by_cases hprepared : ∃ t, prepareEncoders s.service.streamParameters s.service.uvcCamera
        { s with service.endpoint := some endpoint, devices.outcomes := outcomes } = .ok false t
    · obtain ⟨t, hprepared⟩ := hprepared
      have hfails : StreamService.startStreamRtp endpoint { s with devices.outcomes := outcomes } =
          .ok false t := by
        rw [startStreamRtp_eq_false_iff]
        exact (if_pos hidle).symm ▸ hprepared
      obtain ⟨hendpoint, -⟩ := hkept endpoint ⟨rfl, t, hfails⟩
      rw [hafter rfl hfails, hset hprepared] at hendpoint
      exact Or.inl hendpoint.symm
    · exact Or.inr fun t ht ↦ hprepared ⟨t, ht⟩
  · rintro hprepares endpoint ⟨hevent, t, hfails⟩
    have hendpoint : t.service.endpoint = s.service.endpoint := by
      have hcases := startStreamRtp_eq_false_iff.mp hfails
      split_ifs at hcases with hidle
      · rcases hprepares endpoint hevent hidle with hknown | hnever
        · exact (hset hcases).trans hknown.symm
        · exact absurd hcases (hnever t)
      · rw [← hcases]
    rw [hafter hevent hfails]
    exact ⟨hendpoint, congrArg Option.isSome hendpoint⟩

/-! ### Connections to one URL -/

/-- How often a client was told to connect to the URL. -/
def StreamPart.connects (url : String) (part : StreamPart) : ℕ :=
  part.connections.count (.connect url)

/-- How often the clients were told to connect to the URL. -/
def Streams.connects (url : String) (v : Streams) : ℕ := (v.parts.map (StreamPart.connects url)).sum

/-- The URL is not the endpoint, and the clients were told so often to connect to it. -/
def Spared (url : String) (times : ℕ) (s : ServiceState) : Prop :=
  s.service.endpoint ≠ some url ∧ s.streams.connects url = times

section Spare

variable {url : String} {times : ℕ}

theorem connects_stopStream (uvcCamera : Option ℕ) :
    Leaves (fun u ↦ u.stream.connects url) (stopStream uvcCamera) := by
  have hquiet : ∀ {α : Type} {method : UsbM α}, Leaves Usb.stream method →
      Leaves (fun u ↦ u.stream.connects url) method :=
    fun h ↦ h.comp (StreamPart.connects url) fun _ ↦ rfl
  refine .bind .get fun u ↦ .bind (.whenever (.bind (.modify fun _ ↦ rfl) fun _ ↦ ?_)) fun _ ↦
    .whenever ?_
  · refine leaves_call (fun _ _ ↦ rfl) fun u ↦ ?_
    simp [StreamPart.connects, Usb.stream, USBBase.stream, List.filter_cons, RtmpCall.isConnection]
  · refine .bind (hquiet (stream_call fun _ ↦ rfl)) fun _ ↦
      .bind (hquiet (stream_of_session (session_onGl _))) fun _ ↦
      .bind (hquiet (stream_of_session (.whenever (.bind (session_onGl _) fun _ ↦
        session_onCamera uvcCamera _)))) fun _ ↦ ?_
    exact .bind (hquiet (stream_call fun _ ↦ rfl)) fun _ ↦
      .bind (hquiet (stream_call fun _ ↦ rfl)) fun _ ↦ .modify fun _ ↦ rfl

/-- A stream that is started to another URL. -/
theorem connects_startStream {other : String} (hother : other ≠ url) (uvcCamera : Option ℕ) :
    Leaves (fun u ↦ u.stream.connects url) (startStream uvcCamera other) := by
  have hquiet : ∀ {α : Type} {method : UsbM α}, Leaves Usb.stream method →
      Leaves (fun u ↦ u.stream.connects url) method :=
    fun h ↦ h.comp (StreamPart.connects url) fun _ ↦ rfl
  have hconnect : Leaves (fun u ↦ u.stream.connects url) (onRtmp (.connect other)) := by
    refine leaves_call (fun _ _ ↦ rfl) fun u ↦ ?_
    simp [StreamPart.connects, Usb.stream, USBBase.stream, List.filter_cons, RtmpCall.isConnection,
      hother]
  refine .bind (.modify fun _ ↦ rfl) fun _ ↦ .bind .get fun u ↦
    .bind (.ite (hquiet (stream_startEncoders uvcCamera))
      (hquiet (stream_of_session session_resetVideoEncoder))) fun _ ↦ ?_
  exact .bind (.bind .get fun u ↦ .bind (hquiet (stream_of_session (session_onRtmp rfl))) fun _ ↦
    hconnect) fun _ ↦ .modify fun _ ↦ rfl

theorem spared_of_streams {α : Type} {method : ServiceM α}
    (h : Leaves ServiceState.streams method) : Keeps (Spared url times) method :=
  h.keeps fun v ↦ v.endpoint ≠ some url ∧ v.connects url = times

theorem spared_of_sessions {α : Type} {method : ServiceM α}
    (h : Leaves ServiceState.sessions method) : Keeps (Spared url times) method :=
  spared_of_streams (streams_of_sessions h)

/-- A method of the object in use that makes no connection to the URL. -/
theorem spared_onRtmpUSB {α : Type} {method : UsbM α}
    (h : Leaves (fun u ↦ u.stream.connects url) method) :
    Keeps (Spared url times) (onRtmpUSB method) := by
  have hobject : ∀ object, Leaves (fun s : ServiceState ↦ (s.service.endpoint,
      s.streams.connects url)) (onObject object method) := by
    refine fun object ↦ h.zoom fun s u u' hu hsame ↦ ?_
    obtain ⟨hbase, -⟩ := usb_eq_some hu
    have hpart : (s.streams.parts.map (StreamPart.connects url))[object]? =
        some (u.stream.connects url) := by
      rw [List.getElem?_map, ServiceState.streams, List.getElem?_map, hbase]
      rfl
    obtain ⟨hlt, hget⟩ := List.getElem?_eq_some_iff.mp hpart
    have hset : (s.streams.parts.map (StreamPart.connects url)).set object
        (u'.stream.connects url) = s.streams.parts.map (StreamPart.connects url) := by
      rw [hsame, ← hget, List.set_getElem_self]
    rw [streams_set, Streams.connects, List.map_set, hset]
    rfl
  refine triple_read fun s hs ↦ ?_
  cases s.service.rtmpUSB with
  | none => exact Triple.throw fun _ h ↦ h
  | some object =>
    exact (hobject object).keeps fun v ↦ v.1 ≠ some url ∧ v.2 = times

theorem spared_stopStream (force : Bool) :
    Keeps (Spared url times) (StreamService.stopStream force) := by
  have hstop : Keeps (Spared url times) (do
      let s ← get
      whenever (s.current.any USBBase.streaming)
        (onRtmpUSB (stopStream s.service.uvcCamera))) :=
    triple_read fun s _ ↦ Triple.whenever (fun _ ↦ spared_onRtmpUSB (connects_stopStream _))
      fun _ _ h ↦ h
  refine Triple.bind (Triple.whenever (fun _ ↦ Triple.modify fun s h ↦ ?_) fun _ _ h ↦ h)
    fun _ ↦ hstop
  exact ⟨(Option.some_ne_none url).symm, h.2⟩

/-- A stream that is started, or not, to another URL. -/
theorem spared_startStreamRtp {other : String} (hother : other ≠ url) :
    Keeps (Spared url times) (StreamService.startStreamRtp other) := by
  refine triple_read fun s _ ↦ ?_
  by_cases hidle : s.current.any (fun object ↦ !object.streaming) = true
  · rw [if_pos hidle]
    have hset : ∀ t, Spared url times t →
        Spared url times { t with service.endpoint := some other } :=
      fun t h ↦ ⟨fun hsame ↦ hother (Option.some.inj hsame), h.2⟩
    refine triple_update hset (Triple.bind (spared_of_sessions (sessions_prepareEncoders _ _))
      fun prepared ↦ ?_)
    cases prepared with
    | false => exact Triple.pure fun _ h ↦ h
    | true =>
      exact Triple.bind (spared_onRtmpUSB (connects_startStream hother _)) fun _ ↦
        Triple.pure fun _ h ↦ h
  · rw [if_neg hidle]
    exact Triple.pure fun _ h ↦ h

/-- A new object has made no connection. -/
theorem spared_newRtmpUSB : Keeps (Spared url times) newRtmpUSB := by
  have hinit : ∀ glInterface : ℕ, Leaves ServiceState.sessions (onDevices fun devices ↦
      { devices with interfaces := devices.interfaces.modify glInterface fun gl ↦
          { gl with initialized := true } }) := fun _ ↦ sessions_onDevices fun _ ↦ rfl
  refine Triple.bind (spared_of_sessions sessions_newGlInterface) fun glInterface ↦
    Triple.bind (spared_of_sessions (hinit glInterface)) fun _ ↦ triple_read fun s _ ↦
    triple_update (fun t h ↦ ⟨h.1, ?_⟩) (Triple.pure fun _ h ↦ h)
  rw [← h.2]
  simp [Streams.connects, ServiceState.streams, StreamPart.connects, USBBase.new, USBBase.stream]

theorem spared_onConnect (supportedSizes : List CameraSize) :
    Keeps (Spared url times) (StreamService.onConnect supportedSizes) := by
  have hprepare : Keeps (Spared url times) StreamService.prepareStreamRtp :=
    (spared_stopStream false).bind fun _ ↦ (spared_of_sessions sessions_stopPreview).bind fun _ ↦
      spared_newRtmpUSB.bind fun object ↦ Triple.modify fun _ h ↦ h
  have huse : ∀ camera, Keeps (Spared url times) (useCamera camera) := fun camera ↦
    triple_update (fun _ h ↦ h) (hprepare.bind fun _ ↦
      spared_of_sessions (sessions_onRtmpUSB (session_startPreview (some camera))))
  have hconnect : Keeps (Spared url times) (connectCamera supportedSizes) :=
    triple_read fun s _ ↦
      Triple.bind (spared_of_sessions (sessions_openNewCamera _ supportedSizes)) fun usable ↦
      Triple.bind (Triple.whenever (fun _ ↦ huse _) fun _ _ h ↦ h) fun _ ↦ Triple.pure fun _ h ↦ h
  have hresume : Keeps (Spared url times) resumeStream := by
    refine triple_read fun s hs ↦ ?_
    cases hendpoint : s.service.endpoint with
    | none => exact Triple.pure fun _ h ↦ h
    | some endpoint =>
      have hother : endpoint ≠ url := fun hsame ↦ hs.1 (hendpoint.trans (congrArg some hsame))
      exact (spared_startStreamRtp hother).bind fun _ ↦ Triple.pure fun _ h ↦ h
  rw [onConnect_eq]
  exact hconnect.bind fun usable ↦ Triple.whenever (fun _ ↦ hresume) fun _ _ h ↦ h

end Spare

/-- Only a `startStreamRtp` makes the URL the endpoint, and only with it as the endpoint is a client
told to connect to it. -/
theorem spared_serviceStep {url : String} {times : ℕ} {s : ServiceState} {serviceCall : ServiceCall}
    (h : Spared url times s) (hevent : serviceCall.event ≠ .startStreamRtp url) :
    Spared url times (serviceStep s serviceCall) := by
  obtain ⟨event, outcomes⟩ := serviceCall
  have hkeeps : ∀ {method : ServiceM Unit}, Keeps (Spared url times) method →
      Spared url times (after method { s with devices.outcomes := outcomes }) :=
    fun hmethod ↦ hmethod.after h
  cases event with
  | onConnect supportedSizes => exact hkeeps (spared_onConnect supportedSizes)
  | onDisconnect => exact hkeeps (spared_stopStream false)
  | onDettach => exact hkeeps (spared_stopStream false)
  | startStreamRtp endpoint =>
    have hother : endpoint ≠ url := fun hsame ↦ hevent (congrArg ServiceEvent.startStreamRtp hsame)
    exact hkeeps ((spared_startStreamRtp hother).bind fun _ ↦ Triple.pure fun _ h ↦ h)
  | stopStream force => exact hkeeps (spared_stopStream force)
  | startLocalRecording outputPath =>
    exact hkeeps (spared_of_streams ((streams_startLocalRecording outputPath).bind fun _ ↦ .pure _))
  | stopLocalRecording => exact hkeeps (spared_of_streams streams_stopLocalRecording)
  | setVerticalCropEnabled enabled => exact hkeeps (spared_of_streams (.modify fun _ ↦ rfl))
  | setView view =>
    exact hkeeps (spared_of_streams (.bind (.modify fun _ ↦ rfl) fun _ ↦ .bind .get fun s ↦
      streams_of_sessions (sessions_withRtmpUSB (session_replaceView s.service.uvcCamera view))))
  | startPreview => exact hkeeps (spared_of_sessions sessions_startPreview)
  | stopPreview => exact hkeeps (spared_of_sessions sessions_stopPreview)
  | onDestroy =>
    exact hkeeps ((spared_stopStream false).bind fun _ ↦
      (spared_of_streams streams_stopLocalRecording).bind fun _ ↦
      (spared_of_sessions (sessions_onDevices fun _ ↦ rfl)).bind fun _ ↦
      spared_of_sessions sessions_destroyCamera)
  | callback object encoderCallback =>
    exact hkeeps (spared_of_streams
      (streams_onObject (stream_of_lifecycle (lifecycle_callback encoderCallback)) object))

/-! ### Runs -/

/-- Until it is asked for again, no `onConnect` starts a stream to an endpoint whose start failed,
unless it was the endpoint before. -/
def NoFailedResume (s : ServiceState) (calls : List ServiceCall) : Prop :=
  ∀ before failed between connect rest endpoint supportedSizes,
    calls = before ++ failed :: (between ++ connect :: rest) →
    FailsToStart (run serviceStep s before) failed endpoint →
    (run serviceStep s before).service.endpoint ≠ some endpoint →
    (∀ later ∈ between, ServiceCall.event later ≠ .startStreamRtp endpoint) →
    ServiceCall.event connect = .onConnect supportedSizes →
    (run serviceStep s (before ++ failed :: (between ++ [connect]))).streams.connects endpoint =
      (run serviceStep s (before ++ failed :: between)).streams.connects endpoint

/-- Along any calls of the service, USB events and callbacks on a new service, with any outcomes, a
start that fails keeps the endpoint exactly where every start is refused, is to the endpoint there
is, or can prepare the encoders; and then no later `onConnect` starts a stream to an endpoint whose
start failed. -/
theorem failed_start_iff (openGlView : Option ℕ) (devices : Devices) (calls : List ServiceCall) :
    (Meets serviceStep FailureKeepsEndpoint (ServiceState.initial openGlView devices) calls ↔
      Meets serviceStep PreparesStream (ServiceState.initial openGlView devices) calls) ∧
    (Meets serviceStep PreparesStream (ServiceState.initial openGlView devices) calls →
      NoFailedResume (ServiceState.initial openGlView devices) calls) := by
  refine ⟨⟨.mono fun s call ↦ (failureKeepsEndpoint_iff s call).mp,
    .mono fun s call ↦ (failureKeepsEndpoint_iff s call).mpr⟩, ?_⟩
  rintro hprepares before failed between connect rest endpoint supportedSizes rfl hfails hother
    hbetween hconnect
  obtain ⟨-, hfailed, -⟩ := meets_append.mp hprepares
  generalize ServiceState.initial openGlView devices = s at *
  obtain ⟨hkept, -⟩ := (failureKeepsEndpoint_iff _ _).mpr hfailed endpoint hfails
  have hspared : Spared endpoint _ (serviceStep (run serviceStep s before) failed) :=
    ⟨fun hsame ↦ hother (hkept.symm.trans hsame), rfl⟩
  have hlater := inv_run (fun t call h hcall ↦ spared_serviceStep h hcall) hspared
    (meets_of_mem hbetween)
  have hlast := @spared_serviceStep _ _ _ connect hlater (by simp [hconnect])
  rw [run_append, run_append, run_cons, run_cons, run_append]
  exact hlast.2.trans hlater.2.symm

/-- A `startStreamRtp` for which the video encoder cannot be prepared: the preview is stopped, and
`prepareVideoEncoder` returns `false`. -/
def unpreparedStart : ServiceCall :=
  ⟨.startStreamRtp "rtmp://host/a", [.returns true, .returns true, .returns false]⟩

/-- It returns `false`, and the service counts as streaming. -/
theorem not_failureKeepsEndpoint_unprepared :
    ¬ Meets serviceStep FailureKeepsEndpoint (ServiceState.initial (some 0) oneCamera)
      [(ServiceEvent.onConnect [⟨640, 480⟩]).plain, unpreparedStart] := by
  rintro ⟨-, hkept, -⟩
  have hfails : FailsToStart (serviceStep (ServiceState.initial (some 0) oneCamera)
      (ServiceEvent.onConnect [⟨640, 480⟩]).plain) unpreparedStart "rtmp://host/a" :=
    ⟨rfl, _, rfl⟩
  exact absurd (hkept "rtmp://host/a" hfails).2 (by decide)

end UvcRtmpStream.Streaming
