import UvcRtmpStream.Streaming.StreamService
import UvcRtmpStream.Streaming.USBBaseSpec

/-!
# What the methods of the service touch

The recordings of the service are a part of its state (`Recordings`): the object in use, the flags
and the muxer of every object, and all muxers. Few events touch them: `startLocalRecording` and
`stopLocalRecording` move the recording of the object in use, a callback that of its object, and
`onConnect` puts a new object into use. The other methods leave them alone on every exit.
-/

set_option autoImplicit false
set_option relaxedAutoImplicit false

namespace UvcRtmpStream.Streaming

open UvcRtmpStream.Foundations UvcRtmpStream.Platform UvcRtmpStream.Replay

/-- The recording of one object. -/
structure RecordPart where
  recording : Bool
  canRecord : Bool
  mediaMuxer : Option ℕ

/-- The recording of an object. -/
def USBBase.part (base : USBBase) : RecordPart := ⟨base.recording, base.canRecord, base.mediaMuxer⟩

/-- The object's part of its recording, without the muxers. -/
def RecordView.part (v : RecordView) : RecordPart := ⟨v.recording, v.canRecord, v.mediaMuxer⟩

/-- The recordings of all objects. -/
structure Recordings where
  rtmpUSB : Option ℕ
  parts : List RecordPart
  muxers : List MediaMuxer

/-- The recordings part of the state. -/
def ServiceState.recordings (s : ServiceState) : Recordings :=
  ⟨s.service.rtmpUSB, s.objects.map USBBase.part, s.devices.muxers⟩

namespace Recordings

/-- The recording of the object in use. -/
def current (r : Recordings) : Option RecordPart := r.rtmpUSB.bind (r.parts[·]?)

/-- The recording of an object becomes another one. -/
def put (r : Recordings) (object : ℕ) (v : RecordView) : Recordings :=
  { r with parts := r.parts.set object v.part, muxers := v.muxers }

/-- A new object is in use. -/
def renew (r : Recordings) : Recordings :=
  { r with rtmpUSB := some r.parts.length, parts := r.parts ++ [⟨false, false, none⟩] }

end Recordings

/-- The recording of an object makes a move. -/
def ObjectMove (move : RecordView → RecordView → Prop) (object : ℕ) (r r' : Recordings) : Prop :=
  ∃ v w, r.parts[object]? = some v.part ∧ r.muxers = v.muxers ∧ move v w ∧ r' = r.put object w

/-- What an object's methods see of the recordings. -/
theorem recordings_usb {s : ServiceState} {object : ℕ} {u : Usb} (hu : s.usb object = some u) :
    s.recordings.parts[object]? = some u.record.part ∧ s.recordings.muxers = u.record.muxers := by
  obtain ⟨base, hbase, rfl⟩ := Option.map_eq_some_iff.mp hu
  refine ⟨?_, rfl⟩
  rw [ServiceState.recordings, List.getElem?_map, hbase]
  rfl

/-- What becomes of the recordings when an object is put back. -/
theorem recordings_put (s : ServiceState) (object : ℕ) (u : Usb) :
    ServiceState.recordings
        { s with objects := s.objects.set object u.base, devices := u.devices } =
      s.recordings.put object u.record := by
  simp only [ServiceState.recordings, Recordings.put, List.map_set]
  rfl

theorem current_recordings (s : ServiceState) :
    s.recordings.current = s.current.map USBBase.part := by
  rw [Recordings.current, ServiceState.current, ServiceState.recordings]
  cases s.service.rtmpUSB with
  | none => rfl
  | some object => exact List.getElem?_map

/-- Putting back what is there changes nothing. -/
theorem Recordings.put_self {r : Recordings} {object : ℕ} {v : RecordView}
    (hpart : r.parts[object]? = some v.part) (hmuxers : r.muxers = v.muxers) :
    r.put object v = r := by
  obtain ⟨hobject, hget⟩ := List.getElem?_eq_some_iff.mp hpart
  have hset : r.parts.set object v.part = r.parts := by
    rw [← hget]
    exact List.set_getElem_self hobject
  simp only [Recordings.put, hset, ← hmuxers]

/-! ### The methods that leave the sessions alone -/

/-- The service without the sizes it chose. -/
def StreamService.session (service : StreamService) : StreamService :=
  { service with cameraSize := ⟨0, 0⟩, streamSize := ⟨0, 0⟩, recordingSize := ⟨0, 0⟩ }

/-- The sessions of all objects, with the service's own fields. -/
def ServiceState.sessions (s : ServiceState) : ServiceState :=
  ⟨s.service.session, s.objects.map USBBase.session, s.devices.session⟩

/-- The service's view of an object. -/
theorem usb_eq_some {s : ServiceState} {object : ℕ} {u : Usb} (hu : s.usb object = some u) :
    s.objects[object]? = some u.base ∧ s.devices = u.devices := by
  obtain ⟨base, hbase, rfl⟩ := Option.map_eq_some_iff.mp hu
  exact ⟨hbase, rfl⟩

/-- Putting back an object whose session is the same changes no session. -/
theorem sessions_put {s : ServiceState} {object : ℕ} {u u' : Usb} (hu : s.usb object = some u)
    (hsame : u'.session = u.session) :
    ServiceState.sessions
        { s with objects := s.objects.set object u'.base, devices := u'.devices } =
      s.sessions := by
  obtain ⟨hbase, hdevices⟩ := usb_eq_some hu
  have hobject : u'.base.session = u.base.session := congrArg Usb.base hsame
  have hshared : u'.devices.session = u.devices.session := congrArg Usb.devices hsame
  obtain ⟨hlt, hget⟩ := List.getElem?_eq_some_iff.mp hbase
  have hset : (s.objects.map USBBase.session).set object u.base.session =
      s.objects.map USBBase.session := by
    refine List.ext_getElem (List.length_set ..) fun index hleft hright ↦ ?_
    by_cases hindex : object = index
    · subst hindex
      rw [List.getElem_set_self, List.getElem_map, hget]
    · rw [List.getElem_set_ne hindex]
  simp only [ServiceState.sessions, List.map_set, hobject, hset, hshared, hdevices]

section Sessions

variable {α : Type} {method : UsbM α}

theorem sessions_onObject (h : Leaves Usb.session method) (object : ℕ) :
    Leaves ServiceState.sessions (onObject object method) :=
  h.zoom fun _ _ _ hu hsame ↦ sessions_put hu hsame

theorem sessions_onRtmpUSB (h : Leaves Usb.session method) :
    Leaves ServiceState.sessions (onRtmpUSB method) := by
  refine .bind .get fun s ↦ ?_
  cases s.service.rtmpUSB with
  | none => exact .throw _
  | some object => exact sessions_onObject h object

theorem sessions_withRtmpUSB {method : UsbM Unit} (h : Leaves Usb.session method) :
    Leaves ServiceState.sessions (withRtmpUSB method) :=
  .bind .get fun _ ↦ .whenever (sessions_onRtmpUSB h)

theorem sessions_onDevices {effect : Devices → Devices}
    (heffect : ∀ devices, (effect devices).session = devices.session) :
    Leaves ServiceState.sessions (onDevices effect) := by
  have hinner : Leaves Devices.session (do
      let _ ← answer
      modify effect : EStateM JavaException Devices Unit) :=
    (leaves_answer fun _ _ ↦ rfl).bind fun _ ↦ .modify heffect
  refine hinner.zoom fun s devices devices' hdevices hsame ↦ ?_
  obtain rfl := Option.some.inj hdevices
  simp only [ServiceState.sessions, hsame]

theorem sessions_stopPreview : Leaves ServiceState.sessions StreamService.stopPreview :=
  .bind .get fun s ↦ .whenever (sessions_onRtmpUSB (session_stopPreview s.service.uvcCamera))

theorem sessions_startPreview : Leaves ServiceState.sessions StreamService.startPreview :=
  .bind .get fun s ↦ sessions_withRtmpUSB (session_startPreview s.service.uvcCamera)

theorem sessions_prepareEncoders (parameters : VideoParameters) (uvcCamera : Option ℕ) :
    Leaves ServiceState.sessions (prepareEncoders parameters uvcCamera) :=
  .bind (sessions_onRtmpUSB (session_prepareVideo uvcCamera parameters)) fun _ ↦
    .ite (sessions_onRtmpUSB session_prepareAudio) (.pure _)

theorem sessions_onUvcCamera (camera : ℕ) (effect : UVCCamera → UVCCamera) :
    Leaves ServiceState.sessions (onUvcCamera camera effect) :=
  sessions_onDevices fun _ ↦ rfl

theorem sessions_openUvcCamera (camera : ℕ) :
    Leaves ServiceState.sessions (openUvcCamera camera) :=
  .bind (sessions_onUvcCamera camera _) fun _ ↦ sessions_onUvcCamera camera id

theorem sessions_setPreviewSize (camera : ℕ) (size : CameraSize) :
    Leaves ServiceState.sessions (setPreviewSize camera size) :=
  .bind .get fun _ ↦ .ite (.throw _) (.whenever (sessions_onUvcCamera camera id))

theorem sessions_choosePreviewSize (camera : ℕ) (supportedSizes : List CameraSize) :
    Leaves ServiceState.sessions (choosePreviewSize camera supportedSizes) := by
  refine .tryCatch ?_ fun exception ↦ .ite ?_ (.throw _)
  · cases largestSize supportedSizes with
    | none => exact .throw _
    | some size =>
      exact .bind (.modify fun _ ↦ rfl) fun _ ↦ .bind (sessions_setPreviewSize camera size)
        fun _ ↦ .pure _
  · refine .bind (sessions_onUvcCamera camera _) fun _ ↦ .bind .get fun s ↦ .tryCatch ?_
      fun exception ↦ .ite (.pure _) (.throw _)
    exact .bind (sessions_setPreviewSize camera _) fun _ ↦ .pure _

theorem sessions_destroyCamera : Leaves ServiceState.sessions destroyCamera := by
  refine .bind .get fun s ↦ ?_
  cases s.service.uvcCamera with
  | none => exact .pure ()
  | some camera => exact sessions_onUvcCamera camera UVCCamera.destroy

theorem sessions_newGlInterface : Leaves ServiceState.sessions newGlInterface := by
  refine .bind .get fun s ↦ ?_
  cases s.service.openGlView with
  | some view => exact .pure view
  | none => exact .bind (sessions_onDevices fun _ ↦ rfl) fun _ ↦ .pure _

end Sessions

/-! ### The parts of `startStreamRtp` and `onConnect` -/

/-- What `startStreamRtp` prepares the video encoder with. -/
def StreamService.streamParameters (service : StreamService) : VideoParameters where
  width := if service.verticalCropEnabled then 720 else service.streamSize.width
  height := if service.verticalCropEnabled then 1280 else service.streamSize.height
  fps := if service.verticalCropEnabled then 60 else 30
  bitRate := service.streamBitrateKbps * 1024
  rotation := 0
  iFrameInterval := 2

/-- A camera is opened and its preview size chosen. -/
def openNewCamera (camera : ℕ) (supportedSizes : List CameraSize) : ServiceM Bool := do
  onDevices fun devices ↦ { devices with cameras := devices.cameras ++ [UVCCamera.new] }
  openUvcCamera camera
  choosePreviewSize camera supportedSizes

/-- The camera is stored, and previewed on a new `RtmpUSB`. -/
def useCamera (camera : ℕ) : ServiceM Unit := do
  modify fun s ↦ { s with service.uvcCamera := some camera }
  StreamService.prepareStreamRtp
  onRtmpUSB (Streaming.startPreview (some camera))

/-- `endpoint?.let { startStreamRtp(it) }`. -/
def resumeStream : ServiceM Unit := do
  let s ← get
  match s.service.endpoint with
  | none => pure ()
  | some endpoint => do
    let _ ← StreamService.startStreamRtp endpoint

/-- `onConnect` without the resumption of the stream. Whether the camera is used. -/
def connectCamera (supportedSizes : List CameraSize) : ServiceM Bool := do
  let s ← get
  let usable ← openNewCamera s.devices.cameras.length supportedSizes
  whenever usable (useCamera s.devices.cameras.length)
  pure usable

theorem onConnect_eq (supportedSizes : List CameraSize) :
    StreamService.onConnect supportedSizes = (do
      let usable ← connectCamera supportedSizes
      whenever usable resumeStream) := by
  simp only [StreamService.onConnect, connectCamera, openNewCamera, useCamera, bind_assoc,
    pure_bind]
  refine bind_congr fun s ↦ bind_congr fun _ ↦ bind_congr fun _ ↦ bind_congr fun usable ↦ ?_
  cases usable with
  | false => rfl
  | true =>
    simp only [whenever, if_true, bind_assoc]
    rfl

theorem sessions_openNewCamera (camera : ℕ) (supportedSizes : List CameraSize) :
    Leaves ServiceState.sessions (openNewCamera camera supportedSizes) :=
  .bind (sessions_onDevices fun _ ↦ rfl) fun _ ↦ .bind (sessions_openUvcCamera camera) fun _ ↦
    sessions_choosePreviewSize camera supportedSizes

/-- The state after a method that returns. -/
theorem serviceStep_of_ok {s t : ServiceState} {event : ServiceEvent} {outcomes : List Outcome}
    (hrun : event.method { s with devices.outcomes := outcomes } = .ok () t) :
    serviceStep s ⟨event, outcomes⟩ = t := by
  rw [serviceStep, after, hrun]

/-- `startStreamRtp` stores the endpoint and starts, unless the object in use streams. -/
theorem startStreamRtp_run (endpoint : String) (s : ServiceState) :
    StreamService.startStreamRtp endpoint s =
      if s.current.any (fun object ↦ !object.streaming) then
        (do
          let prepared ← prepareEncoders s.service.streamParameters s.service.uvcCamera
          if prepared then do
            onRtmpUSB (startStream s.service.uvcCamera endpoint)
            pure true
          else pure false) { s with service.endpoint := some endpoint }
      else .ok false s := by
  change (if s.current.any (fun object ↦ !object.streaming) then _ else
    pure false : ServiceM Bool) s = _
  by_cases hidle : s.current.any (fun object ↦ !object.streaming) = true
  · rw [if_pos hidle, if_pos hidle]
    rfl
  · rw [if_neg hidle, if_neg hidle]
    rfl

/-! ### Methods and the recordings -/

/-- What leaves the sessions alone leaves the recordings alone. -/
theorem recordings_of_sessions {α : Type} {method : ServiceM α}
    (h : Leaves ServiceState.sessions method) : Leaves ServiceState.recordings method := by
  refine h.comp ServiceState.recordings fun s ↦ ?_
  simp only [ServiceState.recordings, ServiceState.sessions, List.map_map]
  rfl

section Objects

variable {α : Type} {method : UsbM α}

theorem recordings_onObject (h : Leaves Usb.record method) (object : ℕ) :
    Leaves ServiceState.recordings (onObject object method) := by
  refine h.zoom fun s u u' hu hsame ↦ ?_
  obtain ⟨hpart, hmuxers⟩ := recordings_usb hu
  rw [recordings_put, hsame, Recordings.put_self hpart hmuxers]

theorem recordings_onRtmpUSB (h : Leaves Usb.record method) :
    Leaves ServiceState.recordings (onRtmpUSB method) := by
  refine .bind .get fun s ↦ ?_
  cases s.service.rtmpUSB with
  | none => exact .throw _
  | some object => exact recordings_onObject h object

/-- A method that moves the recording of its object. -/
theorem triple_onObject {move thrown : RecordView → RecordView → Prop}
    (h : ∀ v, Triple (fun u ↦ u.record = v) method (fun _ u ↦ move v u.record)
      (fun _ u ↦ thrown v u.record)) (object : ℕ) (r : Recordings) :
    Triple (fun s ↦ s.recordings = r) (onObject object method)
      (fun _ s ↦ ObjectMove move object r s.recordings)
      (fun _ s ↦ r.parts[object]? = none ∧ s.recordings = r ∨
        ObjectMove thrown object r s.recordings) := by
  refine triple_zoom (fun s hs hnone ↦ Or.inl ⟨?_, hs⟩) fun s u hs hu ↦ ?_
  · rw [ServiceState.usb, Option.map_eq_none_iff] at hnone
    rw [← hs, ServiceState.recordings, List.getElem?_map, hnone]
    rfl
  obtain ⟨hpart, hmuxers⟩ := recordings_usb hu
  rw [hs] at hpart hmuxers
  have hmove : ∀ {move : RecordView → RecordView → Prop} {u' : Usb}, move u.record u'.record →
      ObjectMove move object r (ServiceState.recordings
        { s with objects := s.objects.set object u'.base, devices := u'.devices }) := by
    intro move u' h
    refine ⟨u.record, u'.record, hpart, hmuxers, h, ?_⟩
    rw [recordings_put, hs]
  exact ((h u.record).of_state rfl).mono (fun _ h ↦ h) (fun _ _ h ↦ hmove h)
    fun _ _ h ↦ Or.inr (hmove h)

end Objects

/-! ### The methods that leave the recordings alone -/

theorem recordings_stopStream (force : Bool) :
    Leaves ServiceState.recordings (StreamService.stopStream force) :=
  .bind (.whenever (.modify fun _ ↦ rfl)) fun _ ↦ .bind .get fun s ↦
    .whenever (recordings_onRtmpUSB (record_stopStream s.service.uvcCamera))

theorem recordings_startStreamRtp (endpoint : String) :
    Leaves ServiceState.recordings (StreamService.startStreamRtp endpoint) := by
  refine .bind .get fun s ↦ .ite (.bind (.modify fun _ ↦ rfl) fun _ ↦ ?_) (.pure _)
  refine .bind (recordings_of_sessions (sessions_prepareEncoders _ _)) fun _ ↦ .ite ?_ (.pure _)
  exact .bind (recordings_onRtmpUSB (record_startStream _ endpoint)) fun _ ↦ .pure _

theorem recordings_setView (view : Option ℕ) :
    Leaves ServiceState.recordings (StreamService.setView view) :=
  .bind (.modify fun _ ↦ rfl) fun _ ↦ .bind .get fun s ↦
    recordings_of_sessions (sessions_withRtmpUSB (session_replaceView s.service.uvcCamera view))

/-! ### The methods that touch them -/

/-- A new object has no recording. -/
theorem triple_newRtmpUSB (r : Recordings) :
    Triple (fun s ↦ s.recordings = r) newRtmpUSB
      (fun object s ↦ object = r.parts.length ∧
        s.recordings = { r with parts := r.parts ++ [⟨false, false, none⟩] })
      (fun _ s ↦ s.recordings = r) := by
  refine Triple.bind (recordings_of_sessions sessions_newGlInterface r) fun glInterface ↦
    Triple.bind (recordings_of_sessions (sessions_onDevices (by exact fun _ ↦ rfl)) r) fun _ ↦
    triple_read fun s hs ↦ ?_
  refine triple_update (fun t ht ↦ ?_) (Triple.pure fun t ht ↦ ⟨?_, ht⟩)
  · rw [← ht]
    simp only [ServiceState.recordings, List.map_append, List.map_singleton]
    rfl
  · rw [← hs, ServiceState.recordings, List.length_map]

/-- A new object is put into use, or an exception comes before that. -/
theorem triple_prepareStreamRtp (r : Recordings) :
    Triple (fun s ↦ s.recordings = r) StreamService.prepareStreamRtp
      (fun _ s ↦ s.recordings = r.renew) (fun _ s ↦ s.recordings = r) := by
  refine Triple.bind (recordings_stopStream false r) fun _ ↦
    Triple.bind (recordings_of_sessions sessions_stopPreview r) fun _ ↦
    (triple_newRtmpUSB r).bind fun object ↦ .assume fun hobject ↦ Triple.modify fun s hs ↦ ?_
  rw [hobject]
  exact congrArg (fun r' : Recordings ↦ { r' with rtmpUSB := some r.parts.length }) hs

/-- `onConnect` puts a new object into use, or an exception or a return comes before that. -/
theorem triple_onConnect (r : Recordings) (supportedSizes : List CameraSize) :
    Triple (fun s ↦ s.recordings = r) (StreamService.onConnect supportedSizes)
      (fun _ s ↦ s.recordings = r ∨ s.recordings = r.renew)
      (fun _ s ↦ s.recordings = r ∨ s.recordings = r.renew) := by
  have hrest : ∀ {α : Type} {program : ServiceM α}, Leaves ServiceState.recordings program →
      Triple (fun s ↦ s.recordings = r.renew) program (fun _ s ↦ s.recordings = r.renew)
        (fun _ s ↦ s.recordings = r ∨ s.recordings = r.renew) :=
    fun h ↦ (h r.renew).mono (fun _ h ↦ h) (fun _ _ h ↦ h) fun _ _ h ↦ Or.inr h
  have huse : ∀ camera, Triple (fun s ↦ s.recordings = r) (useCamera camera)
      (fun _ s ↦ s.recordings = r.renew) (fun _ s ↦ s.recordings = r ∨ s.recordings = r.renew) :=
    fun camera ↦ triple_update (fun _ h ↦ h) (((triple_prepareStreamRtp r).mono (fun _ h ↦ h)
      (fun _ _ h ↦ h) fun _ _ h ↦ Or.inl h).bind fun _ ↦
      hrest (recordings_onRtmpUSB (record_of_session (session_startPreview _))))
  have hconnect : Triple (fun s ↦ s.recordings = r) (connectCamera supportedSizes)
      (fun usable s ↦ s.recordings = if usable then r.renew else r)
      (fun _ s ↦ s.recordings = r ∨ s.recordings = r.renew) := by
    refine triple_read fun s hs ↦ ((recordings_of_sessions (sessions_openNewCamera _ supportedSizes)
      r).mono (fun _ h ↦ h) (fun _ _ h ↦ h) fun _ _ h ↦ Or.inl h).bind fun usable ↦ ?_
    cases usable with
    | false => exact Triple.bind (Triple.pure fun _ h ↦ h) fun _ ↦ Triple.pure fun _ h ↦ h
    | true => exact (huse _).bind fun _ ↦ Triple.pure fun _ h ↦ h
  have hresume : Leaves ServiceState.recordings resumeStream := by
    refine .bind .get fun s ↦ ?_
    cases s.service.endpoint with
    | none => exact .pure _
    | some endpoint => exact .bind (recordings_startStreamRtp endpoint) fun _ ↦ .pure _
  rw [onConnect_eq]
  refine hconnect.bind fun usable ↦ ?_
  cases usable with
  | false => exact Triple.pure fun _ h ↦ Or.inl h
  | true => exact (hrest hresume).mono (fun _ h ↦ h) (fun _ _ h ↦ Or.inr h) fun _ _ h ↦ h

/-- A new muxer is in place. -/
def CreateMove (v w : RecordView) : Prop := w = v.create

/-- `startRecord` changes nothing or puts a new muxer in place. -/
def StartMove (v w : RecordView) : Prop := w = v ∨ w = v.create

/-- A `startRecord` that returns has put a new muxer in place. -/
theorem creates_startRecord (uvcCamera : Option ℕ) (v : RecordView) :
    Triple (fun u ↦ u.record = v) (startRecord uvcCamera) (fun _ u ↦ CreateMove v u.record)
      (fun _ u ↦ StartMove v u.record) := by
  intro u hu
  refine ((triple_startRecord_record u uvcCamera).mono (fun _ h ↦ h) (fun _ t ht ↦ ?_)
    fun _ t ht ↦ ?_ : Triple (fun t ↦ t = u) _ _ _) u rfl
  · exact ht.2.trans (congrArg RecordView.create hu)
  · rw [ht, hu]
    split_ifs with hrefused
    · exact Or.inl rfl
    · exact Or.inr rfl

/-- The recording of the object in use makes a move, unless there is no object. -/
def CurrentMove (move : RecordView → RecordView → Prop) (r r' : Recordings) : Prop :=
  r.current = none ∧ r' = r ∨ ∃ object, r.rtmpUSB = some object ∧ ObjectMove move object r r'

/-- A method of the object in use moves its recording. -/
theorem triple_onRtmpUSB {α : Type} {method : UsbM α} {move thrown : RecordView → RecordView → Prop}
    (h : ∀ v, Triple (fun u ↦ u.record = v) method (fun _ u ↦ move v u.record)
      (fun _ u ↦ thrown v u.record)) (r : Recordings) :
    Triple (fun s ↦ s.recordings = r) (onRtmpUSB method)
      (fun _ s ↦ ∃ object, r.rtmpUSB = some object ∧ ObjectMove move object r s.recordings)
      (fun _ s ↦ CurrentMove thrown r s.recordings) := by
  refine triple_read fun s hs ↦ ?_
  have hheld : s.service.rtmpUSB = r.rtmpUSB := congrArg Recordings.rtmpUSB hs
  rw [hheld]
  cases hobject : r.rtmpUSB with
  | none =>
    refine Triple.throw fun t ht ↦ Or.inl ⟨?_, ht⟩
    rw [Recordings.current, hobject]
    rfl
  | some object =>
    refine (triple_onObject h object r).mono (fun _ h ↦ h)
      (fun _ _ hmove ↦ ⟨object, rfl, hmove⟩) ?_
    rintro exception t (⟨hmissing, ht⟩ | hmove)
    · refine Or.inl ⟨?_, ht⟩
      rw [Recordings.current, hobject]
      exact hmissing
    · exact Or.inr ⟨object, hobject, hmove⟩

/-- `startLocalRecording` changes nothing or calls `startRecord` of the object in use, and where it
returns `true` a new muxer is in place. -/
theorem triple_startLocalRecording (r : Recordings) (outputPath : String) :
    Triple (fun s ↦ s.recordings = r) (StreamService.startLocalRecording outputPath)
      (fun started s ↦ (s.recordings = r ∨ CurrentMove StartMove r s.recordings) ∧
        (started = true → ∃ object, r.rtmpUSB = some object ∧
          ObjectMove CreateMove object r s.recordings))
      (fun _ s ↦ s.recordings = r ∨ CurrentMove StartMove r s.recordings) := by
  refine triple_read fun s hs ↦ ?_
  split_ifs
  · exact Triple.pure fun _ h ↦ ⟨Or.inl h, nofun⟩
  have hprepare (parameters : VideoParameters) :=
    recordings_of_sessions (sessions_prepareEncoders parameters s.service.uvcCamera) r
  refine Triple.tryCatch (Triple.bind ((hprepare _).mono (fun _ h ↦ h) (fun _ _ h ↦ h)
    fun _ _ h ↦ Or.inl h) fun prepared ↦ ?_) fun _ ↦ Triple.pure fun _ h ↦ ⟨h, nofun⟩
  cases prepared with
  | false => exact Triple.pure fun _ h ↦ ⟨Or.inl h, nofun⟩
  | true =>
    refine Triple.bind ((triple_onRtmpUSB (creates_startRecord s.service.uvcCamera) r).mono
      (fun _ h ↦ h) (fun _ _ h ↦ h) fun _ _ h ↦ Or.inr h) fun _ ↦ Triple.pure fun t ht ↦ ?_
    refine ⟨Or.inr (Or.inr ?_), fun _ ↦ ht⟩
    obtain ⟨object, hobject, v, w, hpart, hmuxers, hcreate, hput⟩ := ht
    exact ⟨object, hobject, v, w, hpart, hmuxers, Or.inr hcreate, hput⟩

/-- `stopLocalRecording` calls `stopRecord` of the object in use, and always returns. -/
theorem triple_stopLocalRecording (r : Recordings) :
    Total (fun s ↦ s.recordings = r) StreamService.stopLocalRecording
      fun _ s ↦ CurrentMove StopMove r s.recordings := by
  refine triple_read fun s hs ↦ Triple.whenever (fun _ ↦ ?_) fun hnone t ht ↦ Or.inl ⟨?_, ht⟩
  · refine Triple.tryCatch ((triple_onRtmpUSB (fun v ↦ stops_stopRecord v s.service.uvcCamera)
      r).mono (fun _ h ↦ h) (fun _ _ h ↦ Or.inr h) fun _ _ h ↦ h) fun _ ↦ ?_
    exact Triple.pure fun _ h ↦ h
  · rw [Option.isSome_eq_false_iff, Option.isNone_iff_eq_none] at hnone
    rw [Recordings.current, ← hs]
    exact congrArg (Option.bind · _) hnone

/-- What `stopRecord` finalises, `stopLocalRecording` does. -/
theorem finalises_stopLocalRecording {s : ServiceState} {object : USBBase} {index : ℕ}
    {muxer : MediaMuxer} (hcurrent : s.current = some object)
    (hheld : object.mediaMuxer = some index) (hmuxer : s.devices.muxers[index]? = some muxer)
    (hstarted : muxer.startCalled = true) (hcanRecord : object.canRecord = true)
    (hreturns : firstThrows s.devices.outcomes = false) :
    Total (fun t ↦ t = s) StreamService.stopLocalRecording
      fun _ t ↦ FinalisedAt t.devices.muxers index := by
  obtain ⟨place, hplace, hobject⟩ := Option.bind_eq_some_iff.mp hcurrent
  have hstop := @finalises_stopRecord ⟨object, s.devices⟩ index muxer hheld hmuxer hstarted
    hcanRecord hreturns s.service.uvcCamera
  refine triple_read fun t ht ↦ ?_
  obtain rfl := ht
  refine Triple.whenever (fun _ ↦ ?_) fun hnone ↦ ?_
  · refine Triple.tryCatch (triple_read fun t' ht' ↦ ?_) fun _ ↦ Triple.pure fun _ h ↦ h
    obtain rfl := ht'
    rw [hplace]
    refine triple_zoom (fun t ht hmissing ↦ ?_) fun t u ht hu ↦ ?_
    · rw [ht, ServiceState.usb, hobject] at hmissing
      cases hmissing
    · rw [ht, ServiceState.usb, hobject] at hu
      obtain rfl := Option.some.inj hu
      exact hstop
  · rw [hplace] at hnone
    cases hnone

/-- `RtmpUSB.stopStream` returns while something is recorded and the client can disconnect, and
calls nothing else. -/
theorem returns_stopStream {u : Usb} (hstreaming : u.base.streaming = true)
    (hrecording : u.base.recording = true) (hreturns : firstThrows u.devices.outcomes = false)
    (uvcCamera : Option ℕ) :
    Total (fun t ↦ t = u) (Streaming.stopStream uvcCamera)
      fun _ t ↦ t.devices.outcomes = u.devices.outcomes.tail := by
  have hdisconnect : ∀ base, Triple (fun t : Usb ↦ t = ⟨base, u.devices⟩) (onRtmp .disconnect)
      (fun _ t ↦ t.devices.outcomes = u.devices.outcomes.tail) (fun _ _ ↦ False) := by
    obtain ⟨base, cameras, interfaces, muxers, replay, outcomes, writes⟩ := u
    rintro base _ rfl
    cases outcomes with
    | nil => rfl
    | cons outcome rest =>
      cases outcome with
      | returns value => rfl
      | throws exception => cases hreturns
  refine triple_read fun t ht ↦ ?_
  obtain rfl := ht
  have hskip : ∀ program : UsbM Unit,
      Triple (fun t' ↦ t'.devices.outcomes = t.devices.outcomes.tail)
        (whenever (!t.base.recording) program)
        (fun _ t' ↦ t'.devices.outcomes = t.devices.outcomes.tail) (fun _ _ ↦ False) := by
    rw [hrecording]
    exact fun _ ↦ Triple.pure fun _ h ↦ h
  refine Triple.bind (Triple.whenever (fun _ ↦ ?_) fun hoff ↦ ?_) fun _ ↦ hskip _
  · exact triple_update (fun t' ht' ↦ by rw [ht']) (hdisconnect _)
  · exact absurd (hoff.symm.trans hstreaming) Bool.false_ne_true

/-- The outcomes that are left when `stopStream` has disconnected the client of an object that
records. -/
def outcomesAfterStop (object : USBBase) (outcomes : List Outcome) : List Outcome :=
  if object.streaming then outcomes.tail else outcomes

/-- `stopStream` of the service throws only where it streams, and where also something is recorded
only because the client cannot disconnect. -/
theorem triple_stopStream (s : ServiceState) :
    Triple (fun t ↦ t = s) (StreamService.stopStream false)
      (fun _ t ↦ ∀ object ∈ s.current, object.recording = true →
        (object.streaming = true → firstThrows s.devices.outcomes = false) →
          t.devices.outcomes = outcomesAfterStop object s.devices.outcomes)
      (fun _ _ ↦ ∃ object ∈ s.current, object.streaming = true ∧
        (object.recording = true → firstThrows s.devices.outcomes = true)) := by
  refine Triple.bind (Triple.pure fun _ h ↦ h : Triple (fun t ↦ t = s) _ (fun _ t ↦ t = s) _)
    fun _ ↦ triple_read fun t ht ↦ Triple.whenever (fun hstreaming ↦ triple_read fun t' ht' ↦ ?_)
      fun hidle t' ht' object hobject _ _ ↦ ?_
  · obtain rfl := ht
    obtain rfl := ht'
    obtain ⟨object, hcurrent, hon⟩ := (Option.any_eq_true _ _).mp hstreaming
    obtain ⟨index, hindex, hobject⟩ := Option.bind_eq_some_iff.mp hcurrent
    rw [hindex]
    refine triple_zoom (fun t ht hnone ↦ ?_) fun t u ht hu ↦ ?_
    · rw [ht, ServiceState.usb, hobject] at hnone
      cases hnone
    rw [ht, ServiceState.usb, hobject] at hu
    obtain rfl := Option.some.inj hu
    by_cases hthrows : object.recording = true → firstThrows t'.devices.outcomes = true
    · refine (Triple.of_after fun _ _ ↦ ⟨object, hcurrent, hon, hthrows⟩).mono (fun _ h ↦ h) ?_
        fun _ _ h ↦ h
      rintro value u - held hheld hrecording hreturns
      obtain rfl := Option.some.inj (hheld.symm.trans hcurrent)
      exact absurd ((hreturns hon).symm.trans (hthrows hrecording)) Bool.false_ne_true
    · obtain ⟨hrecording, hreturns⟩ := Classical.not_imp.mp hthrows
      have hstop := @returns_stopStream ⟨object, t'.devices⟩ hon hrecording
        (Bool.not_eq_true _ ▸ hreturns) t'.service.uvcCamera
      refine hstop.triple.mono (fun _ h ↦ h) ?_ fun _ _ h ↦ h
      intro value u hu held hheld _ _
      obtain rfl := Option.some.inj (hheld.symm.trans hcurrent)
      exact hu.trans (if_pos hon).symm
  · obtain rfl := ht
    obtain rfl := ht'
    have hoff : object.streaming = false := by
      rw [Option.mem_def.mp hobject] at hidle
      exact hidle
    exact (if_neg (by simp [hoff])).symm

/-- How `onDestroy` leaves the recordings: the recording of the object in use ends, or `stopStream`
threw. -/
def DestroyMove (s : ServiceState) (r' : Recordings) : Prop :=
  CurrentMove StopMove s.recordings r' ∨
    r' = s.recordings ∧ ∃ object ∈ s.current, object.streaming = true ∧
      (object.recording = true → firstThrows s.devices.outcomes = true)

/-- What `onDestroy` does behind `stopLocalRecording`. -/
theorem recordings_releaseCamera :
    Leaves ServiceState.recordings (do
      onDevices id
      destroyCamera) :=
  recordings_of_sessions (.bind (sessions_onDevices fun _ ↦ rfl) fun _ ↦ sessions_destroyCamera)

theorem triple_onDestroy (s : ServiceState) :
    Triple (fun t ↦ t = s) StreamService.onDestroy (fun _ t ↦ DestroyMove s t.recordings)
      (fun _ t ↦ DestroyMove s t.recordings) := by
  have hstop := ((recordings_stopStream false s.recordings).of_state rfl).and (triple_stopStream s)
  refine Triple.bind (hstop.mono (fun _ h ↦ h) (fun _ _ h ↦ h.1) fun _ _ h ↦ Or.inr h) fun _ ↦
    Triple.bind ((triple_stopLocalRecording s.recordings).triple.mono (fun _ h ↦ h)
      (fun _ _ h ↦ (Or.inl h : DestroyMove s _)) fun _ _ h ↦ h) fun _ ↦ ?_
  exact recordings_releaseCamera.keeps (DestroyMove s)

/-- What `stopRecord` finalises, `onDestroy` does while the client can disconnect. -/
theorem finalises_onDestroy {s : ServiceState} {object : USBBase} {index : ℕ} {muxer : MediaMuxer}
    (hcurrent : s.current = some object) (hrecording : object.recording = true)
    (hheld : object.mediaMuxer = some index) (hmuxer : s.devices.muxers[index]? = some muxer)
    (hstarted : muxer.startCalled = true) (hcanRecord : object.canRecord = true)
    (hdisconnects : object.streaming = true → firstThrows s.devices.outcomes = false)
    (hreturns : firstThrows (outcomesAfterStop object s.devices.outcomes) = false) :
    Triple (fun t ↦ t = s) StreamService.onDestroy
      (fun _ t ↦ FinalisedAt t.devices.muxers index)
      (fun _ t ↦ FinalisedAt t.devices.muxers index) := by
  have hstop := ((recordings_stopStream false s.recordings).of_state rfl).and (triple_stopStream s)
  refine Triple.bind (hstop.mono (fun _ h ↦ h) (fun _ _ h ↦ h) fun _ _ h ↦ ?_) fun _ ↦ ?_
  · obtain ⟨held, hheld, hstreaming, hthrows⟩ := h.2
    obtain rfl := Option.some.inj (hheld.symm.trans hcurrent)
    exact absurd ((hdisconnects hstreaming).symm.trans (hthrows hrecording)) Bool.false_ne_true
  refine Triple.bind (fun t ht ↦ ?_) fun _ ↦
    recordings_releaseCamera.keeps fun r ↦ FinalisedAt r.muxers index
  obtain ⟨hsame, houtcomes⟩ := ht
  -- `stopStream` has left the recording of the object in use as it was.
  have hpart : t.current.map USBBase.part = some object.part := by
    rw [← current_recordings, hsame, current_recordings, hcurrent]
    rfl
  obtain ⟨left, hleft, hleftPart⟩ := Option.map_eq_some_iff.mp hpart
  have hmuxers : t.devices.muxers = s.devices.muxers := congrArg Recordings.muxers hsame
  have hquiet : firstThrows t.devices.outcomes = false := by
    rw [houtcomes object hcurrent hrecording hdisconnects]
    exact hreturns
  have hfinalises := finalises_stopLocalRecording hleft
    ((congrArg RecordPart.mediaMuxer hleftPart).trans hheld) (hmuxers ▸ hmuxer) hstarted
    ((congrArg RecordPart.canRecord hleftPart).trans hcanRecord) hquiet
  exact hfinalises.triple t rfl

/-- A callback moves on the recording of its object, if there is one. -/
theorem triple_callback (object : ℕ) (encoderCallback : EncoderCallback) (r : Recordings) :
    Triple (fun s ↦ s.recordings = r) (onObject object encoderCallback.method)
      (fun _ s ↦ s.recordings = r ∨ ObjectMove Delivers object r s.recordings)
      (fun _ s ↦ s.recordings = r ∨ ObjectMove Delivers object r s.recordings) :=
  (triple_onObject (fun v ↦ delivers_callback v encoderCallback) object r).mono (fun _ h ↦ h)
    (fun _ _ h ↦ Or.inr h) fun _ _ h ↦ h.imp And.right id

/-- What an event does to the recordings. -/
theorem recordings_serviceStep (s : ServiceState) (serviceCall : ServiceCall) :
    match serviceCall.event with
    | .onConnect _ => (serviceStep s serviceCall).recordings = s.recordings ∨
        (serviceStep s serviceCall).recordings = s.recordings.renew
    | .startLocalRecording _ => (serviceStep s serviceCall).recordings = s.recordings ∨
        CurrentMove StartMove s.recordings (serviceStep s serviceCall).recordings
    | .stopLocalRecording =>
        CurrentMove StopMove s.recordings (serviceStep s serviceCall).recordings
    | .onDestroy => DestroyMove { s with devices.outcomes := serviceCall.outcomes }
        (serviceStep s serviceCall).recordings
    | .callback object _ => (serviceStep s serviceCall).recordings = s.recordings ∨
        ObjectMove Delivers object s.recordings (serviceStep s serviceCall).recordings
    | _ => (serviceStep s serviceCall).recordings = s.recordings := by
  obtain ⟨event, outcomes⟩ := serviceCall
  have hquiet : ∀ {program : ServiceM Unit}, Leaves ServiceState.recordings program →
      (after program { s with devices.outcomes := outcomes }).recordings = s.recordings :=
    fun h ↦ h.after _
  cases event with
  | onConnect supportedSizes => exact (triple_onConnect s.recordings supportedSizes).after rfl
  | onDisconnect => exact hquiet (recordings_stopStream false)
  | onDettach => exact hquiet (recordings_stopStream false)
  | startStreamRtp endpoint =>
    exact hquiet ((recordings_startStreamRtp endpoint).bind fun _ ↦ .pure _)
  | stopStream force => exact hquiet (recordings_stopStream force)
  | startLocalRecording outputPath =>
    exact ((triple_startLocalRecording s.recordings outputPath).bind fun _ ↦
      Triple.pure fun _ h ↦ h.1).after rfl
  | stopLocalRecording =>
    exact (triple_stopLocalRecording s.recordings).after rfl
  | setVerticalCropEnabled enabled => exact hquiet (.modify fun _ ↦ rfl)
  | setView view => exact hquiet (recordings_setView view)
  | startPreview => exact hquiet (recordings_of_sessions sessions_startPreview)
  | stopPreview => exact hquiet (recordings_of_sessions sessions_stopPreview)
  | onDestroy => exact (triple_onDestroy _).after rfl
  | callback object encoderCallback =>
    exact (triple_callback object encoderCallback s.recordings).after rfl

end UvcRtmpStream.Streaming
