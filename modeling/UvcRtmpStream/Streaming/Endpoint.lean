import UvcRtmpStream.Streaming.EncoderLifecycle
import UvcRtmpStream.Streaming.RecordingOwnership

/-!
# The endpoint of the stream

The service remembers where to stream in `endpoint`, while the stream itself belongs to an
`RtmpUSB`, which `onConnect` replaces. A forced `stopStream` clears the endpoint, the unforced one
of a disconnect keeps it, and `onConnect` resumes the stream.

The abstract view of the service is the endpoint, the object in use, and for each object whether it
streams and how its client was told to connect (`Streams`). Only the object in use streams, to the
endpoint (`Streams.Inv`), and with no endpoint nothing streams until the next `startStreamRtp`
(`Streams.Off`). The recording of the object and the callbacks leave this view alone on every exit.
-/

set_option autoImplicit false
set_option relaxedAutoImplicit false

namespace UvcRtmpStream.Streaming

open UvcRtmpStream.Foundations UvcRtmpStream.Platform UvcRtmpStream.Replay

/-- Whether an object streams, and how its client was told to connect. -/
structure StreamPart where
  streaming : Bool
  connections : List RtmpCall

/-- The URL of a connection. -/
def RtmpCall.url : RtmpCall → Option String
  | .connect url => some url
  | _ => none

/-- The URL of the last connection. -/
def StreamPart.url (part : StreamPart) : Option String :=
  part.connections.getLast?.bind RtmpCall.url

/-- The stream of an object. -/
def USBBase.stream (base : USBBase) : StreamPart :=
  ⟨base.streaming, base.rtmpClient.filter RtmpCall.isConnection⟩

/-- The stream of an object, as its methods see it. -/
def Usb.stream (u : Usb) : StreamPart := u.base.stream

/-! ### Methods of an object -/

section Objects

variable (uvcCamera : Option ℕ)

theorem stream_of_session {α : Type} {method : UsbM α} (h : Leaves Usb.session method) :
    Leaves Usb.stream method := by
  refine h.comp Usb.stream fun u ↦ ?_
  simp only [Usb.stream, USBBase.stream, Usb.session, USBBase.session, List.filter_filter,
    Bool.and_self]

theorem stream_of_lifecycle {α : Type} {method : UsbM α} (h : Leaves Usb.lifecycle method) :
    Leaves Usb.stream method :=
  h.comp (fun l ↦ ⟨l.streaming, l.connections⟩) fun _ ↦ rfl

theorem stream_call {effect : Usb → Usb} (heffect : ∀ u, (effect u).stream = u.stream) :
    Leaves Usb.stream (call effect) :=
  leaves_call (fun _ _ ↦ rfl) heffect

theorem stream_startEncoders : Leaves Usb.stream (startEncoders uvcCamera) := by
  refine (settled_startEncoders uvcCamera).comp Usb.stream fun u ↦ ?_
  simp only [Usb.stream, USBBase.stream, Usb.settled, Usb.session, USBBase.session,
    List.filter_filter, Bool.and_self]

/-- A recording is started without touching the stream. -/
theorem stream_startRecord : Leaves Usb.stream (startRecord uvcCamera) := by
  have hcreate : Leaves Usb.stream createMuxer := stream_call fun _ ↦ rfl
  refine .bind hcreate fun _ ↦ .bind (.modify fun _ ↦ rfl) fun _ ↦ .bind .get fun u ↦ ?_
  exact .ite (stream_startEncoders uvcCamera)
    (.whenever (stream_of_session session_resetVideoEncoder))

/-- Stopping an object that does not stream leaves it so, on every exit. -/
theorem keeps_stopStream {part : StreamPart} (hoff : part.streaming = false) :
    Keeps (fun u ↦ u.stream = part) (stopStream uvcCamera) := by
  refine triple_read fun u hu ↦ Triple.bind (Triple.whenever (fun hon ↦ ?_) fun _ _ h ↦ h) fun _ ↦
    Leaves.whenever ?_ part
  · have hstreaming : u.base.streaming = false := (congrArg StreamPart.streaming hu).trans hoff
    exact absurd (hstreaming.symm.trans hon) Bool.false_ne_true
  · refine .bind (stream_call fun _ ↦ rfl) fun _ ↦ .bind (stream_of_session (session_onGl _))
      fun _ ↦ .bind (stream_of_session (.whenever (.bind (session_onGl _) fun _ ↦
      session_onCamera uvcCamera _))) fun _ ↦ ?_
    exact .bind (stream_call fun _ ↦ rfl) fun _ ↦ .bind (stream_call fun _ ↦ rfl) fun _ ↦
      .modify fun _ ↦ rfl

/-- A recording is stopped without touching the stream. -/
theorem stream_stopRecord : Leaves Usb.stream (stopRecord uvcCamera) := by
  intro part
  refine triple_change id (fun _ ↦ rfl) (triple_read fun u hu ↦ ?_)
  have hfinish : Leaves Usb.stream (dropMuxer u.base.mediaMuxer.isSome u.base.canRecord) :=
    stream_of_lifecycle (lifecycle_of_setting (setting_dropMuxer _ _))
  refine (hfinish part).bind fun _ ↦ triple_change id (fun _ ↦ rfl)
    (Triple.whenever (fun hidle ↦ keeps_stopStream uvcCamera ?_) fun _ _ h ↦ h)
  rw [Bool.not_eq_true'] at hidle
  exact (congrArg StreamPart.streaming hu).symm.trans hidle

/-- A stream that is started. -/
theorem gives_stream_startStream (part : StreamPart) (url : String) :
    Gives (fun u ↦ u.stream = part) (startStream uvcCamera url) fun _ u ↦
      u.stream = ⟨true, part.connections ++ [.connect url]⟩ := by
  rintro u rfl
  refine (gives_startStream u.lifecycle uvcCamera url).mono (fun _ h ↦ h) (fun _ v hv ↦ ?_)
    (fun _ _ h ↦ h) u rfl
  have hstreaming := congrArg Lifecycle.streaming hv
  have hconnections := congrArg Lifecycle.connections hv
  have hsame : (u.lifecycle.startStream url).connections =
      u.lifecycle.connections ++ [.connect url] := by
    unfold Lifecycle.startStream
    split_ifs <;> rfl
  rw [hsame] at hconnections
  exact congrArg₂ StreamPart.mk hstreaming hconnections

/-- A stream that is stopped. -/
theorem gives_stream_stopStream (part : StreamPart) :
    Gives (fun u ↦ u.stream = part) (stopStream uvcCamera)
      fun _ u ↦ u.stream.streaming = false := by
  rintro u rfl
  refine (gives_stopStream u.lifecycle uvcCamera).mono (fun _ h ↦ h) (fun _ v hv ↦ ?_)
    (fun _ _ h ↦ h) u rfl
  have hstreaming := congrArg Lifecycle.streaming hv
  have hoff : u.lifecycle.stopStream.streaming = false := by
    unfold Lifecycle.stopStream
    split_ifs
    · exact u.lifecycle.streaming_disconnect
    · exact u.lifecycle.streaming_disconnect
  exact hstreaming.trans hoff

end Objects

/-! ### The streams of the service -/

/-- The endpoint, the object in use, and the streams of all objects. -/
structure Streams where
  endpoint : Option String
  rtmpUSB : Option ℕ
  parts : List StreamPart

/-- The streams part of the state. -/
def ServiceState.streams (s : ServiceState) : Streams :=
  ⟨s.service.endpoint, s.service.rtmpUSB, s.objects.map USBBase.stream⟩

namespace Streams

/-- The stream of the object in use. -/
def current (v : Streams) : Option StreamPart := v.rtmpUSB.bind (v.parts[·]?)

/-- Only the object in use streams. -/
def OnlyCurrent (v : Streams) : Prop :=
  ∀ object part, v.parts[object]? = some part → part.streaming = true → v.rtmpUSB = some object

/-- Where the object in use streams, it does so to the endpoint. -/
def ToEndpoint (v : Streams) : Prop :=
  ∀ part ∈ v.current, part.streaming = true → ∃ url, v.endpoint = some url ∧ part.url = some url

/-- Only the object in use streams, to the endpoint. -/
structure Inv (v : Streams) : Prop where
  current : v.OnlyCurrent
  endpoint : v.ToEndpoint

/-- Nothing streams. -/
def Silent (v : Streams) : Prop := ∀ part ∈ v.parts, part.streaming = false

/-- Nothing streams, and no stream is to be resumed. -/
def Off (v : Streams) : Prop := v.endpoint = none ∧ v.Silent

/-- The object in use streams to a URL. -/
def StreamsTo (v : Streams) (url : String) : Prop :=
  ∃ part ∈ v.current, part.streaming = true ∧ part.url = some url

/-- What is silent may have any endpoint and any object in use. -/
theorem Silent.inv {v : Streams} (h : v.Silent) : v.Inv := by
  have hoff : ∀ {part : StreamPart} {p : Prop}, part ∈ v.parts → part.streaming = true → p :=
    fun hmem hon ↦ absurd ((h _ hmem).symm.trans hon) Bool.false_ne_true
  refine ⟨fun object part hobject hon ↦ hoff (List.mem_of_getElem? hobject) hon,
    fun part hpart hon ↦ ?_⟩
  obtain ⟨object, -, hobject⟩ := Option.bind_eq_some_iff.mp hpart
  exact hoff (List.mem_of_getElem? hobject) hon

/-- With the object in use silent, nothing streams. -/
theorem OnlyCurrent.silent {v : Streams} (h : v.OnlyCurrent)
    (hoff : ∀ part ∈ v.current, part.streaming = false) : v.Silent := by
  intro part hmem
  obtain ⟨object, hobject⟩ := List.mem_iff_getElem?.mp hmem
  by_contra hon
  rw [Bool.not_eq_false] at hon
  refine Bool.false_ne_true ((hoff part ?_).symm.trans hon)
  rw [Streams.current, h object part hobject hon]
  exact hobject

/-- A new object is in use. -/
def renew (v : Streams) : Streams :=
  { v with rtmpUSB := some v.parts.length, parts := v.parts ++ [⟨false, []⟩] }

theorem Silent.renew {v : Streams} (h : v.Silent) : v.renew.Silent := by
  intro part hmem
  rcases List.mem_append.mp hmem with hold | hnew
  · exact h part hold
  · rw [List.mem_singleton.mp hnew]

/-- The object in use streams as another one does. -/
def put (v : Streams) (part : StreamPart) : Streams :=
  match v.rtmpUSB with
  | none => v
  | some object => { v with parts := v.parts.set object part }

theorem put_eq {v : Streams} {object : ℕ} (h : v.rtmpUSB = some object) (part : StreamPart) :
    v.put part = { v with parts := v.parts.set object part } := by
  rw [put, h]

@[simp] theorem endpoint_put (v : Streams) (part : StreamPart) :
    (v.put part).endpoint = v.endpoint := by
  unfold put
  cases v.rtmpUSB <;> rfl

@[simp] theorem rtmpUSB_put (v : Streams) (part : StreamPart) :
    (v.put part).rtmpUSB = v.rtmpUSB := by
  unfold put
  cases hobject : v.rtmpUSB with
  | none => exact hobject
  | some object => rfl

@[simp] theorem length_put (v : Streams) (part : StreamPart) :
    (v.put part).parts.length = v.parts.length := by
  unfold put
  cases v.rtmpUSB <;> simp

theorem current_put {v : Streams} {part held : StreamPart} (hheld : v.current = some held) :
    (v.put part).current = some part := by
  obtain ⟨object, hobject, hget⟩ := Option.bind_eq_some_iff.mp hheld
  obtain ⟨hlt, -⟩ := List.getElem?_eq_some_iff.mp hget
  rw [put_eq hobject, current, hobject, Option.bind_some]
  exact List.getElem?_set_self hlt

/-- Once the object in use is silent, all are. -/
theorem OnlyCurrent.silent_put {v : Streams} (h : v.OnlyCurrent) {part held : StreamPart}
    (hheld : v.current = some held) (hoff : part.streaming = false) : (v.put part).Silent := by
  obtain ⟨object, hobject, -⟩ := Option.bind_eq_some_iff.mp hheld
  intro other hmem
  rw [put_eq hobject] at hmem
  obtain ⟨index, hindex⟩ := List.mem_iff_getElem?.mp hmem
  by_cases hsame : object = index
  · rw [← hsame, List.getElem?_set, if_pos rfl] at hindex
    split_ifs at hindex
    rw [← Option.some.inj hindex]
    exact hoff
  · rw [List.getElem?_set_ne hsame] at hindex
    by_contra hon
    rw [Bool.not_eq_false] at hon
    exact hsame (Option.some.inj (hobject.symm.trans (h index other hindex hon)))

/-- A stream started to the endpoint, where nothing streamed. -/
theorem Silent.inv_put {v : Streams} (h : v.Silent) {part held : StreamPart}
    (hheld : v.current = some held) {url : String} (hendpoint : v.endpoint = some url)
    (hurl : part.url = some url) : (v.put part).Inv := by
  obtain ⟨object, hobject, -⟩ := Option.bind_eq_some_iff.mp hheld
  refine ⟨fun index other hindex hon ↦ ?_, fun other hother _ ↦ ⟨url, ?_, ?_⟩⟩
  · rw [put_eq hobject] at hindex ⊢
    by_cases hsame : object = index
    · rw [← hsame]
      exact hobject
    · rw [List.getElem?_set_ne hsame] at hindex
      exact absurd ((h other (List.mem_of_getElem? hindex)).symm.trans hon) Bool.false_ne_true
  · rw [endpoint_put]
    exact hendpoint
  · obtain rfl := Option.some.inj ((current_put hheld).symm.trans hother)
    exact hurl

end Streams

/-! ### Moves of the streams -/

/-- Everything is silent, with an endpoint. -/
def Silenced (endpoint : Option String) (v w : Streams) : Prop :=
  w.Silent ∧ w.endpoint = endpoint ∧ w.parts.length = v.parts.length

/-- What `startStreamRtp` does: nothing while the object in use streams, and otherwise it sets the
endpoint and starts the stream, if the encoders can be prepared. -/
def StreamMove (endpoint : String) (v w : Streams) : Prop :=
  w = v ∨ (∀ part ∈ v.current, part.streaming = false) ∧
    (w = { v with endpoint := some endpoint } ∨ ∃ held, v.current = some held ∧
      w = Streams.put { v with endpoint := some endpoint }
        ⟨true, held.connections ++ [.connect endpoint]⟩)

/-- A new object is in use, and everything is silent. -/
def ConnectMove (v w : Streams) : Prop := ∃ v', Silenced v.endpoint v v' ∧ w = v'.renew

/-- The stream is resumed, if there is an endpoint. -/
def ResumeMove (v w : Streams) : Prop :=
  v.endpoint = none ∧ w = v ∨ ∃ endpoint, v.endpoint = some endpoint ∧ StreamMove endpoint v w

theorem url_connect (connections : List RtmpCall) (url : String) :
    StreamPart.url ⟨true, connections ++ [.connect url]⟩ = some url := by
  simp [StreamPart.url, RtmpCall.url]

theorem StreamMove.inv {endpoint : String} {v w : Streams} (h : StreamMove endpoint v w)
    (hinv : v.Inv) : w.Inv := by
  rcases h with rfl | ⟨hoff, hmove⟩
  · exact hinv
  have hsilent : Streams.Silent { v with endpoint := some endpoint } := hinv.current.silent hoff
  rcases hmove with rfl | ⟨held, hheld, rfl⟩
  · exact hsilent.inv
  · exact hsilent.inv_put hheld rfl (url_connect _ endpoint)

theorem ConnectMove.silent {v w : Streams} (h : ConnectMove v w) :
    w.Silent ∧ w.endpoint = v.endpoint ∧ w.rtmpUSB = some v.parts.length ∧
      v.parts.length < w.parts.length := by
  obtain ⟨v', ⟨hsilent, hendpoint, hlength⟩, rfl⟩ := h
  refine ⟨hsilent.renew, hendpoint, congrArg some hlength, ?_⟩
  simp [Streams.renew, hlength]

theorem ResumeMove.inv {v w : Streams} (h : ResumeMove v w) (hinv : v.Inv) : w.Inv := by
  rcases h with ⟨-, rfl⟩ | ⟨endpoint, -, hmove⟩
  · exact hinv
  · exact hmove.inv hinv

/-! ### Methods of the service -/

section Methods

theorem current_streams (s : ServiceState) :
    s.streams.current = s.current.map USBBase.stream := by
  unfold Streams.current ServiceState.current ServiceState.streams
  cases s.service.rtmpUSB with
  | none => rfl
  | some object => simp

/-- What becomes of the streams when an object is put back. -/
theorem streams_set (s : ServiceState) (object : ℕ) (u : Usb) :
    ServiceState.streams
        { s with objects := s.objects.set object u.base, devices := u.devices } =
      { s.streams with parts := s.streams.parts.set object u.stream } := by
  simp only [ServiceState.streams, List.map_set]
  rfl

/-- What leaves the sessions alone leaves the streams alone. -/
theorem streams_of_sessions {α : Type} {method : ServiceM α}
    (h : Leaves ServiceState.sessions method) : Leaves ServiceState.streams method := by
  refine h.comp ServiceState.streams fun s ↦ ?_
  simp only [ServiceState.streams, ServiceState.sessions, List.map_map]
  congr 1
  refine List.map_congr_left fun base _ ↦ ?_
  simp [USBBase.stream, USBBase.session]

theorem streams_onObject {α : Type} {method : UsbM α} (h : Leaves Usb.stream method)
    (object : ℕ) : Leaves ServiceState.streams (onObject object method) := by
  refine h.zoom fun s u u' hu hsame ↦ ?_
  obtain ⟨hbase, -⟩ := usb_eq_some hu
  have hpart : s.streams.parts[object]? = some u.stream := by
    rw [ServiceState.streams, List.getElem?_map, hbase]
    rfl
  obtain ⟨hlt, hget⟩ := List.getElem?_eq_some_iff.mp hpart
  have hset : s.streams.parts.set object u.stream = s.streams.parts := by
    rw [← hget, List.set_getElem_self]
  rw [streams_set, hsame, hset]

theorem streams_onRtmpUSB {α : Type} {method : UsbM α} (h : Leaves Usb.stream method) :
    Leaves ServiceState.streams (onRtmpUSB method) := by
  refine .bind .get fun s ↦ ?_
  cases s.service.rtmpUSB with
  | none => exact .throw _
  | some object => exact streams_onObject h object

/-- A method that changes the stream of the object in use. -/
theorem gives_onRtmpUSB {α : Type} {method : UsbM α} {change : StreamPart → StreamPart → Prop}
    (h : ∀ part, Gives (fun u ↦ u.stream = part) method fun _ u ↦ change part u.stream)
    (v : Streams) :
    Gives (fun s ↦ s.streams = v) (onRtmpUSB method) fun _ s ↦
      ∃ held part, v.current = some held ∧ change held part ∧ s.streams = v.put part := by
  refine triple_read fun s hs ↦ ?_
  have hrtmpUSB : s.service.rtmpUSB = v.rtmpUSB := congrArg Streams.rtmpUSB hs
  rw [hrtmpUSB]
  cases hobject : v.rtmpUSB with
  | none => exact Triple.throw fun _ _ ↦ trivial
  | some object =>
    refine triple_zoom (fun _ _ _ ↦ trivial) fun t u ht hu ↦ ?_
    obtain ⟨hbase, -⟩ := usb_eq_some hu
    have hheld : v.current = some u.stream := by
      rw [Streams.current, hobject, ← ht, Option.bind_some, ServiceState.streams,
        List.getElem?_map, hbase]
      rfl
    refine ((h u.stream).of_state rfl).mono (fun _ h ↦ h) (fun _ u' hchange ↦ ?_) fun _ _ h ↦ h
    refine ⟨u.stream, u'.stream, hheld, hchange, ?_⟩
    rw [streams_set, ht, Streams.put_eq hobject]

/-- `stopStream` silences everything. -/
theorem gives_stopStream_service {v : Streams} (honly : v.OnlyCurrent) (force : Bool) :
    Gives (fun s ↦ s.streams = v) (StreamService.stopStream force) fun _ s ↦
      Silenced (if force then none else v.endpoint) v s.streams := by
  let w : Streams := { v with endpoint := if force then none else v.endpoint }
  have hclear : Gives (fun s ↦ s.streams = v)
      (whenever force (modify fun s ↦ { s with service.endpoint := none } : ServiceM PUnit))
      fun _ s ↦ s.streams = w := by
    refine Triple.whenever (fun hforce ↦ Triple.modify fun s hs ↦ ?_) fun hkeep s hs ↦ ?_
    · unfold w
      rw [if_pos hforce, ← hs]
      rfl
    · unfold w
      rw [if_neg (Bool.not_eq_true _ ▸ hkeep), hs]
  refine hclear.bind fun _ ↦ triple_read fun s hs ↦ ?_
  have hcurrent : v.current = s.current.map USBBase.stream :=
    (congrArg Streams.current hs).symm.trans (current_streams s)
  refine Triple.whenever (fun _ ↦ ?_) fun hidle t ht ↦ ?_
  · refine (@gives_onRtmpUSB _ _ (fun _ part ↦ part.streaming = false)
      (gives_stream_stopStream s.service.uvcCamera) w).mono (fun _ h ↦ h) ?_ fun _ _ h ↦ h
    rintro - t ⟨held, part, hheld, hoff, ht⟩
    rw [ht]
    exact ⟨@Streams.OnlyCurrent.silent_put w honly part held hheld hoff, w.endpoint_put part,
      w.length_put part⟩
  · rw [ht]
    refine ⟨@Streams.OnlyCurrent.silent v honly fun part hpart ↦ ?_, rfl, rfl⟩
    obtain ⟨base, hbase, rfl⟩ := Option.map_eq_some_iff.mp (hcurrent.symm.trans hpart)
    rw [hbase] at hidle
    exact hidle

/-- A new object does not stream. -/
theorem gives_newRtmpUSB (v : Streams) :
    Gives (fun s ↦ s.streams = v) newRtmpUSB fun object s ↦
      object = v.parts.length ∧ s.streams = { v with parts := v.parts ++ [⟨false, []⟩] } := by
  have hinit : ∀ glInterface : ℕ, Leaves ServiceState.sessions (onDevices fun devices ↦
      { devices with interfaces := devices.interfaces.modify glInterface fun gl ↦
          { gl with initialized := true } }) := fun _ ↦ sessions_onDevices fun _ ↦ rfl
  refine ((streams_of_sessions sessions_newGlInterface).gives v).bind fun glInterface ↦
    ((streams_of_sessions (hinit glInterface)).gives v).bind fun _ ↦ triple_read fun s hs ↦
    triple_change (fun v : Streams ↦ { v with parts := v.parts ++ [⟨false, []⟩] }) (fun t ↦ ?_)
    (Triple.pure fun t ht ↦ ⟨?_, ht⟩)
  · simp [ServiceState.streams, USBBase.new, USBBase.stream]
  · rw [← hs, ServiceState.streams, List.length_map]

/-- What streamed is stopped before a new object is put into use. -/
theorem gives_prepareStreamRtp {v : Streams} (honly : v.OnlyCurrent) :
    Gives (fun s ↦ s.streams = v) StreamService.prepareStreamRtp fun _ s ↦
      ConnectMove v s.streams := by
  refine (gives_stopStream_service honly false).bind fun _ ↦
    (((streams_of_sessions sessions_stopPreview).keeps (Silenced v.endpoint v)).mono
      (fun _ h ↦ h) (fun _ _ h ↦ h) fun _ _ _ ↦ trivial).bind fun _ ↦ ?_
  intro s hs
  refine ((gives_newRtmpUSB s.streams).bind fun object ↦ .assume fun hobject ↦
    Triple.modify fun t ht ↦ ⟨s.streams, hs, ?_⟩) s rfl
  rw [hobject]
  exact congrArg (fun w : Streams ↦ { w with rtmpUSB := some s.streams.parts.length }) ht

/-- `connectCamera` puts a new object into use, or does nothing to the streams. -/
theorem gives_connectCamera {v : Streams} (honly : v.OnlyCurrent)
    (supportedSizes : List CameraSize) :
    Gives (fun s ↦ s.streams = v) (connectCamera supportedSizes) fun usable s ↦
      if usable then ConnectMove v s.streams else s.streams = v := by
  refine triple_read fun s hs ↦
    ((streams_of_sessions (sessions_openNewCamera _ supportedSizes)).gives v).bind fun usable ↦ ?_
  cases usable with
  | false => exact Triple.bind (Triple.pure fun _ h ↦ h) fun _ ↦ Triple.pure fun _ h ↦ h
  | true =>
    have huse : Gives (fun s ↦ s.streams = v) (useCamera s.devices.cameras.length) fun _ s ↦
        ConnectMove v s.streams := by
      refine triple_change id (fun _ ↦ rfl) ((gives_prepareStreamRtp honly).bind fun _ ↦ ?_)
      have hpreview := streams_of_sessions
        (sessions_onRtmpUSB (session_startPreview (some s.devices.cameras.length)))
      exact (hpreview.keeps (ConnectMove v)).mono (fun _ h ↦ h) (fun _ _ h ↦ h) fun _ _ _ ↦ trivial
    exact huse.bind fun _ ↦ Triple.pure fun _ h ↦ h

/-- `startStreamRtp` starts a stream only while the object in use does not stream. -/
theorem gives_startStreamRtp_service (v : Streams) (endpoint : String) :
    Gives (fun s ↦ s.streams = v) (StreamService.startStreamRtp endpoint) fun _ s ↦
      StreamMove endpoint v s.streams := by
  refine triple_read fun s hs ↦ ?_
  by_cases hidle : s.current.any (fun object ↦ !object.streaming) = true
  · rw [if_pos hidle]
    have hoff : ∀ part ∈ v.current, part.streaming = false := by
      intro part hpart
      have hcurrent : v.current = s.current.map USBBase.stream :=
        (congrArg Streams.current hs).symm.trans (current_streams s)
      obtain ⟨base, hbase, rfl⟩ := Option.map_eq_some_iff.mp (hcurrent.symm.trans hpart)
      rw [hbase] at hidle
      exact Bool.not_eq_true' _ ▸ hidle
    refine triple_change (fun v : Streams ↦ { v with endpoint := some endpoint }) (fun _ ↦ rfl)
      (((streams_of_sessions (sessions_prepareEncoders _ _)).gives _).bind fun prepared ↦ ?_)
    cases prepared with
    | false => exact Triple.pure fun t ht ↦ Or.inr ⟨hoff, Or.inl ht⟩
    | true =>
      refine (@gives_onRtmpUSB _ _
        (fun held part ↦ part = ⟨true, held.connections ++ [.connect endpoint]⟩)
        (fun part ↦ gives_stream_startStream s.service.uvcCamera part endpoint) _).bind fun _ ↦
        Triple.pure ?_
      rintro t ⟨held, part, hheld, rfl, ht⟩
      exact Or.inr ⟨hoff, Or.inr ⟨held, hheld, ht⟩⟩
  · rw [if_neg hidle]
    exact Triple.pure fun _ h ↦ Or.inl h

theorem gives_resumeStream (v : Streams) :
    Gives (fun s ↦ s.streams = v) resumeStream fun _ s ↦ ResumeMove v s.streams := by
  refine triple_read fun s hs ↦ ?_
  have hendpoint : s.service.endpoint = v.endpoint := congrArg Streams.endpoint hs
  rw [hendpoint]
  cases hcase : v.endpoint with
  | none => exact Triple.pure fun _ h ↦ Or.inl ⟨hcase, h⟩
  | some endpoint =>
    exact (gives_startStreamRtp_service v endpoint).bind fun _ ↦
      Triple.pure fun _ h ↦ Or.inr ⟨endpoint, hcase, h⟩

/-- The recording methods of the service leave the streams alone on every exit. -/
theorem streams_startLocalRecording (outputPath : String) :
    Leaves ServiceState.streams (StreamService.startLocalRecording outputPath) := by
  refine .bind .get fun s ↦ .ite (.pure _) (.tryCatch ?_ fun _ ↦ .pure _)
  refine .bind (streams_of_sessions (sessions_prepareEncoders _ _)) fun _ ↦ .ite ?_ (.pure _)
  exact .bind (streams_onRtmpUSB (stream_startRecord _)) fun _ ↦ .pure _

theorem streams_stopLocalRecording :
    Leaves ServiceState.streams StreamService.stopLocalRecording :=
  .bind .get fun _ ↦ .whenever (.tryCatch (streams_onRtmpUSB (stream_stopRecord _)) fun _ ↦ .pure _)

end Methods

/-! ### Steps -/

/-- The method of the event returns. -/
def ServiceReturns (s : ServiceState) (serviceCall : ServiceCall) : Prop :=
  Returns serviceCall.event.method { s with devices.outcomes := serviceCall.outcomes }

instance (s : ServiceState) (serviceCall : ServiceCall) :
    Decidable (ServiceReturns s serviceCall) :=
  decidableReturns _ _

/-- What an event does to the streams where its method returns. -/
theorem streams_serviceStep {s : ServiceState} {serviceCall : ServiceCall}
    (honly : s.streams.OnlyCurrent) (hreturns : ServiceReturns s serviceCall) :
    match serviceCall.event with
    | .onConnect _ => (serviceStep s serviceCall).streams = s.streams ∨
        ∃ v, ConnectMove s.streams v ∧ ResumeMove v (serviceStep s serviceCall).streams
    | .startStreamRtp endpoint =>
        StreamMove endpoint s.streams (serviceStep s serviceCall).streams
    | .stopStream force =>
        Silenced (if force then none else s.service.endpoint) s.streams
          (serviceStep s serviceCall).streams
    | .onDisconnect | .onDettach | .onDestroy =>
        Silenced s.service.endpoint s.streams (serviceStep s serviceCall).streams
    | _ => (serviceStep s serviceCall).streams = s.streams := by
  obtain ⟨event, outcomes⟩ := serviceCall
  have hquiet : ∀ {program : ServiceM Unit}, Leaves ServiceState.streams program →
      (after program { s with devices.outcomes := outcomes }).streams = s.streams :=
    fun h ↦ h.after _
  cases event with
  | onConnect supportedSizes =>
    have hconnect : Gives (fun t ↦ t.streams = s.streams) (StreamService.onConnect supportedSizes)
        fun _ t ↦ t.streams = s.streams ∨
          ∃ v, ConnectMove s.streams v ∧ ResumeMove v t.streams := by
      rw [onConnect_eq]
      refine (gives_connectCamera honly supportedSizes).bind fun usable ↦ ?_
      cases usable with
      | false => exact Triple.pure fun _ h ↦ Or.inl h
      | true =>
        intro t ht
        exact (gives_resumeStream t.streams).mono (fun _ h ↦ h)
          (fun _ _ h ↦ Or.inr ⟨t.streams, ht, h⟩) (fun _ _ h ↦ h) t rfl
    exact hconnect.after rfl hreturns
  | onDisconnect => exact (gives_stopStream_service honly false).after rfl hreturns
  | onDettach => exact (gives_stopStream_service honly false).after rfl hreturns
  | startStreamRtp endpoint =>
    have hstart : Gives (fun t ↦ t.streams = s.streams)
        (ServiceEvent.startStreamRtp endpoint).method
        fun _ t ↦ StreamMove endpoint s.streams t.streams :=
      (gives_startStreamRtp_service s.streams endpoint).bind fun _ ↦ Triple.pure fun _ h ↦ h
    exact hstart.after rfl hreturns
  | stopStream force => exact (gives_stopStream_service honly force).after rfl hreturns
  | startLocalRecording outputPath =>
    exact hquiet ((streams_startLocalRecording outputPath).bind fun _ ↦ .pure _)
  | stopLocalRecording => exact hquiet streams_stopLocalRecording
  | setVerticalCropEnabled enabled => exact hquiet (.modify fun _ ↦ rfl)
  | setView view =>
    exact hquiet (.bind (.modify fun _ ↦ rfl) fun _ ↦ .bind .get fun s ↦
      streams_of_sessions (sessions_withRtmpUSB (session_replaceView s.service.uvcCamera view)))
  | startPreview => exact hquiet (streams_of_sessions sessions_startPreview)
  | stopPreview => exact hquiet (streams_of_sessions sessions_stopPreview)
  | onDestroy =>
    have hrest : Leaves ServiceState.streams (do
        StreamService.stopLocalRecording
        onDevices id
        destroyCamera) :=
      .bind streams_stopLocalRecording fun _ ↦ streams_of_sessions
        (.bind (sessions_onDevices fun _ ↦ rfl) fun _ ↦ sessions_destroyCamera)
    have hdestroy : Gives (fun t ↦ t.streams = s.streams) StreamService.onDestroy
        fun _ t ↦ Silenced s.service.endpoint s.streams t.streams :=
      (gives_stopStream_service honly false).bind fun _ ↦
        (hrest.keeps (Silenced s.service.endpoint s.streams)).mono (fun _ h ↦ h) (fun _ _ h ↦ h)
          fun _ _ _ ↦ trivial
    exact hdestroy.after rfl hreturns
  | callback object encoderCallback =>
    exact hquiet
      (streams_onObject (stream_of_lifecycle (lifecycle_callback encoderCallback)) object)

/-- Only the object in use streams, to the endpoint, whatever is called. -/
theorem inv_serviceStep {s : ServiceState} {serviceCall : ServiceCall} (hinv : s.streams.Inv)
    (hreturns : ServiceReturns s serviceCall) : (serviceStep s serviceCall).streams.Inv := by
  have hstep := streams_serviceStep hinv.current hreturns
  obtain ⟨event, outcomes⟩ := serviceCall
  cases event with
  | onConnect supportedSizes =>
    rcases hstep with hsame | ⟨v, hconnect, hresume⟩
    · exact hsame ▸ hinv
    · exact hresume.inv hconnect.silent.1.inv
  | startStreamRtp endpoint => exact hstep.inv hinv
  | stopStream force => exact hstep.1.inv
  | onDisconnect => exact hstep.1.inv
  | onDettach => exact hstep.1.inv
  | onDestroy => exact hstep.1.inv
  | _ => exact hstep ▸ hinv

/-- The event asks for a stream. -/
def ServiceCall.startsStream (serviceCall : ServiceCall) : Bool :=
  match serviceCall.event with
  | .startStreamRtp _ => true
  | _ => false

/-- Without an endpoint nothing streams until it is asked for. -/
theorem off_serviceStep {s : ServiceState} {serviceCall : ServiceCall} (hoff : s.streams.Off)
    (hreturns : ServiceReturns s serviceCall) (hevent : serviceCall.startsStream = false) :
    (serviceStep s serviceCall).streams.Off := by
  have hstep := streams_serviceStep hoff.2.inv.current hreturns
  have hsilenced : ∀ {endpoint : Option String} {w : Streams}, endpoint = none →
      Silenced endpoint s.streams w → w.Off := fun hnone h ↦ ⟨h.2.1.trans hnone, h.1⟩
  have hnone : s.service.endpoint = none := hoff.1
  obtain ⟨event, outcomes⟩ := serviceCall
  cases event with
  | onConnect supportedSizes =>
    rcases hstep with hsame | ⟨v, hconnect, hresume⟩
    · exact hsame ▸ hoff
    · obtain ⟨hsilent, hendpoint, -⟩ := hconnect.silent
      rcases hresume with ⟨-, hsame⟩ | ⟨endpoint, hsome, -⟩
      · exact hsame ▸ ⟨hendpoint.trans hoff.1, hsilent⟩
      · exact absurd (hsome.symm.trans (hendpoint.trans hoff.1)) (Option.some_ne_none endpoint)
  | startStreamRtp endpoint => exact absurd hevent.symm Bool.false_ne_true
  | stopStream force => exact hsilenced (by rw [hnone, ite_self]) hstep
  | onDisconnect => exact hsilenced hnone hstep
  | onDettach => exact hsilenced hnone hstep
  | onDestroy => exact hsilenced hnone hstep
  | _ => exact hstep ▸ hoff

/-- Where there is an endpoint and `onConnect` gets to prepare video and audio and succeeds, the new
object streams to it. -/
def ResumesStream (s : ServiceState) (serviceCall : ServiceCall) : Prop :=
  ∀ supportedSizes endpoint s₁ s₂, serviceCall.event = .onConnect supportedSizes →
    s.service.endpoint = some endpoint →
    connectCamera supportedSizes { s with devices.outcomes := serviceCall.outcomes } =
      .ok true s₁ →
    prepareEncoders s₁.service.streamParameters s₁.service.uvcCamera s₁ = .ok true s₂ →
    (serviceStep s serviceCall).service.rtmpUSB = some s.objects.length ∧
      (serviceStep s serviceCall).streams.StreamsTo endpoint

/-- The stream that `resumeStream` starts. -/
theorem gives_resumeStream_prepared {s₁ s₂ : ServiceState} {endpoint : String} {object : ℕ}
    (hsilent : s₁.streams.Silent) (hendpoint : s₁.service.endpoint = some endpoint)
    (hobject : s₁.service.rtmpUSB = some object) (hlt : object < s₁.objects.length)
    (hprepared : prepareEncoders s₁.service.streamParameters s₁.service.uvcCamera s₁ =
      .ok true s₂) :
    Gives (fun s ↦ s = s₁) resumeStream fun _ s ↦
      s.service.rtmpUSB = some object ∧ s.streams.StreamsTo endpoint := by
  have hcurrent : s₁.current = some s₁.objects[object] := by
    rw [ServiceState.current, hobject, Option.bind_some, List.getElem?_eq_getElem hlt]
  have hidle : s₁.objects[object].streaming = false :=
    hsilent _ (List.mem_map_of_mem (List.getElem_mem hlt))
  have hsame : ({ s₁ with service.endpoint := some endpoint } : ServiceState) = s₁ := by
    obtain ⟨service, objects, devices⟩ := s₁
    obtain ⟨openGlView, _, rtmpUSB, uvcCamera, crop, stream, recording, size, size', size''⟩ :=
      service
    subst hendpoint
    rfl
  have hstreams : s₂.streams = s₁.streams := by
    have hquiet := (streams_of_sessions (sessions_prepareEncoders s₁.service.streamParameters
      s₁.service.uvcCamera)) s₁.streams
    exact hquiet.of_ok rfl hprepared
  have hstart : Gives (fun s ↦ s = s₁) (StreamService.startStreamRtp endpoint) fun _ s ↦
      s.service.rtmpUSB = some object ∧ s.streams.StreamsTo endpoint := by
    refine triple_read fun s hs ↦ ?_
    rw [hs, if_pos (by simp [hcurrent, hidle])]
    have hset : Gives (fun s ↦ s = s₁)
        (modify fun s ↦ { s with service.endpoint := some endpoint } : ServiceM PUnit)
        fun _ s ↦ s = s₁ := Triple.modify fun t ht ↦ by rw [ht, hsame]
    have hprepare : Gives (fun s ↦ s = s₁)
        (prepareEncoders s₁.service.streamParameters s₁.service.uvcCamera)
        fun prepared s ↦ prepared = true ∧ s.streams = s₁.streams := by
      rintro _ rfl
      rw [hprepared]
      exact ⟨rfl, hstreams⟩
    refine hset.bind fun _ ↦ hprepare.bind fun prepared ↦ .assume fun hready ↦ ?_
    rw [if_pos hready]
    refine (@gives_onRtmpUSB _ _
      (fun held part ↦ part = ⟨true, held.connections ++ [.connect endpoint]⟩)
      (fun part ↦ gives_stream_startStream s₁.service.uvcCamera part endpoint) _).bind fun _ ↦
      Triple.pure ?_
    rintro t ⟨held, part, hheld, rfl, ht⟩
    refine ⟨?_, ⟨true, held.connections ++ [.connect endpoint]⟩, ?_, rfl, url_connect _ endpoint⟩
    · have hrtmpUSB := congrArg Streams.rtmpUSB ht
      rw [Streams.rtmpUSB_put] at hrtmpUSB
      exact hrtmpUSB.trans hobject
    · rw [ht]
      exact Streams.current_put hheld
  refine triple_read fun s hs ↦ ?_
  rw [hs, hendpoint]
  exact hstart.bind fun _ ↦ Triple.pure fun _ h ↦ h

theorem resumesStream {s : ServiceState} {serviceCall : ServiceCall} (hinv : s.streams.Inv)
    (hreturns : ServiceReturns s serviceCall) : ResumesStream s serviceCall := by
  rintro supportedSizes endpoint s₁ s₂ hevent hendpoint hconnect hprepared
  obtain ⟨event, outcomes⟩ := serviceCall
  subst hevent
  have hmove := gives_connectCamera hinv.current supportedSizes
    { s with devices.outcomes := outcomes } rfl
  rw [hconnect] at hmove
  obtain ⟨hsilent, hsame, hobject, hlt⟩ := ConnectMove.silent hmove
  rw [ServiceState.streams, ServiceState.streams, List.length_map, List.length_map] at hlt
  have hobject' : s₁.service.rtmpUSB = some s.objects.length := by
    rw [← List.length_map USBBase.stream]
    exact hobject
  have hrun : StreamService.onConnect supportedSizes { s with devices.outcomes := outcomes } =
      resumeStream s₁ := by
    rw [onConnect_eq, bind_of_ok hconnect]
    rfl
  obtain ⟨value, s₃, hreturned⟩ := hreturns
  have hresumed : resumeStream s₁ = .ok value s₃ := hrun.symm.trans hreturned
  have hafter : serviceStep s ⟨.onConnect supportedSizes, outcomes⟩ = s₃ := by
    rw [serviceStep, after]
    simp only [ServiceEvent.method, hrun, hresumed]
  rw [hafter]
  exact (gives_resumeStream_prepared hsilent (hsame.trans hendpoint) hobject' hlt hprepared).of_ok
    rfl hresumed

/-! ### Runs -/

/-- After a forced `stopStream` nothing streams until a stream is asked for. -/
def SilentUntilStart (s : ServiceState) (calls : List ServiceCall) : Prop :=
  ∀ before serviceCall rest, calls = before ++ serviceCall :: rest →
    serviceCall.event = .stopStream true →
    (∀ later ∈ rest, ServiceCall.startsStream later = false) →
    Throughout serviceStep (fun t ↦ t.streams.Silent)
      (serviceStep (run serviceStep s before) serviceCall) rest

/-- Along any calls of the service, USB events and callbacks on a new service whose methods return,
the object in use streams only to the endpoint; after a forced stop nothing streams until the next
`startStreamRtp`; and `onConnect` resumes the stream to the endpoint. -/
theorem stream_endpoint (openGlView : Option ℕ) (devices : Devices) (calls : List ServiceCall)
    (hreturns : Meets serviceStep ServiceReturns (ServiceState.initial openGlView devices) calls) :
    Throughout serviceStep (fun s ↦ s.streams.ToEndpoint)
        (ServiceState.initial openGlView devices) calls ∧
      SilentUntilStart (ServiceState.initial openGlView devices) calls ∧
      Meets serviceStep ResumesStream (ServiceState.initial openGlView devices) calls := by
  have hinit : (ServiceState.initial openGlView devices).streams.Inv :=
    Streams.Silent.inv fun _ hmem ↦ absurd hmem List.not_mem_nil
  have hinv : ∀ s serviceCall, s.streams.Inv → ServiceReturns s serviceCall →
      (serviceStep s serviceCall).streams.Inv := fun _ _ ↦ inv_serviceStep
  refine ⟨?_, ?_, ?_⟩
  · exact (throughout_of_meets hinv hinit hreturns).mono fun _ h ↦ h.endpoint
  · rintro before ⟨event, outcomes⟩ rest rfl rfl hrest
    obtain ⟨hbefore, hstop, hlater⟩ := meets_append.mp hreturns
    have hstopped := streams_serviceStep (inv_run hinv hinit hbefore).current hstop
    have hoff : (serviceStep (run serviceStep (ServiceState.initial openGlView devices) before)
        ⟨.stopStream true, outcomes⟩).streams.Off := ⟨hstopped.2.1, hstopped.1⟩
    have hkept : ∀ t serviceCall, t.streams.Off →
        ServiceReturns t serviceCall ∧ serviceCall.startsStream = false →
          (serviceStep t serviceCall).streams.Off :=
      fun t serviceCall h hcall ↦ off_serviceStep h hcall.1 hcall.2
    exact (throughout_of_meets hkept hoff (hlater.and (meets_of_mem hrest))).mono fun _ h ↦ h.2
  · exact meets_of_inv hinv (fun _ _ ↦ resumesStream) hinit hreturns

/-- A stream that is resumed when the camera is connected again, and one that was stopped. -/
theorem stream_endpoint_reconnected :
    let calls := [(ServiceEvent.onConnect [⟨640, 480⟩]).plain,
      (ServiceEvent.startStreamRtp "rtmp://host/a").plain, ServiceEvent.onDisconnect.plain,
      (ServiceEvent.onConnect [⟨640, 480⟩]).plain, (ServiceEvent.stopStream true).plain,
      (ServiceEvent.onConnect [⟨640, 480⟩]).plain]
    Throughout serviceStep (fun s ↦ s.streams.ToEndpoint)
        (ServiceState.initial (some 0) oneCamera) calls ∧
      SilentUntilStart (ServiceState.initial (some 0) oneCamera) calls ∧
      Meets serviceStep ResumesStream (ServiceState.initial (some 0) oneCamera) calls :=
  stream_endpoint (some 0) oneCamera _ (by decide)

end UvcRtmpStream.Streaming
