import UvcRtmpStream.Streaming.Endpoint
import UvcRtmpStream.Streaming.RecordingOwnership
import UvcRtmpStream.Streaming.StartCalls

/-!
# A recording start that fails

A `startLocalRecording` that returns `false` is meant to leave what is recorded and what runs as it
was (`FailureUndone`). `startRecord` creates the muxer and sets `recording` before it starts or
resets the encoders, and `startLocalRecording` ignores the exceptions of all of them, so a failure
is undone exactly where the muxer is not created, or where nothing after it fails
(`CompletesRecord`).

The two are told apart by the outcomes of the calls, which `triple_recordAttempt` follows through
every prefix of the start, while streaming and while idle. That an abandoned muxer is never the one
from before needs an invariant of the service: every muxer in place is one of those there are
(`Recordings.Placed`).

While failures are undone, no frame that comes after one is written for an object that was not
recording (`NoStrayFrame`).
-/

set_option autoImplicit false
set_option relaxedAutoImplicit false

namespace UvcRtmpStream.Streaming

open UvcRtmpStream.Foundations UvcRtmpStream.Platform UvcRtmpStream.Replay

/-- Whether an object records and to which muxer, and which encoders run. -/
structure Activity where
  recording : Bool
  mediaMuxer : Option ℕ
  videoEncoderRunning : Bool
  audioEncoderRunning : Bool
  deriving DecidableEq

/-- What an object does. -/
def USBBase.activity (base : USBBase) : Activity :=
  ⟨base.recording, base.mediaMuxer, base.videoEncoder.running, base.audioEncoderRunning⟩

/-- The event is a `startLocalRecording` that returns `false`. -/
def FailsToRecord (s : ServiceState) (serviceCall : ServiceCall) : Prop :=
  ∃ outputPath t, serviceCall.event = .startLocalRecording outputPath ∧
    StreamService.startLocalRecording outputPath
      { s with devices.outcomes := serviceCall.outcomes } = .ok false t

/-- A recording start that fails leaves every object doing what it did. -/
def FailureUndone (s : ServiceState) (serviceCall : ServiceCall) : Prop :=
  FailsToRecord s serviceCall →
    (serviceStep s serviceCall).objects.map USBBase.activity = s.objects.map USBBase.activity

/-- The calls of `startRecord` after the constructor of the muxer. -/
def Usb.recordCalls (u : Usb) (outcomes : List Outcome) : ℕ :=
  if u.base.streaming then if u.base.videoEncoder.running then 3 else 0
  else encoderCalls outcomes

/-- A recording start gets to the muxer, and its constructor returns. -/
def Usb.CreatesMuxer (u : Usb) (uvcCamera : Option ℕ) : Prop :=
  u.Prepares uvcCamera ∧ AllReturn 1 (u.outcomes.drop (u.previewCalls + 4))

/-- The calls that a recording start makes after the constructor of the muxer return. -/
def Usb.StartsRecording (u : Usb) : Prop :=
  let outcomes := u.outcomes.drop (u.previewCalls + 5)
  AllReturn (u.recordCalls outcomes) outcomes

/-- In a recording start that is not refused, either the muxer is not created or all the calls after
it return. -/
def CompletesRecord (s : ServiceState) (serviceCall : ServiceCall) : Prop :=
  ∀ outputPath, serviceCall.event = .startLocalRecording outputPath →
    ServiceState.CanRecord { s with devices.outcomes := serviceCall.outcomes } outputPath →
    ∀ u ∈ ServiceState.currentUsb { s with devices.outcomes := serviceCall.outcomes },
      u.CreatesMuxer s.service.uvcCamera → u.StartsRecording

/-! ### The start on one object -/

section Attempt

variable (u : Usb) (camera : ℕ)

/-- The start did not get past the constructor of the muxer, and the session is as before. -/
def Usb.Refuses (t : Usb) : Prop := ¬ u.CreatesMuxer (some camera) ∧ t.session = u.session

/-- The start failed with a new muxer in place. -/
def Usb.Abandons (t : Usb) : Prop :=
  u.CreatesMuxer (some camera) ∧ ¬ u.StartsRecording ∧
    t.base.mediaMuxer = some u.devices.muxers.length

/-- What the rest of `startRecord` finds after the constructor of the muxer. -/
structure Usb.Created (t : Usb) : Prop where
  outcomes_eq : t.outcomes = u.outcomes.drop 1
  mediaMuxer_eq : t.base.mediaMuxer = some u.devices.muxers.length
  streaming_eq : t.base.streaming = u.base.streaming
  running_eq : t.base.videoEncoder.running = u.base.videoEncoder.running

theorem triple_createMuxer_calls :
    Triple (fun t ↦ t = u) createMuxer (fun _ t ↦ AllReturn 1 u.outcomes ∧ u.Created t)
      (fun _ t ↦ ¬ AllReturn 1 u.outcomes ∧ t.session = u.session) := by
  obtain ⟨base, cameras, interfaces, muxers, replay, outcomes, writes⟩ := u
  rintro _ rfl
  cases outcomes with
  | nil => exact ⟨rfl, rfl, rfl, rfl, rfl⟩
  | cons outcome rest =>
    cases outcome with
    | returns value => exact ⟨rfl, rfl, rfl, rfl, rfl⟩
    | throws exception => exact ⟨Bool.false_ne_true, rfl⟩

/-- `startRecord` returns where all its calls do. Otherwise the constructor of the muxer threw, or
the new muxer is in place. -/
theorem triple_startRecord :
    Triple (fun t ↦ t = u) (startRecord (some camera))
      (fun _ _ ↦ AllReturn (u.recordCalls (u.outcomes.drop 1)) (u.outcomes.drop 1))
      (fun _ t ↦ ¬ AllReturn 1 u.outcomes ∧ t.session = u.session ∨ AllReturn 1 u.outcomes ∧
        ¬ AllReturn (u.recordCalls (u.outcomes.drop 1)) (u.outcomes.drop 1) ∧
        t.base.mediaMuxer = some u.devices.muxers.length) := by
  refine Triple.bind ((triple_createMuxer_calls u).mono (fun _ h ↦ h) (fun _ _ h ↦ h)
    fun _ _ h ↦ Or.inl h) fun _ ↦ .assume fun hcreated ↦ ?_
  have hset : ∀ t : Usb, u.Created t → u.Created { t with base.recording := true } :=
    fun t h ↦ ⟨h.outcomes_eq, h.mediaMuxer_eq, h.streaming_eq, h.running_eq⟩
  refine triple_update hset (triple_read_eq fun t ht ↦ ?_)
  rw [ht.streaming_eq, ht.running_eq]
  have hmakes : MakesCalls u.recordCalls
      (if !u.base.streaming then startEncoders (some camera)
        else whenever u.base.videoEncoder.running resetVideoEncoder) := by
    unfold Usb.recordCalls
    cases u.base.streaming with
    | false => exact makes_startEncoders camera
    | true => exact makes_resetVideoEncoder.whenever
  have hleaves : Leaves (fun v : Usb ↦ v.base.mediaMuxer)
      (if !u.base.streaming then startEncoders (some camera)
        else whenever u.base.videoEncoder.running resetVideoEncoder) :=
    (Leaves.ite (record_startEncoders _) (.whenever (record_of_session
      session_resetVideoEncoder))).comp RecordView.mediaMuxer fun _ ↦ rfl
  exact (((hmakes _).of_state ht.outcomes_eq).and ((hleaves _).of_state ht.mediaMuxer_eq)).mono
    (fun _ h ↦ h) (fun _ _ h ↦ h.1.1) fun _ _ h ↦ Or.inr ⟨hcreated, h⟩

/-- A recording start on an object, at every point where it may fail. -/
theorem triple_recordAttempt (parameters : VideoParameters) :
    Triple (fun t ↦ t = u) (startAfter parameters (some camera) (startRecord (some camera)))
      (fun started t ↦ if started then u.StartsRecording else u.Refuses camera t)
      (fun _ t ↦ u.Refuses camera t ∨ u.Abandons camera t) := by
  have hprepare := (triple_prepareBoth u (some camera) parameters).and
    ((session_prepareBoth (some camera) parameters u.session).of_state rfl)
  refine Triple.bind (hprepare.mono (fun _ h ↦ h) (fun _ _ h ↦ h) ?_) fun prepared t ht ↦ ?_
  · rintro exception t ⟨hbroken, hsession⟩
    exact Or.inl ⟨fun hcreates ↦ hbroken hcreates.1, hsession⟩
  · obtain ⟨⟨hprepares, houtcomes⟩, hsession⟩ := ht
    cases prepared with
    | false => exact ⟨fun hcreates ↦ Bool.false_ne_true (hprepares.mpr hcreates.1), hsession⟩
    | true =>
      have hcalls : t.recordCalls = u.recordCalls := by
        have hstreaming : t.base.streaming = u.base.streaming :=
          congrArg (fun v ↦ v.base.streaming) hsession
        have hrunning : t.base.videoEncoder.running = u.base.videoEncoder.running :=
          congrArg (fun v ↦ v.base.videoEncoder.running) hsession
        unfold Usb.recordCalls
        rw [hstreaming, hrunning]
      have hmuxers : t.devices.muxers = u.devices.muxers :=
        congrArg (fun v ↦ v.devices.muxers) hsession
      have hrecord := triple_startRecord t camera
      rw [houtcomes rfl, List.drop_drop, hcalls, hmuxers, hsession] at hrecord
      refine Triple.bind (hrecord.mono (fun _ h ↦ h) (fun _ _ h ↦ h) ?_)
        (fun _ ↦ Triple.pure fun _ h ↦ h) t rfl
      rintro exception t' (⟨hbroken, hsame⟩ | ⟨hcreated, hfails, hmuxer⟩)
      · exact Or.inl ⟨fun hcreates ↦ hbroken hcreates.2, hsame⟩
      · exact Or.inr ⟨⟨hprepares.mp rfl, hcreated⟩, hfails, hmuxer⟩

end Attempt

/-! ### Muxers in place -/

namespace Recordings

/-- Every muxer in place is one of those there are. -/
def Placed (r : Recordings) : Prop :=
  ∀ part ∈ r.parts, ∀ index ∈ part.mediaMuxer, index < r.muxers.length

/-- An object is not recording, or not there yet. -/
def Idle (object : ℕ) (r : Recordings) : Prop :=
  ∀ part ∈ r.parts[object]?, part.recording = false

theorem Placed.renew {r : Recordings} (h : r.Placed) : r.renew.Placed := by
  intro part hmem index hindex
  rcases List.mem_append.mp hmem with hold | hnew
  · exact h part hold index hindex
  · rw [List.mem_singleton.mp hnew] at hindex
    cases hindex

theorem Idle.renew {object : ℕ} {r : Recordings} (h : r.Idle object) : r.renew.Idle object := by
  intro part hpart
  rcases Nat.lt_or_ge object r.parts.length with hlt | hge
  · exact h part ((List.getElem?_append_left hlt).symm.trans hpart)
  · rw [show r.renew.parts[object]? = _ from List.getElem?_append_right hge] at hpart
    rw [List.mem_singleton.mp (List.mem_of_getElem? hpart)]

end Recordings

open Recordings

/-- The muxer of a recording stays, is forgotten, or is a new one. -/
def Replaces (v w : RecordView) : Prop :=
  v.muxers.length ≤ w.muxers.length ∧
    ∀ index ∈ w.mediaMuxer, v.mediaMuxer = some index ∨ index < w.muxers.length

theorem StartMove.replaces {v w : RecordView} (h : StartMove v w) : Replaces v w := by
  rcases h with rfl | rfl
  · exact ⟨le_refl _, fun _ hindex ↦ Or.inl hindex⟩
  · have hlength : v.create.muxers.length = v.muxers.length + 1 := List.length_append
    refine ⟨hlength ▸ Nat.le_succ _, fun index hindex ↦ Or.inr ?_⟩
    obtain rfl := Option.some.inj hindex
    exact hlength ▸ Nat.lt_succ_self _

theorem StopMove.replaces {v w : RecordView} (h : StopMove v w) : Replaces v w := by
  cases h with
  | discard => exact ⟨le_refl _, nofun⟩
  | threw => exact ⟨(v.length_onMuxer _).ge, fun _ hindex ↦ Or.inl hindex⟩
  | stopped => exact ⟨(v.length_onMuxer _).ge, nofun⟩

theorem DeliverMove.replaces {v w : RecordView} (h : DeliverMove v w) :
    v.muxers.length = w.muxers.length ∧ w.mediaMuxer = v.mediaMuxer := by
  cases h with
  | addTrack => exact ⟨(v.length_onMuxer _).symm, rfl⟩
  | setTracks => exact ⟨rfl, rfl⟩
  | start => exact ⟨(v.length_onMuxer _).symm, rfl⟩
  | write => exact ⟨(v.length_onMuxer _).symm, rfl⟩

theorem replaces_of_delivers {v w : RecordView} (h : Delivers v w) : Replaces v w := by
  have hkept : v.muxers.length = w.muxers.length ∧ w.mediaMuxer = v.mediaMuxer := by
    induction h with
    | refl => exact ⟨rfl, rfl⟩
    | tail _ hmove ih =>
      obtain ⟨hlength, hheld⟩ := hmove.replaces
      exact ⟨ih.1.trans hlength, hheld.trans ih.2⟩
  exact ⟨hkept.1.le, fun index hindex ↦ Or.inl (hkept.2.symm.trans hindex)⟩

/-- A stop leaves no recording. -/
theorem StopMove.idle {v w : RecordView} (h : StopMove v w) : w.recording = false := by
  cases h <;> rfl

section Moves

variable {move : RecordView → RecordView → Prop} {object : ℕ} {r r' : Recordings}

theorem ObjectMove.placed (h : ObjectMove move object r r')
    (hmove : ∀ v w, move v w → Replaces v w) (hplaced : r.Placed) : r'.Placed := by
  obtain ⟨v, w, hpart, hmuxers, hvw, rfl⟩ := h
  obtain ⟨hgrows, hheld⟩ := hmove v w hvw
  intro part hmem index hindex
  rcases List.mem_or_eq_of_mem_set hmem with hold | rfl
  · exact lt_of_lt_of_le (hmuxers ▸ hplaced part hold index hindex) hgrows
  · rcases hheld index hindex with hsame | hlt
    · have hin : index < r.muxers.length :=
        hplaced v.part (List.mem_of_getElem? hpart) index hsame
      exact lt_of_lt_of_le (hmuxers ▸ hin) hgrows
    · exact hlt

theorem CurrentMove.placed (h : CurrentMove move r r') (hmove : ∀ v w, move v w → Replaces v w)
    (hplaced : r.Placed) : r'.Placed := by
  rcases h with ⟨-, rfl⟩ | ⟨object, -, hobject⟩
  · exact hplaced
  · exact hobject.placed hmove hplaced

theorem ObjectMove.idle (h : ObjectMove move object r r')
    (hmove : ∀ v w, move v w → v.recording = false → w.recording = false) {other : ℕ}
    (hidle : r.Idle other) : r'.Idle other := by
  obtain ⟨v, w, hpart, -, hvw, rfl⟩ := h
  intro part hin
  by_cases hsame : object = other
  · subst hsame
    have hset : (r.parts.set object w.part)[object]? = some w.part :=
      List.getElem?_set_self (List.getElem?_eq_some_iff.mp hpart).1
    obtain rfl := Option.some.inj (hset.symm.trans hin)
    exact hmove v w hvw (hidle v.part hpart)
  · exact hidle part ((List.getElem?_set_ne hsame).symm.trans hin)

theorem CurrentMove.idle (h : CurrentMove StopMove r r') (hidle : r.Idle object) :
    r'.Idle object := by
  rcases h with ⟨-, rfl⟩ | ⟨current, -, hobject⟩
  · exact hidle
  · exact hobject.idle (fun _ _ hstop _ ↦ hstop.idle) hidle

end Moves

/-- The step lemma: every muxer in place is one of those there are. -/
theorem placed_serviceStep {s : ServiceState} (h : s.recordings.Placed)
    (serviceCall : ServiceCall) :
    (serviceStep s serviceCall).recordings.Placed := by
  have hmoves := recordings_serviceStep s serviceCall
  obtain ⟨event, outcomes⟩ := serviceCall
  cases event with
  | onConnect supportedSizes =>
    rcases hmoves with hsame | hrenew
    · exact hsame ▸ h
    · exact hrenew ▸ h.renew
  | startLocalRecording outputPath =>
    rcases hmoves with hsame | hmove
    · exact hsame ▸ h
    · exact hmove.placed (fun _ _ hstart ↦ hstart.replaces) h
  | stopLocalRecording => exact hmoves.placed (fun _ _ hstop ↦ hstop.replaces) h
  | onDestroy =>
    rcases hmoves with hmove | ⟨hsame, -⟩
    · exact hmove.placed (fun _ _ hstop ↦ hstop.replaces) h
    · exact hsame ▸ h
  | callback object encoderCallback =>
    rcases hmoves with hsame | hmove
    · exact hsame ▸ h
    · exact hmove.placed (fun _ _ hdelivers ↦ replaces_of_delivers hdelivers) h
  | _ => exact hmoves ▸ h

/-- An object that is not recording does not begin to but in a recording start. -/
theorem idle_serviceStep {s : ServiceState} {object : ℕ} (h : s.recordings.Idle object)
    {serviceCall : ServiceCall}
    (hevent : ∀ outputPath, serviceCall.event ≠ .startLocalRecording outputPath) :
    (serviceStep s serviceCall).recordings.Idle object := by
  have hmoves := recordings_serviceStep s serviceCall
  obtain ⟨event, outcomes⟩ := serviceCall
  cases event with
  | onConnect supportedSizes =>
    rcases hmoves with hsame | hrenew
    · exact hsame ▸ h
    · exact hrenew ▸ h.renew
  | startLocalRecording outputPath => exact absurd rfl (hevent outputPath)
  | stopLocalRecording => exact hmoves.idle h
  | onDestroy =>
    rcases hmoves with hmove | ⟨hsame, -⟩
    · exact hmove.idle h
    · exact hsame ▸ h
  | callback other encoderCallback =>
    rcases hmoves with hsame | hmove
    · exact hsame ▸ h
    · exact hmove.idle (fun _ _ hdelivers hoff ↦ eq_of_delivers hdelivers hoff ▸ hoff) h
  | _ => exact hmoves ▸ h

/-- The encoders of an object that is not recording deliver in vain. -/
theorem recordings_callback_idle {s : ServiceState} {object : ℕ} (h : s.recordings.Idle object)
    {serviceCall : ServiceCall} {encoderCallback : EncoderCallback}
    (hevent : serviceCall.event = .callback object encoderCallback) :
    (serviceStep s serviceCall).recordings = s.recordings := by
  have hmoves := recordings_serviceStep s serviceCall
  rw [hevent] at hmoves
  rcases hmoves with hsame | ⟨v, w, hpart, hmuxers, hdelivers, hmoved⟩
  · exact hsame
  · rw [hmoved, eq_of_delivers hdelivers (h v.part hpart), put_self hpart hmuxers]

/-! ### Steps -/

/-- What an object does is a part of its session. -/
theorem activity_of_session {s : ServiceState} {u u' : Usb} (hu : s.currentUsb = some u)
    (hsame : u'.session = u.session) :
    (s.putCurrent u').objects.map USBBase.activity = s.objects.map USBBase.activity := by
  obtain ⟨object, hobject, hheld⟩ := Option.bind_eq_some_iff.mp hu
  have hput : (s.putCurrent u').sessions = s.sessions := by
    simp only [ServiceState.putCurrent, hobject]
    exact sessions_put hheld hsame
  have hactivity : ∀ t : ServiceState,
      t.objects.map USBBase.activity = t.sessions.objects.map USBBase.activity := by
    intro t
    rw [ServiceState.sessions, List.map_map]
    rfl
  rw [hactivity, hput, ← hactivity]

theorem activity_eq_of_map {s : ServiceState} {u u' : Usb} (hu : s.currentUsb = some u)
    (hsame : (s.putCurrent u').objects.map USBBase.activity = s.objects.map USBBase.activity) :
    u'.base.activity = u.base.activity := by
  obtain ⟨object, hobject, hheld⟩ := Option.bind_eq_some_iff.mp hu
  obtain ⟨object', hobject', hheld'⟩ :=
    Option.bind_eq_some_iff.mp (currentUsb_putCurrent hu u')
  obtain rfl := Option.some.inj (hobject.symm.trans hobject')
  have hat := congrArg (·[object]?) hsame
  simpa only [List.getElem?_map, (usb_eq_some hheld).1, (usb_eq_some hheld').1, Option.map_some,
    Option.some.injEq] using hat

/-- A new muxer is not the one in place. -/
theorem mediaMuxer_ne_length {s : ServiceState} (hplaced : s.recordings.Placed) {u : Usb}
    (hu : s.currentUsb = some u) : u.base.mediaMuxer ≠ some u.devices.muxers.length := by
  intro hmuxer
  obtain ⟨object, -, hheld⟩ := Option.bind_eq_some_iff.mp hu
  obtain ⟨hpart, hmuxers⟩ := recordings_usb hheld
  have hlt := hplaced u.record.part (List.mem_of_getElem? hpart) _ hmuxer
  rw [hmuxers] at hlt
  exact lt_irrefl _ hlt

/-- How a recording start that is not refused ends: it returns `true`, or it has changed nothing, or
it leaves a new muxer in place. -/
theorem exits_startLocalRecording {s : ServiceState} {u : Usb} {outputPath : String} {camera : ℕ}
    (hu : s.currentUsb = some u) (hasked : s.CanRecord outputPath)
    (hcamera : s.service.uvcCamera = some camera) :
    ∃ started u',
      StreamService.startLocalRecording outputPath s = .ok started (s.putCurrent u') ∧
        if started then u.StartsRecording else u.Refuses camera u' ∨ u.Abandons camera u' := by
  have hattempt := triple_recordAttempt u camera s.service.recordingParameters
  rw [← hcamera] at hattempt
  obtain ⟨started, t, hrun, u', hexit, rfl⟩ :=
    (triple_startLocalRecording_current hu hasked hattempt).exit rfl
  refine ⟨started, u', hrun, ?_⟩
  rcases hexit with hreturned | ⟨rfl, -, hthrown⟩
  · cases started with
    | false => exact Or.inl hreturned
    | true => exact hreturned
  · exact hthrown

/-- The step lemma: a failure is undone exactly where the start completes or does not get to the
muxer. -/
theorem failureUndone_iff {s : ServiceState} (hplaced : s.recordings.Placed)
    (serviceCall : ServiceCall) : FailureUndone s serviceCall ↔ CompletesRecord s serviceCall := by
  obtain ⟨event, outcomes⟩ := serviceCall
  constructor
  · rintro hundone outputPath rfl hasked u hu hcreates
    obtain ⟨camera, hcamera⟩ := Option.isSome_iff_exists.mp hasked.2.1
    obtain ⟨started, u', hrun, hexit⟩ := exits_startLocalRecording hu hasked hcamera
    cases started with
    | true => exact hexit
    | false =>
      have hsame := hundone ⟨outputPath, _, rfl, hrun⟩
      rw [serviceStep_of_ok (bind_of_ok hrun)] at hsame
      rcases hexit with hrefuses | habandons
      · exact absurd (hcamera ▸ hcreates) hrefuses.1
      · have hmuxer := congrArg Activity.mediaMuxer (activity_eq_of_map hu hsame)
        have hnew := @mediaMuxer_ne_length { s with devices.outcomes := outcomes } hplaced u hu
        exact absurd (hmuxer.symm.trans habandons.2.2) hnew
  · rintro hcompletes ⟨outputPath, t, rfl, hrun⟩
    rw [serviceStep_of_ok (bind_of_ok hrun)]
    by_cases hasked : ServiceState.CanRecord { s with devices.outcomes := outcomes } outputPath
    · obtain ⟨u, hu⟩ := Option.isSome_iff_exists.mp hasked.1
      obtain ⟨camera, hcamera⟩ := Option.isSome_iff_exists.mp hasked.2.1
      obtain ⟨started, u', hrun', hexit⟩ := exits_startLocalRecording hu hasked hcamera
      obtain ⟨rfl, rfl⟩ := EStateM.Result.ok.inj (hrun.symm.trans hrun')
      rcases hexit with hrefuses | ⟨hcreates, hfails, -⟩
      · exact activity_of_session hu hrefuses.2
      · exact absurd (hcompletes outputPath rfl hasked u hu (hcamera ▸ hcreates)) hfails
    · have hrefused := startLocalRecording_refused hasked
      obtain ⟨-, rfl⟩ := EStateM.Result.ok.inj (hrun.symm.trans hrefused)
      rfl

/-! ### Runs -/

/-- After a recording start that failed, no frame of an object that was not recording is written,
until a recording is started again. -/
def NoStrayFrame (s : ServiceState) (calls : List ServiceCall) : Prop :=
  ∀ before failed between frame rest object encoderCallback,
    calls = before ++ failed :: (between ++ frame :: rest) →
    FailsToRecord (run serviceStep s before) failed →
    (run serviceStep s before).recordings.Idle object →
    (∀ later ∈ between, ∀ outputPath,
      ServiceCall.event later ≠ .startLocalRecording outputPath) →
    ServiceCall.event frame = .callback object encoderCallback →
    (run serviceStep s (before ++ failed :: (between ++ [frame]))).devices.muxers =
      (run serviceStep s (before ++ failed :: between)).devices.muxers

/-- Idle objects are told by what they do. -/
theorem idle_of_activity {s t : ServiceState} {object : ℕ}
    (hsame : t.objects.map USBBase.activity = s.objects.map USBBase.activity)
    (hidle : s.recordings.Idle object) : t.recordings.Idle object := by
  have hmap : ∀ s : ServiceState, s.recordings.Idle object ↔
      ∀ activity ∈ (s.objects.map USBBase.activity)[object]?, activity.recording = false := by
    intro s
    rw [Idle, ServiceState.recordings, List.getElem?_map, List.getElem?_map]
    cases s.objects[object]? <;> simp [USBBase.part, USBBase.activity]
  rw [hmap, hsame, ← hmap]
  exact hidle

/-- A failed recording start has no effect. Along any calls of the service, USB events and callbacks
on a new service, with any outcomes of the calls of libraries, every recording start that returns
`false` leaves every object doing what it did if and only if every one that creates its muxer
completes; and then no later frame of an object that was not recording is written. -/
theorem failed_record_start_iff (openGlView : Option ℕ) (devices : Devices)
    (calls : List ServiceCall) :
    (Meets serviceStep FailureUndone (ServiceState.initial openGlView devices) calls ↔
      Meets serviceStep CompletesRecord (ServiceState.initial openGlView devices) calls) ∧
    (Meets serviceStep CompletesRecord (ServiceState.initial openGlView devices) calls →
      NoStrayFrame (ServiceState.initial openGlView devices) calls) := by
  have hplaced : (ServiceState.initial openGlView devices).recordings.Placed :=
    fun part hmem ↦ absurd hmem List.not_mem_nil
  have hiff : Meets serviceStep FailureUndone (ServiceState.initial openGlView devices) calls ↔
      Meets serviceStep CompletesRecord (ServiceState.initial openGlView devices) calls :=
    @meets_iff_of_inv _ _ serviceStep CompletesRecord (fun _ _ ↦ True)
      (fun s ↦ s.recordings.Placed) FailureUndone _ _
      (fun _ serviceCall h _ _ ↦ placed_serviceStep h serviceCall)
      (fun _ serviceCall h _ ↦ failureUndone_iff h serviceCall) hplaced
      (meets_of_forall fun _ _ ↦ trivial)
  refine ⟨hiff, fun hcompletes ↦ ?_⟩
  rintro before failed between frame rest object encoderCallback rfl hfails hidle hbetween hframe
  obtain ⟨-, hundone, -⟩ := meets_append.mp (hiff.mpr hcompletes)
  have hafter := idle_of_activity (hundone hfails) hidle
  have hstep : ∀ (t : ServiceState) (serviceCall : ServiceCall), t.recordings.Idle object →
      (∀ outputPath, serviceCall.event ≠ .startLocalRecording outputPath) →
      (serviceStep t serviceCall).recordings.Idle object :=
    fun _ _ h hevent ↦ idle_serviceStep h hevent
  have hlater := inv_run hstep hafter (meets_of_mem hbetween)
  have hwrites := congrArg Recordings.muxers (recordings_callback_idle hlater hframe)
  rw [run_append, run_append, run_cons, run_cons, run_append]
  exact hwrites

/-- A recording start whose second encoder cannot be started: eight calls return, the last of them
the start of the video encoder, and the ninth throws. -/
def abandonedStart : ServiceCall :=
  ⟨.startLocalRecording "/storage/clip.mp4",
    List.replicate 8 (.returns true) ++ [.throws .codecException]⟩

/-- It returns `false`, and the object is recording. -/
theorem not_failureUndone_abandoned :
    ¬ Meets serviceStep FailureUndone (ServiceState.initial (some 0) oneCamera)
      [(ServiceEvent.onConnect [⟨640, 480⟩]).plain, abandonedStart] := by
  rintro ⟨-, hundone, -⟩
  have hfails : FailsToRecord (serviceStep (ServiceState.initial (some 0) oneCamera)
      (ServiceEvent.onConnect [⟨640, 480⟩]).plain) abandonedStart := ⟨_, _, rfl, rfl⟩
  exact absurd (hundone hfails) (by decide)

end UvcRtmpStream.Streaming
