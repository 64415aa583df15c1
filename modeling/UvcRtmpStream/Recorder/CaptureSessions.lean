import UvcRtmpStream.Recorder.ActiveEncoder
import UvcRtmpStream.Recorder.PreviewSurface

/-!
# The fields a session's callback reads

`startPreviewSession` checks the camera and the preview surface, and requests a session with that
surface and perhaps the encoder's. When the session is configured, `onConfigured` reads the camera
and both surfaces again, and the fields may have been cleared or replaced since. `SessionConsistent`
says that it finds what the session was requested with.

That the callback adds only surfaces of its session turns out to mean that the fields hold the very
surfaces of the request (`FieldsStand`), because a surface never comes back under its old number:
`SurfaceView.Distinct` is the invariant, kept by every handler. And whether the fields stand is
decided by the handlers that ran between the request and the callback (`Undisturbed`): which of them
take the camera or a surface away, and which bring it back. `capture_sessions_iff` is the result.
-/

set_option autoImplicit false
set_option relaxedAutoImplicit false

namespace UvcRtmpStream.Recorder

open UvcRtmpStream.Foundations UvcRtmpStream.Platform

/-- A callback of a session finds a camera and a preview surface, and every target that it adds is a
surface that the session was created with. -/
def SessionConsistent (s : MainActivity) : RecorderEvent → Prop
  | .onConfigured session => ∀ requested ∈ s.sessions[session]?,
    ∃ targets, requestTargets s requested = .ok targets ∧
      ∀ target ∈ targets, target ∈ requested.surfaces
  | _ => True

/-! ### What runs between a request and its callback -/

/-- The event requests the session, which is one more than there were. -/
def RequestsSession (s : MainActivity) (event : RecorderEvent) (session : ℕ) : Prop :=
  s.sessions.length = session ∧ (recorderStep s event).sessions.length = session + 1

/-- The event is a `startRecording`, which requests its session with the encoder's surface. -/
def RecorderEvent.startsRecording : RecorderEvent → Bool
  | .startRecording _ _ _ => true
  | _ => false

/-- The preview surface is neither released nor replaced. -/
def KeepsPreview (_ : MainActivity) : RecorderEvent → Prop
  | .onPause | .onSurfaceTextureAvailable _ => False
  | _ => True

/-- The camera is closed. -/
def LosesCamera (_ : MainActivity) : RecorderEvent → Prop
  | .onPause | .onDisconnected _ | .onError _ => True
  | _ => False

/-- A camera is opened. -/
def OpensCamera : RecorderEvent → Prop
  | .onOpened _ _ => True
  | _ => False

/-- A recording gets past the checks and its encoder makes a surface. -/
def MakesEncoderSurface (s : MainActivity) : RecorderEvent → Prop
  | .startRecording encoderFault _ _ =>
    StartAccepted s ∧ (encoderFault = .none ∨ encoderFault = .startFails)
  | _ => False

/-- A recording is stopped. -/
def StopsRecording : RecorderEvent → Prop
  | .stopRecording _ | .onPause => True
  | _ => False

/-- After the request of a session no handler has taken from it what its callback reads: the preview
surface is kept, a camera that was closed has been followed by another one, and where the session is
of a recording, a later recording with a surface of its own has been stopped. -/
structure Undisturbed (s : MainActivity) (request : RecorderEvent) (between : List RecorderEvent) :
    Prop where
  preview : Meets recorderStep KeepsPreview s between
  camera : Mended recorderStep LosesCamera OpensCamera s between
  encoder : request.startsRecording = true →
    Mended recorderStep MakesEncoderSurface StopsRecording s between

/-- Every session that is configured was undisturbed since its request. -/
def RequestsUndisturbed (events : List RecorderEvent) : Prop :=
  ∀ before request between session after,
    events = before ++ request :: (between ++ .onConfigured session :: after) →
      RequestsSession (recorderRun .initial before) request session →
        Undisturbed (recorderRun .initial (before ++ [request])) request between

/-! ### Numbers of surfaces -/

/-- The surfaces, the sessions requested with them, and the next number. -/
@[ext] structure SurfaceView where
  previewSurface : Option ℕ
  encoderSurface : Option ℕ
  sessions : List RequestedSession
  nextHandle : ℕ

/-- The surface part of the state. -/
def MainActivity.surfacing (s : MainActivity) : SurfaceView :=
  ⟨s.previewSurface, s.encoderSurface, s.sessions, s.nextHandle⟩

/-- A session was requested with a preview surface, and perhaps one of an encoder, which are none of
the other kind now. -/
structure RequestedSession.Apart (session : RequestedSession) (v : SurfaceView) : Prop where
  surfaces_eq : ∃ preview encoder, session.surfaces = preview :: Option.toList encoder ∧
    preview < v.nextHandle ∧ (∀ surface ∈ encoder, surface < v.nextHandle) ∧
    v.encoderSurface ≠ some preview ∧ ∀ surface ∈ encoder, v.previewSurface ≠ some surface

/-- Surfaces have different numbers, those of the sessions included. -/
structure SurfaceView.Distinct (v : SurfaceView) : Prop where
  preview_lt : ∀ surface ∈ v.previewSurface, surface < v.nextHandle
  encoder_lt : ∀ surface ∈ v.encoderSurface, surface < v.nextHandle
  apart : ∀ surface ∈ v.previewSurface, v.encoderSurface ≠ some surface
  sessions_apart : ∀ session ∈ v.sessions, session.Apart v

namespace SurfaceView.Distinct

variable {v : SurfaceView}

/-- A surface that is released. -/
theorem releasePreview (h : v.Distinct) : Distinct { v with previewSurface := none } where
  preview_lt := by simp
  encoder_lt := h.encoder_lt
  apart := by simp
  sessions_apart := fun session hsession ↦ by
    obtain ⟨preview, encoder, hsurfaces, hpreview, hencoder, happart, -⟩ :=
      (h.sessions_apart session hsession).surfaces_eq
    exact ⟨preview, encoder, hsurfaces, hpreview, hencoder, happart, by simp⟩

theorem releaseEncoder (h : v.Distinct) : Distinct { v with encoderSurface := none } where
  preview_lt := h.preview_lt
  encoder_lt := by simp
  apart := by simp
  sessions_apart := fun session hsession ↦ by
    obtain ⟨preview, encoder, hsurfaces, hpreview, hencoder, -, happart⟩ :=
      (h.sessions_apart session hsession).surfaces_eq
    exact ⟨preview, encoder, hsurfaces, hpreview, hencoder, by simp, happart⟩

/-- A number that is used up. -/
theorem skip (h : v.Distinct) : Distinct { v with nextHandle := v.nextHandle + 1 } where
  preview_lt := fun surface hsurface ↦ Nat.lt_succ_of_lt (h.preview_lt surface hsurface)
  encoder_lt := fun surface hsurface ↦ Nat.lt_succ_of_lt (h.encoder_lt surface hsurface)
  apart := h.apart
  sessions_apart := fun session hsession ↦ by
    obtain ⟨preview, encoder, hsurfaces, hpreview, hencoder, happart⟩ :=
      (h.sessions_apart session hsession).surfaces_eq
    exact ⟨preview, encoder, hsurfaces, Nat.lt_succ_of_lt hpreview,
      fun surface hsurface ↦ Nat.lt_succ_of_lt (hencoder surface hsurface), happart⟩

/-- A new surface gets a number that no session has. -/
theorem newPreview (h : v.Distinct) :
    Distinct { v with previewSurface := some v.nextHandle, nextHandle := v.nextHandle + 1 } where
  preview_lt := by simp
  encoder_lt := h.skip.encoder_lt
  apart := by
    intro surface hsurface hencoder
    obtain rfl := Option.some.inj hsurface
    exact absurd (h.encoder_lt _ hencoder) (lt_irrefl _)
  sessions_apart := fun session hsession ↦ by
    obtain ⟨preview, encoder, hsurfaces, hpreview, hencoder, happart, -⟩ :=
      (h.sessions_apart session hsession).surfaces_eq
    refine ⟨preview, encoder, hsurfaces, Nat.lt_succ_of_lt hpreview,
      fun surface hsurface ↦ Nat.lt_succ_of_lt (hencoder surface hsurface), happart, ?_⟩
    intro surface hsurface hsame
    have hlt := hencoder surface hsurface
    rw [← Option.some.inj hsame] at hlt
    exact absurd hlt (lt_irrefl _)

theorem newEncoder (h : v.Distinct) :
    Distinct { v with encoderSurface := some v.nextHandle, nextHandle := v.nextHandle + 1 } where
  preview_lt := h.skip.preview_lt
  encoder_lt := by simp
  apart := by
    intro surface hsurface hencoder
    have hlt := h.preview_lt surface hsurface
    rw [← Option.some.inj hencoder] at hlt
    exact absurd hlt (lt_irrefl _)
  sessions_apart := fun session hsession ↦ by
    obtain ⟨preview, encoder, hsurfaces, hpreview, hencoder, -, happart⟩ :=
      (h.sessions_apart session hsession).surfaces_eq
    refine ⟨preview, encoder, hsurfaces, Nat.lt_succ_of_lt hpreview,
      fun surface hsurface ↦ Nat.lt_succ_of_lt (hencoder surface hsurface), ?_, happart⟩
    intro hsame
    rw [← Option.some.inj hsame] at hpreview
    exact absurd hpreview (lt_irrefl _)

/-- A session that is requested with the surfaces there are. -/
theorem request (h : v.Distinct) {preview : ℕ} (hpreview : v.previewSurface = some preview)
    (useEncoderSurface : Bool) :
    Distinct { v with
      sessions := v.sessions ++
        [⟨preview :: if useEncoderSurface then v.encoderSurface.toList else [],
          useEncoderSurface⟩] } where
  preview_lt := h.preview_lt
  encoder_lt := h.encoder_lt
  apart := h.apart
  sessions_apart := fun session hsession ↦ by
    rcases List.mem_append.mp hsession with hold | hnew
    · obtain ⟨hsurfaces⟩ := h.sessions_apart session hold
      exact ⟨hsurfaces⟩
    · obtain rfl := List.mem_singleton.mp hnew
      have happart := h.apart preview hpreview
      cases useEncoderSurface with
      | false =>
        exact ⟨preview, none, rfl, h.preview_lt preview hpreview, by simp, happart, by simp⟩
      | true =>
        refine ⟨preview, v.encoderSurface, rfl, h.preview_lt preview hpreview, h.encoder_lt,
          happart, fun surface hsurface hsame ↦ ?_⟩
        exact h.apart surface hsame hsurface

end SurfaceView.Distinct

/-! ### What the handlers do with surfaces -/

section Handlers

variable {s : MainActivity}

theorem distinct_startPreviewSession (h : s.surfacing.Distinct)
    (useEncoderSurface sessionFails : Bool) :
    (startPreviewSession s useEncoderSurface sessionFails).surfacing.Distinct := by
  unfold startPreviewSession
  split
  · next preview hdevice hpreview =>
    cases sessionFails with
    | true => exact h
    | false => exact h.request hpreview useEncoderSurface
  · exact h

theorem distinct_prepareEncoder (h : s.surfacing.Distinct) (fault : EncoderFault) :
    (prepareEncoder s fault).2.surfacing.Distinct := by
  unfold prepareEncoder
  split
  · exact h
  · cases fault with
    | none => exact h.newEncoder
    | createFails => exact h.skip.releaseEncoder
    | createThrows => exact h.skip
    | configureFails => exact h.skip
    | inputSurfaceFails => exact h.skip
    | startFails => exact h.newEncoder

theorem surfacing_prepareMuxer (s : MainActivity) (fault : MuxerFault) :
    (prepareMuxer s fault).2.surfacing = s.surfacing :=
  view_prepareMuxer (fun _ _ _ _ _ ↦ rfl) s fault

theorem distinct_startRecording (h : s.surfacing.Distinct) (encoderFault : EncoderFault)
    (muxerFault : MuxerFault) (sessionFails : Bool) :
    (startRecording s encoderFault muxerFault sessionFails).2.surfacing.Distinct := by
  unfold startRecording
  split_ifs
  · exact h
  · exact h
  · exact h
  · let keeps : MainActivity → Prop := fun s' ↦ s'.surfacing.Distinct
    have hactive : ({ s with recordingActive := true } : MainActivity).surfacing.Distinct := h
    refine Handled.andThen_holds keeps (Handled.andThen_holds keeps ?_ fun s' hs ↦ ?_)
      fun s' hs ↦ ?_
    · exact distinct_prepareEncoder hactive encoderFault
    · split_ifs
      · exact (congrArg SurfaceView.Distinct (surfacing_prepareMuxer s' muxerFault)).mpr hs
      · exact hs
    · exact distinct_startPreviewSession hs true sessionFails

theorem distinct_stopRecording (h : s.surfacing.Distinct) (sessionFails : Bool) :
    (stopRecording s sessionFails).surfacing.Distinct := by
  unfold stopRecording
  split_ifs
  · exact h
  · have hactive : ({ s with recordingActive := false } : MainActivity).surfacing.Distinct := h
    have hsession := distinct_startPreviewSession hactive false sessionFails
    have hmuxer : ∀ s' : MainActivity, (stopMuxer s').surfacing = s'.surfacing :=
      view_stopMuxer fun _ _ _ ↦ rfl
    exact ((hmuxer _).symm ▸ hsession).releaseEncoder

theorem distinct_closeCamera (h : s.surfacing.Distinct) : (closeCamera s).surfacing.Distinct := by
  have hpreview : (closePreview s).surfacing = { s.surfacing with previewSurface := none } := by
    unfold closePreview
    cases s.cameraDevice <;> rfl
  exact distinct_stopRecording (hpreview.symm ▸ h.releasePreview) false

/-- The step lemma: every event keeps the surfaces distinct. -/
theorem distinct_recorderStep (h : s.surfacing.Distinct) (event : RecorderEvent) :
    (recorderStep s event).surfacing.Distinct := by
  have hsame : ∀ {s s' : MainActivity}, s'.surfacing = s.surfacing → s.surfacing.Distinct →
      s'.surfacing.Distinct := fun hview hdistinct ↦ hview.symm ▸ hdistinct
  cases event with
  | onResume accepted => exact hsame (view_onResume (fun _ _ _ ↦ rfl) s accepted) h
  | onPause => exact distinct_closeCamera h
  | onSurfaceTextureAvailable accepted =>
    exact hsame (view_openCamera (fun _ _ ↦ rfl) _ accepted) h.newPreview
  | onSurfaceTextureDestroyed => exact h
  | onRequestPermissionsResult granted accepted =>
    exact hsame (view_onRequestPermissionsResult (fun _ _ _ ↦ rfl) s granted accepted) h
  | onOpened camera sessionFails =>
    have hopened : ({ s with
        pendingOpens := s.pendingOpens - 1
        openDevices := s.openDevices ++ [camera]
        cameraDevice := some camera } : MainActivity).surfacing.Distinct := h
    simp only [recorderStep]
    split_ifs
    · exact distinct_startPreviewSession hopened false sessionFails
    · exact h
  | onDisconnected camera => exact h
  | onError camera => exact h
  | onConfigured session => exact h
  | startRecording encoderFault muxerFault sessionFails =>
    exact distinct_startRecording h encoderFault muxerFault sessionFails
  | stopRecording sessionFails => exact distinct_stopRecording h sessionFails
  | onOutputFormatChanged codec format muxerFault =>
    simp only [recorderStep, onOutputFormatChanged]
    split_ifs
    · have hsame := surfacing_prepareMuxer
        { s with outputFormat := some format, announced := s.announced ++ [(codec, format)] }
        muxerFault
      exact hsame ▸ h
    · exact h
  | onOutputBufferAvailable codec output =>
    exact hsame (view_onOutputBufferAvailable (fun _ _ _ ↦ rfl) (fun _ _ ↦ rfl) s codec output) h
  | saveReplayClip seconds => exact hsame (view_saveReplayClip (fun _ _ ↦ rfl) s seconds) h
  | clipAddTrack worker createFails => exact h
  | clipWriteSamples worker => exact h

end Handlers

/-! ### The fields of a request -/

/-- When a session is configured there is a camera, `previewSurface` is the one that the session was
requested with, and, in a session of a recording, so is `encoderSurface` if there is one. -/
def FieldsStand (s : MainActivity) : RecorderEvent → Prop
  | .onConfigured session => ∀ requested ∈ s.sessions[session]?,
    s.cameraDevice.isSome ∧ s.previewSurface = requested.surfaces.head? ∧
      (requested.useEncoderSurface = true →
        s.encoderSurface = none ∨ s.encoderSurface = requested.surfaces[1]?)
  | _ => True

section Session

variable {v : SurfaceView} {session : RequestedSession} {surface : ℕ}

/-- The current preview surface is one of a session's only as its preview surface. -/
theorem RequestedSession.Apart.preview_mem_iff (h : session.Apart v)
    (hpreview : v.previewSurface = some surface) :
    surface ∈ session.surfaces ↔ some surface = session.surfaces.head? := by
  obtain ⟨preview, encoder, hsurfaces, -, -, -, happart⟩ := h.surfaces_eq
  have hother : surface ∉ encoder.toList := fun hin ↦
    happart surface (Option.mem_toList.mp hin) hpreview
  rw [hsurfaces, List.mem_cons, List.head?_cons, Option.some.injEq]
  exact or_iff_left hother

/-- The current encoder surface is one of a session's only as its encoder's. -/
theorem RequestedSession.Apart.encoder_mem_iff (h : session.Apart v)
    (hencoder : v.encoderSurface = some surface) :
    surface ∈ session.surfaces ↔ some surface = session.surfaces[1]? := by
  obtain ⟨preview, encoder, hsurfaces, -, -, happart, -⟩ := h.surfaces_eq
  have hother : surface ≠ preview := by
    rintro rfl
    exact happart hencoder
  have hsecond : (preview :: encoder.toList)[1]? = encoder := by cases encoder <;> rfl
  rw [hsurfaces, hsecond, List.mem_cons, Option.mem_toList, or_iff_right hother]
  exact eq_comm

end Session

/-- Where surfaces are distinct, a callback is consistent with its session exactly when the fields
stand as they were requested. -/
theorem sessionConsistent_iff {s : MainActivity} (h : s.surfacing.Distinct)
    (event : RecorderEvent) : SessionConsistent s event ↔ FieldsStand s event := by
  cases event with
  | onConfigured session =>
    refine forall_congr' fun requested ↦ forall_congr' fun hrequested ↦ ?_
    have happart := h.sessions_apart requested (List.mem_of_getElem? hrequested)
    unfold requestTargets
    cases hdevice : s.cameraDevice with
    | none => simp
    | some device =>
      cases hpreview : s.previewSurface with
      | none =>
        obtain ⟨preview, encoder, hsurfaces, -⟩ := happart.surfaces_eq
        simp [hsurfaces]
      | some current =>
        have hcurrent := happart.preview_mem_iff hpreview
        cases hencoder : s.encoderSurface with
        | none => simp [hcurrent]
        | some surface =>
          have hsurface := happart.encoder_mem_iff hencoder
          cases huse : requested.useEncoderSurface with
          | false => simp [hcurrent]
          | true => simp [hcurrent, hsurface]
  | _ => exact Iff.rfl

/-! ### Requests -/

/-- What a request finds: a camera, the preview surface and perhaps the encoder's. -/
structure RequestedSession.Requested (session : RequestedSession) (s : MainActivity) : Prop where
  camera : s.cameraDevice.isSome
  preview : s.previewSurface = session.surfaces.head?
  encoder : session.useEncoderSurface = true → s.encoderSurface = session.surfaces[1]?

/-- A state with the same fields. -/
theorem RequestedSession.Requested.congr {session : RequestedSession} {s s' : MainActivity}
    (h : session.Requested s) (hparts : s'.previewParts = s.previewParts)
    (hencoder : session.useEncoderSurface = true → s'.encoderSurface = s.encoderSurface) :
    session.Requested s' where
  camera := (congrArg (fun parts : PreviewParts ↦ parts.cameraDevice.isSome) hparts).trans h.camera
  preview := (congrArg PreviewParts.previewSurface hparts).trans h.preview
  encoder := fun huse ↦ (hencoder huse).trans (h.encoder huse)

/-- The sessions after a step: those there were, or one more, which finds the fields of the state
that the step leaves. -/
def AddsAtMostOne (useEncoderSurface : Bool) (s s' : MainActivity) : Prop :=
  s'.sessions = s.sessions ∨
    ∃ session : RequestedSession, session.useEncoderSurface = useEncoderSurface ∧
      session.Requested s' ∧ s'.sessions = s.sessions ++ [session]

theorem addsAtMostOne_startPreviewSession (s : MainActivity)
    (useEncoderSurface sessionFails : Bool) :
    AddsAtMostOne useEncoderSurface s (startPreviewSession s useEncoderSurface sessionFails) := by
  unfold startPreviewSession
  split
  · next preview hdevice hpreview =>
    cases sessionFails with
    | true => exact Or.inl rfl
    | false =>
      refine Or.inr ⟨_, rfl, ⟨by simp [hdevice], by simp [hpreview], fun huse ↦ ?_⟩, rfl⟩
      have huse : useEncoderSurface = true := huse
      simp only [huse, if_true]
      cases s.encoderSurface <;> rfl
  · exact Or.inl rfl

theorem addsAtMostOne_stopRecording (s : MainActivity) (sessionFails : Bool) :
    AddsAtMostOne false s (stopRecording s sessionFails) := by
  unfold stopRecording
  split_ifs
  · exact Or.inl rfl
  · have hrequest := addsAtMostOne_startPreviewSession { s with recordingActive := false } false
      sessionFails
    have hsessions : ∀ s' : MainActivity, (stopMuxer s').sessions = s'.sessions :=
      view_stopMuxer fun _ _ _ ↦ rfl
    have hparts : ∀ s' : MainActivity, (stopMuxer s').previewParts = s'.previewParts :=
      view_stopMuxer fun _ _ _ ↦ rfl
    rcases hrequest with hsame | ⟨session, huse, hrequested, hadded⟩
    · exact Or.inl ((hsessions _).trans hsame)
    · refine Or.inr ⟨session, huse, hrequested.congr (hparts _) fun hencoder ↦ ?_,
        (hsessions _).trans hadded⟩
      exact absurd (huse.symm.trans hencoder) Bool.false_ne_true

theorem addsAtMostOne_startRecording (s : MainActivity) (encoderFault : EncoderFault)
    (muxerFault : MuxerFault) (sessionFails : Bool) :
    AddsAtMostOne true s (startRecording s encoderFault muxerFault sessionFails).2 := by
  unfold startRecording
  split_ifs
  · exact Or.inl rfl
  · exact Or.inl rfl
  · exact Or.inl rfl
  · -- Nothing is requested before the encoder and the muxer are there.
    let keeps : MainActivity → Prop := fun s' ↦ s'.sessions = s.sessions
    have hprepared : keeps ((prepareEncoder { s with recordingActive := true }
        encoderFault).andThen fun s ↦
          if s.outputFormat.isSome then prepareMuxer s muxerFault else (none, s)).2 := by
      refine Handled.andThen_holds keeps ?_ fun s' hs ↦ ?_
      · exact view_prepareEncoder (fun _ _ _ _ _ ↦ rfl) { s with recordingActive := true }
          encoderFault
      · split_ifs
        · exact (view_prepareMuxer (fun _ _ _ _ _ ↦ rfl) s' muxerFault).trans hs
        · exact hs
    revert hprepared
    generalize (prepareEncoder { s with recordingActive := true } encoderFault).andThen _ = prepared
    intro hprepared
    obtain ⟨exception, s'⟩ := prepared
    cases exception with
    | some exception => exact Or.inl hprepared
    | none =>
      have hrequest := addsAtMostOne_startPreviewSession s' true sessionFails
      have hsame : s'.sessions = s.sessions := hprepared
      unfold AddsAtMostOne at hrequest ⊢
      rw [hsame] at hrequest
      exact hrequest

/-- An event requests at most one session, with the fields as it leaves them. -/
theorem addsAtMostOne_recorderStep (s : MainActivity) (event : RecorderEvent) :
    AddsAtMostOne event.startsRecording s (recorderStep s event) := by
  cases event with
  | onResume accepted => exact Or.inl (view_onResume (fun _ _ _ ↦ rfl) s accepted)
  | onPause =>
    have hpreview : (closePreview s).sessions = s.sessions :=
      view_closePreview (fun _ _ _ _ _ ↦ rfl) s
    have hstop := addsAtMostOne_stopRecording (closePreview s) false
    unfold AddsAtMostOne at hstop ⊢
    rw [hpreview] at hstop
    rcases hstop with hsame | ⟨session, huse, hrequested, hadded⟩
    · exact Or.inl hsame
    · exact Or.inr ⟨session, huse, hrequested.congr rfl fun _ ↦ rfl, hadded⟩
  | onSurfaceTextureAvailable accepted => exact Or.inl (view_openCamera (fun _ _ ↦ rfl) _ accepted)
  | onSurfaceTextureDestroyed => exact Or.inl rfl
  | onRequestPermissionsResult granted accepted =>
    exact Or.inl (view_onRequestPermissionsResult (fun _ _ _ ↦ rfl) s granted accepted)
  | onOpened camera sessionFails =>
    simp only [recorderStep]
    split_ifs
    · exact addsAtMostOne_startPreviewSession _ false sessionFails
    · exact Or.inl rfl
  | onDisconnected camera => exact Or.inl rfl
  | onError camera => exact Or.inl rfl
  | onConfigured session => exact Or.inl rfl
  | startRecording encoderFault muxerFault sessionFails =>
    exact addsAtMostOne_startRecording s encoderFault muxerFault sessionFails
  | stopRecording sessionFails => exact addsAtMostOne_stopRecording s sessionFails
  | onOutputFormatChanged codec format muxerFault =>
    simp only [recorderStep, onOutputFormatChanged]
    split_ifs
    · exact Or.inl (view_prepareMuxer (fun _ _ _ _ _ ↦ rfl) _ muxerFault)
    · exact Or.inl rfl
  | onOutputBufferAvailable codec output =>
    exact Or.inl (view_onOutputBufferAvailable (fun _ _ _ ↦ rfl) (fun _ _ ↦ rfl) s codec output)
  | saveReplayClip seconds => exact Or.inl (view_saveReplayClip (fun _ _ ↦ rfl) s seconds)
  | clipAddTrack worker createFails => exact Or.inl rfl
  | clipWriteSamples worker => exact Or.inl rfl

/-- A session that was requested stays. -/
theorem getElem?_sessions_recorderRun {s : MainActivity} {place : ℕ} {session : RequestedSession}
    (h : s.sessions[place]? = some session) (events : List RecorderEvent) :
    (recorderRun s events).sessions[place]? = some session := by
  refine @inv_run _ _ recorderStep (fun _ _ ↦ True) (fun s ↦ s.sessions[place]? = some session) s
    events (fun s event h _ ↦ ?_) h (meets_of_forall fun _ _ ↦ trivial)
  rcases addsAtMostOne_recorderStep s event with hsame | ⟨added, -, -, hadded⟩
  · exact hsame ▸ h
  · rw [hadded]
    exact (List.getElem?_append_left (List.getElem?_eq_some_iff.mp h).1).trans h

/-- Every session was requested by some event. -/
theorem exists_request (events : List RecorderEvent) {place : ℕ}
    (hplace : place < (recorderRun .initial events).sessions.length) :
    ∃ before request between, events = before ++ request :: between ∧
      RequestsSession (recorderRun .initial before) request place := by
  induction events using List.reverseRecOn with
  | nil => exact absurd hplace (Nat.not_lt_zero _)
  | append_singleton earlier event ih =>
    have hplace : place <
        (recorderStep (recorderRun .initial earlier) event).sessions.length := by
      rw [recorderRun, run_append] at hplace
      exact hplace
    rcases Nat.lt_or_ge place (recorderRun .initial earlier).sessions.length with hlt | hge
    · obtain ⟨before, request, between, rfl, hrequest⟩ := ih hlt
      exact ⟨before, request, between ++ [event], by simp, hrequest⟩
    · rcases addsAtMostOne_recorderStep (recorderRun .initial earlier) event with
        hsame | ⟨session, -, -, hadded⟩
      · rw [hsame] at hplace
        exact absurd hplace (Nat.not_lt.mpr hge)
      · have hlength := congrArg List.length hadded
        rw [List.length_append, List.length_singleton] at hlength
        have hlast : (recorderRun .initial earlier).sessions.length = place := by omega
        exact ⟨earlier, event, [], rfl, hlast, hlast ▸ hlength⟩

/-! ### The fields between a request and its callback -/

/-- Without a recording there is neither an encoder nor its surface. -/
def EncoderView.Idle (v : EncoderView) : Prop :=
  v.recordingActive = false → v.videoEncoder = none ∧ v.encoderSurface = none

theorem idle_recorderStep {s : MainActivity} (h : s.encoding.Idle) (event : RecorderEvent) :
    (recorderStep s event).encoding.Idle := by
  have hstop : (if s.recordingActive then s.encoding.released else s.encoding).Idle := by
    split_ifs
    · exact fun _ ↦ ⟨rfl, rfl⟩
    · exact h
  rw [encoding_recorderStep]
  cases event with
  | startRecording encoderFault muxerFault sessionFails =>
    simp only [encodingAfter]
    split_ifs
    · intro hinactive
      have hactive : (prepareEncoder { s with recordingActive := true }
          encoderFault).2.recordingActive = true :=
        view_prepareEncoder (fun _ _ _ _ _ ↦ rfl) { s with recordingActive := true } encoderFault
      exact absurd (hinactive.symm.trans hactive) Bool.false_ne_true
    · exact h
  | stopRecording sessionFails => exact hstop
  | onPause => exact hstop
  | _ => exact h

/-- What holds from the request of a session on. -/
structure RequestedSession.Tracked (session : RequestedSession) (s : MainActivity) : Prop where
  distinct : s.surfacing.Distinct
  idle : s.encoding.Idle
  mem : session ∈ s.sessions

section Between

variable {session : RequestedSession} {s : MainActivity}

theorem RequestedSession.Tracked.step (h : session.Tracked s) (event : RecorderEvent) :
    session.Tracked (recorderStep s event) where
  distinct := distinct_recorderStep h.distinct event
  idle := idle_recorderStep h.idle event
  mem := by
    obtain ⟨place, hplace⟩ := List.mem_iff_getElem?.mp h.mem
    exact List.mem_of_getElem? (getElem?_sessions_recorderRun hplace [event])

/-- The preview surface of a session stands while it is kept. -/
theorem previewSurface_stands_iff (h : session.Tracked s)
    (hrequest : s.previewSurface = session.surfaces.head?) (between : List RecorderEvent) :
    (recorderRun s between).previewSurface = session.surfaces.head? ↔
      Meets recorderStep KeepsPreview s between := by
  refine (@property_run_iff _ _ recorderStep KeepsPreview
    (fun s ↦ s.previewSurface = session.surfaces.head?) session.Tracked s between
    (fun _ event h ↦ h.step event) (fun s event h ↦ ?_) h).trans (and_iff_right hrequest)
  obtain ⟨preview, encoder, hsurfaces, hlt, -⟩ :=
    (h.distinct.sessions_apart session h.mem).surfaces_eq
  have hafter := congrArg PreviewParts.previewSurface (previewParts_recorderStep s event)
  change (recorderStep s event).previewSurface = _ at hafter
  rw [hafter, hsurfaces, List.head?_cons]
  cases event with
  | onPause => simp [previewPartsAfter, KeepsPreview]
  | onSurfaceTextureAvailable accepted =>
    have hnew : s.nextHandle ≠ preview := Nat.ne_of_gt hlt
    simp [previewPartsAfter, KeepsPreview, hnew]
  | _ => exact (and_iff_left trivial).symm

/-- There is a camera when every one that was closed has been followed by another one. -/
theorem cameraDevice_stands_iff (hrequest : s.cameraDevice.isSome) (between : List RecorderEvent) :
    (recorderRun s between).cameraDevice.isSome ↔
      Mended recorderStep LosesCamera OpensCamera s between := by
  have hafter : ∀ s event,
      (recorderStep s event).cameraDevice = (previewPartsAfter s event).cameraDevice :=
    fun s event ↦ congrArg PreviewParts.cameraDevice (previewParts_recorderStep s event)
  refine (@property_run_iff_mended _ _ recorderStep (fun s ↦ s.cameraDevice.isSome)
    (fun _ ↦ True) LosesCamera OpensCamera s between (fun _ _ _ ↦ trivial)
    (fun s event _ hlost ↦ ?_) (fun s event _ hopened ↦ ?_) (fun s event _ hkept hnew ↦ ?_)
    trivial).trans
      (and_iff_left (Or.inl hrequest))
  · rw [hafter]
    cases event with
    | onPause | onDisconnected camera | onError camera => exact Bool.false_ne_true
    | _ => exact hlost.elim
  · rw [hafter]
    cases event with
    | onOpened camera sessionFails => rfl
    | _ => exact hopened.elim
  · rw [hafter]
    cases event with
    | onPause | onDisconnected camera | onError camera => exact (hkept trivial).elim
    | onOpened camera sessionFails => exact (hnew trivial).elim
    | _ => exact Iff.rfl

/-- Without an encoder left over, `prepareEncoder` makes a surface unless it fails before that. -/
theorem encoderSurface_prepareEncoder (hencoder : s.videoEncoder = none)
    (hsurface : s.encoderSurface = none) (fault : EncoderFault) :
    (prepareEncoder { s with recordingActive := true } fault).2.encoderSurface =
      if fault = .none ∨ fault = .startFails then some s.nextHandle else none := by
  simp only [prepareEncoder, hencoder, Option.isSome_none, Bool.false_eq_true, if_false]
  cases fault with
  | none | startFails => rfl
  | createFails => rfl
  | createThrows | configureFails | inputSurfaceFails => exact hsurface

/-- An encoder's surface that is there is the one of the session when every later recording that
made one has been stopped. -/
theorem encoderSurface_stands_iff (h : session.Tracked s)
    (hrequest : s.encoderSurface = session.surfaces[1]?) (between : List RecorderEvent) :
    ((recorderRun s between).encoderSurface = none ∨
        (recorderRun s between).encoderSurface = session.surfaces[1]?) ↔
      Mended recorderStep MakesEncoderSurface StopsRecording s between := by
  have hafter : ∀ s event,
      (recorderStep s event).encoderSurface = (encodingAfter s event).encoderSurface :=
    fun s event ↦ congrArg EncoderView.encoderSurface (encoding_recorderStep s event)
  have hstopped : ∀ {s : MainActivity}, session.Tracked s →
      (if s.recordingActive then s.encoding.released else s.encoding).encoderSurface = none := by
    intro s h
    split_ifs with hactive
    · rfl
    · exact (h.idle (Bool.not_eq_true _ ▸ hactive)).2
  refine (@property_run_iff_mended _ _ recorderStep
    (fun s ↦ s.encoderSurface = none ∨ s.encoderSurface = session.surfaces[1]?) session.Tracked
    MakesEncoderSurface StopsRecording s between (fun _ event h ↦ h.step event)
    (fun s event h hmade ↦ ?_) (fun s event h hstops ↦ ?_) (fun s event h hnone hgoes ↦ ?_) h).trans
      (and_iff_left (Or.inl (Or.inr hrequest)))
  · rw [hafter]
    cases event with
    | startRecording encoderFault muxerFault sessionFails =>
      obtain ⟨haccepted, hfault⟩ := hmade
      obtain ⟨hencoder, hsurface⟩ := h.idle haccepted.2.2
      obtain ⟨preview, encoder, hsurfaces, -, hlt, -⟩ :=
        (h.distinct.sessions_apart session h.mem).surfaces_eq
      have hsecond : (preview :: encoder.toList)[1]? = encoder := by cases encoder <;> rfl
      have hnew : (encodingAfter s (.startRecording encoderFault muxerFault
          sessionFails)).encoderSurface = some s.nextHandle := by
        simp only [encodingAfter, if_pos haccepted]
        exact (encoderSurface_prepareEncoder hencoder hsurface encoderFault).trans (if_pos hfault)
      rw [hnew, hsurfaces, hsecond]
      rintro (hnone | hsame)
      · exact absurd hnone (Option.some_ne_none _)
      · exact absurd (hlt s.nextHandle hsame.symm) (lt_irrefl _)
    | _ => exact hmade.elim
  · rw [hafter]
    cases event with
    | stopRecording sessionFails => exact Or.inl (hstopped h)
    | onPause => exact Or.inl (hstopped h)
    | _ => exact hstops.elim
  · rw [hafter]
    cases event with
    | startRecording encoderFault muxerFault sessionFails =>
      have hsame : (encodingAfter s (.startRecording encoderFault muxerFault
          sessionFails)).encoderSurface = s.encoderSurface := by
        simp only [encodingAfter]
        split_ifs with haccepted
        · obtain ⟨hencoder, hsurface⟩ := h.idle haccepted.2.2
          have hfault : ¬ (encoderFault = .none ∨ encoderFault = .startFails) :=
            fun hfault ↦ hnone ⟨haccepted, hfault⟩
          exact ((encoderSurface_prepareEncoder hencoder hsurface encoderFault).trans
            (if_neg hfault)).trans hsurface.symm
        · rfl
      rw [hsame]
    | stopRecording sessionFails => exact (hgoes trivial).elim
    | onPause => exact (hgoes trivial).elim
    | _ => exact Iff.rfl

end Between

/-- In every state of a run surfaces are distinct, and there is no encoder without a recording. -/
theorem distinct_and_idle_recorderRun (events : List RecorderEvent) :
    (recorderRun .initial events).surfacing.Distinct ∧
      (recorderRun .initial events).encoding.Idle := by
  refine @inv_run _ _ recorderStep (fun _ _ ↦ True)
    (fun s ↦ s.surfacing.Distinct ∧ s.encoding.Idle) .initial events
    (fun s event h _ ↦ ⟨distinct_recorderStep h.1 event, idle_recorderStep h.2 event⟩)
    ⟨⟨?_, ?_, ?_, ?_⟩, fun _ ↦ ⟨rfl, rfl⟩⟩ (meets_of_forall fun _ _ ↦ trivial)
  all_goals simp [MainActivity.surfacing, MainActivity.initial]

/-- When a session is configured the fields stand exactly where it was undisturbed since its
request. -/
theorem fieldsStand_iff_undisturbed {before between : List RecorderEvent} {request : RecorderEvent}
    {place : ℕ} (hrequest : RequestsSession (recorderRun .initial before) request place) :
    FieldsStand (recorderRun .initial (before ++ request :: between)) (.onConfigured place) ↔
      Undisturbed (recorderRun .initial (before ++ [request])) request between := by
  obtain ⟨hlength, hgrown⟩ := hrequest
  have hfirst : recorderRun .initial (before ++ [request]) =
      recorderStep (recorderRun .initial before) request := run_append _ _ _
  have hlast : recorderRun .initial (before ++ request :: between) =
      recorderRun (recorderRun .initial (before ++ [request])) between := by
    rw [hfirst]
    exact run_append _ _ _
  rw [← hfirst] at hgrown
  have hadds := addsAtMostOne_recorderStep (recorderRun .initial before) request
  rw [← hfirst] at hadds
  rcases hadds with hsame | ⟨session, huse, hrequested, hadded⟩
  · have hcontra := hgrown.symm.trans ((congrArg List.length hsame).trans hlength)
    exact absurd hcontra (Nat.succ_ne_self place)
  have hplace : (recorderRun .initial (before ++ [request])).sessions[place]? = some session := by
    rw [hadded, ← hlength, List.getElem?_concat_length]
  obtain ⟨hdistinct, hidle⟩ := distinct_and_idle_recorderRun (before ++ [request])
  have htracked : session.Tracked (recorderRun .initial (before ++ [request])) :=
    ⟨hdistinct, hidle, List.mem_of_getElem? hplace⟩
  have hpreview := previewSurface_stands_iff htracked hrequested.preview between
  have hcamera := cameraDevice_stands_iff hrequested.camera between
  have hencoder := fun huse ↦
    encoderSurface_stands_iff htracked (hrequested.encoder huse) between
  have hget := getElem?_sessions_recorderRun hplace between
  rw [hlast]
  constructor
  · intro hstand
    obtain ⟨hdevice, hsurface, hsecond⟩ := hstand session hget
    exact ⟨hpreview.mp hsurface, hcamera.mp hdevice, fun hstarts ↦
      (hencoder (huse.trans hstarts)).mp (hsecond (huse.trans hstarts))⟩
  · intro hundisturbed requested hfound
    obtain rfl := Option.some.inj (hget.symm.trans hfound)
    exact ⟨hcamera.mpr hundisturbed.camera, hpreview.mpr hundisturbed.preview, fun hstarts ↦
      (hencoder hstarts).mpr (hundisturbed.encoder (huse.symm.trans hstarts))⟩

/-- Capture-session consistency. Along any events, every callback of a session finds a camera and a
preview surface and adds only surfaces of its session, if and only if every session that is
configured was undisturbed since its request: no pause and no new texture, a camera that was closed
followed by another one, and, for a session of a recording, no later recording with a surface of its
own that was not stopped. -/
theorem capture_sessions_iff (events : List RecorderEvent) :
    Meets recorderStep SessionConsistent .initial events ↔ RequestsUndisturbed events := by
  have hstands : Meets recorderStep SessionConsistent .initial events ↔
      Meets recorderStep FieldsStand .initial events :=
    @meets_iff_of_inv _ _ recorderStep FieldsStand (fun _ _ ↦ True) (fun s ↦ s.surfacing.Distinct)
      SessionConsistent _ _ (fun _ event h _ _ ↦ distinct_recorderStep h event)
      (fun _ event h _ ↦ sessionConsistent_iff h event) (distinct_and_idle_recorderRun []).1
      (meets_of_forall fun _ _ ↦ trivial)
  rw [hstands, meets_iff_forall_split]
  constructor
  · intro h before request between session after hevents hrequest
    refine (fieldsStand_iff_undisturbed hrequest).mp (h _ (.onConfigured session) after ?_)
    rw [hevents, List.append_assoc, List.cons_append]
  · intro h before event after hevents
    cases event with
    | onConfigured session =>
      intro requested hfound
      obtain ⟨earlier, request, between, rfl, hrequest⟩ :=
        exists_request before (List.getElem?_eq_some_iff.mp hfound).1
      have hundisturbed := h earlier request between session after
        (by rw [hevents, List.append_assoc, List.cons_append]) hrequest
      exact (fieldsStand_iff_undisturbed hrequest).mpr hundisturbed requested hfound
    | _ => trivial

/-- An activity whose camera is opened, and two recordings in quick succession. -/
def twoQuickRecordings : List RecorderEvent :=
  [.onResume true, .onRequestPermissionsResult true true, .onSurfaceTextureAvailable true,
    .onOpened 0 false, .startRecording .none .none false, .stopRecording false,
    .startRecording .none .none false]

/-- The session of the first recording is configured during the second: it gets the surface of the
second encoder. And a session that is configured after a pause finds no camera. -/
theorem not_sessionConsistent_late :
    ¬ Meets recorderStep SessionConsistent .initial (twoQuickRecordings ++ [.onConfigured 1]) ∧
      ¬ Meets recorderStep SessionConsistent .initial
        (twoQuickRecordings ++ [.onPause, .onConfigured 3]) := by
  constructor
  · intro h
    obtain ⟨targets, htargets, hadded⟩ := (meets_append.mp h).2.1 _ rfl
    obtain rfl := Except.ok.inj htargets
    exact absurd (hadded 2 (by decide)) (by decide)
  · intro h
    obtain ⟨targets, htargets, -⟩ := (meets_append.mp h).2.2.1 _ rfl
    cases htargets

end UvcRtmpStream.Recorder
