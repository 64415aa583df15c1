import UvcRtmpStream.Streaming.CameraMoves
import UvcRtmpStream.Streaming.RecordingOwnership

/-!
# The lifetime of the cameras

`onConnect` opens a new `UVCCamera` for each USB event and stores it in `uvcCamera`, from where it
is passed to the methods of the `RtmpUSB`; `onDestroy` destroys the stored camera, and `onConnect`
one whose preview size is refused.

A camera is open from `open` until `destroy`, which is for good. The stored camera should be open
and no other one (`CameraView.Inv`). `onConnect` breaks this when it destroys the new camera and
stores it nevertheless, when an exception leaves it after `open` or out of its native connection,
which leaves the control block set, and when another camera is already stored.
-/

set_option autoImplicit false
set_option relaxedAutoImplicit false

namespace UvcRtmpStream.Streaming

open UvcRtmpStream.Foundations UvcRtmpStream.Platform UvcRtmpStream.Replay

/-! ### The law -/

/-- The stored camera was not destroyed. -/
def ServiceState.StoresLive (s : ServiceState) : Prop :=
  ∀ camera ∈ s.service.uvcCamera, (s.devices.cameras[camera]?).any UVCCamera.nativePtr = true

/-- Every camera that was opened and is not stored was destroyed. -/
def ServiceState.ReleasesOthers (s : ServiceState) : Prop :=
  ∀ camera held, s.devices.cameras[camera]? = some held → held.ctrlBlock = true →
    s.service.uvcCamera ≠ some camera → held.nativePtr = false

/-- A camera that is stored no more was told to stop its preview. -/
def ServiceState.StopsReplaced (s t : ServiceState) : Prop :=
  ∀ camera ∈ s.service.uvcCamera, t.service.uvcCamera ≠ some camera →
    (t.devices.cameras[camera]?).any UVCCamera.previewing = false

/-- What holds of the cameras around a call. Destroying a camera is for good, so that a stored
camera that is live after the call was live whenever the call passed it on. -/
structure CameraLaw (s : ServiceState) (serviceCall : ServiceCall) : Prop where
  passed : s.StoresLive
  stored : serviceCall.destroys = false → (serviceStep s serviceCall).StoresLive
  released : (serviceStep s serviceCall).ReleasesOthers
  stopped : s.StopsReplaced (serviceStep s serviceCall)

/-- A connected camera gets no control block, or it is connected and its size is accepted and no
other camera is stored, or its size is empty and it is destroyed. -/
def ConnectsSafely (s : ServiceState) (serviceCall : ServiceCall) : Prop :=
  ∀ supportedSizes ∈ serviceCall.event.supportedSizes,
    firstThrows serviceCall.outcomes = false → firstThrows serviceCall.outcomes.tail = false →
      firstThrows serviceCall.outcomes.tail.tail = false ∧
        firstThrows serviceCall.outcomes.tail.tail.tail = false ∧
          ∃ size ∈ largestSize supportedSizes, size.isEmpty = true ∨ s.service.uvcCamera = none

instance decidableConnectsSafely (s : ServiceState) (serviceCall : ServiceCall) :
    Decidable (ConnectsSafely s serviceCall) :=
  inferInstanceAs (Decidable (∀ supportedSizes ∈ serviceCall.event.supportedSizes,
    firstThrows serviceCall.outcomes = false → firstThrows serviceCall.outcomes.tail = false →
      firstThrows serviceCall.outcomes.tail.tail = false ∧
        firstThrows serviceCall.outcomes.tail.tail.tail = false ∧
          ∃ size ∈ largestSize supportedSizes, size.isEmpty = true ∨ s.service.uvcCamera = none))

/-- `onDestroy` is the last call. -/
abbrev DestroyedLast (calls : List ServiceCall) : Prop :=
  ∀ serviceCall ∈ calls.dropLast, ServiceCall.destroys serviceCall = false

namespace CameraView

/-- The stored camera is open, and no other one. -/
structure Inv (v : CameraView) : Prop where
  stored : ∀ camera, v.uvcCamera = some camera → v.cameras[camera]? = some UVCCamera.opened
  others : ∀ camera held, v.cameras[camera]? = some held → held.ctrlBlock = true →
    v.uvcCamera = some camera

variable {v : CameraView}

theorem getElem?_add_of_lt {camera : ℕ} (added : UVCCamera) (h : camera < v.cameras.length) :
    (v.add added).cameras[camera]? = v.cameras[camera]? :=
  List.getElem?_append_left h

/-- The cameras after one more: the earlier ones and the new one. -/
theorem eq_or_of_getElem?_add {camera : ℕ} {added held : UVCCamera}
    (h : (v.add added).cameras[camera]? = some held) :
    v.cameras[camera]? = some held ∨ camera = v.cameras.length ∧ held = added := by
  rcases Nat.lt_trichotomy camera v.cameras.length with hlt | rfl | hgt
  · exact Or.inl ((getElem?_add_of_lt added hlt).symm.trans h)
  · exact Or.inr ⟨rfl, Option.some.inj (h.symm.trans (v.getElem?_add_last added))⟩
  · have hlength : (v.add added).cameras.length ≤ camera := by
      rw [add, List.length_append, List.length_singleton]
      exact hgt
    rw [List.getElem?_eq_none hlength] at h
    cases h

theorem Inv.lt (h : v.Inv) {camera : ℕ} (hstored : v.uvcCamera = some camera) :
    camera < v.cameras.length :=
  (List.getElem?_eq_some_iff.mp (h.stored camera hstored)).1

/-- A camera that is not open may be added. -/
theorem Inv.add (h : v.Inv) {added : UVCCamera} (hclosed : added.ctrlBlock = false) :
    (v.add added).Inv := by
  refine ⟨fun camera hstored ↦ ?_, fun camera held hheld hopen ↦ ?_⟩
  · rw [getElem?_add_of_lt added (h.lt hstored)]
    exact h.stored camera hstored
  · rcases eq_or_of_getElem?_add hheld with hold | ⟨-, rfl⟩
    · exact h.others camera held hold hopen
    · exact absurd (hclosed.symm.trans hopen) Bool.false_ne_true

/-- An open camera may be added and stored, where none is stored. -/
theorem Inv.store (h : v.Inv) (hnone : v.uvcCamera = none) :
    ((v.add UVCCamera.opened).store v.cameras.length).Inv := by
  refine ⟨fun camera hstored ↦ ?_, fun camera held hheld hopen ↦ ?_⟩
  · obtain rfl := Option.some.inj hstored
    exact v.getElem?_add_last UVCCamera.opened
  · rcases eq_or_of_getElem?_add hheld with hold | ⟨rfl, -⟩
    · cases hnone.symm.trans (h.others camera held hold hopen)
    · rfl

end CameraView

/-- A connected camera keeps the invariant. -/
theorem inv_cameraMove {v w : CameraView} (h : v.Inv) {supportedSizes : List CameraSize}
    {outcomes : List Outcome} (hmove : CameraMove v supportedSizes outcomes w)
    (hsafe : firstThrows outcomes = false → firstThrows outcomes.tail = false →
      firstThrows outcomes.tail.tail = false ∧ firstThrows outcomes.tail.tail.tail = false ∧
        ∃ size ∈ largestSize supportedSizes, size.isEmpty = true ∨ v.uvcCamera = none) :
    w.Inv ∧ (v.uvcCamera = none ∨ w.uvcCamera = v.uvcCamera) := by
  cases hmove with
  | refused hthrows => exact ⟨h, Or.inr rfl⟩
  | unopened hreturns hthrows => exact ⟨h.add rfl, Or.inr rfl⟩
  | unconnected hnew hopens hthrows =>
    exact absurd ((hsafe hnew hopens).1.symm.trans hthrows) Bool.false_ne_true
  | stored hnew hopens hconnects hreturns hsize hnonempty =>
    obtain ⟨-, -, size', hsize', hempty | hnone⟩ := hsafe hnew hopens
    · obtain rfl := Option.some.inj (hsize.symm.trans hsize')
      exact absurd (hnonempty.symm.trans hempty) Bool.false_ne_true
    · exact ⟨h.store hnone, Or.inl hnone⟩
  | dropped hnew hopens hconnects hreturns hsize hempty => exact ⟨h.add rfl, Or.inr rfl⟩
  | lost hnew hopens hconnects hcause =>
    obtain ⟨-, hreturns, size, hsize, -⟩ := hsafe hnew hopens
    rcases hcause with hnone | hthrows
    · cases hnone.symm.trans hsize
    · exact absurd (hreturns.symm.trans hthrows) Bool.false_ne_true
  | stale hnew hopens hconnects hthrows =>
    exact absurd ((hsafe hnew hopens).2.1.symm.trans hthrows) Bool.false_ne_true

theorem ServiceState.storesLive_iff {s : ServiceState} :
    s.StoresLive ↔ ∀ camera ∈ s.cameraView.uvcCamera, s.cameraView.Alive camera :=
  forall₂_congr fun _ _ ↦ ServiceState.alive_iff

theorem ServiceState.releasesOthers_iff {s : ServiceState} :
    s.ReleasesOthers ↔ ∀ camera held, s.cameraView.cameras[camera]? = some held →
      held.ctrlBlock = true → s.cameraView.uvcCamera ≠ some camera → held.nativePtr = false := by
  constructor
  · intro h camera held hheld
    rw [ServiceState.cameraView, lifetimes, List.getElem?_map, Option.map_eq_some_iff] at hheld
    obtain ⟨actual, hactual, rfl⟩ := hheld
    exact h camera actual hactual
  · intro h camera held hheld
    refine h camera held.lifetime ?_
    rw [ServiceState.cameraView, lifetimes, List.getElem?_map, hheld]
    rfl

theorem CameraView.Inv.alive {v : CameraView} (h : v.Inv) :
    ∀ camera ∈ v.uvcCamera, v.Alive camera := by
  intro camera hstored
  rw [CameraView.Alive, h.stored camera hstored]
  rfl

theorem CameraView.Inv.storesLive {s : ServiceState} (h : s.cameraView.Inv) : s.StoresLive :=
  ServiceState.storesLive_iff.mpr h.alive

theorem CameraView.Inv.releasesOthers {s : ServiceState} (h : s.cameraView.Inv) :
    s.ReleasesOthers :=
  ServiceState.releasesOthers_iff.mpr fun camera held hheld hopen hother ↦
    absurd (h.others camera held hheld hopen) hother

/-- Once the stored camera is destroyed, all that were opened are. -/
theorem CameraView.Inv.released_destroy {v : CameraView} (h : v.Inv) {camera : ℕ}
    (hstored : v.uvcCamera = some camera) (other : ℕ) (held : UVCCamera)
    (hheld : (v.destroy camera).cameras[other]? = some held) : held.ctrlBlock = false := by
  rw [CameraView.destroy, List.getElem?_modify] at hheld
  by_cases hsame : camera = other
  · rw [hsame, h.stored other (hsame ▸ hstored)] at hheld
    simp only [if_true, Option.map_eq_map, Option.map_some, Option.some.injEq] at hheld
    rw [← hheld]
    rfl
  · simp only [if_neg hsame, Option.map_eq_map, Option.map_id'] at hheld
    by_contra hopen
    rw [Bool.not_eq_false] at hopen
    exact hsame (Option.some.inj (hstored.symm.trans (h.others other held hheld hopen)))

theorem supportedSizes_of_destroys {serviceCall : ServiceCall}
    (h : serviceCall.destroys = true) : serviceCall.event.supportedSizes = none := by
  obtain ⟨event, outcomes⟩ := serviceCall
  cases event <;> first | rfl | cases h

/-- Where the stored camera is the only open one, a call that connects safely keeps the law, and
keeps it so unless it is `onDestroy`. -/
theorem cameraLaw_of_connectsSafely {s : ServiceState} {serviceCall : ServiceCall}
    (h : s.cameraView.Inv) (hsafe : ConnectsSafely s serviceCall) :
    CameraLaw s serviceCall ∧
      (serviceCall.destroys = false → (serviceStep s serviceCall).cameraView.Inv) := by
  have hkept : (serviceStep s serviceCall).cameraView.Inv →
      (s.service.uvcCamera = none ∨
        (serviceStep s serviceCall).service.uvcCamera = s.service.uvcCamera) →
      CameraLaw s serviceCall ∧
        (serviceCall.destroys = false → (serviceStep s serviceCall).cameraView.Inv) := by
    refine fun hinv hstored ↦ ⟨⟨h.storesLive, fun _ ↦ hinv.storesLive, hinv.releasesOthers,
      fun camera hcamera hreplaced ↦ ?_⟩, fun _ ↦ hinv⟩
    rcases hstored with hnone | hsame
    · cases hnone.symm.trans hcamera
    · exact absurd (hsame.trans hcamera) hreplaced
  obtain ⟨w, hview⟩ : ∃ w, (serviceStep s serviceCall).cameraView = w := ⟨_, rfl⟩
  have hstep := cameraStep_serviceStep s serviceCall
  rw [hview] at hstep
  cases hstep with
  | connects hevent hmove =>
    have hsizes := congrArg ServiceEvent.supportedSizes hevent
    obtain ⟨hinv, hstored⟩ := inv_cameraMove h hmove (hsafe _ hsizes)
    rw [← hview] at hinv hstored
    exact hkept hinv hstored
  | destroys hevent hstored =>
    have hsame : (serviceStep s serviceCall).service.uvcCamera = s.service.uvcCamera :=
      congrArg CameraView.uvcCamera hview
    refine ⟨⟨h.storesLive, fun hother ↦ ?_, ?_, fun camera hcamera hreplaced ↦ ?_⟩, fun hother ↦ ?_⟩
    · exact absurd (hother.symm.trans hevent) Bool.false_ne_true
    · rw [ServiceState.releasesOthers_iff, hview]
      intro other held hheld hopen
      exact absurd ((h.released_destroy hstored other held hheld).symm.trans hopen)
        Bool.false_ne_true
    · exact absurd (hsame.trans hcamera) hreplaced
    · exact absurd (hother.symm.trans hevent) Bool.false_ne_true
  | leaves hevent =>
    refine hkept (hview ▸ h) (Or.inr ?_)
    exact congrArg CameraView.uvcCamera hview

/-- A call that does not connect safely breaks the law. -/
theorem connectsSafely_of_cameraLaw {s : ServiceState} {serviceCall : ServiceCall}
    (h : s.cameraView.Inv) (hlaw : CameraLaw s serviceCall) : ConnectsSafely s serviceCall := by
  intro supportedSizes hsizes hnew hopens
  have hdestroys : serviceCall.destroys = false := by
    by_contra hdestroys
    rw [Bool.not_eq_false] at hdestroys
    cases (supportedSizes_of_destroys hdestroys).symm.trans hsizes
  have hlive := ServiceState.storesLive_iff.mp (hlaw.stored hdestroys)
  have hreleased := ServiceState.releasesOthers_iff.mp hlaw.released
  have hstep := cameraStep_serviceStep s serviceCall
  generalize (serviceStep s serviceCall).cameraView = w at hstep hlive hreleased
  cases hstep with
  | connects hevent hmove =>
    obtain rfl := Option.some.inj ((congrArg ServiceEvent.supportedSizes hevent).symm.trans hsizes)
    cases hmove with
    | refused hthrows => exact absurd (hnew.symm.trans hthrows) Bool.false_ne_true
    | unopened hreturns hthrows => exact absurd (hopens.symm.trans hthrows) Bool.false_ne_true
    | unconnected =>
      cases hreleased s.cameraView.cameras.length UVCCamera.opened
        (s.cameraView.getElem?_add_last _) rfl fun hsame ↦ (h.lt hsame).false
    | stored _ _ hconnects hreturns hsize hnonempty =>
      refine ⟨hconnects, hreturns, _, hsize, Or.inr (Option.eq_none_iff_forall_ne_some.mpr ?_)⟩
      intro camera hcamera
      have hlt := h.lt hcamera
      have hopened := (CameraView.getElem?_add_of_lt UVCCamera.opened hlt).trans
        (h.stored camera hcamera)
      cases hreleased camera UVCCamera.opened hopened rfl fun hsame ↦
        hlt.ne' (Option.some.inj hsame)
    | dropped _ _ hconnects hreturns hsize hempty =>
      exact ⟨hconnects, hreturns, _, hsize, Or.inl hempty⟩
    | lost =>
      cases hreleased s.cameraView.cameras.length UVCCamera.opened
        (s.cameraView.getElem?_add_last _) rfl fun hsame ↦ (h.lt hsame).false
    | stale =>
      have halive := hlive s.cameraView.cameras.length rfl
      rw [CameraView.Alive, CameraView.store, s.cameraView.getElem?_add_last] at halive
      cases halive
  | destroys hevent => exact absurd (hdestroys.symm.trans hevent) Bool.false_ne_true
  | leaves hevent => cases hevent.symm.trans hsizes

/-! ### Runs -/

/-- Along any calls of the service, USB events and callbacks on a new service, with any outcomes of
the calls they make and nothing after `onDestroy`, the cameras are used lawfully if and only if
every connected camera is connected safely. -/
theorem cameras_lawful_iff (openGlView : Option ℕ) (devices : Devices) (calls : List ServiceCall)
    (hlast : DestroyedLast calls) :
    Meets serviceStep CameraLaw (ServiceState.initial openGlView { devices with cameras := [] })
        calls ↔
      Meets serviceStep ConnectsSafely
        (ServiceState.initial openGlView { devices with cameras := [] }) calls := by
  have hinit : (ServiceState.initial openGlView { devices with cameras := [] }).cameraView.Inv :=
    ⟨fun camera hstored ↦ (nomatch hstored), fun camera held hheld ↦ (nomatch hheld)⟩
  have hiff : ∀ (s : ServiceState) (serviceCall : ServiceCall), s.cameraView.Inv →
      (CameraLaw s serviceCall ↔ ConnectsSafely s serviceCall) := fun s serviceCall h ↦
    ⟨connectsSafely_of_cameraLaw h, fun hsafe ↦ (cameraLaw_of_connectsSafely h hsafe).1⟩
  have hstep : ∀ (s : ServiceState) (serviceCall : ServiceCall), s.cameraView.Inv →
      serviceCall.destroys = false → ConnectsSafely s serviceCall →
        (serviceStep s serviceCall).cameraView.Inv := fun s serviceCall h hkeeps hsafe ↦
    (cameraLaw_of_connectsSafely h hsafe).2 hkeeps
  rcases calls.eq_nil_or_concat with rfl | ⟨before, last, rfl⟩
  · exact Iff.rfl
  rw [List.concat_eq_append] at hlast ⊢
  rw [DestroyedLast, List.dropLast_concat] at hlast
  rw [meets_append, meets_append,
    meets_iff_of_inv hstep (fun s serviceCall h _ ↦ hiff s serviceCall h) hinit
      (meets_of_mem hlast)]
  refine and_congr_right fun hbefore ↦ and_congr_left' (hiff _ last ?_)
  exact inv_run (fun s serviceCall h hboth ↦ hstep s serviceCall h hboth.1 hboth.2) hinit
    ((meets_of_mem hlast).and hbefore)

/-- A camera that is used until the service is destroyed. -/
theorem cameras_lawful_iff_once :
    Meets serviceStep CameraLaw (ServiceState.initial (some 0) { oneCamera with cameras := [] })
      [(ServiceEvent.onConnect [⟨640, 480⟩]).plain, ServiceEvent.onDettach.plain,
        ServiceEvent.onDestroy.plain] :=
  (cameras_lawful_iff (some 0) oneCamera _ (by decide)).mpr (by decide)

/-- A camera whose preview size is refused is destroyed and stored; and a camera that is connected
while another one is stored takes its place, without destroying it or stopping its preview. -/
theorem not_cameraLaw_refused_or_reconnected :
    let s := ServiceState.initial (some 0) { oneCamera with cameras := [] }
    ¬ Meets serviceStep CameraLaw s
        [⟨.onConnect [⟨640, 480⟩],
          [.returns true, .returns true, .returns true, .throws .illegalArgument]⟩] ∧
      ¬ Meets serviceStep CameraLaw s
        [(ServiceEvent.onConnect [⟨640, 480⟩]).plain,
          (ServiceEvent.onConnect [⟨640, 480⟩]).plain] := by
  constructor
  · rintro ⟨hlaw, -⟩
    exact absurd (hlaw.stored (by decide) 0 (by decide)) (by decide)
  · rintro ⟨-, hlaw, -⟩
    exact absurd (hlaw.stopped 0 (by decide) (by decide)) (by decide)

end UvcRtmpStream.Streaming
