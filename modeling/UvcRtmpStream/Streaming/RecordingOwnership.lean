import UvcRtmpStream.Streaming.MuxerProtocol
import UvcRtmpStream.Streaming.StreamServiceSpec

/-!
# Recordings belong to the object in use

A recording lives in an `RtmpUSB`, and the service can stop only that of the object in its field. So
an object that is dropped is meant to be neither recording nor holding a muxer that was started and
not stopped, and after `stopLocalRecording` or `onDestroy` every recording that was promised, by a
`startLocalRecording` that returned `true`, is meant to be finalised (`NoOrphan`). A muxer counts as
stopped only where `stop` returned.

`onConnect` replaces the object whatever it is doing, `startRecord` replaces its muxer, and
`stopRecord` finalises nothing where the muxer has not been started or its `stop` throws. Where none
of this happens to a recording (`KeepsRecording`), every recording is that of the object in use,
with every muxer that is live (`OwnedByCurrent`), and stopping that object stops them all.
-/

set_option autoImplicit false
set_option relaxedAutoImplicit false

namespace UvcRtmpStream.Streaming

open UvcRtmpStream.Foundations UvcRtmpStream.Platform UvcRtmpStream.Replay

/-! ### The recording of one object -/

namespace RecordView

/-- No muxer is live. -/
def NothingLive (v : RecordView) : Prop := ∀ muxer ∈ v.muxers, ¬ muxer.Live

/-- A muxer that is live is the one of this recording, which is on and has been started. -/
def OwnsLive (v : RecordView) : Prop :=
  ∀ index muxer, v.muxers[index]? = some muxer → muxer.Live →
    v.recording = true ∧ v.canRecord = true ∧ v.mediaMuxer = some index

theorem NothingLive.ownsLive {v : RecordView} (h : v.NothingLive) : v.OwnsLive :=
  fun _ muxer hmuxer hlive ↦ absurd hlive (h muxer (List.mem_of_getElem? hmuxer))

/-- The muxers after a change of the one in place. -/
theorem muxers_onMuxer {v : RecordView} {change : MediaMuxer → MediaMuxer} {index : ℕ}
    {muxer : MediaMuxer} (hmuxer : (v.onMuxer change).muxers[index]? = some muxer) :
    v.mediaMuxer = some index ∧ (∃ muxer', v.muxers[index]? = some muxer' ∧ muxer = change muxer') ∨
      v.mediaMuxer ≠ some index ∧ v.muxers[index]? = some muxer := by
  unfold onMuxer at hmuxer
  cases hheld : v.mediaMuxer with
  | none =>
    rw [hheld] at hmuxer
    exact Or.inr ⟨(Option.some_ne_none index).symm, hmuxer⟩
  | some held =>
    rw [hheld] at hmuxer
    dsimp only at hmuxer
    rw [List.getElem?_modify] at hmuxer
    obtain ⟨muxer', hmuxer', hchange⟩ := Option.map_eq_some_iff.mp hmuxer
    by_cases hindex : held = index
    · rw [if_pos hindex] at hchange
      exact Or.inl ⟨congrArg some hindex, muxer', hmuxer', hchange.symm⟩
    · rw [if_neg hindex] at hchange
      exact Or.inr ⟨fun h ↦ hindex (Option.some.inj h), hchange ▸ hmuxer'⟩

/-- `stopRecord` starts no muxer. -/
theorem live_of_stop {v w : RecordView} (hmove : StopMove v w) {index : ℕ} {muxer : MediaMuxer}
    (hmuxer : w.muxers[index]? = some muxer) (hlive : muxer.Live) :
    ∃ muxer', v.muxers[index]? = some muxer' ∧ muxer'.Live := by
  have hchange : ∀ {change : MediaMuxer → MediaMuxer},
      (∀ muxer, (change muxer).Live → muxer.Live) →
        (v.onMuxer change).muxers[index]? = some muxer →
          ∃ muxer', v.muxers[index]? = some muxer' ∧ muxer'.Live := by
    intro change hkept hmuxer
    rcases muxers_onMuxer hmuxer with ⟨-, muxer', hmuxer', rfl⟩ | ⟨-, hmuxer⟩
    · exact ⟨muxer', hmuxer', hkept muxer' hlive⟩
    · exact ⟨muxer, hmuxer, hlive⟩
  cases hmove with
  | discard hidle => exact ⟨muxer, hmuxer, hlive⟩
  | threw hcanRecord hstop =>
    rcases hstop with rfl | rfl
    · exact @hchange MediaMuxer.stopFailed (fun _ h ↦ h) hmuxer
    · exact @hchange MediaMuxer.stop (fun _ h ↦ Bool.noConfusion h.2) hmuxer
  | stopped hcanRecord =>
    exact @hchange (fun muxer ↦ muxer.stop.release) (fun _ h ↦ Bool.noConfusion h.2) hmuxer

/-- A `stopRecord` that finalises what is live leaves nothing live. -/
theorem stop {v w : RecordView} (hmove : StopMove v w)
    (hfinalised : ∀ index muxer, v.muxers[index]? = some muxer → muxer.Live →
      FinalisedAt w.muxers index) :
    w.recording = false ∧ w.NothingLive := by
  refine ⟨by cases hmove <;> rfl, fun muxer hmem hlive ↦ ?_⟩
  obtain ⟨index, hindex⟩ := List.mem_iff_getElem?.mp hmem
  obtain ⟨muxer', hmuxer', hlive'⟩ := live_of_stop hmove hindex hlive
  obtain ⟨held, hheld, -, hdone⟩ := hfinalised index muxer' hmuxer' hlive'
  obtain rfl := Option.some.inj (hindex.symm.trans hheld)
  exact absurd (hlive.2.symm.trans hdone) Bool.false_ne_true

/-- A change that starts no muxer, of a recording that goes on. -/
theorem OwnsLive.onMuxer {v : RecordView} (h : v.OwnsLive) {change : MediaMuxer → MediaMuxer}
    (hchange : ∀ muxer, (change muxer).Live → muxer.Live) : (v.onMuxer change).OwnsLive := by
  intro index muxer hindex hlive
  rcases muxers_onMuxer hindex with ⟨-, muxer', hmuxer', rfl⟩ | ⟨-, hmuxer⟩
  · exact h index muxer' hmuxer' (hchange muxer' hlive)
  · exact h index muxer hmuxer hlive

/-- What a callback does keeps the ownership. -/
theorem OwnsLive.deliver {v w : RecordView} (h : v.OwnsLive) (hmove : DeliverMove v w) :
    w.OwnsLive := by
  cases hmove with
  | addTrack hrecording hcanRecord format => exact h.onMuxer fun _ hlive ↦ hlive
  | setTracks hrecording hcanRecord videoTrack audioTrack => exact h
  | start hrecording hcanRecord hmuxer hfresh hvideo haudio =>
    intro index muxer hindex hlive
    rcases muxers_onMuxer hindex with ⟨hheld, -⟩ | ⟨-, hother⟩
    · exact ⟨hrecording, rfl, hheld⟩
    · exact absurd (hcanRecord.symm.trans (h index muxer hother hlive).2.1) Bool.false_ne_true
  | write hrecording hcanRecord htrack buffer info samples => exact h.onMuxer fun _ hlive ↦ hlive

theorem OwnsLive.delivers {v w : RecordView} (h : v.OwnsLive) (hmoves : Delivers v w) :
    w.OwnsLive := by
  induction hmoves with
  | refl => exact h
  | tail _ hmove ih => exact ih.deliver hmove

/-- A new muxer in place of one that is not live. -/
theorem OwnsLive.create {v : RecordView} (h : v.OwnsLive)
    (hidle : ∀ muxer ∈ v.muxer, ¬ muxer.Live) : v.create.OwnsLive := by
  refine NothingLive.ownsLive fun muxer hmem hlive ↦ ?_
  rcases List.mem_append.mp hmem with hold | hnew
  · obtain ⟨index, hindex⟩ := List.mem_iff_getElem?.mp hold
    obtain ⟨-, -, hheld⟩ := h index muxer hindex hlive
    refine hidle muxer ?_ hlive
    rw [RecordView.muxer, hheld]
    exact hindex
  · rw [List.mem_singleton.mp hnew] at hlive
    exact absurd hlive.1 Bool.false_ne_true

end RecordView

/-- Callbacks of an object that is not recording do nothing. -/
theorem eq_of_delivers {v w : RecordView} (h : Delivers v w) (hoff : v.recording = false) :
    w = v := by
  induction h with
  | refl => rfl
  | tail _ hmove ih =>
    subst ih
    cases hmove with
    | addTrack hrecording => exact absurd (hoff.symm.trans hrecording) Bool.false_ne_true
    | setTracks hrecording => exact absurd (hoff.symm.trans hrecording) Bool.false_ne_true
    | start hrecording => exact absurd (hoff.symm.trans hrecording) Bool.false_ne_true
    | write hrecording => exact absurd (hoff.symm.trans hrecording) Bool.false_ne_true

/-! ### The recordings of the service -/

namespace Recordings

/-- The muxer of an object. -/
def muxerOf (r : Recordings) (part : RecordPart) : Option MediaMuxer :=
  part.mediaMuxer.bind (r.muxers[·]?)

/-- An object that is dropped is neither recording nor holding a muxer that is live. -/
def DropsIdle (r r' : Recordings) : Prop :=
  ∀ object, r.rtmpUSB = some object → r'.rtmpUSB ≠ some object →
    ∀ part, r'.parts[object]? = some part →
      part.recording = false ∧ ∀ muxer ∈ r'.muxerOf part, ¬ muxer.Live

/-- No object is recording, and no muxer is live. -/
def AllFinal (r : Recordings) : Prop :=
  (∀ part ∈ r.parts, part.recording = false) ∧ ∀ muxer ∈ r.muxers, ¬ muxer.Live

/-- Only the object in use is recording, and it owns what is live. -/
structure OwnedByCurrent (r : Recordings) : Prop where
  recording : ∀ object part, r.parts[object]? = some part → part.recording = true →
    r.rtmpUSB = some object
  live : ∀ index muxer, r.muxers[index]? = some muxer → muxer.Live →
    ∃ part, r.current = some part ∧ part.recording = true ∧ part.canRecord = true ∧
      part.mediaMuxer = some index

theorem dropsIdle_of_eq {r r' : Recordings} (h : r'.rtmpUSB = r.rtmpUSB) : DropsIdle r r' :=
  fun _ hobject hdropped ↦ absurd (h.trans hobject) hdropped

/-- Recordings that stay as they are. -/
theorem OwnedByCurrent.unchanged {r r' : Recordings} (h : r.OwnedByCurrent) (hsame : r' = r) :
    r'.OwnedByCurrent ∧ DropsIdle r r' :=
  ⟨hsame ▸ h, dropsIdle_of_eq (congrArg Recordings.rtmpUSB hsame)⟩

theorem muxerOf_mem {r : Recordings} {part : RecordPart} {muxer : MediaMuxer}
    (h : muxer ∈ r.muxerOf part) : muxer ∈ r.muxers := by
  obtain ⟨index, -, hmuxer⟩ := Option.bind_eq_some_iff.mp h
  exact List.mem_of_getElem? hmuxer

theorem current_eq {r : Recordings} {object : ℕ} (h : r.rtmpUSB = some object) :
    r.current = r.parts[object]? := by
  rw [current, h]
  rfl

/-- The object in use after its recording became another one. -/
theorem current_put {r : Recordings} {object : ℕ} {part : RecordPart} (w : RecordView)
    (hobject : r.rtmpUSB = some object) (hpart : r.parts[object]? = some part) :
    (r.put object w).current = some w.part :=
  (@current_eq (r.put object w) object hobject).trans
    (List.getElem?_set_self (List.getElem?_eq_some_iff.mp hpart).1)

namespace OwnedByCurrent

variable {r : Recordings}

/-- While the object in use is not recording, nothing is. -/
theorem allFinal (h : r.OwnedByCurrent) (hoff : ∀ part ∈ r.current, part.recording = false) :
    r.AllFinal := by
  have hnone : ∀ {part : RecordPart} {p : Prop}, r.current = some part →
      part.recording = true → p :=
    fun hcurrent hon ↦ absurd ((hoff _ hcurrent).symm.trans hon) Bool.false_ne_true
  constructor
  · intro part hmem
    obtain ⟨object, hobject⟩ := List.mem_iff_getElem?.mp hmem
    by_contra hon
    rw [Bool.not_eq_false] at hon
    exact hnone ((current_eq (h.recording object part hobject hon)).trans hobject) hon
  · intro muxer hmem hlive
    obtain ⟨index, hindex⟩ := List.mem_iff_getElem?.mp hmem
    obtain ⟨part, hcurrent, hon, -⟩ := h.live index muxer hindex hlive
    exact hnone hcurrent hon

/-- What the object in use owns, as its methods see it. -/
theorem ownsLive (h : r.OwnedByCurrent) {object : ℕ} {v : RecordView}
    (hobject : r.rtmpUSB = some object) (hpart : r.parts[object]? = some v.part)
    (hmuxers : r.muxers = v.muxers) : v.OwnsLive := by
  intro index muxer hindex hlive
  obtain ⟨part, hcurrent, hon⟩ := h.live index muxer (hmuxers ▸ hindex) hlive
  rw [current_eq hobject, hpart] at hcurrent
  obtain rfl := Option.some.inj hcurrent
  exact hon

/-- A move of the object in use that leaves it the owner of what is live. -/
theorem put (h : r.OwnedByCurrent) {object : ℕ} {v w : RecordView}
    (hobject : r.rtmpUSB = some object) (hpart : r.parts[object]? = some v.part)
    (howns : w.OwnsLive) : (r.put object w).OwnedByCurrent := by
  refine ⟨fun other part hother hon ↦ ?_, fun index muxer hindex hlive ↦ ?_⟩
  · by_cases hsame : object = other
    · exact hsame ▸ hobject
    · exact h.recording other part ((List.getElem?_set_ne hsame).symm.trans hother) hon
  · exact ⟨w.part, current_put w hobject hpart, howns index muxer hindex hlive⟩

/-- A new object may be put into use while nothing is recorded. -/
theorem renew (hfinal : r.AllFinal) : r.renew.OwnedByCurrent := by
  refine ⟨fun object part hobject hon ↦ ?_, fun index muxer hindex hlive ↦ ?_⟩
  · rcases List.mem_append.mp (List.mem_of_getElem? hobject) with hold | hnew
    · exact absurd ((hfinal.1 part hold).symm.trans hon) Bool.false_ne_true
    · rw [List.mem_singleton.mp hnew] at hon
      exact absurd hon Bool.false_ne_true
  · exact absurd hlive (hfinal.2 muxer (List.mem_of_getElem? hindex))

end OwnedByCurrent

/-- The object that is dropped for a new one while nothing is recorded. -/
theorem AllFinal.dropsIdle {r : Recordings} (h : r.AllFinal) : DropsIdle r r.renew := by
  intro object hobject hdropped part hpart
  refine ⟨?_, fun muxer hmuxer ↦ h.2 muxer (muxerOf_mem hmuxer)⟩
  rcases List.mem_append.mp (List.mem_of_getElem? hpart) with hold | hnew
  · exact h.1 part hold
  · rw [List.mem_singleton.mp hnew]

end Recordings

open Recordings

/-- A move of the object in use keeps the ownership where the move does. -/
theorem CurrentMove.owned {move : RecordView → RecordView → Prop} {r r' : Recordings}
    (h : CurrentMove move r r') (howned : r.OwnedByCurrent)
    (hmove : ∀ v w, r.current = some v.part → r.muxers = v.muxers → r'.muxers = w.muxers →
      v.OwnsLive → move v w → w.OwnsLive) : r'.OwnedByCurrent := by
  rcases h with ⟨-, rfl⟩ | ⟨object, hobject, v, w, hpart, hmuxers, hvw, rfl⟩
  · exact howned
  · exact howned.put hobject hpart (hmove v w ((current_eq hobject).trans hpart) hmuxers rfl
      (howned.ownsLive hobject hpart hmuxers) hvw)

theorem CurrentMove.rtmpUSB {move : RecordView → RecordView → Prop} {r r' : Recordings}
    (h : CurrentMove move r r') : r'.rtmpUSB = r.rtmpUSB := by
  rcases h with ⟨-, rfl⟩ | ⟨object, hobject, v, w, hpart, hmuxers, hvw, rfl⟩
  · rfl
  · rfl

/-- The object in use has stopped its recording, and what was live is finalised: nothing is
recorded. -/
theorem CurrentMove.stopped {r r' : Recordings} (h : CurrentMove StopMove r r')
    (howned : r.OwnedByCurrent)
    (hfinalised : ∀ index muxer, r.muxers[index]? = some muxer → muxer.Live →
      FinalisedAt r'.muxers index) :
    r'.OwnedByCurrent ∧ r'.AllFinal := by
  have hstop : ∀ {v w : RecordView}, r.muxers = v.muxers → r'.muxers = w.muxers → StopMove v w →
      w.recording = false ∧ w.NothingLive := fun hbefore hafter hmove ↦
    RecordView.stop hmove fun index muxer hmuxer hlive ↦
      hafter ▸ hfinalised index muxer (hbefore ▸ hmuxer) hlive
  have howned' : r'.OwnedByCurrent :=
    h.owned howned fun v w _ hbefore hafter _ hmove ↦ (hstop hbefore hafter hmove).2.ownsLive
  refine ⟨howned', howned'.allFinal fun part hpart ↦ ?_⟩
  rcases h with ⟨hnone, rfl⟩ | ⟨object, hobject, v, w, hold, hmuxers, hmove, rfl⟩
  · exact absurd (hpart.symm.trans hnone) (Option.some_ne_none part)
  · have hcurrent := current_put w hobject hold
    obtain rfl := Option.some.inj (hcurrent.symm.trans hpart)
    exact (hstop hmuxers rfl hmove).1

/-- A callback of any object keeps the ownership and the object in use. -/
theorem ObjectMove.delivered {object : ℕ} {r r' : Recordings} (h : ObjectMove Delivers object r r')
    (howned : r.OwnedByCurrent) : r'.OwnedByCurrent ∧ r'.rtmpUSB = r.rtmpUSB := by
  obtain ⟨v, w, hpart, hmuxers, hmoves, rfl⟩ := h
  refine ⟨?_, rfl⟩
  cases hon : v.recording with
  | true =>
    have hobject : r.rtmpUSB = some object := howned.recording object v.part hpart hon
    exact howned.put hobject hpart ((howned.ownsLive hobject hpart hmuxers).delivers hmoves)
  | false =>
    -- The encoders of an object that was dropped deliver in vain.
    rw [eq_of_delivers hmoves hon, put_self hpart hmuxers]
    exact howned

/-! ### Promises -/

/-- The call ends a recording. -/
def ServiceCall.ends (serviceCall : ServiceCall) : Bool :=
  match serviceCall.event with
  | .stopLocalRecording => true
  | .onDestroy => true
  | _ => false

/-- The muxer of the recording that a `startLocalRecording` promises by returning `true`. -/
def promisedBy : EStateM.Result JavaException ServiceState Bool → List ℕ
  | .ok true s => (s.current.bind USBBase.mediaMuxer).toList
  | _ => []

/-- The muxers of the recordings that a call promises. -/
def ServiceCall.promises (s : ServiceState) (serviceCall : ServiceCall) : List ℕ :=
  match serviceCall.event with
  | .startLocalRecording outputPath =>
    promisedBy (StreamService.startLocalRecording outputPath
      { s with devices.outcomes := serviceCall.outcomes })
  | _ => []

/-- The service, with the muxers of the recordings that were promised since recordings were last
ended. -/
structure PromisedRun where
  service : ServiceState
  promised : List ℕ

/-- A call, with what it promises. -/
def promiseStep (p : PromisedRun) (serviceCall : ServiceCall) : PromisedRun where
  service := serviceStep p.service serviceCall
  promised := (if serviceCall.ends then [] else p.promised) ++ serviceCall.promises p.service

/-- No recording is orphaned by a step: an object that it drops is idle, and where it ends
recordings nothing goes on, and those that were promised are finalised. -/
def NoOrphan (p : PromisedRun) (serviceCall : ServiceCall) : Prop :=
  DropsIdle p.service.recordings (serviceStep p.service serviceCall).recordings ∧
    (serviceCall.ends = true → (serviceStep p.service serviceCall).recordings.AllFinal ∧
      ∀ index ∈ p.promised, FinalisedAt (serviceStep p.service serviceCall).devices.muxers index)

/-- The muxer that the object in use holds. -/
def ServiceState.heldMuxer (s : ServiceState) : Option MediaMuxer :=
  s.current.bind fun object ↦ object.mediaMuxer.bind (s.devices.muxers[·]?)

/-- A recording that was promised has got its muxer started, and a muxer that is live is stopped
without an exception. -/
def PromisedRun.CanEnd (p : PromisedRun) (outcomes : List Outcome) : Prop :=
  (p.promised ≠ [] → ∃ muxer ∈ p.service.heldMuxer, muxer.Live) ∧
    ∀ muxer ∈ p.service.heldMuxer, muxer.Live → firstThrows outcomes = false

instance (p : PromisedRun) (outcomes : List Outcome) : Decidable (p.CanEnd outcomes) :=
  inferInstanceAs (Decidable (_ ∧ _))

/-- No event takes a recording from the service: `onConnect` comes while the object in use is not
recording, `startLocalRecording` while no recording is promised and no muxer that is live is held.
`stopLocalRecording` and `onDestroy` find the muxer of a promised recording started and can stop it,
and where the object in use streams and records when the service is destroyed, its client can
disconnect. -/
def KeepsRecording (p : PromisedRun) (serviceCall : ServiceCall) : Prop :=
  match serviceCall.event with
  | .onConnect _ => ∀ object ∈ p.service.current, object.recording = false
  | .startLocalRecording _ => p.promised = [] ∧ ∀ muxer ∈ p.service.heldMuxer, ¬ muxer.Live
  | .stopLocalRecording => p.CanEnd serviceCall.outcomes
  | .onDestroy => ∀ object ∈ p.service.current, object.recording = true →
      (object.streaming = true → firstThrows serviceCall.outcomes = false) ∧
        p.CanEnd (outcomesAfterStop object serviceCall.outcomes)
  | _ => True

instance (p : PromisedRun) : (serviceCall : ServiceCall) → Decidable (KeepsRecording p serviceCall)
  | ⟨.onConnect _, _⟩ =>
    inferInstanceAs (Decidable (∀ object ∈ p.service.current, object.recording = false))
  | ⟨.startLocalRecording _, _⟩ => inferInstanceAs (Decidable (_ ∧ _))
  | ⟨.stopLocalRecording, outcomes⟩ => inferInstanceAs (Decidable (p.CanEnd outcomes))
  | ⟨.onDestroy, outcomes⟩ => inferInstanceAs (Decidable (∀ object ∈ p.service.current,
      object.recording = true → (object.streaming = true → firstThrows outcomes = false) ∧
        p.CanEnd (outcomesAfterStop object outcomes)))
  | ⟨.onDisconnect, _⟩ | ⟨.onDettach, _⟩ | ⟨.startStreamRtp _, _⟩ | ⟨.stopStream _, _⟩
  | ⟨.setVerticalCropEnabled _, _⟩ | ⟨.setView _, _⟩ | ⟨.startPreview, _⟩ | ⟨.stopPreview, _⟩
  | ⟨.callback _ _, _⟩ => instDecidableTrue

/-- The object in use alone records, and its recording is the one that was promised. -/
structure PromisedRun.Kept (p : PromisedRun) : Prop where
  owned : p.service.recordings.OwnedByCurrent
  promised : ∀ index ∈ p.promised, ∃ part ∈ p.service.recordings.current,
    part.recording = true ∧ part.mediaMuxer = some index

theorem allFinal_of_current {s : ServiceState} (h : s.recordings.OwnedByCurrent)
    (hoff : ∀ object ∈ s.current, object.recording = false) : s.recordings.AllFinal := by
  refine h.allFinal fun part hpart ↦ ?_
  rw [current_recordings] at hpart
  obtain ⟨object, hobject, rfl⟩ := Option.map_eq_some_iff.mp hpart
  exact hoff object hobject

/-- The object in use, as its recording shows it. -/
theorem current_of_part {s : ServiceState} {part : RecordPart}
    (hpart : s.recordings.current = some part) :
    ∃ object, s.current = some object ∧ object.part = part := by
  rw [current_recordings] at hpart
  exact Option.map_eq_some_iff.mp hpart

theorem heldMuxer_of_part {s : ServiceState} {part : RecordPart}
    (hpart : s.recordings.current = some part) :
    s.heldMuxer = part.mediaMuxer.bind (s.devices.muxers[·]?) := by
  obtain ⟨object, hobject, rfl⟩ := current_of_part hpart
  rw [ServiceState.heldMuxer, hobject]
  rfl

/-- A call that ends recordings finalises what is live. -/
theorem PromisedRun.Kept.finalises {p : PromisedRun} (h : p.Kept) {serviceCall : ServiceCall}
    (hends : serviceCall.ends = true) (hkeeps : KeepsRecording p serviceCall) {index : ℕ}
    {muxer : MediaMuxer} (hmuxer : p.service.devices.muxers[index]? = some muxer)
    (hlive : muxer.Live) :
    FinalisedAt (serviceStep p.service serviceCall).devices.muxers index := by
  obtain ⟨part, hpart, hon, hcanRecord, hplace⟩ := h.owned.live index muxer hmuxer hlive
  obtain ⟨object, hobject, rfl⟩ := current_of_part hpart
  have hheld : muxer ∈ p.service.heldMuxer := by
    rw [heldMuxer_of_part hpart, hplace]
    exact hmuxer
  obtain ⟨event, outcomes⟩ := serviceCall
  cases event with
  | stopLocalRecording =>
    exact (@finalises_stopLocalRecording { p.service with devices.outcomes := outcomes } object
      index muxer hobject hplace hmuxer hlive.1 hcanRecord (hkeeps.2 muxer hheld hlive)).after rfl
  | onDestroy =>
    obtain ⟨hdisconnects, hcan⟩ := hkeeps object hobject hon
    exact (@finalises_onDestroy { p.service with devices.outcomes := outcomes } object index muxer
      hobject hon hplace hmuxer hlive.1 hcanRecord hdisconnects
      (hcan.2 muxer hheld hlive)).after rfl
  | _ => cases hends

/-- A call that ends recordings keeps the promises. -/
theorem PromisedRun.Kept.keepsPromises {p : PromisedRun} (h : p.Kept) {serviceCall : ServiceCall}
    (hends : serviceCall.ends = true) (hkeeps : KeepsRecording p serviceCall) {index : ℕ}
    (hindex : index ∈ p.promised) :
    FinalisedAt (serviceStep p.service serviceCall).devices.muxers index := by
  obtain ⟨part, hpart, hon, hplace⟩ := h.promised index hindex
  obtain ⟨object, hobject, rfl⟩ := current_of_part hpart
  have hstarted : ∃ muxer ∈ p.service.heldMuxer, muxer.Live := by
    obtain ⟨event, outcomes⟩ := serviceCall
    cases event with
    | stopLocalRecording => exact hkeeps.1 (List.ne_nil_of_mem hindex)
    | onDestroy => exact (hkeeps object hobject hon).2.1 (List.ne_nil_of_mem hindex)
    | _ => cases hends
  obtain ⟨muxer, hheld, hlive⟩ := hstarted
  rw [heldMuxer_of_part hpart, hplace] at hheld
  exact h.finalises hends hkeeps hheld hlive

/-- A `startLocalRecording` that returns `true` leaves the object in use recording with the muxer
that it promises. -/
theorem recording_of_promises {s : ServiceState} {serviceCall : ServiceCall} {index : ℕ}
    (hindex : index ∈ serviceCall.promises s) :
    ∃ part ∈ (serviceStep s serviceCall).recordings.current,
      part.recording = true ∧ part.mediaMuxer = some index := by
  obtain ⟨event, outcomes⟩ := serviceCall
  cases event with
  | startLocalRecording outputPath =>
    have hindex : index ∈ promisedBy (StreamService.startLocalRecording outputPath
      { s with devices.outcomes := outcomes }) := hindex
    cases hrun : StreamService.startLocalRecording outputPath
        { s with devices.outcomes := outcomes } with
    | error exception t =>
      rw [hrun] at hindex
      cases hindex
    | ok started t =>
      rw [hrun] at hindex
      cases started with
      | false => cases hindex
      | true =>
        have hstep : serviceStep s ⟨.startLocalRecording outputPath, outcomes⟩ = t :=
          serviceStep_of_ok (bind_of_ok hrun)
        obtain ⟨-, hcreated⟩ := (triple_startLocalRecording s.recordings outputPath).of_ok (by rfl)
          hrun
        obtain ⟨place, hplace, v, w, hpart, hmuxers, hcreate, hput⟩ := hcreated rfl
        have hcurrent : t.recordings.current = some v.create.part := by
          rw [hput, hcreate]
          exact current_put v.create hplace hpart
        obtain ⟨object, hobject, hsame⟩ := current_of_part hcurrent
        have hheld := Option.mem_toList.mp hindex
        rw [hobject] at hheld
        exact ⟨v.create.part, hstep ▸ hcurrent, rfl,
          (congrArg RecordPart.mediaMuxer hsame).symm.trans hheld⟩
  | _ => cases hindex

/-- A promised recording goes on until recordings are ended. -/
theorem PromisedRun.Kept.promised_promiseStep {p : PromisedRun} (h : p.Kept)
    {serviceCall : ServiceCall} (hkeeps : KeepsRecording p serviceCall) {index : ℕ}
    (hindex : index ∈ (promiseStep p serviceCall).promised) :
    ∃ part ∈ (serviceStep p.service serviceCall).recordings.current,
      part.recording = true ∧ part.mediaMuxer = some index := by
  rcases List.mem_append.mp hindex with hold | hnew
  · cases hends : serviceCall.ends with
    | true =>
      rw [hends] at hold
      cases hold
    | false =>
      rw [hends] at hold
      obtain ⟨part, hpart, hon, hplace⟩ := h.promised index hold
      obtain ⟨object, hobject, hobjectPart⟩ := current_of_part hpart
      have hstep := recordings_serviceStep p.service serviceCall
      have hquiet : (serviceStep p.service serviceCall).recordings = p.service.recordings →
          ∃ part ∈ (serviceStep p.service serviceCall).recordings.current,
            part.recording = true ∧ part.mediaMuxer = some index :=
        fun hsame ↦ ⟨part, hsame ▸ hpart, hon, hplace⟩
      obtain ⟨event, outcomes⟩ := serviceCall
      cases event with
      | onConnect supportedSizes =>
        have hoff : part.recording = false := hobjectPart ▸ hkeeps object hobject
        exact absurd (hoff.symm.trans hon) Bool.false_ne_true
      | startLocalRecording outputPath =>
        have hnone : p.promised = [] := hkeeps.1
        rw [hnone] at hold
        cases hold
      | stopLocalRecording => cases hends
      | onDestroy => cases hends
      | callback place encoderCallback =>
        rcases hstep with hsame | ⟨v, w, hv, hmuxers, hmoves, hput⟩
        · exact hquiet hsame
        rw [hput]
        by_cases hused : p.service.recordings.rtmpUSB = some place
        · have hsame := hpart.symm.trans ((current_eq hused).trans hv)
          obtain rfl := Option.some.inj hsame
          exact ⟨w.part, current_put w hused hv, recording_of_delivers hmoves hon,
            (mediaMuxer_of_delivers hmoves).trans hplace⟩
        · obtain ⟨current, hcurrent, hget⟩ := Option.bind_eq_some_iff.mp hpart
          have hother : place ≠ current := fun heq ↦ hused (heq ▸ hcurrent)
          refine ⟨part, ?_, hon, hplace⟩
          exact (@current_eq (p.service.recordings.put place w) current hcurrent).trans
            ((List.getElem?_set_ne hother).trans hget)
      | _ => exact hquiet hstep
  · exact recording_of_promises hnew

/-- The step lemma. -/
theorem PromisedRun.Kept.step {p : PromisedRun} {serviceCall : ServiceCall} (h : p.Kept)
    (hkeeps : KeepsRecording p serviceCall) :
    (promiseStep p serviceCall).Kept ∧ NoOrphan p serviceCall := by
  have hstep := recordings_serviceStep p.service serviceCall
  suffices hmove : ((serviceStep p.service serviceCall).recordings.OwnedByCurrent ∧
      DropsIdle p.service.recordings (serviceStep p.service serviceCall).recordings) ∧
      (serviceCall.ends = true → (serviceStep p.service serviceCall).recordings.AllFinal) by
    obtain ⟨⟨howned, hdrops⟩, hdone⟩ := hmove
    refine ⟨⟨howned, fun _ hindex ↦ h.promised_promiseStep hkeeps hindex⟩, hdrops, fun hends ↦ ?_⟩
    exact ⟨hdone hends, fun _ hindex ↦ h.keepsPromises hends hkeeps hindex⟩
  have hfinal := fun (hends : serviceCall.ends = true) index muxer ↦
    @PromisedRun.Kept.finalises p h serviceCall hends hkeeps index muxer
  obtain ⟨event, outcomes⟩ := serviceCall
  cases event with
  | onConnect supportedSizes =>
    refine ⟨?_, fun hends ↦ absurd hends Bool.false_ne_true⟩
    have hidle := allFinal_of_current h.owned hkeeps
    rcases hstep with hsame | hrenew
    · exact h.owned.unchanged hsame
    · exact ⟨hrenew ▸ .renew hidle, hrenew ▸ hidle.dropsIdle⟩
  | startLocalRecording outputPath =>
    refine ⟨?_, fun hends ↦ absurd hends Bool.false_ne_true⟩
    rcases hstep with hsame | hstart
    · exact h.owned.unchanged hsame
    · refine ⟨hstart.owned h.owned fun v w hcurrent hmuxers _ hv hmove ↦ ?_,
        dropsIdle_of_eq hstart.rtmpUSB⟩
      rcases hmove with rfl | rfl
      · exact hv
      · refine hv.create fun muxer hmuxer ↦ hkeeps.2 muxer ?_
        rw [heldMuxer_of_part hcurrent]
        rw [RecordView.muxer, ← hmuxers] at hmuxer
        exact hmuxer
  | stopLocalRecording =>
    obtain ⟨howned, hdone⟩ := hstep.stopped h.owned (hfinal rfl)
    exact ⟨⟨howned, dropsIdle_of_eq hstep.rtmpUSB⟩, fun _ ↦ hdone⟩
  | onDestroy =>
    rcases hstep with hstop | ⟨hsame, object, hcurrent, hstreaming, hthrows⟩
    · obtain ⟨howned, hdone⟩ := hstop.stopped h.owned (hfinal rfl)
      exact ⟨⟨howned, dropsIdle_of_eq hstop.rtmpUSB⟩, fun _ ↦ hdone⟩
    · -- `stopStream` threw, although the client could disconnect: nothing is recorded.
      have hidle := allFinal_of_current h.owned fun held hheld ↦ by
        obtain rfl := Option.some.inj (hheld.symm.trans hcurrent)
        by_contra hon
        rw [Bool.not_eq_false] at hon
        have hreturns := (hkeeps held hcurrent hon).1 hstreaming
        exact Bool.false_ne_true (hreturns.symm.trans (hthrows hon))
      exact ⟨h.owned.unchanged hsame, fun _ ↦ hsame ▸ hidle⟩
  | callback object encoderCallback =>
    refine ⟨?_, fun hends ↦ absurd hends Bool.false_ne_true⟩
    rcases hstep with hsame | hmove
    · exact h.owned.unchanged hsame
    · obtain ⟨howned, hplace⟩ := hmove.delivered h.owned
      exact ⟨howned, dropsIdle_of_eq hplace⟩
  | _ => exact ⟨h.owned.unchanged hstep, fun hends ↦ absurd hends Bool.false_ne_true⟩

/-! ### Runs -/

/-- A new service, which has promised no recording. -/
def PromisedRun.initial (openGlView : Option ℕ) (devices : Devices) : PromisedRun :=
  ⟨ServiceState.initial openGlView devices, []⟩

/-- Along any calls of the service, USB events and callbacks that take no recording from the
service, with any outcomes of the calls they make, an object that is dropped is neither recording
nor holding a muxer that is live, and after `stopLocalRecording` and `onDestroy` nothing is
recorded and every recording for which `startLocalRecording` returned `true` is finalised. -/
theorem recordings_finalised (openGlView : Option ℕ) (devices : Devices) (calls : List ServiceCall)
    (hkeeps : Meets promiseStep KeepsRecording (PromisedRun.initial openGlView devices) calls) :
    Meets promiseStep NoOrphan (PromisedRun.initial openGlView devices) calls := by
  refine @meets_of_inv _ _ promiseStep KeepsRecording NoOrphan PromisedRun.Kept _ _
    (fun _ _ h hstep ↦ (h.step hstep).1) (fun _ _ h hstep ↦ (h.step hstep).2) ⟨⟨?_, ?_⟩, nofun⟩
    hkeeps
  · exact fun _ _ hobject ↦ absurd (List.mem_of_getElem? hobject) List.not_mem_nil
  · exact fun _ _ hindex ↦ absurd (List.mem_of_getElem? hindex) List.not_mem_nil

/-- An event all of whose calls return. -/
def ServiceEvent.plain (event : ServiceEvent) : ServiceCall := ⟨event, []⟩

/-- A camera is connected and a recording started, which has got its first key frame. -/
def recordingStarted : List ServiceCall :=
  [(ServiceEvent.onConnect [⟨640, 480⟩]).plain,
    (ServiceEvent.startLocalRecording "recording.mp4").plain,
    (ServiceEvent.callback 0 (.onVideoFormat ⟨"video/avc", []⟩)).plain,
    (ServiceEvent.callback 0 (.onAudioFormat ⟨"audio/mp4a-latm", []⟩)).plain,
    (ServiceEvent.callback 0 keyFrame).plain]

/-- A recording that is stopped before the camera is connected again. -/
theorem recordings_finalised_stopped :
    Meets promiseStep NoOrphan (PromisedRun.initial (some 0) oneCamera)
      (recordingStarted ++ [ServiceEvent.stopLocalRecording.plain,
        (ServiceEvent.onConnect [⟨640, 480⟩]).plain]) :=
  recordings_finalised (some 0) oneCamera _ (by decide)

/-- The camera is connected again during a recording: the object that records is dropped. -/
theorem not_noOrphan_reconnected :
    ¬ Meets promiseStep NoOrphan (PromisedRun.initial (some 0) oneCamera)
      (recordingStarted ++ [(ServiceEvent.onConnect [⟨640, 480⟩]).plain]) := by
  intro h
  obtain ⟨-, ⟨hdrops, -⟩, -⟩ := meets_append.mp h
  exact absurd (hdrops 0 (by decide) (by decide) ⟨true, true, some 0⟩ (by rfl)).1 (by decide)

end UvcRtmpStream.Streaming
