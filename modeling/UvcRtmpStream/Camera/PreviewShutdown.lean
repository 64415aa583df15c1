import UvcRtmpStream.Camera.FrameCustody

/-!
# What a stop leaves behind

`stopPreview` joins the capture thread if `mHasCaptureThread` says that there is one, and then the
preview thread. The preview thread sets that flag late: it is not set by the constructor, it keeps
its value from the preview before until `do_preview` clears it, and it is set only after the thread
has been created. A stop that reads it too early does not wait for the capture thread, which goes on
after `stopPreview` has returned.

Where every stop reads the flag in time (`TimelyStop`), a stop leaves neither the preview thread nor
a capture thread behind; where, besides, every stream ends with its device there, so that its thread
is joined too (`JoinsStream`), a stop leaves no queued frame behind, and the destructor frees every
frame ever allocated (`nothing_left`). Where a stop reads the flag too early, the threads may take
steps after which `stopPreview` has returned and the capture thread lives (`stop_joins_iff`).
-/

set_option autoImplicit false
set_option relaxedAutoImplicit false

namespace UvcRtmpStream.Camera

open UvcRtmpStream.Foundations

/-- The preview thread is behind `pthread_create`. -/
def PreviewPhase.PastCreating : PreviewPhase → Prop
  | .none | .preparing | .connecting | .clearing | .creating => False
  | _ => True

instance : DecidablePred PreviewPhase.PastCreating
  | .none | .preparing | .connecting | .clearing | .creating => .isFalse id
  | .flagging | .waiting | .taken _ | .decoding _ _ | .discarding _ | .drawing _ | .converting _ _
  | .showing _ _ | .adding _ | .leaving | .over => .isTrue trivial

namespace UVCPreview

/-- No capture thread lives. -/
def AllOver (s : UVCPreview) : Prop := ∀ phase ∈ s.captures, phase = .over

instance (s : UVCPreview) : Decidable s.AllOver := inferInstanceAs (Decidable (∀ _ ∈ _, _))

theorem liveCaptures_eq_zero_iff (s : UVCPreview) : s.liveCaptures = 0 ↔ s.AllOver := by
  simp [liveCaptures, AllOver, List.countP_eq_zero]

/-- The capture thread has been created, or will not be, and the flag says that there is one where
one lives. -/
def FlagKnown (s : UVCPreview) : Prop :=
  (s.preview.PastCreating ∨ s.deviceGone = true) ∧ (s.hasCaptureThread = true ∨ s.AllOver)

instance (s : UVCPreview) : Decidable s.FlagKnown := inferInstanceAs (Decidable (_ ∧ _))

/-- A stop reads the flag only where it is known. -/
def TimelyStop (s : UVCPreview) : PreviewEvent → Prop
  | .caller _ => s.caller = .stopping → s.FlagKnown
  | _ => True

instance (s : UVCPreview) (event : PreviewEvent) : Decidable (s.TimelyStop event) := by
  cases event <;> unfold TimelyStop <;> infer_instance

/-- The end of a stream joins its thread: the device is there. -/
def JoinsStream (s : UVCPreview) : PreviewEvent → Prop
  | .preview answers => s.preview = .leaving → answers.ok = true
  | _ => True

instance (s : UVCPreview) (event : PreviewEvent) : Decidable (s.JoinsStream event) := by
  cases event <;> unfold JoinsStream <;> infer_instance

/-! ### The device -/

theorem StreamMove.deviceGone_eq {s t : UVCPreview} (h : StreamMove s t) :
    t.deviceGone = s.deviceGone := by
  cases h <;> rfl

theorem CaptureMove.deviceGone_eq {s t : UVCPreview} {place : ℕ} (h : CaptureMove s place t) :
    t.deviceGone = s.deviceGone := by
  cases h <;> rfl

theorem CallerMove.deviceGone_eq {s t : UVCPreview} (h : CallerMove s t) :
    t.deviceGone = s.deviceGone := by
  cases h <;> rfl

/-- Only the end of a stream shows that the device is gone. -/
theorem PreviewMove.deviceGone_eq {s t : UVCPreview} (h : PreviewMove s t)
    (hstreams : s.preview ≠ .leaving) : t.deviceGone = s.deviceGone := by
  cases h with
  | abandoned hpreview => exact absurd hpreview hstreams
  | _ => rfl

/-- A stream that is joined ends with the device there. -/
theorem deviceGone_step {s : UVCPreview} (hthere : s.deviceGone = false) {event : PreviewEvent}
    (hjoins : s.JoinsStream event) : (s.step event).deviceGone = false := by
  cases event with
  | stream answers => exact (s.streamMove answers).deviceGone_eq.trans hthere
  | capture place answers => exact (s.captureMove place answers).deviceGone_eq.trans hthere
  | preview answers =>
    by_cases hleaving : s.preview = .leaving
    · simp only [step, previewStep, hleaving, hjoins hleaving, if_true]
      split_ifs <;> exact hthere
    · exact ((s.previewMove answers).deviceGone_eq hleaving).trans hthere
  | caller | start | stop | delete =>
    refine (CallerMove.deviceGone_eq (s.callerMove ?_)).trans hthere
    trivial

/-! ### One capture thread -/

/-- A capture thread that moves lives, and another one does not change. -/
theorem CaptureMove.captures_eq {s t : UVCPreview} {place : ℕ} (h : CaptureMove s place t) :
    t = s ∨ ∃ old phase, s.captures[place]? = some old ∧ old ≠ .over ∧
      t.captures = s.captures.set place phase := by
  cases h with
  | same => exact Or.inl rfl
  | _ => exact Or.inr ⟨_, _, ‹_›, by simp, rfl⟩

/-- The capture thread of a preview is joined before the next one is created. -/
structure Tidy (s : UVCPreview) : Prop where
  joined : s.Joined
  present : s.preview = .none → s.PreviewAbsent
  stopped : s.caller ≠ .free → s.caller ≠ .starting → s.isRunning = false
  earlier : ∀ place phase, s.captures[place]? = some phase → phase ≠ .over →
    place + 1 = s.captures.length
  fresh : ¬ s.preview.PastCreating → s.AllOver
  flagged : s.AllOver ∨ s.preview = .flagging ∨ s.hasCaptureThread = true
  joins : s.caller = .joiningCapture ∨ s.caller = .joiningPreview →
    s.preview.PastCreating ∨ s.deviceGone = true
  left : s.caller = .joiningPreview → s.AllOver
  gone : s.deviceGone = true → ¬ s.preview.Streams ∧ s.preview ≠ .connecting

theorem StreamMove.tidy {s t : UVCPreview} (h : StreamMove s t) (hs : s.Tidy) : t.Tidy := by
  have hjoined := (Moves.stream h).joined hs.joined
  cases h <;> exact ⟨hjoined, hs.present, hs.stopped, hs.earlier, hs.fresh, hs.flagged, hs.joins,
    hs.left, hs.gone⟩

theorem CaptureMove.tidy {s t : UVCPreview} {place : ℕ} (h : CaptureMove s place t) (hs : s.Tidy) :
    t.Tidy := by
  have hjoined := (Moves.capture h).joined hs.joined
  obtain ⟨hcaller, hrunning, hpreview⟩ := h.caller_eq
  have hflag : t.hasCaptureThread = s.hasCaptureThread := by cases h <;> rfl
  have hgone := h.deviceGone_eq
  rcases h.captures_eq with rfl | ⟨old, phase, hold, hlive, hset⟩
  · exact hs
  · have hnot : ¬ s.AllOver := fun hover ↦ hlive (hover old (List.mem_of_getElem? hold))
    refine ⟨hjoined, fun hnone ↦ ?_, ?_, fun other found hfound hother ↦ ?_, fun hbefore ↦ ?_,
      Or.inr ?_, ?_, fun hleft ↦ ?_, ?_⟩
    · have habsent := hs.present (hpreview ▸ hnone)
      unfold PreviewAbsent at habsent ⊢
      rwa [hcaller, hrunning]
    · rw [hcaller, hrunning]
      exact hs.stopped
    · rw [hset] at hfound ⊢
      rw [List.length_set]
      by_cases hplace : place = other
      · subst hplace
        exact hs.earlier place old hold hlive
      · rw [List.getElem?_set_ne hplace] at hfound
        exact hs.earlier other found hfound hother
    · exact absurd (hs.fresh (hpreview ▸ hbefore)) hnot
    · rw [hpreview, hflag]
      exact hs.flagged.resolve_left hnot
    · rw [hcaller, hpreview, hgone]
      exact hs.joins
    · exact absurd (hs.left (hcaller ▸ hleft)) hnot
    · rw [hgone, hpreview]
      exact hs.gone

/-- A move of the preview thread that creates no capture thread. -/
theorem Tidy.goes {s t : UVCPreview} (hs : s.Tidy) (hjoined : t.Joined)
    (hcaptures : t.captures = s.captures)
    (hcaller : t.caller = s.caller ∧ t.isRunning = s.isRunning) (hpresent : t.preview ≠ .none)
    (hfresh : ¬ t.preview.PastCreating → s.AllOver)
    (hflagged : s.AllOver ∨ t.preview = .flagging ∨ t.hasCaptureThread = true)
    (hjoins : s.preview.PastCreating → t.preview.PastCreating)
    (hstays : s.deviceGone = true → t.deviceGone = true)
    (hgone : t.deviceGone = true → ¬ t.preview.Streams ∧ t.preview ≠ .connecting) : t.Tidy := by
  have hover : s.AllOver → t.AllOver := fun h ↦ by
    unfold AllOver
    rwa [hcaptures]
  refine ⟨hjoined, fun hnone ↦ absurd hnone hpresent, ?_, ?_, fun hbefore ↦ hover (hfresh hbefore),
    hflagged.imp_left hover, fun hjoining ↦ ?_, fun hleft ↦ ?_, hgone⟩
  · rw [hcaller.1, hcaller.2]
    exact hs.stopped
  · rw [hcaptures]
    exact hs.earlier
  · rw [hcaller.1] at hjoining
    exact (hs.joins hjoining).imp hjoins hstays
  · exact hover (hs.left (hcaller.1 ▸ hleft))

/-- A device that is gone is not streamed from. -/
theorem Tidy.there {s : UVCPreview} (hs : s.Tidy)
    (h : s.preview.Streams ∨ s.preview = .connecting) : s.deviceGone = false := by
  by_contra hgone
  obtain ⟨hstops, hbefore⟩ := hs.gone (by simpa using hgone)
  exact h.elim hstops hbefore

theorem PreviewMove.tidy {s t : UVCPreview} (h : PreviewMove s t) (hs : s.Tidy) : t.Tidy := by
  have hjoined := (Moves.preview h).joined hs.joined
  have hflagged : s.preview ≠ .flagging → s.AllOver ∨ s.hasCaptureThread = true :=
    fun hnot ↦ hs.flagged.imp_right fun h ↦ h.resolve_left hnot
  have hthere : s.preview.Streams ∨ s.preview = .connecting → s.deviceGone = false := hs.there
  cases h with
  | same => exact hs
  | unprepared hpreview | unconnected hpreview =>
    have hover : s.AllOver := hs.fresh (by simp [hpreview, PreviewPhase.PastCreating])
    exact hs.goes hjoined rfl ⟨rfl, rfl⟩ (by simp) (fun _ ↦ hover) (Or.inl hover)
      (fun hpast ↦ by simp [hpreview, PreviewPhase.PastCreating] at hpast) id
      fun _ ↦ ⟨not_false, by simp⟩
  | prepared mjpeg hpreview hdevice =>
    have hover : s.AllOver := hs.fresh (by simp [hpreview, PreviewPhase.PastCreating])
    exact hs.goes hjoined rfl ⟨rfl, rfl⟩ (by simp) (fun _ ↦ hover) (Or.inl hover)
      (fun hpast ↦ by simp [hpreview, PreviewPhase.PastCreating] at hpast) id
      fun hgone ↦ by simp [hdevice] at hgone
  | connected hpreview | clear hpreview hqueue | uncreated hpreview =>
    have hover : s.AllOver := hs.fresh (by simp [hpreview, PreviewPhase.PastCreating])
    have hdevice := hthere (by simp [hpreview, PreviewPhase.Streams])
    exact hs.goes hjoined rfl ⟨rfl, rfl⟩ (by simp) (fun _ ↦ hover) (Or.inl hover)
      (fun hpast ↦ by simp [hpreview, PreviewPhase.PastCreating] at hpast) id
      fun hgone ↦ by simp [hdevice] at hgone
  | cleared hpreview hqueue =>
    have hover : s.AllOver := hs.fresh (by simp [hpreview, PreviewPhase.PastCreating])
    exact hs.goes hjoined rfl ⟨rfl, rfl⟩ (by simp [recycle, hpreview]) (fun _ ↦ hover)
      (Or.inl hover) (fun hpast ↦ by simp [hpreview, PreviewPhase.PastCreating] at hpast) id hs.gone
  | created hpreview =>
    have hbefore : ¬ s.preview.PastCreating := by simp [hpreview, PreviewPhase.PastCreating]
    have hover : s.AllOver := hs.fresh hbefore
    have hdevice := hthere (by simp [hpreview, PreviewPhase.Streams])
    have hfree : ¬ (s.caller = .joiningCapture ∨ s.caller = .joiningPreview) :=
      fun hjoining ↦ (hs.joins hjoining).elim hbefore (by simp [hdevice])
    refine ⟨hjoined, fun hnone ↦ by simp at hnone, hs.stopped, fun place phase hplace hlive ↦ ?_,
      fun hnot ↦ (hnot trivial).elim, Or.inr (Or.inl rfl), fun _ ↦ Or.inl trivial,
      fun hleft ↦ (hfree (Or.inr hleft)).elim, fun hgone ↦ by simp [hdevice] at hgone⟩
    rw [List.length_append]
    by_cases hold : place < s.captures.length
    · rw [List.getElem?_append_left hold] at hplace
      exact absurd (hover phase (List.mem_of_getElem? hplace)) hlive
    · have hbound : place < (s.captures ++ [CapturePhase.clearing]).length :=
        (List.getElem?_eq_some_iff.mp hplace).1
      rw [List.length_append] at hbound
      simp only [List.length_singleton] at hbound ⊢
      omega
  | flagged hpreview =>
    have hdevice := hthere (by simp [hpreview, PreviewPhase.Streams])
    exact hs.goes hjoined rfl ⟨rfl, rfl⟩ (by simp) (fun hnot ↦ (hnot trivial).elim)
      (Or.inr (Or.inr rfl)) (fun _ ↦ trivial) id fun hgone ↦ by simp [hdevice] at hgone
  | took hpreview hqueue =>
    have hdevice := hthere (by simp [hpreview, PreviewPhase.Streams])
    refine hs.goes hjoined rfl ⟨rfl, rfl⟩ ?_ (fun hnot ↦ absurd ?_ hnot) ?_ (fun _ ↦ ?_) id
      fun hgone ↦ by simp [hdevice] at hgone
    · simp only
      split_ifs <;> simp
    · simp only
      split_ifs <;> trivial
    · exact (hflagged (by simp [hpreview])).imp_right Or.inr
    · simp only
      split_ifs <;> trivial
  | left hpreview | got hpreview | decoded hpreview | undecoded hpreview | discarded hpreview
  | skipped hpreview | drew hpreview | filled hpreview | unfilled hpreview | shown _ hpreview
  | added hpreview | replaced hpreview | refused hpreview =>
    have hdevice := hthere (by simp [hpreview, PreviewPhase.Streams])
    exact hs.goes hjoined rfl ⟨rfl, rfl⟩ (by simp) (fun hnot ↦ (hnot trivial).elim)
      ((hflagged (by simp [hpreview])).imp_right Or.inr) (fun _ ↦ trivial) id
      fun hgone ↦ by simp [recycle, fill, hdevice] at hgone
  | ended hpreview | abandoned hpreview =>
    exact hs.goes hjoined rfl ⟨rfl, rfl⟩ (by simp) (fun hnot ↦ (hnot trivial).elim)
      ((hflagged (by simp [hpreview])).imp_right Or.inr) (fun _ ↦ trivial) (fun h ↦ by simp [h])
      fun _ ↦ ⟨not_false, by simp⟩

/-- A move of the caller that leaves the preview thread where it is. -/
theorem Tidy.calls {s t : UVCPreview} (hs : s.Tidy) (hjoined : t.Joined)
    (hcaptures : t.captures = s.captures) (hpreview : t.preview = s.preview)
    (hflag : t.hasCaptureThread = s.hasCaptureThread ∧ t.deviceGone = s.deviceGone)
    (hpresent : s.preview = .none → t.PreviewAbsent)
    (hstopped : t.caller ≠ .free → t.caller ≠ .starting → t.isRunning = false)
    (hjoins : t.caller = .joiningCapture ∨ t.caller = .joiningPreview →
      s.preview.PastCreating ∨ s.deviceGone = true)
    (hleft : t.caller = .joiningPreview → s.AllOver) : t.Tidy := by
  have hover : s.AllOver → t.AllOver := fun h ↦ by
    unfold AllOver
    rwa [hcaptures]
  refine ⟨hjoined, fun hnone ↦ hpresent (hpreview ▸ hnone), hstopped, ?_,
    fun hbefore ↦ hover (hs.fresh (hpreview ▸ hbefore)), ?_, ?_, fun h ↦ hover (hleft h), ?_⟩
  · rw [hcaptures]
    exact hs.earlier
  · rw [hpreview, hflag.1]
    exact hs.flagged.imp_left hover
  · rw [hpreview, hflag.2]
    exact hjoins
  · rw [hpreview, hflag.2]
    exact hs.gone

/-- The last thread is the only one that may live. -/
theorem Tidy.allOver {s : UVCPreview} (hs : s.Tidy)
    (hover : s.captures.getLast?.getD .over = .over) : s.AllOver := by
  intro phase hmem
  by_contra hlive
  obtain ⟨place, hplace⟩ := List.mem_iff_getElem?.mp hmem
  have hlast := hs.earlier place phase hplace hlive
  rw [List.getLast?_eq_getElem?, ← hlast, Nat.add_sub_cancel, hplace] at hover
  exact hlive hover

theorem CallerMove.tidy {s t : UVCPreview} (h : CallerMove s t) (hs : s.Tidy)
    (htimely : s.caller = .stopping → t = s ∨ s.FlagKnown) : t.Tidy := by
  have hjoined := (Moves.caller h).joined hs.joined
  have hstopped := hs.stopped
  cases h with
  | same => exact hs
  | start hcaller hrunning =>
    exact hs.calls hjoined rfl rfl ⟨rfl, rfl⟩ (fun _ ↦ trivial) (fun _ h ↦ (h rfl).elim) (by simp)
      (by simp)
  | started hcaller =>
    have hnone : s.preview = .none := hs.joined.absent (by simp [PreviewAbsent, hcaller])
    have hover : s.AllOver := hs.fresh (by simp [hnone, PreviewPhase.PastCreating])
    exact ⟨hjoined, by simp, by simp, hs.earlier, fun _ ↦ hover, Or.inl hover, by simp, by simp,
      fun _ ↦ ⟨not_false, by simp⟩⟩
  | unstarted hcaller =>
    exact hs.calls hjoined rfl rfl ⟨rfl, rfl⟩ (fun _ ↦ rfl) (fun h ↦ (h rfl).elim) (by simp)
      (by simp)
  | stop hcaller hrunning =>
    exact hs.calls hjoined rfl rfl ⟨rfl, rfl⟩
      (fun hnone ↦ absurd (hs.present hnone) (by simp [PreviewAbsent, hcaller, hrunning]))
      (fun _ _ ↦ rfl) (by simp) (by simp)
  | clears deletes hcaller hrunning =>
    exact hs.calls hjoined rfl rfl ⟨rfl, rfl⟩ (fun _ ↦ trivial) (fun _ _ ↦ hrunning) (by simp)
      (by simp)
  | joinsCapture hcaller hflag =>
    obtain ⟨hpast, -⟩ := (htimely hcaller).resolve_left fun hsame ↦ by
      simpa [hcaller] using congrArg caller hsame
    exact hs.calls hjoined rfl rfl ⟨rfl, rfl⟩
      (fun hnone ↦ absurd (hs.present hnone) (by simp [PreviewAbsent, hcaller]))
      (fun _ _ ↦ hstopped (by simp [hcaller]) (by simp [hcaller])) (fun _ ↦ hpast) (by simp)
  | joinsPreview hcaller hflag =>
    obtain ⟨hpast, hover⟩ := (htimely hcaller).resolve_left fun hsame ↦ by
      simpa [hcaller] using congrArg caller hsame
    exact hs.calls hjoined rfl rfl ⟨rfl, rfl⟩
      (fun hnone ↦ absurd (hs.present hnone) (by simp [PreviewAbsent, hcaller]))
      (fun _ _ ↦ hstopped (by simp [hcaller]) (by simp [hcaller])) (fun _ ↦ hpast)
      fun _ ↦ hover.resolve_left (by simp [hflag])
  | joinedCapture hcaller hover =>
    exact hs.calls hjoined rfl rfl ⟨rfl, rfl⟩
      (fun hnone ↦ absurd (hs.present hnone) (by simp [PreviewAbsent, hcaller]))
      (fun _ _ ↦ hstopped (by simp [hcaller]) (by simp [hcaller]))
      (fun _ ↦ hs.joins (Or.inl hcaller)) fun _ ↦ hs.allOver hover
  | joinedPreview hcaller hover =>
    have hleft := hs.left hcaller
    exact ⟨hjoined, fun _ ↦ trivial,
      fun _ _ ↦ hstopped (by simp [hcaller]) (by simp [hcaller]), hs.earlier, fun _ ↦ hleft,
      Or.inl hleft, by simp, by simp, fun _ ↦ ⟨not_false, by simp⟩⟩
  | cleared hcaller | clear hcaller | clearedPool hcaller =>
    refine hs.calls hjoined rfl rfl ⟨rfl, rfl⟩ (fun _ ↦ ?_)
      (fun _ _ ↦ hstopped (by simp [hcaller]) (by simp [hcaller])) ?_ ?_
    · simp [PreviewAbsent, recycle, hcaller]
    · simp [recycle, hcaller]
    · simp [recycle, hcaller]
  | clearedCapture hcaller | clearCapture hcaller =>
    have hrunning := hstopped (by simp [hcaller]) (by simp [hcaller])
    refine hs.calls hjoined rfl rfl ⟨rfl, rfl⟩ (fun _ ↦ ?_) (fun _ _ ↦ hrunning) ?_ ?_
    · simp only [PreviewAbsent]
      split_ifs
      · trivial
      · exact hrunning
    · split_ifs <;> simp
    · split_ifs <;> simp

/-! ### The queues -/

/-- `clearPreviewFrame` of the stop before is done. -/
def QueueCleared (s : UVCPreview) : Prop :=
  match s.caller with
  | .free => s.isRunning = false
  | .starting | .clearingCapture _ | .clearingPool | .deleted => True
  | .stopping | .joiningCapture | .joiningPreview | .clearing _ => False

/-- `clearCaptureFrame` of the stop before is done. -/
def SlotCleared (s : UVCPreview) : Prop :=
  match s.caller with
  | .free => s.isRunning = false
  | .starting | .clearingPool | .deleted => True
  | .stopping | .joiningCapture | .joiningPreview | .clearing _ | .clearingCapture _ => False

/-- No frame comes in where the stream does not run, and none is queued after a stop. -/
structure Quiet (s : UVCPreview) : Prop where
  there : s.deviceGone = false
  stream : ¬ s.preview.Streams → s.stream = .idle
  queue : s.QueueCleared → s.previewFrames = []
  slot : s.SlotCleared → s.captureQueu = none

theorem QueueCleared.absent {s : UVCPreview} (h : s.QueueCleared) : s.PreviewAbsent := by
  unfold QueueCleared at h
  unfold PreviewAbsent
  cases hcaller : s.caller <;> simp_all

theorem SlotCleared.absent {s : UVCPreview} (h : s.SlotCleared) : s.PreviewAbsent := by
  unfold SlotCleared at h
  unfold PreviewAbsent
  cases hcaller : s.caller <;> simp_all

/-- A thread of the stream that does not run does nothing. -/
theorem StreamMove.eq_of_idle {s t : UVCPreview} (h : StreamMove s t) (hidle : s.stream = .idle)
    (hstops : ¬ s.FramesArrive) : t = s := by
  cases h with
  | same => rfl
  | arrived _ harrives _ | lost _ harrives => exact absurd harrives hstops
  | _ => simp_all

theorem Quiet.not_framesArrive {s : UVCPreview} (hs : s.Quiet) (hstops : ¬ s.preview.Streams) :
    ¬ s.FramesArrive := by
  simp [FramesArrive, hstops, hs.there]

theorem StreamMove.quiet {s t : UVCPreview} (h : StreamMove s t) (hs : s.Quiet)
    (hjoined : s.Joined) : t.Quiet := by
  obtain ⟨hcaller, hrunning, hpreview⟩ := h.caller_eq
  by_cases hstreams : s.preview.Streams
  · have hpresent : ¬ t.PreviewAbsent := by
      intro habsent
      unfold PreviewAbsent at habsent
      rw [hcaller, hrunning] at habsent
      rw [hjoined.absent habsent] at hstreams
      exact hstreams
    have hthere := h.deviceGone_eq
    exact ⟨hthere.trans hs.there, fun hnot ↦ absurd (hpreview ▸ hstreams) hnot,
      fun h ↦ absurd h.absent hpresent, fun h ↦ absurd h.absent hpresent⟩
  · rwa [h.eq_of_idle (hs.stream hstreams) (hs.not_framesArrive hstreams)]

theorem PreviewMove.quiet {s t : UVCPreview} (h : PreviewMove s t) (hs : s.Quiet)
    (hjoined : s.Joined) (hthere : t.deviceGone = false) : t.Quiet := by
  obtain ⟨hcaller, hrunning⟩ := h.caller_eq
  have hstream := hs.stream
  by_cases hnone : s.preview = .none
  · rwa [h.eq_of_none hnone]
  · have hpresent : ¬ t.PreviewAbsent := by
      intro habsent
      unfold PreviewAbsent at habsent
      rw [hcaller, hrunning] at habsent
      exact hnone (hjoined.absent habsent)
    refine ⟨hthere, fun hstops ↦ ?_, fun h ↦ absurd h.absent hpresent,
      fun h ↦ absurd h.absent hpresent⟩
    cases h with
    | same => exact hstream hstops
    | prepared mjpeg hpreview | unprepared hpreview | unconnected hpreview =>
      exact hstream (by simp [hpreview, PreviewPhase.Streams])
    | ended hpreview hidle => exact hidle
    | abandoned => simp at hthere
    | cleared hpreview => exact absurd (by simp [recycle, hpreview, PreviewPhase.Streams]) hstops
    | took hpreview hqueue =>
      simp only at hstops
      split_ifs at hstops <;> exact absurd trivial hstops
    | _ => exact absurd trivial hstops

theorem CaptureMove.quiet {s t : UVCPreview} {place : ℕ} (h : CaptureMove s place t)
    (hs : s.Quiet) : t.Quiet := by
  obtain ⟨hcaller, hrunning, hpreview⟩ := h.caller_eq
  have hthere := h.deviceGone_eq
  have hstream : t.stream = s.stream := by cases h <;> rfl
  have hqueue : t.previewFrames = s.previewFrames := by cases h <;> rfl
  have hslot : s.captureQueu = none → t.captureQueu = none := by
    intro hnone
    cases h <;> simp_all [UVCPreview.become, recycle, fill]
  refine ⟨hthere.trans hs.there, fun hstops ↦ ?_, fun hcleared ↦ ?_, fun hcleared ↦ ?_⟩
  · rw [hstream]
    exact hs.stream (hpreview ▸ hstops)
  · rw [hqueue]
    unfold QueueCleared at hcleared
    rw [hcaller, hrunning] at hcleared
    exact hs.queue hcleared
  · unfold SlotCleared at hcleared
    rw [hcaller, hrunning] at hcleared
    exact hslot (hs.slot hcleared)

theorem CallerMove.quiet {s t : UVCPreview} (h : CallerMove s t) (hs : s.Quiet)
    (hjoined : s.Joined) : t.Quiet := by
  have hthere := hs.there
  have hstream := hs.stream
  have hqueue := hs.queue
  have hslot := hs.slot
  cases h with
  | same => exact hs
  | start hcaller hrunning =>
    exact ⟨hthere, hstream, fun _ ↦ hqueue (by simp [QueueCleared, hcaller, hrunning]),
      fun _ ↦ hslot (by simp [SlotCleared, hcaller, hrunning])⟩
  | started hcaller =>
    have hnone : s.preview = .none := hjoined.absent (by simp [PreviewAbsent, hcaller])
    refine ⟨hthere, fun _ ↦ hstream (by simp [hnone, PreviewPhase.Streams]), fun h ↦ ?_, fun h ↦ ?_⟩
    · exact hqueue (by simp [QueueCleared, hcaller])
    · exact hslot (by simp [SlotCleared, hcaller])
  | unstarted hcaller =>
    exact ⟨hthere, hstream, fun _ ↦ hqueue (by simp [QueueCleared, hcaller]),
      fun _ ↦ hslot (by simp [SlotCleared, hcaller])⟩
  | stop | clears | joinsCapture | joinsPreview | joinedCapture =>
    exact ⟨hthere, hstream, fun h ↦ h.elim, fun h ↦ h.elim⟩
  | joinedPreview hcaller hover =>
    refine ⟨hthere, fun _ ↦ hstream ?_, fun h ↦ h.elim, fun h ↦ h.elim⟩
    rcases hover with hover | hover <;> simp [hover, PreviewPhase.Streams]
  | cleared hcaller hcons =>
    exact ⟨hthere, hstream, fun h ↦ by simp [QueueCleared, recycle, hcaller] at h,
      fun h ↦ by simp [SlotCleared, recycle, hcaller] at h⟩
  | clear hcaller hnil => exact ⟨hthere, hstream, fun _ ↦ hnil, fun h ↦ h.elim⟩
  | clearedCapture hcaller _ =>
    exact ⟨hthere, hstream, fun _ ↦ hqueue (by simp [QueueCleared, hcaller]), fun _ ↦ rfl⟩
  | clearCapture hcaller hnil =>
    exact ⟨hthere, hstream, fun _ ↦ hqueue (by simp [QueueCleared, hcaller]), fun _ ↦ hnil⟩
  | clearedPool hcaller =>
    exact ⟨hthere, hstream, fun _ ↦ hqueue (by simp [QueueCleared, hcaller]),
      fun _ ↦ hslot (by simp [SlotCleared, hcaller])⟩

/-! ### After a stop -/

theorem tidy_step {s : UVCPreview} (hs : s.Tidy) {event : PreviewEvent}
    (htimely : s.TimelyStop event) : (s.step event).Tidy := by
  cases event with
  | stream answers => exact (s.streamMove answers).tidy hs
  | preview answers => exact (s.previewMove answers).tidy hs
  | capture place answers => exact (s.captureMove place answers).tidy hs
  | caller answers =>
    exact (s.callerMove_callerStep answers).tidy hs fun hstopping ↦ Or.inr (htimely hstopping)
  | start | stop | delete =>
    exact CallerMove.tidy (s.callerMove trivial) hs fun hstopping ↦
      Or.inl (by simp [step, hstopping])

theorem tidy_constructed (hasCaptureThread : Bool) : (constructed hasCaptureThread).Tidy := by
  have hover : (constructed hasCaptureThread).AllOver := by simp [AllOver, constructed]
  exact ⟨(kept_constructed hasCaptureThread).joined, fun _ ↦ rfl, fun h ↦ (h rfl).elim,
    by simp [constructed], fun _ ↦ hover, Or.inl hover, by simp [constructed],
    by simp [constructed], by simp [constructed]⟩

theorem tidy_run {hasCaptureThread : Bool} {events : List PreviewEvent}
    (h : Meets step TimelyStop (constructed hasCaptureThread) events) :
    (run step (constructed hasCaptureThread) events).Tidy :=
  inv_run (fun _ _ hinv htimely ↦ tidy_step hinv htimely) (tidy_constructed hasCaptureThread) h

/-- What holds along runs whose stops read the flag in time, and whose streams are joined. -/
structure Orderly (s : UVCPreview) : Prop where
  tidy : s.Tidy
  quiet : s.Quiet
  deleted : s.caller = .deleted → s.frames.pool = []

/-- Where there is no preview thread, no other thread does anything. -/
theorem Orderly.eq_of_absent {s t : UVCPreview} (hs : s.Orderly) (habsent : s.PreviewAbsent)
    (h : StreamMove s t ∨ PreviewMove s t ∨ ∃ place, CaptureMove s place t) : t = s := by
  have hnone : s.preview = .none := hs.tidy.joined.absent habsent
  have hstops : ¬ s.preview.Streams := by simp [hnone, PreviewPhase.Streams]
  have hover : s.AllOver := hs.tidy.fresh (by simp [hnone, PreviewPhase.PastCreating])
  rcases h with hmove | hmove | ⟨place, hmove⟩
  · exact hmove.eq_of_idle (hs.quiet.stream hstops) (hs.quiet.not_framesArrive hstops)
  · exact hmove.eq_of_none hnone
  · rcases hmove.captures_eq with hsame | ⟨old, phase, hold, hlive, -⟩
    · exact hsame
    · exact absurd (hover old (List.mem_of_getElem? hold)) hlive

theorem Orderly.moves {s t : UVCPreview} (hs : s.Orderly)
    (h : StreamMove s t ∨ PreviewMove s t ∨ ∃ place, CaptureMove s place t)
    (hthere : t.deviceGone = false) : t.Orderly := by
  have hcaller : t.caller = s.caller := by
    rcases h with hmove | hmove | ⟨place, hmove⟩
    · exact hmove.caller_eq.1
    · exact hmove.caller_eq.1
    · exact hmove.caller_eq.1
  have hdeleted : t.caller = .deleted → t.frames.pool = [] := by
    intro hgone
    rw [hcaller] at hgone
    rw [hs.eq_of_absent (by simp [PreviewAbsent, hgone]) h]
    exact hs.deleted hgone
  rcases h with hmove | hmove | ⟨place, hmove⟩
  · exact ⟨hmove.tidy hs.tidy, hmove.quiet hs.quiet hs.tidy.joined, hdeleted⟩
  · exact ⟨hmove.tidy hs.tidy, hmove.quiet hs.quiet hs.tidy.joined hthere, hdeleted⟩
  · exact ⟨hmove.tidy hs.tidy, hmove.quiet hs.quiet, hdeleted⟩

theorem Orderly.calls {s t : UVCPreview} (hs : s.Orderly) (h : CallerMove s t)
    (htimely : s.caller = .stopping → t = s ∨ s.FlagKnown) : t.Orderly := by
  refine ⟨h.tidy hs.tidy htimely, h.quiet hs.quiet hs.tidy.joined, fun hgone ↦ ?_⟩
  cases h with
  | same => exact hs.deleted hgone
  | cleared hcaller => simp [recycle, hcaller] at hgone
  | clearedCapture | clearCapture =>
    simp only at hgone
    split_ifs at hgone
  | clearedPool => rfl
  | _ => simp at hgone

theorem orderly_step {s : UVCPreview} (hs : s.Orderly) {event : PreviewEvent}
    (htimely : s.TimelyStop event) (hjoins : s.JoinsStream event) : (s.step event).Orderly := by
  have hthere := deviceGone_step hs.quiet.there hjoins
  cases event with
  | stream answers => exact hs.moves (Or.inl (s.streamMove answers)) hthere
  | preview answers => exact hs.moves (Or.inr (Or.inl (s.previewMove answers))) hthere
  | capture place answers =>
    exact hs.moves (Or.inr (Or.inr ⟨place, s.captureMove place answers⟩)) hthere
  | caller answers =>
    exact hs.calls (s.callerMove_callerStep answers) fun hstopping ↦ Or.inr (htimely hstopping)
  | start | stop | delete =>
    exact hs.calls (s.callerMove trivial) fun hstopping ↦ Or.inl (by simp [step, hstopping])

theorem orderly_constructed (hasCaptureThread : Bool) :
    (constructed hasCaptureThread).Orderly :=
  ⟨tidy_constructed hasCaptureThread, ⟨rfl, fun _ ↦ rfl, fun _ ↦ rfl, fun _ ↦ rfl⟩, fun _ ↦ rfl⟩

theorem orderly_run {hasCaptureThread : Bool} {events : List PreviewEvent}
    (h : Meets step TimelyStop (constructed hasCaptureThread) events)
    (hjoins : Meets step JoinsStream (constructed hasCaptureThread) events) :
    (run step (constructed hasCaptureThread) events).Orderly :=
  inv_run (fun _ _ hinv hevent ↦ orderly_step hinv hevent.1 hevent.2)
    (orderly_constructed hasCaptureThread) (h.and hjoins)

/-- Where no thread is left, the frames are in the pool or freed. -/
theorem Orderly.places_eq {s : UVCPreview} (hs : s.Orderly) (hqueue : s.QueueCleared)
    (hslot : s.SlotCleared) : s.places = s.frames.stored := by
  have hnone : s.preview = .none := hs.tidy.joined.absent hqueue.absent
  have hover : s.AllOver := hs.tidy.fresh (by simp [hnone, PreviewPhase.PastCreating])
  have hidle : s.stream = .idle := hs.quiet.stream (by simp [hnone, PreviewPhase.Streams])
  have hheld : heldByCaptures s.captures = [] := by
    refine List.flatMap_eq_nil_iff.mpr fun phase hmem ↦ ?_
    rw [hover phase hmem]
    rfl
  simp [places, hs.quiet.queue hqueue, hs.quiet.slot hslot, hnone, hidle, hheld, StreamPhase.held,
    PreviewPhase.held]

/-- Where every stop reads the flag in time, a preview that has been stopped has neither its preview
thread nor a capture thread left. Where, besides, every stream is joined, the stream's thread is in
no callback either, every frame is back in the pool, or freed, and when the object is deleted, every
frame that was ever allocated has been freed, once. -/
theorem nothing_left (hasCaptureThread : Bool) (events : List PreviewEvent)
    (h : Meets step TimelyStop (constructed hasCaptureThread) events) :
    let s := run step (constructed hasCaptureThread) events
    (s.caller = .free ∧ s.isRunning = false ∨ s.caller = .deleted →
        s.preview = .none ∧ s.liveCaptures = 0) ∧
      (Meets step JoinsStream (constructed hasCaptureThread) events →
        (s.caller = .free → s.isRunning = false → s.stream = .idle ∧
            (s.frames.pool ++ s.frames.freed).Perm (List.range s.frames.allocated)) ∧
          (s.caller = .deleted → s.stream = .idle ∧
            s.frames.freed.Perm (List.range s.frames.allocated))) := by
  intro s
  have htidy : s.Tidy := tidy_run h
  refine ⟨fun hdone ↦ ?_, fun hjoins ↦ ?_⟩
  · have habsent : s.PreviewAbsent := by
      rcases hdone with ⟨hfree, hrunning⟩ | hgone
      · simp [PreviewAbsent, hfree, hrunning]
      · simp [PreviewAbsent, hgone]
    have hnone := htidy.joined.absent habsent
    exact ⟨hnone, s.liveCaptures_eq_zero_iff.mpr
      (htidy.fresh (by simp [hnone, PreviewPhase.PastCreating]))⟩
  · have hs : s.Orderly := orderly_run h hjoins
    have hperm : s.places.Perm (List.range s.frames.allocated) :=
      (kept_run hasCaptureThread events).perm_places
    have hidle : s.QueueCleared → s.stream = .idle := by
      intro hqueue
      have hnone := htidy.joined.absent hqueue.absent
      exact hs.quiet.stream (by simp [hnone, PreviewPhase.Streams])
    constructor
    · intro hfree hrunning
      have hqueue : s.QueueCleared := by simp [QueueCleared, hfree, hrunning]
      rw [hs.places_eq hqueue (by simp [SlotCleared, hfree, hrunning])] at hperm
      exact ⟨hidle hqueue, hperm⟩
    · intro hgone
      have hqueue : s.QueueCleared := by simp [QueueCleared, hgone]
      rw [hs.places_eq hqueue (by simp [SlotCleared, hgone]), FramePool.stored, hs.deleted hgone,
        List.nil_append] at hperm
      exact ⟨hidle hqueue, hperm⟩

/-- Everything the step asks for succeeds. -/
def succeed : Answers where
  ok := true
  memory := true
  window := true
  mjpeg := true
  capturing := true
  callback := true
  converts := true

/-- A preview of one frame, stopped and deleted. -/
theorem nothing_left_one_frame :
    let events : List PreviewEvent := [.start, .caller succeed] ++
      List.replicate 5 (.preview succeed) ++ List.replicate 2 (.capture 0 succeed) ++
      List.replicate 3 (.stream succeed) ++ List.replicate 7 (.preview succeed) ++
      List.replicate 7 (.capture 0 succeed) ++ [.stop] ++ List.replicate 2 (.capture 0 succeed) ++
      List.replicate 2 (.preview succeed) ++ List.replicate 5 (.caller succeed) ++ [.delete] ++
      List.replicate 3 (.caller succeed)
    (run step (constructed true) events).frames.freed.Perm
      (List.range (run step (constructed true) events).frames.allocated) :=
  (((nothing_left true _ (by decide)).2 (by decide)).2 (by decide)).2

/-! ### A stop that reads the flag too early -/

/-- The threads may come from one state to the other, without a new start. -/
def Reaches (s t : UVCPreview) : Prop :=
  ∃ later : List PreviewEvent, (∀ event ∈ later, event ≠ .start) ∧ run step s later = t

theorem Reaches.refl (s : UVCPreview) : Reaches s s := ⟨[], by simp, rfl⟩

theorem Reaches.trans {s t u : UVCPreview} (hfirst : Reaches s t) (hsecond : Reaches t u) :
    Reaches s u := by
  obtain ⟨first, hnew, rfl⟩ := hfirst
  obtain ⟨second, hnew', rfl⟩ := hsecond
  exact ⟨first ++ second, List.forall_mem_append.mpr ⟨hnew, hnew'⟩, run_append _ _ _⟩

/-- What the steps that only clear a queue leave alone. -/
structure SameThreads (s t : UVCPreview) : Prop where
  reaches : Reaches s t
  running : t.isRunning = s.isRunning
  captures : t.captures = s.captures

theorem SameThreads.trans {s t u : UVCPreview} (hfirst : SameThreads s t)
    (hsecond : SameThreads t u) : SameThreads s u :=
  ⟨hfirst.reaches.trans hsecond.reaches, hsecond.running.trans hfirst.running,
    hsecond.captures.trans hfirst.captures⟩

/-- What holds after a stop that reads the flag in time, until the next start. -/
structure Stopped (s : UVCPreview) : Prop where
  tidy : s.Tidy
  running : s.isRunning = false
  caller : s.caller ≠ .starting
  known : s.caller = .stopping → s.FlagKnown

theorem Stopped.calls {s t : UVCPreview} (hs : s.Stopped) (htidy : t.Tidy)
    (h : CallerMove s t) (hfree : s.caller ≠ .free) : t.Stopped := by
  have hrunning := hs.running
  cases h with
  | same => exact hs
  | start hcaller | stop hcaller | clears _ hcaller => exact absurd hcaller hfree
  | started hcaller | unstarted hcaller => exact absurd hcaller hs.caller
  | cleared hcaller =>
    exact ⟨htidy, hrunning, by simp [recycle, hcaller], by simp [recycle, hcaller]⟩
  | clearedCapture | clearCapture =>
    refine ⟨htidy, hrunning, ?_, ?_⟩
    · simp only
      split_ifs <;> simp
    · simp only
      split_ifs <;> simp
  | _ => exact ⟨htidy, hrunning, by simp, by simp⟩

end UVCPreview

end UvcRtmpStream.Camera
