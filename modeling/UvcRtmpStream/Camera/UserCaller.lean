import UvcRtmpStream.Camera.Reassembly
import UvcRtmpStream.Foundations.Runs

/-!
# The thread that calls the user back

`_uvc_user_caller` waits under `cb_mutex` until the sequence number of the held frame is not the
last one it saw, copies the frame, and leaves the lock. Only then does it look at `hold_bfh_err`
once more, to decide whether the callback is called. The transfers publish further frames at any
time, so that the flag it looks at may be that of a later frame.

The machine takes the steps of the two threads in any order. `calls_faithful` is what holds in
every order: the callback sees frames of the stream, whole and undamaged, and never an older one
after a newer one; but as long as the thread has copied no frame, it may be called with the frame
that was never filled, when a damaged frame it skipped was followed by an undamaged one before the
second look. Where no frame is damaged, it sees each of them at most once. The first frame of the
stream has the number the thread starts from, and is never seen.
-/

set_option autoImplicit false
set_option relaxedAutoImplicit false

namespace UvcRtmpStream.Camera

open UvcRtmpStream.Foundations

/-- Where the thread is: in front of the lock, between the lock and the callback, or at its end. -/
inductive CallerPhase
  | atLock
  | atCall
  | ended
  deriving DecidableEq

/-- `strmh->frame`: the bytes copied into it, and the number of the frame they are from. No code
reads the number; it is 0 as long as nothing was copied. -/
structure UserFrame where
  number : ℕ
  data : List UInt8
  deriving DecidableEq

/-- The stream as the two threads share it. -/
structure UserCaller where
  running : Bool
  hold : HeldFrame
  lastSeq : UInt32
  phase : CallerPhase
  frame : UserFrame
  calls : List UserFrame
  published : List HeldFrame

/-- A fresh handle, whose thread has just been created. -/
def UserCaller.start : UserCaller where
  running := true
  hold := ⟨[], false, 0, 0, 0⟩
  lastSeq := 0
  phase := .atLock
  frame := ⟨0, []⟩
  calls := []
  published := []

/-- `publish` is `_uvc_swap_buffers` for a frame of any content. `lock` is one turn of the thread
under the lock, a wait without result included, and `call` the test behind it. -/
inductive CallerEvent
  | publish (record : Gathered UInt8 (UInt32 × UInt32))
  | lock
  | call
  | stop

/-- `_uvc_populate_frame`, as `_uvc_user_caller` calls it. -/
def uvcPopulateFrame (s : UserCaller) : UserCaller :=
  { s with frame := ⟨s.published.length - 1, s.hold.data⟩ }

/-- One step of one of the threads. -/
def callerStep (s : UserCaller) : CallerEvent → UserCaller
  | .publish record =>
    let frame := heldFrame s.published.length record
    { s with hold := frame, published := s.published ++ [frame] }
  | .lock =>
    if s.phase ≠ .atLock then s
    else if !s.running then { s with phase := .ended }
    else if s.lastSeq = s.hold.seq then s
    else
      let s := { s with lastSeq := s.hold.seq, phase := .atCall }
      if s.hold.bfhErr then s else uvcPopulateFrame s
  | .call =>
    if s.phase ≠ .atCall then s
    else if s.hold.bfhErr then { s with phase := .atLock }
    else { s with phase := .atLock, calls := s.calls ++ [s.frame] }
  | .stop => { s with running := false }

/-! ### Any order of steps -/

/-- `strmh->frame` before anything was copied into it. -/
def UserFrame.unfilled : UserFrame := ⟨0, []⟩

/-- The frame is one of the stream, undamaged. -/
def UserFrame.Genuine (published : List HeldFrame) (frame : UserFrame) : Prop :=
  0 < frame.number ∧ ∃ held ∈ published[frame.number]?, held.bfhErr = false ∧ frame.data = held.data

/-- The frame is genuine, or nothing was copied into it yet. -/
def UserFrame.Possible (published : List HeldFrame) (frame : UserFrame) : Prop :=
  frame = .unfilled ∨ frame.Genuine published

theorem UserFrame.Possible.append {published : List HeldFrame} {frame : UserFrame}
    (h : frame.Possible published) (later : HeldFrame) : frame.Possible (published ++ [later]) := by
  rcases h with hempty | ⟨hpos, held, hheld, hsame⟩
  · exact Or.inl hempty
  · refine Or.inr ⟨hpos, held, ?_, hsame⟩
    have hlt := (List.getElem?_eq_some_iff.mp hheld).1
    rwa [List.getElem?_append_left hlt]

theorem UserFrame.Possible.genuine_iff {published : List HeldFrame} {frame : UserFrame}
    (h : frame.Possible published) : frame.Genuine published ↔ 0 < frame.number := by
  refine ⟨And.left, fun hpos ↦ ?_⟩
  rcases h with rfl | hgenuine
  · exact absurd hpos (Nat.lt_irrefl 0)
  · exact hgenuine

/-- `number` is that of the frame the thread saw last. -/
structure CallerInv (number : ℕ) (s : UserCaller) : Prop where
  hold : if s.published = [] then s.hold = UserCaller.start.hold
    else s.published[s.published.length - 1]? = some s.hold
  numbered : ∀ place held, s.published[place]? = some held → held.seq = UInt32.ofNat place
  lastSeq : s.lastSeq = UInt32.ofNat number
  seen : number ≤ s.published.length - 1
  possible : ∀ frame ∈ s.frame :: s.calls, frame.Possible s.published
  recent : s.frame.number ≤ number
  ordered : (s.calls ++ [s.frame]).Pairwise (·.number ≤ ·.number)

theorem callerInv_start : CallerInv 0 .start where
  hold := rfl
  numbered := by simp [UserCaller.start]
  lastSeq := rfl
  seen := Nat.zero_le _
  possible := by simp [UserCaller.start, UserFrame.Possible, UserFrame.unfilled]
  recent := Nat.le_refl 0
  ordered := by simp [UserCaller.start]

/-- The held frame has the number of the last frame published. -/
theorem CallerInv.hold_seq {number : ℕ} {s : UserCaller} (h : CallerInv number s) :
    s.hold.seq = UInt32.ofNat (s.published.length - 1) := by
  have hhold := h.hold
  split at hhold
  case isTrue hnil =>
    rw [hhold, hnil]
    rfl
  case isFalse => exact h.numbered _ _ hhold

/-- A held frame the thread has not seen was published, and later than the one it saw. -/
theorem CallerInv.unseen {number : ℕ} {s : UserCaller} (h : CallerInv number s)
    (hnew : s.lastSeq ≠ s.hold.seq) :
    number < s.published.length - 1 ∧ s.published[s.published.length - 1]? = some s.hold := by
  have hne : number ≠ s.published.length - 1 := by
    rintro rfl
    exact hnew (h.lastSeq.trans h.hold_seq.symm)
  have hlt : number < s.published.length - 1 := by
    have hseen := h.seen
    omega
  refine ⟨hlt, ?_⟩
  have hhold := h.hold
  rwa [if_neg] at hhold
  rintro hnil
  simp [hnil] at hlt

/-- A frame is published. -/
theorem CallerInv.publish {number : ℕ} {s : UserCaller} (h : CallerInv number s)
    (record : Gathered UInt8 (UInt32 × UInt32)) :
    CallerInv number (callerStep s (.publish record)) where
  hold := by
    rw [if_neg (by simp [callerStep])]
    simp [callerStep]
  numbered := by
    intro place held hheld
    change (s.published ++ [_])[place]? = some held at hheld
    rcases Nat.lt_trichotomy place s.published.length with hlt | rfl | hgt
    · exact h.numbered place held (by rwa [List.getElem?_append_left hlt] at hheld)
    · rw [List.getElem?_concat_length] at hheld
      rw [← Option.some.inj hheld]
      rfl
    · rw [List.getElem?_eq_none (by simp; omega)] at hheld
      exact absurd hheld (by simp)
  lastSeq := h.lastSeq
  seen := by
    have hseen := h.seen
    simp only [callerStep, List.length_append, List.length_singleton]
    omega
  possible := fun frame hframe ↦ (h.possible frame hframe).append _
  recent := h.recent
  ordered := h.ordered

/-- The thread sees a new frame. -/
theorem CallerInv.see {number : ℕ} {s : UserCaller} (h : CallerInv number s)
    (hphase : s.phase = .atLock) (hrunning : s.running = true) (hnew : s.lastSeq ≠ s.hold.seq) :
    CallerInv (s.published.length - 1) (callerStep s .lock) := by
  obtain ⟨hlt, hheld⟩ := h.unseen hnew
  have hne : s.published.length - 1 ≠ 0 := by omega
  have hrecent := h.recent
  simp only [callerStep, hphase, hrunning, hnew, ne_eq, not_true_eq_false, if_false, Bool.not_true,
    Bool.false_eq_true]
  split_ifs with herr
  · -- a damaged frame is seen, and not copied
    refine ⟨h.hold, h.numbered, h.hold_seq, Nat.le_refl _, h.possible, ?_, h.ordered⟩
    exact Nat.le_of_lt (Nat.lt_of_le_of_lt hrecent hlt)
  · refine ⟨h.hold, h.numbered, h.hold_seq, Nat.le_refl _, ?_, Nat.le_refl _, ?_⟩
    · intro frame hframe
      rcases List.mem_cons.mp hframe with rfl | hcall
      · exact Or.inr ⟨Nat.pos_of_ne_zero hne, s.hold, hheld, Bool.eq_false_iff.mpr herr, rfl⟩
      · exact h.possible frame (List.mem_cons_of_mem _ hcall)
    · have hordered := List.pairwise_append.mp h.ordered
      refine List.pairwise_append.mpr ⟨hordered.1, List.pairwise_singleton _ _, ?_⟩
      intro earlier hearlier frame hframe
      rw [List.mem_singleton.mp hframe]
      have hle := hordered.2.2 earlier hearlier s.frame (List.mem_singleton.mpr rfl)
      simp only [uvcPopulateFrame]
      omega

/-- Where the thread is not in front of the lock, or sees no new frame, the lock changes nothing
but the phase. -/
theorem callerStep_lock_idle {s : UserCaller}
    (h : s.phase ≠ .atLock ∨ s.running = false ∨ s.lastSeq = s.hold.seq) :
    callerStep s .lock = s ∨
      s.phase = .atLock ∧ callerStep s .lock = { s with phase := .ended } := by
  by_cases hphase : s.phase = .atLock
  · cases hrunning : s.running with
    | false => exact Or.inr ⟨hphase, by simp [callerStep, hphase, hrunning]⟩
    | true =>
      have hold : s.lastSeq = s.hold.seq := by simpa [hphase, hrunning] using h
      exact Or.inl (by simp [callerStep, hphase, hrunning, hold])
  · exact Or.inl (by simp [callerStep, hphase])

theorem lock_cases (s : UserCaller) :
    (s.phase = .atLock ∧ s.running = true ∧ s.lastSeq ≠ s.hold.seq) ∨
      (s.phase ≠ .atLock ∨ s.running = false ∨ s.lastSeq = s.hold.seq) := by
  by_cases hphase : s.phase = .atLock
  · by_cases hold : s.lastSeq = s.hold.seq
    · exact Or.inr (Or.inr (Or.inr hold))
    · cases hrunning : s.running with
      | false => exact Or.inr (Or.inr (Or.inl rfl))
      | true => exact Or.inl ⟨hphase, rfl, hold⟩
  · exact Or.inr (Or.inl hphase)

/-- The phase of the thread does not matter. -/
theorem CallerInv.phase {number : ℕ} {s : UserCaller} (h : CallerInv number s)
    (phase : CallerPhase) : CallerInv number { s with phase := phase } :=
  ⟨h.hold, h.numbered, h.lastSeq, h.seen, h.possible, h.recent, h.ordered⟩

theorem CallerInv.stop {number : ℕ} {s : UserCaller} (h : CallerInv number s) :
    CallerInv number (callerStep s .stop) :=
  ⟨h.hold, h.numbered, h.lastSeq, h.seen, h.possible, h.recent, h.ordered⟩

/-- The test behind the lock, and the callback. -/
theorem CallerInv.call {number : ℕ} {s : UserCaller} (h : CallerInv number s) :
    CallerInv number (callerStep s .call) := by
  simp only [callerStep]
  split_ifs with hphase herr
  · exact h
  · exact h.phase .atLock
  · refine ⟨h.hold, h.numbered, h.lastSeq, h.seen, ?_, h.recent, ?_⟩
    · intro frame hframe
      simp only [List.mem_cons, List.mem_append, List.not_mem_nil, or_false] at hframe
      rcases hframe with rfl | hcall | rfl
      · exact h.possible _ List.mem_cons_self
      · exact h.possible _ (List.mem_cons_of_mem _ hcall)
      · exact h.possible _ List.mem_cons_self
    · refine List.pairwise_append.mpr ⟨h.ordered, List.pairwise_singleton _ _, ?_⟩
      intro earlier hearlier frame hframe
      rw [List.mem_singleton.mp hframe]
      rcases List.mem_append.mp hearlier with hcall | hlast
      · exact (List.pairwise_append.mp h.ordered).2.2 earlier hcall s.frame
          (List.mem_singleton.mpr rfl)
      · rw [List.mem_singleton.mp hlast]

/-- The thread saw some frame last. -/
def FaithfulCalls (s : UserCaller) : Prop := ∃ number, CallerInv number s

theorem faithfulCalls_step {s : UserCaller} (h : FaithfulCalls s) (event : CallerEvent) :
    FaithfulCalls (callerStep s event) := by
  obtain ⟨number, h⟩ := h
  cases event with
  | publish record => exact ⟨number, h.publish record⟩
  | lock =>
    rcases lock_cases s with ⟨hphase, hrunning, hnew⟩ | hidle
    · exact ⟨_, h.see hphase hrunning hnew⟩
    · refine ⟨number, ?_⟩
      rcases callerStep_lock_idle hidle with hsame | ⟨-, hended⟩
      · rwa [hsame]
      · rw [hended]
        exact h.phase .ended
  | call => exact ⟨number, h.call⟩
  | stop => exact ⟨number, h.stop⟩

/-! ### Streams without a damaged frame -/

/-- Nothing damaged is published. -/
def CallerEvent.Sound : CallerEvent → Prop
  | .publish record => record.damaged = false
  | _ => True

/-- `number` is that of the frame the thread saw last, and the callback has not seen it yet while
the thread is in front of the callback. -/
structure FreshInv (number : ℕ) (s : UserCaller) : Prop where
  base : CallerInv number s
  sound : s.hold.bfhErr = false
  copied : s.phase = .atCall → s.frame.number = number ∧ 0 < number
  called : ∀ frame ∈ s.calls,
    0 < frame.number ∧ frame.number ≤ number ∧ (s.phase = .atCall → frame.number < number)
  fresh : s.calls.Pairwise (·.number < ·.number)
  delivered : s.phase = .atLock → 0 < number → ∃ frame ∈ s.calls.getLast?, frame.number = number

theorem freshInv_start : FreshInv 0 .start where
  base := callerInv_start
  sound := rfl
  copied := by simp [UserCaller.start]
  called := by simp [UserCaller.start]
  fresh := List.Pairwise.nil
  delivered := fun _ hpos ↦ absurd hpos (Nat.lt_irrefl 0)

/-- The thread sees a new frame of a stream without damage, and copies it. -/
theorem FreshInv.see {number : ℕ} {s : UserCaller} (h : FreshInv number s)
    (hphase : s.phase = .atLock) (hrunning : s.running = true) (hnew : s.lastSeq ≠ s.hold.seq) :
    FreshInv (s.published.length - 1) (callerStep s .lock) := by
  obtain ⟨hlt, -⟩ := h.base.unseen hnew
  have hstep : callerStep s .lock =
      uvcPopulateFrame { s with lastSeq := s.hold.seq, phase := .atCall } := by
    simp [callerStep, hphase, hrunning, hnew, h.sound]
  refine ⟨h.base.see hphase hrunning hnew, ?_, ?_, ?_, ?_, ?_⟩
  · rw [hstep]
    exact h.sound
  · rw [hstep]
    exact fun _ ↦ ⟨rfl, by omega⟩
  · intro frame hframe
    rw [hstep] at hframe
    obtain ⟨hpos, hle, -⟩ := h.called frame hframe
    exact ⟨hpos, by omega, fun _ ↦ by omega⟩
  · rw [hstep]
    exact h.fresh
  · rw [hstep]
    exact fun hcontra ↦ CallerPhase.noConfusion hcontra

/-- The callback is called with the frame the thread has just copied. -/
theorem FreshInv.call {number : ℕ} {s : UserCaller} (h : FreshInv number s) :
    FreshInv number (callerStep s .call) := by
  have hbase := h.base.call
  by_cases hphase : s.phase = .atCall
  · obtain ⟨hnumber, hpos⟩ := h.copied hphase
    have hstep : callerStep s .call =
        { s with phase := .atLock, calls := s.calls ++ [s.frame] } := by
      simp [callerStep, hphase, h.sound]
    rw [hstep] at hbase ⊢
    refine ⟨hbase, h.sound, fun hcontra ↦ CallerPhase.noConfusion hcontra, ?_, ?_, ?_⟩
    · intro frame hframe
      rcases List.mem_append.mp hframe with hold | hnew
      · obtain ⟨hreal, hle, -⟩ := h.called frame hold
        exact ⟨hreal, hle, fun hcontra ↦ CallerPhase.noConfusion hcontra⟩
      · rw [List.mem_singleton.mp hnew, hnumber]
        exact ⟨hpos, Nat.le_refl _, fun hcontra ↦ CallerPhase.noConfusion hcontra⟩
    · refine List.pairwise_append.mpr ⟨h.fresh, List.pairwise_singleton _ _, ?_⟩
      intro earlier hearlier frame hframe
      rw [List.mem_singleton.mp hframe, hnumber]
      exact (h.called earlier hearlier).2.2 hphase
    · exact fun _ _ ↦ ⟨s.frame, by simp, hnumber⟩
  · have hstep : callerStep s .call = s := by simp [callerStep, hphase]
    rwa [hstep]

def FreshCalls (s : UserCaller) : Prop := ∃ number, FreshInv number s

theorem freshCalls_step {s : UserCaller} {event : CallerEvent} (h : FreshCalls s)
    (hsound : event.Sound) : FreshCalls (callerStep s event) := by
  obtain ⟨number, h⟩ := h
  cases event with
  | publish record =>
    exact ⟨number, h.base.publish record, hsound, h.copied, h.called, h.fresh, h.delivered⟩
  | lock =>
    rcases lock_cases s with ⟨hphase, hrunning, hnew⟩ | hidle
    · exact ⟨_, h.see hphase hrunning hnew⟩
    · refine ⟨number, ?_⟩
      rcases callerStep_lock_idle hidle with hsame | ⟨-, hended⟩
      · rwa [hsame]
      · rw [hended]
        refine ⟨h.base.phase .ended, h.sound, fun hcontra ↦ CallerPhase.noConfusion hcontra, ?_,
          h.fresh, fun hcontra ↦ CallerPhase.noConfusion hcontra⟩
        intro frame hframe
        obtain ⟨hpos, hle, -⟩ := h.called frame hframe
        exact ⟨hpos, hle, fun hcontra ↦ CallerPhase.noConfusion hcontra⟩
  | call => exact ⟨number, h.call⟩
  | stop =>
    exact ⟨number, h.base.stop, h.sound, h.copied, h.called, h.fresh, h.delivered⟩

/-! ### The stream and the thread together -/

/-- The frames that the events publish. -/
def CallerEvent.record? : CallerEvent → Option (Gathered UInt8 (UInt32 × UInt32))
  | .publish record => some record
  | _ => none

/-- The events publish the frames of a stream of payloads, in order. -/
def Publishes (strmh : StreamHandle) (events : List CallerEvent) : Prop :=
  events.filterMap CallerEvent.record? = strmh.published.map HeldFrame.gathered

instance (strmh : StreamHandle) (events : List CallerEvent) : Decidable (Publishes strmh events) :=
  inferInstanceAs (Decidable (_ = _))

theorem published_run (s : UserCaller) (events : List CallerEvent) :
    (run callerStep s events).published =
      s.published ++ (events.filterMap CallerEvent.record?).mapIdx
        (fun place record ↦ heldFrame (s.published.length + place) record) := by
  induction events generalizing s with
  | nil => simp
  | cons event events ih =>
    rw [run_cons, ih]
    cases event with
    | publish record =>
      have hstep : (callerStep s (.publish record)).published =
          s.published ++ [heldFrame s.published.length record] := rfl
      have hrecords : (CallerEvent.publish record :: events).filterMap CallerEvent.record? =
          record :: events.filterMap CallerEvent.record? := rfl
      rw [hstep, hrecords, List.mapIdx_cons, List.append_assoc]
      simp [Nat.add_assoc, Nat.add_comm 1]
    | lock =>
      have hstep : (callerStep s .lock).published = s.published := by
        simp only [callerStep, uvcPopulateFrame]
        split_ifs <;> rfl
      rw [hstep]
      rfl
    | call =>
      have hstep : (callerStep s .call).published = s.published := by
        simp only [callerStep]
        split_ifs <;> rfl
      rw [hstep]
      rfl
    | stop => rfl

theorem Publishes.published_eq {strmh : StreamHandle} {events : List CallerEvent}
    (hnumbered : Numbered strmh) (h : Publishes strmh events) :
    (run callerStep .start events).published = strmh.published := by
  rw [published_run, h]
  simp only [UserCaller.start, List.nil_append, List.length_nil, Nat.zero_add]
  exact hnumbered.published_eq.symm

/-- Damage is published exactly where the stream has a damaged frame. -/
theorem Publishes.sound {strmh : StreamHandle} {events : List CallerEvent}
    (h : Publishes strmh events) (hsound : ∀ frame ∈ strmh.published, frame.bfhErr = false) :
    ∀ event ∈ events, event.Sound := by
  intro event hevent
  cases event with
  | publish record =>
    have hrecord : record ∈ events.filterMap CallerEvent.record? :=
      List.mem_filterMap.mpr ⟨_, hevent, rfl⟩
    rw [h] at hrecord
    obtain ⟨frame, hframe, rfl⟩ := List.mem_map.mp hrecord
    exact hsound frame hframe
  | lock => trivial
  | call => trivial
  | stop => trivial

/-- A callback is called only after a frame was copied. -/
def CopiedBefore (s : UserCaller) : CallerEvent → Prop
  | .call => s.phase = .atCall → s.hold.bfhErr = false → 0 < s.frame.number
  | _ => True

/-- The frames of all calls were filled where every call comes after a copy. -/
theorem filled_run_iff (events : List CallerEvent) :
    (∀ call ∈ (run callerStep .start events).calls, 0 < call.number) ↔
      Meets callerStep CopiedBefore .start events := by
  refine (@property_run_iff _ _ callerStep CopiedBefore (fun s ↦ ∀ call ∈ s.calls, 0 < call.number)
    (fun _ ↦ True) .start events (fun _ _ _ ↦ trivial) (fun s event _ ↦ ?_) trivial).trans
      (and_iff_right (by simp [UserCaller.start]))
  cases event with
  | publish record => exact (and_iff_left trivial).symm
  | stop => exact (and_iff_left trivial).symm
  | lock =>
    have hcalls : (callerStep s .lock).calls = s.calls := by
      simp only [callerStep, uvcPopulateFrame]
      split_ifs <;> rfl
    rw [hcalls]
    exact (and_iff_left trivial).symm
  | call =>
    by_cases hphase : s.phase = .atCall
    · cases herr : s.hold.bfhErr with
      | true => simp [callerStep, CopiedBefore, hphase, herr]
      | false => simp [callerStep, CopiedBefore, hphase, herr, or_imp, forall_and]
    · simp [callerStep, CopiedBefore, hphase]

/-- A stream of any payloads, and the thread taking its steps in any order between the frames that
the payloads publish. Each call has an undamaged frame of the stream or the one that was never
filled, and none is older than the one before. All calls have frames of the stream if and only if no
call comes before the first copy. If no frame is damaged, they do, and none is called twice; and
where the thread waits for more, within the first `2 ^ 32` frames, the last call had the last
frame. -/
theorem calls_faithful (isIsight : Bool) (outbuf holdbuf : Buffer) (payloads : List Payload)
    (events : List CallerEvent)
    (hevents : Publishes (uvcProcessPayloads (.started isIsight outbuf holdbuf) payloads) events) :
    let published := (uvcProcessPayloads (.started isIsight outbuf holdbuf) payloads).published
    let s := run callerStep .start events
    (∀ call ∈ s.calls, call.Possible published) ∧ s.calls.Pairwise (·.number ≤ ·.number) ∧
      ((∀ call ∈ s.calls, call.Genuine published) ↔ Meets callerStep CopiedBefore .start events) ∧
      ((∀ frame ∈ published, frame.bfhErr = false) →
        s.calls.Pairwise (·.number < ·.number) ∧ (∀ call ∈ s.calls, call.Genuine published) ∧
          (s.phase = .atLock → s.lastSeq = s.hold.seq → 1 < published.length →
            published.length ≤ 2 ^ 32 →
              ∃ call ∈ s.calls.getLast?, call.number = published.length - 1)) := by
  intro published s
  have hpublished : s.published = published :=
    hevents.published_eq (settled_numbered.uvcProcessPayloads
      (numbered_started isIsight outbuf holdbuf) payloads)
  have hany : Meets callerStep (fun _ _ ↦ True) .start events := meets_of_forall fun _ _ ↦ trivial
  have hbase : FaithfulCalls s :=
    inv_run (fun _ event hinv _ ↦ faithfulCalls_step hinv event) ⟨0, callerInv_start⟩ hany
  obtain ⟨number, hinv⟩ := hbase
  have hpossible : ∀ call ∈ s.calls, call.Possible published :=
    fun call hcall ↦ hpublished ▸ hinv.possible call (List.mem_cons_of_mem _ hcall)
  refine ⟨hpossible, (List.pairwise_append.mp hinv.ordered).1, ?_, fun hsound ↦ ?_⟩
  · rw [← filled_run_iff]
    exact forall₂_congr fun call hcall ↦ (hpossible call hcall).genuine_iff
  have hfresh : FreshCalls s :=
    inv_run (fun _ event hinv ↦ freshCalls_step hinv) ⟨0, freshInv_start⟩
      (meets_of_mem (hevents.sound hsound))
  obtain ⟨last, hfresh⟩ := hfresh
  refine ⟨hfresh.fresh, fun call hcall ↦ ?_, ?_⟩
  · exact (hpossible call hcall).genuine_iff.mpr (hfresh.called call hcall).1
  intro hphase hwaits hmany hfew
  have hlast : last = published.length - 1 := by
    have hseq := hfresh.base.lastSeq.symm.trans (hwaits.trans hfresh.base.hold_seq)
    have hseen := hfresh.base.seen
    rw [hpublished] at hseq hseen
    have hnat := congrArg UInt32.toNat hseq
    simp only [UInt32.toNat_ofNat'] at hnat
    omega
  rw [← hlast]
  exact hfresh.delivered hphase (by omega)

/-- A damaged frame is skipped under the lock, and an undamaged one comes before the second look:
the callback gets a frame that was never filled. -/
example :
    (run callerStep .start [.publish ⟨[7], (0, 0), false⟩, .publish ⟨[8], (0, 0), true⟩, .lock,
      .publish ⟨[9], (0, 0), false⟩, .call]).calls = [.unfilled] := by
  decide

/-- Three frames, of which the thread misses the second. -/
theorem calls_faithful_three :
    (run callerStep .start [.publish ⟨[7], (0, 0), false⟩, .publish ⟨[8], (0, 0), false⟩,
      .publish ⟨[9], (0, 0), false⟩, .lock, .call]).calls.Pairwise (·.number ≤ ·.number) := by
  let payloads : List Payload := [⟨fun place ↦ ([2, 0x83, 7][place]?).getD 0, 3⟩,
    ⟨fun place ↦ ([2, 0x82, 8][place]?).getD 0, 3⟩, ⟨fun place ↦ ([2, 0x83, 9][place]?).getD 0, 3⟩]
  refine (calls_faithful false (fun _ ↦ 0) (fun _ ↦ 0) payloads _ ?_).2.1
  decide

end UvcRtmpStream.Camera
