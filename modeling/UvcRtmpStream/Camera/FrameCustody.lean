import Mathlib.Data.List.Nodup
import Mathlib.Data.List.Range
import UvcRtmpStream.Camera.PreviewThreads

/-!
# Every frame in one place

A frame that has been allocated is in the pool, in `previewFrames`, in `captureQueu`, in the hands
of one thread, or freed, and in only one of these: no frame is freed twice, none is used after it
was freed, and no two threads write into the same frame. The invariant counts each frame over all
places (`Custody`); a step moves frames between places, and `getFrame` and `recycleFrame` are the
only ways into and out of the pool. `frames_in_one_place` states it for every order of the steps,
with the bounds that follow on the memory a preview holds.
-/

set_option autoImplicit false
set_option relaxedAutoImplicit false

namespace UvcRtmpStream.Camera

open UvcRtmpStream.Foundations

namespace FramePool

def stored (p : FramePool) : List ℕ := p.pool ++ p.freed

/-- How often a frame should be found: once if it has been allocated. -/
def born (p : FramePool) (id : ℕ) : ℕ := if id < p.allocated then 1 else 0

@[simp] theorem count_stored_recycleFrame (p : FramePool) (frame id : ℕ) :
    (p.recycleFrame frame).stored.count id = p.stored.count id + [frame].count id := by
  unfold recycleFrame stored
  split_ifs <;> simp only [List.count_append] <;> omega

@[simp] theorem allocated_recycleFrame (p : FramePool) (frame : ℕ) :
    (p.recycleFrame frame).allocated = p.allocated := by
  unfold recycleFrame
  split_ifs <;> rfl

@[simp] theorem born_recycleFrame (p : FramePool) (frame id : ℕ) :
    (p.recycleFrame frame).born id = p.born id := by
  simp [born]

/-- A frame that is taken comes from the pool, or is new. -/
theorem count_stored_getFrame {p frames : FramePool} {memory : Bool} {frame : ℕ}
    (h : p.getFrame memory = (some frame, frames)) (id : ℕ) :
    frames.stored.count id + [frame].count id + p.born id = p.stored.count id + frames.born id := by
  unfold getFrame at h
  cases hlast : p.pool.getLast? with
  | some last =>
    simp only [hlast, Prod.mk.injEq, Option.some.injEq] at h
    obtain ⟨rfl, rfl⟩ := h
    obtain ⟨rest, hpool⟩ := List.getLast?_eq_some_iff.mp hlast
    simp only [stored, born, hpool, List.dropLast_concat, List.count_append]
    omega
  | none =>
    cases memory with
    | false => simp [hlast] at h
    | true =>
      simp only [hlast, if_true, Prod.mk.injEq, Option.some.injEq] at h
      obtain ⟨rfl, rfl⟩ := h
      simp only [stored, born, List.count_append, List.count_singleton, beq_iff_eq]
      split_ifs <;> omega

@[simp] theorem count_stored_clearPool (p : FramePool) (id : ℕ) :
    p.clearPool.stored.count id = p.stored.count id := by
  simp [clearPool, stored, Nat.add_comm]

@[simp] theorem born_clearPool (p : FramePool) (id : ℕ) : p.clearPool.born id = p.born id := rfl

theorem length_pool_recycleFrame {p : FramePool} (h : p.pool.length ≤ framePoolSz) (frame : ℕ) :
    (p.recycleFrame frame).pool.length ≤ framePoolSz := by
  unfold recycleFrame
  split_ifs with hroom
  · simpa using Nat.succ_le_of_lt hroom
  · exact h

theorem length_pool_getFrame {p frames : FramePool} {memory : Bool} {taken : Option ℕ}
    (h : p.pool.length ≤ framePoolSz) (hget : p.getFrame memory = (taken, frames)) :
    frames.pool.length ≤ framePoolSz := by
  unfold getFrame at hget
  cases hlast : p.pool.getLast? with
  | some last =>
    simp only [hlast, Prod.mk.injEq] at hget
    rw [← hget.2, List.length_dropLast]
    omega
  | none =>
    cases memory with
    | true =>
      simp only [hlast, if_true, Prod.mk.injEq] at hget
      rw [← hget.2]
      exact h
    | false =>
      simp only [hlast, Bool.false_eq_true, if_false, Prod.mk.injEq] at hget
      rw [← hget.2]
      exact h

end FramePool

def StreamPhase.held : StreamPhase → List ℕ
  | .idle => []
  | .copying frame _ | .adding frame | .dropping frame => [frame]

def PreviewPhase.held : PreviewPhase → List ℕ
  | .taken frame | .discarding frame | .drawing frame | .adding frame => [frame]
  | .decoding mjpeg frame => [mjpeg, frame]
  | .converting frame converted | .showing frame converted => [frame, converted]
  | .none | .preparing | .connecting | .clearing | .creating | .flagging | .waiting | .leaving
  | .over => []

def CaptureLoop.held : CaptureLoop → List ℕ
  | .idle => []
  | .surface converted => converted.toList

def CapturePhase.held : CapturePhase → List ℕ
  | .clearing | .choosing | .over => []
  | .waiting loop => loop.held
  | .copying converted frame => frame :: converted.toList
  | .filling converted frame | .pasting converted frame => [frame, converted]
  | .calling loop frame | .skipping loop frame | .delivering loop frame => frame :: loop.held
  | .converting loop frame callback => frame :: callback :: loop.held

/-- What all capture threads hold. -/
def heldByCaptures (captures : List CapturePhase) : List ℕ := captures.flatMap CapturePhase.held

theorem count_heldByCaptures_set {captures : List CapturePhase} {place : ℕ} {old : CapturePhase}
    (h : captures[place]? = some old) (phase : CapturePhase) (id : ℕ) :
    (heldByCaptures (captures.set place phase)).count id + old.held.count id =
      (heldByCaptures captures).count id + phase.held.count id := by
  induction captures generalizing place with
  | nil => simp at h
  | cons first rest ih =>
    cases place with
    | zero =>
      obtain rfl : first = old := by simpa using h
      simp only [heldByCaptures, List.set_cons_zero, List.flatMap_cons, List.count_append]
      omega
    | succ place =>
      have hrest := ih (show rest[place]? = some old by simpa using h)
      simp only [heldByCaptures, List.set_cons_succ, List.flatMap_cons, List.count_append]
        at hrest ⊢
      omega

namespace UVCPreview

/-- Every place a frame may be in, the frames in it listed. -/
def places (s : UVCPreview) : List ℕ :=
  s.frames.stored ++ s.previewFrames ++ s.captureQueu.toList ++ s.stream.held ++ s.preview.held ++
    heldByCaptures s.captures

/-- Every frame allocated so far is in one place. -/
def Custody (s : UVCPreview) : Prop := ∀ id, s.places.count id = s.frames.born id

theorem count_places (s : UVCPreview) (id : ℕ) :
    s.places.count id = s.frames.stored.count id + s.previewFrames.count id +
      s.captureQueu.toList.count id + s.stream.held.count id + s.preview.held.count id +
        (heldByCaptures s.captures).count id := by
  simp only [places, List.count_append]

/-- A step moves frames between the places, and adds those that are new. -/
def Keeps (s t : UVCPreview) : Prop :=
  ∀ id, t.places.count id + s.frames.born id = s.places.count id + t.frames.born id

theorem Keeps.refl (s : UVCPreview) : Keeps s s := fun _ ↦ rfl

theorem Keeps.custody {s t : UVCPreview} (h : Keeps s t) (hs : s.Custody) : t.Custody := by
  intro id
  have hkept := h id
  rw [hs id] at hkept
  omega

/-- A frame that goes back to the pool, or is freed. -/
@[simp] theorem count_stored_recycle (s : UVCPreview) (frame id : ℕ) :
    (s.recycle frame).frames.stored.count id = s.frames.stored.count id + [frame].count id :=
  FramePool.count_stored_recycleFrame _ _ _

@[simp] theorem born_recycle (s : UVCPreview) (frame id : ℕ) :
    (s.recycle frame).frames.born id = s.frames.born id :=
  FramePool.born_recycleFrame _ _ _

theorem StreamMove.keeps {s t : UVCPreview} (h : StreamMove s t) : Keeps s t := by
  intro id
  simp only [count_places]
  cases h with
  | same => rfl
  | arrived hidle hstreams hget =>
    have hcount := FramePool.count_stored_getFrame hget id
    simp only [hidle, StreamPhase.held, List.count_nil]
    omega
  | lost => rfl
  | copied hstream =>
    simp only [hstream, StreamPhase.held]
    rfl
  | failed hstream | dropped hstream =>
    simp only [hstream, count_stored_recycle, born_recycle, StreamPhase.held, List.count_nil]
    simp only [recycle]
    omega
  | added hstream hroom =>
    simp only [hstream, List.count_append, StreamPhase.held, List.count_nil]
    omega
  | refused hstream => simp only [hstream, StreamPhase.held]

theorem PreviewMove.keeps {s t : UVCPreview} (h : PreviewMove s t) : Keeps s t := by
  intro id
  simp only [count_places]
  cases h with
  | same => rfl
  | prepared mjpeg hpreview | unprepared hpreview | connected hpreview | unconnected hpreview
  | uncreated hpreview | flagged hpreview | left hpreview | skipped hpreview | filled hpreview
  | clear hpreview | ended hpreview | abandoned hpreview =>
    simp only [hpreview, PreviewPhase.held, fill]
  | created hpreview =>
    simp [hpreview, PreviewPhase.held, heldByCaptures, CapturePhase.held]
  | cleared hpreview hqueue =>
    simp only [hpreview, hqueue, recycle, FramePool.count_stored_recycleFrame,
      FramePool.born_recycleFrame, List.count_cons, List.count_nil]
    omega
  | took hpreview hqueue =>
    simp only [hpreview, hqueue]
    split_ifs <;> simp only [PreviewPhase.held, List.count_cons, List.count_nil] <;> omega
  | got hpreview hget | drew hpreview hget =>
    have hcount := FramePool.count_stored_getFrame hget id
    simp only [hpreview, PreviewPhase.held, List.count_cons, List.count_nil] at hcount ⊢
    omega
  | decoded hpreview | undecoded hpreview | discarded hpreview | unfilled hpreview
  | shown window hpreview | refused hpreview =>
    simp only [hpreview, PreviewPhase.held, recycle, fill, FramePool.count_stored_recycleFrame,
      FramePool.born_recycleFrame, List.count_cons, List.count_nil]
    omega
  | added hpreview hqueue =>
    simp only [hpreview, hqueue, PreviewPhase.held, Option.toList, List.count_cons, List.count_nil]
    omega
  | replaced hpreview hqueue =>
    simp only [hpreview, hqueue, PreviewPhase.held, Option.toList, recycle,
      FramePool.count_stored_recycleFrame, FramePool.born_recycleFrame, List.count_cons,
      List.count_nil]
    omega

/-- How often a frame is found, the hands of the capture threads apart. -/
def countElsewhere (s : UVCPreview) (id : ℕ) : ℕ :=
  s.frames.stored.count id + s.previewFrames.count id + s.captureQueu.toList.count id +
    s.stream.held.count id + s.preview.held.count id

theorem Keeps.become {s u : UVCPreview} {place : ℕ} {old phase : CapturePhase}
    (hcapture : s.captures[place]? = some old) (hcaptures : u.captures = s.captures)
    (h : ∀ id, u.countElsewhere id + phase.held.count id + s.frames.born id =
      s.countElsewhere id + old.held.count id + u.frames.born id) :
    Keeps s (u.become place phase) := by
  intro id
  have hset := count_heldByCaptures_set hcapture phase id
  have helse := h id
  simp only [count_places, UVCPreview.become, countElsewhere, hcaptures] at helse ⊢
  omega

theorem CaptureMove.keeps {s t : UVCPreview} {place : ℕ} (h : CaptureMove s place t) :
    Keeps s t := by
  cases h with
  | same => exact Keeps.refl s
  | clear hcapture hqueue | ended hcapture | skippedSurface hcapture | unfilled hcapture
  | passed hcapture | skipped hcapture | filled hcapture | pasted window hcapture
  | ready hcapture =>
    exact Keeps.become hcapture rfl fun id ↦ rfl
  | chose window hcapture =>
    refine Keeps.become hcapture rfl fun id ↦ ?_
    cases window <;> rfl
  | left hcapture hloop =>
    refine Keeps.become hcapture rfl fun id ↦ ?_
    rcases hloop with rfl | rfl <;> rfl
  | cleared hcapture hqueue | leftSurface hcapture | turned hcapture | unturned hcapture
  | dropped hcapture | delivered wanted hcapture =>
    refine Keeps.become hcapture rfl fun id ↦ ?_
    simp only [countElsewhere, recycle, fill, *, FramePool.count_stored_recycleFrame,
      FramePool.born_recycleFrame, CapturePhase.held, CaptureLoop.held, Option.toList,
      List.count_cons, List.count_nil]
    omega
  | took hcapture hqueue | tookForSurface hcapture hqueue =>
    refine Keeps.become hcapture rfl fun id ↦ ?_
    simp only [countElsewhere, hqueue, CapturePhase.held, CaptureLoop.held, Option.toList,
      List.count_cons, List.count_nil]
    omega
  | got hcapture hget | gotCallback hcapture hget =>
    refine Keeps.become hcapture rfl fun id ↦ ?_
    have hcount := FramePool.count_stored_getFrame hget id
    simp only [countElsewhere, CapturePhase.held, CaptureLoop.held, Option.toList, List.count_cons,
      List.count_nil] at hcount ⊢
    omega

/-! ### The caller -/

/-- Where the caller is, there is no preview thread. -/
def PreviewAbsent (s : UVCPreview) : Prop :=
  match s.caller with
  | .free => s.isRunning = false
  | .stopping | .joiningCapture | .joiningPreview => False
  | .starting | .clearing _ | .clearingCapture _ | .clearingPool | .deleted => True

/-- A preview thread is created only when the one before it has been joined. -/
structure Joined (s : UVCPreview) : Prop where
  runs : s.caller = .starting → s.isRunning = true
  absent : s.PreviewAbsent → s.preview = .none

theorem StreamMove.caller_eq {s t : UVCPreview} (h : StreamMove s t) :
    t.caller = s.caller ∧ t.isRunning = s.isRunning ∧ t.preview = s.preview := by
  cases h <;> exact ⟨rfl, rfl, rfl⟩

theorem CaptureMove.caller_eq {s t : UVCPreview} {place : ℕ} (h : CaptureMove s place t) :
    t.caller = s.caller ∧ t.isRunning = s.isRunning ∧ t.preview = s.preview := by
  cases h <;> exact ⟨rfl, rfl, rfl⟩

theorem PreviewMove.caller_eq {s t : UVCPreview} (h : PreviewMove s t) :
    t.caller = s.caller ∧ t.isRunning = s.isRunning := by
  cases h <;> exact ⟨rfl, rfl⟩

/-- A thread that has not been created does nothing. -/
theorem PreviewMove.eq_of_none {s t : UVCPreview} (h : PreviewMove s t)
    (hnone : s.preview = .none) : t = s := by
  cases h with
  | same => rfl
  | _ => simp_all

theorem Joined.of_eq {s t : UVCPreview} (hs : s.Joined) (hcaller : t.caller = s.caller)
    (hrunning : t.isRunning = s.isRunning) (hpreview : s.preview = .none → t.preview = .none) :
    t.Joined := by
  refine ⟨fun hstarting ↦ ?_, fun habsent ↦ hpreview (hs.absent ?_)⟩
  · rw [hrunning]
    exact hs.runs (hcaller ▸ hstarting)
  · unfold PreviewAbsent at habsent ⊢
    rwa [hcaller, hrunning] at habsent

theorem CallerMove.joined {s t : UVCPreview} (h : CallerMove s t) (hs : s.Joined) : t.Joined := by
  have habsent : s.PreviewAbsent → s.preview = .none := hs.absent
  cases h with
  | same => exact hs
  | start hcaller hrunning =>
    exact ⟨fun _ ↦ rfl, fun _ ↦ habsent (by simp [PreviewAbsent, hcaller, hrunning])⟩
  | started hcaller =>
    refine ⟨fun hstarting ↦ by simp at hstarting, fun hstopped ↦ ?_⟩
    have hrunning := hs.runs hcaller
    simp [PreviewAbsent, hrunning] at hstopped
  | unstarted hcaller =>
    exact ⟨fun hstarting ↦ by simp at hstarting, fun _ ↦ habsent (by simp [PreviewAbsent, hcaller])⟩
  | stop | joinsCapture | joinsPreview | joinedCapture =>
    exact ⟨fun hstarting ↦ by simp at hstarting, fun hstopped ↦ hstopped.elim⟩
  | clears deletes hcaller hrunning =>
    exact ⟨fun hstarting ↦ by simp at hstarting,
      fun _ ↦ habsent (by simp [PreviewAbsent, hcaller, hrunning])⟩
  | joinedPreview => exact ⟨fun hstarting ↦ by simp at hstarting, fun _ ↦ rfl⟩
  | cleared hcaller | clear hcaller | clearedPool hcaller =>
    exact ⟨fun hstarting ↦ by simp_all [recycle],
      fun _ ↦ habsent (by simp [PreviewAbsent, hcaller])⟩
  | clearedCapture hcaller | clearCapture hcaller =>
    refine ⟨fun hstarting ↦ ?_, fun _ ↦ habsent (by simp [PreviewAbsent, hcaller])⟩
    split_ifs at hstarting

theorem CallerMove.keeps {s t : UVCPreview} (h : CallerMove s t) (hs : s.Joined) : Keeps s t := by
  intro id
  simp only [count_places]
  cases h with
  | same | start | unstarted | stop | clears | joinsCapture | joinsPreview | joinedCapture
  | clear | clearCapture => rfl
  | started hcaller =>
    have hnone : s.preview = .none := hs.absent (by simp [PreviewAbsent, hcaller])
    rw [hnone]
    rfl
  | joinedPreview hcaller hover =>
    rcases hover with hover | hover
    · rw [hover]
    · rw [hover]
      rfl
  | cleared hcaller hqueue | clearedCapture hcaller hqueue =>
    simp only [hqueue, recycle, FramePool.count_stored_recycleFrame, FramePool.born_recycleFrame,
      Option.toList, List.count_cons, List.count_nil]
    omega
  | clearedPool hcaller =>
    simp only [FramePool.count_stored_clearPool, FramePool.born_clearPool]

/-! ### Every order of the steps -/

theorem Moves.joined {s t : UVCPreview} (h : Moves s t) (hs : s.Joined) : t.Joined := by
  rcases h with hmove | hmove | hmove | hmove
  · obtain ⟨hcaller, hrunning, hpreview⟩ := hmove.caller_eq
    exact hs.of_eq hcaller hrunning fun hnone ↦ hpreview.trans hnone
  · obtain ⟨hcaller, hrunning⟩ := hmove.caller_eq
    refine hs.of_eq hcaller hrunning fun hnone ↦ ?_
    rwa [hmove.eq_of_none hnone]
  · obtain ⟨hcaller, hrunning, hpreview⟩ := hmove.caller_eq
    exact hs.of_eq hcaller hrunning fun hnone ↦ hpreview.trans hnone
  · exact hmove.joined hs

theorem Moves.keeps {s t : UVCPreview} (h : Moves s t) (hs : s.Joined) : Keeps s t := by
  rcases h with hmove | hmove | hmove | hmove
  · exact hmove.keeps
  · exact hmove.keeps
  · exact hmove.keeps
  · exact hmove.keeps hs

/-- The queue and the pool stay within their bounds. -/
def Bounded (s : UVCPreview) : Prop :=
  s.frames.pool.length ≤ framePoolSz ∧ s.previewFrames.length ≤ maxFrame

theorem Moves.bounded {s t : UVCPreview} (h : Moves s t) (hs : s.Bounded) : t.Bounded := by
  obtain ⟨hpool, hqueue⟩ := hs
  rcases h with hmove | hmove | hmove | hmove
  · cases hmove with
    | same | lost | copied | refused => exact ⟨hpool, hqueue⟩
    | arrived hidle hstreams hget => exact ⟨FramePool.length_pool_getFrame hpool hget, hqueue⟩
    | failed | dropped => exact ⟨FramePool.length_pool_recycleFrame hpool _, hqueue⟩
    | added hstream hroom => exact ⟨hpool, by simpa using Nat.succ_le_of_lt hroom⟩
  · cases hmove with
    | cleared hpreview hcons =>
      rw [hcons] at hqueue
      exact ⟨FramePool.length_pool_recycleFrame hpool _, Nat.le_of_succ_le hqueue⟩
    | took hpreview hcons =>
      rw [hcons] at hqueue
      exact ⟨hpool, Nat.le_of_succ_le hqueue⟩
    | got hpreview hget | drew hpreview hget =>
      exact ⟨FramePool.length_pool_getFrame hpool hget, hqueue⟩
    | decoded | undecoded | discarded | unfilled | shown | replaced | refused =>
      exact ⟨FramePool.length_pool_recycleFrame hpool _, hqueue⟩
    | _ => exact ⟨hpool, hqueue⟩
  · cases hmove with
    | cleared | leftSurface | turned | unturned | dropped | delivered =>
      exact ⟨FramePool.length_pool_recycleFrame hpool _, hqueue⟩
    | got hcapture hget | gotCallback hcapture hget =>
      exact ⟨FramePool.length_pool_getFrame hpool hget, hqueue⟩
    | _ => exact ⟨hpool, hqueue⟩
  · cases hmove with
    | cleared hcaller hcons =>
      rw [hcons] at hqueue
      exact ⟨FramePool.length_pool_recycleFrame hpool _, Nat.le_of_succ_le hqueue⟩
    | clearedCapture => exact ⟨FramePool.length_pool_recycleFrame hpool _, hqueue⟩
    | clearedPool => exact ⟨Nat.zero_le _, hqueue⟩
    | _ => exact ⟨hpool, hqueue⟩

/-- What every order of the steps keeps. -/
structure Kept (s : UVCPreview) : Prop where
  joined : s.Joined
  custody : s.Custody
  bounded : s.Bounded

theorem Moves.kept {s t : UVCPreview} (h : Moves s t) (hs : s.Kept) : t.Kept :=
  ⟨h.joined hs.joined, (h.keeps hs.joined).custody hs.custody, h.bounded hs.bounded⟩

theorem kept_constructed (hasCaptureThread : Bool) : (constructed hasCaptureThread).Kept := by
  refine ⟨⟨fun hstarting ↦ by simp [constructed] at hstarting, fun _ ↦ rfl⟩, fun id ↦ ?_,
    Nat.zero_le _, Nat.zero_le _⟩
  simp [places, constructed, FramePool.stored, FramePool.born, StreamPhase.held, PreviewPhase.held,
    heldByCaptures]

theorem kept_run (hasCaptureThread : Bool) (events : List PreviewEvent) :
    (run step (constructed hasCaptureThread) events).Kept := by
  have hany : Meets step (fun _ _ ↦ True) (constructed hasCaptureThread) events :=
    meets_of_forall fun _ _ ↦ trivial
  exact inv_run (fun s event hinv _ ↦ (s.moves_step event).kept hinv)
    (kept_constructed hasCaptureThread) hany

theorem StreamPhase.length_held_le (phase : StreamPhase) : phase.held.length ≤ 1 := by
  cases phase <;> simp [StreamPhase.held]

theorem PreviewPhase.length_held_le (phase : PreviewPhase) : phase.held.length ≤ 2 := by
  cases phase <;> simp [PreviewPhase.held]

/-- A capture thread holds the frame it works on, its frame for the surface, and one for the
callback. -/
theorem CapturePhase.length_held_le (phase : CapturePhase) : phase.held.length ≤ 3 := by
  have hloop : ∀ loop : CaptureLoop, loop.held.length ≤ 1 := by
    rintro (_ | _ | converted) <;> simp [CaptureLoop.held]
  cases phase with
  | waiting loop | calling loop | converting loop | skipping loop | delivering loop =>
    have hheld := hloop loop
    simp only [CapturePhase.held, List.length_cons]
    omega
  | copying converted frame => cases converted <;> simp [CapturePhase.held]
  | _ => simp [CapturePhase.held]

/-- The capture threads that have not ended. -/
def liveCaptures (s : UVCPreview) : ℕ := s.captures.countP (· ≠ .over)

theorem length_heldByCaptures_le (captures : List CapturePhase) :
    (heldByCaptures captures).length ≤ 3 * captures.countP (· ≠ .over) := by
  induction captures with
  | nil => simp [heldByCaptures]
  | cons phase rest ih =>
    simp only [heldByCaptures, List.flatMap_cons, List.length_append, List.countP_cons] at ih ⊢
    by_cases hover : phase = .over
    · subst hover
      simpa [CapturePhase.held] using ih
    · have hheld := CapturePhase.length_held_le phase
      rw [if_pos (decide_eq_true hover)]
      omega

/-- The frames that have been allocated, each in its place. -/
theorem Kept.perm_places {s : UVCPreview} (h : s.Kept) :
    s.places.Perm (List.range s.frames.allocated) := by
  refine List.perm_iff_count.mpr fun id ↦ ?_
  rw [h.custody id, FramePool.born]
  split_ifs with hborn
  · exact (List.count_eq_one_of_mem List.nodup_range (List.mem_range.mpr hborn)).symm
  · exact (List.count_eq_zero.mpr fun hmem ↦ hborn (List.mem_range.mp hmem)).symm

/-- In every order of the steps of the threads, over any number of starts and stops, each frame
that has been allocated is in exactly one place: in the pool, in a queue, in the hands of one
thread, or freed. The pool and the queue keep within their sizes, and so does the memory: at most
fourteen frames are allocated and not freed, and three more for each capture thread that lives. -/
theorem frames_in_one_place (hasCaptureThread : Bool) (events : List PreviewEvent) :
    let s := run step (constructed hasCaptureThread) events
    s.places.Perm (List.range s.frames.allocated) ∧ s.frames.pool.length ≤ framePoolSz ∧
      s.previewFrames.length ≤ maxFrame ∧
        s.frames.allocated ≤ s.frames.freed.length + 14 + 3 * s.liveCaptures := by
  intro s
  have hkept : s.Kept := kept_run hasCaptureThread events
  have hperm := hkept.perm_places
  obtain ⟨-, -, hpool, hqueue⟩ := hkept
  refine ⟨hperm, hpool, hqueue, ?_⟩
  have hlength : s.places.length = s.frames.allocated := by
    rw [hperm.length_eq, List.length_range]
  have hstream := StreamPhase.length_held_le s.stream
  have hpreview := PreviewPhase.length_held_le s.preview
  have hcaptures := length_heldByCaptures_le s.captures
  have hslot : s.captureQueu.toList.length ≤ 1 := by cases s.captureQueu <;> simp
  simp only [places, FramePool.stored, List.length_append] at hlength
  simp only [framePoolSz, maxFrame] at hpool hqueue
  unfold liveCaptures
  omega

end UVCPreview

end UvcRtmpStream.Camera
