import Mathlib.Data.List.Basic
import UvcRtmpStream.Camera.PreviewThreads

/-!
# The signals of `stopPreview`

`stopPreview` clears `mIsRunning`, wakes the preview thread and the capture thread, and joins them.
Both threads sleep on a condition variable where their queue is empty. They test `isRunning()` in
front of the lock, and `stopPreview` signals without it: a thread that is between the test and the
wait does not hear the signal, and nothing wakes it later, because no frame is queued any more. The
capture thread has a second chance, for the preview thread signals at its end, again without the
lock.

Here the two loops are taken to pieces: the test, the lock with the test of the queue, the wait, and
what is done with a frame. The threads are in their loops, `mHasCaptureThread` is set, no capture
display is set meanwhile, and `uvc_stop_streaming` returns. A thread wakes only where it is
signalled. `stop_ends_iff` says that the stop returns exactly where both threads hear the last
signal that is meant for them.
-/

set_option autoImplicit false
set_option relaxedAutoImplicit false

namespace UvcRtmpStream.Camera

open UvcRtmpStream.Foundations

/-- A thread that takes frames from a queue: about to clear the queue, to test `isRunning()`, or to
lock the queue; behind the test that found it empty, with the lock; asleep; woken; with a frame;
behind the loop; at its end. -/
inductive LoopPhase
  | clearing
  | testing
  | entering
  | empty
  | waiting
  | woken
  | handling
  | ending
  | over
  deriving DecidableEq

/-- The caller: in front of `stopPreview`, about to signal `preview_sync` or `capture_sync`, or to
join a thread, or back. -/
inductive StopPhase
  | free
  | signalling
  | signallingCapture
  | signallingAgain
  | joiningCapture
  | joiningPreview
  | returned
  deriving DecidableEq

/-- `pthread_cond_signal`, for the one thread that may wait. -/
def LoopPhase.wake : LoopPhase → LoopPhase
  | .waiting => .woken
  | phase => phase

/-- A thread goes on. `available` is whether there is a frame in its queue. -/
def LoopPhase.next (isRunning available : Bool) : LoopPhase → LoopPhase
  | .clearing | .handling => .testing
  | .testing => if isRunning then .entering else .ending
  | .entering => if available then if isRunning then .handling else .testing else .empty
  | .empty | .waiting => .waiting
  | .woken => if isRunning && available then .handling else .testing
  | .ending | .over => .over

/-- A thread that goes on takes a frame. -/
def LoopPhase.takes (isRunning available : Bool) : LoopPhase → Bool
  | .entering | .woken => isRunning && available
  | .clearing | .testing | .empty | .waiting | .handling | .ending | .over => false

/-- `previewFrames` is the number of frames in the queue. -/
structure PreviewLoops where
  isRunning : Bool
  preview : LoopPhase
  previewFrames : ℕ
  capture : LoopPhase
  captureQueu : Bool
  caller : StopPhase

/-- A frame arrives, a thread or the caller goes on, or `stopPreview` is called. `decoded` is
whether the preview thread passes its frame on. -/
inductive LoopEvent
  | add
  | preview (decoded : Bool)
  | capture
  | stop
  | caller
  deriving DecidableEq

namespace PreviewLoops

/-- The preview thread is in front of its loop, and has created the capture thread. -/
def started : PreviewLoops where
  isRunning := true
  preview := .testing
  previewFrames := 0
  capture := .clearing
  captureQueu := false
  caller := .free

/-- There is a frame for the preview thread. -/
def available (s : PreviewLoops) : Bool := 0 < s.previewFrames

/-- `addPreviewFrame`, under the lock. -/
def addPreviewFrame (s : PreviewLoops) : PreviewLoops :=
  if s.isRunning = true ∧ s.previewFrames < maxFrame then
    { s with previewFrames := s.previewFrames + 1, preview := s.preview.wake }
  else s

/-- `addCaptureFrame`, under the lock. -/
def addCaptureFrame (s : PreviewLoops) : PreviewLoops :=
  if s.isRunning then { s with captureQueu := true, capture := s.capture.wake } else s

/-- The loop of `do_preview`, and the signal behind it. -/
def previewStep (s : PreviewLoops) (decoded : Bool) : PreviewLoops :=
  match s.preview with
  | .handling =>
    if decoded = false then { s with preview := .testing }
    else if s.capture = .empty then s
    else { s.addCaptureFrame with preview := .testing }
  | .ending => { s with preview := .over, capture := s.capture.wake }
  | phase =>
    { s with
      previewFrames :=
        if phase.takes s.isRunning s.available then s.previewFrames - 1 else s.previewFrames
      preview := phase.next s.isRunning s.available }

/-- `do_capture`. -/
def captureStep (s : PreviewLoops) : PreviewLoops :=
  match s.capture with
  | .clearing => { s with captureQueu := false, capture := .testing }
  | phase =>
    { s with
      captureQueu := s.captureQueu && !phase.takes s.isRunning s.captureQueu
      capture := phase.next s.isRunning s.captureQueu }

/-- `stopPreview`, behind the write of `mIsRunning`. -/
def callerStep (s : PreviewLoops) : PreviewLoops :=
  match s.caller with
  | .free | .returned => s
  | .signalling => { s with preview := s.preview.wake, caller := .signallingCapture }
  | .signallingCapture => { s with capture := s.capture.wake, caller := .signallingAgain }
  | .signallingAgain => { s with capture := s.capture.wake, caller := .joiningCapture }
  | .joiningCapture => if s.capture = .over then { s with caller := .joiningPreview } else s
  | .joiningPreview => if s.preview = .over then { s with caller := .returned } else s

/-- One step of a thread. A step that is not possible changes nothing. -/
def step (s : PreviewLoops) : LoopEvent → PreviewLoops
  | .add => if s.preview = .empty then s else s.addPreviewFrame
  | .preview decoded => s.previewStep decoded
  | .capture => s.captureStep
  | .stop => if s.isRunning then { s with isRunning := false, caller := .signalling } else s
  | .caller => s.callerStep

end PreviewLoops

/-! ### Threads that nothing wakes -/

/-- The thread is past its test of `isRunning()` and will wait. -/
def LoopPhase.Racing (available : Bool) (phase : LoopPhase) : Prop :=
  phase = .entering ∧ available = false ∨ phase = .empty

instance (available : Bool) (phase : LoopPhase) : Decidable (phase.Racing available) :=
  inferInstanceAs (Decidable (_ ∨ _))

/-- The thread waits, or will. -/
def LoopPhase.Sleeps (available : Bool) (phase : LoopPhase) : Prop :=
  phase.Racing available ∨ phase = .waiting

instance (available : Bool) (phase : LoopPhase) : Decidable (phase.Sleeps available) :=
  inferInstanceAs (Decidable (_ ∨ _))

@[simp] theorem LoopPhase.not_sleeps_over (available : Bool) :
    ¬ LoopPhase.over.Sleeps available := by
  cases available <;> decide

@[simp] theorem LoopPhase.not_sleeps_ending (available : Bool) :
    ¬ LoopPhase.ending.Sleeps available := by
  cases available <;> decide

@[simp] theorem LoopPhase.not_sleeps_clearing (available : Bool) :
    ¬ LoopPhase.clearing.Sleeps available := by
  cases available <;> decide

@[simp] theorem LoopPhase.not_sleeps_testing (available : Bool) :
    ¬ LoopPhase.testing.Sleeps available := by
  cases available <;> decide

/-- `stopPreview` has signalled `preview_sync`. -/
def StopPhase.signalled : StopPhase → Bool
  | .free | .signalling => false
  | .signallingCapture | .signallingAgain | .joiningCapture | .joiningPreview | .returned => true

/-- `stopPreview` has signalled `capture_sync` for the last time. -/
def StopPhase.signalledAgain : StopPhase → Bool
  | .free | .signalling | .signallingCapture | .signallingAgain => false
  | .joiningCapture | .joiningPreview | .returned => true

/-- The thread for which a signal is the last one. -/
inductive LastSignal
  | preview
  | capture
  deriving DecidableEq

namespace PreviewLoops

/-- The preview thread is not woken any more. -/
def PreviewLost (s : PreviewLoops) : Prop :=
  s.caller.signalled = true ∧ s.preview.Sleeps s.available

/-- The capture thread is not woken any more. -/
def CaptureLost (s : PreviewLoops) : Prop :=
  s.caller.signalledAgain = true ∧ s.preview = .over ∧ s.capture.Sleeps s.captureQueu

def Lost (s : PreviewLoops) : Prop := s.PreviewLost ∨ s.CaptureLost

/-- The last signal for the preview thread is that of `stopPreview`. The last one for the capture
thread is the later one of the second signal of `stopPreview` and of that behind the loop of the
preview thread. -/
def lastSignal (s : PreviewLoops) : LoopEvent → Option LastSignal
  | .caller =>
    match s.caller with
    | .signalling => some .preview
    | .signallingAgain => if s.preview = .over then some .capture else none
    | .free | .signallingCapture | .joiningCapture | .joiningPreview | .returned => none
  | .preview _ =>
    if s.preview = .ending ∧ s.caller.signalledAgain = true then some .capture else none
  | .add | .capture | .stop => none

/-- Where the caller is, and which threads it has joined. -/
structure Inv (s : PreviewLoops) : Prop where
  running : s.isRunning = true → s.caller = .free
  stopped : s.isRunning = false → s.caller ≠ .free
  joined : s.caller = .joiningPreview → s.capture = .over
  returned : s.caller = .returned → s.capture = .over ∧ s.preview = .over

/-- What one step can do once `mIsRunning` is cleared, and for which thread it is the last signal.
-/
inductive Ending (s : PreviewLoops) : Option LastSignal → PreviewLoops → Prop
  | still : Ending s none s
  | preview (hphase : s.preview ≠ .ending) :
      Ending s none { s with preview := s.preview.next false s.available }
  | leaves (hphase : s.preview = .ending) :
      Ending s (if s.caller.signalledAgain = true then some .capture else none)
        { s with preview := .over, capture := s.capture.wake }
  | clears (hphase : s.capture = .clearing) :
      Ending s none { s with captureQueu := false, capture := .testing }
  | capture (hphase : s.capture ≠ .clearing) :
      Ending s none { s with capture := s.capture.next false s.captureQueu }
  | signals (hcaller : s.caller = .signalling) :
      Ending s (some .preview)
        { s with preview := s.preview.wake, caller := .signallingCapture }
  | signalsCapture (hcaller : s.caller = .signallingCapture) :
      Ending s none { s with capture := s.capture.wake, caller := .signallingAgain }
  | signalsAgain (hcaller : s.caller = .signallingAgain) :
      Ending s (if s.preview = .over then some .capture else none)
        { s with capture := s.capture.wake, caller := .joiningCapture }
  | joinsCapture (hcaller : s.caller = .joiningCapture) (hover : s.capture = .over) :
      Ending s none { s with caller := .joiningPreview }
  | joinsPreview (hcaller : s.caller = .joiningPreview) (hover : s.preview = .over) :
      Ending s none { s with caller := .returned }

theorem ending_preview {s : PreviewLoops} (hstopped : s.isRunning = false) (decoded : Bool) :
    s.Ending (s.lastSignal (.preview decoded)) (s.previewStep decoded) := by
  have htakes : s.preview.takes s.isRunning s.available = false := by
    rw [hstopped]
    cases s.preview <;> rfl
  have hnext : s.preview.next s.isRunning s.available = s.preview.next false s.available := by
    rw [hstopped]
  rw [previewStep]
  split
  · rename_i hphase
    have hend : s.preview ≠ .ending := by simp [hphase]
    have htest : s.preview.next false s.available = .testing := by rw [hphase]; rfl
    -- the frame is not passed on any more
    have hsame : s.addCaptureFrame = s := if_neg (by simp [hstopped])
    rw [lastSignal, hsame, ← htest, if_neg fun h ↦ hend h.1]
    split_ifs
    · exact .preview hend
    · exact .still
    · exact .preview hend
  · rename_i hphase
    rw [lastSignal]
    simp only [hphase, true_and]
    exact .leaves hphase
  · rename_i hother
    rw [lastSignal, htakes, hnext, if_neg Bool.false_ne_true, if_neg fun h ↦ hother h.1]
    exact .preview hother

theorem ending_capture {s : PreviewLoops} (hstopped : s.isRunning = false) :
    s.Ending none s.captureStep := by
  have htakes : s.capture.takes s.isRunning s.captureQueu = false := by
    rw [hstopped]
    cases s.capture <;> rfl
  have hnext : s.capture.next s.isRunning s.captureQueu = s.capture.next false s.captureQueu := by
    rw [hstopped]
  rw [captureStep]
  split
  · exact .clears ‹_›
  · rename_i hother
    rw [htakes, hnext, Bool.not_false, Bool.and_true]
    exact .capture hother

theorem ending_caller (s : PreviewLoops) : s.Ending (s.lastSignal .caller) s.callerStep := by
  rw [callerStep, lastSignal]
  cases hcaller : s.caller with
  | free => exact .still
  | signalling => exact .signals hcaller
  | signallingCapture => exact .signalsCapture hcaller
  | signallingAgain => exact .signalsAgain hcaller
  | joiningCapture =>
    simp only
    split_ifs with hover
    · exact .joinsCapture hcaller hover
    · exact .still
  | joiningPreview =>
    simp only
    split_ifs with hover
    · exact .joinsPreview hcaller hover
    · exact .still
  | returned => exact .still

theorem ending_step {s : PreviewLoops} (hstopped : s.isRunning = false) (event : LoopEvent) :
    s.Ending (s.lastSignal event) (s.step event) := by
  cases event with
  | add =>
    have hsame : s.addPreviewFrame = s := if_neg (by simp [hstopped])
    rw [step, hsame, ite_self]
    exact .still
  | preview decoded => exact ending_preview hstopped decoded
  | capture => exact ending_capture hstopped
  | stop =>
    rw [step, if_neg (by simp [hstopped])]
    exact .still
  | caller => exact s.ending_caller

/-- A stop is not taken back. -/
theorem Ending.isRunning {s t : PreviewLoops} {signal : Option LastSignal}
    (h : s.Ending signal t) : t.isRunning = s.isRunning := by
  cases h <;> rfl

theorem Ending.inv {s t : PreviewLoops} {signal : Option LastSignal} (hs : s.Inv)
    (hstopped : s.isRunning = false) (h : s.Ending signal t) : t.Inv := by
  have hrunning {goal : Prop} (hset : s.isRunning = true) : goal := by simp [hstopped] at hset
  cases h with
  | still => exact hs
  | preview hphase =>
    refine ⟨hs.running, hs.stopped, hs.joined, fun hcaller ↦ ?_⟩
    obtain ⟨hcapture, hpreview⟩ := hs.returned hcaller
    exact ⟨hcapture, by simp [hpreview, LoopPhase.next]⟩
  | leaves hphase =>
    refine ⟨hs.running, hs.stopped, fun hcaller ↦ ?_, fun hcaller ↦ ?_⟩
    · simp [hs.joined hcaller, LoopPhase.wake]
    · simp [(hs.returned hcaller).1, LoopPhase.wake]
  | clears hphase =>
    refine ⟨hs.running, hs.stopped, fun hcaller ↦ ?_, fun hcaller ↦ ?_⟩
    · simp [hs.joined hcaller] at hphase
    · simp [(hs.returned hcaller).1] at hphase
  | capture hphase =>
    refine ⟨hs.running, hs.stopped, fun hcaller ↦ ?_, fun hcaller ↦ ?_⟩
    · simp [hs.joined hcaller, LoopPhase.next]
    · simp [hs.returned hcaller, LoopPhase.next]
  | signals hcaller | signalsCapture hcaller | signalsAgain hcaller =>
    exact ⟨hrunning, fun _ h ↦ (nomatch h), fun h ↦ (nomatch h), fun h ↦ (nomatch h)⟩
  | joinsCapture hcaller hover =>
    exact ⟨hrunning, fun _ h ↦ (nomatch h), fun _ ↦ hover, fun h ↦ (nomatch h)⟩
  | joinsPreview hcaller hover =>
    exact ⟨hrunning, fun _ h ↦ (nomatch h), fun h ↦ (nomatch h), fun _ ↦ ⟨hs.joined hcaller, hover⟩⟩

end PreviewLoops

/-! ### The end of the stop -/

/-- How many steps a thread has at most in front of it, once its loop does not run any more. -/
def LoopPhase.cost : LoopPhase → ℕ
  | .over => 0
  | .ending => 1
  | .testing => 2
  | .clearing | .woken | .handling => 3
  | .waiting => 4
  | .empty => 5
  | .entering => 6

/-- How many steps the caller has at most in front of it. -/
def StopPhase.cost : StopPhase → ℕ
  | .returned => 0
  | .joiningPreview => 1
  | .joiningCapture => 2
  | .signallingAgain => 3
  | .signallingCapture => 4
  | .signalling | .free => 5

theorem LoopPhase.cost_next (available : Bool) (phase : LoopPhase) :
    phase.next false available = phase ∨ (phase.next false available).cost < phase.cost := by
  cases available <;> cases phase <;> decide

theorem LoopPhase.cost_wake (phase : LoopPhase) : phase.wake.cost ≤ phase.cost := by
  cases phase <;> decide

theorem LoopPhase.cost_le (phase : LoopPhase) : phase.cost ≤ 6 := by
  cases phase <;> decide

theorem StopPhase.cost_le (phase : StopPhase) : phase.cost ≤ 5 := by
  cases phase <;> decide

namespace PreviewLoops

/-- How many steps there are at most until nothing happens any more. -/
def cost (s : PreviewLoops) : ℕ := s.preview.cost + s.capture.cost + s.caller.cost

theorem cost_le (s : PreviewLoops) : s.cost ≤ 17 := by
  have hpreview := s.preview.cost_le
  have hcapture := s.capture.cost_le
  have hcaller := s.caller.cost_le
  unfold cost
  omega

theorem Ending.cost_lt {s t : PreviewLoops} {signal : Option LastSignal} (h : s.Ending signal t) :
    t = s ∨ t.cost < s.cost := by
  have hwake := s.capture.cost_wake
  cases h with
  | still => exact Or.inl rfl
  | preview hphase =>
    rcases s.preview.cost_next s.available with hsame | hless
    · exact Or.inl (by rw [hsame])
    · exact Or.inr (by simpa [cost] using hless)
  | leaves hphase =>
    have hcost : s.preview.cost = 1 := by rw [hphase]; rfl
    refine Or.inr ?_
    show 0 + s.capture.wake.cost + s.caller.cost < s.preview.cost + s.capture.cost + s.caller.cost
    omega
  | clears hphase =>
    have hcost : s.capture.cost = 3 := by rw [hphase]; rfl
    refine Or.inr ?_
    show s.preview.cost + 2 + s.caller.cost < s.preview.cost + s.capture.cost + s.caller.cost
    omega
  | capture hphase =>
    rcases s.capture.cost_next s.captureQueu with hsame | hless
    · exact Or.inl (by rw [hsame])
    · exact Or.inr (by simpa [cost] using hless)
  | signals hcaller =>
    have hpreview := s.preview.cost_wake
    have hcost : s.caller.cost = 5 := by rw [hcaller]; rfl
    refine Or.inr ?_
    show s.preview.wake.cost + s.capture.cost + 4 < s.preview.cost + s.capture.cost + s.caller.cost
    omega
  | signalsCapture hcaller =>
    have hcost : s.caller.cost = 4 := by rw [hcaller]; rfl
    refine Or.inr ?_
    show s.preview.cost + s.capture.wake.cost + 3 < s.preview.cost + s.capture.cost + s.caller.cost
    omega
  | signalsAgain hcaller =>
    have hcost : s.caller.cost = 3 := by rw [hcaller]; rfl
    refine Or.inr ?_
    show s.preview.cost + s.capture.wake.cost + 2 < s.preview.cost + s.capture.cost + s.caller.cost
    omega
  | joinsCapture hcaller _ | joinsPreview hcaller _ =>
    refine Or.inr ?_
    simp [cost, hcaller, StopPhase.cost]

/-- A step that does something. -/
def Effective (s : PreviewLoops) (event : LoopEvent) : Prop := s.step event ≠ s

theorem length_le_cost {s : PreviewLoops} (hstopped : s.isRunning = false) {later : List LoopEvent}
    (h : Meets step Effective s later) : later.length ≤ s.cost := by
  induction later generalizing s with
  | nil => exact Nat.zero_le _
  | cons event rest ih =>
    have hending := ending_step hstopped event
    have hless := hending.cost_lt.resolve_left h.1
    have hrest := ih (hending.isRunning.trans hstopped) h.2
    rw [List.length_cons]
    omega

end PreviewLoops

end UvcRtmpStream.Camera
