import Mathlib.Data.List.Basic
import UvcRtmpStream.Foundations.Runs

/-!
# The threads of a preview, and the frames they pass on

Four threads share the frames of `UVCPreview`. The thread of the stream copies a frame that has
arrived and puts the copy into `previewFrames`; the preview thread takes it from there, decodes it,
draws it and leaves it in `captureQueu`; the capture thread takes it from there, copies it to the
capture surface and hands it to the callback; the caller starts, stops and deletes the whole. Each
frame comes from `mFramePool`, or is allocated when that is empty, and goes back to it, or is freed
when that is full.

Here a step of a thread is what it does between two points at which another thread may come in
between: the body of a lock, one call of `get_frame` or `recycle_frame`, the reading of a flag. The
threads are steps of one machine, driven in any order. Frames are numbered in the order of their
allocation; `content` says which of the frames that arrived a frame shows, and `drawn`, `recorded`
and `delivered` list what was shown on the preview window, on the capture surface and to the
callback. No code reads these four.

The end of a stream joins its thread only while `running` is set, which is cleared when the device
is gone. Then the thread is left behind, in the callback or on its way into it, and as no call to
the device succeeds any more, no other stream comes after it. A stream whose start fails is taken to
have delivered nothing.
-/

set_option autoImplicit false
set_option relaxedAutoImplicit false

namespace UvcRtmpStream.Camera

open UvcRtmpStream.Foundations

/-- `MAX_FRAME`. -/
def maxFrame : ℕ := 4

/-- `FRAME_POOL_SZ`. -/
def framePoolSz : ℕ := maxFrame + 2

/-- `mFramePool`, the frames freed so far, and the number of frames allocated so far. -/
structure FramePool where
  pool : List ℕ
  freed : List ℕ
  allocated : ℕ

namespace FramePool

/-- `UVCPreview::get_frame`: the frame put back last, or a new one. -/
def getFrame (p : FramePool) (memory : Bool) : Option ℕ × FramePool :=
  match p.pool.getLast? with
  | some frame => (some frame, { p with pool := p.pool.dropLast })
  | none =>
    if memory then (some p.allocated, { p with allocated := p.allocated + 1 }) else (none, p)

/-- `UVCPreview::recycle_frame`. -/
def recycleFrame (p : FramePool) (frame : ℕ) : FramePool :=
  if p.pool.length < framePoolSz then { p with pool := p.pool ++ [frame] }
  else { p with freed := p.freed ++ [frame] }

/-- `UVCPreview::clear_pool`. -/
def clearPool (p : FramePool) : FramePool := { p with pool := [], freed := p.freed ++ p.pool }

end FramePool

/-- The thread of the stream, in `uvc_preview_frame_callback`. -/
inductive StreamPhase
  | idle
  | copying (frame number : ℕ)
  | adding (frame : ℕ)
  | dropping (frame : ℕ)
  deriving DecidableEq

/-- The preview thread, from `prepare_preview` to the end of `do_preview`. -/
inductive PreviewPhase
  | none
  | preparing
  | connecting
  | clearing
  | creating
  | flagging
  | waiting
  | taken (mjpeg : ℕ)
  | decoding (mjpeg frame : ℕ)
  | discarding (frame : ℕ)
  | drawing (frame : ℕ)
  | converting (frame converted : ℕ)
  | showing (frame converted : ℕ)
  | adding (frame : ℕ)
  | leaving
  | over
  deriving DecidableEq

/-- The loop the capture thread is in: `do_capture_idle_loop`, or `do_capture_surface` with its
frame for the surface. -/
inductive CaptureLoop
  | idle
  | surface (converted : Option ℕ)
  deriving DecidableEq

/-- The capture thread, in `do_capture`. -/
inductive CapturePhase
  | clearing
  | choosing
  | waiting (loop : CaptureLoop)
  | copying (converted : Option ℕ) (frame : ℕ)
  | filling (converted frame : ℕ)
  | pasting (converted frame : ℕ)
  | calling (loop : CaptureLoop) (frame : ℕ)
  | converting (loop : CaptureLoop) (frame callback : ℕ)
  | skipping (loop : CaptureLoop) (callback : ℕ)
  | delivering (loop : CaptureLoop) (callback : ℕ)
  | over
  deriving DecidableEq

/-- The caller, in `startPreview`, `stopPreview` or the destructor. -/
inductive OwnerPhase
  | free
  | starting
  | stopping
  | joiningCapture
  | joiningPreview
  | clearing (deletes : Bool)
  | clearingCapture (deletes : Bool)
  | clearingPool
  | deleted
  deriving DecidableEq

/-- `captures` are the capture threads created so far, `capture_thread` being the last. `deviceGone`
says that a stream ended without the device, its thread not joined. -/
structure UVCPreview where
  frames : FramePool
  isRunning : Bool
  hasCaptureThread : Bool
  frameMode : Bool
  previewFrames : List ℕ
  captureQueu : Option ℕ
  stream : StreamPhase
  preview : PreviewPhase
  captures : List CapturePhase
  caller : OwnerPhase
  deviceGone : Bool
  content : ℕ → ℕ
  arrivals : ℕ
  drawn : List ℕ
  recorded : List ℕ
  delivered : List ℕ

/-- What a step of a thread gets from outside: whether the call it makes succeeds (at the end of a
stream, whether `uvc_stream_close` and `uvc_stream_stop` find `running` set), memory is left, the
window or surface is set and can be locked, the mode is MJPEG, `isCapturing` holds, a callback is
set, and it is given converted frames. -/
structure Answers where
  ok : Bool
  memory : Bool
  window : Bool
  mjpeg : Bool
  capturing : Bool
  callback : Bool
  converts : Bool

/-- A step of the stream's thread, of the preview thread, of a capture thread, of the caller in a
call, or a new call. -/
inductive PreviewEvent
  | stream (answers : Answers)
  | preview (answers : Answers)
  | capture (place : ℕ) (answers : Answers)
  | caller (answers : Answers)
  | start
  | stop
  | delete

/-- Frames arrive between `uvc_start_streaming_bandwidth` and `uvc_stop_streaming`. -/
def PreviewPhase.Streams : PreviewPhase → Prop
  | .none | .preparing | .connecting | .over => False
  | _ => True

instance : DecidablePred PreviewPhase.Streams
  | .none | .preparing | .connecting | .over => .isFalse id
  | .clearing | .creating | .flagging | .waiting | .taken _ | .decoding _ _ | .discarding _
  | .drawing _ | .converting _ _ | .showing _ _ | .adding _ | .leaving => .isTrue trivial

/-- The caller is in `clearPreviewFrame`. -/
def OwnerPhase.Clears : OwnerPhase → Prop
  | .clearing _ => True
  | _ => False

instance : DecidablePred OwnerPhase.Clears
  | .clearing _ => .isTrue trivial
  | .free | .starting | .stopping | .joiningCapture | .joiningPreview | .clearingCapture _
  | .clearingPool | .deleted => .isFalse id

namespace UVCPreview

/-- A new object. The constructor does not set `mHasCaptureThread`. -/
def constructed (hasCaptureThread : Bool) : UVCPreview where
  frames := { pool := [], freed := [], allocated := 0 }
  isRunning := false
  hasCaptureThread := hasCaptureThread
  frameMode := false
  previewFrames := []
  captureQueu := none
  stream := .idle
  preview := .none
  captures := []
  caller := .free
  deviceGone := false
  content := fun _ ↦ 0
  arrivals := 0
  drawn := []
  recorded := []
  delivered := []

/-- Frames arrive while the preview streams, and from a thread that was not joined. -/
def FramesArrive (s : UVCPreview) : Prop := s.preview.Streams ∨ s.deviceGone = true

instance (s : UVCPreview) : Decidable s.FramesArrive := inferInstanceAs (Decidable (_ ∨ _))

/-- `preview_mutex` is held from the first turn of `clearPreviewFrame` to its last. -/
def QueueLocked (s : UVCPreview) : Prop := s.preview = .clearing ∨ s.caller.Clears

instance (s : UVCPreview) : Decidable s.QueueLocked := inferInstanceAs (Decidable (_ ∨ _))

/-- `recycle_frame`, as a step of a thread that holds the frame. -/
def recycle (s : UVCPreview) (frame : ℕ) : UVCPreview :=
  { s with frames := s.frames.recycleFrame frame }

/-- A conversion or a copy, into a frame the thread holds. -/
def fill (s : UVCPreview) (frame number : ℕ) : UVCPreview :=
  { s with content := Function.update s.content frame number }

/-- `uvc_preview_frame_callback` and `addPreviewFrame`. -/
def streamStep (s : UVCPreview) (answers : Answers) : UVCPreview :=
  match s.stream with
  | .idle =>
    if s.FramesArrive ∧ s.isRunning = true ∧ answers.ok = true then
      match s.frames.getFrame answers.memory with
      | (some frame, frames) =>
        { s with frames := frames, stream := .copying frame s.arrivals, arrivals := s.arrivals + 1 }
      | (none, _) => { s with arrivals := s.arrivals + 1 }
    else s
  | .copying frame number =>
    if answers.ok then { s.fill frame number with stream := .adding frame }
    else { s.recycle frame with stream := .idle }
  | .adding frame =>
    if s.QueueLocked then s
    else if s.isRunning = true ∧ s.previewFrames.length < maxFrame then
      { s with previewFrames := s.previewFrames ++ [frame], stream := .idle }
    else { s with stream := .dropping frame }
  | .dropping frame => { s.recycle frame with stream := .idle }

/-- One turn of `clearPreviewFrame`, which the thread leaves when the queue is empty. -/
def clearPreviewFrame (s : UVCPreview) (left : UVCPreview) : UVCPreview :=
  match s.previewFrames with
  | [] => left
  | frame :: rest => { s.recycle frame with previewFrames := rest }

/-- `waitPreviewFrame`, in the loop of `do_preview`. -/
def waitPreviewFrame (s : UVCPreview) : UVCPreview :=
  if s.isRunning then
    match s.previewFrames with
    | [] => s
    | frame :: rest =>
      { s with
        previewFrames := rest
        preview := if s.frameMode then .taken frame else .drawing frame }
  else { s with preview := .leaving }

/-- `addCaptureFrame`: only the latest frame is kept. -/
def addCaptureFrame (s : UVCPreview) (frame : ℕ) : UVCPreview :=
  if s.isRunning then
    match s.captureQueu with
    | some old => { s.recycle old with captureQueu := some frame }
    | none => { s with captureQueu := some frame }
  else s.recycle frame

/-- `clearCaptureFrame`. -/
def clearCaptureFrame (s : UVCPreview) : UVCPreview :=
  match s.captureQueu with
  | some frame => { s.recycle frame with captureQueu := none }
  | none => s

/-- `preview_thread_func`: `prepare_preview`, `do_preview` and `draw_preview_one`. -/
def previewStep (s : UVCPreview) (answers : Answers) : UVCPreview :=
  match s.preview with
  | .none | .over => s
  | .preparing =>
    if answers.ok = true ∧ s.deviceGone = false then
      { s with preview := .connecting, frameMode := answers.mjpeg }
    else { s with preview := .over }
  | .connecting =>
    { s with preview := if answers.ok then .clearing else .over, hasCaptureThread := false }
  | .clearing => s.clearPreviewFrame { s with preview := .creating }
  | .creating =>
    if answers.ok then { s with captures := s.captures ++ [.clearing], preview := .flagging }
    else { s with preview := .waiting }
  | .flagging => { s with hasCaptureThread := true, preview := .waiting }
  | .waiting => s.waitPreviewFrame
  | .taken mjpeg =>
    match s.frames.getFrame true with
    | (some frame, frames) => { s with frames := frames, preview := .decoding mjpeg frame }
    | (none, _) => s
  | .decoding mjpeg frame =>
    if answers.ok then
      { (s.fill frame (s.content mjpeg)).recycle mjpeg with preview := .drawing frame }
    else { s.recycle mjpeg with preview := .discarding frame }
  | .discarding frame => { s.recycle frame with preview := .waiting }
  | .drawing frame =>
    if answers.window then
      match s.frames.getFrame answers.memory with
      | (some converted, frames) =>
        { s with frames := frames, preview := .converting frame converted }
      | (none, _) => { s with preview := .adding frame }
    else { s with preview := .adding frame }
  | .converting frame converted =>
    if answers.ok then
      { s.fill converted (s.content frame) with preview := .showing frame converted }
    else { s.recycle converted with preview := .adding frame }
  | .showing frame converted =>
    { s.recycle converted with
      drawn := if answers.window then s.drawn ++ [s.content converted] else s.drawn
      preview := .adding frame }
  | .adding frame => { s.addCaptureFrame frame with preview := .waiting }
  | .leaving =>
    if answers.ok then
      -- `uvc_stream_stop` joins the thread of the stream.
      if s.stream = .idle then { s with preview := .over } else s
    else { s with preview := .over, deviceGone := true }

/-- The capture thread at a place goes on. -/
def become (s : UVCPreview) (place : ℕ) (phase : CapturePhase) : UVCPreview :=
  { s with captures := s.captures.set place phase }

/-- `waitCaptureFrame`, in one of the loops of `do_capture`, which is left when the preview no
longer runs or another surface or callback is to be set. -/
def waitCaptureFrame (s : UVCPreview) (place : ℕ) (loop : CaptureLoop) (answers : Answers) :
    UVCPreview :=
  if s.isRunning = true ∧ answers.capturing = true then
    match s.captureQueu, loop with
    | none, _ => s
    | some frame, .idle => { s.become place (.calling .idle frame) with captureQueu := none }
    | some frame, .surface converted =>
      { s.become place (.copying converted frame) with captureQueu := none }
  else
    match loop with
    | .surface (some converted) => (s.become place .choosing).recycle converted
    | .surface none | .idle => s.become place .choosing

/-- `do_capture_callback`, up to the conversion for the callback. -/
def doCaptureCallback (s : UVCPreview) (place : ℕ) (loop : CaptureLoop) (frame : ℕ)
    (answers : Answers) : UVCPreview :=
  if answers.callback then
    if answers.converts then
      match s.frames.getFrame answers.memory with
      | (some callback, frames) =>
        { s.become place (.converting loop frame callback) with frames := frames }
      | (none, _) => s.become place (.skipping loop frame)
    else s.become place (.delivering loop frame)
  else s.become place (.skipping loop frame)

/-- `do_capture`, `do_capture_surface` and `do_capture_callback`. -/
def captureStep (s : UVCPreview) (place : ℕ) (answers : Answers) : UVCPreview :=
  match s.captures[place]? with
  | none | some .over => s
  | some .clearing => s.clearCaptureFrame.become place .choosing
  | some .choosing =>
    if s.isRunning then
      s.become place (.waiting (if answers.window then .surface none else .idle))
    else s.become place .over
  | some (.waiting loop) => s.waitCaptureFrame place loop answers
  | some (.copying converted frame) =>
    if answers.capturing then
      match converted with
      | some converted => s.become place (.filling converted frame)
      | none =>
        match s.frames.getFrame answers.memory with
        | (some converted, frames) =>
          { s.become place (.filling converted frame) with frames := frames }
        | (none, _) => s.become place (.calling (.surface none) frame)
    else s.become place (.calling (.surface converted) frame)
  | some (.filling converted frame) =>
    if answers.ok then (s.fill converted (s.content frame)).become place (.pasting converted frame)
    else s.become place (.calling (.surface (some converted)) frame)
  | some (.pasting converted frame) =>
    { s.become place (.calling (.surface (some converted)) frame) with
      recorded := if answers.window then s.recorded ++ [s.content converted] else s.recorded }
  | some (.calling loop frame) => s.doCaptureCallback place loop frame answers
  | some (.converting loop frame callback) =>
    if answers.ok then
      ((s.fill callback (s.content frame)).recycle frame).become place (.delivering loop callback)
    else (s.recycle frame).become place (.skipping loop callback)
  | some (.skipping loop callback) => (s.recycle callback).become place (.waiting loop)
  | some (.delivering loop callback) =>
    { (s.recycle callback).become place (.waiting loop) with
      delivered := if answers.callback then s.delivered ++ [s.content callback] else s.delivered }

/-- `startPreview`, `stopPreview` and the destructor, behind their first step. -/
def callerStep (s : UVCPreview) (answers : Answers) : UVCPreview :=
  match s.caller with
  | .free | .deleted => s
  | .starting =>
    if answers.window = true ∧ answers.ok = true then
      { s with preview := .preparing, caller := .free }
    else { s with isRunning := false, caller := .free }
  | .stopping =>
    { s with caller := if s.hasCaptureThread then .joiningCapture else .joiningPreview }
  | .joiningCapture =>
    if s.captures.getLast?.getD .over = .over then { s with caller := .joiningPreview } else s
  | .joiningPreview =>
    if s.preview = .none ∨ s.preview = .over then
      { s with preview := .none, caller := .clearing false }
    else s
  | .clearing deletes => s.clearPreviewFrame { s with caller := .clearingCapture deletes }
  | .clearingCapture deletes =>
    { s.clearCaptureFrame with caller := if deletes then .clearingPool else .free }
  | .clearingPool => { s with frames := s.frames.clearPool, caller := .deleted }

/-- One step of a thread, or the first step of a call. A step that is not possible changes
nothing. -/
def step (s : UVCPreview) : PreviewEvent → UVCPreview
  | .stream answers => s.streamStep answers
  | .preview answers => s.previewStep answers
  | .capture place answers => s.captureStep place answers
  | .caller answers => s.callerStep answers
  | .start =>
    if s.caller = .free ∧ s.isRunning = false then { s with isRunning := true, caller := .starting }
    else s
  | .stop =>
    if s.caller = .free then
      if s.isRunning then { s with isRunning := false, caller := .stopping }
      else { s with caller := .clearing false }
    else s
  | .delete =>
    if s.caller = .free ∧ s.isRunning = false then { s with caller := .clearing true } else s

/-! ### What the threads can do -/

/-- The moves of the stream's thread. -/
inductive StreamMove (s : UVCPreview) : UVCPreview → Prop
  | same : StreamMove s s
  | arrived {memory : Bool} {frame : ℕ} {frames : FramePool} (hidle : s.stream = .idle)
      (harrives : s.FramesArrive) (hget : s.frames.getFrame memory = (some frame, frames)) :
      StreamMove s { s with
        frames := frames, stream := .copying frame s.arrivals, arrivals := s.arrivals + 1 }
  | lost (hidle : s.stream = .idle) (harrives : s.FramesArrive) :
      StreamMove s { s with arrivals := s.arrivals + 1 }
  | copied {frame number : ℕ} (hstream : s.stream = .copying frame number) :
      StreamMove s { s.fill frame number with stream := .adding frame }
  | failed {frame number : ℕ} (hstream : s.stream = .copying frame number) :
      StreamMove s { s.recycle frame with stream := .idle }
  | added {frame : ℕ} (hstream : s.stream = .adding frame)
      (hroom : s.previewFrames.length < maxFrame) :
      StreamMove s { s with previewFrames := s.previewFrames ++ [frame], stream := .idle }
  | refused {frame : ℕ} (hstream : s.stream = .adding frame) :
      StreamMove s { s with stream := .dropping frame }
  | dropped {frame : ℕ} (hstream : s.stream = .dropping frame) :
      StreamMove s { s.recycle frame with stream := .idle }

theorem streamMove (s : UVCPreview) (answers : Answers) : StreamMove s (s.streamStep answers) := by
  unfold streamStep
  split
  next hstream =>
    by_cases hgoes : s.FramesArrive ∧ s.isRunning = true ∧ answers.ok = true
    · rw [if_pos hgoes]
      rcases hget : s.frames.getFrame answers.memory with ⟨_ | frame, frames⟩
      · exact .lost hstream hgoes.1
      · exact .arrived hstream hgoes.1 hget
    · rw [if_neg hgoes]
      exact .same
  next frame number hstream =>
    split_ifs
    · exact .copied hstream
    · exact .failed hstream
  next frame hstream =>
    split_ifs with hlocked hroom
    · exact .same
    · exact .added hstream hroom.2
    · exact .refused hstream
  next frame hstream => exact .dropped hstream

/-- The moves of the preview thread. -/
inductive PreviewMove (s : UVCPreview) : UVCPreview → Prop
  | same : PreviewMove s s
  | prepared (mjpeg : Bool) (hpreview : s.preview = .preparing) (hthere : s.deviceGone = false) :
      PreviewMove s { s with preview := .connecting, frameMode := mjpeg }
  | unprepared (hpreview : s.preview = .preparing) : PreviewMove s { s with preview := .over }
  | connected (hpreview : s.preview = .connecting) :
      PreviewMove s { s with preview := .clearing, hasCaptureThread := false }
  | unconnected (hpreview : s.preview = .connecting) :
      PreviewMove s { s with preview := .over, hasCaptureThread := false }
  | cleared {frame : ℕ} {rest : List ℕ} (hpreview : s.preview = .clearing)
      (hqueue : s.previewFrames = frame :: rest) :
      PreviewMove s { s.recycle frame with previewFrames := rest }
  | clear (hpreview : s.preview = .clearing) (hqueue : s.previewFrames = []) :
      PreviewMove s { s with preview := .creating }
  | created (hpreview : s.preview = .creating) :
      PreviewMove s { s with captures := s.captures ++ [.clearing], preview := .flagging }
  | uncreated (hpreview : s.preview = .creating) : PreviewMove s { s with preview := .waiting }
  | flagged (hpreview : s.preview = .flagging) :
      PreviewMove s { s with hasCaptureThread := true, preview := .waiting }
  | took {frame : ℕ} {rest : List ℕ} (hpreview : s.preview = .waiting)
      (hqueue : s.previewFrames = frame :: rest) :
      PreviewMove s { s with
        previewFrames := rest, preview := if s.frameMode then .taken frame else .drawing frame }
  | left (hpreview : s.preview = .waiting) (hrunning : s.isRunning = false) :
      PreviewMove s { s with preview := .leaving }
  | got {mjpeg frame : ℕ} {frames : FramePool} (hpreview : s.preview = .taken mjpeg)
      (hget : s.frames.getFrame true = (some frame, frames)) :
      PreviewMove s { s with frames := frames, preview := .decoding mjpeg frame }
  | decoded {mjpeg frame : ℕ} (hpreview : s.preview = .decoding mjpeg frame) :
      PreviewMove s
        { (s.fill frame (s.content mjpeg)).recycle mjpeg with preview := .drawing frame }
  | undecoded {mjpeg frame : ℕ} (hpreview : s.preview = .decoding mjpeg frame) :
      PreviewMove s { s.recycle mjpeg with preview := .discarding frame }
  | discarded {frame : ℕ} (hpreview : s.preview = .discarding frame) :
      PreviewMove s { s.recycle frame with preview := .waiting }
  | skipped {frame : ℕ} (hpreview : s.preview = .drawing frame) :
      PreviewMove s { s with preview := .adding frame }
  | drew {memory : Bool} {frame converted : ℕ} {frames : FramePool}
      (hpreview : s.preview = .drawing frame)
      (hget : s.frames.getFrame memory = (some converted, frames)) :
      PreviewMove s { s with frames := frames, preview := .converting frame converted }
  | filled {frame converted : ℕ} (hpreview : s.preview = .converting frame converted) :
      PreviewMove s
        { s.fill converted (s.content frame) with preview := .showing frame converted }
  | unfilled {frame converted : ℕ} (hpreview : s.preview = .converting frame converted) :
      PreviewMove s { s.recycle converted with preview := .adding frame }
  | shown (window : Bool) {frame converted : ℕ} (hpreview : s.preview = .showing frame converted) :
      PreviewMove s { s.recycle converted with
        drawn := if window then s.drawn ++ [s.content converted] else s.drawn
        preview := .adding frame }
  | added {frame : ℕ} (hpreview : s.preview = .adding frame) (hqueue : s.captureQueu = none) :
      PreviewMove s { s with captureQueu := some frame, preview := .waiting }
  | replaced {frame old : ℕ} (hpreview : s.preview = .adding frame)
      (hqueue : s.captureQueu = some old) :
      PreviewMove s { s.recycle old with captureQueu := some frame, preview := .waiting }
  | refused {frame : ℕ} (hpreview : s.preview = .adding frame) :
      PreviewMove s { s.recycle frame with preview := .waiting }
  | ended (hpreview : s.preview = .leaving) (hidle : s.stream = .idle) :
      PreviewMove s { s with preview := .over }
  | abandoned (hpreview : s.preview = .leaving) :
      PreviewMove s { s with preview := .over, deviceGone := true }

theorem previewMove (s : UVCPreview) (answers : Answers) :
    PreviewMove s (s.previewStep answers) := by
  unfold previewStep
  split
  next => exact .same
  next => exact .same
  next hpreview =>
    split_ifs with hgoes
    · exact .prepared _ hpreview hgoes.2
    · exact .unprepared hpreview
  next hpreview =>
    split_ifs
    · exact .connected hpreview
    · exact .unconnected hpreview
  next hpreview =>
    unfold clearPreviewFrame
    split
    next hqueue => exact .clear hpreview hqueue
    next frame rest hqueue => exact .cleared hpreview hqueue
  next hpreview =>
    split_ifs
    · exact .created hpreview
    · exact .uncreated hpreview
  next hpreview => exact .flagged hpreview
  next hpreview =>
    unfold waitPreviewFrame
    by_cases hrunning : s.isRunning = true
    · rw [if_pos hrunning]
      split
      next => exact .same
      next frame rest hqueue => exact .took hpreview hqueue
    · rw [if_neg hrunning]
      exact .left hpreview (Bool.eq_false_iff.mpr hrunning)
  next mjpeg hpreview =>
    split
    next frame frames hget => exact .got hpreview hget
    next => exact .same
  next mjpeg frame hpreview =>
    split_ifs
    · exact .decoded hpreview
    · exact .undecoded hpreview
  next frame hpreview => exact .discarded hpreview
  next frame hpreview =>
    split_ifs
    · split
      next converted frames hget => exact .drew hpreview hget
      next => exact .skipped hpreview
    · exact .skipped hpreview
  next frame converted hpreview =>
    split_ifs
    · exact .filled hpreview
    · exact .unfilled hpreview
  next frame converted hpreview => exact .shown _ hpreview
  next frame hpreview =>
    unfold addCaptureFrame
    split_ifs
    · split
      next old hqueue => exact .replaced hpreview hqueue
      next hqueue => exact .added hpreview hqueue
    · exact .refused hpreview
  next hpreview =>
    split_ifs with _ hidle
    · exact .ended hpreview hidle
    · exact .same
    · exact .abandoned hpreview

/-- The moves of the capture thread at a place. -/
inductive CaptureMove (s : UVCPreview) (place : ℕ) : UVCPreview → Prop
  | same : CaptureMove s place s
  | cleared {frame : ℕ} (hcapture : s.captures[place]? = some .clearing)
      (hqueue : s.captureQueu = some frame) :
      CaptureMove s place ({ s.recycle frame with captureQueu := none }.become place .choosing)
  | clear (hcapture : s.captures[place]? = some .clearing) (hqueue : s.captureQueu = none) :
      CaptureMove s place (s.become place .choosing)
  | chose (window : Bool) (hcapture : s.captures[place]? = some .choosing) :
      CaptureMove s place (s.become place (.waiting (if window then .surface none else .idle)))
  | ended (hcapture : s.captures[place]? = some .choosing) (hrunning : s.isRunning = false) :
      CaptureMove s place (s.become place .over)
  | took {frame : ℕ} (hcapture : s.captures[place]? = some (.waiting .idle))
      (hqueue : s.captureQueu = some frame) :
      CaptureMove s place ({ s with captureQueu := none }.become place (.calling .idle frame))
  | tookForSurface {converted : Option ℕ} {frame : ℕ}
      (hcapture : s.captures[place]? = some (.waiting (.surface converted)))
      (hqueue : s.captureQueu = some frame) :
      CaptureMove s place ({ s with captureQueu := none }.become place (.copying converted frame))
  | left {loop : CaptureLoop} (hcapture : s.captures[place]? = some (.waiting loop))
      (hloop : loop = .idle ∨ loop = .surface none) : CaptureMove s place (s.become place .choosing)
  | leftSurface {converted : ℕ}
      (hcapture : s.captures[place]? = some (.waiting (.surface (some converted)))) :
      CaptureMove s place ((s.recycle converted).become place .choosing)
  | got {memory : Bool} {converted frame : ℕ} {frames : FramePool}
      (hcapture : s.captures[place]? = some (.copying none frame))
      (hget : s.frames.getFrame memory = (some converted, frames)) :
      CaptureMove s place ({ s with frames := frames }.become place (.filling converted frame))
  | ready {converted frame : ℕ}
      (hcapture : s.captures[place]? = some (.copying (some converted) frame)) :
      CaptureMove s place (s.become place (.filling converted frame))
  | skippedSurface {converted : Option ℕ} {frame : ℕ}
      (hcapture : s.captures[place]? = some (.copying converted frame)) :
      CaptureMove s place (s.become place (.calling (.surface converted) frame))
  | filled {converted frame : ℕ} (hcapture : s.captures[place]? = some (.filling converted frame)) :
      CaptureMove s place
        ((s.fill converted (s.content frame)).become place (.pasting converted frame))
  | unfilled {converted frame : ℕ}
      (hcapture : s.captures[place]? = some (.filling converted frame)) :
      CaptureMove s place (s.become place (.calling (.surface (some converted)) frame))
  | pasted (window : Bool) {converted frame : ℕ}
      (hcapture : s.captures[place]? = some (.pasting converted frame)) :
      CaptureMove s place
        ({ s with
          recorded := if window then s.recorded ++ [s.content converted] else s.recorded }.become
            place (.calling (.surface (some converted)) frame))
  | gotCallback {memory : Bool} {loop : CaptureLoop} {frame callback : ℕ} {frames : FramePool}
      (hcapture : s.captures[place]? = some (.calling loop frame))
      (hget : s.frames.getFrame memory = (some callback, frames)) :
      CaptureMove s place
        ({ s with frames := frames }.become place (.converting loop frame callback))
  | passed {loop : CaptureLoop} {frame : ℕ}
      (hcapture : s.captures[place]? = some (.calling loop frame)) :
      CaptureMove s place (s.become place (.delivering loop frame))
  | skipped {loop : CaptureLoop} {frame : ℕ}
      (hcapture : s.captures[place]? = some (.calling loop frame)) :
      CaptureMove s place (s.become place (.skipping loop frame))
  | turned {loop : CaptureLoop} {frame callback : ℕ}
      (hcapture : s.captures[place]? = some (.converting loop frame callback)) :
      CaptureMove s place
        (((s.fill callback (s.content frame)).recycle frame).become place
          (.delivering loop callback))
  | unturned {loop : CaptureLoop} {frame callback : ℕ}
      (hcapture : s.captures[place]? = some (.converting loop frame callback)) :
      CaptureMove s place ((s.recycle frame).become place (.skipping loop callback))
  | dropped {loop : CaptureLoop} {callback : ℕ}
      (hcapture : s.captures[place]? = some (.skipping loop callback)) :
      CaptureMove s place ((s.recycle callback).become place (.waiting loop))
  | delivered (wanted : Bool) {loop : CaptureLoop} {callback : ℕ}
      (hcapture : s.captures[place]? = some (.delivering loop callback)) :
      CaptureMove s place
        ({ s.recycle callback with
          delivered := if wanted then s.delivered ++ [s.content callback] else s.delivered }.become
            place (.waiting loop))

theorem captureMove (s : UVCPreview) (place : ℕ) (answers : Answers) :
    CaptureMove s place (s.captureStep place answers) := by
  unfold captureStep
  split
  next => exact .same
  next => exact .same
  next hcapture =>
    unfold clearCaptureFrame
    split
    next frame hqueue => exact .cleared hcapture hqueue
    next hqueue => exact .clear hcapture hqueue
  next hcapture =>
    by_cases hrunning : s.isRunning = true
    · rw [if_pos hrunning]
      exact .chose _ hcapture
    · rw [if_neg hrunning]
      exact .ended hcapture (Bool.eq_false_iff.mpr hrunning)
  next loop hcapture =>
    unfold waitCaptureFrame
    split_ifs
    · split
      next => exact .same
      next frame hqueue => exact .took hcapture hqueue
      next frame converted hqueue => exact .tookForSurface hcapture hqueue
    · split
      next converted => exact .leftSurface hcapture
      next => exact .left hcapture (Or.inr rfl)
      next => exact .left hcapture (Or.inl rfl)
  next converted frame hcapture =>
    split_ifs
    · split
      next converted => exact .ready hcapture
      next =>
        split
        next converted frames hget => exact .got hcapture hget
        next => exact .skippedSurface hcapture
    · exact .skippedSurface hcapture
  next converted frame hcapture =>
    split_ifs
    · exact .filled hcapture
    · exact .unfilled hcapture
  next converted frame hcapture => exact .pasted _ hcapture
  next loop frame hcapture =>
    unfold doCaptureCallback
    split_ifs
    · split
      next callback frames hget => exact .gotCallback hcapture hget
      next => exact .skipped hcapture
    · exact .passed hcapture
    · exact .skipped hcapture
  next loop frame callback hcapture =>
    split_ifs
    · exact .turned hcapture
    · exact .unturned hcapture
  next loop callback hcapture => exact .dropped hcapture
  next loop callback hcapture => exact .delivered _ hcapture

/-- The moves of the caller, the first step of a call included. -/
inductive CallerMove (s : UVCPreview) : UVCPreview → Prop
  | same : CallerMove s s
  | start (hcaller : s.caller = .free) (hrunning : s.isRunning = false) :
      CallerMove s { s with isRunning := true, caller := .starting }
  | started (hcaller : s.caller = .starting) :
      CallerMove s { s with preview := .preparing, caller := .free }
  | unstarted (hcaller : s.caller = .starting) :
      CallerMove s { s with isRunning := false, caller := .free }
  | stop (hcaller : s.caller = .free) (hrunning : s.isRunning = true) :
      CallerMove s { s with isRunning := false, caller := .stopping }
  | clears (deletes : Bool) (hcaller : s.caller = .free) (hrunning : s.isRunning = false) :
      CallerMove s { s with caller := .clearing deletes }
  | joinsCapture (hcaller : s.caller = .stopping) (hflag : s.hasCaptureThread = true) :
      CallerMove s { s with caller := .joiningCapture }
  | joinsPreview (hcaller : s.caller = .stopping) (hflag : s.hasCaptureThread = false) :
      CallerMove s { s with caller := .joiningPreview }
  | joinedCapture (hcaller : s.caller = .joiningCapture)
      (hover : s.captures.getLast?.getD .over = .over) :
      CallerMove s { s with caller := .joiningPreview }
  | joinedPreview (hcaller : s.caller = .joiningPreview)
      (hover : s.preview = .none ∨ s.preview = .over) :
      CallerMove s { s with preview := .none, caller := .clearing false }
  | cleared {deletes : Bool} {frame : ℕ} {rest : List ℕ} (hcaller : s.caller = .clearing deletes)
      (hqueue : s.previewFrames = frame :: rest) :
      CallerMove s { s.recycle frame with previewFrames := rest }
  | clear {deletes : Bool} (hcaller : s.caller = .clearing deletes)
      (hqueue : s.previewFrames = []) :
      CallerMove s { s with caller := .clearingCapture deletes }
  | clearedCapture {deletes : Bool} {frame : ℕ} (hcaller : s.caller = .clearingCapture deletes)
      (hqueue : s.captureQueu = some frame) :
      CallerMove s { s.recycle frame with
        captureQueu := none, caller := if deletes then .clearingPool else .free }
  | clearCapture {deletes : Bool} (hcaller : s.caller = .clearingCapture deletes)
      (hqueue : s.captureQueu = none) :
      CallerMove s { s with caller := if deletes then .clearingPool else .free }
  | clearedPool (hcaller : s.caller = .clearingPool) :
      CallerMove s { s with frames := s.frames.clearPool, caller := .deleted }

theorem callerMove_callerStep (s : UVCPreview) (answers : Answers) :
    CallerMove s (s.callerStep answers) := by
  unfold callerStep
  split
  next => exact .same
  next => exact .same
  next hcaller =>
    split_ifs
    · exact .started hcaller
    · exact .unstarted hcaller
  next hcaller =>
    split_ifs with hflag
    · exact .joinsCapture hcaller hflag
    · exact .joinsPreview hcaller (Bool.eq_false_iff.mpr hflag)
  next hcaller =>
    split_ifs with hover
    · exact .joinedCapture hcaller hover
    · exact .same
  next hcaller =>
    split_ifs with hover
    · exact .joinedPreview hcaller hover
    · exact .same
  next deletes hcaller =>
    unfold clearPreviewFrame
    split
    next hqueue => exact .clear hcaller hqueue
    next frame rest hqueue => exact .cleared hcaller hqueue
  next deletes hcaller =>
    unfold clearCaptureFrame
    cases hqueue : s.captureQueu with
    | some frame => exact .clearedCapture hcaller hqueue
    | none => exact .clearCapture hcaller hqueue
  next hcaller => exact .clearedPool hcaller

/-- Every step is a move of one of the threads. -/
inductive Moves (s : UVCPreview) : UVCPreview → Prop
  | stream {t : UVCPreview} (hmove : StreamMove s t) : Moves s t
  | preview {t : UVCPreview} (hmove : PreviewMove s t) : Moves s t
  | capture {place : ℕ} {t : UVCPreview} (hmove : CaptureMove s place t) : Moves s t
  | caller {t : UVCPreview} (hmove : CallerMove s t) : Moves s t

/-- The event is a step of the caller. -/
def OfCaller : PreviewEvent → Prop
  | .stream _ | .preview _ | .capture _ _ => False
  | .caller _ | .start | .stop | .delete => True

theorem callerMove (s : UVCPreview) {event : PreviewEvent} (h : OfCaller event) :
    CallerMove s (s.step event) := by
  cases event with
  | stream | preview | capture => exact h.elim
  | caller answers => exact s.callerMove_callerStep answers
  | start =>
    simp only [step]
    split_ifs with hfree
    · exact .start hfree.1 hfree.2
    · exact .same
  | stop =>
    simp only [step]
    split_ifs with hfree hrunning
    · exact .stop hfree hrunning
    · exact .clears _ hfree (Bool.eq_false_iff.mpr hrunning)
    · exact .same
  | delete =>
    simp only [step]
    split_ifs with hfree
    · exact .clears _ hfree.1 hfree.2
    · exact .same

theorem moves_step (s : UVCPreview) (event : PreviewEvent) : Moves s (s.step event) := by
  cases event with
  | stream answers => exact .stream (s.streamMove answers)
  | preview answers => exact .preview (s.previewMove answers)
  | capture place answers => exact .capture (s.captureMove place answers)
  | caller | start | stop | delete => exact .caller (s.callerMove trivial)

end UVCPreview

end UvcRtmpStream.Camera
